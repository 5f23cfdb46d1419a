import Hashgraph.Document.Ini
import Hashgraph.Document.Json
import Hashgraph.Document.Json5
import Hashgraph.Document.Ron
import Hashgraph.Document.Toml.Reader
import Hashgraph.Document.Toml05.Reader
import Hashgraph.Document.Yaml.Reader
import Hashgraph.Settings.KeyPath
import Hashgraph.Settings.Node

/-! Settings from a file and from environment variables. Deeper levels are merged, and what comes later wins. -/

namespace Hashgraph.Settings

def addEntries (entries : List (String × Document)) (root : Document) : Option Document :=
  entries.foldlM (fun root (key, value) => (KeyPath.ofText key).put value root) root

inductive FileFormat where
  | toml
  | json
  | yaml
  | ini
  | ron
  | json5
deriving DecidableEq

def FileFormat.ofExtension? : String → Option FileFormat
  | "toml" => some .toml
  | "json" => some .json
  | "yaml" => some .yaml
  | "yml" => some .yaml
  | "ini" => some .ini
  | "ron" => some .ron
  | "json5" => some .json5
  | _ => none

/-- What stands behind the last point of a file's name; a point in front of the name does not count. -/
def extension? (path : String) : Option String :=
  match ((path.splitOn "/").getLast?.getD "").splitOn "." with
  | [] | [_] | ["", _] => none
  | parts => parts.getLast?

def FileFormat.ofPath? (path : String) : Option FileFormat := (extension? path).bind ofExtension?

mutual

def signed : Document → Document
  | .int value => if value < Nat.pow 2 63 then .int value else .float (floatOfDecimal false value.natAbs 0)
  | .list items => .list (signedItems items)
  | .table entries => .table (signedEntries entries)
  | document => document

def signedItems : List Document → List Document
  | [] => []
  | item :: rest => signed item :: signedItems rest

def signedEntries : List (String × Document) → List (String × Document)
  | [] => []
  | (key, value) :: rest => (key, signed value) :: signedEntries rest

end

def FileFormat.read? (text : String) : FileFormat → Option Document
  | .toml => Toml05.read? text
  | .json => (Json.read? text).map signed
  | .yaml => Yaml.read? text
  | .ini => Ini.read? text
  | .ron => Ron.read? text
  | .json5 => Json5.read? text

def FileFormat.mustBeTable (format : FileFormat) : Bool := format = .json5

structure File where
  format : FileFormat
  content : String

def File.entries? (file : File) : Option (List (String × Document)) :=
  let content :=
    match file.content.toList with
    | '\ufeff' :: rest => String.ofList rest
    | _ => file.content
  match file.format.read? content with
  | some (.table entries) => some entries
  | some _ => if file.format.mustBeTable then none else some []
  | none => none

def variableMark : String := "tipset__"

def variableKey? (name : String) : Option String :=
  let name := (NumberText.lowerAscii name).toList
  let mark := variableMark.toList
  if mark.isPrefixOf name then
    some (".".intercalate ((String.ofList (name.drop mark.length)).splitOn "__"))
  else none

/-- The value of an environment variable is a truth value, a whole number or a double if it reads as one. -/
def variableValue (text : String) : Document :=
  if NumberText.lowerAscii text = "true" then .bool true
  else if NumberText.lowerAscii text = "false" then .bool false
  else
    match NumberText.int64? text, NumberText.float? text with
    | some value, _ => .int value
    | none, some value => .float value
    | none, none => .text text

def variableEntries (environment : List (String × String)) : List (String × Document) :=
  environment.filterMap fun (name, value) => (variableKey? name).map fun key => (key, variableValue value)

inductive LoadError where
  | unreadable
  | invalid
  | misplaced
deriving DecidableEq

def LoadError.message : LoadError → String
  | .unreadable => "Failed to read configuration"
  | .invalid => "Invalid configuration"
  | .misplaced => ""

def load (file : Option File) (environment : List (String × String)) : Except LoadError NodeSettings :=
  match (file.map File.entries?).getD (some []) with
  | none => .error .unreadable
  | some entries =>
      match (addEntries entries (.table [])).bind (addEntries (variableEntries environment)) with
      | none => .error .misplaced
      | some document =>
          match Convention.lenient.nodeSettings? document with
          | some settings => .ok settings
          | none => .error .invalid

def ofToml? (text : String) : Option NodeSettings :=
  (Toml.read? text).bind Convention.strictToml.nodeSettings?

end Hashgraph.Settings
