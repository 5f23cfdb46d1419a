import Hashgraph.Document.Json
import Hashgraph.Document.Yaml.Token

/-! Nodes of YAML, what plain scalars mean, and what becomes of nodes in a document. -/

namespace Hashgraph.Yaml

/-- A double is kept as it is written. An `unfit` node does not fit its tag, or refers to itself. -/
inductive Node where
  | null
  | unfit
  | bool (value : Bool)
  | int (value : Int)
  | double (text : String)
  | text (value : String)
  | list (items : List Node)
  | table (entries : List (Node × Node))

/-! ### Scalars -/

def basedValue? (base : Nat) (digits : List Char) : Option Nat :=
  if digits.isEmpty then none
  else
    digits.foldl (fun value digit =>
      match value, (Json.hexValue? digit).filter (· < base) with
      | some value, some digit => some (value * base + digit)
      | _, _ => none) (some 0)

def based? (base : Nat) (text : List Char) : Option Int :=
  let (negative, digits) := NumberText.splitSign text
  (basedValue? base digits).bind fun value =>
    if negative then if value ≤ Nat.pow 2 63 then some (-(value : Int)) else none
    else if value < Nat.pow 2 63 then some value
    else none

def doubleNames : List String :=
  [".inf", ".Inf", ".INF", "+.inf", "+.Inf", "+.INF", "-.inf", "-.Inf", "-.INF", ".nan", "NaN", ".NAN"]

def isDouble (word : String) : Bool := word ∈ doubleNames || (NumberText.float? word).isSome

def whole? (text : List Char) : Option Int :=
  match text with
  | '0' :: 'x' :: digits => based? 16 digits
  | '0' :: 'o' :: digits => based? 8 digits
  | '+' :: digits => (NumberText.int64? (String.ofList digits)).or (NumberText.int64? (String.ofList text))
  | _ => NumberText.int64? (String.ofList text)

def Node.ofPlain (word : String) : Node :=
  match whole? word.toList with
  | some value => .int value
  | none =>
      if word = "~" || word = "null" then .null
      else if word = "true" then .bool true
      else if word = "false" then .bool false
      else if isDouble word then .double word
      else .text word

def Node.ofTagged (suffix word : String) : Node :=
  match suffix with
  | "bool" => if word = "true" then .bool true else if word = "false" then .bool false else .unfit
  | "int" => ((NumberText.int64? word).map Node.int).getD .unfit
  | "float" => if isDouble word then .double word else .unfit
  | "null" => if word = "~" || word = "null" then .null else .unfit
  | _ => .text word

def Node.ofScalar (isPlain : Bool) (word : String) (tag : Option Tag) : Node :=
  match isPlain, tag with
  | false, _ => .text word
  | true, none => .ofPlain word
  | true, some tag => if tag.handle = "!!" then .ofTagged tag.suffix word else .text word

/-! ### Documents -/

/-- Keys and values in turn. An unfit node is no key, so that the one behind it takes its place. -/
def Node.pairs : List Node → List (Node × Node)
  | [] => []
  | .unfit :: rest => pairs rest
  | [_] => []
  | key :: value :: rest => (key, value) :: pairs rest

mutual

/-- The names of infinities and of what is no number are refused, and so is a document that holds one. Keys
that are no texts do not count. -/
def Node.document? : Node → Option Document
  | .null => some .null
  | .unfit => some .null
  | .bool value => some (.bool value)
  | .int value => some (.int value)
  | .double word => (NumberText.float? word).map Document.float
  | .text value => some (.text value)
  | .list items => (documents? items).map Document.list
  | .table entries => (documentEntries? entries).map Document.table

def Node.documents? : List Node → Option (List Document)
  | [] => some []
  | node :: rest =>
      match document? node, documents? rest with
      | some document, some documents => some (document :: documents)
      | _, _ => none

def Node.documentEntries? : List (Node × Node) → Option (List (String × Document))
  | [] => some []
  | (.text key, node) :: rest =>
      let isReplaced := rest.any fun entry =>
        match entry.1 with
        | .text other => other = key
        | _ => false
      if isReplaced then documentEntries? rest
      else
        match document? node, documentEntries? rest with
        | some document, some entries => some ((key, document) :: entries)
        | _, _ => none
  | _ :: rest => documentEntries? rest

end

end Hashgraph.Yaml
