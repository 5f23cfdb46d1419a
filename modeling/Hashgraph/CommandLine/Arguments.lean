import Hashgraph.Document.Number

/-! Reading command line arguments: options with one or two hyphens, with or without a value, around the
name of a command. -/

namespace Hashgraph.CommandLine

inductive ValueKind where
  | flag
  | word
  | path
  | choice (names : List String)
deriving DecidableEq

structure OptionSpec where
  long : String
  short : Option Char
  kind : ValueKind

structure Given where
  long : String
  value : String

inductive Stop where
  | usage
  | help
  | version
deriving DecidableEq

def ValueKind.accepts (kind : ValueKind) (value : String) : Bool :=
  match kind with
  | .flag => value.isEmpty
  | .word => (NumberText.word64? value).isSome
  | .path => !value.isEmpty
  | .choice names => names.contains value

def value? (given : List Given) (long : String) : Option String :=
  (given.find? fun option => option.long = long).map Given.value

def give (spec : OptionSpec) (value : String) (given : List Given) : Except Stop (List Given) :=
  if (value? given spec.long).isSome || !spec.kind.accepts value then .error .usage
  else .ok (⟨spec.long, value⟩ :: given)

def isValueText (text : String) : Bool :=
  match text.toList with
  | '-' :: _ :: _ => false
  | _ => true

def giveNext (spec : OptionSpec) (given : List Given) : List String → Except Stop (List Given × List String)
  | [] => .error .usage
  | next :: rest =>
      if isValueText next then (give spec next given).map fun given => (given, rest) else .error .usage

def splitEquals (text : List Char) : List Char × Option (List Char) :=
  match text.dropWhile fun c => c ≠ '=' with
  | [] => (text, none)
  | _ :: value => (text.takeWhile fun c => c ≠ '=', some value)

def readLong (specs : List OptionSpec) (hasVersion : Bool) (text : List Char) (given : List Given)
    (rest : List String) : Except Stop (List Given × List String) :=
  let (name, value) := splitEquals text
  let name := String.ofList name
  match specs.find? fun spec => spec.long = name with
  | some spec =>
      match spec.kind, value with
      | .flag, none => (give spec "" given).map fun given => (given, rest)
      | .flag, some _ => .error .usage
      | _, some value => (give spec (String.ofList value) given).map fun given => (given, rest)
      | _, none => giveNext spec given rest
  | none =>
      if name = "help" && value.isNone then .error .help
      else if hasVersion && name = "version" && value.isNone then .error .version
      else .error .usage

def readShort (specs : List OptionSpec) (hasVersion : Bool) :
    List Char → List Given → List String → Except Stop (List Given × List String)
  | [], given, rest => .ok (given, rest)
  | letter :: letters, given, rest =>
      match specs.find? fun spec => spec.short = some letter with
      | some spec =>
          match spec.kind, letters with
          | .flag, letters => (give spec "" given).bind fun given => readShort specs hasVersion letters given rest
          | _, [] => giveNext spec given rest
          | _, '=' :: value => (give spec (String.ofList value) given).map fun given => (given, rest)
          | _, value => (give spec (String.ofList value) given).map fun given => (given, rest)
      | none =>
          if letter = 'h' then .error .help
          else if hasVersion && letter = 'V' then .error .version
          else .error .usage

/-- Options up to the first argument that is none; the result holds that argument and those behind it. -/
def readOptions (specs : List OptionSpec) (hasVersion : Bool) :
    Nat → List Given → List String → Except Stop (List Given × List String)
  | 0, _, _ => .error .usage
  | _ + 1, given, [] => .ok (given, [])
  | fuel + 1, given, argument :: rest =>
      match argument.toList with
      | ['-', '-'] => if rest.isEmpty then .ok (given, []) else .error .usage
      | '-' :: '-' :: text =>
          (readLong specs hasVersion text given rest).bind fun (given, rest) =>
            readOptions specs hasVersion fuel given rest
      | '-' :: letter :: letters =>
          (readShort specs hasVersion (letter :: letters) given rest).bind fun (given, rest) =>
            readOptions specs hasVersion fuel given rest
      | _ => .ok (given, argument :: rest)

end Hashgraph.CommandLine
