import Hashgraph.Document.Toml.Quoted

/-! Keys of TOML: bare words and strings of one line, with dots between them. -/

namespace Hashgraph.Toml

def isBare (c : Char) : Bool := c.isAlphanum || c = '-' || c = '_'

def readSimpleKey (text : List Char) : Option (String × List Char) :=
  match text with
  | '"' :: rest => readBasic (rest.length + 1) [] rest
  | '\'' :: rest => readLiteral [] rest
  | text =>
      let name := text.takeWhile isBare
      if name.isEmpty then none else some (String.ofList name, text.dropWhile isBare)

def readNames : Nat → List Char → Option (List String × List Char)
  | 0, _ => none
  | fuel + 1, text =>
      match readSimpleKey (skipSpaces text) with
      | none => none
      | some (name, rest) =>
          match skipSpaces rest with
          | '.' :: rest => (readNames fuel rest).map fun (names, rest) => (name :: names, rest)
          | rest => some ([name], rest)

end Hashgraph.Toml
