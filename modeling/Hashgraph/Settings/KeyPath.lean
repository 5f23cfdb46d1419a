import Hashgraph.Document.Json
import Hashgraph.Document.Number

/-! Where a setting stands in a document: names with dots between them, and items of lists in square brackets.
Putting a value there makes what is missing on the way. -/

namespace Hashgraph

namespace Document

def entriesOf : Document → List (String × Document)
  | .table entries => entries
  | _ => []

def itemsOf : Document → List Document
  | .list items => items
  | _ => []

mutual

/-- Puts a value under a key. A table is merged into what is there; anything that is no table makes way. -/
def put (root : Document) (key : String) : Document → Document
  | .table incoming =>
      let entries := root.entriesOf
      let existing := (Document.entry? entries key).getD (.table [])
      .table (Json.putEntry key (putAll existing incoming) entries)
  | value => .table (Json.putEntry key value root.entriesOf)

def putAll (root : Document) : List (String × Document) → Document
  | [] => root
  | (key, value) :: rest => putAll (put root key value) rest

end

end Document

inductive KeyPath where
  | name (key : String)
  | child (parent : KeyPath) (key : String)
  | item (parent : KeyPath) (position : Int)
deriving DecidableEq

namespace KeyPath

/-! ### Reading -/

def isNameChar (c : Char) : Bool := c.isAlphanum || c = '_' || c = '-' || c = ' '

def isGap (c : Char) : Bool := c = ' ' || c = '\t'

def readPosition (text : List Char) : Option (Int × List Char) :=
  let text := text.dropWhile isGap
  let (sign, text) : List Char × List Char :=
    match text with
    | '-' :: rest => (['-'], rest)
    | rest => ([], rest)
  let digits := text.takeWhile NumberText.isDigit
  match NumberText.int64? (String.ofList (sign ++ digits)), (text.drop digits.length).dropWhile isGap with
  | some position, ']' :: rest => some (position, rest)
  | _, _ => none

def readSteps : Nat → KeyPath → List Char → Option KeyPath
  | _, path, [] => some path
  | 0, _, _ => none
  | fuel + 1, path, '.' :: rest =>
      let key := rest.takeWhile isNameChar
      if key.isEmpty then none
      else readSteps fuel (.child path (String.ofList key)) (rest.drop key.length)
  | fuel + 1, path, '[' :: rest =>
      match readPosition rest with
      | some (position, rest) => readSteps fuel (.item path position) rest
      | none => none
  | _, _, _ => none

def ofText (text : String) : KeyPath :=
  let chars := text.toList
  let key := chars.takeWhile isNameChar
  let path := if key.isEmpty then none else readSteps chars.length (.name (String.ofList key)) (chars.drop key.length)
  path.getD (.name text)

/-! ### Changing what a path leads to -/

def maxPosition : Nat := Nat.pow 2 32

/-- The place of an item among `size` ones, which may lie behind the last but not before the first. -/
def place? (position : Int) (size : Nat) : Option Nat :=
  if 0 ≤ position then if position < maxPosition then some position.toNat else none
  else if position.natAbs ≤ size then some (size - position.natAbs)
  else none

def alterKey (change : Document → Option Document) (key : String) (root : Document) : Option Document :=
  let entries := root.entriesOf
  (change ((Document.entry? entries key).getD .null)).map fun value => .table (Json.putEntry key value entries)

def alterItem (change : Document → Option Document) (position : Int) (root : Document) : Option Document :=
  let items := root.itemsOf
  (place? position items.length).bind fun place =>
    let items := items ++ List.replicate (place + 1 - items.length) .null
    (change (items.getD place .null)).map fun value => .list (items.set place value)

def alter (change : Document → Option Document) : KeyPath → Document → Option Document
  | .name key, root => alterKey change key root
  | .child parent key, root => alter (alterKey change key) parent root
  | .item parent position, root => alter (alterItem change position) parent root

/-- Puts a value where a path leads. There is none if a position lies before the first item of a list. -/
def put (value : Document) : KeyPath → Document → Option Document
  | .name key, root => some (root.put key value)
  | .child parent key, root => alter (fun table => some (table.put key value)) parent root
  | .item parent position, root => alter (alterItem (fun _ => some value) position) parent root

end KeyPath

end Hashgraph
