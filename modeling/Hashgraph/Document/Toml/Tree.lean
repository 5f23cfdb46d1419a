import Hashgraph.Document

/-! The tables of a TOML document while it is read. How a table came to be decides what may be added to it
later. -/

namespace Hashgraph.Toml

/-- A table can be implied by a longer header, have a header of its own, or come from dotted keys. -/
inductive Origin where
  | implied
  | header
  | dotted
deriving DecidableEq

inductive Node where
  | value (document : Document)
  | table (origin : Origin) (entries : List (String × Node))
  | series (tables : List Node)

namespace Node

mutual

def toDocument : Node → Document
  | .value document => document
  | .table _ entries => .table (toEntries entries)
  | .series tables => .list (toItems tables).reverse

def toEntries : List (String × Node) → List (String × Document)
  | [] => []
  | (key, node) :: rest => (key, toDocument node) :: toEntries rest

def toItems : List Node → List Document
  | [] => []
  | node :: rest => toDocument node :: toItems rest

end

def root : Node := .table .header []

def alter (key : String) (change : Option Node → Option Node) :
    List (String × Node) → Option (List (String × Node))
  | [] => (change none).map fun node => [(key, node)]
  | (other, node) :: rest =>
      if other = key then (change (some node)).map fun node => (key, node) :: rest
      else (alter key change rest).map ((other, node) :: ·)

/-- Follows the keys of a header to a table and changes it; tables on the way are implied. Of a series the
latest table is meant. -/
def followHeader (change : Node → Option Node) : List String → Node → Option Node
  | [], node => change node
  | key :: rest, .table origin entries =>
      (alter key (fun found =>
        match found with
        | none => followHeader change rest (.table .implied [])
        | some (.value _) => none
        | some (.series []) => none
        | some (.series (latest :: older)) =>
            (followHeader change rest latest).map fun latest => .series (latest :: older)
        | some node => followHeader change rest node) entries).map (.table origin)
  | _ :: _, _ => none

def followDotted (change : Node → Option Node) : List String → Node → Option Node
  | [], node => change node
  | key :: rest, .table origin entries =>
      (alter key (fun found =>
        match found with
        | none => followDotted change rest (.table .dotted [])
        | some (.table .header _) => none
        | some (.value _) => none
        | some (.series []) => none
        | some (.series (latest :: older)) =>
            (followDotted change rest latest).map fun latest => .series (latest :: older)
        | some node => followDotted change rest node) entries).map (.table origin)
  | _ :: _, _ => none

/-- Adds a new key to a table: without dots to one with a header, behind dots to one from dotted keys. -/
def addKey (isDotted : Bool) (key : String) (document : Document) : Node → Option Node
  | .table origin entries =>
      if decide (origin = .dotted) = isDotted then
        (alter key (fun found => if found.isSome then none else some (.value document)) entries).map (.table origin)
      else none
  | _ => none

def insert (path : List String) (document : Document) (node : Node) : Option Node :=
  match path.getLast? with
  | none => none
  | some key => followDotted (addKey (1 < path.length) key document) path.dropLast node

def define (key : String) : Node → Option Node
  | .table origin entries =>
      (alter key (fun found =>
        match found with
        | none => some (.table .header [])
        | some (.table .implied entries) => some (.table .header entries)
        | some _ => none) entries).map (.table origin)
  | _ => none

def extend (key : String) : Node → Option Node
  | .table origin entries =>
      (alter key (fun found =>
        match found with
        | none => some (.series [.table .header []])
        | some (.series tables) => some (.series (.table .header [] :: tables))
        | some _ => none) entries).map (.table origin)
  | _ => none

def openTable (path : List String) (node : Node) : Option Node :=
  path.getLast?.bind fun key => followHeader (define key) path.dropLast node

def openSeries (path : List String) (node : Node) : Option Node :=
  path.getLast?.bind fun key => followHeader (extend key) path.dropLast node

def insertBelow (header path : List String) (document : Document) (node : Node) : Option Node :=
  followHeader (insert path document) header node

end Node

end Hashgraph.Toml
