import Hashgraph.Document.Toml05.Scalar

/-! Sections of a TOML 0.5 document, and the tables that they make up.

A table collects the sections whose headers begin with its path, in the order of the text. What a section holds
is looked at when it is collected: only then a repeated key or an impossible date is found. -/

namespace Hashgraph.Toml05

inductive Item where
  | value (document : Document)
  | moment (text : List Char)
  | list (items : List Item)
  | table (isOpen : Bool) (entries : List (String × Item))

abbrev Entries := List (String × Item)

namespace Item

mutual

def document? : Item → Option Document
  | .value document => some document
  | .moment text => (moment? text).map fun text => .moment (String.ofList text)
  | .list items => (documents? items).map .list
  | .table _ entries => (addEntries? [] entries).map .table

def documents? : List Item → Option (List Document)
  | [] => some []
  | item :: rest =>
      match document? item, documents? rest with
      | some document, some documents => some (document :: documents)
      | _, _ => none

def addEntries? (known : List (String × Document)) : Entries → Option (List (String × Document))
  | [] => some known
  | (key, item) :: rest =>
      if (Document.entry? known key).isSome then none
      else
        match document? item with
        | some document => addEntries? (known ++ [(key, document)]) rest
        | none => none

end

def alter (key : String) (change : Option Item → Option Item) : Entries → Option Entries
  | [] => (change none).map fun item => [(key, item)]
  | (other, item) :: rest =>
      if other = key then (change (some item)).map fun item => (key, item) :: rest
      else (alter key change rest).map ((other, item) :: ·)

def insert (item : Item) : List String → Entries → Option Entries
  | [], entries => some entries
  | [key], entries => some (entries ++ [(key, item)])
  | key :: path, entries =>
      alter key (fun found =>
        match found with
        | none => (insert item path []).map (.table true)
        | some (.table true inner) => (insert item path inner).map (.table true)
        | some _ => none) entries

end Item

/-- A header with one pair of brackets names a table, one with two pairs the next item of a series of tables. -/
structure Section where
  header : List String
  isSeries : Bool
  entries : Entries

namespace Section

/-- A table on the way to being collected. Its path is the first part of `origin`'s header, its sections lie
before `last`, and those before `next` have been looked at. -/
structure Site where
  depth : Nat
  origin : Nat
  next : Nat
  last : Nat

def headerAt (sections : Array Section) (index : Nat) : List String :=
  ((sections[index]?).map Section.header).getD []

def nextFor? (sections : Array Section) (taken : List Nat) (site : Site) : Option Nat :=
  let path := (headerAt sections site.origin).take site.depth
  (List.range site.last).find? fun index =>
    site.next ≤ index && !taken.contains index && path.isPrefixOf (headerAt sections index)

def nextOfSeries (sections : Array Section) (origin last : Nat) : Nat :=
  let isNext (index : Nat) : Bool :=
    origin < index && (sections[index]?).any fun other =>
      other.isSeries && other.header = headerAt sections origin
  ((List.range last).find? isNext).getD last

mutual

def collect (sections : Array Section) :
    Nat → List Nat → Site → List (String × Document) → Option (Document × List Nat)
  | 0, _, _, _ => none
  | fuel + 1, taken, site, known =>
      match nextFor? sections taken site with
      | none => some (.table known, taken)
      | some index =>
          match sections[index]? with
          | none => none
          | some found =>
              let own := headerAt sections site.origin
              if index ≠ site.origin && found.header = own then none
              else
                let origin := if index ≠ site.origin && found.header.length < own.length then index else site.origin
                match found.header.drop site.depth with
                | [] =>
                    if found.isSeries then none
                    else
                      (Item.addEntries? known found.entries).bind fun known =>
                        collect sections fuel (index :: taken) ⟨site.depth, origin, index, site.last⟩ known
                | key :: path =>
                    if (Document.entry? known key).isSome then none
                    else
                      let inner :=
                        if found.isSeries && path.isEmpty then
                          collectSeries sections fuel taken (site.depth + 1) index site.last []
                        else collect sections fuel taken ⟨site.depth + 1, index, 0, site.last⟩ []
                      match inner with
                      | some (value, taken) =>
                          collect sections fuel taken ⟨site.depth, origin, index + 1, site.last⟩
                            (known ++ [(key, value)])
                      | none => none

def collectSeries (sections : Array Section) :
    Nat → List Nat → Nat → Nat → Nat → List Document → Option (Document × List Nat)
  | 0, _, _, _, _, _ => none
  | fuel + 1, taken, depth, origin, last, tables =>
      if origin = last then some (.list tables.reverse, taken)
      else if taken.contains origin then none
      else
        let next := nextOfSeries sections origin last
        let entries := ((sections[origin]?).map Section.entries).getD []
        match (Item.addEntries? [] entries).bind
            (collect sections fuel (origin :: taken) ⟨depth, origin, 0, next⟩) with
        | some (table, taken) => collectSeries sections fuel taken depth next last (table :: tables)
        | none => none

end

/-- The whole document. Sections and the parts of their headers bound the steps that are needed. -/
def toDocument? (sections : List Section) : Option Document :=
  let steps := sections.foldl (fun steps part => steps + part.header.length + 2) 2
  (collect sections.toArray (steps * steps) [] ⟨0, 0, 0, sections.length⟩ []).map Prod.fst

end Section

end Hashgraph.Toml05
