import Hashgraph.Document.Toml05.Section

/-! Reading TOML documents, version 0.5. -/

namespace Hashgraph.Toml05

open Toml (skipSpaces readNames readString?)

/-- A line break is a line feed, before which a carriage return does not count. Any other carriage return is a
control character like the null character, whose place it takes. -/
def unifyLines : List Char → List Char
  | '\x0d' :: '\n' :: rest => '\n' :: unifyLines rest
  | '\x0d' :: rest => '\x00' :: unifyLines rest
  | c :: rest => c :: unifyLines rest
  | [] => []

def isCommentChar (c : Char) : Bool := c = '\t' || ' ' ≤ c

def skipComment (text : List Char) : List Char :=
  match text with
  | '#' :: rest => rest.dropWhile isCommentChar
  | text => text

def behindHeader? (text : List Char) : Option (List Char) :=
  match skipSpaces text with
  | [] => some []
  | '\n' :: rest => some rest
  | '#' :: rest => some ((rest.dropWhile (· ≠ '\n')).drop 1)
  | _ => none

def endLine? (text : List Char) : Option (List Char) :=
  match skipComment (skipSpaces text) with
  | [] => some []
  | '\n' :: rest => some rest
  | _ => none

/-- Blanks, comments and line ends between the items of an array. A comment needs an end of its line. -/
def skipFiller : Nat → List Char → List Char
  | 0, text => text
  | fuel + 1, text =>
      match skipComment (skipSpaces text) with
      | '\n' :: rest => skipFiller fuel rest
      | text => text

def readScalar (text : List Char) : Option (Item × List Char) :=
  match text with
  | '+' :: rest =>
      (readWord rest).bind fun (first, rest) => (number? first rest).map fun (value, rest) => (.value value, rest)
  | text =>
      (readWord text).bind fun (first, rest) =>
        match String.ofList first with
        | "true" => some (.value (.bool true), rest)
        | "false" => some (.value (.bool false), rest)
        | name =>
            if !(name = "inf" || name = "nan" || first.head?.any fun c => c = '-' || NumberText.isDigit c) then none
            else if beginsDate first then moment first false rest
            else
              match rest with
              | ':' :: rest => moment (first ++ [':']) true rest
              | rest => (number? first rest).map fun (value, rest) => (.value value, rest)
where
  moment (front : List Char) (hasColon : Bool) (rest : List Char) : Option (Item × List Char) :=
    (momentExtent? front hasColon rest).map fun extent => (.moment extent, rest.drop (extent.length - front.length))

mutual

def readValue : Nat → List Char → Option (Item × List Char)
  | 0, _ => none
  | fuel + 1, text =>
      match text with
      | '"' :: _ => (readString? text).map fun (value, rest) => (.value (.text value), rest)
      | '\'' :: _ => (readString? text).map fun (value, rest) => (.value (.text value), rest)
      | '[' :: rest => readItems fuel [] rest
      | '\x7b' :: rest =>
          match skipSpaces rest with
          | '\x7d' :: rest => some (.table false [], rest)
          | rest => readInline fuel [] rest
      | text => readScalar text

def readItems : Nat → List Item → List Char → Option (Item × List Char)
  | 0, _, _ => none
  | fuel + 1, items, text =>
      match skipFiller (text.length + 1) text with
      | ']' :: rest => some (.list items.reverse, rest)
      | text =>
          match readValue fuel text with
          | none => none
          | some (item, rest) =>
              match skipFiller (rest.length + 1) rest with
              | ',' :: rest => readItems fuel (item :: items) rest
              | ']' :: rest => some (.list (item :: items).reverse, rest)
              | _ => none

def readInline : Nat → Entries → List Char → Option (Item × List Char)
  | 0, _, _ => none
  | fuel + 1, entries, text =>
      match readNames (text.length + 1) text with
      | some (path, '=' :: rest) =>
          match readValue fuel (skipSpaces rest) with
          | none => none
          | some (item, rest) =>
              match Item.insert item path entries, skipSpaces rest with
              | some entries, ',' :: rest => readInline fuel entries rest
              | some entries, '\x7d' :: rest => some (.table false entries, rest)
              | _, _ => none
      | _ => none

end

def readHeader (text : List Char) : Option (Section × List Char) :=
  match text with
  | '[' :: rest =>
      match readNames (rest.length + 1) rest with
      | some (path, ']' :: ']' :: rest) => some (⟨path, true, []⟩, rest)
      | _ => none
  | text =>
      match readNames (text.length + 1) text with
      | some (path, ']' :: rest) => some (⟨path, false, []⟩, rest)
      | _ => none

def readPair (entries : Entries) (text : List Char) : Option (Entries × List Char) :=
  match readNames (text.length + 1) text with
  | some (path, '=' :: rest) =>
      match readValue (2 * rest.length + 2) (skipSpaces rest) with
      | some (item, rest) => (Item.insert item path entries).map fun entries => (entries, rest)
      | none => none
  | _ => none

def readSections : Nat → List Section → List Char → Option (List Section)
  | 0, _, _ => none
  | fuel + 1, sections, text =>
      match skipSpaces text with
      | [] => some sections
      | '[' :: rest =>
          match readHeader rest with
          | some (part, rest) => (behindHeader? rest).bind (readSections fuel (part :: sections))
          | none => none
      | text =>
          match endLine? text, sections with
          | some rest, _ => readSections fuel sections rest
          | none, [] => addPair fuel ⟨[], false, []⟩ [] text
          | none, part :: before => addPair fuel part before text
where
  addPair (fuel : Nat) (part : Section) (before : List Section) (text : List Char) : Option (List Section) :=
    match readPair part.entries text with
    | some (entries, rest) => (endLine? rest).bind (readSections fuel ({ part with entries := entries } :: before))
    | none => none

def read? (text : String) : Option Document :=
  let chars :=
    match text.toList with
    | '\ufeff' :: rest => unifyLines rest
    | rest => unifyLines rest
  (readSections (chars.length + 1) [] chars).bind fun sections => Section.toDocument? sections.reverse

end Hashgraph.Toml05
