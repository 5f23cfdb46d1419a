import Hashgraph.Document
import Hashgraph.Document.Number
import Hashgraph.Bytes

/-! Reading typed values from documents. A convention says how strict the reading is: which documents count
as numbers, texts and variants, and how a record may be given as a list of its fields. -/

namespace Hashgraph

structure Convention where
  word? : Document → Option UInt64
  float? : Document → Option Float
  text? : Document → Option String
  variant? : List String → Document → Option String
  allowsExtraItems : Bool
  momentIsRecord : Bool

namespace Convention

def exactWord? : Document → Option UInt64
  | .int value => if 0 ≤ value ∧ value < UInt64.size then some value.toNat.toUInt64 else none
  | _ => none

def exactFloat? : Document → Option Float
  | .int value => some (floatOfDecimal (value < 0) value.natAbs 0)
  | .float value => some value
  | _ => none

def exactText? : Document → Option String
  | .text value => some value
  | _ => none

def exactVariant? (accepts : Document → Bool) (names : List String) : Document → Option String
  | .text name => if name ∈ names then some name else none
  | .table [(name, value)] => if name ∈ names && accepts value then some name else none
  | _ => none

def isNull : Document → Bool
  | .null => true
  | _ => false

def isEmptyCollection : Document → Bool
  | .table [] => true
  | .list [] => true
  | _ => false

def strict : Convention := ⟨exactWord?, exactFloat?, exactText?, exactVariant? isNull, false, false⟩

/-- For TOML, where a list may have more items than a record has fields, and a date is a record as well. -/
def strictToml : Convention :=
  ⟨exactWord?, exactFloat?, exactText?, exactVariant? isEmptyCollection, true, true⟩

/-! ### The lenient convention: scalars turn into one another -/

def truthWord? (text : String) : Option Bool :=
  match NumberText.lowerAscii text with
  | "true" | "on" | "yes" => some true
  | "false" | "off" | "no" => some false
  | _ => none

def looseWord? : Document → Option UInt64
  | .int value => exactWord? (.int value)
  | .float value => some value.round.toUInt64
  | .bool value => some (if value then 1 else 0)
  | .text value =>
      match truthWord? value with
      | some truth => some (if truth then 1 else 0)
      | none => NumberText.word64? value
  | _ => none

def looseFloat? : Document → Option Float
  | .bool value => some (if value then 1.0 else 0.0)
  | .text value =>
      match truthWord? value with
      | some truth => some (if truth then 1.0 else 0.0)
      | none => NumberText.float? value
  | document => exactFloat? document

def looseText? : Document → Option String
  | .text value => some value
  | .moment value => some value
  | .bool value => some (if value then "true" else "false")
  | .int value => some ((if value < 0 then "-" else "") ++ digitText value.natAbs)
  | .float value => some (FloatStyle.plain.write value)
  | _ => none

def looseVariant? (names : List String) : Document → Option String
  | .moment name => exactVariant? (fun _ => true) names (.text name)
  | document => exactVariant? (fun _ => true) names document

def lenient : Convention := ⟨looseWord?, looseFloat?, looseText?, looseVariant?, true, false⟩

/-! ### Records -/

def itemOf? : List String → List Document → String → Option Document
  | name :: names, item :: items, wanted => if name = wanted then some item else itemOf? names items wanted
  | _, _, _ => none

/-- The fields of a record, which is a table or a list in the order of the names. Unknown keys of a table
do not matter. -/
def record? (convention : Convention) (names : List String) : Document → Option (String → Option Document)
  | .table entries => some (Document.entry? entries)
  | .list items =>
      if items.length ≤ names.length || convention.allowsExtraItems then some (itemOf? names items) else none
  | .moment _ => if convention.momentIsRecord then some fun _ => none else none
  | _ => none

def fieldOr? {α : Type} (fields : String → Option Document) (name : String) (absent : α)
    (read : Document → Option α) : Option α :=
  match fields name with
  | none => some absent
  | some document => read document

def byte? : Document → Option UInt8
  | .int value => if 0 ≤ value ∧ value < 256 then some value.toNat.toUInt8 else none
  | _ => none

def bytes? : Document → Option Bytes
  | .list items => items.mapM byte?
  | _ => none

end Convention

end Hashgraph
