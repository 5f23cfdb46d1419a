import Hashgraph.Document.Decode
import Hashgraph.Scenario.Fault

/-! Typed fields of the documents that make up a scenario. A field that holds nothing counts as absent, and
a fault names the field. -/

namespace Hashgraph.Document

def given? (record : Document) (field : String) : Option Document :=
  match record.field? field with
  | some .null => none
  | other => other

def need {α : Type} (record : Document) (field : String) (read : Document → Option α) : Except Fault α :=
  Fault.check (.badField field) ((record.given? field).bind read)

def may {α : Type} (record : Document) (field : String) (read : Document → Option α) : Except Fault (Option α) :=
  match record.given? field with
  | none => .ok none
  | some document => (Fault.check (.badField field) (read document)).map some

def either {α : Type} (record : Document) (field : String) (absent : α) (read : Document → Option α) :
    Except Fault α :=
  (record.may field read).map fun value => value.getD absent

/-! ### Values -/

def word? : Document → Option UInt64 := Convention.exactWord?

def int64? : Document → Option Int
  | .int value => if -(Nat.pow 2 63) ≤ value ∧ value < Nat.pow 2 63 then some value else none
  | _ => none

def text? : Document → Option String := Convention.exactText?

def truth? : Document → Option Bool
  | .bool value => some value
  | _ => none

def list? : Document → Option (List Document)
  | .list items => some items
  | _ => none

def listOf? {α : Type} (read : Document → Option α) (document : Document) : Option (List α) :=
  document.list?.bind (List.mapM read)

def pair? : Document → Option (UInt64 × UInt64)
  | .list [a, b] => return (← a.word?, ← b.word?)
  | _ => none

def double? : Document → Option Float
  | .text "nan" => some (0.0 / 0.0)
  | .text "inf" => some (1.0 / 0.0)
  | .text "-inf" => some (-1.0 / 0.0)
  | .text "-0" => some (-0.0)
  | document => Convention.exactFloat? document

def hex? (document : Document) : Option Bytes := document.text?.bind Bytes.ofHex?

def countedBytes? : Document → Option Bytes
  | .int count =>
      if 0 ≤ count ∧ count ≤ 100000 then some ((List.range count.toNat).map fun n => (n % 251).toUInt8) else none
  | _ => none

def hash? (document : Document) : Option EventHash := document.hex?.bind EventHash.ofBytes?

def seed? (document : Document) : Option Bytes := document.hex?.filter fun bytes => bytes.length = 32

def instant? : Document → Option Instant
  | .list [.int seconds, .int nanos] => if 0 ≤ nanos then Instant.ofParts? seconds nanos.toNat else none
  | _ => none

def mode? : Document → Option AncientMode
  | .text "birth_round" => some .birthRoundThreshold
  | .text "generation" => some .generationThreshold
  | _ => none

/-! ### Fields -/

def wordAt (record : Document) (field : String) : Except Fault UInt64 := record.need field word?

def natAt (record : Document) (field : String) : Except Fault Nat := (record.wordAt field).map UInt64.toNat

def nodeAt (record : Document) (field : String) : Except Fault NodeId := (record.wordAt field).map NodeId.mk

def intAt (record : Document) (field : String) : Except Fault Int := record.need field int64?

def textAt (record : Document) (field : String) : Except Fault String := record.need field text?

def hexAt (record : Document) (field : String) : Except Fault Bytes := record.need field hex?

def itemsAt (record : Document) (field : String) : Except Fault (List Document) := record.either field [] list?

def wordsAt (record : Document) (field : String) : Except Fault (List UInt64) :=
  record.either field [] (listOf? word?)

def spanAt (record : Document) (field : String) : Except Fault Span := (record.wordAt field).map Span.ofMillis

def modeOr (record : Document) (absent : AncientMode) : Except Fault AncientMode := record.either "mode" absent mode?

def modeAt (record : Document) : Except Fault AncientMode := record.modeOr .birthRoundThreshold

def timeAt (record : Document) (field : String) : Except Fault Instant :=
  match record.given? field with
  | none => .ok .epoch
  | some document => Fault.check (.badField "time") document.instant?

end Hashgraph.Document
