import Hashgraph.Decimal.Text

/-! Documents: the values that data formats such as JSON and TOML can hold. -/

namespace Hashgraph

inductive Document where
  | null
  | bool (value : Bool)
  | int (value : Int)
  | float (value : Float)
  | text (value : String)
  | moment (text : String)
  | list (items : List Document)
  | table (entries : List (String × Document))

namespace Document

def nat (value : Nat) : Document := .int value

def word (value : UInt64) : Document := .int value.toNat

def ofOption {α : Type} (encode : α → Document) : Option α → Document
  | none => .null
  | some value => encode value

def entry? (entries : List (String × Document)) (key : String) : Option Document :=
  (entries.find? fun entry => entry.1 = key).map Prod.snd

/-- The value of a key of a table, where a missing key, and any key of another document, has none. -/
def field? (document : Document) (key : String) : Option Document :=
  match document with
  | .table entries => entry? entries key
  | _ => none

end Document

end Hashgraph
