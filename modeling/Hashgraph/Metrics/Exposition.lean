import Hashgraph.Decimal.Text

/-! Metric families and their text form: sorted by name, each with a help line, a type line and one line a
sample. -/

namespace Hashgraph

inductive MetricKind where
  | counter
  | gauge
deriving DecidableEq

def MetricKind.name : MetricKind → String
  | .counter => "counter"
  | .gauge => "gauge"

structure MetricSample where
  label : Option (String × String)
  value : Float

structure MetricFamily where
  name : String
  help : String
  kind : MetricKind
  samples : List MetricSample

namespace MetricFamily

def single (kind : MetricKind) (name help : String) (value : Float) : MetricFamily :=
  ⟨name, help, kind, [⟨none, value⟩]⟩

def labelled (name help label : String) (samples : List (String × Float)) : MetricFamily :=
  ⟨name, help, .counter, samples.map fun (value, count) => ⟨some (label, value), count⟩⟩

def sampleText (name : String) (sample : MetricSample) : String :=
  let labels :=
    match sample.label with
    | none => ""
    | some (label, value) => "\x7b" ++ label ++ "=\"" ++ value ++ "\"\x7d"
  name ++ labels ++ " " ++ FloatStyle.plain.write sample.value ++ "\n"

def labelValue (sample : MetricSample) : String :=
  match sample.label with
  | none => ""
  | some (_, value) => value

def text (family : MetricFamily) : String :=
  let samples := family.samples.mergeSort fun a b => labelValue a ≤ labelValue b
  "# HELP " ++ family.name ++ " " ++ family.help ++ "\n# TYPE " ++ family.name ++ " " ++ family.kind.name ++
    "\n" ++ String.join (samples.map (sampleText family.name))

def textOfAll (families : List MetricFamily) : String :=
  let shown := families.filter fun family => !family.samples.isEmpty
  String.join ((shown.mergeSort fun a b => a.name ≤ b.name).map text)

end MetricFamily

def floatOfInt (number : Int) : Float := floatOfDecimal (number < 0) number.natAbs 0

end Hashgraph
