import Hashgraph.CommandLine.Program

/-! The executable. -/

namespace Hashgraph.CommandLine

def helpText : String :=
  "Simulate tipset-based event creation\n\nUsage: tipset-sim [-c FILE] [-v] simulate|live|config [OPTIONS]\n"

def knownVariables : List String :=
  ["TIPSET_CONFIG", "RUST_LOG", "TIPSET__NODE__SELF_ID", "TIPSET__NODE__NAME", "TIPSET__NODE__ANCIENT_MODE",
    "TIPSET__EVENT_CREATION__MAX_CREATION_RATE", "TIPSET__EVENT_CREATION__CREATION_ATTEMPT_RATE",
    "TIPSET__EVENT_CREATION__ANTI_SELFISHNESS_FACTOR",
    "TIPSET__EVENT_CREATION__MAXIMUM_PERMISSIBLE_UNHEALTHY_DURATION_MS",
    "TIPSET__EVENT_CREATION__MAX_TRANSACTION_BYTES_PER_EVENT", "TIPSET__EVENT_CREATION__RNG_SEED",
    "TIPSET__LOGGING__LEVEL", "TIPSET__LOGGING__FORMAT"]

def readVariables : IO (List (String × String)) :=
  knownVariables.filterMapM fun name => do return (← IO.getEnv name).map fun value => (name, value)

def readSettingsFile (arguments : List String) (assignments : List (String × String)) :
    IO (Option (String × String)) := do
  let configVariable := (assignments.find? fun known => known.1 = "TIPSET_CONFIG").map Prod.snd
  match (parse arguments configVariable).toOption.bind Invocation.configPath with
  | none => return none
  | some path =>
      match ← (IO.FS.readFile path).toBaseIO with
      | .ok content => return some (path, content)
      | .error _ => return none

def finish : Result → IO UInt32
  | .done output => do IO.print output; return 0
  | .stopped .usage => do IO.eprint helpText; return 2
  | .stopped _ => do IO.print helpText; return 0
  | .failed message => do IO.eprintln ("Error: " ++ message); return 1
  | .aborted => return 134

def start (arguments : List String) : IO UInt32 := do
  let assignments ← readVariables
  let file ← readSettingsFile arguments assignments
  let readFile (path : String) : Option String :=
    (file.filter fun known => known.1 = path).map Prod.snd
  finish (run ⟨assignments, readFile, .epoch⟩ arguments)

end Hashgraph.CommandLine

def main (arguments : List String) : IO UInt32 := Hashgraph.CommandLine.start arguments
