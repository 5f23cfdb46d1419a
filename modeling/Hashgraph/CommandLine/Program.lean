import Hashgraph.CommandLine.Arguments
import Hashgraph.Document.Json
import Hashgraph.Network.Live
import Hashgraph.Network.Report
import Hashgraph.Settings.LogFilter
import Hashgraph.Settings.Sources

/-! The command line program as a function from its surroundings to its output. -/

namespace Hashgraph.CommandLine

inductive Command where
  | simulate (nodes zeroWeight steps stepsPerRound : Nat) (seed : UInt64) (mode : AncientMode) (json : Bool)
  | live (nodes seconds : Nat) (metrics : Bool)
  | config
deriving DecidableEq

structure Invocation where
  command : Command
  configPath : Option String
  verbose : Bool

def globalSpecs : List OptionSpec := [⟨"config", some 'c', .path⟩, ⟨"verbose", some 'v', .flag⟩]

def modeNames : List String := ["birth-round", "generation"]

def simulateSpecs : List OptionSpec :=
  [⟨"nodes", some 'n', .word⟩, ⟨"zero-weight", none, .word⟩, ⟨"steps", some 's', .word⟩,
    ⟨"steps-per-round", none, .word⟩, ⟨"seed", none, .word⟩, ⟨"ancient-mode", none, .choice modeNames⟩,
    ⟨"json", none, .flag⟩]

def liveSpecs : List OptionSpec :=
  [⟨"nodes", some 'n', .word⟩, ⟨"duration", some 'd', .word⟩, ⟨"metrics", none, .flag⟩]

def word (given : List Given) (long : String) (absent : UInt64) : UInt64 :=
  ((value? given long).bind NumberText.word64?).getD absent

def flag (given : List Given) (long : String) : Bool := (value? given long).isSome

def simulateCommand (given : List Given) : Command :=
  .simulate (word given "nodes" 4).toNat (word given "zero-weight" 0).toNat (word given "steps" 1000).toNat
    (word given "steps-per-round" 40).toNat (word given "seed" 0)
    (if value? given "ancient-mode" = some "generation" then .generationThreshold else .birthRoundThreshold)
    (flag given "json")

def liveCommand (given : List Given) : Command :=
  .live (word given "nodes" 4).toNat (word given "duration" 5).toNat (flag given "metrics")

def commandOf? (name : String) : Option (List OptionSpec × (List Given → Command)) :=
  match name with
  | "simulate" => some (simulateSpecs, simulateCommand)
  | "live" => some (liveSpecs, liveCommand)
  | "config" => some ([], fun _ => .config)
  | _ => none

def helpStop (names : List String) : Stop :=
  match names with
  | [] => .help
  | [name] => if name = "help" || (commandOf? name).isSome then .help else .usage
  | _ => .usage

/-- Global options may stand on either side of the command, and those behind it win. An environment variable
names the settings file when no option does; an empty one is refused on each side that has no option. -/
def parse (arguments : List String) (configVariable : Option String) : Except Stop Invocation :=
  (readOptions globalSpecs true (arguments.length + 1) [] arguments).bind fun (before, rest) =>
    match rest with
    | [] => .error .usage
    | name :: rest =>
        match commandOf? name with
        | none => .error (if name = "help" then helpStop rest else .usage)
        | some (specs, command) =>
            (readOptions (specs ++ globalSpecs) false (rest.length + 1) [] rest).bind fun (behind, rest) =>
              if !rest.isEmpty then .error .usage
              else
                let given := [value? behind "config", value? before "config"]
                if configVariable = some "" && given.contains none then .error .usage
                else
                  let path := (given.findSome? id).or configVariable
                  .ok ⟨command behind, path, flag behind "verbose" || flag before "verbose"⟩

structure Environment where
  assignments : List (String × String)
  readFile : String → Option String
  clock : Instant

def Environment.setting? (environment : Environment) (name : String) : Option String :=
  (environment.assignments.find? fun entry => entry.1 = name).map Prod.snd

inductive Result where
  | done (output : String)
  | stopped (reason : Stop)
  | failed (message : String)
  | aborted
deriving DecidableEq

def settingsFile (environment : Environment) (path : Option String) : Option Settings.File :=
  path.bind fun path =>
    match Settings.FileFormat.ofPath? path, environment.readFile path with
    | some format, some content => some ⟨format, content⟩
    | _, _ => none

def loggingVerdict (environment : Environment) (settings : NodeSettings) : LogFilter.Verdict :=
  match (environment.setting? "RUST_LOG").map LogFilter.verdict with
  | some .valid => .valid
  | some .torn => .torn
  | _ => LogFilter.verdict settings.logLevel

def logLevelMessage (level : String) : String := "Invalid log level '" ++ level ++ "'"

def simulationResult (settings : SimulationSettings) (json : Bool) : Result :=
  match Simulation.run settings with
  | .error (.creation .outOfRange) | .error (.round .overflow) => .aborted
  | .error fault => .failed fault.message
  | .ok report => .done (if json then Json.pretty report.toDocument ++ "\n" else report.text)

def liveText (network : LiveNetwork) (metrics : Bool) : String :=
  let counts := network.created.entries.mergeSort fun a b => a.1.number ≤ b.1.number
  let lines := counts.map fun (node, count) => node.text ++ ": " ++ digitText count ++ " events\n"
  let texts := network.services.mapIdx fun index (service, _) =>
    "# node " ++ digitText index ++ "\n" ++ MetricFamily.textOfAll service.manager.families
  String.join lines ++ (if metrics then String.join texts else "")

def liveResult (settings : LiveSettings) (clock : Instant) (metrics : Bool) : Result :=
  match LiveNetwork.run settings clock with
  | .error .outOfRange => .aborted
  | .error fault => .failed fault.message
  | .ok network => .done (liveText network metrics)

def execute (environment : Environment) (settings : NodeSettings) : Command → Result
  | .simulate nodes zeroWeight steps stepsPerRound seed mode json =>
      simulationResult ⟨nodes, zeroWeight, steps, stepsPerRound, seed, mode, settings.creation⟩ json
  | .live nodes seconds metrics =>
      liveResult ⟨nodes, seconds * Instant.nanosPerSecond, settings.mode, settings.creation⟩ environment.clock metrics
  | .config =>
      match settings.toToml? with
      | some text => .done text
      | none => .failed "Failed to serialize configuration"

def versionText : String := "tipset-sim 0.1.0\n"

def run (environment : Environment) (arguments : List String) : Result :=
  match parse arguments (environment.setting? "TIPSET_CONFIG") with
  | .error .version => .done versionText
  | .error reason => .stopped reason
  | .ok invocation =>
      match Settings.load (settingsFile environment invocation.configPath) environment.assignments with
      | .error .misplaced => .aborted
      | .error fault => .failed fault.message
      | .ok settings =>
          let settings := if invocation.verbose then { settings with logLevel := "debug" } else settings
          match loggingVerdict environment settings with
          | .valid => execute environment settings invocation.command
          | .invalid => .failed (logLevelMessage settings.logLevel)
          | .torn => .aborted

end Hashgraph.CommandLine
