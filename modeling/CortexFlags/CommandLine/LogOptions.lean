import CortexFlags.CommandLine.Reading
import CortexFlags.Logging.Activation

/-! The logging options of a command line, and the activation that they ask for. -/

namespace CortexFlags.CommandLine

/-- Why logging cannot be started. -/
inductive StartFault
  | nothingGiven (use : Use)
  | unknownLevel (name : String)
  | activation (fault : ActivationFault)
deriving DecidableEq, Repr

def StartFault.message : StartFault → String
  | nothingGiven use => use.complaint
  | unknownLevel name => name
  | activation fault => fault.message

structure LogOptions where
  verbose : Nat
  levelName : Given
  file : Option Given
  json : Bool
  noColor : Bool
deriving DecidableEq, Repr

namespace LogOptions

/-- No option given: the console shows a default level and those above. -/
def none (default : Level) : LogOptions := ⟨0, .text default.name, .none, false, false⟩

def group {σ : Type} (change : (LogOptions → LogOptions) → σ → σ) : OptionGroup σ where
  title := "logging arguments"
  options := [
    .flag ["-v", "--verbose"] "lower the console log level by one step, can be repeated"
      (change fun o => { o with verbose := o.verbose + 1 }),
    .value ["--loglevel"] (.oneOf (Level.named.map Prod.fst)) "set the console log level"
      fun s => change fun o => { o with levelName := s },
    .value ["--log-file"] (.any "FILE") "also write all the logs to FILE"
      fun s => change fun o => { o with file := some s },
    .flag ["--json-logs"] "write logs as JSON objects" (change fun o => { o with json := true }),
    .flag ["--nocolor"] "do not color the console logs"
      (change fun o => { o with noColor := true })]

/-- A command with the logging options alone. -/
def command (program : String) : Command LogOptions := .ofGroups program [] [group id]

/-! ## Activation -/

/-- The console level: one step below the default for each `-v`, but not below debug,
or else the level that is named, if that is a name. -/
def level (o : LogOptions) (default : Level) : Except StartFault Level :=
  if o.verbose > 0 then .ok (max (default - 10 * o.verbose) .debug)
  else
    match o.levelName.textFor .lookUp with
    | .error use => .error (.nothingGiven use)
    | .ok name =>
        match Level.ofName? name with
        | some level => .ok level
        | .none => .error (.unknownLevel name)

/-- The name of the log file, if there is to be one. -/
def fileName (o : LogOptions) : Except StartFault (Option String) :=
  match o.file with
  | .none => .ok .none
  | some given => (given.textFor .fileName).mapError .nothingGiven |>.map some

/-- What is asked of the activation; debug traces go with the debug level. -/
def request (o : LogOptions) (level : Level) (file : Option String) : LogRequest where
  level
  file
  json := o.json
  color := !o.noColor
  debug := decide (level ≤ .debug)

end LogOptions

/-- Activate logging as the options ask. -/
def startLogging (style : ConsoleStyle) (default : Level) (o : LogOptions) (j : Journal) :
    Except StartFault Unit × Journal :=
  match o.level default, o.fileName with
  | .error fault, _ | _, .error fault => (.error fault, j)
  | .ok level, .ok file =>
      let (outcome, j) := j.activate style (o.request level file)
      (outcome.mapError .activation, j)

end CortexFlags.CommandLine
