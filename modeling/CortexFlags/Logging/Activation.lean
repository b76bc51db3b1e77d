import CortexFlags.Logging.Journal
import CortexFlags.Settings.Known

/-! Activation: it adds a console handler and perhaps a file handler, and opens the
way for records. What is done before it fails is not undone. -/

namespace CortexFlags

/-- What is asked of an activation. -/
structure LogRequest where
  level : Level
  file : Option String
  json : Bool
  color : Bool
  debug : Bool
deriving DecidableEq, Repr

namespace LogRequest

/-- Information and above, in colour, on the console alone. -/
def standard : LogRequest := ⟨.info, none, false, true, false⟩

end LogRequest

/-- Why an activation fails. -/
inductive ActivationFault
  | cannotOpen (fault : FileFault)
  | badFormat (format : String)
deriving DecidableEq, Repr

def ActivationFault.message : ActivationFault → String
  | cannotOpen fault => fault.message
  | badFormat format => s!"Invalid format '{format}' for '%' style"

/-- The console of a run: whether it is a terminal, and how records are to be shown. -/
structure ConsoleStyle where
  isTerminal : Bool
  settings : Settings.LogSettings
deriving DecidableEq, Repr

namespace Journal

/-- An activation in progress: what it did so far stays if it fails. -/
abbrev Activation := ExceptT ActivationFault (StateM Journal)

def openFile (path : String) : Activation Place := do
  match (← get).files.openToAppend path with
  | .error fault => throw (.cannotOpen fault)
  | .ok (files, place) =>
      modify fun j => { j with files }
      return place

/-- Add a handler with the layout asked for. -/
def install (json : Bool) (sink : Sink) (level : Level) (format : String) : Activation Unit := do
  match if json then some .json else Layout.ofFormat? format with
  | none => throw (.badFormat format)
  | some layout => modify fun j => { j with hub := j.hub.addHandler ⟨sink, level, layout⟩ }

/-- Open the file, let every record through to the handlers, then add the handler of
the console and that of the file, which takes records of all levels. -/
def activating (style : ConsoleStyle) (request : LogRequest) : Activation Unit := do
  let coloured := request.color && style.settings.pretty && style.isTerminal
  let place ← request.file.mapM openFile
  modify fun j => { j with hub := j.hub.setRootLevel .debug }
  install request.json (.console coloured) request.level style.settings.streamFormat
  if let some place := place then
    install request.json (.file place) .debug style.settings.fileFormat
  if request.debug then
    modify fun j => { j with hub := j.hub.setDebugLevel .debug }

/-- Activate logging as requested. -/
def activate (style : ConsoleStyle) (request : LogRequest) (j : Journal) :
    Except ActivationFault Unit × Journal :=
  (activating style request).run j

end Journal

end CortexFlags
