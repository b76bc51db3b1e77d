import CortexFlags.Catalogue.Dump
import CortexFlags.CommandLine.Reading
import CortexFlags.Descriptor.Inference
import CortexFlags.Session.Basic

/-! Tasks: what the program can be asked to do, and what comes of it. A task either
prints its complete result or is refused with a fault. -/

namespace CortexFlags

open CommandLine (Given)

/-- A target as a query writes it. -/
structure WrittenQuery where
  triple : Given
  cpu : Given
deriving DecidableEq, Repr

/-- Values of the compiler flags as the options give them. -/
structure GivenFlags where
  cpu : Option Given
  floatAbi : Option Given
  fpu : Option Given
  thumb : Bool
  arm : Bool
  bigEndian : Bool
deriving DecidableEq, Repr

inductive Task
  | flags (query : WrittenQuery)
  | info (cpu : Option Given) (yaml : Bool)
  | translate (flags : GivenFlags)
deriving DecidableEq, Repr

/-- Why a task ends without a result. -/
inductive TaskFault
  | refused (fault : Fault)
  | load (fault : LoadFault)
  | nothingGiven (use : CommandLine.Use)
deriving DecidableEq, Repr

/-- What a task said, what it printed, and how it ended. -/
structure TaskResult where
  events : List Event
  output : String
  outcome : Except TaskFault Unit

namespace Task

/-! ## Commands -/

open CommandLine (OptionSpec Command Argument)

/-- The name that the program is called by. -/
def programName : String := "armtarget"

def commandName (task : String) : String := s!"{programName} {task}"

def flagsCommand : Command WrittenQuery :=
  .ofGroups (commandName "flags") [
    { OptionSpec.value ["--target"] (.any "TARGET")
        "target triple, e.g. thumb-freestanding-eabihf"
        (fun s (q : WrittenQuery) => { q with triple := s }) with required := true },
    { OptionSpec.value ["--cpu"] (.any "CPU")
        "cpu model and features, e.g. cortex_m7+fp_armv8d16sp"
        (fun s (q : WrittenQuery) => { q with cpu := s }) with required := true }] []

def infoCommand : Command (Option Given × Bool) :=
  .ofGroups (commandName "info") [
    .value ["--mcpu"] (.any "MCPU") "show only the options for this cpu target"
      fun s v => (some s, v.2),
    .flag ["--yaml"] "dump the catalogue of CPUs and FPUs in YAML format"
      fun v => (v.1, true)] []

def translateCommand : Command GivenFlags :=
  .ofGroups (commandName "translate") [
    .value ["--mcpu"] (.any "MCPU") "GCC cpu target flag (required)"
      fun s v => { v with cpu := some s },
    .value ["--mfloat-abi"] (.any "MFLOAT_ABI")
      "\"hard\", \"softfp\", or \"soft\" (default \"soft\")"
      fun s v => { v with floatAbi := some s },
    .value ["--mfpu"] (.any "MFPU")
      "GCC floating point unit flag (required with \"hard\" or \"softfp\")"
      fun s v => { v with fpu := some s },
    .flag ["--mthumb"] "use thumb instruction set (default)" fun v => { v with thumb := true },
    .flag ["--marm"] "use arm instruction set" fun v => { v with arm := true },
    .flag ["--mbig-endian"] "generate big endian code" fun v => { v with bigEndian := true }] []

/-- The actions of the program, in the order of their names. -/
def actions : List (CommandLine.Action Task) :=
  [.ofCommand "flags" "Find the GCC arm target arguments corresponding to a target"
      flagsCommand ⟨.text "", .text ""⟩ .flags,
    .ofCommand "info" "Show possible compile options for valid targets"
      infoCommand (none, false) fun v => .info v.1 v.2,
    .ofCommand "translate" "Validate and translate GCC arm target arguments to target options"
      translateCommand ⟨none, none, none, false, false, false⟩ .translate]

/-! ## Results -/

def refuse (events : List Event) (output : String) (fault : Fault) : TaskResult :=
  ⟨events, output, .error (.refused fault)⟩

def finish (events : List Event) (output : String) : TaskResult := ⟨events, output, .ok ()⟩

/-- Go on with the catalogue, if it can be loaded. -/
def withCatalogue (s : Session) (events : List Event)
    (next : Catalogue → List Event → TaskResult) : TaskResult :=
  match Catalogue.load s.settings s.plugins with
  | (.error fault, more) => ⟨events ++ more, "", .error (.load fault)⟩
  | (.ok k, more) => next k (events ++ more)

/-- Stop where a text is used that was not given. -/
def stopAt (events : List Event) (use : CommandLine.Use) : TaskResult :=
  ⟨events, "", .error (.nothingGiven use)⟩

/-- Read a query; its target is looked at before its CPU. -/
def readQuery (q : WrittenQuery) : Except TaskFault Query := do
  let triple ← (q.triple.textFor .split).mapError .nothingGiven
  let query ← (Query.parse triple q.cpu.shown).mapError (.refused ∘ .resolution)
  let _ ← (q.cpu.textFor .split).mapError .nothingGiven
  return query

/-- The compiler flags of a query. -/
def runFlags (s : Session) (q : WrittenQuery) : TaskResult :=
  match readQuery q with
  | .error fault => ⟨[], "", .error fault⟩
  | .ok query =>
      match query.resolve with
      | .error fault => refuse [] "" (.resolution fault)
      | .ok r =>
          let features := ",".intercalate r.features.toList
          withCatalogue s [.trace s!"resolved features: {features}"] fun k events =>
            match Descriptor.ofResolved k r with
            | .error fault => refuse events "" (.conversion fault (some .inference))
            | .ok d => finish events (" ".intercalate d.gccFlags ++ "\n")

/-- The summary of a selection of CPUs, or the document. -/
def runInfo (writer : Yaml.Writer) (s : Session) (cpu : Option Given) (yaml : Bool) :
    TaskResult :=
  withCatalogue s [] fun k events =>
    match cpu.mapM (Given.textFor .lookUp) with
    | .error use => stopAt events use
    | .ok cpu =>
        match k.selectCpus cpu with
        | .error fault => refuse events "" (.flag fault)
        | .ok cpus =>
            if yaml then finish events (writer (Catalogue.node cpus (k.selectFpus cpu cpus)))
            else finish events (String.join (cpus.map fun c => c.info ++ "\n"))

/-- The options that a query stands for. -/
def translated (q : Query) : String :=
  s!"Translated options: -Dtarget={q.triple} -Dcpu={q.cpuString}\n"

/-- The flags that were given, with a text for each that is looked up in the catalogue.
Each is looked at only after those before it. -/
def readFlags (k : Catalogue) (cpu : Given) (given : GivenFlags) : Except TaskFault Flags := do
  let name ← (cpu.textFor .lookUp).mapError .nothingGiven
  let flags : Flags := {
    cpu := some name, floatAbi := given.floatAbi.map Given.shown, fpu := given.fpu.map Given.shown
    thumb := given.thumb, arm := given.arm, bigEndian := given.bigEndian }
  let _ ← (k.cpu name).mapError (.refused ∘ .flag)
  let _ ← flags.readFloatAbi.mapError (.refused ∘ .flag)
  let _ ← (given.fpu.mapM (Given.textFor .lookUp)).mapError .nothingGiven
  return flags

/-- The options of compiler flags. Without a CPU the usage is shown. -/
def runTranslate (s : Session) (given : GivenFlags) : TaskResult :=
  match given.cpu with
  | none => refuse [] translateCommand.manual.usage (.flag .missingCpu)
  | some cpu =>
      withCatalogue s [] fun k events =>
        match readFlags k cpu given with
        | .error fault => ⟨events, "", .error fault⟩
        | .ok wanted =>
            match Descriptor.ofFlags k wanted with
            | .error fault => refuse events "" fault
            | .ok d =>
                let events := events ++ [.trace s!"translated target:\n{d.text}"]
                match d.toQuery with
                | .error fault => refuse events "" (.conversion fault none)
                | .ok q => finish events (translated q)

/-- Do a task, with a way to write documents. -/
def run (writer : Yaml.Writer) (s : Session) : Task → TaskResult
  | .flags q => runFlags s q
  | .info cpu yaml => runInfo writer s cpu yaml
  | .translate given => runTranslate s given

end Task

end CortexFlags
