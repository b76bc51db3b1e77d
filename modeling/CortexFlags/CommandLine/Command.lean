import CortexFlags.CommandLine.Given
import CortexFlags.CommandLine.Manual

/-! Commands: named options that change the values read so far. -/

namespace CortexFlags.CommandLine

/-- The argument of an option: any text, or one of some choices. -/
inductive Argument
  | any (metavar : String)
  | oneOf (choices : List String)
deriving DecidableEq, Repr

/-- How an argument is shown. -/
def Argument.metavar : Argument → String
  | any metavar => metavar
  | oneOf choices => "\x7b" ++ ",".intercalate choices ++ "\x7d"

/-- Whether an argument may be given; nothing may always be. -/
def Argument.admits : Argument → Given → Bool
  | oneOf choices, .text s => choices.contains s
  | _, _ => true

/-- What an option does: show the help, change the values, or take an argument. -/
inductive Effect (σ : Type)
  | help
  | flag (set : σ → σ)
  | value (argument : Argument) (set : Given → σ → σ)

structure OptionSpec (σ : Type) where
  /-- Short names have one dash, long ones two. The first is shown in the usage. -/
  names : List String
  effect : Effect σ
  required : Bool
  help : String

namespace OptionSpec

variable {σ : Type}

/-- An option without argument. -/
def flag (names : List String) (help : String) (set : σ → σ) : OptionSpec σ :=
  ⟨names, .flag set, false, help⟩

/-- An option with an argument. -/
def value (names : List String) (argument : Argument) (help : String) (set : Given → σ → σ) :
    OptionSpec σ :=
  ⟨names, .value argument set, false, help⟩

/-- The option that shows the help. -/
def showHelp : OptionSpec σ :=
  ⟨["-h", "--help"], .help, false, "show this help message and exit"⟩

def argument? (o : OptionSpec σ) : Option Argument :=
  match o.effect with
  | .value argument _ => some argument
  | _ => none

/-- All names, as messages show them. -/
def title (o : OptionSpec σ) : String := "/".intercalate o.names

def withArgument (o : OptionSpec σ) (name : String) : String :=
  match o.argument? with
  | none => name
  | some argument => s!"{name} {argument.metavar}"

/-- The parts of the usage: in square brackets, if the option may be left out. -/
def usageParts (o : OptionSpec σ) : List String :=
  let name := o.names.headD ""
  if o.required then name :: (o.argument?.map Argument.metavar).toList
  else [s!"[{o.withArgument name}]"]

def helpEntry (o : OptionSpec σ) : HelpEntry where
  indent := 2
  invocation := ", ".intercalate (o.names.map o.withArgument)
  help := o.help

end OptionSpec

/-! ## Commands -/

/-- Options that the help shows under one title. -/
structure OptionGroup (σ : Type) where
  title : String
  options : List (OptionSpec σ)

/-- A command: its options, in the order in which they were declared, and its manual. -/
structure Command (σ : Type) where
  options : List (OptionSpec σ)
  manual : Manual

namespace Command

variable {σ : Type}

/-- A command with an option for help, options of its own, and further groups. -/
def ofGroups (program : String) (own : List (OptionSpec σ)) (groups : List (OptionGroup σ)) :
    Command σ :=
  let groups := ⟨"options", .showHelp :: own⟩ :: groups
  let options := groups.flatMap OptionGroup.options
  { options
    manual := {
      program
      optionParts := options.flatMap OptionSpec.usageParts
      argumentParts := []
      sections := groups.map fun g => ⟨g.title, none, g.options.map OptionSpec.helpEntry⟩ } }

/-- The names of all options. -/
def names (c : Command σ) : List (String × OptionSpec σ) :=
  c.options.flatMap fun o => o.names.map fun name => (name, o)

end Command

end CortexFlags.CommandLine
