import CortexFlags.CommandLine.Word
import CortexFlags.Text.Quoted

/-! Reading a command line: options take effect from left to right. A command has no
arguments but those of its options, or it is followed by an action with arguments
of its own, which gets all that stands after its name. -/

namespace CortexFlags.CommandLine

/-- How far the reading has come: the values, the options met, and the arguments that
have no place. -/
structure Progress (σ : Type) where
  values : σ
  met : List String
  extras : List String

namespace Progress

variable {σ : Type}

def start (values : σ) : Progress σ := ⟨values, [], []⟩

def extra (p : Progress σ) (arg : String) : Progress σ := { p with extras := p.extras ++ [arg] }

def set (p : Progress σ) (o : OptionSpec σ) (change : σ → σ) : Progress σ :=
  { p with values := change p.values, met := o.title :: p.met }

end Progress

namespace Command

variable {σ : Type}

/-! ## Short options in one word -/

/-- An option does not take the argument that is attached to it. -/
def ignored (c : Command σ) (o : OptionSpec σ) (attached : String) : Stop :=
  c.misuseOf o ("ignored explicit argument " ++ Text.Quoted.render attached)

/-- The options that a word of short options stands for: those without argument, then
the last with the argument attached to it, if any. -/
structure Chain (σ : Type) where
  before : List (OptionSpec σ)
  last : OptionSpec σ
  attached : Option String

def chain (c : Command σ) (o : OptionSpec σ) (name : String) :
    List Char → Except Stop (Chain σ)
  | [] =>
      match o.effect with
      | .value _ _ => .ok ⟨[], o, some ""⟩
      | _ => .error (c.ignored o "")
  | letter :: rest =>
      match o.effect with
      | .value _ _ => .ok ⟨[], o, some (String.ofList (letter :: rest))⟩
      | _ =>
          let next := String.ofList ['-', letter]
          match isShort name, c.names.lookup next with
          | true, some o' =>
              if rest.isEmpty then .ok ⟨[o], o', none⟩
              else do
                let tail ← c.chain o' next rest
                return { tail with before := o :: tail.before }
          | _, _ => .error (c.ignored o (String.ofList (letter :: rest)))

/-- The options of a mention. -/
def chainOf (c : Command σ) (m : Mention σ) : Except Stop (Chain σ) :=
  match m.attached with
  | none => .ok ⟨[], m.option, none⟩
  | some attached => c.chain m.option m.name attached.toList

/-! ## Effects -/

/-- Let an option without argument take effect. -/
def applyFlag (c : Command σ) (p : Progress σ) (o : OptionSpec σ) : Except Stop (Progress σ) :=
  match o.effect with
  | .help => .error (.help c.manual.help)
  | .flag change => .ok (p.set o change)
  | .value _ _ => .ok p

/-- Let an option with an argument take effect, if what is given is admitted. -/
def applyValue (c : Command σ) (p : Progress σ) (o : OptionSpec σ) (given : Given) :
    Except Stop (Progress σ) :=
  match o.effect with
  | .value argument change =>
      if argument.admits given then .ok (p.set o (change given))
      else
        let choices := match argument with
          | .oneOf choices => choices
          | .any _ => []
        let quoted := Text.Quoted.render given.shown
        .error (c.misuseOf o
          s!"invalid choice: {quoted} (choose from {Text.Quoted.renderAll choices})")
  | _ => .ok p

def applyFlags (c : Command σ) (p : Progress σ) (os : List (OptionSpec σ)) :
    Except Stop (Progress σ) :=
  os.foldlM c.applyFlag p

/-! ## The words in turn -/

/-- Read words up to the name of an action, if an action is looked for. The words from
that name on are left. -/
def read (c : Command σ) (forAction : Bool) :
    Progress σ → List (ReadWord σ) → Except Stop (Progress σ × List (ReadWord σ))
  | p, [] => .ok (p, [])
  | p, (arg, .argument) :: rest =>
      if forAction then .ok (p, (arg, .argument) :: rest) else c.read forAction (p.extra arg) rest
  | p, (arg, .endOfOptions) :: rest =>
      if forAction && !rest.isEmpty then .ok (p, (arg, .endOfOptions) :: rest)
      else c.read forAction (p.extra arg) rest
  | p, (arg, .unknownOption) :: rest => c.read forAction (p.extra arg) rest
  | p, (_, .option m) :: rest =>
      match c.chainOf m with
      | .error stop => .error stop
      | .ok chain =>
          match chain.last.argument?, chain.attached, rest with
          | none, _, rest => do
              c.read forAction (← c.applyFlag (← c.applyFlags p chain.before) chain.last) rest
          | some _, some attached, rest => do
              c.read forAction
                (← c.applyValue (← c.applyFlags p chain.before) chain.last (.ofAttached attached)) rest
          | some _, none, (arg, .argument) :: rest => do
              c.read forAction
                (← c.applyValue (← c.applyFlags p chain.before) chain.last (.text arg)) rest
          | some _, none, _ => .error (c.misuseOf chain.last "expected one argument")

/-- The required options that were not met. -/
def missing (c : Command σ) (p : Progress σ) : List String :=
  (c.options.filter fun o => o.required && !p.met.contains o.title).map OptionSpec.title

def incomplete (c : Command σ) (missing : List String) : Stop :=
  let names := ", ".intercalate missing
  c.misuse s!"the following arguments are required: {names}"

def requireAll (c : Command σ) (p : Progress σ) : Except Stop Unit :=
  if (c.missing p).isEmpty then .ok () else .error (c.incomplete (c.missing p))

def refuseExtras (c : Command σ) (extras : List String) : Except Stop Unit :=
  if extras.isEmpty then .ok ()
  else
    let args := " ".intercalate extras
    .error (c.misuse s!"unrecognized arguments: {args}")

/-- The values of a command line, and the arguments that have no place. -/
def parseKnown (c : Command σ) (values : σ) (args : List String) :
    Except Stop (σ × List String) := do
  let (p, _) ← c.read false (.start values) (← c.words args)
  c.requireAll p
  return (p.values, p.extras)

/-- The values of a command line in which every argument has its place. -/
def parse (c : Command σ) (values : σ) (args : List String) : Except Stop σ := do
  let (values, extras) ← c.parseKnown values args
  c.refuseExtras extras
  return values

end Command

/-! ## Actions -/

/-- An action that a command may be followed by: it reads its own arguments, and tells
those that have no place. -/
structure Action (α : Type) where
  name : String
  help : String
  read : List String → Except Stop (α × List String)

namespace Action

/-- The action of a command. -/
def ofCommand {σ α : Type} (name help : String) (c : Command σ) (values : σ)
    (finish : σ → α) : Action α where
  name
  help
  read args := do
    let (values, extras) ← c.parseKnown values args
    return (finish values, extras)

end Action

namespace Command

variable {σ α : Type}

/-- The word for the choice of an action. -/
def actionWord : String := "action"

/-- A command that must be followed by one of some actions. -/
def withActions (c : Command σ) (actions : List (Action α)) : Command σ :=
  let choice := (Argument.oneOf (actions.map Action.name)).metavar
  { c with
    manual := { c.manual with
      argumentParts := [choice, "..."]
      sections := c.manual.sections ++ [{
        title := actionWord
        description := some "valid actions"
        entries := ⟨2, choice, ""⟩ :: actions.map fun a => ⟨4, a.name, a.help⟩ }] } }

/-- The values of a command line, and what the action in it reads. -/
def parseWithAction (c : Command σ) (actions : List (Action α)) (values : σ)
    (args : List String) : Except Stop (σ × α) := do
  let (p, rest) ← c.read true (.start values) (← c.words args)
  match rest with
  | [] => .error (c.incomplete (c.missing p ++ [actionWord]))
  | (name, _) :: rest =>
      match actions.find? (·.name = name) with
      | none =>
          let choices := Text.Quoted.renderAll (actions.map Action.name)
          let quoted := Text.Quoted.render name
          .error (c.misuse
            s!"argument {actionWord}: invalid choice: {quoted} (choose from {choices})")
      | some action =>
          let (a, extras) ← action.read (rest.map Prod.fst)
          c.requireAll p
          c.refuseExtras (p.extras ++ extras)
          return (p.values, a)

end Command

end CortexFlags.CommandLine
