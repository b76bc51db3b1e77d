import CortexFlags.CommandLine.Command
import CortexFlags.Text.DecimalDigit

/-! Words: arguments of a command line told apart, before anything is done about
them, into options, other arguments, and the mark `--` after which there are no
more options. -/

namespace CortexFlags.CommandLine

/-- Why reading stops: help was asked for, or the arguments break a rule. -/
inductive Stop
  | help (text : String)
  | misuse (usage program message : String)
deriving DecidableEq, Repr

namespace Stop

def status : Stop → Nat
  | help _ => 0
  | misuse _ _ _ => 2

/-- What is written on the standard output. -/
def output : Stop → String
  | help text => text
  | misuse _ _ _ => ""

/-- What is written on the error output. -/
def complaint : Stop → String
  | help _ => ""
  | misuse usage program message => s!"{usage}{program}: error: {message}\n"

end Stop

def Command.misuse {σ : Type} (c : Command σ) (message : String) : Stop :=
  .misuse c.manual.usage c.manual.program message

/-- A misuse of one option. -/
def Command.misuseOf {σ : Type} (c : Command σ) (o : OptionSpec σ) (message : String) : Stop :=
  c.misuse s!"argument {o.title}: {message}"

/-! ## Words -/

/-- An option as it was written: its full name, and an argument glued to it. -/
structure Mention (σ : Type) where
  option : OptionSpec σ
  name : String
  attached : Option String

inductive Word (σ : Type)
  | option (mention : Mention σ)
  | unknownOption
  | argument
  | endOfOptions

/-- An argument with the word that it is. -/
abbrev ReadWord (σ : Type) := String × Word σ

/-! ## Telling words apart -/

/-- A text before the first sign of equality, and the text after it. -/
def splitAtEquals (arg : String) : Option (String × String) :=
  let cs := arg.toList
  match cs.dropWhile (· != '=') with
  | [] => none
  | _ :: rest => some (String.ofList (cs.takeWhile (· != '=')), String.ofList rest)

def startsWith (text front : String) : Bool := front.toList.isPrefixOf text.toList

/-- A name with one dash is short. -/
def isShort (name : String) : Bool :=
  match name.toList with
  | '-' :: '-' :: _ => false
  | '-' :: _ => true
  | _ => false

/-- Options that an argument may stand for although it is not their name: long ones
by the start of their name, short ones by a text right after their name. -/
def candidates {σ : Type} (names : List (String × OptionSpec σ)) (arg : String) :
    List (Mention σ) :=
  if isShort arg then
    let short := String.ofList (arg.toList.take 2)
    names.filterMap fun (name, o) =>
      if name = short then some ⟨o, name, some (String.ofList (arg.toList.drop 2))⟩
      else if startsWith name arg then some ⟨o, name, none⟩
      else none
  else
    let (front, attached) := match splitAtEquals arg with
      | some (front, attached) => (front, some attached)
      | none => (arg, none)
    names.filterMap fun (name, o) =>
      if startsWith name front then some ⟨o, name, attached⟩ else none

open Text (isDecimalDigit)

def allDigits (cs : List Char) : Bool := !cs.isEmpty && cs.all isDecimalDigit

/-- A number below zero in digits of any script, with or without a decimal point. It may
end in one line end. -/
def isNegativeNumber (arg : String) : Bool :=
  let cs := arg.toList
  match if cs.getLast? = some '\n' then cs.dropLast else cs with
  | '-' :: digits =>
      allDigits digits ||
        match digits.dropWhile isDecimalDigit with
        | '.' :: fraction => allDigits fraction
        | _ => false
  | _ => false

namespace Command

variable {σ : Type}

/-- The option of a given name, with the argument that is attached to it. -/
def named? (c : Command σ) (arg : String) : Option (Mention σ) :=
  match c.names.lookup arg with
  | some o => some ⟨o, arg, none⟩
  | none => do
      let (name, attached) ← splitAtEquals arg
      return ⟨← c.names.lookup name, name, some attached⟩

/-- The word that an argument is; two options that it may stand for are too many. -/
def word (c : Command σ) (arg : String) : Except Stop (Word σ) :=
  if !startsWith arg "-" || arg.length = 1 then .ok .argument
  else
    match c.named? arg with
    | some mention => .ok (.option mention)
    | none =>
        match candidates c.names arg with
        | [mention] => .ok (.option mention)
        | [] =>
            if isNegativeNumber arg || arg.toList.contains ' ' then .ok .argument
            else .ok .unknownOption
        | mentions =>
            let names := ", ".intercalate (mentions.map Mention.name)
            .error (c.misuse s!"ambiguous option: {arg} could match {names}")

/-- The words of a command line. -/
def words (c : Command σ) : List String → Except Stop (List (ReadWord σ))
  | [] => .ok []
  | arg :: rest =>
      if arg = "--" then .ok ((arg, .endOfOptions) :: rest.map fun arg => (arg, .argument))
      else do
        let w ← c.word arg
        return (arg, w) :: (← c.words rest)

end Command

end CortexFlags.CommandLine
