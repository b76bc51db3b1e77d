import CortexFlags.Text.Pad

/-! Manuals: what a command says about its arguments, as a usage in a few lines and
as a help with a section for each group. Lines have at most 78 columns, unless a
part alone is longer. -/

namespace CortexFlags.CommandLine

/-- An argument in a help section; a longer indentation belongs to an argument of
the one above. -/
structure HelpEntry where
  indent : Nat
  invocation : String
  help : String
deriving DecidableEq, Repr

structure HelpSection where
  title : String
  description : Option String
  entries : List HelpEntry
deriving DecidableEq, Repr

structure Manual where
  /-- The name that the command is called by. -/
  program : String
  /-- The parts of the usage that may not be broken: options, then other arguments. -/
  optionParts : List String
  argumentParts : List String
  sections : List HelpSection
deriving DecidableEq, Repr

namespace Manual

def lineWidth : Nat := 78

/-- The column at which help texts start at the latest. -/
def helpColumn : Nat := 24

open Text (spaces padRight)

/-! ## Filling lines -/

/-- Put parts on lines, as many as fit. `column` is the last one in use, `line` what
stands on the line so far, and `indent` the column at which later lines start. -/
def fill (indent : Nat) : (column : Nat) → (line : List String) → List String → List String
  | _, [], [] => []
  | _, line, [] => [" ".intercalate line]
  | column, line, part :: rest =>
      if column + 1 + part.length > lineWidth ∧ line ≠ [] then
        " ".intercalate line :: fill indent (indent + part.length) [part] rest
      else fill indent (column + part.length + 1) (line ++ [part]) rest

/-- The words of a help text, on lines of a given width. -/
def wrap (width : Nat) : (line : String) → List String → List String
  | line, [] => [line]
  | line, word :: rest =>
      if line.length + 1 + word.length ≤ width then wrap width (line ++ " " ++ word) rest
      else line :: wrap width word rest

/-- A text of words with single spaces between them, on lines of a given width. -/
def wrapText (width : Nat) (text : String) : List String :=
  match text.splitOn " " with
  | [] => []
  | word :: rest => wrap width word rest

/-! ## Usage -/

def usageMark : String := "usage: "

/-- Lines of parts, all indented. -/
def indented (indent : Nat) (parts : List String) : List String :=
  (fill indent (indent - 1) [] parts).map (spaces indent ++ ·)

/-- The usage of a command whose name leaves room beside it: the lines after the
first are indented to the column after the name. -/
def usageBeside (m : Manual) : List String :=
  let indent := usageMark.length + m.program.length + 1
  let lead (parts : List String) : List String :=
    match fill indent (usageMark.length - 1) [] (m.program :: parts) with
    | [] => []
    | line :: lines => line :: lines.map (spaces indent ++ ·)
  if !m.optionParts.isEmpty then lead m.optionParts ++ indented indent m.argumentParts
  else if !m.argumentParts.isEmpty then lead m.argumentParts
  else [m.program]

/-- The usage of a command with a long name, which takes a line of its own. -/
def usageBelow (m : Manual) : List String :=
  let indent := usageMark.length
  let lines := indented indent (m.optionParts ++ m.argumentParts)
  if lines.length > 1 then
    m.program :: indented indent m.optionParts ++ indented indent m.argumentParts
  else m.program :: lines

/-- The usage after its mark: on one line if it fits. -/
def usageBody (m : Manual) : String :=
  let parts := m.optionParts ++ m.argumentParts
  let line := " ".intercalate (if m.program.isEmpty then parts else m.program :: parts)
  if usageMark.length + line.length ≤ lineWidth then line
  else if 4 * (usageMark.length + m.program.length) ≤ 3 * lineWidth then
    "\n".intercalate m.usageBeside
  else "\n".intercalate m.usageBelow

/-! ## Help -/

/-- The column at which the help texts of the manual start. -/
def textColumn (m : Manual) : Nat :=
  let widths := m.sections.flatMap fun s => s.entries.map fun e => e.indent + e.invocation.length
  min (widths.foldl max 0 + 2) helpColumn

/-- An argument with its help text beside it, or below it if it is too long. -/
def entryText (column : Nat) (e : HelpEntry) : String :=
  let front := spaces e.indent ++ e.invocation
  if e.help.isEmpty then front ++ "\n"
  else
    let lines := wrapText (max (lineWidth - column) 11) e.help
    let body := ("\n" ++ spaces column).intercalate lines ++ "\n"
    if front.length + 2 ≤ column then padRight column front ++ body
    else front ++ "\n" ++ spaces column ++ body

def sectionText (column : Nat) (s : HelpSection) : String :=
  let description := (s.description.map fun d => "  " ++ d ++ "\n\n").getD ""
  "\n" ++ s.title ++ ":\n" ++ description ++ String.join (s.entries.map (entryText column)) ++ "\n"

/-! ## Spacing -/

/-- Leave at most one empty line in a row. `n` line ends have just been read. -/
def squeeze : (n : Nat) → List Char → List Char
  | _, [] => []
  | n, c :: rest =>
      if c = '\n' then
        if n < 2 then c :: squeeze (n + 1) rest else squeeze n rest
      else c :: squeeze 0 rest

/-- No empty line at either end, and one line end at the last. -/
def trimLines (cs : List Char) : List Char :=
  let cs := cs.dropWhile (· = '\n')
  (cs.reverse.dropWhile (· = '\n')).reverse ++ ['\n']

def tidy (text : String) : String := String.ofList (trimLines (squeeze 0 text.toList))

/-- The usage alone. -/
def usage (m : Manual) : String := tidy (usageMark ++ m.usageBody)

/-- The usage and all sections. -/
def help (m : Manual) : String :=
  tidy (usageMark ++ m.usageBody ++ "\n\n"
    ++ String.join (m.sections.map (sectionText m.textColumn)))

end Manual

end CortexFlags.CommandLine
