import CortexFlags.CommandLine.Launcher
import CortexFlags.Program.Task
import CortexFlags.Report.Basic

/-! Runs of the program: a command line is read, logging is activated, and the task is
done. A task that is refused ends the run with status 1 and one error record. -/

namespace CortexFlags

/-- What a run depends on. -/
structure Circumstances where
  session : Session
  isTerminal : Bool
  time : Timestamp
  /-- What the records of the run tell of the place where they are made. -/
  background : Event → Background
  /-- What the console is told of a record that a handler cannot show. -/
  report : Handler → Record → String
  /-- Actions that were declared and could not be loaded. -/
  lostActions : List String
  /-- The files that can be opened for records without being made. -/
  files : Files
  /-- How documents are written. -/
  writer : Yaml.Writer

/-- The record of an event. -/
def Circumstances.record (c : Circumstances) (e : Event) : Record := ⟨c.time, c.background e, e⟩

/-- What cuts a run short, other than its command line or a refused task. -/
inductive RunFault
  | lostActions (names : List String)
  | logSection (fault : Settings.SectionFault)
  | logging (fault : CommandLine.StartFault)
  | load (fault : LoadFault)
  | nothingGiven (use : CommandLine.Use)
deriving DecidableEq, Repr

/-- The report of actions that could not be loaded. -/
def lostActionsReport (names : List String) : Report :=
  let names := ",".intercalate names
  .create .general [s!"an error occurred when loading armtarget.action entry points {names}"]
    none ""

def RunFault.message : RunFault → String
  | lostActions names => (lostActionsReport names).text
  | logSection fault => fault.message
  | logging fault => fault.message
  | load fault => fault.message
  | nothingGiven use => use.complaint

/-- How a run ended and what it wrote. -/
structure RunResult where
  status : Except RunFault Nat
  output : String
  complaint : String
  files : Files

namespace Program

open CommandLine (Command LogOptions Launcher)

/-- The command line of the program: logging options and an action. -/
def command : Command LogOptions :=
  (LogOptions.command Task.programName).withActions Task.actions

/-- The logging options and the task of a command line. -/
def read (args : List String) : Except CommandLine.Stop (LogOptions × Task) :=
  command.parseWithAction Task.actions (.none Launcher.defaultLevel) args

def launcher (c : Circumstances) : Launcher (LogOptions × Task) where
  read
  logOptions := Prod.fst
  current := none
  journal := { Journal.empty with files := c.files, report := c.report }

def loggerName : String := Event.childName "cli"

def actionNames : List String := Task.actions.map CommandLine.Action.name

/-- The end of a run that wrote on the console what the journal holds. -/
def ended (status : Except RunFault Nat) (output : String) (j : Journal) : RunResult :=
  ⟨status, output, j.console, j.files⟩

/-- Do a task and record what is said on the way. -/
def perform (c : Circumstances) (task : Task) (j : Journal) : RunResult :=
  let names := ",".intercalate actionNames
  let result := task.run c.writer c.session
  let said := .trace s!"action plugins loaded: {names}" :: result.events
  let j := j.emitAll (said.map c.record)
  match result.outcome with
  | .ok () => ended (.ok 0) result.output j
  | .error (.refused fault) =>
      ended (.ok 1) result.output (j.emit (c.record ⟨loggerName, .error, fault.text⟩))
  | .error (.load fault) => ended (.error (.load fault)) result.output j
  | .error (.nothingGiven use) => ended (.error (.nothingGiven use)) result.output j

/-- Run the program on a command line. -/
def run (c : Circumstances) (args : List String) : RunResult :=
  match (Settings.LogSettings.read c.session.settings).1 with
  | .error fault => ended (.error (.logSection fault)) "" .empty
  | .ok settings =>
      if !c.lostActions.isEmpty then
        ended (.error (.lostActions (actionNames ++ c.lostActions))) "" .empty
      else
        match (launcher c).launch ⟨c.isTerminal, settings⟩ args with
        | (.error (.stopped stop), l) =>
            ⟨.ok stop.status, stop.output, l.journal.console ++ stop.complaint, l.journal.files⟩
        | (.error (.logging fault), l) => ended (.error (.logging fault)) "" l.journal
        | (.ok (_, task), l) => perform c task l.journal

end Program

end CortexFlags
