import CortexFlags.CommandLine.LogOptions

/-! Launchers: they read command lines and keep what was read last. Logging is
activated once, for the first command line that can be read. -/

namespace CortexFlags.CommandLine

structure Launcher (α : Type) where
  read : List String → Except Stop α
  logOptions : α → LogOptions
  /-- What was read last, if anything was. -/
  current : Option α
  journal : Journal

/-- Why a launch is cut short. -/
inductive LaunchFault
  | stopped (stop : Stop)
  | logging (fault : StartFault)
deriving DecidableEq, Repr

namespace Launcher

/-- The console level of programs, unless options ask for another. -/
def defaultLevel : Level := .info

/-- A launcher for the logging options alone. -/
def ofProgram (program : String) : Launcher LogOptions where
  read := (LogOptions.command program).parse (.none defaultLevel)
  logOptions := id
  current := none
  journal := .empty

/-- Read a command line. What was read counts even if activation fails after it. -/
def launch {α : Type} (l : Launcher α) (style : ConsoleStyle) (args : List String) :
    Except LaunchFault α × Launcher α :=
  match l.read args with
  | .error stop => (.error (.stopped stop), l)
  | .ok a =>
      match l.current with
      | some _ => (.ok a, { l with current := some a })
      | none =>
          let (outcome, journal) := startLogging style defaultLevel (l.logOptions a) l.journal
          let l := { l with current := some a, journal }
          match outcome with
          | .ok () => (.ok a, l)
          | .error fault => (.error (.logging fault), l)

end Launcher

end CortexFlags.CommandLine
