import CortexFlags.Program.Run
import CortexFlags.Settings.Store
import CortexFlags.Settings.Toml.Tables
import CortexFlags.Yaml.Document
import Std.Time.DateTime.Timestamp

/-! The command line program. It reads the environment, the settings files and the
clock, does the run, and writes what comes of it. -/

namespace CortexFlags.Program

/-- The vars that tell where settings files are. Without one for the home directory the tilde
stands for it. -/
def environment : IO Settings.Environment := do
  let vars ← ["ARMTARGET_CONFIG", "XDG_CONFIG_HOME", "HOME"].filterMapM fun name => do
    return (← IO.getEnv name).map fun value => (name, value)
  return ⟨vars, none⟩

/-- The text of a file, none if there is no file, or why it cannot be read. -/
def readText (path : String) : IO (Option (Except FileFault String)) := do
  try
    let bytes ← IO.FS.readBinFile path
    match String.fromUTF8? bytes with
    | some content => return some (.ok (Files.plainText content))
    | none => return some (.error (.undecodable s!"{path} is not valid UTF-8"))
  catch
    | .noFileOrDirectory .. | .inappropriateType .. | .invalidArgument .. => return none
    | _ => return some (.error .denied)

/-- The disk, as far as the settings files go. -/
def disk (paths : List String) : IO Settings.Disk := do
  let found ← paths.filterMapM fun path => do
    return (← readText path).map fun text => (path, text)
  return {
    isFile := fun path => (found.lookup path).isSome
    read := fun path => (found.lookup path).getD (.error .noSuchFile) }

/-- Load the settings of all files that are there. -/
def settings : IO (Except FileFault Unit × Settings.Store × List Event) := do
  let env ← environment
  let disk ← disk env.settingsFiles
  let store : Settings.Store := ⟨env, disk, Settings.Toml.table "not a settings file", []⟩
  return store.load

def now : IO Timestamp := do
  let t := (← Std.Time.Timestamp.now).toNanosecondsSinceUnixEpoch.val
  return ⟨t / 1000000000, (t / 1000000 % 1000).toNat⟩

/-- The log file that a command line names, if it can be read. -/
def logFile? (args : List String) : Option String :=
  match read args with
  | .ok (options, _) => options.fileName.toOption.join
  | .error _ => none

/-- The files in which records can be added to an opened one. -/
def opened (path : Option String) : Files :=
  match path with
  | some path => Files.write [] path ""
  | none => []

/-- What the console is told of a record that a handler cannot show. -/
def reportUnshown (_ : Handler) (r : Record) : String :=
  s!"--- Logging error ---\nMessage: {Text.Quoted.render r.event.message}\n"

/-- Do the run of a command line with the settings of a store, and write its result. -/
def execute (data : Settings.Entries) (args : List String) : IO UInt32 := do
  let path := logFile? args
  let file ← path.mapM fun path => IO.FS.Handle.mk path .append
  let result := run {
    session := (Session.start []).setSettings data
    isTerminal := ← (← IO.getStderr).isTty
    time := ← now
    background := fun _ => .empty
    report := reportUnshown
    lostActions := []
    files := opened path
    writer := Yaml.Node.document } args
  IO.print result.output
  IO.eprint result.complaint
  if let (some path, some file) := (path, file) then
    file.putStr ((result.files.lookup (Place.ofPath path)).getD "")
  match result.status with
  | .ok status => return status.toUInt32
  | .error fault =>
    IO.eprintln fault.message
    return 1

end CortexFlags.Program

def main (args : List String) : IO UInt32 := do
  match ← CortexFlags.Program.settings with
  | (.ok (), store, _) => CortexFlags.Program.execute store.data args
  | (.error fault, _, _) =>
    IO.eprintln fault.message
    return 1
