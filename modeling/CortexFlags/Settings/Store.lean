import CortexFlags.Settings.Known
import CortexFlags.Table

/-! The settings store: data merged from the settings files on first use. The tables of a
later file replace those of an earlier one as a whole. A file whose text has no table is
reported and left out; one that cannot be read ends the load, and what was merged before it
stays. -/

namespace CortexFlags.Settings

/-! ## Where settings files are -/

/-- The variables of the environment, and the home directory that the system has for the
user, if it has one. -/
structure Environment where
  vars : List (String × String)
  userHome : Option String
deriving Repr

namespace Environment

/-- The home directory without slashes at its end, or the tilde that stands for it. -/
def home (env : Environment) : String :=
  match (env.vars.lookup "HOME").or env.userHome with
  | some path => path.toList.reverse.dropWhile (· = '/') |>.reverse |> String.ofList
  | none => "~"

def fileName : String := "armtarget.toml"

/-- A name within a directory; the empty directory adds nothing. -/
def within (directory name : String) : String :=
  if directory.isEmpty || directory.endsWith "/" then directory ++ name
  else directory ++ "/" ++ name

/-- The settings files in the order they are merged: the one that is named, or the
one of the settings directory and the one at home. -/
def settingsFiles (env : Environment) : List String :=
  match env.vars.lookup "ARMTARGET_CONFIG" with
  | some path => [path]
  | none =>
      let directory := (env.vars.lookup "XDG_CONFIG_HOME").getD (env.home ++ "/.config")
      [within directory fileName, env.home ++ "/" ++ fileName]

end Environment

/-! ## What is read -/

/-- A disk, as far as settings are read from it: whether a path leads to a file, and the text
that is read there, which may fail. -/
structure Disk where
  isFile : String → Bool
  read : String → Except FileFault String

def Disk.ofFiles (files : Files) : Disk := ⟨files.isRegular, files.read⟩

/-- A way to read the text of a settings file: as a table, or with a complaint. -/
abbrev Parser := String → Except String (Table Value)

/-! ## Merging -/

/-- Entries replaced or extended by those of another table. -/
def merge (data more : Entries) : Entries :=
  more.foldl (fun data entry => putEntry entry.1 entry.2 data) data

/-- The settings with everything they are read from. -/
structure Store where
  env : Environment
  disk : Disk
  parse : Parser
  data : Entries

namespace Store

/-- Merge a text; one without a table changes nothing and is reported. -/
def mergeText (s : Store) (path text : String) : Store × List Event :=
  match s.parse text with
  | .ok table => ({ s with data := merge s.data table.entries }, [])
  | .error complaint => (s, [⟨loggerName, .error, s!"{path}: {complaint}"⟩])

/-- Merge a file, whatever kind it is. -/
def loadFile (s : Store) (path : String) : Except FileFault (Store × List Event) := do
  return s.mergeText path (← s.disk.read path)

/-- Merge the files that are there, one after the other, up to one that cannot be read. -/
def loadFiles (s : Store) : List String → Except FileFault Unit × Store × List Event
  | [] => (.ok (), s, [])
  | path :: paths =>
      if s.disk.isFile path then
        match s.loadFile path with
        | .error fault => (.error fault, s, [])
        | .ok (s, events) =>
            let (outcome, s, more) := s.loadFiles paths
            (outcome, s, events ++ more)
      else s.loadFiles paths

/-- Merge all settings files that are there. -/
def load (s : Store) : Except FileFault Unit × Store × List Event :=
  s.loadFiles s.env.settingsFiles

/-- Load the settings as long as there are none. -/
def ensureLoaded (s : Store) : Except FileFault Unit × Store × List Event :=
  if s.data.isEmpty then s.load else (.ok (), s, [])

/-! ## Reading -/

/-- Read the data, loaded first if there are none. -/
def consult {α : Type} (s : Store) (reading : Entries → Except SectionFault α × List Event) :
    Except SectionFault α × Store × List Event :=
  match s.ensureLoaded with
  | (.error fault, s, events) => (.error (.unread fault), s, events)
  | (.ok (), s, events) =>
      let (outcome, more) := reading s.data
      (outcome, s, events ++ more)

/-- The section of a dotted name. -/
def sectionOf (s : Store) (title : String) : Except SectionFault Value × Store × List Event :=
  s.consult fun data => (findSection data title, [])

/-- The fields of a section. -/
def fieldsOf (s : Store) (title : String) (fields : List Field) :
    Except SectionFault Entries × Store × List Event :=
  s.consult fun data => readSection data title fields

end Store

end CortexFlags.Settings
