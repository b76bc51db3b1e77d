import CortexFlags.Files
import CortexFlags.Logging.Event
import CortexFlags.Settings.Value
import CortexFlags.Text.Contains
import CortexFlags.Text.Cut

/-! Sections: tables of the settings, found by a dotted name and read through
declared fields. A field keeps its default if it is absent or ill typed; the
latter is told by one error event. -/

namespace CortexFlags.Settings

/-- The logger of the settings. -/
def loggerName : String := Event.childName "config"

/-- Why a section cannot be read: a settings file cannot, something on the way to the section
is not a table, or it is not a table itself. -/
inductive SectionFault
  | unread (fault : FileFault)
  | noEntries (shape : Shape)
  | notSearchable (shape : Shape)
  | textHasNoKeys
  | listHasNoKeys
deriving DecidableEq, Repr

def SectionFault.message : SectionFault → String
  | unread fault => fault.message
  | noEntries shape => s!"'{shape.typeWord}' object has no attribute 'get'"
  | notSearchable shape => s!"argument of type '{shape.typeWord}' is not iterable"
  | textHasNoKeys => "string indices must be integers, not 'str'"
  | listHasNoKeys => "list indices must be integers or slices, not str"

/-! ## Finding a section -/

/-- Follow names through nested tables; an absent name leads to an empty table. -/
def Value.walk : Value → List String → Except SectionFault Value
  | v, [] => .ok v
  | .table entries, name :: names =>
      ((entries.lookup name).getD (.table [])).walk names
  | v, _ :: _ => .error (.noEntries v.shape)
termination_by _ names => names

/-- The section of a dotted name. -/
def findSection (data : Entries) (title : String) : Except SectionFault Value :=
  (Value.table data).walk (Text.pieces '.' title)

/-! ## Reading fields -/

structure Field where
  name : String
  type : FieldType
  default : Value
deriving Repr

/-- The value of a field in a table, and what is said about it. -/
def Field.read (title : String) (entries : Entries) (f : Field) : Value × List Event :=
  match entries.lookup f.name with
  | none => (f.default, [])
  | some v =>
      if f.type.accepts v.shape then (v, [])
      else (f.default, [⟨loggerName, .error, s!"{title}.{f.name}: {f.type.complaint v.shape}"⟩])

def Value.isText (s : String) : Value → Bool
  | .text t => t = s
  | _ => false

/-- Whether a name seems to be a key of a value that is no table: a text may hold
it as a part, a list as an item. -/
def Value.mentions (name : String) : Value → Bool
  | .text s => Text.contains s name
  | .list items => items.any (Value.isText name)
  | _ => false

/-- Why fields cannot be read from a value that is no table. -/
def Value.refuse (v : Value) (fields : List Field) : Option SectionFault :=
  match v with
  | .text _ => if fields.any (v.mentions ·.name) then some .textHasNoKeys else none
  | .list _ => if fields.any (v.mentions ·.name) then some .listHasNoKeys else none
  | other => if fields.isEmpty then none else some (.notSearchable other.shape)

/-- The fields of a section with their values, and the events about ill-typed ones. -/
def readFields (title : String) (fields : List Field) (v : Value) :
    Except SectionFault Entries × List Event :=
  match v with
  | .table entries =>
      (.ok (fields.map fun f => (f.name, (f.read title entries).1)),
        fields.flatMap fun f => (f.read title entries).2)
  | other =>
      match other.refuse fields with
      | some fault => (.error fault, [])
      | none => (.ok (fields.map fun f => (f.name, f.default)), [])

def readSection (data : Entries) (title : String) (fields : List Field) :
    Except SectionFault Entries × List Event :=
  match findSection data title with
  | .error fault => (.error fault, [])
  | .ok v => readFields title fields v

end CortexFlags.Settings
