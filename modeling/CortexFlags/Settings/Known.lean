import CortexFlags.Settings.Section

/-! The sections that the program itself reads: how log records are shown, and
whether plugins may extend the catalogue. -/

namespace CortexFlags.Settings

/-! ## Catalogue -/

/-- The `[catalogue]` section. -/
structure CatalogueSettings where
  loadPlugins : Bool
deriving DecidableEq, Repr

namespace CatalogueSettings

def title : String := "catalogue"

def fields : List Field := [⟨"load_plugins", .bool, .bool true⟩]

def ofEntries (entries : Entries) : CatalogueSettings where
  loadPlugins :=
    match entries.lookup "load_plugins" with
    | some (.bool b) => b
    | _ => true

def read (data : Entries) : Except SectionFault CatalogueSettings × List Event :=
  let (outcome, events) := readSection data title fields
  (outcome.map ofEntries, events)

end CatalogueSettings

/-! ## Logging -/

/-- The `[log]` section: whether a console may be coloured, and the formats of the
console and of the log files. -/
structure LogSettings where
  pretty : Bool
  streamFormat : String
  fileFormat : String
deriving DecidableEq, Repr

namespace LogSettings

def standard : LogSettings where
  pretty := true
  streamFormat := "%(levelname)-8s %(message)s"
  fileFormat := "%(asctime)s: %(name)-24s: %(levelname)-8s %(message)s"

def title : String := "log"

def fields : List Field :=
  [⟨"pretty", .bool, .bool standard.pretty⟩,
    ⟨"stream_fmt", .text, .text standard.streamFormat⟩,
    ⟨"file_fmt", .text, .text standard.fileFormat⟩]

private def textOr (default : String) : Option Value → String
  | some (.text s) => s
  | _ => default

def ofEntries (entries : Entries) : LogSettings where
  pretty :=
    match entries.lookup "pretty" with
    | some (.bool b) => b
    | _ => standard.pretty
  streamFormat := textOr standard.streamFormat (entries.lookup "stream_fmt")
  fileFormat := textOr standard.fileFormat (entries.lookup "file_fmt")

def read (data : Entries) : Except SectionFault LogSettings × List Event :=
  let (outcome, events) := readSection data title fields
  (outcome.map ofEntries, events)

end LogSettings

end CortexFlags.Settings
