import CortexFlags.Catalogue.Plugin
import CortexFlags.Settings.Known

/-! Loading the catalogue: the shipped knowledge base, extended by the plugins if
the settings allow it, is built anew each time. -/

namespace CortexFlags

/-- Why a catalogue cannot be loaded. -/
inductive LoadFault
  | missingKey (key : String)
  | badSection (fault : Settings.SectionFault)
deriving DecidableEq, Repr

def LoadFault.message : LoadFault → String
  | missingKey key => key
  | badSection fault => fault.message

namespace Catalogue

/-- The catalogue that the shipped knowledge base and the plugins make. -/
def ofPlugins (plugins : List Plugin) : Except LoadFault Catalogue :=
  match build (KnowledgeBase.shipped.extend plugins) with
  | .ok k => .ok k
  | .error missing => .error (.missingKey missing.key)

/-- Plugins go by their place in the list. -/
def pluginNames (plugins : List Plugin) : List String :=
  (List.range plugins.length).map fun i => s!"plugin{i}"

def pluginTrace (plugins : List Plugin) : List Event :=
  if plugins.isEmpty then []
  else [.trace ("loading catalogue plugins " ++ ",".intercalate (pluginNames plugins))]

/-- Load the catalogue, and tell what is said on the way. -/
def load (data : Settings.Entries) (plugins : List Plugin) :
    Except LoadFault Catalogue × List Event :=
  let start := Event.trace "loading catalogue"
  match Settings.CatalogueSettings.read data with
  | (.error fault, events) => (.error (.badSection fault), start :: events)
  | (.ok settings, events) =>
      if settings.loadPlugins then
        (ofPlugins plugins, start :: events ++ pluginTrace plugins)
      else (ofPlugins [], start :: events)

end Catalogue

end CortexFlags
