import CortexFlags.Catalogue.Shipped

/-! Plugins: changes of the knowledge base that are made before the catalogue is built. A plugin
may change it at will. Some are lists of edits; such a plugin stops where it removes a name that
is not there, and what it did before stays. -/

namespace CortexFlags

/-- A plugin changes the knowledge base. -/
structure Plugin where
  apply : KnowledgeBase → KnowledgeBase

/-- Edits of rows, made in the order of the fields. -/
structure Edits where
  fpus : List (String × FpuRow)
  cpus : List (String × CpuRow)
  removeFpus : List String
  removeCpus : List String
deriving DecidableEq, Repr

/-- Remove names in order, up to the first that is not there. Tells whether all
of them were removed. -/
def Table.removeAll {α : Type} (t : Table α) : List String → Table α × Bool
  | [] => (t, true)
  | name :: names =>
      if name ∈ t.keys then (t.erase name).removeAll names else (t, false)

def Edits.make (e : Edits) (base : KnowledgeBase) : KnowledgeBase :=
  let fpus := base.fpus.putAll e.fpus
  let cpus := base.cpus.putAll e.cpus
  match fpus.removeAll e.removeFpus with
  | (fpus, false) => ⟨fpus, cpus⟩
  | (fpus, true) => ⟨fpus, (cpus.removeAll e.removeCpus).1⟩

namespace Plugin

def ofEdits (e : Edits) : Plugin := ⟨e.make⟩

/-- The plugin that adds the Cortex-M52. -/
def cortexM52 : Plugin := .ofEdits {
  fpus := []
  cpus := [("cortex-m52", .full "Armv8.1-M Mainline" "cortex_m52" ["fp-armv8", "neon-fp-armv8"])]
  removeFpus := []
  removeCpus := [] }

end Plugin

namespace KnowledgeBase

/-- The knowledge base after each plugin in turn. -/
def extend (base : KnowledgeBase) (plugins : List Plugin) : KnowledgeBase :=
  plugins.foldl (fun base plugin => plugin.apply base) base

end KnowledgeBase

end CortexFlags
