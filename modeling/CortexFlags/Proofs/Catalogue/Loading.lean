import CortexFlags.Catalogue.Loading
import CortexFlags.Proofs.Catalogue.Construction

/-! What a load of the catalogue depends on.

* `CatalogueSettings.read_eq`: of the settings, the answer to whether plugins are
  allowed, which is yes unless the section says no;
* `load_eq`: of the plugins, those that are allowed;
* `ofPlugins_nil`: the shipped knowledge base alone makes a catalogue. -/

namespace CortexFlags

namespace Settings.CatalogueSettings

/-- Whether the entries of the section allow plugins. -/
def allowsPlugins (entries : Entries) : Bool :=
  match entries.lookup "load_plugins" with
  | some (.bool b) => b
  | _ => true

/-- A section that is not there is an empty table. -/
theorem findSection_title (settings : Entries) :
    findSection settings title = .ok ((settings.lookup "catalogue").getD (.table [])) := by
  have hpath : Text.pieces '.' title = ["catalogue"] := by decide
  rw [findSection, hpath, Value.walk, Value.walk]

theorem read_eq {settings entries : Entries}
    (h : (settings.lookup "catalogue").getD (.table []) = .table entries) :
    (read settings).1 = .ok ⟨allowsPlugins entries⟩ := by
  have hfield : (Field.read title entries ⟨"load_plugins", .bool, .bool true⟩).1 =
      .bool (allowsPlugins entries) := by
    rw [Field.read, allowsPlugins]
    cases entries.lookup "load_plugins" with
    | none => rfl
    | some v => cases v <;> rfl
  rw [read, readSection, findSection_title, h]
  simp only [readFields, fields, List.map_cons, List.map_nil, hfield]
  rfl

end Settings.CatalogueSettings

namespace Catalogue

open Settings.CatalogueSettings

/-- **Plugins that are not allowed make no difference.** -/
theorem load_eq {settings entries : Settings.Entries}
    (h : (settings.lookup "catalogue").getD (.table []) = .table entries)
    (plugins : List Plugin) :
    (load settings plugins).1 = ofPlugins (if allowsPlugins entries then plugins else []) := by
  have hread := read_eq h
  unfold load
  split
  · rename_i fault events hfault
    rw [hfault] at hread
    cases hread
  · rename_i found events hfound
    rw [hfound] at hread
    cases hread
    cases allowsPlugins entries <;> rfl

theorem ofPlugins_nil : ∃ k, build KnowledgeBase.shipped = .ok k ∧ ofPlugins [] = .ok k := by
  have hmade : failure? (build KnowledgeBase.shipped) = none := by
    rw [failure?_build]
    decide +kernel
  obtain ⟨k, hk⟩ := failure?_eq_none_iff.mp hmade
  refine ⟨k, hk, ?_⟩
  rw [ofPlugins, KnowledgeBase.extend, List.foldl_nil, hk]

end Catalogue

end CortexFlags
