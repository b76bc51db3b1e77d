/-! Floating point units: a name for the `-mfpu` flag, a priority, and the
feature flags that the unit stands for. Aliases have the same set of flags. -/

namespace CortexFlags

/-- A floating point unit; a lower priority is more specific. -/
structure Fpu where
  name : String
  priority : Int
  features : List String
deriving DecidableEq, Repr

namespace Fpu

/-- Both units stand for the same set of feature flags. -/
def sameFeatures (a b : Fpu) : Bool :=
  a.features.all (b.features.contains ·) && b.features.all (a.features.contains ·)

theorem sameFeatures_iff {a b : Fpu} :
    a.sameFeatures b ↔ ∀ f, f ∈ a.features ↔ f ∈ b.features := by
  simp only [sameFeatures, Bool.and_eq_true, List.all_eq_true, List.contains_iff_mem]
  exact ⟨fun h f => ⟨h.1 f, h.2 f⟩, fun h => ⟨fun f => (h f).mp, fun f => (h f).mpr⟩⟩

theorem sameFeatures_symm {a b : Fpu} (h : a.sameFeatures b) : b.sameFeatures a :=
  sameFeatures_iff.mpr fun f => (sameFeatures_iff.mp h f).symm

theorem sameFeatures_trans {a b c : Fpu} (hab : a.sameFeatures b) (hbc : b.sameFeatures c) :
    a.sameFeatures c :=
  sameFeatures_iff.mpr fun f => (sameFeatures_iff.mp hab f).trans (sameFeatures_iff.mp hbc f)

end Fpu

end CortexFlags
