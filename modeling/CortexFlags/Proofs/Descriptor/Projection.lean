import CortexFlags.Proofs.Descriptor.Outcome

/-! What a query keeps of the descriptor that asks it.

* `query_eq_iff`: the kind of code, the core model, whether the ABI is soft, and the
  flags in the order in which they are asked for;
* `queryFeatures_of_unit`: the flags that a unit is asked for with;
* `sameRequest_iff`: what is asked for tells the float ABI and the features of the unit,
  up to `Masks`, where a softfp ABI is taken for the first feature of a unit;
* `toQuery_eq_iff`: the exact condition under which two queries are equal;
* `toQuery_lossless`: no unit lists the soft float flag, and nothing is lost. -/

namespace CortexFlags

namespace Descriptor

variable {a b d : Descriptor} {p q : Query}

/-! ## What may be the same -/

/-- Code of the same kind, for the same core model. -/
structure SameCode (a b : Descriptor) : Prop where
  instructionSet : a.instructionSet = b.instructionSet
  endianness : a.endianness = b.endianness
  coreModel : a.cpu.coreModel = b.cpu.coreModel

/-- The same float ABI, with units that list the same features in the same order, or
without units. -/
structure SameSettings (a b : Descriptor) : Prop where
  floatAbi : a.floatAbi = b.floatAbi
  features : a.fpu.map Fpu.features = b.fpu.map Fpu.features

/-- The first is softfp and the second hard, with a unit that lists the soft float flag
ahead of what the unit of the first lists. -/
structure Masks (a b : Descriptor) : Prop where
  softfp : a.floatAbi = .softfp
  hard : b.floatAbi = .hard
  features : ∃ f g, a.fpu = some f ∧ b.fpu = some g ∧ g.features = softFloat :: f.features

/-- Two descriptors ask for the same flags, and both or neither with a soft ABI. -/
structure SameRequest (a b : Descriptor) : Prop where
  soft : a.floatAbi = .soft ↔ b.floatAbi = .soft
  features : a.queryFeatures = b.queryFeatures

theorem SameRequest.symm (h : SameRequest a b) : SameRequest b a :=
  ⟨h.soft.symm, h.features.symm⟩

/-- **What a query keeps**, of any two descriptors. -/
theorem query_eq_iff : a.query = b.query ↔ SameCode a b ∧ SameRequest a b := by
  have habi : (if a.floatAbi = .soft then "eabi" else "eabihf") =
      (if b.floatAbi = .soft then "eabi" else "eabihf") ↔
        (a.floatAbi = .soft ↔ b.floatAbi = .soft) := by
    by_cases ha : a.floatAbi = .soft <;> by_cases hb : b.floatAbi = .soft <;> simp [ha, hb]
  simp only [query, Query.mk.injEq, Arch.name_select_eq_iff, habi, true_and]
  constructor
  · rintro ⟨⟨hset, hendian⟩, hsoft, hmodel, hfeatures⟩
    exact ⟨⟨hset, hendian, hmodel⟩, hsoft, hfeatures⟩
  · rintro ⟨⟨hset, hendian, hmodel⟩, hsoft, hfeatures⟩
    exact ⟨⟨hset, hendian⟩, hsoft, hmodel, hfeatures⟩

/-! ## Valid settings -/

/-- Valid settings have a unit exactly where the ABI is not soft. -/
theorem fpu_eq_none_iff_of_valid (hv : d.validate = .ok ()) :
    d.fpu = none ↔ d.floatAbi = .soft := by
  have hvalid := (validate_eq_ok_iff d).mp hv
  cases hf : d.fpu with
  | none =>
    rw [hf] at hvalid
    exact iff_of_true rfl hvalid
  | some f =>
    rw [hf] at hvalid
    exact iff_of_false nofun hvalid.1

theorem queryFeatures_of_unit {f : Fpu} (hf : d.fpu = some f) :
    d.queryFeatures = if d.floatAbi = .softfp then softFloat :: f.features else f.features := by
  unfold queryFeatures
  rw [hf]
  split <;> rfl

theorem SameSettings.sameRequest (h : SameSettings a b) : SameRequest a b where
  soft := by rw [h.floatAbi]
  features := by
    unfold queryFeatures
    rw [h.floatAbi, h.features]

theorem Masks.sameRequest (h : Masks a b) : SameRequest a b := by
  obtain ⟨f, g, hf, hg, hfeatures⟩ := h.features
  constructor
  · simp [h.softfp, h.hard]
  · simp [queryFeatures_of_unit hf, queryFeatures_of_unit hg, h.softfp, h.hard, hfeatures]

/-- Two units are asked for alike: the ABI of each decides whether a flag comes ahead. -/
theorem same_or_masks_of_units {f g : Fpu} (hf : a.fpu = some f) (hg : b.fpu = some g)
    (ha : a.floatAbi ≠ .soft) (hb : b.floatAbi ≠ .soft) (h : a.queryFeatures = b.queryFeatures) :
    SameSettings a b ∨ Masks a b ∨ Masks b a := by
  rw [queryFeatures_of_unit hf, queryFeatures_of_unit hg] at h
  cases habi : a.floatAbi with
  | soft => exact absurd habi ha
  | hard =>
    cases habi' : b.floatAbi with
    | soft => exact absurd habi' hb
    | hard =>
      have hfeatures : f.features = g.features := by simpa [habi, habi'] using h
      exact Or.inl ⟨habi.trans habi'.symm, by simp [hf, hg, hfeatures]⟩
    | softfp =>
      have hfeatures : f.features = softFloat :: g.features := by simpa [habi, habi'] using h
      exact Or.inr (Or.inr ⟨habi', habi, g, f, hg, hf, hfeatures⟩)
  | softfp =>
    cases habi' : b.floatAbi with
    | soft => exact absurd habi' hb
    | hard =>
      have hfeatures : softFloat :: f.features = g.features := by simpa [habi, habi'] using h
      exact Or.inr (Or.inl ⟨habi, habi', f, g, hf, hg, hfeatures.symm⟩)
    | softfp =>
      have hfeatures : f.features = g.features := by simpa [habi, habi'] using h
      exact Or.inl ⟨habi.trans habi'.symm, by simp [hf, hg, hfeatures]⟩

/-- **One of the two is masked** where valid descriptors of other settings ask for the
same. A soft ABI asks for nothing, so only hard and softfp can be taken for one another. -/
theorem sameRequest_iff (ha : a.validate = .ok ()) (hb : b.validate = .ok ()) :
    SameRequest a b ↔ SameSettings a b ∨ Masks a b ∨ Masks b a := by
  constructor
  · intro h
    by_cases hsoft : a.floatAbi = .soft
    · have hsoft' : b.floatAbi = .soft := h.soft.mp hsoft
      have hf := (fpu_eq_none_iff_of_valid ha).mpr hsoft
      have hg := (fpu_eq_none_iff_of_valid hb).mpr hsoft'
      exact Or.inl ⟨hsoft.trans hsoft'.symm, by rw [hf, hg]⟩
    · have hhard : b.floatAbi ≠ .soft := fun hsoft' => hsoft (h.soft.mpr hsoft')
      have hf := mt (fpu_eq_none_iff_of_valid ha).mp hsoft
      have hg := mt (fpu_eq_none_iff_of_valid hb).mp hhard
      obtain ⟨f, hf⟩ := Option.ne_none_iff_exists'.mp hf
      obtain ⟨g, hg⟩ := Option.ne_none_iff_exists'.mp hg
      exact same_or_masks_of_units hf hg hsoft hhard h.features
  · rintro (h | h | h)
    · exact h.sameRequest
    · exact h.sameRequest
    · exact h.sameRequest.symm

/-! ## Equal queries -/

/-- **Equal queries**, exactly. -/
theorem toQuery_eq_iff (ha : a.toQuery = .ok p) (hb : b.toQuery = .ok q) :
    p = q ↔ SameCode a b ∧ (SameSettings a b ∨ Masks a b ∨ Masks b a) := by
  obtain ⟨hva, _, rfl⟩ := toQuery_eq_ok_iff.mp ha
  obtain ⟨hvb, _, rfl⟩ := toQuery_eq_ok_iff.mp hb
  rw [query_eq_iff, sameRequest_iff hva hvb]

/-- One query for two targets: the second unit lists the soft float flag ahead of what the
first lists. -/
example :
    let bare : Fpu := ⟨"bare", 1, ["vfp2"]⟩
    let flagged : Fpu := ⟨"flagged", 1, ["soft_float", "vfp2"]⟩
    let cpu : Cpu := ⟨"masked", "Armv7-A", "cortex_a9", [bare, flagged]⟩
    let a : Descriptor := ⟨cpu, .arm, .little, .softfp, some bare⟩
    let b : Descriptor := ⟨cpu, .arm, .little, .hard, some flagged⟩
    a.toQuery = b.toQuery ∧ a.toQuery = .ok a.query ∧ ¬ a.agrees b :=
  ⟨rfl, rfl, by decide⟩

/-- A unit without the soft float flag masks no softfp ABI. -/
theorem not_masks (hplain : ∀ g, b.fpu = some g → softFloat ∉ g.features) : ¬ Masks a b := by
  rintro ⟨_, _, f, g, _, hg, hfeatures⟩
  apply hplain g hg
  rw [hfeatures]
  exact List.mem_cons_self

theorem features_eq_iff {f g : Option Fpu} :
    f.map Fpu.features = g.map Fpu.features ↔
      f = none ∧ g = none ∨ ∃ u v, f = some u ∧ g = some v ∧ u.features = v.features := by
  cases f <;> cases g <;> simp

/-- One CPU and the same settings make one target. -/
theorem agrees_of_same (hcode : SameCode a b) (hsettings : SameSettings a b)
    (hcpu : a.cpu = b.cpu) : a.agrees b := by
  have hunit : fpusAgree a.fpu b.fpu := by
    have hsets := congrArg (Option.map FeatureSet.ofList) hsettings.features
    rw [Option.map_map, Option.map_map] at hsets
    exact fpusAgree_iff.mpr hsets
  exact agrees_iff_fields.mpr
    ⟨hunit, hcpu, hcode.instructionSet, hcode.endianness, hsettings.floatAbi⟩

/-- **A query loses nothing** but names and priorities, as long as no unit lists the soft
float flag: it tells the kind of code, the core model, the float ABI and the features of
the unit, and with the CPU the target. -/
theorem toQuery_lossless (ha : a.toQuery = .ok p) (hb : b.toQuery = .ok q)
    (hplain : ∀ f, a.fpu = some f → softFloat ∉ f.features)
    (hplain' : ∀ g, b.fpu = some g → softFloat ∉ g.features) :
    (p = q ↔ a.instructionSet = b.instructionSet ∧ a.endianness = b.endianness ∧
      a.floatAbi = b.floatAbi ∧ a.cpu.coreModel = b.cpu.coreModel ∧
      (a.fpu = none ∧ b.fpu = none ∨
        ∃ f g, a.fpu = some f ∧ b.fpu = some g ∧ f.features = g.features)) ∧
      (a.cpu = b.cpu → p = q → a.agrees b) := by
  have hiff : p = q ↔ SameCode a b ∧ SameSettings a b := by
    rw [toQuery_eq_iff ha hb]
    simp only [not_masks hplain, not_masks hplain', or_false]
  refine ⟨?_, fun hcpu h => agrees_of_same (hiff.mp h).1 (hiff.mp h).2 hcpu⟩
  rw [hiff, ← features_eq_iff]
  constructor
  · rintro ⟨hcode, hsettings⟩
    exact ⟨hcode.instructionSet, hcode.endianness, hsettings.floatAbi, hcode.coreModel,
      hsettings.features⟩
  · rintro ⟨hset, hendian, habi, hmodel, hfeatures⟩
    exact ⟨⟨hset, hendian, hmodel⟩, habi, hfeatures⟩

/-- A CPU with a unit of two features. -/
def twinCpu : Cpu := ⟨"twin", "Armv7-A", "cortex_a7", [⟨"first", 1, ["vfp2", "d32"]⟩]⟩

/-- The unit of the CPU under a name and with a priority of its own. -/
def twin (abi : FloatAbi) (name : String) (priority : Int) : Descriptor :=
  ⟨twinCpu, .arm, .big, abi, some ⟨name, priority, ["vfp2", "d32"]⟩⟩

/-- Another name and priority do not show in the query, another float ABI does. -/
theorem twins_lossless :
    (twin .softfp "first" 1).toQuery = .ok (twin .softfp "first" 1).query ∧
      (twin .softfp "second" 0).toQuery = .ok (twin .softfp "second" 0).query ∧
      (twin .hard "second" 0).toQuery = .ok (twin .hard "second" 0).query ∧
      (twin .softfp "first" 1).query = (twin .softfp "second" 0).query ∧
      (twin .softfp "first" 1).agrees (twin .softfp "second" 0) ∧
      (twin .softfp "first" 1).query ≠ (twin .hard "second" 0).query := by
  have hplain : ∀ abi name priority f,
      (twin abi name priority).fpu = some f → softFloat ∉ f.features := by
    intro abi name priority f hf
    cases hf
    show softFloat ∉ ["vfp2", "d32"]
    decide
  obtain ⟨hsame, hagrees⟩ := toQuery_lossless (a := twin .softfp "first" 1)
    (b := twin .softfp "second" 0) rfl rfl (hplain _ _ _) (hplain _ _ _)
  obtain ⟨hother, -⟩ := toQuery_lossless (a := twin .softfp "first" 1)
    (b := twin .hard "second" 0) rfl rfl (hplain _ _ _) (hplain _ _ _)
  have hquery := hsame.mpr ⟨rfl, rfl, rfl, rfl, Or.inr ⟨_, _, rfl, rfl, rfl⟩⟩
  refine ⟨rfl, rfl, rfl, hquery, hagrees rfl hquery, fun h => ?_⟩
  obtain ⟨-, -, habi, -⟩ := hother.mp h
  cases habi

end Descriptor

end CortexFlags
