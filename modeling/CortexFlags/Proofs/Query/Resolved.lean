import CortexFlags.Proofs.Descriptor.Congruence
import CortexFlags.Proofs.Features.Visit

/-! What the resolution of a query comes to.

* `resolve_eq_unknownModel_iff`, `resolve_eq_unknownFeature_iff`: the two refusals. An
  unknown core model hides all flags, and of several unknown flags the last is named;
* `resolve_eq_ok_iff_yields`: the outcome keeps the texts of the query and has the closure
  of the base flags together with that of the added ones;
* `resolve_of_between`: flags that are resolved anyway may be added;
* `resolve_decided`: all of this for every query, and that the order and the repetition of
  the added flags do not decide whether there is an outcome, nor which one. -/

namespace CortexFlags

/-! ## The last unknown flag -/

/-- The last flag of a list that is not in the vocabulary. -/
def LastUnknown (flags : List String) (flag : String) : Prop :=
  ∃ before after, flags = before ++ flag :: after ∧ flag ∉ implications.keys ∧
    ∀ f ∈ after, f ∈ implications.keys

theorem expand_eq_error_iff_lastUnknown {flags : List String} {flag : String} :
    expand flags = .error ⟨flag⟩ ↔ LastUnknown flags flag :=
  expand_eq_error_iff_last

theorem exists_lastUnknown_iff {flags : List String} :
    (∃ flag, LastUnknown flags flag) ↔ ∃ f ∈ flags, f ∉ implications.keys := by
  have hknown : (∃ s, expand flags = .ok s) ↔ ¬ ∃ f ∈ flags, f ∉ implications.keys := by
    rw [expand_isOk_iff]
    simp
  cases h : expand flags with
  | ok s =>
    have hnone := hknown.mp ⟨s, h⟩
    refine iff_of_false ?_ hnone
    rintro ⟨flag, hlast⟩
    rw [expand_eq_error_iff_lastUnknown.mpr hlast] at h
    cases h
  | error e =>
    refine iff_of_true ⟨e.flag, expand_eq_error_iff_lastUnknown.mp h⟩ ?_
    by_contra hnone
    obtain ⟨s, hs⟩ := hknown.mpr hnone
    rw [h] at hs
    cases hs

/-- Known flags in front do not change which flag is named. -/
theorem expand_append_eq_error_iff {base flags : List String} {e : UnknownFeature}
    (hbase : ∀ f ∈ base, f ∈ implications.keys) :
    expand (base ++ flags) = .error e ↔ expand flags = .error e := by
  have hnone : base.reverse.find? (· ∉ implications.keys) = none := by
    rw [List.find?_eq_none]
    intro f hf
    simpa using hbase f (List.mem_reverse.mp hf)
  rw [expand_eq_error_iff, expand_eq_error_iff, List.reverse_append, List.find?_append, hnone,
    Option.or_none]

namespace Query

variable {q : Query} {r : ResolvedArch}

/-! ## Refusals -/

theorem resolve_eq_unknownModel_iff :
    q.resolve = .error (.unknownModel q.coreModel) ↔ q.coreModel ∉ coreModels.keys := by
  rw [Table.mem_keys_iff]
  unfold resolve
  cases coreModels.get? q.coreModel with
  | none => simp
  | some base =>
    dsimp only
    cases expand (base ++ q.featuresAdd) <;> simp

/-- **The last unknown flag is named**, once the core model is known. -/
theorem resolve_eq_unknownFeature_iff {flag : String} :
    q.resolve = .error (.unknownFeature flag) ↔
      q.coreModel ∈ coreModels.keys ∧ LastUnknown q.featuresAdd flag := by
  rw [← expand_eq_error_iff_lastUnknown, Table.mem_keys_iff]
  unfold resolve
  cases hb : coreModels.get? q.coreModel with
  | none => simp
  | some base =>
    have hbase : ∀ f ∈ base, f ∈ implications.keys :=
      coreModels_known _ (Table.mem_entries_of_get? hb)
    rw [← expand_append_eq_error_iff hbase]
    dsimp only
    cases expand (base ++ q.featuresAdd) with
    | ok s => simp
    | error e =>
      obtain ⟨other⟩ := e
      simp

/-! ## The outcome -/

/-- The architecture has the texts of the query, and the flags of the two closures. -/
structure Yields (q : Query) (r : ResolvedArch) : Prop where
  arch : r.arch = q.arch
  os : r.os = q.os
  abi : r.abi = q.abi
  coreModel : r.coreModel = q.coreModel
  features : ∃ base s t, coreModels.get? q.coreModel = some base ∧ expand base = .ok s ∧
    expand q.featuresAdd = .ok t ∧ ∀ f, f ∈ r.features ↔ f ∈ s ∨ f ∈ t

/-- **Base and added flags are closed apart**, and nothing else comes in. -/
theorem resolve_eq_ok_iff_yields : q.resolve = .ok r ↔ q.Yields r := by
  rw [resolve_eq_ok_iff, Table.mem_keys_iff]
  constructor
  · rintro ⟨⟨base, hb⟩, hexpand, harch, hos, habi, hmodel⟩
    rw [flags, hb, Option.getD_some, expand_append_iff] at hexpand
    obtain ⟨s, t, hs, ht, hunion⟩ := hexpand
    exact ⟨harch, hos, habi, hmodel, base, s, t, hb, hs, ht, hunion⟩
  · rintro ⟨harch, hos, habi, hmodel, base, s, t, hb, hs, ht, hunion⟩
    refine ⟨⟨base, hb⟩, ?_, harch, hos, habi, hmodel⟩
    rw [flags, hb, Option.getD_some, expand_append_iff]
    exact ⟨s, t, hs, ht, hunion⟩

/-- **Absorption.** Flags that are resolved anyway may be added, anywhere in the list. -/
theorem resolve_of_between (hr : q.resolve = .ok r) {added : List String}
    (hold : ∀ f ∈ q.featuresAdd, f ∈ added) (hin : ∀ f ∈ added, f ∈ r.features) :
    { q with featuresAdd := added }.resolve = .ok r := by
  obtain ⟨hk, hexpand, htexts⟩ := resolve_eq_ok_iff.mp hr
  have hbase : ∀ f ∈ (coreModels.get? q.coreModel).getD [], f ∈ r.features := by
    intro f hf
    rw [mem_resolve_iff hr]
    exact .start (List.mem_append_left _ hf)
  refine resolve_eq_ok_iff.mpr ⟨hk, expand_of_between hexpand ?_ ?_, htexts⟩
  · intro f hf
    rcases List.mem_append.mp hf with hf | hf
    · exact List.mem_append_left _ hf
    · exact List.mem_append_right _ (hold f hf)
  · intro f hf
    rcases List.mem_append.mp hf with hf | hf
    · exact hbase f hf
    · exact hin f hf

/-! ## All of it -/

/-- **Resolution decided**: an unknown core model is refused first, then the last unknown
flag; any other query has an outcome, the union of two closures. So queries that are alike
share it, or both have none, and adding flags that it has leaves it as it is. -/
theorem resolve_decided (q : Query) :
    (q.resolve = .error (.unknownModel q.coreModel) ↔ q.coreModel ∉ coreModels.keys) ∧
    (∀ flag, q.resolve = .error (.unknownFeature flag) ↔
      q.coreModel ∈ coreModels.keys ∧ LastUnknown q.featuresAdd flag) ∧
    ((∃ flag, LastUnknown q.featuresAdd flag) ↔ ∃ f ∈ q.featuresAdd, f ∉ implications.keys) ∧
    ((∃ r, q.resolve = .ok r) ↔
      q.coreModel ∈ coreModels.keys ∧ ∀ f ∈ q.featuresAdd, f ∈ implications.keys) ∧
    (∀ r, q.resolve = .ok r ↔ q.Yields r) ∧
    (∀ p : Query, p.Alike q → (∃ r, p.resolve = .ok r ∧ q.resolve = .ok r) ∨
      ∃ fault fault', p.resolve = .error fault ∧ q.resolve = .error fault') ∧
    ∀ (r : ResolvedArch) (more added : List String), q.resolve = .ok r →
      (∀ f ∈ more, f ∈ r.features) → (∀ f, f ∈ added ↔ f ∈ q.featuresAdd ∨ f ∈ more) →
      { q with featuresAdd := added }.resolve = .ok r := by
  refine ⟨resolve_eq_unknownModel_iff, fun _ => resolve_eq_unknownFeature_iff,
    exists_lastUnknown_iff, resolve_isOk_iff, fun _ => resolve_eq_ok_iff_yields,
    fun _ => Alike.resolve_both, ?_⟩
  intro r more added hr hmore hadded
  apply resolve_of_between hr
  · intro f hf
    exact (hadded f).mpr (Or.inl hf)
  · intro f hf
    rcases (hadded f).mp hf with hf | hf
    · rw [mem_resolve_iff hr]
      exact .start (List.mem_append_right _ hf)
    · exact hmore f hf

/-- Two of the added flags are unknown. -/
def orchard : Query :=
  ⟨"thumb", freestanding, "eabihf", "cortex_m4", ["vfp2", "pear", "d32", "apple", "dsp"]⟩

/-- What is left when only `vfp2` is added. -/
def orchardFlags : FeatureSet where
  toList := ["db", "dsp", "fp64", "fpregs", "hwdiv", "mclass", "noarm", "thumb2", "thumb_mode",
    "v7em", "v7m", "vfp2", "vfp2sp"]
  sorted := by decide

/-- The second unknown flag is named, unless the core model is unknown too. Without the two,
flags that come with the core model or with `vfp2` may be added, before it and after it. -/
theorem orchard_decided :
    orchard.resolve = .error (.unknownFeature "apple") ∧
    { orchard with coreModel := "cortex_m5" }.resolve = .error (.unknownModel "cortex_m5") ∧
    ∃ r, r.features = orchardFlags ∧ { orchard with featuresAdd := ["vfp2"] }.resolve = .ok r ∧
      { orchard with featuresAdd := ["v7m", "fp64", "vfp2", "dsp"] }.resolve = .ok r := by
  obtain ⟨-, hflag, -⟩ := resolve_decided orchard
  obtain ⟨hmodel, -⟩ := resolve_decided { orchard with coreModel := "cortex_m5" }
  obtain ⟨-, -, -, -, -, -, hadd⟩ := resolve_decided { orchard with featuresAdd := ["vfp2"] }
  have hlast : LastUnknown orchard.featuresAdd "apple" :=
    ⟨["vfp2", "pear", "d32"], ["dsp"], rfl, by decide, by decide⟩
  have hr : { orchard with featuresAdd := ["vfp2"] }.resolve =
      .ok ⟨"thumb", freestanding, "eabihf", "cortex_m4", orchardFlags⟩ :=
    resolve_of_reached? (by decide) (by decide +kernel)
  refine ⟨(hflag "apple").mpr ⟨by decide, hlast⟩, hmodel.mpr (by decide), _, rfl, hr, ?_⟩
  have hperm : ["v7m", "fp64", "vfp2", "dsp"].Perm (["vfp2"] ++ ["v7m", "fp64", "dsp"]) := by
    decide
  apply hadd _ ["v7m", "fp64", "dsp"] _ hr
  · decide
  · intro f
    rw [hperm.mem_iff, List.mem_append]

end Query

end CortexFlags
