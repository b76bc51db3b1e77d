import CortexFlags.Proofs.Descriptor.RoundTrip
import CortexFlags.Proofs.Query.Text

/-! What comes out of inference is a fixed point of asking, writing, reading,
resolving and inferring again.

* `resolve_query_subset`: the descriptor asks for flags of the resolved set only;
* `inferFpu_eq_of_subset`: on the smaller set the same unit is picked;
* `ofResolved_fixed_point`: from any pair of texts the descriptor that is inferred
  has too many features to be asked for, or is inferred again. -/

namespace CortexFlags

namespace Descriptor

variable {k : Catalogue} {d : Descriptor} {q : Query} {r r' : ResolvedArch}

/-! ## Size of a query -/

/-- How many features a query for the descriptor adds, repetitions counted. -/
def requestSize (d : Descriptor) : Nat :=
  (match d.fpu with
    | none => 0
    | some f => f.features.length) + if d.floatAbi = .softfp then 1 else 0

theorem length_queryFeatures (d : Descriptor) : d.queryFeatures.length = d.requestSize := by
  unfold queryFeatures requestSize
  cases d.fpu <;> by_cases h : d.floatAbi = .softfp <;> simp [h]

/-! ## The flags of an inferred descriptor -/

theorem queryFeatures_subset (hd : ofResolved k r = .ok d) {x : String}
    (hx : x ∈ d.queryFeatures) : x ∈ r.features := by
  obtain ⟨_, _, _, hfpu, _, habi⟩ := ofResolved_eq_ok_iff.mp hd
  rcases mem_queryFeatures_iff.mp hx with ⟨hsoftfp, rfl⟩ | ⟨f, hf, hx⟩
  · rw [hsoftfp] at habi
    cases hf : d.fpu with
    | none =>
      rw [hf] at habi
      cases habi
    | some f =>
      rw [hf, ResolvedArch.floatAbiFor] at habi
      by_cases hs : softFloat ∈ r.features
      · exact hs
      · rw [if_neg hs] at habi
        cases habi
  · rw [hf] at hfpu
    exact (ResolvedArch.leads_of_inferFpu hfpu).backed x hx

theorem hard_plain_of_ofResolved (hd : ofResolved k r = .ok d) :
    d.floatAbi = .hard → ∀ f, d.fpu = some f → softFloat ∉ f.features := by
  obtain ⟨_, _, _, hfpu, _, habi⟩ := ofResolved_eq_ok_iff.mp hd
  intro hhard f hf hs
  rw [hf] at hfpu habi
  have hin : softFloat ∈ r.features := (ResolvedArch.leads_of_inferFpu hfpu).backed _ hs
  rw [hhard, ResolvedArch.floatAbiFor, if_pos hin] at habi
  cases habi

theorem coreModel_of_ofResolved (hd : ofResolved k r = .ok d) : d.cpu.coreModel = r.coreModel :=
  (k.cpuForModel?_eq_some_iff.mp (ofResolved_eq_ok_iff.mp hd).1).1

/-- An inferred descriptor is made of entries of the catalogue. -/
theorem listed_of_ofResolved (hd : ofResolved k r = .ok d) :
    d.cpu ∈ k.cpus ∧ ∀ f, d.fpu = some f → f ∈ k.fpus := by
  obtain ⟨hcpu, _, _, hfpu, _, _⟩ := ofResolved_eq_ok_iff.mp hd
  refine ⟨List.mem_of_find?_eq_some hcpu, fun f hf => ?_⟩
  rw [hf] at hfpu
  exact (ResolvedArch.leads_of_inferFpu hfpu).mem

/-- **No new flags.** The query of an inferred descriptor resolves within the set
that the descriptor was inferred from. -/
theorem resolve_query_subset (hr : q.resolve = .ok r) (hd : ofResolved k r = .ok d)
    (hr' : d.query.resolve = .ok r') {x : String} (hx : x ∈ r'.features) : x ∈ r.features := by
  obtain ⟨_, _, _, _, _, hmodel⟩ := Query.resolve_eq_ok_iff.mp hr
  refine Query.mem_resolve_of_reaches hr ?_ ((Query.mem_resolve_iff hr').mp hx)
  intro g hg
  rcases List.mem_append.mp hg with hg | hg
  · rw [Query.mem_resolve_iff hr]
    have hsame : d.query.coreModel = q.coreModel := (coreModel_of_ofResolved hd).trans hmodel
    rw [hsame] at hg
    exact .start (List.mem_append_left _ hg)
  · exact queryFeatures_subset hd hg

/-- **The unit stays.** A smaller set that still backs the unit picks it again. -/
theorem inferFpu_eq_of_subset (hsub : ∀ x ∈ r'.features, x ∈ r.features)
    (hback : ∀ f, r.inferFpu k = some f → f.BackedBy (· ∈ r'.features)) :
    r'.inferFpu k = r.inferFpu k := by
  cases hi : r.inferFpu k with
  | none =>
    rw [ResolvedArch.inferFpu_eq_none_iff] at hi ⊢
    intro f hf hb
    exact hi f hf fun x hx => hsub x (hb x hx)
  | some f =>
    have hleads := ResolvedArch.leads_of_inferFpu hi
    exact ResolvedArch.inferFpu_eq_some_iff.mpr
      (hleads.shrink (fun _ _ hg => hg.imp hsub) (hback f hi))

/-! ## The query of an inferred descriptor -/

theorem query_plain (hr : q.resolve = .ok r) (hd : ofResolved k r = .ok d) : d.query.Plain where
  arch := by
    have hname : ∀ i e, '-' ∉ (Arch.select i e).name.toList := by
      intro i e
      cases i <;> cases e <;> decide
    exact hname d.instructionSet d.endianness
  os := by
    show '-' ∉ freestanding.toList
    decide
  abi := by
    by_cases h : d.floatAbi = .soft
    · simp only [query, h, ↓reduceIte]
      decide
    · simp only [query, h, ↓reduceIte]
      decide
  coreModel := by
    obtain ⟨hmodel, _, _, _, _, hsame⟩ := Query.resolve_eq_ok_iff.mp hr
    rw [← hsame, ← coreModel_of_ofResolved hd] at hmodel
    exact Query.coreModels_plain _ hmodel
  featuresAdd f hf :=
    Query.implications_plain f (Query.known_of_mem_resolve hr (queryFeatures_subset hd hf))

/-- An inferred descriptor is inferred from the resolution of its own query. -/
theorem ofResolved_resolve_query (hr : q.resolve = .ok r) (hd : ofResolved k r = .ok d) :
    ∃ r', d.query.resolve = .ok r' ∧ (∀ x ∈ r'.features, x ∈ r.features) ∧
      ofResolved k r' = .ok d := by
  obtain ⟨hknown, _, _, _, _, hsame⟩ := Query.resolve_eq_ok_iff.mp hr
  obtain ⟨hcpu, _, _, hfpu, hsup, _⟩ := ofResolved_eq_ok_iff.mp hd
  have hmodel := coreModel_of_ofResolved hd
  obtain ⟨r', hr'⟩ : ∃ r', d.query.resolve = .ok r' := by
    refine Query.resolve_isOk_iff.mpr ⟨?_, fun x hx => ?_⟩
    · rw [query, hmodel, hsame]
      exact hknown
    · exact Query.known_of_mem_resolve hr (queryFeatures_subset hd hx)
  have hsub : ∀ x ∈ r'.features, x ∈ r.features := fun x => resolve_query_subset hr hd hr'
  have hunit : r'.inferFpu k = d.fpu := by
    rw [inferFpu_eq_of_subset hsub, hfpu]
    intro f hf x hx
    rw [hfpu] at hf
    rw [mem_resolve_query_iff hr', Carries, ← flags_query]
    exact .start (List.mem_append_right _ (mem_queryFeatures_iff.mpr (Or.inr ⟨f, hf, hx⟩)))
  have habi := (floatAbiFor_resolve_iff (validate_of_ofResolved hd) hr').mpr
    (hard_plain_of_ofResolved hd)
  obtain ⟨_, _, harch, hos, _, hmodel'⟩ := Query.resolve_eq_ok_iff.mp hr'
  refine ⟨r', hr', hsub, ofResolved_eq_ok_iff.mpr ⟨?_, harch, hos, hunit, hsup, habi.symm⟩⟩
  rw [hmodel', query, hmodel]
  exact hcpu

/-! ## The fixed point -/

/-- **Inference lands on a fixed point**, from any query, so from any pair of texts:
its descriptor, made of entries of the catalogue, asks for too many features, or
its query is read back from its text and leads to the very same descriptor. -/
theorem ofResolved_fixed_point (hr : q.resolve = .ok r) (hd : ofResolved k r = .ok d) :
    (d.cpu ∈ k.cpus ∧ ∀ f, d.fpu = some f → f ∈ k.fpus) ∧
      ((16 < d.requestSize ∧ d.toQuery = .error (.tooManyFeatures d.requestSize)) ∨
        (d.requestSize ≤ 16 ∧ ∃ q' r', d.toQuery = .ok q' ∧
          Query.parse q'.triple q'.cpuString = .ok q' ∧ q'.resolve = .ok r' ∧
          (∀ x ∈ r'.features, x ∈ r.features) ∧ ofResolved k r' = .ok d)) := by
  have htoQuery := toQuery_of_valid (validate_of_ofResolved hd)
  rw [length_queryFeatures] at htoQuery
  refine ⟨listed_of_ofResolved hd, ?_⟩
  by_cases hsize : d.requestSize > maxQueryFeatures
  · rw [if_pos hsize] at htoQuery
    exact Or.inl ⟨hsize, htoQuery⟩
  · rw [if_neg hsize] at htoQuery
    obtain ⟨r', hr', hsub, hback⟩ := ofResolved_resolve_query hr hd
    exact Or.inr ⟨Nat.le_of_not_lt hsize, d.query, r', htoQuery,
      Query.parse_of_plain (query_plain hr hd), hr', hsub, hback⟩

/-- A query with an ABI text of its own, and with a flag that its core model has. -/
def worded : Query := ⟨"armeb", freestanding, "any", "cortex_m4", ["vfp2", "dsp", "soft_float"]⟩

/-- The flags that the query leads to. -/
def wordedFlags : FeatureSet where
  toList := ["db", "dsp", "fp64", "fpregs", "hwdiv", "mclass", "noarm", "soft_float", "thumb2",
    "thumb_mode", "v7em", "v7m", "vfp2", "vfp2sp"]
  sorted := by decide

theorem worded_fixed_point :
    Query.parse "armeb-freestanding-any" "cortex_m4+vfp2+dsp+soft_float" = .ok worded ∧
      ∃ r d, worded.resolve = .ok r ∧ ofResolved twoNames r = .ok d ∧
        (d.cpu ∈ twoNames.cpus ∧ ∀ f, d.fpu = some f → f ∈ twoNames.fpus) ∧
          ((16 < d.requestSize ∧ d.toQuery = .error (.tooManyFeatures d.requestSize)) ∨
            (d.requestSize ≤ 16 ∧ ∃ q' r', d.toQuery = .ok q' ∧
              Query.parse q'.triple q'.cpuString = .ok q' ∧ q'.resolve = .ok r' ∧
              (∀ x ∈ r'.features, x ∈ r.features) ∧ ofResolved twoNames r' = .ok d)) := by
  have hr : worded.resolve = .ok ⟨"armeb", freestanding, "any", "cortex_m4", wordedFlags⟩ :=
    Query.resolve_of_reached? (by decide) (by decide +kernel)
  have hd : ofResolved twoNames ⟨"armeb", freestanding, "any", "cortex_m4", wordedFlags⟩ =
      .ok { renamed with fpu := some ⟨"vfp", 7, ["vfp2"]⟩ } := by rfl
  exact ⟨by rfl, _, _, hr, hd, ofResolved_fixed_point hr hd⟩

end Descriptor

end CortexFlags
