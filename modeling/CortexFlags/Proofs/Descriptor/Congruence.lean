import CortexFlags.Proofs.Descriptor.FixedPoint
import CortexFlags.Report.Kind

/-! Agreeing descriptors cannot be told apart, though their units may differ in name,
priority, and in the order and repetition of their features.

* `validate_congr`: they are valid together, or break the same kind of rule;
* `query_alike`: they ask for the same flags of the same core model, whence
  `Query.Alike.resolve` gives both the same resolved architecture, or none;
* `isWithin_congr`: one may stand in the place of the other in a list;
* `agrees_congruence`: all of it, with the one difference that there is: each asks for
  as many features as its own unit lists. -/

namespace CortexFlags

variable {a b d : Descriptor} {p q : Query} {r : ResolvedArch} {k : Catalogue}

namespace Descriptor

/-! ## Validity -/

/-- **Valid together**, or broken in the same way, up to the name of the unit. -/
theorem validate_congr (h : a.agrees b) :
    a.validate.mapError ConversionFault.kind = b.validate.mapError ConversionFault.kind := by
  obtain ⟨hunit, hcpu, _, _, habi⟩ := agrees_iff_fields.mp h
  unfold validate
  rw [hcpu, habi]
  rcases fpusAgree_cases hunit with ⟨hf, hg⟩ | ⟨f, g, hf, hg, hsame⟩
  · rw [hf, hg]
  · rw [hf, hg]
    dsimp only
    rw [Cpu.supports_congr hsame]
    -- the four outcomes differ in nothing but the name of the unit
    split
    · rfl
    · split
      · rfl
      · split <;> rfl

theorem valid_of_agrees (h : a.agrees b) (ha : a.validate = .ok ()) : b.validate = .ok () := by
  have hsame := validate_congr h
  rw [ha] at hsame
  cases hb : b.validate with
  | ok _ => rfl
  | error fault =>
    rw [hb] at hsame
    cases hsame

/-- **Too many features**, exactly by the size of the descriptor's own request. -/
theorem tooManyFeatures_iff (hv : d.validate = .ok ()) :
    (∃ count, d.toQuery = .error (.tooManyFeatures count)) ↔ 16 < d.requestSize := by
  rw [toQuery_of_valid hv, length_queryFeatures]
  by_cases hsize : d.requestSize > maxQueryFeatures
  · rw [if_pos hsize]
    exact iff_of_true ⟨_, rfl⟩ hsize
  · rw [if_neg hsize]
    refine iff_of_false ?_ hsize
    rintro ⟨count, hcount⟩
    cases hcount

end Descriptor

/-! ## Queries -/

/-- Queries for the same target: the texts are equal, and so are the sets of flags. -/
structure Query.Alike (p q : Query) : Prop where
  arch : p.arch = q.arch
  os : p.os = q.os
  abi : p.abi = q.abi
  coreModel : p.coreModel = q.coreModel
  featuresAdd : ∀ f, f ∈ p.featuresAdd ↔ f ∈ q.featuresAdd

namespace Query.Alike

theorem symm (h : p.Alike q) : q.Alike p :=
  ⟨h.arch.symm, h.os.symm, h.abi.symm, h.coreModel.symm, fun f => (h.featuresAdd f).symm⟩

theorem resolve (h : p.Alike q) (hr : p.resolve = .ok r) : q.resolve = .ok r :=
  resolve_congr h.arch h.os h.abi h.coreModel h.featuresAdd hr

/-- **The same resolution, or none for both.** The unknown flag that is named may differ. -/
theorem resolve_both (h : p.Alike q) :
    (∃ r, p.resolve = .ok r ∧ q.resolve = .ok r) ∨
      ∃ fault fault', p.resolve = .error fault ∧ q.resolve = .error fault' := by
  cases hp : p.resolve with
  | ok r => exact Or.inl ⟨r, rfl, h.resolve hp⟩
  | error fault =>
    cases hq : q.resolve with
    | error fault' => exact Or.inr ⟨fault, fault', rfl, rfl⟩
    | ok r =>
      have hback := h.symm.resolve hq
      rw [hp] at hback
      cases hback

end Query.Alike

namespace Descriptor

theorem mem_queryFeatures_congr (h : a.agrees b) (x : String) :
    x ∈ a.queryFeatures ↔ x ∈ b.queryFeatures := by
  obtain ⟨hunit, _, _, _, habi⟩ := agrees_iff_fields.mp h
  rw [mem_queryFeatures_iff, mem_queryFeatures_iff, habi]
  refine or_congr_right ?_
  rcases fpusAgree_cases hunit with ⟨hf, hg⟩ | ⟨f, g, hf, hg, hsame⟩
  · rw [hf, hg]
  · rw [hf, hg]
    simpa using Fpu.sameFeatures_iff.mp hsame x

/-- **The same flags of the same core model.** -/
theorem query_alike (h : a.agrees b) : a.query.Alike b.query := by
  obtain ⟨_, hcpu, hset, hendian, habi⟩ := agrees_iff_fields.mp h
  refine ⟨?_, rfl, ?_, ?_, mem_queryFeatures_congr h⟩
  · rw [query, query, hset, hendian]
  · rw [query, query, habi]
  · rw [query, query, hcpu]

/-! ## Lists of descriptors -/

/-- **One in the place of the other.** -/
theorem isWithin_congr (h : a.agrees b) (r : ResolvedArch) (k : Catalogue)
    (before after : List Descriptor) :
    r.isWithin k (before ++ a :: after) = r.isWithin k (before ++ b :: after) := by
  unfold ResolvedArch.isWithin
  cases ofResolved k r with
  | error fault => rfl
  | ok d => simp only [List.any_append, List.any_cons, agrees_congr_right h]

/-! ## All observers -/

/-- **Agreement is a congruence** for validation, the query, its resolution, inference from
it and membership, for any catalogue and any two agreeing descriptors. -/
theorem agrees_congruence (h : a.agrees b) (k : Catalogue) :
    a.validate.mapError ConversionFault.kind = b.validate.mapError ConversionFault.kind ∧
      (a.validate = .ok () → ∀ d ∈ [a, b],
        ((∃ count, d.toQuery = .error (.tooManyFeatures count)) ↔ 16 < d.requestSize)) ∧
      (∀ p q, a.toQuery = .ok p → b.toQuery = .ok q → p.Alike q ∧
        ((∃ r r', p.resolve = .ok r ∧ q.resolve = .ok r' ∧ r = r' ∧
            ofResolved k r = ofResolved k r') ∨
          ∃ fault fault', p.resolve = .error fault ∧ q.resolve = .error fault')) ∧
      ∀ (r : ResolvedArch) (before after : List Descriptor),
        r.isWithin k (before ++ a :: after) = r.isWithin k (before ++ b :: after) := by
  refine ⟨validate_congr h, fun ha d hd => ?_, fun p q hp hq => ?_,
    fun r before after => isWithin_congr h r k before after⟩
  · rcases List.mem_pair.mp hd with rfl | rfl
    · exact tooManyFeatures_iff ha
    · exact tooManyFeatures_iff (valid_of_agrees h ha)
  · obtain ⟨_, _, rfl⟩ := toQuery_eq_ok_iff.mp hp
    obtain ⟨_, _, rfl⟩ := toQuery_eq_ok_iff.mp hq
    have halike := query_alike h
    refine ⟨halike, halike.resolve_both.imp_left ?_⟩
    rintro ⟨r, hr, hr'⟩
    exact ⟨r, r, hr, hr', rfl, rfl⟩

/-- The same feature more often than a query may list features. -/
def crowded : Descriptor := { renamed with fpu := some ⟨"own", 0, List.replicate 17 "vfp2"⟩ }

/-- Two units of other names and features ask for one target; a third asks for too much. -/
theorem renamed_congruence :
    renamed.agrees listedUnit ∧ renamed.toQuery = .ok renamed.query ∧
      listedUnit.toQuery = .ok listedUnit.query ∧ renamed.query ≠ listedUnit.query ∧
      renamed.query.Alike listedUnit.query ∧
      renamed.agrees crowded ∧ crowded.validate = .ok () ∧
      (∃ count, crowded.toQuery = .error (.tooManyFeatures count)) ∧
      ∀ r : ResolvedArch, r.isWithin twoNames [crowded] = r.isWithin twoNames [renamed] := by
  have hlisted : renamed.agrees listedUnit := by decide
  have hcrowded : renamed.agrees crowded := by decide
  obtain ⟨_, _, hqueries, _⟩ := agrees_congruence hlisted twoNames
  obtain ⟨_, hsizes, _, hwithin⟩ := agrees_congruence hcrowded twoNames
  exact ⟨hlisted, rfl, rfl, by decide, (hqueries _ _ rfl rfl).1, hcrowded, rfl,
    (hsizes rfl crowded (by simp)).mpr (by decide), fun r => (hwithin r [] []).symm⟩

end Descriptor

end CortexFlags
