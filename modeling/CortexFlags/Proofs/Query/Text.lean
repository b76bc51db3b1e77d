import CortexFlags.Features.Vocabulary
import CortexFlags.Query
import Mathlib.Data.List.Basic

/-! Queries as text. A query whose texts are free of separators is read back from
its two written forms (`parse_of_plain`); the names of the vocabulary are free of
separators (`implications_plain`, `coreModels_plain`). Reading gives the one query
free of separators that is written like this (`parse_eq_ok_iff`), so that reading and
writing are inverse to each other (`texts_inverse`). -/

namespace CortexFlags

namespace Query

/-- No separator stands within a text of the query. -/
structure Plain (q : Query) : Prop where
  arch : '-' ∉ q.arch.toList
  os : '-' ∉ q.os.toList
  abi : '-' ∉ q.abi.toList
  coreModel : '+' ∉ q.coreModel.toList
  featuresAdd : ∀ f ∈ q.featuresAdd, '+' ∉ f.toList

/-- **Reading back.** -/
theorem parse_of_plain {q : Query} (h : q.Plain) : parse q.triple q.cpuString = .ok q := by
  have rest : ∀ piece ∈ [q.os, q.abi], '-' ∉ piece.toList := by
    simp only [List.mem_cons, List.not_mem_nil, or_false]
    rintro piece (rfl | rfl)
    · exact h.os
    · exact h.abi
  have ht : Text.cut '-' q.triple = (q.arch, [q.os, q.abi]) := Text.cut_glue h.arch rest
  have hc : Text.cut '+' q.cpuString = (q.coreModel, q.featuresAdd) :=
    Text.cut_glue h.coreModel h.featuresAdd
  unfold parse
  rw [ht, hc]

/-! ## Reading -/

/-- A triple has three parts exactly if it has two separators. -/
theorem cut_triple_iff {triple : String} :
    (∃ arch os abi, Text.cut '-' triple = (arch, [os, abi])) ↔ triple.toList.count '-' = 2 := by
  rw [← Text.length_cut, List.length_eq_two]
  constructor
  · rintro ⟨arch, os, abi, h⟩
    exact ⟨os, abi, congrArg Prod.snd h⟩
  · rintro ⟨os, abi, h⟩
    exact ⟨_, os, abi, Prod.ext rfl h⟩

theorem parse_isOk_iff {triple cpu : String} :
    (∃ q, parse triple cpu = .ok q) ↔ triple.toList.count '-' = 2 := by
  rw [← cut_triple_iff]
  unfold parse
  constructor
  · rintro ⟨q, h⟩
    split at h
    · rename_i arch os abi hcut
      exact ⟨arch, os, abi, hcut⟩
    · cases h
  · rintro ⟨arch, os, abi, hcut⟩
    rw [hcut]
    exact ⟨_, rfl⟩

/-- **Any other triple is refused** and named as it is. -/
theorem parse_eq_error_iff {triple cpu : String} :
    parse triple cpu = .error (.malformedTarget triple) ↔ triple.toList.count '-' ≠ 2 := by
  rw [Ne, ← @parse_isOk_iff triple cpu]
  unfold parse
  split <;> simp

/-- **What is read**: the query free of separators that is written like this. -/
theorem parse_eq_ok_iff {q : Query} {triple cpu : String} :
    parse triple cpu = .ok q ↔ q.Plain ∧ q.triple = triple ∧ q.cpuString = cpu := by
  constructor
  · intro h
    unfold parse at h
    split at h
    · rename_i arch os abi hcut
      obtain ⟨htriple, harch, hrest⟩ := Text.cut_eq_iff.mp hcut
      obtain ⟨hcpu, hmodel, hfeatures⟩ :=
        Text.cut_eq_iff.mp (rfl : Text.cut '+' cpu = ((Text.cut '+' cpu).1, (Text.cut '+' cpu).2))
      cases h
      exact ⟨⟨harch, hrest os (by simp), hrest abi (by simp), hmodel, hfeatures⟩, htriple, hcpu⟩
    · cases h
  · rintro ⟨hplain, rfl, rfl⟩
    exact parse_of_plain hplain

/-- **Reading and writing are inverse**, for the queries whose texts are free of separators
and for the triples of three parts. -/
theorem texts_inverse (q : Query) (triple cpu : String) :
    (parse q.triple q.cpuString = .ok q ↔ q.Plain) ∧
      ((∃ p, parse triple cpu = .ok p) ↔ triple.toList.count '-' = 2) ∧
      (triple.toList.count '-' ≠ 2 → parse triple cpu = .error (.malformedTarget triple)) ∧
      ∀ p, parse triple cpu = .ok p → p.triple = triple ∧ p.cpuString = cpu := by
  refine ⟨?_, parse_isOk_iff, parse_eq_error_iff.mpr, fun p hp => (parse_eq_ok_iff.mp hp).2⟩
  rw [parse_eq_ok_iff]
  exact ⟨fun h => h.1, fun h => ⟨h, rfl, rfl⟩⟩

/-- An empty architecture, and an empty feature between two others. -/
def gaps : Query where
  arch := ""
  os := freestanding
  abi := "eabi"
  coreModel := ""
  featuresAdd := ["vfp2", "", "d32"]

theorem gaps_read_back :
    gaps.triple = "-freestanding-eabi" ∧ gaps.cpuString = "+vfp2++d32" ∧
      parse gaps.triple gaps.cpuString = .ok gaps ∧
      parse "thumb-none" "cortex_m4" = .error (.malformedTarget "thumb-none") := by
  have hplain : gaps.Plain := ⟨by decide, by decide, by decide, by decide, by decide⟩
  obtain ⟨hback, _, _, hwritten⟩ := texts_inverse gaps "-freestanding-eabi" "+vfp2++d32"
  obtain ⟨htriple, hcpu⟩ := hwritten gaps (by rfl)
  obtain ⟨_, _, hrefused, _⟩ := texts_inverse gaps "thumb-none" "cortex_m4"
  exact ⟨htriple, hcpu, hback.mpr hplain, hrefused (by decide)⟩

/-! ## Names of the vocabulary -/

theorem implications_plain : ∀ f ∈ implications.keys, '+' ∉ f.toList := by
  decide

theorem coreModels_plain : ∀ model ∈ coreModels.keys, '+' ∉ model.toList := by
  decide

end Query

end CortexFlags
