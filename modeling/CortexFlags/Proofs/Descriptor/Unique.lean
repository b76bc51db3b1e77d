import CortexFlags.Descriptor.Unique
import CortexFlags.Proofs.Descriptor.RoundTrip
import Mathlib.Data.List.Induction

/-! Descriptors without repetition. Agreement is an equivalence, and agreeing descriptors
are filed under one key, so looking among those of the same key misses none
(`any_filed_iff`). Hence what is kept are the leaders of the groups:

* `Leaders.keepNew`: one more descriptor keeps that true;
* `leaders_firstOfEach`: it is true of every list;
* `agreement_files_together`: every member agrees with exactly one of those kept. -/

namespace CortexFlags

namespace Descriptor

variable {a b d : Descriptor} {ds kept : List Descriptor}

theorem agrees_equivalence : Equivalence fun a b : Descriptor => a.agrees b = true :=
  ⟨agrees_refl, agrees_symm, agrees_trans⟩

/-! ## One more descriptor -/

/-- **No agreeing descriptor is missed** by a search under the key. -/
theorem any_filed_iff :
    (kept.any fun k => decide (k.key = d.key) && k.agrees d) ↔ ∃ k ∈ kept, k.agrees d := by
  simp only [List.any_eq_true, Bool.and_eq_true, decide_eq_true_eq]
  constructor
  · rintro ⟨k, hk, _, hagrees⟩
    exact ⟨k, hk, hagrees⟩
  · rintro ⟨k, hk, hagrees⟩
    exact ⟨k, hk, key_eq_of_agrees hagrees, hagrees⟩

theorem keepNew_of_known (h : ∃ k ∈ kept, k.agrees d) : keepNew kept d = kept := by
  rw [keepNew, if_pos (any_filed_iff.mpr h)]

theorem keepNew_of_new (h : ¬ ∃ k ∈ kept, k.agrees d) : keepNew kept d = kept ++ [d] := by
  rw [keepNew, if_neg fun hany => h (any_filed_iff.mp hany)]

/-- The first member of each group of a list, in order. -/
structure Leaders (ds kept : List Descriptor) : Prop where
  sublist : kept.Sublist ds
  apart : kept.Pairwise fun a b => ¬ a.agrees b
  covered : ∀ d ∈ ds, ∃ e ∈ kept, d.agrees e
  first : ∀ e ∈ kept, ds.find? (fun d => d.agrees e) = some e

namespace Leaders

theorem first_append (h : Leaders ds kept) (d : Descriptor) :
    ∀ e ∈ kept, (ds ++ [d]).find? (fun x => x.agrees e) = some e := by
  intro e he
  rw [List.find?_append, h.first e he]
  rfl

theorem known (h : Leaders ds kept) (hd : ∃ k ∈ kept, k.agrees d) : Leaders (ds ++ [d]) kept where
  sublist := h.sublist.trans (List.sublist_append_left ds [d])
  apart := h.apart
  covered x hx := by
    rcases List.mem_append.mp hx with hx | hx
    · exact h.covered x hx
    · obtain ⟨k, hk, hagrees⟩ := hd
      rw [List.mem_singleton.mp hx]
      exact ⟨k, hk, agrees_symm hagrees⟩
  first := h.first_append d

theorem new (h : Leaders ds kept) (hd : ¬ ∃ k ∈ kept, k.agrees d) :
    Leaders (ds ++ [d]) (kept ++ [d]) where
  sublist := h.sublist.append (List.Sublist.refl [d])
  apart := by
    refine List.pairwise_append.mpr ⟨h.apart, List.pairwise_singleton _ d, fun k hk x hx => ?_⟩
    rw [List.mem_singleton.mp hx]
    exact fun hagrees => hd ⟨k, hk, hagrees⟩
  covered x hx := by
    rcases List.mem_append.mp hx with hx | hx
    · obtain ⟨e, he, hagrees⟩ := h.covered x hx
      exact ⟨e, List.mem_append_left _ he, hagrees⟩
    · rw [List.mem_singleton.mp hx]
      exact ⟨d, List.mem_append_right _ List.mem_cons_self, agrees_refl d⟩
  first e he := by
    rcases List.mem_append.mp he with he | he
    · exact h.first_append d e he
    · -- an earlier member of the group would have a leader, which would agree with it
      have hnone : ds.find? (fun x => x.agrees d) = none := by
        rw [List.find?_eq_none]
        intro x hx hagrees
        obtain ⟨k, hk, hkx⟩ := h.covered x hx
        exact hd ⟨k, hk, agrees_trans (agrees_symm hkx) hagrees⟩
      rw [List.mem_singleton.mp he, List.find?_append, hnone, Option.none_or]
      exact List.find?_cons_of_pos (agrees_refl d)

/-- **One more descriptor** joins its group, or leads a new one. -/
theorem keepNew (h : Leaders ds kept) (d : Descriptor) :
    Leaders (ds ++ [d]) (Descriptor.keepNew kept d) := by
  by_cases hd : ∃ k ∈ kept, k.agrees d
  · rw [keepNew_of_known hd]
    exact h.known hd
  · rw [keepNew_of_new hd]
    exact h.new hd

/-- Two leaders of one group are the same. -/
theorem unique (h : Leaders ds kept) (ha : a ∈ kept) (hb : b ∈ kept) (hagrees : a.agrees b) :
    a = b := by
  have hfind : (fun d : Descriptor => d.agrees a) = fun d => d.agrees b :=
    funext fun d => agrees_congr_right hagrees d
  have hfirst := h.first a ha
  rw [hfind, h.first b hb] at hfirst
  exact (Option.some.inj hfirst).symm

end Leaders

/-! ## All descriptors of a list -/

/-- **What is kept leads its groups.** -/
theorem leaders_firstOfEach (ds : List Descriptor) : Leaders ds (firstOfEach ds) := by
  induction ds using List.reverseRecOn with
  | nil => exact ⟨.slnil, .nil, by simp, by simp [firstOfEach]⟩
  | append_singleton ds d ih =>
    rw [firstOfEach, List.foldl_append]
    exact ih.keepNew d

/-- **Agreement and keys fit together**: agreement is an equivalence that keys respect, and
so the descriptors kept of any list are the first of their groups, in order, no two of
them agree, and every member agrees with exactly one. -/
theorem agreement_files_together :
    (Equivalence fun a b : Descriptor => a.agrees b = true) ∧
      (∀ a b : Descriptor, a.agrees b → a.key = b.key) ∧
      ∀ ds : List Descriptor,
        (firstOfEach ds).Sublist ds ∧
        ((firstOfEach ds).Pairwise fun a b => ¬ a.agrees b) ∧
        (∀ d ∈ ds, ∃! e, e ∈ firstOfEach ds ∧ d.agrees e) ∧
        ∀ e ∈ firstOfEach ds, ds.find? (fun d => d.agrees e) = some e := by
  refine ⟨agrees_equivalence, fun _ _ => key_eq_of_agrees, fun ds => ?_⟩
  have hleaders := leaders_firstOfEach ds
  refine ⟨hleaders.sublist, hleaders.apart, fun d hd => ?_, hleaders.first⟩
  obtain ⟨e, he, hagrees⟩ := hleaders.covered d hd
  refine ⟨e, ⟨he, hagrees⟩, ?_⟩
  rintro e' ⟨he', hagrees'⟩
  exact hleaders.unique he' he (agrees_trans (agrees_symm hagrees') hagrees)

/-- The CPU of `renamed` without a unit. -/
def unitless : Descriptor := plain renamed.cpu

/-- Of two names for one unit the first is kept, next to a descriptor without a unit. -/
theorem renamed_kept_first :
    renamed.agrees listedUnit ∧ renamed.key = listedUnit.key ∧ ¬ unitless.agrees renamed ∧
      firstOfEach [unitless, renamed, listedUnit] = [unitless, renamed] ∧
      ∃! e, e ∈ firstOfEach [unitless, renamed, listedUnit] ∧ listedUnit.agrees e := by
  obtain ⟨_, hkeys, hlists⟩ := agreement_files_together
  have hagrees : renamed.agrees listedUnit := by decide
  obtain ⟨_, _, hone, _⟩ := hlists [unitless, renamed, listedUnit]
  exact ⟨hagrees, hkeys _ _ hagrees, by decide, by decide, hone listedUnit (by simp)⟩

end Descriptor

end CortexFlags
