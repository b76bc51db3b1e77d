import CortexFlags.Descriptor.Inference

/-! The unit that inference picks, told by the order of declaration.

* `mostSpecific_filter_eq_some_iff`, `ResolvedArch.inferFpu_eq_some_iff`: the unit
  that is picked leads the declared units: of those whose features are all there
  it has the lowest priority, and is the first declared of that priority;
* `Leads.unique`: at most one unit leads;
* `Leads.before_backed`: under rising priorities it is the first backed unit;
* `Leads.shrink`: a unit that leads keeps leading when flags are lost, as long as
  its own features stay;
* `leads_iff_mostSpecific`: over a computed set of flags, leading is decidable. -/

namespace CortexFlags

/-- All features of the unit are in a set of flags. -/
def Fpu.BackedBy (f : Fpu) (P : String → Prop) : Prop := ∀ x ∈ f.features, P x

theorem Fpu.BackedBy.imp {f : Fpu} {P Q : String → Prop} (h : f.BackedBy P)
    (hpq : ∀ x, P x → Q x) : f.BackedBy Q :=
  fun x hx => hpq x (h x hx)

/-- Of the units that the flags back, this one has the lowest priority, and is the
first declared of that priority. -/
structure Leads (units : List Fpu) (P : String → Prop) (f : Fpu) : Prop where
  backed : f.BackedBy P
  first : ∃ before after, units = before ++ f :: after ∧
    (∀ g ∈ before, g.BackedBy P → f.priority < g.priority) ∧
    ∀ g ∈ after, g.BackedBy P → f.priority ≤ g.priority

/-! ## Leading units -/

namespace Leads

variable {units : List Fpu} {P Q : String → Prop} {f g : Fpu}

theorem mem (h : Leads units P f) : f ∈ units := by
  obtain ⟨before, after, rfl, _⟩ := h.first
  simp

/-- **At most one unit leads.** -/
theorem unique (hf : Leads units P f) (hg : Leads units P g) : f = g := by
  obtain ⟨before, after, he, hb, ha⟩ := hf.first
  obtain ⟨before', after', he', hb', ha'⟩ := hg.first
  rcases List.append_eq_append_iff.mp (he.symm.trans he') with ⟨mid, h, hm⟩ | ⟨mid, h, hm⟩
  · cases mid with
    | nil =>
      cases hm
      rfl
    | cons x mid =>
      obtain ⟨rfl, rfl⟩ := List.cons.inj hm
      have := hb' f (by simp [h]) hf.backed
      have := ha g (by simp) hg.backed
      omega
  · cases mid with
    | nil =>
      cases hm
      rfl
    | cons x mid =>
      obtain ⟨rfl, rfl⟩ := List.cons.inj hm
      have := hb g (by simp [h]) hg.backed
      have := ha' f (by simp) hf.backed
      omega

/-- **Losing rivals.** Where no other units are backed, the unit leads too. -/
theorem shrink (h : Leads units P f) (hsub : ∀ g ∈ units, g.BackedBy Q → g.BackedBy P)
    (hf : f.BackedBy Q) : Leads units Q f := by
  obtain ⟨before, after, he, hb, ha⟩ := h.first
  refine ⟨hf, before, after, he, ?_, ?_⟩
  · intro g hg hq
    exact hb g hg (hsub g (by simp [he, hg]) hq)
  · intro g hg hq
    exact ha g hg (hsub g (by simp [he, hg]) hq)

theorem congr (h : Leads units P f) (hpq : ∀ x, P x ↔ Q x) : Leads units Q f :=
  h.shrink (fun _ _ hg => hg.imp fun x => (hpq x).mpr) (h.backed.imp fun x => (hpq x).mp)

/-- Where units are declared by rising priority, the one that leads is declared
before every other backed unit. -/
theorem before_backed (h : Leads units P f)
    (hs : units.Pairwise fun a b => a.priority ≤ b.priority) (hg : g ∈ units)
    (hback : g.BackedBy P) (hne : g ≠ f) {R : Fpu → Fpu → Prop} (hr : units.Pairwise R) :
    R f g := by
  obtain ⟨before, after, rfl, hb, _⟩ := h.first
  rcases List.mem_append.mp hg with hg | hg
  · have hlt := hb g hg hback
    have hle := (List.pairwise_append.mp hs).2.2 g hg f (List.mem_cons_self ..)
    omega
  · rcases List.mem_cons.mp hg with rfl | hg
    · exact absurd rfl hne
    · exact (List.pairwise_cons.mp (List.pairwise_append.mp hr).2.1).1 g hg

end Leads

/-! ## The scan -/

/-- What the scan holds: the best unit so far if nothing later is better, else the
first of the better ones. -/
theorem foldl_betterFpu_split {b f : Fpu} {units : List Fpu}
    (h : units.foldl betterFpu (some b) = some f) :
    (f = b ∧ ∀ g ∈ units, b.priority ≤ g.priority) ∨
      (f.priority < b.priority ∧ ∃ before after, units = before ++ f :: after ∧
        (∀ g ∈ before, f.priority < g.priority) ∧ ∀ g ∈ after, f.priority ≤ g.priority) := by
  induction units generalizing b with
  | nil =>
    cases h
    exact Or.inl ⟨rfl, by simp⟩
  | cons g rest ih =>
    rw [List.foldl_cons, betterFpu] at h
    by_cases hlt : g.priority < b.priority
    · rw [if_pos hlt] at h
      rcases ih h with ⟨rfl, hrest⟩ | ⟨hfg, before, after, rfl, hb, ha⟩
      · exact Or.inr ⟨hlt, [], rest, rfl, by simp, hrest⟩
      · refine Or.inr ⟨by omega, g :: before, after, rfl, ?_, ha⟩
        intro x hx
        rcases List.mem_cons.mp hx with rfl | hx
        · exact hfg
        · exact hb x hx
    · rw [if_neg hlt] at h
      rcases ih h with ⟨rfl, hrest⟩ | ⟨hfb, before, after, rfl, hb, ha⟩
      · refine Or.inl ⟨rfl, fun x hx => ?_⟩
        rcases List.mem_cons.mp hx with rfl | hx
        · omega
        · exact hrest x hx
      · refine Or.inr ⟨hfb, g :: before, after, rfl, ?_, ha⟩
        intro x hx
        rcases List.mem_cons.mp hx with rfl | hx
        · omega
        · exact hb x hx

theorem foldl_betterFpu_isSome (b : Fpu) (units : List Fpu) :
    ∃ f, units.foldl betterFpu (some b) = some f := by
  induction units generalizing b with
  | nil => exact ⟨b, rfl⟩
  | cons g rest ih =>
    rw [List.foldl_cons, betterFpu]
    split
    · exact ih g
    · exact ih b

theorem mostSpecific_eq_none_iff {units : List Fpu} : mostSpecific units = none ↔ units = [] := by
  cases units with
  | nil => simp [mostSpecific]
  | cons g rest =>
    obtain ⟨f, hf⟩ := foldl_betterFpu_isSome g rest
    simp [mostSpecific, betterFpu, hf]

theorem mostSpecific_split {units : List Fpu} {f : Fpu} (h : mostSpecific units = some f) :
    ∃ before after, units = before ++ f :: after ∧
      (∀ g ∈ before, f.priority < g.priority) ∧ ∀ g ∈ after, f.priority ≤ g.priority := by
  cases units with
  | nil => cases h
  | cons g rest =>
    rcases foldl_betterFpu_split (b := g) h with ⟨rfl, hrest⟩ | ⟨hlt, before, after, rfl, hb, ha⟩
    · exact ⟨[], rest, rfl, by simp, hrest⟩
    · refine ⟨g :: before, after, rfl, ?_, ha⟩
      intro x hx
      rcases List.mem_cons.mp hx with rfl | hx
      · exact hlt
      · exact hb x hx

theorem mostSpecific_filter_eq_none_iff {units : List Fpu} {p : Fpu → Bool} :
    mostSpecific (units.filter p) = none ↔ ∀ f ∈ units, ¬ p f := by
  rw [mostSpecific_eq_none_iff, List.filter_eq_nil_iff]

private theorem leads_of_mostSpecific {units : List Fpu} {p : Fpu → Bool} {P : String → Prop}
    (hp : ∀ g, p g ↔ g.BackedBy P) {f : Fpu} (h : mostSpecific (units.filter p) = some f) :
    Leads units P f := by
  obtain ⟨before, after, he, hb, ha⟩ := mostSpecific_split h
  obtain ⟨front, back, hk, hfront, hback⟩ := List.filter_eq_append_iff.mp he
  obtain ⟨mid, rest, hm, hmid, hf, hrest⟩ := List.filter_eq_cons_iff.mp hback
  refine ⟨(hp f).mp hf, front ++ mid, rest, by simp [hk, hm], ?_, ?_⟩
  · intro g hg hq
    rcases List.mem_append.mp hg with hg | hg
    · exact hb g (hfront ▸ List.mem_filter.mpr ⟨hg, (hp g).mpr hq⟩)
    · exact absurd ((hp g).mpr hq) (hmid g hg)
  · intro g hg hq
    exact ha g (hrest ▸ List.mem_filter.mpr ⟨hg, (hp g).mpr hq⟩)

/-- **The most specific of the backed units is the one that leads.** -/
theorem mostSpecific_filter_eq_some_iff {units : List Fpu} {p : Fpu → Bool} {P : String → Prop}
    (hp : ∀ g, p g ↔ g.BackedBy P) {f : Fpu} :
    mostSpecific (units.filter p) = some f ↔ Leads units P f := by
  constructor
  · exact leads_of_mostSpecific hp
  · intro h
    cases hi : mostSpecific (units.filter p) with
    | none => exact absurd ((hp f).mpr h.backed) (mostSpecific_filter_eq_none_iff.mp hi f h.mem)
    | some g => rw [(leads_of_mostSpecific hp hi).unique h]

instance (s : FeatureSet) (f : Fpu) : Decidable (f.BackedBy (· ∈ s)) :=
  inferInstanceAs (Decidable (∀ x ∈ f.features, x ∈ s))

theorem leads_iff_mostSpecific {units : List Fpu} {s : FeatureSet} {f : Fpu} :
    mostSpecific (units.filter fun g => decide (g.BackedBy (· ∈ s))) = some f ↔
      Leads units (· ∈ s) f :=
  mostSpecific_filter_eq_some_iff fun _ => decide_eq_true_iff

instance (units : List Fpu) (s : FeatureSet) (f : Fpu) : Decidable (Leads units (· ∈ s) f) :=
  decidable_of_iff _ leads_iff_mostSpecific

/-! ## Inference -/

namespace ResolvedArch

variable {r : ResolvedArch} {k : Catalogue} {f : Fpu}

theorem hasAll_features_iff : r.hasAll f.features ↔ f.BackedBy (· ∈ r.features) := hasAll_iff

@[simp] theorem hasAll_singleton {x : String} : r.hasAll [x] ↔ x ∈ r.features := by
  simp [hasAll_iff]

theorem inferFpu_eq_none_iff :
    r.inferFpu k = none ↔ ∀ f ∈ k.fpus, ¬ f.BackedBy (· ∈ r.features) := by
  rw [inferFpu, matchingFpus, mostSpecific_filter_eq_none_iff]
  simp only [hasAll_features_iff]

theorem inferFpu_eq_some_iff : r.inferFpu k = some f ↔ Leads k.fpus (· ∈ r.features) f :=
  mostSpecific_filter_eq_some_iff fun _ => hasAll_features_iff

theorem leads_of_inferFpu (h : r.inferFpu k = some f) : Leads k.fpus (· ∈ r.features) f :=
  inferFpu_eq_some_iff.mp h

end ResolvedArch

end CortexFlags
