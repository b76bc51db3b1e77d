import CortexFlags.Catalogue.Loading
import CortexFlags.Proofs.Descriptor.FixedPoint

/-! Catalogues that give every descriptor of their CPUs back.

* `Unambiguous`: no two CPUs share a core model, and each compatible unit is the
  one that its own features lead to;
* `Unambiguous.recoverable`: a valid descriptor of a listed CPU is recoverable,
  whatever values its unit has;
* `Unambiguous.back_of_ofFlags`: what flags select comes back as it is, names
  included;
* `unambiguous_of_check`: the property follows from a computation. -/

namespace CortexFlags

/-- The flags that descriptors carry without a unit: the one for software registers
and those of the core models. -/
def unitlessFlags : List String := softFloat :: coreModels.entries.flatMap Prod.snd

theorem mem_unitlessFlags_of_base {model x : String} (h : x ∈ (coreModels.get? model).getD []) :
    x ∈ unitlessFlags := by
  cases hb : coreModels.get? model with
  | none => simp [hb] at h
  | some base =>
    rw [hb] at h
    exact List.mem_cons_of_mem _
      (List.mem_flatMap.mpr ⟨(model, base), Table.mem_entries_of_get? hb, h⟩)

namespace Catalogue

/-- Each CPU is the only answer for its core model, each compatible unit the only
answer for its features, and no unit is met without asking for one. -/
structure Unambiguous (k : Catalogue) : Prop where
  model_known : ∀ c ∈ k.cpus, c.coreModel ∈ coreModels.keys
  model_first : ∀ c ∈ k.cpus, k.cpuForModel? c.coreModel = some c
  unit_known : ∀ f ∈ k.fpus, ∀ x ∈ f.features, x ∈ implications.keys
  unit_short : ∀ f ∈ k.fpus, f.features ≠ [] ∧ f.features.length < maxQueryFeatures
  unit_apart : ∀ f ∈ k.fpus, ∀ x ∈ f.features, ¬ Reaches implications unitlessFlags x
  unit_leads : ∀ c ∈ k.cpus, ∀ f ∈ c.compatibleFpus,
    Leads k.fpus (Reaches implications f.features) f
  unit_unique : ∀ c ∈ k.cpus, ∀ f ∈ c.compatibleFpus, ∀ g ∈ k.fpus, g.sameFeatures f → g = f

namespace Unambiguous

open Descriptor

variable {k : Catalogue} {d : Descriptor} {q : Query} {f g : Fpu}

/-! ## The unit of a descriptor -/

/-- The features of a listed unit come from the unit of the descriptor alone. -/
theorem reached_of_carries (h : k.Unambiguous) (hg : g ∈ k.fpus) {x : String}
    (hx : x ∈ g.features) (hcarries : d.Carries x) :
    ∃ f, d.fpu = some f ∧ Reaches implications f.features x := by
  have hapart := h.unit_apart g hg x hx
  unfold Carries requested at hcarries
  rcases reaches_append_iff.mp hcarries with hbase | hrest
  · exact absurd (hbase.mono fun _ => mem_unitlessFlags_of_base) hapart
  · rcases reaches_append_iff.mp hrest with hsoft | hunit
    · refine absurd (hsoft.mono fun y hy => ?_) hapart
      by_cases habi : d.floatAbi = .softfp
      · rw [if_pos habi, List.mem_singleton] at hy
        rw [hy]
        exact List.mem_cons_self ..
      · rw [if_neg habi] at hy
        cases hy
    · cases hf : d.fpu with
      | none =>
        rw [hf] at hunit
        exact absurd hunit not_reaches_nil
      | some f =>
        rw [hf] at hunit
        exact ⟨f, rfl, hunit⟩

/-- The unit of a valid descriptor has the features of a compatible one. -/
theorem exists_compatible (hv : d.validate = .ok ()) (hf : d.fpu = some f) :
    ∃ u ∈ d.cpu.compatibleFpus, u.sameFeatures f := by
  have hvalid := (validate_eq_ok_iff d).mp hv
  rw [hf] at hvalid
  exact Cpu.supports_iff.mp hvalid.2

theorem unitLeads (h : k.Unambiguous) (hc : d.cpu ∈ k.cpus) (hv : d.validate = .ok ()) :
    UnitLeads k d := by
  unfold UnitLeads
  cases hf : d.fpu with
  | none =>
    intro g hg hback
    obtain ⟨x, hx⟩ := List.exists_mem_of_ne_nil _ (h.unit_short g hg).1
    obtain ⟨f, hsome, _⟩ := h.reached_of_carries hg hx (hback x hx)
    rw [hf] at hsome
    cases hsome
  | some f =>
    obtain ⟨u, hu, huf⟩ := exists_compatible hv hf
    have hsame := Fpu.sameFeatures_iff.mp huf
    -- the descriptor backs no unit that the features of its own do not back
    refine ⟨u, (h.unit_leads _ hc u hu).shrink ?_ ?_, hsame⟩
    · intro g hg hback x hx
      obtain ⟨f', hsome, hreach⟩ := h.reached_of_carries hg hx (hback x hx)
      rw [hf] at hsome
      cases hsome
      exact (reaches_congr hsame x).mpr hreach
    · intro x hx
      have hrequested : x ∈ d.requested := by
        rw [requested, hf]
        exact List.mem_append_right _ (List.mem_append_right _ ((hsame x).mp hx))
      exact .start hrequested

/-! ## The round trip -/

/-- **Every valid descriptor of a listed CPU is recoverable**; its unit may be any
value that has the features of a compatible one. -/
theorem recoverable (h : k.Unambiguous) (hc : d.cpu ∈ k.cpus) (hv : d.validate = .ok ()) :
    Recoverable k d where
  model_known := h.model_known d.cpu hc
  features_known f hf x hx := by
    obtain ⟨u, hu, huf⟩ := exists_compatible hv hf
    exact h.unit_known u (k.compatible_mem _ hc u hu) x ((Fpu.sameFeatures_iff.mp huf x).mpr hx)
  cpu_first := (k.cpuForModel?_eq_some_iff.mp (h.model_first d.cpu hc)).2
  unit_leads := h.unitLeads hc hv
  hard_plain _ f hf hs := by
    obtain ⟨u, hu, huf⟩ := exists_compatible hv hf
    exact h.unit_apart u (k.compatible_mem _ hc u hu) softFloat
      ((Fpu.sameFeatures_iff.mp huf _).mpr hs) (.start (List.mem_cons_self ..))

theorem agrees_back (h : k.Unambiguous) (hc : d.cpu ∈ k.cpus) (hq : d.toQuery = .ok q) :
    ∃ r d', q.resolve = .ok r ∧ ofResolved k r = .ok d' ∧ d'.agrees d := by
  obtain ⟨hv, _, rfl⟩ := toQuery_eq_ok_iff.mp hq
  exact agrees_of_recoverable hv (h.recoverable hc hv)

/-- The unit of a listed CPU's descriptor has one entry only. -/
theorem fpu_eq_of_agrees (h : k.Unambiguous) (hc : d.cpu ∈ k.cpus) (hv : d.validate = .ok ())
    (hf : d.fpu = some f) (hfk : f ∈ k.fpus) (hg : g ∈ k.fpus) (hgf : g.sameFeatures f) :
    g = f := by
  obtain ⟨u, hu, huf⟩ := exists_compatible hv hf
  have hfu := Fpu.sameFeatures_symm huf
  rw [h.unit_unique _ hc u hu f hfk hfu,
    h.unit_unique _ hc u hu g hg (Fpu.sameFeatures_trans hgf hfu)]

theorem toQuery_of_listed (h : k.Unambiguous) (hv : d.validate = .ok ())
    (hfk : ∀ f, d.fpu = some f → f ∈ k.fpus) : d.toQuery = .ok d.query := by
  refine toQuery_eq_ok_iff.mpr ⟨hv, ?_, rfl⟩
  rw [length_queryFeatures, requestSize]
  cases hf : d.fpu with
  | none =>
    dsimp only
    split <;> decide
  | some f =>
    have hshort := (h.unit_short f (hfk f hf)).2
    dsimp only
    split <;> omega

/-- **What flags select comes back as it is.** -/
theorem back_of_ofFlags (h : k.Unambiguous) {flags : Flags} (hd : ofFlags k flags = .ok d) :
    ∃ q r, d.toQuery = .ok q ∧ q.resolve = .ok r ∧ ofResolved k r = .ok d := by
  obtain ⟨hc, hfk, hv⟩ := listed_of_ofFlags hd
  have hq := h.toQuery_of_listed hv hfk
  obtain ⟨r, d', hr, hd', hagrees⟩ := h.agrees_back hc hq
  obtain ⟨hunits, hcpu, hiset, hendian, habi⟩ := agrees_iff_fields.mp hagrees
  obtain ⟨_, hgk⟩ := listed_of_ofResolved hd'
  have hunit : d'.fpu = d.fpu := by
    cases hg : d'.fpu <;> cases hf : d.fpu
    · rfl
    · rw [hg, hf] at hunits
      cases hunits
    · rw [hg, hf] at hunits
      cases hunits
    · rw [hg, hf] at hunits
      rw [h.fpu_eq_of_agrees hc hv hf (hfk _ hf) (hgk _ hg) hunits]
  have hsame : d' = d := by
    cases d'
    cases d
    simp_all
  exact ⟨d.query, r, hq, hr, hsame ▸ hd'⟩

end Unambiguous

/-! ## Checking a catalogue -/

/-- The unit leads the declared ones over the closure of its own features. -/
def leadsItself (k : Catalogue) (f : Fpu) : Bool :=
  (reached? f.features).any fun (s : FeatureSet) => decide (Leads k.fpus (· ∈ s) f)

/-- A sufficient check of `Unambiguous`. -/
def checkUnambiguous (k : Catalogue) : Bool :=
  decide (∀ c ∈ k.cpus, c.coreModel ∈ coreModels.keys ∧ k.cpuForModel? c.coreModel = some c ∧
      ∀ f ∈ c.compatibleFpus, k.leadsItself f ∧ ∀ g ∈ k.fpus, g.sameFeatures f → g = f) &&
    (reached? unitlessFlags).any fun (s : FeatureSet) =>
      decide (∀ f ∈ k.fpus, f.features ≠ [] ∧ f.features.length < maxQueryFeatures ∧
        ∀ x ∈ f.features, x ∈ implications.keys ∧ x ∉ s)

theorem leads_of_leadsItself {k : Catalogue} {f : Fpu} (h : k.leadsItself f) :
    Leads k.fpus (Reaches implications f.features) f := by
  obtain ⟨s, hs, hleads⟩ := (Option.any_eq_true ..).mp h
  exact (of_decide_eq_true hleads).congr fun _ => mem_reached?_iff hs

theorem unambiguous_of_check {k : Catalogue} (h : k.checkUnambiguous) : k.Unambiguous := by
  rw [checkUnambiguous, Bool.and_eq_true, decide_eq_true_iff, Option.any_eq_true] at h
  obtain ⟨hcpus, s, hs, hcheck⟩ := h
  have hfpus := of_decide_eq_true hcheck
  refine {
    model_known := fun c hc => (hcpus c hc).1
    model_first := fun c hc => (hcpus c hc).2.1
    unit_known := fun f hf x hx => ((hfpus f hf).2.2 x hx).1
    unit_short := fun f hf => ⟨(hfpus f hf).1, (hfpus f hf).2.1⟩
    unit_apart := ?_
    unit_leads := fun c hc f hf => leads_of_leadsItself ((hcpus c hc).2.2 f hf).1
    unit_unique := fun c hc f hf => ((hcpus c hc).2.2 f hf).2 }
  intro f hf x hx
  rw [← mem_reached?_iff hs]
  exact ((hfpus f hf).2.2 x hx).2

end Catalogue

end CortexFlags
