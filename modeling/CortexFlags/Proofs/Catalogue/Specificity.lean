import CortexFlags.Proofs.Catalogue.Shipped

/-! How specific the unit is that inference picks.

* `Leads.not_exceeded`: where units are declared by rising priority, a superset
  before what it includes, no backed unit implies strictly more than the one
  that leads;
* `shippedOrder`: one pair of the shipped units is declared the other way round;
* `inferFpu_exceeded_iff`: the sets of flags on which this pair counts. -/

namespace CortexFlags

variable {f g : Fpu}

/-! ## Implying more -/

/-- The unit implies all that the other does, and more. -/
def Fpu.Exceeds (g f : Fpu) : Prop :=
  ∃ s t, expand f.features = .ok s ∧ expand g.features = .ok t ∧
    (∀ x ∈ s, x ∈ t) ∧ ∃ x ∈ t, x ∉ s

theorem Fpu.Exceeds.ne (h : g.Exceeds f) : g ≠ f := by
  rintro rfl
  obtain ⟨s, t, hs, ht, _, x, hx, hn⟩ := h
  rw [hs] at ht
  cases ht
  exact hn hx

/-- **Supersets first.** The order that makes the pick the most specific one. -/
theorem Leads.not_exceeded {units : List Fpu} {P : String → Prop} (h : Leads units P f)
    (hs : units.Pairwise fun a b => a.priority ≤ b.priority)
    (hfirst : units.Pairwise fun a b => ¬ b.Exceeds a) (hg : g ∈ units) (hback : g.BackedBy P) :
    ¬ g.Exceeds f := by
  intro hexceeds
  exact h.before_backed hs hg hback hexceeds.ne hfirst hexceeds

/-- A check of `Exceeds` that may only err on flags whose closure is not computed. -/
def Fpu.mayExceed (g f : Fpu) : Bool :=
  match reached? f.features, reached? g.features with
  | some s, some t => s.toList.all (· ∈ t) && t.toList.any (· ∉ s)
  | _, _ => true

theorem Fpu.mayExceed_of_exceeds (h : g.Exceeds f) : g.mayExceed f := by
  obtain ⟨s, t, hs, ht, hall, x, hx, hn⟩ := h
  unfold mayExceed
  cases hs' : reached? f.features with
  | none => rfl
  | some s' =>
    cases ht' : reached? g.features with
    | none => rfl
    | some t' =>
      rw [expand_eq_of_reached? hs'] at hs
      rw [expand_eq_of_reached? ht'] at ht
      cases hs
      cases ht
      rw [Bool.and_eq_true, List.all_eq_true, List.any_eq_true]
      exact ⟨fun y hy => decide_eq_true (hall y hy), x, hx, decide_eq_true hn⟩

/-! ## The shipped units -/

namespace Catalogue

open Descriptor

/-- VFPv3 in single precision, on sixteen registers. -/
def narrowVfpv3 : Fpu := ⟨"vfpv3-d16-fp16", 6, ["vfp3d16sp"]⟩

/-- The same on thirty-two registers. -/
def wideVfpv3 : Fpu := ⟨"vfpv3-fp16", 6, ["vfp3sp"]⟩

/-- What holds of two shipped units that are declared in this order. -/
structure DeclaredBefore (f g : Fpu) : Prop where
  exceeded : g.Exceeds f → f = narrowVfpv3 ∧ g = wideVfpv3
  after_narrow : f = narrowVfpv3 → "vfp3d16" ∉ g.features ∧ "vfp4d16sp" ∉ g.features
  before_narrow : g = narrowVfpv3 →
    Reaches implications f.features "vfp3d16" ∨ Reaches implications f.features "vfp4d16sp"

/-- The shipped units by rising priority, with the units that the order is about. -/
structure ShippedOrder (k : Catalogue) : Prop where
  rising : k.fpus.Pairwise fun f g => f.priority ≤ g.priority
  declared : k.fpus.Pairwise DeclaredBefore
  narrow_mem : narrowVfpv3 ∈ k.fpus
  wide_mem : wideVfpv3 ∈ k.fpus
  double_mem : ∃ f ∈ k.fpus, f.features = ["vfp3d16"]
  vfpv4_mem : ∃ f ∈ k.fpus, f.features = ["vfp4d16sp"]

/-- A check of `DeclaredBefore`. -/
def checkDeclaredBefore (f g : Fpu) : Bool :=
  decide (g.mayExceed f → f = narrowVfpv3 ∧ g = wideVfpv3) &&
    decide (f = narrowVfpv3 → "vfp3d16" ∉ g.features ∧ "vfp4d16sp" ∉ g.features) &&
    decide (g = narrowVfpv3 → (reached? f.features).any fun (s : FeatureSet) =>
      decide ("vfp3d16" ∈ s ∨ "vfp4d16sp" ∈ s))

theorem declaredBefore_of_check (h : checkDeclaredBefore f g) : DeclaredBefore f g := by
  simp only [checkDeclaredBefore, Bool.and_eq_true, decide_eq_true_iff] at h
  obtain ⟨⟨hexceeded, hafter⟩, hbefore⟩ := h
  refine ⟨fun he => hexceeded (Fpu.mayExceed_of_exceeds he), hafter, fun hg => ?_⟩
  obtain ⟨s, hs, hmem⟩ := (Option.any_eq_true ..).mp (hbefore hg)
  rw [← mem_reached?_iff hs, ← mem_reached?_iff hs]
  exact of_decide_eq_true hmem

/-- A check of `ShippedOrder`. -/
def checkShippedOrder (k : Catalogue) : Bool :=
  decide (k.fpus.Pairwise fun f g => f.priority ≤ g.priority) &&
    decide (k.fpus.Pairwise fun f g => checkDeclaredBefore f g) &&
    decide (narrowVfpv3 ∈ k.fpus ∧ wideVfpv3 ∈ k.fpus ∧
      (∃ f ∈ k.fpus, f.features = ["vfp3d16"]) ∧ ∃ f ∈ k.fpus, f.features = ["vfp4d16sp"])

theorem shippedOrder {k : Catalogue} (hk : ofPlugins [] = .ok k) : k.ShippedOrder := by
  obtain ⟨k', hk', hcheck⟩ := exists_of_check [] checkShippedOrder (by decide +kernel)
  rw [hk] at hk'
  cases hk'
  simp only [checkShippedOrder, Bool.and_eq_true, decide_eq_true_iff] at hcheck
  obtain ⟨⟨hrising, hdeclared⟩, hnarrow, hwide, hdouble, hvfpv4⟩ := hcheck
  exact ⟨hrising, hdeclared.imp declaredBefore_of_check, hnarrow, hwide, hdouble, hvfpv4⟩

theorem wide_exceeds_narrow : wideVfpv3.Exceeds narrowVfpv3 := by
  refine ⟨⟨["fpregs", "vfp2sp", "vfp3d16sp"], by decide⟩,
    ⟨["d32", "fpregs", "vfp2sp", "vfp3d16sp", "vfp3sp"], by decide⟩,
    expand_eq_of_reached? (by decide +kernel), expand_eq_of_reached? (by decide +kernel), ?_, ?_⟩
  · decide
  · exact ⟨"d32", by decide, by decide⟩

/-! ## The pick -/

namespace ShippedOrder

variable {k : Catalogue} {q : Query} {r : ResolvedArch}

theorem declaredBefore (h : k.ShippedOrder) (hf : r.inferFpu k = some f) (hg : g ∈ k.fpus)
    (hall : r.hasAll g.features) (hne : g ≠ f) : DeclaredBefore f g :=
  (ResolvedArch.leads_of_inferFpu hf).before_backed h.rising hg
    (ResolvedArch.hasAll_features_iff.mp hall) hne h.declared

/-- Only the narrow unit is ever exceeded, and only where the wide one is backed. -/
theorem exceeded_iff (h : k.ShippedOrder) (hf : r.inferFpu k = some f) :
    (∃ g ∈ k.fpus, r.hasAll g.features ∧ g.Exceeds f) ↔
      f = narrowVfpv3 ∧ "vfp3sp" ∈ r.features := by
  constructor
  · rintro ⟨g, hg, hall, hexceeds⟩
    obtain ⟨rfl, rfl⟩ := (h.declaredBefore hf hg hall hexceeds.ne).exceeded hexceeds
    exact ⟨rfl, ResolvedArch.hasAll_features_iff.mp hall _ (List.mem_cons_self ..)⟩
  · rintro ⟨rfl, hmem⟩
    refine ⟨wideVfpv3, h.wide_mem, ?_, wide_exceeds_narrow⟩
    simpa [wideVfpv3] using hmem

/-- A flag that is a unit by itself: the unit is declared after the one picked. -/
theorem exists_declaredBefore (h : k.ShippedOrder) (hf : r.inferFpu k = some f) {x : String}
    (hx : ∃ g ∈ k.fpus, g.features = [x]) (hne : f.features ≠ [x]) (hmem : x ∈ r.features) :
    ∃ g, g.features = [x] ∧ DeclaredBefore f g := by
  obtain ⟨g, hg, hgx⟩ := hx
  have hall : r.hasAll g.features := by simpa [hgx] using hmem
  refine ⟨g, hgx, h.declaredBefore hf hg hall ?_⟩
  rintro rfl
  exact hne hgx

/-- Which sets of flags the narrow unit is picked from, if they have the wide one. -/
theorem narrow_picked_iff (h : k.ShippedOrder) (hr : q.resolve = .ok r)
    (hf : r.inferFpu k = some f) (hwide : "vfp3sp" ∈ r.features) :
    f = narrowVfpv3 ↔ "vfp3d16" ∉ r.features ∧ "vfp4d16sp" ∉ r.features := by
  constructor
  · rintro rfl
    constructor
    · intro hmem
      obtain ⟨g, hx, hg⟩ := h.exists_declaredBefore hf h.double_mem (by decide) hmem
      exact (hg.after_narrow rfl).1 (by simp [hx])
    · intro hmem
      obtain ⟨g, hx, hg⟩ := h.exists_declaredBefore hf h.vfpv4_mem (by decide) hmem
      exact (hg.after_narrow rfl).2 (by simp [hx])
  · rintro ⟨hdouble, hvfpv4⟩
    -- the narrow unit is backed too, so a different pick would be declared before it
    refine Decidable.byContradiction fun hne => ?_
    have hlist : ∀ x ∈ ["vfp3sp"], x ∈ r.features := by simpa using hwide
    have hnarrow : "vfp3d16sp" ∈ r.features := by
      refine Query.mem_resolve_of_reaches hr hlist ?_
      exact .step (.start (by simp)) (rfl : implications.get? "vfp3sp" = some _) (by simp)
    have hall : r.hasAll narrowVfpv3.features := by simpa [narrowVfpv3] using hnarrow
    have hbefore := h.declaredBefore hf h.narrow_mem hall (Ne.symm hne)
    have hback := (ResolvedArch.leads_of_inferFpu hf).backed
    rcases hbefore.before_narrow rfl with hreach | hreach
    · exact hdouble (Query.mem_resolve_of_reaches hr hback hreach)
    · exact hvfpv4 (Query.mem_resolve_of_reaches hr hback hreach)

end ShippedOrder

/-- **Where the pick is not the most specific match.** A backed unit implies strictly
more than the one that inference picks, in its result or as the unit it refuses,
exactly on the sets of flags with VFPv3 in single precision on thirty-two registers and
neither VFPv3 in double precision nor VFPv4; the two units are then always the same. -/
theorem inferFpu_exceeded_iff {k : Catalogue} {q : Query} {r : ResolvedArch}
    (hk : ofPlugins [] = .ok k) (hr : q.resolve = .ok r) (hf : r.inferFpu k = some f) :
    (∀ d, ofResolved k r = .ok d → d.fpu = some f) ∧
      (∀ unit cpu, ofResolved k r = .error (.incompatibleFpu unit cpu) → unit = f.name) ∧
      (∀ g ∈ k.fpus, r.hasAll g.features → g.Exceeds f →
        f.name = "vfpv3-d16-fp16" ∧ g.name = "vfpv3-fp16") ∧
      ((∃ g ∈ k.fpus, r.hasAll g.features ∧ g.Exceeds f) ↔
        "vfp3sp" ∈ r.features ∧ "vfp3d16" ∉ r.features ∧ "vfp4d16sp" ∉ r.features) := by
  have h := shippedOrder hk
  refine ⟨?_, ?_, ?_, ?_⟩
  · intro d hd
    rw [← (ofResolved_eq_ok_iff.mp hd).2.2.2.1, hf]
  · intro unit cpu herror
    obtain ⟨_, _, g, _, _, _, hg, _, rfl, _⟩ := ofResolved_eq_incompatible_iff.mp herror
    rw [hf] at hg
    cases hg
    rfl
  · intro g hg hall hexceeds
    obtain ⟨rfl, rfl⟩ := (h.declaredBefore hf hg hall hexceeds.ne).exceeded hexceeds
    exact ⟨rfl, rfl⟩
  · rw [h.exceeded_iff hf, and_comm]
    exact and_congr_right fun hwide => h.narrow_picked_iff hr hf hwide

/-- A query for sixteen registers with VFPv4. -/
def vfpv4Query : Query := ⟨"thumb", freestanding, "eabihf", "cortex_m4", ["vfp4d16sp"]⟩

/-- What it resolves to. -/
def vfpv4Arch : ResolvedArch where
  arch := "thumb"
  os := freestanding
  abi := "eabihf"
  coreModel := "cortex_m4"
  features := ⟨["db", "dsp", "fp16", "fpregs", "hwdiv", "mclass", "noarm", "thumb2",
    "thumb_mode", "v7em", "v7m", "vfp2sp", "vfp3d16sp", "vfp4d16sp"], by decide⟩

/-- No unit is more specific than the one that is picked for it. -/
theorem vfpv4Query_not_exceeded :
    ∃ k, ofPlugins [] = .ok k ∧ vfpv4Query.resolve = .ok vfpv4Arch ∧
      vfpv4Arch.inferFpu k = some ⟨"fpv4-sp-d16", 4, ["vfp4d16sp"]⟩ ∧
      ∀ g ∈ k.fpus, vfpv4Arch.hasAll g.features →
        ¬ g.Exceeds ⟨"fpv4-sp-d16", 4, ["vfp4d16sp"]⟩ := by
  obtain ⟨k, hk, hcheck⟩ := exists_of_check []
    (fun k => vfpv4Arch.inferFpu k == some ⟨"fpv4-sp-d16", 4, ["vfp4d16sp"]⟩)
    (by decide +kernel)
  have hr : vfpv4Query.resolve = .ok vfpv4Arch :=
    Query.resolve_of_reached? (by decide) (by decide +kernel)
  have hf := eq_of_beq hcheck
  refine ⟨k, hk, hr, hf, fun g hg hall hexceeds => ?_⟩
  obtain ⟨hwide, _⟩ := (inferFpu_exceeded_iff hk hr hf).2.2.2.mp ⟨g, hg, hall, hexceeds⟩
  exact absurd hwide (by decide)

/-- A query for the thirty-two registers alone. -/
def wideQuery : Query := ⟨"thumb", freestanding, "eabihf", "cortex_m4", ["vfp3sp"]⟩

/-- What it resolves to. -/
def wideArch : ResolvedArch where
  arch := "thumb"
  os := freestanding
  abi := "eabihf"
  coreModel := "cortex_m4"
  features := ⟨["d32", "db", "dsp", "fpregs", "hwdiv", "mclass", "noarm", "thumb2",
    "thumb_mode", "v7em", "v7m", "vfp2sp", "vfp3d16sp", "vfp3sp"], by decide⟩

/-- The CPU that it asks for. -/
def m4 : Cpu := ⟨"cortex-m4", "Armv7E-M", "cortex_m4", [⟨"fpv4-sp-d16", 4, ["vfp4d16sp"]⟩]⟩

/-- The unit that is refused for it is the narrow one. -/
theorem wideQuery_exceeded :
    Query.parse "thumb-freestanding-eabihf" "cortex_m4+vfp3sp" = .ok wideQuery ∧
      ∃ k, ofPlugins [] = .ok k ∧ wideQuery.resolve = .ok wideArch ∧
        wideArch.inferFpu k = some narrowVfpv3 ∧
        ofResolved k wideArch = .error (.incompatibleFpu "vfpv3-d16-fp16" "cortex-m4") ∧
        wideVfpv3 ∈ k.fpus ∧ wideArch.hasAll wideVfpv3.features ∧
        wideVfpv3.Exceeds narrowVfpv3 := by
  obtain ⟨k, hk, hcheck⟩ := exists_of_check []
    (fun k => decide (wideArch.inferFpu k = some narrowVfpv3 ∧ wideVfpv3 ∈ k.fpus ∧
      k.cpuForModel? "cortex_m4" = some m4))
    (by decide +kernel)
  obtain ⟨hf, hmem, hcpu⟩ := of_decide_eq_true hcheck
  refine ⟨by rfl, k, hk, Query.resolve_of_reached? (by decide) (by decide +kernel), hf, ?_, hmem,
    by decide, wide_exceeds_narrow⟩
  exact ofResolved_eq_incompatible_iff.mpr
    ⟨m4, .thumb, narrowVfpv3, hcpu, by decide, rfl, hf, by decide, rfl, rfl⟩

end Catalogue

end CortexFlags
