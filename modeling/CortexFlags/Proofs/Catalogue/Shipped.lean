import CortexFlags.Proofs.Catalogue.Unambiguous

/-! The shipped catalogue, with and without the plugin for the Cortex-M52, is
unambiguous, so that descriptors of its CPUs survive the way through a query.

* `unambiguous_ofPlugins`: the property of the two catalogues;
* `descriptors_come_back`: descriptors come back up to the naming of their unit,
  those of compiler flags as they are. -/

namespace CortexFlags

namespace Catalogue

open Descriptor

/-- What a check finds on the catalogue that the plugins make. -/
theorem exists_of_check (plugins : List Plugin) (check : Catalogue → Bool)
    (h : (ofPlugins plugins).toOption.any check) :
    ∃ k, ofPlugins plugins = .ok k ∧ check k := by
  cases hk : ofPlugins plugins with
  | error fault =>
    rw [hk] at h
    cases h
  | ok k =>
    rw [hk] at h
    exact ⟨k, rfl, h⟩

theorem unambiguous_ofPlugins {plugins : List Plugin}
    (hp : plugins = [] ∨ plugins = [.cortexM52]) :
    ∃ k, ofPlugins plugins = .ok k ∧ k.Unambiguous := by
  have hcheck : (ofPlugins plugins).toOption.any checkUnambiguous := by
    rcases hp with rfl | rfl
    · decide +kernel
    · decide +kernel
  obtain ⟨k, hk, hc⟩ := exists_of_check plugins checkUnambiguous hcheck
  exact ⟨k, hk, unambiguous_of_check hc⟩

/-- **Descriptors come back.** The unit may be any value with the features of a
compatible one; what flags select has its query and comes back as it is. -/
theorem descriptors_come_back {plugins : List Plugin}
    (hp : plugins = [] ∨ plugins = [.cortexM52]) :
    ∃ k, ofPlugins plugins = .ok k ∧
      (∀ d q, d.cpu ∈ k.cpus → d.toQuery = .ok q →
        ∃ r d', q.resolve = .ok r ∧ ofResolved k r = .ok d' ∧ d'.agrees d) ∧
      ∀ flags d, ofFlags k flags = .ok d →
        ∃ q r, d.toQuery = .ok q ∧ q.resolve = .ok r ∧ ofResolved k r = .ok d := by
  obtain ⟨k, hk, h⟩ := unambiguous_ofPlugins hp
  refine ⟨k, hk, ?_, ?_⟩
  · intro d q hc hq
    exact h.agrees_back hc hq
  · intro flags d hd
    exact h.back_of_ofFlags hd

/-- Flags for the CPU of the plugin. -/
def m52Flags : Flags := ⟨some "cortex-m52", some "softfp", some "neon-fp-armv8", true, false, true⟩

/-- What the flags select. -/
def m52 : Descriptor where
  cpu := ⟨"cortex-m52", "Armv8.1-M Mainline", "cortex_m52",
    [⟨"fp-armv8", 2, ["fp_armv8"]⟩, ⟨"neon-fp-armv8", 1, ["neon", "fp_armv8"]⟩]⟩
  instructionSet := .thumb
  endianness := .big
  floatAbi := .softfp
  fpu := some ⟨"neon-fp-armv8", 1, ["neon", "fp_armv8"]⟩

/-- The same with a unit of its own making. -/
def m52Reordered : Descriptor :=
  { m52 with fpu := some ⟨"own", -3, ["fp_armv8", "neon", "fp_armv8"]⟩ }

theorem m52_comes_back :
    ∃ k, ofPlugins [.cortexM52] = .ok k ∧ ofFlags k m52Flags = .ok m52 ∧
      (∃ q r, m52.toQuery = .ok q ∧ q.resolve = .ok r ∧ ofResolved k r = .ok m52) ∧
      ∃ q r d', m52Reordered.toQuery = .ok q ∧ q.resolve = .ok r ∧ ofResolved k r = .ok d' ∧
        d'.agrees m52Reordered := by
  obtain ⟨k, hk, hany, hflags⟩ := descriptors_come_back (Or.inr (rfl : [Plugin.cortexM52] = _))
  obtain ⟨k', hk', hcheck⟩ := exists_of_check [.cortexM52]
    (fun k => (ofFlags k m52Flags).toOption == some m52) (by decide +kernel)
  rw [hk] at hk'
  cases hk'
  have hd : ofFlags k m52Flags = .ok m52 := by
    cases hd : ofFlags k m52Flags with
    | error fault =>
      rw [hd] at hcheck
      cases hcheck
    | ok d =>
      rw [hd] at hcheck
      rw [Option.some.inj (eq_of_beq hcheck)]
  refine ⟨k, hk, hd, hflags _ _ hd, m52Reordered.query, ?_⟩
  obtain ⟨r, d', hr, hd', hagrees⟩ := hany m52Reordered _ (listed_of_ofFlags hd).1 rfl
  exact ⟨r, d', rfl, hr, hd', hagrees⟩

end Catalogue

end CortexFlags
