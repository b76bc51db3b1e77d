import CortexFlags.Proofs.Catalogue.Shipped
import CortexFlags.Proofs.Descriptor.Inferred
import CortexFlags.Proofs.Descriptor.Unique
import CortexFlags.Proofs.Session.History

/-! Whether a resolved architecture is that of one of some descriptors, and the check for
its CPU that may come before.

* `isWithin_iff`: it is if the descriptor behind it agrees with one of them;
* `isWithin_of_covered`: hence all that counts of a list is what its members agree with,
  which `isWithin_of_same_members` and `isWithin_firstOfEach` are cases of;
* `checkCompatibility_eq_error_iff`, `ofResolved_of_incompatible`: where the check fails,
  inference fails for the same reason;
* `Operation.isWithin_eq`, `Operation.ofResolved_eq`, `Operation.checkCompatibility_eq`:
  what a session makes of the three once its catalogue is loaded;
* `collaborators_agree`: all of this, and that on the shipped catalogue a descriptor is
  found again among others by its own query. -/

namespace CortexFlags

variable {k : Catalogue} {r : ResolvedArch} {ds es : List Descriptor} {d : Descriptor}

namespace ResolvedArch

open Descriptor

/-! ## Lists of descriptors -/

/-- **Within a list**: the descriptor behind the architecture agrees with a member. -/
theorem isWithin_iff :
    r.isWithin k ds ↔ ∃ d, ofResolved k r = .ok d ∧ ∃ e ∈ ds, d.agrees e := by
  unfold isWithin
  cases ofResolved k r with
  | error fault => simp
  | ok d => simp

/-- A list may give way to one whose members agree with all of its own. -/
theorem isWithin_of_covered (h : ∀ e ∈ ds, ∃ e' ∈ es, e.agrees e') (hds : r.isWithin k ds) :
    r.isWithin k es := by
  obtain ⟨d, hd, e, he, hagrees⟩ := isWithin_iff.mp hds
  obtain ⟨e', he', hcovered⟩ := h e he
  exact isWithin_iff.mpr ⟨d, hd, e', he', agrees_trans hagrees hcovered⟩

theorem isWithin_of_same_members (h : ∀ e, e ∈ ds ↔ e ∈ es) :
    r.isWithin k ds = r.isWithin k es :=
  Bool.eq_iff_iff.mpr
    ⟨isWithin_of_covered fun e he => ⟨e, (h e).mp he, agrees_refl e⟩,
      isWithin_of_covered fun e he => ⟨e, (h e).mpr he, agrees_refl e⟩⟩

/-- **The first of each group are enough.** -/
theorem isWithin_firstOfEach (r : ResolvedArch) (k : Catalogue) (ds : List Descriptor) :
    r.isWithin k (firstOfEach ds) = r.isWithin k ds := by
  have hleaders := leaders_firstOfEach ds
  refine Bool.eq_iff_iff.mpr ⟨isWithin_of_covered fun e he => ?_, isWithin_of_covered ?_⟩
  · exact ⟨e, hleaders.sublist.subset he, agrees_refl e⟩
  · exact hleaders.covered

theorem isWithin_append (r : ResolvedArch) (k : Catalogue) (ds es : List Descriptor) :
    r.isWithin k (ds ++ es) = (r.isWithin k ds || r.isWithin k es) := by
  unfold isWithin
  cases ofResolved k r with
  | error fault => rfl
  | ok d => exact List.any_append

/-! ## The check for the CPU -/

theorem checkCompatibility_eq_error_iff {fault : ConversionFault} :
    r.checkCompatibility k = .error fault ↔
      (∀ c ∈ k.cpus, c.coreModel ≠ r.coreModel) ∧ fault = .noCpuForModel r.coreModel := by
  rw [← cpuForModel?_eq_none_iff, checkCompatibility]
  cases k.cpuForModel? r.coreModel <;> simp [eq_comm]

/-- **Without a CPU nothing is inferred.** -/
theorem ofResolved_of_incompatible {fault : ConversionFault}
    (h : r.checkCompatibility k = .error fault) : ofResolved k r = .error fault := by
  obtain ⟨hnone, rfl⟩ := checkCompatibility_eq_error_iff.mp h
  exact (Infers.noCpu hnone).ofResolved_eq

theorem isWithin_of_error {fault : ConversionFault} (h : ofResolved k r = .error fault) :
    r.isWithin k ds = false := by
  rw [isWithin, h]

end ResolvedArch

/-! ## Operations of a session -/

section

variable {α ε ε' : Type} {rename : ε → ε'} {outcome : Except ε α}

theorem mapError_eq_ok_iff {a : α} : outcome.mapError rename = .ok a ↔ outcome = .ok a := by
  cases outcome <;> simp [Except.mapError]

theorem mapError_eq_error_iff {fault : ε'} :
    outcome.mapError rename = .error fault ↔
      ∃ cause, outcome = .error cause ∧ fault = rename cause := by
  cases outcome <;> simp [Except.mapError, eq_comm]

end

namespace Operation

variable {s : Session} {α : Type}

/-- A catalogue that is loaded is handed on. -/
theorem catalogue_bind (h : s.lookup.1 = .ok k) (next : Catalogue → Operation α) :
    (catalogue >>= next) s = next k s.lookup.2 := by
  show ExceptT.bindCont next (catalogue s).1 (catalogue s).2 = _
  rw [catalogue, get_bind]
  generalize s.lookup = result at h
  obtain ⟨outcome, s'⟩ := result
  cases h
  rfl

theorem ofConversion_eq (during : Option Conversion) (outcome : Except ConversionFault α)
    (s : Session) :
    ofConversion during outcome s =
      (outcome.mapError fun cause => .fault (.conversion cause during), s) := by
  cases outcome <;> rfl

theorem isWithin_eq (h : s.lookup.1 = .ok k) (r : ResolvedArch) (ds : List Descriptor) :
    isWithin r ds s = (.ok (r.isWithin k ds), s.lookup.2) :=
  catalogue_bind h _

theorem ofResolved_eq (h : s.lookup.1 = .ok k) (r : ResolvedArch) :
    ofResolved r s = ((Descriptor.ofResolved k r).mapError fun cause =>
      .fault (.conversion cause (some .inference)), s.lookup.2) := by
  rw [← ofConversion_eq]
  exact catalogue_bind h _

theorem checkCompatibility_eq (h : s.lookup.1 = .ok k) (r : ResolvedArch) :
    checkCompatibility r s = ((r.checkCompatibility k).mapError fun cause =>
      .fault (.conversion cause (some .compatibilityCheck)), s.lookup.2) := by
  rw [← ofConversion_eq]
  exact catalogue_bind h _

end Operation

/-! ## Resolved queries -/

namespace Catalogue

open Descriptor

/-- **Found again among others by its own query**: on an unambiguous catalogue a descriptor
is within those that have one agreeing with it. -/
theorem Unambiguous.isWithin_iff (h : k.Unambiguous) {q : Query} (hc : d.cpu ∈ k.cpus)
    (hq : d.toQuery = .ok q) :
    ∃ r, q.resolve = .ok r ∧ ∀ ds, r.isWithin k ds ↔ ∃ e ∈ ds, e.agrees d := by
  obtain ⟨r, d', hr, hd', hback⟩ := h.agrees_back hc hq
  refine ⟨r, hr, fun ds => ResolvedArch.isWithin_iff.trans ?_⟩
  constructor
  · rintro ⟨d'', hd'', e, he, hagrees⟩
    -- inference has one outcome, which agrees with the descriptor that was asked for
    cases hd'.symm.trans hd''
    exact ⟨e, he, agrees_trans (agrees_symm hagrees) hback⟩
  · rintro ⟨e, he, hagrees⟩
    exact ⟨d', hd', e, he, agrees_trans hback (agrees_symm hagrees)⟩

end Catalogue

/-! ## All of it -/

/-- **The collaborators agree**: a session that has a catalogue answers whether an
architecture is within some descriptors, and the answer is whether inference finds one of
them; a failed check for the CPU means that it finds none. On the shipped catalogues,
descriptors are found again by their queries. -/
theorem collaborators_agree :
    (∀ (s : Session) k, s.lookup.1 = .ok k → ∀ (r : ResolvedArch) (ds : List Descriptor),
      Operation.isWithin r ds s = (.ok (r.isWithin k ds), s.lookup.2) ∧
      (r.isWithin k ds ↔ ∃ d, (Operation.ofResolved r s).1 = .ok d ∧ ∃ e ∈ ds, d.agrees e) ∧
      (∀ fault, (Operation.ofResolved r s).1 = .error fault →
        ∃ cause, fault = .fault cause ∧ cause.kind.isConversion) ∧
      (∀ fault, (Operation.checkCompatibility r s).1 = .error fault →
        r.isWithin k ds = false ∧
        ∃ cause, (Operation.ofResolved r s).1 = .error (.fault cause) ∧
          cause.kind = .unsupportedCpu) ∧
      (∀ es, (∀ d, d ∈ ds ↔ d ∈ es) → r.isWithin k ds = r.isWithin k es) ∧
      r.isWithin k (Descriptor.firstOfEach ds) = r.isWithin k ds ∧
      ∀ es, r.isWithin k (ds ++ es) = (r.isWithin k ds || r.isWithin k es)) ∧
    ∀ plugins, plugins = [] ∨ plugins = [.cortexM52] →
      ∃ k, Catalogue.ofPlugins plugins = .ok k ∧
        ∀ (d : Descriptor) q, d.cpu ∈ k.cpus → d.toQuery = .ok q →
          ∃ r, q.resolve = .ok r ∧ ∀ ds, r.isWithin k ds ↔ ∃ e ∈ ds, e.agrees d := by
  refine ⟨fun s k hk r ds => ⟨Operation.isWithin_eq hk r ds, ?_, ?_, ?_,
    fun _ => ResolvedArch.isWithin_of_same_members, ResolvedArch.isWithin_firstOfEach r k ds,
    ResolvedArch.isWithin_append r k ds⟩, ?_⟩
  · simp only [Operation.ofResolved_eq hk, mapError_eq_ok_iff]
    exact ResolvedArch.isWithin_iff
  · intro fault hfault
    rw [Operation.ofResolved_eq hk, mapError_eq_error_iff] at hfault
    obtain ⟨cause, -, rfl⟩ := hfault
    exact ⟨_, rfl, cause.isConversion_kind⟩
  · intro fault hfault
    rw [Operation.checkCompatibility_eq hk, mapError_eq_error_iff] at hfault
    obtain ⟨cause, hcause, -⟩ := hfault
    have hinfer := ResolvedArch.ofResolved_of_incompatible hcause
    obtain ⟨-, rfl⟩ := ResolvedArch.checkCompatibility_eq_error_iff.mp hcause
    refine ⟨ResolvedArch.isWithin_of_error hinfer,
      .conversion (.noCpuForModel r.coreModel) (some .inference), ?_, rfl⟩
    rw [Operation.ofResolved_eq hk, hinfer]
    rfl
  · intro plugins hp
    obtain ⟨k, hk, h⟩ := Catalogue.unambiguous_ofPlugins hp
    exact ⟨k, hk, fun _ _ => h.isWithin_iff⟩

/-- An architecture whose core model no shipped CPU has. -/
def a9Arch : ResolvedArch := ⟨"thumb", "freestanding", "eabi", "cortex_a9", .ofList ["v7a"]⟩

/-- With the plugin, the query of one descriptor finds an agreeing one among others, and the
other architecture is refused by the check and within nothing. -/
theorem m52_within :
    ∃ k r, (Session.start [.cortexM52]).lookup.1 = .ok k ∧
      Catalogue.m52Reordered.query.resolve = .ok r ∧
      (Operation.isWithin r [Descriptor.unitless, Catalogue.m52] (.start [.cortexM52])).1 =
        .ok true ∧
      (Operation.isWithin r [Descriptor.unitless] (.start [.cortexM52])).1 = .ok false ∧
      (Operation.checkCompatibility a9Arch (.start [.cortexM52])).1 = .error (.fault
        (.conversion (.noCpuForModel "cortex_a9") (some .compatibilityCheck))) ∧
      (Operation.isWithin a9Arch [Catalogue.m52] (.start [.cortexM52])).1 = .ok false := by
  obtain ⟨hagree, hshipped⟩ := collaborators_agree
  obtain ⟨k, hk, hback⟩ := hshipped [.cortexM52] (.inr rfl)
  obtain ⟨k', hk', hcheck⟩ := Catalogue.exists_of_check [.cortexM52]
    (fun k => decide (Catalogue.m52.cpu ∈ k.cpus ∧ ∀ c ∈ k.cpus, c.coreModel ≠ "cortex_a9"))
    (by decide +kernel)
  rw [hk] at hk'
  cases hk'
  obtain ⟨hlisted, hnone⟩ := of_decide_eq_true hcheck
  have hlookup : (Session.start [.cortexM52]).lookup.1 = .ok k := by
    rw [Session.lookup_fresh rfl, Catalogue.load_eq rfl]
    exact hk
  obtain ⟨r, hr, hwithin⟩ := hback Catalogue.m52Reordered _ hlisted rfl
  have hthere : r.isWithin k [Descriptor.unitless, Catalogue.m52] :=
    (hwithin _).mpr ⟨Catalogue.m52, by simp, by decide⟩
  have hmissing : r.isWithin k [Descriptor.unitless] = false := by
    rw [Bool.eq_false_iff, Ne, hwithin]
    decide
  have hcompatible : (Operation.checkCompatibility a9Arch (.start [.cortexM52])).1 = .error (.fault
      (.conversion (.noCpuForModel "cortex_a9") (some .compatibilityCheck))) := by
    rw [Operation.checkCompatibility_eq hlookup,
      ResolvedArch.checkCompatibility_eq_error_iff.mpr ⟨hnone, rfl⟩]
    rfl
  obtain ⟨hout, -, -, hrefused, -⟩ := hagree _ k hlookup a9Arch [Catalogue.m52]
  refine ⟨k, r, hlookup, hr, ?_, ?_, hcompatible, ?_⟩
  · rw [(hagree _ k hlookup r _).1, hthere]
  · rw [(hagree _ k hlookup r _).1, hmissing]
  · rw [hout, (hrefused _ hcompatible).1]

end CortexFlags
