import CortexFlags.Proofs.Descriptor.MostSpecific
import CortexFlags.Proofs.Descriptor.Outcome
import CortexFlags.Proofs.Resolution

/-! When a descriptor comes back from its own query, for every catalogue and
every descriptor, also one whose CPU or unit the catalogue does not list.

* `floatAbiFor_resolve_iff`: the float ABI comes back unless the ABI is hard and
  the unit itself lists the soft float flag;
* `inferFpu_resolve_iff`: the unit comes back exactly if it stands for what its
  flags lead to;
* `agrees_back_iff_recoverable`: the descriptor comes back exactly if it is
  `Recoverable`. -/

namespace CortexFlags

namespace Descriptor

variable {k : Catalogue} {d : Descriptor} {q : Query} {r : ResolvedArch}

/-! ## What a descriptor asks for -/

/-- The base flags of the core model, the soft float flag where the ABI is softfp,
and the features of the unit. -/
def requested (d : Descriptor) : List String :=
  (coreModels.get? d.cpu.coreModel).getD [] ++
    ((if d.floatAbi = .softfp then [softFloat] else []) ++
      match d.fpu with
      | none => []
      | some f => f.features)

/-- The flags that those of the descriptor lead to. -/
def Carries (d : Descriptor) (x : String) : Prop := Reaches implications d.requested x

/-- Both units are missing, or they have the same set of features. -/
def SameUnit : Option Fpu → Option Fpu → Prop
  | none, none => True
  | some f, some g => ∀ x, x ∈ f.features ↔ x ∈ g.features
  | _, _ => False

theorem sameUnit_iff {f g : Option Fpu} : fpusAgree f g ↔ SameUnit f g := by
  cases f <;> cases g <;> simp [fpusAgree, SameUnit, Fpu.sameFeatures_iff]

theorem SameUnit.floatAbiFor_eq {f g : Option Fpu} (h : SameUnit f g) (r : ResolvedArch) :
    r.floatAbiFor f = r.floatAbiFor g := by
  cases f <;> cases g
  · rfl
  · cases h
  · cases h
  · rfl

/-- A unit with the features of a supported one is supported. -/
theorem SameUnit.supports {f g : Fpu} (h : SameUnit (some f) (some g)) {c : Cpu}
    (hg : c.supports g) : c.supports f := by
  rw [Cpu.supports_congr (Fpu.sameFeatures_iff.mpr h)]
  exact hg

/-- The unit stands for what the flags of the descriptor lead to: none if they back
no unit, the leading one if they back some. -/
def UnitLeads (k : Catalogue) (d : Descriptor) : Prop :=
  match d.fpu with
  | none => ∀ g ∈ k.fpus, ¬ g.BackedBy d.Carries
  | some f => ∃ g, Leads k.fpus d.Carries g ∧ ∀ x, x ∈ g.features ↔ x ∈ f.features

/-- What a catalogue needs to give a descriptor back. -/
structure Recoverable (k : Catalogue) (d : Descriptor) : Prop where
  model_known : d.cpu.coreModel ∈ coreModels.keys
  features_known : ∀ f, d.fpu = some f → ∀ x ∈ f.features, x ∈ implications.keys
  cpu_first : ∃ before after, k.cpus = before ++ d.cpu :: after ∧
    ∀ c ∈ before, c.coreModel ≠ d.cpu.coreModel
  unit_leads : UnitLeads k d
  hard_plain : d.floatAbi = .hard → ∀ f, d.fpu = some f → softFloat ∉ f.features

/-! ## The query and its resolution -/

theorem flags_query (d : Descriptor) : d.query.flags = d.requested := by
  unfold Query.flags requested query queryFeatures
  cases d.fpu <;> rfl

theorem mem_resolve_query_iff (hr : d.query.resolve = .ok r) (x : String) :
    x ∈ r.features ↔ d.Carries x := by
  rw [Query.mem_resolve_iff hr, flags_query]
  rfl

theorem resolve_query_isOk_iff :
    (∃ r, d.query.resolve = .ok r) ↔ d.cpu.coreModel ∈ coreModels.keys ∧
      ∀ f, d.fpu = some f → ∀ x ∈ f.features, x ∈ implications.keys := by
  rw [Query.resolve_isOk_iff]
  refine and_congr_right fun _ => ?_
  constructor
  · intro h f hf x hx
    exact h x (mem_queryFeatures_iff.mpr (Or.inr ⟨f, hf, hx⟩))
  · intro h x hx
    rcases mem_queryFeatures_iff.mp hx with ⟨_, rfl⟩ | ⟨f, hf, hx⟩
    · decide
    · exact h f hf x hx

/-- **The float ABI.** A unit that lists the soft float flag hides a hard ABI, and
nothing else does. -/
theorem floatAbiFor_resolve_iff (hv : d.validate = .ok ()) (hr : d.query.resolve = .ok r) :
    r.floatAbiFor d.fpu = d.floatAbi ↔
      (d.floatAbi = .hard → ∀ f, d.fpu = some f → softFloat ∉ f.features) := by
  have hvalid := (validate_eq_ok_iff d).mp hv
  have hsoft : softFloat ∈ r.features ↔
      (d.floatAbi = .softfp ∨ ∃ f, d.fpu = some f ∧ softFloat ∈ f.features) := by
    rw [Query.softFloat_mem_resolve_iff hr, query, mem_queryFeatures_iff]
    simp
  cases hfpu : d.fpu with
  | none =>
    rw [hfpu] at hvalid
    simp [ResolvedArch.floatAbiFor, hvalid]
  | some f =>
    rw [hfpu] at hvalid hsoft
    simp only [Option.some.injEq, exists_eq_left'] at hsoft
    cases habi : d.floatAbi with
    | soft => exact absurd habi hvalid.1
    | softfp => simp [ResolvedArch.floatAbiFor, hsoft, habi]
    | hard => simp [ResolvedArch.floatAbiFor, hsoft, habi]

/-- **The unit.** -/
theorem inferFpu_resolve_iff (hr : d.query.resolve = .ok r) :
    SameUnit (r.inferFpu k) d.fpu ↔ UnitLeads k d := by
  have hmem : (· ∈ r.features) = d.Carries := by
    funext x
    exact propext (mem_resolve_query_iff hr x)
  cases hi : r.inferFpu k with
  | none =>
    have hnone := ResolvedArch.inferFpu_eq_none_iff.mp hi
    rw [hmem] at hnone
    unfold UnitLeads
    cases d.fpu with
    | none => simpa [SameUnit] using hnone
    | some f =>
      simp only [SameUnit, false_iff]
      rintro ⟨g, hg, _⟩
      exact hnone g hg.mem hg.backed
  | some g =>
    have hg := ResolvedArch.inferFpu_eq_some_iff.mp hi
    rw [hmem] at hg
    unfold UnitLeads
    cases d.fpu with
    | none =>
      simp only [SameUnit, false_iff]
      intro h
      exact h g hg.mem hg.backed
    | some f =>
      simp only [SameUnit]
      constructor
      · intro h
        exact ⟨g, hg, h⟩
      · rintro ⟨g', hg', h⟩
        rw [hg.unique hg']
        exact h

/-! ## The round trip -/

theorem recoverable_of_agrees {d' : Descriptor} (hv : d.validate = .ok ())
    (hr : d.query.resolve = .ok r) (hd' : ofResolved k r = .ok d') (hagrees : d'.agrees d) :
    Recoverable k d := by
  obtain ⟨hcpu, _, _, hfpu, _, habi⟩ := ofResolved_eq_ok_iff.mp hd'
  obtain ⟨hunit, hc, _, _, ha⟩ := agrees_iff_fields.mp hagrees
  obtain ⟨hmodel, hfeatures⟩ := resolve_query_isOk_iff.mp ⟨r, hr⟩
  rw [hc, (Query.resolve_eq_ok_iff.mp hr).2.2.2.2.2, k.cpuForModel?_eq_some_iff] at hcpu
  have hleads : UnitLeads k d := by
    rw [← inferFpu_resolve_iff hr, hfpu]
    exact sameUnit_iff.mp hunit
  have hplain : r.floatAbiFor d.fpu = d.floatAbi := by
    rw [← ha, habi, (sameUnit_iff.mp hunit).floatAbiFor_eq]
  exact ⟨hmodel, hfeatures, hcpu.2, hleads, (floatAbiFor_resolve_iff hv hr).mp hplain⟩

/-- A unit that stands for that of a valid descriptor is supported like it. -/
theorem supports_of_sameUnit {f : Fpu} (hv : d.validate = .ok ())
    (hunit : SameUnit (some f) d.fpu) : d.cpu.supports f := by
  have hvalid := (validate_eq_ok_iff d).mp hv
  cases hf : d.fpu with
  | none =>
    rw [hf] at hunit
    cases hunit
  | some g =>
    rw [hf] at hunit hvalid
    exact hunit.supports hvalid.2

theorem agrees_of_recoverable (hv : d.validate = .ok ()) (h : Recoverable k d) :
    ∃ r d', d.query.resolve = .ok r ∧ ofResolved k r = .ok d' ∧ d'.agrees d := by
  obtain ⟨r, hr⟩ := resolve_query_isOk_iff.mpr ⟨h.model_known, h.features_known⟩
  have hunit := (inferFpu_resolve_iff hr).mpr h.unit_leads
  have hplain := (floatAbiFor_resolve_iff hv hr).mpr h.hard_plain
  obtain ⟨_, _, harch, hos, _, hmodel⟩ := Query.resolve_eq_ok_iff.mp hr
  refine ⟨r, { d with fpu := r.inferFpu k }, hr, ofResolved_eq_ok_iff.mpr ?_,
    agrees_iff_fields.mpr ⟨sameUnit_iff.mpr hunit, rfl, rfl, rfl, rfl⟩⟩
  refine ⟨?_, harch, hos, rfl, ?_, ?_⟩
  · rw [hmodel]
    exact k.cpuForModel?_eq_some_iff.mpr ⟨rfl, h.cpu_first⟩
  · intro f hf
    have hf : r.inferFpu k = some f := hf
    rw [hf] at hunit
    have hsup : d.cpu.supports f := supports_of_sameUnit hv hunit
    exact hsup
  · show d.floatAbi = r.floatAbiFor (r.inferFpu k)
    rw [hunit.floatAbiFor_eq r, hplain]

/-- **A descriptor comes back exactly if it is recoverable**, for every catalogue
and every descriptor that has a query. -/
theorem agrees_back_iff_recoverable (hq : d.toQuery = .ok q) :
    (∃ r d', q.resolve = .ok r ∧ ofResolved k r = .ok d' ∧ d'.agrees d) ↔ Recoverable k d := by
  obtain ⟨hv, _, rfl⟩ := toQuery_eq_ok_iff.mp hq
  constructor
  · rintro ⟨r, d', hr, hd', hagrees⟩
    exact recoverable_of_agrees hv hr hd' hagrees
  · intro h
    exact agrees_of_recoverable hv h

/-- One unit under two names. -/
def twoNames : Catalogue where
  fpus := [⟨"vfp", 7, ["vfp2"]⟩, ⟨"vfpv2", 7, ["vfp2"]⟩]
  cpus := [⟨"cortex-m4", "Armv7E-M", "cortex_m4", [⟨"vfpv2", 7, ["vfp2"]⟩]⟩]
  fpuNames_nodup := by decide
  cpuNames_nodup := by decide
  compatible_mem := by decide

/-- A unit of its own, which no catalogue lists, in place of the one of two names. -/
def renamed : Descriptor where
  cpu := ⟨"cortex-m4", "Armv7E-M", "cortex_m4", [⟨"vfpv2", 7, ["vfp2"]⟩]⟩
  instructionSet := .arm
  endianness := .big
  floatAbi := .softfp
  fpu := some ⟨"own", 0, ["vfp2", "vfp2"]⟩

/-- The same target with the listed unit. -/
def listedUnit : Descriptor := { renamed with fpu := some ⟨"vfpv2", 7, ["vfp2"]⟩ }

/-- The first of them comes back as the first of the two names. -/
theorem renamed_agrees_back :
    renamed.toQuery = .ok renamed.query ∧
      ∃ r d', renamed.query.resolve = .ok r ∧ ofResolved twoNames r = .ok d' ∧ d'.agrees renamed :=
  ⟨rfl, (agrees_back_iff_recoverable rfl).mpr {
    model_known := by decide
    features_known := by
      intro f hf x hx
      cases hf
      revert x
      decide
    cpu_first := ⟨[], [], rfl, by simp⟩
    unit_leads := by
      refine ⟨⟨"vfp", 7, ["vfp2"]⟩, ⟨?_, [], _, rfl, by simp, by simp⟩, by simp⟩
      intro x hx
      exact .start (by simp_all [requested, renamed])
    hard_plain := by decide }⟩

end Descriptor

end CortexFlags
