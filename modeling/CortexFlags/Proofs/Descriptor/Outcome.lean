import CortexFlags.Descriptor.Inference

/-! Both ways between descriptors and the resolution side, by their outcomes.

* `ofFlags_eq_ok_iff`: a descriptor comes out of flags exactly if they select it by
  the names of its entries, and its settings are valid;
* `toQuery_of_valid`: a valid descriptor has its query, or too many features;
* `ofResolved_eq_ok_iff`: a descriptor comes out of inference exactly if its CPU
  is the first of the core model, its unit the one that is picked, and the rest
  is read off the resolved architecture;
* `ofResolved_eq_incompatible_iff`: a unit is refused exactly if it is the one that
  is picked, and the CPU does not support it. -/

namespace CortexFlags

/-- The float ABI that the flags tell, given the unit that is picked. -/
def ResolvedArch.floatAbiFor (r : ResolvedArch) : Option Fpu → FloatAbi
  | none => .soft
  | some _ => if softFloat ∈ r.features then .softfp else .hard

namespace Descriptor

variable {d : Descriptor} {k : Catalogue} {r : ResolvedArch} {q : Query}

/-! ## The descriptor of compiler flags -/

theorem readFloatAbi_eq_ok_iff {flags : Flags} {abi : FloatAbi} :
    flags.readFloatAbi = .ok abi ↔
      flags.floatAbi = some abi.name ∨ flags.floatAbi = none ∧ abi = .soft := by
  unfold Flags.readFloatAbi
  cases flags.floatAbi with
  | none => simp [eq_comm]
  | some value =>
    have hname : FloatAbi.ofName? value = some abi ↔ value = abi.name :=
      FloatAbi.ofName?_eq_some_iff
    cases hv : FloatAbi.ofName? value <;> simp_all

theorem readFpu_eq_ok_iff {flags : Flags} {abi : FloatAbi} {fpu : Option Fpu} :
    flags.readFpu k abi = .ok fpu ↔ flags.fpu = fpu.map Fpu.name ∧
      (∀ f, fpu = some f → f ∈ k.fpus) ∧ (fpu = none → abi = .soft) := by
  unfold Flags.readFpu
  cases flags.fpu with
  | none =>
    cases fpu with
    | none => by_cases h : abi = .soft <;> simp [h]
    | some f => by_cases h : abi = .soft <;> simp [h]
  | some name =>
    dsimp only
    cases hg : k.fpu name with
    | error fault =>
      have hnone : ∀ f, ¬ (f ∈ k.fpus ∧ f.name = name) := by
        intro f hf
        rw [← k.fpu_eq_ok_iff, hg] at hf
        cases hf
      cases fpu with
      | none => simp
      | some f => simpa [eq_comm, and_comm] using hnone f
    | ok g =>
      cases fpu with
      | none => simp
      | some f =>
        have hf : k.fpu name = .ok f ↔ f ∈ k.fpus ∧ f.name = name := k.fpu_eq_ok_iff
        rw [hg] at hf
        simpa [eq_comm, and_comm] using hf

/-- What flags select: entries of the catalogue by their names, with valid settings. -/
structure Selects (k : Catalogue) (flags : Flags) (d : Descriptor) : Prop where
  cpu : flags.cpu = some d.cpu.name ∧ d.cpu ∈ k.cpus
  floatAbi : flags.floatAbi = some d.floatAbi.name ∨ flags.floatAbi = none ∧ d.floatAbi = .soft
  fpu : flags.fpu = d.fpu.map Fpu.name ∧ ∀ f, d.fpu = some f → f ∈ k.fpus
  instructionSet : d.instructionSet = flags.instructionSet
  endianness : d.endianness = flags.endianness
  valid : d.validate = .ok ()

theorem readFlags_eq_ok_iff {flags : Flags} :
    readFlags k flags = .ok d ↔
      (∃ name, flags.cpu = some name ∧ k.cpu name = .ok d.cpu) ∧
      flags.readFloatAbi = .ok d.floatAbi ∧ flags.readFpu k d.floatAbi = .ok d.fpu ∧
      d.instructionSet = flags.instructionSet ∧ d.endianness = flags.endianness := by
  unfold readFlags
  constructor
  · intro h
    split at h
    · cases h
    · rename_i name hname
      split at h
      · cases h
      · rename_i cpu hcpu
        split at h
        · cases h
        · rename_i abi habi
          split at h
          · cases h
          · rename_i fpu hfpu
            cases h
            exact ⟨⟨name, hname, hcpu⟩, habi, hfpu, rfl, rfl⟩
  · rintro ⟨⟨name, hname, hcpu⟩, habi, hfpu, hiset, hendian⟩
    simp [hname, hcpu, habi, hfpu, ← hiset, ← hendian]

theorem ofFlags_eq_ok_iff_read {flags : Flags} :
    ofFlags k flags = .ok d ↔ readFlags k flags = .ok d ∧ d.validate = .ok () := by
  unfold ofFlags
  constructor
  · intro h
    split at h
    · cases h
    · rename_i d' hread
      split at h
      · cases h
      · rename_i hvalid
        cases h
        exact ⟨hread, hvalid⟩
  · rintro ⟨hread, hvalid⟩
    simp [hread, hvalid]

/-- **What comes out of flags.** -/
theorem ofFlags_eq_ok_iff {flags : Flags} : ofFlags k flags = .ok d ↔ Selects k flags d := by
  rw [ofFlags_eq_ok_iff_read, readFlags_eq_ok_iff, readFloatAbi_eq_ok_iff, readFpu_eq_ok_iff]
  simp only [k.cpu_eq_ok_iff]
  constructor
  · rintro ⟨⟨⟨name, hname, hcpu, rfl⟩, habi, ⟨hfpu, hlisted, _⟩, hiset, hendian⟩, hvalid⟩
    exact ⟨⟨hname, hcpu⟩, habi, ⟨hfpu, hlisted⟩, hiset, hendian, hvalid⟩
  · intro h
    refine ⟨⟨⟨_, h.cpu.1, h.cpu.2, rfl⟩, h.floatAbi, ⟨h.fpu.1, h.fpu.2, fun hnone => ?_⟩,
      h.instructionSet, h.endianness⟩, h.valid⟩
    have hvalid := (validate_eq_ok_iff d).mp h.valid
    rwa [hnone] at hvalid

/-- What the flags select is valid and made of entries of the catalogue. -/
theorem listed_of_ofFlags {flags : Flags} (h : ofFlags k flags = .ok d) :
    d.cpu ∈ k.cpus ∧ (∀ f, d.fpu = some f → f ∈ k.fpus) ∧ d.validate = .ok () := by
  have hselects := ofFlags_eq_ok_iff.mp h
  exact ⟨hselects.cpu.2, hselects.fpu.2, hselects.valid⟩

/-! ## The query of a descriptor -/

/-- The query of a descriptor, whether or not it may be asked. -/
def query (d : Descriptor) : Query where
  arch := (Arch.select d.instructionSet d.endianness).name
  os := freestanding
  abi := if d.floatAbi = .soft then "eabi" else "eabihf"
  coreModel := d.cpu.coreModel
  featuresAdd := d.queryFeatures

theorem toQuery_of_valid (h : d.validate = .ok ()) :
    d.toQuery = if d.queryFeatures.length > maxQueryFeatures
      then .error (.tooManyFeatures d.queryFeatures.length) else .ok d.query := by
  unfold toQuery
  rw [h]
  rfl

theorem toQuery_eq_ok_iff :
    d.toQuery = .ok q ↔
      d.validate = .ok () ∧ d.queryFeatures.length ≤ maxQueryFeatures ∧ q = d.query := by
  cases hv : d.validate with
  | error fault => simp [toQuery, hv]
  | ok _ =>
    rw [toQuery_of_valid hv]
    by_cases hl : d.queryFeatures.length > maxQueryFeatures
    · rw [if_pos hl]
      constructor
      · intro h
        cases h
      · rintro ⟨_, hle, _⟩
        omega
    · rw [if_neg hl]
      constructor
      · intro h
        cases h
        exact ⟨rfl, by omega, rfl⟩
      · rintro ⟨_, _, rfl⟩
        rfl

theorem mem_queryFeatures_iff {x : String} :
    x ∈ d.queryFeatures ↔
      (d.floatAbi = .softfp ∧ x = softFloat) ∨ ∃ f, d.fpu = some f ∧ x ∈ f.features := by
  rw [queryFeatures, List.mem_append]
  refine or_congr ?_ ?_
  · by_cases h : d.floatAbi = .softfp <;> simp [h]
  · cases d.fpu <;> simp

/-! ## The descriptor of a resolved architecture -/

private theorem name_of_ofName? {s : String} {a : Arch} (h : Arch.ofName? s = some a) :
    s = (Arch.select a.instructionSet a.endianness).name := by
  rw [Arch.select_eq_iff.mpr ⟨rfl, rfl⟩]
  exact Arch.ofName?_eq_some_iff.mp h

private theorem ofResolved_fields (h : ofResolved k r = .ok d) :
    k.cpuForModel? r.coreModel = some d.cpu ∧
      r.arch = (Arch.select d.instructionSet d.endianness).name ∧ r.os = freestanding ∧
      r.inferFpu k = d.fpu ∧ (∀ f, d.fpu = some f → d.cpu.supports f) ∧
      d.floatAbi = r.floatAbiFor d.fpu := by
  unfold ofResolved at h
  split at h
  · cases h
  · rename_i cpu hcpu
    split at h
    · cases h
    · rename_i arch harch
      split at h
      · cases h
      · rename_i hos
        have hos : r.os = freestanding := Decidable.not_not.mp hos
        split at h
        · rename_i hfpu
          cases h
          exact ⟨hcpu, name_of_ofName? harch, hos, hfpu, by simp, rfl⟩
        · rename_i f hfpu
          split at h
          · rename_i hsup
            cases h
            refine ⟨hcpu, name_of_ofName? harch, hos, hfpu, ?_, ?_⟩
            · intro g hg
              cases hg
              exact hsup
            · simp [ResolvedArch.floatAbiFor, ResolvedArch.has]
          · cases h

/-- **What comes out of inference.** -/
theorem ofResolved_eq_ok_iff :
    ofResolved k r = .ok d ↔
      k.cpuForModel? r.coreModel = some d.cpu ∧
      r.arch = (Arch.select d.instructionSet d.endianness).name ∧ r.os = freestanding ∧
      r.inferFpu k = d.fpu ∧ (∀ f, d.fpu = some f → d.cpu.supports f) ∧
      d.floatAbi = r.floatAbiFor d.fpu := by
  constructor
  · exact ofResolved_fields
  · rintro ⟨hcpu, harch, hos, hfpu, hsup, habi⟩
    obtain ⟨cpu, iset, endian, abi, fpu⟩ := d
    obtain ⟨hi, he⟩ := Arch.select_eq_iff.mp (rfl : Arch.select iset endian = _)
    have hname : Arch.ofName? r.arch = some (Arch.select iset endian) :=
      Arch.ofName?_eq_some_iff.mpr harch
    unfold ofResolved
    simp only [hcpu, hname, hos, hfpu, ← hi, ← he]
    cases fpu with
    | none =>
      have habi : abi = .soft := habi
      rw [habi]
      rfl
    | some f =>
      have habi : abi = r.floatAbiFor (some f) := habi
      have hf : cpu.supports f := hsup f rfl
      simp [habi, hf, ResolvedArch.floatAbiFor, ResolvedArch.has]

/-- **What is refused**: the unit that is picked, where the CPU does not support it. -/
theorem ofResolved_eq_incompatible_iff {unit cpu : String} :
    ofResolved k r = .error (.incompatibleFpu unit cpu) ↔
      ∃ c a f, k.cpuForModel? r.coreModel = some c ∧ Arch.ofName? r.arch = some a ∧
        r.os = freestanding ∧ r.inferFpu k = some f ∧ ¬ c.supports f ∧ f.name = unit ∧
        c.name = cpu := by
  constructor
  · intro h
    unfold ofResolved at h
    split at h
    · cases h
    · rename_i c hc
      split at h
      · cases h
      · rename_i a ha
        split at h
        · cases h
        · rename_i hos
          split at h
          · cases h
          · rename_i f hf
            split at h
            · cases h
            · rename_i hsup
              cases h
              exact ⟨c, a, f, hc, ha, Decidable.not_not.mp hos, hf, hsup, rfl, rfl⟩
  · rintro ⟨c, a, f, hc, ha, hos, hf, hsup, rfl, rfl⟩
    unfold ofResolved
    simp [hc, ha, hos, hf, hsup]

/-- What comes out of inference is valid. -/
theorem validate_of_ofResolved (h : ofResolved k r = .ok d) : d.validate = .ok () := by
  obtain ⟨_, _, _, _, hsup, habi⟩ := ofResolved_eq_ok_iff.mp h
  rw [validate_eq_ok_iff]
  cases hf : d.fpu with
  | none =>
    rw [hf] at habi
    exact habi
  | some f =>
    rw [hf] at habi
    refine ⟨?_, hsup f hf⟩
    rw [habi, ResolvedArch.floatAbiFor]
    split
    · decide
    · decide

end Descriptor

end CortexFlags
