import CortexFlags.Proofs.Descriptor.Outcome
import CortexFlags.Report.Kind

/-! Objections to compiler flags: each stands on its own, whatever else is wrong with
the flags, and the first in the order of precedence is the fault that is raised.

* `Objects.past_cpu`, `past_floatAbi`, `past_fpu`: what was read well rules objections out;
* `first_of_error`: a fault that is raised is the first objection; `not_objects_of_ok`:
  nothing objects to flags that select a descriptor;
* `Objects.unique`, `Names.unique`: there is one fault in each place, and one descriptor
  that is named;
* `ofFlags_decided`: hence the outcome of every flags over every catalogue. -/

namespace CortexFlags

namespace Descriptor

/-! ## Objections -/

/-- What may be said against flags, with its place in the order of precedence. The last
three are objections to a unit that is asked for: with a soft ABI, for a CPU without
units, and for one without a unit of its features. -/
inductive Objects (k : Catalogue) (flags : Flags) : Nat → Fault → Prop
  | missingCpu : flags.cpu = none → Objects k flags 0 (.flag .missingCpu)
  | invalidCpu {name : String} : flags.cpu = some name → (∀ c ∈ k.cpus, c.name ≠ name) →
      Objects k flags 1 (.flag (.invalidCpu name))
  | invalidFloatAbi {value : String} : flags.floatAbi = some value →
      value ∉ ["hard", "soft", "softfp"] → Objects k flags 2 (.flag (.invalidFloatAbi value))
  | missingFpu : flags.fpu = none →
      flags.floatAbi = some "hard" ∨ flags.floatAbi = some "softfp" →
      Objects k flags 3 (.flag .missingFpu)
  | invalidFpu {unit : String} : flags.fpu = some unit → (∀ f ∈ k.fpus, f.name ≠ unit) →
      Objects k flags 4 (.flag (.invalidFpu unit))
  | fpuWithSoftAbi {unit : String} : flags.fpu = some unit →
      flags.floatAbi = some "soft" ∨ flags.floatAbi = none →
      Objects k flags 5 (.conversion (.fpuWithSoftAbi unit) none)
  | noFpuOnCpu {unit : String} {c : Cpu} : flags.fpu = some unit →
      flags.cpu = some c.name → c ∈ k.cpus → c.compatibleFpus = [] →
      Objects k flags 6 (.conversion (.noFpuOnCpu c.name) none)
  | incompatibleFpu {f : Fpu} {c : Cpu} : flags.fpu = some f.name → f ∈ k.fpus →
      flags.cpu = some c.name → c ∈ k.cpus → (∀ g ∈ c.compatibleFpus, ¬ g.sameFeatures f) →
      Objects k flags 7 (.conversion (.incompatibleFpu f.name c.name) none)

/-- The kinds of the objections, each at its place. -/
def precedence : List ReportKind :=
  [.missingCpu, .invalidCpu, .invalidFloatAbi, .missingFpu, .invalidFpu,
    .fpuSpecifiedForSoftFloatAbi, .noFpuOnCpu, .incompatibleFpuForCpu]

/-- The objection that no other comes before. -/
def FirstObjection (k : Catalogue) (flags : Flags) (n : Nat) (fault : Fault) : Prop :=
  Objects k flags n fault ∧ ∀ m other, Objects k flags m other → n ≤ m

/-- The entries and settings that flags name, whether or not they go together. -/
structure Names (k : Catalogue) (flags : Flags) (d : Descriptor) : Prop where
  cpu : flags.cpu = some d.cpu.name ∧ d.cpu ∈ k.cpus
  floatAbi : flags.floatAbi = some d.floatAbi.name ∨ flags.floatAbi = none ∧ d.floatAbi = .soft
  fpu : flags.fpu = d.fpu.map Fpu.name ∧ ∀ f, d.fpu = some f → f ∈ k.fpus
  arm : d.instructionSet = .arm ↔ flags.arm = true ∧ flags.thumb = false
  big : d.endianness = .big ↔ flags.bigEndian = true

variable {k : Catalogue} {flags : Flags} {d e : Descriptor} {fault other : Fault} {n m : Nat}

theorem Objects.kind_eq (h : Objects k flags n fault) : precedence[n]? = some fault.kind := by
  cases h <;> rfl

/-- One fault in each place: the names of a catalogue tell its entries apart. -/
theorem Objects.unique (hf : Objects k flags n fault) (hg : Objects k flags n other) :
    fault = other := by
  cases hf with
  | missingCpu => cases hg with | missingCpu => rfl
  | invalidCpu hf => cases hg with | invalidCpu hg => rw [Option.some.inj (hf.symm.trans hg)]
  | invalidFloatAbi hf =>
    cases hg with | invalidFloatAbi hg => rw [Option.some.inj (hf.symm.trans hg)]
  | missingFpu => cases hg with | missingFpu => rfl
  | invalidFpu hf => cases hg with | invalidFpu hg => rw [Option.some.inj (hf.symm.trans hg)]
  | fpuWithSoftAbi hf =>
    cases hg with | fpuWithSoftAbi hg => rw [Option.some.inj (hf.symm.trans hg)]
  | noFpuOnCpu _ hf => cases hg with | noFpuOnCpu _ hg => rw [Option.some.inj (hf.symm.trans hg)]
  | incompatibleFpu hf _ hc =>
    cases hg with
    | incompatibleFpu hg _ hc' =>
      rw [Option.some.inj (hf.symm.trans hg), Option.some.inj (hc.symm.trans hc')]

/-! ## What was read well -/

/-- With a CPU that is found, the first two objections fall. -/
theorem Objects.past_cpu {name : String} {c : Cpu} (hname : flags.cpu = some name)
    (hcpu : k.cpu name = .ok c) (h : Objects k flags m other) : 2 ≤ m := by
  obtain ⟨hc, hcname⟩ := k.cpu_eq_ok_iff.mp hcpu
  cases h with
  | missingCpu hnone =>
    rw [hname] at hnone
    cases hnone
  | invalidCpu hother habsent =>
    rw [hname] at hother
    cases hother
    exact absurd hcname (habsent c hc)
  | _ => decide

/-- With a float ABI that is read, the third one falls. -/
theorem Objects.past_floatAbi {abi : FloatAbi} (habi : flags.readFloatAbi = .ok abi)
    (h : Objects k flags m other) (hm : 2 ≤ m) : 3 ≤ m := by
  cases h with
  | missingCpu => omega
  | invalidCpu => omega
  | invalidFloatAbi hvalue hunknown =>
    rcases readFloatAbi_eq_ok_iff.mp habi with hname | ⟨hnone, _⟩
    · rw [hvalue] at hname
      cases hname
      exact absurd hunknown (by cases abi <;> decide)
    · rw [hvalue] at hnone
      cases hnone
  | _ => decide

/-- With a unit that is found, or none where none is needed, the next two fall. -/
theorem Objects.past_fpu {abi : FloatAbi} {fpu : Option Fpu}
    (habi : flags.readFloatAbi = .ok abi) (hfpu : flags.readFpu k abi = .ok fpu)
    (h : Objects k flags m other) (hm : 3 ≤ m) : 5 ≤ m := by
  obtain ⟨hunit, hlisted, hsoft⟩ := readFpu_eq_ok_iff.mp hfpu
  cases h with
  | missingCpu => omega
  | invalidCpu => omega
  | invalidFloatAbi => omega
  | missingFpu hnone hvalue =>
    have hfpu : fpu = none := by
      rw [hnone] at hunit
      exact Option.map_eq_none_iff.mp hunit.symm
    rcases readFloatAbi_eq_ok_iff.mp habi with hname | ⟨hnone, _⟩
    · rw [hname, hsoft hfpu] at hvalue
      exact absurd hvalue (by decide)
    · rw [hnone] at hvalue
      simp at hvalue
  | invalidFpu hvalue habsent =>
    cases fpu with
    | none =>
      rw [hvalue] at hunit
      cases hunit
    | some f =>
      rw [hvalue] at hunit
      cases hunit
      exact absurd rfl (habsent f (hlisted f rfl))
  | _ => decide

/-! ## Refusals -/

theorem readFloatAbi_eq_error_iff {cause : FlagFault} :
    flags.readFloatAbi = .error cause ↔ ∃ value, flags.floatAbi = some value ∧
      value ∉ ["hard", "soft", "softfp"] ∧ cause = .invalidFloatAbi value := by
  unfold Flags.readFloatAbi
  cases flags.floatAbi with
  | none => simp
  | some value =>
    simp only [Option.some.injEq, exists_eq_left', ← FloatAbi.ofName?_eq_none_iff]
    cases FloatAbi.ofName? value <;> simp [eq_comm]

theorem readFpu_eq_error_iff {abi : FloatAbi} {cause : FlagFault} :
    flags.readFpu k abi = .error cause ↔
      flags.fpu = none ∧ abi ≠ .soft ∧ cause = .missingFpu ∨
      ∃ unit, flags.fpu = some unit ∧ (∀ f ∈ k.fpus, f.name ≠ unit) ∧
        cause = .invalidFpu unit := by
  unfold Flags.readFpu
  cases flags.fpu with
  | none => by_cases h : abi = .soft <;> simp [h, eq_comm]
  | some unit =>
    simp only [Option.some.injEq, exists_eq_left', reduceCtorEq, false_and, false_or,
      ← k.fpu_eq_error_iff]
    cases k.fpu unit <;> simp

theorem validate_eq_error_iff {cause : ConversionFault} :
    d.validate = .error cause ↔
      d.fpu = none ∧ d.floatAbi ≠ .soft ∧ cause = .fpuRequired d.floatAbi ∨
      ∃ f, d.fpu = some f ∧
        (d.floatAbi = .soft ∧ cause = .fpuWithSoftAbi f.name ∨
          d.floatAbi ≠ .soft ∧ d.cpu.compatibleFpus = [] ∧ cause = .noFpuOnCpu d.cpu.name ∨
          d.floatAbi ≠ .soft ∧ d.cpu.compatibleFpus ≠ [] ∧ ¬ d.cpu.supports f ∧
            cause = .incompatibleFpu f.name d.cpu.name) := by
  unfold validate Cpu.hasFpu
  cases d.fpu with
  | none => by_cases h : d.floatAbi = .soft <;> simp [h, @eq_comm _ cause]
  | some f =>
    by_cases h : d.floatAbi = .soft
    · simp [h, @eq_comm _ cause]
    · by_cases hunits : d.cpu.compatibleFpus = []
      · simp [h, hunits, @eq_comm _ cause]
      · by_cases hs : d.cpu.supports f <;> simp [h, hunits, hs, @eq_comm _ cause]

/-! ## The first objection -/

/-- Whatever objects to flags that can be read objects to the unit. -/
theorem Objects.past_reading (hread : readFlags k flags = .ok d) (h : Objects k flags m other) :
    5 ≤ m := by
  obtain ⟨⟨name, hname, hcpu⟩, habi, hfpu, _⟩ := readFlags_eq_ok_iff.mp hread
  exact h.past_fpu habi hfpu (h.past_floatAbi habi (h.past_cpu hname hcpu))

/-- Without the soft ABI it objects to the unit for the sake of the CPU. -/
theorem Objects.past_softAbi (hread : readFlags k flags = .ok d) (hhard : d.floatAbi ≠ .soft)
    (h : Objects k flags m other) : 6 ≤ m := by
  have hm := h.past_reading hread
  obtain ⟨_, habi, _⟩ := readFlags_eq_ok_iff.mp hread
  cases h with
  | fpuWithSoftAbi _ hvalue =>
    rcases readFloatAbi_eq_ok_iff.mp habi with hname | ⟨_, hsoft⟩
    · rw [hname] at hvalue
      simp only [reduceCtorEq, or_false, Option.some.injEq] at hvalue
      exact absurd (FloatAbi.name_inj (b := .soft) hvalue) hhard
    · exact absurd hsoft hhard
  | _ => omega

theorem first_of_readFlags_error {cause : FlagFault} (h : readFlags k flags = .error cause) :
    ∃ n, FirstObjection k flags n (.flag cause) := by
  unfold readFlags at h
  split at h
  · rename_i hnone
    cases h
    exact ⟨0, .missingCpu hnone, fun m _ _ => Nat.zero_le m⟩
  · rename_i name hname
    split at h
    · rename_i hcpu
      cases h
      obtain ⟨habsent, rfl⟩ := k.cpu_eq_error_iff.mp hcpu
      refine ⟨1, .invalidCpu hname habsent, fun m other hother => ?_⟩
      cases hother with
      | missingCpu hnone =>
        rw [hname] at hnone
        cases hnone
      | _ => decide
    · rename_i c hcpu
      split at h
      · rename_i habi
        cases h
        obtain ⟨value, hvalue, hunknown, rfl⟩ := readFloatAbi_eq_error_iff.mp habi
        exact ⟨2, .invalidFloatAbi hvalue hunknown, fun _ _ ho => ho.past_cpu hname hcpu⟩
      · rename_i abi habi
        have hpast : ∀ m other, Objects k flags m other → 3 ≤ m := fun _ _ ho =>
          ho.past_floatAbi habi (ho.past_cpu hname hcpu)
        split at h
        · rename_i hfpu
          cases h
          rcases readFpu_eq_error_iff.mp hfpu with ⟨hnone, hhard, rfl⟩ | ⟨unit, hunit, habsent, rfl⟩
          · refine ⟨3, .missingFpu hnone ?_, hpast⟩
            rcases readFloatAbi_eq_ok_iff.mp habi with hvalue | ⟨_, hsoft⟩
            · rw [hvalue]
              cases abi with
              | hard => exact Or.inl rfl
              | softfp => exact Or.inr rfl
              | soft => exact absurd rfl hhard
            · exact absurd hsoft hhard
          · refine ⟨4, .invalidFpu hunit habsent, fun m other ho => ?_⟩
            have hm := hpast m other ho
            cases ho with
            | missingFpu hnone =>
              rw [hunit] at hnone
              cases hnone
            | _ => omega
        · cases h

theorem first_of_validate_error {cause : ConversionFault} (hread : readFlags k flags = .ok d)
    (h : d.validate = .error cause) : ∃ n, FirstObjection k flags n (.conversion cause none) := by
  obtain ⟨⟨name, hname, hcpu⟩, habi, hfpu, _⟩ := readFlags_eq_ok_iff.mp hread
  obtain ⟨hunit, hlisted, hsoft⟩ := readFpu_eq_ok_iff.mp hfpu
  obtain ⟨hc, rfl⟩ := k.cpu_eq_ok_iff.mp hcpu
  rcases validate_eq_error_iff.mp h with ⟨hnone, hhard, rfl⟩ | ⟨f, hf, hcause⟩
  · exact absurd (hsoft hnone) hhard
  · rw [hf] at hunit
    rcases hcause with ⟨hsoft, rfl⟩ | ⟨hhard, hempty, rfl⟩ | ⟨hhard, hsome, hsupports, rfl⟩
    · refine ⟨5, .fpuWithSoftAbi hunit ?_, fun _ _ ho => ho.past_reading hread⟩
      rcases readFloatAbi_eq_ok_iff.mp habi with hvalue | ⟨hnone, _⟩
      · rw [hsoft] at hvalue
        exact Or.inl hvalue
      · exact Or.inr hnone
    · exact ⟨6, .noFpuOnCpu hunit hname hc hempty, fun _ _ ho => ho.past_softAbi hread hhard⟩
    · refine ⟨7, .incompatibleFpu hunit (hlisted f hf) hname hc ?_, fun m other ho => ?_⟩
      · intro g hg hsame
        exact hsupports (Cpu.supports_iff.mpr ⟨g, hg, hsame⟩)
      · have hm := ho.past_softAbi hread hhard
        cases ho with
        | noFpuOnCpu _ hname' hc' hempty =>
          rw [k.cpu_eq_of_name_eq hc' hc (Option.some.inj (hname'.symm.trans hname))] at hempty
          exact absurd hempty hsome
        | _ => omega

theorem first_of_error (h : ofFlags k flags = .error fault) :
    ∃ n, FirstObjection k flags n fault := by
  unfold ofFlags at h
  split at h
  · rename_i hread
    cases h
    exact first_of_readFlags_error hread
  · rename_i d hread
    split at h
    · rename_i hvalid
      cases h
      exact first_of_validate_error hread hvalid
    · cases h

/-! ## No objection -/

theorem not_objects_of_ok (h : ofFlags k flags = .ok d) : ¬ Objects k flags m other := by
  intro ho
  obtain ⟨hread, hvalid⟩ := ofFlags_eq_ok_iff_read.mp h
  obtain ⟨hcpu, _, ⟨hunit, hlisted⟩, _⟩ := ofFlags_eq_ok_iff.mp h
  have hm := ho.past_reading hread
  rw [validate_eq_ok_iff] at hvalid
  cases hf : d.fpu with
  | none =>
    rw [hf] at hunit
    cases ho with
    | fpuWithSoftAbi hsome => rw [hunit] at hsome; cases hsome
    | noFpuOnCpu hsome => rw [hunit] at hsome; cases hsome
    | incompatibleFpu hsome => rw [hunit] at hsome; cases hsome
    | _ => omega
  | some f =>
    rw [hf] at hunit hvalid
    obtain ⟨hhard, hsupports⟩ := hvalid
    obtain ⟨g, hg, hsame⟩ := Cpu.supports_iff.mp hsupports
    have hm := ho.past_softAbi hread hhard
    cases ho with
    | noFpuOnCpu _ hname hc hempty =>
      rw [k.cpu_eq_of_name_eq hc hcpu.2 (Option.some.inj (hname.symm.trans hcpu.1))] at hempty
      simp [hempty] at hg
    | incompatibleFpu hsome hf' hname hc hnone =>
      have hfname := Option.some.inj (hsome.symm.trans hunit)
      rw [k.cpu_eq_of_name_eq hc hcpu.2 (Option.some.inj (hname.symm.trans hcpu.1)),
        k.fpu_eq_of_name_eq hf' (hlisted f hf) hfname] at hnone
      exact hnone g hg hsame
    | _ => omega

theorem names_of_ok (h : ofFlags k flags = .ok d) : Names k flags d := by
  obtain ⟨hcpu, habi, hfpu, hiset, hendian, _⟩ := ofFlags_eq_ok_iff.mp h
  refine ⟨hcpu, habi, hfpu, ?_, ?_⟩
  · rw [hiset, Flags.instructionSet]
    cases flags.arm <;> cases flags.thumb <;> decide
  · rw [hendian, Flags.endianness]
    cases flags.bigEndian <;> decide

theorem Names.fpu_eq (hd : Names k flags d) (he : Names k flags e) : d.fpu = e.fpu := by
  have hname : d.fpu.map Fpu.name = e.fpu.map Fpu.name := hd.fpu.1.symm.trans he.fpu.1
  cases hf : d.fpu with
  | none =>
    rw [hf] at hname
    exact (Option.map_eq_none_iff.mp hname.symm).symm
  | some f =>
    rw [hf] at hname
    obtain ⟨g, hg, hgname⟩ := Option.map_eq_some_iff.mp hname.symm
    rw [hg, k.fpu_eq_of_name_eq (he.fpu.2 g hg) (hd.fpu.2 f hf) hgname]

theorem Names.floatAbi_eq (hd : Names k flags d) (he : Names k flags e) :
    d.floatAbi = e.floatAbi := by
  rcases hd.floatAbi with hname | ⟨hnone, hsoft⟩
  · rcases he.floatAbi with hname' | ⟨hnone, _⟩
    · exact FloatAbi.name_inj (Option.some.inj (hname.symm.trans hname'))
    · rw [hnone] at hname
      cases hname
  · rcases he.floatAbi with hname | ⟨_, hsoft'⟩
    · rw [hnone] at hname
      cases hname
    · rw [hsoft, hsoft']

/-- Flags name at most one descriptor. -/
theorem Names.unique (hd : Names k flags d) (he : Names k flags e) : d = e := by
  have hcpu : d.cpu = e.cpu :=
    k.cpu_eq_of_name_eq hd.cpu.2 he.cpu.2 (Option.some.inj (hd.cpu.1.symm.trans he.cpu.1))
  have harm : d.instructionSet = .arm ↔ e.instructionSet = .arm := hd.arm.trans he.arm.symm
  have hbig : d.endianness = .big ↔ e.endianness = .big := hd.big.trans he.big.symm
  have hiset : d.instructionSet = e.instructionSet := by
    cases hd : d.instructionSet <;> cases he : e.instructionSet <;> simp_all
  have hendian : d.endianness = e.endianness := by
    cases hd : d.endianness <;> cases he : e.endianness <;> simp_all
  have habi := hd.floatAbi_eq he
  have hfpu := hd.fpu_eq he
  cases d
  cases e
  cases hcpu
  cases hiset
  cases hendian
  cases habi
  cases hfpu
  rfl

/-- Flags to which nothing objects select a descriptor. -/
theorem exists_ok_of_not_objects (h : ∀ n fault, ¬ Objects k flags n fault) :
    ∃ d, ofFlags k flags = .ok d := by
  cases hout : ofFlags k flags with
  | ok d => exact ⟨d, rfl⟩
  | error fault =>
    obtain ⟨n, hobjects, _⟩ := first_of_error hout
    exact absurd hobjects (h n fault)

/-! ## All of it -/

theorem ofFlags_eq_error_iff_first :
    ofFlags k flags = .error fault ↔ ∃ n, FirstObjection k flags n fault := by
  constructor
  · exact first_of_error
  · rintro ⟨n, hobjects, hfirst⟩
    cases hout : ofFlags k flags with
    | ok d => exact absurd hobjects (not_objects_of_ok hout)
    | error other =>
      obtain ⟨m, hother, hfirst'⟩ := first_of_error hout
      have hplace : m = n := Nat.le_antisymm (hfirst' n fault hobjects) (hfirst m other hother)
      subst hplace
      rw [hother.unique hobjects]

theorem ofFlags_eq_ok_iff_names :
    ofFlags k flags = .ok d ↔ (∀ n fault, ¬ Objects k flags n fault) ∧ Names k flags d := by
  constructor
  · intro h
    exact ⟨fun _ _ => not_objects_of_ok h, names_of_ok h⟩
  · rintro ⟨hnone, hnames⟩
    obtain ⟨e, he⟩ := exists_ok_of_not_objects hnone
    rw [he, (names_of_ok he).unique hnames]

/-- **Flags decided**: the first objection is raised, as the kind of its place, and flags to
which nothing objects select the descriptor that they name. The lack of a unit is never
found by the rules on descriptors, and those give way to every fault of a flag. -/
theorem ofFlags_decided (k : Catalogue) (flags : Flags) :
    (∀ fault, ofFlags k flags = .error fault ↔ ∃ n, FirstObjection k flags n fault) ∧
    (∀ n fault, Objects k flags n fault → precedence[n]? = some fault.kind) ∧
    (∀ d, ofFlags k flags = .ok d ↔
      (∀ n fault, ¬ Objects k flags n fault) ∧ Names k flags d) ∧
    ((∀ n fault, ¬ Objects k flags n fault) → ∃ d, ofFlags k flags = .ok d) ∧
    (∀ fault, ofFlags k flags = .error fault → fault.kind ≠ .fpuRequiredForFloatAbi) ∧
    ∀ fault n other, ofFlags k flags = .error fault → Objects k flags n other →
      other.kind.isFlagTranslation → fault.kind.isFlagTranslation := by
  refine ⟨fun _ => ofFlags_eq_error_iff_first, fun _ _ => Objects.kind_eq,
    fun _ => ofFlags_eq_ok_iff_names, exists_ok_of_not_objects, ?_, ?_⟩
  · intro fault h hkind
    obtain ⟨n, hobjects, _⟩ := first_of_error h
    have hplace : precedence[n]? = some fault.kind := hobjects.kind_eq
    rw [hkind] at hplace
    exact absurd (List.mem_of_getElem? hplace) (by decide)
  · intro fault n other h hother hflag
    obtain ⟨m, hobjects, hfirst⟩ := first_of_error h
    have hle := hfirst n other hother
    have hn : n < 5 := by
      cases hother with
      | fpuWithSoftAbi => cases hflag
      | noFpuOnCpu => cases hflag
      | incompatibleFpu => cases hflag
      | _ => decide
    cases hobjects with
    | fpuWithSoftAbi => omega
    | noFpuOnCpu => omega
    | incompatibleFpu => omega
    | _ => rfl

def singleUnit : Fpu := ⟨"single", 1, ["sp"]⟩

def bareCpu : Cpu := ⟨"bare", "Armv6", "bare_model", []⟩

def fittedCpu : Cpu := ⟨"fitted", "Armv7", "fitted_model", [singleUnit]⟩

/-- One CPU without units, and one with the first of two. -/
def halfFitted : Catalogue :=
  ⟨[singleUnit, ⟨"double", 0, ["sp", "dp"]⟩], [bareCpu, fittedCpu],
    by decide, by decide, by decide⟩

theorem halfFitted_decided :
    ofFlags halfFitted ⟨some "bare", some "softfp", some "double", false, false, false⟩ =
      .error (.conversion (.noFpuOnCpu "bare") none) ∧
    ofFlags halfFitted ⟨some "fitted", none, some "triple", false, false, false⟩ =
      .error (.flag (.invalidFpu "triple")) ∧
    ofFlags halfFitted ⟨some "fitted", some "hard", some "single", false, true, true⟩ =
      .ok ⟨fittedCpu, .arm, .big, .hard, some singleUnit⟩ := by
  refine ⟨((ofFlags_decided halfFitted _).1 _).mpr ⟨6, ?_, fun m other h => ?_⟩,
    ((ofFlags_decided halfFitted _).1 _).mpr ⟨4, ?_, fun m other h => ?_⟩,
    ((ofFlags_decided halfFitted _).2.2.1 _).mpr ⟨fun n fault h => ?_, ?_⟩⟩
  · exact .noFpuOnCpu (c := bareCpu) rfl rfl List.mem_cons_self rfl
  · cases h <;> simp_all [halfFitted, bareCpu, fittedCpu, singleUnit]
  · exact .invalidFpu rfl (by decide)
  · cases h <;> simp_all [halfFitted, bareCpu, fittedCpu, singleUnit]
  · have hcpu : ∀ c ∈ halfFitted.cpus, some "fitted" = some c.name → c = fittedCpu :=
      fun c hc hname => halfFitted.cpu_eq_of_name_eq hc (by decide) (Option.some.inj hname).symm
    cases h with
    | noFpuOnCpu _ hname hc hempty =>
      rw [hcpu _ hc hname] at hempty
      cases hempty
    | incompatibleFpu hunit hf hname hc hnone =>
      rw [hcpu _ hc hname, halfFitted.fpu_eq_of_name_eq hf
        (g := singleUnit) (by decide) (Option.some.inj hunit).symm] at hnone
      exact absurd (by decide) (hnone singleUnit (List.mem_singleton_self _))
    | _ => simp_all [halfFitted, bareCpu, fittedCpu, singleUnit]
  · exact ⟨⟨rfl, by decide⟩, Or.inl rfl, ⟨rfl, by decide⟩, by decide, by decide⟩

/-- A CPU without units is no objection to flags that ask for none. -/
theorem bare_not_refused :
    bareCpu ∈ halfFitted.cpus ∧ bareCpu.compatibleFpus = [] ∧
      ofFlags halfFitted ⟨some bareCpu.name, none, none, false, false, false⟩ =
        .ok ⟨bareCpu, .thumb, .little, .soft, none⟩ :=
  ⟨List.mem_cons_self, rfl, rfl⟩

end Descriptor

end CortexFlags
