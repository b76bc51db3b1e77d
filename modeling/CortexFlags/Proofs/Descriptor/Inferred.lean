import CortexFlags.Proofs.Descriptor.Outcome
import CortexFlags.Proofs.Descriptor.MostSpecific
import CortexFlags.Report.Kind
import Mathlib.Data.Prod.Lex

/-! Inference decided case by case.

* `leads_iff_foremost`: the unit that the scan picks is the one with the lowest pair of
  priority and place among the backed units; `existsUnique_foremost`: there is one as
  soon as some unit is backed;
* `Infers`: the outcomes in their order of precedence; `infers_ofResolved`,
  `Infers.ofResolved_eq`: inference has exactly the one that applies;
* `ofResolved_congr`: flags that are neither the soft float flag nor listed by a unit
  do not count;
* `ofResolved_decided`: all of this for every catalogue and architecture. -/

namespace CortexFlags

variable {units : List Fpu} {P : String → Prop} {f : Fpu}

/-! ## The unit of the lowest priority and place -/

/-- The backed unit with the lowest pair of priority and place. -/
structure Foremost (units : List Fpu) (P : String → Prop) (place : Nat) (f : Fpu) : Prop where
  listed : units[place]? = some f
  backed : f.BackedBy P
  lowest : ∀ j g, units[j]? = some g → g.BackedBy P →
    toLex (f.priority, place) ≤ toLex (g.priority, j)

theorem Leads.foremost (h : Leads units P f) : ∃ place, Foremost units P place f := by
  obtain ⟨before, after, rfl, hbefore, hafter⟩ := h.first
  refine ⟨before.length, by simp, h.backed, ?_⟩
  intro j g hg hback
  rw [Prod.Lex.toLex_le_toLex]
  rcases Nat.lt_or_ge j before.length with hj | hj
  · rw [List.getElem?_append_left hj] at hg
    exact Or.inl (hbefore g (List.mem_of_getElem? hg) hback)
  · rcases Nat.eq_or_lt_of_le hj with rfl | hlt
    · simp at hg
      exact Or.inr ⟨congrArg Fpu.priority hg, le_rfl⟩
    · have hle : f.priority ≤ g.priority := by
        refine hafter g ?_ hback
        rw [List.getElem?_append_right hj, List.getElem?_cons] at hg
        exact List.mem_of_getElem? (by simpa [Nat.sub_ne_zero_of_lt hlt] using hg)
      rcases Int.lt_or_eq_of_le hle with hlt' | heq
      · exact Or.inl hlt'
      · exact Or.inr ⟨heq, hj⟩

theorem Foremost.unique {i j : Nat} {g : Fpu} (hf : Foremost units P i f)
    (hg : Foremost units P j g) : i = j ∧ f = g := by
  have hle := hf.lowest j g hg.listed hg.backed
  have hge := hg.lowest i f hf.listed hf.backed
  have hplace : i = j := congrArg (fun p => (ofLex p).2) (le_antisymm hle hge)
  subst hplace
  have hsome := hf.listed.symm.trans hg.listed
  exact ⟨rfl, Option.some.inj hsome⟩

theorem exists_leads (h : ∃ g ∈ units, g.BackedBy P) : ∃ f, Leads units P f := by
  classical
  cases hm : mostSpecific (units.filter fun g => decide (g.BackedBy P)) with
  | none =>
    obtain ⟨g, hg, hback⟩ := h
    exact absurd (decide_eq_true hback) (mostSpecific_filter_eq_none_iff.mp hm g hg)
  | some f =>
    exact ⟨f, (mostSpecific_filter_eq_some_iff fun _ => decide_eq_true_iff).mp hm⟩

/-- **To lead is to have the lowest pair of priority and place.** -/
theorem leads_iff_foremost : Leads units P f ↔ ∃ place, Foremost units P place f := by
  constructor
  · exact Leads.foremost
  · rintro ⟨place, hf⟩
    obtain ⟨g, hg⟩ := exists_leads ⟨f, List.mem_of_getElem? hf.listed, hf.backed⟩
    obtain ⟨j, hforemost⟩ := hg.foremost
    rw [(hf.unique hforemost).2]
    exact hg

/-- **Exactly one unit is picked** as soon as one is backed. -/
theorem existsUnique_foremost (h : ∃ g ∈ units, g.BackedBy P) :
    ∃! f, ∃ place, Foremost units P place f := by
  obtain ⟨f, hf⟩ := exists_leads h
  refine ⟨f, hf.foremost, ?_⟩
  rintro g ⟨j, hg⟩
  obtain ⟨i, hforemost⟩ := hf.foremost
  exact (hg.unique hforemost).2

/-! ## The outcomes -/

namespace Descriptor

variable {k : Catalogue} {r : ResolvedArch}

/-- The CPU is the first declared one of a core model. -/
def FirstOfModel (k : Catalogue) (model : String) (c : Cpu) : Prop :=
  c.coreModel = model ∧
    ∃ before after, k.cpus = before ++ c :: after ∧ ∀ b ∈ before, b.coreModel ≠ model

/-- The names of the architectures that a descriptor can have. -/
def archNames : List String := ["thumb", "thumbeb", "arm", "armeb"]

/-- What inference comes to, in order of precedence: each refusal excludes those after it. -/
inductive Infers (k : Catalogue) (r : ResolvedArch) : Except ConversionFault Descriptor → Prop
  | noCpu : (∀ c ∈ k.cpus, c.coreModel ≠ r.coreModel) →
      Infers k r (.error (.noCpuForModel r.coreModel))
  | noArch {c : Cpu} : FirstOfModel k r.coreModel c → r.arch ∉ archNames →
      Infers k r (.error (.unsupportedArch r.arch))
  | notFreestanding {c : Cpu} : FirstOfModel k r.coreModel c → r.arch ∈ archNames →
      r.os ≠ "freestanding" → Infers k r (.error (.notFreestanding r.os))
  | noUnit {c : Cpu} {i : InstructionSet} {e : Endianness} : FirstOfModel k r.coreModel c →
      (Arch.select i e).name = r.arch → r.os = "freestanding" →
      (∀ f ∈ k.fpus, ¬ f.BackedBy (· ∈ r.features)) → Infers k r (.ok ⟨c, i, e, .soft, none⟩)
  | unsupported {c : Cpu} {f : Fpu} {place : Nat} : FirstOfModel k r.coreModel c →
      r.arch ∈ archNames → r.os = "freestanding" →
      Foremost k.fpus (· ∈ r.features) place f → (∀ g ∈ c.compatibleFpus, ¬ g.sameFeatures f) →
      Infers k r (.error (.incompatibleFpu f.name c.name))
  | unit {c : Cpu} {i : InstructionSet} {e : Endianness} {f g : Fpu} {place : Nat} :
      FirstOfModel k r.coreModel c → (Arch.select i e).name = r.arch → r.os = "freestanding" →
      Foremost k.fpus (· ∈ r.features) place f → g ∈ c.compatibleFpus → g.sameFeatures f →
      Infers k r (.ok ⟨c, i, e, if softFloat ∈ r.features then .softfp else .hard, some f⟩)

theorem cpuForModel?_eq_some_iff_first {model : String} {c : Cpu} :
    k.cpuForModel? model = some c ↔ FirstOfModel k model c :=
  k.cpuForModel?_eq_some_iff

theorem cpuForModel?_eq_none_iff {model : String} :
    k.cpuForModel? model = none ↔ ∀ c ∈ k.cpus, c.coreModel ≠ model := by
  simp [Catalogue.cpuForModel?]

theorem mem_archNames_iff {s : String} : s ∈ archNames ↔ ∃ a, Arch.ofName? s = some a := by
  rw [← Option.ne_none_iff_exists', Ne, Arch.ofName?_eq_none_iff, Decidable.not_not]
  rfl

theorem not_supports_iff {c : Cpu} {f : Fpu} :
    ¬ c.supports f ↔ ∀ g ∈ c.compatibleFpus, ¬ g.sameFeatures f := by
  rw [Cpu.supports_iff]
  simp

theorem inferFpu_eq_some_iff_foremost {f : Fpu} :
    r.inferFpu k = some f ↔ ∃ place, Foremost k.fpus (· ∈ r.features) place f := by
  rw [ResolvedArch.inferFpu_eq_some_iff, leads_iff_foremost]

/-- A descriptor comes out only as one of the two successes. -/
theorem infers_of_ok {d : Descriptor} (h : ofResolved k r = .ok d) : Infers k r (.ok d) := by
  obtain ⟨c, i, e, abi, fpu⟩ := d
  obtain ⟨hcpu, harch, hos, hfpu, hsupports, habi⟩ := ofResolved_eq_ok_iff.mp h
  have hfirst : FirstOfModel k r.coreModel c := cpuForModel?_eq_some_iff_first.mp hcpu
  cases fpu with
  | none =>
    have habi : abi = .soft := habi
    subst habi
    exact .noUnit hfirst harch.symm hos (ResolvedArch.inferFpu_eq_none_iff.mp hfpu)
  | some f =>
    have habi : abi = if softFloat ∈ r.features then .softfp else .hard := habi
    subst habi
    obtain ⟨place, hforemost⟩ := inferFpu_eq_some_iff_foremost.mp hfpu
    obtain ⟨g, hg, hsame⟩ := Cpu.supports_iff.mp (hsupports f rfl)
    exact .unit hfirst harch.symm hos hforemost hg hsame

/-- A refusal is one of the four. -/
theorem infers_of_error {fault : ConversionFault} (h : ofResolved k r = .error fault) :
    Infers k r (.error fault) := by
  unfold ofResolved at h
  split at h
  · rename_i hnone
    cases h
    exact .noCpu (cpuForModel?_eq_none_iff.mp hnone)
  · rename_i c hc
    have hfirst := cpuForModel?_eq_some_iff_first.mp hc
    split at h
    · rename_i hnone
      cases h
      exact .noArch hfirst (Arch.ofName?_eq_none_iff.mp hnone)
    · rename_i a ha
      have harch : r.arch ∈ archNames := mem_archNames_iff.mpr ⟨a, ha⟩
      split at h
      · rename_i hos
        cases h
        exact .notFreestanding hfirst harch hos
      · rename_i hos
        split at h
        · cases h
        · rename_i f hf
          split at h
          · cases h
          · rename_i hsupports
            cases h
            obtain ⟨place, hforemost⟩ := inferFpu_eq_some_iff_foremost.mp hf
            exact .unsupported hfirst harch (Decidable.not_not.mp hos) hforemost
              (not_supports_iff.mp hsupports)

theorem infers_ofResolved (k : Catalogue) (r : ResolvedArch) : Infers k r (ofResolved k r) := by
  cases h : ofResolved k r with
  | error fault => exact infers_of_error h
  | ok d => exact infers_of_ok h

/-- **No other outcome applies.** -/
theorem Infers.ofResolved_eq {o : Except ConversionFault Descriptor} (h : Infers k r o) :
    ofResolved k r = o := by
  cases h with
  | noCpu hnone =>
    unfold ofResolved
    rw [cpuForModel?_eq_none_iff.mpr hnone]
  | noArch hfirst harch =>
    have hnone : Arch.ofName? r.arch = none := Arch.ofName?_eq_none_iff.mpr harch
    unfold ofResolved
    rw [cpuForModel?_eq_some_iff_first.mpr hfirst, hnone]
  | notFreestanding hfirst harch hos =>
    obtain ⟨a, ha⟩ := mem_archNames_iff.mp harch
    have hos : r.os ≠ freestanding := hos
    unfold ofResolved
    simp only [cpuForModel?_eq_some_iff_first.mpr hfirst, ha]
    rw [if_pos hos]
  | noUnit hfirst harch hos hnone =>
    exact ofResolved_eq_ok_iff.mpr ⟨cpuForModel?_eq_some_iff_first.mpr hfirst, harch.symm, hos,
      ResolvedArch.inferFpu_eq_none_iff.mpr hnone, by simp, rfl⟩
  | @unsupported c f place hfirst harch hos hforemost hnone =>
    obtain ⟨a, ha⟩ := mem_archNames_iff.mp harch
    exact ofResolved_eq_incompatible_iff.mpr ⟨c, a, f, cpuForModel?_eq_some_iff_first.mpr hfirst,
      ha, hos, inferFpu_eq_some_iff_foremost.mpr ⟨place, hforemost⟩, not_supports_iff.mpr hnone,
      rfl, rfl⟩
  | @unit c i e f g place hfirst harch hos hforemost hg hsame =>
    refine ofResolved_eq_ok_iff.mpr ⟨cpuForModel?_eq_some_iff_first.mpr hfirst, harch.symm, hos,
      inferFpu_eq_some_iff_foremost.mpr ⟨place, hforemost⟩, ?_, rfl⟩
    rintro _ ⟨⟩
    exact Cpu.supports_iff.mpr ⟨g, hg, hsame⟩

/-- The kinds of the refusals, in order of precedence. -/
theorem Infers.kind_eq {fault : ConversionFault} (h : Infers k r (.error fault)) :
    fault.kind = if (∀ c ∈ k.cpus, c.coreModel ≠ r.coreModel) ∨ r.arch ∉ archNames
      then .unsupportedCpu
      else if r.os ≠ "freestanding" then .notFreestanding else .incompatibleFpuForCpu := by
  have hsome : ∀ {c}, FirstOfModel k r.coreModel c →
      ¬ ∀ c ∈ k.cpus, c.coreModel ≠ r.coreModel := by
    rintro c ⟨hmodel, before, after, hcpus, _⟩ hnone
    exact hnone c (by simp [hcpus]) hmodel
  cases h with
  | noCpu hnone => rw [if_pos (Or.inl hnone)]; rfl
  | noArch hfirst harch => rw [if_pos (Or.inr harch)]; rfl
  | notFreestanding hfirst harch hos =>
    rw [if_neg (not_or.mpr ⟨hsome hfirst, not_not_intro harch⟩), if_pos hos]
    rfl
  | unsupported hfirst harch hos =>
    rw [if_neg (not_or.mpr ⟨hsome hfirst, not_not_intro harch⟩), if_neg (not_not_intro hos)]
    rfl

/-! ## What does not count -/

/-- The ABI text of an architecture, and flags that no unit lists, do not count. -/
theorem ofResolved_congr {p : ResolvedArch} (harch : p.arch = r.arch) (hos : p.os = r.os)
    (hmodel : p.coreModel = r.coreModel)
    (hfeatures : ∀ x, x = softFloat ∨ (∃ f ∈ k.fpus, x ∈ f.features) →
      (x ∈ p.features ↔ x ∈ r.features)) : ofResolved k p = ofResolved k r := by
  have hsoft : p.has softFloat = r.has softFloat := by
    rw [Bool.eq_iff_iff, ResolvedArch.has_iff, ResolvedArch.has_iff]
    exact hfeatures softFloat (Or.inl rfl)
  have hunits : p.matchingFpus k = r.matchingFpus k := by
    refine List.filter_congr fun f hf => ?_
    rw [Bool.eq_iff_iff, ResolvedArch.hasAll_iff, ResolvedArch.hasAll_iff]
    exact forall₂_congr fun x hx => hfeatures x (Or.inr ⟨f, hf, hx⟩)
  have hunit : p.inferFpu k = r.inferFpu k := by
    rw [ResolvedArch.inferFpu, ResolvedArch.inferFpu, hunits]
  unfold ofResolved
  rw [harch, hos, hmodel, hsoft, hunit]

/-! ## All of it -/

/-- **Inference decided**: its outcome is the one that applies, the unit meant is the only
one with the lowest pair of priority and place, and nothing else counts. -/
theorem ofResolved_decided (k : Catalogue) (r : ResolvedArch) :
    (∀ o, ofResolved k r = o ↔ Infers k r o) ∧
    (∀ fault, ofResolved k r = .error fault → fault.kind =
      if (∀ c ∈ k.cpus, c.coreModel ≠ r.coreModel) ∨ r.arch ∉ archNames then .unsupportedCpu
      else if r.os ≠ "freestanding" then .notFreestanding else .incompatibleFpuForCpu) ∧
    ((∃ g ∈ k.fpus, g.BackedBy (· ∈ r.features)) →
      ∃! f, ∃ place, Foremost k.fpus (· ∈ r.features) place f) ∧
    ∀ p : ResolvedArch, p.arch = r.arch → p.os = r.os → p.coreModel = r.coreModel →
      (∀ x, x = softFloat ∨ (∃ f ∈ k.fpus, x ∈ f.features) →
        (x ∈ p.features ↔ x ∈ r.features)) → ofResolved k p = ofResolved k r := by
  refine ⟨fun o => ⟨?_, Infers.ofResolved_eq⟩, fun _ h => (infers_of_error h).kind_eq,
    existsUnique_foremost, fun _ => ofResolved_congr⟩
  rintro rfl
  exact infers_ofResolved k r

/-- Two units of one priority below zero, behind a unit of a higher one. -/
def tiedUnits : List Fpu :=
  [⟨"wide", 1, ["fp64"]⟩, ⟨"first", -5, ["d32"]⟩, ⟨"second", -5, ["d32", "d32"]⟩]

/-- The CPU lists the later of the two. -/
def tiedCpu : Cpu := ⟨"tied", "Armv7", "tied_model", [⟨"second", -5, ["d32", "d32"]⟩]⟩

def tied : Catalogue := ⟨tiedUnits, [tiedCpu], by decide, by decide, by decide⟩

def tiedArch (abi : String) (features : List String) : ResolvedArch :=
  ⟨"armeb", "freestanding", abi, "tied_model", .ofList features⟩

theorem tied_decided :
    ofResolved tied (tiedArch "eabi" ["d32", "fp64"]) =
      .ok ⟨tiedCpu, .arm, .big, .hard, some ⟨"first", -5, ["d32"]⟩⟩ ∧
    ofResolved tied (tiedArch "other" ["d32", "dsp", "fp64"]) =
      .ok ⟨tiedCpu, .arm, .big, .hard, some ⟨"first", -5, ["d32"]⟩⟩ := by
  obtain ⟨houtcome, -, -, hcongr⟩ := ofResolved_decided tied (tiedArch "eabi" ["d32", "fp64"])
  have hleads : Leads tied.fpus (· ∈ (tiedArch "eabi" ["d32", "fp64"]).features)
      ⟨"first", -5, ["d32"]⟩ := by decide
  obtain ⟨place, hforemost⟩ := leads_iff_foremost.mp hleads
  have hfirst : FirstOfModel tied "tied_model" tiedCpu := ⟨rfl, [], [], rfl, by simp⟩
  have hout := (houtcome _).mpr
    (.unit hfirst (i := .arm) (e := .big) rfl rfl hforemost (List.mem_singleton_self _) (by decide))
  have hsoft : softFloat ∉ (tiedArch "eabi" ["d32", "fp64"]).features := by decide
  rw [if_neg hsoft] at hout
  refine ⟨hout, (hcongr (tiedArch "other" ["d32", "dsp", "fp64"]) rfl rfl rfl ?_).trans hout⟩
  have hlisted : ∀ x ∈ softFloat :: tied.fpus.flatMap Fpu.features,
      (x ∈ FeatureSet.ofList ["d32", "dsp", "fp64"] ↔ x ∈ FeatureSet.ofList ["d32", "fp64"]) := by
    decide
  rintro x (rfl | ⟨f, hf, hx⟩)
  · exact hlisted _ List.mem_cons_self
  · exact hlisted x (List.mem_cons_of_mem _ (List.mem_flatMap.mpr ⟨f, hf, hx⟩))

end Descriptor

end CortexFlags
