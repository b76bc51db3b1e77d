import CortexFlags.Proofs.Descriptor.Outcome

/-! What the line of a CPU offers, and what the compiler flags for it are accepted with.

* `Cpu.hasFpu_eq_false_iff_info`: the line without units and with the soft ABI only is the
  one of a CPU that has no unit;
* `accepts_none_iff`, `accepts_some_iff`: flags without a unit are accepted with the soft
  ABI, and those with one exactly if a listed unit has its features, with any other ABI;
* `offered_iff_accepted`: what is offered is accepted, and nothing else is, but for the
  other names of a listed unit. -/

namespace CortexFlags

namespace Cpu

variable {c : Cpu} {f : Fpu} {abi : FloatAbi}

/-! ## The line of a CPU -/

/-- The features of a unit are those of a listed one. -/
def Fits (c : Cpu) (f : Fpu) : Prop :=
  ∃ g ∈ c.compatibleFpus, ∀ x, x ∈ g.features ↔ x ∈ f.features

theorem supports_iff_fits : c.supports f ↔ c.Fits f := by
  simp only [supports_iff, Fits, Fpu.sameFeatures_iff]

theorem fits_of_mem (h : f ∈ c.compatibleFpus) : c.Fits f := ⟨f, h, fun _ => Iff.rfl⟩

theorem Fits.hasFpu (h : c.Fits f) : c.hasFpu = true :=
  hasFpu_of_supports (supports_iff_fits.mpr h)

theorem exists_listed_of_hasFpu (h : c.hasFpu = true) : ∃ g, g ∈ c.compatibleFpus := by
  apply List.exists_mem_of_ne_nil
  simpa [hasFpu] using h

theorem mem_floatAbis_iff : abi ∈ c.floatAbis ↔ abi = .soft ∨ c.hasFpu = true := by
  unfold floatAbis
  cases c.hasFpu with
  | false => simp
  | true => cases abi <;> simp

/-- A line with the name of a CPU, float ABIs, and units. -/
def infoLine (name : String) (abis units : List String) : String :=
  let abis := Text.padRight 16 (",".intercalate abis)
  let units := ",".intercalate units
  s!"CPU: {Text.padRight 15 name} | Float ABIs: {abis} | FPU types: {units}"

theorem info_of_hasFpu (h : c.hasFpu = true) :
    c.info = infoLine c.name ["soft", "softfp", "hard"] (c.compatibleFpus.map Fpu.name) := by
  simp [info, infoLine, floatAbis, h, FloatAbi.name]

theorem info_of_not_hasFpu (h : c.hasFpu = false) :
    c.info = infoLine c.name ["soft"] ["(none)"] := by
  simp [info, infoLine, floatAbis, h, FloatAbi.name]

/-- The column of the float ABIs tells the lines apart. -/
theorem infoLine_ne (name : String) (units : List String) :
    infoLine name ["soft", "softfp", "hard"] units ≠ infoLine name ["soft"] ["(none)"] := by
  intro h
  have hall : Text.padRight 16 (",".intercalate ["soft", "softfp", "hard"]) =
    "soft,softfp,hard" := by decide
  have hsoft : Text.padRight 16 (",".intercalate ["soft"]) = "soft            " := by decide
  simp only [infoLine, toString, String.append_assoc, String.append_right_inj, hall, hsoft] at h
  have hfifth := congrArg (fun text => text.toList[4]?) h
  simp at hfifth

theorem hasFpu_eq_false_iff_info :
    c.hasFpu = false ↔ c.info = infoLine c.name ["soft"] ["(none)"] := by
  constructor
  · exact info_of_not_hasFpu
  · intro h
    cases hunits : c.hasFpu with
    | false => rfl
    | true =>
      rw [info_of_hasFpu hunits] at h
      exact absurd h (infoLine_ne _ _)

end Cpu

/-! ## Accepted flags -/

/-- The flags with a CPU, a float ABI, and a unit or none, in place of their own. -/
def Flags.choose (rest : Flags) (c : Cpu) (abi : FloatAbi) (unit : Option String) : Flags :=
  { rest with cpu := some c.name, floatAbi := some abi.name, fpu := unit }

namespace Descriptor

variable {k : Catalogue} {rest : Flags} {c : Cpu} {abi : FloatAbi} {unit : Option String}
  {name : String}

/-- A descriptor comes out of the flags. -/
def Accepts (k : Catalogue) (rest : Flags) (c : Cpu) (abi : FloatAbi) (unit : Option String) :
    Prop :=
  ∃ d, ofFlags k (rest.choose c abi unit) = .ok d

/-- The names are read back as the entries that they are taken from. -/
theorem ofFlags_choose_eq_ok_iff (hc : c ∈ k.cpus) {d : Descriptor} :
    ofFlags k (rest.choose c abi unit) = .ok d ↔
      ∃ fpu : Option Fpu, d = ⟨c, rest.instructionSet, rest.endianness, abi, fpu⟩ ∧
        unit = fpu.map Fpu.name ∧ (∀ f, fpu = some f → f ∈ k.fpus) ∧ d.validate = .ok () := by
  rw [ofFlags_eq_ok_iff]
  constructor
  · rintro ⟨⟨hname, hlisted⟩, habi, ⟨hunit, hfpu⟩, hiset, hendian, hvalid⟩
    have hcpu : d.cpu = c := k.cpu_eq_of_name_eq hlisted hc (Option.some.inj hname).symm
    have habi : d.floatAbi = abi := by
      rcases habi with habi | ⟨habsent, _⟩
      · exact (FloatAbi.name_inj (Option.some.inj habi)).symm
      · cases habsent
    have hiset : d.instructionSet = rest.instructionSet := hiset
    have hendian : d.endianness = rest.endianness := hendian
    refine ⟨d.fpu, ?_, hunit, hfpu, hvalid⟩
    rw [← hcpu, ← habi, ← hiset, ← hendian]
  · rintro ⟨fpu, rfl, hunit, hfpu, hvalid⟩
    exact ⟨⟨rfl, hc⟩, Or.inl rfl, ⟨hunit, hfpu⟩, rfl, rfl, hvalid⟩

/-- Without a unit, the ABI is soft. -/
theorem accepts_none_iff (hc : c ∈ k.cpus) : Accepts k rest c abi none ↔ abi = .soft := by
  constructor
  · rintro ⟨d, hd⟩
    obtain ⟨fpu, rfl, hunit, _, hvalid⟩ := (ofFlags_choose_eq_ok_iff hc).mp hd
    have hnone : fpu = none := Option.map_eq_none_iff.mp hunit.symm
    subst hnone
    exact (validate_eq_ok_iff _).mp hvalid
  · intro hsoft
    refine ⟨⟨c, rest.instructionSet, rest.endianness, abi, none⟩,
      (ofFlags_choose_eq_ok_iff hc).mpr ⟨none, rfl, rfl, ?_, ?_⟩⟩
    · intro f hf
      cases hf
    · exact (validate_eq_ok_iff _).mpr hsoft

/-- With a unit, the ABI is another one, and the unit fits. -/
theorem accepts_some_iff (hc : c ∈ k.cpus) :
    Accepts k rest c abi (some name) ↔
      abi ≠ .soft ∧ ∃ f ∈ k.fpus, f.name = name ∧ c.Fits f := by
  constructor
  · rintro ⟨d, hd⟩
    obtain ⟨fpu, rfl, hunit, hlisted, hvalid⟩ := (ofFlags_choose_eq_ok_iff hc).mp hd
    obtain ⟨f, rfl, hname⟩ := Option.map_eq_some_iff.mp hunit.symm
    obtain ⟨hhard, hsupports⟩ := (validate_eq_ok_iff _).mp hvalid
    exact ⟨hhard, f, hlisted f rfl, hname, Cpu.supports_iff_fits.mp hsupports⟩
  · rintro ⟨hhard, f, hf, rfl, hfits⟩
    refine ⟨⟨c, rest.instructionSet, rest.endianness, abi, some f⟩,
      (ofFlags_choose_eq_ok_iff hc).mpr ⟨some f, rfl, rfl, ?_, ?_⟩⟩
    · intro g hg
      cases hg
      exact hf
    · exact (validate_eq_ok_iff _).mpr ⟨hhard, Cpu.supports_iff_fits.mpr hfits⟩

/-! ## What is offered and what is accepted -/

/-- A listed unit is accepted under its name, which is found again in the catalogue. -/
theorem accepts_of_listed (hc : c ∈ k.cpus) (hhard : abi ≠ .soft) {g : Fpu}
    (hg : g ∈ c.compatibleFpus) : Accepts k rest c abi (some g.name) := by
  rw [accepts_some_iff hc]
  exact ⟨hhard, g, k.compatible_mem c hc g hg, rfl, Cpu.fits_of_mem hg⟩

/-- A CPU whose line shows no unit accepts none, with any ABI, and only such a CPU. -/
theorem hasFpu_eq_false_iff_not_accepts (hc : c ∈ k.cpus) :
    c.hasFpu = false ↔ ∀ abi name, ¬ Accepts k rest c abi (some name) := by
  constructor
  · intro hnone abi name haccepts
    obtain ⟨_, f, _, _, hfits⟩ := (accepts_some_iff hc).mp haccepts
    have hunits : c.hasFpu = true := hfits.hasFpu
    rw [hnone] at hunits
    cases hunits
  · intro hnone
    cases hunits : c.hasFpu with
    | false => rfl
    | true =>
      obtain ⟨g, hg⟩ := Cpu.exists_listed_of_hasFpu hunits
      exact absurd (accepts_of_listed hc (by decide) hg) (hnone .hard g.name)

theorem accepts_iff (hc : c ∈ k.cpus) :
    Accepts k rest c abi unit ↔ abi ∈ c.floatAbis ∧
      (abi = .soft ∧ unit = none ∨
        abi ≠ .soft ∧ ∃ f ∈ k.fpus, unit = some f.name ∧ c.Fits f) := by
  cases unit with
  | none =>
    rw [accepts_none_iff hc]
    simp only [reduceCtorEq, false_and, and_false, exists_false, or_false, and_true]
    constructor
    · intro hsoft
      exact ⟨Cpu.mem_floatAbis_iff.mpr (Or.inl hsoft), hsoft⟩
    · exact And.right
  | some name =>
    rw [accepts_some_iff hc]
    constructor
    · rintro ⟨hhard, f, hf, rfl, hfits⟩
      have habi : abi ∈ c.floatAbis := Cpu.mem_floatAbis_iff.mpr (Or.inr hfits.hasFpu)
      exact ⟨habi, Or.inr ⟨hhard, f, hf, rfl, hfits⟩⟩
    · rintro ⟨_, ⟨_, hnone⟩ | ⟨hhard, f, hf, hname, hfits⟩⟩
      · cases hnone
      · exact ⟨hhard, f, hf, (Option.some.inj hname).symm, hfits⟩

/-- **What the line of a CPU offers is what its flags are accepted with**: the soft ABI
alone, or another one that is listed with a unit that has the features of a listed one. So
a name that is accepted and not listed is another name for a listed set of features. -/
theorem offered_iff_accepted (rest : Flags) (hc : c ∈ k.cpus) :
    (∀ abi unit, Accepts k rest c abi unit ↔ abi ∈ c.floatAbis ∧
      (abi = .soft ∧ unit = none ∨
        abi ≠ .soft ∧ ∃ f ∈ k.fpus, unit = some f.name ∧ c.Fits f)) ∧
    (∀ abi ∈ c.floatAbis, abi ≠ .soft → ∀ g ∈ c.compatibleFpus,
      Accepts k rest c abi (some g.name)) ∧
    (c.hasFpu = true → c.info =
      Cpu.infoLine c.name ["soft", "softfp", "hard"] (c.compatibleFpus.map Fpu.name)) ∧
    (c.hasFpu = false ↔ c.info = Cpu.infoLine c.name ["soft"] ["(none)"]) ∧
    (c.hasFpu = false ↔ ∀ abi name, ¬ Accepts k rest c abi (some name)) ∧
    ∀ abi name, (∀ g ∈ c.compatibleFpus, g.name ≠ name) →
      (Accepts k rest c abi (some name) ↔ abi ≠ .soft ∧
        ∃ f ∈ k.fpus, f.name = name ∧ f ∉ c.compatibleFpus ∧ c.Fits f) := by
  refine ⟨fun _ _ => accepts_iff hc, ?_, Cpu.info_of_hasFpu, Cpu.hasFpu_eq_false_iff_info,
    hasFpu_eq_false_iff_not_accepts hc, ?_⟩
  · intro abi _ hhard g hg
    exact accepts_of_listed hc hhard hg
  · intro abi name hunlisted
    rw [accepts_some_iff hc]
    constructor
    · rintro ⟨hhard, f, hf, hname, hfits⟩
      refine ⟨hhard, f, hf, hname, ?_, hfits⟩
      intro hlisted
      exact hunlisted f hlisted hname
    · rintro ⟨hhard, f, hf, hname, _, hfits⟩
      exact ⟨hhard, f, hf, hname, hfits⟩

def vfpUnit : Fpu := ⟨"vfp", 7, ["vfp2"]⟩

/-- A CPU that lists one unit. -/
def stockedCpu : Cpu := ⟨"arm1136", "Armv6", "arm1136", [vfpUnit]⟩

def emptyCpu : Cpu := ⟨"cortex-m0", "Armv6-M", "cortex_m0", []⟩

/-- Two names for one set of features, and a unit of other features. -/
def shop : Catalogue where
  fpus := [vfpUnit, ⟨"vfpv2", 7, ["vfp2", "vfp2"]⟩, ⟨"vfpv3", 4, ["vfp3"]⟩]
  cpus := [stockedCpu, emptyCpu]
  fpuNames_nodup := by decide
  cpuNames_nodup := by decide
  compatible_mem := by decide

/-- The listed name and the other one are accepted, but no other features, and nothing with
the soft ABI; no unit is accepted for the CPU that has none. -/
theorem shop_offered :
    let rest : Flags := ⟨none, none, none, false, false, false⟩
    Accepts shop rest stockedCpu .softfp (some "vfp") ∧
    Accepts shop rest stockedCpu .hard (some "vfpv2") ∧
    ¬ Accepts shop rest stockedCpu .hard (some "vfpv3") ∧
    ¬ Accepts shop rest stockedCpu .soft (some "vfp") ∧
    Accepts shop rest emptyCpu .soft none ∧
    (∀ abi name, ¬ Accepts shop rest emptyCpu abi (some name)) ∧
    emptyCpu.info =
      "CPU: cortex-m0       | Float ABIs: soft             | FPU types: (none)" := by
  intro rest
  obtain ⟨hstocked, hlisted, -, -, -, hunlisted⟩ :=
    offered_iff_accepted (k := shop) (c := stockedCpu) rest (by decide)
  obtain ⟨hempty, -, -, hline, hnone, -⟩ :=
    offered_iff_accepted (k := shop) (c := emptyCpu) rest (by decide)
  have hfits : stockedCpu.Fits ⟨"vfpv2", 7, ["vfp2", "vfp2"]⟩ := by
    rw [← Cpu.supports_iff_fits]
    decide
  refine ⟨hlisted _ (by decide) (by decide) vfpUnit (by decide),
    (hunlisted _ _ (by decide)).mpr ⟨by decide, _, by decide, rfl, by decide, hfits⟩, ?_, ?_,
    (hempty _ _).mpr ⟨by decide, Or.inl ⟨rfl, rfl⟩⟩, hnone.mp rfl, (hline.mp rfl).trans ?_⟩
  · intro haccepts
    obtain ⟨_, f, hf, hname, _, hother⟩ := (hunlisted _ _ (by decide)).mp haccepts
    have hvfpv3 : f = ⟨"vfpv3", 4, ["vfp3"]⟩ :=
      shop.fpu_eq_of_name_eq hf (by decide) hname
    rw [hvfpv3, ← Cpu.supports_iff_fits] at hother
    exact absurd hother (by decide)
  · intro haccepts
    rcases ((hstocked _ _).mp haccepts).2 with ⟨_, hname⟩ | ⟨hhard, _⟩
    · cases hname
    · exact hhard rfl
  · decide

end Descriptor

end CortexFlags
