import CortexFlags.Cpu
import CortexFlags.Fault
import CortexFlags.Features.Set

/-! Descriptors: the target that a set of compiler flags selects. `validate` tells
which rule on the floating point settings is broken, and `agrees` is equality up
to the naming of the unit; agreeing descriptors have the same key
(`key_eq_of_agrees`). -/

namespace CortexFlags

structure Descriptor where
  cpu : Cpu
  instructionSet : InstructionSet
  endianness : Endianness
  floatAbi : FloatAbi
  fpu : Option Fpu
deriving DecidableEq, Repr

namespace Descriptor

/-- The target of a CPU alone: thumb code, little endian, soft floats, no unit. -/
def plain (cpu : Cpu) : Descriptor := ⟨cpu, .thumb, .little, .soft, none⟩

/-! ## Rules on the floating point settings -/

/-- Refuse a unit with the soft ABI, the lack of one with the others, and a unit
that the CPU does not support. -/
def validate (d : Descriptor) : Except ConversionFault Unit :=
  match d.fpu with
  | none => if d.floatAbi = .soft then .ok () else .error (.fpuRequired d.floatAbi)
  | some f =>
      if d.floatAbi = .soft then .error (.fpuWithSoftAbi f.name)
      else if !d.cpu.hasFpu then .error (.noFpuOnCpu d.cpu.name)
      else if !d.cpu.supports f then .error (.incompatibleFpu f.name d.cpu.name)
      else .ok ()

theorem validate_eq_ok_iff (d : Descriptor) :
    d.validate = .ok () ↔
      match d.fpu with
      | none => d.floatAbi = .soft
      | some f => d.floatAbi ≠ .soft ∧ d.cpu.supports f := by
  unfold validate
  cases hf : d.fpu with
  | none => by_cases h : d.floatAbi = .soft <;> simp [h]
  | some f =>
    by_cases h : d.floatAbi = .soft
    · simp [h]
    · by_cases hs : d.cpu.supports f
      · simp [h, hs, Cpu.hasFpu_of_supports hs]
      · by_cases hh : d.cpu.hasFpu <;> simp [h, hs, hh]

/-! ## Flags and text -/

/-- The compiler flags that select the target. -/
def gccFlags (d : Descriptor) : List String :=
  [s!"-mcpu={d.cpu.name}", s!"-m{d.instructionSet.name}"]
    ++ (if d.endianness = .big then ["-mbig-endian"] else [])
    ++ [s!"-mfloat-abi={d.floatAbi.name}"]
    ++ (d.fpu.map fun f => s!"-mfpu={f.name}").toList

/-- The name of the unit, or `None` for a missing one. -/
def fpuText (d : Descriptor) : String := (d.fpu.map Fpu.name).getD "None"

/-- The fields on a line each. -/
def text (d : Descriptor) : String :=
  "\n".intercalate [
    s!"cpu:             {d.cpu.name}",
    s!"instruction set: {d.instructionSet.name}",
    s!"endianness:      {d.endianness.name}",
    s!"float abi:       {d.floatAbi.name}",
    s!"fpu:             {d.fpuText}"]

/-! ## Agreement -/

/-- Units agree when both are missing or their features are the same. -/
def fpusAgree : Option Fpu → Option Fpu → Bool
  | none, none => true
  | some f, some g => f.sameFeatures g
  | _, _ => false

/-- Equality of targets: an alias of a unit stands for the same target. -/
def agrees (a b : Descriptor) : Bool :=
  fpusAgree a.fpu b.fpu && decide (a.cpu = b.cpu) &&
    decide (a.instructionSet = b.instructionSet) && decide (a.endianness = b.endianness) &&
    decide (a.floatAbi = b.floatAbi)

/-- What a descriptor is filed under. -/
structure Key where
  cpu : String
  instructionSet : InstructionSet
  endianness : Endianness
  floatAbi : FloatAbi
  features : Option FeatureSet
deriving DecidableEq

def key (d : Descriptor) : Key where
  cpu := d.cpu.name
  instructionSet := d.instructionSet
  endianness := d.endianness
  floatAbi := d.floatAbi
  features := d.fpu.map fun f => .ofList f.features

theorem sameFeatures_iff_ofList {f g : Fpu} :
    f.sameFeatures g ↔ FeatureSet.ofList f.features = FeatureSet.ofList g.features := by
  rw [Fpu.sameFeatures_iff]
  constructor
  · intro h
    ext x
    simp [h x]
  · intro h x
    have := congrArg (x ∈ ·) h
    simpa using this

theorem fpusAgree_iff {f g : Option Fpu} :
    fpusAgree f g ↔
      (f.map fun f => FeatureSet.ofList f.features) =
        g.map fun g => FeatureSet.ofList g.features := by
  cases f <;> cases g <;> simp [fpusAgree, sameFeatures_iff_ofList]

theorem fpusAgree_cases {f g : Option Fpu} (h : fpusAgree f g) :
    (f = none ∧ g = none) ∨ ∃ u v, f = some u ∧ g = some v ∧ u.sameFeatures v := by
  cases f with
  | none =>
    cases g with
    | none => exact Or.inl ⟨rfl, rfl⟩
    | some v => simp [fpusAgree] at h
  | some u =>
    cases g with
    | none => simp [fpusAgree] at h
    | some v => exact Or.inr ⟨u, v, rfl, rfl, h⟩

theorem agrees_iff {a b : Descriptor} : a.agrees b ↔ a.cpu = b.cpu ∧ a.key = b.key := by
  simp only [agrees, Bool.and_eq_true, decide_eq_true_eq, fpusAgree_iff, key, Key.mk.injEq]
  constructor
  · rintro ⟨⟨⟨⟨hf, hc⟩, hi⟩, he⟩, ha⟩
    exact ⟨hc, congrArg Cpu.name hc, hi, he, ha, hf⟩
  · rintro ⟨hc, _, hi, he, ha, hf⟩
    exact ⟨⟨⟨⟨hf, hc⟩, hi⟩, he⟩, ha⟩

theorem agrees_iff_fields {a b : Descriptor} :
    a.agrees b ↔ fpusAgree a.fpu b.fpu ∧ a.cpu = b.cpu ∧ a.instructionSet = b.instructionSet ∧
      a.endianness = b.endianness ∧ a.floatAbi = b.floatAbi := by
  simp only [agrees, Bool.and_eq_true, decide_eq_true_eq, and_assoc]

theorem key_eq_of_agrees {a b : Descriptor} (h : a.agrees b) : a.key = b.key :=
  (agrees_iff.mp h).2

theorem agrees_refl (a : Descriptor) : a.agrees a := agrees_iff.mpr ⟨rfl, rfl⟩

theorem agrees_symm {a b : Descriptor} (h : a.agrees b) : b.agrees a := by
  obtain ⟨hcpu, hkey⟩ := agrees_iff.mp h
  exact agrees_iff.mpr ⟨hcpu.symm, hkey.symm⟩

theorem agrees_trans {a b c : Descriptor} (hab : a.agrees b) (hbc : b.agrees c) : a.agrees c := by
  obtain ⟨hcpu, hkey⟩ := agrees_iff.mp hab
  obtain ⟨hcpu', hkey'⟩ := agrees_iff.mp hbc
  exact agrees_iff.mpr ⟨hcpu.trans hcpu', hkey.trans hkey'⟩

/-- Agreeing descriptors agree with the same ones. -/
theorem agrees_congr_right {a b : Descriptor} (h : a.agrees b) (d : Descriptor) :
    d.agrees a = d.agrees b :=
  Bool.eq_iff_iff.mpr ⟨fun ha => agrees_trans ha h, fun hb => agrees_trans hb (agrees_symm h)⟩

end Descriptor

end CortexFlags
