import CortexFlags.Fpu
import CortexFlags.Selector
import CortexFlags.Text.Pad

/-! CPUs: a name for the `-mcpu` flag, the core model they run, and the floating
point units they can be paired with. -/

namespace CortexFlags

structure Cpu where
  name : String
  architecture : String
  coreModel : String
  compatibleFpus : List Fpu
deriving DecidableEq, Repr

namespace Cpu

def hasFpu (c : Cpu) : Bool := !c.compatibleFpus.isEmpty

/-- The float ABIs a program for the CPU may use, from soft to hard. -/
def floatAbis (c : Cpu) : List FloatAbi :=
  if c.hasFpu then [.soft, .softfp, .hard] else [.soft]

/-- Some compatible unit has the features of this one. -/
def supports (c : Cpu) (fpu : Fpu) : Bool := c.compatibleFpus.any (·.sameFeatures fpu)

theorem supports_iff {c : Cpu} {fpu : Fpu} :
    c.supports fpu ↔ ∃ f ∈ c.compatibleFpus, f.sameFeatures fpu := by
  simp [supports]

/-- Units with the same features are supported alike. -/
theorem supports_congr {f g : Fpu} (h : f.sameFeatures g) (c : Cpu) :
    c.supports f = c.supports g := by
  rw [Bool.eq_iff_iff, supports_iff, supports_iff]
  constructor
  · rintro ⟨u, hu, huf⟩
    exact ⟨u, hu, Fpu.sameFeatures_trans huf h⟩
  · rintro ⟨u, hu, hug⟩
    exact ⟨u, hu, Fpu.sameFeatures_trans hug (Fpu.sameFeatures_symm h)⟩

/-- A CPU without compatible units supports none. -/
theorem hasFpu_of_supports {c : Cpu} {fpu : Fpu} (h : c.supports fpu) : c.hasFpu := by
  obtain ⟨f, hf, _⟩ := supports_iff.mp h
  cases hc : c.compatibleFpus with
  | nil => simp [hc] at hf
  | cons g rest => simp [hasFpu, hc]

/-- The line that tells which options go with the CPU. -/
def info (c : Cpu) : String :=
  let abis := ",".intercalate (c.floatAbis.map FloatAbi.name)
  let fpus := if c.hasFpu then ",".intercalate (c.compatibleFpus.map Fpu.name) else "(none)"
  s!"CPU: {Text.padRight 15 c.name} | Float ABIs: {Text.padRight 16 abis} | FPU types: {fpus}"

end Cpu

end CortexFlags
