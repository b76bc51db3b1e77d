import CortexFlags.Descriptor.Forward
import CortexFlags.Resolution

/-! Inference: the descriptor behind a resolved architecture. Among the units whose
features are all there, the one of lowest priority is meant, the first declared
of several. -/

namespace CortexFlags

/-! ## The unit of lowest priority -/

/-- The better of a unit found so far and a later one: the later only if its
priority is strictly lower. -/
def betterFpu (best : Option Fpu) (f : Fpu) : Option Fpu :=
  match best with
  | none => some f
  | some b => if f.priority < b.priority then some f else some b

/-- The first unit of lowest priority. -/
def mostSpecific (fpus : List Fpu) : Option Fpu := fpus.foldl betterFpu none

namespace ResolvedArch

/-- The units whose features are all there, in order of declaration. -/
def matchingFpus (r : ResolvedArch) (k : Catalogue) : List Fpu :=
  k.fpus.filter fun f => r.hasAll f.features

/-- The unit that the features stand for. -/
def inferFpu (r : ResolvedArch) (k : Catalogue) : Option Fpu := mostSpecific (r.matchingFpus k)

end ResolvedArch

namespace Descriptor

/-- The descriptor of a resolved architecture. -/
def ofResolved (k : Catalogue) (r : ResolvedArch) : Except ConversionFault Descriptor :=
  match k.cpuForModel? r.coreModel with
  | none => .error (.noCpuForModel r.coreModel)
  | some cpu =>
      match Arch.ofName? r.arch with
      | none => .error (.unsupportedArch r.arch)
      | some arch =>
          if r.os ≠ freestanding then .error (.notFreestanding r.os)
          else
            match r.inferFpu k with
            | none => .ok {
                cpu, instructionSet := arch.instructionSet, endianness := arch.endianness,
                floatAbi := .soft, fpu := none }
            | some f =>
                if cpu.supports f then .ok {
                  cpu, instructionSet := arch.instructionSet, endianness := arch.endianness,
                  floatAbi := if r.has softFloat then .softfp else .hard, fpu := some f }
                else .error (.incompatibleFpu f.name cpu.name)

end Descriptor

namespace ResolvedArch

/-- Check that the catalogue has a CPU for the core model. -/
def checkCompatibility (r : ResolvedArch) (k : Catalogue) : Except ConversionFault Unit :=
  match k.cpuForModel? r.coreModel with
  | none => .error (.noCpuForModel r.coreModel)
  | some _ => .ok ()

/-- The architecture is that of one of the descriptors. -/
def isWithin (r : ResolvedArch) (k : Catalogue) (ds : List Descriptor) : Bool :=
  match Descriptor.ofResolved k r with
  | .error _ => false
  | .ok d => ds.any d.agrees

end ResolvedArch

end CortexFlags
