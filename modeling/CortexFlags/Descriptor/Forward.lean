import CortexFlags.Catalogue.Basic
import CortexFlags.Descriptor.Basic
import CortexFlags.Features.Vocabulary
import CortexFlags.Query

/-! From compiler flags to a descriptor, and from a descriptor to the query that
asks for its target. -/

namespace CortexFlags

/-- Values of the compiler flags; a value flag may be missing. -/
structure Flags where
  cpu : Option String
  floatAbi : Option String
  fpu : Option String
  thumb : Bool
  arm : Bool
  bigEndian : Bool
deriving DecidableEq, Repr

namespace Flags

/-- Arm code is asked for only by `-marm` without `-mthumb`. -/
def instructionSet (flags : Flags) : InstructionSet :=
  if flags.arm && !flags.thumb then .arm else .thumb

def endianness (flags : Flags) : Endianness := if flags.bigEndian then .big else .little

/-- The float ABI asked for, soft if none is. -/
def readFloatAbi (flags : Flags) : Except FlagFault FloatAbi :=
  match flags.floatAbi with
  | none => .ok .soft
  | some value =>
      match FloatAbi.ofName? value with
      | some abi => .ok abi
      | none => .error (.invalidFloatAbi value)

/-- The unit asked for; it may be missing only with the soft ABI. -/
def readFpu (flags : Flags) (k : Catalogue) (abi : FloatAbi) : Except FlagFault (Option Fpu) :=
  match flags.fpu with
  | none => if abi = .soft then .ok none else .error .missingFpu
  | some name =>
      match k.fpu name with
      | .ok f => .ok (some f)
      | .error fault => .error fault

end Flags

namespace Descriptor

/-- Read the values of the flags, the first bad one being the fault. -/
def readFlags (k : Catalogue) (flags : Flags) : Except FlagFault Descriptor :=
  match flags.cpu with
  | none => .error .missingCpu
  | some name =>
      match k.cpu name with
      | .error fault => .error fault
      | .ok cpu =>
          match flags.readFloatAbi with
          | .error fault => .error fault
          | .ok floatAbi =>
              match flags.readFpu k floatAbi with
              | .error fault => .error fault
              | .ok fpu => .ok {
                  cpu, instructionSet := flags.instructionSet, endianness := flags.endianness,
                  floatAbi, fpu }

/-- The valid descriptor that the flags select. -/
def ofFlags (k : Catalogue) (flags : Flags) : Except Fault Descriptor :=
  match readFlags k flags with
  | .error fault => .error (.flag fault)
  | .ok d =>
      match d.validate with
      | .error fault => .error (.conversion fault none)
      | .ok () => .ok d

/-! ## Projection onto a query -/

/-- The flags to be added to the core model: those of the unit, after the one for
software registers where the ABI is softfp. -/
def queryFeatures (d : Descriptor) : List String :=
  (if d.floatAbi = .softfp then [softFloat] else [])
    ++ (d.fpu.map Fpu.features).getD []

/-- The query that asks for the target of a valid descriptor. -/
def toQuery (d : Descriptor) : Except ConversionFault Query :=
  match d.validate with
  | .error fault => .error fault
  | .ok () =>
      if d.queryFeatures.length > maxQueryFeatures then
        .error (.tooManyFeatures d.queryFeatures.length)
      else .ok {
        arch := (Arch.select d.instructionSet d.endianness).name
        os := freestanding
        abi := if d.floatAbi = .soft then "eabi" else "eabihf"
        coreModel := d.cpu.coreModel
        featuresAdd := d.queryFeatures }

end Descriptor

end CortexFlags
