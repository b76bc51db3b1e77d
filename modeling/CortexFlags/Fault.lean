import CortexFlags.Selector
import CortexFlags.Text.Quoted

/-! Why an operation is refused. A fault is a cause with the values it is about;
its wording stands in one place per family. -/

namespace CortexFlags

/-! ## Flag values -/

/-- Malformed or incomplete flag values. -/
inductive FlagFault
  | missingCpu
  | invalidCpu (value : String)
  | invalidFloatAbi (value : String)
  | missingFpu
  | invalidFpu (value : String)
deriving DecidableEq, Repr

def FlagFault.message : FlagFault → String
  | missingCpu => "--mcpu argument required"
  | invalidCpu value => s!"--mcpu={value} is not a valid CPU, see info command for valid CPUs"
  | invalidFloatAbi value =>
      s!"--mfloat-abi={value} is not a valid float abi, valid options" ++
        " are \"hard\", \"softfp\", and \"soft\""
  | missingFpu => "--mfpu is required if --mfloat-abi!=soft"
  | invalidFpu value => s!"--mfpu={value} is not a valid FPU, see info command for valid FPUs"

/-- The value a flag fault is about, if it is about one. -/
def FlagFault.value? : FlagFault → Option String
  | missingCpu | missingFpu => none
  | invalidCpu value | invalidFloatAbi value | invalidFpu value => some value

/-! ## Conversions -/

/-- The most feature flags that a query may add. -/
def maxQueryFeatures : Nat := 16

/-- A descriptor breaks a rule, or has no counterpart on the other side. -/
inductive ConversionFault
  | noCpuForModel (model : String)
  | unsupportedArch (arch : String)
  | notFreestanding (os : String)
  | fpuRequired (abi : FloatAbi)
  | fpuWithSoftAbi (fpu : String)
  | noFpuOnCpu (cpu : String)
  | incompatibleFpu (fpu cpu : String)
  | tooManyFeatures (count : Nat)
deriving DecidableEq, Repr

def ConversionFault.message : ConversionFault → String
  | noCpuForModel model => s!"no CPU for core model {model}"
  | unsupportedArch arch => s!"unsupported architecture {arch}"
  | notFreestanding os => s!"{os} is not a freestanding target"
  | fpuRequired abi => s!"-mfloat-abi={abi.name} requires an FPU"
  | fpuWithSoftAbi fpu => s!"-mfpu={fpu} cannot be used with -mfloat-abi=soft"
  | noFpuOnCpu cpu => s!"{cpu} has no FPU"
  | incompatibleFpu fpu cpu => s!"{fpu} is not a valid FPU for {cpu}"
  | tooManyFeatures count =>
      s!"{count} features requested, at most {maxQueryFeatures} supported"

/-! ## Queries and their resolution -/

/-- A query that cannot be read or resolved. -/
inductive ResolutionFault
  | malformedTarget (triple : String)
  | unknownModel (model : String)
  | unknownFeature (flag : String)
deriving DecidableEq, Repr

def ResolutionFault.message : ResolutionFault → String
  | malformedTarget triple =>
      s!"invalid target {Text.Quoted.render triple}, expecting arch-os-abi"
  | unknownModel model => s!"unknown cpu model {model}"
  | unknownFeature flag => s!"unknown feature {flag}"

def ResolutionFault.origin : ResolutionFault → String
  | malformedTarget _ => "ArchQuery.parse"
  | unknownModel _ | unknownFeature _ => "resolve_query"

/-! ## All faults -/

/-- The operations that name themselves when a conversion fails. -/
inductive Conversion
  | inference | compatibilityCheck
deriving DecidableEq, Repr

def Conversion.origin : Conversion → String
  | inference => "from_resolved_arch"
  | compatibilityCheck => "check_compatibility"

/-- A fault of any family; a conversion may tell the operation it arose in. -/
inductive Fault
  | flag (cause : FlagFault)
  | conversion (cause : ConversionFault) (during : Option Conversion)
  | resolution (cause : ResolutionFault)
deriving DecidableEq, Repr

namespace Fault

def message : Fault → String
  | flag cause => cause.message
  | conversion cause _ => cause.message
  | resolution cause => cause.message

def origin? : Fault → Option String
  | flag _ => none
  | conversion _ during => during.map Conversion.origin
  | resolution cause => some cause.origin

end Fault

end CortexFlags
