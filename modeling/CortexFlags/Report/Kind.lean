import CortexFlags.Fault

/-! The kinds of error reports. Two of them, flag translation and conversion, are
families that others belong to; no kind belongs to both. -/

namespace CortexFlags

inductive ReportKind
  | general
  | flagTranslation
  | missingCpu
  | invalidCpu
  | invalidFloatAbi
  | invalidFpu
  | missingFpu
  | conversion
  | unsupportedCpu
  | fpuSpecifiedForSoftFloatAbi
  | fpuRequiredForFloatAbi
  | incompatibleFpuForCpu
  | noFpuOnCpu
  | featureOverflow
  | notFreestanding
  | resolution
deriving DecidableEq, Repr

namespace ReportKind

/-- The name that stands for a report without messages. -/
def name : ReportKind → String
  | general => "ArmTargetError"
  | flagTranslation => "FlagTranslationError"
  | missingCpu => "MissingCpu"
  | invalidCpu => "InvalidCpu"
  | invalidFloatAbi => "InvalidFloatAbi"
  | invalidFpu => "InvalidFpu"
  | missingFpu => "MissingFpu"
  | conversion => "ConversionError"
  | unsupportedCpu => "UnsupportedCpu"
  | fpuSpecifiedForSoftFloatAbi => "FpuSpecifiedForSoftFloatAbi"
  | fpuRequiredForFloatAbi => "FpuRequiredForFloatAbi"
  | incompatibleFpuForCpu => "IncompatibleFpuForCpu"
  | noFpuOnCpu => "NoFpuOnCpu"
  | featureOverflow => "FeatureOverflow"
  | notFreestanding => "NotFreestanding"
  | resolution => "ResolutionError"

def all : List ReportKind :=
  [general, flagTranslation, missingCpu, invalidCpu, invalidFloatAbi, invalidFpu, missingFpu,
    conversion, unsupportedCpu, fpuSpecifiedForSoftFloatAbi, fpuRequiredForFloatAbi,
    incompatibleFpuForCpu, noFpuOnCpu, featureOverflow, notFreestanding, resolution]

def ofName? (s : String) : Option ReportKind := all.find? (·.name = s)

/-- Malformed or incomplete flag values. -/
def isFlagTranslation : ReportKind → Bool
  | flagTranslation | missingCpu | invalidCpu | invalidFloatAbi | invalidFpu | missingFpu => true
  | _ => false

/-- Broken rules of a descriptor, and translations without a counterpart. -/
def isConversion : ReportKind → Bool
  | conversion | unsupportedCpu | fpuSpecifiedForSoftFloatAbi | fpuRequiredForFloatAbi
  | incompatibleFpuForCpu | noFpuOnCpu | featureOverflow | notFreestanding => true
  | _ => false

end ReportKind

/-! ## The kind of a fault -/

def FlagFault.kind : FlagFault → ReportKind
  | missingCpu => .missingCpu
  | invalidCpu _ => .invalidCpu
  | invalidFloatAbi _ => .invalidFloatAbi
  | missingFpu => .missingFpu
  | invalidFpu _ => .invalidFpu

def ConversionFault.kind : ConversionFault → ReportKind
  | noCpuForModel _ | unsupportedArch _ => .unsupportedCpu
  | notFreestanding _ => .notFreestanding
  | fpuRequired _ => .fpuRequiredForFloatAbi
  | fpuWithSoftAbi _ => .fpuSpecifiedForSoftFloatAbi
  | noFpuOnCpu _ => .noFpuOnCpu
  | incompatibleFpu _ _ => .incompatibleFpuForCpu
  | tooManyFeatures _ => .featureOverflow

theorem ConversionFault.isConversion_kind (fault : ConversionFault) : fault.kind.isConversion := by
  cases fault <;> rfl

def Fault.kind : Fault → ReportKind
  | flag cause => cause.kind
  | conversion cause _ => cause.kind
  | resolution _ => .resolution

end CortexFlags
