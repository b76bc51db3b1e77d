import CortexFlags.Fault
import CortexFlags.Text.Cut

/-! Queries for a target, and their written form: a triple `arch-os-abi`, and a
core model followed by `+feature` items. -/

namespace CortexFlags

/-- The operating system tag of targets that run without one. -/
def freestanding : String := "freestanding"

/-- A request for a target: a core model with feature flags added to it. -/
structure Query where
  arch : String
  os : String
  abi : String
  coreModel : String
  featuresAdd : List String
deriving DecidableEq, Repr

namespace Query

def triple (q : Query) : String := Text.glue '-' q.arch [q.os, q.abi]

def cpuString (q : Query) : String := Text.glue '+' q.coreModel q.featuresAdd

/-- Read a query from a triple, which has exactly three parts, and a CPU text. -/
def parse (triple cpu : String) : Except ResolutionFault Query :=
  match Text.cut '-' triple with
  | (arch, [os, abi]) =>
      let (coreModel, featuresAdd) := Text.cut '+' cpu
      .ok { arch, os, abi, coreModel, featuresAdd }
  | _ => .error (.malformedTarget triple)

end Query

end CortexFlags
