import CortexFlags.Features.Closure
import CortexFlags.Query

/-! Resolution: a query whose core model and features are known becomes a target
with its complete set of feature flags. -/

namespace CortexFlags

/-- A target with its complete feature set. -/
structure ResolvedArch where
  arch : String
  os : String
  abi : String
  coreModel : String
  features : FeatureSet
deriving DecidableEq

namespace ResolvedArch

def has (r : ResolvedArch) (feature : String) : Bool := decide (feature ∈ r.features)

def hasAll (r : ResolvedArch) (features : List String) : Bool := features.all r.has

theorem has_iff {r : ResolvedArch} {f : String} : r.has f ↔ f ∈ r.features := by
  simp [has]

theorem hasAll_iff {r : ResolvedArch} {fs : List String} :
    r.hasAll fs ↔ ∀ f ∈ fs, f ∈ r.features := by
  simp [hasAll, has]

end ResolvedArch

/-- Add the requested features to those of the core model and close the lot. -/
def Query.resolve (q : Query) : Except ResolutionFault ResolvedArch :=
  match coreModels.get? q.coreModel with
  | none => .error (.unknownModel q.coreModel)
  | some base =>
      match expand (base ++ q.featuresAdd) with
      | .error unknown => .error (.unknownFeature unknown.flag)
      | .ok features =>
          .ok { arch := q.arch, os := q.os, abi := q.abi, coreModel := q.coreModel, features }

end CortexFlags
