import CortexFlags.Catalogue.Loading
import CortexFlags.Descriptor.Inference

/-! Sessions: what is remembered between operations. The catalogue is loaded when
it is first looked up and kept until it is cleared, whatever happens to plugins
and settings in between; a load that fails leaves nothing behind. -/

namespace CortexFlags

/-- The memory of a session. -/
structure Session where
  cached : Option Catalogue
  plugins : List Plugin
  settings : Settings.Entries
  /-- Descriptors kept under a name, the latest first. -/
  saved : List (String × Descriptor)

/-- Why an operation of a session is refused. -/
inductive SessionFault
  | fault (cause : Fault)
  | load (cause : LoadFault)
  | unknownFeature (flag : String)
  | notAMember (value enumeration : String)
  | notSaved (name : String)
deriving DecidableEq, Repr

namespace Session

/-- A session that starts with some plugins and nothing else. -/
def start (plugins : List Plugin) : Session := ⟨none, plugins, [], []⟩

/-! ## The catalogue -/

/-- The catalogue that a load gives now, without regard to one kept earlier. -/
def freshCatalogue (s : Session) : Except LoadFault Catalogue :=
  (Catalogue.load s.settings s.plugins).1

/-- The catalogue of the session. -/
def lookup (s : Session) : Except LoadFault Catalogue × Session :=
  match s.cached with
  | some k => (.ok k, s)
  | none =>
      match s.freshCatalogue with
      | .ok k => (.ok k, { s with cached := some k })
      | .error fault => (.error fault, s)

def clearCatalogue (s : Session) : Session := { s with cached := none }

/-- Plugins take effect at the next load. -/
def setPlugins (s : Session) (plugins : List Plugin) : Session := { s with plugins }

/-- Settings take effect at the next load. -/
def setSettings (s : Session) (settings : Settings.Entries) : Session := { s with settings }

def save (s : Session) (name : String) (d : Descriptor) : Session :=
  { s with saved := (name, d) :: s.saved }

theorem lookup_cached {s : Session} {k : Catalogue} (h : s.cached = some k) :
    s.lookup = (.ok k, s) := by
  simp [lookup, h]

theorem cached_lookup {s : Session} {k : Catalogue} (h : s.lookup.1 = .ok k) :
    s.lookup.2.cached = some k := by
  unfold lookup at h ⊢
  split at h
  · rename_i k' hk
    cases h
    exact hk
  · split at h
    · cases h; rfl
    · cases h

end Session

/-! ## Operations -/

/-- An operation on a session: what it did to the session stays if it fails. -/
abbrev Operation := ExceptT SessionFault (StateM Session)

namespace Operation

def catalogue : Operation Catalogue := do
  let (outcome, s) := (← get).lookup
  set s
  match outcome with
  | .ok k => return k
  | .error fault => throw (.load fault)

def ofFlag {α : Type} : Except FlagFault α → Operation α
  | .ok a => return a
  | .error fault => throw (.fault (.flag fault))

/-- A conversion, which names the operation it belongs to if it has a name. -/
def ofConversion {α : Type} (during : Option Conversion) : Except ConversionFault α → Operation α
  | .ok a => return a
  | .error fault => throw (.fault (.conversion fault during))

def ofResolution {α : Type} : Except ResolutionFault α → Operation α
  | .ok a => return a
  | .error fault => throw (.fault (.resolution fault))

/-- The outcome of an operation, as a value. -/
def attempt {α : Type} (op : Operation α) : Operation (Except SessionFault α) :=
  fun s => let (outcome, s) := op s; (.ok outcome, s)

/-- Run a series of operations one after the other, whatever becomes of each. -/
def attemptAll {α : Type} : List (Operation α) → Operation (List (Except SessionFault α))
  | [] => return []
  | op :: ops => do
      let outcome ← op.attempt
      return outcome :: (← attemptAll ops)

/-! ## Translations -/

/-- The descriptor of compiler flags; without a CPU there is no need for the catalogue. -/
def ofFlags (flags : Flags) : Operation Descriptor :=
  match flags.cpu with
  | none => ofFlag (.error .missingCpu)
  | some _ => do
      match Descriptor.ofFlags (← catalogue) flags with
      | .ok d => return d
      | .error fault => throw (.fault fault)

def ofResolved (r : ResolvedArch) : Operation Descriptor := do
  ofConversion (some .inference) (Descriptor.ofResolved (← catalogue) r)

/-- The descriptor found back from the target that another one asks for. -/
def roundTrip (d : Descriptor) : Operation Descriptor := do
  let q ← ofConversion none d.toQuery
  ofResolved (← ofResolution q.resolve)

def checkCompatibility (r : ResolvedArch) : Operation Unit := do
  ofConversion (some .compatibilityCheck) (r.checkCompatibility (← catalogue))

def isWithin (r : ResolvedArch) (ds : List Descriptor) : Operation Bool := do
  return r.isWithin (← catalogue) ds

def expanded (flags : List String) : Operation FeatureSet :=
  match expand flags with
  | .ok features => return features
  | .error unknown => throw (.unknownFeature unknown.flag)

end Operation

end CortexFlags
