import CortexFlags.Session.Basic

/-! Recipes: how a unit, a CPU, a descriptor, a query or a resolved architecture
is to be made. A recipe may name entries of the catalogue or saved descriptors,
so what it makes depends on the session, and making it may load the catalogue. -/

namespace CortexFlags

/-! ## Units and CPUs -/

inductive FpuRecipe
  | named (name : String)
  | built (fpu : Fpu)
deriving Repr

inductive CpuRecipe
  | named (name : String)
  | built (name architecture coreModel : String) (fpus : List FpuRecipe)
deriving Repr

def FpuRecipe.make : FpuRecipe → Operation Fpu
  | named name => do Operation.ofFlag ((← Operation.catalogue).fpu name)
  | built fpu => return fpu

def CpuRecipe.make : CpuRecipe → Operation Cpu
  | named name => do Operation.ofFlag ((← Operation.catalogue).cpu name)
  | built name architecture coreModel fpus => do
      return { name, architecture, coreModel, compatibleFpus := ← fpus.mapM FpuRecipe.make }

/-! ## Names of selectors -/

/-- Read the name of a member of an enumeration. -/
def readMember {α : Type} (enumeration : String) (ofName? : String → Option α) (name : String) :
    Operation α :=
  match ofName? name with
  | some member => return member
  | none => throw (.notAMember name enumeration)

def readArch : String → Operation Arch := readMember "Arch" Arch.ofName?

/-! ## Changes of fields -/

/-- New values of some fields of a descriptor; a unit may be taken away. -/
structure FieldChanges where
  cpu : Option CpuRecipe
  instructionSet : Option String
  endianness : Option String
  floatAbi : Option String
  fpu : Option (Option FpuRecipe)
deriving Repr

/-- A given value read, or the value that is there. -/
def orKept {α β : Type} (kept : β) (read : α → Operation β) : Option α → Operation β
  | none => return kept
  | some a => read a

/-- Change fields in their order, the first bad one being the fault. -/
def FieldChanges.apply (changes : FieldChanges) (d : Descriptor) : Operation Descriptor := do
  let cpu ← orKept d.cpu CpuRecipe.make changes.cpu
  let instructionSet ← orKept d.instructionSet
    (readMember "InstructionSet" InstructionSet.ofName?) changes.instructionSet
  let endianness ← orKept d.endianness
    (readMember "Endianness" Endianness.ofName?) changes.endianness
  let floatAbi ← orKept d.floatAbi (readMember "FloatAbi" FloatAbi.ofName?) changes.floatAbi
  let fpu ← orKept d.fpu (orKept none fun recipe => do return some (← recipe.make)) changes.fpu
  return { cpu, instructionSet, endianness, floatAbi, fpu }

/-! ## Descriptors, queries, resolved architectures -/

mutual

inductive DescriptorRecipe
  | saved (name : String)
  | ofFlags (flags : Flags)
  | ofResolved (r : ArchRecipe)
  | plain (cpu : CpuRecipe)
  | changed (base : DescriptorRecipe) (changes : FieldChanges)

inductive QueryRecipe
  | ofDescriptor (d : DescriptorRecipe)
  | parsed (triple cpu : String)
  | built (q : Query)

inductive ArchRecipe
  | resolving (q : QueryRecipe)
  | built (r : ResolvedArch)

end

mutual

def DescriptorRecipe.make : DescriptorRecipe → Operation Descriptor
  | .saved name => do
      match (← get).saved.lookup name with
      | some d => return d
      | none => throw (.notSaved name)
  | .ofFlags flags => Operation.ofFlags flags
  | .ofResolved r => do Operation.ofResolved (← r.make)
  | .plain cpu => do return .plain (← cpu.make)
  | .changed base changes => do changes.apply (← base.make)

def QueryRecipe.make : QueryRecipe → Operation Query
  | .ofDescriptor d => do Operation.ofConversion none (← d.make).toQuery
  | .parsed triple cpu => Operation.ofResolution (Query.parse triple cpu)
  | .built q => return q

def ArchRecipe.make : ArchRecipe → Operation ResolvedArch
  | .resolving q => do Operation.ofResolution (← q.make).resolve
  | .built r => return r

end

end CortexFlags
