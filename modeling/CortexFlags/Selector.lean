/-! The selectors of a target: float ABI, instruction set and endianness, and
the architecture selector that stands for the last two. Each has one name, and
`ofName?` reads exactly the names that `name` writes. -/

namespace CortexFlags

/-! ## Float ABI -/

/-- How floating point values are computed and passed. -/
inductive FloatAbi
  | hard | soft | softfp
deriving DecidableEq, Repr

namespace FloatAbi

def name : FloatAbi → String
  | hard => "hard"
  | soft => "soft"
  | softfp => "softfp"

def ofName? (s : String) : Option FloatAbi :=
  [hard, soft, softfp].find? (·.name = s)

theorem ofName?_name (abi : FloatAbi) : ofName? abi.name = some abi := by
  cases abi <;> decide

theorem ofName?_eq_some_iff {s : String} {abi : FloatAbi} :
    ofName? s = some abi ↔ s = abi.name := by
  constructor
  · intro h
    have := List.find?_some h
    simpa using (of_decide_eq_true this).symm
  · rintro rfl
    exact ofName?_name abi

theorem name_inj {a b : FloatAbi} (h : a.name = b.name) : a = b := by
  revert h
  cases a <;> cases b <;> decide

theorem ofName?_eq_none_iff {s : String} : ofName? s = none ↔ s ∉ ["hard", "soft", "softfp"] := by
  simp [ofName?, name, @eq_comm _ _ s]

end FloatAbi

/-! ## Instruction set and endianness -/

inductive InstructionSet
  | thumb | arm
deriving DecidableEq, Repr

namespace InstructionSet

def name : InstructionSet → String
  | thumb => "thumb"
  | arm => "arm"

def ofName? (s : String) : Option InstructionSet := [thumb, arm].find? (·.name = s)

theorem name_inj {i j : InstructionSet} (h : i.name = j.name) : i = j := by
  revert h
  cases i <;> cases j <;> decide

end InstructionSet

inductive Endianness
  | little | big
deriving DecidableEq, Repr

namespace Endianness

def name : Endianness → String
  | little => "little"
  | big => "big"

def ofName? (s : String) : Option Endianness := [little, big].find? (·.name = s)

end Endianness

/-! ## Architecture selector -/

/-- An instruction set together with an endianness. -/
inductive Arch
  | thumb | thumbeb | arm | armeb
deriving DecidableEq, Repr

namespace Arch

def name : Arch → String
  | thumb => "thumb"
  | thumbeb => "thumbeb"
  | arm => "arm"
  | armeb => "armeb"

def ofName? (s : String) : Option Arch := [thumb, thumbeb, arm, armeb].find? (·.name = s)

def select : InstructionSet → Endianness → Arch
  | .thumb, .little => thumb
  | .thumb, .big => thumbeb
  | .arm, .little => arm
  | .arm, .big => armeb

def instructionSet : Arch → InstructionSet
  | thumb | thumbeb => .thumb
  | arm | armeb => .arm

def endianness : Arch → Endianness
  | thumb | arm => .little
  | thumbeb | armeb => .big

theorem ofName?_name (a : Arch) : ofName? a.name = some a := by
  cases a <;> decide

theorem ofName?_eq_some_iff {s : String} {a : Arch} : ofName? s = some a ↔ s = a.name := by
  constructor
  · intro h
    have := List.find?_some h
    simpa using (of_decide_eq_true this).symm
  · rintro rfl
    exact ofName?_name a

theorem ofName?_eq_none_iff {s : String} :
    ofName? s = none ↔ s ∉ ["thumb", "thumbeb", "arm", "armeb"] := by
  simp [ofName?, name, @eq_comm _ _ s]

/-- A selector is the choice of its own two parts. -/
theorem select_eq_iff {i : InstructionSet} {e : Endianness} {a : Arch} :
    select i e = a ↔ i = a.instructionSet ∧ e = a.endianness := by
  cases i <;> cases e <;> cases a <;> decide

/-- The name of a selector tells both parts. -/
theorem name_select_eq_iff {i j : InstructionSet} {e e' : Endianness} :
    (select i e).name = (select j e').name ↔ i = j ∧ e = e' := by
  cases i <;> cases e <;> cases j <;> cases e' <;> decide

end Arch

end CortexFlags
