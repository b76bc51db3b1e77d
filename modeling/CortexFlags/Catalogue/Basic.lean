import CortexFlags.Cpu
import CortexFlags.Fault

/-! The catalogue of supported CPUs and floating point units, both in order of
declaration. Names are unique, and every unit that a CPU is compatible with is
itself listed. -/

namespace CortexFlags

structure Catalogue where
  fpus : List Fpu
  cpus : List Cpu
  fpuNames_nodup : (fpus.map Fpu.name).Nodup
  cpuNames_nodup : (cpus.map Cpu.name).Nodup
  compatible_mem : ∀ c ∈ cpus, ∀ f ∈ c.compatibleFpus, f ∈ fpus
deriving DecidableEq

namespace Catalogue

def fpu? (k : Catalogue) (name : String) : Option Fpu := k.fpus.find? (·.name = name)

def cpu? (k : Catalogue) (name : String) : Option Cpu := k.cpus.find? (·.name = name)

/-- The unit of a name. -/
def fpu (k : Catalogue) (name : String) : Except FlagFault Fpu :=
  match k.fpu? name with
  | some f => .ok f
  | none => .error (.invalidFpu name)

/-- The CPU of a name. -/
def cpu (k : Catalogue) (name : String) : Except FlagFault Cpu :=
  match k.cpu? name with
  | some c => .ok c
  | none => .error (.invalidCpu name)

/-- The first declared CPU that runs a core model. -/
def cpuForModel? (k : Catalogue) (model : String) : Option Cpu :=
  k.cpus.find? (·.coreModel = model)

/-! ## Names identify entries -/

theorem find?_name_of_mem {α : Type} {name : α → String} {xs : List α}
    (h : (xs.map name).Nodup) {x : α} (hx : x ∈ xs) : xs.find? (name · = name x) = some x := by
  induction xs with
  | nil => simp at hx
  | cons y rest ih =>
    obtain ⟨hy, hrest⟩ := List.nodup_cons.mp h
    rcases List.mem_cons.mp hx with rfl | hx
    · simp
    · have hne : ¬ name y = name x := fun e => hy (e ▸ List.mem_map_of_mem hx)
      simp [hne, ih hrest hx]

theorem fpu?_name_of_mem (k : Catalogue) {f : Fpu} (h : f ∈ k.fpus) : k.fpu? f.name = some f :=
  find?_name_of_mem k.fpuNames_nodup h

theorem cpu?_name_of_mem (k : Catalogue) {c : Cpu} (h : c ∈ k.cpus) : k.cpu? c.name = some c :=
  find?_name_of_mem k.cpuNames_nodup h

theorem fpu_eq_of_name_eq (k : Catalogue) {f g : Fpu} (hf : f ∈ k.fpus) (hg : g ∈ k.fpus)
    (h : f.name = g.name) : f = g := by
  have hfound := k.fpu?_name_of_mem hf
  rw [h, k.fpu?_name_of_mem hg] at hfound
  exact (Option.some.inj hfound).symm

theorem cpu_eq_of_name_eq (k : Catalogue) {b c : Cpu} (hb : b ∈ k.cpus) (hc : c ∈ k.cpus)
    (h : b.name = c.name) : b = c := by
  have hfound := k.cpu?_name_of_mem hb
  rw [h, k.cpu?_name_of_mem hc] at hfound
  exact (Option.some.inj hfound).symm

theorem fpu?_eq_some_iff (k : Catalogue) {name : String} {f : Fpu} :
    k.fpu? name = some f ↔ f ∈ k.fpus ∧ f.name = name := by
  constructor
  · intro h
    exact ⟨List.mem_of_find?_eq_some h, by simpa using List.find?_some h⟩
  · rintro ⟨h, rfl⟩
    exact k.fpu?_name_of_mem h

theorem cpu?_eq_some_iff (k : Catalogue) {name : String} {c : Cpu} :
    k.cpu? name = some c ↔ c ∈ k.cpus ∧ c.name = name := by
  constructor
  · intro h
    exact ⟨List.mem_of_find?_eq_some h, by simpa using List.find?_some h⟩
  · rintro ⟨h, rfl⟩
    exact k.cpu?_name_of_mem h

theorem fpu_eq_ok_iff (k : Catalogue) {name : String} {f : Fpu} :
    k.fpu name = .ok f ↔ f ∈ k.fpus ∧ f.name = name := by
  rw [← fpu?_eq_some_iff, fpu]
  cases k.fpu? name <;> simp

theorem cpu_eq_ok_iff (k : Catalogue) {name : String} {c : Cpu} :
    k.cpu name = .ok c ↔ c ∈ k.cpus ∧ c.name = name := by
  rw [← cpu?_eq_some_iff, cpu]
  cases k.cpu? name <;> simp

theorem fpu_eq_error_iff (k : Catalogue) {name : String} {fault : FlagFault} :
    k.fpu name = .error fault ↔ (∀ f ∈ k.fpus, f.name ≠ name) ∧ fault = .invalidFpu name := by
  have hnone : k.fpu? name = none ↔ ∀ f ∈ k.fpus, f.name ≠ name := by
    simp [fpu?]
  rw [← hnone, fpu]
  cases k.fpu? name <;> simp [eq_comm]

theorem cpu_eq_error_iff (k : Catalogue) {name : String} {fault : FlagFault} :
    k.cpu name = .error fault ↔ (∀ c ∈ k.cpus, c.name ≠ name) ∧ fault = .invalidCpu name := by
  have hnone : k.cpu? name = none ↔ ∀ c ∈ k.cpus, c.name ≠ name := by
    simp [cpu?]
  rw [← hnone, cpu]
  cases k.cpu? name <;> simp [eq_comm]

/-! ## The first CPU of a core model -/

theorem cpuForModel?_eq_some_iff (k : Catalogue) {model : String} {c : Cpu} :
    k.cpuForModel? model = some c ↔ c.coreModel = model ∧
      ∃ before after, k.cpus = before ++ c :: after ∧ ∀ b ∈ before, b.coreModel ≠ model := by
  simp [cpuForModel?, List.find?_eq_some_iff_append]

end Catalogue

end CortexFlags
