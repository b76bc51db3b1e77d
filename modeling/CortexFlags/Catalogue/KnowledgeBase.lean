import CortexFlags.Catalogue.Basic
import CortexFlags.Table

/-! The knowledge base from which a catalogue is built: rows that may lack a
field or refer to a row that is not there. `Catalogue.build` accepts it, or names
the first key that is missing. -/

namespace CortexFlags

/-! ## Rows -/

/-- A unit: its features are its own, or those of the row it is an alias of. -/
structure FpuRow where
  priority : Option Int
  features : Option (List String)
  aliasOf : Option String
deriving DecidableEq, Repr

structure CpuRow where
  architecture : Option String
  coreModel : Option String
  fpus : Option (List String)
deriving DecidableEq, Repr

structure KnowledgeBase where
  fpus : Table FpuRow
  cpus : Table CpuRow
deriving DecidableEq

/-- A key that a row should have, or a name that a row refers to. -/
structure MissingKey where
  key : String
deriving DecidableEq, Repr

/-- The value of a field, or its key if it is missing. -/
def required {α : Type} (key : String) : Option α → Except MissingKey α
  | some value => .ok value
  | none => .error ⟨key⟩

/-! ## Entries of the catalogue -/

/-- The features of a row. An alias wins over features of its own, and stands for
the features that its target lists itself. -/
def FpuRow.resolveFeatures (rows : Table FpuRow) (row : FpuRow) :
    Except MissingKey (List String) :=
  match row.aliasOf with
  | none => required "features" row.features
  | some target =>
      match rows.get? target with
      | none => .error ⟨target⟩
      | some targetRow => required "features" targetRow.features

def FpuRow.build (rows : Table FpuRow) (name : String) (row : FpuRow) :
    Except MissingKey Fpu :=
  match row.resolveFeatures rows with
  | .error e => .error e
  | .ok features =>
      match required "priority" row.priority with
      | .error e => .error e
      | .ok priority => .ok { name, priority, features }

/-- The units of a list of names, or the first name that is not there. -/
def pickFpus (fpus : List Fpu) : List String → Except MissingKey (List Fpu)
  | [] => .ok []
  | name :: names =>
      match fpus.find? (·.name = name) with
      | none => .error ⟨name⟩
      | some f =>
          match pickFpus fpus names with
          | .error e => .error e
          | .ok fs => .ok (f :: fs)

def CpuRow.build (fpus : List Fpu) (name : String) (row : CpuRow) : Except MissingKey Cpu :=
  match required "arch" row.architecture with
  | .error e => .error e
  | .ok architecture =>
      match required "model" row.coreModel with
      | .error e => .error e
      | .ok coreModel =>
          match required "fpus" row.fpus with
          | .error e => .error e
          | .ok names =>
              match pickFpus fpus names with
              | .error e => .error e
              | .ok compatibleFpus => .ok { name, architecture, coreModel, compatibleFpus }

/-- Build every entry in order; the first failure is the outcome. -/
def buildEntries {α β ε : Type} (build : String → α → Except ε β) :
    List (String × α) → Except ε (List β)
  | [] => .ok []
  | (key, row) :: rest =>
      match build key row with
      | .error e => .error e
      | .ok entry =>
          match buildEntries build rest with
          | .error e => .error e
          | .ok entries => .ok (entry :: entries)

/-! ## What the entries keep of the rows -/

theorem map_name_buildEntries {α β ε : Type} {build : String → α → Except ε β}
    {name : β → String} (hname : ∀ key row entry, build key row = .ok entry → name entry = key)
    {rows : List (String × α)} {entries : List β} (h : buildEntries build rows = .ok entries) :
    entries.map name = rows.map Prod.fst := by
  induction rows generalizing entries with
  | nil => cases h; rfl
  | cons row rest ih =>
    obtain ⟨key, value⟩ := row
    rw [buildEntries] at h
    split at h
    · cases h
    · rename_i entry he
      split at h
      · cases h
      · rename_i more hm
        cases h
        simp [hname _ _ _ he, ih hm]

theorem exists_of_mem_buildEntries {α β ε : Type} {build : String → α → Except ε β}
    {rows : List (String × α)} {entries : List β} (h : buildEntries build rows = .ok entries)
    {entry : β} (hm : entry ∈ entries) : ∃ row ∈ rows, build row.1 row.2 = .ok entry := by
  induction rows generalizing entries with
  | nil => cases h; simp at hm
  | cons row rest ih =>
    obtain ⟨key, value⟩ := row
    rw [buildEntries] at h
    split at h
    · cases h
    · rename_i first he
      split at h
      · cases h
      · rename_i more hmore
        cases h
        rcases List.mem_cons.mp hm with rfl | hm
        · exact ⟨(key, value), by simp, he⟩
        · obtain ⟨row, hr, hb⟩ := ih hmore hm
          exact ⟨row, by simp [hr], hb⟩

theorem FpuRow.name_build {rows : Table FpuRow} {name : String} {row : FpuRow} {f : Fpu}
    (h : row.build rows name = .ok f) : f.name = name := by
  unfold FpuRow.build at h
  repeat (split at h; · cases h)
  cases h
  rfl

theorem CpuRow.name_build {fpus : List Fpu} {name : String} {row : CpuRow} {c : Cpu}
    (h : row.build fpus name = .ok c) : c.name = name := by
  unfold CpuRow.build at h
  repeat (split at h; · cases h)
  cases h
  rfl

theorem mem_of_mem_pickFpus {fpus picked : List Fpu} {names : List String}
    (h : pickFpus fpus names = .ok picked) {f : Fpu} (hf : f ∈ picked) : f ∈ fpus := by
  induction names generalizing picked with
  | nil => cases h; simp at hf
  | cons name names ih =>
    rw [pickFpus] at h
    split at h
    · cases h
    · rename_i g hg
      split at h
      · cases h
      · rename_i more hm
        cases h
        rcases List.mem_cons.mp hf with rfl | hf
        · exact List.mem_of_find?_eq_some hg
        · exact ih hm hf

theorem CpuRow.compatible_mem_build {fpus : List Fpu} {name : String} {row : CpuRow} {c : Cpu}
    (h : row.build fpus name = .ok c) : ∀ f ∈ c.compatibleFpus, f ∈ fpus := by
  unfold CpuRow.build at h
  repeat (split at h; · cases h)
  rename_i hp
  cases h
  exact fun f hf => mem_of_mem_pickFpus hp hf

/-! ## The catalogue -/

/-- Build the units, then the CPUs, each in order. -/
def Catalogue.build (base : KnowledgeBase) : Except MissingKey Catalogue :=
  match hf : buildEntries (FpuRow.build base.fpus · ·) base.fpus.entries with
  | .error e => .error e
  | .ok fpus =>
      match hc : buildEntries (CpuRow.build fpus · ·) base.cpus.entries with
      | .error e => .error e
      | .ok cpus => .ok {
          fpus
          cpus
          fpuNames_nodup := by
            rw [map_name_buildEntries (fun _ _ _ h => FpuRow.name_build h) hf]
            exact base.fpus.nodup
          cpuNames_nodup := by
            rw [map_name_buildEntries (fun _ _ _ h => CpuRow.name_build h) hc]
            exact base.cpus.nodup
          compatible_mem := by
            intro c hm
            obtain ⟨row, _, hb⟩ := exists_of_mem_buildEntries hc hm
            exact CpuRow.compatible_mem_build hb }

end CortexFlags
