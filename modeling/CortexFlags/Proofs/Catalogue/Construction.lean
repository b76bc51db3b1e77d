import CortexFlags.Catalogue.Plugin
import Mathlib.Data.List.Forall2

/-! Which knowledge bases make a catalogue, and what the catalogue keeps of them.

* `build_eq_ok_iff`: entries are made row by row, at the place of their row;
* `failure?_build`: the failure is the first key that is missing, in the order in
  which the rows need their keys;
* `wellFormed_iff_needs`: no key is missing exactly in a well-formed knowledge base;
* `Represents`, `represents_of_build`: what stands in the catalogue under each name;
* `build_wellFormed`: all of this for every knowledge base. -/

namespace CortexFlags

/-! ## Needs of rows -/

/-- A key that a row needs, and whether it is there. -/
structure Need where
  key : String
  met : Bool
deriving DecidableEq, Repr

def Need.missing? (n : Need) : Option MissingKey := if n.met then none else some ⟨n.key⟩

/-- The first key that is missing. -/
def firstMissing? (needs : List Need) : Option MissingKey := needs.findSome? Need.missing?

/-- Features are needed first, of the row itself or of the row that it is an alias of. -/
def FpuRow.needs (rows : Table FpuRow) (row : FpuRow) : List Need :=
  (match row.aliasOf with
    | none => [⟨"features", row.features.isSome⟩]
    | some target => [⟨target, (rows.get? target).isSome⟩,
        ⟨"features", (rows.get? target).any (·.features.isSome)⟩]) ++
    [⟨"priority", row.priority.isSome⟩]

/-- The fields are needed first, then the units that the row lists. -/
def CpuRow.needs (units : List String) (row : CpuRow) : List Need :=
  [⟨"arch", row.architecture.isSome⟩, ⟨"model", row.coreModel.isSome⟩,
    ⟨"fpus", row.fpus.isSome⟩] ++
    (row.fpus.getD []).map fun name => ⟨name, decide (name ∈ units)⟩

/-- Units come before CPUs, each in order. -/
def KnowledgeBase.needs (base : KnowledgeBase) : List Need :=
  base.fpus.entries.flatMap (fun entry => entry.2.needs base.fpus) ++
    base.cpus.entries.flatMap fun entry => entry.2.needs base.fpus.keys

theorem firstMissing?_append (a b : List Need) :
    firstMissing? (a ++ b) = (firstMissing? a).or (firstMissing? b) :=
  List.findSome?_append

theorem firstMissing?_eq_none_iff {needs : List Need} :
    firstMissing? needs = none ↔ ∀ n ∈ needs, n.met := by
  simp [firstMissing?, Need.missing?]

/-! ## Well-formed rows -/

/-- The row has a priority, and features of its own or those of the row it names. -/
@[mk_iff]
structure FpuRow.WellFormed (rows : Table FpuRow) (row : FpuRow) : Prop where
  priority : row.priority.isSome
  features : match row.aliasOf with
    | none => row.features.isSome
    | some target => ∃ t, rows.get? target = some t ∧ t.features.isSome

/-- The row has all its fields, and lists units that are there. -/
@[mk_iff]
structure CpuRow.WellFormed (units : List String) (row : CpuRow) : Prop where
  architecture : row.architecture.isSome
  coreModel : row.coreModel.isSome
  fpus : ∃ names, row.fpus = some names ∧ ∀ name ∈ names, name ∈ units

@[mk_iff]
structure KnowledgeBase.WellFormed (base : KnowledgeBase) : Prop where
  fpus : ∀ entry ∈ base.fpus.entries, entry.2.WellFormed base.fpus
  cpus : ∀ entry ∈ base.cpus.entries, entry.2.WellFormed base.fpus.keys

theorem FpuRow.wellFormed_iff_needs {rows : Table FpuRow} {row : FpuRow} :
    row.WellFormed rows ↔ ∀ n ∈ row.needs rows, n.met := by
  rw [wellFormed_iff, needs]
  cases row.aliasOf with
  | none => simp [and_comm]
  | some target =>
    dsimp only
    cases rows.get? target with
    | none => simp
    | some t => simp [and_comm]

theorem CpuRow.wellFormed_iff_needs {units : List String} {row : CpuRow} :
    row.WellFormed units ↔ ∀ n ∈ row.needs units, n.met := by
  rw [wellFormed_iff, needs]
  cases row.fpus <;> simp

theorem KnowledgeBase.wellFormed_iff_needs {base : KnowledgeBase} :
    base.WellFormed ↔ ∀ n ∈ base.needs, n.met := by
  rw [wellFormed_iff, needs, List.forall_mem_append]
  simp only [FpuRow.wellFormed_iff_needs, CpuRow.wellFormed_iff_needs, List.forall_mem_flatMap]

/-! ## The first failure -/

/-- Why an outcome is none. -/
def failure? {α : Type} : Except MissingKey α → Option MissingKey
  | .ok _ => none
  | .error e => some e

section

variable {α β : Type}

theorem failure?_eq_none_iff {outcome : Except MissingKey α} :
    failure? outcome = none ↔ ∃ a, outcome = .ok a := by
  cases outcome <;> simp [failure?]

theorem failure?_eq_some_iff {outcome : Except MissingKey α} {e : MissingKey} :
    failure? outcome = some e ↔ outcome = .error e := by
  cases outcome <;> simp [failure?]

/-- A row that fails hides all rows after it. -/
theorem failure?_buildEntries {build : String → α → Except MissingKey β}
    {needs : String × α → List Need}
    (h : ∀ entry, failure? (build entry.1 entry.2) = firstMissing? (needs entry))
    (rows : List (String × α)) :
    failure? (buildEntries build rows) = firstMissing? (rows.flatMap needs) := by
  induction rows with
  | nil => rfl
  | cons entry rest ih =>
    obtain ⟨key, row⟩ := entry
    rw [List.flatMap_cons, firstMissing?_append, ← h, ← ih, buildEntries]
    cases build key row with
    | error e => rfl
    | ok b => cases buildEntries build rest <;> rfl

end

theorem failure?_pickFpus (fpus : List Fpu) (names : List String) :
    failure? (pickFpus fpus names) =
      firstMissing? (names.map fun name => ⟨name, decide (name ∈ fpus.map Fpu.name)⟩) := by
  induction names with
  | nil => rfl
  | cons name names ih =>
    rw [List.map_cons, firstMissing?, List.findSome?_cons, ← firstMissing?, ← ih, pickFpus]
    cases hf : fpus.find? (·.name = name) with
    | none =>
      have hn : name ∉ fpus.map Fpu.name := by
        simpa [List.find?_eq_none] using hf
      simp [Need.missing?, hn, failure?]
    | some f =>
      have hn : name ∈ fpus.map Fpu.name :=
        List.mem_map.mpr ⟨f, List.mem_of_find?_eq_some hf, by simpa using List.find?_some hf⟩
      simp only [Need.missing?, hn, decide_true, ↓reduceIte]
      cases pickFpus fpus names <;> rfl

theorem FpuRow.failure?_build (rows : Table FpuRow) (name : String) (row : FpuRow) :
    failure? (row.build rows name) = firstMissing? (row.needs rows) := by
  rw [needs, firstMissing?_append, build, resolveFeatures]
  cases row.aliasOf with
  | none =>
    cases row.features with
    | none => rfl
    | some features => cases row.priority <;> rfl
  | some target =>
    dsimp only
    cases rows.get? target with
    | none => rfl
    | some t =>
      obtain ⟨_, own, _⟩ := t
      cases own with
      | none => rfl
      | some features => cases row.priority <;> rfl

theorem CpuRow.failure?_build (fpus : List Fpu) (name : String) (row : CpuRow) :
    failure? (row.build fpus name) = firstMissing? (row.needs (fpus.map Fpu.name)) := by
  rw [needs, firstMissing?_append, build]
  cases row.architecture with
  | none => rfl
  | some architecture =>
    cases row.coreModel with
    | none => rfl
    | some coreModel =>
      cases row.fpus with
      | none => rfl
      | some names =>
        rw [Option.getD_some, ← failure?_pickFpus]
        cases hp : pickFpus fpus names <;> simp [required, hp, failure?, firstMissing?, Need.missing?]

/-- **The first missing key** is why no catalogue is made. -/
theorem failure?_build (base : KnowledgeBase) :
    failure? (Catalogue.build base) = firstMissing? base.needs := by
  have hfpus := failure?_buildEntries
    (fun entry => entry.2.failure?_build base.fpus entry.1) base.fpus.entries
  rw [KnowledgeBase.needs, firstMissing?_append, ← hfpus]
  unfold Catalogue.build
  split
  · rename_i e he
    rw [congrArg failure? he]
    rfl
  · rename_i fpus he
    have hnames : fpus.map Fpu.name = base.fpus.keys :=
      map_name_buildEntries (fun _ _ _ h => FpuRow.name_build h) he
    have hcpus := failure?_buildEntries
      (fun entry => entry.2.failure?_build fpus entry.1) base.cpus.entries
    rw [hnames] at hcpus
    rw [congrArg failure? he, ← hcpus]
    split
    · rename_i e hc
      rw [congrArg failure? hc]
      rfl
    · rename_i cpus hc
      rw [congrArg failure? hc]
      rfl

/-! ## What entries keep of their rows -/

section

variable {α β : Type}

/-- Entries stand at the places of their rows. -/
theorem buildEntries_eq_ok_iff {ε : Type} {build : String → α → Except ε β}
    {rows : List (String × α)} {entries : List β} :
    buildEntries build rows = .ok entries ↔
      List.Forall₂ (fun row entry => build row.1 row.2 = .ok entry) rows entries := by
  induction rows generalizing entries with
  | nil => simp [buildEntries, eq_comm]
  | cons row rest ih =>
    obtain ⟨key, value⟩ := row
    rw [List.forall₂_cons_left_iff, buildEntries]
    cases build key value with
    | error e => simp
    | ok entry =>
      cases hrest : buildEntries build rest with
      | error e => simp [← ih, hrest]
      | ok more => simp [← ih, hrest, eq_comm]

end

theorem pickFpus_eq_ok_iff {fpus picked : List Fpu} {names : List String} :
    pickFpus fpus names = .ok picked ↔
      List.Forall₂ (fun name f => fpus.find? (·.name = name) = some f) names picked := by
  induction names generalizing picked with
  | nil => simp [pickFpus, eq_comm]
  | cons name names ih =>
    rw [List.forall₂_cons_left_iff, pickFpus]
    cases fpus.find? (·.name = name) with
    | none => simp
    | some f =>
      cases hrest : pickFpus fpus names with
      | error e => simp [← ih, hrest]
      | ok more => simp [← ih, hrest, @eq_comm _ picked]

/-- What a unit keeps of its row. -/
@[mk_iff]
structure FpuRow.Makes (rows : Table FpuRow) (name : String) (row : FpuRow) (f : Fpu) : Prop where
  name : f.name = name
  priority : row.priority = some f.priority
  features : match row.aliasOf with
    | none => row.features = some f.features
    | some target => ∃ t, rows.get? target = some t ∧ t.features = some f.features

/-- What a CPU keeps of its row: its units are those of the names that the row lists,
place by place. -/
@[mk_iff]
structure CpuRow.Makes (fpus : List Fpu) (name : String) (row : CpuRow) (c : Cpu) : Prop where
  name : c.name = name
  architecture : row.architecture = some c.architecture
  coreModel : row.coreModel = some c.coreModel
  fpus : ∃ names, row.fpus = some names ∧
    List.Forall₂ (fun name f => fpus.find? (·.name = name) = some f) names c.compatibleFpus

theorem required_eq_ok_iff {α : Type} {key : String} {value : Option α} {a : α} :
    required key value = .ok a ↔ value = some a := by
  cases value <;> simp [required]

theorem FpuRow.resolveFeatures_eq_ok_iff {rows : Table FpuRow} {row : FpuRow}
    {features : List String} :
    row.resolveFeatures rows = .ok features ↔ match row.aliasOf with
      | none => row.features = some features
      | some target => ∃ t, rows.get? target = some t ∧ t.features = some features := by
  unfold resolveFeatures
  cases row.aliasOf with
  | none => exact required_eq_ok_iff
  | some target => cases ht : rows.get? target <;> simp [ht, required_eq_ok_iff]

theorem FpuRow.build_eq_ok_iff {rows : Table FpuRow} {name : String} {row : FpuRow} {f : Fpu} :
    row.build rows name = .ok f ↔ row.Makes rows name f := by
  obtain ⟨_, _, _⟩ := f
  rw [makes_iff, ← resolveFeatures_eq_ok_iff, ← required_eq_ok_iff, build]
  cases row.resolveFeatures rows with
  | error e => simp
  | ok features => cases required "priority" row.priority <;> simp [@eq_comm _ name]

theorem CpuRow.build_eq_ok_iff {fpus : List Fpu} {name : String} {row : CpuRow} {c : Cpu} :
    row.build fpus name = .ok c ↔ row.Makes fpus name c := by
  obtain ⟨_, _, _, _⟩ := c
  simp only [makes_iff, ← pickFpus_eq_ok_iff, build]
  cases row.architecture with
  | none => simp [required]
  | some architecture =>
    cases row.coreModel with
    | none => simp [required]
    | some coreModel =>
      cases row.fpus with
      | none => simp [required]
      | some names =>
        cases hp : pickFpus fpus names <;> simp [required, hp, @eq_comm _ name]

namespace Catalogue

/-- A catalogue is made of the entries of its units, and of its CPUs on top of these. -/
theorem build_eq_ok_iff_entries {base : KnowledgeBase} {k : Catalogue} :
    build base = .ok k ↔
      buildEntries (FpuRow.build base.fpus · ·) base.fpus.entries = .ok k.fpus ∧
      buildEntries (CpuRow.build k.fpus · ·) base.cpus.entries = .ok k.cpus := by
  unfold build
  split
  · rename_i e he
    simp [he]
  · rename_i fpus he
    split
    · rename_i e hc
      simp only [he, reduceCtorEq, Except.ok.injEq, false_iff, not_and]
      rintro rfl
      simp [hc]
    · rename_i cpus hc
      obtain ⟨_, _, _, _, _⟩ := k
      simp only [he, Except.ok.injEq, Catalogue.mk.injEq]
      constructor
      · rintro ⟨rfl, rfl⟩
        exact ⟨rfl, hc⟩
      · rintro ⟨rfl, hcpus⟩
        rw [hc] at hcpus
        exact ⟨rfl, Except.ok.inj hcpus⟩

/-- **Row by row**: what stands in a catalogue is what the rows make, in their order. -/
theorem build_eq_ok_iff {base : KnowledgeBase} {k : Catalogue} :
    build base = .ok k ↔
      List.Forall₂ (fun entry f => entry.2.Makes base.fpus entry.1 f) base.fpus.entries k.fpus ∧
      List.Forall₂ (fun entry c => entry.2.Makes k.fpus entry.1 c) base.cpus.entries k.cpus := by
  simp only [build_eq_ok_iff_entries, buildEntries_eq_ok_iff, FpuRow.build_eq_ok_iff,
    CpuRow.build_eq_ok_iff]

/-! ## The catalogue of a knowledge base -/

/-- What stands in the catalogue of a knowledge base under each of its names. -/
structure Represents (k : Catalogue) (base : KnowledgeBase) : Prop where
  fpuNames : k.fpus.map Fpu.name = base.fpus.keys
  cpuNames : k.cpus.map Cpu.name = base.cpus.keys
  fpu_of_row : ∀ name row, base.fpus.get? name = some row →
    ∃ f, k.fpu name = .ok f ∧ f.name = name ∧ row.priority = some f.priority ∧
      (row.aliasOf = none → row.features = some f.features)
  /-- An alias has what the row of its target lists. This is what its target has, unless
  that is an alias too. -/
  alias_of_row : ∀ name row target, base.fpus.get? name = some row → row.aliasOf = some target →
    ∃ f g t, k.fpu name = .ok f ∧ k.fpu target = .ok g ∧ base.fpus.get? target = some t ∧
      t.features = some f.features ∧ (t.aliasOf = none → f.features = g.features)
  /-- The compatible units of a CPU are those of the names that its row lists, place by
  place. -/
  cpu_of_row : ∀ name row, base.cpus.get? name = some row →
    ∃ c names, k.cpu name = .ok c ∧ c.name = name ∧ row.architecture = some c.architecture ∧
      row.coreModel = some c.coreModel ∧ row.fpus = some names ∧
      names.map k.fpu = c.compatibleFpus.map .ok
  compatible_named : ∀ c ∈ k.cpus, ∀ f ∈ c.compatibleFpus, k.fpu f.name = .ok f

variable {base : KnowledgeBase} {k : Catalogue}

theorem exists_of_mem_left {α β : Type} {R : α → β → Prop} {xs : List α} {ys : List β}
    (h : List.Forall₂ R xs ys) {x : α} (hx : x ∈ xs) : ∃ y ∈ ys, R x y := by
  induction h with
  | nil => cases hx
  | cons hr _ ih =>
    rcases List.mem_cons.mp hx with rfl | hx
    · exact ⟨_, List.mem_cons_self .., hr⟩
    · obtain ⟨y, hy, hr⟩ := ih hx
      exact ⟨y, List.mem_cons_of_mem _ hy, hr⟩

/-- The unit that a row makes goes by the name of the row. -/
theorem exists_fpu_of_row (h : build base = .ok k) {name : String} {row : FpuRow}
    (hrow : base.fpus.get? name = some row) :
    ∃ f, k.fpu name = .ok f ∧ row.Makes base.fpus name f := by
  obtain ⟨f, hf, hmakes⟩ :=
    exists_of_mem_left (build_eq_ok_iff.mp h).1 (Table.mem_entries_of_get? hrow)
  exact ⟨f, k.fpu_eq_ok_iff.mpr ⟨hf, hmakes.name⟩, hmakes⟩

theorem exists_cpu_of_row (h : build base = .ok k) {name : String} {row : CpuRow}
    (hrow : base.cpus.get? name = some row) :
    ∃ c, k.cpu name = .ok c ∧ row.Makes k.fpus name c := by
  obtain ⟨c, hc, hmakes⟩ :=
    exists_of_mem_left (build_eq_ok_iff.mp h).2 (Table.mem_entries_of_get? hrow)
  exact ⟨c, k.cpu_eq_ok_iff.mpr ⟨hc, hmakes.name⟩, hmakes⟩

theorem map_fpu_of_picked {names : List String} {fs : List Fpu}
    (h : List.Forall₂ (fun name f => k.fpus.find? (·.name = name) = some f) names fs) :
    names.map k.fpu = fs.map .ok := by
  induction h with
  | nil => rfl
  | cons hf _ ih =>
    rw [List.map_cons, List.map_cons, ih, k.fpu_eq_ok_iff.mpr (k.fpu?_eq_some_iff.mp hf)]

/-- An alias has the features that its target lists itself. -/
theorem alias_of_build (h : build base = .ok k) {name target : String} {row : FpuRow}
    (hrow : base.fpus.get? name = some row) (halias : row.aliasOf = some target) :
    ∃ f g t, k.fpu name = .ok f ∧ k.fpu target = .ok g ∧ base.fpus.get? target = some t ∧
      t.features = some f.features ∧ (t.aliasOf = none → f.features = g.features) := by
  obtain ⟨f, hf, hmakes⟩ := exists_fpu_of_row h hrow
  have hfeatures := hmakes.features
  rw [halias] at hfeatures
  obtain ⟨t, ht, hlisted⟩ := hfeatures
  obtain ⟨g, hg, hmakes'⟩ := exists_fpu_of_row h ht
  refine ⟨f, g, t, hf, hg, ht, hlisted, fun hplain => ?_⟩
  have hown := hmakes'.features
  rw [hplain, hlisted] at hown
  exact Option.some.inj hown

theorem represents_of_build (h : build base = .ok k) : k.Represents base where
  fpuNames := map_name_buildEntries (fun _ _ _ hf => FpuRow.name_build hf)
    (build_eq_ok_iff_entries.mp h).1
  cpuNames := map_name_buildEntries (fun _ _ _ hc => CpuRow.name_build hc)
    (build_eq_ok_iff_entries.mp h).2
  fpu_of_row name row hrow := by
    obtain ⟨f, hf, hmakes⟩ := exists_fpu_of_row h hrow
    refine ⟨f, hf, hmakes.name, hmakes.priority, fun hplain => ?_⟩
    have hfeatures := hmakes.features
    rwa [hplain] at hfeatures
  alias_of_row name row target hrow halias := alias_of_build h hrow halias
  cpu_of_row name row hrow := by
    obtain ⟨c, hc, hmakes⟩ := exists_cpu_of_row h hrow
    obtain ⟨names, hnames, hpicked⟩ := hmakes.fpus
    exact ⟨c, names, hc, hmakes.name, hmakes.architecture, hmakes.coreModel, hnames,
      map_fpu_of_picked hpicked⟩
  compatible_named c hc f hf := k.fpu_eq_ok_iff.mpr ⟨k.compatible_mem c hc f hf, rfl⟩

/-- **A catalogue is made exactly of a well-formed knowledge base**, and stands for it;
otherwise the first missing key is told, units before CPUs, each in order. -/
theorem build_wellFormed (base : KnowledgeBase) :
    ((∃ k, build base = .ok k) ↔ base.WellFormed) ∧
      (∀ e, build base = .error e ↔ firstMissing? base.needs = some e) ∧
      ∀ k, build base = .ok k → k.Represents base := by
  refine ⟨?_, fun e => ?_, fun k hk => represents_of_build hk⟩
  · rw [← failure?_eq_none_iff, failure?_build, firstMissing?_eq_none_iff,
      KnowledgeBase.wellFormed_iff_needs]
  · rw [← failure?_eq_some_iff, failure?_build]

/-- One unit under two names, and a CPU that lists both. -/
def namedTwice : KnowledgeBase where
  fpus := ⟨[("vfpv2", .own 7 ["vfp2"]), ("vfp", .named 8 "vfpv2")], by decide⟩
  cpus := ⟨[("cortex-m4", .full "Armv7E-M" "cortex_m4" ["vfp", "vfpv2"])], by decide⟩

/-- An alias of a row that is not there, and a CPU without any field. -/
def dangling : KnowledgeBase where
  fpus := ⟨[("vfpv2", .own 7 ["vfp2"]), ("neon", ⟨none, none, some "neon-vfpv3"⟩)], by decide⟩
  cpus := ⟨[("cortex-m4", ⟨none, none, none⟩)], by decide⟩

theorem namedTwice_represented :
    (∃ k, build namedTwice = .ok k ∧ k.Represents namedTwice) ∧
      build dangling = .error ⟨"neon-vfpv3"⟩ := by
  obtain ⟨hmade, _, hrepresents⟩ := build_wellFormed namedTwice
  have hwell : namedTwice.WellFormed := KnowledgeBase.wellFormed_iff_needs.mpr (by decide)
  obtain ⟨k, hk⟩ := hmade.mpr hwell
  obtain ⟨_, hfails, _⟩ := build_wellFormed dangling
  exact ⟨⟨k, hk, hrepresents k hk⟩, (hfails _).mpr (by decide)⟩

/-- A plugin that makes a shipped unit an alias and leaves its features in the row. -/
def redirecting : Plugin :=
  ⟨fun base => { base with fpus := base.fpus.put "vfp3" ⟨some 6, some ["vfp3"], some "vfpv2"⟩ }⟩

def redirected : KnowledgeBase := KnowledgeBase.shipped.extend [redirecting]

/-- The shipped alias of that unit keeps what the row lists, and the unit does not. -/
theorem alias_of_alias_differs :
    ∃ k f g, build redirected = .ok k ∧
      redirected.fpus.get? "vfpv3" = some (.named 6 "vfp3") ∧
      k.fpu "vfpv3" = .ok f ∧ k.fpu "vfp3" = .ok g ∧
      f.features = ["vfp3"] ∧ g.features = ["vfp2"] := by
  have hrow : redirected.fpus.get? "vfpv3" = some (.named 6 "vfp3") := by decide +kernel
  have htarget : redirected.fpus.get? "vfp3" = some ⟨some 6, some ["vfp3"], some "vfpv2"⟩ := by
    decide +kernel
  have hlast : redirected.fpus.get? "vfpv2" = some (.own 7 ["vfp2"]) := by decide +kernel
  have hcomplete : failure? (build redirected) = none := by
    rw [failure?_build]
    decide +kernel
  obtain ⟨k, hk⟩ := failure?_eq_none_iff.mp hcomplete
  obtain ⟨f, hf, hfmade⟩ := exists_fpu_of_row hk hrow
  obtain ⟨g, hg, hgmade⟩ := exists_fpu_of_row hk htarget
  obtain ⟨t, ht, hflisted⟩ := hfmade.features
  obtain ⟨u, hu, hglisted⟩ := hgmade.features
  rw [htarget] at ht
  rw [hlast] at hu
  cases ht
  cases hu
  exact ⟨k, f, g, hk, hrow, hf, hg, (Option.some.inj hflisted).symm,
    (Option.some.inj hglisted).symm⟩

end Catalogue

end CortexFlags
