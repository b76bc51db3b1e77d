import CortexFlags.Session.Recipe

/-! Operations told action by action.

* `Script.run`: the operation that a script tells;
* `Scripted`: an operation acts on the session by lookups of the catalogue, by
  looks at saved descriptors and by `Change`s only;
* `scripted_bind`, `scripted_attemptAll`: such operations can be put in sequence;
* `DescriptorRecipe.scripted_make`, `scripted_roundTrip`: recipes and translations
  are such operations. -/

namespace CortexFlags

/-! ## Scripts -/

/-- A change that an operation makes to the session by itself. -/
inductive Change
  | save (name : String) (d : Descriptor)
  | setPlugins (plugins : List Plugin)
  | setSettings (settings : Settings.Entries)
  | clearCatalogue

def Change.make (s : Session) : Change → Session
  | save name d => s.save name d
  | setPlugins plugins => s.setPlugins plugins
  | setSettings settings => s.setSettings settings
  | clearCatalogue => s.clearCatalogue

/-- The actions of an operation on a session; what an action answers decides on those
that follow. -/
inductive Script (α : Type) : Type
  | done (outcome : Except SessionFault α)
  | lookUp (next : Except LoadFault Catalogue → Script α)
  | fetch (name : String) (next : Option Descriptor → Script α)
  | change (c : Change) (next : Script α)

namespace Script

variable {α β : Type}

def run : Script α → Operation α
  | done outcome => fun s => (outcome, s)
  | lookUp next => fun s => (next s.lookup.1).run s.lookup.2
  | fetch name next => fun s => (next (s.saved.lookup name)).run s
  | change c next => fun s => next.run (c.make s)

/-- Go on where a script is done. -/
def andThen : Script α → (Except SessionFault α → Script β) → Script β
  | done outcome, rest => rest outcome
  | lookUp next, rest => lookUp fun answer => (next answer).andThen rest
  | fetch name next, rest => fetch name fun answer => (next answer).andThen rest
  | change c next, rest => change c (next.andThen rest)

/-- Go on where a script succeeds. -/
def bind (p : Script α) (rest : α → Script β) : Script β :=
  p.andThen fun
    | .ok a => rest a
    | .error fault => .done (.error fault)

/-- Look the catalogue up and answer it. -/
def catalogue : Script Catalogue :=
  .lookUp fun
    | .ok k => .done (.ok k)
    | .error fault => .done (.error (.load fault))

/-- Answer the descriptor that is saved under a name. -/
def saved (name : String) : Script Descriptor :=
  .fetch name fun
    | some d => .done (.ok d)
    | none => .done (.error (.notSaved name))

theorem run_andThen (p : Script α) (rest : Except SessionFault α → Script β) (s : Session) :
    (p.andThen rest).run s = (rest (p.run s).1).run (p.run s).2 := by
  induction p generalizing s with
  | done outcome => rfl
  | lookUp next ih => exact ih s.lookup.1 s.lookup.2
  | fetch name next ih => exact ih (s.saved.lookup name) s
  | change c next ih => exact ih (c.make s)

end Script

/-! ## Operations that are scripts -/

/-- Some script tells the operation. -/
def Scripted {α : Type} (op : Operation α) : Prop := ∃ script : Script α, script.run = op

section

variable {α β : Type} {op : Operation α}

theorem scripted_pure (a : α) : Scripted (pure a : Operation α) := ⟨.done (.ok a), rfl⟩

theorem scripted_throw (fault : SessionFault) : Scripted (throw fault : Operation α) :=
  ⟨.done (.error fault), rfl⟩

theorem scripted_bind (h : Scripted op) {f : α → Operation β} (hf : ∀ a, Scripted (f a)) :
    Scripted (op >>= f) := by
  obtain ⟨p, rfl⟩ := h
  obtain ⟨rest, hrest⟩ := Classical.axiomOfChoice hf
  refine ⟨p.bind rest, ?_⟩
  funext s
  rw [Script.bind, Script.run_andThen]
  show _ = ExceptT.bindCont f (p.run s).1 (p.run s).2
  cases (p.run s).1 with
  | ok a =>
    dsimp only
    rw [hrest]
    rfl
  | error fault => rfl

theorem scripted_change (c : Change) : Scripted (modify (c.make ·) : Operation Unit) :=
  ⟨.change c (.done (.ok ())), rfl⟩

/-- A look at the session changes nothing. -/
theorem Operation.get_bind (f : Session → Operation β) (s : Session) : (get >>= f) s = f s s := rfl

theorem scripted_catalogue : Scripted Operation.catalogue := by
  refine ⟨.catalogue, ?_⟩
  funext s
  rw [Operation.catalogue, Operation.get_bind]
  dsimp only [Script.catalogue, Script.run]
  cases s.lookup with
  | mk outcome s' => cases outcome <;> rfl

theorem scripted_saved (name : String) :
    Scripted (do
      match (← get).saved.lookup name with
      | some d => return d
      | none => throw (.notSaved name) : Operation Descriptor) := by
  refine ⟨.saved name, ?_⟩
  funext s
  rw [Operation.get_bind]
  dsimp only [Script.saved, Script.run]
  cases s.saved.lookup name <;> rfl

theorem scripted_attempt (h : Scripted op) : Scripted op.attempt := by
  obtain ⟨p, rfl⟩ := h
  refine ⟨p.andThen fun outcome => .done (.ok outcome), ?_⟩
  funext s
  rw [Script.run_andThen]
  rfl

/-- **Steps in sequence**, whatever becomes of each, are a script again. -/
theorem scripted_attemptAll {ops : List (Operation α)} (h : ∀ op ∈ ops, Scripted op) :
    Scripted (Operation.attemptAll ops) := by
  induction ops with
  | nil => exact scripted_pure []
  | cons op ops ih =>
    refine scripted_bind (scripted_attempt (h op (List.mem_cons_self ..))) fun outcome => ?_
    refine scripted_bind (ih fun op' hop => h op' (List.mem_cons_of_mem _ hop)) fun outcomes => ?_
    exact scripted_pure (outcome :: outcomes)

theorem scripted_mapM {f : α → Operation β} (h : ∀ a, Scripted (f a)) (as : List α) :
    Scripted (as.mapM f) := by
  induction as with
  | nil => exact scripted_pure []
  | cons a as ih =>
    rw [List.mapM_cons]
    exact scripted_bind (h a) fun b => scripted_bind ih fun bs => scripted_pure (b :: bs)

end

/-! ## The operations of the program -/

section

variable {α β : Type}

theorem scripted_ofFlag (outcome : Except FlagFault α) : Scripted (Operation.ofFlag outcome) := by
  cases outcome with
  | ok a => exact scripted_pure a
  | error fault => exact scripted_throw _

theorem scripted_ofConversion (during : Option Conversion) (outcome : Except ConversionFault α) :
    Scripted (Operation.ofConversion during outcome) := by
  cases outcome with
  | ok a => exact scripted_pure a
  | error fault => exact scripted_throw _

theorem scripted_ofResolution (outcome : Except ResolutionFault α) :
    Scripted (Operation.ofResolution outcome) := by
  cases outcome with
  | ok a => exact scripted_pure a
  | error fault => exact scripted_throw _

theorem scripted_expanded (flags : List String) : Scripted (Operation.expanded flags) := by
  unfold Operation.expanded
  cases expand flags with
  | ok features => exact scripted_pure features
  | error unknown => exact scripted_throw _

theorem scripted_ofFlags (flags : Flags) : Scripted (Operation.ofFlags flags) := by
  unfold Operation.ofFlags
  cases flags.cpu with
  | none => exact scripted_ofFlag _
  | some name =>
    refine scripted_bind scripted_catalogue fun k => ?_
    cases Descriptor.ofFlags k flags with
    | ok d => exact scripted_pure d
    | error fault => exact scripted_throw _

theorem scripted_ofResolved (r : ResolvedArch) : Scripted (Operation.ofResolved r) :=
  scripted_bind scripted_catalogue fun _ => scripted_ofConversion _ _

theorem scripted_roundTrip (d : Descriptor) : Scripted (Operation.roundTrip d) :=
  scripted_bind (scripted_ofConversion _ _) fun _ =>
    scripted_bind (scripted_ofResolution _) fun r => scripted_ofResolved r

theorem scripted_checkCompatibility (r : ResolvedArch) :
    Scripted (Operation.checkCompatibility r) :=
  scripted_bind scripted_catalogue fun _ => scripted_ofConversion _ _

theorem scripted_isWithin (r : ResolvedArch) (ds : List Descriptor) :
    Scripted (Operation.isWithin r ds) :=
  scripted_bind scripted_catalogue fun _ => scripted_pure _

theorem FpuRecipe.scripted_make (recipe : FpuRecipe) : Scripted recipe.make := by
  cases recipe with
  | named name => exact scripted_bind scripted_catalogue fun k => scripted_ofFlag (k.fpu name)
  | built fpu => exact scripted_pure fpu

theorem CpuRecipe.scripted_make (recipe : CpuRecipe) : Scripted recipe.make := by
  cases recipe with
  | named name => exact scripted_bind scripted_catalogue fun k => scripted_ofFlag (k.cpu name)
  | built name architecture coreModel fpus =>
    exact scripted_bind (scripted_mapM FpuRecipe.scripted_make fpus) fun _ => scripted_pure _

theorem scripted_readMember (enumeration : String) (ofName? : String → Option α) (name : String) :
    Scripted (readMember enumeration ofName? name) := by
  unfold readMember
  cases ofName? name with
  | none => exact scripted_throw _
  | some member => exact scripted_pure member

theorem scripted_orKept (kept : β) {read : α → Operation β} (h : ∀ a, Scripted (read a))
    (given : Option α) : Scripted (orKept kept read given) := by
  cases given with
  | none => exact scripted_pure kept
  | some a => exact h a

theorem FieldChanges.scripted_apply (changes : FieldChanges) (d : Descriptor) :
    Scripted (changes.apply d) :=
  scripted_bind (scripted_orKept _ CpuRecipe.scripted_make _) fun _ =>
    scripted_bind (scripted_orKept _ (scripted_readMember _ _) _) fun _ =>
      scripted_bind (scripted_orKept _ (scripted_readMember _ _) _) fun _ =>
        scripted_bind (scripted_orKept _ (scripted_readMember _ _) _) fun _ =>
          scripted_bind (scripted_orKept _ (scripted_orKept none fun recipe =>
            scripted_bind recipe.scripted_make fun _ => scripted_pure _) _) fun _ =>
              scripted_pure _

end

mutual

theorem DescriptorRecipe.scripted_make : ∀ recipe : DescriptorRecipe, Scripted recipe.make
  | .saved name => scripted_saved name
  | .ofFlags flags => scripted_ofFlags flags
  | .ofResolved r => scripted_bind r.scripted_make scripted_ofResolved
  | .plain cpu => scripted_bind cpu.scripted_make fun _ => scripted_pure _
  | .changed base changes => scripted_bind base.scripted_make changes.scripted_apply

theorem QueryRecipe.scripted_make : ∀ recipe : QueryRecipe, Scripted recipe.make
  | .ofDescriptor d => scripted_bind d.scripted_make fun _ => scripted_ofConversion _ _
  | .parsed _ _ => scripted_ofResolution _
  | .built q => scripted_pure q

theorem ArchRecipe.scripted_make : ∀ recipe : ArchRecipe, Scripted recipe.make
  | .resolving q => scripted_bind q.scripted_make fun _ => scripted_ofResolution _
  | .built r => scripted_pure r

end

end CortexFlags
