import CortexFlags.Features.Closure

/-! The closure of a list of flags is what the list leads to.

* `Reaches.least`: what a list leads to is the least closed set that holds it;
  hence `Reaches.trans` and `reaches_append_iff`;
* `closeOver_eq_error_iff`: the visit fails at the first unknown flag of its
  stack, and nowhere else; hence `expand_isOk_iff`;
* `mem_expand_iff`: the closure holds exactly the flags that the list leads to;
* `expand_eq_of_reached?`: a visit with a bound on its steps computes the closure. -/

namespace CortexFlags

variable {implied : Table (List String)} {flags more : List String}

/-! ## What a list leads to -/

/-- A set that holds whatever its members imply. -/
def Closed (implied : Table (List String)) (P : String → Prop) : Prop :=
  ∀ f gs, P f → implied.get? f = some gs → ∀ g ∈ gs, P g

theorem reaches_closed (implied : Table (List String)) (flags : List String) :
    Closed implied (Reaches implied flags) :=
  fun _ _ hf hgs _ hg => .step hf hgs hg

/-- **Least closed set.** -/
theorem Reaches.least {P : String → Prop} (hstart : ∀ f ∈ flags, P f)
    (hclosed : Closed implied P) {f : String} (h : Reaches implied flags f) : P f := by
  induction h with
  | start hf => exact hstart _ hf
  | step _ hgs hg ih => exact hclosed _ _ ih hgs _ hg

theorem Reaches.trans (h : ∀ f ∈ flags, Reaches implied more f) {f : String}
    (hf : Reaches implied flags f) : Reaches implied more f :=
  hf.least h (reaches_closed implied more)

theorem Reaches.mono (h : ∀ f ∈ flags, f ∈ more) {f : String}
    (hf : Reaches implied flags f) : Reaches implied more f :=
  hf.trans fun g hg => .start (h g hg)

theorem not_reaches_nil {f : String} : ¬ Reaches implied [] f := by
  intro h
  refine h.least (P := fun _ => False) ?_ ?_
  · simp
  · intro _ _ hf
    exact hf.elim

/-- Only the members of a list count, not their order or repetition. -/
theorem reaches_congr (h : ∀ f, f ∈ flags ↔ f ∈ more) (f : String) :
    Reaches implied flags f ↔ Reaches implied more f :=
  ⟨.mono fun g => (h g).mp, .mono fun g => (h g).mpr⟩

theorem reaches_append_iff {f : String} :
    Reaches implied (flags ++ more) f ↔ Reaches implied flags f ∨ Reaches implied more f := by
  constructor
  · intro h
    refine h.least (P := fun f => Reaches implied flags f ∨ Reaches implied more f) ?_ ?_
    · intro g hg
      rcases List.mem_append.mp hg with hg | hg
      · exact Or.inl (.start hg)
      · exact Or.inr (.start hg)
    · intro g gs hg hgs x hx
      rcases hg with hg | hg
      · exact Or.inl (.step hg hgs hx)
      · exact Or.inr (.step hg hgs hx)
  · rintro (h | h)
    · exact h.mono fun g hg => List.mem_append_left _ hg
    · exact h.mono fun g hg => List.mem_append_right _ hg

/-- A flag that nothing implies is led to only by being listed. -/
theorem mem_of_reaches {f : String} (hf : ∀ entry ∈ implied.entries, f ∉ entry.2)
    (h : Reaches implied flags f) : f ∈ flags := by
  cases h with
  | start h => exact h
  | step _ hgs hg => exact absurd hg (hf _ (Table.mem_entries_of_get? hgs))

/-! ## The visit -/

/-- What holds between two steps of the visit of a list: all of the list, and all
that a seen flag implies, is seen or still to come, and nothing else is. -/
structure Visiting (implied : Table (List String)) (flags : List String) (seen : FeatureSet)
    (todo : List String) : Prop where
  start : ∀ f ∈ flags, f ∈ seen ∨ f ∈ todo
  next : ∀ f gs, f ∈ seen → implied.get? f = some gs → ∀ g ∈ gs, g ∈ seen ∨ g ∈ todo
  seen_reached : ∀ f ∈ seen, Reaches implied flags f
  todo_reached : ∀ f ∈ todo, Reaches implied flags f

namespace Visiting

variable {seen : FeatureSet} {f : String} {fs rest : List String}

theorem begin (implied : Table (List String)) (flags : List String) :
    Visiting implied flags .empty flags.reverse where
  start _ hf := Or.inr (List.mem_reverse.mpr hf)
  next _ _ hf := absurd hf (FeatureSet.not_mem_empty _)
  seen_reached _ hf := absurd hf (FeatureSet.not_mem_empty _)
  todo_reached _ hf := .start (List.mem_reverse.mp hf)

theorem skip (h : Visiting implied flags seen (f :: rest)) (hf : f ∈ seen) :
    Visiting implied flags seen rest := by
  have drop : ∀ g, g ∈ seen ∨ g ∈ f :: rest → g ∈ seen ∨ g ∈ rest := by
    rintro g (hg | hg)
    · exact Or.inl hg
    · rcases List.mem_cons.mp hg with rfl | hg
      · exact Or.inl hf
      · exact Or.inr hg
  exact ⟨fun g hg => drop g (h.start g hg),
    fun g gs hg hgs x hx => drop x (h.next g gs hg hgs x hx), h.seen_reached,
    fun g hg => h.todo_reached g (List.mem_cons_of_mem _ hg)⟩

theorem push (h : Visiting implied flags seen (f :: rest)) (hfs : implied.get? f = some fs) :
    Visiting implied flags (seen.insert f) (fs.reverse ++ rest) := by
  have hf : Reaches implied flags f := h.todo_reached f (List.mem_cons_self ..)
  have move : ∀ g, g ∈ seen ∨ g ∈ f :: rest → g ∈ seen.insert f ∨ g ∈ fs.reverse ++ rest := by
    rintro g (hg | hg)
    · exact Or.inl (FeatureSet.mem_insert.mpr (Or.inr hg))
    · rcases List.mem_cons.mp hg with rfl | hg
      · exact Or.inl (FeatureSet.mem_insert.mpr (Or.inl rfl))
      · exact Or.inr (List.mem_append_right _ hg)
  refine ⟨fun g hg => move g (h.start g hg), ?_, ?_, ?_⟩
  · intro g gs hg hgs x hx
    rcases FeatureSet.mem_insert.mp hg with rfl | hg
    · rw [hfs] at hgs
      cases hgs
      exact Or.inr (List.mem_append_left _ (List.mem_reverse.mpr hx))
    · exact move x (h.next g gs hg hgs x hx)
  · intro g hg
    rcases FeatureSet.mem_insert.mp hg with rfl | hg
    · exact hf
    · exact h.seen_reached g hg
  · intro g hg
    rcases List.mem_append.mp hg with hg | hg
    · exact .step hf hfs (List.mem_reverse.mp hg)
    · exact h.todo_reached g (List.mem_cons_of_mem _ hg)

theorem done (h : Visiting implied flags seen []) : f ∈ seen ↔ Reaches implied flags f := by
  constructor
  · exact h.seen_reached f
  · intro hf
    refine hf.least (P := (· ∈ seen)) ?_ ?_
    · intro g hg
      exact (h.start g hg).resolve_right List.not_mem_nil
    · intro g gs hg hgs x hx
      exact (h.next g gs hg hgs x hx).resolve_right List.not_mem_nil

end Visiting

theorem mem_closeOver_iff {seen s : FeatureSet} {todo : List String}
    (h : Visiting implied flags seen todo) (hs : closeOver implied seen todo = .ok s) {f : String} :
    f ∈ s ↔ Reaches implied flags f := by
  fun_induction closeOver implied seen todo with
  | case1 seen =>
    cases hs
    exact h.done
  | case2 seen g rest hg ih => exact ih (h.skip hg) hs
  | case3 seen g rest hg hgs => cases hs
  | case4 seen g rest hg gs hgs ih => exact ih (h.push hgs) hs

/-- Every flag of the vocabulary implies flags of the vocabulary only. -/
def Complete (implied : Table (List String)) : Prop :=
  ∀ entry ∈ implied.entries, ∀ f ∈ entry.2, f ∈ implied.keys

/-- The visit stops at the first unknown flag of its stack: nothing unknown is
pushed above it. -/
theorem closeOver_eq_error_iff (hc : Complete implied) {seen : FeatureSet} {todo : List String}
    (hseen : ∀ f ∈ seen, f ∈ implied.keys) {e : UnknownFeature} :
    closeOver implied seen todo = .error e ↔ todo.find? (· ∉ implied.keys) = some e.flag := by
  fun_induction closeOver implied seen todo with
  | case1 seen => simp
  | case2 seen g rest hg ih =>
    have hk : g ∈ implied.keys := hseen g hg
    rw [ih hseen, List.find?_cons_of_neg (by simpa using hk)]
  | case3 seen g rest hg hgs =>
    have hk : g ∉ implied.keys := by
      rw [implied.mem_keys_iff, hgs]
      simp
    rw [List.find?_cons_of_pos (by simpa using hk)]
    constructor
    · intro h
      cases h
      rfl
    · intro h
      cases e
      cases h
      rfl
  | case4 seen g rest hg gs hgs ih =>
    have hk : g ∈ implied.keys := (implied.mem_keys_iff g).mpr ⟨gs, hgs⟩
    have hnew : ∀ f ∈ seen.insert g, f ∈ implied.keys := by
      intro f hf
      rcases FeatureSet.mem_insert.mp hf with rfl | hf
      · exact hk
      · exact hseen f hf
    have hpushed : gs.reverse.find? (· ∉ implied.keys) = none := by
      rw [List.find?_eq_none]
      intro f hf
      simpa using hc _ (Table.mem_entries_of_get? hgs) f (List.mem_reverse.mp hf)
    rw [ih hnew, List.find?_append, hpushed, Option.none_or,
      List.find?_cons_of_neg (by simpa using hk)]

/-! ## The closure -/

theorem implications_complete : Complete implications := implications_closed

/-- **The closure is what the list leads to.** -/
theorem mem_expand_iff {s : FeatureSet} (hs : expand flags = .ok s) {f : String} :
    f ∈ s ↔ Reaches implications flags f :=
  mem_closeOver_iff (Visiting.begin implications flags) hs

theorem expand_eq_error_iff {e : UnknownFeature} :
    expand flags = .error e ↔ flags.reverse.find? (· ∉ implications.keys) = some e.flag :=
  closeOver_eq_error_iff implications_complete
    fun f hf => absurd hf (FeatureSet.not_mem_empty f)

/-- **The closure exists exactly for known flags.** -/
theorem expand_isOk_iff : (∃ s, expand flags = .ok s) ↔ ∀ f ∈ flags, f ∈ implications.keys := by
  have hfind : flags.reverse.find? (· ∉ implications.keys) = none ↔
      ∀ f ∈ flags, f ∈ implications.keys := by
    rw [List.find?_eq_none]
    simp
  rw [← hfind]
  cases he : expand flags with
  | error e =>
    rw [expand_eq_error_iff.mp he]
    simp
  | ok s =>
    refine iff_of_true ⟨s, rfl⟩ ?_
    cases hf : flags.reverse.find? (· ∉ implications.keys) with
    | none => rfl
    | some f =>
      have := expand_eq_error_iff (e := ⟨f⟩).mpr hf
      rw [he] at this
      cases this

/-- Lists with the same members have the same closure. -/
theorem expand_congr (h : ∀ f, f ∈ flags ↔ f ∈ more) {s : FeatureSet}
    (hs : expand flags = .ok s) : expand more = .ok s := by
  have known := expand_isOk_iff.mp ⟨s, hs⟩
  obtain ⟨t, ht⟩ := expand_isOk_iff.mpr fun f hf => known f ((h f).mpr hf)
  have hsame : t = s := by
    ext f
    rw [mem_expand_iff ht, mem_expand_iff hs, reaches_congr h]
  rw [ht, hsame]

/-! ## A visit that computes

The order of steps in `closeOver` is well-founded but opaque to evaluation; with
a bound on the number of steps the same visit reduces to a value. -/

/-- The visit of a stack within a number of steps, `none` if a flag is unknown or
the steps are not enough. -/
def visit (implied : Table (List String)) : Nat → FeatureSet → List String → Option FeatureSet
  | _, seen, [] => some seen
  | 0, _, _ :: _ => none
  | n + 1, seen, f :: rest =>
      if f ∈ seen then visit implied n seen rest
      else
        match implied.get? f with
        | none => none
        | some fs => visit implied n (seen.insert f) (fs.reverse ++ rest)

theorem closeOver_eq_of_visit {n : Nat} {seen s : FeatureSet} {todo : List String}
    (h : visit implied n seen todo = some s) : closeOver implied seen todo = .ok s := by
  induction n generalizing seen todo with
  | zero =>
    cases todo with
    | nil =>
      cases h
      rw [closeOver]
    | cons f rest => cases h
  | succ n ih =>
    cases todo with
    | nil =>
      cases h
      rw [closeOver]
    | cons f rest =>
      rw [visit] at h
      rw [closeOver]
      by_cases hf : f ∈ seen
      · rw [if_pos hf] at h ⊢
        exact ih h
      · rw [if_neg hf] at h ⊢
        cases hg : implied.get? f with
        | none =>
          rw [hg] at h
          cases h
        | some fs =>
          rw [hg] at h
          exact ih h

/-- The closure of a list, computed within a hundred steps. -/
def reached? (flags : List String) : Option FeatureSet :=
  visit implications 100 .empty flags.reverse

theorem expand_eq_of_reached? {s : FeatureSet} (h : reached? flags = some s) :
    expand flags = .ok s :=
  closeOver_eq_of_visit h

theorem mem_reached?_iff {s : FeatureSet} (h : reached? flags = some s) {f : String} :
    f ∈ s ↔ Reaches implications flags f :=
  mem_expand_iff (expand_eq_of_reached? h)

end CortexFlags
