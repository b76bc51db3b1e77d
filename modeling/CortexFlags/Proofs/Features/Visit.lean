import CortexFlags.Proofs.Features.Closure
import Mathlib.Logic.Relation

/-! The visit of a list of flags step by step, and what it comes to.

* `visitStep_wellFounded`: no visit goes on for ever. A step sees one more flag of
  the vocabulary, or leaves the seen ones alone and shortens the stack;
* `closeOver_eq_ok_iff_runs`, `closeOver_eq_error_iff_stops`: the closure is what has
  been seen when the stack is empty, the failure is the flag at which no step is left;
* `expand_eq_ok_iff_isClosure`: what is seen in the end is the least closed set that
  holds the list, hence the laws of a closure operator;
* `expand_least_closed`: all of this for every list. -/

namespace CortexFlags

variable {implied : Table (List String)} {flags more : List String}

/-! ## Steps -/

/-- Between two steps: the flags seen so far, and the stack of those to visit. -/
structure Stage where
  seen : FeatureSet
  todo : List String

/-- Before the first step the last flag of the list is on top. -/
def Stage.start (flags : List String) : Stage := ⟨.empty, flags.reverse⟩

/-- One round of the visit: a flag that was seen is dropped, a new one is seen and
what it implies is pushed. -/
inductive VisitStep (implied : Table (List String)) : Stage → Stage → Prop
  | skip {seen : FeatureSet} {f : String} {rest : List String} :
      f ∈ seen → VisitStep implied ⟨seen, f :: rest⟩ ⟨seen, rest⟩
  | push {seen : FeatureSet} {f : String} {fs rest : List String} :
      f ∉ seen → implied.get? f = some fs →
      VisitStep implied ⟨seen, f :: rest⟩ ⟨seen.insert f, fs.reverse ++ rest⟩

open Relation (ReflTransGen)

/-- **Every visit ends.** -/
theorem visitStep_wellFounded (implied : Table (List String)) :
    WellFounded (flip (VisitStep implied)) := by
  let rank (s : Stage) : Nat × Nat := (unseen implied s.seen, s.todo.length)
  have hlex : WellFounded (Prod.Lex (· < ·) (· < · : Nat → Nat → Prop)) :=
    (Prod.lex Nat.lt_wfRel Nat.lt_wfRel).wf
  refine Subrelation.wf ?_ (InvImage.wf rank hlex)
  intro after before hstep
  cases hstep with
  | skip hf => exact Prod.Lex.right _ (by simp)
  | push hf hfs => exact Prod.Lex.left _ _ (unseen_insert_lt ((implied.mem_keys_iff _).mpr ⟨_, hfs⟩) hf)

/-- A step leaves what the visit comes to as it is. -/
theorem VisitStep.closeOver_eq {s t : Stage} (h : VisitStep implied s t) :
    closeOver implied s.seen s.todo = closeOver implied t.seen t.todo := by
  cases h with
  | skip hf => rw [closeOver, if_pos hf]
  | push hf hfs =>
    rw [closeOver, if_neg hf]
    split
    · rename_i hnone
      rw [hfs] at hnone
      cases hnone
    · rename_i gs hgs
      rw [hfs] at hgs
      cases hgs
      rfl

theorem closeOver_eq_of_steps {s t : Stage} (h : ReflTransGen (VisitStep implied) s t) :
    closeOver implied s.seen s.todo = closeOver implied t.seen t.todo := by
  induction h with
  | refl => rfl
  | tail _ hstep ih => rw [ih, hstep.closeOver_eq]

/-- The visit cannot go on: the flag on top is new and unknown. -/
def Stage.StopsAt (implied : Table (List String)) (s : Stage) (f : String) : Prop :=
  f ∉ s.seen ∧ implied.get? f = none ∧ ∃ rest, s.todo = f :: rest

theorem Stage.StopsAt.closeOver_eq {s : Stage} {f : String} (h : s.StopsAt implied f) :
    closeOver implied s.seen s.todo = .error ⟨f⟩ := by
  obtain ⟨seen, todo⟩ := s
  obtain ⟨hnew, hunknown, rest, rfl⟩ := h
  rw [closeOver, if_neg hnew]
  split
  · rfl
  · rename_i gs hgs
    rw [hunknown] at hgs
    cases hgs

/-- The steps lead to an empty stack, or to a flag at which they stop. -/
theorem exists_end (implied : Table (List String)) (seen : FeatureSet) (todo : List String) :
    (∃ s, ReflTransGen (VisitStep implied) ⟨seen, todo⟩ ⟨s, []⟩) ∨
      ∃ t f, ReflTransGen (VisitStep implied) ⟨seen, todo⟩ t ∧ t.StopsAt implied f := by
  fun_induction closeOver implied seen todo with
  | case1 seen => exact Or.inl ⟨seen, .refl⟩
  | case2 seen f rest hf ih =>
    have hstep : VisitStep implied ⟨seen, f :: rest⟩ ⟨seen, rest⟩ := .skip hf
    rcases ih with ⟨s, hs⟩ | ⟨t, g, ht, hg⟩
    · exact Or.inl ⟨s, .head hstep hs⟩
    · exact Or.inr ⟨t, g, .head hstep ht, hg⟩
  | case3 seen f rest hf hnone => exact Or.inr ⟨_, f, .refl, hf, hnone, rest, rfl⟩
  | case4 seen f rest hf fs hfs ih =>
    have hstep : VisitStep implied ⟨seen, f :: rest⟩ ⟨seen.insert f, fs.reverse ++ rest⟩ :=
      .push hf hfs
    rcases ih with ⟨s, hs⟩ | ⟨t, g, ht, hg⟩
    · exact Or.inl ⟨s, .head hstep hs⟩
    · exact Or.inr ⟨t, g, .head hstep ht, hg⟩

theorem closeOver_eq_ok_iff_runs {seen s : FeatureSet} {todo : List String} :
    closeOver implied seen todo = .ok s ↔
      ReflTransGen (VisitStep implied) ⟨seen, todo⟩ ⟨s, []⟩ := by
  constructor
  · intro h
    rcases exists_end implied seen todo with ⟨t, ht⟩ | ⟨t, f, ht, hf⟩
    · have heq := closeOver_eq_of_steps ht
      rw [h, closeOver] at heq
      cases heq
      exact ht
    · rw [closeOver_eq_of_steps ht, hf.closeOver_eq] at h
      cases h
  · intro h
    rw [closeOver_eq_of_steps h, closeOver]

theorem closeOver_eq_error_iff_stops {seen : FeatureSet} {todo : List String} {f : String} :
    closeOver implied seen todo = .error ⟨f⟩ ↔
      ∃ t, ReflTransGen (VisitStep implied) ⟨seen, todo⟩ t ∧ t.StopsAt implied f := by
  constructor
  · intro h
    rcases exists_end implied seen todo with ⟨t, ht⟩ | ⟨t, g, ht, hg⟩
    · rw [closeOver_eq_of_steps ht, closeOver] at h
      cases h
    · rw [closeOver_eq_of_steps ht, hg.closeOver_eq] at h
      cases h
      exact ⟨t, ht, hg⟩
  · rintro ⟨t, ht, hf⟩
    rw [closeOver_eq_of_steps ht, hf.closeOver_eq]

/-! ## The least closed set -/

/-- A set holds a list, is closed, and lies in every set of which both are true. -/
structure IsClosure (implied : Table (List String)) (flags : List String) (s : FeatureSet) :
    Prop where
  holds : ∀ f ∈ flags, f ∈ s
  closed : Closed implied (· ∈ s)
  least : ∀ P : String → Prop, (∀ f ∈ flags, P f) → Closed implied P → ∀ f ∈ s, P f

theorem isClosure_iff_reaches {s : FeatureSet} :
    IsClosure implied flags s ↔ ∀ f, f ∈ s ↔ Reaches implied flags f := by
  constructor
  · intro h f
    exact ⟨h.least _ (fun g hg => .start hg) (reaches_closed implied flags) f,
      fun hf => hf.least h.holds h.closed⟩
  · intro h
    refine ⟨fun f hf => (h f).mpr (.start hf), ?_, ?_⟩
    · intro f gs hf hgs g hg
      exact (h g).mpr (.step ((h f).mp hf) hgs hg)
    · intro P hstart hclosed f hf
      exact ((h f).mp hf).least hstart hclosed

/-- **The closure is the least closed set.** -/
theorem expand_eq_ok_iff_isClosure {s : FeatureSet} :
    expand flags = .ok s ↔
      (∀ f ∈ flags, f ∈ implications.keys) ∧ IsClosure implications flags s := by
  constructor
  · intro hs
    exact ⟨expand_isOk_iff.mp ⟨s, hs⟩, isClosure_iff_reaches.mpr fun f => mem_expand_iff hs⟩
  · rintro ⟨known, hclosure⟩
    obtain ⟨t, ht⟩ := expand_isOk_iff.mpr known
    have hst : t = s := by
      ext f
      rw [mem_expand_iff ht, isClosure_iff_reaches.mp hclosure f]
    rw [ht, hst]

/-! ## Laws -/

/-- Fewer flags have a smaller closure. -/
theorem expand_mono {t : FeatureSet} (h : ∀ f ∈ flags, f ∈ more) (ht : expand more = .ok t) :
    ∃ s, expand flags = .ok s ∧ ∀ f ∈ s, f ∈ t := by
  have known := expand_isOk_iff.mp ⟨t, ht⟩
  obtain ⟨s, hs⟩ := expand_isOk_iff.mpr fun f hf => known f (h f hf)
  refine ⟨s, hs, fun f hf => ?_⟩
  rw [mem_expand_iff ht]
  exact ((mem_expand_iff hs).mp hf).mono h

/-- **Absorption.** Flags that are in the closure anyway may be listed too. -/
theorem expand_of_between {s : FeatureSet} (hs : expand flags = .ok s)
    (hmore : ∀ f ∈ flags, f ∈ more) (hin : ∀ f ∈ more, f ∈ s) : expand more = .ok s := by
  obtain ⟨known, hclosure⟩ := expand_eq_ok_iff_isClosure.mp hs
  have hknown : Closed implications (· ∈ implications.keys) := fun f gs _ hgs g hg =>
    implications_complete _ (Table.mem_entries_of_get? hgs) g hg
  refine expand_eq_ok_iff_isClosure.mpr ⟨fun f hf => ?_, hin, hclosure.closed, ?_⟩
  · exact hclosure.least _ known hknown f (hin f hf)
  · intro P hstart hclosed f hf
    exact hclosure.least P (fun g hg => hstart g (hmore g hg)) hclosed f hf

/-- A closure is its own closure, in whatever order its flags are listed. -/
theorem expand_of_closure {s : FeatureSet} (hs : expand flags = .ok s)
    (h : ∀ f, f ∈ more ↔ f ∈ s) : expand more = .ok s := by
  have holds := (expand_eq_ok_iff_isClosure.mp hs).2.holds
  exact expand_of_between hs (fun f hf => (h f).mpr (holds f hf)) (fun f hf => (h f).mp hf)

/-- The closure of two lists together is the union of their closures. -/
theorem expand_append_iff {u : FeatureSet} :
    expand (flags ++ more) = .ok u ↔
      ∃ s t, expand flags = .ok s ∧ expand more = .ok t ∧ ∀ f, f ∈ u ↔ f ∈ s ∨ f ∈ t := by
  constructor
  · intro hu
    obtain ⟨s, hs, _⟩ := expand_mono (fun f hf => List.mem_append_left more hf) hu
    obtain ⟨t, ht, _⟩ := expand_mono (fun f hf => List.mem_append_right flags hf) hu
    refine ⟨s, t, hs, ht, fun f => ?_⟩
    rw [mem_expand_iff hu, mem_expand_iff hs, mem_expand_iff ht, reaches_append_iff]
  · rintro ⟨s, t, hs, ht, hu⟩
    refine expand_eq_ok_iff_isClosure.mpr ⟨fun f hf => ?_, isClosure_iff_reaches.mpr fun f => ?_⟩
    · rcases List.mem_append.mp hf with hf | hf
      · exact expand_isOk_iff.mp ⟨s, hs⟩ f hf
      · exact expand_isOk_iff.mp ⟨t, ht⟩ f hf
    · rw [hu, mem_expand_iff hs, mem_expand_iff ht, reaches_append_iff]

/-- **The last unknown flag is reported.** -/
theorem expand_eq_error_iff_last {e : UnknownFeature} :
    expand flags = .error e ↔ ∃ before after, flags = before ++ e.flag :: after ∧
      e.flag ∉ implications.keys ∧ ∀ f ∈ after, f ∈ implications.keys := by
  rw [expand_eq_error_iff, List.find?_eq_some_iff_append]
  simp only [decide_eq_true_eq, Bool.not_eq_true', decide_eq_false_iff_not, Decidable.not_not]
  constructor
  · rintro ⟨hunknown, before, after, hsplit, hbefore⟩
    have hflags := congrArg List.reverse hsplit
    refine ⟨after.reverse, before.reverse, by simpa using hflags, hunknown, fun f hf => ?_⟩
    exact hbefore f (List.mem_reverse.mp hf)
  · rintro ⟨before, after, rfl, hunknown, hafter⟩
    refine ⟨hunknown, after.reverse, before.reverse, by simp, fun f hf => ?_⟩
    exact hafter f (List.mem_reverse.mp hf)

/-! ## All of it -/

/-- **The closure of every list**: the visit ends, with the least closed set that holds the
list if all its flags are known, and otherwise at the last one that is not. -/
theorem expand_least_closed (flags : List String) :
    Acc (flip (VisitStep implications)) (.start flags) ∧
    (∀ s, expand flags = .ok s ↔
      ReflTransGen (VisitStep implications) (.start flags) ⟨s, []⟩) ∧
    (∀ f, expand flags = .error ⟨f⟩ ↔
      ∃ t, ReflTransGen (VisitStep implications) (.start flags) t ∧ t.StopsAt implications f) ∧
    ((∃ s, expand flags = .ok s) ↔ ∀ f ∈ flags, f ∈ implications.keys) ∧
    (∀ s, expand flags = .ok s ↔
      (∀ f ∈ flags, f ∈ implications.keys) ∧ IsClosure implications flags s) ∧
    (∀ s, expand flags = .ok s → ∀ f, f ∈ s ↔ Reaches implications flags f) ∧
    (∀ s more, expand flags = .ok s → (∀ f, f ∈ more ↔ f ∈ flags) → expand more = .ok s) ∧
    (∀ s more, expand flags = .ok s → (∀ f, f ∈ more ↔ f ∈ s) → expand more = .ok s) ∧
    (∀ t more, expand more = .ok t → (∀ f ∈ flags, f ∈ more) →
      ∃ s, expand flags = .ok s ∧ ∀ f ∈ s, f ∈ t) ∧
    (∀ u more, expand (flags ++ more) = .ok u ↔
      ∃ s t, expand flags = .ok s ∧ expand more = .ok t ∧ ∀ f, f ∈ u ↔ f ∈ s ∨ f ∈ t) ∧
    ∀ f, expand flags = .error ⟨f⟩ ↔ ∃ before after, flags = before ++ f :: after ∧
      f ∉ implications.keys ∧ ∀ g ∈ after, g ∈ implications.keys := by
  refine ⟨(visitStep_wellFounded implications).apply _, fun _ => closeOver_eq_ok_iff_runs,
    fun _ => closeOver_eq_error_iff_stops, expand_isOk_iff, fun _ => expand_eq_ok_iff_isClosure,
    fun _ hs _ => mem_expand_iff hs, ?_, fun _ _ => expand_of_closure, fun _ _ => ?_,
    fun _ _ => expand_append_iff, fun _ => expand_eq_error_iff_last⟩
  · intro s more hs hmore
    exact expand_congr (fun f => (hmore f).symm) hs
  · intro ht hmore
    exact expand_mono hmore ht

/-- A flag listed twice, the same flags in another order, and two unknown flags. -/
theorem repeated_least_closed : ∃ s, expand ["fp64", "d32", "fp64"] = .ok s ∧
    s.toList = ["d32", "fp64", "fpregs"] ∧ expand ["d32", "fp64"] = .ok s ∧
    expand ["fpregs", "d32", "fp64"] = .ok s ∧
    expand ["fp64", "apple", "d32", "pear", "fp64"] = .error ⟨"pear"⟩ := by
  obtain ⟨s, hs, hlist⟩ : ∃ s, expand ["fp64", "d32", "fp64"] = .ok s ∧
      s.toList = ["d32", "fp64", "fpregs"] := by
    refine ⟨⟨["d32", "fp64", "fpregs"], by decide⟩, expand_eq_of_reached? ?_, rfl⟩
    decide +kernel
  obtain ⟨-, -, -, -, -, -, hreordered, hagain, -, -, -⟩ :=
    expand_least_closed ["fp64", "d32", "fp64"]
  obtain ⟨-, -, -, -, -, -, -, -, -, -, hlast⟩ :=
    expand_least_closed ["fp64", "apple", "d32", "pear", "fp64"]
  refine ⟨s, hs, hlist, hreordered s _ hs ?_, hagain s _ hs ?_, (hlast "pear").mpr ?_⟩
  · simp [or_comm]
  · intro f
    have hperm : ["fpregs", "d32", "fp64"].Perm s.toList := by
      rw [hlist]
      decide
    exact hperm.mem_iff
  · exact ⟨["fp64", "apple", "d32"], ["fp64"], rfl, by decide, by decide⟩

end CortexFlags
