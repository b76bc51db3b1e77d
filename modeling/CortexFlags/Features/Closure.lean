import CortexFlags.Features.Set
import CortexFlags.Features.Vocabulary

/-! The closure of a list of flags under the implications. `Reaches` says which
flags a list leads to; `closeOver` computes them with a stack of flags to visit,
and `expand` starts it on a list of flags, the last one on top. -/

namespace CortexFlags

/-- A flag that stands for nothing in the vocabulary. -/
structure UnknownFeature where
  flag : String
deriving DecidableEq, Repr

/-- The flags reached from a list: its members, and what reached flags imply. -/
inductive Reaches (implied : Table (List String)) (flags : List String) : String → Prop
  | start {f : String} : f ∈ flags → Reaches implied flags f
  | step {f g : String} {gs : List String} :
      Reaches implied flags f → implied.get? f = some gs → g ∈ gs → Reaches implied flags g

/-! ## The stack of flags to visit -/

/-- How many flags of the vocabulary are still to be seen. -/
def unseen (implied : Table (List String)) (seen : FeatureSet) : Nat :=
  implied.keys.countP (· ∉ seen)

theorem unseen_insert_lt {implied : Table (List String)} {seen : FeatureSet} {f : String}
    (hk : f ∈ implied.keys) (hs : f ∉ seen) :
    unseen implied (seen.insert f) < unseen implied seen := by
  unfold unseen
  simp only [FeatureSet.mem_insert]
  generalize implied.keys = keys at hk
  induction keys with
  | nil => simp at hk
  | cons k rest ih =>
    have hle : rest.countP (fun x => ¬(x = f ∨ x ∈ seen)) ≤ rest.countP (· ∉ seen) :=
      List.countP_mono_left fun x _ h => by
        simp only [not_or, decide_eq_true_eq] at h ⊢
        exact h.2
    rw [List.countP_cons, List.countP_cons]
    by_cases hkf : k = f
    · subst hkf
      simp only [true_or, not_true_eq_false, decide_false, hs, not_false_eq_true, decide_true,
        Bool.false_eq_true, ↓reduceIte]
      omega
    · have hlt := ih (List.mem_of_ne_of_mem (fun e => hkf e.symm) hk)
      by_cases hks : k ∈ seen
      · simp only [hks, or_true, not_true_eq_false, decide_false, Bool.false_eq_true, ↓reduceIte]
        omega
      · simp only [hkf, hks, or_self, not_false_eq_true, decide_true, ↓reduceIte]
        omega

/-- Visit the flags on the stack, pushing what each new one implies, the last
implied flag on top. An unknown flag stops the visit. -/
def closeOver (implied : Table (List String)) (seen : FeatureSet) :
    List String → Except UnknownFeature FeatureSet
  | [] => .ok seen
  | f :: rest =>
      if f ∈ seen then closeOver implied seen rest
      else
        match _h : implied.get? f with
        | none => .error ⟨f⟩
        | some fs => closeOver implied (seen.insert f) (fs.reverse ++ rest)
termination_by todo => (unseen implied seen, todo.length)
decreasing_by
  · exact Prod.Lex.right _ (by simp)
  · exact Prod.Lex.left _ _ (unseen_insert_lt ((implied.mem_keys_iff f).mpr ⟨fs, _h⟩) (by assumption))

/-- The closure of a list of flags, or the unknown flag that is met first. -/
def expand (flags : List String) : Except UnknownFeature FeatureSet :=
  closeOver implications .empty flags.reverse

end CortexFlags
