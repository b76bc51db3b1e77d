/-! Sets of feature flags, kept in code point order without repetition, so that
two sets with the same members are equal (`FeatureSet.ext`) and a set is printed
in one way only. -/

namespace CortexFlags

/-- Insert a flag into a sorted list. -/
def insertSorted (flag : String) : List String → List String
  | [] => [flag]
  | g :: rest =>
      if flag < g then flag :: g :: rest
      else if flag = g then g :: rest
      else g :: insertSorted flag rest

theorem mem_insertSorted (flag f : String) (flags : List String) :
    f ∈ insertSorted flag flags ↔ f = flag ∨ f ∈ flags := by
  induction flags with
  | nil => simp [insertSorted]
  | cons g rest ih =>
    rw [insertSorted]
    split
    · simp
    · split
      · rename_i h; subst h; simp
      · simp only [List.mem_cons, ih]
        constructor
        · rintro (h | h | h) <;> simp [h]
        · rintro (h | h | h) <;> simp [h]

theorem pairwise_insertSorted (flag : String) {flags : List String}
    (h : flags.Pairwise (· < ·)) : (insertSorted flag flags).Pairwise (· < ·) := by
  induction flags with
  | nil => simp [insertSorted]
  | cons g rest ih =>
    obtain ⟨hg, hrest⟩ := List.pairwise_cons.mp h
    rw [insertSorted]
    split
    · rename_i hlt
      refine List.pairwise_cons.mpr ⟨?_, h⟩
      intro x hx
      rcases List.mem_cons.mp hx with rfl | hx
      · exact hlt
      · exact String.lt_trans hlt (hg x hx)
    · split
      · exact h
      · rename_i hnlt hne
        refine List.pairwise_cons.mpr ⟨?_, ih hrest⟩
        intro x hx
        rcases (mem_insertSorted flag x rest).mp hx with rfl | hx
        · rcases Std.lt_trichotomy x g with hlt | heq | hgt
          · exact absurd hlt hnlt
          · exact absurd heq hne
          · exact hgt
        · exact hg x hx

/-- A set of feature flags. -/
structure FeatureSet where
  toList : List String
  sorted : toList.Pairwise (· < ·)
deriving DecidableEq

namespace FeatureSet

instance : Membership String FeatureSet := ⟨fun s f => f ∈ s.toList⟩

instance (f : String) (s : FeatureSet) : Decidable (f ∈ s) :=
  inferInstanceAs (Decidable (f ∈ s.toList))

def empty : FeatureSet := ⟨[], List.Pairwise.nil⟩

def insert (s : FeatureSet) (flag : String) : FeatureSet :=
  ⟨insertSorted flag s.toList, pairwise_insertSorted flag s.sorted⟩

def ofList (flags : List String) : FeatureSet := flags.foldl insert empty

@[simp] theorem not_mem_empty (f : String) : f ∉ empty := List.not_mem_nil

@[simp] theorem mem_insert {s : FeatureSet} {flag f : String} :
    f ∈ s.insert flag ↔ f = flag ∨ f ∈ s :=
  mem_insertSorted flag f s.toList

private theorem mem_foldl_insert (f : String) (flags : List String) (s : FeatureSet) :
    f ∈ flags.foldl insert s ↔ f ∈ s ∨ f ∈ flags := by
  induction flags generalizing s with
  | nil => simp
  | cons g rest ih =>
    simp only [List.foldl_cons, ih, mem_insert, List.mem_cons]
    constructor
    · rintro ((h | h) | h) <;> simp [h]
    · rintro (h | h | h) <;> simp [h]

@[simp] theorem mem_ofList {flags : List String} {f : String} :
    f ∈ ofList flags ↔ f ∈ flags := by
  simp [ofList, mem_foldl_insert]

private theorem eq_of_sorted {a b : List String} (ha : a.Pairwise (· < ·))
    (hb : b.Pairwise (· < ·)) (h : ∀ f, f ∈ a ↔ f ∈ b) : a = b := by
  induction a generalizing b with
  | nil =>
    cases b with
    | nil => rfl
    | cons g rest => exact absurd ((h g).mpr (by simp)) (by simp)
  | cons f as ih =>
    cases b with
    | nil => exact absurd ((h f).mp (by simp)) (by simp)
    | cons g bs =>
      obtain ⟨hf, has⟩ := List.pairwise_cons.mp ha
      obtain ⟨hg, hbs⟩ := List.pairwise_cons.mp hb
      have hfg : f = g := by
        rcases List.mem_cons.mp ((h f).mp (by simp)) with e | hfb
        · exact e
        · rcases List.mem_cons.mp ((h g).mpr (by simp)) with e | hga
          · exact e.symm
          · exact absurd (String.lt_trans (hg f hfb) (hf g hga)) (String.lt_irrefl g)
      subst hfg
      congr 1
      refine ih has hbs fun x => ?_
      constructor
      · intro hx
        rcases List.mem_cons.mp ((h x).mp (List.mem_cons_of_mem _ hx)) with e | hx'
        · exact absurd (e ▸ hf x hx) (String.lt_irrefl _)
        · exact hx'
      · intro hx
        rcases List.mem_cons.mp ((h x).mpr (List.mem_cons_of_mem _ hx)) with e | hx'
        · exact absurd (e ▸ hg x hx) (String.lt_irrefl _)
        · exact hx'

/-- Sets with the same members are equal. -/
@[ext] theorem ext {s t : FeatureSet} (h : ∀ f, f ∈ s ↔ f ∈ t) : s = t := by
  obtain ⟨a, ha⟩ := s
  obtain ⟨b, hb⟩ := t
  have : a = b := eq_of_sorted ha hb h
  subst this
  rfl

end FeatureSet

end CortexFlags
