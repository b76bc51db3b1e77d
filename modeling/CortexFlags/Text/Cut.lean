/-! Cutting a text at a separator and gluing the pieces back. `glue_cut` says
that nothing is lost, `cut_glue` that pieces without the separator come back, and
`cut_eq_iff` that there is no other way to cut. -/

namespace CortexFlags.Text

/-! ## Characters -/

/-- The first piece and the pieces after it. -/
def cutChars (sep : Char) : List Char → List Char × List (List Char)
  | [] => ([], [])
  | c :: rest =>
      let (first, more) := cutChars sep rest
      if c = sep then ([], first :: more) else (c :: first, more)

def glueChars (sep : Char) (first : List Char) : List (List Char) → List Char
  | [] => first
  | piece :: more => first ++ sep :: glueChars sep piece more

theorem glueChars_cutChars (sep : Char) (cs : List Char) :
    glueChars sep (cutChars sep cs).1 (cutChars sep cs).2 = cs := by
  induction cs with
  | nil => rfl
  | cons c rest ih =>
    by_cases h : c = sep
    · simp [cutChars, h, glueChars, ih]
    · simp only [cutChars, h, ↓reduceIte]
      cases hm : (cutChars sep rest).2 with
      | nil => rw [hm] at ih; simpa [glueChars] using ih
      | cons piece more => rw [hm] at ih; simpa [glueChars] using ih

theorem cutChars_of_not_mem {sep : Char} {cs : List Char} (h : sep ∉ cs) :
    cutChars sep cs = (cs, []) := by
  induction cs with
  | nil => rfl
  | cons c rest ih =>
    obtain ⟨hc, hr⟩ := not_or.mp (fun hm => h (List.mem_cons.mpr hm))
    have hc' : ¬ c = sep := fun e => hc e.symm
    simp [cutChars, ih hr, hc']

theorem cutChars_append {sep : Char} {cs : List Char} (h : sep ∉ cs) (rest : List Char) :
    cutChars sep (cs ++ sep :: rest) =
      (cs, (cutChars sep rest).1 :: (cutChars sep rest).2) := by
  induction cs with
  | nil => simp [cutChars]
  | cons c cs ih =>
    obtain ⟨hc, hr⟩ := not_or.mp (fun hm => h (List.mem_cons.mpr hm))
    have hc' : ¬ c = sep := fun e => hc e.symm
    simp [cutChars, ih hr, hc']

theorem cutChars_glueChars {sep : Char} {first : List Char} {more : List (List Char)}
    (hf : sep ∉ first) (hm : ∀ piece ∈ more, sep ∉ piece) :
    cutChars sep (glueChars sep first more) = (first, more) := by
  induction more generalizing first with
  | nil => exact cutChars_of_not_mem hf
  | cons piece more ih =>
    rw [glueChars, cutChars_append hf, ih (hm piece (by simp)) fun p hp => hm p (by simp [hp])]

theorem not_mem_cutChars (sep : Char) (cs : List Char) :
    sep ∉ (cutChars sep cs).1 ∧ ∀ piece ∈ (cutChars sep cs).2, sep ∉ piece := by
  induction cs with
  | nil => simp [cutChars]
  | cons c rest ih =>
    by_cases h : c = sep
    · simp only [cutChars, h, ↓reduceIte]
      refine ⟨by simp, fun piece hp => ?_⟩
      rcases List.mem_cons.mp hp with rfl | hp
      · exact ih.1
      · exact ih.2 piece hp
    · have h' : ¬ sep = c := fun e => h e.symm
      simp only [cutChars, h, ↓reduceIte]
      exact ⟨by simp [h', ih.1], ih.2⟩

theorem length_cutChars (sep : Char) (cs : List Char) :
    (cutChars sep cs).2.length = cs.count sep := by
  induction cs with
  | nil => rfl
  | cons c rest ih =>
    by_cases h : c = sep
    · subst h
      simp [cutChars, ih]
    · simp [cutChars, h, ih]

/-! ## Texts -/

/-- Cut a text at every separator, into a first piece and those after it. -/
def cut (sep : Char) (s : String) : String × List String :=
  let (first, more) := cutChars sep s.toList
  (String.ofList first, more.map String.ofList)

/-- Put the pieces back together with the separator between them. -/
def glue (sep : Char) (first : String) (more : List String) : String :=
  String.ofList (glueChars sep first.toList (more.map String.toList))

theorem glue_cut (sep : Char) (s : String) : glue sep (cut sep s).1 (cut sep s).2 = s := by
  have hid : (String.toList ∘ String.ofList) = id := by funext cs; simp
  simp [glue, cut, glueChars_cutChars, hid]

theorem cut_glue {sep : Char} {first : String} {more : List String}
    (hf : sep ∉ first.toList) (hm : ∀ piece ∈ more, sep ∉ piece.toList) :
    cut sep (glue sep first more) = (first, more) := by
  have hid : (String.ofList ∘ String.toList) = id := by funext s; simp
  have hm' : ∀ piece ∈ more.map String.toList, sep ∉ piece := by
    intro piece hp
    obtain ⟨s, hs, rfl⟩ := List.mem_map.mp hp
    exact hm s hs
  simp [glue, cut, cutChars_glueChars hf hm', hid]

theorem not_mem_cut (sep : Char) (s : String) :
    sep ∉ (cut sep s).1.toList ∧ ∀ piece ∈ (cut sep s).2, sep ∉ piece.toList := by
  obtain ⟨hfirst, hmore⟩ := not_mem_cutChars sep s.toList
  refine ⟨by simpa [cut] using hfirst, fun piece hp => ?_⟩
  obtain ⟨cs, hcs, rfl⟩ := List.mem_map.mp hp
  simpa using hmore cs hcs

/-- **A cut is the only way** to write a text as pieces without the separator. -/
theorem cut_eq_iff {sep : Char} {s first : String} {more : List String} :
    cut sep s = (first, more) ↔
      glue sep first more = s ∧ sep ∉ first.toList ∧ ∀ piece ∈ more, sep ∉ piece.toList := by
  constructor
  · intro h
    have hglue := glue_cut sep s
    have hplain := not_mem_cut sep s
    rw [h] at hglue hplain
    exact ⟨hglue, hplain⟩
  · rintro ⟨rfl, hfirst, hmore⟩
    exact cut_glue hfirst hmore

/-- There is a piece more than there are separators. -/
theorem length_cut (sep : Char) (s : String) : (cut sep s).2.length = s.toList.count sep := by
  rw [← length_cutChars]
  simp [cut]

/-- All the pieces of a text. -/
def pieces (sep : Char) (s : String) : List String :=
  (cut sep s).1 :: (cut sep s).2

end CortexFlags.Text
