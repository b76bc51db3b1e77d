import CortexFlags.Files
import Mathlib.Data.List.Basic

/-! What opening a file and adding text to it do to the files that are there. No text is ever
lost: `Opened.lookup_eq` and `lookup_append` say what is at a place afterwards. -/

namespace CortexFlags.Files

variable {files files' : Files} {path : String} {place : Place}

/-- What opening a place makes of the files: there is one more if none was at the place. -/
inductive Opened (files : Files) (place : Place) : Files → Prop
  | device : place = Place.nullDevice → Opened files place files
  | there {content : String} : files.lookup place = some content → Opened files place files
  | made : files.lookup place = none → Opened files place ((place, "") :: files)

theorem create_eq_ok (h : files.create place = .ok files') : files' = (place, "") :: files := by
  unfold create at h
  split at h
  · split at h
    · cases h
    · cases h; rfl
  all_goals cases h

/-- A place is the null device, has a file, or has none. -/
theorem look_cases (files : Files) (place : Place) :
    (place = Place.nullDevice ∧ files.look place = .nullDevice) ∨
    (∃ content, files.lookup place = some content ∧ files.look place = .file content) ∨
    (files.lookup place = none ∧
      (files.look place = .directory ∨ files.look place = .nothing)) := by
  unfold look
  by_cases hdevice : place = Place.nullDevice
  · exact .inl ⟨hdevice, if_pos hdevice⟩
  · rw [if_neg hdevice]
    cases hlookup : files.lookup place with
    | some content => exact .inr (.inl ⟨content, rfl, rfl⟩)
    | none =>
      refine .inr (.inr ⟨rfl, ?_⟩)
      dsimp only
      split
      · exact .inl rfl
      · exact .inr rfl

theorem opened_of_openToAppend (h : files.openToAppend path = .ok (files', place)) :
    Place.ofPath path = place ∧ files.Opened place files' := by
  unfold openToAppend at h
  dsimp only at h
  cases hfault : pathFault? (Place.ofPath path).path with
  | some fault => rw [hfault] at h; cases h
  | none =>
    rw [hfault] at h
    rcases files.look_cases (Place.ofPath path) with ⟨hdevice, hlook⟩ | ⟨content, hlookup, hlook⟩ |
      ⟨hlookup, hlook | hlook⟩ <;> rw [hlook] at h
    · cases h; exact ⟨rfl, .device hdevice⟩
    · cases h; exact ⟨rfl, .there hlookup⟩
    · cases h
    · cases hcreate : files.create (Place.ofPath path) with
      | error cause => rw [hcreate] at h; cases h
      | ok created =>
        rw [hcreate] at h
        cases h
        rw [create_eq_ok hcreate]
        exact ⟨rfl, .made hlookup⟩

/-- A file that is opened keeps its text, and so do the others. -/
theorem Opened.lookup_eq {other : Place} {old : String} (h : files.Opened place files')
    (hold : files.lookup other = some old) : files'.lookup other = some old := by
  cases h with
  | device => exact hold
  | there => exact hold
  | made hnew =>
    have hne : (other == place) = false := by
      by_contra heq
      rw [Bool.not_eq_false, beq_iff_eq] at heq
      rw [heq, hnew] at hold
      cases hold
    rw [List.lookup_cons, hne]
    exact hold

/-- A file that was not there has no text. -/
theorem Opened.lookup_self (h : files.Opened place files') (hplace : place ≠ Place.nullDevice) :
    files'.lookup place = some ((files.lookup place).getD "") := by
  cases h with
  | device hdevice => exact absurd hdevice hplace
  | there hlookup => rw [hlookup]; rfl
  | made hlookup => rw [hlookup, List.lookup_cons_self]; rfl

theorem lookup_append (files : Files) (place other : Place) (text : String) :
    (files.append place text).lookup other =
      (files.lookup other).map fun old => if place = other then old ++ text else old := by
  unfold append
  induction files with
  | nil => rfl
  | cons file files ih =>
    obtain ⟨found, old⟩ := file
    by_cases hother : other = found
    · subst hother
      by_cases hplace : other = place
      · subst hplace
        simp
      · have hplace' : ¬ place = other := fun h => hplace h.symm
        simp [hplace, hplace']
    · have hbeq : (other == found) = false := by simpa using hother
      by_cases hplace : found = place
      · subst hplace
        simp [List.lookup_cons, hbeq, ih]
      · simp [List.lookup_cons, hbeq, hplace, ih]

end CortexFlags.Files
