import CortexFlags.Logging.Hub
import Mathlib.Data.List.Basic

/-! Which loggers hang below another, and what a hub remembers of its loggers.

* `Loggers.eq_or_prefix_of_isWithin`: names below a logger start with its name and a dot;
* `Loggers.isWithin_iff`: where no two dots come in a row, all names that start so are below it;
* `Hub.answer?_heard`: what a logger did, it remembers. -/

namespace CortexFlags

namespace Loggers

variable {known : List String} {top name : String}

/-! ## Names -/

/-- A name above another is known, and comes before one of its dots. -/
theorem mem_above {passing : Bool} {cs : List Char} (h : name ∈ above known passing cs) :
    name ∈ known ∧ ('.' :: name.toList.reverse) <:+ cs := by
  induction cs generalizing passing with
  | nil => cases passing <;> cases h
  | cons c rest ih =>
    have hlater : ∀ {passing : Bool}, name ∈ above known passing rest →
        name ∈ known ∧ ('.' :: name.toList.reverse) <:+ c :: rest := fun h =>
      ⟨(ih h).1, (ih h).2.trans (List.suffix_cons ..)⟩
    cases passing with
    | true => exact hlater h
    | false =>
      rw [above] at h
      split at h
      · rename_i hdot
        obtain rfl : c = '.' := by simpa using (Bool.and_eq_true ..).mp hdot |>.1
        split at h
        · rename_i hknown
          rcases List.mem_cons.mp h with rfl | h
          · rw [String.toList_ofList, List.reverse_reverse]
            exact ⟨List.contains_iff_mem.mp hknown, List.suffix_refl _⟩
          · exact hlater h
        · exact hlater h
      · exact hlater h

theorem isWithin_iff_mem : isWithin known top name ↔
    name = top ∨ top ∈ above known false name.toList.reverse := by
  simp [isWithin]

@[simp] theorem isWithin_self (known : List String) (top : String) : isWithin known top top := by
  simp [isWithin]

/-- A logger below another has its name, a dot, and more. -/
theorem eq_or_prefix_of_isWithin (h : isWithin known top name) :
    name = top ∨ (top ++ ".").toList <+: name.toList := by
  refine (isWithin_iff_mem.mp h).imp_right fun habove => ?_
  have hsuffix := List.reverse_prefix.mpr (mem_above habove).2
  rw [List.reverse_cons, List.reverse_reverse, List.reverse_reverse] at hsuffix
  rwa [String.toList_append]

/-- The scan of a name without two dots in a row finds each known name before a dot: the character
that it passes over after a dot is none. -/
theorem mem_above_append {passing : Bool} {more : List Char} (hknown : top ∈ known)
    (htop : top ≠ "")
    (hsingle : ¬ ['.', '.'] <:+: (if passing then ['.'] else []) ++ more ++ ['.']) :
    top ∈ above known passing (more ++ '.' :: top.toList.reverse) := by
  induction more generalizing passing with
  | nil =>
    cases passing with
    | true => exact absurd (List.infix_refl _) hsingle
    | false => simp [above, htop, hknown]
  | cons c more ih =>
    have hsuffix : more ++ ['.'] <:+ (if passing then ['.'] else []) ++ c :: more ++ ['.'] :=
      ⟨(if passing then ['.'] else []) ++ [c], by simp⟩
    have hrest : ¬ ['.', '.'] <:+: more ++ ['.'] := fun h => hsingle (h.trans hsuffix.isInfix)
    have hlater : top ∈ above known false (more ++ '.' :: top.toList.reverse) := ih hrest
    cases passing with
    | true => exact hlater
    | false =>
      rw [List.cons_append, above]
      split
      · rename_i hdot
        obtain rfl : c = '.' := by simpa using (Bool.and_eq_true ..).mp hdot |>.1
        split
        · exact List.mem_cons_of_mem _ hlater
        · exact ih hsingle
      · exact hlater

/-- **Below a logger** that is there are the names that start with its own and a dot, if no two
dots come in a row. -/
theorem isWithin_iff (hknown : top ∈ known) (htop : top ≠ "")
    (hsingle : ¬ ['.', '.'] <:+: name.toList) :
    isWithin known top name ↔ name = top ∨ (top ++ ".").toList <+: name.toList := by
  refine ⟨eq_or_prefix_of_isWithin, fun h => isWithin_iff_mem.mpr (h.imp_right ?_)⟩
  rintro ⟨more, hmore⟩
  have hreverse : name.toList.reverse = more.reverse ++ '.' :: top.toList.reverse := by
    rw [← hmore]
    simp
  rw [hreverse]
  refine mem_above_append hknown htop fun hdouble => hsingle ?_
  have hforward : ['.', '.'] <:+: '.' :: more := by
    simpa using List.reverse_infix.mpr hdouble
  rw [← hmore, String.toList_append, List.append_assoc]
  exact hforward.trans (List.suffix_append ..).isInfix

example : isWithin initial.known Event.debugName "armtarget.debug.x.y" := by decide +kernel

/-- Of two dots the first is passed over. -/
example : isWithin initial.known Event.debugName "armtarget.debug..x" = false := by decide +kernel

end Loggers

/-! ## What a hub remembers -/

namespace Hub

variable {hub : Hub} {e : Event}

theorem answer?_heard (hub : Hub) (e asked : Event) :
    (hub.heard e).loggers.answer? asked =
      if asked.question = e.question then some (hub.passes e) else hub.loggers.answer? asked := by
  show List.lookup asked.question ((e.question, hub.passes e) :: hub.loggers.answers) = _
  rw [List.lookup_cons]
  by_cases hsame : asked.question = e.question
  · rw [if_pos hsame, hsame, beq_self_eq_true]
  · rw [if_neg hsame, beq_eq_false_iff_ne.mpr hsame]
    rfl

theorem passes_of_answer {answer : Bool} (h : hub.loggers.answer? e = some answer) :
    hub.passes e = answer := by
  rw [passes, h, Option.getD_some]

theorem passes_of_none (h : hub.loggers.answer? e = none) : hub.passes e = hub.admits e := by
  rw [passes, h, Option.getD_none]

/-- A logger decides by its name and the level. -/
theorem passes_congr {e e' : Event} (h : e.question = e'.question) :
    hub.passes e = hub.passes e' := by
  obtain ⟨logger, level, message⟩ := e
  obtain ⟨logger', level', message'⟩ := e'
  cases h
  rfl

end Hub

end CortexFlags
