import CortexFlags.Text.Percent
import Mathlib.Data.List.Basic

/-! What a format shows, told apart from how it is filled in.

* `Directive.Sets`, `sets_iff`: a text in the columns of a directive;
* `Fills`, `exists_fills_iff`: the parts of a text that stand for the pieces of a format;
* `Fills.value_isIn`: a text that is shown in full stands in the whole;
* `isSome_formatNamed`: formats that show known texts can always be filled in. -/

namespace CortexFlags.Text.Percent

/-! ## Texts in columns -/

/-- As many of the first characters of a text as a directive takes, and blanks on one side for the
columns that are left. -/
inductive Directive.Sets (d : Directive) (s : String) : String → Prop
  | inColumns {shown blanks : String} : (d.places? = none → shown = s) →
      (∀ n, d.places? = some n → shown.toList = s.toList.take n) →
      blanks.toList = List.replicate (d.columns - shown.length) ' ' →
      Sets d s (if d.alignLeft then shown ++ blanks else blanks ++ shown)

/-- What stands for a value: texts are shown as they are, other conversions render the value. -/
inductive Directive.Shows (d : Directive) : Value → String → Prop
  | asText {s part : String} : d.conversion = 's' → d.Sets s part → Shows d (.text s) part
  | rendered {v : Value} {part : String} : (∀ s, v = .text s → d.conversion ≠ 's') →
      d.render v = some part → Shows d v part

variable {d : Directive} {s part : String} {v : Value}

theorem sets_showText (d : Directive) (s : String) : d.Sets s (d.showText s) := by
  unfold Directive.showText Directive.align padRight padLeft spaces
  apply Directive.Sets.inColumns
  · intro h
    rw [h]
  · intro n h
    rw [h, String.toList_ofList]
  · rw [String.toList_ofList]

theorem Directive.Sets.eq_showText (h : d.Sets s part) : part = d.showText s := by
  obtain ⟨hfull, hcut, hblanks⟩ := h
  rename_i shown blanks
  have hspaces : blanks = spaces (d.columns - shown.length) := by
    rw [spaces, ← hblanks, String.ofList_toList]
  unfold Directive.showText Directive.align padRight padLeft
  cases hplaces : d.places? with
  | none => rw [hspaces, hfull hplaces]
  | some n =>
    have hshown : String.ofList (s.toList.take n) = shown := by
      rw [← hcut n hplaces, String.ofList_toList]
    dsimp only
    rw [hspaces, hshown]

theorem sets_iff : d.Sets s part ↔ part = d.showText s :=
  ⟨Directive.Sets.eq_showText, fun h => h ▸ sets_showText d s⟩

theorem renderText_of_text (h : d.conversion = 's') (s : String) :
    d.renderText s = some (d.showText s) := by
  simp only [Directive.renderText, h]

/-- The relation says what `render` does. -/
theorem shows_iff : d.Shows v part ↔ d.render v = some part := by
  constructor
  · rintro (⟨hconversion, hsets⟩ | ⟨-, hrender⟩)
    · rw [Directive.render, renderText_of_text hconversion, sets_iff.mp hsets]
    · exact hrender
  · intro hrender
    by_cases htext : ∃ s, v = .text s ∧ d.conversion = 's'
    · obtain ⟨s, rfl, hconversion⟩ := htext
      rw [Directive.render, renderText_of_text hconversion, Option.some_inj] at hrender
      exact .asText hconversion (sets_iff.mpr hrender.symm)
    · exact .rendered (fun s hv hconversion => htext ⟨s, hv, hconversion⟩) hrender

/-! ## The parts of a text -/

/-- The parts that stand for the pieces of a format. A directive takes the value of its name, or
one of those that are left, and none is left after it. -/
inductive Fills (value? : String → Option Value) :
    (left : List Value) → List Piece → List String → Prop
  | nil {left : List Value} : Fills value? left [] []
  | literal {left : List Value} {c : Char} {pieces : List Piece} {parts : List String} :
      Fills value? left pieces parts →
      Fills value? left (.literal c :: pieces) (String.ofList [c] :: parts)
  | directive {left values more : List Value} {d settled : Directive} {v : Value} {part : String}
      {pieces : List Piece} {parts : List String} :
      d.available? value? left = some values → d.settle? values = some (settled, v :: more) →
      settled.Shows v part → Fills value? more pieces parts →
      Fills value? left (.directive d :: pieces) (part :: parts)

variable {value? : String → Option Value} {left : List Value} {pieces : List Piece}
  {parts : List String} {text : String}

theorem Fills.fillNamed_eq (h : Fills value? left pieces parts) :
    fillNamed value? left pieces = some (String.join parts) := by
  induction h with
  | nil => rfl
  | literal _ ih =>
    simp only [fillNamed, ih, Option.bind_eq_bind, Option.bind_some, Option.pure_def,
      String.join_cons]
  | directive havailable hsettle hshows _ ih =>
    simp only [fillNamed, havailable, hsettle, shows_iff.mp hshows, ih, Option.bind_eq_bind,
      Option.bind_some, Option.pure_def, String.join_cons]

theorem exists_fills_of_fillNamed (h : fillNamed value? left pieces = some text) :
    ∃ parts, Fills value? left pieces parts ∧ text = String.join parts := by
  induction pieces generalizing left text with
  | nil =>
    cases h
    exact ⟨[], .nil, rfl⟩
  | cons piece pieces ih =>
    cases piece with
    | literal c =>
      simp only [fillNamed, Option.bind_eq_bind, Option.pure_def, Option.bind_eq_some_iff,
        Option.some_inj] at h
      obtain ⟨rest, hrest, rfl⟩ := h
      obtain ⟨parts, hfills, rfl⟩ := ih hrest
      exact ⟨_, .literal hfills, (String.join_cons ..).symm⟩
    | directive d =>
      simp only [fillNamed, Option.bind_eq_bind, Option.pure_def, Option.bind_eq_some_iff] at h
      obtain ⟨values, havailable, ⟨settled, found⟩, hsettle, h⟩ := h
      cases found with
      | nil => cases h
      | cons v more =>
        simp only [Option.bind_eq_some_iff, Option.some_inj] at h
        obtain ⟨shown, hrender, rest, hrest, rfl⟩ := h
        obtain ⟨parts, hfills, rfl⟩ := ih hrest
        exact ⟨_, .directive havailable hsettle (shows_iff.mpr hrender) hfills,
          (String.join_cons ..).symm⟩

theorem exists_fills_iff :
    (∃ parts, Fills value? left pieces parts ∧ text = String.join parts) ↔
      fillNamed value? left pieces = some text := by
  constructor
  · rintro ⟨parts, hfills, rfl⟩
    exact hfills.fillNamed_eq
  · exact exists_fills_of_fillNamed

/-! ## Texts that are shown in full -/

theorem Directive.Sets.isIn (h : d.Sets s part) (hfull : d.places? = none) :
    s.toList <:+: part.toList := by
  obtain ⟨hshown, -, -⟩ := h
  obtain rfl := hshown hfull
  cases d.alignLeft with
  | true => exact ⟨[], _, by simp; rfl⟩
  | false => exact ⟨_, [], by simp; rfl⟩

/-- Without a star and a precision a directive is settled as it stands. -/
theorem settle?_text {settled : Directive} {values : List Value} (hfull : d.precision = none)
    (h : d.settle? [.text s] = some (settled, values)) :
    settled = d ∧ values = [.text s] := by
  unfold Directive.settle? Directive.settleWidth? at h
  cases hwidth : d.width with
  | star =>
    rw [hwidth] at h
    cases h
  | given n =>
    simp only [hwidth, Option.bind_eq_bind] at h
    split at h
    · simp only [Option.bind_some, Directive.settlePrecision?, hfull, Option.some_inj,
        Prod.mk.injEq] at h
      exact ⟨h.1.symm, h.2.symm⟩
    · cases h

/-- **Shown in full**: a text that a directive shows without a precision stands in the whole. -/
theorem Fills.value_isIn {name : String} (h : Fills value? left pieces parts)
    (hmem : .directive d ∈ pieces) (hkey : d.key = some name)
    (hvalue : value? name = some (.text s)) (hconversion : d.conversion = 's')
    (hfull : d.precision = none) :
    s.toList <:+: (String.join parts).toList := by
  induction h with
  | nil => cases hmem
  | literal _ ih =>
    rw [String.join_cons, String.toList_append]
    exact (ih (by simpa using hmem)).trans (List.suffix_append ..).isInfix
  | directive havailable hsettle hshows _ ih =>
    rw [String.join_cons, String.toList_append]
    rcases List.mem_cons.mp hmem with heq | hmem
    · cases heq
      rw [Directive.available?, hkey] at havailable
      simp only [hvalue, Option.map_some, Option.some_inj] at havailable
      subst havailable
      obtain ⟨hsame, hvalues⟩ := settle?_text hfull hsettle
      rw [hsame] at hshows
      cases hvalues
      obtain ⟨-, hsets⟩ | ⟨hother, -⟩ := hshows
      · have hplaces : d.places? = none := by rw [Directive.places?, hfull]; rfl
        exact (hsets.isIn hplaces).trans (List.prefix_append ..).isInfix
      · exact absurd hconversion (hother _ rfl)
    · exact (ih hmem).trans (List.suffix_append ..).isInfix

/-! ## Formats that can always be filled in -/

def Size.isGiven : Size → Bool
  | given n => decide (n ≤ maxSize)
  | star => false

/-- A literal, or a directive without stars that shows one of some named values. -/
def Piece.shows (names : List String) : Piece → Bool
  | .literal _ => true
  | .directive d => d.width.isGiven && d.precision.all Size.isGiven &&
      decide (d.conversion = 's') && d.key.any names.contains

/-- A format of literals and such directives. -/
def shows (names : List String) (format : String) : Bool :=
  (pieces? format).any (·.all (·.shows names))

theorem settle?_of_isGiven (hwidth : d.width.isGiven) (hprecision : d.precision.all Size.isGiven)
    (values : List Value) : d.settle? values = some (d, values) := by
  obtain ⟨key, alignLeft, zeros, plus, blank, alternate, width, precision, conversion⟩ := d
  cases width with
  | star => cases hwidth
  | given n =>
    have hn : n ≤ maxSize := of_decide_eq_true hwidth
    cases precision with
    | none => simp [Directive.settle?, Directive.settleWidth?, Directive.settlePrecision?, hn]
    | some size =>
      cases size with
      | star => cases hprecision
      | given m =>
        have hm : m ≤ maxSize := of_decide_eq_true hprecision
        simp [Directive.settle?, Directive.settleWidth?, Directive.settlePrecision?, hn, hm]

theorem isSome_fillNamed {names : List String} (hknown : ∀ name ∈ names, ∃ s,
    value? name = some (.text s)) (h : pieces.all (·.shows names)) (left : List Value) :
    (fillNamed value? left pieces).isSome := by
  induction pieces generalizing left with
  | nil => rfl
  | cons piece pieces ih =>
    rw [List.all_cons, Bool.and_eq_true] at h
    cases piece with
    | literal c =>
      obtain ⟨rest, hrest⟩ := Option.isSome_iff_exists.mp (ih h.2 left)
      simp only [fillNamed, hrest, Option.bind_eq_bind, Option.bind_some, Option.pure_def,
        Option.isSome_some]
    | directive d =>
      obtain ⟨⟨⟨hwidth, hprecision⟩, hconversion⟩, hkey⟩ : ((d.width.isGiven ∧
          d.precision.all Size.isGiven) ∧ d.conversion = 's') ∧ d.key.any names.contains := by
        simpa [Piece.shows] using h.1
      obtain ⟨name, hname, hmem⟩ := (Option.any_eq_true ..).mp hkey
      obtain ⟨s, hs⟩ := hknown name (List.contains_iff_mem.mp hmem)
      have havailable : d.available? value? left = some [.text s] := by
        simp [Directive.available?, hname, hs]
      obtain ⟨rest, hrest⟩ := Option.isSome_iff_exists.mp (ih h.2 [])
      simp only [fillNamed, havailable, settle?_of_isGiven hwidth hprecision, Directive.render,
        renderText_of_text hconversion, hrest, Option.bind_eq_bind, Option.bind_some,
        Option.pure_def, Option.isSome_some]

theorem isSome_formatNamed {names : List String} {whole : Option Value} {format : String}
    (hknown : ∀ name ∈ names, ∃ s, value? name = some (.text s)) (h : shows names format) :
    (formatNamed value? whole format).isSome := by
  obtain ⟨pieces, hpieces, hall⟩ := (Option.any_eq_true ..).mp h
  rw [formatNamed, hpieces]
  exact isSome_fillNamed hknown hall _

end CortexFlags.Text.Percent
