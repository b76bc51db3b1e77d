import CortexFlags.Text.Json
import Mathlib.Data.List.Basic

/-! Reading JSON objects of texts, and that what is written is read back.

* `decode`: marks, texts and blanks are told apart first, then the members are put together;
* `ofUnits_flatMap_unitsOf`: characters come back from their UTF-16 units;
* `leads_encodeChar`, `leads_encode`, `leads_members`: each part of what is written is read;
* `decode_encodeObject`: the members come back;
* `all_isPlain_encodeObject`: they are written in printable ASCII alone. -/

namespace CortexFlags.Text.Json

open Quoted (doubleQuote)

/-! ## UTF-16 -/

def unitsOf (c : Char) : List Nat :=
  if c.toNat < 0x10000 then [c.toNat]
  else [0xD800 + (c.toNat - 0x10000) / 0x400, 0xDC00 + (c.toNat - 0x10000) % 0x400]

def textUnits (s : String) : List Nat := s.toList.flatMap unitsOf

def isHigh (n : Nat) : Bool := 0xD800 ≤ n && n < 0xDC00

def isLow (n : Nat) : Bool := 0xDC00 ≤ n && n < 0xE000

/-- The characters of UTF-16 units, of which the first half of a pair may have been read. Neither
half may stand alone. -/
def ofUnits : Option Nat → List Nat → Option (List Char)
  | none, [] => some []
  | some _, [] => none
  | none, n :: rest =>
      if isHigh n then ofUnits (some n) rest
      else if isLow n then none
      else (ofUnits none rest).map (Char.ofNat n :: ·)
  | some high, n :: rest =>
      if isLow n then
        (ofUnits none rest).map
          (Char.ofNat (0x10000 + (high - 0xD800) * 0x400 + (n - 0xDC00)) :: ·)
      else none

/-! ## Reading -/

inductive Token
  | opening | closing | colon | comma
  | text (units : List Nat)
deriving DecidableEq

/-- How far a text has been read: outside of quotes, or within them, perhaps in an escape or a
unit by its number, of which the value so far and the count of digits to come after the next are
kept. -/
inductive Mode
  | outside
  | inside (units : List Nat)
  | escaped (units : List Nat)
  | numbered (units : List Nat) (value more : Nat)
deriving DecidableEq

def marks : List (Char × Token) :=
  [('\x7b', .opening), ('\x7d', .closing), (':', .colon), (',', .comma)]

def isBlank (c : Char) : Bool := c = ' ' || c = '\t' || c = '\n' || c = '\r'

/-- What a letter stands for after a backslash. -/
def escapes : List (Char × Char) :=
  [(doubleQuote, doubleQuote), ('\\', '\\'), ('/', '/'), ('b', '\x08'), ('f', '\x0c'),
    ('n', '\n'), ('r', '\r'), ('t', '\t')]

def Mode.advance : Mode → Char → Option (Mode × List Token)
  | outside, c =>
      if isBlank c then some (outside, [])
      else if c = doubleQuote then some (inside [], [])
      else (marks.lookup c).map fun token => (outside, [token])
  | inside units, c =>
      if c = doubleQuote then some (outside, [.text units])
      else if c = '\\' then some (escaped units, [])
      else if c < ' ' then none
      else some (inside (units ++ unitsOf c), [])
  | escaped units, c =>
      if c = 'u' then some (numbered units 0 3, [])
      else (escapes.lookup c).map fun c => (inside (units ++ unitsOf c), [])
  | numbered units value more, c =>
      (hexValue? c).map fun digit =>
        match more with
        | 0 => (inside (units ++ [value * 16 + digit]), [])
        | more + 1 => (numbered units (value * 16 + digit) more, [])

def Mode.read : Mode → List Char → Option (List Token)
  | outside, [] => some []
  | _, [] => none
  | mode, c :: rest =>
      match mode.advance c with
      | some (next, done) => (next.read rest).map (done ++ ·)
      | none => none

/-- The members of an object, after its opening mark. -/
def members? : List Token → Option (List (List Nat × List Nat))
  | [.text name, .colon, .text value, .closing] => some [(name, value)]
  | .text name :: .colon :: .text value :: .comma :: rest =>
      (members? rest).map ((name, value) :: ·)
  | _ => none

def object? : List Token → Option (List (List Nat × List Nat))
  | [.opening, .closing] => some []
  | .opening :: rest => members? rest
  | _ => none

def text? (units : List Nat) : Option String := (ofUnits none units).map String.ofList

def member? (member : List Nat × List Nat) : Option (String × String) := do
  return (← text? member.1, ← text? member.2)

/-- The members of an object of texts, in order. -/
def decode (s : String) : Option (List (String × String)) := do
  let tokens ← Mode.outside.read s.toList
  let members ← object? tokens
  members.mapM member?

example : decode "\x7b \"a\" : \"\\uD83D\\ude00\\/\" \x7d" = some [("a", "😀/")] := by decide +kernel
example : decode "\x7b\"a\": \"\\ud83d\"\x7d" = none := by decide +kernel
example : decode "\x7b\"a\": \"b\",\x7d" = none := by decide +kernel

/-! ## Units -/

theorem isHigh_iff {n : Nat} : isHigh n ↔ 0xD800 ≤ n ∧ n < 0xDC00 := by simp [isHigh]

theorem isLow_iff {n : Nat} : isLow n ↔ 0xDC00 ≤ n ∧ n < 0xE000 := by simp [isLow]

theorem toNat_valid (c : Char) : c.toNat < 0xD800 ∨ 0xE000 ≤ c.toNat ∧ c.toNat < 0x110000 := by
  have h : c.toNat < 0xD800 ∨ 0xDFFF < c.toNat ∧ c.toNat < 0x110000 := c.valid
  omega

theorem ofUnits_unitsOf (c : Char) (rest : List Nat) :
    ofUnits none (unitsOf c ++ rest) = (ofUnits none rest).map (c :: ·) := by
  have hvalid := toNat_valid c
  unfold unitsOf
  split
  · next hsmall =>
    have hhigh : ¬ isHigh c.toNat := by rw [isHigh_iff]; omega
    have hlow : ¬ isLow c.toNat := by rw [isLow_iff]; omega
    rw [List.singleton_append, ofUnits, if_neg hhigh, if_neg hlow, Char.ofNat_toNat]
  · next hlarge =>
    have hhigh : isHigh (0xD800 + (c.toNat - 0x10000) / 0x400) := by rw [isHigh_iff]; omega
    have hlow : isLow (0xDC00 + (c.toNat - 0x10000) % 0x400) := by rw [isLow_iff]; omega
    have hvalue : 0x10000 + (0xD800 + (c.toNat - 0x10000) / 0x400 - 0xD800) * 0x400 +
        (0xDC00 + (c.toNat - 0x10000) % 0x400 - 0xDC00) = c.toNat := by omega
    rw [List.cons_append, List.singleton_append, ofUnits, if_pos hhigh, ofUnits, if_pos hlow,
      hvalue, Char.ofNat_toNat]

theorem ofUnits_flatMap_unitsOf (cs : List Char) : ofUnits none (cs.flatMap unitsOf) = some cs := by
  induction cs with
  | nil => rfl
  | cons c cs ih => rw [List.flatMap_cons, ofUnits_unitsOf, ih]; rfl

theorem text?_textUnits (s : String) : text? (textUnits s) = some s := by
  rw [text?, textUnits, ofUnits_flatMap_unitsOf, Option.map_some, String.ofList_toList]

/-! ## What is written is read -/

/-- Some characters lead from one mode to another, and complete some tokens. -/
def Leads (mode : Mode) (cs : List Char) (next : Mode) (done : List Token) : Prop :=
  ∀ rest, mode.read (cs ++ rest) = (next.read rest).map (done ++ ·)

theorem leads_of_advance {mode next : Mode} {c : Char} {done : List Token}
    (h : mode.advance c = some (next, done)) : Leads mode [c] next done := by
  intro rest
  simp only [List.singleton_append, Mode.read, h]

theorem Leads.trans {mode next last : Mode} {cs more : List Char} {done rest : List Token}
    (h : Leads mode cs next done) (hnext : Leads next more last rest) :
    Leads mode (cs ++ more) last (done ++ rest) := by
  intro tail
  rw [List.append_assoc, h, hnext, Option.map_map]
  simp [Function.comp_def]

theorem Leads.silent {mode next last : Mode} {cs more : List Char} (h : Leads mode cs next [])
    (hnext : Leads next more last []) : Leads mode (cs ++ more) last [] := h.trans hnext

theorem leads_slash (units : List Nat) : Leads (.inside units) ['\\'] (.escaped units) [] :=
  leads_of_advance (by rfl)

theorem hexValue?_hexDigit : ∀ d < 16, hexValue? (hexDigit false d) = some d := by decide

theorem leads_digit {units : List Nat} {value more d : Nat} (hd : d < 16) :
    Leads (.numbered units value (more + 1)) [hexDigit false d]
      (.numbered units (value * 16 + d) more) [] :=
  leads_of_advance (by rw [Mode.advance, hexValue?_hexDigit d hd]; rfl)

theorem leads_lastDigit {units : List Nat} {value d : Nat} (hd : d < 16) :
    Leads (.numbered units value 0) [hexDigit false d] (.inside (units ++ [value * 16 + d])) [] :=
  leads_of_advance (by rw [Mode.advance, hexValue?_hexDigit d hd]; rfl)

theorem leads_unit {n : Nat} (hn : n < 0x10000) (units : List Nat) :
    Leads (.inside units) (unit n) (.inside (units ++ [n])) [] := by
  have hmark : Leads (.escaped units) ['u'] (.numbered units 0 3) [] := leads_of_advance (by rfl)
  have hdigit : ∀ (value more m : Nat), Leads (.numbered units value (more + 1))
      [hexDigit false (m % 16)] (.numbered units (value * 16 + m % 16) more) [] :=
    fun _ _ m => leads_digit (Nat.mod_lt m (by decide))
  have hthree := ((hdigit 0 2 (n / 16 / 16 / 16)).silent (hdigit _ 1 (n / 16 / 16))).silent
    (hdigit _ 0 (n / 16))
  have hfour := hthree.silent (leads_lastDigit (Nat.mod_lt n (by decide : 16 > 0)))
  have hvalue : (((0 * 16 + n / 16 / 16 / 16 % 16) * 16 + n / 16 / 16 % 16) * 16 +
      n / 16 % 16) * 16 + n % 16 = n := by omega
  rw [hvalue] at hfour
  rw [unit, hex, String.toList_ofList]
  exact ((leads_slash units).silent hmark).silent hfour

/-! ## Characters -/

theorem mem_letters_of_lookup {c letter : Char} (h : letters.lookup c = some letter) :
    (c, letter) ∈ letters := by
  obtain ⟨before, after, hsplit, -⟩ := List.lookup_eq_some_iff.mp h
  rw [hsplit]
  exact List.mem_append_right _ List.mem_cons_self

theorem leads_encodeChar (units : List Nat) (c : Char) :
    Leads (.inside units) (encodeChar c) (.inside (units ++ unitsOf c)) [] := by
  unfold encodeChar
  cases hletter : letters.lookup c with
  | some letter =>
    have hescape : ∀ entry ∈ letters, entry.2 ≠ 'u' ∧ escapes.lookup entry.2 = some entry.1 := by
      decide
    obtain ⟨hmark, hlookup⟩ := hescape _ (mem_letters_of_lookup hletter)
    have hread : Leads (.escaped units) [letter] (.inside (units ++ unitsOf c)) [] :=
      leads_of_advance (by rw [Mode.advance, if_neg hmark, hlookup]; rfl)
    exact (leads_slash units).silent hread
  | none =>
    dsimp only
    split
    · next hplain =>
      -- what would end the text or start an escape has a letter
      have hother : c ≠ doubleQuote ∧ c ≠ '\\' := by
        constructor
        · rintro rfl
          cases hletter
        · rintro rfl
          cases hletter
      have hblank : ¬ c < ' ' := by
        simp only [isPlain, Bool.and_eq_true, decide_eq_true_eq] at hplain
        exact Char.not_lt.mpr hplain.1
      exact leads_of_advance (by rw [Mode.advance, if_neg hother.1, if_neg hother.2, if_neg hblank])
    · split
      · next hsmall =>
        rw [unitsOf, if_pos hsmall]
        exact leads_unit hsmall units
      · next hlarge =>
        have hvalid := toNat_valid c
        rw [unitsOf, if_neg hlarge]
        have hpair := (leads_unit (n := 0xD800 + (c.toNat - 0x10000) / 0x400) (by omega) units).silent
          (leads_unit (n := 0xDC00 + (c.toNat - 0x10000) % 0x400) (by omega) _)
        rwa [List.append_assoc] at hpair

theorem leads_chars (units : List Nat) (cs : List Char) :
    Leads (.inside units) (cs.flatMap encodeChar) (.inside (units ++ cs.flatMap unitsOf)) [] := by
  induction cs generalizing units with
  | nil => intro rest; simp
  | cons c cs ih =>
    have hall := (leads_encodeChar units c).silent (ih (units ++ unitsOf c))
    rwa [List.append_assoc] at hall

/-- A text between quotes is one token. -/
theorem leads_encode (s : String) :
    Leads .outside (encode s).toList .outside [.text (textUnits s)] := by
  have hopening : Leads .outside [doubleQuote] (.inside []) [] := leads_of_advance (by rfl)
  have hclosing : ∀ units, Leads (.inside units) [doubleQuote] .outside [.text units] :=
    fun units => leads_of_advance (by rfl)
  have hall := (hopening.silent (leads_chars [] s.toList)).trans (hclosing _)
  rw [encode, String.toList_ofList]
  exact hall

/-! ## Objects -/

def encodeMember (member : String × String) : String := encode member.1 ++ ": " ++ encode member.2

/-- The tokens of members and of the closing mark. -/
def memberTokens : List (String × String) → List Token
  | [] => [.closing]
  | [member] => [.text (textUnits member.1), .colon, .text (textUnits member.2), .closing]
  | member :: more =>
      .text (textUnits member.1) :: .colon :: .text (textUnits member.2) :: .comma ::
        memberTokens more

theorem leads_mark {c : Char} {token : Token} (h : (c, token) ∈ marks) :
    Leads .outside [c] .outside [token] := by
  have hall : ∀ entry ∈ marks, Mode.outside.advance entry.1 = some (.outside, [entry.2]) := by
    decide
  exact leads_of_advance (hall _ h)

theorem leads_blank : Leads .outside [' '] .outside [] := leads_of_advance (by rfl)

theorem leads_member (member : String × String) :
    Leads .outside (encodeMember member).toList .outside
      [.text (textUnits member.1), .colon, .text (textUnits member.2)] := by
  have hcolon : Leads .outside (": ").toList .outside [.colon] :=
    (leads_mark (by decide)).trans leads_blank
  rw [encodeMember, String.toList_append, String.toList_append]
  exact ((leads_encode member.1).trans hcolon).trans (leads_encode member.2)

theorem leads_members (members : List (String × String)) :
    Leads .outside ((", ".intercalate (members.map encodeMember)).toList ++ ['\x7d']) .outside
      (memberTokens members) := by
  have hclosing : Leads .outside ['\x7d'] .outside [.closing] := leads_mark (by decide)
  have hcomma : Leads .outside (", ").toList .outside [.comma] :=
    (leads_mark (by decide)).trans leads_blank
  induction members with
  | nil => exact hclosing
  | cons member members ih =>
    cases members with
    | nil => exact (leads_member member).trans hclosing
    | cons next members =>
      have hall := ((leads_member member).trans hcomma).trans ih
      rw [List.map_cons, List.map_cons, String.intercalate_cons_cons, String.toList_append,
        String.toList_append, List.append_assoc]
      exact hall

theorem members?_memberTokens (member : String × String) (members : List (String × String)) :
    members? (memberTokens (member :: members)) =
      some ((member :: members).map fun m => (textUnits m.1, textUnits m.2)) := by
  induction members generalizing member with
  | nil => rfl
  | cons next members ih =>
    show (members? (memberTokens (next :: members))).map _ = _
    rw [ih]
    rfl

theorem object?_memberTokens (members : List (String × String)) :
    object? (.opening :: memberTokens members) =
      some (members.map fun m => (textUnits m.1, textUnits m.2)) := by
  cases members with
  | nil => rfl
  | cons member members =>
    rw [← members?_memberTokens]
    cases members <;> rfl

theorem mapM_member?_textUnits (members : List (String × String)) :
    (members.map fun m => (textUnits m.1, textUnits m.2)).mapM member? = some members := by
  induction members with
  | nil => rfl
  | cons member members ih =>
    have hmember : member? (textUnits member.1, textUnits member.2) = some member := by
      simp only [member?, text?_textUnits]
      rfl
    rw [List.map_cons, List.mapM_cons, ih, hmember]
    rfl

/-- **Read back**: an object of texts that is written is read as what it was. -/
theorem decode_encodeObject (members : List (String × String)) :
    decode (encodeObject members) = some members := by
  have hopening : Leads .outside ("\x7b").toList .outside [.opening] := leads_mark (by decide)
  have hread := (hopening.trans (leads_members members)) []
  have htokens : Mode.outside.read (encodeObject members).toList =
      some (.opening :: memberTokens members) := by
    rw [List.append_nil] at hread
    rw [encodeObject, String.toList_append, String.toList_append, List.append_assoc]
    exact hread.trans (by simp [Mode.read])
  simp only [decode, htokens, object?_memberTokens, Option.bind_eq_bind, Option.bind_some,
    mapM_member?_textUnits]

/-! ## Printable characters -/

theorem all_isPlain_unit (n : Nat) : (unit n).all isPlain := by
  have hdigit : ∀ d < 16, isPlain (hexDigit false d) := by decide
  have hdigits : ∀ width n, (hexDigits false width n).all isPlain := by
    intro width
    induction width with
    | zero => exact fun _ => rfl
    | succ width ih =>
      intro n
      simp [hexDigits, ih, hdigit _ (Nat.mod_lt n (by decide : 16 > 0))]
  have hmarks : isPlain '\\' ∧ isPlain 'u' := by decide
  simp only [unit, hex, String.toList_ofList, List.all_cons, hmarks, hdigits, Bool.and_self]

theorem all_isPlain_encodeChar (c : Char) : (encodeChar c).all isPlain := by
  unfold encodeChar
  cases hletter : letters.lookup c with
  | some letter =>
    have hall : ∀ entry ∈ letters, ['\\', entry.2].all isPlain := by decide
    exact hall _ (mem_letters_of_lookup hletter)
  | none =>
    dsimp only
    split
    · next hplain => simpa using hplain
    · split
      · exact all_isPlain_unit _
      · rw [pair, List.all_append, all_isPlain_unit, all_isPlain_unit]
        rfl

theorem all_isPlain_encode (s : String) : (encode s).toList.all isPlain := by
  have hquote : isPlain doubleQuote := by decide
  simp [encode, hquote, all_isPlain_encodeChar]

theorem all_isPlain_encodeMember (member : String × String) :
    (encodeMember member).toList.all isPlain := by
  have hcolon : (": ").toList.all isPlain := by decide
  simp only [encodeMember, String.toList_append, List.all_append, all_isPlain_encode, hcolon,
    Bool.and_self]

/-- **On one line**: an object of texts is written in printable ASCII alone. -/
theorem all_isPlain_encodeObject (members : List (String × String)) :
    (encodeObject members).toList.all isPlain := by
  have hcomma : (", ").toList.all isPlain := by decide
  have hopening : ("\x7b").toList.all isPlain := by decide
  have hclosing : ("\x7d").toList.all isPlain := by decide
  have hmembers : (", ".intercalate (members.map encodeMember)).toList.all isPlain := by
    induction members with
    | nil => rfl
    | cons member members ih =>
      cases members with
      | nil => exact all_isPlain_encodeMember member
      | cons next members =>
        rw [List.map_cons, List.map_cons, String.intercalate_cons_cons, ← List.map_cons]
        simp only [String.toList_append, List.all_append, all_isPlain_encodeMember, hcomma, ih,
          Bool.and_self]
  rw [encodeObject, String.toList_append, String.toList_append, List.all_append, List.all_append,
    hopening, hclosing, Bool.and_true, Bool.true_and]
  exact hmembers

end CortexFlags.Text.Json
