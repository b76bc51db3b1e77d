import CortexFlags.Proofs.Report.Draft
import CortexFlags.Report.Ledger

/-! Reports that grow while a program runs, and what each of them says at every point.

* `Ledger.take?_eq`: a request is refused just if it names a report that is not there, and
  `Ledger.isSome_run?_iff`: the same of a run;
* `Ledger.getElem?_taken`, `Ledger.getElem?_run?`: what one request, and what a run of them, make
  of a report that is there;
* `Ledger.given_of_untouched`: a run that does not add to a report gives it nothing;
* `Ledger.getElem?_run?_of_draft`: a report that is written in a run;
* `Ledger.reports_accumulate`: every report, at two points of a run. -/

namespace CortexFlags

namespace Ledger

/-! ## Requests -/

/-- What is added to a report: words, or the messages of a report, be it another or the same. -/
inductive Addition
  | words (words : Words)
  | messagesOf (index : Nat)

namespace Addition

def Within (n : Nat) : Addition → Prop
  | words _ => True
  | messagesOf index => index < n

instance (n : Nat) : (a : Addition) → Decidable (a.Within n)
  | words _ => inferInstanceAs (Decidable True)
  | messagesOf index => inferInstanceAs (Decidable (index < n))

/-- The messages that are added, as the ledger stands. -/
def messages (l : Ledger) : Addition → List String
  | words w => w.messages
  | messagesOf index => (l[index]?.map Report.messages).getD []

def contribution : Addition → Contribution
  | words w => .messages w.messages
  | messagesOf index => .messagesOf index

theorem contributed?_contribution (l : Ledger) (a : Addition) :
    l.contributed? a.contribution = if a.Within l.length then some (a.messages l) else none := by
  cases a with
  | words w => rfl
  | messagesOf index =>
    by_cases hindex : index < l.length <;>
      simp [contribution, contributed?, Within, messages, hindex]

end Addition

inductive Request
  | write (draft : Draft)
  | extend (index : Nat) (addition : Addition)

namespace Request

def step : Request → Step
  | write draft => .create draft.report
  | extend index addition => .add index addition.contribution

def draft? : Request → Option Draft
  | write draft => some draft
  | extend _ _ => none

/-- Every report that is named is one of the first `n`. -/
def Within (n : Nat) : Request → Prop
  | write _ => True
  | extend index addition => index < n ∧ addition.Within n

instance (n : Nat) : (q : Request) → Decidable (q.Within n)
  | write _ => inferInstanceAs (Decidable True)
  | extend index addition => inferInstanceAs (Decidable (index < n ∧ addition.Within n))

/-- The request adds to report `i`. -/
def Extends (i : Nat) : Request → Prop
  | write _ => False
  | extend index _ => index = i

/-- What report `i` gets from a request, as the ledger stands. -/
def gives (l : Ledger) (i : Nat) : Request → List String
  | write _ => []
  | extend index addition => if index = i then addition.messages l else []

theorem gives_of_untouched {q : Request} {i : Nat} (l : Ledger) (h : ¬ q.Extends i) :
    q.gives l i = [] := by
  cases q with
  | write draft => rfl
  | extend index addition => exact if_neg h

end Request

/-- The drafts of the reports that are written, in order. -/
def drafts (qs : List Request) : List Draft := qs.filterMap Request.draft?

theorem drafts_cons (q : Request) (more : List Request) :
    drafts (q :: more) = drafts [q] ++ drafts more := by
  cases q <;> rfl

/-- With `n` reports at the start, no request names a report before it is written. -/
def Coherent : Nat → List Request → Prop
  | _, [] => True
  | n, q :: more => q.Within n ∧ Coherent (n + (drafts [q]).length) more

instance decidableCoherent : (n : Nat) → (qs : List Request) → Decidable (Coherent n qs)
  | _, [] => inferInstanceAs (Decidable True)
  | n, q :: more =>
    have := decidableCoherent (n + (drafts [q]).length) more
    inferInstanceAs (Decidable (q.Within n ∧ Coherent (n + (drafts [q]).length) more))

/-! ## One request -/

/-- The ledger after a request, if it is not refused. -/
def take? (l : Ledger) (q : Request) : Option Ledger := (l.step? q.step).map Prod.fst

/-- What a request makes of a ledger that has the reports it names. -/
def taken (l : Ledger) : Request → Ledger
  | .write draft => l ++ [draft.report]
  | .extend index addition => l.modify index (·.add (addition.messages l))

variable {l l' : Ledger} {q : Request} {qs : List Request} {i k : Nat} {r : Report} {d : Draft}

theorem take?_eq (l : Ledger) (q : Request) :
    l.take? q = if q.Within l.length then some (l.taken q) else none := by
  cases q with
  | write draft => rfl
  | extend index addition =>
    cases hi : l[index]? with
    | none =>
      have hlt : ¬ index < l.length := Nat.not_lt.mpr (List.getElem?_eq_none_iff.mp hi)
      simp [take?, Request.step, step?, Request.Within, hlt]
    | some r =>
      have hlt : index < l.length := (List.getElem?_eq_some_iff.mp hi).1
      simp only [take?, Request.step, step?, hi, Addition.contributed?_contribution,
        Request.Within, hlt, true_and]
      split <;> simp [taken, List.modify_eq_set_getElem?, hi]

theorem length_taken (l : Ledger) (q : Request) :
    (l.taken q).length = l.length + (drafts [q]).length := by
  cases q with
  | write draft => simp [taken, drafts, Request.draft?]
  | extend index addition => simp [taken, drafts, Request.draft?]

/-- **Step lemma**: a report that is there gets what the request gives it, and nothing else of it
changes. -/
theorem getElem?_taken (q : Request) (hi : l[i]? = some r) :
    (l.taken q)[i]? = some (r.add (q.gives l i)) := by
  cases q with
  | write draft =>
    have hlt : i < l.length := (List.getElem?_eq_some_iff.mp hi).1
    simp [taken, Request.gives, List.getElem?_append_left hlt, hi]
  | extend index addition =>
    by_cases hindex : index = i <;> simp [taken, Request.gives, hi, hindex]

/-! ## Runs of requests -/

/-- The ledger after requests, if none of them is refused. -/
def run? (l : Ledger) (qs : List Request) : Option Ledger := qs.foldlM take? l

theorem run?_cons (l : Ledger) (q : Request) (more : List Request) :
    l.run? (q :: more) = (l.take? q).bind (·.run? more) := rfl

theorem run?_append (l : Ledger) (before later : List Request) :
    l.run? (before ++ later) = (l.run? before).bind (·.run? later) :=
  List.foldlM_append

theorem run?_cons_eq_some_iff {more : List Request} :
    l.run? (q :: more) = some l' ↔ q.Within l.length ∧ (l.taken q).run? more = some l' := by
  rw [run?_cons, take?_eq]
  split <;> simp_all

/-- Requests are refused just if one of them names a report that is not there. -/
theorem isSome_run?_iff : (l.run? qs).isSome ↔ Coherent l.length qs := by
  induction qs generalizing l with
  | nil => simp [run?, Coherent]
  | cons q more ih =>
    rw [Coherent, ← length_taken, ← ih, run?_cons, take?_eq]
    split <;> simp_all

theorem length_run? (h : l.run? qs = some l') : l'.length = l.length + (drafts qs).length := by
  induction qs generalizing l with
  | nil =>
    cases h
    rfl
  | cons q more ih =>
    rw [ih (run?_cons_eq_some_iff.mp h).2, length_taken, drafts_cons q more,
      List.length_append, Nat.add_assoc]

/-- What report `i` gets from the request at a position, as the ledger stands when its turn
comes. -/
def givenAt (l : Ledger) (qs : List Request) (i position : Nat) : List String :=
  match l.run? (qs.take position), qs[position]? with
  | some found, some q => q.gives found i
  | _, _ => []

/-- What report `i` gets from requests, in their order. -/
def given (l : Ledger) (qs : List Request) (i : Nat) : List String :=
  (List.range qs.length).flatMap (l.givenAt qs i)

theorem given_cons {more : List Request} (hq : q.Within l.length) (i : Nat) :
    l.given (q :: more) i = q.gives l i ++ (l.taken q).given more i := by
  have hfirst : l.givenAt (q :: more) i 0 = q.gives l i := rfl
  have hrest : ∀ position, l.givenAt (q :: more) i (position + 1) =
      (l.taken q).givenAt more i position := by
    intro position
    rw [givenAt, List.take_succ_cons, run?_cons, take?_eq, if_pos hq]
    rfl
  rw [given, List.length_cons, List.range_succ_eq_map, List.flatMap_cons, List.flatMap_map, hfirst]
  simp only [hrest]
  rfl

theorem given_of_untouched (h : l.run? qs = some l') (hqs : ∀ q ∈ qs, ¬ q.Extends i) :
    l.given qs i = [] := by
  induction qs generalizing l with
  | nil => rfl
  | cons q more ih =>
    obtain ⟨hq, hmore⟩ := run?_cons_eq_some_iff.mp h
    obtain ⟨hfirst, hrest⟩ := List.forall_mem_cons.mp hqs
    rw [given_cons hq, Request.gives_of_untouched l hfirst, ih hmore hrest, List.append_nil]

/-- **Run lemma**: a report that is there gets what the run gives it. -/
theorem getElem?_run? (h : l.run? qs = some l') (hi : l[i]? = some r) :
    l'[i]? = some (r.add (l.given qs i)) := by
  induction qs generalizing l r with
  | nil =>
    cases h
    simpa [given] using hi
  | cons q more ih =>
    obtain ⟨hq, hmore⟩ := run?_cons_eq_some_iff.mp h
    rw [ih hmore (getElem?_taken q hi), given_cons hq, Report.add_add]

/-- A report that is written in a run comes after those that are there, and gets what the run
gives it from then on. -/
theorem getElem?_run?_of_draft (h : l.run? qs = some l') (hk : (drafts qs)[k]? = some d) :
    l'[l.length + k]? = some (d.report.add (l.given qs (l.length + k))) := by
  induction qs generalizing l k with
  | nil => simp [drafts] at hk
  | cons q more ih =>
    obtain ⟨hq, hmore⟩ := run?_cons_eq_some_iff.mp h
    rw [given_cons hq]
    cases q with
    | write draft =>
      cases k with
      | zero =>
        obtain rfl : draft = d := Option.some_inj.mp hk
        have hnew : (l.taken (.write draft))[l.length]? = some draft.report := by simp [taken]
        exact getElem?_run? hmore hnew
      | succ k =>
        have hplace : (l.taken (.write draft)).length + k = l.length + (k + 1) := by
          simp [taken]
          omega
        have hrest := ih hmore (k := k) hk
        rwa [hplace] at hrest
    | extend index addition =>
      -- the report is not there yet, so that it is not the one that is added to
      have hindex : index ≠ l.length + k := Nat.ne_of_lt (Nat.lt_add_right k hq.1)
      have hplace : (l.taken (.extend index addition)).length = l.length := by simp [taken]
      have hrest := ih hmore (k := k) hk
      rw [hplace] at hrest
      rw [Request.gives, if_neg hindex]
      exact hrest

/-! ## Every report, at two points of a run -/

/-- What report `i`, written from a draft, is after some requests, and what later ones make of
it. -/
structure Accumulates (before later : List Request) (i : Nat) (draft : Draft) (l : Ledger)
    (r r' : Report) : Prop where
  kind_eq : r.kind = draft.kind
  origin_eq : r.origin = draft.origin
  value_eq : r.value = draft.value?
  /-- First the messages that it was written with, then all that it was given, in order. -/
  messages_eq : r.messages = draft.messages ++ given [] before i
  shown : r.ShownAs r.text
  /-- Later requests change nothing but the messages, and of these only what comes at the end. -/
  kept : r'.kind = r.kind ∧ r'.origin = r.origin ∧ r'.value = r.value
  grown : r'.messages = r.messages ++ l.given later i
  former_first : r.messages <+: r'.messages
  /-- What is added to other reports does not change it. -/
  untouched : (∀ q ∈ later, ¬ q.Extends i) → r' = r
  /-- An addition is what it says at the time, whatever becomes of the report that it is from. -/
  as_it_was : ∀ addition more, later = .extend i addition :: more →
    (∀ q ∈ more, ¬ q.Extends i) → r'.messages = r.messages ++ addition.messages l
  doubled : ∀ more, later = .extend i (.messagesOf i) :: more →
    (∀ q ∈ more, ¬ q.Extends i) → r'.messages = r.messages ++ r.messages

theorem given_extend_of_untouched {addition : Addition} {more : List Request}
    (h : l.run? (.extend i addition :: more) = some l') (hmore : ∀ q ∈ more, ¬ q.Extends i) :
    l.given (.extend i addition :: more) i = addition.messages l := by
  obtain ⟨hq, hrun⟩ := run?_cons_eq_some_iff.mp h
  rw [given_cons hq, given_of_untouched hrun hmore, List.append_nil]
  exact if_pos rfl

theorem accumulates {before later : List Request} (hbefore : run? [] before = some l)
    (hlater : l.run? later = some l') (hdraft : (drafts before)[i]? = some d) :
    ∃ r r', l[i]? = some r ∧ l'[i]? = some r' ∧ Accumulates before later i d l r r' := by
  have hr := getElem?_run?_of_draft hbefore hdraft
  rw [List.length_nil, Nat.zero_add, Draft.report_eq] at hr
  have hr' := getElem?_run? hlater hr
  have honce : ∀ addition more, later = .extend i addition :: more →
      (∀ q ∈ more, ¬ q.Extends i) → l.given later i = addition.messages l := by
    rintro addition more rfl hmore
    exact given_extend_of_untouched hlater hmore
  refine ⟨_, _, hr, hr', ?_⟩
  constructor
  case kind_eq => rfl
  case origin_eq => rfl
  case value_eq => rfl
  case messages_eq => rfl
  case shown => exact Report.shownAs_text _
  case kept => exact ⟨rfl, rfl, rfl⟩
  case grown => rfl
  case former_first => exact List.prefix_append _ _
  case untouched =>
    intro hothers
    rw [given_of_untouched hlater hothers, Report.add_nil]
  case as_it_was =>
    intro addition more hsplit hmore
    rw [← honce addition more hsplit hmore]
    rfl
  case doubled =>
    intro more hsplit hmore
    have hown := honce (.messagesOf i) more hsplit hmore
    rw [Addition.messages, hr] at hown
    exact congrArg (_ ++ ·) hown

/-- **Reports accumulate**: requests that name only reports that are there are all taken. At every
point there are just the reports that were written, and each of them has its own messages and all
that it was given, as that was when it was given. -/
theorem reports_accumulate (before later : List Request) (h : Coherent 0 (before ++ later)) :
    ∃ l l', run? [] before = some l ∧ run? [] (before ++ later) = some l' ∧
      l.length = (drafts before).length ∧ l'.length = (drafts (before ++ later)).length ∧
      ∀ i draft, (drafts before)[i]? = some draft →
        ∃ r r', l[i]? = some r ∧ l'[i]? = some r' ∧
          Accumulates before later i draft l r r' := by
  obtain ⟨l', hl'⟩ := Option.isSome_iff_exists.mp (isSome_run?_iff (l := []).mpr h)
  have hsplit := hl'
  rw [run?_append] at hsplit
  obtain ⟨l, hl, hlater⟩ := Option.bind_eq_some_iff.mp hsplit
  have hlength := length_run? hl
  have hlength' := length_run? hl'
  rw [List.length_nil, Nat.zero_add] at hlength hlength'
  exact ⟨l, l', hl, hl', hlength, hlength', fun i draft hdraft => accumulates hl hlater hdraft⟩

def twoMessages : Draft :=
  .worded .general (some (.several ["one", "two"])) (some "here")
    fun cause => by cases cause <;> simp [FlagFault.kind]

/-- A report gets the message of another one, which gets more of them afterwards. -/
def exchange : List Request :=
  [.write twoMessages, .write (.aboutFlag (.invalidFpu "vfpv5")), .extend 0 (.messagesOf 1),
    .extend 1 (.words (.one "three")), .extend 0 (.words (.one "four"))]

def doubling : List Request := [.extend 0 (.messagesOf 0), .extend 1 (.messagesOf 0)]

/-- The first report has the one message that the second had at the time. -/
theorem exchange_accumulates :
    Coherent 0 (exchange ++ doubling) ∧
      ∃ l l' r r', run? [] exchange = some l ∧ run? [] (exchange ++ doubling) = some l' ∧
        l[0]? = some r ∧ l'[0]? = some r' ∧
        Accumulates exchange doubling 0 twoMessages l r r' ∧
        r.messages = ["one", "two", FlagFault.message (.invalidFpu "vfpv5"), "four"] ∧
        r'.messages = r.messages ++ r.messages ∧ r.text = "here: four" := by
  have hcoherent : Coherent 0 (exchange ++ doubling) := by decide
  have hgiven : given [] exchange 0 = [FlagFault.message (.invalidFpu "vfpv5"), "four"] := rfl
  obtain ⟨l, l', hl, hl', -, -, heach⟩ := reports_accumulate exchange doubling hcoherent
  obtain ⟨r, r', hr, hr', haccumulates⟩ := heach 0 _ rfl
  have hmessages : r.messages =
      ["one", "two", FlagFault.message (.invalidFpu "vfpv5"), "four"] := by
    rw [haccumulates.messages_eq, hgiven]
    rfl
  have hdoubled : r'.messages = r.messages ++ r.messages :=
    haccumulates.doubled _ rfl (by simp [Request.Extends])
  have hheadline : r.headline = "four" := by simp [Report.headline, hmessages]
  have htext : r.text = "here: four" := by
    rw [Report.text_of_origin haccumulates.origin_eq (by decide), hheadline]
    rfl
  exact ⟨hcoherent, l, l', r, r', hl, hl', hr, hr', haccumulates, hmessages, hdoubled, htext⟩

end Ledger

end CortexFlags
