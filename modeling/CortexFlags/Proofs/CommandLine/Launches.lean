import CortexFlags.CommandLine.Launcher
import CortexFlags.Proofs.Logging.Handlers
import Mathlib.Data.List.Basic

/-! Launches of one launcher, one after another. Logging is started for the first command line
that can be read, and for no other, even if it could not be started.

* `call_of_rejected`, `call_of_current`, `call_of_first`: what one call does;
* `after_of_rejected`, `after_of_current`: what calls do before and after the first command line
  that can be read;
* `starts_iff`, `returns_iff`: which calls start logging, and which return;
* `startsOnce_iff`: logging is started once, with the options of the first call that returns,
  unless it could not be started for a command line before;
* `missing_directory_left_without`: a launcher that goes on without logging. -/

namespace CortexFlags.CommandLine

/-! ## Starts of logging -/

section

variable {style : ConsoleStyle} {default : Level} {o : LogOptions} {j j' : Journal}

theorem startLogging_eq_ok_iff :
    startLogging style default o j = (.ok (), j') ↔
      ∃ level file, o.level default = .ok level ∧ o.fileName = .ok file ∧
        j.activate style (o.request level file) = (.ok (), j') := by
  unfold startLogging
  cases o.level default with
  | error fault => simp
  | ok level =>
    cases o.fileName with
    | error fault => simp
    | ok file =>
      simp only [Except.ok.injEq, exists_and_left, exists_eq_left']
      generalize j.activate style (o.request level file) = result
      obtain ⟨outcome, k⟩ := result
      cases outcome <;> simp [Except.mapError]

/-- Logging that was started has a handler more than before. -/
theorem ne_of_startLogging (h : startLogging style default o j = (.ok (), j')) : j' ≠ j := by
  obtain ⟨level, file, -, -, hactivate⟩ := startLogging_eq_ok_iff.mp h
  rintro rfl
  exact absurd (Journal.length_handlers_lt_of_activate hactivate) (Nat.lt_irrefl _)

end

/-! ## Calls -/

/-- A call of a launcher: the console that it finds, the command line, and what has happened to
the journal since the call before. -/
structure Call where
  style : ConsoleStyle
  args : List String
  meanwhile : Journal → Journal

/-- What happens to a journal that no call changes. -/
def drift (j : Journal) (cs : List Call) : Journal := cs.foldl (fun j c => c.meanwhile j) j

namespace Launcher

variable {α : Type} {l : Launcher α} {c : Call} {cs : List Call} {a b : α} {o : LogOptions}

def call (l : Launcher α) (c : Call) : Except LaunchFault α × Launcher α :=
  { l with journal := c.meanwhile l.journal }.launch c.style c.args

/-- The launcher after some calls. -/
def after (l : Launcher α) (cs : List Call) : Launcher α := cs.foldl (fun l c => (l.call c).2) l

/-- The launcher after calls that do nothing. -/
def drifted (l : Launcher α) (cs : List Call) : Launcher α :=
  { l with journal := drift l.journal cs }

/-- The launcher once something more was read. -/
def holding (l : Launcher α) (a : α) : Launcher α := { l with current := some a }

/-- None of the command lines can be read. -/
def RejectsAll (l : Launcher α) (cs : List Call) : Prop :=
  ∀ c ∈ cs, ∃ stop, l.read c.args = .error stop

/-- What was read last, after something was read before the calls. -/
def readLast (l : Launcher α) (before : α) (cs : List Call) : α :=
  cs.foldl (fun now c => (l.read c.args).toOption.getD now) before

/-- What the start of logging makes of the journal that a call finds. -/
def startFor (l : Launcher α) (c : Call) (a : α) : Except StartFault Unit × Journal :=
  startLogging c.style defaultLevel (l.logOptions a) (c.meanwhile l.journal)

theorem call_of_rejected {stop : Stop} (h : l.read c.args = .error stop) :
    l.call c = (.error (.stopped stop), l.drifted [c]) := by
  simp only [call, launch, h, drifted, drift, List.foldl_cons, List.foldl_nil]

theorem call_of_current (hcurrent : l.current = some b) (h : l.read c.args = .ok a) :
    l.call c = (.ok a, (l.drifted [c]).holding a) := by
  simp only [call, launch, h, hcurrent, holding, drifted, drift, List.foldl_cons, List.foldl_nil]

theorem call_of_first (hnew : l.current = none) (h : l.read c.args = .ok a) :
    l.call c = ((((l.startFor c a).1).mapError .logging).map fun _ => a,
      { l with current := some a, journal := (l.startFor c a).2 }) := by
  simp only [call, launch, h, hnew]
  unfold startFor
  cases (startLogging c.style defaultLevel (l.logOptions a) (c.meanwhile l.journal)).1 <;> rfl

/-! ## Calls one after another -/

theorem after_cons (l : Launcher α) (c : Call) (cs : List Call) :
    l.after (c :: cs) = (l.call c).2.after cs := rfl

theorem after_append (l : Launcher α) (cs more : List Call) :
    l.after (cs ++ more) = (l.after cs).after more := List.foldl_append

theorem after_of_rejected (h : l.RejectsAll cs) : l.after cs = l.drifted cs := by
  induction cs generalizing l with
  | nil => rfl
  | cons c cs ih =>
    obtain ⟨⟨stop, hstop⟩, hcs⟩ := List.forall_mem_cons.mp h
    rw [after_cons, call_of_rejected hstop]
    exact ih hcs

theorem after_of_current (hcurrent : l.current = some a) :
    l.after cs = (l.drifted cs).holding (l.readLast a cs) := by
  induction cs generalizing l a with
  | nil =>
    obtain ⟨read, logOptions, current, journal⟩ := l
    cases hcurrent
    rfl
  | cons c cs ih =>
    have hlast : ∀ b, (l.read c.args).toOption.getD a = b → l.readLast a (c :: cs) =
        l.readLast b cs := by
      rintro b rfl
      rfl
    rw [after_cons]
    cases hread : l.read c.args with
    | error stop =>
      rw [call_of_rejected hread, hlast a (by rw [hread]; rfl)]
      exact ih hcurrent
    | ok b =>
      rw [call_of_current hcurrent hread, hlast b (by rw [hread]; rfl)]
      exact ih rfl

/-! ## The first command line that can be read -/

theorem RejectsAll.not_read (h : l.RejectsAll cs) (hc : c ∈ cs) : l.read c.args ≠ .ok a := by
  intro hread
  obtain ⟨stop, hstop⟩ := h c hc
  rw [hread] at hstop
  cases hstop

theorem rejectsAll_or_first (l : Launcher α) (cs : List Call) :
    l.RejectsAll cs ∨ ∃ before c rest a, cs = before ++ c :: rest ∧ l.RejectsAll before ∧
      l.read c.args = .ok a := by
  induction cs with
  | nil => exact .inl fun c hc => absurd hc List.not_mem_nil
  | cons c cs ih =>
    cases hread : l.read c.args with
    | ok a => exact .inr ⟨[], c, cs, a, rfl, fun c hc => absurd hc List.not_mem_nil, hread⟩
    | error stop =>
      rcases ih with hcs | ⟨before, d, rest, a, rfl, hbefore, hd⟩
      · exact .inl (List.forall_mem_cons.mpr ⟨⟨stop, hread⟩, hcs⟩)
      · exact .inr ⟨c :: before, d, rest, a, rfl,
          List.forall_mem_cons.mpr ⟨⟨stop, hread⟩, hbefore⟩, hd⟩

/-- A command line that can be read stands at the first place of one, or after it. -/
theorem first_or_later {before before' rest rest' : List Call} {d : Call}
    (h : before ++ c :: rest = before' ++ d :: rest') (hbefore : l.RejectsAll before)
    (hd : l.read d.args = .ok b) : (before' = before ∧ d = c) ∨ c ∈ before' ∧ d ∈ rest := by
  rcases List.append_eq_append_iff.mp h with ⟨between, rfl, hrest⟩ | ⟨between, rfl, hrest⟩
  · cases between with
    | nil => exact .inl ⟨by simp, (List.cons.inj hrest).1.symm⟩
    | cons e between =>
      obtain ⟨rfl, rfl⟩ := List.cons.inj hrest
      exact .inr ⟨by simp, by simp⟩
  · cases between with
    | nil => exact .inl ⟨by simp, (List.cons.inj hrest).1⟩
    | cons e between =>
      obtain ⟨rfl, -⟩ := List.cons.inj hrest
      exact absurd hd (hbefore.not_read (by simp))

theorem first_unique {before before' rest rest' : List Call} {d : Call}
    (h : before ++ c :: rest = before' ++ d :: rest') (hbefore : l.RejectsAll before)
    (hc : l.read c.args = .ok a) (hbefore' : l.RejectsAll before') (hd : l.read d.args = .ok b) :
    before' = before ∧ d = c := by
  rcases first_or_later h hbefore hd with hfirst | ⟨hmem, -⟩
  · exact hfirst
  · exact absurd hc (hbefore'.not_read hmem)

/-- After a command line that can be read, there is something that was read last. -/
theorem current_of_not_rejected (hnew : l.current = none) (h : ¬ l.RejectsAll cs) :
    ∃ a, (l.after cs).current = some a ∧ (l.after cs).read = l.read := by
  rcases l.rejectsAll_or_first cs with hcs | ⟨before, c, rest, a, rfl, hbefore, hread⟩
  · exact absurd hcs h
  · have hfirst := call_of_first (l := l.drifted before) hnew hread
    rw [after_append, after_of_rejected hbefore, after_cons, hfirst, after_of_current rfl]
    exact ⟨_, rfl, rfl⟩

/-! ## Which calls start logging, and which return -/

/-- A call starts logging with the options of its command line. -/
def Starts (l : Launcher α) (c : Call) (o : LogOptions) : Prop :=
  ∃ a, l.read c.args = .ok a ∧ l.logOptions a = o ∧
    startLogging c.style defaultLevel o (c.meanwhile l.journal) = (.ok (), (l.call c).2.journal)

def Returns (l : Launcher α) (c : Call) (a : α) : Prop := (l.call c).1 = .ok a

theorem not_starts_of_current (hcurrent : l.current = some b) : ¬ l.Starts c o := by
  rintro ⟨a, hread, -, hstart⟩
  rw [call_of_current hcurrent hread] at hstart
  exact ne_of_startLogging hstart rfl

theorem starts_iff_of_new (hnew : l.current = none) :
    l.Starts c o ↔ ∃ a, l.read c.args = .ok a ∧ l.logOptions a = o ∧ (l.startFor c a).1 = .ok () := by
  constructor
  · rintro ⟨a, hread, rfl, hstart⟩
    exact ⟨a, hread, rfl, congrArg Prod.fst hstart⟩
  · rintro ⟨a, hread, rfl, hstart⟩
    refine ⟨a, hread, rfl, ?_⟩
    rw [call_of_first hnew hread, ← hstart]
    rfl

theorem returns_iff_of_new (hnew : l.current = none) :
    l.Returns c a ↔ l.read c.args = .ok a ∧ (l.startFor c a).1 = .ok () := by
  cases hread : l.read c.args with
  | error stop => simp [Returns, call_of_rejected hread]
  | ok b =>
    rw [Returns, call_of_first hnew hread]
    cases hstart : (l.startFor c b).1 with
    | ok => simpa [Except.mapError, Except.map] using fun h => h ▸ hstart
    | error fault =>
      simp only [Except.mapError, Except.map, reduceCtorEq, Except.ok.injEq, false_iff, not_and]
      rintro rfl h
      rw [hstart] at h
      cases h

theorem returns_iff_of_current (hcurrent : l.current = some b) :
    l.Returns c a ↔ l.read c.args = .ok a := by
  cases hread : l.read c.args with
  | error stop => simp [Returns, call_of_rejected hread]
  | ok a' => simp [Returns, call_of_current hcurrent hread]

theorem starts_iff (hnew : l.current = none) (before : List Call) :
    (l.after before).Starts c o ↔ l.RejectsAll before ∧
      ∃ a, l.read c.args = .ok a ∧ l.logOptions a = o ∧
        ((l.drifted before).startFor c a).1 = .ok () := by
  by_cases hbefore : l.RejectsAll before
  · rw [after_of_rejected hbefore]
    exact (starts_iff_of_new (l := l.drifted before) hnew).trans (and_iff_right hbefore).symm
  · obtain ⟨a, hcurrent, -⟩ := current_of_not_rejected hnew hbefore
    exact iff_of_false (not_starts_of_current hcurrent) fun h => hbefore h.1

theorem returns_iff (hnew : l.current = none) (before : List Call) :
    (l.after before).Returns c a ↔ l.read c.args = .ok a ∧
      (l.RejectsAll before → ((l.drifted before).startFor c a).1 = .ok ()) := by
  by_cases hbefore : l.RejectsAll before
  · rw [after_of_rejected hbefore]
    refine (returns_iff_of_new (l := l.drifted before) hnew).trans (and_congr_right fun _ => ?_)
    exact ⟨fun h _ => h, fun h => h hbefore⟩
  · obtain ⟨b, hcurrent, hread⟩ := current_of_not_rejected hnew hbefore
    rw [returns_iff_of_current hcurrent, hread]
    exact (and_iff_left fun h => absurd h hbefore).symm

/-! ## Once -/

def NoneReturns (l : Launcher α) (cs : List Call) : Prop :=
  ∀ before c rest, cs = before ++ c :: rest → ∀ a, ¬ (l.after before).Returns c a

/-- Once a call returns, logging has been started by exactly one call, the first that returned,
with the options of its command line; the calls after it replace what was read and do nothing
else. -/
def StartsOnce (l : Launcher α) (cs : List Call) : Prop :=
  ∀ before c rest a, cs = before ++ c :: rest → l.NoneReturns before →
    (l.after before).Returns c a →
    (∀ before' d rest' o, cs = before' ++ d :: rest' →
      ((l.after before').Starts d o ↔ before' = before ∧ o = l.logOptions a)) ∧
    l.after cs = ((l.after (before ++ [c])).drifted rest).holding (l.readLast a rest)

/-- Logging cannot be started for the first command line that can be read, and another one can be
read after it. -/
def LeftWithout (l : Launcher α) (cs : List Call) : Prop :=
  ∃ before c rest a fault, cs = before ++ c :: rest ∧ l.RejectsAll before ∧
    l.read c.args = .ok a ∧ ((l.drifted before).startFor c a).1 = .error fault ∧
    ¬ l.RejectsAll rest

theorem LeftWithout.not_starts (hnew : l.current = none) (h : l.LeftWithout cs)
    {before rest : List Call} {d : Call} (hcs : cs = before ++ d :: rest) :
    ¬ (l.after before).Starts d o := by
  obtain ⟨before', c, rest', a, fault, rfl, hbefore', hc, hfault, -⟩ := h
  rw [starts_iff hnew]
  rintro ⟨hbefore, b, hd, -, hstart⟩
  obtain ⟨rfl, rfl⟩ := first_unique hcs hbefore' hc hbefore hd
  cases hc.symm.trans hd
  rw [hfault] at hstart
  cases hstart

/-- Where logging cannot be started for the first command line that can be read, the first call
that returns is that of the next one. -/
theorem LeftWithout.exists_returns (hnew : l.current = none) (h : l.LeftWithout cs) :
    ∃ before c rest a, cs = before ++ c :: rest ∧ l.NoneReturns before ∧
      (l.after before).Returns c a := by
  obtain ⟨before, c, rest, a, fault, rfl, hbefore, hc, hfault, hrest⟩ := h
  rcases l.rejectsAll_or_first rest with h | ⟨between, d, rest', b, rfl, hbetween, hd⟩
  · exact absurd h hrest
  · have hnot : ¬ l.RejectsAll (before ++ c :: between) := fun h => h.not_read (by simp) hc
    refine ⟨before ++ c :: between, d, rest', b, by simp, ?_,
      (returns_iff hnew _).mpr ⟨hd, fun h => absurd h hnot⟩⟩
    -- of the calls before it, one can be read, and that one is cut short
    intro before' e rest'' hsplit x hreturns
    obtain ⟨he, hstart⟩ := (returns_iff hnew _).mp hreturns
    rcases first_or_later hsplit hbefore he with ⟨rfl, rfl⟩ | ⟨-, hmem⟩
    · cases hc.symm.trans he
      have hok := hstart hbefore
      rw [hfault] at hok
      cases hok
    · exact hbetween.not_read hmem he

theorem LeftWithout.not_startsOnce (hnew : l.current = none) (h : l.LeftWithout cs) :
    ¬ l.StartsOnce cs := by
  intro honce
  obtain ⟨before, c, rest, a, hcs, hnone, hreturns⟩ := h.exists_returns hnew
  obtain ⟨hstarts, -⟩ := honce before c rest a hcs hnone hreturns
  exact h.not_starts hnew hcs ((hstarts before c rest _ hcs).mpr ⟨rfl, rfl⟩)

/-- The first call that returns is that of the first command line that can be read. -/
theorem rejectsAll_of_noneReturns (hnew : l.current = none) {before rest : List Call}
    (h : ¬ l.LeftWithout (before ++ c :: rest)) (hc : l.read c.args = .ok a)
    (hnone : l.NoneReturns before) : l.RejectsAll before := by
  rcases l.rejectsAll_or_first before with hbefore | ⟨before', d, rest', b, rfl, hbefore', hd⟩
  · exact hbefore
  · have hcut := hnone before' d rest' rfl b
    rw [returns_iff hnew, and_iff_right hd] at hcut
    cases hstart : ((l.drifted before').startFor d b).1 with
    | ok => exact absurd (fun _ => hstart) hcut
    | error fault =>
      have hread : ¬ l.RejectsAll (rest' ++ c :: rest) := fun h => h.not_read (by simp) hc
      exact absurd ⟨before', d, rest' ++ c :: rest, b, fault, by simp, hbefore', hd, hstart, hread⟩ h

theorem startsOnce_of_not_leftWithout (hnew : l.current = none) (h : ¬ l.LeftWithout cs) :
    l.StartsOnce cs := by
  rintro before c rest a rfl hnone hreturns
  obtain ⟨hc, hstart⟩ := (returns_iff hnew _).mp hreturns
  have hbefore := rejectsAll_of_noneReturns hnew h hc hnone
  constructor
  · intro before' d rest' o hsplit
    rw [starts_iff hnew]
    constructor
    · rintro ⟨hbefore', b, hd, rfl, -⟩
      obtain ⟨rfl, rfl⟩ := first_unique hsplit hbefore hc hbefore' hd
      cases hc.symm.trans hd
      exact ⟨rfl, rfl⟩
    · rintro ⟨rfl, rfl⟩
      obtain ⟨rfl, -⟩ := List.cons.inj (List.append_cancel_left hsplit)
      exact ⟨hbefore, a, hc, rfl, hstart hbefore⟩
  · have hfirst := call_of_first (l := l.drifted before) hnew hc
    have hafter : ((l.after (before ++ [c]))).current = some a ∧
        (l.after (before ++ [c])).read = l.read := by
      rw [after_append, after_of_rejected hbefore, after_cons, hfirst]
      exact ⟨rfl, rfl⟩
    rw [List.append_cons, after_append, after_of_current hafter.1]
    simp only [readLast, hafter.2]

/-- **Once**: the first call that returns is the only one to start logging, unless logging could
not be started for a command line before. Then no call starts it, although one returns. -/
theorem startsOnce_iff (hnew : l.current = none) (cs : List Call) :
    (l.StartsOnce cs ↔ ¬ l.LeftWithout cs) ∧
    (l.LeftWithout cs →
      (∃ before c rest a, cs = before ++ c :: rest ∧ (l.after before).Returns c a) ∧
      ∀ before c rest o, cs = before ++ c :: rest → ¬ (l.after before).Starts c o) := by
  constructor
  · constructor
    · exact fun honce h => h.not_startsOnce hnew honce
    · exact startsOnce_of_not_leftWithout hnew
  · intro h
    obtain ⟨before, c, rest, a, hcs, -, hreturns⟩ := h.exists_returns hnew
    exact ⟨⟨before, c, rest, a, hcs, hreturns⟩, fun _ _ _ _ hcs => h.not_starts hnew hcs⟩

/-- A call where the console is no terminal and nothing has happened. -/
def plainCall (args : List String) : Call := ⟨⟨false, .standard⟩, args, id⟩

/-- A command line that cannot be read does not count, and a later one changes nothing. -/
theorem rejected_startsOnce :
    (ofProgram "prog").StartsOnce [plainCall ["--loud"], plainCall [], plainCall ["-v"]] := by
  have hnone : ((ofProgram "prog").read ["--loud"]).toOption = none := by decide +kernel
  have hloud : (ofProgram "prog").RejectsAll [plainCall ["--loud"]] := by
    intro c hc
    rw [List.mem_singleton.mp hc]
    cases hread : (ofProgram "prog").read ["--loud"] with
    | error stop => exact ⟨stop, hread⟩
    | ok o =>
      rw [hread] at hnone
      cases hnone
  have hread : (ofProgram "prog").read (plainCall []).args = .ok (.none defaultLevel) := by
    decide +kernel
  have hstart : (((ofProgram "prog").drifted [plainCall ["--loud"]]).startFor (plainCall [])
      (.none defaultLevel)).1 = .ok () := by decide +kernel
  refine (startsOnce_iff rfl _).1.mpr ?_
  rintro ⟨before, c, rest, a, fault, hsplit, hbefore, hc, hfault, -⟩
  have hsplit : [plainCall ["--loud"]] ++ plainCall [] :: [plainCall ["-v"]] =
      before ++ c :: rest := hsplit
  obtain ⟨rfl, rfl⟩ := first_unique hsplit hloud hread hbefore hc
  cases hread.symm.trans hc
  rw [hstart] at hfault
  cases hfault

def toMissingDirectory : Call := plainCall ["--log-file", "missing/a.log"]

/-- **Without logging**: the log file cannot be opened for the first command line, the call with
the second one returns, and no handler was added. -/
theorem missing_directory_left_without :
    ((ofProgram "prog").call toMissingDirectory).1 =
      .error (.logging (.activation (.cannotOpen .noSuchFile))) ∧
    ((ofProgram "prog").after [toMissingDirectory]).Returns (plainCall []) (.none defaultLevel) ∧
    ((ofProgram "prog").after [toMissingDirectory, plainCall []]).journal.hub = .initial ∧
    ¬ (ofProgram "prog").StartsOnce [toMissingDirectory, plainCall []] := by
  have hfirst : (ofProgram "prog").read toMissingDirectory.args =
      .ok ⟨0, .text "INFO", some (.text "missing/a.log"), false, false⟩ := by decide +kernel
  have hread : (ofProgram "prog").read (plainCall []).args = .ok (.none defaultLevel) := by
    decide +kernel
  have hfault : ((ofProgram "prog").startFor toMissingDirectory
      ⟨0, .text "INFO", some (.text "missing/a.log"), false, false⟩).1 =
        .error (.activation (.cannotOpen .noSuchFile)) := by decide +kernel
  have hhub : ((ofProgram "prog").startFor toMissingDirectory
      ⟨0, .text "INFO", some (.text "missing/a.log"), false, false⟩).2.hub = .initial := by
    decide +kernel
  have hcall := call_of_first (l := ofProgram "prog") rfl hfirst
  have hleft : (ofProgram "prog").LeftWithout [toMissingDirectory, plainCall []] :=
    ⟨[], _, _, _, _, rfl, fun c hc => absurd hc List.not_mem_nil, hfirst, hfault,
      fun h => h.not_read (List.mem_singleton_self _) hread⟩
  refine ⟨?_, ?_, ?_, hleft.not_startsOnce rfl⟩
  · rw [hcall, hfault]
    rfl
  · rw [after_cons, hcall]
    exact (returns_iff_of_current rfl).mpr hread
  · rw [after_cons, hcall, after_of_current rfl]
    exact hhub

end Launcher

end CortexFlags.CommandLine
