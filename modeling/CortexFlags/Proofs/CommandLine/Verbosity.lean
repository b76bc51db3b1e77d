import CortexFlags.Proofs.CommandLine.Launches

/-! How much the console shows when it is asked for more and more. Each `-v` goes one step down
from the default level; the first one puts a level that is named by another option out of use.

* `parse_written`: a command line of logging options is read option by option;
* `level_of_written`: the console level in terms of the options that are written;
* `startLogging_showsFrom`: logging that is started has a console handler of that level;
* `more_verbose_shows_more`: one `-v` more never shows less, unless it is the first and the level
  that was named is more than one step below the default;
* `named_debug_overruled`: a debug level that the first `-v` raises. -/

namespace CortexFlags.CommandLine

/-! ## Written options -/

/-- A logging option as it is written, its argument in a word of its own. -/
inductive WrittenOption
  | verbose
  | level (name : String)
  | file (path : String)
  | json
  | noColor
deriving DecidableEq, Repr

namespace WrittenOption

def words : WrittenOption → List String
  | verbose => ["-v"]
  | level name => ["--loglevel", name]
  | file path => ["--log-file", path]
  | json => ["--json-logs"]
  | noColor => ["--nocolor"]

def change : WrittenOption → LogOptions → LogOptions
  | verbose, o => { o with verbose := o.verbose + 1 }
  | level name, o => { o with levelName := .text name }
  | file path, o => { o with file := some (.text path) }
  | json, o => { o with json := true }
  | noColor, o => { o with noColor := true }

/-- The level that is named has a name, and the file is not taken for an option. -/
def Admitted : WrittenOption → Prop
  | level name => name ∈ Level.named.map Prod.fst
  | file path => startsWith path "-" = false
  | _ => True

def levelName? : WrittenOption → Option String
  | level name => some name
  | _ => none

/-- The level that is named last. -/
def lastNamed : List WrittenOption → Option String
  | [] => none
  | w :: ws => (lastNamed ws).or w.levelName?

end WrittenOption

open WrittenOption (lastNamed)

/-! ## Reading them -/

section

variable {σ : Type} {c : Command σ} {arg : String} {w : Word σ} {rest : List String}

theorem words_cons (harg : arg ≠ "--") (hw : c.word arg = .ok w) :
    c.words (arg :: rest) = (c.words rest).map ((arg, w) :: ·) := by
  rw [Command.words, if_neg harg, hw]
  cases c.words rest <;> rfl

theorem word_of_plain (h : startsWith arg "-" = false) : c.word arg = .ok .argument := by
  simp [Command.word, h]

end

namespace LogOptions

variable {program : String} {o : LogOptions} {default : Level} {w : WrittenOption}
  {ws : List WrittenOption}

/-- The first word of a written option, and the option that it names. -/
def spec : WrittenOption → String × OptionSpec LogOptions
  | .verbose => ("-v", (group id).options[0])
  | .level _ => ("--loglevel", (group id).options[1])
  | .file _ => ("--log-file", (group id).options[2])
  | .json => ("--json-logs", (group id).options[3])
  | .noColor => ("--nocolor", (group id).options[4])

theorem word_spec (program : String) (w : WrittenOption) :
    (command program).word (spec w).1 = .ok (.option ⟨(spec w).2, (spec w).1, Option.none⟩) := by
  cases w <;> dsimp only [spec] <;> rfl

theorem spec_ne (w : WrittenOption) : (spec w).1 ≠ "--" := by
  cases w <;> dsimp only [spec] <;> decide

/-- The words are read as ones that change the options. -/
def Reads (c : Command LogOptions) (args : List String) (change : LogOptions → LogOptions) : Prop :=
  ∃ read, (∀ rest, c.words (args ++ rest) = (c.words rest).map (read ++ ·)) ∧
    ∀ p rest, ∃ p', c.read false p (read ++ rest) = c.read false p' rest ∧
      p'.values = change p.values ∧ p'.extras = p.extras

theorem reads_written (program : String) (h : w.Admitted) :
    Reads (command program) w.words w.change := by
  have halone : ∀ rest, (command program).words ((spec w).1 :: rest) =
      ((command program).words rest).map
        ([((spec w).1, .option ⟨(spec w).2, (spec w).1, Option.none⟩)] ++ ·) :=
    fun rest => words_cons (spec_ne w) (word_spec program w)
  -- an option with its argument takes two words
  have hpair : ∀ value rest, startsWith value "-" = false →
      (command program).words ((spec w).1 :: value :: rest) =
        ((command program).words rest).map
          ([((spec w).1, .option ⟨(spec w).2, (spec w).1, Option.none⟩), (value, .argument)] ++ ·) := by
    intro value rest hvalue
    have hdash : value ≠ "--" := by
      rintro rfl
      exact absurd hvalue (by decide)
    rw [halone, words_cons hdash (word_of_plain hvalue)]
    cases (command program).words rest <;> rfl
  cases w with
  | verbose => exact ⟨[_], halone, fun p rest => ⟨_, rfl, rfl, rfl⟩⟩
  | level name =>
    have hplain : startsWith name "-" = false ∧ (Level.named.map Prod.fst).contains name = true := by
      simp only [WrittenOption.Admitted, Level.named, List.map_cons, List.map_nil, List.mem_cons,
        List.not_mem_nil, or_false] at h
      rcases h with rfl | rfl | rfl | rfl | rfl <;> decide
    refine ⟨[_, _], fun rest => hpair name rest hplain.1, fun p rest => ?_⟩
    refine ⟨p.set (group id).options[1] fun o => { o with levelName := .text name }, ?_, rfl, rfl⟩
    have hvalue : (command program).applyValue p (group id).options[1] (.text name) =
        .ok (p.set (group id).options[1] fun o => { o with levelName := .text name }) :=
      if_pos hplain.2
    show (command program).applyValue p (group id).options[1] (.text name) >>=
      (fun p => (command program).read false p rest) = _
    rw [hvalue]
    rfl
  | file path => exact ⟨[_, _], fun rest => hpair path rest h, fun p rest => ⟨_, rfl, rfl, rfl⟩⟩
  | json => exact ⟨[_], halone, fun p rest => ⟨_, rfl, rfl, rfl⟩⟩
  | noColor => exact ⟨[_], halone, fun p rest => ⟨_, rfl, rfl, rfl⟩⟩

/-- What a command line of written options makes of the options. -/
def changeAll (o : LogOptions) (ws : List WrittenOption) : LogOptions :=
  ws.foldl (fun o w => w.change o) o

theorem reads_all (program : String) (h : ∀ w ∈ ws, w.Admitted) :
    Reads (command program) (ws.flatMap WrittenOption.words) (changeAll · ws) := by
  induction ws with
  | nil =>
    refine ⟨[], fun rest => ?_, fun p rest => ⟨p, rfl, rfl, rfl⟩⟩
    rw [List.flatMap_nil, List.nil_append]
    cases (command program).words rest <;> rfl
  | cons w ws ih =>
    obtain ⟨hw, hws⟩ := List.forall_mem_cons.mp h
    obtain ⟨first, hwords, hread⟩ := reads_written program hw
    obtain ⟨more, hmore, hreadMore⟩ := ih hws
    refine ⟨first ++ more, fun rest => ?_, fun p rest => ?_⟩
    · rw [List.flatMap_cons, List.append_assoc, hwords, hmore]
      cases (command program).words rest with
      | error stop => rfl
      | ok read => simp [Except.map]
    · obtain ⟨p₁, hp₁, hvalues₁, hextras₁⟩ := hread p (more ++ rest)
      obtain ⟨p₂, hp₂, hvalues₂, hextras₂⟩ := hreadMore p₁ rest
      refine ⟨p₂, ?_, ?_, hextras₂.trans hextras₁⟩
      · rw [List.append_assoc, hp₁, hp₂]
      · rw [hvalues₂, hvalues₁]
        rfl

/-- **Option by option**: a command line of written options is read as what they say in turn. -/
theorem parse_written (program : String) (h : ∀ w ∈ ws, w.Admitted) (o : LogOptions) :
    (command program).parse o (ws.flatMap WrittenOption.words) = .ok (changeAll o ws) := by
  obtain ⟨read, hwords, hread⟩ := reads_all program h
  have hwords := hwords []
  obtain ⟨p, hp, hvalues, hextras⟩ := hread (.start o) []
  rw [List.append_nil] at hwords hp
  have hrest : (command program).words [] = .ok [] := rfl
  have hdone : (command program).read false p [] = .ok (p, []) := rfl
  have hall : (command program).requireAll p = .ok () := rfl
  have hnone : (command program).refuseExtras p.extras = .ok () := by rw [hextras]; rfl
  simp only [Command.parse, Command.parseKnown, hwords, hrest, Except.map, List.append_nil, hp,
    hdone, hall, hnone, bind, Except.bind, pure, Except.pure, hvalues]
  rfl

/-! ## The console level -/

theorem verbose_changeAll (o : LogOptions) (ws : List WrittenOption) :
    (changeAll o ws).verbose = o.verbose + ws.count .verbose := by
  induction ws generalizing o with
  | nil => rfl
  | cons w ws ih =>
    rw [changeAll, List.foldl_cons]
    refine (ih _).trans ?_
    cases w <;> simp [WrittenOption.change]
    omega

theorem levelName_changeAll {name : String} (h : o.levelName = .text name)
    (ws : List WrittenOption) :
    (changeAll o ws).levelName = .text ((lastNamed ws).getD name) := by
  induction ws generalizing o name with
  | nil => exact h
  | cons w ws ih =>
    have hw : (w.change o).levelName = .text (w.levelName?.getD name) := by
      cases w with
      | level name => rfl
      | verbose => exact h
      | file path => exact h
      | json => exact h
      | noColor => exact h
    rw [changeAll, List.foldl_cons]
    refine (ih hw).trans ?_
    cases hlast : lastNamed ws <;> simp [lastNamed, hlast]

/-- The level that is named last, or the default level. -/
def namedLevel (default : Level) (ws : List WrittenOption) : Level :=
  ((lastNamed ws).bind Level.ofName?).getD default

theorem lastNamed_admitted (h : ∀ w ∈ ws, w.Admitted) {name : String}
    (hname : lastNamed ws = some name) : name ∈ Level.named.map Prod.fst := by
  induction ws with
  | nil => cases hname
  | cons w ws ih =>
    obtain ⟨hw, hws⟩ := List.forall_mem_cons.mp h
    cases hlast : lastNamed ws with
    | some last =>
      rw [lastNamed, hlast] at hname
      exact ih hws (hlast.trans hname)
    | none =>
      rw [lastNamed, hlast, Option.none_or] at hname
      cases w with
      | level name' =>
        cases hname
        exact hw
      | verbose => cases hname
      | file path => cases hname
      | json => cases hname
      | noColor => cases hname

theorem exists_ofName? {name : String} (h : name ∈ Level.named.map Prod.fst) :
    ∃ level, Level.ofName? name = some level ∧ level ∈ Level.named.map Prod.snd := by
  simp only [Level.named, List.map_cons, List.map_nil, List.mem_cons, List.not_mem_nil,
    or_false] at h
  rcases h with rfl | rfl | rfl | rfl | rfl <;> exact ⟨_, rfl, by decide⟩

/-- The level that is named, if there is one, has a name, as the default level has. -/
theorem ofName?_lastNamed (hdefault : default ∈ Level.named.map Prod.snd)
    (h : ∀ w ∈ ws, w.Admitted) :
    Level.ofName? ((lastNamed ws).getD default.name) = some (namedLevel default ws) ∧
      namedLevel default ws ∈ Level.named.map Prod.snd := by
  unfold namedLevel
  cases hlast : lastNamed ws with
  | none => exact ⟨Level.ofName?_name hdefault, hdefault⟩
  | some name =>
    obtain ⟨level, hlevel, hmem⟩ := exists_ofName? (lastNamed_admitted h hlast)
    simp only [Option.getD_some, Option.bind_some, hlevel]
    exact ⟨trivial, hmem⟩

/-- The level to which a number of steps leads. -/
def levelAfter (default named : Level) (steps : Nat) : Level :=
  if 0 < steps then max (default - 10 * steps) .debug else named

theorem level_of_written (hdefault : default ∈ Level.named.map Prod.snd)
    (h : ∀ w ∈ ws, w.Admitted) :
    (changeAll (.none default) ws).level default =
      .ok (levelAfter default (namedLevel default ws) (ws.count .verbose)) := by
  have hverbose : (changeAll (.none default) ws).verbose = ws.count .verbose :=
    (verbose_changeAll _ ws).trans (Nat.zero_add _)
  have hname : (changeAll (.none default) ws).levelName = .text ((lastNamed ws).getD default.name) :=
    levelName_changeAll rfl ws
  simp only [level, hverbose, hname, Given.textFor, (ofName?_lastNamed hdefault h).1, levelAfter]
  split <;> rfl

theorem debug_le_of_named {level : Level} (h : level ∈ Level.named.map Prod.snd) :
    .debug ≤ level := by
  simp only [Level.named, List.map_cons, List.map_nil, List.mem_cons, List.not_mem_nil,
    or_false] at h
  rcases h with rfl | rfl | rfl | rfl | rfl <;> decide

theorem debug_le_levelAfter {named : Level} (h : .debug ≤ named) (steps : Nat) :
    .debug ≤ levelAfter default named steps := by
  unfold levelAfter
  split
  · exact Int.le_max_right _ _
  · exact h

/-- A step more leads no higher, unless it is the first and the level that was named is more than
a step below the default. -/
theorem levelAfter_succ_le_iff {default named : Int} (h : Level.debug ≤ named) (steps : Nat) :
    levelAfter default named (steps + 1) ≤ levelAfter default named steps ↔
      ¬ (steps = 0 ∧ named + 10 < default) := by
  unfold levelAfter Level.debug at *
  rw [if_pos (Nat.succ_pos _)]
  dsimp only [Level] at *
  split <;> omega

end LogOptions

/-! ## What logging shows -/

/-- Logging was started with a console handler of a level, and debug traces pass if that is the
level of them. -/
def ShowsFrom (j k : Journal) (level : Level) : Prop :=
  ∃ coloured layout rest,
    k.hub.handlers = j.hub.handlers ++ ⟨.console coloured, level, layout⟩ :: rest ∧
    k.hub.debugLevel = if level ≤ .debug then .debug else j.hub.debugLevel

theorem startLogging_showsFrom {style : ConsoleStyle} {default level : Level} {o : LogOptions}
    {j k : Journal} (hlevel : o.level default = .ok level)
    (h : startLogging style default o j = (.ok (), k)) : ShowsFrom j k level := by
  obtain ⟨level', file, hlevel', -, hactivate⟩ := startLogging_eq_ok_iff.mp h
  cases hlevel.symm.trans hlevel'
  obtain ⟨files, place, added, -, hadds, rfl⟩ := Journal.activate_eq_ok_iff.mp hactivate
  cases hadds with
  | console hconsole => exact ⟨_, _, _, rfl, by simp [Hub.extended, LogOptions.request]⟩
  | both hconsole hfile => exact ⟨_, _, _, rfl, by simp [Hub.extended, LogOptions.request]⟩

/-- The first `-v` puts a level out of use that is named and more than a step below the default. -/
def Overrules (default : Level) (ws : List WrittenOption) : Prop :=
  ws.count .verbose = 0 ∧ LogOptions.namedLevel default ws + 10 < default

open LogOptions in
/-- **More shows more**: with one `-v` more, the console level is no higher and debug traces that
pass still pass, unless that `-v` overrules the level that was named. The console level is that
of the console handler, and it is never below that of debug traces. -/
theorem more_verbose_shows_more (program : String) {default : Level}
    (hdefault : default ∈ Level.named.map Prod.snd) {ws more : List WrittenOption}
    (hws : ∀ w ∈ ws, w.Admitted) (hmore : ∀ w ∈ more, w.Admitted)
    (hnamed : lastNamed more = lastNamed ws)
    (hcount : more.count .verbose = ws.count .verbose + 1) :
    ∃ o o' level level',
      (command program).parse (.none default) (ws.flatMap WrittenOption.words) = .ok o ∧
      (command program).parse (.none default) (more.flatMap WrittenOption.words) = .ok o' ∧
      o.level default = .ok level ∧ o'.level default = .ok level' ∧
      (∀ style j k, startLogging style default o j = (.ok (), k) → ShowsFrom j k level) ∧
      (∀ style j k, startLogging style default o' j = (.ok (), k) → ShowsFrom j k level') ∧
      .debug ≤ level ∧ .debug ≤ level' ∧
      (level' ≤ level ↔ ¬ Overrules default ws) ∧
      (¬ Overrules default ws → level ≤ .debug → level' ≤ .debug) := by
  have hlevel := level_of_written hdefault hws
  have hlevel' := level_of_written hdefault hmore
  have hsame : namedLevel default more = namedLevel default ws := by rw [namedLevel, hnamed]; rfl
  rw [hsame, hcount] at hlevel'
  have hdebug := debug_le_of_named (ofName?_lastNamed hdefault hws).2
  have hlower : levelAfter default (namedLevel default ws) (ws.count .verbose + 1) ≤
      levelAfter default (namedLevel default ws) (ws.count .verbose) ↔ ¬ Overrules default ws :=
    levelAfter_succ_le_iff hdebug _
  exact ⟨_, _, _, _, parse_written program hws _, parse_written program hmore _, hlevel, hlevel',
    fun _ _ _ => startLogging_showsFrom hlevel, fun _ _ _ => startLogging_showsFrom hlevel',
    debug_le_levelAfter hdebug _, debug_le_levelAfter hdebug _, hlower,
    fun hkeeps hpasses => Int.le_trans (hlower.mpr hkeeps) hpasses⟩

/-- Two steps below errors are lower than one, whatever level is named. -/
theorem second_verbose_shows_more :
    ∃ o o' level level',
      (LogOptions.command "prog").parse (.none .error)
        ["--loglevel", "CRITICAL", "--json-logs", "-v"] = .ok o ∧
      (LogOptions.command "prog").parse (.none .error)
        ["-v", "--loglevel", "CRITICAL", "-v"] = .ok o' ∧
      o.level .error = .ok level ∧ o'.level .error = .ok level' ∧
      level' ≤ level ∧ (level ≤ .debug → level' ≤ .debug) := by
  have hdefault : Level.error ∈ Level.named.map Prod.snd := by decide
  have hadmitted : ∀ w ∈ [WrittenOption.level "CRITICAL", .json, .verbose], w.Admitted := by
    simp [WrittenOption.Admitted, Level.named]
  have hadmitted' : ∀ w ∈ [WrittenOption.verbose, .level "CRITICAL", .verbose], w.Admitted := by
    simp [WrittenOption.Admitted, Level.named]
  have hkeeps : ¬ Overrules .error [.level "CRITICAL", .json, .verbose] :=
    fun h => absurd h.1 (by decide)
  obtain ⟨o, o', level, level', ho, ho', hlevel, hlevel', -, -, -, -, hlower, htraces⟩ :=
    more_verbose_shows_more "prog" hdefault hadmitted hadmitted' rfl (by decide)
  exact ⟨o, o', level, level', ho, ho', hlevel, hlevel', hlower.mpr hkeeps, htraces hkeeps⟩

/-- **Less is shown**: where warnings are the default and debug is named, `-v` raises the console
level, and debug traces no longer pass. -/
theorem named_debug_overruled :
    ∃ o o', (LogOptions.command "prog").parse (.none .warning) ["--loglevel", "DEBUG"] = .ok o ∧
      (LogOptions.command "prog").parse (.none .warning) ["--loglevel", "DEBUG", "-v"] = .ok o' ∧
      o.level .warning = .ok .debug ∧ o'.level .warning = .ok .info ∧
      ¬ Level.info ≤ .debug ∧
      (startLogging ⟨false, .standard⟩ .warning o .empty).2.hub.debugLevel = .debug ∧
      (startLogging ⟨false, .standard⟩ .warning o' .empty).2.hub.debugLevel = Level.critical + 1 := by
  refine ⟨⟨0, .text "DEBUG", none, false, false⟩, ⟨1, .text "DEBUG", none, false, false⟩, ?_⟩
  decide +kernel

end CortexFlags.CommandLine
