import CortexFlags.Proofs.Catalogue.Loading
import CortexFlags.Proofs.Session.Script
import Mathlib.Data.List.Induction

/-! The history of a session, and what a lookup of the catalogue depends on. There are no
settings files: the settings of a session are those that were set last.

* `Fits.exists_at_lookup`, `Fits.run`: all along a run, the session fits what happened
  before;
* `kept_until_cleared`: a catalogue that was loaded is seen until it is cleared;
* `fresh_if_nothingKept`: otherwise a lookup is a load with the plugins and the
  settings of the moment;
* `lookups_history_free`: both for every script, with the loads that fail and those
  that plugins are kept out of. -/

namespace CortexFlags

/-! ## What happens -/

/-- A change of the session, or a lookup of the catalogue with its outcome. -/
inductive Happening
  | changed (c : Change)
  | lookedUp (outcome : Except LoadFault Catalogue)

/-- What happens to a session while a script runs. -/
def Script.history {α : Type} : Script α → Session → List Happening
  | done _, _ => []
  | lookUp next, s => .lookedUp s.lookup.1 :: (next s.lookup.1).history s.lookup.2
  | fetch name next, s => (next (s.saved.lookup name)).history s
  | change c next, s => .changed c :: next.history (c.make s)

/-! ## What histories lead to -/

def Happening.plugins (plugins : List Plugin) : Happening → List Plugin
  | changed (.setPlugins new) => new
  | _ => plugins

def Happening.settings (settings : Settings.Entries) : Happening → Settings.Entries
  | changed (.setSettings new) => new
  | _ => settings

/-- A catalogue is kept from a load to the next clearing. -/
def Happening.kept (kept : Option Catalogue) : Happening → Option Catalogue
  | changed .clearCatalogue => none
  | changed _ => kept
  | lookedUp outcome => kept.or outcome.toOption

/-- The plugins that were set last. -/
def pluginsAfter (plugins : List Plugin) (past : List Happening) : List Plugin :=
  past.foldl Happening.plugins plugins

/-- The settings that were set last. -/
def settingsAfter (settings : Settings.Entries) (past : List Happening) : Settings.Entries :=
  past.foldl Happening.settings settings

def keptAfter (kept : Option Catalogue) (past : List Happening) : Option Catalogue :=
  past.foldl Happening.kept kept

section

variable (past more : List Happening)

theorem pluginsAfter_append (plugins : List Plugin) :
    pluginsAfter plugins (past ++ more) = pluginsAfter (pluginsAfter plugins past) more :=
  List.foldl_append

theorem settingsAfter_append (settings : Settings.Entries) :
    settingsAfter settings (past ++ more) = settingsAfter (settingsAfter settings past) more :=
  List.foldl_append

theorem keptAfter_append (kept : Option Catalogue) :
    keptAfter kept (past ++ more) = keptAfter (keptAfter kept past) more :=
  List.foldl_append

end

/-! ## Catalogues that are kept -/

/-- Every catalogue that was loaded has been cleared since. -/
def NothingKept (past : List Happening) : Prop :=
  ∀ before k after, past = before ++ .lookedUp (.ok k) :: after → .changed .clearCatalogue ∈ after

theorem keptAfter_of_not_cleared {past : List Happening} (h : .changed .clearCatalogue ∉ past)
    (k : Catalogue) : keptAfter (some k) past = some k := by
  induction past with
  | nil => rfl
  | cons event past ih =>
    rw [List.mem_cons, not_or] at h
    obtain ⟨hevent, hpast⟩ := h
    have hkept : event.kept (some k) = some k := by
      cases event with
      | lookedUp outcome => rfl
      | changed c =>
        cases c with
        | clearCatalogue => exact absurd rfl hevent
        | save name d => rfl
        | setPlugins plugins => rfl
        | setSettings settings => rfl
    rw [keptAfter, List.foldl_cons, hkept]
    exact ih hpast

/-- What is kept was loaded, and not cleared since. -/
theorem exists_of_keptAfter {past : List Happening} {k : Catalogue}
    (h : keptAfter none past = some k) :
    ∃ before after, past = before ++ .lookedUp (.ok k) :: after ∧
      .changed .clearCatalogue ∉ after := by
  induction past using List.reverseRecOn with
  | nil => cases h
  | append_singleton past event ih =>
    -- the last event keeps what was kept, unless it loads or clears
    have hkeep : keptAfter none past = some k → event ≠ .changed .clearCatalogue →
        ∃ before after, past ++ [event] = before ++ .lookedUp (.ok k) :: after ∧
          .changed .clearCatalogue ∉ after := by
      intro hk hevent
      obtain ⟨before, after, rfl, hafter⟩ := ih hk
      refine ⟨before, after ++ [event], by simp, ?_⟩
      simp only [List.mem_append, List.mem_singleton, not_or]
      exact ⟨hafter, hevent.symm⟩
    rw [keptAfter_append] at h
    change event.kept (keptAfter none past) = some k at h
    cases event with
    | changed c =>
      cases c with
      | clearCatalogue => cases h
      | save name d => exact hkeep h (by simp)
      | setPlugins plugins => exact hkeep h (by simp)
      | setSettings settings => exact hkeep h (by simp)
    | lookedUp outcome =>
      cases hk : keptAfter none past with
      | some k' =>
        rw [hk] at h
        exact hkeep (hk.trans h) (by simp)
      | none =>
        rw [hk] at h
        cases outcome with
        | error fault => cases h
        | ok k' =>
          cases h
          exact ⟨past, [], rfl, by simp⟩

theorem keptAfter_of_loaded (before : List Happening) (k : Catalogue) :
    ∃ k', keptAfter none (before ++ [.lookedUp (.ok k)]) = some k' := by
  rw [keptAfter_append]
  cases keptAfter none before with
  | none => exact ⟨k, rfl⟩
  | some k' => exact ⟨k', rfl⟩

theorem nothingKept_iff {past : List Happening} :
    NothingKept past ↔ keptAfter none past = none := by
  constructor
  · intro h
    cases hk : keptAfter none past with
    | none => rfl
    | some k =>
      obtain ⟨before, after, hpast, hafter⟩ := exists_of_keptAfter hk
      exact absurd (h before k after hpast) hafter
  · rintro h before k after rfl
    by_contra hafter
    obtain ⟨k', hk'⟩ := keptAfter_of_loaded before k
    rw [List.append_cons, keptAfter_append, hk', keptAfter_of_not_cleared hafter] at h
    cases h

/-! ## One lookup -/

namespace Session

variable {s : Session}

/-- A lookup changes nothing but what is kept, and that only if there was nothing. -/
theorem lookup_session (s : Session) :
    s.lookup.2 = { s with cached := s.cached.or s.lookup.1.toOption } := by
  obtain ⟨cached, plugins, settings, saved⟩ := s
  unfold lookup
  cases cached with
  | some k => rfl
  | none =>
    dsimp only
    split <;> rfl

/-- Without a catalogue, the outcome is that of a load. -/
theorem lookup_fresh (h : s.cached = none) :
    s.lookup.1 = (Catalogue.load s.settings s.plugins).1 := by
  unfold lookup
  rw [h]
  show _ = s.freshCatalogue
  dsimp only
  split
  · rename_i k hk
    exact hk.symm
  · rename_i fault hfault
    exact hfault.symm

/-- **A load that fails leaves nothing behind.** -/
theorem cached_of_lookup_error {fault : LoadFault} (h : s.lookup.1 = .error fault) :
    s.lookup.2.cached = none := by
  cases hc : s.cached with
  | some k =>
    rw [lookup_cached hc] at h
    cases h
  | none =>
    rw [lookup_session, h, hc]
    rfl

end Session

/-! ## The run of a script -/

/-- The session is what a past has made of another one, as far as loads go. -/
structure Fits (s₀ s : Session) (past : List Happening) : Prop where
  plugins : s.plugins = pluginsAfter s₀.plugins past
  settings : s.settings = settingsAfter s₀.settings past
  cached : s.cached = keptAfter s₀.cached past

namespace Fits

variable {α : Type} {s₀ s : Session} {past before after : List Happening}
  {o : Except LoadFault Catalogue}

theorem start (s : Session) : Fits s s [] := ⟨rfl, rfl, rfl⟩

theorem change (h : Fits s₀ s past) (c : Change) : Fits s₀ (c.make s) (past ++ [.changed c]) := by
  obtain ⟨hplugins, hsettings, hcached⟩ := h
  constructor
  · rw [pluginsAfter_append, ← hplugins]
    cases c <;> rfl
  · rw [settingsAfter_append, ← hsettings]
    cases c <;> rfl
  · rw [keptAfter_append, ← hcached]
    cases c <;> rfl

theorem lookup (h : Fits s₀ s past) :
    Fits s₀ s.lookup.2 (past ++ [.lookedUp s.lookup.1]) := by
  obtain ⟨hplugins, hsettings, hcached⟩ := h
  rw [s.lookup_session]
  constructor
  · rw [pluginsAfter_append, ← hplugins]
    rfl
  · rw [settingsAfter_append, ← hsettings]
    rfl
  · rw [keptAfter_append, ← hcached]
    rfl

/-- **The run invariant**: each lookup of a run is made by a session that fits what
happened before it. -/
theorem exists_at_lookup (script : Script α) (h : Fits s₀ s past)
    (hh : script.history s = before ++ .lookedUp o :: after) :
    ∃ s', Fits s₀ s' (past ++ before) ∧ s'.lookup.1 = o := by
  induction script generalizing s past before with
  | done outcome => simp [Script.history] at hh
  | fetch name next ih => exact ih _ h hh
  | lookUp next ih =>
    cases before with
    | nil =>
      obtain ⟨ho, _⟩ := List.cons.inj hh
      cases ho
      exact ⟨s, by simpa using h, rfl⟩
    | cons event before =>
      obtain ⟨rfl, hrest⟩ := List.cons.inj hh
      obtain ⟨s', hfits, ho⟩ := ih _ h.lookup hrest
      exact ⟨s', by simpa using hfits, ho⟩
  | change c next ih =>
    cases before with
    | nil => cases (List.cons.inj hh).1
    | cons event before =>
      obtain ⟨rfl, hrest⟩ := List.cons.inj hh
      obtain ⟨s', hfits, ho⟩ := ih (h.change c) hrest
      exact ⟨s', by simpa using hfits, ho⟩

/-- At its end a run fits all that happened. -/
theorem run (script : Script α) (h : Fits s₀ s past) :
    Fits s₀ (script.run s).2 (past ++ script.history s) := by
  induction script generalizing s past with
  | done outcome =>
    rw [Script.history, List.append_nil]
    exact h
  | fetch name next ih => exact ih _ h
  | lookUp next ih =>
    rw [Script.history, List.append_cons]
    exact ih _ h.lookup
  | change c next ih =>
    rw [Script.history, List.append_cons]
    exact ih (h.change c)

end Fits

section

variable {α : Type} {s : Session} {script : Script α} {before middle after : List Happening}
  {k : Catalogue} {o : Except LoadFault Catalogue}

/-- **Kept until cleared**: lookups after a load see what was loaded. -/
theorem kept_until_cleared
    (h : script.history s = before ++ .lookedUp (.ok k) :: (middle ++ .lookedUp o :: after))
    (hmiddle : .changed .clearCatalogue ∉ middle) : o = .ok k := by
  obtain ⟨s₁, hfits₁, hk⟩ := Fits.exists_at_lookup script (Fits.start s) h
  rw [List.nil_append] at hfits₁
  have hloaded : keptAfter s.cached (before ++ [.lookedUp (.ok k)]) = some k := by
    rw [← hk, ← hfits₁.lookup.cached]
    exact Session.cached_lookup hk
  have h' : script.history s =
      (before ++ [.lookedUp (.ok k)] ++ middle) ++ .lookedUp o :: after := by
    rw [h]
    simp
  obtain ⟨s₂, hfits₂, ho⟩ := Fits.exists_at_lookup script (Fits.start s) h'
  have hcached : s₂.cached = some k := by
    rw [hfits₂.cached, List.nil_append, keptAfter_append, hloaded,
      keptAfter_of_not_cleared hmiddle]
  rw [← ho, Session.lookup_cached hcached]

/-- **Fresh if nothing is kept**: a lookup is a load of its own. -/
theorem fresh_if_nothingKept (h : script.history s = before ++ .lookedUp o :: after)
    (hstart : s.cached = none) (hbefore : NothingKept before) :
    o = (Catalogue.load (settingsAfter s.settings before) (pluginsAfter s.plugins before)).1 := by
  obtain ⟨s', hfits, ho⟩ := Fits.exists_at_lookup script (Fits.start s) h
  rw [List.nil_append] at hfits
  have hcached : s'.cached = none := by
    rw [hfits.cached, hstart]
    exact nothingKept_iff.mp hbefore
  rw [← ho, Session.lookup_fresh hcached, hfits.plugins, hfits.settings]

end

/-! ## All of it -/

/-- **Lookups are free of history**, in whatever way a script looks the catalogue up, and
changes, clears and fails in between. Any steps in sequence are such a script
(`scripted_attemptAll`). -/
theorem lookups_history_free {α : Type} (plugins : List Plugin) (script : Script α) :
    (∀ before k middle o after,
      script.history (.start plugins) =
        before ++ .lookedUp (.ok k) :: (middle ++ .lookedUp o :: after) →
      .changed .clearCatalogue ∉ middle → o = .ok k) ∧
    (∀ before o after, script.history (.start plugins) = before ++ .lookedUp o :: after →
      NothingKept before →
      o = (Catalogue.load (settingsAfter [] before) (pluginsAfter plugins before)).1) ∧
    (∀ (s : Session) fault, s.lookup.1 = .error fault → s.lookup.2.cached = none) ∧
    ∀ before o after, script.history (.start plugins) = before ++ .lookedUp o :: after →
      NothingKept before → ∀ entries,
      (settingsAfter [] before).lookup "catalogue" = some (.table entries) →
      entries.lookup "load_plugins" = some (.bool false) →
      ∃ k, Catalogue.build KnowledgeBase.shipped = .ok k ∧ o = .ok k := by
  refine ⟨fun _ _ _ _ _ h hmiddle => kept_until_cleared h hmiddle,
    fun _ _ _ h hbefore => fresh_if_nothingKept h rfl hbefore,
    fun _ _ h => Session.cached_of_lookup_error h, ?_⟩
  intro before o after h hbefore entries hsection hfield
  have hforbidden : Settings.CatalogueSettings.allowsPlugins entries = false := by
    rw [Settings.CatalogueSettings.allowsPlugins, hfield]
  obtain ⟨k, hbuild, hk⟩ := Catalogue.ofPlugins_nil
  refine ⟨k, hbuild, ?_⟩
  have hfresh : o = (Catalogue.load (settingsAfter [] before) (pluginsAfter plugins before)).1 :=
    fresh_if_nothingKept h rfl hbefore
  rw [hfresh, Catalogue.load_eq (congrArg (Option.getD · (.table [])) hsection), hforbidden]
  exact hk

/-- A plugin that leaves a CPU without its fields. -/
def Plugin.breaking : Plugin :=
  ⟨fun base => { base with cpus := base.cpus.put "cortex-m4" ⟨none, none, none⟩ }⟩

/-- Settings that forbid plugins. -/
def withoutPlugins : Settings.Entries := [("catalogue", .table [("load_plugins", .bool false)])]

/-- Lookups before and after plugins change, after a clearing, and under other settings. -/
def Script.fourLookups : Script Unit :=
  .lookUp fun _ => .change (.setPlugins [.breaking]) <|
    .lookUp fun _ => .change .clearCatalogue <|
      .lookUp fun _ => .change (.setSettings withoutPlugins) <|
        .lookUp fun _ => .done (.ok ())

theorem fourLookups_history :
    ∃ k k', Catalogue.ofPlugins [.cortexM52] = .ok k ∧
      Catalogue.build KnowledgeBase.shipped = .ok k' ∧
      Script.fourLookups.history (.start [.cortexM52]) = [.lookedUp (.ok k),
        .changed (.setPlugins [.breaking]), .lookedUp (.ok k), .changed .clearCatalogue,
        .lookedUp (.error (.missingKey "arch")), .changed (.setSettings withoutPlugins),
        .lookedUp (.ok k')] := by
  have hm52 : failure? (Catalogue.build (KnowledgeBase.shipped.extend [.cortexM52])) = none := by
    rw [failure?_build]
    decide +kernel
  have hbroken : failure? (Catalogue.build (KnowledgeBase.shipped.extend [.breaking])) =
      some ⟨"arch"⟩ := by
    rw [failure?_build]
    decide +kernel
  obtain ⟨k, hk⟩ := failure?_eq_none_iff.mp hm52
  obtain ⟨o₁, o₂, o₃, o₄, hh⟩ : ∃ o₁ o₂ o₃ o₄, Script.fourLookups.history (.start [.cortexM52]) =
      [.lookedUp o₁, .changed (.setPlugins [.breaking]), .lookedUp o₂, .changed .clearCatalogue,
        .lookedUp o₃, .changed (.setSettings withoutPlugins), .lookedUp o₄] := ⟨_, _, _, _, rfl⟩
  obtain ⟨hkept, hfresh, _, hforbidden⟩ := lookups_history_free [.cortexM52] .fourLookups
  -- each outcome is known before the next one is looked at
  have ho₁ : o₁ = .ok k := by
    rw [hfresh [] o₁ _ hh (nothingKept_iff.mpr rfl), Catalogue.load_eq rfl]
    show Catalogue.ofPlugins [.cortexM52] = .ok k
    rw [Catalogue.ofPlugins, hk]
  subst ho₁
  have ho₂ : o₂ = .ok k := hkept [] k [.changed (.setPlugins [.breaking])] o₂ _ hh (by simp)
  subst ho₂
  have ho₃ : o₃ = .error (.missingKey "arch") := by
    rw [hfresh [_, _, _, _] o₃ _ hh (nothingKept_iff.mpr rfl), Catalogue.load_eq rfl]
    show Catalogue.ofPlugins [.breaking] = _
    rw [Catalogue.ofPlugins, failure?_eq_some_iff.mp hbroken]
  subst ho₃
  obtain ⟨k', hk', ho₄⟩ := hforbidden [_, _, _, _, _, _] o₄ _ hh (nothingKept_iff.mpr rfl)
    [("load_plugins", .bool false)] rfl rfl
  subst ho₄
  exact ⟨k, k', by rw [Catalogue.ofPlugins, hk], hk', hh⟩

end CortexFlags
