import CortexFlags.Proofs.Logging.Activation

/-! The handlers that a completed activation adds.

* `Adds`: that of the console, and that of the file if there is one;
* `activate_eq_ok_iff`: a completed activation opens the file, lets every record through to the
  handlers and adds its own after those that are there. -/

namespace CortexFlags

/-- The handler of a file takes records of all levels. -/
def fileHandler (place : Place) (layout : Layout) : Handler := ⟨.file place, .debug, layout⟩

/-- The handlers that are added for a request, whose file is at a place. -/
inductive LogRequest.Adds (request : LogRequest) (style : ConsoleStyle) :
    Option Place → List Handler → Prop
  | console {layout : Layout} : request.layout? style.settings.streamFormat = some layout →
      Adds request style none [request.consoleHandler style layout]
  | both {place : Place} {layout fileLayout : Layout} :
      request.layout? style.settings.streamFormat = some layout →
      request.layout? style.settings.fileFormat = some fileLayout →
      Adds request style (some place)
        [request.consoleHandler style layout, fileHandler place fileLayout]

/-- Every record passes on to the handlers, to which some are added, and debug traces are no
longer silent if they are asked for. Loggers forget what they remember. -/
def Hub.extended (hub : Hub) (debug : Bool) (added : List Handler) : Hub :=
  ⟨.debug, if debug then .debug else hub.debugLevel, hub.handlers ++ added, hub.loggers.forget⟩

theorem Hub.withTraces_letThrough (hub : Hub) (debug : Bool) (added : List Handler) :
    ({ hub.letThrough with handlers := hub.handlers ++ added } : Hub).withTraces debug =
      hub.extended debug added := by
  cases debug <;> rfl

namespace Journal

variable {style : ConsoleStyle} {request : LogRequest} {j j' : Journal}

theorem activate_eq_ok_iff :
    j.activate style request = (.ok (), j') ↔
      ∃ files place added, Opens j.files request.file files place ∧
        request.Adds style place added ∧
        j' = { j with hub := j.hub.extended request.debug added, files } := by
  -- two handlers that are added one after the other are added as a list
  have hboth : ∀ first second : Handler,
      (j.hub.letThrough.addHandler first).addHandler second =
        { j.hub.letThrough with handlers := j.hub.handlers ++ [first, second] } := by
    intro first second
    simp [Hub.letThrough, Hub.addHandler, Hub.setRootLevel]
  constructor
  · intro h
    cases activates_iff.mpr h with
    | withConsole hopens hconsole =>
      refine ⟨_, _, _, hopens, .console hconsole, ?_⟩
      rw [← Hub.withTraces_letThrough]
      rfl
    | withFile hopens hconsole hfile =>
      refine ⟨_, _, _, hopens, .both hconsole hfile, ?_⟩
      rw [← Hub.withTraces_letThrough, hboth]
      rfl
  · rintro ⟨files, place, added, hopens, hadds, rfl⟩
    rw [← Hub.withTraces_letThrough]
    cases hadds with
    | console hconsole => exact (Activates.withConsole hopens hconsole).activate_eq
    | both hconsole hfile =>
      rw [(Activates.withFile hopens hconsole hfile).activate_eq, hboth]
      rfl

/-- A completed activation adds a handler at least. -/
theorem length_handlers_lt_of_activate (h : j.activate style request = (.ok (), j')) :
    j.hub.handlers.length < j'.hub.handlers.length := by
  obtain ⟨files, place, added, -, hadds, rfl⟩ := activate_eq_ok_iff.mp h
  cases hadds <;> simp [Hub.extended]

end Journal

end CortexFlags
