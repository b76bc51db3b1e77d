import CortexFlags.Proofs.Logging.Delivery

/-! What a run of activations and records leaves on the console and in the log files.

* `Handler.Puts`: what a handler puts at a target for a record that it gets;
* `textTo_eq_writtenBy`: the text of a log file that one handler alone writes to;
* `Journal.textAt_emit`, `Journal.textAt_activate`, `Journal.textAt_run`: a text only grows, by what
  its handlers put there. -/

namespace CortexFlags

/-! ## What handlers put at a target -/

/-- The log file of a sink, or none for the console. -/
def Sink.target : Sink → Option Place
  | console _ => none
  | file place => some place

theorem Sink.target_eq_some_iff {sink : Sink} {place : Place} :
    sink.target = some place ↔ sink = .file place := by
  cases sink <;> simp [target]

/-- What a handler puts at a target for a record: its line, or on the console a report. -/
def Handler.part? (report : Handler → Record → String) (target : Option Place) (h : Handler)
    (r : Record) : Option String :=
  match h.line r with
  | some line => if h.sink.target = target then some line else none
  | none => if target = none then some (report h r) else none

/-- A line shows the record and goes to the sink of the handler. A record that the handler cannot
show is reported on the console instead. -/
inductive Handler.Puts (report : Handler → Record → String) (target : Option Place) (h : Handler)
    (r : Record) : Option String → Prop
  | here {line : String} : h.Shows r line → h.sink.target = target → Puts report target h r line
  | elsewhere : h.CanShow r → h.sink.target ≠ target → Puts report target h r none
  | reported : ¬ h.CanShow r → target = none → Puts report target h r (report h r)
  | nothing : ¬ h.CanShow r → target ≠ none → Puts report target h r none

theorem Handler.puts_part? (report : Handler → Record → String) (target : Option Place)
    (h : Handler) (r : Record) : h.Puts report target r (h.part? report target r) := by
  unfold part?
  cases hline : h.line r with
  | some line =>
    dsimp only
    split
    · exact .here (shows_of_line hline) ‹_›
    · exact .elsewhere ⟨line, shows_of_line hline⟩ ‹_›
  | none =>
    have hshows : ¬ h.CanShow r := by simp [canShow_iff, hline]
    dsimp only
    split
    · exact .reported hshows ‹_›
    · exact .nothing hshows ‹_›

/-- All that is put at a target. -/
def textTo (report : Handler → Record → String) (target : Option Place) (ds : List Delivery) :
    String :=
  String.join (ds.filterMap fun d => d.handler.part? report target d.record)

variable {report : Handler → Record → String}

theorem textTo_append (target : Option Place) (a b : List Delivery) :
    textTo report target (a ++ b) = textTo report target a ++ textTo report target b := by
  simp [textTo, String.join_append]

/-- If one handler alone writes to a log file, the text there is its lines. -/
theorem textTo_eq_writtenBy (report : Handler → Record → String) {place : Place} {n : Nat}
    {ds : List Delivery}
    (honly : ∀ d ∈ ds, d.handler.sink.target = some place ↔ d.position = n) :
    textTo report (some place) ds = String.join ((writtenBy n ds).map Prod.snd) := by
  unfold textTo writtenBy
  rw [List.map_filterMap, List.filterMap_filter]
  refine congrArg String.join (List.filterMap_congr fun d hd => ?_)
  have hplace := honly d hd
  unfold Handler.part?
  cases d.handler.line d.record with
  | none => by_cases hn : d.position = n <;> simp [hn]
  | some line => by_cases hn : d.position = n <;> simp [hn, hplace]

namespace Journal

variable {j : Journal} {s : LogStep} {steps : List LogStep} {style : ConsoleStyle}
  {request : LogRequest} {r : Record} {target : Option Place} {old : String}

/-- The text at a target: on the console, or in a log file that is there. -/
def textAt (j : Journal) : Option Place → Option String
  | none => some j.console
  | some place => j.files.lookup place

/-! ## A text only grows -/

theorem textAt_write (j : Journal) (sink : Sink) (text : String) (target : Option Place) :
    (j.write sink text).textAt target =
      (j.textAt target).map fun old => if sink.target = target then old ++ text else old := by
  cases sink with
  | console coloured => cases target <;> simp [write, textAt, Sink.target]
  | file place =>
    cases target with
    | none => simp [write, textAt, Sink.target]
    | some other => simp [write, textAt, Sink.target, Files.lookup_append]

theorem textAt_writeRecord (h : Handler) (hold : j.textAt target = some old) :
    (j.writeRecord r h).textAt target =
      some (old ++ (h.part? j.report target r).getD "") := by
  unfold writeRecord Handler.part?
  cases h.line r with
  | some line =>
    dsimp only
    rw [textAt_write, hold]
    by_cases hsink : h.sink.target = target <;> simp [hsink]
  | none =>
    cases target with
    | none =>
      cases hold
      rfl
    | some place => simpa [textAt] using hold

theorem textAt_foldl_writeRecord (hs : List Handler) (hold : j.textAt target = some old) :
    (hs.foldl (fun j h => j.writeRecord r h) j).textAt target =
      some (old ++ String.join (hs.filterMap (·.part? j.report target r))) := by
  induction hs generalizing j old with
  | nil => simpa using hold
  | cons h hs ih =>
    rw [List.foldl_cons, ih (textAt_writeRecord h hold), (writeRecord_frame j r h).2]
    cases hpart : h.part? j.report target r <;> simp [hpart, String.append_assoc]

theorem textTo_deliveries {hub : Hub} (h : hub.handlers ≠ []) (target : Option Place)
    (r : Record) : textTo report target (hub.deliveries r) =
      String.join ((hub.receivers r).filterMap (·.part? report target r)) := by
  rw [← Hub.map_handler_deliveries h, List.filterMap_map]
  refine congrArg String.join (List.filterMap_congr fun d hd => ?_)
  have hrecord : d.record = r := by
    unfold Hub.deliveries at hd
    split at hd
    · obtain ⟨entry, -, rfl⟩ := List.mem_map.mp hd
      rfl
    · cases hd
  rw [hrecord]
  rfl

theorem textAt_emit (h : j.hub.handlers ≠ []) (r : Record) (hold : j.textAt target = some old) :
    (j.emit r).textAt target = some (old ++ textTo j.report target (j.hub.deliveries r)) := by
  rw [textTo_deliveries h]
  exact textAt_foldl_writeRecord (j := { j with hub := j.hub.heard r.event }) _ hold

/-- An activation writes nothing, and keeps what is there. -/
theorem textAt_activate (h : j.Succeeds (.activate style request))
    (hold : j.textAt target = some old) :
    (j.step (.activate style request)).textAt target = some old := by
  obtain ⟨files, place, added, hopens, -, hstep⟩ := hub_activate h
  rw [hstep]
  cases target with
  | none => exact hold
  | some other => exact hopens.lookup_eq hold

theorem textAt_step (hhandlers : j.hub.handlers ≠ []) (h : j.Succeeds s)
    (hold : j.textAt target = some old) :
    (j.step s).textAt target = some (old ++ textTo j.report target (j.hub.deliver s)) := by
  have hsilent : some (old ++ textTo j.report target []) = some old := by simp [textTo]
  cases s with
  | emit r => exact textAt_emit hhandlers r hold
  | know logger => exact hold.trans hsilent.symm
  | activate style request => exact (textAt_activate h hold).trans hsilent.symm

theorem handlers_ne_nil_step (hhandlers : j.hub.handlers ≠ []) (h : j.Succeeds s) :
    (j.step s).hub.handlers ≠ [] := by
  obtain ⟨added, hadded, -⟩ := exists_added_step h
  rw [hadded]
  exact List.append_ne_nil_of_left_ne_nil hhandlers _

/-- **Nothing else is written**: once there are handlers, a text grows by what these put there. -/
theorem textAt_run (hhandlers : j.hub.handlers ≠ []) (h : j.Completes steps)
    (hold : j.textAt target = some old) :
    (j.run steps).textAt target = some (old ++ textTo j.report target (j.deliveries steps)) := by
  induction steps generalizing j old with
  | nil => exact hold.trans (congrArg some String.append_empty.symm)
  | cons s steps ih =>
    have hlater := ih (handlers_ne_nil_step hhandlers h.1) h.2 (textAt_step hhandlers h.1 hold)
    rw [report_step h.1, String.append_assoc, ← textTo_append] at hlater
    exact hlater

end Journal

end CortexFlags
