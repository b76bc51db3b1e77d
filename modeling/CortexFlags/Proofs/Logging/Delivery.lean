import CortexFlags.Proofs.Logging.Lines
import CortexFlags.Proofs.Logging.Passing

/-! What every handler gets in a run, and what it makes of it.

* `Hub.deliveries`: the records that handlers get, with the handlers that receive them by
  `Hub.map_handler_deliveries`;
* `Journal.received_run`: a handler that is there gets every record that passes and that it accepts;
* `Journal.writtenBy_run`: it puts out those which it can show, each with its line. -/

namespace CortexFlags

/-- A record that a handler gets, and the position of the handler among all. -/
structure Delivery where
  position : Nat
  handler : Handler
  record : Record

/-- The records that the handler at a position gets. -/
def received (n : Nat) (ds : List Delivery) : List Record :=
  (ds.filter (·.position = n)).map Delivery.record

/-- What the handler at a position puts out: the records that it shows, each with its line. -/
def writtenBy (n : Nat) (ds : List Delivery) : List (Record × String) :=
  (ds.filter (·.position = n)).filterMap fun d => (d.handler.line d.record).map (d.record, ·)

namespace Hub

def deliveries (hub : Hub) (r : Record) : List Delivery :=
  if hub.passes r.event then
    (hub.handlers.zipIdx.filter (·.1.accepts r)).map fun (h, n) => ⟨n, h, r⟩
  else []

/-- The deliveries of a step. -/
def deliver (hub : Hub) : LogStep → List Delivery
  | .emit r => hub.deliveries r
  | .activate _ _ | .know _ => []

end Hub

/-! ## The deliveries of a step -/

theorem received_append (n : Nat) (a b : List Delivery) :
    received n (a ++ b) = received n a ++ received n b := by
  simp [received]

theorem writtenBy_append (n : Nat) (a b : List Delivery) :
    writtenBy n (a ++ b) = writtenBy n a ++ writtenBy n b := by
  simp [writtenBy]

theorem writtenBy_of_received_nil {n : Nat} {ds : List Delivery} (h : received n ds = []) :
    writtenBy n ds = [] := by
  rw [writtenBy, List.map_eq_nil_iff.mp h, List.filterMap_nil]

/-- A handler puts out the lines of what it gets. -/
theorem writtenBy_eq_lines {n : Nat} {handler : Handler} {ds : List Delivery}
    (hhandler : ∀ d ∈ ds, d.position = n → d.handler = handler) :
    writtenBy n ds = handler.lines (received n ds) := by
  rw [writtenBy, Handler.lines, received, List.filterMap_map]
  refine List.filterMap_congr fun d hd => ?_
  obtain ⟨hmem, hposition⟩ := List.mem_filter.mp hd
  rw [hhandler d hmem (of_decide_eq_true hposition)]
  rfl

/-- The entry at one position. -/
theorem filter_zipIdx {α : Type} (l : List α) (start n : Nat) :
    (l.zipIdx start).filter (·.2 = start + n) = (l[n]?.map (·, start + n)).toList := by
  induction l generalizing start n with
  | nil => rfl
  | cons a l ih =>
    cases n with
    | zero =>
      have hlater : (l.zipIdx (start + 1)).filter (·.2 = start) = [] := by
        rw [List.filter_eq_nil_iff]
        rintro ⟨b, i⟩ hb
        have := List.le_snd_of_mem_zipIdx hb
        simp
        omega
      simp [List.zipIdx_cons, hlater]
    | succ n =>
      have hlater := ih (start + 1) n
      rw [Nat.add_right_comm, Nat.add_assoc] at hlater
      simp [List.zipIdx_cons, hlater]

namespace Hub

variable {hub : Hub} {handler : Handler} {n : Nat}

/-- Deliveries go to the handlers that receive the record. -/
theorem map_handler_deliveries (h : hub.handlers ≠ []) (r : Record) :
    (hub.deliveries r).map Delivery.handler = hub.receivers r := by
  have hhandlers : hub.handlersOf r.event.logger = hub.handlers := by
    simp [handlersOf, h]
  unfold receivers deliveries
  rw [hhandlers]
  cases hub.passes r.event with
  | false => rfl
  | true =>
    have hpositions := congrArg (List.filter (·.accepts r)) (List.zipIdx_map_fst 0 hub.handlers)
    rw [if_pos rfl, if_pos rfl, List.map_map, ← hpositions, List.filter_map]
    rfl

theorem received_deliveries (hub : Hub) (r : Record) (n : Nat) :
    received n (hub.deliveries r) =
      if hub.passes r.event && hub.handlers[n]?.any (·.accepts r) then [r] else [] := by
  have hentry := filter_zipIdx hub.handlers 0 n
  simp only [Nat.zero_add] at hentry
  unfold received deliveries
  cases hub.passes r.event with
  | false => rfl
  | true =>
    -- the handler at the position is looked up first, then asked whether it accepts the record
    have hcommute : (hub.handlers.zipIdx.filter (·.1.accepts r)).filter (·.2 = n) =
        (hub.handlers.zipIdx.filter (·.2 = n)).filter (·.1.accepts r) := by
      rw [List.filter_filter, List.filter_filter]
      exact List.filter_congr fun _ _ => Bool.and_comm _ _
    rw [if_pos rfl, List.filter_map, List.map_map]
    show ((hub.handlers.zipIdx.filter (·.1.accepts r)).filter (·.2 = n)).map (fun _ => r) = _
    rw [hcommute, hentry, Bool.true_and]
    cases hub.handlers[n]? with
    | none => rfl
    | some handler => cases haccepts : handler.accepts r <;> simp [haccepts]

theorem received_deliver (hn : hub.handlers[n]? = some handler) (s : LogStep) :
    received n (hub.deliver s) = (hub.letPass s).filter handler.accepts := by
  cases s with
  | activate | know => rfl
  | emit r =>
    rw [deliver, letPass, received_deliveries, hn]
    cases hpasses : hub.passes r.event <;> cases haccepts : handler.accepts r <;> simp [haccepts]

theorem received_deliver_of_none (hn : hub.handlers[n]? = none) (s : LogStep) :
    received n (hub.deliver s) = [] := by
  cases s with
  | activate | know => rfl
  | emit r => simp [deliver, received_deliveries, hn]

theorem getElem?_of_mem_deliver {s : LogStep} {d : Delivery} (hd : d ∈ hub.deliver s) :
    hub.handlers[d.position]? = some d.handler := by
  cases s with
  | activate | know => cases hd
  | emit r =>
    simp only [deliver, deliveries] at hd
    split at hd
    · obtain ⟨⟨handler, n⟩, hmem, rfl⟩ := List.mem_map.mp hd
      exact List.mem_zipIdx_iff_getElem?.mp (List.mem_filter.mp hmem).1
    · cases hd

end Hub

/-! ## What a handler gets in a run -/

namespace Journal

variable {j : Journal} {steps : List LogStep} {handler : Handler} {n : Nat}

def deliveries : Journal → List LogStep → List Delivery := along Hub.deliver

/-- **Each once, and in order**: a handler gets those of the records that pass their loggers
which it accepts. -/
theorem received_run (h : j.Completes steps) (hn : j.hub.handlers[n]? = some handler) :
    received n (j.deliveries steps) = (j.passed steps).filter handler.accepts := by
  induction steps generalizing j with
  | nil => rfl
  | cons s steps ih =>
    have hlater : received n ((j.step s).deliveries steps) =
        ((j.step s).passed steps).filter handler.accepts :=
      ih h.2 (getElem?_run (completes_singleton_iff.mpr h.1) hn)
    rw [deliveries, along, received_append, Hub.received_deliver hn, passed, along,
      List.filter_append]
    exact congrArg _ hlater

/-- Before it is added a handler gets nothing. -/
theorem received_of_length_le (h : j.Completes steps)
    (hn : (j.run steps).hub.handlers.length ≤ n) : received n (j.deliveries steps) = [] := by
  induction steps generalizing j with
  | nil => rfl
  | cons s steps ih =>
    obtain ⟨added, hadded, -⟩ := exists_added_run h
    have hnone : j.hub.handlers[n]? = none := by
      rw [List.getElem?_eq_none_iff]
      rw [hadded, List.length_append] at hn
      omega
    have hlater : received n ((j.step s).deliveries steps) = [] := ih h.2 hn
    rw [deliveries, along, received_append, Hub.received_deliver_of_none hnone]
    exact hlater

/-- Who gets a record is there at the end. -/
theorem getElem?_of_mem_deliveries {d : Delivery} (h : j.Completes steps)
    (hd : d ∈ j.deliveries steps) : (j.run steps).hub.handlers[d.position]? = some d.handler := by
  induction steps generalizing j with
  | nil => cases hd
  | cons s steps ih =>
    rcases List.mem_append.mp hd with hd | hd
    · exact getElem?_run h (Hub.getElem?_of_mem_deliver hd)
    · exact ih h.2 hd

/-- **Put out**: of the records that it gets a handler puts out the lines that show them. -/
theorem writtenBy_run (h : j.Completes steps) (hn : j.hub.handlers[n]? = some handler) :
    writtenBy n (j.deliveries steps) = handler.lines ((j.passed steps).filter handler.accepts) := by
  rw [← received_run h hn]
  refine writtenBy_eq_lines fun d hd hposition => ?_
  have hthere := getElem?_of_mem_deliveries h hd
  rw [hposition, getElem?_run h hn, Option.some_inj] at hthere
  exact hthere.symm

end Journal

end CortexFlags
