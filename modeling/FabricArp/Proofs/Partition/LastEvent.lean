import FabricArp.Proofs.Partition.Effect
import Mathlib.Data.List.Induction

namespace FabricArp

namespace Event

/-- The event is about the point: a link there, the port itself, or the loss of its device. -/
def Touches (point : Point) : Event → Prop
  | .linkAdded link | .linkRemoved link => point ∈ link.endpoints
  | .portAdded device port | .portUpdated device port =>
      port.enabled ∧ point = ⟨device, port.number⟩
  | .portRemoved device port => point = ⟨device, port.number⟩
  | .deviceRemoved device => point.device = device
  | .linkUpdated _ | .deviceAdded _ | .deviceUpdated _ | .deviceAvailabilityChanged _
  | .deviceMastershipChanged _ | .deviceSuspended _ => False

instance (point : Point) : DecidablePred (Touches point)
  | .linkAdded link | .linkRemoved link =>
      inferInstanceAs (Decidable (point ∈ link.endpoints))
  | .portAdded device port | .portUpdated device port =>
      inferInstanceAs (Decidable (port.enabled ∧ point = ⟨device, port.number⟩))
  | .portRemoved device port => inferInstanceAs (Decidable (point = ⟨device, port.number⟩))
  | .deviceRemoved device => inferInstanceAs (Decidable (point.device = device))
  | .linkUpdated _ | .deviceAdded _ | .deviceUpdated _ | .deviceAvailabilityChanged _
  | .deviceMastershipChanged _ | .deviceSuspended _ => inferInstanceAs (Decidable False)

def settled? : Event → Option PortState
  | .linkAdded _ => some .internal
  | .linkRemoved _ | .portAdded .. | .portUpdated .. => some .external
  | .portRemoved .. | .deviceRemoved _ | .linkUpdated _ | .deviceAdded _ | .deviceUpdated _
  | .deviceAvailabilityChanged _ | .deviceMastershipChanged _ | .deviceSuspended _ => none

def lastTouching? (point : Point) (events : List Event) : Option Event :=
  (events.filter fun event => event.Touches point).getLast?

theorem effect?_eq (point : Point) (event : Event) :
    event.effect? point = if event.Touches point then some event.settled? else none := by
  cases event <;> rfl

variable {point : Point} {event : Event} {events : List Event}

theorem lastTouching?_concat_of_touches (h : event.Touches point) :
    lastTouching? point (events ++ [event]) = some event := by
  have hkept : [event].filter (fun event => event.Touches point) = [event] :=
    List.filter_cons_of_pos (decide_eq_true h)
  rw [lastTouching?, List.filter_append, hkept, List.getLast?_concat]

theorem lastTouching?_concat_of_not_touches (h : ¬event.Touches point) :
    lastTouching? point (events ++ [event]) = lastTouching? point events := by
  have hdropped : [event].filter (fun event => event.Touches point) = [] :=
    List.filter_cons_of_neg (by rwa [decide_eq_true_eq])
  rw [lastTouching?, List.filter_append, hdropped, List.append_nil, lastTouching?]

end Event

namespace PortTable

variable {table : PortTable} {event : Event} {point : Point}

theorem state?_observe_of_touches (h : event.Touches point) :
    (table.observe event).state? point = event.settled? := by
  rw [state?_observe, Event.effect?_eq, if_pos h, Option.getD_some]

theorem state?_observe_of_not_touches (h : ¬event.Touches point) :
    (table.observe event).state? point = table.state? point := by
  rw [state?_observe, Event.effect?_eq, if_neg h, Option.getD_none]

theorem observeAll_concat (table : PortTable) (events : List Event) (event : Event) :
    table.observeAll (events ++ [event]) = (table.observeAll events).observe event := by
  rw [observeAll, List.foldl_append]
  rfl

theorem state?_observeAll (table : PortTable) (events : List Event) (point : Point) :
    (table.observeAll events).state? point =
      match Event.lastTouching? point events with
      | some event => event.settled?
      | none => table.state? point := by
  -- The last event comes first: either it decides, or the state is the one it found.
  induction events using List.reverseRecOn with
  | nil => rfl
  | append_singleton events event ih =>
      rw [observeAll_concat]
      by_cases htouches : event.Touches point
      · rw [state?_observe_of_touches htouches, Event.lastTouching?_concat_of_touches htouches]
      · rw [state?_observe_of_not_touches htouches,
          Event.lastTouching?_concat_of_not_touches htouches, ih]

/-- After any feed, the last event that touches a point settles its state; feeds with the same
last event for every point lead to the same table. -/
theorem observeAll_eq_of_lastTouching (table : PortTable) (events : List Event) :
    (∀ point, (table.observeAll events).state? point =
      match Event.lastTouching? point events with
      | some event => event.settled?
      | none => table.state? point) ∧
    ∀ others, (∀ point, Event.lastTouching? point others = Event.lastTouching? point events) →
      table.observeAll others = table.observeAll events := by
  refine ⟨table.state?_observeAll events, ?_⟩
  intro others hlast
  apply ext_state?
  intro point
  rw [state?_observeAll, state?_observeAll, hlast]

end PortTable

end FabricArp
