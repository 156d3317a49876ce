import FabricArp.Partition.Upkeep

/-! What one event does to the table, point by point. -/

namespace FabricArp

/-- What an event makes of a point, or `none` if it does not touch the point. -/
def Event.effect? (point : Point) : Event → Option (Option PortState)
  | .linkAdded link => if point ∈ link.endpoints then some (some .internal) else none
  | .linkRemoved link => if point ∈ link.endpoints then some (some .external) else none
  | .portAdded device port | .portUpdated device port =>
      if port.enabled ∧ point = ⟨device, port.number⟩ then some (some .external) else none
  | .portRemoved device port => if point = ⟨device, port.number⟩ then some none else none
  | .deviceRemoved device => if point.device = device then some none else none
  | .linkUpdated _ | .deviceAdded _ | .deviceUpdated _ | .deviceAvailabilityChanged _
  | .deviceMastershipChanged _ | .deviceSuspended _ => none

namespace PortTable

private theorem state?_portUp (table : PortTable) (device : DeviceId) (port : Port)
    (point : Point) :
    (table.portUp device port).state? point =
      if port.enabled ∧ point = ⟨device, port.number⟩ then some .external
      else table.state? point := by
  unfold portUp
  split
  · rename_i henabled
    simp [toExternal, state?_setAll, henabled]
  · rename_i hdisabled
    simp [hdisabled]

theorem state?_observe (table : PortTable) (event : Event) (point : Point) :
    (table.observe event).state? point =
      (event.effect? point).getD (table.state? point) := by
  cases event with
  | linkAdded link =>
      rw [observe, toInternal, state?_setAll, Event.effect?]
      split <;> rfl
  | linkRemoved link =>
      rw [observe, toExternal, state?_setAll, Event.effect?]
      split <;> rfl
  | portAdded device port =>
      rw [observe, state?_portUp, Event.effect?]
      split <;> rfl
  | portUpdated device port =>
      rw [observe, state?_portUp, Event.effect?]
      split <;> rfl
  | portRemoved device port =>
      rw [observe, state?_removePort, Event.effect?]
      split <;> rfl
  | deviceRemoved device =>
      rw [observe, state?_removeDevice, Event.effect?]
      split <;> rfl
  | linkUpdated _ | deviceAdded _ | deviceUpdated _ | deviceAvailabilityChanged _
  | deviceMastershipChanged _ | deviceSuspended _ => rfl

end PortTable

end FabricArp
