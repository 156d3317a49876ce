import FabricArp.Proofs.Partition.LastEvent
import FabricArp.Proofs.Partition.Ledger

namespace FabricArp

namespace Ledger

def Lists (ledger : Ledger) (table : PortTable) : Prop :=
  ∀ point, table.state? point = some .external → point ∈ ledger.ports

/-- A link is removed from ports that the ledger lists. -/
def FreesListed (ledger : Ledger) : Event → Prop
  | .linkRemoved link => ∀ point ∈ link.endpoints, point ∈ ledger.ports
  | _ => True

instance (ledger : Ledger) : DecidablePred ledger.FreesListed
  | .linkRemoved link =>
      inferInstanceAs (Decidable (∀ point ∈ link.endpoints, point ∈ ledger.ports))
  | .linkAdded _ | .linkUpdated _ | .deviceAdded _ | .deviceUpdated _ | .deviceRemoved _
  | .deviceAvailabilityChanged _ | .deviceMastershipChanged _ | .deviceSuspended _
  | .portAdded .. | .portUpdated .. | .portRemoved .. => inferInstanceAs (Decidable True)

variable {ledger : Ledger} {table : PortTable} {event : Event} {events : List Event}
  {point : Point}

theorem recordAll_concat (ledger : Ledger) (events : List Event) (event : Event) :
    ledger.recordAll (events ++ [event]) = (ledger.recordAll events).record event := by
  rw [recordAll, List.foldl_append]
  rfl

theorem mem_record_of_not_touches (hpoint : point ∈ ledger.ports) (h : ¬event.Touches point) :
    point ∈ (ledger.record event).ports := by
  cases event with
  | portAdded device port | portUpdated device port =>
      rw [record]
      split
      · exact List.mem_cons_of_mem _ hpoint
      · exact hpoint
  | portRemoved device port => exact List.mem_filter.mpr ⟨hpoint, decide_eq_true h⟩
  | deviceRemoved device => exact List.mem_filter.mpr ⟨hpoint, decide_eq_true h⟩
  | linkAdded _ | linkUpdated _ | linkRemoved _ | deviceAdded _ | deviceUpdated _
  | deviceAvailabilityChanged _ | deviceMastershipChanged _ | deviceSuspended _ => exact hpoint

theorem mem_record_or_linkRemoved (ledger : Ledger) (htouches : event.Touches point)
    (hsettled : event.settled? = some .external) :
    point ∈ (ledger.record event).ports ∨
      ∃ link, event = .linkRemoved link ∧ point ∈ link.endpoints := by
  cases event with
  | portAdded device port | portUpdated device port =>
      obtain ⟨henabled, rfl⟩ := htouches
      rw [record, if_pos henabled]
      exact .inl List.mem_cons_self
  | linkRemoved link => exact .inr ⟨link, rfl, htouches⟩
  | linkAdded _ | linkUpdated _ | portRemoved _ _ | deviceRemoved _ | deviceAdded _
  | deviceUpdated _ | deviceAvailabilityChanged _ | deviceMastershipChanged _
  | deviceSuspended _ => cases hsettled

theorem lists_ofTopology (topology : Topology) :
    (ofTopology topology).Lists (.ofTopology topology) := by
  intro point hexternal
  apply Decidable.byContradiction
  intro hunknown
  have hstate : (PortTable.ofTopology topology).state? point = none :=
    PortTable.state?_rebuild_of_unknown hunknown
  rw [hstate] at hexternal
  cases hexternal

theorem lists_record (hlists : ledger.Lists table) (hfrees : ledger.FreesListed event) :
    (ledger.record event).Lists (table.observe event) := by
  intro point hexternal
  by_cases htouches : event.Touches point
  · rw [PortTable.state?_observe_of_touches htouches] at hexternal
    rcases ledger.mem_record_or_linkRemoved htouches hexternal with hlisted | ⟨link, rfl, hends⟩
    · exact hlisted
    · exact hfrees point hends
  · rw [PortTable.state?_observe_of_not_touches htouches] at hexternal
    exact mem_record_of_not_touches (hlists point hexternal) htouches

theorem lists_recordAll (hlists : ledger.Lists table) (hfeed : ledger.Along FreesListed events) :
    (ledger.recordAll events).Lists (table.observeAll events) := by
  induction events generalizing ledger table with
  | nil => exact hlists
  | cons event rest ih => exact ih (lists_record hlists hfeed.1) hfeed.2

theorem mem_recordAll_or_lastTouching (hlists : ledger.Lists table)
    (hexternal : (table.observeAll events).state? point = some .external) :
    point ∈ (ledger.recordAll events).ports ∨
      ∃ link, point ∈ link.endpoints ∧
        Event.lastTouching? point events = some (.linkRemoved link) := by
  induction events using List.reverseRecOn with
  | nil => exact .inl (hlists point hexternal)
  | append_singleton events event ih =>
      rw [PortTable.observeAll_concat] at hexternal
      rw [recordAll_concat]
      by_cases htouches : event.Touches point
      · rw [PortTable.state?_observe_of_touches htouches] at hexternal
        rw [Event.lastTouching?_concat_of_touches htouches]
        rcases (ledger.recordAll events).mem_record_or_linkRemoved htouches hexternal with
          hlisted | ⟨link, rfl, hends⟩
        · exact .inl hlisted
        · exact .inr ⟨link, hends, rfl⟩
      · rw [PortTable.state?_observe_of_not_touches htouches] at hexternal
        rw [Event.lastTouching?_concat_of_not_touches htouches]
        rcases ih hexternal with hlisted | hfreed
        · exact .inl (mem_record_of_not_touches hlisted htouches)
        · exact .inr hfreed

end Ledger

namespace Controller

/-- An external point is a port that was reported enabled and not taken away since, or one whose
last event removed a link there. -/
theorem external_points_reported (controller : Controller) (events : List Event) :
    (∀ point, (controller.classify.1.deliverAll events).table.state? point = some .external →
      point ∈ ((Ledger.ofTopology controller.topology).recordAll events).ports ∨
        ∃ link, point ∈ link.endpoints ∧
          Event.lastTouching? point events = some (.linkRemoved link)) ∧
    ((Ledger.ofTopology controller.topology).Along Ledger.FreesListed events →
      ∀ point, (controller.classify.1.deliverAll events).table.state? point = some .external →
        point ∈ ((Ledger.ofTopology controller.topology).recordAll events).ports) := by
  have hlists := Ledger.lists_ofTopology controller.topology
  constructor
  · intro point hexternal
    exact Ledger.mem_recordAll_or_lastTouching hlists hexternal
  · intro hfeed
    exact Ledger.lists_recordAll hlists hfeed

theorem external_points_reported_recabling :
    (Ledger.ofTopology (ofInventory (.twoDevices [cable])).topology).Along Ledger.FreesListed
      (recabling.take 3) ∧
    ((ofInventory (.twoDevices [cable])).classify.1.deliverAll
      (recabling.take 3)).table.state? cable.source = some .external ∧
    cable.source ∈ ((Ledger.ofTopology (ofInventory (.twoDevices [cable])).topology).recordAll
      (recabling.take 3)).ports :=
  ⟨by decide, by decide,
    (external_points_reported _ _).2 (by decide) cable.source (by decide)⟩

end Controller

def strayCable : Link := ⟨⟨⟨"a"⟩, 1⟩, ⟨⟨"c"⟩, 1⟩⟩

/-- A port that is known only from its link is external once the link is removed. -/
theorem Controller.external_points_not_always_reported :
    ¬∀ (controller : Controller) (events : List Event) (point : Point),
      (controller.classify.1.deliverAll events).table.state? point = some .external →
      point ∈ ((Ledger.ofTopology controller.topology).recordAll events).ports := by
  intro hall
  have hlisted := hall (ofInventory (.twoDevices []))
    [.linkAdded strayCable, .linkRemoved strayCable] strayCable.destination (by decide)
  exact absurd hlisted (by decide)

end FabricArp
