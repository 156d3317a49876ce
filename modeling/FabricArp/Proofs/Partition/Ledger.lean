import FabricArp.Proofs.Partition.Effect
import FabricArp.Proofs.Partition.Rebuild
import FabricArp.Proxy.Feed

/-! The enabled ports and live links that a feed has reported so far. -/

namespace FabricArp

structure Ledger where
  ports : List Point
  links : List Link
deriving DecidableEq

namespace Ledger

def ofTopology (topology : Topology) : Ledger :=
  ⟨topology.enabledPoints, topology.links⟩

def record (ledger : Ledger) : Event → Ledger
  | .linkAdded link => { ledger with links := link :: ledger.links }
  | .linkRemoved link => { ledger with links := ledger.links.filter (· ≠ link) }
  | .portAdded device port | .portUpdated device port =>
      if port.enabled then { ledger with ports := ⟨device, port.number⟩ :: ledger.ports }
      else ledger
  | .portRemoved device port =>
      { ledger with ports := ledger.ports.filter (· ≠ ⟨device, port.number⟩) }
  | .deviceRemoved device =>
      { ledger with ports := ledger.ports.filter (·.device ≠ device) }
  | .linkUpdated _ | .deviceAdded _ | .deviceUpdated _ | .deviceAvailabilityChanged _
  | .deviceMastershipChanged _ | .deviceSuspended _ => ledger

def recordAll (ledger : Ledger) (events : List Event) : Ledger :=
  events.foldl record ledger

/-- Every live link ends on known ports, and two live links never end on one port. -/
structure Sound (ledger : Ledger) : Prop where
  known : ∀ link ∈ ledger.links, ∀ point ∈ link.endpoints, point ∈ ledger.ports
  apart : ∀ link ∈ ledger.links, ∀ other ∈ ledger.links, ∀ point ∈ link.endpoints,
    point ∈ other.endpoints → link = other

/-- A link between known ports without links, the end of a live link, or news of ports and devices
without links. -/
def Admits (ledger : Ledger) : Event → Prop
  | .linkAdded link =>
      (∀ point ∈ link.endpoints, point ∈ ledger.ports) ∧
        ∀ live ∈ ledger.links, ∀ point ∈ link.endpoints, point ∈ live.endpoints → live = link
  | .linkRemoved link => link ∈ ledger.links
  | .portAdded device port | .portUpdated device port =>
      port.enabled → ¬Carries ledger.links ⟨device, port.number⟩
  | .portRemoved device port => ¬Carries ledger.links ⟨device, port.number⟩
  | .deviceRemoved device =>
      ∀ live ∈ ledger.links, ∀ point ∈ live.endpoints, point.device ≠ device
  | .linkUpdated _ | .deviceAdded _ | .deviceUpdated _ | .deviceAvailabilityChanged _
  | .deviceMastershipChanged _ | .deviceSuspended _ => True

instance (ledger : Ledger) : DecidablePred ledger.Admits
  | .linkAdded link =>
      inferInstanceAs (Decidable ((∀ point ∈ link.endpoints, point ∈ ledger.ports) ∧
        ∀ live ∈ ledger.links, ∀ point ∈ link.endpoints, point ∈ live.endpoints → live = link))
  | .linkRemoved link => inferInstanceAs (Decidable (link ∈ ledger.links))
  | .portAdded device port | .portUpdated device port =>
      inferInstanceAs (Decidable (port.enabled → ¬Carries ledger.links ⟨device, port.number⟩))
  | .portRemoved device port =>
      inferInstanceAs (Decidable (¬Carries ledger.links ⟨device, port.number⟩))
  | .deviceRemoved device =>
      inferInstanceAs (Decidable (∀ live ∈ ledger.links, ∀ point ∈ live.endpoints,
        point.device ≠ device))
  | .linkUpdated _ | .deviceAdded _ | .deviceUpdated _ | .deviceAvailabilityChanged _
  | .deviceMastershipChanged _ | .deviceSuspended _ => inferInstanceAs (Decidable True)

def Along (accepts : Ledger → Event → Prop) (ledger : Ledger) : List Event → Prop
  | [] => True
  | event :: rest => accepts ledger event ∧ (ledger.record event).Along accepts rest

instance decidableAlong (accepts : Ledger → Event → Prop)
    [∀ ledger event, Decidable (accepts ledger event)] (ledger : Ledger) :
    (events : List Event) → Decidable (ledger.Along accepts events)
  | [] => inferInstanceAs (Decidable True)
  | event :: rest =>
      have := decidableAlong accepts (ledger.record event) rest
      inferInstanceAs (Decidable (accepts ledger event ∧ _))

theorem Along.of_prefix {accepts : Ledger → Event → Prop} {ledger : Ledger}
    {seen events : List Event} (hseen : seen <+: events) (h : ledger.Along accepts events) :
    ledger.Along accepts seen := by
  induction seen generalizing ledger events with
  | nil => trivial
  | cons event seen ih =>
      obtain ⟨rest, rfl⟩ := hseen
      exact ⟨h.1, ih (List.prefix_append seen rest) h.2⟩

theorem sound_record {ledger : Ledger} {event : Event} (hsound : ledger.Sound)
    (hadmits : ledger.Admits event) : (ledger.record event).Sound := by
  cases event with
  | linkAdded link =>
      obtain ⟨hknown, halone⟩ := hadmits
      constructor
      · intro live hlive
        rcases List.mem_cons.mp hlive with rfl | hlive
        · exact hknown
        · exact hsound.known live hlive
      · intro first hfirst second hsecond point hpoint hshared
        rcases List.mem_cons.mp hfirst with rfl | hfirstLive
        · rcases List.mem_cons.mp hsecond with rfl | hsecondLive
          · rfl
          · exact (halone second hsecondLive point hpoint hshared).symm
        · rcases List.mem_cons.mp hsecond with rfl | hsecondLive
          · exact halone first hfirstLive point hshared hpoint
          · exact hsound.apart first hfirstLive second hsecondLive point hpoint hshared
  | linkRemoved link =>
      constructor
      · intro live hlive
        exact hsound.known live (List.mem_filter.mp hlive).1
      · intro first hfirst second hsecond
        exact hsound.apart first (List.mem_filter.mp hfirst).1 second
          (List.mem_filter.mp hsecond).1
  | portAdded device port | portUpdated device port =>
      rw [record]
      split
      · constructor
        · intro live hlive point hpoint
          exact List.mem_cons_of_mem _ (hsound.known live hlive point hpoint)
        · exact hsound.apart
      · exact hsound
  | portRemoved device port =>
      constructor
      · intro live hlive point hpoint
        refine List.mem_filter.mpr ⟨hsound.known live hlive point hpoint, ?_⟩
        rw [decide_eq_true_eq]
        rintro rfl
        exact hadmits ⟨live, hlive, hpoint⟩
      · exact hsound.apart
  | deviceRemoved device =>
      constructor
      · intro live hlive point hpoint
        refine List.mem_filter.mpr ⟨hsound.known live hlive point hpoint, ?_⟩
        rw [decide_eq_true_eq]
        exact hadmits live hlive point hpoint
      · exact hsound.apart
  | linkUpdated _ | deviceAdded _ | deviceUpdated _ | deviceAvailabilityChanged _
  | deviceMastershipChanged _ | deviceSuspended _ => exact hsound

theorem Sound.not_carries_of_removed {ledger : Ledger} (hsound : ledger.Sound) {link : Link}
    (hlink : link ∈ ledger.links) {point : Point} (hpoint : point ∈ link.endpoints) :
    ¬Carries (ledger.links.filter (· ≠ link)) point := by
  rintro ⟨other, hother, hends⟩
  obtain ⟨hlive, hne⟩ := List.mem_filter.mp hother
  rw [decide_eq_true_eq] at hne
  exact hne (hsound.apart other hlive link hlink point hends hpoint)

/-- One event leads from the table of a ledger to the table of the ledger that recorded it. -/
theorem observe_rebuild {ledger : Ledger} {event : Event} (hsound : ledger.Sound)
    (hadmits : ledger.Admits event) :
    (PortTable.rebuild ledger.ports ledger.links).observe event =
      .rebuild (ledger.record event).ports (ledger.record event).links := by
  apply PortTable.ext_state?
  intro point
  rw [PortTable.state?_observe]
  cases event with
  | linkAdded link =>
      by_cases hpoint : point ∈ link.endpoints
      · rw [Event.effect?, if_pos hpoint, Option.getD_some]
        exact (PortTable.state?_rebuild_of_carries (hadmits.1 point hpoint)
          (carries_of_mem List.mem_cons_self hpoint)).symm
      · rw [Event.effect?, if_neg hpoint, Option.getD_none]
        exact PortTable.state?_rebuild_congr Iff.rfl (by simp [record, hpoint])
  | linkRemoved link =>
      by_cases hpoint : point ∈ link.endpoints
      · rw [Event.effect?, if_pos hpoint, Option.getD_some]
        exact (PortTable.state?_rebuild_of_free (hsound.known link hadmits point hpoint)
          (hsound.not_carries_of_removed hadmits hpoint)).symm
      · rw [Event.effect?, if_neg hpoint, Option.getD_none]
        exact PortTable.state?_rebuild_congr Iff.rfl (carries_filter_of_not_mem hpoint).symm
  | portAdded device port | portUpdated device port =>
      rw [Event.effect?, record]
      by_cases henabled : port.enabled
      · rw [if_pos henabled]
        by_cases hpoint : point = ⟨device, port.number⟩
        · subst hpoint
          rw [if_pos ⟨henabled, rfl⟩, Option.getD_some]
          exact (PortTable.state?_rebuild_of_free List.mem_cons_self (hadmits henabled)).symm
        · rw [if_neg fun h => hpoint h.2, Option.getD_none]
          exact PortTable.state?_rebuild_congr (by simp [hpoint]) Iff.rfl
      · rw [if_neg henabled, if_neg fun h => henabled h.1, Option.getD_none]
  | portRemoved device port =>
      by_cases hpoint : point = ⟨device, port.number⟩
      · rw [Event.effect?, if_pos hpoint, Option.getD_some]
        exact (PortTable.state?_rebuild_of_unknown (by simp [record, hpoint])).symm
      · rw [Event.effect?, if_neg hpoint, Option.getD_none]
        exact PortTable.state?_rebuild_congr (by simp [record, hpoint]) Iff.rfl
  | deviceRemoved device =>
      by_cases hdevice : point.device = device
      · rw [Event.effect?, if_pos hdevice, Option.getD_some]
        exact (PortTable.state?_rebuild_of_unknown (by simp [record, hdevice])).symm
      · rw [Event.effect?, if_neg hdevice, Option.getD_none]
        exact PortTable.state?_rebuild_congr (by simp [record, hdevice]) Iff.rfl
  | linkUpdated _ | deviceAdded _ | deviceUpdated _ | deviceAvailabilityChanged _
  | deviceMastershipChanged _ | deviceSuspended _ => rfl

theorem observeAll_rebuild {ledger : Ledger} {events : List Event} (hsound : ledger.Sound)
    (hfeed : ledger.Along Admits events) :
    (PortTable.rebuild ledger.ports ledger.links).observeAll events =
      .rebuild (ledger.recordAll events).ports (ledger.recordAll events).links := by
  induction events generalizing ledger with
  | nil => rfl
  | cons event rest ih =>
      obtain ⟨hadmits, hrest⟩ := hfeed
      rw [PortTable.observeAll, List.foldl_cons, observe_rebuild hsound hadmits]
      exact ih (sound_record hsound hadmits) hrest

end Ledger

namespace Controller

/-- The table that follows a well-behaved feed is, after each part of it, the one that a rebuild
from the ports and links of that moment gives. -/
theorem deliverAll_eq_rebuild (controller : Controller) {events seen : List Event}
    (hsound : (Ledger.ofTopology controller.topology).Sound)
    (hfeed : (Ledger.ofTopology controller.topology).Along Ledger.Admits events)
    (hseen : seen <+: events) :
    (controller.classify.1.deliverAll seen).table =
      .rebuild ((Ledger.ofTopology controller.topology).recordAll seen).ports
        ((Ledger.ofTopology controller.topology).recordAll seen).links :=
  Ledger.observeAll_rebuild hsound (hfeed.of_prefix hseen)

end Controller

def cable : Link := ⟨⟨⟨"a"⟩, 1⟩, ⟨⟨"b"⟩, 1⟩⟩

def spareCable : Link := ⟨⟨⟨"b"⟩, 2⟩, ⟨⟨"a"⟩, 2⟩⟩

def Inventory.twoDevices (links : List Link) : Inventory where
  devices := [(⟨"a"⟩, [⟨1, true⟩, ⟨2, true⟩]), (⟨"b"⟩, [⟨1, true⟩, ⟨2, true⟩])]
  links := links
  hosts := []
  bindings := []

def recabling : List Event :=
  [.portAdded ⟨"a"⟩ ⟨3, true⟩, .linkAdded spareCable, .linkRemoved cable,
    .portUpdated ⟨"a"⟩ ⟨1, true⟩, .portRemoved ⟨"a"⟩ ⟨1, false⟩, .linkRemoved spareCable,
    .deviceRemoved ⟨"b"⟩]

theorem Controller.deliverAll_recabling :
    (Ledger.ofTopology (ofInventory (.twoDevices [cable])).topology).Sound ∧
    (Ledger.ofTopology (ofInventory (.twoDevices [cable])).topology).Along Ledger.Admits
      recabling ∧
    ((ofInventory (.twoDevices [cable])).classify.1.deliverAll (recabling.take 5)).table =
      .rebuild [⟨⟨"a"⟩, 3⟩, ⟨⟨"a"⟩, 2⟩, ⟨⟨"b"⟩, 1⟩, ⟨⟨"b"⟩, 2⟩] [spareCable] :=
  have hsound : (Ledger.ofTopology (ofInventory (.twoDevices [cable])).topology).Sound :=
    ⟨by decide, by decide⟩
  have hfeed : (Ledger.ofTopology (ofInventory (.twoDevices [cable])).topology).Along
      Ledger.Admits recabling := by decide
  ⟨hsound, hfeed, deliverAll_eq_rebuild _ hsound hfeed (List.take_prefix 5 recabling)⟩

end FabricArp
