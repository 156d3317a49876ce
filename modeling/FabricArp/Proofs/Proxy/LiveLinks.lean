import FabricArp.Proofs.Partition.Ledger
import FabricArp.Proofs.Proxy.Egress

namespace FabricArp

def Event.link? : Event → Option Link
  | .linkAdded link | .linkUpdated link | .linkRemoved link => some link
  | _ => none

namespace Ledger

def Covered (ledger : Ledger) (table : PortTable) : Prop :=
  ∀ link ∈ ledger.links, ∀ point ∈ link.endpoints, table.state? point = some .internal

/-- A link is removed from a port where another live link ends. -/
def Strands (ledger : Ledger) : Event → Prop
  | .linkRemoved link =>
      ∃ point ∈ link.endpoints, Carries (ledger.links.filter (· ≠ link)) point
  | _ => False

theorem covered_record_iff {ledger : Ledger} {table : PortTable} {event : Event}
    (hcovered : ledger.Covered table) (hevent : event.link?.isSome) :
    (ledger.record event).Covered (table.observe event) ↔ ¬ledger.Strands event := by
  cases event with
  | linkAdded link =>
      refine iff_of_true ?_ id
      intro live hlive point hpoint
      rw [PortTable.state?_observe, Event.effect?]
      split
      · rfl
      · rename_i hfree
        rcases List.mem_cons.mp hlive with rfl | hold
        · exact absurd hpoint hfree
        · exact hcovered live hold point hpoint
  | linkUpdated link => exact iff_of_true hcovered id
  | linkRemoved link =>
      constructor
      · rintro hafter ⟨point, hpoint, other, hother, hends⟩
        have hinternal := hafter other hother point hends
        rw [PortTable.state?_observe, Event.effect?, if_pos hpoint] at hinternal
        cases hinternal
      · intro hspared live hlive point hpoint
        rw [PortTable.state?_observe, Event.effect?]
        split
        · rename_i hremoved
          exact absurd ⟨point, hremoved, carries_of_mem hlive hpoint⟩ hspared
        · exact hcovered live (List.mem_filter.mp hlive).1 point hpoint
  | _ => cases hevent

theorem covered_along_iff {ledger : Ledger} {table : PortTable} {events : List Event}
    (hcovered : ledger.Covered table) (hevents : ∀ event ∈ events, event.link?.isSome) :
    (∀ seen, seen <+: events → (ledger.recordAll seen).Covered (table.observeAll seen)) ↔
      ledger.Along (fun ledger event => ¬ledger.Strands event) events := by
  -- Ledger and table vary together: the rest of the feed starts from both after one event.
  induction events generalizing ledger table with
  | nil =>
      refine iff_of_true ?_ trivial
      intro seen hseen
      rw [List.prefix_nil.mp hseen]
      exact hcovered
  | cons event rest ih =>
      have hstep := covered_record_iff hcovered (hevents event List.mem_cons_self)
      have hrest : ∀ later ∈ rest, later.link?.isSome := fun later hlater =>
        hevents later (List.mem_cons_of_mem _ hlater)
      constructor
      · intro hall
        have hnext := hall [event] (List.cons_prefix_cons.mpr ⟨rfl, List.nil_prefix⟩)
        refine ⟨hstep.mp hnext, (ih hnext hrest).mp ?_⟩
        intro seen hseen
        exact hall (event :: seen) (List.cons_prefix_cons.mpr ⟨rfl, hseen⟩)
      · rintro ⟨hspared, hlater⟩ seen hseen
        cases seen with
        | nil => exact hcovered
        | cons first seen =>
            obtain ⟨rfl, htail⟩ := List.cons_prefix_cons.mp hseen
            exact (ih (hstep.mpr hspared) hrest).mpr hlater seen htail

instance (ledger : Ledger) : DecidablePred ledger.Strands
  | .linkRemoved link =>
      inferInstanceAs (Decidable (∃ point ∈ link.endpoints,
        Carries (ledger.links.filter (· ≠ link)) point))
  | .linkAdded _ | .linkUpdated _ | .deviceAdded _ | .deviceUpdated _ | .deviceRemoved _
  | .deviceAvailabilityChanged _ | .deviceMastershipChanged _ | .deviceSuspended _
  | .portAdded .. | .portUpdated .. | .portRemoved .. => inferInstanceAs (Decidable False)

theorem covered_ofTopology {topology : Topology}
    (hlinks : ∀ link ∈ topology.links, ∀ point ∈ link.endpoints,
      point ∈ topology.enabledPoints) :
    (ofTopology topology).Covered (.ofTopology topology) := by
  intro link hlink point hpoint
  exact PortTable.state?_rebuild_of_carries (hlinks link hlink point hpoint)
    (carries_of_mem hlink hpoint)

/-- Frames stay off the live links of the ledger, whatever the controller is commanded next. -/
def Spared (ledger : Ledger) (controller : Controller) : Prop :=
  ∀ next : Turn, ∀ outbound ∈ Action.sent (controller.step next.choice next.command).2.actions,
    ¬Carries ledger.links outbound.out

theorem spared_iff_covered {ledger : Ledger} {controller : Controller} :
    ledger.Spared controller ↔ ledger.Covered controller.table := by
  constructor
  · intro hspared link hlink point hpoint
    apply Decidable.byContradiction
    intro hclosed
    have hopen : controller.table.isInternal point = false :=
      PortTable.isInternal_eq_false_iff.mpr hclosed
    have hsend : (controller.step .least (.send .empty point)).2 =
        (do Handling.send ⟨point, Frame.empty.bytes⟩; return .done) := by
      rw [Controller.step, Knowledge.sendTo_of_open hopen]
    refine hspared ⟨.send .empty point, .least⟩ ⟨point, Frame.empty.bytes⟩ ?_
      (carries_of_mem hlink hpoint)
    rw [hsend]
    exact List.mem_cons_self
  · rintro hcovered next outbound houtbound ⟨link, hlink, hends⟩
    exact Controller.step_confined next.choice controller next.command outbound houtbound
      (hcovered link hlink outbound.out hends)

end Ledger

namespace Controller

/-- The ends of live links stay internal exactly when no link is removed from a port where another
live link ends, and exactly then do frames stay off live links. -/
theorem live_links_internal_iff (controller : Controller) {events : List Event}
    (hlinks : ∀ link ∈ controller.topology.links, ∀ point ∈ link.endpoints,
      point ∈ controller.topology.enabledPoints)
    (hevents : ∀ event ∈ events, event.link?.isSome) :
    ((∀ seen, seen <+: events →
        ((Ledger.ofTopology controller.topology).recordAll seen).Covered
          (controller.classify.1.deliverAll seen).table) ↔
      (Ledger.ofTopology controller.topology).Along
        (fun ledger event => ¬ledger.Strands event) events) ∧
    ((∀ seen, seen <+: events →
        ((Ledger.ofTopology controller.topology).recordAll seen).Spared
          (controller.classify.1.deliverAll seen)) ↔
      (Ledger.ofTopology controller.topology).Along
        (fun ledger event => ¬ledger.Strands event) events) := by
  have hcovered := Ledger.covered_along_iff (Ledger.covered_ofTopology hlinks) hevents
  refine ⟨hcovered, ?_⟩
  simp only [Ledger.spared_iff_covered]
  exact hcovered

end Controller

def moving : List Event :=
  [.linkUpdated cable, .linkAdded spareCable, .linkRemoved cable]

theorem Controller.live_links_internal_iff_moving :
    (∀ link ∈ (ofInventory (.twoDevices [cable])).topology.links, ∀ point ∈ link.endpoints,
      point ∈ (ofInventory (.twoDevices [cable])).topology.enabledPoints) ∧
    (∀ event ∈ moving, event.link?.isSome) ∧
    ∀ seen, seen <+: moving →
      ((Ledger.ofTopology (ofInventory (.twoDevices [cable])).topology).recordAll seen).Covered
        ((ofInventory (.twoDevices [cable])).classify.1.deliverAll seen).table :=
  ⟨by decide, by decide, (live_links_internal_iff _ (by decide) (by decide)).1.mpr (by decide)⟩

/-- With both directions of a cable listed, removing one of them makes its ends external, and
the other direction is left alive with external ends. -/
theorem Controller.live_links_not_always_internal :
    ¬∀ (controller : Controller) (events : List Event),
      (∀ link ∈ controller.topology.links, ∀ point ∈ link.endpoints,
        point ∈ controller.topology.enabledPoints) →
      (∀ event ∈ events, ∃ link, event.link? = some link ∧ ∀ point ∈ link.endpoints,
        point ∈ controller.topology.enabledPoints) →
      ∀ seen, seen <+: events →
        ((Ledger.ofTopology controller.topology).recordAll seen).Covered
          (controller.classify.1.deliverAll seen).table := by
  intro hall
  have hcovered := hall (ofInventory (.twoDevices [cable, ⟨cable.destination, cable.source⟩]))
    [.linkRemoved cable] (by decide) (by
      intro event hevent
      rw [List.mem_singleton.mp hevent]
      exact ⟨cable, rfl, by decide⟩)
    [.linkRemoved cable] List.prefix_rfl
  exact absurd (hcovered ⟨cable.destination, cable.source⟩ (by decide) cable.source (by decide))
    (by decide)

end FabricArp
