import FabricArp.Proofs.Partition.Ledger
import FabricArp.Proofs.Partition.Snapshot

namespace FabricArp

def Link.reversed (link : Link) : Link :=
  ⟨link.destination, link.source⟩

theorem Link.mem_endpoints_reversed {link : Link} {point : Point} :
    point ∈ link.reversed.endpoints ↔ point ∈ link.endpoints := by
  simp only [endpoints, reversed, List.mem_cons, List.not_mem_nil, or_false]
  exact or_comm

namespace Topology

def Enables (topology : Topology) (point : Point) : Prop :=
  point.device ∈ topology.devices ∧
    ∃ port ∈ topology.ports point.device, port.enabled = true ∧ port.number = point.port

/-- What is listed on the left is listed on the right, a cable from either of its ends. -/
structure ListedIn (left right : Topology) : Prop where
  devices : ∀ device ∈ left.devices, device ∈ right.devices
  ports : ∀ device ∈ left.devices, ∀ port ∈ left.ports device, port ∈ right.ports device
  links : ∀ link ∈ left.links, link ∈ right.links ∨ link.reversed ∈ right.links

variable {topology left right : Topology} {point : Point}

theorem mem_enabledPoints : point ∈ topology.enabledPoints ↔ topology.Enables point := by
  simp only [enabledPoints, Enables, List.mem_flatMap, List.mem_map, List.mem_filter]
  constructor
  · rintro ⟨device, hdevice, port, ⟨hport, henabled⟩, rfl⟩
    exact ⟨hdevice, port, hport, henabled, rfl⟩
  · rintro ⟨hdevice, port, hport, henabled, hnumber⟩
    exact ⟨point.device, hdevice, port, ⟨hport, henabled⟩, by rw [hnumber]⟩

theorem ListedIn.enables (h : left.ListedIn right) (hleft : left.Enables point) :
    right.Enables point := by
  obtain ⟨hdevice, port, hport, henabled, hnumber⟩ := hleft
  exact ⟨h.devices _ hdevice, port, h.ports _ hdevice port hport, henabled, hnumber⟩

theorem ListedIn.carries (h : left.ListedIn right) (hleft : Carries left.links point) :
    Carries right.links point := by
  obtain ⟨link, hlink, hends⟩ := hleft
  rcases h.links link hlink with hlisted | hlisted
  · exact carries_of_mem hlisted hends
  · exact carries_of_mem hlisted (Link.mem_endpoints_reversed.mpr hends)

end Topology

namespace PortTable

variable {topology : Topology} {point : Point}

theorem state?_ofTopology_of_enables (henables : topology.Enables point) :
    (ofTopology topology).state? point =
      some (if Carries topology.links point then .internal else .external) := by
  rw [ofTopology, state?_rebuild, if_pos (Topology.mem_enabledPoints.mpr henables)]

theorem state?_ofTopology_eq_none_iff :
    (ofTopology topology).state? point = none ↔ ¬topology.Enables point := by
  constructor
  · intro hnone henables
    rw [state?_ofTopology_of_enables henables] at hnone
    cases hnone
  · intro hunknown
    exact state?_rebuild_of_unknown (mt Topology.mem_enabledPoints.mp hunknown)

theorem state?_ofTopology_eq_internal_iff :
    (ofTopology topology).state? point = some .internal ↔
      topology.Enables point ∧ Carries topology.links point := by
  by_cases henables : topology.Enables point
  · simp [state?_ofTopology_of_enables henables, henables]
  · simp [state?_ofTopology_eq_none_iff.mpr henables, henables]

theorem state?_ofTopology_eq_external_iff :
    (ofTopology topology).state? point = some .external ↔
      topology.Enables point ∧ ¬Carries topology.links point := by
  by_cases henables : topology.Enables point
  · simp [state?_ofTopology_of_enables henables, henables]
  · simp [state?_ofTopology_eq_none_iff.mpr henables, henables]

theorem ofTopology_eq_of_listedIn {left right : Topology} (hleft : left.ListedIn right)
    (hright : right.ListedIn left) : ofTopology left = ofTopology right := by
  apply ext_state?
  intro point
  refine state?_rebuild_congr ?_ ⟨hleft.carries, hright.carries⟩
  rw [Topology.mem_enabledPoints, Topology.mem_enabledPoints]
  exact ⟨hleft.enables, hright.enables⟩

end PortTable

namespace Controller

/-- A classification makes internal exactly the enabled ports where a listed link ends and
external the other enabled ports, however they are listed. -/
theorem state?_classify_iff (controller : Controller) :
    let topology := controller.topology
    let table := controller.classify.1.table
    (∀ point,
      (table.state? point = some .internal ↔
        topology.Enables point ∧ Carries topology.links point) ∧
      (table.state? point = some .external ↔
        topology.Enables point ∧ ¬Carries topology.links point) ∧
      (table.state? point = none ↔ ¬topology.Enables point)) ∧
    (∀ other : Controller, topology.ListedIn other.topology → other.topology.ListedIn topology →
      other.classify.1.table = table) ∧
    Action.notices controller.classify.2.actions =
      [.classified (table.snapshot .internal).length (table.snapshot .external).length] ∧
    (table.snapshot .internal).length + (table.snapshot .external).length = table.size := by
  intro topology table
  refine ⟨?_, ?_, rfl, table.length_snapshot_add⟩
  · intro point
    exact ⟨PortTable.state?_ofTopology_eq_internal_iff,
      PortTable.state?_ofTopology_eq_external_iff, PortTable.state?_ofTopology_eq_none_iff⟩
  · intro other hlisted hrelisted
    exact PortTable.ofTopology_eq_of_listedIn hrelisted hlisted

def relisted : Controller where
  inventory :=
    { devices := [(⟨"b"⟩, [⟨2, true⟩, ⟨1, true⟩, ⟨2, true⟩]), (⟨"a"⟩, [⟨2, true⟩, ⟨1, true⟩]),
        (⟨"b"⟩, [])]
      links := [cable.reversed, cable, cable.reversed]
      hosts := []
      bindings := [] }
  owners := []
  table := PortTable.empty.toInternal [⟨⟨"c"⟩, 1⟩]

theorem state?_classify_iff_relisted :
    let listed := ofInventory (.twoDevices [cable])
    listed.topology.ListedIn relisted.topology ∧ relisted.topology.ListedIn listed.topology ∧
      relisted.classify.1.table = listed.classify.1.table :=
  have hlisted : (ofInventory (.twoDevices [cable])).topology.ListedIn relisted.topology :=
    ⟨by decide, by decide, by decide⟩
  have hrelisted : relisted.topology.ListedIn (ofInventory (.twoDevices [cable])).topology :=
    ⟨by decide, by decide, by decide⟩
  ⟨hlisted, hrelisted, (state?_classify_iff _).2.1 relisted hlisted hrelisted⟩

end Controller

end FabricArp
