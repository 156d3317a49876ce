import FabricArp.Proofs.Network.Lookup
import FabricArp.Proofs.Partition.Ledger
import FabricArp.Proofs.Partition.Snapshot
import FabricArp.Proofs.Proxy.Failing
import FabricArp.Proofs.Proxy.Steps

namespace FabricArp

namespace Knowledge

variable {knowledge : Knowledge}

theorem mem_floodPoints {point : Point} :
    point ∈ knowledge.floodPoints ↔
      knowledge.table.state? point = some .external ∧ ¬knowledge.topology.Binds point := by
  rw [floodPoints, List.mem_filter, PortTable.mem_snapshot, ← Topology.isBoundary_iff_binds,
    Bool.not_eq_true', Bool.not_eq_true]

theorem ascending_floodPoints : Ascending knowledge.floodPoints :=
  (knowledge.table.ascending_snapshot .external).filter _

/-- The frame out of each external point without bound addresses, once, by device and then by
port. -/
structure Flooded (knowledge : Knowledge) (frame : Frame) (sent : List Outbound) : Prop where
  ascending : sent.Pairwise fun left right =>
    left.out.device.name < right.out.device.name ∨
      left.out.device = right.out.device ∧ left.out.port < right.out.port
  mem_iff : ∀ outbound, outbound ∈ sent ↔
    outbound.bytes = frame.bytes ∧ knowledge.table.state? outbound.out = some .external ∧
      ¬knowledge.topology.Binds outbound.out

theorem flooded_broadcast (knowledge : Knowledge) (frame : Frame) :
    knowledge.Flooded frame (knowledge.broadcast frame) where
  ascending := by
    refine List.pairwise_map.mpr (ascending_floodPoints.imp fun hlt => ?_)
    exact Point.compare_eq_lt_iff.mp hlt
  mem_iff := by
    intro outbound
    rw [← mem_floodPoints, broadcast, List.mem_map]
    constructor
    · rintro ⟨point, hpoint, rfl⟩
      exact ⟨rfl, hpoint⟩
    · rintro ⟨hbytes, hpoint⟩
      exact ⟨outbound.out, hpoint, by rw [← hbytes]⟩

theorem Flooded.eq_broadcast {frame : Frame} {sent : List Outbound}
    (h : knowledge.Flooded frame sent) : sent = knowledge.broadcast frame := by
  have hout : sent.map Outbound.out = knowledge.floodPoints := by
    refine Ascending.eq_of_mem_iff ?_ ascending_floodPoints fun point => ?_
    · exact List.pairwise_map.mpr (h.ascending.imp fun hlt => Point.compare_eq_lt_iff.mpr hlt)
    · rw [mem_floodPoints, List.mem_map]
      constructor
      · rintro ⟨outbound, hsent, rfl⟩
        exact ((h.mem_iff outbound).mp hsent).2
      · intro hpoint
        exact ⟨⟨point, frame.bytes⟩, (h.mem_iff _).mpr ⟨rfl, hpoint⟩, rfl⟩
  rw [broadcast, ← hout, List.map_map]
  refine (List.map_id sent).symm.trans (List.map_congr_left fun outbound hsent => ?_)
  rw [id, Function.comp_apply, ← ((h.mem_iff outbound).mp hsent).1]

/-- A flooded frame goes out unchanged of each external point without bound addresses, once, by
device and then by port. -/
theorem flood_eq_perform (knowledge : Knowledge) (frame : Frame) :
    ∃ points : List Point,
      knowledge.flood frame = .perform (points.map fun point => .send ⟨point, frame.bytes⟩) ∧
      (points.Pairwise fun left right =>
        left.device.name < right.device.name ∨
          left.device = right.device ∧ left.port < right.port) ∧
      (∀ point, point ∈ points ↔
        knowledge.table.state? point = some .external ∧ ¬knowledge.topology.Binds point) ∧
      (∀ point binding, knowledge.topology.binding? point = some binding →
        binding.addresses = .empty → knowledge.table.state? point = some .external →
          point ∈ points) ∧
      (∀ point binding address, knowledge.topology.binding? point = some binding →
        address ∈ binding.addresses → point ∉ points) := by
  refine ⟨knowledge.floodPoints, rfl, ?_, fun point => mem_floodPoints, ?_, ?_⟩
  · exact ascending_floodPoints.imp fun hlt => Point.compare_eq_lt_iff.mp hlt
  · intro point binding hbinding hempty hexternal
    refine mem_floodPoints.mpr ⟨hexternal, ?_⟩
    rw [Topology.binds_iff_of_binding? hbinding, hempty]
    rintro ⟨address, haddress⟩
    cases haddress
  · intro point binding address hbinding haddress hpoint
    exact (mem_floodPoints.mp hpoint).2 ⟨binding, hbinding, address, haddress⟩

end Knowledge

def Binding.vacant : Binding where
  point := ⟨⟨"b"⟩, 2⟩
  addresses := .empty
  mac := ⟨2, 0, 0, 0, 0, 8⟩

theorem Knowledge.flood_eq_perform_vacant :
    let inventory :=
      { Inventory.twoDevices [cable] with bindings := [.twofold, .vacant] }
    let knowledge := (Controller.ofInventory inventory).classify.1.knowledge .least
    knowledge.table.state? Binding.vacant.point = some .external ∧
    knowledge.table.state? Binding.twofold.point = some .external ∧
    ∃ points : List Point,
      knowledge.flood .empty =
        .perform (points.map fun point => .send ⟨point, Frame.empty.bytes⟩) ∧
      Binding.vacant.point ∈ points ∧ Binding.twofold.point ∉ points := by
  intro inventory knowledge
  obtain ⟨points, hflood, -, -, hvacant, hbound⟩ := flood_eq_perform knowledge .empty
  have hexternal : knowledge.table.state? Binding.vacant.point = some .external := by decide
  refine ⟨hexternal, by decide, points, hflood, hvacant _ _ rfl rfl hexternal, ?_⟩
  exact hbound Binding.twofold.point Binding.twofold ⟨⟨10, 0, 0, 1⟩, 8⟩ rfl (by decide)

end FabricArp
