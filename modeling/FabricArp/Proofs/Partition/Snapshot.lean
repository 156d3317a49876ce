import FabricArp.Partition.Table

namespace FabricArp

theorem Point.compare_eq_lt_iff {left right : Point} :
    compare left right = .lt ↔
      left.device.name < right.device.name ∨
        left.device = right.device ∧ left.port < right.port := by
  change (compare left.device right.device).then (compare left.port right.port) = .lt ↔ _
  rw [Ordering.then_eq_lt, Std.LawfulEqOrd.compare_eq_iff_eq]
  exact or_congr compareOfLessAndEq_eq_lt (and_congr_right fun _ => Std.compare_eq_lt)

namespace PortTable

theorem state?_eq_some_iff {table : PortTable} {point : Point} {state : PortState} :
    table.state? point = some state ↔
      ∃ ports, (point.device, ports) ∈ table.devices.entries ∧
        (point.port, state) ∈ ports.entries := by
  simp only [state?, Option.bind_eq_some_iff, SortedMap.get?_eq_some_iff]

theorem mem_snapshot {table : PortTable} {state : PortState} {point : Point} :
    point ∈ table.snapshot state ↔ table.state? point = some state := by
  rw [state?_eq_some_iff]
  simp only [snapshot, List.mem_flatMap, List.mem_map, List.mem_filter, decide_eq_true_eq]
  constructor
  · rintro ⟨⟨device, ports⟩, hdevice, ⟨port, found⟩, ⟨hport, rfl⟩, rfl⟩
    exact ⟨ports, hdevice, hport⟩
  · rintro ⟨ports, hdevice, hport⟩
    exact ⟨(point.device, ports), hdevice, (point.port, state), ⟨hport, rfl⟩, rfl⟩

theorem ascending_snapshot (table : PortTable) (state : PortState) :
    Ascending (table.snapshot state) := by
  refine List.pairwise_flatMap.mpr ⟨?_, ?_⟩
  · rintro ⟨device, ports⟩ -
    have hports := (List.pairwise_map.mp ports.ascending).filter (·.2 = state)
    refine List.pairwise_map.mpr (hports.imp fun {left right} hlt => ?_)
    exact Point.compare_eq_lt_iff.mpr (.inr ⟨rfl, Std.compare_eq_lt.mp hlt⟩)
  · refine (List.pairwise_map.mp table.devices.ascending).imp ?_
    intro left right hlt first hfirst second hsecond
    obtain ⟨firstPort, -, rfl⟩ := List.mem_map.mp hfirst
    obtain ⟨secondPort, -, rfl⟩ := List.mem_map.mp hsecond
    exact Point.compare_eq_lt_iff.mpr (.inl (compareOfLessAndEq_eq_lt.mp hlt))

private theorem length_filter_state (ports : List (PortNumber × PortState)) :
    (ports.filter (·.2 = .internal)).length + (ports.filter (·.2 = .external)).length =
      ports.length := by
  induction ports with
  | nil => rfl
  | cons port rest ih =>
      obtain ⟨number, state⟩ := port
      cases state <;> simp <;> omega

theorem length_snapshot_add (table : PortTable) :
    (table.snapshot .internal).length + (table.snapshot .external).length = table.size := by
  rw [snapshot, snapshot, size]
  induction table.devices.entries with
  | nil => rfl
  | cons entry rest ih =>
      have hports := length_filter_state entry.2.entries
      simp only [List.flatMap_cons, List.length_append, List.length_map, List.foldr_cons]
      rw [SortedMap.size, ← hports, ← ih]
      omega

theorem isInternal_eq_false_iff {table : PortTable} {point : Point} :
    table.isInternal point = false ↔ table.state? point ≠ some .internal := by
  rw [isInternal, decide_eq_false_iff_not]

end PortTable

end FabricArp
