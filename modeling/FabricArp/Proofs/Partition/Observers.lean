import FabricArp.Proofs.Partition.Rebuild
import FabricArp.Proofs.Partition.Snapshot

namespace FabricArp

namespace PortTable

inductive Change where
  | rebuild (points : List Point) (links : List Link)
  | toInternal (points : List Point)
  | toExternal (points : List Point)
  | removeDevice (device : DeviceId)
  | removePort (point : Point)
deriving DecidableEq

def change (table : PortTable) : Change → PortTable
  | .rebuild points links => rebuild points links
  | .toInternal points => table.toInternal points
  | .toExternal points => table.toExternal points
  | .removeDevice device => table.removeDevice device
  | .removePort point => table.removePort point

def changeAll (table : PortTable) (changes : List Change) : PortTable :=
  changes.foldl change table

namespace Change

/-- To name a device is to name all of its points. -/
def Names (point : Point) : Change → Prop
  | .rebuild points links => point ∈ points ∨ Carries links point
  | .toInternal points | .toExternal points => point ∈ points
  | .removeDevice device => point.device = device
  | .removePort target => point = target

instance (point : Point) : DecidablePred (Names point)
  | .rebuild points links =>
      inferInstanceAs (Decidable (point ∈ points ∨ Carries links point))
  | .toInternal points | .toExternal points => inferInstanceAs (Decidable (point ∈ points))
  | .removeDevice device => inferInstanceAs (Decidable (point.device = device))
  | .removePort target => inferInstanceAs (Decidable (point = target))

/-- What a change makes of a point, or `none` if it leaves the point as it is. -/
def effect? (point : Point) : Change → Option (Option PortState)
  | .rebuild points links =>
      some (if point ∈ points then some (if Carries links point then .internal else .external)
        else none)
  | .toInternal points => if point ∈ points then some (some .internal) else none
  | .toExternal points => if point ∈ points then some (some .external) else none
  | .removeDevice device => if point.device = device then some none else none
  | .removePort target => if point = target then some none else none

theorem effect?_of_not_names {change : Change} {point : Point}
    (hkeeps : ∀ points links, change ≠ .rebuild points links) (h : ¬change.Names point) :
    change.effect? point = none := by
  cases change with
  | rebuild points links => exact absurd rfl (hkeeps points links)
  | toInternal points | toExternal points => exact if_neg h
  | removeDevice device => exact if_neg h
  | removePort target => exact if_neg h

end Change

theorem state?_change (table : PortTable) (change : Change) (point : Point) :
    (table.change change).state? point = (change.effect? point).getD (table.state? point) := by
  cases change with
  | rebuild points links => exact state?_rebuild points links point
  | toInternal points =>
      rw [PortTable.change, toInternal, state?_setAll, Change.effect?]
      split <;> rfl
  | toExternal points =>
      rw [PortTable.change, toExternal, state?_setAll, Change.effect?]
      split <;> rfl
  | removeDevice device =>
      rw [PortTable.change, state?_removeDevice, Change.effect?]
      split <;> rfl
  | removePort target =>
      rw [PortTable.change, state?_removePort, Change.effect?]
      split <;> rfl

theorem state?_changeAll (table : PortTable) (changes : List Change) (point : Point) :
    (table.changeAll changes).state? point =
      (changes.reverse.findSome? (Change.effect? point)).getD (table.state? point) := by
  induction changes generalizing table with
  | nil => rfl
  | cons change rest ih =>
      have hstep : table.changeAll (change :: rest) = (table.change change).changeAll rest := rfl
      rw [hstep, ih, state?_change, List.reverse_cons, List.findSome?_append]
      cases rest.reverse.findSome? (Change.effect? point) with
      | some decided => rfl
      | none => cases heffect : change.effect? point <;> simp [heffect]

/-- All that a table answers, said of the state of its points. -/
structure Coherent (table : PortTable) : Prop where
  listed : ∀ state point, point ∈ table.snapshot state ↔ table.state? point = some state
  ordered : ∀ state, (table.snapshot state).Pairwise fun left right =>
    left.device.name < right.device.name ∨ left.device = right.device ∧ left.port < right.port
  disjoint : ∀ point ∈ table.snapshot .internal, point ∉ table.snapshot .external
  ports : ∀ device state, table.ports device state =
    ((table.snapshot state).filter (·.device = device)).map Point.port
  ordered_ports : ∀ device state, (table.ports device state).Pairwise (· < ·)
  size : table.size = (table.snapshot .internal).length + (table.snapshot .external).length
  isEmpty : table.isEmpty = true ↔ ∀ point, table.state? point = none
  isInternal : ∀ point, table.isInternal point = true ↔ table.state? point = some .internal
  occupied : ∀ device, (∃ ports, table.devices.get? device = some ports) ↔
    ∃ port state, table.state? ⟨device, port⟩ = some state

variable {table : PortTable} {device : DeviceId} {port : PortNumber} {state : PortState}

theorem not_mem_external_of_mem_internal {point : Point}
    (hinternal : point ∈ table.snapshot .internal) : point ∉ table.snapshot .external := by
  intro hexternal
  have hstate := (mem_snapshot.mp hinternal).symm.trans (mem_snapshot.mp hexternal)
  cases hstate

theorem mem_ports : port ∈ table.ports device state ↔ table.state? ⟨device, port⟩ = some state := by
  cases hdevice : table.devices.get? device with
  | none => simp [ports, state?, hdevice]
  | some kept =>
      simp only [ports, state?, hdevice, Option.bind_some, SortedMap.get?_eq_some_iff]
      constructor
      · intro hport
        obtain ⟨⟨number, found⟩, hentry, rfl⟩ := List.mem_map.mp hport
        obtain ⟨hkept, hfound⟩ := List.mem_filter.mp hentry
        rwa [← of_decide_eq_true hfound]
      · intro hentry
        exact List.mem_map.mpr
          ⟨(port, state), List.mem_filter.mpr ⟨hentry, decide_eq_true rfl⟩, rfl⟩

theorem ascending_ports : Ascending (table.ports device state) := by
  rw [ports]
  split
  · exact .nil
  · rename_i kept _
    exact List.Pairwise.sublist (List.filter_sublist.map Prod.fst) kept.ascending

theorem ports_eq_map_snapshot :
    table.ports device state =
      ((table.snapshot state).filter (·.device = device)).map Point.port := by
  refine ascending_ports.eq_of_mem_iff ?_ ?_
  · refine List.pairwise_map.mpr (((table.ascending_snapshot state).filter _).imp_of_mem ?_)
    intro left right hleft hright hlt
    have hsame : left.device = right.device :=
      (of_decide_eq_true (List.mem_filter.mp hleft).2).trans
        (of_decide_eq_true (List.mem_filter.mp hright).2).symm
    rcases Point.compare_eq_lt_iff.mp hlt with hdevice | ⟨-, hport⟩
    · rw [hsame] at hdevice
      exact absurd hdevice (String.lt_irrefl _)
    · exact Std.compare_eq_lt.mpr hport
  · intro number
    rw [mem_ports, List.mem_map]
    constructor
    · intro hstate
      exact ⟨⟨device, number⟩, List.mem_filter.mpr ⟨mem_snapshot.mpr hstate, decide_eq_true rfl⟩,
        rfl⟩
    · rintro ⟨⟨owner, _⟩, hpoint, rfl⟩
      obtain ⟨hlisted, howner⟩ := List.mem_filter.mp hpoint
      obtain rfl : owner = device := of_decide_eq_true howner
      exact mem_snapshot.mp hlisted

theorem isEmpty_iff : table.isEmpty = true ↔ ∀ point, table.state? point = none := by
  rw [isEmpty, decide_eq_true_iff, ← length_snapshot_add, Nat.add_eq_zero_iff,
    List.length_eq_zero_iff, List.length_eq_zero_iff]
  constructor
  · rintro ⟨hinternal, hexternal⟩ point
    cases hstate : table.state? point with
    | none => rfl
    | some state =>
        have hlisted := mem_snapshot.mpr hstate
        cases state with
        | internal => rw [hinternal] at hlisted; cases hlisted
        | external => rw [hexternal] at hlisted; cases hlisted
  · intro hnone
    have hnil : ∀ state, table.snapshot state = [] := by
      intro state
      refine List.eq_nil_iff_forall_not_mem.mpr fun point hlisted => ?_
      have hstate := mem_snapshot.mp hlisted
      rw [hnone point] at hstate
      cases hstate
    exact ⟨hnil .internal, hnil .external⟩

theorem exists_get?_iff :
    (∃ kept, table.devices.get? device = some kept) ↔
      ∃ port state, table.state? ⟨device, port⟩ = some state := by
  constructor
  · rintro ⟨kept, hkept⟩
    exact exists_state?_of_get? hkept
  · rintro ⟨port, state, hstate⟩
    obtain ⟨kept, hkept, -⟩ := Option.bind_eq_some_iff.mp hstate
    exact ⟨kept, hkept⟩

theorem coherent (table : PortTable) : table.Coherent where
  listed _ _ := mem_snapshot
  ordered state := (table.ascending_snapshot state).imp Point.compare_eq_lt_iff.mp
  disjoint _ := not_mem_external_of_mem_internal
  ports _ _ := ports_eq_map_snapshot
  ordered_ports _ _ := ascending_ports.imp Std.compare_eq_lt.mp
  size := table.length_snapshot_add.symm
  isEmpty := isEmpty_iff
  isInternal _ := decide_eq_true_iff
  occupied _ := exists_get?_iff

/-- Whatever was done to a table, the states of its points say all that can be asked of it; a
change leaves what it does not name, unless it is a rebuild. -/
theorem observers_agree (changes : List Change) :
    let table := empty.changeAll changes
    table.Coherent ∧
    (∀ point,
      table.state? point = (changes.reverse.findSome? (Change.effect? point)).getD none) ∧
    (∀ others : List Change,
      (∀ point, (empty.changeAll others).state? point = table.state? point) →
        empty.changeAll others = table) ∧
    (∀ (change : Change) (point : Point),
      (table.change change).state? point = (change.effect? point).getD (table.state? point)) ∧
    ∀ (change : Change) (point : Point), (∀ points links, change ≠ .rebuild points links) →
      ¬change.Names point → (table.change change).state? point = table.state? point := by
  intro table
  refine ⟨table.coherent, state?_changeAll empty changes, fun others => ext_state?,
    table.state?_change, ?_⟩
  intro change point hkeeps hunnamed
  rw [state?_change, Change.effect?_of_not_names hkeeps hunnamed, Option.getD_none]

end PortTable

def leftPort : Point := ⟨⟨"a"⟩, 1⟩

def rightPort : Point := ⟨⟨"a"⟩, 2⟩

theorem PortTable.observers_agree_returning :
    let changes : List Change := [.toInternal [leftPort, rightPort], .removePort leftPort,
      .removePort rightPort, .toExternal [rightPort]]
    let others : List Change := [.rebuild [rightPort, rightPort] [⟨leftPort, leftPort⟩]]
    (∀ point, (empty.changeAll others).state? point = (empty.changeAll changes).state? point) ∧
      empty.changeAll others = empty.changeAll changes ∧
      ((empty.changeAll changes).change (.toInternal [leftPort])).state? rightPort =
        some .external := by
  intro changes others
  obtain ⟨-, -, hsame, -, hunnamed⟩ := observers_agree changes
  have hstates : ∀ point,
      (empty.changeAll others).state? point = (empty.changeAll changes).state? point := by
    intro point
    by_cases hleft : point = leftPort
    · subst hleft
      rfl
    by_cases hright : point = rightPort
    · subst hright
      rfl
    rw [state?_changeAll, state?_changeAll]
    simp [changes, others, Change.effect?, hleft, hright]
  refine ⟨hstates, hsame others hstates, ?_⟩
  exact hunnamed (.toInternal [leftPort]) rightPort nofun (by decide)

theorem PortTable.unnamed_points_not_always_kept :
    ¬∀ (changes : List Change) (change : Change) (point : Point), ¬change.Names point →
      ((empty.changeAll changes).change change).state? point =
        (empty.changeAll changes).state? point := by
  intro h
  have hkept := h [.toInternal [leftPort, rightPort]] (.rebuild [rightPort] []) leftPort
    (by decide)
  exact absurd hkept (by decide)

end FabricArp
