import FabricArp.Collection.SortedMap
import FabricArp.Network.Point

/-! Known ports, internal where a link of the fabric ends and external elsewhere. -/

namespace FabricArp

inductive PortState where
  | internal
  | external
deriving DecidableEq

def PortState.text : PortState → String
  | internal => "Internal"
  | external => "External"

/-- States by device and port.  A device without ports has no entry. -/
structure PortTable where
  devices : SortedMap DeviceId (SortedMap PortNumber PortState)
  occupied : ∀ entry ∈ devices.entries, entry.2.isEmpty = false

namespace PortTable

def empty : PortTable where
  devices := .empty
  occupied := by
    intro entry hentry
    cases hentry

def state? (table : PortTable) (point : Point) : Option PortState :=
  (table.devices.get? point.device).bind fun ports => ports.get? point.port

def isInternal (table : PortTable) (point : Point) : Bool :=
  table.state? point = some .internal

private theorem isEmpty_insert (ports : SortedMap PortNumber PortState)
    (port : PortNumber) (state : PortState) : (ports.insert port state).isEmpty = false := by
  have hmem := SortedMap.get?_eq_some_iff.mp (ports.get?_insert_self port state)
  rw [SortedMap.isEmpty, List.isEmpty_eq_false_iff_exists_mem]
  exact ⟨_, hmem⟩

private theorem occupied_insert {devices : SortedMap DeviceId (SortedMap PortNumber PortState)}
    (hoccupied : ∀ entry ∈ devices.entries, entry.2.isEmpty = false)
    (device : DeviceId) {ports : SortedMap PortNumber PortState}
    (hports : ports.isEmpty = false) :
    ∀ entry ∈ (devices.insert device ports).entries, entry.2.isEmpty = false := by
  rintro ⟨other, otherPorts⟩ hentry
  have hget := SortedMap.get?_eq_some_iff.mpr hentry
  by_cases heq : other = device
  · subst heq
    rw [SortedMap.get?_insert_self] at hget
    cases hget
    exact hports
  · rw [SortedMap.get?_insert_of_ne _ heq] at hget
    exact hoccupied _ (SortedMap.get?_eq_some_iff.mp hget)

private theorem occupied_erase {devices : SortedMap DeviceId (SortedMap PortNumber PortState)}
    (hoccupied : ∀ entry ∈ devices.entries, entry.2.isEmpty = false) (device : DeviceId) :
    ∀ entry ∈ (devices.erase device).entries, entry.2.isEmpty = false :=
  fun entry hentry => hoccupied entry (List.mem_filter.mp hentry).1

def set (table : PortTable) (point : Point) (state : PortState) : PortTable where
  devices := table.devices.insert point.device
    (((table.devices.get? point.device).getD .empty).insert point.port state)
  occupied := occupied_insert table.occupied point.device (isEmpty_insert _ _ _)

def setAll (table : PortTable) (points : List Point) (state : PortState) : PortTable :=
  points.foldl (fun table point => table.set point state) table

def toInternal (table : PortTable) (points : List Point) : PortTable :=
  table.setAll points .internal

def toExternal (table : PortTable) (points : List Point) : PortTable :=
  table.setAll points .external

def removeDevice (table : PortTable) (device : DeviceId) : PortTable where
  devices := table.devices.erase device
  occupied := occupied_erase table.occupied device

/-- Forgets one port, and its device with the last of its ports. -/
def removePort (table : PortTable) (point : Point) : PortTable :=
  match table.devices.get? point.device with
  | none => table
  | some ports =>
      let remaining := ports.erase point.port
      if h : remaining.isEmpty = false then
        { devices := table.devices.insert point.device remaining
          occupied := occupied_insert table.occupied point.device h }
      else table.removeDevice point.device

/-- Makes a point internal that the table knows, and no other. -/
def promote (table : PortTable) (point : Point) : PortTable :=
  if (table.state? point).isSome then table.set point .internal else table

def rebuild (points : List Point) (links : List Link) : PortTable :=
  (links.flatMap Link.endpoints).foldl promote (empty.toExternal points)

def snapshot (table : PortTable) (state : PortState) : List Point :=
  table.devices.entries.flatMap fun entry =>
    (entry.2.entries.filter (·.2 = state)).map fun port => ⟨entry.1, port.1⟩

def ports (table : PortTable) (device : DeviceId) (state : PortState) : List PortNumber :=
  match table.devices.get? device with
  | none => []
  | some ports => (ports.entries.filter (·.2 = state)).map Prod.fst

def size (table : PortTable) : Nat :=
  table.devices.entries.foldr (fun entry total => entry.2.size + total) 0

def isEmpty (table : PortTable) : Bool :=
  table.size = 0

@[simp] theorem state?_empty (point : Point) : empty.state? point = none :=
  rfl

@[simp] theorem state?_set_self (table : PortTable) (point : Point) (state : PortState) :
    (table.set point state).state? point = some state := by
  simp [state?, set]

theorem state?_set_of_ne (table : PortTable) {point other : Point} (hne : other ≠ point)
    (state : PortState) : (table.set point state).state? other = table.state? other := by
  by_cases hdevice : other.device = point.device
  · have hport : other.port ≠ point.port := by
      intro hport
      apply hne
      cases other
      cases point
      simp only [] at hdevice hport
      rw [hdevice, hport]
    simp only [state?, set, hdevice, SortedMap.get?_insert_self, Option.bind_some]
    rw [SortedMap.get?_insert_of_ne _ hport]
    cases table.devices.get? point.device with
    | none => rfl
    | some ports => rfl
  · simp only [state?, set]
    rw [SortedMap.get?_insert_of_ne _ hdevice]

theorem state?_setAll (table : PortTable) (points : List Point) (state : PortState)
    (point : Point) :
    (table.setAll points state).state? point =
      if point ∈ points then some state else table.state? point := by
  induction points generalizing table with
  | nil => simp [setAll]
  | cons head rest ih =>
      have hfold : table.setAll (head :: rest) state = (table.set head state).setAll rest state :=
        rfl
      rw [hfold, ih]
      by_cases hrest : point ∈ rest
      · simp [hrest]
      · by_cases hhead : point = head
        · subst hhead
          simp [hrest]
        · simp [hrest, hhead, state?_set_of_ne table hhead]

theorem state?_removeDevice (table : PortTable) (device : DeviceId) (point : Point) :
    (table.removeDevice device).state? point =
      if point.device = device then none else table.state? point := by
  by_cases hdevice : point.device = device
  · simp [state?, removeDevice, hdevice]
  · simp only [state?, removeDevice, if_neg hdevice]
    rw [SortedMap.get?_erase_of_ne _ hdevice]

theorem state?_promote (table : PortTable) (target point : Point) :
    (table.promote target).state? point =
      if point = target then (table.state? point).map fun _ => .internal
      else table.state? point := by
  unfold promote
  by_cases heq : point = target
  · subst heq
    cases hstate : table.state? point with
    | none => simp [hstate]
    | some state => simp
  · rw [if_neg heq]
    split
    · exact state?_set_of_ne table heq _
    · rfl

theorem state?_removePort (table : PortTable) (target point : Point) :
    (table.removePort target).state? point =
      if point = target then none else table.state? point := by
  unfold removePort
  split
  · rename_i hnone
    by_cases heq : point = target
    · subst heq
      simp [state?, hnone]
    · rw [if_neg heq]
  · rename_i ports hports
    by_cases hdevice : point.device = target.device
    · have hstate : table.state? point = ports.get? point.port := by
        simp [state?, hdevice, hports]
      have herased : (ports.erase target.port).get? point.port =
          if point = target then none else ports.get? point.port := by
        by_cases hport : point.port = target.port
        · have heq : point = target := by
            cases point
            cases target
            simp only [] at hdevice hport
            rw [hdevice, hport]
          simp [heq]
        · have hne : point ≠ target := fun heq => hport (congrArg Point.port heq)
          rw [if_neg hne, SortedMap.get?_erase_of_ne _ hport]
      rw [hstate, ← herased]
      simp only []
      split
      · simp [state?, hdevice]
      · rename_i hempty
        rw [state?_removeDevice, if_pos hdevice]
        have hnil : (ports.erase target.port).entries = [] := by
          simpa [SortedMap.isEmpty] using hempty
        rw [SortedMap.get?, hnil, SortedMap.lookupIn]
    · have hne : point ≠ target := fun heq => hdevice (congrArg Point.device heq)
      rw [if_neg hne]
      simp only []
      split
      · simp only [state?]
        rw [SortedMap.get?_insert_of_ne _ hdevice]
      · rw [state?_removeDevice, if_neg hdevice]

theorem exists_state?_of_get? {table : PortTable} {device : DeviceId}
    {ports : SortedMap PortNumber PortState} (h : table.devices.get? device = some ports) :
    ∃ port state, table.state? ⟨device, port⟩ = some state := by
  have hoccupied := table.occupied _ (SortedMap.get?_eq_some_iff.mp h)
  rw [SortedMap.isEmpty, List.isEmpty_eq_false_iff_exists_mem] at hoccupied
  obtain ⟨⟨port, state⟩, hmem⟩ := hoccupied
  exact ⟨port, state, by simp [state?, h, SortedMap.get?_eq_some_iff.mpr hmem]⟩

/-- Tables that agree on every point are the same table. -/
theorem ext_state? {left right : PortTable}
    (hstate : ∀ point, left.state? point = right.state? point) : left = right := by
  have hdevices : left.devices = right.devices := by
    apply SortedMap.ext_get?
    intro device
    cases hleft : left.devices.get? device with
    | none =>
        cases hright : right.devices.get? device with
        | none => rfl
        | some ports =>
            obtain ⟨port, state, hpoint⟩ := exists_state?_of_get? hright
            rw [← hstate] at hpoint
            simp [state?, hleft] at hpoint
    | some leftPorts =>
        cases hright : right.devices.get? device with
        | none =>
            obtain ⟨port, state, hpoint⟩ := exists_state?_of_get? hleft
            rw [hstate] at hpoint
            simp [state?, hright] at hpoint
        | some rightPorts =>
            congr 1
            apply SortedMap.ext_get?
            intro port
            simpa [state?, hleft, hright] using hstate ⟨device, port⟩
  cases left
  cases right
  simp only [] at hdevices
  subst hdevices
  rfl

end PortTable

end FabricArp
