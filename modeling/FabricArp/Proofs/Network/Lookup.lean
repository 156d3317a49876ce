import FabricArp.Network.Topology

/-! Look-ups among listed bindings and hosts, as properties of the listings. -/

namespace FabricArp

/-- The first entry of a list with a property: no entry before it has the property. -/
def First {α : Type} (holds : α → Prop) (entries : List α) (entry : α) : Prop :=
  holds entry ∧
    ∃ before behind, entries = before ++ entry :: behind ∧ ∀ other ∈ before, ¬holds other

namespace First

variable {α : Type} {holds : α → Prop} {entries : List α} {entry : α}

theorem mem (h : First holds entries entry) : entry ∈ entries := by
  obtain ⟨-, before, behind, rfl, -⟩ := h
  exact List.mem_append_right before List.mem_cons_self

theorem find?_eq_some_iff {test : α → Bool} (htest : ∀ entry, test entry = true ↔ holds entry) :
    entries.find? test = some entry ↔ First holds entries entry := by
  simp only [List.find?_eq_some_iff_append, First, Bool.not_eq_true', ← Bool.not_eq_true, htest]

end First

/-- One of the bound addresses has this address in its subnet. -/
def Binding.Covers (binding : Binding) (ip : Ip) : Prop :=
  ∃ address ∈ binding.addresses, address.subnet.contains ip = true

namespace Topology

variable {topology : Topology} {point : Point} {binding : Binding} {ip : Ip} {vlan : Vlan}
  {owner : Host}

def Binds (topology : Topology) (point : Point) : Prop :=
  ∃ binding, topology.binding? point = some binding ∧ ∃ address, address ∈ binding.addresses

theorem binds_iff_of_binding? (h : topology.binding? point = some binding) :
    topology.Binds point ↔ ∃ address, address ∈ binding.addresses := by
  constructor
  · rintro ⟨other, hother, haddress⟩
    rw [h, Option.some.injEq] at hother
    rwa [hother]
  · intro haddress
    exact ⟨binding, h, haddress⟩

theorem boundary?_eq_some_iff :
    topology.boundary? point = some binding ↔
      topology.binding? point = some binding ∧ ∃ address, address ∈ binding.addresses := by
  rw [boundary?, Option.filter_eq_some_iff, SortedSet.isEmpty, Bool.not_eq_true',
    List.isEmpty_eq_false_iff_exists_mem]
  rfl

theorem isBoundary_iff_binds : topology.isBoundary point = true ↔ topology.Binds point := by
  rw [isBoundary, Option.isSome_iff_exists]
  exact exists_congr fun _ => boundary?_eq_some_iff

theorem boundary?_eq_none_iff : topology.boundary? point = none ↔ ¬topology.Binds point := by
  rw [← isBoundary_iff_binds, isBoundary, Bool.not_eq_true, Option.isSome_eq_false_iff,
    Option.isNone_iff_eq_none]

theorem gateway?_eq_some_iff :
    topology.gateway? ip = some binding ↔ First (·.Covers ip) topology.bindings binding :=
  First.find?_eq_some_iff fun _ => List.any_eq_true

theorem gateway?_eq_none_iff :
    topology.gateway? ip = none ↔ ∀ binding ∈ topology.bindings, ¬binding.Covers ip := by
  rw [gateway?, List.find?_eq_none]
  exact forall₂_congr fun _ _ => not_congr List.any_eq_true

theorem owner?_eq_some_iff :
    topology.owner? ip vlan = some owner ↔
      First (·.id.vlan = vlan) (topology.hostsByIp ip) owner :=
  First.find?_eq_some_iff fun _ => decide_eq_true_iff

theorem owner?_eq_none_iff :
    topology.owner? ip vlan = none ↔ ∀ host ∈ topology.hostsByIp ip, host.id.vlan ≠ vlan := by
  rw [owner?, List.find?_eq_none]
  exact forall₂_congr fun _ _ => not_congr decide_eq_true_iff

end Topology

end FabricArp
