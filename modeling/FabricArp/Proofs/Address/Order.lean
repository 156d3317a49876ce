import FabricArp.Network.Host
import Mathlib.Data.Prod.Lex

namespace FabricArp

namespace Ip

theorem compare_eq_compare_octets (left right : Ip) :
    compare left right =
      (compare left.a right.a).then ((compare left.b right.b).then
        ((compare left.c right.c).then (compare left.d right.d))) := by
  change List.compareLex compare left.octets right.octets = _
  simp only [octets, List.compareLex_cons_cons, List.compareLex_nil_nil, Ordering.then_eq]

theorem compare_lastOctet (front otherFront : Nat) (octet other : UInt8) :
    compare (front * 256 + octet.toNat) (otherFront * 256 + other.toNat) =
      (compare front otherFront).then (compare octet other) := by
  have hoctet := octet.toNat_lt
  have hother := other.toNat_lt
  rw [UInt8.compare_eq_toNat_compare_toNat]
  rcases Nat.lt_trichotomy front otherFront with hlt | rfl | hgt
  · rw [Nat.compare_eq_lt.mpr hlt]
    exact Nat.compare_eq_lt.mpr (by omega)
  · rw [Nat.compare_eq_eq.mpr rfl, Nat.compare_eq_ite_lt]
    simp only [Nat.add_lt_add_iff_left]
    exact (Nat.compare_eq_ite_lt _ _).symm
  · rw [Nat.compare_eq_gt.mpr hgt]
    exact Nat.compare_eq_gt.mpr (by omega)

theorem compare_eq_compare_value (left right : Ip) :
    compare left right = compare left.value right.value := by
  rw [UInt32.compare_eq_toNat_compare_toNat, toNat_value, toNat_value, compare_lastOctet,
    compare_lastOctet, compare_lastOctet, ← UInt8.compare_eq_toNat_compare_toNat]
  rw [Ordering.then_assoc, Ordering.then_assoc, compare_eq_compare_octets]

end Ip

namespace InterfaceAddress

/-- The numbers that decide between two addresses, one after the other. -/
def rank (address : InterfaceAddress) : UInt32 ×ₗ UInt32 ×ₗ PrefixLength :=
  toLex (address.ip.value, toLex (address.subnet.address.value, address.length))

theorem compare_eq_lt_iff_rank {left right : InterfaceAddress} :
    compare left right = .lt ↔ left.rank < right.rank := by
  change (compare left.ip right.ip).then ((compare left.subnet.address right.subnet.address).then
    (compare left.length.val right.length.val)) = .lt ↔ _
  simp only [rank, Prod.Lex.toLex_lt_toLex, Ordering.then_eq_lt, Ip.compare_eq_compare_value,
    Std.compare_eq_lt, Std.LawfulEqOrd.compare_eq_iff_eq]
  rfl

theorem ascending_iff_rank {addresses : List InterfaceAddress} :
    Ascending addresses ↔ (addresses.map rank).Pairwise (· < ·) := by
  rw [List.pairwise_map]
  exact List.Pairwise.iff fun _ _ => compare_eq_lt_iff_rank

end InterfaceAddress

/-- A port keeps the addresses that it is given in ascending order of their values, their networks
and their prefix lengths, each once and none left out. -/
theorem Binding.stored_in_order :
    (∀ left right : Ip, compare left right = compare left.value right.value) ∧
    (∀ value, (Ip.ofValue value).value = value) ∧ (∀ ip : Ip, Ip.ofValue ip.value = ip) ∧
    (∀ point given mac stored, (ofAddresses point given mac).addresses.toList = stored ↔
      (stored.map InterfaceAddress.rank).Pairwise (· < ·) ∧
        ∀ address, address ∈ stored ↔ address ∈ given) ∧
    ∀ point given others mac, ofAddresses point given mac = ofAddresses point others mac ↔
      ∀ address, address ∈ given ↔ address ∈ others := by
  refine ⟨Ip.compare_eq_compare_value, Ip.value_ofValue, Ip.ofValue_value, ?_, ?_⟩
  · intro point given mac stored
    rw [← InterfaceAddress.ascending_iff_rank]
    exact SortedSet.toList_ofList_eq_iff
  · intro point given others mac
    rw [← SortedSet.ofList_eq_ofList_iff]
    simp only [ofAddresses, Binding.mk.injEq, true_and, and_true]

example :
    (Binding.ofAddresses ⟨⟨"a"⟩, 1⟩ [⟨⟨10, 0, 0, 2⟩, 24⟩, ⟨⟨10, 0, 0, 2⟩, 8⟩, ⟨⟨9, 0, 0, 9⟩, 8⟩,
      ⟨⟨10, 0, 0, 2⟩, 24⟩] .zero).addresses.toList =
      [⟨⟨9, 0, 0, 9⟩, 8⟩, ⟨⟨10, 0, 0, 2⟩, 8⟩, ⟨⟨10, 0, 0, 2⟩, 24⟩] := by
  decide

end FabricArp
