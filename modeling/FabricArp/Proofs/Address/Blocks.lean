import FabricArp.Proofs.Address.Slashed
import Mathlib.Algebra.Group.Nat.Defs
import Mathlib.Data.Set.Basic
import Mathlib.Order.Bounds.Basic
import Mathlib.Order.Fin.Basic
import Mathlib.Order.Interval.Set.Defs

/-! Subnets as aligned blocks of addresses. -/

namespace FabricArp

namespace PrefixLength

variable {shorter longer length : PrefixLength} {byte : UInt8}

/-- How many addresses there are with the same first `length` bits. -/
def span (length : PrefixLength) : Nat :=
  2 ^ (32 - length.val)

theorem span_pos (length : PrefixLength) : 0 < length.span :=
  Nat.two_pow_pos _

theorem span_dvd_span (h : shorter ≤ longer) : longer.span ∣ shorter.span :=
  Nat.pow_dvd_pow 2 (Nat.sub_le_sub_left h 32)

theorem span_of_ofByte (h : ofByte byte = .ok length) : length.span = 2 ^ (32 - byte.toNat) := by
  rw [span, ofByte_eq_ok_iff.mp h]

theorem ofByte_toByte (length : PrefixLength) : ofByte length.toByte = .ok length :=
  ofByte_eq_ok_iff.mpr length.toNat_toByte

theorem exists_ofByte_iff : (∃ length, ofByte byte = .ok length) ↔ byte.toNat ≤ 32 := by
  simp only [ofByte_eq_ok_iff]
  constructor
  · rintro ⟨length, h⟩
    rw [h]
    exact Nat.le_of_lt_succ length.isLt
  · intro h
    exact ⟨⟨byte.toNat, Nat.lt_succ_of_le h⟩, rfl⟩

end PrefixLength

namespace Ip

variable {left right ip network : Ip} {length shorter longer : PrefixLength}

theorem eq_of_toNat_value (h : left.value.toNat = right.value.toNat) : left = right := by
  rw [← ofValue_value left, UInt32.toNat_inj.mp h, ofValue_value]

theorem and_leadingOnes {value low : Nat} (hvalue : value < 2 ^ 32) (hlow : low ≤ 32) :
    value &&& (2 ^ 32 - 2 ^ low) = value / 2 ^ low * 2 ^ low := by
  have hpos := Nat.two_pow_pos low
  have hle : 2 ^ low ≤ 2 ^ 32 := Nat.pow_le_pow_right (by decide) hlow
  have hmask : 2 ^ 32 - 2 ^ low = 2 ^ 32 - ((2 ^ low - 1) + 1) := by omega
  apply Nat.eq_of_testBit_eq
  intro index
  rw [Nat.testBit_and, hmask, Nat.testBit_two_pow_sub_succ (by omega),
    Nat.testBit_two_pow_sub_one, Nat.testBit_mul_two_pow, Nat.testBit_div_two_pow]
  rcases Nat.lt_or_ge index low with hcleared | hkept
  · simp [hcleared]
  · rw [Nat.sub_add_cancel hkept]
    rcases Nat.lt_or_ge index 32 with hinside | houtside
    · simp [hkept, hinside]
    · have hwide : 2 ^ 32 ≤ 2 ^ index := Nat.pow_le_pow_right (by decide) houtside
      rw [Nat.testBit_lt_two_pow (Nat.lt_of_lt_of_le hvalue hwide), Bool.false_and,
        Bool.and_false]

theorem toNat_value_mask (length : PrefixLength) :
    (mask length).value.toNat = 2 ^ 32 - length.span := by
  rw [mask, value_ofValue]
  split
  · rename_i hshift
    have hspan : length.span < 2 ^ 32 := Nat.pow_lt_pow_right (by decide) hshift
    have hpos := length.span_pos
    have hcount : (UInt32.ofNat (32 - length.val)).toNat % 32 = 32 - length.val := by
      rw [UInt32.toNat_ofNat_of_lt' (Nat.lt_trans hshift (by decide)), Nat.mod_eq_of_lt hshift]
    rw [UInt32.toNat_shiftLeft, Nat.shiftLeft_eq, hcount, ← PrefixLength.span]
    change 4294967295 * length.span % 2 ^ 32 = _
    omega
  · rename_i hwide
    have hspan : length.span = 2 ^ 32 := congrArg (2 ^ ·) (by omega)
    rw [hspan]
    rfl

theorem toNat_value_masked (ip : Ip) (length : PrefixLength) :
    (ip.masked length).value.toNat = ip.value.toNat / length.span * length.span := by
  rw [value_masked, UInt32.toNat_and, toNat_value_mask]
  exact and_leadingOnes ip.value.toNat_lt (Nat.sub_le 32 _)

theorem isGreatest_masked (ip : Ip) (length : PrefixLength) :
    IsGreatest {value | length.span ∣ value ∧ value ≤ ip.value.toNat}
      (ip.masked length).value.toNat := by
  rw [toNat_value_masked]
  refine ⟨⟨Nat.dvd_mul_left _ _, Nat.div_mul_le_self _ _⟩, ?_⟩
  rintro value ⟨⟨count, rfl⟩, hle⟩
  rw [Nat.mul_comm]
  refine Nat.mul_le_mul_right _ ?_
  rwa [Nat.le_div_iff_mul_le length.span_pos, Nat.mul_comm]

theorem masked_eq_iff_isGreatest :
    ip.masked length = network ↔
      IsGreatest {value | length.span ∣ value ∧ value ≤ ip.value.toNat} network.value.toNat := by
  constructor
  · rintro rfl
    exact isGreatest_masked ip length
  · intro h
    exact eq_of_toNat_value ((isGreatest_masked ip length).unique h)

theorem masked_eq_iff_mem_Icc (haligned : network.masked length = network) :
    ip.masked length = network ↔
      ip.value.toNat ∈ Set.Icc network.value.toNat (network.value.toNat + length.span - 1) := by
  have hnetwork := toNat_value_masked network length
  rw [haligned] at hnetwork
  have hvalue : ip.masked length = network ↔
      ip.value.toNat / length.span = network.value.toNat / length.span := by
    rw [← Nat.mul_right_cancel_iff length.span_pos, ← hnetwork, ← toNat_value_masked]
    exact ⟨congrArg fun address : Ip => address.value.toNat, eq_of_toNat_value⟩
  rw [hvalue, Nat.div_eq_iff length.span_pos, ← hnetwork]
  rfl

theorem masked_masked_of_ge (h : shorter ≤ longer) :
    (ip.masked longer).masked shorter = ip.masked shorter := by
  apply eq_of_toNat_value
  obtain ⟨count, hspan⟩ := PrefixLength.span_dvd_span h
  simp only [toNat_value_masked]
  rw [hspan, ← Nat.div_div_eq_div_mul, Nat.mul_div_cancel _ longer.span_pos,
    ← Nat.div_div_eq_div_mul]

theorem masked_masked_of_le (h : shorter ≤ longer) :
    (ip.masked shorter).masked longer = ip.masked shorter := by
  apply eq_of_toNat_value
  rw [toNat_value_masked _ longer, toNat_value_masked]
  exact Nat.div_mul_cancel (Nat.dvd_mul_left_of_dvd (PrefixLength.span_dvd_span h) _)

theorem masked_masked_eq_min (ip : Ip) (first second : PrefixLength) :
    (ip.masked first).masked second = ip.masked (min first second) := by
  rcases le_total first second with h | h
  · rw [min_eq_left h, masked_masked_of_le h]
  · rw [min_eq_right h, masked_masked_of_ge h]

theorem maskedTo_toByte (ip : Ip) (length : PrefixLength) :
    ip.maskedTo length.toByte = .ok (ip.masked length) := by
  rw [maskedTo, length.ofByte_toByte]
  rfl

end Ip

namespace Subnet

variable {subnet shorter longer : Subnet} {ip : Ip} {byte : UInt8}

def members (subnet : Subnet) : Set Ip :=
  {ip | subnet.contains ip = true}

theorem contains_iff_masked :
    subnet.contains ip = true ↔ ip.masked subnet.length = subnet.address :=
  decide_eq_true_iff

theorem address_mem_members (subnet : Subnet) : subnet.address ∈ subnet.members :=
  contains_iff_masked.mpr subnet.aligned

theorem ofParts_eq_ok_iff :
    ofParts ip byte = .ok subnet ↔
      PrefixLength.ofByte byte = .ok subnet.length ∧ ip.masked subnet.length = subnet.address := by
  rw [ofParts]
  cases PrefixLength.ofByte byte with
  | error cause =>
      constructor
      · intro h
        cases h
      · rintro ⟨hlength, -⟩
        cases hlength
  | ok length =>
      constructor
      · intro h
        cases h
        exact ⟨rfl, rfl⟩
      · rintro ⟨hlength, haddress⟩
        cases hlength
        exact congrArg Except.ok (ext_fields haddress rfl)

theorem exists_ofParts_iff : (∃ subnet, ofParts ip byte = .ok subnet) ↔ byte.toNat ≤ 32 := by
  rw [← PrefixLength.exists_ofByte_iff]
  constructor
  · rintro ⟨subnet, h⟩
    exact ⟨subnet.length, (ofParts_eq_ok_iff.mp h).1⟩
  · rintro ⟨length, h⟩
    exact ⟨ip.subnet length, ofParts_eq_ok_iff.mpr ⟨h, rfl⟩⟩

theorem ofParts_eq_ok_iff_isGreatest :
    ofParts ip byte = .ok subnet ↔
      byte.toNat = subnet.length.val ∧
        IsGreatest {value | 2 ^ (32 - byte.toNat) ∣ value ∧ value ≤ ip.value.toNat}
          subnet.address.value.toNat := by
  rw [ofParts_eq_ok_iff, Ip.masked_eq_iff_isGreatest, ← PrefixLength.ofByte_eq_ok_iff]
  refine and_congr_right fun h => ?_
  rw [PrefixLength.span_of_ofByte h]

theorem members_subset_of_mem (hlength : shorter.length ≤ longer.length)
    (hshorter : ip ∈ shorter.members) (hlonger : ip ∈ longer.members) :
    longer.members ⊆ shorter.members := by
  intro other hother
  have hshorter := contains_iff_masked.mp hshorter
  have hlonger := contains_iff_masked.mp hlonger
  have hother := contains_iff_masked.mp hother
  apply contains_iff_masked.mpr
  calc other.masked shorter.length
      = (other.masked longer.length).masked shorter.length :=
        (Ip.masked_masked_of_ge hlength).symm
    _ = (ip.masked longer.length).masked shorter.length := by rw [hother, hlonger]
    _ = ip.masked shorter.length := Ip.masked_masked_of_ge hlength
    _ = shorter.address := hshorter

theorem members_subset_iff_nonempty (hlength : shorter.length ≤ longer.length) :
    longer.members ⊆ shorter.members ↔ (shorter.members ∩ longer.members).Nonempty := by
  constructor
  · intro hsubset
    exact ⟨longer.address, hsubset longer.address_mem_members, longer.address_mem_members⟩
  · rintro ⟨ip, hshorter, hlonger⟩
    exact members_subset_of_mem hlength hshorter hlonger

/-- The subnet holds the addresses from its own one up to the one with all host bits set. -/
structure IsBlock (subnet : Subnet) : Prop where
  range : ∀ ip : Ip, subnet.contains ip = true ↔
    ip.value.toNat ∈ Set.Icc subnet.address.value.toNat
      (subnet.address.value.toNat + 2 ^ (32 - subnet.length.val) - 1)
  accepted : ∀ ip : Ip, ip.maskedTo subnet.length.toByte = .ok (ip.masked subnet.length)
  checked : ∀ ip : Ip, subnet.contains ip =
    match ip.maskedTo subnet.length.toByte with
    | .ok network => decide (network = subnet.address)
    | .error _ => false

theorem isBlock (subnet : Subnet) : subnet.IsBlock where
  range ip := contains_iff_masked.trans (Ip.masked_eq_iff_mem_Icc subnet.aligned)
  accepted ip := ip.maskedTo_toByte subnet.length
  checked ip := by
    rw [ip.maskedTo_toByte]
    rfl

/-- Every address and length up to 32 make a subnet, an aligned block of addresses; of two such
blocks one holds the other or they share nothing. -/
theorem aligned_blocks :
    (∀ ip byte, (∃ subnet, ofParts ip byte = .ok subnet) ↔ byte.toNat ≤ 32) ∧
    (∀ ip byte subnet, ofParts ip byte = .ok subnet ↔
      byte.toNat = subnet.length.val ∧
        IsGreatest {value | 2 ^ (32 - byte.toNat) ∣ value ∧ value ≤ ip.value.toNat}
          subnet.address.value.toNat) ∧
    (∀ subnet : Subnet, subnet.IsBlock) ∧
    (∀ (ip : Ip) (first second : PrefixLength),
      (ip.masked first).masked second = ip.masked (min first second)) ∧
    ∀ shorter longer : Subnet, shorter.length ≤ longer.length →
      (longer.members ⊆ shorter.members ↔ (shorter.members ∩ longer.members).Nonempty) :=
  ⟨fun _ _ => exists_ofParts_iff, fun _ _ _ => ofParts_eq_ok_iff_isGreatest, isBlock,
    Ip.masked_masked_eq_min, fun _ _ => members_subset_iff_nonempty⟩

theorem aligned_blocks_neighbours :
    let all := Ip.subnet ⟨10, 1, 2, 3⟩ 0
    let one := Ip.subnet ⟨255, 255, 255, 255⟩ 32
    let lower := Ip.subnet ⟨10, 0, 127, 255⟩ 17
    let upper := Ip.subnet ⟨10, 0, 128, 0⟩ 17
    (all.length ≤ one.length ∧ one.members ⊆ all.members) ∧
      lower.length ≤ upper.length ∧ ¬(lower.members ∩ upper.members).Nonempty := by
  intro all one lower upper
  have hnested : all.length ≤ one.length := by decide
  have hneighbours : lower.length ≤ upper.length := by decide
  have hall : all.contains one.address = true := by decide
  have hapart : ¬upper.members ⊆ lower.members := by
    intro hsubset
    have hlower : lower.contains upper.address = true := hsubset upper.address_mem_members
    revert hlower
    decide
  obtain ⟨-, -, -, -, hblocks⟩ := aligned_blocks
  exact ⟨⟨hnested, (hblocks all one hnested).mpr ⟨one.address, hall, one.address_mem_members⟩⟩,
    hneighbours, mt (hblocks lower upper hneighbours).mpr hapart⟩

end Subnet

end FabricArp
