import FabricArp.Failure

namespace FabricArp

inductive Vlan where
  | untagged
  | tagged (id : Fin 4096)
deriving DecidableEq

namespace Vlan

def ofNumber (number : UInt16) : Except PacketError Vlan :=
  if h : number.toNat < 4096 then .ok (.tagged ⟨number.toNat, h⟩) else .error .vlanRange

/-- Untagged traffic has the number 65535, which no identifier reaches. -/
def number : Vlan → UInt16
  | untagged => 0xffff
  | tagged id => UInt16.ofNat id.val

def isUntagged : Vlan → Bool
  | untagged => true
  | tagged _ => false

def text : Vlan → String
  | untagged => "None"
  | tagged id => toString id.val

instance : Ord Vlan where
  compare := compareOn number

@[simp] theorem toNat_number_tagged (id : Fin 4096) : (tagged id).number.toNat = id.val := by
  have hid := id.isLt
  simp only [number, UInt16.toNat_ofNat']
  omega

theorem number_injective {left right : Vlan} (h : left.number = right.number) :
    left = right := by
  cases left with
  | untagged =>
      cases right with
      | untagged => rfl
      | tagged id =>
          have hnat := congrArg UInt16.toNat h
          rw [toNat_number_tagged] at hnat
          have hid := id.isLt
          exact absurd hnat (by simp [number]; omega)
  | tagged id =>
      cases right with
      | untagged =>
          have hnat := congrArg UInt16.toNat h
          rw [toNat_number_tagged] at hnat
          have hid := id.isLt
          exact absurd hnat (by simp [number]; omega)
      | tagged other =>
          have hnat := congrArg UInt16.toNat h
          rw [toNat_number_tagged, toNat_number_tagged] at hnat
          rw [Fin.ext hnat]

instance : Std.TransOrd Vlan :=
  inferInstanceAs (Std.TransCmp (compareOn number))

instance : Std.LawfulEqOrd Vlan where
  eq_of_compare h := number_injective (Std.LawfulEqOrd.eq_of_compare h)

end Vlan

end FabricArp
