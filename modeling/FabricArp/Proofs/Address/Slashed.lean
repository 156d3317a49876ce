import FabricArp.Address.Subnet
import FabricArp.Proofs.Address.Dotted

/-! Subnets and interface addresses are read from the same texts. -/

namespace FabricArp

/-- The cause for which a subnet is refused where an interface address is refused for this one. -/
def PacketError.ofSubnet : PacketError → PacketError
  | interfaceLengthMissing => subnetLengthMissing
  | interfaceLengthInvalid => subnetLengthInvalid
  | cause => cause

variable {text front back : List Char} {ip : Ip} {cause : PacketError}

namespace Ip

theorem cause_of_ofChars (h : ofChars text = .error cause) :
    cause = .addressComponents ∨ cause = .octetRange := by
  have hreading := reading_ofChars text
  rw [h] at hreading
  cases hreading with
  | components other => exact .inl rfl
  | range whole bad => exact .inr rfl

theorem slash_not_mem_of_ofChars (h : ofChars text = .ok ip) : '/' ∉ text := by
  have hslash : ∀ {part : List Char} {octet : UInt8}, Text.Spells part octet.toNat → '/' ∉ part :=
    fun hspells => hspells.not_mem (by decide) (by decide)
  have hreading := reading_ofChars text
  rw [h] at hreading
  cases hreading with
  | address first second third fourth =>
      simp [hslash first, hslash second, hslash third, hslash fourth]

end Ip

namespace PrefixLength

theorem ofByte_eq_ok_iff {byte : UInt8} {length : PrefixLength} :
    ofByte byte = .ok length ↔ byte.toNat = length.val := by
  rw [ofByte]
  split
  · rw [Except.ok.injEq, Fin.ext_iff]
  · rename_i hlarge
    have hbound := length.isLt
    exact iff_of_false nofun (by omega)

def toByte (length : PrefixLength) : UInt8 :=
  UInt8.ofNat length.val

theorem toNat_toByte (length : PrefixLength) : (toByte length).toNat = length.val :=
  UInt8.toNat_ofNat_of_lt' (Nat.lt_trans length.isLt (by decide))

end PrefixLength

namespace InterfaceAddress

variable {address : InterfaceAddress} {byte : UInt8}

theorem ofChars_of_refused (h : Ip.ofChars (Text.cut '/' text).1 = .error cause) :
    ofChars text = .error cause := by
  rw [ofChars, h]
  rfl

theorem ofChars_of_whole (hcut : Text.cut '/' text = (front, none))
    (hip : Ip.ofChars front = .ok ip) : ofChars text = .error .interfaceLengthMissing := by
  rw [ofChars, hcut]
  dsimp only
  rw [hip]
  rfl

theorem ofChars_of_cut (hcut : Text.cut '/' text = (front, some back))
    (hip : Ip.ofChars front = .ok ip) :
    ofChars text =
      match Text.octet? back with
      | none => .error .interfaceLengthInvalid
      | some length => ofParts ip length := by
  rw [ofChars, hcut]
  dsimp only
  rw [hip]
  rfl

theorem ofParts_eq_ok_iff :
    ofParts ip byte = .ok address ↔ ip = address.ip ∧ byte.toNat = address.length.val := by
  rw [ofParts, ← PrefixLength.ofByte_eq_ok_iff]
  cases PrefixLength.ofByte byte with
  | error cause => exact iff_of_false nofun (fun h => nomatch h.2)
  | ok length =>
      constructor
      · intro h
        cases h
        exact ⟨rfl, rfl⟩
      · rintro ⟨rfl, hlength⟩
        cases hlength
        rfl

theorem exists_parts_of_ofChars (h : ofChars text = .ok address) :
    ∃ front back byte, Text.cut '/' text = (front, some back) ∧
      Ip.ofChars front = .ok address.ip ∧ Text.octet? back = some byte ∧
      byte.toNat = address.length.val := by
  cases hcut : Text.cut '/' text with
  | mk front rest =>
      cases hip : Ip.ofChars front with
      | error cause =>
          rw [ofChars_of_refused (by rw [hcut]; exact hip)] at h
          cases h
      | ok ip =>
          cases rest with
          | none =>
              rw [ofChars_of_whole hcut hip] at h
              cases h
          | some back =>
              rw [ofChars_of_cut hcut hip] at h
              split at h
              · cases h
              · rename_i byte hoctet
                obtain ⟨rfl, hlength⟩ := ofParts_eq_ok_iff.mp h
                exact ⟨front, back, byte, rfl, hip, hoctet, hlength⟩

theorem ofChars_eq_ok_iff :
    ofChars text = .ok address ↔ ∃ front back, text = front ++ '/' :: back ∧ '/' ∉ front ∧
      Ip.ofChars front = .ok address.ip ∧ Text.Spells back address.length.val := by
  constructor
  · intro h
    obtain ⟨front, back, byte, hcut, hip, hoctet, hlength⟩ := exists_parts_of_ofChars h
    obtain ⟨htext, hslash⟩ := Text.cut_eq_some_iff.mp hcut
    rw [← hlength]
    exact ⟨front, back, htext, hslash, hip, Text.octet?_eq_some_iff.mp hoctet⟩
  · rintro ⟨front, back, rfl, hslash, hip, hlength⟩
    have hoctet : Text.octet? back = some (PrefixLength.toByte address.length) := by
      rw [Text.octet?_eq_some_iff, PrefixLength.toNat_toByte]
      exact hlength
    rw [ofChars_of_cut (Text.cut_append hslash back) hip, hoctet]
    exact ofParts_eq_ok_iff.mpr ⟨rfl, PrefixLength.toNat_toByte _⟩

theorem ofChars_toChars (address : InterfaceAddress) : ofChars address.toChars = .ok address := by
  have hip := Ip.ofChars_toChars address.ip
  have hlength := Text.octet?_ofOctet (PrefixLength.toByte address.length)
  rw [Text.octet?_eq_some_iff, Text.ofOctet, PrefixLength.toNat_toByte] at hlength
  exact ofChars_eq_ok_iff.mpr ⟨_, _, rfl, Ip.slash_not_mem_of_ofChars hip, hip, hlength⟩

end InterfaceAddress

namespace Subnet

theorem ofParts_eq_mapped (ip : Ip) (byte : UInt8) :
    ofParts ip byte =
      ((InterfaceAddress.ofParts ip byte).map InterfaceAddress.subnet).mapError
        PacketError.ofSubnet := by
  rw [ofParts, InterfaceAddress.ofParts, PrefixLength.ofByte]
  split <;> rfl

theorem ofChars_eq_mapped (text : List Char) :
    ofChars text =
      ((InterfaceAddress.ofChars text).map InterfaceAddress.subnet).mapError
        PacketError.ofSubnet := by
  cases hcut : Text.cut '/' text with
  | mk front rest =>
      rw [ofChars, InterfaceAddress.ofChars, hcut]
      dsimp only
      cases hip : Ip.ofChars front with
      | error cause => rcases Ip.cause_of_ofChars hip with rfl | rfl <;> rfl
      | ok ip =>
          cases rest with
          | none => rfl
          | some back =>
              dsimp only [bind, Except.bind]
              cases Text.octet? back with
              | none => rfl
              | some byte => exact ofParts_eq_mapped ip byte

theorem ofChars_of_address {address : InterfaceAddress}
    (h : InterfaceAddress.ofChars text = .ok address) : ofChars text = .ok address.subnet := by
  rw [ofChars_eq_mapped, h]
  rfl

theorem exists_address_of_ofChars {subnet : Subnet} (h : ofChars text = .ok subnet) :
    ∃ address, InterfaceAddress.ofChars text = .ok address := by
  rw [ofChars_eq_mapped] at h
  cases haddress : InterfaceAddress.ofChars text with
  | error cause =>
      rw [haddress] at h
      cases h
  | ok address => exact ⟨address, rfl⟩

theorem ofChars_toChars (subnet : Subnet) : ofChars subnet.toChars = .ok subnet := by
  let network : InterfaceAddress := ⟨subnet.address, subnet.length⟩
  have hnetwork : network.subnet = subnet := ext_fields subnet.aligned rfl
  have hread : InterfaceAddress.ofChars subnet.toChars = .ok network :=
    InterfaceAddress.ofChars_toChars network
  rw [ofChars_of_address hread, hnetwork]

structure Agreement (text : String) : Prop where
  mapped : ofText text =
    ((InterfaceAddress.ofText text).map InterfaceAddress.subnet).mapError PacketError.ofSubnet
  together : (∃ subnet, ofText text = .ok subnet) ↔
    ∃ address, InterfaceAddress.ofText text = .ok address
  accepted : ∀ address, InterfaceAddress.ofText text = .ok address ↔
    ∃ front back, text.toList = front ++ '/' :: back ∧ '/' ∉ front ∧
      Ip.ofChars front = .ok address.ip ∧ Text.Spells back address.length.val
  one_slash : ∀ address, InterfaceAddress.ofText text = .ok address → text.toList.count '/' = 1
  inside : ∀ address, InterfaceAddress.ofText text = .ok address →
    ofText text = .ok address.subnet ∧ address.subnet.contains address.ip = true
  address_first : ∀ cause, Ip.ofChars (text.toList.takeWhile (· ≠ '/')) = .error cause →
    ofText text = .error cause ∧ InterfaceAddress.ofText text = .error cause

theorem agreement (text : String) : Agreement text where
  mapped := ofChars_eq_mapped text.toList
  together := by
    constructor
    · rintro ⟨subnet, hsubnet⟩
      exact exists_address_of_ofChars hsubnet
    · rintro ⟨address, haddress⟩
      exact ⟨address.subnet, ofChars_of_address haddress⟩
  accepted address := InterfaceAddress.ofChars_eq_ok_iff
  one_slash address haddress := by
    obtain ⟨front, back, htext, hfront, -, hback⟩ :=
      InterfaceAddress.ofChars_eq_ok_iff.mp haddress
    have hslash : '/' ∉ back := hback.not_mem (by decide) (by decide)
    rw [htext, List.count_append, List.count_cons_self, List.count_eq_zero.mpr hfront,
      List.count_eq_zero.mpr hslash]
  inside address haddress :=
    ⟨ofChars_of_address haddress, decide_eq_true rfl⟩
  address_first cause hcause := by
    rw [← Text.fst_cut] at hcause
    have haddress : InterfaceAddress.ofChars text.toList = .error cause :=
      InterfaceAddress.ofChars_of_refused hcause
    refine ⟨?_, haddress⟩
    rw [ofText, ofChars_eq_mapped, haddress]
    rcases Ip.cause_of_ofChars hcause with rfl | rfl <;> rfl

/-- Subnets and interface addresses are read from the same texts, and the subnet is that of the
interface address, which lies in it. What is written is read back. -/
theorem parsers_agree :
    (∀ text, Agreement text) ∧
    (∀ subnet : Subnet, ofText subnet.text = .ok subnet) ∧
    ∀ address : InterfaceAddress, InterfaceAddress.ofText address.text = .ok address := by
  refine ⟨agreement, ?_, ?_⟩
  · intro subnet
    rw [ofText, Subnet.text, String.toList_ofList, ofChars_toChars]
  · intro address
    rw [InterfaceAddress.ofText, InterfaceAddress.text, String.toList_ofList,
      InterfaceAddress.ofChars_toChars]

theorem parsers_agree_host :
    InterfaceAddress.ofText "10.1.2.3/+08" = .ok ⟨⟨10, 1, 2, 3⟩, 8⟩ ∧
      ofText "10.1.2.3/+08" = .ok (InterfaceAddress.mk ⟨10, 1, 2, 3⟩ 8).subnet ∧
      (InterfaceAddress.mk ⟨10, 1, 2, 3⟩ 8).subnet.address = ⟨10, 0, 0, 0⟩ :=
  have hread : InterfaceAddress.ofText "10.1.2.3/+08" = .ok ⟨⟨10, 1, 2, 3⟩, 8⟩ := by decide
  ⟨hread, ((parsers_agree.1 _).inside _ hread).1, by decide⟩

end Subnet

end FabricArp
