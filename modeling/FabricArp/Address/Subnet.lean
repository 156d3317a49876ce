import FabricArp.Address.Ip

/-! A subnet keeps only its network bits; an interface address keeps all of its address. -/

namespace FabricArp

structure Subnet where
  address : Ip
  length : PrefixLength
  aligned : address.masked length = address
deriving DecidableEq

def Ip.subnet (ip : Ip) (length : PrefixLength) : Subnet :=
  ⟨ip.masked length, length, ip.masked_masked length⟩

namespace Subnet

def ofParts (ip : Ip) (length : UInt8) : Except PacketError Subnet := do
  return ip.subnet (← PrefixLength.ofByte length)

def contains (subnet : Subnet) (ip : Ip) : Bool :=
  ip.masked subnet.length = subnet.address

def toChars (subnet : Subnet) : List Char :=
  subnet.address.toChars ++ '/' :: Nat.toDigits 10 subnet.length.val

/-- Refuses for the address before it looks at the length. -/
def ofChars (text : List Char) : Except PacketError Subnet := do
  let ip ← Ip.ofChars (Text.cut '/' text).1
  match (Text.cut '/' text).2 with
  | none => throw .subnetLengthMissing
  | some length =>
      match Text.octet? length with
      | none => throw .subnetLengthInvalid
      | some length => ofParts ip length

def text (subnet : Subnet) : String :=
  String.ofList subnet.toChars

def ofText (text : String) : Except PacketError Subnet :=
  ofChars text.toList

instance : Ord Subnet where
  compare := compareLex (compareOn address) (compareOn length)

theorem ext_fields {left right : Subnet} (haddress : left.address = right.address)
    (hlength : left.length = right.length) : left = right := by
  cases left
  cases right
  subst haddress
  subst hlength
  rfl

instance : Std.TransOrd Subnet :=
  inferInstanceAs (Std.TransCmp (compareLex (compareOn address) (compareOn length)))

instance : Std.LawfulEqOrd Subnet where
  eq_of_compare h := by
    have hfields := compareLex_eq_eq.mp h
    exact ext_fields (Std.LawfulEqOrd.eq_of_compare hfields.1)
      (Std.LawfulEqOrd.eq_of_compare hfields.2)

end Subnet

/-- An address configured on a port, together with the length of its subnet. -/
structure InterfaceAddress where
  ip : Ip
  length : PrefixLength
deriving DecidableEq

namespace InterfaceAddress

def ofParts (ip : Ip) (length : UInt8) : Except PacketError InterfaceAddress := do
  return ⟨ip, ← PrefixLength.ofByte length⟩

def subnet (address : InterfaceAddress) : Subnet :=
  address.ip.subnet address.length

def toChars (address : InterfaceAddress) : List Char :=
  address.ip.toChars ++ '/' :: Nat.toDigits 10 address.length.val

def ofChars (text : List Char) : Except PacketError InterfaceAddress := do
  let ip ← Ip.ofChars (Text.cut '/' text).1
  match (Text.cut '/' text).2 with
  | none => throw .interfaceLengthMissing
  | some length =>
      match Text.octet? length with
      | none => throw .interfaceLengthInvalid
      | some length => ofParts ip length

def text (address : InterfaceAddress) : String :=
  String.ofList address.toChars

def ofText (text : String) : Except PacketError InterfaceAddress :=
  ofChars text.toList

instance : Ord InterfaceAddress where
  compare := compareLex (compareOn ip) (compareOn subnet)

instance : Std.TransOrd InterfaceAddress :=
  inferInstanceAs (Std.TransCmp (compareLex (compareOn ip) (compareOn subnet)))

instance : Std.LawfulEqOrd InterfaceAddress where
  eq_of_compare {left right} h := by
    have hfields := compareLex_eq_eq.mp h
    have hip : left.ip = right.ip := Std.LawfulEqOrd.eq_of_compare hfields.1
    have hsubnet : left.subnet = right.subnet := Std.LawfulEqOrd.eq_of_compare hfields.2
    have hlength : left.length = right.length := congrArg Subnet.length hsubnet
    cases left
    cases right
    simp only [] at hip hlength
    rw [hip, hlength]

end InterfaceAddress

end FabricArp
