import FabricArp.Bytes
import FabricArp.Failure
import FabricArp.Text.Decimal
import FabricArp.Text.Fields

namespace FabricArp

structure Ip where
  a : UInt8
  b : UInt8
  c : UInt8
  d : UInt8
deriving DecidableEq

/-- How many leading bits of an address name its network. -/
abbrev PrefixLength := Fin 33

def PrefixLength.ofByte (length : UInt8) : Except PacketError PrefixLength :=
  if h : length.toNat < 33 then .ok ⟨length.toNat, h⟩ else .error .prefixLengthRange

namespace Ip

def octets (ip : Ip) : Bytes :=
  [ip.a, ip.b, ip.c, ip.d]

def value (ip : Ip) : UInt32 :=
  UInt32.ofNat (((ip.a.toNat * 256 + ip.b.toNat) * 256 + ip.c.toNat) * 256 + ip.d.toNat)

def ofValue (value : UInt32) : Ip where
  a := UInt8.ofNat (value.toNat / 16777216)
  b := UInt8.ofNat (value.toNat / 65536)
  c := UInt8.ofNat (value.toNat / 256)
  d := UInt8.ofNat value.toNat

/-- Reads the four bytes at `offset`.  Too few bytes at all is the cause that wins. -/
def ofBytes (bytes : Bytes) (offset : Nat) : Except PacketError Ip :=
  if bytes.length < 4 then .error .addressBytes
  else
    match bytes.drop offset with
    | a :: b :: c :: d :: _ => .ok ⟨a, b, c, d⟩
    | _ => .error .addressOffset

/-- The address whose first `length` bits are set; a shift by the full width is set apart. -/
def mask (length : PrefixLength) : Ip :=
  let shift := 32 - length.val
  ofValue (if shift < 32 then 0xffffffff <<< UInt32.ofNat shift else 0)

def masked (ip : Ip) (length : PrefixLength) : Ip :=
  ofValue (ip.value &&& (mask length).value)

def maskedTo (ip : Ip) (length : UInt8) : Except PacketError Ip := do
  return ip.masked (← PrefixLength.ofByte length)

def toChars (ip : Ip) : List Char :=
  Text.join '.' (ip.octets.map Text.ofOctet)

def ofChars (text : List Char) : Except PacketError Ip :=
  match Text.split '.' text with
  | [a, b, c, d] =>
      match Text.octet? a, Text.octet? b, Text.octet? c, Text.octet? d with
      | some a, some b, some c, some d => .ok ⟨a, b, c, d⟩
      | _, _, _, _ => .error .octetRange
  | _ => .error .addressComponents

def text (ip : Ip) : String :=
  String.ofList ip.toChars

def ofText (text : String) : Except PacketError Ip :=
  ofChars text.toList

instance : Ord Ip where
  compare := compareOn octets

@[simp] theorem length_octets (ip : Ip) : ip.octets.length = 4 :=
  rfl

theorem octets_injective {left right : Ip} (h : left.octets = right.octets) : left = right := by
  cases left
  cases right
  simp only [octets, List.cons.injEq, and_true] at h
  obtain ⟨ha, hb, hc, hd⟩ := h
  rw [ha, hb, hc, hd]

theorem exists_octets {source : Bytes} (h : source.length = 4) :
    ∃ ip : Ip, ip.octets = source := by
  match source, h with
  | [a, b, c, d], _ => exact ⟨⟨a, b, c, d⟩, rfl⟩

instance : Std.TransOrd Ip :=
  inferInstanceAs (Std.TransCmp (compareOn octets))

instance : Std.LawfulEqOrd Ip where
  eq_of_compare h := octets_injective (Std.LawfulEqOrd.eq_of_compare h)

theorem toNat_value (ip : Ip) :
    ip.value.toNat =
      ((ip.a.toNat * 256 + ip.b.toNat) * 256 + ip.c.toNat) * 256 + ip.d.toNat := by
  have ha := ip.a.toNat_lt
  have hb := ip.b.toNat_lt
  have hc := ip.c.toNat_lt
  have hd := ip.d.toNat_lt
  simp only [value, UInt32.toNat_ofNat']
  omega

@[simp] theorem value_ofValue (value : UInt32) : (ofValue value).value = value := by
  have hvalue := value.toNat_lt
  apply UInt32.toNat_inj.mp
  rw [toNat_value]
  simp only [ofValue, UInt8.toNat_ofNat']
  omega

@[simp] theorem ofValue_value (ip : Ip) : ofValue ip.value = ip := by
  have ha := ip.a.toNat_lt
  have hb := ip.b.toNat_lt
  have hc := ip.c.toNat_lt
  have hd := ip.d.toNat_lt
  cases ip with
  | mk a b c d =>
      simp only [ofValue, toNat_value, Ip.mk.injEq]
      simp only [] at ha hb hc hd
      refine ⟨?_, ?_, ?_, ?_⟩ <;>
        · apply UInt8.toNat_inj.mp
          simp only [UInt8.toNat_ofNat']
          omega

@[simp] theorem value_masked (ip : Ip) (length : PrefixLength) :
    (ip.masked length).value = ip.value &&& (mask length).value := by
  simp [masked]

@[simp] theorem masked_masked (ip : Ip) (length : PrefixLength) :
    (ip.masked length).masked length = ip.masked length := by
  rw [masked, value_masked, UInt32.and_assoc, UInt32.and_self, ← masked]

@[simp] theorem ofChars_toChars (ip : Ip) : ofChars ip.toChars = .ok ip := by
  have hparts : ∀ part ∈ ip.octets.map Text.ofOctet, '.' ∉ part := by
    intro part hpart hdot
    obtain ⟨octet, -, rfl⟩ := List.mem_map.mp hpart
    exact absurd (Nat.isDigit_of_mem_toDigits (b := 10) (by decide) (by decide) hdot)
      (by decide)
  rw [ofChars, toChars, Text.split_join (by simp [octets]) hparts]
  simp [octets]

end Ip

end FabricArp
