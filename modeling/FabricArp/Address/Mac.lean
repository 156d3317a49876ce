import FabricArp.Bytes
import FabricArp.Failure

namespace FabricArp

structure Mac where
  b0 : UInt8
  b1 : UInt8
  b2 : UInt8
  b3 : UInt8
  b4 : UInt8
  b5 : UInt8
deriving DecidableEq

namespace Mac

def bytes (mac : Mac) : Bytes :=
  [mac.b0, mac.b1, mac.b2, mac.b3, mac.b4, mac.b5]

def ofBytes : Bytes → Except PacketError Mac
  | [b0, b1, b2, b3, b4, b5] => .ok ⟨b0, b1, b2, b3, b4, b5⟩
  | _ => .error .macLength

def zero : Mac := ⟨0, 0, 0, 0, 0, 0⟩

def broadcast : Mac := ⟨0xff, 0xff, 0xff, 0xff, 0xff, 0xff⟩

def isBroadcast (mac : Mac) : Bool :=
  mac = broadcast

def text (mac : Mac) : String :=
  String.intercalate ":" (mac.bytes.map fun byte => String.ofList (Bytes.hexDigits byte))

instance : Ord Mac where
  compare := compareOn bytes

@[simp] theorem length_bytes (mac : Mac) : mac.bytes.length = 6 :=
  rfl

@[simp] theorem ofBytes_bytes (mac : Mac) : ofBytes mac.bytes = .ok mac :=
  rfl

theorem bytes_of_ofBytes {source : Bytes} {mac : Mac} (h : ofBytes source = .ok mac) :
    mac.bytes = source := by
  unfold ofBytes at h
  split at h
  · cases h
    rfl
  · cases h

theorem ofBytes_eq_ok_iff {source : Bytes} :
    (∃ mac, ofBytes source = .ok mac) ↔ source.length = 6 := by
  constructor
  · rintro ⟨mac, h⟩
    rw [← bytes_of_ofBytes h, length_bytes]
  · intro h
    match source, h with
    | [b0, b1, b2, b3, b4, b5], _ => exact ⟨⟨b0, b1, b2, b3, b4, b5⟩, rfl⟩

theorem ofBytes_of_length_ne {source : Bytes} (h : source.length ≠ 6) :
    ofBytes source = .error .macLength := by
  unfold ofBytes
  split
  · exact absurd rfl h
  · rfl

theorem exists_bytes {source : Bytes} (h : source.length = 6) :
    ∃ mac : Mac, mac.bytes = source := by
  obtain ⟨mac, hmac⟩ := ofBytes_eq_ok_iff.mpr h
  exact ⟨mac, bytes_of_ofBytes hmac⟩

theorem exists_append {source : Bytes} (h : 6 ≤ source.length) :
    ∃ (mac : Mac) (rest : Bytes), source = mac.bytes ++ rest := by
  obtain ⟨front, rest, rfl, hfront⟩ := Bytes.exists_append h
  obtain ⟨mac, rfl⟩ := exists_bytes hfront
  exact ⟨mac, rest, rfl⟩

theorem bytes_injective {left right : Mac} (h : left.bytes = right.bytes) : left = right := by
  have hok := ofBytes_bytes left
  rw [h, ofBytes_bytes] at hok
  exact (Except.ok.inj hok).symm

instance : Std.TransOrd Mac :=
  inferInstanceAs (Std.TransCmp (compareOn bytes))

instance : Std.LawfulEqOrd Mac where
  eq_of_compare h := bytes_injective (Std.LawfulEqOrd.eq_of_compare h)

end Mac

end FabricArp
