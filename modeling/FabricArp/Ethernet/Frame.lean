import FabricArp.Address.Mac
import FabricArp.Address.Vlan

/-! Ethernet II frames with at most one 802.1Q tag: their bytes and the offset of the payload. -/

namespace FabricArp

namespace EtherType

def ipv4 : UInt16 := 0x0800

def arp : UInt16 := 0x0806

/-- Stands where the ether type of an untagged frame would and announces a tag. -/
def vlanTag : UInt16 := 0x8100

end EtherType

structure Frame where
  bytes : Bytes
  payloadOffset : Nat
deriving DecidableEq

namespace Frame

def untaggedOffset : Nat := 14

def taggedOffset : Nat := 18

def tagOffset : Nat := 12

def ofBytes (bytes : Bytes) : Except PacketError Frame :=
  if bytes.length < untaggedOffset then .error .frameLength
  else if bytes.slice? tagOffset 2 = some (Bytes.ofWord EtherType.vlanTag) then
    if bytes.length < taggedOffset then .error .taggedFrameLength
    else .ok ⟨bytes, taggedOffset⟩
  else .ok ⟨bytes, untaggedOffset⟩

def empty : Frame :=
  ⟨Bytes.zeros untaggedOffset, untaggedOffset⟩

def sameBytes (left right : Frame) : Bool :=
  left.bytes = right.bytes

def isTagged (frame : Frame) : Bool :=
  frame.payloadOffset = taggedOffset

def macAt? (frame : Frame) (start : Nat) : Option Mac := do
  let bytes ← frame.bytes.slice? start 6
  (Mac.ofBytes bytes).toOption

def destination? (frame : Frame) : Option Mac :=
  frame.macAt? 0

def source? (frame : Frame) : Option Mac :=
  frame.macAt? 6

/-- The tag control word: three bits of priority, one flag and the identifier. -/
def tagControl? (frame : Frame) : Option UInt16 := do
  Bytes.toWord? (← frame.bytes.slice? (tagOffset + 2) 2)

def vlanOfTagControl (control : UInt16) : Vlan :=
  .tagged ⟨control.toNat % 4096, Nat.mod_lt _ (by decide)⟩

def vlan? (frame : Frame) : Option Vlan :=
  if frame.isTagged then frame.tagControl?.map vlanOfTagControl else some .untagged

def etherType? (frame : Frame) : Option UInt16 :=
  if 2 ≤ frame.payloadOffset then do
    Bytes.toWord? (← frame.bytes.slice? (frame.payloadOffset - 2) 2)
  else none

def payload? (frame : Frame) : Option Bytes :=
  if frame.payloadOffset ≤ frame.bytes.length then
    some (frame.bytes.drop frame.payloadOffset)
  else none

def overwrite? (frame : Frame) (start : Nat) (patch : Bytes) : Option Frame := do
  return { frame with bytes := ← frame.bytes.overwrite? start patch }

def setDestination? (frame : Frame) (mac : Mac) : Option Frame :=
  frame.overwrite? 0 mac.bytes

def setSource? (frame : Frame) (mac : Mac) : Option Frame :=
  frame.overwrite? 6 mac.bytes

def setEtherType? (frame : Frame) (etherType : UInt16) : Option Frame :=
  if 2 ≤ frame.payloadOffset then
    frame.overwrite? (frame.payloadOffset - 2) (Bytes.ofWord etherType)
  else none

/-- Puts the identifier into the low 12 bits and keeps the four above. -/
def retagControl (control : UInt16) (id : Fin 4096) : UInt16 :=
  UInt16.ofNat (control.toNat / 4096 * 4096 + id.val)

/-- Tags, retags or untags the frame; the payload keeps its bytes and moves with the tag. -/
def setVlan? (frame : Frame) (vlan : Vlan) : Option Frame :=
  match frame.isTagged, vlan with
  | false, .untagged => some frame
  | true, .untagged =>
      if tagOffset + 4 ≤ frame.bytes.length then
        some ⟨frame.bytes.take tagOffset ++ frame.bytes.drop (tagOffset + 4),
          frame.payloadOffset - 4⟩
      else none
  | true, .tagged id => do
      let control ← frame.tagControl?
      frame.overwrite? (tagOffset + 2) (Bytes.ofWord (retagControl control id))
  | false, .tagged id =>
      if tagOffset ≤ frame.bytes.length then
        some ⟨frame.bytes.take tagOffset ++ Bytes.ofWord EtherType.vlanTag ++
            Bytes.ofWord (UInt16.ofNat id.val) ++ frame.bytes.drop tagOffset,
          frame.payloadOffset + 4⟩
      else none

def setPayload (frame : Frame) (payload : Bytes) : Frame :=
  { frame with bytes := frame.bytes.take frame.payloadOffset ++ payload }

def writePayload? (frame : Frame) (start : Nat) (patch : Bytes) : Option Frame :=
  frame.overwrite? (frame.payloadOffset + start) patch

def assemble (destination source : Mac) (vlan : Vlan) (etherType : UInt16)
    (payload : Bytes) : Frame :=
  let addresses := destination.bytes ++ source.bytes
  match vlan with
  | .untagged => ⟨addresses ++ Bytes.ofWord etherType ++ payload, untaggedOffset⟩
  | .tagged id =>
      ⟨addresses ++ Bytes.ofWord EtherType.vlanTag ++ Bytes.ofWord (UInt16.ofNat id.val) ++
        Bytes.ofWord etherType ++ payload, taggedOffset⟩

end Frame

end FabricArp
