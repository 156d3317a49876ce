import FabricArp.Proofs.Arp.Reading
import FabricArp.Proofs.Ethernet.Rereading
import Mathlib.Data.List.GetD

namespace FabricArp.Arp

theorem Layout.ofPayload_append {payload : Bytes} (h : fixedSize ≤ payload.length)
    (padding : Bytes) : ofPayload (payload ++ padding) = ofPayload payload := by
  rw [fixedSize] at h
  rw [ofPayload, ofPayload, List.getD_append, List.getD_append]
  · rw [protocolLengthOffset]
    omega
  · rw [hardwareLengthOffset]
    omega

namespace Packet

structure ReadsAs (packet other : Packet) : Prop where
  read? : ∀ field, packet.read? field = other.read? field
  source? : packet.frame.source? = other.frame.source?
  vlan? : packet.frame.vlan? = other.frame.vlan?

namespace ReadsAs

variable {packet other : Packet} (h : packet.ReadsAs other)
include h

theorem opcode? : packet.opcode? = other.opcode? := by
  simp only [Packet.opcode?, h.read?]

theorem hardwareLength? : packet.hardwareLength? = other.hardwareLength? := by
  simp only [Packet.hardwareLength?, h.read?]

theorem protocolLength? : packet.protocolLength? = other.protocolLength? := by
  simp only [Packet.protocolLength?, h.read?]

theorem senderMac : packet.senderMac = other.senderMac := by
  simp only [Packet.senderMac, hardwareAddress, h.read?]

theorem protocolAddress (field : Field) :
    packet.protocolAddress field = other.protocolAddress field := by
  simp only [Packet.protocolAddress, h.read?, h.protocolLength?]

end ReadsAs

variable {fields : Frame.Fields} (hframed : Framed ⟨fields.frame⟩ fields.payload)
  (padding : Bytes)
include hframed

theorem ofPayload_padded :
    Layout.ofPayload (fields.padded padding).payload = Layout.ofPayload fields.payload :=
  Layout.ofPayload_append (Nat.le_trans (Layout.fixedSize_le_size _) hframed.room) padding

theorem framed_padded :
    Framed ⟨(fields.padded padding).frame⟩ (fields.padded padding).payload where
  announced := (fields.etherType?_padded padding).trans hframed.announced
  carried := Frame.Fields.payload?_frame _
  room := by
    rw [ofPayload_padded hframed]
    refine Nat.le_trans hframed.room ?_
    rw [Frame.Fields.padded, List.length_append]
    exact Nat.le_add_right _ _

theorem readsAs_padded : ReadsAs ⟨(fields.padded padding).frame⟩ ⟨fields.frame⟩ where
  read? := by
    intro field
    have hfits := Nat.le_trans
      ((Layout.ofPayload fields.payload).start_add_width_le_size field) hframed.room
    rw [read?_eq (framed_padded hframed padding), read?_eq hframed, ofPayload_padded hframed]
    change some (((fields.payload ++ padding).drop _).take _) = _
    rw [List.drop_append_of_le_length (by omega), List.take_append_of_le_length]
    rw [List.length_drop]
    omega
  source? := fields.source?_padded padding
  vlan? := fields.vlan?_padded padding

end Packet

end FabricArp.Arp
