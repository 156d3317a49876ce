import FabricArp.Arp.Reply
import FabricArp.Arp.Station
import FabricArp.Proofs.Arp.Assigning

namespace FabricArp

namespace Frame

variable (destination source mac : Mac) (etherType : UInt16) (payload : Bytes)

theorem setDestination?_assemble :
    (assemble destination source .untagged etherType payload).setDestination? mac =
      some (assemble mac source .untagged etherType payload) :=
  rfl

theorem setSource?_assemble :
    (assemble destination source .untagged etherType payload).setSource? mac =
      some (assemble destination mac .untagged etherType payload) :=
  rfl

theorem setVlan?_assemble (vlan : Vlan) :
    (assemble destination source .untagged etherType payload).setVlan? vlan =
      some (assemble destination source vlan etherType payload) := by
  cases vlan <;> rfl

end Frame

namespace Arp.Packet

def stated (op : Op) (senderMac : Mac) (senderIp : Ip) (targetMac : Mac) (targetIp : Ip) :
    Packet :=
  ⟨Frame.assemble .zero .zero .untagged EtherType.arp
    (Station.payload op senderMac senderIp targetMac targetIp)⟩

def statedContents (op : Op) (senderMac : Mac) (senderIp : Ip) (targetMac : Mac) (targetIp : Ip) :
    Contents where
  hardwareType := 1
  protocolType := EtherType.ipv4
  hardwareLength := 6
  protocolLength := 4
  opcode := op.code
  senderHardware := senderMac.bytes
  senderProtocol := senderIp.octets
  targetHardware := targetMac.bytes
  targetProtocol := targetIp.octets
  padding := []
  length_senderHardware := senderMac.length_bytes
  length_senderProtocol := senderIp.length_octets
  length_targetHardware := targetMac.length_bytes
  length_targetProtocol := targetIp.length_octets

theorem assign?_stated {op : Op} {senderMac targetMac : Mac} {senderIp targetIp : Ip}
    (assignment : Assignment)
    (hfits : (statedContents op senderMac senderIp targetMac targetIp).Fits assignment) :
    (stated op senderMac senderIp targetMac targetIp).assign? assignment =
      some ⟨Frame.Fields.frame ⟨.zero, .zero, none, EtherType.arp,
        ((statedContents op senderMac senderIp targetMac targetIp).put assignment).payload⟩⟩ := by
  let fields : Frame.Fields :=
    ⟨.zero, .zero, none, EtherType.arp, Station.payload op senderMac senderIp targetMac targetIp⟩
  have hpayload : fields.payload =
      (statedContents op senderMac senderIp targetMac targetIp).payload :=
    (List.append_nil _).symm
  exact (assign?_frame hpayload assignment).trans (if_pos hfits)

section Setters

variable (op : Op) (senderMac targetMac mac : Mac) (senderIp targetIp ip : Ip)

theorem frame_stated :
    (stated op senderMac senderIp targetMac targetIp).frame =
      Frame.assemble .zero .zero .untagged EtherType.arp
        (Station.payload op senderMac senderIp targetMac targetIp) :=
  rfl

theorem setSenderMac?_stated :
    (stated op senderMac senderIp targetMac targetIp).setSenderMac? mac =
      some (stated op mac senderIp targetMac targetIp) :=
  assign?_stated (.senderMac mac) rfl

theorem setSenderIp?_stated :
    (stated op senderMac senderIp targetMac targetIp).setSenderIp? ip =
      some (stated op senderMac ip targetMac targetIp) :=
  assign?_stated (.senderIp ip) rfl

theorem setTargetMac?_stated :
    (stated op senderMac senderIp targetMac targetIp).setTargetMac? mac =
      some (stated op senderMac senderIp mac targetIp) :=
  assign?_stated (.targetMac mac) rfl

theorem setTargetIp?_stated :
    (stated op senderMac senderIp targetMac targetIp).setTargetIp? ip =
      some (stated op senderMac senderIp targetMac ip) :=
  assign?_stated (.targetIp ip) rfl

end Setters

theorem setOpcode?_blankIpv4 (op : Op) :
    blankIpv4.setOpcode? op.code = some (stated op .zero ⟨0, 0, 0, 0⟩ .zero ⟨0, 0, 0, 0⟩) := by
  cases op <;> decide

variable {request : Packet} {payload : Bytes}

theorem answer_eq {requesterMac source : Mac} {requesterIp : Ip} {vlan : Vlan}
    (hmac : request.senderMac = .ok requesterMac) (hip : request.senderIp = .ok requesterIp)
    (hsource : request.frame.source? = some source) (hvlan : request.frame.vlan? = some vlan)
    (ip : Ip) (mac : Mac) :
    request.answer ip mac =
      .ok (Frame.assemble source mac vlan EtherType.arp
        (Station.payload .reply mac ip requesterMac requesterIp)) := by
  simp only [answer, hmac, hip, hsource, hvlan, setOpcode?_blankIpv4, Outcome.ok_bind,
    Outcome.liftM_some, setSenderMac?_stated, setSenderIp?_stated, setTargetMac?_stated,
    setTargetIp?_stated, frame_stated, Frame.setDestination?_assemble, Frame.setSource?_assemble,
    Frame.setVlan?_assemble]

theorem exists_answer {source : Mac} {vlan : Vlan} (hframed : request.Framed payload)
    (hhardware : request.hardwareLength? = some 6) (hprotocol : request.protocolLength? = some 4)
    (hsource : request.frame.source? = some source) (hvlan : request.frame.vlan? = some vlan)
    (ip : Ip) (mac : Mac) : ∃ answer, request.answer ip mac = .ok answer := by
  obtain ⟨requesterMac, hmac⟩ := exists_senderMac hframed hhardware
  obtain ⟨requesterIp, hip⟩ := exists_protocolAddress hframed .senderProtocol hprotocol rfl
  exact ⟨_, answer_eq hmac hip hsource hvlan ip mac⟩

theorem answer_of_hardwareLength_ne (hframed : request.Framed payload)
    (hlength : request.hardwareLength? ≠ some 6) (ip : Ip) (mac : Mac) :
    request.answer ip mac = .error (.refused .macLength) := by
  rw [answer, senderMac_of_length_ne hframed hlength]
  rfl

theorem answer_of_protocolLength_ne (hframed : request.Framed payload)
    (hhardware : request.hardwareLength? = some 6) (hlength : request.protocolLength? ≠ some 4)
    (ip : Ip) (mac : Mac) :
    request.answer ip mac = .error (.refused .protocolAddressLength) := by
  obtain ⟨requesterMac, hmac⟩ := exists_senderMac hframed hhardware
  have hip : request.senderIp = .error (.refused .protocolAddressLength) :=
    protocolAddress_of_length_ne hframed hlength
  rw [answer, hmac, hip]
  rfl

theorem answer_ne_outOfRange {source : Mac} {vlan : Vlan} (hframed : request.Framed payload)
    (hsource : request.frame.source? = some source) (hvlan : request.frame.vlan? = some vlan)
    (ip : Ip) (mac : Mac) : request.answer ip mac ≠ .error .outOfRange := by
  intro h
  rcases Decidable.em (request.hardwareLength? = some 6) with hhardware | hforeign
  · rcases Decidable.em (request.protocolLength? = some 4) with hprotocol | hforeign
    · obtain ⟨answer, hanswer⟩ := exists_answer hframed hhardware hprotocol hsource hvlan ip mac
      cases h.symm.trans hanswer
    · cases h.symm.trans (answer_of_protocolLength_ne hframed hhardware hforeign ip mac)
  · cases h.symm.trans (answer_of_hardwareLength_ne hframed hforeign ip mac)

end Arp.Packet

namespace Arp.Station

open Packet

variable (senderMac targetMac : Mac) (senderIp targetIp : Ip) (vlan : Vlan)

theorem request_eq_setters :
    (do
      let packet ← blankIpv4.setOpcode? Op.request.code
      let packet ← packet.setSenderMac? senderMac
      let packet ← packet.setSenderIp? senderIp
      let packet ← packet.setTargetIp? targetIp
      let frame ← packet.frame.setDestination? .broadcast
      let frame ← frame.setSource? senderMac
      frame.setVlan? vlan) = some (request senderMac senderIp targetIp vlan) := by
  simp only [setOpcode?_blankIpv4, setSenderMac?_stated, setSenderIp?_stated, setTargetIp?_stated,
    frame_stated, Frame.setDestination?_assemble, Frame.setSource?_assemble,
    Frame.setVlan?_assemble, Option.bind_eq_bind, Option.bind_some, request]

theorem reply_eq_setters :
    (do
      let packet ← blankIpv4.setOpcode? Op.reply.code
      let packet ← packet.setSenderMac? senderMac
      let packet ← packet.setSenderIp? senderIp
      let packet ← packet.setTargetMac? targetMac
      let packet ← packet.setTargetIp? targetIp
      let frame ← packet.frame.setDestination? targetMac
      let frame ← frame.setSource? senderMac
      frame.setVlan? vlan) = some (reply senderMac senderIp targetMac targetIp vlan) := by
  simp only [setOpcode?_blankIpv4, setSenderMac?_stated, setSenderIp?_stated,
    setTargetMac?_stated, setTargetIp?_stated, frame_stated, Frame.setDestination?_assemble,
    Frame.setSource?_assemble, Frame.setVlan?_assemble, Option.bind_eq_bind, Option.bind_some,
    reply]

theorem ipv4_eq_setters (source destination : Mac) :
    (do
      let frame ← Frame.empty.setDestination? destination
      let frame ← frame.setSource? source
      let frame ← frame.setEtherType? EtherType.ipv4
      return frame.setPayload (Bytes.zeros 20)) = some (ipv4 source destination) :=
  rfl

end Arp.Station

end FabricArp
