import FabricArp.Proofs.Arp.Answer
import FabricArp.Proofs.Ethernet.Rereading

/-! Questions and the replies to them. -/

namespace FabricArp.Arp

/-- What a request asks, with all that a reply to it has to go by. -/
structure Question where
  source : Mac
  vlan : Vlan
  senderMac : Mac
  senderIp : Ip
  target : Ip
deriving DecidableEq

namespace Question

/-- The packet has what an answer to the question goes by, whatever its operation. -/
structure Poses (question : Question) (packet : Packet) : Prop where
  source : packet.frame.source? = some question.source
  vlan : packet.frame.vlan? = some question.vlan
  senderMac : packet.senderMac = .ok question.senderMac
  senderIp : packet.senderIp = .ok question.senderIp

structure AskedIn (question : Question) (frame : Frame) : Prop where
  accepted : Packet.ofFrame frame = .ok ⟨frame⟩
  opcode : Packet.opcode? ⟨frame⟩ = some Op.request.code
  source : frame.source? = some question.source
  vlan : frame.vlan? = some question.vlan
  senderMac : Packet.senderMac ⟨frame⟩ = .ok question.senderMac
  senderIp : Packet.senderIp ⟨frame⟩ = .ok question.senderIp
  target : Packet.targetIp ⟨frame⟩ = .ok question.target

/-- The frame is a reply to whoever asked, and tells that `ip` is at `mac`. -/
structure AnsweredIn (question : Question) (frame : Frame) (ip : Ip) (mac : Mac) : Prop where
  accepted : Packet.ofFrame frame = .ok ⟨frame⟩
  opcode : Packet.opcode? ⟨frame⟩ = some Op.reply.code
  destination : frame.destination? = some question.source
  vlan : frame.vlan? = some question.vlan
  senderMac : Packet.senderMac ⟨frame⟩ = .ok mac
  senderIp : Packet.senderIp ⟨frame⟩ = .ok ip
  targetMac : Packet.targetMac ⟨frame⟩ = .ok question.senderMac
  targetIp : Packet.targetIp ⟨frame⟩ = .ok question.senderIp

end Question

namespace Packet

section Stated

variable {packet : Packet} {op : Op} {senderMac targetMac : Mac} {senderIp targetIp : Ip}
  (hframed : packet.Framed (Station.payload op senderMac senderIp targetMac targetIp))
include hframed

theorem opcode?_of_stated : packet.opcode? = some op.code := by
  rw [opcode?, read?_eq hframed]
  exact Bytes.toWord?_ofWord op.code

theorem senderMac_of_stated : packet.senderMac = .ok senderMac := by
  rw [Packet.senderMac, hardwareAddress, read?_eq hframed]
  rfl

theorem targetMac_of_stated : packet.targetMac = .ok targetMac := by
  rw [Packet.targetMac, hardwareAddress, read?_eq hframed]
  rfl

theorem senderIp_of_stated : packet.senderIp = .ok senderIp := by
  rw [Packet.senderIp, protocolAddress, read?_eq hframed, protocolLength?_eq hframed]
  rfl

theorem targetIp_of_stated : packet.targetIp = .ok targetIp := by
  rw [Packet.targetIp, protocolAddress, read?_eq hframed, protocolLength?_eq hframed]
  rfl

end Stated

end Packet

namespace Question

variable (question : Question) (ip : Ip) (mac : Mac)

def answer : Frame.Fields where
  destination := question.source
  source := mac
  tag := Frame.Fields.retag none question.vlan
  etherType := EtherType.arp
  payload := Station.payload .reply mac ip question.senderMac question.senderIp

theorem vlan_answer : (question.answer ip mac).vlan = question.vlan :=
  Frame.Fields.vlan_retag { question.answer ip mac with tag := none } question.vlan

theorem framed_answer :
    Packet.Framed ⟨(question.answer ip mac).frame⟩ (question.answer ip mac).payload where
  announced := Frame.Fields.etherType?_frame _
  carried := Frame.Fields.payload?_frame _
  room := Nat.le_refl 28

theorem ofBytes_answer :
    Frame.ofBytes (question.answer ip mac).frame.bytes = .ok (question.answer ip mac).frame :=
  Frame.Fields.ofBytes_frame_of_arp rfl

theorem answeredIn_answer :
    question.AnsweredIn (question.answer ip mac).frame ip mac where
  accepted := Packet.ofFrame_of_framed (question.framed_answer ip mac)
  opcode := Packet.opcode?_of_stated (question.framed_answer ip mac)
  destination := Frame.Fields.destination?_frame _
  vlan := by rw [Frame.Fields.vlan?_frame, vlan_answer]
  senderMac := Packet.senderMac_of_stated (question.framed_answer ip mac)
  senderIp := Packet.senderIp_of_stated (question.framed_answer ip mac)
  targetMac := Packet.targetMac_of_stated (question.framed_answer ip mac)
  targetIp := Packet.targetIp_of_stated (question.framed_answer ip mac)

variable {question} {packet : Packet} {frame : Frame}

theorem Poses.answer_eq (h : question.Poses packet) :
    packet.answer ip mac = .ok (question.answer ip mac).frame := by
  rw [Packet.answer_eq h.senderMac h.senderIp h.source h.vlan, Frame.assemble_eq_frame]
  rfl

theorem AskedIn.answer_eq (hasked : question.AskedIn frame) :
    Packet.answer ⟨frame⟩ ip mac = .ok (question.answer ip mac).frame :=
  Poses.answer_eq ip mac ⟨hasked.source, hasked.vlan, hasked.senderMac, hasked.senderIp⟩

theorem AskedIn.bytes_answer_ne (hasked : question.AskedIn frame)
    (hframe : Frame.ofBytes frame.bytes = .ok frame) :
    (question.answer ip mac).frame.bytes ≠ frame.bytes := by
  intro hbytes
  have hread := question.ofBytes_answer ip mac
  rw [hbytes, hframe, Except.ok.injEq] at hread
  have hreply := (question.answeredIn_answer ip mac).opcode
  rw [← hread, hasked.opcode] at hreply
  exact absurd hreply (by decide)

end Question

theorem Packet.sender_of_answer {request : Packet} {answer : Frame} {ip : Ip} {mac : Mac}
    (hanswer : request.answer ip mac = .ok answer) :
    ∃ senderMac senderIp, request.senderMac = .ok senderMac ∧ request.senderIp = .ok senderIp := by
  cases hmac : request.senderMac with
  | error failure =>
      rw [Packet.answer, hmac] at hanswer
      cases hanswer
  | ok senderMac =>
      cases hip : request.senderIp with
      | error failure =>
          rw [Packet.answer, hmac, hip] at hanswer
          cases hanswer
      | ok senderIp => exact ⟨senderMac, senderIp, rfl, rfl⟩

theorem Packet.lengths_of_answer {request : Packet} {payload : Bytes} {answer : Frame} {ip : Ip}
    {mac : Mac} (hframed : request.Framed payload) (hanswer : request.answer ip mac = .ok answer) :
    request.hardwareLength? = some 6 ∧ request.protocolLength? = some 4 := by
  obtain ⟨senderMac, senderIp, hmac, hip⟩ := sender_of_answer hanswer
  exact ⟨hardwareLength?_of_senderMac hframed hmac, protocolLength?_of_protocolAddress hframed hip⟩

end FabricArp.Arp
