import FabricArp.Proofs.Proxy.Grounds

/-! Packets that the proxy does not tell apart. -/

namespace FabricArp

/-- A copy of one frame turned into a copy of another; everything else as it is. -/
def Outbound.recopied (original copy : Bytes) (outbound : Outbound) : Outbound :=
  if outbound.bytes = original then { outbound with bytes := copy } else outbound

def Verdict.recopied (original copy : Bytes) (verdict : Verdict) : Verdict :=
  { verdict with sent := verdict.sent.map (.recopied original copy) }

@[simp] theorem Verdict.recopied_handled (original copy : Bytes) (sent : List Outbound) :
    (handled sent).recopied original copy = .handled (sent.map (.recopied original copy)) :=
  rfl

/-- An accepted packet that agrees with another one in all that the proxy reads of them. -/
structure Arp.Packet.Resembles (packet other : Packet) : Prop where
  accepted : ofFrame packet.frame = .ok packet
  destination? : packet.frame.destination? = other.frame.destination?
  source? : packet.frame.source? = other.frame.source?
  vlan? : packet.frame.vlan? = other.frame.vlan?
  opcode? : packet.opcode? = other.opcode?
  hardwareLength? : packet.hardwareLength? = other.hardwareLength?
  protocolLength? : packet.protocolLength? = other.protocolLength?
  senderMac : packet.senderMac = other.senderMac
  senderIp : packet.senderIp = other.senderIp
  targetIp : packet.targetIp = other.targetIp

namespace Arp.Packet.Resembles

variable {packet other third : Packet}

theorem trans (h : packet.Resembles other) (hthird : other.Resembles third) :
    packet.Resembles third where
  accepted := h.accepted
  destination? := h.destination?.trans hthird.destination?
  source? := h.source?.trans hthird.source?
  vlan? := h.vlan?.trans hthird.vlan?
  opcode? := h.opcode?.trans hthird.opcode?
  hardwareLength? := h.hardwareLength?.trans hthird.hardwareLength?
  protocolLength? := h.protocolLength?.trans hthird.protocolLength?
  senderMac := h.senderMac.trans hthird.senderMac
  senderIp := h.senderIp.trans hthird.senderIp
  targetIp := h.targetIp.trans hthird.targetIp

theorem answer (h : packet.Resembles other) (ip : Ip) (mac : Mac) :
    packet.answer ip mac = other.answer ip mac := by
  simp only [Packet.answer, h.senderMac, h.senderIp, h.source?, h.vlan?]

end Arp.Packet.Resembles

namespace Knowledge

variable {knowledge : Knowledge} {fields : Frame.Fields} {frame copy answer : Frame}
  {request other : Arp.Packet} {target : Ip} {requester : HostId} {arrival out : Point}
  {bytes : Bytes}

theorem map_recopied_unicast :
    (knowledge.unicast frame out).map (.recopied frame.bytes copy.bytes) =
      knowledge.unicast copy out := by
  rw [unicast, unicast]
  split
  · rfl
  · rw [List.map_singleton, Outbound.recopied, if_pos rfl]

theorem map_recopied_broadcast :
    (knowledge.broadcast frame).map (.recopied frame.bytes copy.bytes) =
      knowledge.broadcast copy := by
  rw [broadcast, broadcast, List.map_map]
  refine List.map_congr_left fun point _ => ?_
  rw [Function.comp_apply, Outbound.recopied, if_pos rfl]

theorem Flooded.recopied {sent : List Outbound} (h : knowledge.Flooded frame sent) :
    knowledge.Flooded copy (sent.map (.recopied frame.bytes copy.bytes)) := by
  rw [h.eq_broadcast, map_recopied_broadcast]
  exact knowledge.flooded_broadcast copy

theorem map_recopied_unicast_of_ne (h : answer.bytes ≠ frame.bytes) :
    (knowledge.unicast answer out).map (.recopied frame.bytes bytes) =
      knowledge.unicast answer out := by
  rw [unicast]
  split
  · rfl
  · rw [List.map_singleton, Outbound.recopied, if_neg h]

theorem Asks.recopied (asks : Asks frame request target) (hsame : other.Resembles request) :
    Asks other.frame other target :=
  ⟨hsame.accepted, hsame.opcode?.trans asks.opcode, hsame.protocolLength?.trans asks.length,
    hsame.targetIp.trans asks.target⟩

theorem AskedAtBoundary.recopied {binding : Binding}
    (asked : AskedAtBoundary knowledge frame arrival request target binding)
    (hsame : other.Resembles request) :
    AskedAtBoundary knowledge other.frame arrival other target binding :=
  ⟨asked.toAsks.recopied hsame, asked.listed, asked.bound⟩

theorem LeftToHosts.recopied
    (left : LeftToHosts knowledge frame arrival request target requester)
    (hsame : other.Resembles request) :
    LeftToHosts knowledge other.frame arrival other target requester := by
  obtain ⟨rfl, -⟩ := Arp.Packet.exists_framed_of_ofFrame left.accepted
  obtain ⟨sender, sent, outside⟩ := left.sender
  exact ⟨left.toAsks.recopied hsame, left.interior,
    ⟨sender, hsame.senderIp.trans sent, outside⟩, hsame.source?.trans left.source,
    hsame.vlan?.trans left.vlan⟩

theorem bytes_ne_of_answered (hread : Frame.ofBytes fields.frame.bytes = .ok fields.frame)
    (asks : Asks fields.frame request target) {ip : Ip} {mac : Mac}
    (answered : request.answer ip mac = .ok answer) : answer.bytes ≠ fields.frame.bytes := by
  obtain ⟨question, hasked, -, rfl⟩ :=
    asks.exists_question fields.source?_frame fields.vlan?_frame answered
  exact hasked.bytes_answer_ne ip mac hread

theorem Ruling.recopied {verdict : Verdict} (h : Ruling knowledge fields.frame arrival verdict)
    (hread : Frame.ofBytes fields.frame.bytes = .ok fields.frame)
    (haccepted : Arp.Packet.ofFrame fields.frame = .ok request)
    (hsame : other.Resembles request) :
    Ruling knowledge other.frame arrival
      (verdict.recopied fields.frame.bytes other.frame.bytes) := by
  obtain ⟨rfl, -⟩ := framed_of_accepted haccepted
  cases h with
  | notArp announced foreign =>
      have harp := announced.symm.trans (announced_of_accepted haccepted)
      exact absurd (Option.some.inj harp) foreign
  | unreadable announced refused => cases haccepted.symm.trans refused
  | unknownOpcode accepted stated notRequest notReply =>
      cases haccepted.symm.trans accepted
      exact .unknownOpcode hsame.accepted (hsame.opcode?.trans stated) notRequest notReply
  | replyClaimed accepted stated addressed tagged known =>
      cases haccepted.symm.trans accepted
      rw [Verdict.recopied_handled, map_recopied_unicast]
      exact .replyClaimed hsame.accepted (hsame.opcode?.trans stated)
        (hsame.destination?.trans addressed) (hsame.vlan?.trans tagged) known
  | replyUnclaimed accepted stated addressed tagged unknown flooded =>
      cases haccepted.symm.trans accepted
      exact .replyUnclaimed hsame.accepted (hsame.opcode?.trans stated)
        (hsame.destination?.trans addressed) (hsame.vlan?.trans tagged) unknown flooded.recopied
  | foreignProtocol accepted stated length =>
      cases haccepted.symm.trans accepted
      refine .foreignProtocol hsame.accepted (hsame.opcode?.trans stated) ?_
      rw [hsame.protocolLength?]
      exact length
  | boundary asked answered =>
      cases haccepted.symm.trans asked.accepted
      rw [Verdict.recopied_handled, List.map_flatten, List.map_replicate,
        map_recopied_unicast_of_ne (bytes_ne_of_answered hread asked.toAsks answered)]
      exact .boundary (asked.recopied hsame) ((hsame.answer _ _).trans answered)
  | boundaryUnbound asked absent =>
      cases haccepted.symm.trans asked.accepted
      exact .boundaryUnbound (asked.recopied hsame) absent
  | boundaryForeign asked present length =>
      cases haccepted.symm.trans asked.accepted
      refine .boundaryForeign (asked.recopied hsame) present ?_
      rw [hsame.hardwareLength?]
      exact length
  | gateway asks interior sent inside =>
      cases haccepted.symm.trans asks.accepted
      rw [Verdict.recopied_handled, map_recopied_unicast]
      exact .gateway (asks.recopied hsame) interior (hsame.senderIp.trans sent) inside
  | unresolved left unknown flooded =>
      cases haccepted.symm.trans left.accepted
      exact .unresolved (left.recopied hsame) unknown flooded.recopied
  | ownerUnaddressed left owned known unaddressed flooded =>
      cases haccepted.symm.trans left.accepted
      exact .ownerUnaddressed (left.recopied hsame) owned known unaddressed flooded.recopied
  | host left owned known picked answered =>
      cases haccepted.symm.trans left.accepted
      rw [Verdict.recopied_handled,
        map_recopied_unicast_of_ne (bytes_ne_of_answered hread left.toAsks answered)]
      exact .host (left.recopied hsame) owned known picked ((hsame.answer _ _).trans answered)
  | hostForeign left owned known picked length =>
      cases haccepted.symm.trans left.accepted
      refine .hostForeign (left.recopied hsame) owned known picked ?_
      rw [hsame.hardwareLength?]
      exact length

theorem verdict_handle_of_resembles {copied : Frame.Fields}
    (hread : Frame.ofBytes fields.frame.bytes = .ok fields.frame)
    (haccepted : Arp.Packet.ofFrame fields.frame = .ok request)
    (hsame : Arp.Packet.Resembles ⟨copied.frame⟩ request) :
    (knowledge.handle copied.frame arrival).verdict =
      (knowledge.handle fields.frame arrival).verdict.recopied fields.frame.bytes
        copied.frame.bytes := by
  obtain ⟨verdict, hruling⟩ := exists_ruling knowledge fields arrival
  have hcopied : Ruling knowledge copied.frame arrival
      (verdict.recopied fields.frame.bytes copied.frame.bytes) :=
    hruling.recopied hread haccepted hsame
  rw [verdict_of_ruling hruling, verdict_of_ruling hcopied]

end Knowledge

end FabricArp
