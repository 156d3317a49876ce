import FabricArp.Proofs.Proxy.Egress

/-! What each step of a handling yields. -/

namespace FabricArp

/-- How many bound addresses have this value, whatever their prefix lengths. -/
def Binding.occurrences (binding : Binding) (ip : Ip) : Nat :=
  binding.addresses.toList.countP fun address => address.ip = ip

namespace Knowledge

/-- The frame out of one point, or nothing if the point is internal. -/
def unicast (knowledge : Knowledge) (frame : Frame) (out : Point) : List Outbound :=
  if knowledge.table.state? out = some .internal then [] else [⟨out, frame.bytes⟩]

def broadcast (knowledge : Knowledge) (frame : Frame) : List Outbound :=
  knowledge.floodPoints.map fun point => ⟨point, frame.bytes⟩

variable {knowledge : Knowledge} {frame : Frame} {arrival : Point}

theorem readArp_eq (announced : frame.etherType? = some EtherType.arp) :
    readArp frame = (Arp.Packet.ofFrame frame).orMalformed := by
  rw [readArp, announced]
  rfl

section Opcode

variable {packet : Arp.Packet} {opcode : UInt16}

theorem op?_eq (stated : packet.opcode? = some opcode) :
    packet.op? = some (Arp.Op.ofCode opcode).toOption := by
  rw [Arp.Packet.op?, stated]
  rfl

theorem handle_of_opcode (announced : frame.etherType? = some EtherType.arp)
    (accepted : Arp.Packet.ofFrame frame = .ok packet) (stated : packet.opcode? = some opcode) :
    knowledge.handle frame arrival = (do
      match Arp.Op.ofCode opcode with
      | .ok .reply => knowledge.forward frame
      | .ok .request => knowledge.reply frame arrival
      | .error _ => .note (.unknownOpcode opcode)
      .block
      return true) := by
  have hread : readArp frame = .ok packet := by
    rw [readArp_eq announced, accepted]
    rfl
  rw [handle, announced, hread]
  change (liftM packet.opcode? >>= _) = _
  rw [stated]
  rfl

theorem forward_of_reply (announced : frame.etherType? = some EtherType.arp)
    (accepted : Arp.Packet.ofFrame frame = .ok packet)
    (stated : packet.opcode? = some Arp.Op.reply.code) :
    knowledge.forward frame = knowledge.deliver frame := by
  rw [forward, readArp_eq announced, accepted]
  change (liftM packet.op? >>= _) = _
  rw [op?_eq stated]
  rfl

theorem handle_of_reply (announced : frame.etherType? = some EtherType.arp)
    (accepted : Arp.Packet.ofFrame frame = .ok packet)
    (stated : packet.opcode? = some Arp.Op.reply.code) :
    knowledge.handle frame arrival = (do
      knowledge.deliver frame
      .block
      return true) := by
  rw [handle_of_opcode announced accepted stated, ← forward_of_reply announced accepted stated]
  rfl

theorem reply_of_request (announced : frame.etherType? = some EtherType.arp)
    (accepted : Arp.Packet.ofFrame frame = .ok packet)
    (stated : packet.opcode? = some Arp.Op.request.code) :
    knowledge.reply frame arrival = knowledge.resolve frame packet arrival := by
  rw [reply, readArp_eq announced, accepted]
  change (liftM packet.op? >>= _) = _
  rw [op?_eq stated]
  rfl

theorem handle_of_request (announced : frame.etherType? = some EtherType.arp)
    (accepted : Arp.Packet.ofFrame frame = .ok packet)
    (stated : packet.opcode? = some Arp.Op.request.code) :
    knowledge.handle frame arrival = (do
      knowledge.resolve frame packet arrival
      .block
      return true) := by
  rw [handle_of_opcode announced accepted stated, ← reply_of_request announced accepted stated]
  rfl

theorem handle_of_unknownOpcode (announced : frame.etherType? = some EtherType.arp)
    (accepted : Arp.Packet.ofFrame frame = .ok packet) (stated : packet.opcode? = some opcode)
    (notRequest : opcode ≠ Arp.Op.request.code) (notReply : opcode ≠ Arp.Op.reply.code) :
    knowledge.handle frame arrival = (do
      .note (.unknownOpcode opcode)
      .block
      return true) := by
  have hcode : Arp.Op.ofCode opcode = .error .unknownOpcode := by
    rw [Arp.Op.ofCode, if_neg notRequest, if_neg notReply]
  rw [handle_of_opcode announced accepted stated]
  simp only [hcode]

end Opcode

theorem sendTo_yields (out : Point) :
    (knowledge.sendTo frame out).Yields (.ok ()) (knowledge.unicast frame out) := by
  rw [unicast]
  split
  · rename_i hinternal
    have hsend : knowledge.sendTo frame out = .note (.fabricSuppressed out) :=
      if_pos (decide_eq_true hinternal)
    rw [hsend]
    exact .of_note _
  · rename_i hopen
    rw [sendTo_of_open (PortTable.isInternal_eq_false_iff.mpr hopen)]
    exact .of_send _

theorem flood_yields : (knowledge.flood frame).Yields (.ok ()) (knowledge.broadcast frame) := by
  have hflood : knowledge.flood frame = .perform ((knowledge.broadcast frame).map .send) := by
    rw [flood, broadcast, List.map_map]
    rfl
  rw [hflood]
  exact .of_sends _

theorem deliver_yields_claimed {destination : Mac} {vlan : Vlan} {host : Host}
    (addressed : frame.destination? = some destination) (tagged : frame.vlan? = some vlan)
    (known : knowledge.topology.host? ⟨destination, vlan⟩ = some host) :
    (knowledge.deliver frame).Yields (.ok ()) (knowledge.unicast frame host.location) := by
  simp only [deliver, addressed, tagged, Handling.liftOption_bind, known]
  exact .note_seq _ (sendTo_yields _)

theorem deliver_yields_unclaimed {destination : Mac} {vlan : Vlan}
    (addressed : frame.destination? = some destination) (tagged : frame.vlan? = some vlan)
    (unknown : knowledge.topology.host? ⟨destination, vlan⟩ = none) :
    (knowledge.deliver frame).Yields (.ok ()) (knowledge.broadcast frame) := by
  simp only [deliver, addressed, tagged, Handling.liftOption_bind, unknown]
  exact .note_seq _ flood_yields

variable {request : Arp.Packet} {target sender : Ip} {binding : Binding} {answer : Frame}

theorem resolve_of_refused {cause : PacketError}
    (refused : request.targetIp = .error (.refused cause)) :
    knowledge.resolve frame request arrival = .refuse (.malformed cause) := by
  simp only [resolve, refused, Outcome.orMalformed_refused, Handling.liftRefused_bind]

theorem resolve_of_boundary (asked : request.targetIp = .ok target)
    (bound : knowledge.topology.boundary? arrival = some binding) :
    knowledge.resolve frame request arrival =
      knowledge.answerAtBoundary request target binding arrival := by
  simp only [resolve, asked, bound, Outcome.orMalformed_ok, Handling.liftOutcome_bind]

theorem resolve_of_gateway (asked : request.targetIp = .ok target)
    (interior : knowledge.topology.boundary? arrival = none)
    (sent : request.senderIp = .ok sender)
    (inside : knowledge.topology.gateway? sender = some binding) :
    knowledge.resolve frame request arrival = (do
      .note (.subnetHandover sender binding.point)
      knowledge.sendTo frame binding.point) := by
  simp only [resolve, asked, interior, sent, inside, Outcome.orMalformed_ok,
    Handling.liftOutcome_bind]

theorem resolve_of_hosts (asked : request.targetIp = .ok target)
    (interior : knowledge.topology.boundary? arrival = none)
    (sent : request.senderIp = .ok sender) (outside : knowledge.topology.gateway? sender = none) :
    knowledge.resolve frame request arrival =
      knowledge.answerFromInventory frame request target := by
  simp only [resolve, asked, interior, sent, outside, Outcome.orMalformed_ok,
    Handling.liftOutcome_bind]

theorem answerAtBoundary_yields (answered : request.answer target binding.mac = .ok answer) :
    (knowledge.answerAtBoundary request target binding arrival).Yields (.ok ())
      (List.replicate (binding.occurrences target)
        (knowledge.unicast answer arrival)).flatten := by
  rw [Binding.occurrences, List.countP_eq_length_filter]
  refine .forM fun address haddress => ?_
  have htarget : address.ip = target := of_decide_eq_true (List.mem_filter.mp haddress).2
  simp only [htarget, answered, Outcome.orMalformed_ok, Handling.liftOutcome_bind]
  exact .note_seq _ (sendTo_yields _)

theorem answerAtBoundary_yields_unbound (absent : binding.occurrences target = 0) :
    (knowledge.answerAtBoundary request target binding arrival).Yields (.ok ()) [] := by
  rw [Binding.occurrences, List.countP_eq_length_filter, List.length_eq_zero_iff] at absent
  rw [answerAtBoundary, absent]
  exact ⟨rfl, rfl, rfl⟩

theorem answerAtBoundary_yields_refused {cause : PacketError}
    (present : binding.occurrences target ≠ 0)
    (refused : request.answer target binding.mac = .error (.refused cause)) :
    (knowledge.answerAtBoundary request target binding arrival).Yields
      (.error (.refused (.malformed cause))) [] := by
  rw [Binding.occurrences, List.countP_eq_length_filter, ne_eq, List.length_eq_zero_iff]
    at present
  refine .forM_of_refuse (fun address haddress => ?_) present
  have htarget : address.ip = target := of_decide_eq_true (List.mem_filter.mp haddress).2
  simp only [htarget, refused, Outcome.orMalformed_refused, Handling.liftRefused_bind]

section Hosts

variable {requester : HostId} {owner asker : Host} {address : Ip}

theorem answerFromInventory_yields_unresolved
    (tagged : frame.vlan? = some requester.vlan) (sent : frame.source? = some requester.mac)
    (unknown : knowledge.topology.owner? target requester.vlan = none ∨
      knowledge.topology.host? requester = none) :
    (knowledge.answerFromInventory frame request target).Yields (.ok ())
      (knowledge.broadcast frame) := by
  simp only [answerFromInventory, tagged, sent, Handling.liftOption_bind]
  split
  · rename_i howner hasker
    rw [howner, hasker] at unknown
    rcases unknown with h | h <;> cases h
  · exact .note_seq _ flood_yields

theorem answerFromInventory_yields_unaddressed
    (tagged : frame.vlan? = some requester.vlan) (sent : frame.source? = some requester.mac)
    (owned : knowledge.topology.owner? target requester.vlan = some owner)
    (known : knowledge.topology.host? requester = some asker)
    (unaddressed : knowledge.choice.pick? owner = none) :
    (knowledge.answerFromInventory frame request target).Yields (.ok ())
      (knowledge.broadcast frame) := by
  simp only [answerFromInventory, tagged, sent, Handling.liftOption_bind, owned, known,
    unaddressed]
  exact flood_yields

theorem answerFromInventory_yields
    (tagged : frame.vlan? = some requester.vlan) (sent : frame.source? = some requester.mac)
    (owned : knowledge.topology.owner? target requester.vlan = some owner)
    (known : knowledge.topology.host? requester = some asker)
    (picked : knowledge.choice.pick? owner = some address)
    (answered : request.answer address owner.id.mac = .ok answer) :
    (knowledge.answerFromInventory frame request target).Yields (.ok ())
      (knowledge.unicast answer asker.location) := by
  simp only [answerFromInventory, tagged, sent, Handling.liftOption_bind, owned, known,
    picked, answered, Outcome.orMalformed_ok, Handling.liftOutcome_bind]
  exact .note_seq _ (sendTo_yields _)

theorem answerFromInventory_yields_refused {cause : PacketError}
    (tagged : frame.vlan? = some requester.vlan) (sent : frame.source? = some requester.mac)
    (owned : knowledge.topology.owner? target requester.vlan = some owner)
    (known : knowledge.topology.host? requester = some asker)
    (picked : knowledge.choice.pick? owner = some address)
    (refused : request.answer address owner.id.mac = .error (.refused cause)) :
    (knowledge.answerFromInventory frame request target).Yields
      (.error (.refused (.malformed cause))) [] := by
  simp only [answerFromInventory, tagged, sent, Handling.liftOption_bind, owned, known,
    picked, refused, Outcome.orMalformed_refused, Handling.liftRefused_bind]
  exact .of_refuse _

end Hosts

end Knowledge

end FabricArp
