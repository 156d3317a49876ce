import FabricArp.Proofs.Arp.Answer
import FabricArp.Proofs.Ethernet.Fields
import FabricArp.Proofs.Proxy.Flooding

namespace FabricArp

structure Verdict where
  outcome : Outcome ProxyError Bool
  blocked : Bool
  sent : List Outbound

namespace Verdict

def ignored : Verdict := ⟨.ok false, false, []⟩

def handled (sent : List Outbound) : Verdict := ⟨.ok true, true, sent⟩

def malformed (cause : PacketError) : Verdict := ⟨.error (.refused (.malformed cause)), false, []⟩

end Verdict

namespace Handling

def verdict (handling : Handling Bool) : Verdict :=
  ⟨handling.outcome, Action.blocks handling.actions, Action.sent handling.actions⟩

theorem verdict_of_yields_ok {handling : Handling Unit} {sent : List Outbound}
    (h : handling.Yields (.ok ()) sent) :
    Handling.verdict (do
      handling
      .block
      return true) = .handled sent := by
  obtain ⟨outcome, actions⟩ := handling
  obtain ⟨rfl, rfl, -⟩ := h
  simp only [verdict, Verdict.handled, Verdict.mk.injEq]
  refine ⟨rfl, ?_, ?_⟩
  · exact (Action.blocks_append actions [.block]).trans (Bool.or_true _)
  · exact (Action.sent_append actions [.block]).trans (List.append_nil _)

theorem verdict_of_yields_refused {handling : Handling Unit} {cause : ProxyError}
    (h : handling.Yields (.error (.refused cause)) []) :
    Handling.verdict (do
      handling
      .block
      return true) = ⟨.error (.refused cause), false, []⟩ := by
  obtain ⟨outcome, actions⟩ := handling
  obtain ⟨rfl, hsends, hpasses⟩ := h
  simp only [verdict, Verdict.mk.injEq]
  exact ⟨rfl, hpasses, hsends⟩

end Handling

namespace Knowledge

structure Asks (frame : Frame) (request : Arp.Packet) (target : Ip) : Prop where
  accepted : Arp.Packet.ofFrame frame = .ok request
  opcode : request.opcode? = some Arp.Op.request.code
  length : request.protocolLength? = some 4
  target : request.targetIp = .ok target

structure AskedAtBoundary (knowledge : Knowledge) (frame : Frame) (arrival : Point)
    (request : Arp.Packet) (target : Ip) (binding : Binding) : Prop
    extends Asks frame request target where
  listed : knowledge.topology.binding? arrival = some binding
  bound : ∃ address, address ∈ binding.addresses

/-- Neither the arrival nor the sender decides a request, so that the hosts on its VLAN do. -/
structure LeftToHosts (knowledge : Knowledge) (frame : Frame) (arrival : Point)
    (request : Arp.Packet) (target : Ip) (requester : HostId) : Prop
    extends Asks frame request target where
  interior : ¬knowledge.topology.Binds arrival
  sender : ∃ sender, request.senderIp = .ok sender ∧
    ∀ binding ∈ knowledge.topology.bindings, ¬binding.Covers sender
  source : frame.source? = some requester.mac
  vlan : frame.vlan? = some requester.vlan

/-- The rules for frames, by what the frame says, where it arrived and what is known. -/
inductive Ruling (knowledge : Knowledge) (frame : Frame) (arrival : Point) : Verdict → Prop where
  | notArp {etherType : UInt16} (announced : frame.etherType? = some etherType)
      (other : etherType ≠ EtherType.arp) : Ruling knowledge frame arrival .ignored
  | unreadable {cause : PacketError} (announced : frame.etherType? = some EtherType.arp)
      (refused : Arp.Packet.ofFrame frame = .error (.refused cause)) :
      Ruling knowledge frame arrival (.malformed cause)
  | unknownOpcode {packet : Arp.Packet} {opcode : UInt16}
      (accepted : Arp.Packet.ofFrame frame = .ok packet) (stated : packet.opcode? = some opcode)
      (notRequest : opcode ≠ Arp.Op.request.code) (notReply : opcode ≠ Arp.Op.reply.code) :
      Ruling knowledge frame arrival (.handled [])
  | replyClaimed {packet : Arp.Packet} {destination : Mac} {vlan : Vlan} {host : Host}
      (accepted : Arp.Packet.ofFrame frame = .ok packet)
      (stated : packet.opcode? = some Arp.Op.reply.code)
      (addressed : frame.destination? = some destination) (tagged : frame.vlan? = some vlan)
      (known : knowledge.topology.host? ⟨destination, vlan⟩ = some host) :
      Ruling knowledge frame arrival (.handled (knowledge.unicast frame host.location))
  | replyUnclaimed {packet : Arp.Packet} {destination : Mac} {vlan : Vlan} {sent : List Outbound}
      (accepted : Arp.Packet.ofFrame frame = .ok packet)
      (stated : packet.opcode? = some Arp.Op.reply.code)
      (addressed : frame.destination? = some destination) (tagged : frame.vlan? = some vlan)
      (unknown : knowledge.topology.host? ⟨destination, vlan⟩ = none)
      (flooded : knowledge.Flooded frame sent) : Ruling knowledge frame arrival (.handled sent)
  | foreignProtocol {request : Arp.Packet} (accepted : Arp.Packet.ofFrame frame = .ok request)
      (stated : request.opcode? = some Arp.Op.request.code)
      (length : request.protocolLength? ≠ some 4) :
      Ruling knowledge frame arrival (.malformed .protocolAddressLength)
  | boundary {request : Arp.Packet} {target : Ip} {binding : Binding} {answer : Frame}
      (asked : AskedAtBoundary knowledge frame arrival request target binding)
      (answered : request.answer target binding.mac = .ok answer) :
      Ruling knowledge frame arrival (.handled
        (List.replicate (binding.occurrences target) (knowledge.unicast answer arrival)).flatten)
  | boundaryUnbound {request : Arp.Packet} {target : Ip} {binding : Binding}
      (asked : AskedAtBoundary knowledge frame arrival request target binding)
      (absent : binding.occurrences target = 0) : Ruling knowledge frame arrival (.handled [])
  | boundaryForeign {request : Arp.Packet} {target : Ip} {binding : Binding}
      (asked : AskedAtBoundary knowledge frame arrival request target binding)
      (present : binding.occurrences target ≠ 0) (length : request.hardwareLength? ≠ some 6) :
      Ruling knowledge frame arrival (.malformed .macLength)
  | gateway {request : Arp.Packet} {target sender : Ip} {binding : Binding}
      (asks : Asks frame request target) (interior : ¬knowledge.topology.Binds arrival)
      (sent : request.senderIp = .ok sender)
      (inside : First (·.Covers sender) knowledge.topology.bindings binding) :
      Ruling knowledge frame arrival (.handled (knowledge.unicast frame binding.point))
  | unresolved {request : Arp.Packet} {target : Ip} {requester : HostId} {sent : List Outbound}
      (left : LeftToHosts knowledge frame arrival request target requester)
      (unknown : (∀ host ∈ knowledge.topology.hostsByIp target, host.id.vlan ≠ requester.vlan) ∨
        knowledge.topology.host? requester = none)
      (flooded : knowledge.Flooded frame sent) : Ruling knowledge frame arrival (.handled sent)
  | ownerUnaddressed {request : Arp.Packet} {target : Ip} {requester : HostId}
      {owner asker : Host} {sent : List Outbound}
      (left : LeftToHosts knowledge frame arrival request target requester)
      (owned : First (·.id.vlan = requester.vlan) (knowledge.topology.hostsByIp target) owner)
      (known : knowledge.topology.host? requester = some asker)
      (unaddressed : knowledge.choice.pick? owner = none)
      (flooded : knowledge.Flooded frame sent) : Ruling knowledge frame arrival (.handled sent)
  | host {request : Arp.Packet} {target address : Ip} {requester : HostId} {owner asker : Host}
      {answer : Frame} (left : LeftToHosts knowledge frame arrival request target requester)
      (owned : First (·.id.vlan = requester.vlan) (knowledge.topology.hostsByIp target) owner)
      (known : knowledge.topology.host? requester = some asker)
      (picked : knowledge.choice.pick? owner = some address)
      (answered : request.answer address owner.id.mac = .ok answer) :
      Ruling knowledge frame arrival (.handled (knowledge.unicast answer asker.location))
  | hostForeign {request : Arp.Packet} {target address : Ip} {requester : HostId}
      {owner asker : Host} (left : LeftToHosts knowledge frame arrival request target requester)
      (owned : First (·.id.vlan = requester.vlan) (knowledge.topology.hostsByIp target) owner)
      (known : knowledge.topology.host? requester = some asker)
      (picked : knowledge.choice.pick? owner = some address)
      (length : request.hardwareLength? ≠ some 6) :
      Ruling knowledge frame arrival (.malformed .macLength)

section

variable {knowledge : Knowledge} {fields : Frame.Fields} {arrival : Point} {verdict : Verdict}

theorem framed_of_accepted {packet : Arp.Packet}
    (accepted : Arp.Packet.ofFrame fields.frame = .ok packet) :
    packet = ⟨fields.frame⟩ ∧ packet.Framed fields.payload :=
  Arp.Packet.framed_of_ofFrame fields.etherType?_frame fields.payload?_frame accepted

theorem announced_of_accepted {packet : Arp.Packet}
    (accepted : Arp.Packet.ofFrame fields.frame = .ok packet) :
    fields.frame.etherType? = some EtherType.arp := by
  obtain ⟨rfl, hframed⟩ := framed_of_accepted accepted
  exact hframed.announced

theorem verdict_of_request {request : Arp.Packet} {sent : List Outbound}
    (accepted : Arp.Packet.ofFrame fields.frame = .ok request)
    (stated : request.opcode? = some Arp.Op.request.code)
    (yields : (knowledge.resolve fields.frame request arrival).Yields (.ok ()) sent) :
    (knowledge.handle fields.frame arrival).verdict = .handled sent := by
  rw [handle_of_request (announced_of_accepted accepted) accepted stated]
  exact Handling.verdict_of_yields_ok yields

theorem verdict_of_refused_request {request : Arp.Packet} {cause : PacketError}
    (accepted : Arp.Packet.ofFrame fields.frame = .ok request)
    (stated : request.opcode? = some Arp.Op.request.code)
    (yields : (knowledge.resolve fields.frame request arrival).Yields
      (.error (.refused (.malformed cause))) []) :
    (knowledge.handle fields.frame arrival).verdict = .malformed cause := by
  rw [handle_of_request (announced_of_accepted accepted) accepted stated]
  exact Handling.verdict_of_yields_refused yields

theorem verdict_of_reply {packet : Arp.Packet} {sent : List Outbound}
    (accepted : Arp.Packet.ofFrame fields.frame = .ok packet)
    (stated : packet.opcode? = some Arp.Op.reply.code)
    (yields : (knowledge.deliver fields.frame).Yields (.ok ()) sent) :
    (knowledge.handle fields.frame arrival).verdict = .handled sent := by
  rw [handle_of_reply (announced_of_accepted accepted) accepted stated]
  exact Handling.verdict_of_yields_ok yields

theorem AskedAtBoundary.resolve_eq {frame : Frame} {request : Arp.Packet} {target : Ip}
    {binding : Binding} (asked : AskedAtBoundary knowledge frame arrival request target binding) :
    knowledge.resolve frame request arrival =
      knowledge.answerAtBoundary request target binding arrival :=
  resolve_of_boundary asked.target
    (Topology.boundary?_eq_some_iff.mpr ⟨asked.listed, asked.bound⟩)

theorem LeftToHosts.resolve_eq {frame : Frame} {request : Arp.Packet} {target : Ip}
    {requester : HostId} (left : LeftToHosts knowledge frame arrival request target requester) :
    knowledge.resolve frame request arrival =
      knowledge.answerFromInventory frame request target := by
  obtain ⟨sender, sent, outside⟩ := left.sender
  exact resolve_of_hosts left.target (Topology.boundary?_eq_none_iff.mpr left.interior) sent
    (Topology.gateway?_eq_none_iff.mpr outside)

theorem verdict_of_ruling (h : Ruling knowledge fields.frame arrival verdict) :
    (knowledge.handle fields.frame arrival).verdict = verdict := by
  cases h with
  | notArp announced other =>
      rw [handle, announced]
      change (if _ ≠ EtherType.arp then _ else _ : Handling Bool).verdict = _
      rw [if_pos other]
      rfl
  | unreadable announced refused =>
      rw [handle, announced]
      change (liftM (readArp fields.frame) >>= _ : Handling Bool).verdict = _
      rw [readArp_eq announced, refused]
      rfl
  | unknownOpcode accepted stated notRequest notReply =>
      rw [handle_of_unknownOpcode (announced_of_accepted accepted) accepted stated notRequest
        notReply]
      exact Handling.verdict_of_yields_ok (.of_note _)
  | replyClaimed accepted stated addressed tagged known =>
      exact verdict_of_reply accepted stated (deliver_yields_claimed addressed tagged known)
  | replyUnclaimed accepted stated addressed tagged unknown flooded =>
      obtain rfl := flooded.eq_broadcast
      exact verdict_of_reply accepted stated (deliver_yields_unclaimed addressed tagged unknown)
  | foreignProtocol accepted stated length =>
      obtain ⟨-, hframed⟩ := framed_of_accepted accepted
      refine verdict_of_refused_request accepted stated ?_
      rw [resolve_of_refused (Arp.Packet.protocolAddress_of_length_ne hframed length)]
      exact .of_refuse _
  | boundary asked answered =>
      refine verdict_of_request asked.accepted asked.opcode ?_
      rw [asked.resolve_eq]
      exact answerAtBoundary_yields answered
  | boundaryUnbound asked absent =>
      refine verdict_of_request asked.accepted asked.opcode ?_
      rw [asked.resolve_eq]
      exact answerAtBoundary_yields_unbound absent
  | boundaryForeign asked present length =>
      obtain ⟨-, hframed⟩ := framed_of_accepted asked.accepted
      refine verdict_of_refused_request asked.accepted asked.opcode ?_
      rw [asked.resolve_eq]
      exact answerAtBoundary_yields_refused present
        (Arp.Packet.answer_of_hardwareLength_ne hframed length _ _)
  | gateway asks interior sent inside =>
      refine verdict_of_request asks.accepted asks.opcode ?_
      rw [resolve_of_gateway asks.target (Topology.boundary?_eq_none_iff.mpr interior) sent
        (Topology.gateway?_eq_some_iff.mpr inside)]
      exact .note_seq _ (sendTo_yields _)
  | unresolved left unknown flooded =>
      obtain rfl := flooded.eq_broadcast
      refine verdict_of_request left.accepted left.opcode ?_
      rw [left.resolve_eq]
      exact answerFromInventory_yields_unresolved left.vlan left.source
        (unknown.imp_left Topology.owner?_eq_none_iff.mpr)
  | ownerUnaddressed left owned known unaddressed flooded =>
      obtain rfl := flooded.eq_broadcast
      refine verdict_of_request left.accepted left.opcode ?_
      rw [left.resolve_eq]
      exact answerFromInventory_yields_unaddressed left.vlan left.source
        (Topology.owner?_eq_some_iff.mpr owned) known unaddressed
  | host left owned known picked answered =>
      refine verdict_of_request left.accepted left.opcode ?_
      rw [left.resolve_eq]
      exact answerFromInventory_yields left.vlan left.source
        (Topology.owner?_eq_some_iff.mpr owned) known picked answered
  | hostForeign left owned known picked length =>
      obtain ⟨-, hframed⟩ := framed_of_accepted left.accepted
      refine verdict_of_refused_request left.accepted left.opcode ?_
      rw [left.resolve_eq]
      exact answerFromInventory_yields_refused left.vlan left.source
        (Topology.owner?_eq_some_iff.mpr owned) known picked
        (Arp.Packet.answer_of_hardwareLength_ne hframed length _ _)

theorem exists_answer_of_accepted {request : Arp.Packet}
    (accepted : Arp.Packet.ofFrame fields.frame = .ok request)
    (hardware : request.hardwareLength? = some 6) (protocol : request.protocolLength? = some 4)
    (ip : Ip) (mac : Mac) : ∃ answer, request.answer ip mac = .ok answer := by
  obtain ⟨rfl, hframed⟩ := framed_of_accepted accepted
  exact Arp.Packet.exists_answer hframed hardware protocol fields.source?_frame
    fields.vlan?_frame ip mac

theorem exists_ruling_of_boundary {request : Arp.Packet} {target : Ip} {binding : Binding}
    (asked : AskedAtBoundary knowledge fields.frame arrival request target binding) :
    ∃ verdict, Ruling knowledge fields.frame arrival verdict := by
  rcases Decidable.em (binding.occurrences target = 0) with absent | present
  · exact ⟨_, .boundaryUnbound asked absent⟩
  rcases Decidable.em (request.hardwareLength? = some 6) with hardware | foreign
  · obtain ⟨answer, answered⟩ :=
      exists_answer_of_accepted asked.accepted hardware asked.length target binding.mac
    exact ⟨_, .boundary asked answered⟩
  · exact ⟨_, .boundaryForeign asked present foreign⟩

theorem exists_ruling_of_left {request : Arp.Packet} {target : Ip} {requester : HostId}
    (left : LeftToHosts knowledge fields.frame arrival request target requester) :
    ∃ verdict, Ruling knowledge fields.frame arrival verdict := by
  have flooded := knowledge.flooded_broadcast fields.frame
  cases owned : knowledge.topology.owner? target requester.vlan with
  | none => exact ⟨_, .unresolved left (.inl (Topology.owner?_eq_none_iff.mp owned)) flooded⟩
  | some owner =>
      have owned := Topology.owner?_eq_some_iff.mp owned
      cases known : knowledge.topology.host? requester with
      | none => exact ⟨_, .unresolved left (.inr known) flooded⟩
      | some asker =>
          cases picked : knowledge.choice.pick? owner with
          | none => exact ⟨_, .ownerUnaddressed left owned known picked flooded⟩
          | some address =>
              rcases Decidable.em (request.hardwareLength? = some 6) with hardware | foreign
              · obtain ⟨answer, answered⟩ := exists_answer_of_accepted left.accepted hardware
                  left.length address owner.id.mac
                exact ⟨_, .host left owned known picked answered⟩
              · exact ⟨_, .hostForeign left owned known picked foreign⟩

theorem exists_ruling_of_asks {request : Arp.Packet} {target : Ip}
    (asks : Asks fields.frame request target) :
    ∃ verdict, Ruling knowledge fields.frame arrival verdict := by
  cases bound : knowledge.topology.boundary? arrival with
  | some binding =>
      obtain ⟨listed, bound⟩ := Topology.boundary?_eq_some_iff.mp bound
      exact exists_ruling_of_boundary ⟨asks, listed, bound⟩
  | none =>
      have interior := Topology.boundary?_eq_none_iff.mp bound
      obtain ⟨-, hframed⟩ := framed_of_accepted asks.accepted
      obtain ⟨sender, sent⟩ :=
        Arp.Packet.exists_protocolAddress hframed .senderProtocol asks.length rfl
      cases inside : knowledge.topology.gateway? sender with
      | some binding =>
          exact ⟨_, .gateway asks interior sent (Topology.gateway?_eq_some_iff.mp inside)⟩
      | none =>
          have outside := Topology.gateway?_eq_none_iff.mp inside
          have left : LeftToHosts knowledge fields.frame arrival request target
              ⟨fields.source, fields.vlan⟩ :=
            ⟨asks, interior, ⟨sender, sent, outside⟩, fields.source?_frame, fields.vlan?_frame⟩
          exact exists_ruling_of_left left

theorem exists_ruling_of_accepted {packet : Arp.Packet}
    (accepted : Arp.Packet.ofFrame fields.frame = .ok packet) :
    ∃ verdict, Ruling knowledge fields.frame arrival verdict := by
  obtain ⟨-, hframed⟩ := framed_of_accepted accepted
  obtain ⟨opcode, stated⟩ := Arp.Packet.exists_opcode? hframed
  rcases Decidable.em (opcode = Arp.Op.reply.code) with rfl | notReply
  · cases known : knowledge.topology.host? ⟨fields.destination, fields.vlan⟩ with
    | some host =>
        exact ⟨_, .replyClaimed accepted stated fields.destination?_frame fields.vlan?_frame known⟩
    | none =>
        exact ⟨_, .replyUnclaimed accepted stated fields.destination?_frame fields.vlan?_frame
          known (knowledge.flooded_broadcast _)⟩
  rcases Decidable.em (opcode = Arp.Op.request.code) with rfl | notRequest
  · rcases Decidable.em (packet.protocolLength? = some 4) with length | foreign
    · obtain ⟨target, asked⟩ :=
        Arp.Packet.exists_protocolAddress hframed .targetProtocol length rfl
      exact exists_ruling_of_asks ⟨accepted, stated, length, asked⟩
    · exact ⟨_, .foreignProtocol accepted stated foreign⟩
  · exact ⟨_, .unknownOpcode accepted stated notRequest notReply⟩

theorem exists_ruling (knowledge : Knowledge) (fields : Frame.Fields) (arrival : Point) :
    ∃ verdict, Ruling knowledge fields.frame arrival verdict := by
  rcases Decidable.em (fields.etherType = EtherType.arp) with arp | other
  · have announced : fields.frame.etherType? = some EtherType.arp := by
      rw [fields.etherType?_frame, arp]
    match accepted : Arp.Packet.ofFrame fields.frame with
    | .ok packet => exact exists_ruling_of_accepted accepted
    | .error (.refused cause) => exact ⟨_, .unreadable announced accepted⟩
    | .error .outOfRange =>
        exact absurd accepted
          (Arp.Packet.ofFrame_ne_outOfRange announced fields.payload?_frame)
  · exact ⟨_, .notArp fields.etherType?_frame other⟩

end

/-- The outcome, the block and the frames sent, in order, are those of the one verdict that the
rules give. -/
theorem verdict_eq_iff_ruling {bytes : Bytes} {frame : Frame} (knowledge : Knowledge)
    (hframe : Frame.ofBytes bytes = .ok frame) (arrival : Point) (verdict : Verdict) :
    (knowledge.handle frame arrival).verdict = verdict ↔
      Ruling knowledge frame arrival verdict := by
  obtain ⟨fields, rfl, -, -⟩ := Frame.exists_fields hframe
  -- Some rule applies, and a rule that applies gives the verdict, so that rules cannot disagree.
  constructor
  · rintro rfl
    obtain ⟨verdict, hruling⟩ := exists_ruling knowledge fields arrival
    rw [verdict_of_ruling hruling]
    exact hruling
  · exact verdict_of_ruling

end Knowledge

def questioner : Host where
  id := ⟨⟨2, 0, 0, 0, 0, 1⟩, .untagged⟩
  addresses := .ofList [⟨10, 0, 0, 1⟩]
  location := ⟨⟨"a"⟩, 2⟩

def questioned : Host where
  id := ⟨⟨2, 0, 0, 0, 0, 2⟩, .untagged⟩
  addresses := .ofList [⟨10, 0, 0, 2⟩]
  location := ⟨⟨"b"⟩, 2⟩

def question : Frame :=
  Arp.Station.request questioner.id.mac ⟨10, 0, 0, 1⟩ ⟨10, 0, 0, 2⟩ .untagged

def Inventory.twoHosts : Inventory :=
  { Inventory.twoDevices [cable] with hosts := [questioner, questioned] }

def inquiry : Frame :=
  Arp.Station.request ⟨2, 0, 0, 0, 0, 7⟩ ⟨10, 0, 0, 7⟩ ⟨10, 0, 0, 1⟩ .untagged

/-- One question is answered for the host it asks for; another one is handed over to the port of
its subnet, past a binding without addresses and a binding to another subnet. -/
theorem Knowledge.verdict_eq_iff_ruling_handover :
    let hosts := (Controller.ofInventory .twoHosts).classify.1.knowledge .least
    let other := Binding.ofAddresses cable.source [⟨⟨192, 168, 0, 1⟩, 24⟩] Binding.twofold.mac
    let subnets := (Controller.ofInventory { Inventory.twoHosts with
      bindings := [.vacant, other, .twofold] }).classify.1.knowledge .least
    (Frame.ofBytes question.bytes = .ok question ∧
      Ruling hosts question questioner.location (.handled [⟨questioner.location,
        (Arp.Station.reply questioned.id.mac ⟨10, 0, 0, 2⟩ questioner.id.mac ⟨10, 0, 0, 1⟩
          .untagged).bytes⟩])) ∧
    Frame.ofBytes inquiry.bytes = .ok inquiry ∧
      First (·.Covers ⟨10, 0, 0, 7⟩) subnets.topology.bindings .twofold ∧
      (subnets.handle inquiry Binding.vacant.point).verdict =
        .handled [⟨Binding.twofold.point, inquiry.bytes⟩] := by
  intro hosts other subnets
  have hquestion : Frame.ofBytes question.bytes = .ok question := rfl
  have hinquiry : Frame.ofBytes inquiry.bytes = .ok inquiry := rfl
  have hinterior : ¬subnets.topology.Binds Binding.vacant.point :=
    Topology.boundary?_eq_none_iff.mp rfl
  have hgateway : First (·.Covers ⟨10, 0, 0, 7⟩) subnets.topology.bindings .twofold :=
    Topology.gateway?_eq_some_iff.mp rfl
  exact ⟨⟨hquestion, (verdict_eq_iff_ruling _ hquestion _ _).mp rfl⟩, hinquiry, hgateway,
    (verdict_eq_iff_ruling _ hinquiry _ _).mpr
      (.gateway ⟨rfl, rfl, rfl, rfl⟩ hinterior rfl hgateway)⟩

end FabricArp
