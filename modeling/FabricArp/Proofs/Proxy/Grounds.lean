import FabricArp.Proofs.Arp.Exchange
import FabricArp.Proofs.Proxy.Ruling

namespace FabricArp

/-- The address asked for is bound where the question arrived, or a host on its VLAN owns both it
and `ip`, and the requester is known at the point. -/
inductive Grounds (inventory : Inventory) (arrival : Point) (question : Arp.Question) (ip : Ip)
    (mac : Mac) (out : Point) : Prop where
  | bound {binding : Binding} {address : InterfaceAddress}
      (listed : inventory.topology.binding? arrival = some binding)
      (held : address ∈ binding.addresses) (announced : address.ip = ip)
      (asked : ip = question.target) (owner : binding.mac = mac) (back : out = arrival)
  | owned {owner requester : Host} (listed : owner ∈ inventory.hosts)
      (identified : owner.id = ⟨mac, question.vlan⟩) (asked : question.target ∈ owner.addresses)
      (announced : ip ∈ owner.addresses)
      (single : owner.addresses.toList.length = 1 → ip = question.target)
      (known : inventory.topology.host? ⟨question.source, question.vlan⟩ = some requester)
      (back : out = requester.location)

namespace Inventory

variable {inventory : Inventory} {ip : Ip} {vlan : Vlan} {owner : Host}

theorem listed_of_first (h : First (·.id.vlan = vlan) (inventory.topology.hostsByIp ip) owner) :
    owner ∈ inventory.hosts ∧ owner.id.vlan = vlan ∧ ip ∈ owner.addresses := by
  have hlisted := List.mem_filter.mp h.mem
  exact ⟨hlisted.1, h.1, of_decide_eq_true hlisted.2⟩

end Inventory

namespace Knowledge

variable {knowledge : Knowledge} {frame answer : Frame} {request : Arp.Packet} {target ip : Ip}
  {mac : Mac} {arrival out : Point} {outbound : Outbound}

theorem eq_of_mem_unicast (h : outbound ∈ knowledge.unicast frame out) :
    outbound = ⟨out, frame.bytes⟩ := by
  rw [unicast] at h
  split at h
  · cases h
  · exact List.mem_singleton.mp h

theorem unicast_eq_of_mem {outbound : Outbound} (h : outbound ∈ knowledge.unicast frame out)
    (other : Frame) : knowledge.unicast other out = [⟨out, other.bytes⟩] := by
  rw [unicast] at h
  split at h
  · cases h
  · rename_i hopen
    exact if_neg hopen

theorem Asks.exists_question {source : Mac} {vlan : Vlan} (asks : Asks frame request target)
    (hsource : frame.source? = some source) (hvlan : frame.vlan? = some vlan)
    (answered : request.answer ip mac = .ok answer) :
    ∃ question : Arp.Question, question.AskedIn frame ∧ question.target = target ∧
      answer = (question.answer ip mac).frame := by
  obtain ⟨rfl, -⟩ := Arp.Packet.exists_framed_of_ofFrame asks.accepted
  obtain ⟨senderMac, senderIp, hmac, hip⟩ := Arp.Packet.sender_of_answer answered
  have hasked : Arp.Question.AskedIn ⟨source, vlan, senderMac, senderIp, target⟩ frame :=
    ⟨asks.accepted, asks.opcode, hsource, hvlan, hmac, hip, asks.target⟩
  refine ⟨_, hasked, rfl, ?_⟩
  exact Except.ok.inj (answered.symm.trans (hasked.answer_eq ip mac))

section Grounds

variable {inventory : Inventory} {table : PortTable} {choice : AddressChoice}
  {question : Arp.Question} {binding : Binding} {requester : HostId} {owner asker : Host}

theorem grounds_of_boundary (listed : inventory.topology.binding? arrival = some binding)
    (occurs : binding.occurrences question.target ≠ 0) :
    Grounds inventory arrival question question.target binding.mac arrival := by
  obtain ⟨address, held, announced⟩ := List.countP_pos_iff.mp (Nat.pos_of_ne_zero occurs)
  exact .bound listed held (of_decide_eq_true announced) rfl rfl rfl

theorem grounds_of_hosts (asked : question.AskedIn frame)
    (left : LeftToHosts ⟨inventory.topology, table, choice⟩ frame arrival request question.target
      requester)
    (owned : First (·.id.vlan = requester.vlan)
      (inventory.topology.hostsByIp question.target) owner)
    (known : inventory.topology.host? requester = some asker)
    (picked : choice.pick? owner = some ip) :
    Grounds inventory arrival question ip owner.id.mac asker.location := by
  obtain ⟨requesterMac, requesterVlan⟩ := requester
  obtain rfl : requesterMac = question.source :=
    Option.some.inj (left.source.symm.trans asked.source)
  obtain rfl : requesterVlan = question.vlan := Option.some.inj (left.vlan.symm.trans asked.vlan)
  obtain ⟨listed, hvlan, held⟩ := Inventory.listed_of_first owned
  have announced := choice.pick?_mem picked
  refine .owned listed (congrArg (HostId.mk owner.id.mac) hvlan) held announced ?_ known rfl
  intro hsingle
  obtain ⟨address, haddress⟩ := List.length_eq_one_iff.mp hsingle
  rw [SortedSet.mem_def, haddress, List.mem_singleton] at held announced
  rw [announced, held]

end Grounds

/-- Every frame that is sent is the inbound frame unchanged, or a reply to the question it asks
which has its grounds in the inventory. -/
theorem sent_copied_or_grounded (inventory : Inventory) (table : PortTable)
    (choice : AddressChoice) {bytes : Bytes} (hframe : Frame.ofBytes bytes = .ok frame)
    (hsent : outbound ∈
      Action.sent (handle ⟨inventory.topology, table, choice⟩ frame arrival).actions) :
    outbound.bytes = bytes ∨
      ∃ (question : Arp.Question) (ip : Ip) (mac : Mac) (reply : Frame),
        question.AskedIn frame ∧ Frame.ofBytes outbound.bytes = .ok reply ∧
          question.AnsweredIn reply ip mac ∧
          Grounds inventory arrival question ip mac outbound.out := by
  obtain ⟨fields, rfl, rfl, -⟩ := Frame.exists_fields hframe
  obtain ⟨verdict, hruling⟩ := exists_ruling ⟨inventory.topology, table, choice⟩ fields arrival
  have hsent : outbound ∈ verdict.sent := by
    rw [← verdict_of_ruling hruling]
    exact hsent
  cases hruling with
  | notArp | unreadable | unknownOpcode | foreignProtocol | boundaryUnbound | boundaryForeign
  | hostForeign => cases hsent
  | replyClaimed | gateway => exact .inl (congrArg Outbound.bytes (eq_of_mem_unicast hsent))
  | replyUnclaimed | unresolved | ownerUnaddressed =>
      rename_i flooded
      exact .inl ((flooded.mem_iff outbound).mp hsent).1
  | boundary asked answered =>
      obtain ⟨question, hasked, rfl, rfl⟩ :=
        asked.toAsks.exists_question fields.source?_frame fields.vlan?_frame answered
      obtain ⟨sent, hround, hsent⟩ := List.mem_flatten.mp hsent
      obtain ⟨occurs, rfl⟩ := List.mem_replicate.mp hround
      obtain rfl := eq_of_mem_unicast hsent
      exact .inr ⟨question, _, _, _, hasked, question.ofBytes_answer _ _,
        question.answeredIn_answer _ _, grounds_of_boundary asked.listed occurs⟩
  | host left owned known picked answered =>
      obtain ⟨question, hasked, rfl, rfl⟩ :=
        left.toAsks.exists_question left.source left.vlan answered
      obtain rfl := eq_of_mem_unicast hsent
      exact .inr ⟨question, _, _, _, hasked, question.ofBytes_answer _ _,
        question.answeredIn_answer _ _, grounds_of_hosts hasked left owned known picked⟩

end Knowledge

def dualHomed : Host :=
  { questioned with addresses := .ofList [⟨10, 0, 0, 2⟩, ⟨9, 0, 0, 2⟩] }

def Inventory.dualHomedHost : Inventory :=
  { Inventory.twoHosts with hosts := [questioner, dualHomed] }

def otherAddress : Outbound :=
  ⟨questioner.location, (Arp.Station.reply dualHomed.id.mac ⟨9, 0, 0, 2⟩ questioner.id.mac
    ⟨10, 0, 0, 1⟩ .untagged).bytes⟩

theorem Knowledge.sent_copied_or_grounded_dualHomed :
    let table := PortTable.ofTopology Inventory.dualHomedHost.topology
    Frame.ofBytes question.bytes = .ok question ∧
    otherAddress ∈ Action.sent (handle ⟨Inventory.dualHomedHost.topology, table, .least⟩ question
      questioner.location).actions ∧
    otherAddress.bytes ≠ question.bytes ∧
    ∃ (asked : Arp.Question) (ip : Ip) (mac : Mac) (reply : Frame),
      asked.AskedIn question ∧ Frame.ofBytes otherAddress.bytes = .ok reply ∧
        asked.AnsweredIn reply ip mac ∧
        Grounds .dualHomedHost questioner.location asked ip mac otherAddress.out :=
  have hframe : Frame.ofBytes question.bytes = .ok question := rfl
  have hsent : otherAddress ∈ Action.sent (handle ⟨Inventory.dualHomedHost.topology,
      .ofTopology Inventory.dualHomedHost.topology, .least⟩ question
        questioner.location).actions := by decide
  have hforged : otherAddress.bytes ≠ question.bytes := by decide
  ⟨hframe, hsent, hforged, (sent_copied_or_grounded _ _ _ hframe hsent).resolve_left hforged⟩

end FabricArp
