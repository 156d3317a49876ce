import FabricArp.Proofs.Arp.Filling
import FabricArp.Proofs.Ethernet.RoundTrip
import FabricArp.Proofs.Proxy.InRange
import FabricArp.Proofs.Proxy.Isolation
import FabricArp.Proofs.Proxy.Recopying

namespace FabricArp

/-- Sends nothing but the frame as it is, and reports no answer. -/
def Action.PassesOn (frame : Frame) : Action → Prop
  | .send outbound => outbound.bytes = frame.bytes
  | .note (.boundaryAnswer _ _) | .note (.hostAnswer _ _ _) => False
  | .note _ | .block => True

structure Arp.Packet.Answerable (packet : Packet) : Prop where
  opcode : packet.opcode? = some Op.request.code
  hardware : packet.hardwareLength? = some 6
  protocol : packet.protocolLength? = some 4

namespace Knowledge

variable (knowledge : Knowledge) (frame : Frame)

theorem sendTo_only (out : Point) : (knowledge.sendTo frame out).Only (Action.PassesOn frame) := by
  rw [sendTo]
  split
  · exact .of_note trivial
  · intro action hmem
    rw [List.mem_singleton.mp hmem]
    exact rfl

theorem flood_only : (knowledge.flood frame).Only (Action.PassesOn frame) := by
  intro action hmem
  obtain ⟨point, -, rfl⟩ := List.mem_map.mp hmem
  exact rfl

theorem deliver_only : (knowledge.deliver frame).Only (Action.PassesOn frame) := by
  refine .bind (.of_idle rfl) fun destination _ => .bind (.of_idle rfl) fun vlan _ => ?_
  split
  · exact .bind (.of_note trivial) fun _ _ => knowledge.sendTo_only frame _
  · exact .bind (.of_note trivial) fun _ _ => knowledge.flood_only frame

theorem forward_only : (knowledge.forward frame).Only (Action.PassesOn frame) := by
  refine .bind (.of_idle rfl) fun packet _ => .bind (.of_idle rfl) fun op _ => ?_
  split
  · exact knowledge.deliver_only frame
  · exact .of_idle rfl

section Request

variable {request : Arp.Packet} {payload : Bytes} (hframed : request.Framed payload)
  (hopcode : request.opcode? = some Arp.Op.request.code)
include hframed hopcode

theorem answerable_of_answer {answer : Frame} {ip : Ip} {mac : Mac}
    (hanswer : (request.answer ip mac).orMalformed = .ok answer) : request.Answerable := by
  obtain ⟨hhardware, hprotocol⟩ :=
    Arp.Packet.lengths_of_answer hframed (Outcome.eq_ok_of_orMalformed hanswer)
  exact ⟨hopcode, hhardware, hprotocol⟩

theorem answerAtBoundary_only (target : Ip) (binding : Binding) (arrival : Point) :
    (knowledge.answerAtBoundary request target binding arrival).Only
      fun action => action.PassesOn frame ∨ request.Answerable := by
  refine .forM fun address _ => .bind (.of_idle rfl) fun answer hanswer => ?_
  exact fun _ _ => .inr (answerable_of_answer hframed hopcode hanswer)

theorem answerFromInventory_only (target : Ip) :
    (knowledge.answerFromInventory frame request target).Only
      fun action => action.PassesOn frame ∨ request.Answerable := by
  have hflood := (knowledge.flood_only frame).mono fun _ => Or.inl (b := request.Answerable)
  refine .bind (.of_idle rfl) fun vlan _ => .bind (.of_idle rfl) fun source _ => ?_
  split
  · split
    · refine .bind (.of_idle rfl) fun answer hanswer => ?_
      exact fun _ _ => .inr (answerable_of_answer hframed hopcode hanswer)
    · exact hflood
  · exact .bind (.of_note (.inl trivial)) fun _ _ => hflood

theorem resolve_only (arrival : Point) :
    (knowledge.resolve frame request arrival).Only
      fun action => action.PassesOn frame ∨ request.Answerable := by
  refine .bind (.of_idle rfl) fun target _ => ?_
  split
  · exact knowledge.answerAtBoundary_only frame hframed hopcode target _ arrival
  · refine .bind (.of_idle rfl) fun sender _ => ?_
    split
    · exact .bind (.of_note (.inl trivial)) fun _ _ =>
        (knowledge.sendTo_only frame _).mono fun _ => .inl
    · exact knowledge.answerFromInventory_only frame hframed hopcode target

end Request

theorem reply_only (arrival : Point) :
    (knowledge.reply frame arrival).Only
      fun action => action.PassesOn frame ∨ Arp.Packet.Answerable ⟨frame⟩ := by
  refine .bind (.of_idle rfl) fun request hread => .bind (.of_idle rfl) fun op hop => ?_
  obtain ⟨rfl, payload, hframed⟩ :=
    Arp.Packet.exists_framed_of_ofFrame (ofFrame_of_readArp hread)
  split
  · rename_i hrequest
    have hop := (Outcome.eq_some_of_ofOption hop).trans (congrArg some hrequest)
    exact knowledge.resolve_only frame hframed (Arp.Packet.opcode?_of_op? hop) arrival
  · exact .of_idle rfl

theorem handle_only (arrival : Point) :
    (knowledge.handle frame arrival).Only
      fun action => action.PassesOn frame ∨ Arp.Packet.Answerable ⟨frame⟩ := by
  have hblock : (Handling.block >>= fun _ => pure true).Only fun action =>
      action.PassesOn frame ∨ Arp.Packet.Answerable ⟨frame⟩ := by
    intro action hmem
    rw [List.mem_singleton.mp hmem]
    exact .inl trivial
  refine .bind (.of_idle rfl) fun etherType _ => ?_
  split
  · exact .of_idle rfl
  · refine .bind (.of_idle rfl) fun packet _ => .bind (.of_idle rfl) fun opcode _ => ?_
    split
    · exact .bind ((knowledge.forward_only frame).mono fun _ => .inl) fun _ _ => hblock
    · exact .bind (knowledge.reply_only frame arrival) fun _ _ => hblock
    · exact .bind (.of_note (.inl trivial)) fun _ _ => hblock

end Knowledge

namespace Arp

/-- What the proxy reads of a packet. -/
def Slot.handled : List Slot :=
  [.destination, .source, .vlan, .field .opcode, .field .hardwareLength, .field .protocolLength,
    .field .senderHardware, .field .senderProtocol, .field .targetProtocol]

namespace Message

variable (message : Message) (hardwareType protocolType : UInt16)

theorem resembles_put {setting : Setting} (h : setting.slot ∉ Slot.handled) :
    (message.put setting).packet.Resembles message.packet := by
  have halike : ∀ slot ∈ Slot.handled,
      (message.put setting).packet.AlikeAt message.packet slot :=
    fun slot hslot => message.alikeAt_put setting fun hsame => h (hsame ▸ hslot)
  constructor
  case accepted => exact (message.put setting).ofFrame_packet
  case destination? => exact halike .destination (by decide)
  case source? => exact halike .source (by decide)
  case vlan? => exact (halike .vlan (by decide)).2.1
  case opcode? => exact (halike (.field .opcode) (by decide)).1
  case hardwareLength? => exact halike (.field .hardwareLength) (by decide)
  case protocolLength? => exact halike (.field .protocolLength) (by decide)
  case senderMac => exact (halike (.field .senderHardware) (by decide)).2
  case senderIp => exact (halike (.field .senderProtocol) (by decide)).2
  case targetIp => exact (halike (.field .targetProtocol) (by decide)).2

def typed : Message :=
  message.put (.field (.hardwareType hardwareType))

def retyped : Message :=
  (message.typed hardwareType).put (.field (.protocolType protocolType))

theorem setHardwareType?_packet :
    message.packet.setHardwareType? hardwareType = some (message.typed hardwareType).packet :=
  (message.set?_packet (.field (.hardwareType hardwareType))).trans (if_pos rfl)

theorem setProtocolType?_packet :
    message.packet.setProtocolType? protocolType =
      some (message.put (.field (.protocolType protocolType))).packet :=
  (message.set?_packet (.field (.protocolType protocolType))).trans (if_pos rfl)

theorem hardwareType?_retyped :
    (message.retyped hardwareType protocolType).packet.hardwareType? = some hardwareType := by
  have hkept : (message.retyped hardwareType protocolType).packet.AlikeAt
      (message.typed hardwareType).packet (.field .hardwareType) :=
    alikeAt_put _ _ (by exact nofun)
  exact hkept.trans (message.shows_put (.field (.hardwareType hardwareType)) rfl)

theorem protocolType?_retyped :
    (message.retyped hardwareType protocolType).packet.protocolType? = some protocolType :=
  shows_put _ (.field (.protocolType protocolType)) rfl

theorem resembles_retyped :
    (message.retyped hardwareType protocolType).packet.Resembles message.packet := by
  have htyped : (message.typed hardwareType).packet.Resembles message.packet :=
    message.resembles_put (by exact nofun)
  exact .trans (resembles_put _ (by exact nofun)) htyped

end Message

end Arp

namespace Knowledge

/-- Only a request with addresses of Ethernet and IPv4 length is answered, and the types that it
states make no difference. -/
theorem answered_by_lengths (knowledge : Knowledge) (frame : Frame) (arrival : Point) :
    (knowledge.reply frame arrival).Only
      (fun action => action.PassesOn frame ∨ Arp.Packet.Answerable ⟨frame⟩) ∧
    (knowledge.handle frame arrival).Only
      (fun action => action.PassesOn frame ∨ Arp.Packet.Answerable ⟨frame⟩) ∧
    ∀ (bytes : Bytes) (packet : Arp.Packet), Frame.ofBytes bytes = .ok frame →
      Arp.Packet.ofFrame frame = .ok packet → ∀ hardwareType protocolType : UInt16,
      ∃ typed retyped : Arp.Packet, packet.setHardwareType? hardwareType = some typed ∧
        typed.setProtocolType? protocolType = some retyped ∧
        Frame.ofBytes retyped.frame.bytes = .ok retyped.frame ∧
        Arp.Packet.ofFrame retyped.frame = .ok retyped ∧
        retyped.hardwareType? = some hardwareType ∧ retyped.protocolType? = some protocolType ∧
        (knowledge.handle retyped.frame arrival).verdict =
          (knowledge.handle frame arrival).verdict.recopied bytes retyped.frame.bytes := by
  refine ⟨knowledge.reply_only frame arrival, knowledge.handle_only frame arrival, ?_⟩
  intro bytes packet hread haccepted hardwareType protocolType
  obtain ⟨message, rfl⟩ := Arp.Message.exists_packet hread haccepted
  obtain ⟨hframe, -⟩ := Arp.Packet.exists_framed_of_ofFrame haccepted
  obtain rfl : message.fields.frame = frame := congrArg Arp.Packet.frame hframe
  obtain rfl := Frame.bytes_of_ofBytes hread
  exact ⟨_, _, message.setHardwareType?_packet hardwareType,
    Arp.Message.setProtocolType?_packet _ protocolType, Arp.Message.ofBytes_packet _,
    Arp.Message.ofFrame_packet _, message.hardwareType?_retyped hardwareType protocolType,
    message.protocolType?_retyped hardwareType protocolType,
    verdict_handle_of_resembles hread haccepted
      (message.resembles_retyped hardwareType protocolType)⟩

end Knowledge

def foreignInquiry : Frame :=
  .assemble .broadcast ⟨2, 0, 0, 0, 0, 7⟩ .untagged EtherType.arp
    (Bytes.ofWord 6 ++ Bytes.ofWord 0x86dd ++ [6, 4] ++ Bytes.ofWord Arp.Op.request.code ++
      Mac.bytes ⟨2, 0, 0, 0, 0, 7⟩ ++ Ip.octets ⟨10, 0, 0, 7⟩ ++ Mac.zero.bytes ++
      Ip.octets ⟨10, 0, 0, 1⟩)

def inquiryAnswer : Outbound :=
  ⟨Binding.twofold.point, (Arp.Station.reply Binding.twofold.mac ⟨10, 0, 0, 1⟩
    ⟨2, 0, 0, 0, 0, 7⟩ ⟨10, 0, 0, 7⟩ .untagged).bytes⟩

namespace Knowledge

theorem answered_by_lengths_foreign :
    let knowledge : Knowledge :=
      ⟨{ Inventory.empty with bindings := [.twofold] }.topology, .empty, .least⟩
    let point := Binding.twofold.point
    Frame.ofBytes inquiry.bytes = .ok inquiry ∧
    Arp.Packet.ofFrame inquiry = .ok ⟨inquiry⟩ ∧
    .send inquiryAnswer ∈ (knowledge.handle inquiry point).actions ∧
    Arp.Packet.Answerable ⟨inquiry⟩ ∧
    Frame.ofBytes foreignInquiry.bytes = .ok foreignInquiry ∧
    Arp.Packet.hardwareType? ⟨foreignInquiry⟩ = some 6 ∧
    Arp.Packet.protocolType? ⟨foreignInquiry⟩ = some 0x86dd ∧
    (knowledge.handle foreignInquiry point).verdict =
      (knowledge.handle inquiry point).verdict.recopied inquiry.bytes foreignInquiry.bytes := by
  intro knowledge point
  have hframe : Frame.ofBytes inquiry.bytes = .ok inquiry := rfl
  have haccepted : Arp.Packet.ofFrame inquiry = .ok ⟨inquiry⟩ := rfl
  have hsent : .send inquiryAnswer ∈ (knowledge.handle inquiry point).actions := by decide
  have hforged : ¬(Action.send inquiryAnswer).PassesOn inquiry := by
    rw [Action.PassesOn]
    decide
  have hset : (Arp.Packet.setHardwareType? ⟨inquiry⟩ 6).bind (·.setProtocolType? 0x86dd) =
      some ⟨foreignInquiry⟩ := rfl
  obtain ⟨-, honly, htypes⟩ := answered_by_lengths knowledge inquiry point
  obtain ⟨typed, retyped, htyped, hretyped, hread, -, hhardware, hprotocol, hverdict⟩ :=
    htypes _ _ hframe haccepted 6 0x86dd
  rw [htyped, Option.bind_some, hretyped, Option.some.injEq] at hset
  subst hset
  exact ⟨hframe, haccepted, hsent, (honly _ hsent).resolve_left hforged, hread, hhardware,
    hprotocol, hverdict⟩

theorem answered_not_only_for_ethernet_ipv4 :
    ¬∀ (inventory : Inventory) (table : PortTable) (choice : AddressChoice) (bytes : Bytes)
        (frame : Frame) (arrival : Point), Frame.ofBytes bytes = .ok frame →
      (handle ⟨inventory.topology, table, choice⟩ frame arrival).Only fun action =>
        action.PassesOn frame ∨
          (Arp.Packet.hardwareType? ⟨frame⟩ = some 1 ∧
            Arp.Packet.protocolType? ⟨frame⟩ = some EtherType.ipv4 ∧
            Arp.Packet.Answerable ⟨frame⟩) := by
  intro h
  have hframe : Frame.ofBytes foreignInquiry.bytes = .ok foreignInquiry := rfl
  have hsent : .send inquiryAnswer ∈ (handle ⟨{ Inventory.empty with
      bindings := [.twofold] }.topology, .empty, .least⟩ foreignInquiry
        Binding.twofold.point).actions := by decide
  rcases h _ _ _ _ _ _ hframe _ hsent with hcopy | ⟨htype, -⟩
  · rw [Action.PassesOn] at hcopy
    exact absurd hcopy (by decide)
  · exact absurd htype (by decide)

end Knowledge

end FabricArp
