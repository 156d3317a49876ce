import FabricArp.Proofs.Arp.Exchange

namespace FabricArp

theorem Frame.isTagged_of_vlan? {frame : Frame} {vlan : Vlan} (h : frame.vlan? = some vlan) :
    frame.isTagged = !vlan.isUntagged := by
  rw [vlan?] at h
  split at h
  · rename_i htagged
    obtain ⟨control, -, rfl⟩ := Option.map_eq_some_iff.mp h
    exact htagged
  · rename_i hplain
    cases h
    exact eq_false_of_ne_true hplain

namespace Arp

/-- What is read from an answer which tells the sender of a packet that `ip` is at `mac`. -/
structure Packet.AnsweredBy (packet : Packet) (ip : Ip) (mac : Mac) (answer : Frame) : Prop where
  reread : Frame.ofBytes answer.bytes = .ok answer
  accepted : Packet.ofFrame answer = .ok ⟨answer⟩
  destination : answer.destination? = packet.frame.source?
  source : answer.source? = some mac
  tagged : answer.isTagged = packet.frame.isTagged
  vlan : answer.vlan? = packet.frame.vlan?
  unprioritized : ∀ id, packet.frame.vlan? = some (.tagged id) →
    answer.tagControl? = some (Vlan.tagged id).number
  unpadded : answer.payload?.map List.length = some (Layout.size ⟨6, 4⟩)
  hardwareType : Packet.hardwareType? ⟨answer⟩ = some 1
  protocolType : Packet.protocolType? ⟨answer⟩ = some EtherType.ipv4
  hardwareLength : Packet.hardwareLength? ⟨answer⟩ = some 6
  protocolLength : Packet.protocolLength? ⟨answer⟩ = some 4
  op : Packet.op? ⟨answer⟩ = some (some .reply)
  senderMac : Packet.senderMac ⟨answer⟩ = .ok mac
  senderIp : Packet.senderIp ⟨answer⟩ = .ok ip
  targetMac : Packet.targetMac ⟨answer⟩ = packet.senderMac
  targetIp : Packet.targetIp ⟨answer⟩ = packet.senderIp

namespace Question

variable (question : Question) (ip : Ip) (mac : Mac)

theorem tells_answer :
    Packet.Tells ⟨(question.answer ip mac).frame⟩
      (Packet.statedContents .reply mac ip question.senderMac question.senderIp) := by
  apply Packet.tells_of_carried
  rw [Frame.Fields.payload?_frame, answer]
  exact congrArg some (List.append_nil _).symm

theorem tagControl?_answer {id : Fin 4096} (h : question.vlan = .tagged id) :
    (question.answer ip mac).frame.tagControl? = some (Vlan.tagged id).number := by
  apply Frame.Fields.tagControl?_frame
  rw [answer, h]
  rfl

theorem frame_answer :
    (question.answer ip mac).frame =
      Frame.assemble question.source mac question.vlan EtherType.arp
        (Station.payload .reply mac ip question.senderMac question.senderIp) :=
  (Frame.assemble_eq_frame _ _ _ _ _).symm

variable {question} {packet : Packet}

theorem Poses.answeredBy (h : question.Poses packet) :
    packet.AnsweredBy ip mac (question.answer ip mac).frame := by
  have hanswered := question.answeredIn_answer ip mac
  have htells := question.tells_answer ip mac
  constructor
  case reread => exact question.ofBytes_answer ip mac
  case accepted => exact hanswered.accepted
  case destination => exact hanswered.destination.trans h.source.symm
  case source => exact Frame.Fields.source?_frame _
  case tagged =>
    rw [Frame.isTagged_of_vlan? hanswered.vlan, Frame.isTagged_of_vlan? h.vlan]
  case vlan => exact hanswered.vlan.trans h.vlan.symm
  case unprioritized =>
    intro id hid
    rw [h.vlan, Option.some.injEq] at hid
    exact question.tagControl?_answer ip mac hid
  case unpadded =>
    rw [Frame.Fields.payload?_frame]
    rfl
  case hardwareType => exact htells.hardwareType
  case protocolType => exact htells.protocolType
  case hardwareLength => exact htells.hardwareLength
  case protocolLength => exact htells.protocolLength
  case op => exact htells.op
  case senderMac => exact hanswered.senderMac
  case senderIp => exact hanswered.senderIp
  case targetMac => exact hanswered.targetMac.trans h.senderMac.symm
  case targetIp => exact hanswered.targetIp.trans h.senderIp.symm

end Question

theorem Packet.exists_poses {fields : Frame.Fields} {payload : Bytes}
    (hframed : Framed ⟨fields.frame⟩ payload)
    (hhardware : Packet.hardwareLength? ⟨fields.frame⟩ = some 6)
    (hprotocol : Packet.protocolLength? ⟨fields.frame⟩ = some 4) :
    ∃ question : Question, question.Poses ⟨fields.frame⟩ := by
  obtain ⟨senderMac, hmac⟩ := exists_senderMac hframed hhardware
  obtain ⟨senderIp, hip⟩ := exists_protocolAddress hframed .senderProtocol hprotocol rfl
  obtain ⟨target, -⟩ := exists_protocolAddress hframed .targetProtocol hprotocol rfl
  exact ⟨⟨fields.source, fields.vlan, senderMac, senderIp, target⟩, fields.source?_frame,
    fields.vlan?_frame, hmac, hip⟩

namespace Station

variable (senderMac : Mac) (senderIp target : Ip) (vlan : Vlan)

theorem framed_request :
    Packet.Framed ⟨request senderMac senderIp target vlan⟩
      (payload .request senderMac senderIp .zero target) := by
  rw [request, Frame.assemble_eq_frame]
  exact ⟨Frame.Fields.etherType?_frame _, Frame.Fields.payload?_frame _, Nat.le_refl 28⟩

theorem poses_request :
    Question.Poses ⟨senderMac, vlan, senderMac, senderIp, target⟩
      ⟨request senderMac senderIp target vlan⟩ := by
  have hframed := framed_request senderMac senderIp target vlan
  have hlaid := Frame.assemble_eq_frame .broadcast senderMac vlan EtherType.arp
    (payload .request senderMac senderIp .zero target)
  constructor
  case source =>
    rw [request, hlaid]
    exact Frame.Fields.source?_frame _
  case vlan =>
    rw [request, hlaid, Frame.Fields.vlan?_frame]
    exact congrArg some
      (Frame.Fields.vlan_retag ⟨.broadcast, senderMac, none, EtherType.arp, _⟩ vlan)
  case senderMac => exact Packet.senderMac_of_stated hframed
  case senderIp => exact Packet.senderIp_of_stated hframed

theorem ofBytes_request :
    Frame.ofBytes (request senderMac senderIp target vlan).bytes =
      .ok (request senderMac senderIp target vlan) := by
  rw [request, Frame.assemble_eq_frame]
  exact Frame.Fields.ofBytes_frame_of_arp rfl

theorem answer_request (ip : Ip) (mac : Mac) :
    Packet.answer ⟨request senderMac senderIp target vlan⟩ ip mac =
      .ok (reply mac ip senderMac senderIp vlan) := by
  rw [(poses_request senderMac senderIp target vlan).answer_eq, Question.frame_answer]
  rfl

end Station

theorem answer_encodes {bytes : Bytes} {frame : Frame} {packet : Packet}
    (hread : Frame.ofBytes bytes = .ok frame) (haccepted : Packet.ofFrame frame = .ok packet)
    (ip : Ip) (mac : Mac) :
    ((∃ answer, packet.answer ip mac = .ok answer) ↔
      packet.hardwareLength? = some 6 ∧ packet.protocolLength? = some 4) ∧
    packet.answer ip mac ≠ .error .outOfRange ∧
    (∀ answer, packet.answer ip mac = .ok answer →
      packet.AnsweredBy ip mac answer ∧
      ∀ senderMac senderIp vlan, packet.senderMac = .ok senderMac →
        packet.senderIp = .ok senderIp → packet.frame.vlan? = some vlan →
        packet.frame.source? = some senderMac →
        answer = Station.reply mac ip senderMac senderIp vlan) ∧
    ∀ senderMac senderIp target vlan,
      let request := Station.request senderMac senderIp target vlan
      Frame.ofBytes request.bytes = .ok request ∧ Packet.ofFrame request = .ok ⟨request⟩ ∧
        Packet.answer ⟨request⟩ ip mac = .ok (Station.reply mac ip senderMac senderIp vlan) := by
  obtain ⟨fields, rfl, -, -⟩ := Frame.exists_fields hread
  obtain ⟨rfl, payload, hframed⟩ := Packet.exists_framed_of_ofFrame haccepted
  refine ⟨⟨?answered, ?answers⟩, ?never, ?told, ?own⟩
  case answered =>
    rintro ⟨answer, hanswer⟩
    exact Packet.lengths_of_answer hframed hanswer
  case answers =>
    rintro ⟨hhardware, hprotocol⟩
    exact Packet.exists_answer hframed hhardware hprotocol fields.source?_frame
      fields.vlan?_frame ip mac
  case never =>
    exact Packet.answer_ne_outOfRange hframed fields.source?_frame fields.vlan?_frame ip mac
  case told =>
    intro answer hanswer
    obtain ⟨hhardware, hprotocol⟩ := Packet.lengths_of_answer hframed hanswer
    obtain ⟨question, hposes⟩ := Packet.exists_poses hframed hhardware hprotocol
    have hsame := (hposes.answer_eq ip mac).symm.trans hanswer
    cases hsame
    refine ⟨hposes.answeredBy ip mac, ?_⟩
    intro senderMac senderIp vlan hmac hip hvlan hsource
    have hlaid := Packet.answer_eq hmac hip hsource hvlan ip mac
    exact Except.ok.inj (hanswer.symm.trans hlaid)
  case own =>
    intro senderMac senderIp target vlan
    exact ⟨Station.ofBytes_request senderMac senderIp target vlan,
      Packet.ofFrame_of_framed (Station.framed_request senderMac senderIp target vlan),
      Station.answer_request senderMac senderIp target vlan ip mac⟩

end Arp

def Frame.Fields.prioritized : Frame.Fields where
  destination := .broadcast
  source := ⟨2, 0, 0, 0, 0, 7⟩
  tag := some 0xa00a
  etherType := EtherType.arp
  payload := Bytes.ofWord 1 ++ Bytes.ofWord EtherType.ipv4 ++ [6, 4] ++ Bytes.ofWord 9 ++
    Mac.bytes ⟨2, 0, 0, 0, 0, 7⟩ ++ Ip.octets ⟨10, 0, 0, 7⟩ ++ Mac.zero.bytes ++
    Ip.octets ⟨10, 0, 0, 1⟩ ++ Bytes.zeros 18

theorem Arp.answer_encodes_prioritized :
    let frame := Frame.Fields.prioritized.frame
    let answer := Station.reply ⟨2, 0, 0, 0, 0, 9⟩ ⟨10, 0, 0, 1⟩ ⟨2, 0, 0, 0, 0, 7⟩ ⟨10, 0, 0, 7⟩
      (.tagged 10)
    Frame.ofBytes frame.bytes = .ok frame ∧ Packet.ofFrame frame = .ok ⟨frame⟩ ∧
      Packet.answer ⟨frame⟩ ⟨10, 0, 0, 1⟩ ⟨2, 0, 0, 0, 0, 9⟩ = .ok answer ∧
      Packet.AnsweredBy ⟨frame⟩ ⟨10, 0, 0, 1⟩ ⟨2, 0, 0, 0, 0, 9⟩ answer := by
  intro frame answer
  have hread : Frame.ofBytes frame.bytes = .ok frame := rfl
  have haccepted : Packet.ofFrame frame = .ok ⟨frame⟩ := rfl
  obtain ⟨hanswered, -, htold, -⟩ :=
    answer_encodes hread haccepted ⟨10, 0, 0, 1⟩ ⟨2, 0, 0, 0, 0, 9⟩
  obtain ⟨given, hgiven⟩ := hanswered.mpr ⟨rfl, rfl⟩
  obtain ⟨hby, hlaid⟩ := htold given hgiven
  obtain rfl : given = answer :=
    hlaid ⟨2, 0, 0, 0, 0, 7⟩ ⟨10, 0, 0, 7⟩ (.tagged 10) rfl rfl rfl rfl
  exact ⟨hread, haccepted, hgiven, hby⟩

end FabricArp
