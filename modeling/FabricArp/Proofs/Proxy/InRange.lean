import FabricArp.Proofs.Arp.Answer
import FabricArp.Proofs.Ethernet.Editing
import FabricArp.Proofs.Proxy.Failing
import FabricArp.Proofs.Proxy.Steps

namespace FabricArp

theorem Outcome.orMalformed_ne_outOfRange {α : Type} {outcome : Outcome PacketError α}
    (h : outcome ≠ .error .outOfRange) : outcome.orMalformed ≠ .error .outOfRange := by
  match outcome with
  | .ok _ => exact nofun
  | .error (.refused _) => exact nofun
  | .error .outOfRange => exact absurd rfl h

theorem Outcome.eq_ok_of_orMalformed {α : Type} {outcome : Outcome PacketError α} {value : α}
    (h : outcome.orMalformed = .ok value) : outcome = .ok value := by
  match outcome with
  | .ok _ => exact congrArg Except.ok (Except.ok.inj h)

theorem Outcome.eq_some_of_ofOption {α : Type} {read : Option α} {value : α}
    (h : (ofOption read : Outcome ProxyError α) = .ok value) : read = some value := by
  cases read with
  | none => cases h
  | some found => exact congrArg some (Except.ok.inj h)

namespace Handling

variable {α β : Type}

/-- Ends with a value or is refused. -/
def InRange (handling : Handling α) : Prop :=
  handling.outcome ≠ .error .outOfRange

theorem Succeeds.inRange {handling : Handling α} (h : handling.Succeeds) : handling.InRange := by
  obtain ⟨value, hvalue⟩ := h
  rw [InRange, hvalue]
  exact nofun

namespace InRange

theorem pure (value : α) : (Pure.pure value : Handling α).InRange :=
  nofun

theorem of_refuse (cause : ProxyError) : (refuse cause : Handling α).InRange :=
  nofun

theorem of_some {read : Option α} {value : α} (h : read = some value) :
    (liftM read : Handling α).InRange := by
  rw [h]
  exact nofun

theorem bind {first : Handling α} {next : α → Handling β} (hfirst : first.InRange)
    (hnext : ∀ value, first.outcome = .ok value → (next value).InRange) :
    (first >>= next).InRange := by
  obtain ⟨outcome, actions⟩ := first
  match outcome with
  | .ok value => exact hnext value rfl
  | .error (.refused _) => exact nofun
  | .error .outOfRange => exact absurd rfl hfirst

theorem forM {elements : List α} {body : α → Handling Unit}
    (hbody : ∀ element ∈ elements, (body element).InRange) : (elements.forM body).InRange :=
  forM_of_seq (pure ()) (fun _ _ hfirst hnext => hfirst.bind fun _ _ => hnext) hbody

end InRange

end Handling

namespace Knowledge

variable (knowledge : Knowledge) {fields : Frame.Fields}

theorem readArp_of_foreign (h : fields.etherType ≠ EtherType.arp) :
    readArp fields.frame = .error (.refused .notArp) := by
  rw [readArp, fields.etherType?_frame]
  exact if_pos h

theorem readArp_of_arp (h : fields.etherType = EtherType.arp) :
    readArp fields.frame = (Arp.Packet.ofFrame fields.frame).orMalformed := by
  apply readArp_eq
  rw [fields.etherType?_frame, h]

theorem readArp_ne_outOfRange : readArp fields.frame ≠ .error .outOfRange := by
  rcases Decidable.em (fields.etherType = EtherType.arp) with harp | hforeign
  · rw [readArp_of_arp harp]
    exact Outcome.orMalformed_ne_outOfRange
      (Arp.Packet.ofFrame_ne_outOfRange fields.etherType?_frame fields.payload?_frame)
  · rw [readArp_of_foreign hforeign]
    exact nofun

theorem ofFrame_of_readArp {frame : Frame} {packet : Arp.Packet} (h : readArp frame = .ok packet) :
    Arp.Packet.ofFrame frame = .ok packet := by
  cases hetherType : frame.etherType? with
  | none =>
      rw [readArp, hetherType] at h
      cases h
  | some etherType =>
      rw [readArp, hetherType] at h
      change (if etherType ≠ EtherType.arp then _ else _) = _ at h
      split at h
      · cases h
      · exact Outcome.eq_ok_of_orMalformed h

theorem framed_of_readArp {packet : Arp.Packet} (h : readArp fields.frame = .ok packet) :
    packet = ⟨fields.frame⟩ ∧ packet.Framed fields.payload :=
  Arp.Packet.framed_of_ofFrame fields.etherType?_frame fields.payload?_frame (ofFrame_of_readArp h)

section Request

variable (hframed : Arp.Packet.Framed ⟨fields.frame⟩ fields.payload)
include hframed

theorem answer_inRange (ip : Ip) (mac : Mac) :
    Handling.InRange (liftM (Arp.Packet.answer ⟨fields.frame⟩ ip mac).orMalformed) :=
  Outcome.orMalformed_ne_outOfRange
    (Arp.Packet.answer_ne_outOfRange hframed fields.source?_frame fields.vlan?_frame ip mac)

theorem answerAtBoundary_inRange (target : Ip) (binding : Binding) (arrival : Point) :
    (knowledge.answerAtBoundary ⟨fields.frame⟩ target binding arrival).InRange := by
  refine .forM fun address _ => .bind (answer_inRange hframed _ _) fun answer _ => ?_
  exact (knowledge.note_sendTo_succeeds answer _ arrival).inRange

theorem answerFromInventory_inRange (target : Ip) :
    (knowledge.answerFromInventory fields.frame ⟨fields.frame⟩ target).InRange := by
  refine .bind (.of_some fields.vlan?_frame) fun vlan _ => ?_
  refine .bind (.of_some fields.source?_frame) fun source _ => ?_
  split
  · split
    · refine .bind (answer_inRange hframed _ _) fun answer _ => ?_
      exact (knowledge.note_sendTo_succeeds answer _ _).inRange
    · exact (knowledge.flood_succeeds _).inRange
  · exact (knowledge.note_flood_succeeds _ _).inRange

theorem resolve_inRange (arrival : Point) :
    (knowledge.resolve fields.frame ⟨fields.frame⟩ arrival).InRange := by
  have haddress := fun field hwidth => Outcome.orMalformed_ne_outOfRange
    (Arp.Packet.protocolAddress_ne_outOfRange hframed field hwidth)
  refine .bind (haddress .targetProtocol rfl) fun target _ => ?_
  split
  · exact knowledge.answerAtBoundary_inRange hframed target _ arrival
  · refine .bind (haddress .senderProtocol rfl) fun sender _ => ?_
    split
    · exact (knowledge.note_sendTo_succeeds _ _ _).inRange
    · exact knowledge.answerFromInventory_inRange hframed target

end Request

theorem deliver_inRange : (knowledge.deliver fields.frame).InRange := by
  refine .bind (.of_some fields.destination?_frame) fun destination _ => ?_
  refine .bind (.of_some fields.vlan?_frame) fun vlan _ => ?_
  split
  · exact (knowledge.note_sendTo_succeeds _ _ _).inRange
  · exact (knowledge.note_flood_succeeds _ _).inRange

theorem inRange_of_readArp {α : Type} {next : Arp.Packet → Handling α}
    (hnext : Arp.Packet.Framed ⟨fields.frame⟩ fields.payload → (next ⟨fields.frame⟩).InRange) :
    (liftM (readArp fields.frame) >>= next : Handling α).InRange := by
  refine .bind readArp_ne_outOfRange fun packet hread => ?_
  obtain ⟨rfl, hframed⟩ := framed_of_readArp hread
  exact hnext hframed

theorem inRange_of_op {op : Arp.Op} {cause : ProxyError} {next : Arp.Packet → Handling Unit}
    (hnext : Arp.Packet.Framed ⟨fields.frame⟩ fields.payload → (next ⟨fields.frame⟩).InRange) :
    Handling.InRange (do
      let packet ← readArp fields.frame
      let stated ← packet.op?
      if stated = some op then next packet else .refuse cause) := by
  refine inRange_of_readArp fun hframed => ?_
  obtain ⟨opcode, hopcode⟩ := Arp.Packet.exists_opcode? hframed
  refine .bind (.of_some (op?_eq hopcode)) fun stated _ => ?_
  split
  · exact hnext hframed
  · exact .of_refuse cause

theorem reply_inRange (arrival : Point) : (knowledge.reply fields.frame arrival).InRange :=
  inRange_of_op fun hframed => knowledge.resolve_inRange hframed arrival

theorem forward_inRange : (knowledge.forward fields.frame).InRange :=
  inRange_of_op fun _ => knowledge.deliver_inRange

theorem handle_inRange (arrival : Point) : (knowledge.handle fields.frame arrival).InRange := by
  have hblock : Handling.InRange (do
      .block
      return true) := nofun
  refine .bind (.of_some fields.etherType?_frame) fun etherType _ => ?_
  split
  · exact .pure false
  · refine inRange_of_readArp fun hframed => ?_
    obtain ⟨opcode, hopcode⟩ := Arp.Packet.exists_opcode? hframed
    refine .bind (.of_some hopcode) fun opcode _ => ?_
    split
    · exact .bind knowledge.forward_inRange fun _ _ => hblock
    · exact .bind (knowledge.reply_inRange arrival) fun _ _ => hblock
    · exact .bind nofun fun _ _ => hblock

end Knowledge

/-- A frame that was read or empty, and then edited, has all bytes that are ever reached for. -/
theorem Frame.Reachable.never_outOfRange {frame : Frame} (hframe : frame.Reachable)
    (knowledge : Knowledge) (arrival out : Point) :
    frame.WithinBytes ∧
      (knowledge.handle frame arrival).InRange ∧
      (knowledge.reply frame arrival).InRange ∧
      (knowledge.forward frame).InRange ∧
      (knowledge.flood frame).Succeeds ∧
      (knowledge.sendTo frame out).Succeeds := by
  refine ⟨hframe.withinBytes, ?_⟩
  obtain ⟨fields, rfl⟩ := hframe.exists_fields
  refine ⟨knowledge.handle_inRange arrival, knowledge.reply_inRange arrival,
    knowledge.forward_inRange, ?_, ?_⟩
  · exact knowledge.flood_succeeds fields.frame
  · exact knowledge.sendTo_succeeds fields.frame out

def Frame.Fields.wrapped : Frame.Fields where
  destination := .broadcast
  source := ⟨2, 0, 0, 0, 0, 1⟩
  tag := some 10
  etherType := EtherType.vlanTag
  payload := Bytes.ofWord 1 ++ Bytes.ofWord EtherType.ipv4 ++ [6, 4] ++
    Bytes.ofWord Arp.Op.request.code

def Frame.Fields.forged : Frame.Fields :=
  { Fields.wrapped with
    tag := none
    etherType := EtherType.arp
    payload := Bytes.ofWord 1 ++ Bytes.ofWord EtherType.ipv4 ++ [255, 255] ++
      Bytes.ofWord Arp.Op.request.code }

theorem Frame.Reachable.never_outOfRange_forged :
    let knowledge := (Controller.ofInventory .empty).knowledge .least
    let port : Point := ⟨⟨"a"⟩, 1⟩
    Fields.forged.frame.Reachable ∧
      (knowledge.handle Fields.forged.frame port).outcome =
        .error (.refused (.malformed .payloadAddressLengths)) ∧
      Fields.forged.frame.WithinBytes ∧
      (knowledge.handle Fields.forged.frame port).InRange ∧
      (knowledge.reply Fields.forged.frame port).InRange ∧
      (knowledge.forward Fields.forged.frame).InRange ∧
      (knowledge.flood Fields.forged.frame).Succeeds ∧
      (knowledge.sendTo Fields.forged.frame port).Succeeds := by
  have hread : Fields.wrapped.frame.Reachable :=
    .read (rfl : Frame.ofBytes Fields.wrapped.frame.bytes = .ok Fields.wrapped.frame)
  have huntagged : (Fields.frame { Fields.wrapped with tag := none }).Reachable :=
    .edited (.vlan .untagged) hread rfl
  have hlabelled :
      (Fields.frame { Fields.wrapped with tag := none, etherType := EtherType.arp }).Reachable :=
    .edited (.etherType EtherType.arp) huntagged rfl
  have hforged : Fields.forged.frame.Reachable := .edited (.write 4 [255, 255]) hlabelled rfl
  exact ⟨hforged, rfl, Frame.Reachable.never_outOfRange hforged _ _ _⟩

end FabricArp
