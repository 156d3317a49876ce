import FabricArp.Proofs.Arp.Assigning
import FabricArp.Proofs.Ethernet.Independence

namespace FabricArp.Arp

/-- One call of a setter, of a packet or of the frame around it. -/
inductive Setting where
  | field (assignment : Assignment)
  | destination (mac : Mac)
  | source (mac : Mac)
  | vlan (vlan : Vlan)
deriving DecidableEq

inductive Slot where
  | field (field : Field)
  | padding
  | destination
  | source
  | vlan
  | etherType
deriving DecidableEq

def Setting.slot : Setting → Slot
  | .field assignment => .field assignment.field
  | .destination _ => .destination
  | .source _ => .source
  | .vlan _ => .vlan

namespace Packet

def set? (packet : Packet) : Setting → Option Packet
  | .field assignment => packet.assign? assignment
  | .destination mac => (packet.frame.setDestination? mac).map mk
  | .source mac => (packet.frame.setSource? mac).map mk
  | .vlan vlan => (packet.frame.setVlan? vlan).map mk

/-- What is there after a setter, whether it went through or not. -/
def attempt (packet : Packet) (setting : Setting) : Packet :=
  (packet.set? setting).getD packet

def Admits (packet : Packet) : Setting → Prop
  | .field (.senderMac _) | .field (.targetMac _) => packet.hardwareLength? = some 6
  | .field (.senderIp _) | .field (.targetIp _) => packet.protocolLength? = some 4
  | _ => True

def padding? (packet : Packet) : Option Bytes :=
  packet.frame.payload?.map fun payload => payload.drop (Layout.ofPayload payload).size

/-- All getters of a slot give the same for both packets. -/
def AlikeAt (left right : Packet) : Slot → Prop
  | .field .hardwareType => left.hardwareType? = right.hardwareType?
  | .field .protocolType => left.protocolType? = right.protocolType?
  | .field .hardwareLength => left.hardwareLength? = right.hardwareLength?
  | .field .protocolLength => left.protocolLength? = right.protocolLength?
  | .field .opcode => left.opcode? = right.opcode? ∧ left.op? = right.op?
  | .field .senderHardware => left.read? .senderHardware = right.read? .senderHardware ∧
      left.senderMac = right.senderMac
  | .field .senderProtocol => left.read? .senderProtocol = right.read? .senderProtocol ∧
      left.senderIp = right.senderIp
  | .field .targetHardware => left.read? .targetHardware = right.read? .targetHardware ∧
      left.targetMac = right.targetMac
  | .field .targetProtocol => left.read? .targetProtocol = right.read? .targetProtocol ∧
      left.targetIp = right.targetIp
  | .padding => left.padding? = right.padding?
  | .destination => left.frame.AlikeIn right.frame .destination
  | .source => left.frame.AlikeIn right.frame .source
  | .vlan => left.frame.AlikeIn right.frame .vlan
  | .etherType => left.frame.AlikeIn right.frame .etherType

/-- The getter of what was set gives the value that it was set to. -/
def Shows (packet : Packet) : Setting → Prop
  | .field (.hardwareType word) => packet.hardwareType? = some word
  | .field (.protocolType word) => packet.protocolType? = some word
  | .field (.opcode word) =>
      packet.opcode? = some word ∧ packet.op? = some (Op.ofCode word).toOption
  | .field (.senderMac mac) =>
      packet.read? .senderHardware = some mac.bytes ∧ packet.senderMac = .ok mac
  | .field (.senderIp ip) =>
      packet.read? .senderProtocol = some ip.octets ∧ packet.senderIp = .ok ip
  | .field (.targetMac mac) =>
      packet.read? .targetHardware = some mac.bytes ∧ packet.targetMac = .ok mac
  | .field (.targetIp ip) =>
      packet.read? .targetProtocol = some ip.octets ∧ packet.targetIp = .ok ip
  | .destination mac => packet.frame.destination? = some mac
  | .source mac => packet.frame.source? = some mac
  | .vlan vlan => packet.frame.vlan? = some vlan

theorem hardwareAddress_of_read? {packet : Packet} {field : Field} {mac : Mac}
    (h : packet.read? field = some mac.bytes) : packet.hardwareAddress field = .ok mac := by
  rw [hardwareAddress, h]
  rfl

theorem protocolAddress_of_read? {packet : Packet} {field : Field} {ip : Ip}
    (h : packet.read? field = some ip.octets) (hlength : packet.protocolLength? = some 4) :
    packet.protocolAddress field = .ok ip := by
  rw [protocolAddress, h, hlength]
  rfl

theorem alikeAt_field {left right : Packet} {field : Field}
    (hread : left.read? field = right.read? field)
    (hlength : left.protocolLength? = right.protocolLength?) :
    left.AlikeAt right (.field field) := by
  cases field with
  | hardwareType => simp only [AlikeAt, hardwareType?, hread]
  | protocolType => simp only [AlikeAt, protocolType?, hread]
  | hardwareLength => simp only [AlikeAt, hardwareLength?, hread]
  | protocolLength => exact hlength
  | opcode => simp only [AlikeAt, op?, opcode?, hread, and_self]
  | senderHardware => simp only [AlikeAt, senderMac, hardwareAddress, hread, and_self]
  | senderProtocol => simp only [AlikeAt, senderIp, protocolAddress, hread, hlength, and_self]
  | targetHardware => simp only [AlikeAt, targetMac, hardwareAddress, hread, and_self]
  | targetProtocol => simp only [AlikeAt, targetIp, protocolAddress, hread, hlength, and_self]

end Packet

/-- What a packet tells together with the frame around it. -/
structure Message where
  destination : Mac
  source : Mac
  tag : Option UInt16
  contents : Contents

namespace Message

def fields (message : Message) : Frame.Fields where
  destination := message.destination
  source := message.source
  tag := message.tag
  etherType := EtherType.arp
  payload := message.contents.payload

def packet (message : Message) : Packet :=
  ⟨message.fields.frame⟩

def Fits (message : Message) : Setting → Prop
  | .field assignment => message.contents.Fits assignment
  | .destination _ | .source _ | .vlan _ => True

instance (message : Message) : DecidablePred message.Fits
  | .field assignment => inferInstanceAs (Decidable (message.contents.Fits assignment))
  | .destination _ | .source _ | .vlan _ => .isTrue trivial

def put (message : Message) : Setting → Message
  | .field assignment => { message with contents := message.contents.put assignment }
  | .destination mac => { message with destination := mac }
  | .source mac => { message with source := mac }
  | .vlan vlan => { message with tag := Frame.Fields.retag message.tag vlan }

variable (message : Message) (setting : Setting)

theorem tells_packet : message.packet.Tells message.contents :=
  Packet.tells_of_carried message.fields.payload?_frame

theorem read?_packet (field : Field) :
    message.packet.read? field = some (message.contents.field field) :=
  Packet.read?_of_carried message.fields.payload?_frame field

theorem padding?_packet : message.packet.padding? = some message.contents.padding := by
  have hpayload : message.packet.frame.payload? = some message.contents.payload :=
    message.fields.payload?_frame
  have hlength := message.contents.length_payload
  rw [Packet.padding?, hpayload, Option.map_some, Contents.ofPayload_payload]
  rw [Contents.payload_eq_flatMap, List.length_append, Nat.add_right_cancel_iff] at hlength
  rw [Contents.payload_eq_flatMap, List.drop_left' hlength]

theorem ofBytes_packet :
    Frame.ofBytes message.packet.frame.bytes = .ok message.packet.frame :=
  Frame.Fields.ofBytes_frame_of_arp rfl

theorem ofFrame_packet : Packet.ofFrame message.packet.frame = .ok message.packet :=
  Packet.ofFrame_of_framed
    (Packet.framed_of_carried message.fields.etherType?_frame message.fields.payload?_frame)

theorem exists_packet {bytes : Bytes} {frame : Frame} {packet : Packet}
    (hread : Frame.ofBytes bytes = .ok frame) (haccepted : Packet.ofFrame frame = .ok packet) :
    ∃ message : Message, packet = message.packet := by
  obtain ⟨⟨destination, source, tag, etherType, payload⟩, rfl, -, -⟩ :=
    Frame.exists_fields hread
  obtain ⟨rfl, hframed⟩ := Packet.framed_of_ofFrame
    (Frame.Fields.etherType?_frame _) (Frame.Fields.payload?_frame _) haccepted
  obtain ⟨contents, rfl⟩ := Contents.exists_payload hframed.room
  have hannounced := hframed.announced
  rw [Frame.Fields.etherType?_frame, Option.some.injEq] at hannounced
  cases hannounced
  exact ⟨⟨destination, source, tag, contents⟩, rfl⟩

theorem admits_packet_iff : message.packet.Admits setting ↔ message.Fits setting := by
  have hhardware : message.packet.hardwareLength? = some 6 ↔
      6 = message.contents.hardwareLength.toNat := by
    rw [message.tells_packet.hardwareLength, Option.some.injEq, ← UInt8.toNat_inj]
    exact eq_comm
  have hprotocol : message.packet.protocolLength? = some 4 ↔
      4 = message.contents.protocolLength.toNat := by
    rw [message.tells_packet.protocolLength, Option.some.injEq, ← UInt8.toNat_inj]
    exact eq_comm
  cases setting with
  | destination _ | source _ | vlan _ => exact Iff.rfl
  | field assignment =>
      cases assignment with
      | hardwareType _ | protocolType _ | opcode _ => exact iff_of_true trivial rfl
      | senderMac _ | targetMac _ => exact hhardware
      | senderIp _ | targetIp _ => exact hprotocol

theorem put_of_not_fits (h : ¬message.Fits setting) : message.put setting = message := by
  cases setting with
  | destination _ | source _ | vlan _ => exact absurd trivial h
  | field assignment => rw [put, message.contents.put_of_not_fits assignment h]

theorem fits_put (other : Setting) : (message.put setting).Fits other ↔ message.Fits other := by
  cases other with
  | destination _ | source _ | vlan _ => exact Iff.rfl
  | field other =>
      cases setting with
      | destination _ | source _ | vlan _ => exact Iff.rfl
      | field assignment => exact message.contents.fits_put assignment other

theorem put_comm {first second : Setting} (h : first.slot ≠ second.slot) :
    (message.put first).put second = (message.put second).put first := by
  cases first with
  | destination _ | source _ | vlan _ => cases second <;> first | rfl | exact absurd rfl h
  | field assignment =>
      cases second with
      | destination _ | source _ | vlan _ => rfl
      | field other =>
          have hfield : assignment.field ≠ other.field :=
            fun hsame => h (congrArg Slot.field hsame)
          rw [put, put, put, put, message.contents.put_comm hfield]

theorem set?_packet :
    message.packet.set? setting =
      if message.Fits setting then some (message.put setting).packet else none := by
  cases setting with
  | field assignment => exact Packet.assign?_frame rfl assignment
  | destination mac =>
      exact congrArg (Option.map Packet.mk) (message.fields.setDestination?_frame mac)
  | source mac => exact congrArg (Option.map Packet.mk) (message.fields.setSource?_frame mac)
  | vlan vlan => exact congrArg (Option.map Packet.mk) (message.fields.setVlan?_frame vlan)

theorem attempt_packet : message.packet.attempt setting = (message.put setting).packet := by
  rw [Packet.attempt, set?_packet]
  split
  · rfl
  · rename_i hforeign
    rw [message.put_of_not_fits setting hforeign, Option.getD_none]

theorem shows_put (h : message.Fits setting) : (message.put setting).packet.Shows setting := by
  cases setting with
  | destination mac => exact Frame.Fields.destination?_frame _
  | source mac => exact Frame.Fields.source?_frame _
  | vlan vlan =>
      exact (Frame.Fields.vlan?_frame _).trans (congrArg some (message.fields.vlan_retag vlan))
  | field assignment =>
      have hread : (message.put (.field assignment)).packet.read? assignment.field =
          some assignment.bytes := by
        rw [read?_packet]
        exact congrArg some (message.contents.field_put_self assignment h)
      have hlength := (admits_packet_iff (message.put (.field assignment)) (.field assignment)).mpr
        ((message.fits_put (.field assignment) (.field assignment)).mpr h)
      cases assignment with
      | hardwareType word | protocolType word =>
          exact (congrArg (Option.bind · Bytes.toWord?) hread).trans (Bytes.toWord?_ofWord word)
      | opcode word =>
          have hopcode : (message.put (.field (.opcode word))).packet.opcode? = some word :=
            (congrArg (Option.bind · Bytes.toWord?) hread).trans (Bytes.toWord?_ofWord word)
          refine ⟨hopcode, ?_⟩
          rw [Packet.op?, hopcode]
          rfl
      | senderMac mac | targetMac mac => exact ⟨hread, Packet.hardwareAddress_of_read? hread⟩
      | senderIp ip | targetIp ip =>
          exact ⟨hread, Packet.protocolAddress_of_read? hread hlength⟩

theorem field_put_of_ne {field : Field} (h : Slot.field field ≠ setting.slot) :
    (message.put setting).contents.field field = message.contents.field field := by
  cases setting with
  | destination _ | source _ | vlan _ => rfl
  | field assignment =>
      exact message.contents.field_put_of_ne assignment fun hsame => h (congrArg Slot.field hsame)

theorem protocolLength_put :
    (message.put setting).packet.protocolLength? = message.packet.protocolLength? := by
  have hfield : Slot.field .protocolLength ≠ setting.slot := by
    cases setting with
    | destination _ | source _ | vlan _ => exact Slot.noConfusion
    | field assignment => cases assignment <;> exact fun h => Field.noConfusion (Slot.field.inj h)
  rw [Packet.protocolLength?, Packet.protocolLength?, read?_packet, read?_packet,
    field_put_of_ne message setting hfield]

theorem alikeAt_put {slot : Slot} (h : slot ≠ setting.slot) :
    (message.put setting).packet.AlikeAt message.packet slot := by
  cases slot with
  | field field =>
      refine Packet.alikeAt_field ?_ (message.protocolLength_put setting)
      rw [read?_packet, read?_packet, message.field_put_of_ne setting h]
  | padding =>
      rw [Packet.AlikeAt, padding?_packet, padding?_packet]
      cases setting with
      | destination _ | source _ | vlan _ => rfl
      | field assignment => exact congrArg some (message.contents.padding_put assignment)
  | destination | source | vlan | etherType =>
      rw [Packet.AlikeAt]
      refine Frame.Fields.alikeIn_frame ?_
      cases setting <;> first | rfl | exact absurd rfl h

theorem foldl_attempt_packet (settings : List Setting) :
    settings.foldl Packet.attempt message.packet = (settings.foldl put message).packet := by
  induction settings generalizing message with
  | nil => rfl
  | cons setting rest ih =>
      rw [List.foldl_cons, List.foldl_cons, attempt_packet, ih]

theorem foldlM_set?_packet (settings : List Setting) :
    settings.foldlM Packet.set? message.packet =
      if ∀ setting ∈ settings, message.Fits setting then
        some (settings.foldl put message).packet
      else none := by
  induction settings generalizing message with
  | nil => rfl
  | cons setting rest ih =>
      rw [List.foldlM_cons, set?_packet]
      simp only [List.forall_mem_cons]
      split
      · rename_i hfits
        refine (ih (message.put setting)).trans ?_
        simp only [fits_put, hfits, true_and, List.foldl_cons]
      · rename_i hforeign
        rw [if_neg fun hall => hforeign hall.1]
        rfl

section Order

variable {first second : List Setting} (hperm : first.Perm second)
  (hslots : ∀ left ∈ first, ∀ right ∈ first, left.slot = right.slot → left = right)
include hperm hslots

theorem foldl_put_perm : first.foldl put message = second.foldl put message := by
  refine hperm.foldl_eq' (fun left hleft right hright between => ?_) message
  rcases Decidable.em (left = right) with rfl | hdiffer
  · rfl
  · exact between.put_comm fun hsame => hdiffer (hslots left hleft right hright hsame)

theorem foldlM_set?_perm :
    first.foldlM Packet.set? message.packet = second.foldlM Packet.set? message.packet := by
  rw [foldlM_set?_packet, foldlM_set?_packet, message.foldl_put_perm hperm hslots]
  simp only [hperm.mem_iff]

end Order

end Message

theorem Packet.foldlM_set?_pair (packet : Packet) (first second : Setting) :
    [first, second].foldlM Packet.set? packet = (packet.set? first).bind (·.set? second) := by
  simp only [List.foldlM_cons, List.foldlM_nil, bind_pure]
  rfl

/-- An accepted packet takes every value of the length that it states and gives it back; all other
slots stay, and settings of different slots may come in any order. -/
theorem settings_independent {bytes : Bytes} {frame : Frame} {packet : Packet}
    (hread : Frame.ofBytes bytes = .ok frame) (haccepted : Packet.ofFrame frame = .ok packet) :
    (∀ setting, packet.Admits setting → ∃ next, packet.set? setting = some next ∧
      packet.attempt setting = next ∧
      Frame.ofBytes next.frame.bytes = .ok next.frame ∧ Packet.ofFrame next.frame = .ok next ∧
      next.Shows setting ∧ ∀ slot, slot ≠ setting.slot → next.AlikeAt packet slot) ∧
    (∀ setting, ¬packet.Admits setting →
      packet.set? setting = none ∧ packet.attempt setting = packet) ∧
    (∀ first second : Setting, first.slot ≠ second.slot →
      (packet.set? first).bind (·.set? second) = (packet.set? second).bind (·.set? first)) ∧
    ∀ first second : List Setting, first.Perm second →
      (∀ left ∈ first, ∀ right ∈ first, left.slot = right.slot → left = right) →
      first.foldlM Packet.set? packet = second.foldlM Packet.set? packet ∧
        first.foldl Packet.attempt packet = second.foldl Packet.attempt packet := by
  obtain ⟨message, rfl⟩ := Message.exists_packet hread haccepted
  refine ⟨?_, ?_, ?_, ?_⟩
  · intro setting hadmits
    have hfits := (message.admits_packet_iff setting).mp hadmits
    exact ⟨_, (message.set?_packet setting).trans (if_pos hfits), message.attempt_packet setting,
      Message.ofBytes_packet _,
      Message.ofFrame_packet _, message.shows_put setting hfits,
      fun slot hslot => message.alikeAt_put setting hslot⟩
  · intro setting hforeign
    rw [message.admits_packet_iff] at hforeign
    rw [message.set?_packet, if_neg hforeign, message.attempt_packet,
      message.put_of_not_fits setting hforeign]
    exact ⟨rfl, rfl⟩
  · intro first second hslots
    rw [← Packet.foldlM_set?_pair, ← Packet.foldlM_set?_pair]
    refine message.foldlM_set?_perm (List.Perm.swap second first []) ?_
    intro left hleft right hright hsame
    rcases List.mem_pair.mp hleft with rfl | rfl <;> rcases List.mem_pair.mp hright with rfl | rfl
    · rfl
    · exact absurd hsame hslots
    · exact absurd hsame.symm hslots
    · rfl
  · intro first second hperm hslots
    rw [message.foldl_attempt_packet, message.foldl_attempt_packet,
      message.foldl_put_perm hperm hslots]
    exact ⟨message.foldlM_set?_perm hperm hslots, rfl⟩

def Message.mixed : Message where
  destination := .broadcast
  source := ⟨2, 0, 0, 0, 0, 1⟩
  tag := some 0xa00a
  contents := { Contents.zeros 6 16 with padding := [1, 2, 3] }

theorem settings_independent_mixed :
    let packet := Message.mixed.packet
    let tagging := Setting.vlan (.tagged 20)
    let naming := Setting.field (.senderMac .broadcast)
    let foreign := Setting.field (.senderIp ⟨10, 0, 0, 1⟩)
    Frame.ofBytes packet.frame.bytes = .ok packet.frame ∧
      Packet.ofFrame packet.frame = .ok packet ∧
      (∃ next, packet.set? naming = some next ∧ next.Shows naming ∧
        next.AlikeAt packet .padding ∧ next.AlikeAt packet .vlan) ∧
      packet.set? foreign = none ∧
      [tagging, naming].foldlM Packet.set? packet = [naming, tagging].foldlM Packet.set? packet ∧
      [tagging, foreign, naming].foldl Packet.attempt packet =
        [foreign, tagging, naming].foldl Packet.attempt packet := by
  intro packet tagging naming foreign
  have hread : Frame.ofBytes packet.frame.bytes = .ok packet.frame := rfl
  have haccepted : Packet.ofFrame packet.frame = .ok packet := rfl
  have hforeign : Message.mixed.packet.protocolLength? ≠ some 4 := by decide
  obtain ⟨htaken, hrefused, -, horder⟩ := settings_independent hread haccepted
  obtain ⟨next, hnext, -, -, -, hshows, halike⟩ := htaken naming rfl
  refine ⟨hread, haccepted, ⟨next, hnext, hshows, halike _ (by decide), halike _ (by decide)⟩,
    (hrefused foreign hforeign).1, (horder _ _ (List.Perm.swap _ _ _) (by decide)).1,
    (horder _ _ (List.Perm.swap _ _ _) (by decide)).2⟩

end FabricArp.Arp
