import FabricArp.Proofs.Arp.Writing
import FabricArp.Proofs.Ethernet.Rereading

/-! Payloads as records of ARP fields. -/

namespace FabricArp

namespace Arp

def Field.all : List Field :=
  [.hardwareType, .protocolType, .hardwareLength, .protocolLength, .opcode, .senderHardware,
    .senderProtocol, .targetHardware, .targetProtocol]

def Field.before (field : Field) : List Field :=
  all.takeWhile (· ≠ field)

def Field.behind (field : Field) : List Field :=
  (all.dropWhile (· ≠ field)).tail

theorem Field.all_eq (field : Field) : all = field.before ++ field :: field.behind := by
  cases field <;> rfl

/-- What a payload tells.  The addresses are as long as its two length bytes say. -/
structure Contents where
  hardwareType : UInt16
  protocolType : UInt16
  hardwareLength : UInt8
  protocolLength : UInt8
  opcode : UInt16
  senderHardware : Bytes
  senderProtocol : Bytes
  targetHardware : Bytes
  targetProtocol : Bytes
  padding : Bytes
  length_senderHardware : senderHardware.length = hardwareLength.toNat
  length_senderProtocol : senderProtocol.length = protocolLength.toNat
  length_targetHardware : targetHardware.length = hardwareLength.toNat
  length_targetProtocol : targetProtocol.length = protocolLength.toNat

namespace Contents

def zeros (hardwareLength protocolLength : UInt8) : Contents where
  hardwareType := 0
  protocolType := 0
  hardwareLength := hardwareLength
  protocolLength := protocolLength
  opcode := 0
  senderHardware := Bytes.zeros hardwareLength.toNat
  senderProtocol := Bytes.zeros protocolLength.toNat
  targetHardware := Bytes.zeros hardwareLength.toNat
  targetProtocol := Bytes.zeros protocolLength.toNat
  padding := []
  length_senderHardware := List.length_replicate
  length_senderProtocol := List.length_replicate
  length_targetHardware := List.length_replicate
  length_targetProtocol := List.length_replicate

variable (contents : Contents)

def layout : Layout where
  hardware := contents.hardwareLength.toNat
  protocol := contents.protocolLength.toNat

def payload : Bytes :=
  Bytes.ofWord contents.hardwareType ++ Bytes.ofWord contents.protocolType ++
    [contents.hardwareLength, contents.protocolLength] ++ Bytes.ofWord contents.opcode ++
    contents.senderHardware ++ contents.senderProtocol ++ contents.targetHardware ++
    contents.targetProtocol ++ contents.padding

def field : Field → Bytes
  | .hardwareType => Bytes.ofWord contents.hardwareType
  | .protocolType => Bytes.ofWord contents.protocolType
  | .hardwareLength => [contents.hardwareLength]
  | .protocolLength => [contents.protocolLength]
  | .opcode => Bytes.ofWord contents.opcode
  | .senderHardware => contents.senderHardware
  | .senderProtocol => contents.senderProtocol
  | .targetHardware => contents.targetHardware
  | .targetProtocol => contents.targetProtocol

theorem length_field (field : Field) :
    (contents.field field).length = contents.layout.width field := by
  cases field with
  | hardwareType | protocolType | hardwareLength | protocolLength | opcode => rfl
  | senderHardware => exact contents.length_senderHardware
  | senderProtocol => exact contents.length_senderProtocol
  | targetHardware => exact contents.length_targetHardware
  | targetProtocol => exact contents.length_targetProtocol

theorem payload_eq_flatMap :
    contents.payload = Field.all.flatMap contents.field ++ contents.padding := by
  simp [payload, Field.all, field]

theorem length_before (field : Field) :
    (field.before.flatMap contents.field).length = contents.layout.start field := by
  cases field with
  | hardwareType | protocolType | hardwareLength | protocolLength | opcode | senderHardware => rfl
  | senderProtocol =>
      change (contents.senderHardware ++ []).length + 8 = 8 + contents.hardwareLength.toNat
      rw [List.append_nil, contents.length_senderHardware]
      exact Nat.add_comm _ _
  | targetHardware =>
      change (contents.senderHardware ++ (contents.senderProtocol ++ [])).length + 8 =
        8 + contents.hardwareLength.toNat + contents.protocolLength.toNat
      rw [List.append_nil, List.length_append, contents.length_senderHardware,
        contents.length_senderProtocol]
      omega
  | targetProtocol =>
      change (contents.senderHardware ++ (contents.senderProtocol ++
          (contents.targetHardware ++ []))).length + 8 =
        8 + 2 * contents.hardwareLength.toNat + contents.protocolLength.toNat
      rw [List.append_nil, List.length_append, List.length_append,
        contents.length_senderHardware, contents.length_senderProtocol,
        contents.length_targetHardware]
      omega

theorem payload_split (field : Field) :
    contents.payload = field.before.flatMap contents.field ++ contents.field field ++
      (field.behind.flatMap contents.field ++ contents.padding) := by
  rw [payload_eq_flatMap, field.all_eq, List.flatMap_append, List.flatMap_cons]
  simp only [List.append_assoc]

theorem ofPayload_payload : Layout.ofPayload contents.payload = contents.layout :=
  rfl

theorem length_payload :
    contents.payload.length = contents.layout.size + contents.padding.length := by
  simp only [payload, List.length_append, Bytes.length_ofWord, contents.length_senderHardware,
    contents.length_senderProtocol, contents.length_targetHardware, contents.length_targetProtocol]
  simp only [layout, Layout.size, List.length_cons, List.length_nil]
  omega

theorem exists_fixedPart {payload : Bytes} (h : fixedSize ≤ payload.length) :
    ∃ (hardwareType protocolType : UInt16) (hardwareLength protocolLength : UInt8)
      (opcode : UInt16) (rest : Bytes),
      payload = Bytes.ofWord hardwareType ++ Bytes.ofWord protocolType ++
        [hardwareLength, protocolLength] ++ Bytes.ofWord opcode ++ rest := by
  match payload, h with
  | t0 :: t1 :: p0 :: p1 :: hardwareLength :: protocolLength :: o0 :: o1 :: rest, _ =>
      obtain ⟨hardwareType, htype⟩ := Bytes.exists_ofWord (rfl : [t0, t1].length = 2)
      obtain ⟨protocolType, ptype⟩ := Bytes.exists_ofWord (rfl : [p0, p1].length = 2)
      obtain ⟨opcode, hopcode⟩ := Bytes.exists_ofWord (rfl : [o0, o1].length = 2)
      refine ⟨hardwareType, protocolType, hardwareLength, protocolLength, opcode, rest, ?_⟩
      rw [htype, ptype, hopcode]
      rfl

theorem exists_addresses {bytes : Bytes} {hardware protocol : Nat}
    (h : 2 * hardware + 2 * protocol ≤ bytes.length) :
    ∃ senderHardware senderProtocol targetHardware targetProtocol padding : Bytes,
      bytes = senderHardware ++ senderProtocol ++ targetHardware ++ targetProtocol ++ padding ∧
      senderHardware.length = hardware ∧ senderProtocol.length = protocol ∧
      targetHardware.length = hardware ∧ targetProtocol.length = protocol := by
  obtain ⟨senderHardware, rest, rfl, hsender⟩ :=
    Bytes.exists_append (show hardware ≤ bytes.length by omega)
  rw [List.length_append, hsender] at h
  obtain ⟨senderProtocol, rest, rfl, hsenderProtocol⟩ :=
    Bytes.exists_append (show protocol ≤ rest.length by omega)
  rw [List.length_append, hsenderProtocol] at h
  obtain ⟨targetHardware, rest, rfl, htarget⟩ :=
    Bytes.exists_append (show hardware ≤ rest.length by omega)
  rw [List.length_append, htarget] at h
  obtain ⟨targetProtocol, padding, rfl, htargetProtocol⟩ :=
    Bytes.exists_append (show protocol ≤ rest.length by omega)
  refine ⟨senderHardware, senderProtocol, targetHardware, targetProtocol, padding, ?_,
    hsender, hsenderProtocol, htarget, htargetProtocol⟩
  simp only [List.append_assoc]

theorem exists_payload {payload : Bytes}
    (hroom : (Layout.ofPayload payload).size ≤ payload.length) :
    ∃ contents : Contents, payload = contents.payload := by
  obtain ⟨hardwareType, protocolType, hardwareLength, protocolLength, opcode, rest, rfl⟩ :=
    exists_fixedPart (Nat.le_trans (Layout.fixedSize_le_size _) hroom)
  change 8 + 2 * hardwareLength.toNat + 2 * protocolLength.toNat ≤ _ at hroom
  simp only [List.length_append, Bytes.length_ofWord, List.length_cons, List.length_nil] at hroom
  obtain ⟨senderHardware, senderProtocol, targetHardware, targetProtocol, padding, rfl, hsender,
    hsenderProtocol, htarget, htargetProtocol⟩ := exists_addresses
      (show 2 * hardwareLength.toNat + 2 * protocolLength.toNat ≤ rest.length by omega)
  refine ⟨⟨hardwareType, protocolType, hardwareLength, protocolLength, opcode, senderHardware,
    senderProtocol, targetHardware, targetProtocol, padding, hsender, hsenderProtocol, htarget,
    htargetProtocol⟩, ?_⟩
  simp only [payload, List.append_assoc]

end Contents

namespace Packet

/-- What the getters of a packet give. -/
structure Tells (packet : Packet) (contents : Contents) : Prop where
  hardwareType : packet.hardwareType? = some contents.hardwareType
  protocolType : packet.protocolType? = some contents.protocolType
  hardwareLength : packet.hardwareLength? = some contents.hardwareLength
  protocolLength : packet.protocolLength? = some contents.protocolLength
  opcode : packet.opcode? = some contents.opcode
  op : packet.op? = some (Op.ofCode contents.opcode).toOption
  senderHardware : packet.read? .senderHardware = some contents.senderHardware
  senderProtocol : packet.read? .senderProtocol = some contents.senderProtocol
  targetHardware : packet.read? .targetHardware = some contents.targetHardware
  targetProtocol : packet.read? .targetProtocol = some contents.targetProtocol
  senderMac : packet.senderMac.GivesIf (contents.hardwareLength = 6) .macLength
    (·.bytes = contents.senderHardware)
  targetMac : packet.targetMac.GivesIf (contents.hardwareLength = 6) .macLength
    (·.bytes = contents.targetHardware)
  senderIp : packet.senderIp.GivesIf (contents.protocolLength = 4) .protocolAddressLength
    (·.octets = contents.senderProtocol)
  targetIp : packet.targetIp.GivesIf (contents.protocolLength = 4) .protocolAddressLength
    (·.octets = contents.targetProtocol)

section Getters

variable {packet : Packet} {contents : Contents}

theorem read?_of_carried (hcarried : packet.frame.payload? = some contents.payload)
    (field : Field) : packet.read? field = some (contents.field field) := by
  rw [read?, hcarried]
  change contents.payload.slice? (contents.layout.start field) (contents.layout.width field) = _
  rw [contents.payload_split field]
  exact Bytes.slice?_append (contents.length_before field) (contents.length_field field)

theorem tells_of_carried (hcarried : packet.frame.payload? = some contents.payload) :
    packet.Tells contents := by
  have hread := read?_of_carried hcarried
  have hword : ∀ (field : Field) (word : UInt16), contents.field field = Bytes.ofWord word →
      (packet.read? field).bind Bytes.toWord? = some word := by
    intro field word hfield
    rw [hread, hfield]
    exact Bytes.toWord?_ofWord word
  have hbyte : ∀ (field : Field) (byte : UInt8), contents.field field = [byte] →
      (packet.read? field).bind List.head? = some byte := by
    intro field byte hfield
    rw [hread, hfield]
    rfl
  have hopcode : packet.opcode? = some contents.opcode := hword .opcode _ rfl
  have hprotocol : packet.protocolLength? = some contents.protocolLength :=
    hbyte .protocolLength _ rfl
  constructor
  case hardwareType => exact hword .hardwareType _ rfl
  case protocolType => exact hword .protocolType _ rfl
  case hardwareLength => exact hbyte .hardwareLength _ rfl
  case protocolLength => exact hprotocol
  case opcode => exact hopcode
  case op =>
    rw [op?, hopcode]
    rfl
  case senderHardware | senderProtocol | targetHardware | targetProtocol => exact hread _
  case senderMac => exact hardwareAddress_givesIf (hread _) contents.length_senderHardware
  case targetMac => exact hardwareAddress_givesIf (hread _) contents.length_targetHardware
  case senderIp =>
    exact protocolAddress_givesIf (hread _) hprotocol contents.length_senderProtocol
  case targetIp =>
    exact protocolAddress_givesIf (hread _) hprotocol contents.length_targetProtocol

theorem framed_of_carried (hannounced : packet.frame.etherType? = some EtherType.arp)
    (hcarried : packet.frame.payload? = some contents.payload) :
    packet.Framed contents.payload where
  announced := hannounced
  carried := hcarried
  room := by
    rw [contents.ofPayload_payload, contents.length_payload]
    exact Nat.le_add_right _ _

end Getters

theorem exists_ofFrame_iff {frame : Frame} {etherType : UInt16} {payload : Bytes}
    (hetherType : frame.etherType? = some etherType) (hpayload : frame.payload? = some payload) :
    (∃ packet, ofFrame frame = .ok packet) ↔
      etherType = EtherType.arp ∧ ∃ hardware protocol,
        payload[4]? = some hardware ∧ payload[5]? = some protocol ∧ 8 ≤ payload.length ∧
          8 + 2 * hardware.toNat + 2 * protocol.toNat ≤ payload.length := by
  constructor
  · rintro ⟨packet, haccepted⟩
    obtain ⟨rfl, hframed⟩ := framed_of_ofFrame hetherType hpayload haccepted
    have hannounced := Option.some.inj (hetherType.symm.trans hframed.announced)
    obtain ⟨contents, rfl⟩ := Contents.exists_payload hframed.room
    have hroom : 8 + 2 * contents.hardwareLength.toNat + 2 * contents.protocolLength.toNat ≤
        contents.payload.length := hframed.room
    exact ⟨hannounced, contents.hardwareLength, contents.protocolLength, rfl, rfl, by omega, hroom⟩
  · rintro ⟨rfl, hardware, protocol, hhardware, hprotocol, -, hroom⟩
    have hlayout : Layout.ofPayload payload = ⟨hardware.toNat, protocol.toNat⟩ := by
      rw [Layout.ofPayload, List.getD_eq_getElem?_getD, List.getD_eq_getElem?_getD,
        Layout.hardwareLengthOffset, Layout.protocolLengthOffset, hhardware, hprotocol]
      rfl
    have hframed : Framed ⟨frame⟩ payload := ⟨hetherType, hpayload, by rw [hlayout]; exact hroom⟩
    exact ⟨⟨frame⟩, ofFrame_of_framed hframed⟩

section Blank

variable (hardwareLength protocolLength : UInt8)

theorem payload_zeros :
    (Contents.zeros hardwareLength protocolLength).payload =
      Bytes.zeros 4 ++ [hardwareLength] ++ [protocolLength] ++
        Bytes.zeros (Layout.size ⟨hardwareLength.toNat, protocolLength.toNat⟩ - 6) := by
  have hsize : Layout.size ⟨hardwareLength.toNat, protocolLength.toNat⟩ - 6 =
      2 + hardwareLength.toNat + protocolLength.toNat + hardwareLength.toNat +
        protocolLength.toNat := by
    simp only [Layout.size]
    omega
  rw [hsize]
  simp only [Contents.payload, Contents.zeros, Bytes.zeros, ← List.replicate_append_replicate,
    List.append_nil, List.append_assoc]
  rfl

theorem zeroed_eq (hardwareType protocolType : UInt16) :
    zeroed hardwareType protocolType hardwareLength protocolLength =
      ⟨Frame.Fields.frame ⟨.zero, .zero, none, EtherType.arp,
        Bytes.ofWord hardwareType ++ Bytes.ofWord protocolType ++
          ([hardwareLength, protocolLength] ++
            Bytes.zeros (Layout.size ⟨hardwareLength.toNat, protocolLength.toNat⟩ - 6))⟩⟩ :=
  congrArg Packet.mk (Frame.assemble_eq_frame _ _ .untagged _ _)

theorem frame_blank :
    (blank hardwareLength protocolLength).frame =
      Frame.Fields.frame ⟨.zero, .zero, none, EtherType.arp,
        (Contents.zeros hardwareLength protocolLength).payload⟩ := by
  rw [payload_zeros, blank, zeroed_eq]
  rfl

theorem setHardwareType?_zeroed (hardwareType protocolType type : UInt16) :
    (zeroed hardwareType protocolType hardwareLength protocolLength).setHardwareType? type =
      some (zeroed type protocolType hardwareLength protocolLength) := by
  let around (word : UInt16) : Packet :=
    ⟨Frame.Fields.frame ⟨.zero, .zero, none, EtherType.arp,
      [] ++ Bytes.ofWord word ++ (Bytes.ofWord protocolType ++
        ([hardwareLength, protocolLength] ++
          Bytes.zeros (Layout.size ⟨hardwareLength.toNat, protocolLength.toNat⟩ - 6)))⟩⟩
  have hwritten : setHardwareType? (around hardwareType) type = some (around type) :=
    write?_frame rfl rfl rfl rfl
  rw [zeroed_eq, zeroed_eq]
  exact hwritten

theorem setProtocolType?_zeroed (hardwareType protocolType type : UInt16) :
    (zeroed hardwareType protocolType hardwareLength protocolLength).setProtocolType? type =
      some (zeroed hardwareType type hardwareLength protocolLength) := by
  rw [zeroed_eq, zeroed_eq]
  exact write?_frame rfl rfl rfl rfl

/-- The empty frame, after its ether type, a payload of zeros and the two lengths were set. -/
def lengthened? : Option Packet := do
  let frame ← Frame.empty.setEtherType? EtherType.arp
  let layout : Layout := ⟨hardwareLength.toNat, protocolLength.toNat⟩
  let packet ← setHardwareLength? ⟨frame.setPayload (Bytes.zeros layout.size)⟩ hardwareLength
  packet.setProtocolLength? protocolLength

theorem lengthened?_eq_blank :
    lengthened? hardwareLength protocolLength = some (blank hardwareLength protocolLength) := by
  let layout : Layout := ⟨hardwareLength.toNat, protocolLength.toNat⟩
  let rest := Bytes.zeros (layout.size - 6)
  let around (payload : Bytes) : Packet :=
    ⟨Frame.Fields.frame ⟨.zero, .zero, none, EtherType.arp, payload⟩⟩
  have hsize : layout.size = 4 + (1 + (1 + (layout.size - 6))) := by
    simp only [Layout.size]
    omega
  have hzeros : Bytes.zeros layout.size = Bytes.zeros 4 ++ [0] ++ ([0] ++ rest) :=
    calc Bytes.zeros layout.size
      _ = Bytes.zeros (4 + (1 + (1 + (layout.size - 6)))) := congrArg Bytes.zeros hsize
      _ = Bytes.zeros 4 ++ [0] ++ ([0] ++ rest) := by
          simp only [Bytes.zeros, ← List.replicate_append_replicate]
          rfl
  have hfirst : setHardwareLength? (around (Bytes.zeros 4 ++ [0] ++ ([0] ++ rest)))
      hardwareLength = some (around (Bytes.zeros 4 ++ [hardwareLength] ++ ([0] ++ rest))) :=
    write?_frame rfl rfl rfl rfl
  have hsecond : setProtocolLength? (around (Bytes.zeros 4 ++ [hardwareLength] ++ [0] ++ rest))
      protocolLength =
        some (around (Bytes.zeros 4 ++ [hardwareLength] ++ [protocolLength] ++ rest)) :=
    write?_frame rfl rfl rfl rfl
  change (setHardwareLength? (around (Bytes.zeros layout.size)) hardwareLength).bind
    (setProtocolLength? · protocolLength) = _
  rw [hzeros, hfirst, Option.bind_some, ← List.append_assoc, hsecond]
  exact congrArg (some ∘ Packet.mk) (Frame.assemble_eq_frame _ _ .untagged _ _).symm

end Blank

theorem blankIpv4_eq_setters :
    (do
      let packet ← lengthened? 6 4
      let packet ← packet.setHardwareType? 1
      packet.setProtocolType? EtherType.ipv4) = some blankIpv4 := by
  simp only [lengthened?_eq_blank, blank, Option.bind_eq_bind, Option.bind_some,
    setHardwareType?_zeroed, setProtocolType?_zeroed, blankIpv4]

end Packet

/-- A frame that was read is accepted if and only if it announces ARP and has room for the
addresses whose lengths it states; the getters then give its payload piece by piece. -/
theorem accepted_iff_contents :
    (∀ (bytes : Bytes) (frame : Frame), Frame.ofBytes bytes = .ok frame →
      ∃ payload, frame.payload? = some payload ∧
        ((∃ packet, Packet.ofFrame frame = .ok packet) ↔
          frame.etherType? = some EtherType.arp ∧ ∃ hardware protocol,
            payload[4]? = some hardware ∧ payload[5]? = some protocol ∧ 8 ≤ payload.length ∧
              8 + 2 * hardware.toNat + 2 * protocol.toNat ≤ payload.length) ∧
        ∀ packet, Packet.ofFrame frame = .ok packet →
          packet = ⟨frame⟩ ∧
            ∃ contents : Contents, payload = contents.payload ∧ packet.Tells contents) ∧
    ∀ hardwareLength protocolLength,
      let packet := Packet.blank hardwareLength protocolLength
      let contents := Contents.zeros hardwareLength protocolLength
      Packet.lengthened? hardwareLength protocolLength = some packet ∧
        Frame.ofBytes packet.frame.bytes = .ok packet.frame ∧
        Packet.ofFrame packet.frame = .ok packet ∧
        packet.frame.payload? = some contents.payload ∧ packet.Tells contents := by
  constructor
  · intro bytes frame hread
    obtain ⟨fields, rfl, -, -⟩ := Frame.exists_fields hread
    have hetherType := fields.etherType?_frame
    have hpayload := fields.payload?_frame
    refine ⟨fields.payload, hpayload, ?_, ?_⟩
    · rw [Packet.exists_ofFrame_iff hetherType hpayload, hetherType, Option.some.injEq]
    · intro packet haccepted
      obtain ⟨rfl, hframed⟩ := Packet.framed_of_ofFrame hetherType hpayload haccepted
      obtain ⟨contents, hcontents⟩ := Contents.exists_payload hframed.room
      rw [hcontents] at hpayload
      exact ⟨rfl, contents, hcontents, Packet.tells_of_carried hpayload⟩
  · intro hardwareLength protocolLength packet contents
    have hframe := Packet.frame_blank hardwareLength protocolLength
    have hannounced : packet.frame.etherType? = some EtherType.arp := by
      rw [hframe, Frame.Fields.etherType?_frame]
    have hcarried : packet.frame.payload? = some contents.payload := by
      rw [hframe, Frame.Fields.payload?_frame]
    refine ⟨Packet.lengthened?_eq_blank _ _, ?_,
      Packet.ofFrame_of_framed (Packet.framed_of_carried hannounced hcarried), hcarried,
      Packet.tells_of_carried hcarried⟩
    rw [hframe]
    exact Frame.Fields.ofBytes_frame_of_arp rfl

def Contents.uneven : Contents :=
  { Contents.zeros 0 16 with opcode := 9, padding := [1, 2, 3] }

end Arp

def Frame.Fields.uneven : Frame.Fields :=
  ⟨.broadcast, ⟨2, 0, 0, 0, 0, 1⟩, some 0xa00a, EtherType.arp, Arp.Contents.uneven.payload⟩

theorem Arp.accepted_iff_contents_uneven :
    let frame := Frame.Fields.uneven.frame
    Frame.ofBytes frame.bytes = .ok frame ∧
      ∃ packet contents, Packet.ofFrame frame = .ok packet ∧
        frame.payload? = some (Contents.payload contents) ∧ packet.Tells contents := by
  intro frame
  have hread : Frame.ofBytes frame.bytes = .ok frame := rfl
  obtain ⟨payload, hpayload, haccepted, htells⟩ := accepted_iff_contents.1 _ _ hread
  obtain rfl : Contents.uneven.payload = payload := Option.some.inj hpayload
  have hroom : 8 + 2 * 0 + 2 * 16 ≤ Contents.uneven.payload.length := by decide
  obtain ⟨packet, hpacket⟩ := haccepted.mpr ⟨rfl, 0, 16, rfl, rfl, by omega, hroom⟩
  obtain ⟨-, contents, hcontents, hcontents_tells⟩ := htells packet hpacket
  exact ⟨hread, packet, contents, hpacket, hpayload.trans (congrArg some hcontents),
    hcontents_tells⟩

end FabricArp
