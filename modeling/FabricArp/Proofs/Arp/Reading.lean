import FabricArp.Arp.Packet

/-! Reading a packet that was accepted. -/

namespace FabricArp

/-- Gives a value as described under the condition, and refuses for this cause without it. -/
def Outcome.GivesIf {ε α : Type} (outcome : Outcome ε α) (condition : Prop) (cause : ε)
    (described : α → Prop) : Prop :=
  (condition → ∃ value, outcome = .ok value ∧ described value) ∧
    (¬condition → outcome = .error (.refused cause))

namespace Arp

theorem Layout.start_add_width_le_size (layout : Layout) (field : Field) :
    layout.start field + layout.width field ≤ layout.size := by
  cases field <;> simp only [start, width, size, hardwareLengthOffset, protocolLengthOffset] <;>
    omega

theorem Layout.fixedSize_le_size (layout : Layout) : fixedSize ≤ layout.size := by
  rw [fixedSize, size]
  omega

theorem Op.eq_code_of_ofCode {code : UInt16} {op : Op} (h : (ofCode code).toOption = some op) :
    code = op.code := by
  rw [ofCode] at h
  split at h
  · cases h
    assumption
  split at h
  · cases h
    assumption
  · cases h

namespace Packet

/-- The frame announces ARP, and its payload has room for all fields of the layout it states. -/
structure Framed (packet : Packet) (payload : Bytes) : Prop where
  announced : packet.frame.etherType? = some EtherType.arp
  carried : packet.frame.payload? = some payload
  room : (Layout.ofPayload payload).size ≤ payload.length

theorem ofFrame_eq {frame : Frame} {etherType : UInt16} {payload : Bytes}
    (hetherType : frame.etherType? = some etherType) (hpayload : frame.payload? = some payload) :
    ofFrame frame =
      if etherType ≠ EtherType.arp then .error (.refused .etherTypeNotArp)
      else if payload.length < fixedSize then .error (.refused .payloadLength)
      else if payload.length < (Layout.ofPayload payload).size then
        .error (.refused .payloadAddressLengths)
      else .ok ⟨frame⟩ := by
  unfold ofFrame
  rw [hetherType, hpayload]
  change (if etherType ≠ EtherType.arp then _ else _) = _
  split
  · rfl
  · change (if payload.length < fixedSize then _ else _) = _
    split
    · rfl
    · split <;> rfl

theorem framed_of_ofFrame {frame : Frame} {etherType : UInt16} {payload : Bytes}
    {packet : Packet} (hetherType : frame.etherType? = some etherType)
    (hpayload : frame.payload? = some payload) (h : ofFrame frame = .ok packet) :
    packet = ⟨frame⟩ ∧ packet.Framed payload := by
  rw [ofFrame_eq hetherType hpayload] at h
  split at h
  · cases h
  split at h
  · cases h
  split at h
  · cases h
  rename_i hannounced _ hroom
  cases h
  refine ⟨rfl, ?_, hpayload, Nat.le_of_not_lt hroom⟩
  rw [hetherType, Decidable.not_not.mp hannounced]

theorem ofFrame_of_framed {frame : Frame} {payload : Bytes}
    (hframed : Framed ⟨frame⟩ payload) : ofFrame frame = .ok ⟨frame⟩ := by
  have hroom := hframed.room
  have hfixed := Nat.le_trans (Layout.fixedSize_le_size _) hroom
  rw [ofFrame_eq hframed.announced hframed.carried, if_neg (not_not_intro rfl),
    if_neg (Nat.not_lt_of_le hfixed), if_neg (Nat.not_lt_of_le hroom)]

theorem exists_framed_of_ofFrame {frame : Frame} {packet : Packet}
    (h : ofFrame frame = .ok packet) : packet = ⟨frame⟩ ∧ ∃ payload, packet.Framed payload := by
  cases hetherType : frame.etherType? with
  | none =>
      rw [ofFrame, hetherType] at h
      cases h
  | some etherType =>
      cases hpayload : frame.payload? with
      | none =>
          rw [ofFrame, hetherType, hpayload] at h
          change (if etherType ≠ EtherType.arp then _ else _) = _ at h
          split at h <;> cases h
      | some payload =>
          obtain ⟨rfl, hframed⟩ := framed_of_ofFrame hetherType hpayload h
          exact ⟨rfl, payload, hframed⟩

theorem ofFrame_ne_outOfRange {frame : Frame} {etherType : UInt16} {payload : Bytes}
    (hetherType : frame.etherType? = some etherType) (hpayload : frame.payload? = some payload) :
    ofFrame frame ≠ .error .outOfRange := by
  rw [ofFrame_eq hetherType hpayload]
  intro h
  split at h
  · cases h
  split at h
  · cases h
  split at h <;> cases h

variable {packet : Packet} {payload : Bytes} {field : Field}

theorem read?_eq (hframed : packet.Framed payload) (field : Field) :
    packet.read? field =
      some ((payload.drop ((Layout.ofPayload payload).start field)).take
        ((Layout.ofPayload payload).width field)) := by
  have hfits := (Layout.ofPayload payload).start_add_width_le_size field
  rw [read?, hframed.carried]
  exact if_pos (Nat.le_trans hfits hframed.room)

theorem exists_read? (hframed : packet.Framed payload) (field : Field) :
    ∃ bytes, packet.read? field = some bytes ∧
      bytes.length = (Layout.ofPayload payload).width field := by
  have hfits := (Layout.ofPayload payload).start_add_width_le_size field
  have hroom := hframed.room
  refine ⟨_, read?_eq hframed field, ?_⟩
  rw [List.length_take, List.length_drop]
  omega

theorem head?_read? (hframed : packet.Framed payload)
    (hwidth : (Layout.ofPayload payload).width field = 1) :
    (packet.read? field).bind List.head? =
      some (payload.getD ((Layout.ofPayload payload).start field) 0) := by
  have hfits := (Layout.ofPayload payload).start_add_width_le_size field
  have hroom := hframed.room
  have hstart : (Layout.ofPayload payload).start field < payload.length := by omega
  rw [read?_eq hframed, Option.bind_some, List.head?_take, if_neg (by omega), List.head?_drop,
    List.getD_eq_getElem?_getD, List.getElem?_eq_getElem hstart, Option.getD_some]

theorem hardwareLength?_eq (hframed : packet.Framed payload) :
    packet.hardwareLength? = some (payload.getD Layout.hardwareLengthOffset 0) :=
  head?_read? hframed rfl

theorem protocolLength?_eq (hframed : packet.Framed payload) :
    packet.protocolLength? = some (payload.getD Layout.protocolLengthOffset 0) :=
  head?_read? hframed rfl

theorem exists_opcode? (hframed : packet.Framed payload) :
    ∃ opcode, packet.opcode? = some opcode := by
  obtain ⟨bytes, hread, hlength⟩ := exists_read? hframed .opcode
  obtain ⟨opcode, rfl⟩ := Bytes.exists_ofWord hlength
  refine ⟨opcode, ?_⟩
  rw [opcode?, hread]
  exact Bytes.toWord?_ofWord opcode

theorem opcode?_of_op? {op : Op} (h : packet.op? = some (some op)) :
    packet.opcode? = some op.code := by
  cases hopcode : packet.opcode? with
  | none =>
      rw [op?, hopcode] at h
      cases h
  | some code =>
      rw [op?, hopcode] at h
      exact congrArg some (Op.eq_code_of_ofCode (Option.some.inj h))

section Addresses

variable {address : Bytes} {length : UInt8}

theorem hardwareAddress_givesIf (hread : packet.read? field = some address)
    (hlength : address.length = length.toNat) :
    (packet.hardwareAddress field).GivesIf (length = 6) .macLength (·.bytes = address) := by
  rw [hardwareAddress, hread]
  constructor
  · rintro rfl
    obtain ⟨mac, rfl⟩ := Mac.exists_bytes hlength
    exact ⟨mac, rfl, rfl⟩
  · intro hforeign
    have hsix : address.length ≠ 6 := fun hsix =>
      hforeign (UInt8.toNat_inj.mp (hlength.symm.trans hsix))
    exact congrArg Outcome.ofExcept (Mac.ofBytes_of_length_ne hsix)

theorem protocolAddress_givesIf (hread : packet.read? field = some address)
    (hstated : packet.protocolLength? = some length) (hlength : address.length = length.toNat) :
    (packet.protocolAddress field).GivesIf (length = 4) .protocolAddressLength
      (·.octets = address) := by
  rw [protocolAddress, hread, hstated]
  constructor
  · rintro rfl
    obtain ⟨ip, rfl⟩ := Ip.exists_octets hlength
    exact ⟨ip, rfl, rfl⟩
  · intro hforeign
    exact if_pos hforeign

end Addresses

theorem senderMac_givesIf (hframed : packet.Framed payload) :
    ∃ address, packet.senderMac.GivesIf (packet.hardwareLength? = some 6) .macLength
      (·.bytes = address) := by
  obtain ⟨address, hread, hwidth⟩ := exists_read? hframed .senderHardware
  refine ⟨address, ?_⟩
  rw [hardwareLength?_eq hframed, Option.some.injEq]
  exact hardwareAddress_givesIf hread hwidth

theorem exists_senderMac (hframed : packet.Framed payload)
    (hlength : packet.hardwareLength? = some 6) : ∃ mac, packet.senderMac = .ok mac := by
  obtain ⟨address, hgives, -⟩ := senderMac_givesIf hframed
  obtain ⟨mac, hmac, -⟩ := hgives hlength
  exact ⟨mac, hmac⟩

theorem senderMac_of_length_ne (hframed : packet.Framed payload)
    (hlength : packet.hardwareLength? ≠ some 6) :
    packet.senderMac = .error (.refused .macLength) := by
  obtain ⟨address, -, hrefused⟩ := senderMac_givesIf hframed
  exact hrefused hlength

theorem hardwareLength?_of_senderMac {mac : Mac} (hframed : packet.Framed payload)
    (h : packet.senderMac = .ok mac) : packet.hardwareLength? = some 6 := by
  refine Decidable.byContradiction fun hforeign => ?_
  cases h.symm.trans (senderMac_of_length_ne hframed hforeign)

theorem exists_protocolAddress (hframed : packet.Framed payload) (field : Field)
    (hlength : packet.protocolLength? = some 4)
    (hwidth : (Layout.ofPayload payload).width field = (Layout.ofPayload payload).protocol) :
    ∃ ip, packet.protocolAddress field = .ok ip := by
  obtain ⟨address, hread, haddress⟩ := exists_read? hframed field
  have hstated := protocolLength?_eq hframed
  have hfour := Option.some.inj (hstated.symm.trans hlength)
  obtain ⟨ip, hip, -⟩ :=
    (protocolAddress_givesIf hread hstated (haddress.trans hwidth)).1 hfour
  exact ⟨ip, hip⟩

theorem protocolAddress_of_length_ne (hframed : packet.Framed payload)
    (hlength : packet.protocolLength? ≠ some 4) :
    packet.protocolAddress field = .error (.refused .protocolAddressLength) := by
  obtain ⟨bytes, hread, -⟩ := exists_read? hframed field
  rw [protocolLength?_eq hframed, ne_eq, Option.some.injEq] at hlength
  rw [protocolAddress, hread, protocolLength?_eq hframed]
  exact if_pos hlength

theorem protocolLength?_of_protocolAddress {ip : Ip} (hframed : packet.Framed payload)
    (h : packet.protocolAddress field = .ok ip) : packet.protocolLength? = some 4 := by
  refine Decidable.byContradiction fun hforeign => ?_
  cases h.symm.trans (protocolAddress_of_length_ne hframed hforeign)

theorem protocolAddress_ne_outOfRange (hframed : packet.Framed payload) (field : Field)
    (hwidth : (Layout.ofPayload payload).width field = (Layout.ofPayload payload).protocol) :
    packet.protocolAddress field ≠ .error .outOfRange := by
  intro h
  rcases Decidable.em (packet.protocolLength? = some 4) with hfour | hforeign
  · obtain ⟨ip, hip⟩ := exists_protocolAddress hframed field hfour hwidth
    cases h.symm.trans hip
  · cases h.symm.trans (protocolAddress_of_length_ne hframed hforeign)

end Packet

end Arp

end FabricArp
