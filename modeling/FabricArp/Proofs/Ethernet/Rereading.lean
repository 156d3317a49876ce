import FabricArp.Proofs.Ethernet.Editing

namespace FabricArp.Frame

theorem ofBytes_of_slice? {bytes : Bytes} {word : UInt16}
    (h : bytes.slice? tagOffset 2 = some (Bytes.ofWord word)) :
    ofBytes bytes =
      if word = EtherType.vlanTag then
        if bytes.length < taggedOffset then .error .taggedFrameLength
        else .ok ⟨bytes, taggedOffset⟩
      else .ok ⟨bytes, untaggedOffset⟩ := by
  have hreach : ¬bytes.length < untaggedOffset := by
    intro hshort
    have hout : ¬tagOffset + 2 ≤ bytes.length := Nat.not_le_of_lt hshort
    rw [Bytes.slice?, if_neg hout] at h
    cases h
  rw [ofBytes, if_neg hreach, h]
  rcases Decidable.em (word = EtherType.vlanTag) with rfl | hplain
  · rw [if_pos rfl, if_pos rfl]
  · rw [if_neg fun heq => hplain (Bytes.ofWord_injective (Option.some.inj heq)), if_neg hplain]

namespace Fields

/-- An untagged frame does not begin like a tagged one. -/
def Unambiguous (fields : Fields) : Prop :=
  fields.tag = none → fields.etherType ≠ EtherType.vlanTag

def padded (fields : Fields) (padding : Bytes) : Fields :=
  { fields with payload := fields.payload ++ padding }

variable {fields : Fields}

theorem ofBytes_frame (h : fields.Unambiguous) :
    ofBytes fields.frame.bytes = .ok fields.frame := by
  have hreach := fields.payloadOffset_le_length
  obtain ⟨destination, source, tag, etherType, payload⟩ := fields
  cases tag with
  | none =>
      have hslice : (frame ⟨destination, source, none, etherType, payload⟩).bytes.slice?
          tagOffset 2 = some (Bytes.ofWord etherType) := Bytes.slice?_append rfl rfl
      rw [ofBytes_of_slice? hslice, if_neg (h rfl)]
      rfl
  | some control =>
      have hslice : (frame ⟨destination, source, some control, etherType, payload⟩).bytes.slice?
          tagOffset 2 = some (Bytes.ofWord EtherType.vlanTag) := by
        rw [bytes_tagged]
        exact Bytes.slice?_append rfl rfl
      rw [ofBytes_of_slice? hslice, if_pos rfl]
      exact if_neg (Nat.not_lt_of_le hreach)

theorem ofBytes_frame_of_arp (h : fields.etherType = EtherType.arp) :
    ofBytes fields.frame.bytes = .ok fields.frame := by
  refine ofBytes_frame fun _ => ?_
  rw [h]
  decide

theorem bytes_padded (fields : Fields) (padding : Bytes) :
    (fields.padded padding).frame.bytes = fields.frame.bytes ++ padding :=
  (List.append_assoc fields.header fields.payload padding).symm

theorem ofBytes_padded (h : fields.Unambiguous) (padding : Bytes) :
    ofBytes (fields.frame.bytes ++ padding) = .ok (fields.padded padding).frame := by
  rw [← bytes_padded]
  exact ofBytes_frame h

theorem destination?_padded (fields : Fields) (padding : Bytes) :
    (fields.padded padding).frame.destination? = fields.frame.destination? :=
  (destination?_frame _).trans fields.destination?_frame.symm

theorem source?_padded (fields : Fields) (padding : Bytes) :
    (fields.padded padding).frame.source? = fields.frame.source? :=
  (source?_frame _).trans fields.source?_frame.symm

theorem etherType?_padded (fields : Fields) (padding : Bytes) :
    (fields.padded padding).frame.etherType? = fields.frame.etherType? :=
  (etherType?_frame _).trans fields.etherType?_frame.symm

theorem vlan?_padded (fields : Fields) (padding : Bytes) :
    (fields.padded padding).frame.vlan? = fields.frame.vlan? :=
  (vlan?_frame _).trans fields.vlan?_frame.symm

theorem vlanOfTagControl_retagControl (control : UInt16) (id : Fin 4096) :
    vlanOfTagControl (retagControl control id) = .tagged id := by
  have hid := id.isLt
  have hcontrol := control.toNat_lt
  simp only [vlanOfTagControl, retagControl, UInt16.toNat_ofNat', Vlan.tagged.injEq]
  apply Fin.ext
  simp only []
  omega

theorem vlan_retag (fields : Fields) (vlan : Vlan) :
    Fields.vlan { fields with tag := retag fields.tag vlan } = vlan := by
  obtain ⟨destination, source, tag, etherType, payload⟩ := fields
  cases vlan with
  | untagged => cases tag <;> rfl
  | tagged id =>
      cases tag with
      | none =>
          have hfresh : UInt16.ofNat id.val = retagControl 0 id :=
            congrArg UInt16.ofNat (Nat.zero_add id.val).symm
          change vlanOfTagControl (UInt16.ofNat id.val) = _
          rw [hfresh, vlanOfTagControl_retagControl]
      | some control => exact vlanOfTagControl_retagControl control id

end Fields

theorem assemble_eq_frame (destination source : Mac) (vlan : Vlan) (etherType : UInt16)
    (payload : Bytes) :
    assemble destination source vlan etherType payload =
      Fields.frame ⟨destination, source, Fields.retag none vlan, etherType, payload⟩ := by
  cases vlan <;> rfl

end FabricArp.Frame
