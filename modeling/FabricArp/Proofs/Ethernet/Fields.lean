import FabricArp.Ethernet.Frame

/-! Frames as records of their fields. -/

namespace FabricArp.Frame

/-- What a frame says, with its tag as a whole control word or not at all. -/
structure Fields where
  destination : Mac
  source : Mac
  tag : Option UInt16
  etherType : UInt16
  payload : Bytes
deriving DecidableEq

namespace Fields

def tagBytes : Option UInt16 → Bytes
  | none => []
  | some control => Bytes.ofWord EtherType.vlanTag ++ Bytes.ofWord control

def headerSize : Option UInt16 → Nat
  | none => untaggedOffset
  | some _ => taggedOffset

def frame (fields : Fields) : Frame where
  bytes := fields.destination.bytes ++ fields.source.bytes ++ tagBytes fields.tag ++
    Bytes.ofWord fields.etherType ++ fields.payload
  payloadOffset := headerSize fields.tag

def header (fields : Fields) : Bytes :=
  fields.destination.bytes ++ fields.source.bytes ++ tagBytes fields.tag ++
    Bytes.ofWord fields.etherType

def vlan (fields : Fields) : Vlan :=
  match fields.tag with
  | none => .untagged
  | some control => vlanOfTagControl control

theorem headerSize_eq (tag : Option UInt16) :
    headerSize tag = 14 + (tagBytes tag).length := by
  cases tag <;> rfl

theorem bytes_frame (fields : Fields) : fields.frame.bytes = fields.header ++ fields.payload :=
  rfl

theorem length_header (fields : Fields) :
    fields.header.length = fields.frame.payloadOffset := by
  rw [show fields.frame.payloadOffset = 14 + (tagBytes fields.tag).length from
    headerSize_eq fields.tag]
  simp only [header, List.length_append, Mac.length_bytes, Bytes.length_ofWord]
  omega

theorem payloadOffset_le_length (fields : Fields) :
    fields.frame.payloadOffset ≤ fields.frame.bytes.length := by
  rw [bytes_frame, List.length_append, length_header]
  exact Nat.le_add_right _ _

theorem bytes_tagged (destination source : Mac) (control etherType : UInt16) (payload : Bytes) :
    (frame ⟨destination, source, some control, etherType, payload⟩).bytes =
      destination.bytes ++ source.bytes ++ Bytes.ofWord EtherType.vlanTag ++
        (Bytes.ofWord control ++ Bytes.ofWord etherType ++ payload) := by
  simp only [frame, tagBytes, List.append_assoc]

@[simp] theorem isTagged_frame (fields : Fields) :
    fields.frame.isTagged = fields.tag.isSome := by
  obtain ⟨destination, source, tag, etherType, payload⟩ := fields
  cases tag <;> rfl

@[simp] theorem destination?_frame (fields : Fields) :
    fields.frame.destination? = some fields.destination := by
  have hslice : fields.frame.bytes.slice? 0 6 = some fields.destination.bytes := by
    rw [frame, List.append_assoc, List.append_assoc, List.append_assoc, ← List.nil_append (_ ++ _),
      ← List.append_assoc]
    exact Bytes.slice?_append rfl rfl
  rw [destination?, macAt?, hslice]
  rfl

@[simp] theorem source?_frame (fields : Fields) :
    fields.frame.source? = some fields.source := by
  have hslice : fields.frame.bytes.slice? 6 6 = some fields.source.bytes := by
    rw [frame, List.append_assoc, List.append_assoc]
    exact Bytes.slice?_append rfl rfl
  rw [source?, macAt?, hslice]
  rfl

@[simp] theorem etherType?_frame (fields : Fields) :
    fields.frame.etherType? = some fields.etherType := by
  have hoffset : fields.frame.payloadOffset = 14 + (tagBytes fields.tag).length :=
    headerSize_eq fields.tag
  have hslice : fields.frame.bytes.slice? (fields.frame.payloadOffset - 2) 2 =
      some (Bytes.ofWord fields.etherType) := by
    refine Bytes.slice?_append ?_ rfl
    simp only [List.length_append, Mac.length_bytes]
    omega
  rw [etherType?, if_pos (by omega), hslice]
  exact Bytes.toWord?_ofWord fields.etherType

@[simp] theorem payload?_frame (fields : Fields) :
    fields.frame.payload? = some fields.payload := by
  rw [payload?, if_pos fields.payloadOffset_le_length, bytes_frame,
    List.drop_left' fields.length_header]

theorem vlan?_of_tagged {frame : Frame} {control : UInt16} (htagged : frame.isTagged = true)
    (hcontrol : frame.bytes.slice? (tagOffset + 2) 2 = some (Bytes.ofWord control)) :
    frame.vlan? = some (vlanOfTagControl control) := by
  rw [vlan?, if_pos htagged, tagControl?, hcontrol]
  exact congrArg (Option.map vlanOfTagControl) (Bytes.toWord?_ofWord control)

@[simp] theorem vlan?_frame (fields : Fields) : fields.frame.vlan? = some fields.vlan := by
  obtain ⟨destination, source, tag, etherType, payload⟩ := fields
  cases tag with
  | none => rfl
  | some control =>
      refine vlan?_of_tagged (isTagged_frame _) ?_
      have hbytes : (frame ⟨destination, source, some control, etherType, payload⟩).bytes =
          (destination.bytes ++ source.bytes ++ Bytes.ofWord EtherType.vlanTag) ++
            Bytes.ofWord control ++ (Bytes.ofWord etherType ++ payload) := by
        simp only [frame, tagBytes, List.append_assoc]
      rw [hbytes]
      exact Bytes.slice?_append rfl rfl

end Fields

theorem exists_untagged {bytes : Bytes} (h : untaggedOffset ≤ bytes.length) :
    ∃ (destination source : Mac) (etherType : UInt16) (payload : Bytes),
      bytes = destination.bytes ++ source.bytes ++ Bytes.ofWord etherType ++ payload := by
  rw [untaggedOffset] at h
  obtain ⟨destination, rest, rfl⟩ := Mac.exists_append (show 6 ≤ bytes.length by omega)
  rw [List.length_append, Mac.length_bytes] at h
  obtain ⟨source, rest, rfl⟩ := Mac.exists_append (show 6 ≤ rest.length by omega)
  rw [List.length_append, Mac.length_bytes] at h
  obtain ⟨etherType, payload, rfl⟩ := Bytes.exists_word (show 2 ≤ rest.length by omega)
  refine ⟨destination, source, etherType, payload, ?_⟩
  simp only [List.append_assoc]

theorem exists_tag {bytes : Bytes} (h : 4 ≤ bytes.length) :
    ∃ (control etherType : UInt16) (payload : Bytes),
      bytes = Bytes.ofWord control ++ Bytes.ofWord etherType ++ payload := by
  obtain ⟨control, rest, rfl⟩ := Bytes.exists_word (show 2 ≤ bytes.length by omega)
  rw [List.length_append, Bytes.length_ofWord] at h
  obtain ⟨etherType, payload, rfl⟩ := Bytes.exists_word (show 2 ≤ rest.length by omega)
  exact ⟨control, etherType, payload, (List.append_assoc _ _ _).symm⟩

theorem exists_fields {bytes : Bytes} {frame : Frame} (h : ofBytes bytes = .ok frame) :
    ∃ fields : Fields, frame = fields.frame ∧ bytes = fields.frame.bytes ∧
      (fields.tag = none → fields.etherType ≠ EtherType.vlanTag) := by
  rw [ofBytes] at h
  split at h
  · cases h
  rename_i huntagged
  obtain ⟨destination, source, word, rest, rfl⟩ := exists_untagged (Nat.le_of_not_lt huntagged)
  have hword : Bytes.slice? (destination.bytes ++ source.bytes ++ Bytes.ofWord word ++ rest)
      tagOffset 2 = some (Bytes.ofWord word) := Bytes.slice?_append rfl rfl
  rw [hword] at h
  split at h
  · rename_i htag
    split at h
    · cases h
    rename_i htagged
    obtain rfl := Bytes.ofWord_injective (Option.some.inj htag)
    simp only [List.length_append, Mac.length_bytes, Bytes.length_ofWord, taggedOffset] at htagged
    obtain ⟨control, etherType, payload, rfl⟩ := exists_tag (show 4 ≤ rest.length by omega)
    have hbytes := Fields.bytes_tagged destination source control etherType payload
    refine ⟨⟨destination, source, some control, etherType, payload⟩, ?_, hbytes.symm, ?_⟩
    · rw [← hbytes] at h
      exact (Except.ok.inj h).symm
    · intro hnone
      cases hnone
  · rename_i htag
    have hbytes : (Fields.frame ⟨destination, source, none, word, rest⟩).bytes =
        destination.bytes ++ source.bytes ++ Bytes.ofWord word ++ rest := by
      simp only [Fields.frame, Fields.tagBytes, List.append_nil]
    refine ⟨⟨destination, source, none, word, rest⟩, ?_, hbytes.symm, ?_⟩
    · rw [← hbytes] at h
      exact (Except.ok.inj h).symm
    · intro _ hword
      exact htag (congrArg (some ∘ Bytes.ofWord) hword)

end FabricArp.Frame
