import FabricArp.Proofs.Ethernet.Independence

namespace FabricArp.Frame

def AnnouncesTag (bytes : Bytes) : Prop :=
  bytes[12]? = some 0x81 ∧ bytes[13]? = some 0x00

theorem announcesTag_iff {bytes : Bytes} :
    AnnouncesTag bytes ↔ bytes.slice? tagOffset 2 = some (Bytes.ofWord EtherType.vlanTag) :=
  Bytes.slice?_two_iff.symm

theorem exists_ofBytes_iff {bytes : Bytes} :
    (∃ frame, ofBytes bytes = .ok frame) ↔
      14 ≤ bytes.length ∧ (AnnouncesTag bytes → 18 ≤ bytes.length) := by
  rw [announcesTag_iff]
  constructor
  · rintro ⟨frame, h⟩
    rw [ofBytes] at h
    split at h
    · cases h
    · rename_i hheader
      refine ⟨Nat.le_of_not_lt hheader, fun hmark => ?_⟩
      rw [if_pos hmark] at h
      split at h
      · cases h
      · exact Nat.le_of_not_lt ‹_›
  · rintro ⟨hheader, htagged⟩
    have hreach : ¬bytes.length < untaggedOffset := Nat.not_lt_of_le hheader
    rw [ofBytes, if_neg hreach]
    split
    · rename_i hmark
      exact ⟨_, if_neg (Nat.not_lt_of_le (htagged hmark))⟩
    · exact ⟨_, rfl⟩

theorem bytes_of_ofBytes {bytes : Bytes} {frame : Frame} (h : ofBytes bytes = .ok frame) :
    frame.bytes = bytes := by
  obtain ⟨fields, rfl, rfl, -⟩ := exists_fields h
  rfl

namespace Fields

variable {fields : Fields}

theorem ofBytes_frame_of_short (htag : fields.tag = none)
    (hmark : fields.etherType = EtherType.vlanTag) (hshort : fields.payload.length < 4) :
    ofBytes fields.frame.bytes = .error .taggedFrameLength := by
  obtain ⟨destination, source, tag, word, payload⟩ := fields
  obtain rfl : tag = none := htag
  obtain rfl : word = EtherType.vlanTag := hmark
  have hslice : (frame ⟨destination, source, none, EtherType.vlanTag, payload⟩).bytes.slice?
      tagOffset 2 = some (Bytes.ofWord EtherType.vlanTag) := Bytes.slice?_append rfl rfl
  rw [ofBytes_of_slice? hslice, if_pos rfl]
  refine if_pos ?_
  rw [bytes_frame, List.length_append, length_header]
  exact Nat.add_lt_add_left hshort 14

theorem ofBytes_frame_of_mark {control etherType : UInt16} {rest : Bytes}
    (htag : fields.tag = none) (hmark : fields.etherType = EtherType.vlanTag)
    (hpayload : fields.payload = Bytes.ofWord control ++ Bytes.ofWord etherType ++ rest) :
    ofBytes fields.frame.bytes =
      .ok (frame { fields with tag := some control, etherType := etherType, payload := rest }) := by
  obtain ⟨destination, source, tag, word, payload⟩ := fields
  obtain rfl : tag = none := htag
  obtain rfl : word = EtherType.vlanTag := hmark
  obtain rfl : payload = Bytes.ofWord control ++ Bytes.ofWord etherType ++ rest := hpayload
  have hbytes : (frame ⟨destination, source, none, EtherType.vlanTag,
      Bytes.ofWord control ++ Bytes.ofWord etherType ++ rest⟩).bytes =
        (frame ⟨destination, source, some control, etherType, rest⟩).bytes := by
    rw [bytes_tagged]
    rfl
  rw [hbytes]
  exact ofBytes_frame nofun

theorem ofBytes_frame_iff :
    ofBytes fields.frame.bytes = .ok fields.frame ↔ fields.Unambiguous := by
  refine ⟨fun hread htag hmark => ?_, ofBytes_frame⟩
  rcases Nat.lt_or_ge fields.payload.length 4 with hshort | hroom
  · cases (ofBytes_frame_of_short htag hmark hshort).symm.trans hread
  · obtain ⟨control, etherType, rest, hpayload⟩ := exists_tag hroom
    rw [ofBytes_frame_of_mark htag hmark hpayload, Except.ok.injEq] at hread
    have htagged := congrArg isTagged hread
    rw [isTagged_frame, isTagged_frame, htag] at htagged
    cases htagged

theorem unambiguous_iff : fields.Unambiguous ↔
    fields.frame.isTagged = true ∨ fields.frame.etherType? ≠ some EtherType.vlanTag := by
  rw [Unambiguous, isTagged_frame, etherType?_frame, ne_eq, ne_eq, Option.some.injEq]
  cases fields.tag <;> simp

end Fields

/-- Bytes are read if and only if they have room for the header that they announce; a frame is
read from its own bytes if and only if it is tagged or announces no tag. -/
theorem ofBytes_iff_of_reachable :
    (∀ bytes : Bytes,
      ((∃ frame, ofBytes bytes = .ok frame) ↔
        14 ≤ bytes.length ∧ (AnnouncesTag bytes → 18 ≤ bytes.length)) ∧
      ∀ frame, ofBytes bytes = .ok frame → frame.bytes = bytes) ∧
    ∀ frame : Frame, frame.Reachable →
      (ofBytes frame.bytes = .ok frame ↔
        frame.isTagged = true ∨ frame.etherType? ≠ some EtherType.vlanTag) ∧
      (frame.isTagged = false → frame.etherType? = some EtherType.vlanTag →
        ∃ payload, frame.payload? = some payload ∧
          ((∃ cause, ofBytes frame.bytes = .error cause) ↔ payload.length < 4) ∧
          (4 ≤ payload.length → ∃ control etherType rest reread,
            payload = Bytes.ofWord control ++ Bytes.ofWord etherType ++ rest ∧
            ofBytes frame.bytes = .ok reread ∧ reread.isTagged = true ∧
            reread.vlan? = some (vlanOfTagControl control) ∧
            reread.etherType? = some etherType ∧ reread.payload? = some rest ∧
            reread.destination? = frame.destination? ∧ reread.source? = frame.source?)) := by
  refine ⟨fun bytes => ⟨exists_ofBytes_iff, fun frame => bytes_of_ofBytes⟩, ?_⟩
  intro frame hframe
  obtain ⟨fields, rfl⟩ := hframe.exists_fields
  refine ⟨Fields.ofBytes_frame_iff.trans Fields.unambiguous_iff, ?_⟩
  intro huntagged hmark
  rw [Fields.isTagged_frame, Option.isSome_eq_false_iff, Option.isNone_iff_eq_none] at huntagged
  rw [Fields.etherType?_frame, Option.some.injEq] at hmark
  have hreread : 4 ≤ fields.payload.length → ∃ control etherType rest,
      fields.payload = Bytes.ofWord control ++ Bytes.ofWord etherType ++ rest ∧
      ofBytes fields.frame.bytes = .ok (Fields.frame
        { fields with tag := some control, etherType := etherType, payload := rest }) := by
    intro hroom
    obtain ⟨control, etherType, rest, hpayload⟩ := exists_tag hroom
    exact ⟨control, etherType, rest, hpayload,
      Fields.ofBytes_frame_of_mark huntagged hmark hpayload⟩
  refine ⟨fields.payload, fields.payload?_frame, ⟨?_, ?_⟩, ?_⟩
  · rintro ⟨cause, hrefused⟩
    refine Nat.lt_of_not_le fun hroom => ?_
    obtain ⟨control, etherType, rest, -, hread⟩ := hreread hroom
    cases hrefused.symm.trans hread
  · intro hshort
    exact ⟨_, Fields.ofBytes_frame_of_short huntagged hmark hshort⟩
  · intro hroom
    obtain ⟨control, etherType, rest, hpayload, hread⟩ := hreread hroom
    have hlaid := Fields.laysOut_frame
      { fields with tag := some control, etherType := etherType, payload := rest }
    exact ⟨control, etherType, rest, _, hpayload, hread, hlaid.tagged, hlaid.vlan,
      hlaid.etherType, hlaid.payload, hlaid.destination.trans fields.destination?_frame.symm,
      hlaid.source.trans fields.source?_frame.symm⟩

theorem ofBytes_iff_of_reachable_stripped :
    Fields.stripped.frame.Reachable ∧ Fields.stripped.frame.isTagged = false ∧
      Fields.stripped.frame.etherType? = some EtherType.vlanTag ∧
      ofBytes Fields.stripped.frame.bytes ≠ .ok Fields.stripped.frame ∧
      ∃ reread, ofBytes Fields.stripped.frame.bytes = .ok reread ∧ reread.isTagged = true := by
  have huntagged : Fields.stripped.frame.isTagged = false := rfl
  have hmark : Fields.stripped.frame.etherType? = some EtherType.vlanTag := rfl
  obtain ⟨hsame, hother⟩ := ofBytes_iff_of_reachable.2 Fields.stripped.frame reachable_stripped
  obtain ⟨payload, hpayload, -, hreread⟩ := hother huntagged hmark
  obtain rfl : Fields.stripped.payload = payload := Option.some.inj hpayload
  obtain ⟨-, -, -, reread, -, hread, htagged, -⟩ := hreread (by decide)
  refine ⟨reachable_stripped, huntagged, hmark, fun hread => ?_, reread, hread, htagged⟩
  rcases hsame.mp hread with htagged | hplain
  · cases huntagged.symm.trans htagged
  · exact hplain hmark

end FabricArp.Frame
