import FabricArp.Proofs.Ethernet.Fields

/-! A setter changes one field of the record that a frame lays out. -/

namespace FabricArp.Frame

inductive Edit where
  | destination (mac : Mac)
  | source (mac : Mac)
  | vlan (vlan : Vlan)
  | etherType (etherType : UInt16)
  | payload (payload : Bytes)
  | write (start : Nat) (patch : Bytes)
deriving DecidableEq

def edit? (frame : Frame) : Edit → Option Frame
  | .destination mac => frame.setDestination? mac
  | .source mac => frame.setSource? mac
  | .vlan vlan => frame.setVlan? vlan
  | .etherType etherType => frame.setEtherType? etherType
  | .payload payload => some (frame.setPayload payload)
  | .write start patch => frame.writePayload? start patch

/-- An overwrite has to fit the payload; a setter always has room. -/
def Admits (frame : Frame) : Edit → Prop
  | .write start patch =>
      ∃ payload, frame.payload? = some payload ∧ start + patch.length ≤ payload.length
  | _ => True

/-- Every getter finds its bytes, and so does every edit that the frame admits. -/
structure WithinBytes (frame : Frame) : Prop where
  destination : ∃ mac, frame.destination? = some mac
  source : ∃ mac, frame.source? = some mac
  vlan : ∃ vlan, frame.vlan? = some vlan
  etherType : ∃ etherType, frame.etherType? = some etherType
  payload : ∃ payload, frame.payload? = some payload
  edited : ∀ edit, frame.Admits edit → ∃ next, frame.edit? edit = some next

/-- The frames that setters lead to from what was read from bytes or from the empty frame. -/
inductive Reachable : Frame → Prop where
  | read {bytes : Bytes} {frame : Frame} (h : ofBytes bytes = .ok frame) : Reachable frame
  | empty : Reachable .empty
  | edited {frame next : Frame} (edit : Edit) (hframe : Reachable frame)
      (h : frame.edit? edit = some next) : Reachable next

namespace Fields

/-- A tag keeps its upper four bits under a new identifier; a fresh one has them zero. -/
def retag : Option UInt16 → Vlan → Option UInt16
  | _, .untagged => none
  | none, .tagged id => some (UInt16.ofNat id.val)
  | some control, .tagged id => some (retagControl control id)

def edit? (fields : Fields) : Edit → Option Fields
  | .destination mac => some { fields with destination := mac }
  | .source mac => some { fields with source := mac }
  | .vlan vlan => some { fields with tag := retag fields.tag vlan }
  | .etherType etherType => some { fields with etherType := etherType }
  | .payload payload => some { fields with payload := payload }
  | .write start patch =>
      (fields.payload.overwrite? start patch).map fun payload => { fields with payload := payload }

variable (fields : Fields)

theorem setDestination?_frame (mac : Mac) :
    fields.frame.setDestination? mac = some (frame { fields with destination := mac }) :=
  rfl

theorem setSource?_frame (mac : Mac) :
    fields.frame.setSource? mac = some (frame { fields with source := mac }) :=
  rfl

theorem setEtherType?_frame (etherType : UInt16) :
    fields.frame.setEtherType? etherType = some (frame { fields with etherType := etherType }) := by
  obtain ⟨destination, source, tag, _, payload⟩ := fields
  cases tag <;> rfl

theorem setPayload_frame (payload : Bytes) :
    fields.frame.setPayload payload = frame { fields with payload := payload } := by
  obtain ⟨destination, source, tag, etherType, _⟩ := fields
  cases tag <;> rfl

theorem tagControl?_frame {control : UInt16} (htag : fields.tag = some control) :
    fields.frame.tagControl? = some control := by
  obtain ⟨destination, source, tag, etherType, payload⟩ := fields
  obtain rfl : tag = some control := htag
  exact Bytes.toWord?_ofWord control

theorem setVlan?_frame (vlan : Vlan) :
    fields.frame.setVlan? vlan = some (frame { fields with tag := retag fields.tag vlan }) := by
  obtain ⟨destination, source, tag, etherType, payload⟩ := fields
  cases tag with
  | none => cases vlan <;> rfl
  | some control =>
      cases vlan with
      | untagged => rfl
      | tagged id =>
          have hcontrol := tagControl?_frame
            ⟨destination, source, some control, etherType, payload⟩ rfl
          change (tagControl? _ >>= _) = _
          rw [hcontrol]
          rfl

theorem writePayload?_frame (start : Nat) (patch : Bytes) :
    fields.frame.writePayload? start patch =
      (fields.payload.overwrite? start patch).map fun payload =>
        frame { fields with payload := payload } := by
  have hbytes : fields.frame.bytes.overwrite? (fields.frame.payloadOffset + start) patch =
      (fields.payload.overwrite? start patch).map (fields.header ++ ·) := by
    rw [← length_header]
    exact Bytes.overwrite?_append_right fields.header fields.payload patch start
  rw [writePayload?, Frame.overwrite?, hbytes]
  cases fields.payload.overwrite? start patch <;> rfl

theorem edit?_frame (edit : Edit) :
    fields.frame.edit? edit = (fields.edit? edit).map frame := by
  cases edit with
  | destination mac => exact fields.setDestination?_frame mac
  | source mac => exact fields.setSource?_frame mac
  | vlan vlan => exact fields.setVlan?_frame vlan
  | etherType etherType => exact fields.setEtherType?_frame etherType
  | payload payload => exact congrArg some (fields.setPayload_frame payload)
  | write start patch =>
      refine (fields.writePayload?_frame start patch).trans ?_
      rw [edit?, Option.map_map]
      rfl

theorem exists_edit?_of_admits {edit : Edit} (hadmits : fields.frame.Admits edit) :
    ∃ next, fields.edit? edit = some next := by
  cases edit with
  | destination _ | source _ | vlan _ | etherType _ | payload _ => exact ⟨_, rfl⟩
  | write start patch =>
      obtain ⟨payload, hpayload, hfits⟩ := hadmits
      rw [payload?_frame, Option.some.injEq] at hpayload
      rw [← hpayload] at hfits
      rw [edit?, Bytes.overwrite?, if_pos hfits]
      exact ⟨_, rfl⟩

theorem withinBytes_frame : fields.frame.WithinBytes where
  destination := ⟨_, fields.destination?_frame⟩
  source := ⟨_, fields.source?_frame⟩
  vlan := ⟨_, fields.vlan?_frame⟩
  etherType := ⟨_, fields.etherType?_frame⟩
  payload := ⟨_, fields.payload?_frame⟩
  edited := by
    intro edit hadmits
    obtain ⟨next, hnext⟩ := fields.exists_edit?_of_admits hadmits
    rw [edit?_frame, hnext]
    exact ⟨_, rfl⟩

end Fields

namespace Reachable

variable {frame : Frame}

theorem exists_fields (h : frame.Reachable) : ∃ fields : Fields, frame = fields.frame := by
  induction h with
  | read hread =>
      obtain ⟨fields, hframe, -, -⟩ := Frame.exists_fields hread
      exact ⟨fields, hframe⟩
  | empty => exact ⟨⟨.zero, .zero, none, 0, []⟩, rfl⟩
  | edited edit _ hedit ih =>
      obtain ⟨fields, rfl⟩ := ih
      rw [Fields.edit?_frame] at hedit
      obtain ⟨next, -, hnext⟩ := Option.map_eq_some_iff.mp hedit
      exact ⟨next, hnext.symm⟩

theorem withinBytes (h : frame.Reachable) : frame.WithinBytes := by
  obtain ⟨fields, rfl⟩ := h.exists_fields
  exact fields.withinBytes_frame

end Reachable

end FabricArp.Frame
