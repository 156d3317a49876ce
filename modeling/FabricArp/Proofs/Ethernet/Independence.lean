import FabricArp.Proofs.Ethernet.Rereading

namespace FabricArp.Frame

inductive Part where
  | destination
  | source
  | vlan
  | etherType
  | payload
deriving DecidableEq

def Part.Value : Part → Type
  | .destination | .source => Mac
  | .vlan => Option UInt16
  | .etherType => UInt16
  | .payload => Bytes

def Edit.part : Edit → Part
  | .destination _ => .destination
  | .source _ => .source
  | .vlan _ => .vlan
  | .etherType _ => .etherType
  | .payload _ | .write _ _ => .payload

/-- What an edit makes of the part that it is about. -/
def Edit.act? : (edit : Edit) → edit.part.Value → Option edit.part.Value
  | .destination mac, _ => some mac
  | .source mac, _ => some mac
  | .vlan membership, tag => some (Fields.retag tag membership)
  | .etherType word, _ => some word
  | .payload bytes, _ => some bytes
  | .write start patch, bytes => Bytes.overwrite? bytes start patch

/-- The bytes are the fields in wire order, and every getter gives its field. -/
structure LaysOut (frame : Frame) (fields : Fields) : Prop where
  offset : frame.payloadOffset = if fields.tag.isSome then 18 else 14
  bytes : frame.bytes = fields.destination.bytes ++ fields.source.bytes ++
    Fields.tagBytes fields.tag ++ Bytes.ofWord fields.etherType ++ fields.payload
  destination : frame.destination? = some fields.destination
  source : frame.source? = some fields.source
  tagged : frame.isTagged = fields.tag.isSome
  vlan : frame.vlan? = some fields.vlan
  etherType : frame.etherType? = some fields.etherType
  payload : frame.payload? = some fields.payload

def AlikeIn (left right : Frame) : Part → Prop
  | .destination => left.destination? = right.destination?
  | .source => left.source? = right.source?
  | .vlan => left.isTagged = right.isTagged ∧ left.vlan? = right.vlan? ∧
      (left.isTagged = true → left.tagControl? = right.tagControl?)
  | .etherType => left.etherType? = right.etherType?
  | .payload => left.payload? = right.payload?

/-- What an edit puts into a frame is what the getter then gives. -/
def Sets (frame next : Frame) : Edit → Prop
  | .destination mac => next.destination? = some mac
  | .source mac => next.source? = some mac
  | .vlan vlan => next.vlan? = some vlan
  | .etherType etherType => next.etherType? = some etherType
  | .payload payload => next.payload? = some payload
  | .write start patch => next.payload? = frame.payload?.bind (·.overwrite? start patch)

/-- A fresh tag states only the identifier; an old one keeps its upper four bits. -/
def Retags (frame next : Frame) : Vlan → Prop
  | .untagged => next.isTagged = false
  | .tagged id => next.isTagged = true ∧
      (frame.isTagged = false → next.tagControl? = some (Vlan.tagged id).number) ∧
      ∀ control, frame.isTagged = true → frame.tagControl? = some control →
        ∃ rewritten, next.tagControl? = some rewritten ∧
          rewritten.toNat / 4096 = control.toNat / 4096 ∧ rewritten.toNat % 4096 = id.val

theorem toNat_retagControl (control : UInt16) (id : Fin 4096) :
    (retagControl control id).toNat = control.toNat / 4096 * 4096 + id.val := by
  have hcontrol := control.toNat_lt
  have hid := id.isLt
  rw [retagControl, UInt16.toNat_ofNat']
  omega

namespace Fields

def get (fields : Fields) : (part : Part) → part.Value
  | .destination => fields.destination
  | .source => fields.source
  | .vlan => fields.tag
  | .etherType => fields.etherType
  | .payload => fields.payload

def set (fields : Fields) : (part : Part) → part.Value → Fields
  | .destination, mac => { fields with destination := mac }
  | .source, mac => { fields with source := mac }
  | .vlan, tag => { fields with tag := tag }
  | .etherType, etherType => { fields with etherType := etherType }
  | .payload, payload => { fields with payload := payload }

variable (fields : Fields)

section Parts

variable {first second : Part}

theorem get_set_of_ne (h : first ≠ second) (value : second.Value) :
    (fields.set second value).get first = fields.get first := by
  cases first <;> cases second <;> first | rfl | exact absurd rfl h

theorem set_comm (h : first ≠ second) (value : first.Value) (other : second.Value) :
    (fields.set first value).set second other = (fields.set second other).set first value := by
  cases first <;> cases second <;> first | rfl | exact absurd rfl h

end Parts

theorem edit?_eq (edit : Edit) :
    fields.edit? edit = (edit.act? (fields.get edit.part)).map (fields.set edit.part) := by
  cases edit <;> rfl

theorem edit?_set_of_ne (edit : Edit) {part : Part} (h : edit.part ≠ part) (value : part.Value) :
    (fields.set part value).edit? edit =
      (edit.act? (fields.get edit.part)).map fun edited =>
        (fields.set edit.part edited).set part value := by
  rw [edit?_eq, get_set_of_ne fields h]
  refine congrArg (Option.map · _) (funext fun edited => ?_)
  exact fields.set_comm h.symm value edited

theorem edit?_comm {first second : Edit} (h : first.part ≠ second.part) :
    (fields.edit? first).bind (·.edit? second) = (fields.edit? second).bind (·.edit? first) := by
  simp only [edit?_eq fields, Option.bind_map, Function.comp_def, edit?_set_of_ne fields _ h,
    edit?_set_of_ne fields _ h.symm]
  cases first.act? (fields.get first.part) with
  | none => cases second.act? (fields.get second.part) <;> rfl
  | some value =>
      cases second.act? (fields.get second.part) with
      | none => rfl
      | some other => exact congrArg some (fields.set_comm h value other).symm

theorem retag_vlan : retag fields.tag fields.vlan = fields.tag := by
  obtain ⟨destination, source, tag, etherType, payload⟩ := fields
  cases tag with
  | none => rfl
  | some control =>
      refine congrArg some (UInt16.toNat_inj.mp ?_)
      rw [toNat_retagControl]
      exact Nat.div_add_mod' control.toNat 4096

theorem laysOut_frame : fields.frame.LaysOut fields where
  offset := by
    obtain ⟨destination, source, tag, etherType, payload⟩ := fields
    cases tag <;> rfl
  bytes := rfl
  destination := fields.destination?_frame
  source := fields.source?_frame
  tagged := fields.isTagged_frame
  vlan := fields.vlan?_frame
  etherType := fields.etherType?_frame
  payload := fields.payload?_frame

theorem isTagged_iff_vlan?_ne :
    fields.frame.isTagged = true ↔ fields.frame.vlan? ≠ some .untagged := by
  obtain ⟨destination, source, tag, etherType, payload⟩ := fields
  rw [isTagged_frame, vlan?_frame]
  cases tag <;> simp [vlan, vlanOfTagControl]

theorem vlan_congr {left right : Fields} (h : left.tag = right.tag) : left.vlan = right.vlan := by
  rw [vlan, vlan, h]

theorem alikeIn_frame {left right : Fields} {part : Part} (h : left.get part = right.get part) :
    left.frame.AlikeIn right.frame part := by
  cases part with
  | destination =>
      rw [AlikeIn, destination?_frame, destination?_frame]
      exact congrArg some h
  | source =>
      rw [AlikeIn, source?_frame, source?_frame]
      exact congrArg some h
  | vlan =>
      rw [AlikeIn, isTagged_frame, isTagged_frame, vlan?_frame, vlan?_frame]
      refine ⟨congrArg Option.isSome h, congrArg some (vlan_congr h), fun htagged => ?_⟩
      obtain ⟨control, hcontrol⟩ := Option.isSome_iff_exists.mp htagged
      rw [tagControl?_frame left hcontrol, tagControl?_frame right (h.symm.trans hcontrol)]
  | etherType =>
      rw [AlikeIn, etherType?_frame, etherType?_frame]
      exact congrArg some h
  | payload =>
      rw [AlikeIn, payload?_frame, payload?_frame]
      exact congrArg some h

theorem sets_frame {updated : Fields} {edit : Edit} (h : fields.edit? edit = some updated) :
    fields.frame.Sets updated.frame edit := by
  cases edit with
  | destination _ | source _ | etherType _ | payload _ =>
      cases h
      simp only [Sets, destination?_frame, source?_frame, etherType?_frame, payload?_frame]
  | vlan vlan =>
      cases h
      exact (vlan?_frame _).trans (congrArg some (fields.vlan_retag vlan))
  | write start patch =>
      obtain ⟨payload, hpayload, rfl⟩ := Option.map_eq_some_iff.mp h
      simp only [Sets, payload?_frame, Option.bind_some, hpayload]

theorem retags_frame (vlan : Vlan) :
    fields.frame.Retags (frame { fields with tag := retag fields.tag vlan }) vlan := by
  cases vlan with
  | untagged =>
      rw [Retags, isTagged_frame]
      cases fields.tag <;> rfl
  | tagged id =>
      refine ⟨?_, ?_, ?_⟩
      · rw [isTagged_frame]
        cases fields.tag <;> rfl
      · intro hplain
        rw [isTagged_frame, Option.isSome_eq_false_iff, Option.isNone_iff_eq_none] at hplain
        exact tagControl?_frame _ (congrArg (retag · (.tagged id)) hplain)
      · intro control htagged hcontrol
        rw [isTagged_frame] at htagged
        obtain ⟨stated, hstated⟩ := Option.isSome_iff_exists.mp htagged
        obtain rfl := Option.some.inj ((fields.tagControl?_frame hstated).symm.trans hcontrol)
        have hid := id.isLt
        have hrewritten := toNat_retagControl stated id
        refine ⟨retagControl stated id,
          tagControl?_frame _ (congrArg (retag · (.tagged id)) hstated), ?_, ?_⟩
        · omega
        · omega

end Fields

/-- A frame that was read or empty, and then edited, is a record of five parts; an edit writes one
of them, and edits of different parts may come in any order. -/
theorem Reachable.refines_fields {frame : Frame} (h : frame.Reachable) :
    ∃ fields : Fields, frame.LaysOut fields ∧
      (frame.isTagged = true ↔ frame.vlan? ≠ some .untagged) ∧
      (∀ edit, frame.Admits edit → ∃ next value, frame.edit? edit = some next ∧
        next.LaysOut (fields.set edit.part value) ∧ frame.Sets next edit ∧
        ∀ part, part ≠ edit.part → next.AlikeIn frame part) ∧
      (∀ vlan next, frame.setVlan? vlan = some next → frame.Retags next vlan) ∧
      (frame.isTagged = false → ∀ vlan,
        (frame.setVlan? vlan).bind (·.setVlan? .untagged) = some frame) ∧
      (∀ vlan, frame.vlan? = some vlan → frame.setVlan? vlan = some frame) ∧
      ∀ first second : Edit, first.part ≠ second.part →
        (frame.edit? first).bind (·.edit? second) = (frame.edit? second).bind (·.edit? first) := by
  obtain ⟨fields, rfl⟩ := h.exists_fields
  refine ⟨fields, fields.laysOut_frame, fields.isTagged_iff_vlan?_ne, ?_, ?_, ?_, ?_, ?_⟩
  · intro edit hadmits
    obtain ⟨updated, hupdated⟩ := fields.exists_edit?_of_admits hadmits
    have hset := hupdated
    rw [Fields.edit?_eq] at hset
    obtain ⟨value, -, rfl⟩ := Option.map_eq_some_iff.mp hset
    refine ⟨_, value, ?_, Fields.laysOut_frame _, fields.sets_frame hupdated, ?_⟩
    · rw [Fields.edit?_frame, hupdated]
      rfl
    · intro part hpart
      exact Fields.alikeIn_frame (fields.get_set_of_ne hpart value)
  · intro vlan next hnext
    rw [Fields.setVlan?_frame, Option.some.injEq] at hnext
    rw [← hnext]
    exact fields.retags_frame vlan
  · intro hplain vlan
    rw [Fields.isTagged_frame, Option.isSome_eq_false_iff, Option.isNone_iff_eq_none] at hplain
    rw [Fields.setVlan?_frame, Option.bind_some, Fields.setVlan?_frame]
    obtain ⟨destination, source, tag, etherType, payload⟩ := fields
    cases hplain
    cases vlan <;> rfl
  · intro vlan hvlan
    rw [Fields.vlan?_frame, Option.some.injEq] at hvlan
    rw [Fields.setVlan?_frame, ← hvlan, Fields.retag_vlan]
  · intro first second hparts
    have hcomm := congrArg (Option.map Fields.frame) (fields.edit?_comm hparts)
    simpa only [Fields.edit?_frame, Option.map_bind, Option.bind_map, Function.comp_def] using hcomm

def Fields.stacked : Fields where
  destination := .broadcast
  source := ⟨2, 0, 0, 0, 0, 1⟩
  tag := some 0xa00a
  etherType := EtherType.vlanTag
  payload := Bytes.ofWord 0x2014 ++ Bytes.ofWord EtherType.arp ++ Bytes.zeros 28

def Fields.stripped : Fields :=
  { Fields.stacked with tag := none }

theorem reachable_stacked : Fields.stacked.frame.Reachable :=
  .read (rfl : ofBytes Fields.stacked.frame.bytes = .ok Fields.stacked.frame)

theorem reachable_stripped : Fields.stripped.frame.Reachable :=
  .edited (.vlan .untagged) reachable_stacked rfl

theorem Reachable.refines_fields_stacked :
    (Fields.stacked.frame.Reachable ∧ ∃ fields, Fields.stacked.frame.LaysOut fields ∧
      Fields.stacked.frame.Retags (Fields.frame { Fields.stacked with tag := some 0xa014 })
        (.tagged 20)) ∧
    Fields.stripped.frame.Reachable ∧ ∃ fields, Fields.stripped.frame.LaysOut fields ∧
      (Fields.stripped.frame.edit? (.vlan (.tagged 20))).bind (·.edit? (.etherType EtherType.arp)) =
        (Fields.stripped.frame.edit? (.etherType EtherType.arp)).bind
          (·.edit? (.vlan (.tagged 20))) := by
  obtain ⟨fields, hlaid, -, -, hretags, -⟩ := Reachable.refines_fields reachable_stacked
  obtain ⟨rest, hrest, -, -, -, -, -, hcomm⟩ := Reachable.refines_fields reachable_stripped
  exact ⟨⟨reachable_stacked, fields, hlaid, hretags (.tagged 20) _ rfl⟩, reachable_stripped,
    rest, hrest, hcomm (.vlan (.tagged 20)) (.etherType EtherType.arp) (by decide)⟩

end FabricArp.Frame
