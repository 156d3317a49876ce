import FabricArp.Proofs.Arp.Contents
import Mathlib.Data.List.Basic

/-! Setters of ARP fields; a value that does not fit goes nowhere. -/

namespace FabricArp.Arp

/-- A value for one field, of the type that its setter takes. -/
inductive Assignment where
  | hardwareType (word : UInt16)
  | protocolType (word : UInt16)
  | opcode (word : UInt16)
  | senderMac (mac : Mac)
  | senderIp (ip : Ip)
  | targetMac (mac : Mac)
  | targetIp (ip : Ip)
deriving DecidableEq

def Assignment.field : Assignment → Field
  | .hardwareType _ => .hardwareType
  | .protocolType _ => .protocolType
  | .opcode _ => .opcode
  | .senderMac _ => .senderHardware
  | .senderIp _ => .senderProtocol
  | .targetMac _ => .targetHardware
  | .targetIp _ => .targetProtocol

def Assignment.bytes : Assignment → Bytes
  | .hardwareType word | .protocolType word | .opcode word => Bytes.ofWord word
  | .senderMac mac | .targetMac mac => mac.bytes
  | .senderIp ip | .targetIp ip => ip.octets

theorem Field.not_mem_before (field : Field) : field ∉ field.before := by
  cases field <;> decide

theorem Field.not_mem_behind (field : Field) : field ∉ field.behind := by
  cases field <;> decide

namespace Contents

def Fits (contents : Contents) (assignment : Assignment) : Prop :=
  assignment.bytes.length = contents.layout.width assignment.field

instance (contents : Contents) (assignment : Assignment) :
    Decidable (contents.Fits assignment) :=
  inferInstanceAs (Decidable (_ = _))

def put (contents : Contents) : Assignment → Contents
  | .hardwareType word => { contents with hardwareType := word }
  | .protocolType word => { contents with protocolType := word }
  | .opcode word => { contents with opcode := word }
  | .senderMac mac =>
      if h : contents.Fits (.senderMac mac) then
        { contents with senderHardware := mac.bytes, length_senderHardware := h }
      else contents
  | .senderIp ip =>
      if h : contents.Fits (.senderIp ip) then
        { contents with senderProtocol := ip.octets, length_senderProtocol := h }
      else contents
  | .targetMac mac =>
      if h : contents.Fits (.targetMac mac) then
        { contents with targetHardware := mac.bytes, length_targetHardware := h }
      else contents
  | .targetIp ip =>
      if h : contents.Fits (.targetIp ip) then
        { contents with targetProtocol := ip.octets, length_targetProtocol := h }
      else contents

variable (contents : Contents) (assignment other : Assignment)

theorem put_of_not_fits (h : ¬contents.Fits assignment) : contents.put assignment = contents := by
  cases assignment with
  | hardwareType _ | protocolType _ | opcode _ => exact absurd rfl h
  | senderMac _ | senderIp _ | targetMac _ | targetIp _ => exact dif_neg h

theorem field_put_of_fits (h : contents.Fits assignment) (field : Field) :
    (contents.put assignment).field field =
      if field = assignment.field then assignment.bytes else contents.field field := by
  cases assignment with
  | hardwareType _ | protocolType _ | opcode _ => cases field <;> rfl
  | senderMac _ | senderIp _ | targetMac _ | targetIp _ =>
      rw [put, dif_pos h]
      cases field <;> rfl

theorem layout_put : (contents.put assignment).layout = contents.layout := by
  rcases Decidable.em (contents.Fits assignment) with h | h
  · cases assignment with
    | hardwareType _ | protocolType _ | opcode _ => rfl
    | senderMac _ | senderIp _ | targetMac _ | targetIp _ =>
        rw [put, dif_pos h]
        rfl
  · rw [put_of_not_fits contents assignment h]

theorem padding_put : (contents.put assignment).padding = contents.padding := by
  rcases Decidable.em (contents.Fits assignment) with h | h
  · cases assignment with
    | hardwareType _ | protocolType _ | opcode _ => rfl
    | senderMac _ | senderIp _ | targetMac _ | targetIp _ => rw [put, dif_pos h]
  · rw [put_of_not_fits contents assignment h]

theorem fits_put : (contents.put assignment).Fits other ↔ contents.Fits other := by
  rw [Fits, Fits, layout_put]

theorem field_put_of_ne {field : Field} (h : field ≠ assignment.field) :
    (contents.put assignment).field field = contents.field field := by
  rcases Decidable.em (contents.Fits assignment) with hfits | hforeign
  · rw [field_put_of_fits contents assignment hfits, if_neg h]
  · rw [put_of_not_fits contents assignment hforeign]

theorem field_put_self (h : contents.Fits assignment) :
    (contents.put assignment).field assignment.field = assignment.bytes := by
  rw [field_put_of_fits contents assignment h, if_pos rfl]

theorem payload_put (h : contents.Fits assignment) :
    (contents.put assignment).payload =
      assignment.field.before.flatMap contents.field ++ assignment.bytes ++
        (assignment.field.behind.flatMap contents.field ++ contents.padding) := by
  have hother : ∀ fields : List Field, assignment.field ∉ fields →
      fields.flatMap (contents.put assignment).field = fields.flatMap contents.field := by
    intro fields hfields
    refine List.flatMap_congr fun field hfield => contents.field_put_of_ne assignment ?_
    rintro rfl
    exact hfields hfield
  rw [payload_split _ assignment.field, field_put_self contents assignment h, padding_put,
    hother _ assignment.field.not_mem_before, hother _ assignment.field.not_mem_behind]

theorem eq_of_field {left right : Contents}
    (hfield : ∀ field, left.field field = right.field field)
    (hpadding : left.padding = right.padding) : left = right := by
  cases left
  cases right
  rw [mk.injEq]
  exact ⟨Bytes.ofWord_injective (hfield .hardwareType),
    Bytes.ofWord_injective (hfield .protocolType),
    List.head_eq_of_cons_eq (hfield .hardwareLength),
    List.head_eq_of_cons_eq (hfield .protocolLength), Bytes.ofWord_injective (hfield .opcode),
    hfield .senderHardware, hfield .senderProtocol, hfield .targetHardware,
    hfield .targetProtocol, hpadding⟩

theorem put_comm {assignment other : Assignment} (h : assignment.field ≠ other.field) :
    (contents.put assignment).put other = (contents.put other).put assignment := by
  rcases Decidable.em (contents.Fits assignment) with hfits | hforeign
  · rcases Decidable.em (contents.Fits other) with hother | hother
    · have hfits_after := (contents.fits_put other assignment).mpr hfits
      have hother_after := (contents.fits_put assignment other).mpr hother
      refine eq_of_field (fun field => ?_) (by simp only [padding_put])
      simp only [field_put_of_fits _ _ hfits, field_put_of_fits _ _ hother,
        field_put_of_fits _ _ hfits_after, field_put_of_fits _ _ hother_after]
      split
      · rename_i hfield
        rw [if_neg fun hboth => h (hboth.symm.trans hfield)]
      · rfl
    · have hother_after := mt (contents.fits_put assignment other).mp hother
      rw [put_of_not_fits _ _ hother_after, put_of_not_fits _ _ hother]
  · have hforeign_after := mt (contents.fits_put other assignment).mp hforeign
    rw [put_of_not_fits _ _ hforeign_after, put_of_not_fits _ _ hforeign]

end Contents

namespace Packet

def assign? (packet : Packet) : Assignment → Option Packet
  | .hardwareType word => packet.setHardwareType? word
  | .protocolType word => packet.setProtocolType? word
  | .opcode word => packet.setOpcode? word
  | .senderMac mac => packet.setSenderMac? mac
  | .senderIp ip => packet.setSenderIp? ip
  | .targetMac mac => packet.setTargetMac? mac
  | .targetIp ip => packet.setTargetIp? ip

theorem assign?_eq_write? (packet : Packet) (assignment : Assignment) :
    packet.assign? assignment = packet.write? assignment.field assignment.bytes := by
  cases assignment <;> rfl

theorem assign?_frame {fields : Frame.Fields} {contents : Contents}
    (hpayload : fields.payload = contents.payload) (assignment : Assignment) :
    assign? ⟨fields.frame⟩ assignment =
      if contents.Fits assignment then
        some ⟨Frame.Fields.frame { fields with payload := (contents.put assignment).payload }⟩
      else none := by
  rw [assign?_eq_write?]
  split
  · rename_i hfits
    have hlength := contents.length_field assignment.field
    rw [contents.payload_put assignment hfits]
    refine write?_frame (hpayload.trans (contents.payload_split assignment.field)) ?_ ?_
      (hfits.trans hlength.symm)
    · rw [hpayload]
      exact contents.length_before assignment.field
    · rw [hpayload]
      exact hlength
  · rename_i hforeign
    refine write?_of_length_ne fields.payload?_frame ?_
    rw [hpayload]
    exact hforeign

end Packet

end FabricArp.Arp
