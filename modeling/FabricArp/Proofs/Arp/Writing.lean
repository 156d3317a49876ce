import FabricArp.Proofs.Arp.Reading
import FabricArp.Proofs.Ethernet.Editing

namespace FabricArp.Arp.Packet

theorem write?_frame {fields : Frame.Fields} {field : Field} {before middle behind bytes : Bytes}
    (hpayload : fields.payload = before ++ middle ++ behind)
    (hstart : before.length = (Layout.ofPayload fields.payload).start field)
    (hmiddle : middle.length = (Layout.ofPayload fields.payload).width field)
    (hwidth : bytes.length = middle.length) :
    write? ⟨fields.frame⟩ field bytes =
      some ⟨Frame.Fields.frame { fields with payload := before ++ bytes ++ behind }⟩ := by
  have hwritten : fields.payload.overwrite? ((Layout.ofPayload fields.payload).start field) bytes =
      some (before ++ bytes ++ behind) := by
    rw [← hstart, hpayload]
    exact Bytes.overwrite?_append rfl hwidth
  rw [write?, fields.payload?_frame]
  change (if bytes.length = (Layout.ofPayload fields.payload).width field then _ else none) = _
  rw [if_pos (hwidth.trans hmiddle), fields.writePayload?_frame, hwritten]
  rfl

theorem write?_of_length_ne {packet : Packet} {payload bytes : Bytes} {field : Field}
    (hpayload : packet.frame.payload? = some payload)
    (hwidth : bytes.length ≠ (Layout.ofPayload payload).width field) :
    packet.write? field bytes = none := by
  rw [write?, hpayload]
  exact if_neg hwidth

end FabricArp.Arp.Packet
