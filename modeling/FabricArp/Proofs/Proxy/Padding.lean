import FabricArp.Proofs.Arp.Padding
import FabricArp.Proofs.Proxy.Recopying

namespace FabricArp

/-- A copy of the inbound frame with the bytes behind it; everything else as it is. -/
def Outbound.padded (bytes padding : Bytes) (outbound : Outbound) : Outbound :=
  if outbound.bytes = bytes then { outbound with bytes := bytes ++ padding } else outbound

def Verdict.padded (bytes padding : Bytes) (verdict : Verdict) : Verdict :=
  { verdict with sent := verdict.sent.map (.padded bytes padding) }

theorem Verdict.padded_eq_recopied (bytes padding : Bytes) (verdict : Verdict) :
    verdict.padded bytes padding = verdict.recopied bytes (bytes ++ padding) :=
  rfl

namespace Knowledge

variable {knowledge : Knowledge} {fields : Frame.Fields} {request : Arp.Packet} {arrival : Point}
  {bytes : Bytes} (padding : Bytes)

theorem resembles_padded (accepted : Arp.Packet.ofFrame fields.frame = .ok request) :
    Arp.Packet.Resembles ⟨(fields.padded padding).frame⟩ request := by
  obtain ⟨rfl, hframed⟩ := framed_of_accepted accepted
  have hsame := Arp.Packet.readsAs_padded hframed padding
  exact {
    accepted := Arp.Packet.ofFrame_of_framed (Arp.Packet.framed_padded hframed padding)
    destination? := fields.destination?_padded padding
    source? := hsame.source?
    vlan? := hsame.vlan?
    opcode? := hsame.opcode?
    hardwareLength? := hsame.hardwareLength?
    protocolLength? := hsame.protocolLength?
    senderMac := hsame.senderMac
    senderIp := hsame.protocolAddress .senderProtocol
    targetIp := hsame.protocolAddress .targetProtocol }

theorem Ruling.padded {verdict : Verdict} (h : Ruling knowledge fields.frame arrival verdict)
    (hplain : fields.Unambiguous)
    (hread : fields.frame.etherType? ≠ some EtherType.arp ∨
      ∃ packet, Arp.Packet.ofFrame fields.frame = .ok packet) :
    Ruling knowledge (fields.padded padding).frame arrival
      (verdict.padded fields.frame.bytes padding) := by
  rcases hread with hforeign | ⟨packet, accepted⟩
  · rw [fields.etherType?_frame, ne_eq, Option.some.injEq] at hforeign
    have hignored : Ruling knowledge fields.frame arrival .ignored :=
      .notArp fields.etherType?_frame hforeign
    obtain rfl : verdict = .ignored :=
      (verdict_of_ruling h).symm.trans (verdict_of_ruling hignored)
    exact .notArp (Frame.Fields.etherType?_frame _) hforeign
  · rw [Verdict.padded_eq_recopied, ← Frame.Fields.bytes_padded]
    exact h.recopied (Frame.Fields.ofBytes_frame hplain) accepted
      (resembles_padded padding accepted)

/-- Bytes behind a frame that is readable, if it is ARP, go out with its copies and change nothing
else. -/
theorem verdict_handle_append (knowledge : Knowledge) {frame : Frame}
    (hframe : Frame.ofBytes bytes = .ok frame)
    (hread : frame.etherType? ≠ some EtherType.arp ∨
      ∃ packet, Arp.Packet.ofFrame frame = .ok packet) (arrival : Point) (padding : Bytes) :
    ∃ padded, Frame.ofBytes (bytes ++ padding) = .ok padded ∧
      (knowledge.handle padded arrival).verdict =
        (knowledge.handle frame arrival).verdict.padded bytes padding := by
  obtain ⟨fields, rfl, rfl, hplain⟩ := Frame.exists_fields hframe
  obtain ⟨verdict, hruling⟩ := exists_ruling knowledge fields arrival
  refine ⟨_, Frame.Fields.ofBytes_padded hplain padding, ?_⟩
  rw [verdict_of_ruling hruling, verdict_of_ruling (hruling.padded padding hplain hread)]

theorem verdict_handle_append_question :
    let knowledge := (Controller.ofInventory .twoHosts).classify.1.knowledge .least
    Frame.ofBytes question.bytes = .ok question ∧
    Arp.Packet.ofFrame question = .ok ⟨question⟩ ∧
    (knowledge.handle question questioner.location).verdict.sent ≠ [] ∧
    ∃ padded, Frame.ofBytes (question.bytes ++ Bytes.zeros 18) = .ok padded ∧
      (knowledge.handle padded questioner.location).verdict =
        (knowledge.handle question questioner.location).verdict.padded question.bytes
          (Bytes.zeros 18) :=
  have hframe : Frame.ofBytes question.bytes = .ok question := rfl
  have haccepted : Arp.Packet.ofFrame question = .ok ⟨question⟩ := rfl
  ⟨hframe, haccepted, List.cons_ne_nil _ _,
    verdict_handle_append _ hframe (.inr ⟨_, haccepted⟩) _ (Bytes.zeros 18)⟩

end Knowledge

end FabricArp
