import FabricArp.Proofs.Arp.Encoding
import FabricArp.Proofs.Proxy.Isolation

namespace FabricArp

namespace Binding

variable {binding : Binding} {address : InterfaceAddress}

theorem occurrences_pos (held : address ∈ binding.addresses) :
    0 < binding.occurrences address.ip :=
  List.countP_pos_iff.mpr ⟨address, held, decide_eq_true rfl⟩

theorem occurrences_eq_one_iff (held : address ∈ binding.addresses) :
    binding.occurrences address.ip = 1 ↔
      ∀ other ∈ binding.addresses, other.ip = address.ip → other.length = address.length := by
  rw [occurrences, List.countP_eq_length_filter]
  have hmem : ∀ other, other ∈ binding.addresses.toList.filter (·.ip = address.ip) ↔
      other ∈ binding.addresses ∧ other.ip = address.ip := by
    intro other
    rw [List.mem_filter, decide_eq_true_iff, SortedSet.mem_def]
  constructor
  · intro hone other hother hip
    obtain ⟨only, honly⟩ := List.length_eq_one_iff.mp hone
    have hfirst := (hmem address).mpr ⟨held, rfl⟩
    have hsecond := (hmem other).mpr ⟨hother, hip⟩
    rw [honly, List.mem_singleton] at hfirst hsecond
    rw [hsecond, hfirst]
  · intro hsame
    have hascending : Ascending (binding.addresses.toList.filter (·.ip = address.ip)) :=
      binding.addresses.ascending.filter _
    have hsingle : binding.addresses.toList.filter (·.ip = address.ip) = [address] := by
      refine hascending.eq_of_mem_iff (List.pairwise_singleton _ _) fun other => ?_
      rw [hmem, List.mem_singleton]
      constructor
      · rintro ⟨hother, hip⟩
        obtain ⟨ip, length⟩ := other
        cases hip
        exact congrArg (InterfaceAddress.mk address.ip) (hsame _ hother rfl)
      · rintro rfl
        exact ⟨held, rfl⟩
    rw [hsingle]
    rfl

end Binding

namespace Knowledge

variable {knowledge : Knowledge} {frame : Frame} {binding : Binding} {address : InterfaceAddress}
  {arrival : Point} {bytes : Bytes}

theorem reply_yields_replicate {answer : Frame} {target : Ip} {payload : Bytes}
    (hframed : Arp.Packet.Framed ⟨frame⟩ payload) (hasks : Asks frame ⟨frame⟩ target)
    (hbound : knowledge.topology.boundary? arrival = some binding)
    (hopen : knowledge.table.state? arrival ≠ some .internal)
    (hanswer : Arp.Packet.answer ⟨frame⟩ target binding.mac = .ok answer) :
    (knowledge.reply frame arrival).Yields (.ok ())
      (List.replicate (binding.occurrences target) ⟨arrival, answer.bytes⟩) := by
  have hyields : (knowledge.answerAtBoundary ⟨frame⟩ target binding arrival).Yields (.ok ())
      (List.replicate (binding.occurrences target) (knowledge.unicast answer arrival)).flatten :=
    answerAtBoundary_yields hanswer
  rw [unicast, if_neg hopen, List.flatten_replicate_singleton] at hyields
  rwa [reply_of_request hframed.announced hasks.accepted hasks.opcode,
    resolve_of_boundary hasks.target hbound]

/-- A request for a bound address is answered as often as the address is bound where it arrived,
so exactly once if it is bound in one subnet only. -/
theorem reply_once_for_each_entry (hframe : Frame.ofBytes bytes = .ok frame)
    (hasks : Asks frame ⟨frame⟩ address.ip)
    (hhardware : Arp.Packet.hardwareLength? ⟨frame⟩ = some 6)
    (hbinding : knowledge.topology.binding? arrival = some binding)
    (held : address ∈ binding.addresses)
    (hopen : knowledge.table.state? arrival ≠ some .internal) :
    ∃ answer, Arp.Packet.AnsweredBy ⟨frame⟩ address.ip binding.mac answer ∧
      (knowledge.reply frame arrival).Yields (.ok ())
        (List.replicate (binding.occurrences address.ip) ⟨arrival, answer.bytes⟩) ∧
      0 < binding.occurrences address.ip ∧
      (Action.sent (knowledge.reply frame arrival).actions = [⟨arrival, answer.bytes⟩] ↔
        ∀ other ∈ binding.addresses, other.ip = address.ip → other.length = address.length) := by
  obtain ⟨fields, rfl, -, -⟩ := Frame.exists_fields hframe
  obtain ⟨-, hframed⟩ := framed_of_accepted hasks.accepted
  obtain ⟨question, hposes⟩ := Arp.Packet.exists_poses hframed hhardware hasks.length
  have hbound := Topology.boundary?_eq_some_iff.mpr ⟨hbinding, address, held⟩
  have hyields := reply_yields_replicate hframed hasks hbound hopen
    (hposes.answer_eq address.ip binding.mac)
  refine ⟨_, hposes.answeredBy address.ip binding.mac, hyields, Binding.occurrences_pos held, ?_⟩
  rw [hyields.sends, ← Binding.occurrences_eq_one_iff held]
  constructor
  · intro hsingle
    have hlength := congrArg List.length hsingle
    rwa [List.length_replicate] at hlength
  · intro hone
    rw [hone]
    rfl

theorem reply_once_for_each_entry_twofold :
    let knowledge : Knowledge :=
      ⟨{ Inventory.empty with bindings := [.twofold] }.topology, .empty, .least⟩
    let point := Binding.twofold.point
    let address : InterfaceAddress := ⟨⟨10, 0, 0, 1⟩, 24⟩
    (Frame.ofBytes inquiry.bytes = .ok inquiry ∧ Asks inquiry ⟨inquiry⟩ address.ip ∧
      Arp.Packet.hardwareLength? ⟨inquiry⟩ = some 6 ∧
      knowledge.topology.binding? point = some Binding.twofold ∧
      address ∈ Binding.twofold.addresses ∧
      knowledge.table.state? point ≠ some .internal) ∧
    ∃ answer, Arp.Packet.AnsweredBy ⟨inquiry⟩ address.ip Binding.twofold.mac answer ∧
      (knowledge.reply inquiry point).Yields (.ok ())
        [⟨point, answer.bytes⟩, ⟨point, answer.bytes⟩] := by
  intro knowledge point address
  have hframe : Frame.ofBytes inquiry.bytes = .ok inquiry := rfl
  have hasks : Asks inquiry ⟨inquiry⟩ address.ip := ⟨rfl, rfl, rfl, rfl⟩
  have held : address ∈ Binding.twofold.addresses := by decide
  have hopen : knowledge.table.state? point ≠ some .internal := nofun
  obtain ⟨answer, hanswered, hyields, -⟩ :=
    reply_once_for_each_entry hframe hasks rfl rfl held hopen
  exact ⟨⟨hframe, hasks, rfl, rfl, held, hopen⟩, answer, hanswered, hyields⟩

theorem reply_not_always_once :
    ¬∀ (inventory : Inventory) (table : PortTable) (choice : AddressChoice) (bytes : Bytes)
        (frame : Frame) (arrival : Point) (binding : Binding) (address : InterfaceAddress),
      Frame.ofBytes bytes = .ok frame → Asks frame ⟨frame⟩ address.ip →
      Arp.Packet.hardwareLength? ⟨frame⟩ = some 6 →
      inventory.topology.binding? arrival = some binding → address ∈ binding.addresses →
      table.state? arrival ≠ some .internal →
      ∃ answer, Arp.Packet.AnsweredBy ⟨frame⟩ address.ip binding.mac answer ∧
        Action.sent (reply ⟨inventory.topology, table, choice⟩ frame arrival).actions =
          [⟨arrival, answer.bytes⟩] := by
  intro h
  obtain ⟨answer, -, hsent⟩ := h { Inventory.empty with bindings := [.twofold] } .empty
    .least inquiry.bytes inquiry Binding.twofold.point Binding.twofold
    ⟨⟨10, 0, 0, 1⟩, 24⟩ rfl ⟨rfl, rfl, rfl, rfl⟩ rfl rfl (by decide) nofun
  cases congrArg List.length hsent

end Knowledge

end FabricArp
