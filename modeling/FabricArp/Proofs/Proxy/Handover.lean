import FabricArp.Proofs.Network.Listing
import FabricArp.Proofs.Proxy.Flooding
import FabricArp.Proofs.Proxy.Grounds
import FabricArp.Proofs.Proxy.Isolation

/-! Where a request arrived is looked up by its point, where it goes by its subnet. -/

namespace FabricArp

theorem Inventory.binds_of_covers {edits : List Inventory.Edit} {binding : Binding} {ip : Ip}
    (hbinding : binding ∈ (empty.applyAll edits).topology.bindings) (hcovers : binding.Covers ip) :
    (empty.applyAll edits).topology.Binds binding.point := by
  have hfound : (empty.applyAll edits).topology.binding? binding.point = some binding :=
    (Listing.find?_listed_iff Listing.bindings_replacing).mpr ⟨hbinding, rfl⟩
  obtain ⟨address, haddress, -⟩ := hcovers
  exact ⟨binding, hfound, address, haddress⟩

namespace Knowledge

/-- A request from inside a bound subnet that did not arrive at a boundary. -/
structure SentFromSubnet (topology : Topology) (frame : Frame) (arrival : Point)
    (sender : Ip) : Prop where
  accepted : Arp.Packet.ofFrame frame = .ok ⟨frame⟩
  opcode : Arp.Packet.opcode? ⟨frame⟩ = some Arp.Op.request.code
  stated : Arp.Packet.senderIp ⟨frame⟩ = .ok sender
  interior : ¬topology.Binds arrival
  inside : ∃ binding ∈ topology.bindings, binding.Covers sender

variable {frame : Frame} {arrival out : Point} {sender : Ip}

theorem SentFromSubnet.resolve_eq (knowledge : Knowledge)
    (h : SentFromSubnet knowledge.topology frame arrival sender) :
    ∃ gateway, First (·.Covers sender) knowledge.topology.bindings gateway ∧
      knowledge.resolve frame ⟨frame⟩ arrival = (do
        .note (.subnetHandover sender gateway.point)
        knowledge.sendTo frame gateway.point) := by
  obtain ⟨-, payload, hframed⟩ := Arp.Packet.exists_framed_of_ofFrame h.accepted
  obtain ⟨target, htarget⟩ := Arp.Packet.exists_protocolAddress hframed .targetProtocol
    (Arp.Packet.protocolLength?_of_protocolAddress hframed h.stated) rfl
  obtain ⟨binding, hbinding, hcovers⟩ := h.inside
  cases hgateway : knowledge.topology.gateway? sender with
  | none => exact absurd hcovers (Topology.gateway?_eq_none_iff.mp hgateway binding hbinding)
  | some gateway =>
      exact ⟨gateway, Topology.gateway?_eq_some_iff.mp hgateway, resolve_of_gateway htarget
        (Topology.boundary?_eq_none_iff.mpr h.interior) h.stated hgateway⟩

theorem flood_confined_of_binds {knowledge : Knowledge}
    (hbinds : knowledge.topology.Binds out) (frame : Frame) :
    (knowledge.flood frame).Confined (· ≠ out) := by
  intro outbound hsent
  rw [flood_yields.sends] at hsent
  obtain ⟨point, hpoint, rfl⟩ := List.mem_map.mp hsent
  rintro rfl
  exact (mem_floodPoints.mp hpoint).2 hbinds

/-- A request from a bound subnet that did not arrive at a boundary goes out unchanged of a
boundary point with that subnet, and never out of the point where it arrived. -/
theorem handover_never_returns (edits : List Inventory.Edit) (table : PortTable)
    (choice : AddressChoice)
    (h : SentFromSubnet (Inventory.empty.applyAll edits).topology frame arrival sender) :
    let knowledge : Knowledge := ⟨(Inventory.empty.applyAll edits).topology, table, choice⟩
    ∃ gateway ∈ knowledge.topology.bindings, gateway.Covers sender ∧
      .note (.subnetHandover sender gateway.point) ∈ (knowledge.reply frame arrival).actions ∧
      knowledge.topology.Binds gateway.point ∧ gateway.point ≠ arrival ∧
      (knowledge.reply frame arrival).Yields (.ok ()) (knowledge.unicast frame gateway.point) ∧
      (knowledge.handle frame arrival).verdict =
        .handled (knowledge.unicast frame gateway.point) ∧
      (knowledge.handle frame arrival).Confined (· ≠ arrival) ∧
      ∀ flooded, (knowledge.flood flooded).Confined (· ≠ gateway.point) := by
  intro knowledge
  obtain ⟨gateway, hgateway, hresolve⟩ := SentFromSubnet.resolve_eq knowledge h
  obtain ⟨-, payload, hframed⟩ := Arp.Packet.exists_framed_of_ofFrame h.accepted
  have hlisted : gateway ∈ knowledge.topology.bindings := hgateway.mem
  have hcovers : gateway.Covers sender := hgateway.1
  have hbinds : knowledge.topology.Binds gateway.point := Inventory.binds_of_covers hlisted hcovers
  have hapart : gateway.point ≠ arrival := by
    intro hsame
    rw [hsame] at hbinds
    exact h.interior hbinds
  have hyields : (knowledge.resolve frame ⟨frame⟩ arrival).Yields (.ok ())
      (knowledge.unicast frame gateway.point) := by
    rw [hresolve]
    exact .note_seq _ (sendTo_yields _)
  have hverdict : (knowledge.handle frame arrival).verdict =
      .handled (knowledge.unicast frame gateway.point) := by
    rw [handle_of_request hframed.announced h.accepted h.opcode]
    exact Handling.verdict_of_yields_ok hyields
  refine ⟨gateway, hlisted, hcovers, ?_, hbinds, hapart, ?_, hverdict, ?_,
    flood_confined_of_binds hbinds⟩
  · rw [reply_of_request hframed.announced h.accepted h.opcode, hresolve]
    exact List.mem_cons_self
  · rwa [reply_of_request hframed.announced h.accepted h.opcode]
  · intro outbound hsent
    have hsent : outbound ∈ (knowledge.handle frame arrival).verdict.sent := hsent
    rw [hverdict] at hsent
    rw [eq_of_mem_unicast hsent]
    exact hapart

theorem handover_never_returns_vacated :
    let edits : List Inventory.Edit :=
      [.addBinding { Binding.twofold with point := Binding.vacant.point },
        .addBinding .twofold, .addBinding .vacant]
    let knowledge : Knowledge := ⟨(Inventory.empty.applyAll edits).topology, .empty, .least⟩
    SentFromSubnet knowledge.topology inquiry Binding.vacant.point ⟨10, 0, 0, 7⟩ ∧
      ∃ gateway ∈ knowledge.topology.bindings, gateway.Covers ⟨10, 0, 0, 7⟩ ∧
        gateway.point ≠ Binding.vacant.point ∧
        (knowledge.reply inquiry Binding.vacant.point).Yields (.ok ())
          [⟨gateway.point, inquiry.bytes⟩] := by
  intro edits knowledge
  have hcovers : Binding.twofold.Covers ⟨10, 0, 0, 7⟩ :=
    ⟨⟨⟨10, 0, 0, 1⟩, 24⟩, by decide, by decide⟩
  have hinterior : ¬knowledge.topology.Binds Binding.vacant.point := by
    rw [← Topology.isBoundary_iff_binds]
    exact Bool.false_ne_true
  have h : SentFromSubnet knowledge.topology inquiry Binding.vacant.point ⟨10, 0, 0, 7⟩ :=
    ⟨rfl, rfl, rfl, hinterior, Binding.twofold, by decide, hcovers⟩
  obtain ⟨gateway, hlisted, hgateway, -, -, hapart, hyields, -⟩ :=
    handover_never_returns edits .empty .least h
  exact ⟨h, gateway, hlisted, hgateway, hapart, hyields⟩

end Knowledge

end FabricArp
