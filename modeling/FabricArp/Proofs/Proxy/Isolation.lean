import FabricArp.Proofs.Proxy.Failing
import FabricArp.Proofs.Proxy.Ruling

namespace FabricArp

namespace Knowledge

variable {left right knowledge : Knowledge} {frame : Frame} {request : Arp.Packet} {target : Ip}
  {binding : Binding} {arrival out : Point}

theorem sendTo_congr (h : left.table.isInternal out = right.table.isInternal out) :
    left.sendTo frame out = right.sendTo frame out := by
  rw [sendTo, sendTo, h]

theorem answerAtBoundary_congr
    (h : left.table.isInternal arrival = right.table.isInternal arrival) :
    left.answerAtBoundary request target binding arrival =
      right.answerAtBoundary request target binding arrival := by
  simp only [answerAtBoundary, sendTo_congr h]

theorem boundary?_of_bound (hbinding : knowledge.topology.binding? arrival = some binding)
    (hbound : binding.addresses.isEmpty = false) :
    knowledge.topology.boundary? arrival = some binding := by
  rw [Topology.boundary?, hbinding, Option.filter_some, hbound]
  rfl

theorem reply_congr_of_boundary (hleft : left.topology.boundary? arrival = some binding)
    (hright : right.topology.boundary? arrival = some binding)
    (hinternal : left.table.isInternal arrival = right.table.isInternal arrival) :
    left.reply frame arrival = right.reply frame arrival := by
  simp only [reply, resolve, hleft, hright, answerAtBoundary_congr hinternal]

theorem sendTo_confined_out (frame : Frame) (out : Point) :
    (knowledge.sendTo frame out).Confined (· = out) := by
  rw [sendTo]
  split
  · exact .of_silent rfl
  · intro outbound houtbound
    rw [List.mem_singleton.mp houtbound]

theorem reply_confined_of_boundary
    (hbinding : knowledge.topology.boundary? arrival = some binding) :
    (knowledge.reply frame arrival).Confined (· = arrival) := by
  refine .bind (.of_silent rfl) fun request => .bind (.of_silent rfl) fun op => ?_
  split
  · refine .bind (.of_silent rfl) fun target => ?_
    rw [hbinding]
    refine .forM fun address _ => .bind (.of_silent rfl) fun answer => ?_
    exact .bind (.of_silent rfl) fun _ => sendTo_confined_out answer arrival
  · exact .of_silent rfl

theorem handle_of_requestOpcode {fields : Frame.Fields}
    (hopcode : Arp.Packet.opcode? ⟨fields.frame⟩ = some Arp.Op.request.code) :
    knowledge.handle fields.frame arrival = (do
      let etherType ← fields.frame.etherType?
      if etherType ≠ EtherType.arp then
        return false
      knowledge.reply fields.frame arrival
      .block
      return true) := by
  rcases Decidable.em (fields.etherType = EtherType.arp) with harp | hother
  · have announced : fields.frame.etherType? = some EtherType.arp := by
      rw [fields.etherType?_frame, harp]
    match accepted : Arp.Packet.ofFrame fields.frame with
    | .ok packet =>
        obtain ⟨rfl, -⟩ := Arp.Packet.framed_of_ofFrame fields.etherType?_frame
          fields.payload?_frame accepted
        rw [handle_of_opcode announced accepted hopcode, announced]
        rfl
    | .error failure =>
        rw [handle, reply, announced, readArp_eq announced, accepted]
        cases failure <;> rfl
  · rw [handle, fields.etherType?_frame]
    change (if fields.etherType ≠ EtherType.arp then _ else _ : Handling Bool) =
      if fields.etherType ≠ EtherType.arp then _ else _
    rw [if_pos hother, if_pos hother]

theorem handle_congr_of_request {fields : Frame.Fields}
    (hopcode : Arp.Packet.opcode? ⟨fields.frame⟩ = some Arp.Op.request.code)
    (hreply : left.reply fields.frame arrival = right.reply fields.frame arrival) :
    left.handle fields.frame arrival = right.handle fields.frame arrival := by
  rw [handle_of_requestOpcode hopcode, handle_of_requestOpcode hopcode, hreply]

theorem handle_confined_of_request {allowed : Point → Prop} {fields : Frame.Fields}
    (hopcode : Arp.Packet.opcode? ⟨fields.frame⟩ = some Arp.Op.request.code)
    (hreply : (knowledge.reply fields.frame arrival).Confined allowed) :
    (knowledge.handle fields.frame arrival).Confined allowed := by
  rw [handle_of_requestOpcode hopcode]
  refine .bind (.of_silent rfl) fun etherType => ?_
  split
  · exact .of_silent rfl
  · exact .bind hreply fun _ => .of_silent rfl

/-- A request that arrives at a bound port is settled by its binding and by whether the port is
internal, and by nothing else that is known. -/
theorem boundary_request_eq {bytes : Bytes} (hframe : Frame.ofBytes bytes = .ok frame)
    (hopcode : Arp.Packet.opcode? ⟨frame⟩ = some Arp.Op.request.code)
    (hleft : left.topology.binding? arrival = some binding)
    (hright : right.topology.binding? arrival = some binding)
    (hbound : binding.addresses.isEmpty = false)
    (hinternal : left.table.isInternal arrival = right.table.isInternal arrival) :
    left.reply frame arrival = right.reply frame arrival ∧
      left.handle frame arrival = right.handle frame arrival ∧
      (left.reply frame arrival).Confined (· = arrival) ∧
      (left.handle frame arrival).Confined (· = arrival) := by
  obtain ⟨fields, rfl, -, -⟩ := Frame.exists_fields hframe
  have hreply : left.reply fields.frame arrival = right.reply fields.frame arrival :=
    reply_congr_of_boundary (boundary?_of_bound hleft hbound) (boundary?_of_bound hright hbound)
      hinternal
  have hconfined : (left.reply fields.frame arrival).Confined (· = arrival) :=
    reply_confined_of_boundary (boundary?_of_bound hleft hbound)
  exact ⟨hreply, handle_congr_of_request hopcode hreply, hconfined,
    handle_confined_of_request hopcode hconfined⟩

end Knowledge

theorem Knowledge.boundary_request_eq_twofold :
    let left : Knowledge :=
      ⟨{ Inventory.empty with bindings := [.twofold] }.topology, .empty, .least⟩
    let right : Knowledge := (Controller.ofInventory
      { Inventory.twoHosts with bindings := [.twofold] }).classify.1.knowledge .least
    let point := Binding.twofold.point
    (Frame.ofBytes inquiry.bytes = .ok inquiry ∧
      Arp.Packet.opcode? ⟨inquiry⟩ = some Arp.Op.request.code ∧
      left.topology.binding? point = some Binding.twofold ∧
      right.topology.binding? point = some Binding.twofold ∧
      Binding.twofold.addresses.isEmpty = false ∧
      left.table.isInternal point = right.table.isInternal point) ∧
    Action.sent (left.handle inquiry point).actions ≠ [] ∧
    left.reply inquiry point = right.reply inquiry point ∧
      left.handle inquiry point = right.handle inquiry point ∧
      (left.reply inquiry point).Confined (· = point) ∧
      (left.handle inquiry point).Confined (· = point) :=
  have hframe : Frame.ofBytes inquiry.bytes = .ok inquiry := rfl
  ⟨⟨hframe, rfl, rfl, rfl, rfl, rfl⟩, List.cons_ne_nil _ _,
    boundary_request_eq hframe rfl rfl rfl rfl rfl⟩

namespace Inventory

def hostsOn (inventory : Inventory) (vlan : Vlan) : List Host :=
  inventory.hosts.filter fun host => host.id.vlan = vlan

variable (inventory : Inventory) (vlan : Vlan)

theorem owner?_eq (ip : Ip) :
    inventory.topology.owner? ip vlan =
      (inventory.hostsOn vlan).find? fun host => ip ∈ host.addresses := by
  change (inventory.hosts.filter _).find? _ = _
  rw [hostsOn, List.find?_filter, List.find?_filter]
  congr 1
  funext host
  exact decide_eq_decide.mpr and_comm

theorem host?_eq (mac : Mac) :
    inventory.topology.host? ⟨mac, vlan⟩ =
      (inventory.hostsOn vlan).find? fun host => host.id = ⟨mac, vlan⟩ := by
  rw [hostsOn, List.find?_filter]
  change inventory.hosts.find? _ = _
  congr 1
  funext host
  refine decide_eq_decide.mpr ⟨?_, fun h => of_decide_eq_true h.2⟩
  intro h
  exact ⟨decide_eq_true (congrArg HostId.vlan h), decide_eq_true h⟩

end Inventory

namespace Knowledge

/-- The same ports, bindings and choice of addresses, and the same hosts on one VLAN. -/
structure AlikeOn (vlan : Vlan) (left right : Knowledge) : Prop where
  boundary : ∀ point, left.topology.boundary? point = right.topology.boundary? point
  gateway : ∀ ip, left.topology.gateway? ip = right.topology.gateway? ip
  owner : ∀ ip, left.topology.owner? ip vlan = right.topology.owner? ip vlan
  host : ∀ mac, left.topology.host? ⟨mac, vlan⟩ = right.topology.host? ⟨mac, vlan⟩
  table : left.table = right.table
  choice : left.choice = right.choice

theorem alikeOn_of_hostsOn {left right : Inventory} {vlan : Vlan}
    (hhosts : left.hostsOn vlan = right.hostsOn vlan) (hbindings : left.bindings = right.bindings)
    (table : PortTable) (choice : AddressChoice) :
    AlikeOn vlan ⟨left.topology, table, choice⟩ ⟨right.topology, table, choice⟩ where
  boundary := by
    intro point
    simp only [Topology.boundary?, Inventory.topology, hbindings]
  gateway := by
    intro ip
    simp only [Topology.gateway?, Inventory.topology, hbindings]
  owner := by
    intro ip
    rw [Inventory.owner?_eq, Inventory.owner?_eq, hhosts]
  host := by
    intro mac
    rw [Inventory.host?_eq, Inventory.host?_eq, hhosts]
  table := rfl
  choice := rfl

namespace AlikeOn

variable {vlan : Vlan} {left right : Knowledge} {frame : Frame} (h : AlikeOn vlan left right)
include h

theorem sendTo (frame : Frame) (out : Point) : left.sendTo frame out = right.sendTo frame out :=
  sendTo_congr (by rw [h.table])

theorem flood (frame : Frame) : left.flood frame = right.flood frame := by
  simp only [Knowledge.flood, floodPoints, Topology.isBoundary, h.table, h.boundary]

theorem answerFromInventory (hvlan : frame.vlan? = some vlan) (request : Arp.Packet)
    (target : Ip) :
    left.answerFromInventory frame request target =
      right.answerFromInventory frame request target := by
  simp only [Knowledge.answerFromInventory, hvlan, Handling.liftOption_bind, h.owner, h.host,
    h.choice, h.sendTo, h.flood]

theorem resolve (hvlan : frame.vlan? = some vlan) (request : Arp.Packet) (arrival : Point) :
    left.resolve frame request arrival = right.resolve frame request arrival := by
  simp only [Knowledge.resolve, answerAtBoundary, h.boundary, h.gateway, h.sendTo,
    h.answerFromInventory hvlan]

theorem deliver (hvlan : frame.vlan? = some vlan) : left.deliver frame = right.deliver frame := by
  simp only [Knowledge.deliver, hvlan, Handling.liftOption_bind, h.host, h.sendTo, h.flood]

theorem handle (hvlan : frame.vlan? = some vlan) (arrival : Point) :
    left.handle frame arrival = right.handle frame arrival := by
  simp only [Knowledge.handle, reply, forward, h.resolve hvlan, h.deliver hvlan]

end AlikeOn

/-- Only the hosts of the VLAN of a frame make a difference to it, in the order in which they are
listed. -/
theorem handle_eq_of_hostsOn {left right : Inventory} {frame : Frame} {vlan : Vlan}
    (hvlan : frame.vlan? = some vlan) (hhosts : left.hostsOn vlan = right.hostsOn vlan)
    (hbindings : left.bindings = right.bindings) (table : PortTable) (choice : AddressChoice)
    (arrival : Point) :
    handle ⟨left.topology, table, choice⟩ frame arrival =
      handle ⟨right.topology, table, choice⟩ frame arrival :=
  (alikeOn_of_hostsOn hhosts hbindings table choice).handle hvlan arrival

end Knowledge

def Host.shadow (host : Host) (vlan : Vlan) : Host :=
  { host with id := ⟨host.id.mac, vlan⟩, location := ⟨⟨"b"⟩, 1⟩ }

def Inventory.shadowed : Inventory :=
  { Inventory.twoHosts with
    hosts := [questioned.shadow (.tagged 0), questioner, questioner.shadow (.tagged 7),
      questioned] }

theorem Knowledge.handle_eq_of_hostsOn_shadowed :
    let table := PortTable.ofTopology Inventory.twoHosts.topology
    (question.vlan? = some .untagged ∧
      Inventory.twoHosts.hostsOn .untagged = Inventory.shadowed.hostsOn .untagged ∧
      Inventory.twoHosts.bindings = Inventory.shadowed.bindings) ∧
    Action.sent (handle ⟨Inventory.shadowed.topology, table, .least⟩ question
      questioner.location).actions ≠ [] ∧
    handle ⟨Inventory.twoHosts.topology, table, .least⟩ question questioner.location =
      handle ⟨Inventory.shadowed.topology, table, .least⟩ question questioner.location :=
  have hvlan : question.vlan? = some .untagged := rfl
  have hhosts : Inventory.twoHosts.hostsOn .untagged = Inventory.shadowed.hostsOn .untagged :=
    by decide
  ⟨⟨hvlan, hhosts, rfl⟩, List.cons_ne_nil _ _,
    handle_eq_of_hostsOn hvlan hhosts rfl _ .least _⟩

end FabricArp
