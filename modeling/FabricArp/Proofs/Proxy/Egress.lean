import FabricArp.Proofs.Partition.Snapshot
import FabricArp.Proofs.Proxy.Handling
import FabricArp.Proofs.Proxy.Run

namespace FabricArp

namespace Knowledge

def Open (knowledge : Knowledge) (point : Point) : Prop :=
  knowledge.table.state? point ≠ some .internal

theorem sendTo_of_open {knowledge : Knowledge} {frame : Frame} {out : Point}
    (hopen : knowledge.table.isInternal out = false) :
    knowledge.sendTo frame out = .send ⟨out, frame.bytes⟩ := by
  rw [sendTo, if_neg (Bool.eq_false_iff.mp hopen)]

variable (knowledge : Knowledge) (frame : Frame)

theorem flood_confined : (knowledge.flood frame).Confined knowledge.Open := by
  intro outbound houtbound
  simp only [flood, Handling.perform, Action.sent, List.filterMap_map, List.mem_filterMap,
    Function.comp_apply, Option.some.injEq] at houtbound
  obtain ⟨point, hpoint, rfl⟩ := houtbound
  have hexternal := PortTable.mem_snapshot.mp (List.mem_filter.mp hpoint).1
  rw [Open, hexternal]
  intro hinternal
  cases hinternal

theorem sendTo_confined (out : Point) :
    (knowledge.sendTo frame out).Confined knowledge.Open := by
  rw [sendTo]
  split
  · exact .of_silent rfl
  · rename_i hopen
    intro outbound houtbound
    rw [List.mem_singleton.mp houtbound]
    exact PortTable.isInternal_eq_false_iff.mp (Bool.not_eq_true _ ▸ hopen)

theorem answerAtBoundary_confined (request : Arp.Packet) (target : Ip) (binding : Binding)
    (arrival : Point) :
    (knowledge.answerAtBoundary request target binding arrival).Confined knowledge.Open := by
  refine .forM fun address _ => ?_
  refine .bind (.of_silent rfl) fun answer => ?_
  exact .bind (.of_silent rfl) fun _ => knowledge.sendTo_confined answer arrival

theorem answerFromInventory_confined (request : Arp.Packet) (target : Ip) :
    (knowledge.answerFromInventory frame request target).Confined knowledge.Open := by
  refine .bind (.of_silent rfl) fun vlan => .bind (.of_silent rfl) fun source => ?_
  split
  · split
    · refine .bind (.of_silent rfl) fun answer => .bind (.of_silent rfl) fun _ => ?_
      exact knowledge.sendTo_confined answer _
    · exact knowledge.flood_confined frame
  · exact .bind (.of_silent rfl) fun _ => knowledge.flood_confined frame

theorem resolve_confined (request : Arp.Packet) (arrival : Point) :
    (knowledge.resolve frame request arrival).Confined knowledge.Open := by
  refine .bind (.of_silent rfl) fun target => ?_
  split
  · exact knowledge.answerAtBoundary_confined request target _ arrival
  · refine .bind (.of_silent rfl) fun sender => ?_
    split
    · exact .bind (.of_silent rfl) fun _ => knowledge.sendTo_confined frame _
    · exact knowledge.answerFromInventory_confined frame request target

theorem reply_confined (arrival : Point) :
    (knowledge.reply frame arrival).Confined knowledge.Open := by
  refine .bind (.of_silent rfl) fun request => .bind (.of_silent rfl) fun op => ?_
  split
  · exact knowledge.resolve_confined frame request arrival
  · exact .of_silent rfl

theorem deliver_confined : (knowledge.deliver frame).Confined knowledge.Open := by
  refine .bind (.of_silent rfl) fun destination => .bind (.of_silent rfl) fun vlan => ?_
  split
  · exact .bind (.of_silent rfl) fun _ => knowledge.sendTo_confined frame _
  · exact .bind (.of_silent rfl) fun _ => knowledge.flood_confined frame

theorem forward_confined : (knowledge.forward frame).Confined knowledge.Open := by
  refine .bind (.of_silent rfl) fun packet => .bind (.of_silent rfl) fun op => ?_
  split
  · exact knowledge.deliver_confined frame
  · exact .of_silent rfl

theorem handle_confined (arrival : Point) :
    (knowledge.handle frame arrival).Confined knowledge.Open := by
  have hblock : Handling.Confined knowledge.Open (do
      .block
      return true) := .of_silent rfl
  refine .bind (.of_silent rfl) fun etherType => ?_
  split
  · exact .of_silent rfl
  · refine .bind (.of_silent rfl) fun packet => .bind (.of_silent rfl) fun opcode => ?_
    split
    · exact .bind (knowledge.forward_confined frame) fun _ => hblock
    · exact .bind (knowledge.reply_confined frame arrival) fun _ => hblock
    · exact .bind (.of_silent rfl) fun _ => hblock

end Knowledge

namespace Controller

theorem step_confined (choice : AddressChoice) (controller : Controller) (command : Command) :
    (controller.step choice command).2.Confined (controller.knowledge choice).Open := by
  have hdone : ∀ response : Response, ∀ value : Unit,
      Handling.Confined (controller.knowledge choice).Open (pure response) :=
    fun _ _ => .of_silent rfl
  cases command with
  | classify | deliver _ | edit _ | fixOwners _ _ => exact .of_silent rfl
  | handle frame arrival =>
      exact .bind (Knowledge.handle_confined _ frame arrival) fun _ => .of_silent rfl
  | reply frame arrival =>
      exact .bind (Knowledge.reply_confined _ frame arrival) (hdone .done)
  | forward frame => exact .bind (Knowledge.forward_confined _ frame) (hdone .done)
  | flood frame => exact .bind (Knowledge.flood_confined _ frame) (hdone .done)
  | send frame out => exact .bind (Knowledge.sendTo_confined _ frame out) (hdone .done)

/-- After any run, the next command sends frames only out of points that are not internal in the
table of that moment, and classifications and events alone write to it. -/
theorem emissions_never_internal (inventory : Inventory) (turns : List Turn) (next : Turn) :
    let controller := (ofInventory inventory).after turns
    (∀ outbound ∈ Action.sent (controller.step next.choice next.command).2.actions,
      controller.table.state? outbound.out ≠ some .internal) ∧
    (controller.upkeep? next.command = none →
      (controller.advance next).table = controller.table) ∧
    controller.table =
      ((ofInventory inventory).upkeeps turns).foldl PortTable.upkeep .empty :=
  ⟨step_confined next.choice _ next.command, table_advance_of_upkeep?_eq_none,
    table_after (ofInventory inventory) turns⟩

end Controller

end FabricArp
