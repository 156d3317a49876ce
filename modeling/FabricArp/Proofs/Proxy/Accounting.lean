import FabricArp.Proofs.Proxy.Grounds
import FabricArp.Proofs.Proxy.Isolation

namespace FabricArp

namespace Notice

variable {notice : Notice}

def line (notice : Notice) : Level × String :=
  (notice.level, notice.message)

def unicastLines : List (Level × String) :=
  [(.debug, "answering for boundary address"), (.debug, "handing request to subnet port"),
    (.debug, "proxy reply"), (.debug, "forwarding reply")]

def floodLines : List (Level × String) :=
  [(.debug, "unresolved request"), (.debug, "reply for unknown host")]

def suppressedLine : Level × String :=
  (.warn, "not sending ARP out of an internal port")

theorem apart_of_unicast (h : notice.line ∈ unicastLines) :
    notice.line ≠ suppressedLine ∧ notice.line ∉ floodLines ∧ notice.level ≠ .warn := by
  have hlines : ∀ line ∈ unicastLines,
      line ≠ suppressedLine ∧ line ∉ floodLines ∧ line.1 ≠ .warn := by decide
  exact hlines _ h

theorem apart_of_flood (h : notice.line ∈ floodLines) : notice.level ≠ .warn := by
  have hlines : ∀ line ∈ floodLines, line.1 ≠ .warn := by decide
  exact hlines _ h

end Notice

namespace Action

variable {knowledge : Knowledge} {table : PortTable} {frame : Frame} {notice : Notice}
  {first next actions : List Action}

/-- Each announced frame is sent, or kept back at an internal point, and none is flooded. -/
structure Balanced (table : PortTable) (actions : List Action) : Prop where
  matched : (notices actions).countP (·.line ∈ Notice.unicastLines) =
    (sent actions).length + (notices actions).countP (·.line = Notice.suppressedLine)
  warned : ∀ notice ∈ notices actions, notice.level = .warn →
    ∃ out, notice = .fabricSuppressed out ∧ table.state? out = some .internal
  unflooded : ∀ notice ∈ notices actions, notice.line ∉ Notice.floodLines

namespace Balanced

theorem of_unreported (hnotices : notices actions = []) (hsent : sent actions = []) :
    Balanced table actions where
  matched := by
    rw [hnotices, hsent]
    rfl
  warned notice hnotice := by
    rw [hnotices] at hnotice
    cases hnotice
  unflooded notice hnotice := by
    rw [hnotices] at hnotice
    cases hnotice

theorem append (hfirst : Balanced table first) (hnext : Balanced table next) :
    Balanced table (first ++ next) where
  matched := by
    rw [notices_append, sent_append, List.countP_append, List.countP_append, List.length_append,
      hfirst.matched, hnext.matched]
    omega
  warned := by
    rw [notices_append]
    exact List.forall_mem_append.mpr ⟨hfirst.warned, hnext.warned⟩
  unflooded := by
    rw [notices_append]
    exact List.forall_mem_append.mpr ⟨hfirst.unflooded, hnext.unflooded⟩

theorem of_sent (h : notice.line ∈ Notice.unicastLines) (outbound : Outbound) :
    Balanced table [.note notice, .send outbound] := by
  obtain ⟨hsent, hunflooded, hlevel⟩ := Notice.apart_of_unicast h
  exact {
    matched := by simp [notices, sent, h, hsent]
    warned := by simp [notices, hlevel]
    unflooded := by simp [notices, hunflooded] }

theorem of_suppressed (h : notice.line ∈ Notice.unicastLines) {out : Point}
    (hinternal : table.state? out = some .internal) :
    Balanced table [.note notice, .note (.fabricSuppressed out)] := by
  obtain ⟨hsent, hunflooded, hlevel⟩ := Notice.apart_of_unicast h
  have hline : (Notice.fabricSuppressed out).line = Notice.suppressedLine := rfl
  have hunicast : Notice.suppressedLine ∉ Notice.unicastLines := by decide
  have hflood : Notice.suppressedLine ∉ Notice.floodLines := by decide
  exact {
    matched := by simp [notices, sent, h, hsent, hline, hunicast]
    warned := by simp [notices, hlevel, hinternal]
    unflooded := by simp [notices, hunflooded, hline, hflood] }

theorem of_unknownOpcode (opcode : UInt16) :
    Balanced table [.note (.unknownOpcode opcode)] where
  matched := rfl
  warned notice hnotice hwarn := by
    rw [List.mem_singleton.mp hnotice] at hwarn
    cases hwarn
  unflooded notice hnotice := by
    rw [List.mem_singleton.mp hnotice]
    exact of_decide_eq_true rfl

end Balanced

/-- Either every frame is accounted for by itself, or the frame is flooded with one report on it. -/
inductive Explained (knowledge : Knowledge) (frame : Frame) (actions : List Action) : Prop where
  | balanced (balance : Balanced knowledge.table actions)
  | flooded {notice : Notice} (announced : notice.line ∈ Notice.floodLines)
      (alone : notices actions = [notice])
      (sent : sent actions = sent (knowledge.flood frame).actions)

structure Accounted (knowledge : Knowledge) (frame : Frame) (actions : List Action) : Prop where
  unicast : (∀ notice ∈ notices actions, notice.line ∉ Notice.floodLines) →
    (notices actions).countP (·.line ∈ Notice.unicastLines) =
      (sent actions).length + (notices actions).countP (·.line = Notice.suppressedLine)
  warned : ∀ notice ∈ notices actions, notice.level = .warn →
    ∃ out, notice = .fabricSuppressed out ∧ knowledge.table.state? out = some .internal
  flood : ∀ notice ∈ notices actions, notice.line ∈ Notice.floodLines →
    notices actions = [notice] ∧ sent actions = sent (knowledge.flood frame).actions

theorem Explained.append_block (h : Explained knowledge frame actions) :
    Explained knowledge frame (actions ++ [.block]) := by
  cases h with
  | balanced balance => exact .balanced (balance.append (.of_unreported rfl rfl))
  | flooded announced alone sent =>
      have hnotices := notices_append actions [.block]
      have hsent := sent_append actions [.block]
      rw [alone] at hnotices
      rw [sent] at hsent
      exact .flooded announced hnotices (hsent.trans (List.append_nil _))

theorem Balanced.accounted (h : Balanced knowledge.table actions) :
    Accounted knowledge frame actions where
  unicast _ := h.matched
  warned := h.warned
  flood notice hnotice hflood := absurd hflood (h.unflooded notice hnotice)

theorem accounted_of_flooded (announced : notice.line ∈ Notice.floodLines)
    (alone : notices actions = [notice])
    (sent : sent actions = Action.sent (knowledge.flood frame).actions) :
    Accounted knowledge frame actions := by
  have hnotice : ∀ other ∈ notices actions, other = notice := by
    rw [alone]
    exact fun _ => List.mem_singleton.mp
  have hannounced : notice ∈ notices actions := by
    rw [alone]
    exact List.mem_cons_self
  exact {
    unicast := fun hunflooded => absurd announced (hunflooded notice hannounced)
    warned := by
      intro other hother hwarn
      rw [hnotice other hother] at hwarn
      exact absurd hwarn (Notice.apart_of_flood announced)
    flood := by
      intro other hother _
      rw [hnotice other hother]
      exact ⟨alone, sent⟩ }

theorem Explained.accounted (h : Explained knowledge frame actions) :
    Accounted knowledge frame actions := by
  cases h with
  | balanced balance => exact balance.accounted
  | flooded announced alone sent => exact accounted_of_flooded announced alone sent

end Action

namespace Handling

variable {α β : Type} {knowledge : Knowledge} {table : PortTable} {frame : Frame}
  {first : Handling α} {next : α → Handling β}

def Balances (table : PortTable) (handling : Handling α) : Prop :=
  Action.Balanced table handling.actions

def Explains (knowledge : Knowledge) (frame : Frame) (handling : Handling α) : Prop :=
  Action.Explained knowledge frame handling.actions

namespace Balances

theorem of_idle (h : first.actions = []) : first.Balances table := by
  rw [Balances, h]
  exact .of_unreported rfl rfl

theorem bind (hfirst : first.Balances table) (hnext : ∀ value, (next value).Balances table) :
    (first >>= next).Balances table := by
  rw [Balances]
  obtain hactions | ⟨value, -, hactions⟩ := actions_bind first next
  · rw [hactions]
    exact hfirst
  · rw [hactions]
    exact hfirst.append (hnext value)

theorem forM {elements : List α} {body : α → Handling Unit}
    (hbody : ∀ element ∈ elements, (body element).Balances table) :
    (elements.forM body).Balances table :=
  forM_of_seq (of_idle rfl) (fun _ _ hfirst hnext => hfirst.bind fun _ => hnext) hbody

end Balances

namespace Explains

theorem of_balances (h : first.Balances knowledge.table) : first.Explains knowledge frame :=
  .balanced h

theorem of_idle (h : first.actions = []) : first.Explains knowledge frame :=
  .of_balances (.of_idle h)

theorem bind_of_idle (hfirst : first.actions = [])
    (hnext : ∀ value, (next value).Explains knowledge frame) :
    (first >>= next).Explains knowledge frame := by
  obtain hactions | ⟨value, -, hactions⟩ := actions_bind first next
  · exact .of_idle (hactions.trans hfirst)
  · rw [Explains, hactions, hfirst]
    exact hnext value

theorem bind_block (hfirst : first.Explains knowledge frame) (value : β) :
    (first >>= fun _ => do
      block
      return value).Explains knowledge frame := by
  rw [Explains]
  obtain hactions | ⟨_, -, hactions⟩ := actions_bind first fun _ => (do
    block
    return value)
  · rw [hactions]
    exact hfirst
  · rw [hactions]
    exact Action.Explained.append_block hfirst

end Explains

end Handling

namespace Knowledge

open Handling

variable {knowledge : Knowledge} {frame : Frame} {arrival out : Point} {notice : Notice}

theorem note_sendTo_balances (h : notice.line ∈ Notice.unicastLines) :
    Balances knowledge.table (do
      .note notice
      knowledge.sendTo frame out) := by
  rw [sendTo]
  split
  · rename_i hinternal
    exact Action.Balanced.of_suppressed h (of_decide_eq_true hinternal)
  · exact Action.Balanced.of_sent h ⟨out, frame.bytes⟩

theorem notices_flood : Action.notices (knowledge.flood frame).actions = [] := by
  rw [List.eq_nil_iff_forall_not_mem]
  intro notice hnotice
  obtain ⟨point, -, hsend⟩ := List.mem_map.mp (Action.mem_notices.mp hnotice)
  cases hsend

theorem note_flood_explains (h : notice.line ∈ Notice.floodLines) :
    Explains knowledge frame (do
      .note notice
      knowledge.flood frame) := by
  refine .flooded h ?_ rfl
  exact congrArg (notice :: ·) notices_flood

theorem answerAtBoundary_balances (request : Arp.Packet) (target : Ip) (binding : Binding) :
    (knowledge.answerAtBoundary request target binding arrival).Balances knowledge.table := by
  refine .forM fun address _ => .bind (.of_idle rfl) fun answer => ?_
  exact note_sendTo_balances (of_decide_eq_true rfl)

/-- Every host that is found for an address has one to answer with. -/
def AlwaysPicks (knowledge : Knowledge) : Prop :=
  ∀ target vlan owner, knowledge.topology.owner? target vlan = some owner →
    (knowledge.choice.pick? owner).isSome

theorem alwaysPicks_of_inventory (inventory : Inventory) (table : PortTable)
    (choice : AddressChoice) : AlwaysPicks ⟨inventory.topology, table, choice⟩ := by
  intro target vlan owner howner
  obtain ⟨-, -, hheld⟩ := Inventory.listed_of_first (Topology.owner?_eq_some_iff.mp howner)
  rw [Option.isSome_iff_ne_none]
  intro hnone
  rw [SortedSet.mem_def, choice.pick?_eq_none hnone] at hheld
  cases hheld

section

variable (picks : knowledge.AlwaysPicks)
include picks

theorem answerFromInventory_explains (request : Arp.Packet) (target : Ip) :
    (knowledge.answerFromInventory frame request target).Explains knowledge frame := by
  refine .bind_of_idle rfl fun vlan => .bind_of_idle rfl fun source => ?_
  split
  · rename_i owner requester howner hrequester
    split
    · refine .bind_of_idle rfl fun answer => ?_
      exact .of_balances (note_sendTo_balances (of_decide_eq_true rfl))
    · -- The one flood without a report, if the host had no address.
      rename_i hnone
      have hsome := picks target vlan owner howner
      rw [hnone] at hsome
      cases hsome
  · exact note_flood_explains (of_decide_eq_true rfl)

theorem resolve_explains (request : Arp.Packet) :
    (knowledge.resolve frame request arrival).Explains knowledge frame := by
  refine .bind_of_idle rfl fun target => ?_
  split
  · exact .of_balances (answerAtBoundary_balances request target _)
  · refine .bind_of_idle rfl fun sender => ?_
    split
    · exact .of_balances (note_sendTo_balances (of_decide_eq_true rfl))
    · exact answerFromInventory_explains picks request target

theorem reply_explains : (knowledge.reply frame arrival).Explains knowledge frame := by
  refine .bind_of_idle rfl fun request => .bind_of_idle rfl fun op => ?_
  split
  · exact resolve_explains picks request
  · exact .of_idle rfl

end

theorem deliver_explains : (knowledge.deliver frame).Explains knowledge frame := by
  refine .bind_of_idle rfl fun destination => .bind_of_idle rfl fun vlan => ?_
  split
  · exact .of_balances (note_sendTo_balances (of_decide_eq_true rfl))
  · exact note_flood_explains (of_decide_eq_true rfl)

theorem forward_explains : (knowledge.forward frame).Explains knowledge frame := by
  refine .bind_of_idle rfl fun packet => .bind_of_idle rfl fun op => ?_
  split
  · exact deliver_explains
  · exact .of_idle rfl

theorem handle_explains (picks : knowledge.AlwaysPicks) :
    (knowledge.handle frame arrival).Explains knowledge frame := by
  refine .bind_of_idle rfl fun etherType => ?_
  split
  · exact .of_idle rfl
  · refine .bind_of_idle rfl fun packet => .bind_of_idle rfl fun opcode => ?_
    split
    · exact forward_explains.bind_block true
    · exact (reply_explains picks).bind_block true
    · refine Explains.bind_block ?_ true
      exact .of_balances (Action.Balanced.of_unknownOpcode opcode)

/-- As many frames are announced one by one as are sent or kept back at internal points, or the
frame is flooded with one report on it. -/
theorem reports_account_for_sent (inventory : Inventory) (table : PortTable)
    (choice : AddressChoice) (frame : Frame) (arrival : Point) :
    let knowledge : Knowledge := ⟨inventory.topology, table, choice⟩
    Action.Accounted knowledge frame (knowledge.handle frame arrival).actions ∧
    Action.Accounted knowledge frame (knowledge.reply frame arrival).actions ∧
    Action.Accounted knowledge frame (knowledge.forward frame).actions ∧
    ∀ target vlan owner, inventory.topology.owner? target vlan = some owner →
      (choice.pick? owner).isSome := by
  intro knowledge
  have hpicks := alwaysPicks_of_inventory inventory table choice
  exact ⟨(handle_explains hpicks).accounted, (reply_explains hpicks).accounted,
    forward_explains.accounted, hpicks⟩

theorem reports_account_for_sent_suppressed :
    let point := Binding.twofold.point
    let table := (PortTable.empty.toInternal [point]).toExternal [questioned.location]
    let bound : Inventory := { Inventory.empty with bindings := [.twofold] }
    let kept := (handle ⟨bound.topology, table, .least⟩ inquiry point).actions
    let flooding : Knowledge := ⟨Inventory.empty.topology, table, .least⟩
    let flooded := (flooding.reply inquiry point).actions
    ((∀ notice ∈ Action.notices kept, notice.line ∉ Notice.floodLines) ∧
      (Action.notices kept).countP (·.line ∈ Notice.unicastLines) =
        (Action.sent kept).length +
          (Action.notices kept).countP (·.line = Notice.suppressedLine)) ∧
    (.fabricSuppressed point ∈ Action.notices kept ∧ table.state? point = some .internal) ∧
    (.unresolvedRequest ⟨10, 0, 0, 1⟩ .untagged ∈ Action.notices flooded ∧
      Action.notices flooded = [.unresolvedRequest ⟨10, 0, 0, 1⟩ .untagged] ∧
      Action.sent flooded = Action.sent (flooding.flood inquiry).actions) ∧
    Inventory.twoHosts.topology.owner? ⟨10, 0, 0, 2⟩ .untagged = some questioned ∧
      (AddressChoice.least.pick? questioned).isSome := by
  intro point table bound kept flooding flooded
  have hkept := (reports_account_for_sent bound table .least inquiry point).1
  have hflooded := (reports_account_for_sent .empty table .least inquiry point).2.1
  have hpicks := (reports_account_for_sent .twoHosts table .least inquiry point).2.2.2
  have hunicast : ∀ notice ∈ Action.notices kept, notice.line ∉ Notice.floodLines := by decide
  have hsuppressed : .fabricSuppressed point ∈ Action.notices kept := by decide
  have hunresolved : .unresolvedRequest ⟨10, 0, 0, 1⟩ .untagged ∈ Action.notices flooded := by
    decide
  have howner : Inventory.twoHosts.topology.owner? ⟨10, 0, 0, 2⟩ .untagged = some questioned := by
    decide
  obtain ⟨out, hout, hinternal⟩ := hkept.warned _ hsuppressed rfl
  obtain rfl := Notice.fabricSuppressed.inj hout
  exact ⟨⟨hunicast, hkept.unicast hunicast⟩, ⟨hsuppressed, hinternal⟩,
    ⟨hunresolved, hflooded.flood _ hunresolved (of_decide_eq_true rfl)⟩, howner,
    hpicks _ _ _ howner⟩

end Knowledge

end FabricArp
