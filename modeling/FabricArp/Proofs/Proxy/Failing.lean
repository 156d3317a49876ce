import FabricArp.Proofs.Proxy.Handling
import FabricArp.Proxy.Controller

/-! All reading comes before the first frame is sent. -/

namespace FabricArp

namespace Handling

variable {α β : Type}

def Succeeds (handling : Handling α) : Prop :=
  ∃ value, handling.outcome = .ok value

/-- A failure is all that comes of a handling that fails. -/
def AllOrNothing (handling : Handling α) : Prop :=
  ∀ failure, handling.outcome = .error failure → handling.actions = []

namespace Succeeds

theorem bind {first : Handling α} {next : α → Handling β} (hfirst : first.Succeeds)
    (hnext : ∀ value, (next value).Succeeds) : (first >>= next).Succeeds := by
  obtain ⟨outcome, actions⟩ := first
  obtain ⟨value, rfl⟩ := hfirst
  exact hnext value

theorem forM {elements : List α} {body : α → Handling Unit}
    (hbody : ∀ element ∈ elements, (body element).Succeeds) : (elements.forM body).Succeeds :=
  forM_of_seq ⟨(), rfl⟩ (fun _ _ hfirst hnext => hfirst.bind fun _ => hnext) hbody

theorem allOrNothing {handling : Handling α} (h : handling.Succeeds) :
    handling.AllOrNothing := by
  intro failure hfailure
  obtain ⟨value, hvalue⟩ := h
  rw [hvalue] at hfailure
  cases hfailure

end Succeeds

namespace AllOrNothing

theorem of_idle {handling : Handling α} (h : handling.actions = []) : handling.AllOrNothing :=
  fun _ _ => h

theorem bind_of_idle {first : Handling α} {next : α → Handling β} (hfirst : first.actions = [])
    (hnext : ∀ value, (next value).AllOrNothing) : (first >>= next).AllOrNothing := by
  obtain ⟨outcome, actions⟩ := first
  obtain rfl : actions = [] := hfirst
  cases outcome with
  | error failure => exact of_idle rfl
  | ok value => exact hnext value

theorem bind_of_succeeds {first : Handling α} {next : α → Handling β}
    (hfirst : first.AllOrNothing) (hnext : ∀ value, (next value).Succeeds) :
    (first >>= next).AllOrNothing := by
  obtain ⟨outcome, actions⟩ := first
  cases outcome with
  | error failure => exact fun _ _ => hfirst failure rfl
  | ok value => exact Succeeds.allOrNothing (hnext value)

theorem forM_of_fails {elements : List α} {body : α → Handling Unit}
    (failure : Failure ProxyError)
    (hbody : ∀ element ∈ elements, body element = ⟨.error failure, []⟩) :
    (elements.forM body).AllOrNothing := by
  apply of_idle
  rcases Decidable.em (elements = []) with rfl | hsome
  · rfl
  · rw [Handling.forM_of_fails hbody hsome]

end AllOrNothing

end Handling

namespace Knowledge

variable (knowledge : Knowledge) (frame : Frame)

theorem flood_succeeds : (knowledge.flood frame).Succeeds :=
  ⟨(), rfl⟩

theorem sendTo_succeeds (out : Point) : (knowledge.sendTo frame out).Succeeds := by
  rw [sendTo]
  split <;> exact ⟨(), rfl⟩

theorem note_sendTo_succeeds (notice : Notice) (out : Point) :
    Handling.Succeeds (do
      .note notice
      knowledge.sendTo frame out) :=
  .bind ⟨(), rfl⟩ fun _ => knowledge.sendTo_succeeds frame out

theorem note_flood_succeeds (notice : Notice) :
    Handling.Succeeds (do
      .note notice
      knowledge.flood frame) :=
  .bind ⟨(), rfl⟩ fun _ => knowledge.flood_succeeds frame

theorem answerAtBoundary_allOrNothing (request : Arp.Packet) (target : Ip) (binding : Binding)
    (arrival : Point) :
    (knowledge.answerAtBoundary request target binding arrival).AllOrNothing := by
  rw [answerAtBoundary]
  -- Every bound address that is left equals the target, so all rounds give the same answer.
  have htarget : ∀ address ∈ binding.addresses.toList.filter fun address => address.ip = target,
      address.ip = target :=
    fun address haddress => of_decide_eq_true (List.mem_filter.mp haddress).2
  cases hanswer : (request.answer target binding.mac).orMalformed with
  | error failure =>
      refine .forM_of_fails failure fun address haddress => ?_
      rw [htarget address haddress, hanswer]
      rfl
  | ok answer =>
      refine Handling.Succeeds.allOrNothing (.forM fun address haddress => ?_)
      rw [htarget address haddress, hanswer]
      exact knowledge.note_sendTo_succeeds answer _ arrival

theorem answerFromInventory_allOrNothing (request : Arp.Packet) (target : Ip) :
    (knowledge.answerFromInventory frame request target).AllOrNothing := by
  refine .bind_of_idle rfl fun vlan => .bind_of_idle rfl fun source => ?_
  split
  · split
    · refine .bind_of_idle rfl fun answer => ?_
      exact (knowledge.note_sendTo_succeeds answer _ _).allOrNothing
    · exact (knowledge.flood_succeeds frame).allOrNothing
  · exact (knowledge.note_flood_succeeds frame _).allOrNothing

theorem resolve_allOrNothing (request : Arp.Packet) (arrival : Point) :
    (knowledge.resolve frame request arrival).AllOrNothing := by
  refine .bind_of_idle rfl fun target => ?_
  split
  · exact knowledge.answerAtBoundary_allOrNothing request target _ arrival
  · refine .bind_of_idle rfl fun sender => ?_
    split
    · exact (knowledge.note_sendTo_succeeds frame _ _).allOrNothing
    · exact knowledge.answerFromInventory_allOrNothing frame request target

theorem reply_allOrNothing (arrival : Point) :
    (knowledge.reply frame arrival).AllOrNothing := by
  refine .bind_of_idle rfl fun request => .bind_of_idle rfl fun op => ?_
  split
  · exact knowledge.resolve_allOrNothing frame request arrival
  · exact .of_idle rfl

theorem deliver_allOrNothing : (knowledge.deliver frame).AllOrNothing := by
  refine .bind_of_idle rfl fun destination => .bind_of_idle rfl fun vlan => ?_
  split
  · exact (knowledge.note_sendTo_succeeds frame _ _).allOrNothing
  · exact (knowledge.note_flood_succeeds frame _).allOrNothing

theorem forward_allOrNothing : (knowledge.forward frame).AllOrNothing := by
  refine .bind_of_idle rfl fun packet => .bind_of_idle rfl fun op => ?_
  split
  · exact knowledge.deliver_allOrNothing frame
  · exact .of_idle rfl

theorem handle_allOrNothing (arrival : Point) :
    (knowledge.handle frame arrival).AllOrNothing := by
  have hblock : Handling.Succeeds (do
      .block
      return true) := ⟨true, rfl⟩
  refine .bind_of_idle rfl fun etherType => ?_
  split
  · exact .of_idle rfl
  · refine .bind_of_idle rfl fun packet => .bind_of_idle rfl fun opcode => ?_
    split
    · exact .bind_of_succeeds (knowledge.forward_allOrNothing frame) fun _ => hblock
    · exact .bind_of_succeeds (knowledge.reply_allOrNothing frame arrival) fun _ => hblock
    · exact Handling.Succeeds.allOrNothing (.bind ⟨(), rfl⟩ fun _ => hblock)

end Knowledge

namespace Controller

theorem step_allOrNothing (choice : AddressChoice) (controller : Controller)
    (command : Command) : (controller.step choice command).2.AllOrNothing := by
  have hdone : ∀ response : Response, (pure response : Handling Response).Succeeds :=
    fun response => ⟨response, rfl⟩
  cases command with
  | classify | deliver _ | edit _ | fixOwners _ _ =>
      exact Handling.Succeeds.allOrNothing ⟨.done, rfl⟩
  | handle frame arrival =>
      exact .bind_of_succeeds (Knowledge.handle_allOrNothing _ frame arrival) fun _ => hdone _
  | reply frame arrival =>
      exact .bind_of_succeeds (Knowledge.reply_allOrNothing _ frame arrival) fun _ => hdone _
  | forward frame =>
      exact .bind_of_succeeds (Knowledge.forward_allOrNothing _ frame) fun _ => hdone _
  | flood frame =>
      exact .bind_of_succeeds (Knowledge.flood_succeeds _ frame).allOrNothing fun _ => hdone _
  | send frame out =>
      exact .bind_of_succeeds (Knowledge.sendTo_succeeds _ frame out).allOrNothing fun _ => hdone _

/-- A command that is refused or needs bytes that are not there has sent, blocked and reported
nothing, and the controller is as before. -/
theorem failed_step_leaves_no_trace (choice : AddressChoice) (controller : Controller)
    (command : Command) {failure : Failure ProxyError}
    (h : (controller.step choice command).2.outcome = .error failure) :
    (controller.step choice command).1 = controller ∧
      (controller.step choice command).2.actions = [] := by
  refine ⟨?_, step_allOrNothing choice controller command failure h⟩
  cases command with
  | classify | deliver _ | edit _ | fixOwners _ _ => cases h
  | handle _ _ | reply _ _ | forward _ | flood _ | send _ _ => rfl

end Controller

/-- A port with one address in two subnets. -/
def Binding.twofold : Binding where
  point := ⟨⟨"a"⟩, 2⟩
  addresses := .ofList [⟨⟨10, 0, 0, 1⟩, 8⟩, ⟨⟨10, 0, 0, 1⟩, 24⟩]
  mac := ⟨2, 0, 0, 0, 0, 9⟩

def Frame.anonymous : Frame :=
  .assemble .broadcast ⟨2, 0, 0, 0, 0, 1⟩ .untagged EtherType.arp
    (Bytes.ofWord 1 ++ Bytes.ofWord EtherType.ipv4 ++ [0, 4] ++
      Bytes.ofWord Arp.Op.request.code ++ Ip.octets ⟨10, 0, 0, 7⟩ ++ Ip.octets ⟨10, 0, 0, 1⟩)

theorem Controller.failed_step_leaves_no_trace_twofold :
    let controller := ofInventory { Inventory.empty with bindings := [.twofold] }
    ((controller.step .least (.handle .anonymous Binding.twofold.point)).2.outcome =
        .error (.refused (.malformed .macLength)) ∧
      (controller.step .least (.handle .anonymous Binding.twofold.point)).1 = controller ∧
      (controller.step .least (.handle .anonymous Binding.twofold.point)).2.actions = []) ∧
    ((controller.step .least (.forward ⟨[8, 6], 1⟩)).2.outcome = .error .outOfRange ∧
      (controller.step .least (.forward ⟨[8, 6], 1⟩)).1 = controller ∧
      (controller.step .least (.forward ⟨[8, 6], 1⟩)).2.actions = []) :=
  have hrefused : ((ofInventory { Inventory.empty with bindings := [.twofold] }).step .least
      (.handle .anonymous Binding.twofold.point)).2.outcome =
        .error (.refused (.malformed .macLength)) := rfl
  have hmissing : ((ofInventory { Inventory.empty with bindings := [.twofold] }).step .least
      (.forward ⟨[8, 6], 1⟩)).2.outcome = .error .outOfRange := rfl
  ⟨⟨hrefused, failed_step_leaves_no_trace _ _ _ hrefused⟩,
    hmissing, failed_step_leaves_no_trace _ _ _ hmissing⟩

end FabricArp
