import FabricArp.Proofs.Proxy.Failing
import FabricArp.Proofs.Proxy.Ruling
import FabricArp.Proofs.Proxy.Run

namespace FabricArp

namespace Outbound

theorem pairwise_points (sent : List Outbound) :
    (points sent).Pairwise fun left right => (compare left right).isLE = true := by
  refine List.pairwise_mergeSort ?_ ?_ _
  · intro left middle right
    exact Std.TransCmp.isLE_trans
  · intro left right
    rw [Std.OrientedOrd.eq_swap (a := right)]
    cases compare left right <;> rfl

theorem points_eq_of_perm {left right : List Outbound} (h : left.Perm right) :
    points left = points right := by
  refine List.Perm.eq_of_pairwise ?_ (pairwise_points left) (pairwise_points right) ?_
  · intro first second _ _ hle hge
    exact Std.LawfulEqOrd.eq_of_compare (Std.OrientedCmp.isLE_antisymm hle hge)
  · calc
      (points left).Perm (left.map out) := List.mergeSort_perm _ _
      _ |>.Perm (right.map out) := h.map out
      _ |>.Perm (points right) := (List.mergeSort_perm _ _).symm

end Outbound

namespace Handling

variable {α β : Type} {first : Handling α} {next : α → Handling β}

/-- Ends in this way after sending these frames, whatever else is done. -/
structure EndsWith (handling : Handling α) (outcome : Outcome ProxyError α)
    (sent : List Outbound) : Prop where
  ends : handling.outcome = outcome
  sends : Action.sent handling.actions = sent

namespace EndsWith

variable {sent sentFirst : List Outbound}

theorem seq {value : α} {outcome : Outcome ProxyError β}
    (hfirst : first.EndsWith (.ok value) sentFirst) (hnext : (next value).EndsWith outcome sent) :
    (first >>= next).EndsWith outcome (sentFirst ++ sent) := by
  rw [bind_of_ok hfirst.ends]
  refine ⟨hnext.ends, ?_⟩
  rw [Action.sent_append, hfirst.sends, hnext.sends]

theorem stop {failure : Failure ProxyError} (hfirst : first.EndsWith (.error failure) sent) :
    (first >>= next).EndsWith (.error failure) sent := by
  rw [bind_of_error hfirst.ends]
  exact ⟨rfl, hfirst.sends⟩

theorem seq_silent {outcome : Outcome ProxyError α} (restate : α → β)
    (hfirst : first.EndsWith outcome sent)
    (hnext : ∀ value, (next value).EndsWith (.ok (restate value)) []) :
    (first >>= next).EndsWith (outcome.map restate) sent := by
  cases outcome with
  | error failure => exact hfirst.stop
  | ok value =>
      rw [← List.append_nil sent]
      exact hfirst.seq (hnext value)

end EndsWith

end Handling

namespace Knowledge

def sentFor (knowledge : Knowledge) (arrival : Arrival) : List Outbound :=
  Action.sent (knowledge.handle arrival.frame arrival.point).actions

/-- The handling of the frame reaches for bytes that are not there. -/
def Fails (knowledge : Knowledge) (arrival : Arrival) : Prop :=
  (knowledge.handle arrival.frame arrival.point).outcome = .error .outOfRange

variable {knowledge : Knowledge} {arrival : Arrival}

theorem sentFor_of_error {failure : Failure ProxyError}
    (h : (knowledge.handle arrival.frame arrival.point).outcome = .error failure) :
    knowledge.sentFor arrival = [] := by
  rw [sentFor, knowledge.handle_allOrNothing arrival.frame arrival.point failure h]
  rfl

theorem handleOrReport_endsWith (h : ¬knowledge.Fails arrival) :
    (knowledge.handleOrReport arrival).EndsWith (.ok ()) (knowledge.sentFor arrival) := by
  rw [Fails] at h
  match houtcome : (knowledge.handle arrival.frame arrival.point).outcome with
  | .ok claimed =>
      rw [handleOrReport, Handling.attempt, houtcome]
      exact ⟨rfl, congrArg Action.sent (List.append_nil _)⟩
  | .error (.refused cause) =>
      rw [sentFor_of_error houtcome, handleOrReport, Handling.attempt, houtcome,
        knowledge.handle_allOrNothing arrival.frame arrival.point _ houtcome]
      exact ⟨rfl, rfl⟩
  | .error .outOfRange => exact absurd houtcome h

theorem handleOrReport_endsWith_of_fails (h : knowledge.Fails arrival) :
    (knowledge.handleOrReport arrival).EndsWith (.error .outOfRange) [] := by
  rw [handleOrReport, Handling.attempt, h,
    knowledge.handle_allOrNothing arrival.frame arrival.point _ h]
  exact ⟨rfl, rfl⟩

theorem handleAll_append_endsWith {earlier later : List Arrival} {outcome : Outcome ProxyError Nat}
    {sent : List Outbound} (hearlier : ∀ arrival ∈ earlier, ¬knowledge.Fails arrival)
    (hlater : (knowledge.handleAll later).EndsWith outcome sent) :
    (knowledge.handleAll (earlier ++ later)).EndsWith (outcome.map (· + earlier.length))
      (earlier.flatMap knowledge.sentFor ++ sent) := by
  induction earlier with
  | nil =>
      refine ⟨?_, hlater.sends⟩
      rw [List.nil_append, hlater.ends]
      cases outcome <;> rfl
  | cons arrival rest ih =>
      have hrest := ih fun other hother => hearlier other (List.mem_cons_of_mem _ hother)
      have harrival := handleOrReport_endsWith (hearlier arrival List.mem_cons_self)
      have hall : (knowledge.handleAll (arrival :: (rest ++ later))).EndsWith _ _ :=
        harrival.seq (hrest.seq_silent (· + 1) fun _ => ⟨rfl, rfl⟩)
      rw [List.flatMap_cons, List.append_assoc]
      refine ⟨hall.ends.trans ?_, hall.sends⟩
      cases outcome <;> rfl

theorem handleAll_endsWith {arrivals : List Arrival}
    (h : ∀ arrival ∈ arrivals, ¬knowledge.Fails arrival) :
    (knowledge.handleAll arrivals).EndsWith (.ok arrivals.length)
      (arrivals.flatMap knowledge.sentFor) := by
  have hnone : (knowledge.handleAll []).EndsWith (.ok 0) [] := ⟨rfl, rfl⟩
  have hall := handleAll_append_endsWith h hnone
  rw [List.append_nil, List.append_nil] at hall
  refine ⟨hall.ends.trans ?_, hall.sends⟩
  exact congrArg Except.ok (Nat.zero_add _)

theorem handleAll_endsWith_of_fails {earlier : List Arrival} (later : List Arrival)
    (hearlier : ∀ arrival ∈ earlier, ¬knowledge.Fails arrival) (hfails : knowledge.Fails arrival) :
    (knowledge.handleAll (earlier ++ arrival :: later)).EndsWith (.error .outOfRange)
      (earlier.flatMap knowledge.sentFor) := by
  have hlast : (knowledge.handleAll (arrival :: later)).EndsWith (.error .outOfRange) [] :=
    (handleOrReport_endsWith_of_fails hfails).stop
  have hall := handleAll_append_endsWith hearlier hlast
  rwa [List.append_nil] at hall

end Knowledge

namespace Controller

variable (choice : AddressChoice) (controller : Controller) (events : List Event)

theorem deliverEach_endsWith :
    (controller.deliverEach events).2.EndsWith (.ok events.length) [] := by
  induction events generalizing controller with
  | nil => exact ⟨rfl, rfl⟩
  | cons event rest ih =>
      have hevent : (controller.deliver event).2.EndsWith (.ok ()) [] := ⟨rfl, rfl⟩
      exact hevent.seq ((ih _).seq_silent (· + 1) fun _ => ⟨rfl, rfl⟩)

theorem deliverEach_eq_deliverAll :
    (controller.deliverEach events).1 = controller.deliverAll events := by
  induction events generalizing controller with
  | nil => rfl
  | cons event rest ih => exact ih (controller.deliver event).1

theorem deliverAll_eq_after :
    controller.deliverAll events =
      controller.after (events.map fun event => ⟨.deliver event, choice⟩) := by
  induction events generalizing controller with
  | nil => rfl
  | cons event rest ih => exact ih (controller.deliver event).1

structure RunsTo (run : Controller × Handling FeedSummary) (left : Controller)
    (outcome : Outcome ProxyError FeedSummary) (sent : List Outbound) : Prop where
  leaves : run.1 = left
  ends : run.2.outcome = outcome
  sends : Action.sent run.2.actions = sent

variable {choice controller events}

theorem run_runsTo {arrivals : List Arrival} {outcome : Outcome ProxyError Nat}
    {sent : List Outbound}
    (h : (((controller.deliverAll events).knowledge choice).handleAll arrivals).EndsWith
      outcome sent) :
    RunsTo (controller.run choice events arrivals) (controller.deliverAll events)
      (outcome.map (FeedSummary.mk events.length)) sent := by
  have hdelivered := controller.deliverEach_endsWith events
  have hhandled : Handling.EndsWith (do
      let handled ← ((controller.deliverAll events).knowledge choice).handleAll arrivals
      .note (.feedsClosed events.length handled)
      return (⟨events.length, handled⟩ : FeedSummary))
      (outcome.map (FeedSummary.mk events.length)) sent :=
    h.seq_silent _ fun _ => ⟨rfl, rfl⟩
  rw [← deliverEach_eq_deliverAll] at hhandled
  have hrun : (controller.run choice events arrivals).2.EndsWith _ _ := hdelivered.seq hhandled
  exact ⟨controller.deliverEach_eq_deliverAll events, hrun.ends, hrun.sends⟩

theorem run_frames_runsTo {arrivals : List Arrival} {outcome : Outcome ProxyError Nat}
    {sent : List Outbound}
    (h : ((controller.knowledge choice).handleAll arrivals).EndsWith outcome sent) :
    RunsTo (controller.run choice [] arrivals) controller (outcome.map (FeedSummary.mk 0)) sent :=
  run_runsTo h

/-- A feed of frames sends what its frames send alone, in order and up to the first failed access;
a feed of events leaves what its events leave one by one. -/
theorem run_eq_one_by_one (choice : AddressChoice) (controller : Controller) :
    let knowledge := controller.knowledge choice
    (∀ arrivals : List Arrival, (∀ arrival ∈ arrivals, ¬knowledge.Fails arrival) →
      RunsTo (controller.run choice [] arrivals) controller (.ok ⟨0, arrivals.length⟩)
        (arrivals.flatMap knowledge.sentFor) ∧
      ∀ reordered : List Arrival, reordered.Perm arrivals →
        ∃ sent : List Outbound, sent.Perm (arrivals.flatMap knowledge.sentFor) ∧
          Outbound.points sent = Outbound.points (arrivals.flatMap knowledge.sentFor) ∧
          RunsTo (controller.run choice [] reordered) controller (.ok ⟨0, arrivals.length⟩) sent) ∧
    (∀ arrival cause,
      (knowledge.handle arrival.frame arrival.point).outcome = .error (.refused cause) →
        knowledge.sentFor arrival = []) ∧
    (∀ (earlier later : List Arrival) (arrival : Arrival),
      (∀ other ∈ earlier, ¬knowledge.Fails other) → knowledge.Fails arrival →
        RunsTo (controller.run choice [] (earlier ++ arrival :: later)) controller
          (.error .outOfRange) (earlier.flatMap knowledge.sentFor)) ∧
    ∀ events : List Event,
      RunsTo (controller.run choice events [])
        (controller.after (events.map fun event => ⟨.deliver event, choice⟩))
        (.ok ⟨events.length, 0⟩) [] := by
  intro knowledge
  have hframes : ∀ arrivals : List Arrival, (∀ arrival ∈ arrivals, ¬knowledge.Fails arrival) →
      RunsTo (controller.run choice [] arrivals) controller (.ok ⟨0, arrivals.length⟩)
        (arrivals.flatMap knowledge.sentFor) :=
    fun _ hnone => run_frames_runsTo (Knowledge.handleAll_endsWith hnone)
  refine ⟨fun arrivals hnone => ⟨hframes arrivals hnone, ?_⟩, ?_, ?_, ?_⟩
  · intro reordered hperm
    have hsent := hperm.flatMap_right knowledge.sentFor
    refine ⟨reordered.flatMap knowledge.sentFor, hsent, Outbound.points_eq_of_perm hsent, ?_⟩
    rw [← hperm.length_eq]
    exact hframes reordered fun arrival harrival => hnone arrival (hperm.mem_iff.mp harrival)
  · intro arrival cause hrefused
    exact Knowledge.sentFor_of_error hrefused
  · intro earlier later arrival hearlier hfails
    exact run_frames_runsTo (Knowledge.handleAll_endsWith_of_fails later hearlier hfails)
  · intro events
    rw [← deliverAll_eq_after]
    exact run_runsTo ⟨rfl, rfl⟩

theorem run_eq_one_by_one_mixed :
    let controller := (ofInventory .twoHosts).classify.1
    let knowledge := controller.knowledge .least
    let point := questioner.location
    let asked : Arrival := ⟨question, point⟩
    let empty : Arrival :=
      ⟨.assemble .broadcast questioner.id.mac .untagged EtherType.arp [], point⟩
    let broken : Arrival := ⟨⟨[8, 6], 1⟩, point⟩
    let answer : Outbound := ⟨point, (Arp.Station.reply questioned.id.mac ⟨10, 0, 0, 2⟩
      questioner.id.mac ⟨10, 0, 0, 1⟩ .untagged).bytes⟩
    ((∀ arrival ∈ [empty, asked], ¬knowledge.Fails arrival) ∧ knowledge.Fails broken ∧
      (knowledge.handle empty.frame empty.point).outcome =
        .error (.refused (.malformed .payloadLength)) ∧
      [asked, empty].Perm [empty, asked]) ∧
    RunsTo (controller.run .least [] [empty, asked]) controller (.ok ⟨0, 2⟩) [answer] ∧
    (∃ sent : List Outbound, sent.Perm [answer] ∧
      Outbound.points sent = Outbound.points [answer] ∧
      RunsTo (controller.run .least [] [asked, empty]) controller (.ok ⟨0, 2⟩) sent) ∧
    knowledge.sentFor empty = [] ∧
    RunsTo (controller.run .least [] [empty, asked, broken, asked]) controller
      (.error .outOfRange) [answer] := by
  intro controller knowledge point asked empty broken answer
  obtain ⟨hframes, hrefused, hfails, -⟩ := run_eq_one_by_one .least controller
  have hnone : ∀ arrival ∈ [empty, asked], ¬knowledge.Fails arrival :=
    List.forall_mem_cons.mpr ⟨nofun, List.forall_mem_cons.mpr ⟨nofun, nofun⟩⟩
  have hempty : (knowledge.handle empty.frame empty.point).outcome =
      .error (.refused (.malformed .payloadLength)) := rfl
  have hsent : [empty, asked].flatMap knowledge.sentFor = [answer] := by decide +kernel
  have hperm : [asked, empty].Perm [empty, asked] := .swap ..
  have hrun := hframes [empty, asked] hnone
  have hbroken := hfails [empty, asked] [asked] broken hnone rfl
  rw [hsent] at hrun hbroken
  exact ⟨⟨hnone, rfl, hempty, hperm⟩, hrun.1, hrun.2 _ hperm, hrefused empty _ hempty, hbroken⟩

end Controller

end FabricArp
