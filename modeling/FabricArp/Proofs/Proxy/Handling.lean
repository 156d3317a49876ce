import FabricArp.Proxy.Handling

/-! What the steps of a handling may do, where their frames go and how they end. -/

namespace FabricArp.Handling

variable {α β : Type}

@[simp] theorem liftOption_bind (value : α) (next : α → Handling β) :
    (liftM (some value) >>= next) = next value :=
  rfl

@[simp] theorem liftOutcome_bind (value : α) (next : α → Handling β) :
    (liftM (Except.ok value : Outcome ProxyError α) >>= next) = next value :=
  rfl

@[simp] theorem liftRefused_bind (cause : ProxyError) (next : α → Handling β) :
    (liftM (Except.error (.refused cause) : Outcome ProxyError α) >>= next) = refuse cause :=
  rfl

section Bind

variable {action : Action} {first : Handling α} {next : α → Handling β}

theorem bind_of_ok {value : α} (h : first.outcome = .ok value) :
    first >>= next = ⟨(next value).outcome, first.actions ++ (next value).actions⟩ := by
  obtain ⟨outcome, actions⟩ := first
  obtain rfl : outcome = .ok value := h
  rfl

theorem bind_of_error {failure : Failure ProxyError} (h : first.outcome = .error failure) :
    first >>= next = ⟨.error failure, first.actions⟩ := by
  obtain ⟨outcome, actions⟩ := first
  obtain rfl : outcome = .error failure := h
  rfl

theorem actions_bind (first : Handling α) (next : α → Handling β) :
    (first >>= next).actions = first.actions ∨
      ∃ value, first.outcome = .ok value ∧
        (first >>= next).actions = first.actions ++ (next value).actions := by
  cases houtcome : first.outcome with
  | error failure =>
      rw [bind_of_error houtcome]
      exact .inl rfl
  | ok value =>
      rw [bind_of_ok houtcome]
      exact .inr ⟨value, rfl, rfl⟩

theorem mem_actions_bind (h : action ∈ (first >>= next).actions) :
    action ∈ first.actions ∨
      ∃ value, first.outcome = .ok value ∧ action ∈ (next value).actions := by
  obtain hactions | ⟨value, hvalue, hactions⟩ := actions_bind first next
  · rw [hactions] at h
    exact .inl h
  · rw [hactions] at h
    exact (List.mem_append.mp h).imp_right fun hnext => ⟨value, hvalue, hnext⟩

theorem mem_actions_bind_of_idle (hidle : first.actions = [])
    (h : action ∈ (first >>= next).actions) :
    ∃ value, first.outcome = .ok value ∧ action ∈ (next value).actions := by
  refine (mem_actions_bind h).resolve_left ?_
  rw [hidle]
  exact List.not_mem_nil

end Bind

theorem forM_of_seq {holds : Handling Unit → Prop} {elements : List α}
    {body : α → Handling Unit} (hdone : holds (pure ()))
    (hseq : ∀ first next, holds first → holds next → holds (first >>= fun _ => next))
    (hbody : ∀ element ∈ elements, holds (body element)) : holds (elements.forM body) := by
  induction elements with
  | nil => exact hdone
  | cons element rest ih =>
      refine hseq _ _ (hbody element List.mem_cons_self) (ih ?_)
      intro other hother
      exact hbody other (List.mem_cons_of_mem _ hother)

theorem forM_of_fails {elements : List α} {body : α → Handling Unit}
    {failure : Failure ProxyError}
    (hbody : ∀ element ∈ elements, body element = ⟨.error failure, []⟩)
    (hsome : elements ≠ []) : elements.forM body = ⟨.error failure, []⟩ := by
  cases elements with
  | nil => exact absurd rfl hsome
  | cons element rest =>
      have hforM : (element :: rest).forM body = (body element >>= fun _ => rest.forM body) :=
        rfl
      rw [hforM, hbody element List.mem_cons_self]
      rfl

/-- Everything that is done on the way is allowed. -/
def Only (allowed : Action → Prop) (handling : Handling α) : Prop :=
  ∀ action ∈ handling.actions, allowed action

namespace Only

variable {allowed : Action → Prop} {first : Handling α} {next : α → Handling β}

theorem of_idle (h : first.actions = []) : first.Only allowed := by
  intro action hmem
  rw [h] at hmem
  cases hmem

theorem of_note {notice : Notice} (h : allowed (.note notice)) : (note notice).Only allowed := by
  intro action hmem
  rw [List.mem_singleton.mp hmem]
  exact h

theorem mono {wider : Action → Prop} (h : first.Only allowed)
    (himp : ∀ action, allowed action → wider action) : first.Only wider :=
  fun action hmem => himp action (h action hmem)

theorem bind (hfirst : first.Only allowed)
    (hnext : ∀ value, first.outcome = .ok value → (next value).Only allowed) :
    (first >>= next).Only allowed := by
  intro action hmem
  obtain hmem | ⟨value, hvalue, hmem⟩ := mem_actions_bind hmem
  · exact hfirst action hmem
  · exact hnext value hvalue action hmem

theorem forM {elements : List α} {body : α → Handling Unit}
    (hbody : ∀ element ∈ elements, (body element).Only allowed) :
    (elements.forM body).Only allowed :=
  forM_of_seq (of_idle rfl) (fun _ _ hfirst hnext => hfirst.bind fun _ _ => hnext) hbody

end Only

/-- Every frame that is sent on the way goes out of an allowed point. -/
def Confined (allowed : Point → Prop) (handling : Handling α) : Prop :=
  ∀ outbound ∈ Action.sent handling.actions, allowed outbound.out

theorem confined_iff_only {allowed : Point → Prop} {handling : Handling α} :
    handling.Confined allowed ↔
      handling.Only fun action => ∀ outbound, action = .send outbound → allowed outbound.out := by
  simp only [Confined, Only, Action.mem_sent]
  constructor
  · rintro h _ hmem outbound rfl
    exact h outbound hmem
  · intro h outbound hmem
    exact h _ hmem outbound rfl

namespace Confined

variable {allowed : Point → Prop}

theorem of_silent {handling : Handling α} (h : Action.sent handling.actions = []) :
    handling.Confined allowed := by
  intro outbound houtbound
  rw [h] at houtbound
  cases houtbound

theorem bind {first : Handling α} {next : α → Handling β} (hfirst : first.Confined allowed)
    (hnext : ∀ value, (next value).Confined allowed) :
    (first >>= next).Confined allowed := by
  rw [confined_iff_only] at hfirst ⊢
  exact hfirst.bind fun value _ => confined_iff_only.mp (hnext value)

theorem forM {elements : List α} {body : α → Handling Unit}
    (hbody : ∀ element ∈ elements, (body element).Confined allowed) :
    (elements.forM body).Confined allowed :=
  forM_of_seq (of_silent rfl) (fun _ _ hfirst hnext => hfirst.bind fun _ => hnext) hbody

end Confined

/-- Ends in this way after sending these frames, and blocks nothing. -/
structure Yields (handling : Handling α) (outcome : Outcome ProxyError α)
    (sent : List Outbound) : Prop where
  ends : handling.outcome = outcome
  sends : Action.sent handling.actions = sent
  passes : Action.blocks handling.actions = false

namespace Yields

variable {first : Handling Unit} {next : Handling α} {outcome : Outcome ProxyError α}
  {sent sentFirst : List Outbound}

theorem of_refuse (cause : ProxyError) :
    (refuse cause : Handling α).Yields (.error (.refused cause)) [] :=
  ⟨rfl, rfl, rfl⟩

theorem of_note (notice : Notice) : (note notice).Yields (.ok ()) [] :=
  ⟨rfl, rfl, rfl⟩

theorem of_send (outbound : Outbound) : (send outbound).Yields (.ok ()) [outbound] :=
  ⟨rfl, rfl, rfl⟩

theorem of_sends (outbounds : List Outbound) :
    (perform (outbounds.map .send)).Yields (.ok ()) outbounds := by
  refine ⟨rfl, ?_, ?_⟩
  · rw [perform, Action.sent, List.filterMap_map]
    exact List.filterMap_some
  · rw [perform, Action.blocks, List.contains_eq_mem, decide_eq_false_iff_not]
    intro hblock
    obtain ⟨outbound, -, hsend⟩ := List.mem_map.mp hblock
    cases hsend

theorem seq (hfirst : first.Yields (.ok ()) sentFirst) (hnext : next.Yields outcome sent) :
    (first >>= fun _ => next).Yields outcome (sentFirst ++ sent) := by
  obtain ⟨outcomeFirst, actions⟩ := first
  obtain ⟨rfl, rfl, hpasses⟩ := hfirst
  refine ⟨hnext.ends, ?_, ?_⟩
  · exact (Action.sent_append actions next.actions).trans (congrArg _ hnext.sends)
  · refine (Action.blocks_append actions next.actions).trans ?_
    rw [hpasses, hnext.passes]
    rfl

theorem note_seq (notice : Notice) (hnext : next.Yields outcome sent) :
    (note notice >>= fun _ => next).Yields outcome sent :=
  (of_note notice).seq hnext

theorem forM {elements : List β} {body : β → Handling Unit}
    (hbody : ∀ element ∈ elements, (body element).Yields (.ok ()) sent) :
    (elements.forM body).Yields (.ok ()) (List.replicate elements.length sent).flatten := by
  induction elements with
  | nil => exact ⟨rfl, rfl, rfl⟩
  | cons element rest ih =>
      have hrest := ih fun other hother => hbody other (List.mem_cons_of_mem _ hother)
      exact (hbody element List.mem_cons_self).seq hrest

theorem forM_of_refuse {elements : List β} {body : β → Handling Unit} {cause : ProxyError}
    (hbody : ∀ element ∈ elements, body element = refuse cause) (hsome : elements ≠ []) :
    (elements.forM body).Yields (.error (.refused cause)) [] := by
  rw [forM_of_fails hbody hsome]
  exact ⟨rfl, rfl, rfl⟩

end Yields

end FabricArp.Handling
