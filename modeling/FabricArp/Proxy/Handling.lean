import FabricArp.Proxy.Notice

/-! Outcomes with all that is done on the way; what was done before a failure stays done. -/

namespace FabricArp

structure Outbound where
  out : Point
  bytes : Bytes
deriving DecidableEq

def Outbound.points (sent : List Outbound) : List Point :=
  (sent.map Outbound.out).mergeSort fun left right => (compare left right).isLE

inductive Action where
  | send (outbound : Outbound)
  | note (notice : Notice)
  | block
deriving DecidableEq

namespace Action

def sent (actions : List Action) : List Outbound :=
  actions.filterMap fun
    | send outbound => some outbound
    | _ => none

def notices (actions : List Action) : List Notice :=
  actions.filterMap fun
    | note notice => some notice
    | _ => none

def blocks (actions : List Action) : Bool :=
  actions.contains block

@[simp] theorem sent_append (first second : List Action) :
    sent (first ++ second) = sent first ++ sent second :=
  List.filterMap_append

@[simp] theorem notices_append (first second : List Action) :
    notices (first ++ second) = notices first ++ notices second :=
  List.filterMap_append

@[simp] theorem blocks_append (first second : List Action) :
    blocks (first ++ second) = (blocks first || blocks second) := by
  rw [Bool.eq_iff_iff]
  simp [blocks]

theorem mem_sent {actions : List Action} {outbound : Outbound} :
    outbound ∈ sent actions ↔ .send outbound ∈ actions := by
  rw [sent, List.mem_filterMap]
  constructor
  · rintro ⟨action, haction, hsent⟩
    cases action with
    | send other => rwa [← Option.some.inj hsent]
    | note _ | block => cases hsent
  · intro hsent
    exact ⟨.send outbound, hsent, rfl⟩

theorem mem_notices {actions : List Action} {notice : Notice} :
    notice ∈ notices actions ↔ .note notice ∈ actions := by
  rw [notices, List.mem_filterMap]
  constructor
  · rintro ⟨action, haction, hnotice⟩
    cases action with
    | note other => rwa [← Option.some.inj hnotice]
    | send _ | block => cases hnotice
  · intro hnotice
    exact ⟨.note notice, hnotice, rfl⟩

end Action

structure Handling (α : Type) where
  outcome : Outcome ProxyError α
  actions : List Action

namespace Handling

def bind {α β : Type} (first : Handling α) (next : α → Handling β) : Handling β :=
  match first.outcome with
  | .ok value => ⟨(next value).outcome, first.actions ++ (next value).actions⟩
  | .error failure => ⟨.error failure, first.actions⟩

instance : Monad Handling where
  pure value := ⟨.ok value, []⟩
  bind := bind

instance : LawfulMonad Handling := LawfulMonad.mk' Handling
  (by
    intro α handling
    rcases handling with ⟨outcome, actions⟩
    cases outcome <;> simp [Functor.map, bind])
  (by
    intro α β value next
    simp [Bind.bind, Pure.pure, bind])
  (by
    intro α β γ handling next last
    rcases handling with ⟨outcome, actions⟩
    cases outcome with
    | error failure => rfl
    | ok value =>
        simp only [Bind.bind, bind]
        cases (next value).outcome <;> simp)

instance : MonadLift (Except (Failure ProxyError)) Handling where
  monadLift outcome := ⟨outcome, []⟩

def perform (actions : List Action) : Handling Unit :=
  ⟨.ok (), actions⟩

def send (outbound : Outbound) : Handling Unit :=
  perform [.send outbound]

def note (notice : Notice) : Handling Unit :=
  perform [.note notice]

def block : Handling Unit :=
  perform [.block]

def refuse {α : Type} (cause : ProxyError) : Handling α :=
  ⟨.error (.refused cause), []⟩

def attempt {α : Type} (handling : Handling α) : Handling (Except ProxyError α) :=
  match handling.outcome with
  | .ok value => ⟨.ok (.ok value), handling.actions⟩
  | .error (.refused cause) => ⟨.ok (.error cause), handling.actions⟩
  | .error .outOfRange => ⟨.error .outOfRange, handling.actions⟩

end Handling

end FabricArp
