import FabricArp.Proxy.Controller

/-! A refused frame is reported and skipped; a failed access ends the run. -/

namespace FabricArp

structure FeedSettings where
  workers : Nat
  eventDepth : Option Nat
  frameDepth : Option Nat
deriving DecidableEq

namespace FeedSettings

def standard : FeedSettings := ⟨2, none, none⟩

inductive Change where
  | workers (count : Nat)
  | eventDepth (depth : Nat)
  | frameDepth (depth : Nat)
deriving DecidableEq

def apply (settings : FeedSettings) : Change → FeedSettings
  | .workers count => { settings with workers := max count 1 }
  | .eventDepth depth => { settings with eventDepth := some depth }
  | .frameDepth depth => { settings with frameDepth := some depth }

end FeedSettings

structure Arrival where
  frame : Frame
  point : Point
deriving DecidableEq

structure FeedSummary where
  events : Nat
  frames : Nat
deriving DecidableEq

namespace Knowledge

def handleOrReport (knowledge : Knowledge) (arrival : Arrival) : Handling Unit := do
  match ← (knowledge.handle arrival.frame arrival.point).attempt with
  | .ok _ => pure ()
  | .error cause => .note (.packetDropped cause arrival.point)

/-- Handles one frame after the other and counts them, the refused ones as well. -/
def handleAll (knowledge : Knowledge) : List Arrival → Handling Nat
  | [] => return 0
  | arrival :: rest => do
      knowledge.handleOrReport arrival
      return (← knowledge.handleAll rest) + 1

end Knowledge

namespace Controller

def deliverAll (controller : Controller) (events : List Event) : Controller :=
  { controller with table := controller.table.observeAll events }

def deliverEach (controller : Controller) : List Event → Controller × Handling Nat
  | [] => (controller, return 0)
  | event :: rest =>
      let delivered := controller.deliver event
      let others := delivered.1.deliverEach rest
      (others.1, do
        delivered.2
        return (← others.2) + 1)

/-- Works off all events and then all frames. -/
def run (choice : AddressChoice) (controller : Controller) (events : List Event)
    (arrivals : List Arrival) : Controller × Handling FeedSummary :=
  let worked := controller.deliverEach events
  (worked.1, do
    let delivered ← worked.2
    let handled ← (worked.1.knowledge choice).handleAll arrivals
    .note (.feedsClosed delivered handled)
    return ⟨delivered, handled⟩)

end Controller

end FabricArp
