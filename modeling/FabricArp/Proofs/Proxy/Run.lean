import FabricArp.Proxy.Feed

/-! Runs of the proxy, one command after the other. -/

namespace FabricArp

/-- What is written to the table at once. -/
inductive Upkeep where
  | classify (topology : Topology)
  | deliver (event : Event)

def PortTable.upkeep (table : PortTable) : Upkeep → PortTable
  | .classify topology => .ofTopology topology
  | .deliver event => table.observe event

structure Turn where
  command : Controller.Command
  choice : AddressChoice

namespace Controller

def advance (controller : Controller) (turn : Turn) : Controller :=
  (controller.step turn.choice turn.command).1

def after (controller : Controller) (turns : List Turn) : Controller :=
  turns.foldl advance controller

def upkeep? (controller : Controller) : Command → Option Upkeep
  | .classify => some (.classify controller.topology)
  | .deliver event => some (.deliver event)
  | .edit _ | .fixOwners .. | .handle .. | .reply .. | .forward _ | .flood _ | .send .. => none

/-- The classifications and events of a run, with the topology that the edits before have left. -/
def upkeeps (controller : Controller) : List Turn → List Upkeep
  | [] => []
  | turn :: rest =>
      (controller.upkeep? turn.command).toList ++ (controller.advance turn).upkeeps rest

theorem table_advance (controller : Controller) (turn : Turn) :
    (controller.advance turn).table =
      (controller.upkeep? turn.command).toList.foldl PortTable.upkeep controller.table := by
  obtain ⟨command, choice⟩ := turn
  cases command <;> rfl

theorem table_after (controller : Controller) (turns : List Turn) :
    (controller.after turns).table =
      (controller.upkeeps turns).foldl PortTable.upkeep controller.table := by
  induction turns generalizing controller with
  | nil => rfl
  | cons turn rest ih =>
      rw [upkeeps, List.foldl_append, ← table_advance]
      exact ih (controller.advance turn)

theorem table_advance_of_upkeep?_eq_none {controller : Controller} {turn : Turn}
    (h : controller.upkeep? turn.command = none) :
    (controller.advance turn).table = controller.table := by
  rw [table_advance, h]
  rfl

end Controller

end FabricArp
