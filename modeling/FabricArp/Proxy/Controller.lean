import FabricArp.Network.Inventory
import FabricArp.Partition.Upkeep
import FabricArp.Proxy.Resolve

/-! An inventory that is edited and a table that follows the network. -/

namespace FabricArp

structure Controller where
  inventory : Inventory
  /-- Addresses whose owners are fixed, whatever the inventory says; a later entry wins. -/
  owners : List (Ip × List Host)
  table : PortTable

namespace Controller

def ofInventory (inventory : Inventory) : Controller :=
  ⟨inventory, [], .empty⟩

def topology (controller : Controller) : Topology :=
  controller.owners.foldl (fun topology entry => topology.withOwners entry.1 entry.2)
    controller.inventory.topology

def knowledge (controller : Controller) (choice : AddressChoice) : Knowledge :=
  ⟨controller.topology, controller.table, choice⟩

inductive Command where
  | classify
  | deliver (event : Event)
  | edit (edit : Inventory.Edit)
  | fixOwners (ip : Ip) (hosts : List Host)
  | handle (frame : Frame) (arrival : Point)
  | reply (frame : Frame) (arrival : Point)
  | forward (frame : Frame)
  | flood (frame : Frame)
  | send (frame : Frame) (out : Point)

inductive Response where
  | done
  | handled (claimed : Bool)
deriving DecidableEq

def classify (controller : Controller) : Controller × Handling Unit :=
  let table := PortTable.ofTopology controller.topology
  ({ controller with table := table },
    .note (.classified (table.snapshot .internal).length (table.snapshot .external).length))

def deliver (controller : Controller) (event : Event) : Controller × Handling Unit :=
  ({ controller with table := controller.table.observe event },
    .note (.topologyEvent event.kind))

def step (choice : AddressChoice) (controller : Controller) :
    Command → Controller × Handling Response
  | .classify => (controller.classify.1, do controller.classify.2; return .done)
  | .deliver event =>
      ((controller.deliver event).1, do (controller.deliver event).2; return .done)
  | .edit edit =>
      ({ controller with inventory := controller.inventory.apply edit }, pure .done)
  | .fixOwners ip hosts =>
      ({ controller with owners := controller.owners ++ [(ip, hosts)] }, pure .done)
  | .handle frame arrival =>
      (controller, do return .handled (← (controller.knowledge choice).handle frame arrival))
  | .reply frame arrival =>
      (controller, do (controller.knowledge choice).reply frame arrival; return .done)
  | .forward frame =>
      (controller, do (controller.knowledge choice).forward frame; return .done)
  | .flood frame =>
      (controller, do (controller.knowledge choice).flood frame; return .done)
  | .send frame out =>
      (controller, do (controller.knowledge choice).sendTo frame out; return .done)

end Controller

end FabricArp
