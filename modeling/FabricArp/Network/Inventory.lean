import FabricArp.Network.Topology

/-! Devices, hosts and bindings are listed by their last addition; links may repeat. -/

namespace FabricArp

structure Inventory where
  devices : List (DeviceId × List Port)
  links : List Link
  hosts : List Host
  bindings : List Binding
deriving DecidableEq

namespace Inventory

def empty : Inventory := ⟨[], [], [], []⟩

inductive Edit where
  | addDevice (device : DeviceId) (ports : List Port)
  | removeDevice (device : DeviceId)
  | addLink (link : Link)
  | removeLink (link : Link)
  | addHost (host : Host)
  | addBinding (binding : Binding)
deriving DecidableEq

/-- Adding replaces what has the same key and puts the addition last. -/
def apply (inventory : Inventory) : Edit → Inventory
  | .addDevice device ports =>
      { inventory with
        devices := inventory.devices.filter (·.1 ≠ device) ++ [(device, ports)] }
  | .removeDevice device =>
      { inventory with devices := inventory.devices.filter (·.1 ≠ device) }
  | .addLink link => { inventory with links := inventory.links ++ [link] }
  | .removeLink link => { inventory with links := inventory.links.filter (· ≠ link) }
  | .addHost host =>
      { inventory with hosts := inventory.hosts.filter (·.id ≠ host.id) ++ [host] }
  | .addBinding binding =>
      { inventory with
        bindings := inventory.bindings.filter (·.point ≠ binding.point) ++ [binding] }

def applyAll (inventory : Inventory) (edits : List Edit) : Inventory :=
  edits.foldl apply inventory

/-- Every look-up answers with the first match in listing order. -/
def topology (inventory : Inventory) : Topology where
  hostsByIp ip := inventory.hosts.filter fun host => ip ∈ host.addresses
  host? id := inventory.hosts.find? fun host => host.id = id
  binding? point := inventory.bindings.find? fun binding => binding.point = point
  bindings := inventory.bindings
  devices := inventory.devices.map Prod.fst
  ports device := ((inventory.devices.find? (·.1 = device)).map Prod.snd).getD []
  links := inventory.links

end Inventory

end FabricArp
