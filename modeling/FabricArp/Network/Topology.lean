import FabricArp.Network.Host

namespace FabricArp

structure Topology where
  hostsByIp : Ip → List Host
  host? : HostId → Option Host
  binding? : Point → Option Binding
  bindings : List Binding
  devices : List DeviceId
  ports : DeviceId → List Port
  links : List Link

namespace Topology

def knows (topology : Topology) (ip : Ip) : Bool :=
  !(topology.hostsByIp ip).isEmpty

/-- The binding of a point that has at least one bound address. -/
def boundary? (topology : Topology) (point : Point) : Option Binding :=
  (topology.binding? point).filter fun binding => !binding.addresses.isEmpty

def isBoundary (topology : Topology) (point : Point) : Bool :=
  (topology.boundary? point).isSome

/-- The first binding with a subnet that the address lies in. -/
def gateway? (topology : Topology) (ip : Ip) : Option Binding :=
  topology.bindings.find? fun binding =>
    binding.addresses.toList.any fun address => address.subnet.contains ip

/-- The first owner of the address on the VLAN. -/
def owner? (topology : Topology) (ip : Ip) (vlan : Vlan) : Option Host :=
  (topology.hostsByIp ip).find? fun host => host.id.vlan = vlan

def enabledPoints (topology : Topology) : List Point :=
  topology.devices.flatMap fun device =>
    ((topology.ports device).filter Port.enabled).map fun port => ⟨device, port.number⟩

/-- Gives fixed owners to one address and leaves every other answer as it is. -/
def withOwners (topology : Topology) (ip : Ip) (hosts : List Host) : Topology :=
  { topology with
    hostsByIp := fun address => if address = ip then hosts else topology.hostsByIp address }

end Topology

end FabricArp
