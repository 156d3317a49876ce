import FabricArp.Address.Mac
import FabricArp.Address.Subnet
import FabricArp.Address.Vlan
import FabricArp.Collection.SortedSet
import FabricArp.Network.Point

namespace FabricArp

structure HostId where
  mac : Mac
  vlan : Vlan
deriving DecidableEq

def HostId.text (id : HostId) : String :=
  id.mac.text ++ "/" ++ id.vlan.text

structure Host where
  id : HostId
  addresses : SortedSet Ip
  location : Point
deriving DecidableEq

/-- The addresses configured on a port, which is a boundary port if there are any. -/
structure Binding where
  point : Point
  addresses : SortedSet InterfaceAddress
  mac : Mac
deriving DecidableEq

def Binding.ofAddresses (point : Point) (given : List InterfaceAddress) (mac : Mac) : Binding :=
  ⟨point, .ofList given, mac⟩

/-- Which of its addresses a host answers with; a host with addresses has a choice. -/
structure AddressChoice where
  pick? : Host → Option Ip
  pick?_mem : ∀ {host : Host} {address : Ip}, pick? host = some address →
    address ∈ host.addresses
  pick?_eq_none : ∀ {host : Host}, pick? host = none → host.addresses.toList = []

namespace AddressChoice

def least : AddressChoice where
  pick? host := host.addresses.toList.head?
  pick?_mem h := List.mem_of_mem_head? h
  pick?_eq_none h := List.head?_eq_none_iff.mp h

end AddressChoice

end FabricArp
