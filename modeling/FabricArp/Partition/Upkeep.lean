import FabricArp.Network.Event
import FabricArp.Network.Topology
import FabricArp.Partition.Table

namespace FabricArp.PortTable

/-- Every enabled port is known, and internal where a link ends on it. -/
def ofTopology (topology : Topology) : PortTable :=
  rebuild topology.enabledPoints topology.links

/-- A port that comes up is external until a link shows up on it; a disabled port changes
nothing. -/
def portUp (table : PortTable) (device : DeviceId) (port : Port) : PortTable :=
  if port.enabled then table.toExternal [⟨device, port.number⟩] else table

def observe (table : PortTable) : Event → PortTable
  | .linkAdded link => table.toInternal link.endpoints
  | .linkRemoved link => table.toExternal link.endpoints
  | .linkUpdated _ => table
  | .deviceRemoved device => table.removeDevice device
  | .portAdded device port | .portUpdated device port => table.portUp device port
  | .portRemoved device port => table.removePort ⟨device, port.number⟩
  | .deviceAdded _ | .deviceUpdated _ | .deviceAvailabilityChanged _
  | .deviceMastershipChanged _ | .deviceSuspended _ => table

def observeAll (table : PortTable) (events : List Event) : PortTable :=
  events.foldl observe table

end FabricArp.PortTable
