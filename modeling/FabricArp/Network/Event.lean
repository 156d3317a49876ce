import FabricArp.Network.Point

namespace FabricArp

inductive Event where
  | deviceAdded (device : DeviceId)
  | deviceUpdated (device : DeviceId)
  | deviceRemoved (device : DeviceId)
  | deviceAvailabilityChanged (device : DeviceId)
  | deviceMastershipChanged (device : DeviceId)
  | deviceSuspended (device : DeviceId)
  | portAdded (device : DeviceId) (port : Port)
  | portUpdated (device : DeviceId) (port : Port)
  | portRemoved (device : DeviceId) (port : Port)
  | linkAdded (link : Link)
  | linkUpdated (link : Link)
  | linkRemoved (link : Link)
deriving DecidableEq

namespace Event

def kind : Event → String
  | deviceAdded _ => "DEVICE_ADDED"
  | deviceUpdated _ => "DEVICE_UPDATED"
  | deviceRemoved _ => "DEVICE_REMOVED"
  | deviceAvailabilityChanged _ => "DEVICE_AVAILABILITY_CHANGED"
  | deviceMastershipChanged _ => "DEVICE_MASTERSHIP_CHANGED"
  | deviceSuspended _ => "DEVICE_SUSPENDED"
  | portAdded _ _ => "PORT_ADDED"
  | portUpdated _ _ => "PORT_UPDATED"
  | portRemoved _ _ => "PORT_REMOVED"
  | linkAdded _ => "LINK_ADDED"
  | linkUpdated _ => "LINK_UPDATED"
  | linkRemoved _ => "LINK_REMOVED"

end Event

end FabricArp
