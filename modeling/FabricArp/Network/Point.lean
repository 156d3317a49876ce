namespace FabricArp

structure DeviceId where
  name : String
deriving DecidableEq

namespace DeviceId

instance : Ord DeviceId where
  compare := compareOn name

instance : Std.TransOrd DeviceId :=
  inferInstanceAs (Std.TransCmp (compareOn name))

instance : Std.LawfulEqOrd DeviceId where
  eq_of_compare {left right} h := by
    have hname : left.name = right.name := Std.LawfulEqOrd.eq_of_compare h
    cases left
    cases right
    simp only [] at hname
    rw [hname]

end DeviceId

abbrev PortNumber := UInt64

def PortNumber.text (number : PortNumber) : String :=
  toString number.toNat

structure Port where
  number : PortNumber
  enabled : Bool
deriving DecidableEq

/-- A port of a device: where a frame enters or leaves the network. -/
structure Point where
  device : DeviceId
  port : PortNumber
deriving DecidableEq

namespace Point

def text (point : Point) : String :=
  point.device.name ++ "/" ++ PortNumber.text point.port

instance : Ord Point where
  compare := compareLex (compareOn device) (compareOn port)

instance : Std.TransOrd Point :=
  inferInstanceAs (Std.TransCmp (compareLex (compareOn device) (compareOn port)))

instance : Std.LawfulEqOrd Point where
  eq_of_compare {left right} h := by
    have hfields := compareLex_eq_eq.mp h
    have hdevice : left.device = right.device := Std.LawfulEqOrd.eq_of_compare hfields.1
    have hport : left.port = right.port := Std.LawfulEqOrd.eq_of_compare hfields.2
    cases left
    cases right
    simp only [] at hdevice hport
    rw [hdevice, hport]

end Point

structure Link where
  source : Point
  destination : Point
deriving DecidableEq

namespace Link

def endpoints (link : Link) : List Point :=
  [link.source, link.destination]

def text (link : Link) : String :=
  link.source.text ++ " -> " ++ link.destination.text

end Link

end FabricArp
