import FabricArp.Address.Ip
import FabricArp.Ethernet.Frame

/-! ARP packets in the payload of a frame; two payload bytes give the lengths of the addresses. -/

namespace FabricArp.Arp

inductive Op where
  | request
  | reply
deriving DecidableEq

namespace Op

def code : Op → UInt16
  | request => 1
  | reply => 2

def ofCode (code : UInt16) : Except PacketError Op :=
  if code = request.code then .ok request
  else if code = reply.code then .ok reply
  else .error .unknownOpcode

def text : Op → String
  | request => "Request"
  | reply => "Reply"

end Op

inductive Field where
  | hardwareType
  | protocolType
  | hardwareLength
  | protocolLength
  | opcode
  | senderHardware
  | senderProtocol
  | targetHardware
  | targetProtocol
deriving DecidableEq

structure Layout where
  hardware : Nat
  protocol : Nat
deriving DecidableEq

namespace Layout

def hardwareLengthOffset : Nat := 4

def protocolLengthOffset : Nat := 5

/-- The lengths that a payload states; too short a payload has no room for addresses either. -/
def ofPayload (payload : Bytes) : Layout where
  hardware := (payload.getD hardwareLengthOffset 0).toNat
  protocol := (payload.getD protocolLengthOffset 0).toNat

def start (layout : Layout) : Field → Nat
  | .hardwareType => 0
  | .protocolType => 2
  | .hardwareLength => hardwareLengthOffset
  | .protocolLength => protocolLengthOffset
  | .opcode => 6
  | .senderHardware => 8
  | .senderProtocol => 8 + layout.hardware
  | .targetHardware => 8 + layout.hardware + layout.protocol
  | .targetProtocol => 8 + 2 * layout.hardware + layout.protocol

def width (layout : Layout) : Field → Nat
  | .hardwareType | .protocolType | .opcode => 2
  | .hardwareLength | .protocolLength => 1
  | .senderHardware | .targetHardware => layout.hardware
  | .senderProtocol | .targetProtocol => layout.protocol

def size (layout : Layout) : Nat :=
  8 + 2 * layout.hardware + 2 * layout.protocol

end Layout

def fixedSize : Nat := 8

structure Packet where
  frame : Frame
deriving DecidableEq

namespace Packet

/-- Accepts a frame of the ARP ether type whose payload has room for all fields; padding may
follow them. -/
def ofFrame (frame : Frame) : Outcome PacketError Packet := do
  let etherType ← frame.etherType?
  if etherType ≠ EtherType.arp then
    throw (.refused .etherTypeNotArp)
  let payload ← frame.payload?
  if payload.length < fixedSize then
    throw (.refused .payloadLength)
  if payload.length < (Layout.ofPayload payload).size then
    throw (.refused .payloadAddressLengths)
  return ⟨frame⟩

def read? (packet : Packet) (field : Field) : Option Bytes := do
  let payload ← packet.frame.payload?
  let layout := Layout.ofPayload payload
  payload.slice? (layout.start field) (layout.width field)

def write? (packet : Packet) (field : Field) (bytes : Bytes) : Option Packet := do
  let payload ← packet.frame.payload?
  let layout := Layout.ofPayload payload
  if bytes.length = layout.width field then
    return ⟨← packet.frame.writePayload? (layout.start field) bytes⟩
  else none

def hardwareType? (packet : Packet) : Option UInt16 := do
  Bytes.toWord? (← packet.read? .hardwareType)

def protocolType? (packet : Packet) : Option UInt16 := do
  Bytes.toWord? (← packet.read? .protocolType)

def hardwareLength? (packet : Packet) : Option UInt8 := do
  (← packet.read? .hardwareLength).head?

def protocolLength? (packet : Packet) : Option UInt8 := do
  (← packet.read? .protocolLength).head?

def opcode? (packet : Packet) : Option UInt16 := do
  Bytes.toWord? (← packet.read? .opcode)

def op? (packet : Packet) : Option (Option Op) := do
  return (Op.ofCode (← packet.opcode?)).toOption

def hardwareAddress (packet : Packet) (field : Field) : Outcome PacketError Mac := do
  let bytes ← packet.read? field
  Outcome.ofExcept (Mac.ofBytes bytes)

/-- The field has to be there before its length is looked at. -/
def protocolAddress (packet : Packet) (field : Field) : Outcome PacketError Ip := do
  let bytes ← packet.read? field
  let length ← packet.protocolLength?
  if length ≠ 4 then
    throw (.refused .protocolAddressLength)
  Outcome.ofExcept (Ip.ofBytes bytes 0)

def senderMac (packet : Packet) : Outcome PacketError Mac :=
  packet.hardwareAddress .senderHardware

def senderIp (packet : Packet) : Outcome PacketError Ip :=
  packet.protocolAddress .senderProtocol

def targetMac (packet : Packet) : Outcome PacketError Mac :=
  packet.hardwareAddress .targetHardware

def targetIp (packet : Packet) : Outcome PacketError Ip :=
  packet.protocolAddress .targetProtocol

def setHardwareType? (packet : Packet) (hardwareType : UInt16) : Option Packet :=
  packet.write? .hardwareType (Bytes.ofWord hardwareType)

def setProtocolType? (packet : Packet) (protocolType : UInt16) : Option Packet :=
  packet.write? .protocolType (Bytes.ofWord protocolType)

def setHardwareLength? (packet : Packet) (length : UInt8) : Option Packet :=
  packet.write? .hardwareLength [length]

def setProtocolLength? (packet : Packet) (length : UInt8) : Option Packet :=
  packet.write? .protocolLength [length]

def setOpcode? (packet : Packet) (opcode : UInt16) : Option Packet :=
  packet.write? .opcode (Bytes.ofWord opcode)

def setSenderMac? (packet : Packet) (mac : Mac) : Option Packet :=
  packet.write? .senderHardware mac.bytes

def setSenderIp? (packet : Packet) (ip : Ip) : Option Packet :=
  packet.write? .senderProtocol ip.octets

def setTargetMac? (packet : Packet) (mac : Mac) : Option Packet :=
  packet.write? .targetHardware mac.bytes

def setTargetIp? (packet : Packet) (ip : Ip) : Option Packet :=
  packet.write? .targetProtocol ip.octets

def zeroed (hardwareType protocolType : UInt16)
    (hardwareLength protocolLength : UInt8) : Packet :=
  let layout : Layout := ⟨hardwareLength.toNat, protocolLength.toNat⟩
  ⟨Frame.assemble .zero .zero .untagged EtherType.arp
    (Bytes.ofWord hardwareType ++ Bytes.ofWord protocolType ++
      [hardwareLength, protocolLength] ++ Bytes.zeros (layout.size - 6))⟩

def blank (hardwareLength protocolLength : UInt8) : Packet :=
  zeroed 0 0 hardwareLength protocolLength

/-- An Ethernet/IPv4 packet that lacks only its addresses and operation. -/
def blankIpv4 : Packet :=
  zeroed 1 EtherType.ipv4 6 4

end Packet

end FabricArp.Arp
