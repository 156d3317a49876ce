import FabricArp.Arp.Reply
import FabricArp.Network.Topology
import FabricArp.Partition.Table
import FabricArp.Proxy.Handling

/-! The decisions of the proxy; nothing goes out of an internal port. -/

namespace FabricArp

/-- What the proxy knows when a frame arrives. -/
structure Knowledge where
  topology : Topology
  table : PortTable
  choice : AddressChoice

namespace Knowledge

/-- The external points that are no boundary, by device and then by port. -/
def floodPoints (knowledge : Knowledge) : List Point :=
  (knowledge.table.snapshot .external).filter fun point =>
    !knowledge.topology.isBoundary point

def flood (knowledge : Knowledge) (frame : Frame) : Handling Unit :=
  .perform (knowledge.floodPoints.map fun point => .send ⟨point, frame.bytes⟩)

def sendTo (knowledge : Knowledge) (frame : Frame) (out : Point) : Handling Unit :=
  if knowledge.table.isInternal out then .note (.fabricSuppressed out)
  else .send ⟨out, frame.bytes⟩

def readArp (frame : Frame) : Outcome ProxyError Arp.Packet := do
  let etherType ← frame.etherType?
  if etherType ≠ EtherType.arp then
    throw (.refused .notArp)
  (Arp.Packet.ofFrame frame).orMalformed

/-- One answer for each bound address that is the target. -/
def answerAtBoundary (knowledge : Knowledge) (request : Arp.Packet) (target : Ip)
    (binding : Binding) (arrival : Point) : Handling Unit :=
  (binding.addresses.toList.filter fun address => address.ip = target).forM fun address => do
    let answer ← (request.answer address.ip binding.mac).orMalformed
    .note (.boundaryAnswer arrival target)
    knowledge.sendTo answer arrival

/-- Answers for the host that owns the target, if it and the requester are known on the VLAN. -/
def answerFromInventory (knowledge : Knowledge) (frame : Frame) (request : Arp.Packet)
    (target : Ip) : Handling Unit := do
  let vlan ← frame.vlan?
  let source ← frame.source?
  match knowledge.topology.owner? target vlan, knowledge.topology.host? ⟨source, vlan⟩ with
  | some owner, some requester =>
      match knowledge.choice.pick? owner with
      | some address =>
          let answer ← (request.answer address owner.id.mac).orMalformed
          .note (.hostAnswer target owner.id requester.location)
          knowledge.sendTo answer requester.location
      | none => knowledge.flood frame
  | _, _ =>
      .note (.unresolvedRequest target vlan)
      knowledge.flood frame

/-- Decides a request by where it arrived, then by where it was sent from, then by the hosts. -/
def resolve (knowledge : Knowledge) (frame : Frame) (request : Arp.Packet)
    (arrival : Point) : Handling Unit := do
  let target ← request.targetIp.orMalformed
  match knowledge.topology.boundary? arrival with
  | some binding => knowledge.answerAtBoundary request target binding arrival
  | none =>
      let sender ← request.senderIp.orMalformed
      match knowledge.topology.gateway? sender with
      | some binding =>
          .note (.subnetHandover sender binding.point)
          knowledge.sendTo frame binding.point
      | none => knowledge.answerFromInventory frame request target

def reply (knowledge : Knowledge) (frame : Frame) (arrival : Point) : Handling Unit := do
  let request ← readArp frame
  let op ← request.op?
  if op = some .request then
    knowledge.resolve frame request arrival
  else
    .refuse .notRequest

def deliver (knowledge : Knowledge) (frame : Frame) : Handling Unit := do
  let destination ← frame.destination?
  let vlan ← frame.vlan?
  match knowledge.topology.host? ⟨destination, vlan⟩ with
  | some host =>
      .note (.replyForwarded host.id host.location)
      knowledge.sendTo frame host.location
  | none =>
      .note (.replyUnclaimed destination)
      knowledge.flood frame

def forward (knowledge : Knowledge) (frame : Frame) : Handling Unit := do
  let packet ← readArp frame
  let op ← packet.op?
  if op = some .reply then
    knowledge.deliver frame
  else
    .refuse .notReply

/-- Handles a frame if it is ARP, and then blocks it; any other frame is left alone. -/
def handle (knowledge : Knowledge) (frame : Frame) (arrival : Point) : Handling Bool := do
  let etherType ← frame.etherType?
  if etherType ≠ EtherType.arp then
    return false
  let packet ← readArp frame
  let opcode ← packet.opcode?
  match Arp.Op.ofCode opcode with
  | .ok .reply => knowledge.forward frame
  | .ok .request => knowledge.reply frame arrival
  | .error _ => .note (.unknownOpcode opcode)
  .block
  return true

end Knowledge

end FabricArp
