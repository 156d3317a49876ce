import FabricArp.Arp.Packet

namespace FabricArp.Arp.Packet

/-- Refuses a request whose sender addresses are not of Ethernet and IPv4 length, the hardware
address first. -/
def answer (request : Packet) (ip : Ip) (mac : Mac) : Outcome PacketError Frame := do
  let requesterMac ← request.senderMac
  let requesterIp ← request.senderIp
  let reply ← blankIpv4.setOpcode? Op.reply.code
  let reply ← reply.setSenderMac? mac
  let reply ← reply.setSenderIp? ip
  let reply ← reply.setTargetMac? requesterMac
  let reply ← reply.setTargetIp? requesterIp
  let frame ← reply.frame.setDestination? (← request.frame.source?)
  let frame ← frame.setSource? mac
  frame.setVlan? (← request.frame.vlan?)

end FabricArp.Arp.Packet
