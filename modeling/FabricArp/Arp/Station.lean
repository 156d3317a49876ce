import FabricArp.Arp.Packet

/-! The frames that stations themselves put on the wire. -/

namespace FabricArp.Arp.Station

def payload (op : Op) (senderMac : Mac) (senderIp : Ip) (targetMac : Mac) (targetIp : Ip) :
    Bytes :=
  Bytes.ofWord 1 ++ Bytes.ofWord EtherType.ipv4 ++ [6, 4] ++ Bytes.ofWord op.code ++
    senderMac.bytes ++ senderIp.octets ++ targetMac.bytes ++ targetIp.octets

def request (senderMac : Mac) (senderIp targetIp : Ip) (vlan : Vlan) : Frame :=
  Frame.assemble .broadcast senderMac vlan EtherType.arp
    (payload .request senderMac senderIp .zero targetIp)

def reply (senderMac : Mac) (senderIp : Ip) (targetMac : Mac) (targetIp : Ip) (vlan : Vlan) :
    Frame :=
  Frame.assemble targetMac senderMac vlan EtherType.arp
    (payload .reply senderMac senderIp targetMac targetIp)

def ipv4 (source destination : Mac) : Frame :=
  Frame.assemble destination source .untagged EtherType.ipv4 (Bytes.zeros 20)

end FabricArp.Arp.Station
