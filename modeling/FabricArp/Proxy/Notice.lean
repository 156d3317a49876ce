import FabricArp.Failure
import FabricArp.Network.Host

namespace FabricArp

inductive ProxyError where
  | notArp
  | notRequest
  | notReply
  | malformed (cause : PacketError)
deriving DecidableEq

namespace ProxyError

def message : ProxyError → String
  | notArp => "Ethernet frame does not contain ARP request."
  | notRequest => "ARP is not a request."
  | notReply => "ARP is not a reply."
  | malformed cause => "malformed ARP frame: " ++ cause.message

end ProxyError

def Outcome.orMalformed {α : Type} (outcome : Outcome PacketError α) : Outcome ProxyError α :=
  outcome.mapCause .malformed

@[simp] theorem Outcome.orMalformed_ok {α : Type} (value : α) :
    Outcome.orMalformed (.ok value) = .ok value :=
  rfl

@[simp] theorem Outcome.orMalformed_refused {α : Type} (cause : PacketError) :
    Outcome.orMalformed (.error (.refused cause) : Outcome PacketError α) =
      .error (.refused (.malformed cause)) :=
  rfl

inductive Level where
  | debug
  | info
  | warn
deriving DecidableEq

def Level.text : Level → String
  | debug => "DEBUG"
  | info => "INFO"
  | warn => "WARN"

inductive Notice where
  | classified (internal external : Nat)
  | topologyEvent (kind : String)
  | unknownOpcode (opcode : UInt16)
  | boundaryAnswer (arrival : Point) (target : Ip)
  | subnetHandover (sender : Ip) (out : Point)
  | unresolvedRequest (target : Ip) (vlan : Vlan)
  | hostAnswer (target : Ip) (host : HostId) (out : Point)
  | replyForwarded (host : HostId) (out : Point)
  | replyUnclaimed (destination : Mac)
  | fabricSuppressed (out : Point)
  | packetDropped (cause : ProxyError) (arrival : Point)
  | feedsClosed (events packets : Nat)
deriving DecidableEq

namespace Notice

inductive Value where
  | text (value : String)
  | number (value : Nat)
deriving DecidableEq

def level : Notice → Level
  | classified .. => .info
  | fabricSuppressed .. | packetDropped .. => .warn
  | _ => .debug

def message : Notice → String
  | classified .. => "port classification initialized"
  | topologyEvent .. => "topology event"
  | unknownOpcode .. => "ignoring ARP with unknown opcode"
  | boundaryAnswer .. => "answering for boundary address"
  | subnetHandover .. => "handing request to subnet port"
  | unresolvedRequest .. => "unresolved request"
  | hostAnswer .. => "proxy reply"
  | replyForwarded .. => "forwarding reply"
  | replyUnclaimed .. => "reply for unknown host"
  | fabricSuppressed .. => "not sending ARP out of an internal port"
  | packetDropped .. => "dropping packet"
  | feedsClosed .. => "feeds closed"

def fields : Notice → List (String × Value)
  | classified internal external =>
      [("internal", .number internal), ("external", .number external)]
  | topologyEvent kind => [("kind", .text kind)]
  | unknownOpcode opcode => [("opcode", .number opcode.toNat)]
  | boundaryAnswer arrival target =>
      [("in_port", .text arrival.text), ("target", .text target.text)]
  | subnetHandover sender out =>
      [("sender", .text sender.text), ("out_port", .text out.text)]
  | unresolvedRequest target vlan =>
      [("target", .text target.text), ("vlan", .text vlan.text)]
  | hostAnswer target host out =>
      [("target", .text target.text), ("host", .text host.text), ("out_port", .text out.text)]
  | replyForwarded host out =>
      [("host", .text host.text), ("out_port", .text out.text)]
  | replyUnclaimed destination => [("dst", .text destination.text)]
  | fabricSuppressed out => [("out_port", .text out.text)]
  | packetDropped cause arrival =>
      [("error", .text cause.message), ("in_port", .text arrival.text)]
  | feedsClosed events packets =>
      [("events", .number events), ("packets", .number packets)]

end Notice

end FabricArp
