namespace FabricArp

inductive PacketError where
  | macLength
  | vlanRange
  | unknownOpcode
  | addressBytes
  | addressOffset
  | prefixLengthRange
  | addressComponents
  | octetRange
  | subnetLengthMissing
  | subnetLengthInvalid
  | interfaceLengthMissing
  | interfaceLengthInvalid
  | frameLength
  | taggedFrameLength
  | protocolAddressLength
  | etherTypeNotArp
  | payloadLength
  | payloadAddressLengths
deriving DecidableEq

namespace PacketError

def message : PacketError → String
  | macLength => "MAC address must be exactly 6 bytes"
  | vlanRange => "VLAN id must be in the interval [0, 4095]"
  | unknownOpcode => "Unknown ARP opcode"
  | addressBytes => "Invalid IPv4 address array: must be at least 4 bytes"
  | addressOffset => "Invalid IPv4 address array: offset leaves fewer than 4 bytes"
  | prefixLengthRange => "Invalid IPv4 prefix length: must be in the interval [0, 32]"
  | addressComponents =>
      "Malformed IPv4 address string: must have four decimal values separated by dots"
  | octetRange => "Malformed IPv4 address string: each value must be in [0, 255]"
  | subnetLengthMissing => "Malformed IPv4 prefix string: missing prefix length"
  | subnetLengthInvalid => "Malformed IPv4 prefix string: invalid prefix length"
  | interfaceLengthMissing => "interface address is missing a prefix length"
  | interfaceLengthInvalid => "interface address has an invalid prefix length"
  | frameLength => "Frame is less than the minimum of 14 bytes"
  | taggedFrameLength => "VLAN tagged frame is less than the minimum of 18 bytes"
  | protocolAddressLength => "ARP protocol address is not an IPv4 address"
  | etherTypeNotArp => "Frame does not have ARP ether type."
  | payloadLength => "Frame payload is too small"
  | payloadAddressLengths => "Frame payload doesn't match address length fields"

end PacketError

/-- Why a computation over frame bytes stops: it refuses its input, or it reaches past the
bytes it has. -/
inductive Failure (ε : Type) where
  | refused (cause : ε)
  | outOfRange
deriving DecidableEq

abbrev Outcome (ε α : Type) := Except (Failure ε) α

namespace Outcome

def ofOption {ε α : Type} : Option α → Outcome ε α
  | some value => .ok value
  | none => .error .outOfRange

def ofExcept {ε α : Type} : Except ε α → Outcome ε α
  | .ok value => .ok value
  | .error cause => .error (.refused cause)

def mapCause {ε δ α : Type} (restate : ε → δ) : Outcome ε α → Outcome δ α
  | .ok value => .ok value
  | .error (.refused cause) => .error (.refused (restate cause))
  | .error .outOfRange => .error .outOfRange

instance {ε : Type} : MonadLift Option (Except (Failure ε)) where
  monadLift := ofOption

variable {ε α β : Type}

@[simp] theorem ok_bind (value : α) (next : α → Outcome ε β) :
    (Except.ok value >>= next) = next value :=
  rfl

@[simp] theorem liftM_some (value : α) : (liftM (some value) : Outcome ε α) = .ok value :=
  rfl

end Outcome

end FabricArp
