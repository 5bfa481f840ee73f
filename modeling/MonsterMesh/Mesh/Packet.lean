import Mathlib.Data.Nat.Notation

/-! Mesh packets, as the firmware passes them between its layers. -/
namespace MonsterMesh

/-- The decoded payload of a packet. -/
structure Data where
  portnum : UInt32
  payload : List UInt8
  wantResponse : Bool
  (dest source requestId replyId emoji : UInt32)
  hasBitfield : Bool
  bitfield : UInt8
deriving DecidableEq

def Data.zero : Data :=
  { portnum := 0, payload := [], wantResponse := false, dest := 0, source := 0, requestId := 0
    replyId := 0, emoji := 0, hasBitfield := false, bitfield := 0 }

/-- `which_payload_variant` with the union it selects from. -/
inductive PayloadVariant where
  | unset
  | decoded (data : Data)
  | encrypted (bytes : List UInt8)
deriving DecidableEq

/-- A packet. The signal-to-noise ratio, a `float`, is left out. -/
structure MeshPacket where
  (from' to' : UInt32)
  channel : UInt8
  variant : PayloadVariant
  (id rxTime : UInt32)
  hopLimit : UInt8
  wantAck : Bool
  priority : UInt8
  rxRssi : Int
  viaMqtt : Bool
  hopStart : UInt8
  publicKey : List UInt8
  pkiEncrypted : Bool
  (nextHop relayNode : UInt8)
  txAfter : UInt32
  transportMechanism : UInt8
deriving DecidableEq

def MeshPacket.zero : MeshPacket :=
  { from' := 0, to' := 0, channel := 0, variant := .unset, id := 0, rxTime := 0, hopLimit := 0
    wantAck := false, priority := 0, rxRssi := 0, viaMqtt := false, hopStart := 0, publicKey := []
    pkiEncrypted := false, nextHop := 0, relayNode := 0, txAfter := 0, transportMechanism := 0 }

def nodenumBroadcast : UInt32 := 0xFFFFFFFF
def nodenumBroadcastNoLora : UInt32 := 1

def isBroadcast (dest : UInt32) : Bool := dest = nodenumBroadcast || dest = nodenumBroadcastNoLora

/-- `getLastByteOfNodeNum` -/
def lastByteOfNodeNum (num : UInt32) : UInt8 := if num &&& 0xFF ≠ 0 then num.toUInt8 else 0xFF

namespace MeshPacket

variable (p : MeshPacket) (nodeNum : UInt32)

/-- `getFrom` on the node `nodeNum`. -/
def getFrom : UInt32 := if p.from' = 0 then nodeNum else p.from'

def isFromUs : Bool := p.from' = 0 || p.from' = nodeNum

def isToUs : Bool := p.to' = nodeNum

end MeshPacket

end MonsterMesh
