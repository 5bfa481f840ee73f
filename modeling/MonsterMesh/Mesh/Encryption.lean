import MonsterMesh.Mesh.Channels
import MonsterMesh.Mesh.Packet

/-! How a packet is encrypted for the air, and decrypted again. -/
namespace MonsterMesh

open Fallible Text

/-- What the firmware is linked with: protobuf, AES-CTR and the AEAD over Curve25519. -/
structure Cryptography where
  pbEncode : Data → List UInt8
  pbDecode : List UInt8 → Option Data
  encryptAESCtr : (key : List UInt8) → (fromNode packetId : UInt32) → List UInt8 → List UInt8
  encryptCurve25519 : (privateKey remotePublic : List UInt8) → (fromNode packetId extraNonce : UInt32) →
    List UInt8 → List UInt8
  decryptCurve25519 : (privateKey remotePublic : List UInt8) → (fromNode packetId : UInt32) →
    List UInt8 → Option (List UInt8)

namespace Cryptography

variable (w : Cryptography)

/-- `pb_encode_to_bytes` into the scratch buffer, which writes nothing where the message does not fit. -/
def pbEncodeToBytes (d : Data) : List UInt8 := if (w.pbEncode d).length ≤ 256 then w.pbEncode d else []

/-- `encryptPacket` under the active key. -/
def encryptPacket (key : List UInt8) (fromNode packetId : UInt32) (bytes : List UInt8) : List UInt8 :=
  if key = [] ∨ 256 < bytes.length then bytes else w.encryptAESCtr key fromNode packetId bytes

end Cryptography

inductive RoutingError where
  | none | noChannel | tooLarge | pkiFailed
deriving DecidableEq

inductive DecodeState where
  | success | failure | fatal
deriving DecidableEq

/-- What the node database says of a node. -/
structure NodeUser where
  hasUser : Bool
  publicKey : List UInt8
deriving DecidableEq

/-- What a node encrypts and decrypts with; `key` is the one that is active. -/
structure Station where
  nodeNum : UInt32
  (isLicensed okToMqtt forceSimradio knownOnly : Bool)
  (privateKey publicKey : List UInt8)
  getMeshNode : UInt32 → Option NodeUser
  channels : Channels
  key : List UInt8

/-- A packet after `perhapsEncode`, and the key that is active then. -/
structure Encoded where
  error : RoutingError
  packet : MeshPacket
  key : List UInt8
deriving DecidableEq

/-- A packet after `perhapsDecode`, and the key that is active then. -/
structure Decoded where
  state : DecodeState
  packet : MeshPacket
  key : List UInt8
deriving DecidableEq

def unknownApp : UInt32 := 0
def textMessageApp : UInt32 := 1
def positionApp : UInt32 := 3
def nodeinfoApp : UInt32 := 4
def routingApp : UInt32 := 5
def tracerouteApp : UInt32 := 70

/-- `MESHTASTIC_HEADER_LENGTH` -/
def headerLength : ℕ := 16

/-- `MESHTASTIC_PKC_OVERHEAD` -/
def pkcOverhead : ℕ := 12

/-- `MAX_LORA_PAYLOAD_LEN` -/
def maxLoraPayloadLen : ℕ := 255

/-- The 32 bytes of a key that has at most as many. -/
def keyBytes (key : List UInt8) : List UInt8 := key.take 32 ++ List.replicate (32 - key.length) 0

namespace Channels

variable (c : Channels)

/-- The channel that a packet names, if there is one. -/
def indexOf? (chIndex : UInt8) : Option (Fin 8) :=
  if h : chIndex.toNat < 8 then some ⟨chIndex.toNat, h⟩ else none

/-- `getName`; where there is no channel its name is empty. -/
def nameOf (chIndex : UInt8) : Str :=
  match indexOf? chIndex with
  | some i => c.getName i
  | none => if c.lora.usePreset then modemPresetDisplayName c.lora.modemPreset c.lora.usePreset
    else ascii "Custom"

/-- `setCrypto`, with the active key before and after. -/
def setCrypto (stack : ℕ) (key : List UInt8) (chIndex : Fin 8) : Except ChannelsFault (ℤ × List UInt8) :=
  (fun k => match k with
    | none => (-1, key)
    | some bytes => (c.hashes chIndex, bytes)) <$> c.getKey stack chIndex

/-- `setActiveByIndex` -/
def setActiveByIndex (stack : ℕ) (key : List UInt8) (chIndex : UInt8) :
    Except ChannelsFault (ℤ × List UInt8) :=
  match indexOf? chIndex with
  | some i => c.setCrypto stack key i
  | none => .ok (-1, key)

end Channels

namespace Station

variable (w : Cryptography) (stack : ℕ) (n : Station)

/-- What a node adds to the payload of a packet of its own. -/
def marked (p : MeshPacket) (d : Data) : Data :=
  if p.isFromUs n.nodeNum then
    { d with
      hasBitfield := true
      bitfield := d.bitfield ||| (if n.okToMqtt then (1 : UInt8) else 0) |||
        if d.wantResponse then (2 : UInt8) else 0 }
  else d

/-- Whether the channel is one that is not encrypted with public keys unless that is asked for. -/
def isPlainChannel (chIndex : UInt8) : Bool :=
  sameText (n.channels.nameOf chIndex) (ascii "serial") || sameText (n.channels.nameOf chIndex) (ascii "gpio")

/-- Whether `perhapsEncode` encrypts with public keys, and with whose. -/
def pkiNode (p : MeshPacket) (d : Data) : Option NodeUser :=
  match n.getMeshNode p.to' with
  | none => none
  | some node =>
    if p.isFromUs n.nodeNum && !n.forceSimradio && !n.isLicensed &&
        !(!p.pkiEncrypted && n.isPlainChannel p.channel) && n.privateKey.length = 32 && !isBroadcast p.to' &&
        node.publicKey.length = 32 && d.portnum ≠ tracerouteApp && d.portnum ≠ nodeinfoApp &&
        d.portnum ≠ routingApp && d.portnum ≠ positionApp then some node
    else none

/-- The client names a key, and it is not the one that the node database has. -/
def keyDiffers (p : MeshPacket) (node : NodeUser) : Bool :=
  p.pkiEncrypted && (keyBytes p.publicKey).any (· ≠ 0) && keyBytes p.publicKey ≠ keyBytes node.publicKey

def perhapsEncode (extraNonce : UInt32) (p : MeshPacket) : Except ChannelsFault Encoded :=
  match p.variant with
  | .decoded data =>
    let d := n.marked p data
    let bytes := w.pbEncodeToBytes d
    let p := { p with variant := .decoded d }
    if maxLoraPayloadLen < bytes.length + headerLength then .ok ⟨.tooLarge, p, n.key⟩
    else
      match n.pkiNode p d with
      | some node =>
        if maxLoraPayloadLen < bytes.length + headerLength + pkcOverhead then .ok ⟨.tooLarge, p, n.key⟩
        else if keyDiffers p node then .ok ⟨.pkiFailed, p, n.key⟩
        else
          let encrypted := w.encryptCurve25519 n.privateKey node.publicKey (p.getFrom n.nodeNum) p.id extraNonce
            bytes
          .ok ⟨.none, { p with variant := .encrypted encrypted, channel := 0, pkiEncrypted := true }, n.key⟩
      | none =>
        if p.pkiEncrypted then .ok ⟨.pkiFailed, p, n.key⟩
        else
          (fun active =>
            let p := { p with channel := UInt8.ofInt active.1 }
            if active.1 < 0 then ⟨.noChannel, p, active.2⟩
            else
              ⟨.none, { p with
                variant := .encrypted (w.encryptPacket active.2 (p.getFrom n.nodeNum) p.id bytes) }, active.2⟩) <$>
            n.channels.setActiveByIndex stack n.key p.channel
  | _ => .ok ⟨.none, p, n.key⟩

/-- What the channels make of a packet: the channel that decrypts it, or that it is a direct message which
should have been encrypted with public keys. -/
inductive Attempt where
  | notFound
  | legacy
  | found (chIndex : Fin 8) (d : Data)

/-- The loop of `perhapsDecode` over the channels. -/
def tryChannels (p : MeshPacket) (bytes : List UInt8) :
    List (Fin 8) → List UInt8 → Except ChannelsFault (Attempt × List UInt8)
  | [], key => .ok (.notFound, key)
  | chIndex :: rest, key =>
    if n.channels.hashes chIndex ≠ p.channel.toNat then tryChannels p bytes rest key
    else do
      let active ← n.channels.setCrypto stack key chIndex
      match w.pbDecode (w.encryptPacket active.2 p.from' p.id bytes) with
      | none => tryChannels p bytes rest active.2
      | some d =>
        if d.portnum = unknownApp then tryChannels p bytes rest active.2
        else if !n.isLicensed && p.isToUs n.nodeNum && d.portnum = textMessageApp then .ok (.legacy, active.2)
        else .ok (.found chIndex d, active.2)

/-- The public key of the sender, where `perhapsDecode` attempts decryption with it. -/
def pkiSender (p : MeshPacket) (rawSize : ℕ) : Option (List UInt8) :=
  match n.getMeshNode p.from', n.getMeshNode p.to' with
  | some sender, some receiver =>
    if p.channel = 0 && p.isToUs n.nodeNum && 0 < p.to' && !isBroadcast p.to' && sender.publicKey ≠ [] &&
        receiver.publicKey ≠ [] && pkcOverhead < rawSize then some sender.publicKey
    else none
  | _, _ => none

/-- A payload once its bitfield was looked at. -/
def bitfieldRead (d : Data) : Data :=
  { d with wantResponse := if d.hasBitfield then d.wantResponse || d.bitfield &&& (2 : UInt8) ≠ 0
      else d.wantResponse }

/-- The packet that was decrypted as `d` on a channel. -/
def accepted (p : MeshPacket) (chIndex : UInt8) (d : Data) : MeshPacket :=
  { p with channel := chIndex, variant := .decoded (bitfieldRead d) }

/-- What is left to do where decryption with public keys did not work. -/
def decodeByChannel (p : MeshPacket) (bytes : List UInt8) : Except ChannelsFault Decoded :=
  (fun r => match r.1 with
    | .found chIndex d => ⟨.success, accepted p (UInt8.ofNat chIndex.val) d, r.2⟩
    | _ => ⟨.failure, p, r.2⟩) <$> n.tryChannels w stack p bytes (List.finRange 8) n.key

def perhapsDecode (p : MeshPacket) : Except ChannelsFault Decoded :=
  if n.knownOnly && !(n.getMeshNode p.from').any NodeUser.hasUser then .ok ⟨.failure, p, n.key⟩
  else
    match p.variant with
    | .decoded _ => .ok ⟨.success, p, n.key⟩
    | .unset => n.decodeByChannel w stack p []
    | .encrypted bytes =>
      if 256 < bytes.length then .ok ⟨.fatal, p, n.key⟩
      else
        match n.pkiSender p bytes.length with
        | none => n.decodeByChannel w stack p bytes
        | some publicKey =>
          match w.decryptCurve25519 n.privateKey publicKey p.from' p.id bytes with
          | none => n.decodeByChannel w stack p bytes
          | some plain =>
            match w.pbDecode plain with
            | none => .ok ⟨.failure, p, n.key⟩
            | some d =>
              if d.portnum = unknownApp then .ok ⟨.failure, p, n.key⟩
              else .ok ⟨.success, accepted { p with pkiEncrypted := true, publicKey := keyBytes publicKey } 0 d,
                n.key⟩

end Station
end MonsterMesh
