import Mathlib.Data.Nat.Notation
import MonsterMesh.Mesh.Packet

/-! The history of recent packets: who sent them, with how many hops left, and who relayed them. -/
namespace MonsterMesh

/-- The record of a packet; `relayedBy` has `NUM_RELAYERS`, that is six, places. -/
@[ext]
structure PacketRecord where
  (sender id rxTimeMsec : UInt32)
  (nextHop hopLimit : UInt8)
  relayedBy : List UInt8
deriving DecidableEq

def noNextHopPreference : UInt8 := 0

def PacketRecord.zero : PacketRecord :=
  { sender := 0, id := 0, rxTimeMsec := 0, nextHop := 0, hopLimit := 0, relayedBy := [0, 0, 0, 0, 0, 0] }

namespace PacketRecord

variable (r : PacketRecord)

/-! The highest hop limit is in bits 0 to 2, our own in bits 3 to 5. -/

def getHighestHopLimit : UInt8 := r.hopLimit &&& (0x07 : UInt8)

def setHighestHopLimit (hopLimit : UInt8) : PacketRecord :=
  { r with hopLimit := (r.hopLimit &&& (0xF8 : UInt8)) ||| (hopLimit &&& (0x07 : UInt8)) }

def getOurTxHopLimit : UInt8 := (r.hopLimit &&& (0x38 : UInt8)) >>> 3

def setOurTxHopLimit (hopLimit : UInt8) : PacketRecord :=
  { r with hopLimit := (r.hopLimit &&& (0xC7 : UInt8)) ||| ((hopLimit <<< 3) &&& (0x38 : UInt8)) }

/-- A slot with nothing in it. -/
def blank : Bool := r.id = 0 && r.sender = 0

def has (sender id : UInt32) : Bool := r.id = id && r.sender = sender

/-- `wasRelayer` on a record. -/
def wasRelayer (relayer : UInt8) : Bool := r.relayedBy.contains relayer

/-- Whether the relayer was the only one. -/
def wasSole (relayer : UInt8) : Bool :=
  r.wasRelayer relayer && !r.relayedBy.any fun x => x ≠ relayer && x ≠ 0

/-- `removeRelayer` on a record: the others move down, and what is left over is cleared. -/
def removeRelayer (relayer : UInt8) : PacketRecord :=
  let rest := r.relayedBy.filter fun x => x ≠ relayer
  { r with relayedBy := rest ++ List.replicate (6 - rest.length) 0 }

/-- One round of the loop that adds the relayers of `found`. -/
def mergeOne (found : List UInt8) (startIdx : ℕ) (relayedBy : List UInt8) (i : ℕ) : List UInt8 :=
  let relayer := found.getD i 0
  if relayer = 0 then relayedBy
  else if relayedBy.contains relayer then relayedBy
  else relayedBy.set (i + startIdx) relayer

def mergeRelayers (found : List UInt8) (startIdx : ℕ) (relayedBy : List UInt8) : List UInt8 :=
  (List.range (6 - startIdx)).foldl (mergeOne found startIdx) relayedBy

end PacketRecord

open PacketRecord

/-- The record that `wasSeenRecently` makes of a packet. -/
def MeshPacket.record (nodeNum : UInt32) (p : MeshPacket) (now : UInt32) : PacketRecord :=
  let r := { PacketRecord.zero with
    id := p.id, sender := p.getFrom nodeNum, nextHop := p.nextHop
    rxTimeMsec := if now = 0 then 1 else now }.setHighestHopLimit p.hopLimit
  if p.relayNode = lastByteOfNodeNum nodeNum then
    { r.setOurTxHopLimit p.hopLimit with relayedBy := [p.relayNode, 0, 0, 0, 0, 0] }
  else r

/-- Whether the packet comes from someone who heard us relay it. -/
def PacketRecord.heardUs (ourRelayID : UInt8) (p : MeshPacket) (found : PacketRecord) : Bool :=
  found.wasRelayer ourRelayID &&
    (p.hopLimit = found.getOurTxHopLimit || (p.hopLimit.toNat : Int) = found.getOurTxHopLimit.toNat - 1)

/-- The record of a packet with what the record found says about it. -/
def PacketRecord.update (nodeNum : UInt32) (p : MeshPacket) (r found : PacketRecord) : PacketRecord :=
  let ourRelayID := lastByteOfNodeNum nodeNum
  let weWillRelay : Bool := p.relayNode = ourRelayID
  let heard := !weWillRelay && found.heardUs ourRelayID p
  let startIdx := if weWillRelay || heard then 1 else 0
  let relayedBy := if heard then r.relayedBy.set 0 p.relayNode else r.relayedBy
  let r := if weWillRelay then r else r.setOurTxHopLimit found.getOurTxHopLimit
  let r := if r.getHighestHopLimit < found.getHighestHopLimit then
    r.setHighestHopLimit found.getHighestHopLimit else r
  { r with relayedBy := mergeRelayers found.relayedBy startIdx relayedBy, nextHop := found.nextHop }

/-- The history, in as many slots as it has records. -/
structure PacketHistory where
  recentPackets : List PacketRecord
deriving DecidableEq

/-- What a call of `wasSeenRecently` returns and writes to its flags. -/
structure Seen where
  (seenRecently wasFallback weWereNextHop wasUpgraded : Bool)
  history : PacketHistory

namespace PacketHistory

variable (h : PacketHistory) (nodeNum : UInt32)

def start (size : ℕ) : PacketHistory := ⟨List.replicate size PacketRecord.zero⟩

def find (sender id : UInt32) : Option PacketRecord :=
  if sender = 0 ∨ id = 0 then none else h.recentPackets.find? fun it => it.has sender id

/-- The scan for a free, matching or oldest slot, from slot `i` on. -/
def scan (now : UInt32) (r : PacketRecord) : List PacketRecord → ℕ → UInt32 → Option ℕ → Option ℕ
  | [], _, _, tu => tu
  | it :: rest, i, oldest, tu =>
    if it.blank then some i
    else if it.has r.sender r.id then some i
    else if oldest < now - it.rxTimeMsec then scan now r rest (i + 1) (now - it.rxTimeMsec) (some i)
    else scan now r rest (i + 1) oldest tu

def insert (now : UInt32) (r : PacketRecord) : PacketHistory :=
  match scan now r h.recentPackets 0 0 none with
  | none => h
  | some tu => if r.rxTimeMsec = 0 then h else ⟨h.recentPackets.set tu r⟩

/-- A copy that is no longer sent to the next hop, from a relayer that relayed it before, which neither
we nor the next hop did. -/
def isFallback (p : MeshPacket) (found : PacketRecord) : Bool :=
  let ourRelayID := lastByteOfNodeNum nodeNum
  found.sender ≠ nodeNum && found.nextHop ≠ noNextHopPreference && found.nextHop ≠ ourRelayID &&
    p.nextHop = noNextHopPreference && found.wasRelayer p.relayNode && !found.wasRelayer ourRelayID &&
    !found.wasRelayer found.nextHop

/-- `wasSeenRecently`, with the two times it reads. -/
def wasSeenRecently (p : MeshPacket) (withUpdate : Bool) (now nowInsert : UInt32) : Seen :=
  if p.id = 0 then ⟨false, false, false, false, h⟩
  else
    let r := p.record nodeNum now
    match h.find r.sender r.id with
    | none =>
      { seenRecently := false, wasFallback := false, weWereNextHop := false, wasUpgraded := false
        history := if withUpdate then h.insert nowInsert r else h }
    | some found =>
      { seenRecently := true
        wasFallback := isFallback nodeNum p found
        weWereNextHop := found.nextHop = lastByteOfNodeNum nodeNum
        wasUpgraded := found.hopLimit < p.hopLimit
        history := if withUpdate then h.insert nowInsert (r.update nodeNum p found) else h }

/-- `wasRelayer` -/
def wasRelayer (relayer : UInt8) (id sender : UInt32) : Bool :=
  relayer ≠ 0 && (h.find sender id).any fun r => r.wasRelayer relayer

/-- The records with the first that matches changed. -/
def alter (p : PacketRecord → Bool) (f : PacketRecord → PacketRecord) : List PacketRecord → List PacketRecord
  | [] => []
  | it :: rest => if p it then f it :: rest else it :: alter p f rest

/-- `removeRelayer`, on the record that `find` comes to. -/
def removeRelayer (relayer : UInt8) (id sender : UInt32) : PacketHistory :=
  if sender = 0 ∨ id = 0 then h
  else ⟨alter (fun it => it.has sender id) (fun r => r.removeRelayer relayer) h.recentPackets⟩

end PacketHistory
end MonsterMesh
