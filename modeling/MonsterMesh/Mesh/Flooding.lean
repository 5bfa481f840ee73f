import MonsterMesh.Mesh.History
import MonsterMesh.Mesh.PacketQueue

/-! How a node floods the packets that it hears. -/
namespace MonsterMesh

inductive DeviceRole where
  | client | clientMute | router | routerClient | repeater | tracker | sensor | tak | clientHidden
  | lostAndFound | takTracker | routerLate | clientBase
deriving DecidableEq

inductive RebroadcastMode where
  | all | allSkipDecoding | localOnly | knownOnly | none | corePortnumsOnly
deriving DecidableEq

/-- What the node database knows about a node, as far as the router reads it. -/
structure NodeInfoLite where
  num : UInt32
  (isFavorite hasUser : Bool)
  role : DeviceRole
  nextHop : UInt8
deriving DecidableEq

/-- The router with what it reads of the configuration and the node database. The retransmissions it
keeps for packets that are not broadcasts are left out. -/
structure FloodingRouter where
  nodeNum : UInt32
  role : DeviceRole
  rebroadcastMode : RebroadcastMode
  meshNodes : List NodeInfoLite
  history : PacketHistory
  txQueue : TxQueue

/-- What a send comes to: the times the history reads, whether the duty cycle, the encryption and the
radio let the packet through, what they make of it, and the delays drawn for the queue. -/
structure Sending where
  (now nowInsert : UInt32)
  letThrough : Bool
  (channel priority : UInt8)
  variant : PayloadVariant
  publicKey : List UInt8
  pkiEncrypted : Bool
  delays : TxDelays

/-- What a reception comes to: the times the history reads, whether the packet gets as far as
`sniffReceived`, the send it may cause and the times of the late window. -/
structure Reception where
  (now nowInsert : UInt32)
  handled : Bool
  sending : Sending
  (nowClamp worst : UInt32)

def transportLora : UInt8 := 1

/-- A copy that its originator repeats. -/
def MeshPacket.isRepeated (p : MeshPacket) : Bool := 0 < p.hopStart && p.hopStart = p.hopLimit

namespace FloodingRouter

variable (n : FloodingRouter) (p : MeshPacket) (e : Sending)

def ourRelayID : UInt8 := lastByteOfNodeNum n.nodeNum

def getMeshNode (num : UInt32) : Option NodeInfoLite := n.meshNodes.find? fun lite => lite.num = num

def isFavorite (num : UInt32) : Bool :=
  num ≠ nodenumBroadcast && (n.getMeshNode num).any NodeInfoLite.isFavorite

/-- The loop of `isFromOrToFavoritedNode`, which stops once it has seen both nodes. -/
def favoritedAmong (p : MeshPacket) : List NodeInfoLite → Bool → Bool → Bool
  | [], _, _ => false
  | lite :: rest, seenFrom, seenTo =>
    if lite.num = p.from' && lite.isFavorite then true
    else if lite.num = p.to' && lite.isFavorite then true
    else if (seenFrom || lite.num = p.from') && (seenTo || lite.num = p.to') then false
    else favoritedAmong p rest (seenFrom || lite.num = p.from') (seenTo || lite.num = p.to')

def isFromOrToFavoritedNode : Bool :=
  if p.to' = nodenumBroadcast then n.isFavorite p.from' else favoritedAmong p n.meshNodes false false

def isRebroadcaster : Bool := n.role ≠ .clientMute && n.rebroadcastMode ≠ .none

def shouldDecrementHopLimit : Bool :=
  if p.hopStart ≠ 0 && p.hopStart = p.hopLimit then true
  else if !(n.role = .router || n.role = .routerLate || n.role = .clientBase) then true
  else !n.meshNodes.any fun node => node.isFavorite && node.hasUser &&
    (node.role = .router || node.role = .routerLate) && lastByteOfNodeNum node.num = p.relayNode

def roleAllowsCancelingDupe : Bool :=
  if n.role = .router || n.role = .routerLate then false
  else if n.role = .clientBase then !n.isFromOrToFavoritedNode p
  else true

def getNextHop (to' : UInt32) (relayNode : UInt8) : UInt8 :=
  if isBroadcast to' then noNextHopPreference
  else match n.getMeshNode to' with
    | none => noNextHopPreference
    | some node => if node.nextHop ≠ relayNode then node.nextHop else noNextHopPreference

/-- The packet that `Router::send` hands to the radio. -/
def prepared : MeshPacket :=
  { p with
    wantAck := if isBroadcast p.to' then false else p.wantAck
    from' := p.getFrom n.nodeNum
    relayNode := n.ourRelayID
    hopStart := if p.isFromUs n.nodeNum then p.hopLimit else p.hopStart
    channel := e.channel, priority := e.priority, variant := e.variant
    publicKey := e.publicKey, pkiEncrypted := e.pkiEncrypted }

/-- `RadioLibInterface::send` -/
def sendRadio (delays : TxDelays) : FloodingRouter :=
  if p.to' = nodenumBroadcastNoLora then n
  else
    let q := n.txQueue.enqueue n.nodeNum p
    let accepted := (n.txQueue.txQueue.enqueue n.nodeNum n.txQueue.accepted p).accepted
    { n with txQueue := if accepted then q.setTransmitDelay delays else q }

/-- `Router::send` -/
def sendRouter : FloodingRouter :=
  if p.isToUs n.nodeNum then n
  else if e.letThrough then n.sendRadio (n.prepared p e) e.delays
  else n

/-- A send told to the history. -/
def noted : FloodingRouter :=
  { n with history := (n.history.wasSeenRecently n.nodeNum { p with relayNode := n.ourRelayID } true
      e.now e.nowInsert).history }

/-- `FloodingRouter::send` -/
def send : FloodingRouter := (n.noted p e).sendRouter { p with relayNode := n.ourRelayID } e

/-- `NextHopRouter::send`, which starts a retransmission for a packet with a next hop. -/
def sendNextHop : FloodingRouter :=
  (n.noted p e).sendRouter
    { p with relayNode := n.ourRelayID, nextHop := n.getNextHop p.to' n.ourRelayID } e

/-- The copy that `perhapsRebroadcast` makes. -/
def tosend : MeshPacket :=
  if n.shouldDecrementHopLimit p then { p with hopLimit := p.hopLimit - 1 } else p

def perhapsRebroadcast : FloodingRouter × Bool :=
  if !p.isToUs n.nodeNum && !p.isFromUs n.nodeNum && 0 < p.hopLimit && p.id ≠ 0 && n.isRebroadcaster &&
      (p.nextHop = noNextHopPreference || p.nextHop = n.ourRelayID) then
    (if p.nextHop = noNextHopPreference then n.send (n.tosend p) e else n.sendNextHop (n.tosend p) e, true)
  else (n, false)

/-- `Router::cancelSending` -/
def cancelSending (from' id : UInt32) : FloodingRouter :=
  let w : Wanted := ⟨from', id, true, true, 0⟩
  if (n.txQueue.txQueue.remove n.nodeNum w).1.isSome then
    { n with
      txQueue := n.txQueue.remove n.nodeNum w
      history := n.history.removeRelayer n.ourRelayID id from' }
  else n

def findInTxQueue (from' id : UInt32) : Bool := n.txQueue.txQueue.find n.nodeNum from' id

/-- The packet that `perhapsHandleUpgradedPacket` takes out of the queue. -/
def outdated : Option Queued :=
  (n.txQueue.txQueue.remove n.nodeNum ⟨p.getFrom n.nodeNum, p.id, true, true, p.hopLimit⟩).1

def perhapsHandleUpgradedPacket : FloodingRouter × Bool :=
  if n.isRebroadcaster && 0 < p.hopLimit && (n.outdated p).isSome then
    let q := n.txQueue.removePendingTXPacket n.nodeNum (p.getFrom n.nodeNum) p.id p.hopLimit
    ((perhapsRebroadcast { n with txQueue := q } p e).1, true)
  else (n, false)

def perhapsCancelDupe (now worst : UInt32) : FloodingRouter :=
  let n := if p.transportMechanism = transportLora && n.roleAllowsCancelingDupe p then
    n.cancelSending p.from' p.id else n
  if n.role = .routerLate then
    { n with txQueue := n.txQueue.clampToLateRebroadcastWindow n.nodeNum (p.getFrom n.nodeNum) p.id now worst }
  else n

/-- What becomes of a copy of a packet that was seen before. -/
def handleDupe (e : Reception) : FloodingRouter :=
  if p.isRepeated then
    if n.findInTxQueue p.from' p.id then n else (n.perhapsRebroadcast p e.sending).1
  else n.perhapsCancelDupe p e.nowClamp e.worst

def shouldFilterReceived (e : Reception) : FloodingRouter × Bool :=
  let seen := n.history.wasSeenRecently n.nodeNum p true e.now e.nowInsert
  let n := { n with history := seen.history }
  let r := if seen.wasUpgraded then n.perhapsHandleUpgradedPacket p e.sending else (n, false)
  if r.2 then (r.1, true)
  else if seen.seenRecently then (r.1.handleDupe p e, true)
  else (r.1, false)

/-- A broadcast that the radio received, on its way through the router. -/
def receive (e : Reception) : FloodingRouter :=
  let r := n.shouldFilterReceived p e
  if !r.2 && e.handled then (r.1.perhapsRebroadcast p e.sending).1 else r.1

end FloodingRouter
end MonsterMesh
