import MonsterMesh.Lib.Sorted
import MonsterMesh.Lib.Walk
import MonsterMesh.Mesh.Packet

/-! The transmit queue of the radio, and what the radio interface does to it. -/
namespace MonsterMesh

/-- A pointer in the queue. The firmware has no numbers: `ticket` is the one of the packet among all
accepted ones, `order` the one of its insertion. -/
@[ext]
structure Queued where
  ticket : ℕ
  order : ℕ
  packet : MeshPacket
deriving DecidableEq

/-- `CompareMeshPacketFunc` on the node `nodeNum`. -/
def compareMeshPacketFunc (nodeNum : UInt32) (p₁ p₂ : MeshPacket) : Bool :=
  if decide (p₁.txAfter ≠ 0) ≠ decide (p₂.txAfter ≠ 0) then p₁.txAfter = 0
  else if p₁.priority ≠ p₂.priority then p₂.priority < p₁.priority
  else !p₁.isFromUs nodeNum && p₂.isFromUs nodeNum

@[ext]
structure MeshPacketQueue where
  maxLen : ℕ
  queue : List Queued
  insertions : ℕ
deriving DecidableEq

/-- What a call of `enqueue` returns, writes to `dropped` and releases to the pool. -/
structure Enqueued where
  accepted : Bool
  dropped : Bool
  queue : MeshPacketQueue
  released : List Queued
deriving DecidableEq

/-- The packets that a call of `remove` is after. -/
structure Wanted where
  (from' id : UInt32)
  (txNormal txLate : Bool)
  hopLimitLt : UInt8

namespace MeshPacketQueue

variable (nodeNum : UInt32) (q : MeshPacketQueue)

/-- A late packet. -/
def late (x : Queued) : Bool := x.packet.txAfter ≠ 0

/-- A packet that is not late and has a lower priority than `p`. -/
def replaceable (p : MeshPacket) (x : Queued) : Bool := !late x && x.packet.priority < p.priority

/-- The order of two packets in the queue. -/
def before (x y : Queued) : Bool := compareMeshPacketFunc nodeNum x.packet y.packet

/-- Back from place `it` to one that is not late, or the first. -/
def walk (l : List Queued) : ℕ → ℕ
  | 0 => 0
  | it + 1 => if (l[it + 1]?).any late then walk l it else it + 1

/-- The place of the packet that `replaceLowerPriorityPacket` throws out for `p`. -/
def victim (p : MeshPacket) : Option ℕ :=
  match q.queue.getLast? with
  | none => none
  | some back =>
    if replaceable p back then some (q.queue.length - 1)
    else if late back then
      let it := walk q.queue (q.queue.length - 1)
      if (q.queue[it]?).any (replaceable p) then some it else none
    else none

/-- The queue with a packet put in at its place. -/
def put (ticket : ℕ) (p : MeshPacket) : MeshPacketQueue :=
  { q with
    queue := Sorted.place (before nodeNum) ⟨ticket, q.insertions, p⟩ q.queue
    insertions := q.insertions + 1 }

/-- `enqueue`, which calls itself once a packet has been thrown out. -/
def enqueueWithin : ℕ → MeshPacketQueue → ℕ → MeshPacket → Enqueued
  | 0, q, _, _ => ⟨false, true, q, []⟩
  | fuel + 1, q, ticket, p =>
    if q.maxLen ≤ q.queue.length then
      match q.victim p with
      | none => ⟨false, true, q, []⟩
      | some i =>
        let r := enqueueWithin fuel { q with queue := q.queue.eraseIdx i } ticket p
        ⟨true, true, r.queue, (q.queue[i]?).toList ++ r.released⟩
    else ⟨true, false, q.put nodeNum ticket p, []⟩

def enqueue (ticket : ℕ) (p : MeshPacket) : Enqueued :=
  enqueueWithin nodeNum (q.queue.length + 1) q ticket p

def wanted (w : Wanted) (x : Queued) : Bool :=
  x.packet.getFrom nodeNum = w.from' && x.packet.id = w.id && (w.txNormal && !late x || w.txLate && late x) &&
    (w.hopLimitLt = 0 || x.packet.hopLimit < w.hopLimitLt)

/-- `remove`: the packet, and the queue without it. -/
def remove (w : Wanted) : Option Queued × MeshPacketQueue :=
  (q.queue.find? (wanted nodeNum w), { q with queue := q.queue.eraseP (wanted nodeNum w) })

/-- `dequeue` -/
def dequeue : Option Queued × MeshPacketQueue := (q.queue.head?, { q with queue := q.queue.tail })

/-- `find` -/
def find (from' id : UInt32) : Bool := q.queue.any fun x => x.packet.getFrom nodeNum = from' && x.packet.id = id

end MeshPacketQueue

/-! ### The radio interface -/

/-- The queue of the radio interface, with the tickets of the packets that left it. -/
structure TxQueue where
  txQueue : MeshPacketQueue
  txDrop : ℕ
  accepted : ℕ
  (dequeued removed evicted : List ℕ)

/-- The delays that the radio draws for a packet. -/
structure TxDelays where
  (now addDelay worst : UInt32)

namespace TxQueue

variable (nodeNum : UInt32) (s : TxQueue)

def start (maxLen : ℕ) : TxQueue := ⟨⟨maxLen, [], 0⟩, 0, 0, [], [], []⟩

def enqueue (p : MeshPacket) : TxQueue :=
  let r := s.txQueue.enqueue nodeNum s.accepted p
  { s with
    txQueue := r.queue
    accepted := s.accepted + if r.accepted then 1 else 0
    evicted := s.evicted ++ r.released.map Queued.ticket
    txDrop := s.txDrop + if r.dropped then 1 else 0 }

def dequeue : TxQueue :=
  { s with
    txQueue := s.txQueue.dequeue.2
    dequeued := s.dequeued ++ s.txQueue.dequeue.1.toList.map Queued.ticket }

def remove (w : Wanted) : TxQueue :=
  { s with
    txQueue := (s.txQueue.remove nodeNum w).2
    removed := s.removed ++ (s.txQueue.remove nodeNum w).1.toList.map Queued.ticket }

/-- The transmit time that `setTransmitDelay` gives a late packet. -/
def delayed (d : TxDelays) (p : MeshPacket) : MeshPacket :=
  if p.txAfter ≠ 0 then
    { p with txAfter := min (max (p.txAfter + d.addDelay) (d.now + d.addDelay)) (d.now + 2 * d.worst) }
  else p

/-- `setTransmitDelay`, as far as it changes the packet at the front. -/
def setTransmitDelay (d : TxDelays) : TxQueue :=
  match s.txQueue.queue with
  | [] => s
  | x :: rest => { s with txQueue := { s.txQueue with
      queue := { x with packet := delayed d x.packet } :: rest } }

/-- `clampToLateRebroadcastWindow` -/
def clampToLateRebroadcastWindow (from' id now worst : UInt32) : TxQueue :=
  let r := s.txQueue.remove nodeNum ⟨from', id, true, false, 0⟩
  match r.1 with
  | none => s
  | some x =>
    let e := r.2.enqueue nodeNum x.ticket { x.packet with txAfter := now + worst }
    { s with
      txQueue := e.queue
      removed := s.removed ++ if e.accepted then [] else [x.ticket]
      evicted := s.evicted ++ e.released.map Queued.ticket
      txDrop := s.txDrop + if e.dropped then 1 else 0 }

/-- `removePendingTXPacket` -/
def removePendingTXPacket (from' id : UInt32) (hopLimitLt : UInt8) : TxQueue :=
  s.remove nodeNum ⟨from', id, true, true, hopLimitLt⟩

inductive Call where
  | enqueue (p : MeshPacket)
  | dequeue
  | remove (w : Wanted)
  | setTransmitDelay (d : TxDelays)
  | clampToLateRebroadcastWindow (from' id now worst : UInt32)
  | removePendingTXPacket (from' id : UInt32) (hopLimitLt : UInt8)

def step : Call → TxQueue
  | .enqueue p => s.enqueue nodeNum p
  | .dequeue => s.dequeue
  | .remove w => s.remove nodeNum w
  | .setTransmitDelay d => s.setTransmitDelay d
  | .clampToLateRebroadcastWindow from' id now worst =>
    s.clampToLateRebroadcastWindow nodeNum from' id now worst
  | .removePendingTXPacket from' id hopLimitLt => s.removePendingTXPacket nodeNum from' id hopLimitLt

end TxQueue
end MonsterMesh
