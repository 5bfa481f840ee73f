import Mathlib.Algebra.Group.Nat.Defs
import Mathlib.Data.Fin.VecNotation
import MonsterMesh.Daycare.State
import MonsterMesh.Lib.Slots
import MonsterMesh.Lib.Text

/-! What a daycare knows of other nodes: the neighbours it hears, the nodes it has met, the pairs it keeps. -/
namespace MonsterMesh

open Text

/-! ### Time -/

/-- A moment: how often the device was started before, and the milliseconds since. -/
structure Instant where
  (boot up : ℕ)
deriving DecidableEq

/-- All that the code sees of a moment. -/
def Instant.millis (t : Instant) : UInt32 := UInt32.ofNat t.up

instance : LE Instant where
  le s t := s.boot < t.boot ∨ s.boot = t.boot ∧ s.up ≤ t.up

/-- How often the count of milliseconds has started again since the start of the device. -/
def Instant.round (t : Instant) : ℕ := t.up / 2 ^ 32

def uint32Max : ℕ := 0xFFFFFFFF

/-! ### Entries -/

structure BeaconMon where
  (species level : UInt8)
  nickname : Str
  moves : Fin 4 → UInt8
deriving DecidableEq

def BeaconMon.zero : BeaconMon := ⟨0, 0, [], fun _ => 0⟩

/-- A character field is its text, up to the terminator. -/
structure DaycareBeacon where
  nodeId : UInt32
  (shortName gameName : Str)
  partyCount : UInt8
  pokemon : Fin 6 → BeaconMon
  ngPlusTier : UInt8

structure DaycareNeighborPokemon where
  nodeId : UInt32
  (shortName gameName : Str)
  (speciesDex level : UInt8)
  nickname : Str
  partyCount : UInt8
  party : Fin 6 → BeaconMon
  ngPlusTier : UInt8
deriving DecidableEq

def DaycareNeighborPokemon.zero : DaycareNeighborPokemon :=
  ⟨0, [], [], 0, 0, [], 0, fun _ => .zero, 0⟩

/-- The places of equal index in `neighbors_` and `neighborLastSeen_`. -/
structure NeighborSlot where
  pokemon : DaycareNeighborPokemon
  lastSeen : Instant

structure DaycareRelationship where
  nodeId : UInt32
  (localSpeciesIdx remoteSpeciesDex friendship rivalry : UInt8)
  sparCount : UInt16
  lastSeen : Instant
  daysMissing : UInt16

abbrev PairKey := UInt32 × UInt8 × UInt8

def DaycareRelationship.key (r : DaycareRelationship) : PairKey :=
  (r.nodeId, r.localSpeciesIdx, r.remoteSpeciesDex)

def maxNeighbors : ℕ := 16
def maxRelationships : ℕ := 32
def maxKnownNodes : ℕ := 32

def eventIntervalMs : UInt32 := 300000
def neighborTimeoutMs : UInt32 := 7200000
def decayIntervalMs : UInt32 := 86400000
def saveIntervalMs : UInt32 := 300000

/-! ### Neighbours -/

/-- The party count of a beacon, clipped. -/
def DaycareBeacon.count (b : DaycareBeacon) : UInt8 := if b.partyCount < 6 then b.partyCount else 6

/-- What a beacon writes into an entry: no moves, and without a party no summary either. -/
def DaycareNeighborPokemon.refresh (n : DaycareNeighborPokemon) (b : DaycareBeacon) :
    DaycareNeighborPokemon :=
  let n := { n with
    nodeId := b.nodeId
    shortName := b.shortName.take 4
    gameName := b.gameName.take 7
    partyCount := b.count
    party := fun i =>
      if i.val < b.count.toNat then
        { n.party i with
          species := (b.pokemon i).species
          level := (b.pokemon i).level
          nickname := (b.pokemon i).nickname.take 10 }
      else n.party i }
  let n :=
    if 0 < b.count then
      { n with
        speciesDex := (b.pokemon 0).species
        level := (b.pokemon 0).level
        nickname := (b.pokemon 0).nickname.take 10 }
    else n
  { n with ngPlusTier := b.ngPlusTier }

abbrev NeighborTable := Slots NeighborSlot

namespace NeighborTable

variable (t : NeighborTable)

def findNode (id : UInt32) : Option ℕ := t.find fun e => e.pokemon.nodeId = id

def oldest : ℕ := t.least (fun e => e.lastSeen.millis.toNat) uint32Max

/-- The table and the place a beacon goes to: its node's, the next free one or the oldest. -/
def placeFor (id : UInt32) : NeighborTable × ℕ :=
  match t.findNode id with
  | some i => (t, i)
  | none => if t.count < maxNeighbors then (t.grow, t.count) else (t, t.oldest)

def handleBeacon (now : Instant) (b : DaycareBeacon) : NeighborTable :=
  let (t, i) := t.placeFor b.nodeId
  t.put i ⟨(t.slot i).pokemon.refresh b, now⟩

/-- The difference is taken in 32 bits. -/
def expireNeighbors (now : Instant) : NeighborTable :=
  t.removeAll fun e => neighborTimeoutMs < now.millis - e.lastSeen.millis

end NeighborTable

/-! ### Known nodes and relationships -/

def isKnownNode (known : List UInt32) (id : UInt32) : Bool := known.contains id

/-- The oldest makes room. -/
def addKnownNode (known : List UInt32) (id : UInt32) : List UInt32 :=
  if isKnownNode known id then known
  else if known.length < maxKnownNodes then known ++ [id]
  else known.drop 1 ++ [id]

abbrev RelationshipTable := Slots DaycareRelationship

namespace RelationshipTable

variable (t : RelationshipTable)

def findRelationship (k : PairKey) : Option ℕ := t.find fun r => r.key = k

def oldest : ℕ := t.least (fun r => r.lastSeen.millis.toNat) uint32Max

/-- The table with an entry for the pair, and its place. -/
def getOrCreateRelationship (now : Instant) (k : PairKey) : RelationshipTable × ℕ :=
  match t.findRelationship k with
  | some i => (t, i)
  | none =>
    let r : DaycareRelationship := ⟨k.1, k.2.1, k.2.2, 0, 0, 0, now, 0⟩
    if maxRelationships ≤ t.count then (t.put t.oldest r, t.oldest)
    else (t.grow.put t.count r, t.count)

end RelationshipTable

/-- What the event generator decides of a meeting: whose it is and what it brings. -/
structure Meeting where
  (localIdx remoteDex friendship rivalry : UInt8)
  spar : Bool

/-- `if (x <= 255 - gain) x += gain; else x = 255;` -/
def addCapped (x gain : UInt8) : UInt8 := if x ≤ 255 - gain then x + gain else 255

def DaycareRelationship.meet (r : DaycareRelationship) (now : Instant) (m : Meeting) :
    DaycareRelationship :=
  { r with
    friendship := addCapped r.friendship m.friendship
    rivalry := addCapped r.rivalry m.rivalry
    sparCount := if m.spar then r.sparCount + 1 else r.sparCount
    lastSeen := now }

def RelationshipTable.meet (t : RelationshipTable) (now : Instant) (id : UInt32) (m : Meeting) :
    RelationshipTable :=
  let (t, i) := t.getOrCreateRelationship now (id, m.localIdx, m.remoteDex)
  t.put i ((t.slot i).meet now m)

/-- One round of the daily decay: an absent node's pair fades, a present one's is seen. -/
def DaycareRelationship.decay (r : DaycareRelationship) (now : Instant) (present : Bool) :
    DaycareRelationship :=
  if present then { r with daysMissing := 0, lastSeen := now }
  else
    let days := r.daysMissing + 1
    { r with
      friendship := if 0 < r.friendship then r.friendship - 1 else r.friendship
      daysMissing := days
      rivalry := if days % 2 = 0 ∧ 0 < r.rivalry then r.rivalry - 1 else r.rivalry }

/-! ### The node -/

/-- The part of the daycare state about other nodes; it is stored in flash with the rest. -/
structure DaycareSocial where
  (magic lastEventMs lastFriendshipDecayMs : UInt32)
  partyCount : UInt8
  knownNodes : List UInt32
  relationships : RelationshipTable

def DaycareSocial.zero : DaycareSocial :=
  ⟨0, 0, 0, 0, [], ⟨fun _ => ⟨0, 0, 0, 0, 0, 0, ⟨0, 0⟩, 0⟩, 0⟩⟩

def DaycareSocial.init : DaycareSocial := { DaycareSocial.zero with magic := daycareMagic }

/-- `arrivals` lists the nodes for which `triggerArrivalEvent` was called. -/
structure DaycareNode where
  nodeNum : UInt32
  now : Instant
  active : Bool
  state : DaycareSocial
  flash : Option DaycareSocial
  lastSaveMs : UInt32
  neighbors : NeighborTable
  arrivals : List UInt32

namespace DaycareNode

variable (d : DaycareNode)

/-- A device after its `boot`-th start, with what its flash holds. -/
def start (nodeNum : UInt32) (boot : ℕ) (flash : Option DaycareSocial) : DaycareNode :=
  { nodeNum, now := ⟨boot, 0⟩, active := false, state := .zero, flash, lastSaveMs := 0
    neighbors := ⟨fun _ => ⟨.zero, ⟨boot, 0⟩⟩, 0⟩, arrivals := [] }

def saveState : DaycareNode := { d with flash := some d.state }

/-- The neighbours are forgotten by their count alone. -/
def init : DaycareNode :=
  { d with state := .init, active := false, neighbors := { d.neighbors with count := 0 } }

/-- A check-in reads the state back, if there is one. -/
def checkIn (count : UInt8) : DaycareNode :=
  let d :=
    match d.flash with
    | some st => if st.magic = daycareMagic then { d with state := st } else d.init
    | none => d.init
  { d with
    active := true
    state := { d.state with partyCount := count, lastEventMs := d.now.millis } }

def checkOut : DaycareNode := { d with active := false }.saveState

def meet (id : UInt32) (m : Meeting) : DaycareNode :=
  { d with state := { d.state with relationships := d.state.relationships.meet d.now id m } }

/-- An arrival brings the newcomer and a mon of the party together. -/
def triggerArrivalEvent (b : DaycareBeacon) (m : Meeting) : DaycareNode :=
  let d := { d with arrivals := d.arrivals ++ [b.nodeId] }
  if d.active = false ∨ d.state.partyCount = 0 ∨ b.partyCount = 0 then d else d.meet b.nodeId m

def handleBeacon (b : DaycareBeacon) : DaycareNode :=
  { d with
    state := { d.state with knownNodes := addKnownNode d.state.knownNodes b.nodeId }
    neighbors := d.neighbors.handleBeacon d.now b }

/-- `handleReceived`: a new neighbour is told by the count. -/
def handleReceived (b : DaycareBeacon) (m : Meeting) : DaycareNode :=
  if b.nodeId = d.nodeNum then d
  else if d.neighbors.count < (d.handleBeacon b).neighbors.count then
    (d.handleBeacon b).triggerArrivalEvent b m
  else d.handleBeacon b

def decayFriendships (now : Instant) : DaycareNode :=
  let present (r : DaycareRelationship) := (d.neighbors.findNode r.nodeId).isSome
  { d with
    state := { d.state with
      relationships := d.state.relationships.each fun r => r.decay now (present r) } }

/-- What an event cycle does here: perhaps a meeting with neighbour `ni`. -/
def runEventCycle (pick : Option (ℕ × Meeting)) : DaycareNode :=
  match pick with
  | none => d
  | some (ni, m) =>
    if ni < d.neighbors.count then
      let n := (d.neighbors.slot ni).pokemon
      d.meet n.nodeId { m with remoteDex := n.speciesDex }
    else d

def forceEvent (pick : Option (ℕ × Meeting)) : DaycareNode :=
  if d.active then
    let d := d.runEventCycle pick
    { d with state := { d.state with lastEventMs := d.now.millis } }
  else d

def decayIfDue (now : Instant) : DaycareNode :=
  if decayIntervalMs ≤ now.millis - d.state.lastFriendshipDecayMs then
    let d := d.decayFriendships now
    { d with state := { d.state with lastFriendshipDecayMs := now.millis } }
  else d

def cycleIfDue (now : Instant) (pick : Option (ℕ × Meeting)) : DaycareNode :=
  if eventIntervalMs ≤ now.millis - d.state.lastEventMs then
    let d := d.runEventCycle pick
    { d with state := { d.state with lastEventMs := now.millis } }
  else d

def expire (now : Instant) : DaycareNode :=
  { d with neighbors := d.neighbors.expireNeighbors now }

def saveIfDue (now : Instant) : DaycareNode :=
  if saveIntervalMs ≤ now.millis - d.lastSaveMs then
    { d.saveState with lastSaveMs := now.millis }
  else d

/-- `tick(nowMs)` of an active daycare with a party. -/
def tick (now : Instant) (pick : Option (ℕ × Meeting)) : DaycareNode :=
  if d.active = false ∨ d.state.partyCount = 0 then d
  else (((d.decayIfDue now).cycleIfDue now pick).expire now).saveIfDue now

end DaycareNode

/-- What can happen to a node; a tick may carry a time taken `lag` milliseconds ago. -/
inductive NodeEvent where
  | wait (ms : ℕ)
  | beacon (b : DaycareBeacon) (m : Meeting)
  | tick (lag : ℕ) (pick : Option (ℕ × Meeting))
  | force (pick : Option (ℕ × Meeting))
  | init
  | checkIn (count : UInt8)
  | checkOut
  | restart

/-- The time a tick is called with. -/
def DaycareNode.taken (d : DaycareNode) (lag : ℕ) : Instant := { d.now with up := d.now.up - lag }

def DaycareNode.step (d : DaycareNode) : NodeEvent → DaycareNode
  | .wait ms => { d with now := { d.now with up := d.now.up + ms } }
  | .beacon b m => d.handleReceived b m
  | .tick lag pick => d.tick (d.taken lag) pick
  | .force pick => d.forceEvent pick
  | .init => d.init
  | .checkIn count => d.checkIn count
  | .checkOut => d.checkOut
  | .restart => { start d.nodeNum (d.now.boot + 1) d.flash with arrivals := d.arrivals }

end MonsterMesh
