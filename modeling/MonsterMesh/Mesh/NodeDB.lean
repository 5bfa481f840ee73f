import Mathlib.Algebra.Group.Nat.Defs
import Mathlib.Algebra.GroupWithZero.Nat
import MonsterMesh.Lib.Run
import MonsterMesh.Lib.Slots

/-! The table of the nodes of the mesh, and the operations on it. -/
namespace MonsterMesh

open Fallible

namespace NodeDB

/-- What decides where a node stays in the table; `publicKey` are the first `size` bytes of the key. -/
structure NodeInfoLite where
  (num lastHeard : UInt32)
  (isFavorite isIgnored keyManuallyVerified hasUser : Bool)
  publicKey : List UInt8
deriving DecidableEq

inductive Fault where
  | outsideTable | nullPointer
deriving DecidableEq

/-- What does not change while the operations run. -/
structure Settings where
  nodeNum : UInt32
  ownerKey : List UInt8
  fixedPosition : Bool
  clientBase : Bool

/-- What a call reads of its surroundings; `lowHeap` is `getFreeHeap() < MINIMUM_SAFE_FREE_HEAP`. -/
structure Moment where
  (millis time : UInt32)
  lowHeap : Bool

structure SharedContact where
  nodeNum : UInt32
  (hasUser shouldIgnore manuallyVerified : Bool)
  publicKey : List UInt8

end NodeDB

/-- The table has room for `maxNumNodes` nodes, and the count of `meshNodes` is `numMeshNodes`. -/
structure NodeDB where
  meshNodes : Slots NodeDB.NodeInfoLite
  maxNumNodes : ℕ
  lastSort : UInt32
  sortingIsPaused : Bool

namespace NodeDB

variable (c : Settings) (db : NodeDB) (m : Moment)

/-- `meshtastic_NodeInfoLite()` -/
def blank : NodeInfoLite := ⟨0, 0, false, false, false, false, []⟩

/-- A loop reads the entries in use. -/
def within : Except Fault Unit :=
  if db.meshNodes.count ≤ db.maxNumNodes then .ok () else .error .outsideTable

def getMeshNode (n : UInt32) : Except Fault (Option ℕ) :=
  match db.meshNodes.find fun lite => lite.num = n with
  | some i => if i < db.maxNumNodes then .ok (some i) else .error .outsideTable
  | none => db.within >>= fun _ => .ok none

def isFull : Bool := db.maxNumNodes ≤ db.meshNodes.count || m.lowHeap

/-! ### Sorting -/

/-- Whether the sort swaps a node with the one before it. -/
def goesBefore (a before : NodeInfoLite) : Bool :=
  if before.num = c.nodeNum then false
  else if a.num = c.nodeNum then true
  else if a.isFavorite ∧ ¬ before.isFavorite then true
  else if ¬ a.isFavorite ∧ before.isFavorite then false
  else before.lastHeard < a.lastHeard

/-- One pass from the last entry to the first, and whether it swapped any. -/
def sortPass : List NodeInfoLite → List NodeInfoLite × Bool
  | [] => ([], false)
  | before :: rest =>
    match sortPass rest with
    | ([], changed) => ([before], changed)
    | (a :: rest', changed) =>
      if goesBefore c a before then (a :: before :: rest', true) else (before :: a :: rest', changed)

/-- The passes until one swaps nothing. -/
def sortLoop : ℕ → List NodeInfoLite → List NodeInfoLite
  | 0, l => l
  | fuel + 1, l =>
    let (l', changed) := sortPass c l
    if changed then sortLoop fuel l' else l'

/-- A number that grows with the place an entry should have from the end. -/
def rank (a : NodeInfoLite) : ℕ :=
  if a.num = c.nodeNum then 2 ^ 33 else (if a.isFavorite then 2 ^ 32 else 0) + a.lastHeard.toNat

/-- Every swap makes it less. -/
def disorder : List NodeInfoLite → ℕ
  | [] => 0
  | _ :: rest => disorder rest + (rest.map (rank c)).sum

def sortMeshDB : Except Fault NodeDB :=
  if ¬ db.sortingIsPaused ∧ (db.lastSort = 0 ∨ ¬ m.millis - db.lastSort < 5000) then
    db.within >>= fun _ =>
      let l := db.meshNodes.entries
      .ok { db with lastSort := m.millis, meshNodes := db.meshNodes.refill (sortLoop c (disorder c l + 1) l) }
  else .ok db

/-! ### Nodes that come -/

/-- The oldest node with `p` among those from entry 1 to entry `n`. -/
def oldest (t : Slots NodeInfoLite) (p : NodeInfoLite → Bool) : ℕ → Option ℕ × UInt32
  | 0 => (none, 0xFFFFFFFF)
  | n + 1 =>
    let best := oldest t p n
    if p (t.slot (n + 1)) ∧ (t.slot (n + 1)).lastHeard < best.2 then (some (n + 1), (t.slot (n + 1)).lastHeard)
    else best

/-- Not favourite, ignored or verified. -/
def plain (a : NodeInfoLite) : Bool := !a.isFavorite && !a.isIgnored && !a.keyManuallyVerified

def boring (a : NodeInfoLite) : Bool := !a.isFavorite && !a.isIgnored && a.publicKey.isEmpty

/-- The entry that is shoved out of a full table, if there is one. -/
def victim (t : Slots NodeInfoLite) : Option ℕ :=
  (oldest t boring (t.count - 1)).1 <|> (oldest t plain (t.count - 1)).1

def evict (t : Slots NodeInfoLite) : Slots NodeInfoLite :=
  match victim t with
  | some i => t.remove i
  | none => t

/-- The table with the node in it, and where. -/
def getOrCreateMeshNode (n : UInt32) : Except Fault (NodeDB × ℕ) :=
  db.getMeshNode n >>= fun lite =>
    match lite with
    | some i => .ok (db, i)
    | none =>
      let t := if db.isFull m then evict db.meshNodes else db.meshNodes
      if t.count < db.maxNumNodes then
        .ok ({ db with meshNodes := t.grow.put t.count { blank with num := n } }, t.count)
      else .error .outsideTable

/-- A node is changed through the pointer to it. -/
def change (i : ℕ) (f : NodeInfoLite → NodeInfoLite) : NodeDB :=
  { db with meshNodes := db.meshNodes.put i (f (db.meshNodes.slot i)) }

/-- The key of a user, and whether it is accepted for the node. -/
def acceptsKey (nodeId : UInt32) (info : NodeInfoLite) (key : List UInt8) : Bool :=
  if key.length = 32 ∧ nodeId ≠ c.nodeNum ∧ c.ownerKey.length = 32 ∧ key = c.ownerKey then false
  else if info.publicKey.length = 32 then key = info.publicKey
  else true

def updateUser (nodeId : UInt32) (key : List UInt8) : Except Fault NodeDB :=
  db.getOrCreateMeshNode m nodeId >>= fun r =>
    let (db, i) := r
    if acceptsKey c nodeId (db.meshNodes.slot i) key then
      .ok (db.change i fun info => { info with publicKey := key, hasUser := true })
    else .ok db

/-- The position itself is not kept here. -/
def updatePosition (nodeId : UInt32) : Except Fault NodeDB := Prod.fst <$> db.getOrCreateMeshNode m nodeId

/-- A packet from `from'` with the fields that are read of it; `getFrom` is `from'` where it is not 0. -/
def updateFrom (from' rxTime : UInt32) (decoded : Bool) : Except Fault NodeDB :=
  if from' = c.nodeNum then .ok db
  else if decoded ∧ from' ≠ 0 then
    db.getOrCreateMeshNode m from' >>= fun r =>
      let (db, i) := r
      (db.change i fun info => if rxTime ≠ 0 then { info with lastHeard := rxTime } else info).sortMeshDB c m
  else .ok db

/-- What a contact makes of a node. -/
def ofContact (contact : SharedContact) (info : NodeInfoLite) : NodeInfoLite :=
  let info := { info with num := contact.nodeNum, hasUser := true, publicKey := contact.publicKey }
  if contact.shouldIgnore then { info with isIgnored := true, isFavorite := false, publicKey := [] }
  else
    let info := if c.clientBase then { info with lastHeard := m.time } else { info with isFavorite := true }
    if contact.manuallyVerified then { info with keyManuallyVerified := true } else info

def addFromContact (contact : SharedContact) : Except Fault NodeDB :=
  db.getOrCreateMeshNode m contact.nodeNum >>= fun r =>
    let (db, i) := r
    let info := db.meshNodes.slot i
    if ¬ contact.hasUser then .ok db
    else if info.keyManuallyVerified ∧ ¬ contact.manuallyVerified ∧ contact.publicKey ≠ info.publicKey then
      .ok db
    else
      let db := db.change i (ofContact c m contact)
      if contact.shouldIgnore then .ok db else db.sortMeshDB c m

def setFavorite (isFavorite : Bool) (nodeId : UInt32) : Except Fault NodeDB :=
  db.getMeshNode nodeId >>= fun lite =>
    match lite with
    | some i =>
      if (db.meshNodes.slot i).isFavorite ≠ isFavorite then
        (db.change i fun info => { info with isFavorite := isFavorite }).sortMeshDB c m
      else .ok db
    | none => .ok db

/-! ### Nodes that go -/

def removeNodeByNum (nodeNum : UInt32) : Except Fault NodeDB :=
  db.within >>= fun _ =>
    let t := db.meshNodes.packed (fun lite => lite.num ≠ nodeNum) id
    if t.count < db.maxNumNodes then .ok { db with meshNodes := t.put t.count blank }
    else .error .outsideTable

/-- A key of zeros is none. -/
def clearZeroKey (lite : NodeInfoLite) : NodeInfoLite :=
  if lite.publicKey.all (· = 0) then { lite with publicKey := [] } else lite

def cleanupMeshDB : Except Fault NodeDB :=
  db.within >>= fun _ =>
    let t := db.meshNodes.packed NodeInfoLite.hasUser clearZeroKey
    .ok { db with meshNodes := { t with
      slot := fun i => if t.count ≤ i ∧ i < db.meshNodes.count then blank else t.slot i } }

def clearLocalPosition : Except Fault Unit :=
  db.getMeshNode c.nodeNum >>= fun node =>
    match node with
    | some _ => .ok ()
    | none => .error .nullPointer

/-- The first entry and the favourites stay where they are. -/
def keepFavorites (t : Slots NodeInfoLite) : Slots NodeInfoLite :=
  (List.range db.maxNumNodes).foldl
    (fun t i => if 0 < i ∧ ¬ (t.slot i).isFavorite then t.put i blank else t.grow) { t with count := 1 }

def resetNodes (keepFavorites : Bool) : Except Fault NodeDB :=
  (if c.fixedPosition then .ok () else db.clearLocalPosition c) >>= fun _ =>
    if keepFavorites then .ok { db with meshNodes := db.keepFavorites db.meshNodes }
    else if db.maxNumNodes < 1 then .error .outsideTable
    else .ok { db with meshNodes := {
      slot := fun i => if 1 ≤ i ∧ i < db.maxNumNodes then blank else db.meshNodes.slot i, count := 1 } }

inductive Event where
  | updateFrom (m : Moment) (from' rxTime : UInt32) (decoded : Bool)
  | updateUser (m : Moment) (nodeId : UInt32) (key : List UInt8)
  | updatePosition (m : Moment) (nodeId : UInt32)
  | addFromContact (m : Moment) (contact : SharedContact)
  | setFavorite (m : Moment) (isFavorite : Bool) (nodeId : UInt32)
  | pauseSort (paused : Bool)
  | sortMeshDB (m : Moment)
  | removeNodeByNum (nodeNum : UInt32)
  | cleanupMeshDB
  | resetNodes (keepFavorites : Bool)

def step : Event → Except Fault NodeDB
  | .updateFrom m from' rxTime decoded => db.updateFrom c m from' rxTime decoded
  | .updateUser m nodeId key => db.updateUser c m nodeId key
  | .updatePosition m nodeId => db.updatePosition m nodeId
  | .addFromContact m contact => db.addFromContact c m contact
  | .setFavorite m isFavorite nodeId => db.setFavorite c m isFavorite nodeId
  | .pauseSort paused => .ok { db with sortingIsPaused := paused }
  | .sortMeshDB m => db.sortMeshDB c m
  | .removeNodeByNum nodeNum => db.removeNodeByNum nodeNum
  | .cleanupMeshDB => db.cleanupMeshDB
  | .resetNodes keepFavorites => db.resetNodes c keepFavorites

end NodeDB
end MonsterMesh
