import Mathlib.Data.Fintype.Basic
import Mathlib.Logic.Function.Basic
import MonsterMesh.Engine.State
import MonsterMesh.Lib.Chunks
import MonsterMesh.Lib.Run
import MonsterMesh.Lib.Text
import MonsterMesh.Wire.Packet

/-! The co-op dungeon: one node hosts the run, the others send it commands and copy its state. -/
namespace MonsterMesh

open Bytes Chunks Text

/-! Packet types and sizes. -/

def dungeonBeacon : UInt8 := 0x80
def dungeonJoin : UInt8 := 0x81
def dungeonJoinAck : UInt8 := 0x82
def dungeonCmd : UInt8 := 0x83
def dungeonState : UInt8 := 0x84
def dungeonMsg : UInt8 := 0x85
def dungeonPrompt : UInt8 := 0x86

def dungeonBeaconSize : ℕ := 14
def dungeonJoinAckSize : ℕ := 7
def dungeonCmdHdrSize : ℕ := 5
def dungeonStateSlotSize : ℕ := 10
def dungeonStateHdrSize : ℕ := 3

inductive DungeonVerb where
  | join | party | attack | cast | switch | item | answer | wordle | hack | flee | rest | hostStart
deriving DecidableEq, Repr

def DungeonVerb.byte : DungeonVerb → UInt8
  | .join => 0
  | .party => 1
  | .attack => 2
  | .cast => 3
  | .switch => 4
  | .item => 5
  | .answer => 6
  | .wordle => 7
  | .hack => 8
  | .flee => 9
  | .rest => 10
  | .hostStart => 11

/-- The verb of a byte; other bytes fall to the `default` of the dispatch. -/
def DungeonVerb.ofByte (b : UInt8) : Option DungeonVerb :=
  [join, party, attack, cast, switch, item, answer, wordle, hack, flee, rest, hostStart][b.toNat]?

inductive DnDClass where
  | fighter | barbarian | ranger | rogue | wizard | sorcerer | warlock | cleric | paladin | druid
  | bard | monk
deriving DecidableEq, Repr

inductive PokeType where
  | normal | fire | water | electric | grass | ice | fighting | poison | ground | flying | psychic
  | bug | rock | ghost | dragon | dark | steel | fairy
deriving DecidableEq, Repr

inductive Plane where
  | planeFire | feywild | shadowfell | planeWater | planeEarth | planeAir | astralPlane | etherealPlane
deriving DecidableEq, Repr

/-- The phase is a byte: a received one is stored unchecked. -/
abbrev RunPhase := UInt8

namespace RunPhase

def lobby : RunPhase := 0
def exploring : RunPhase := 1
def inCombat : RunPhase := 2
def floorComplete : RunPhase := 7
def runOver : RunPhase := 8

end RunPhase

structure DungeonTrainer where
  nodeId : UInt32
  dndClassId : DnDClass
  /-- Class uses at 0, spell levels from 1 on. -/
  spellSlotsRemaining : Fin 10 → UInt8
  activeSlot : UInt8
  slotFainted : Fin 6 → Bool
  slotHp : Fin 6 → UInt16

namespace DungeonTrainer

variable (t : DungeonTrainer)

def zero : DungeonTrainer := ⟨0, .fighter, fun _ => 0, 0, fun _ => false, fun _ => 0⟩

def isAlive : Bool := (List.finRange 6).any fun s => !t.slotFainted s

def isSpellcaster : Bool :=
  match t.dndClassId with
  | .wizard | .cleric | .druid | .sorcerer | .warlock | .bard | .paladin | .ranger => true
  | _ => false

/-- All slots at full HP; whether they are fainted is left alone. -/
def filled : DungeonTrainer := { t with slotHp := fun _ => 100 }

def healed : DungeonTrainer := { t with slotHp := fun _ => 100, slotFainted := fun _ => false }

/-- The active slot, where it is one. -/
def slot : Except Fault (Fin 6) :=
  if h : t.activeSlot.toNat < 6 then .ok ⟨t.activeSlot.toNat, h⟩ else .error .outOfBounds

/-- The enemy's answer to an attack: the slot may faint, and the next one comes in. -/
def struck (s : Fin 6) (dmg : UInt16) : DungeonTrainer :=
  if t.slotHp s ≤ dmg then
    let fainted := Function.update t.slotFainted s true
    { t with
      slotHp := Function.update t.slotHp s 0
      slotFainted := fainted
      activeSlot :=
        match (List.finRange 6).find? fun i => !fainted i with
        | some i => UInt8.ofNat i.val
        | none => t.activeSlot }
  else { t with slotHp := Function.update t.slotHp s (t.slotHp s - dmg) }

/-- The spell level, 0 for a class use, that a cast uses up. -/
def castSlot : Option (Fin 10) :=
  if t.isSpellcaster then
    (List.finRange 10).find? fun l => 0 < l.val && decide (t.spellSlotsRemaining l ≠ 0)
  else if t.spellSlotsRemaining 0 = 0 then none
  else some 0

def casted (l : Fin 10) : DungeonTrainer :=
  { t with
    spellSlotsRemaining := Function.update t.spellSlotsRemaining l (t.spellSlotsRemaining l - 1) }

/-- The member's entry in a state packet; bit `s` of the last byte is set for a slot that has not fainted. -/
def entry (s : Fin 6) : List UInt8 :=
  be32 t.nodeId ++ be16 (t.slotHp s) ++ [0, 100, t.activeSlot,
    (List.finRange 6).foldl (fun a k => if t.slotFainted k then a else a ||| (1 <<< UInt8.ofNat k.val)) 0]

/-- The member as an entry with this active slot gives it. -/
def copied (e : List UInt8) (s : Fin 6) : DungeonTrainer :=
  { t with
    nodeId := ofBe32 (e.getD 0 0) (e.getD 1 0) (e.getD 2 0) (e.getD 3 0)
    activeSlot := e.getD 8 0
    slotFainted := fun k => !has (e.getD 9 0) k.val
    slotHp := Function.update t.slotHp s (ofBe16 (e.getD 4 0) (e.getD 5 0)) }

end DungeonTrainer

structure DungeonFloor where
  plane : Plane
  floorInPlane : UInt8
  depth : UInt8
  typeBias : Fin 3 → PokeType
  classBias : Fin 2 → DnDClass

structure DungeonRun where
  currentFloor : DungeonFloor
  phase : RunPhase
  partySize : Fin 6
  party : Fin 5 → DungeonTrainer

structure TestEnemy where
  classLv : UInt8
  hp : UInt16
  maxHp : UInt16
  atkDmg : UInt16

/-- A Charmander of level 3. -/
def TestEnemy.charmander : TestEnemy := ⟨3, 45, 45, 8⟩

namespace DungeonRun

variable (r : DungeonRun)

def empty : DungeonRun where
  currentFloor := ⟨.planeFire, 0, 0, fun _ => .normal, fun _ => .fighter⟩
  phase := .lobby
  partySize := 0
  party := fun _ => .zero

def members : List (Fin 5) := (List.finRange 5).filter fun i => i.val < r.partySize.val

def findTrainer (id : UInt32) : Option (Fin 5) := r.members.find? fun i => (r.party i).nodeId = id

def setMember (i : Fin 5) (t : DungeonTrainer) : DungeonRun :=
  { r with party := Function.update r.party i t }

/-- Floor 1: the Plane of Fire. -/
def firstFloor : DungeonFloor where
  plane := .planeFire
  floorInPlane := 0
  depth := 1
  typeBias := Function.update (Function.update r.currentFloor.typeBias 0 .fire) 1 .ground
  classBias := Function.update (Function.update r.currentFloor.classBias 0 .fighter) 1 .barbarian

def wiped : Bool := r.members.all fun i => !(r.party i).isAlive

end DungeonRun

structure DungeonGame where
  myId : UInt32
  active : Bool
  isHost : Bool
  run : DungeonRun
  testEnemy : TestEnemy
  dirty : Bool
  /-- How many runs were started here. Nothing reads it. -/
  runs : ℕ

/-- Packets handed to the radio: type and payload. -/
abbrev DungeonSent := List (UInt8 × List UInt8)

inductive DungeonEvent where
  | command (verb : Str) (arg : Str)
  /-- A packet, and what lies behind its payload in memory. -/
  | packet (p : Packet) (rest : List UInt8)

namespace DungeonGame

variable (g : DungeonGame)

def fresh (myId : UInt32) : DungeonGame := ⟨myId, false, false, .empty, .charmander, false, 0⟩

/-! ### Senders -/

/-- The payload of a beacon and of a join request: the node and a placeholder for its name. -/
def helloPayload : List UInt8 := be32 g.myId ++ cstr "Trainer" ++ [0, 0, 0]

def sendBeacon : UInt8 × List UInt8 := (dungeonBeacon, g.helloPayload)

def sendJoinRequest : UInt8 × List UInt8 := (dungeonJoin, g.helloPayload)

def sendJoinAck (targetId : UInt32) (accepted : Bool) (slot : UInt8) : UInt8 × List UInt8 :=
  (dungeonJoinAck,
    be32 targetId ++ [if accepted then 1 else 0, slot, UInt8.ofNat g.run.partySize.val])

def sendState : Except Fault (UInt8 × List UInt8) := do
  let entries ← g.run.members.mapM fun i => do
    let s ← (g.run.party i).slot
    return (g.run.party i).entry s
  return (dungeonState,
    [g.run.phase, g.run.currentFloor.depth, UInt8.ofNat g.run.partySize.val] ++ entries.flatten)

def forwardCmd (verb : DungeonVerb) (arg : Str) : UInt8 × List UInt8 :=
  (dungeonCmd, be32 g.myId ++ [verb.byte] ++ arg.take 32 ++ [0])

/-- The state as it is, and its packet on the air. -/
def replicated : Except Fault (DungeonGame × DungeonSent) := do
  let p ← g.sendState
  return (g, [p])

/-! ### The host's side of the commands. Text lines to the party are left out. -/

def hostStartRun : Except Fault (DungeonGame × DungeonSent) :=
  if g.isHost = false ∨ g.run.partySize = 0 then .ok (g, [])
  else
    { g with
      run := { g.run with currentFloor := g.run.firstFloor, phase := .inCombat }
      testEnemy := .charmander
      dirty := true
      runs := g.runs + 1 }.replicated

def hostCmdAttack (fromId : UInt32) : Except Fault (DungeonGame × DungeonSent) :=
  if g.run.phase ≠ .inCombat then .ok (g, [])
  else match g.run.findTrainer fromId with
    | none => .ok (g, [])
    | some i => do
      let t := g.run.party i
      let s ← t.slot
      let enemyDied := decide (g.testEnemy.hp ≤ 12)
      let run := g.run.setMember i (t.struck s g.testEnemy.atkDmg)
      let partyWiped := decide (t.slotHp s ≤ g.testEnemy.atkDmg) && !(run.party i).isAlive && run.wiped
      let game : DungeonGame :=
        { g with
          run := { run with
            phase := if partyWiped then .runOver else if enemyDied then .floorComplete else run.phase }
          testEnemy := { g.testEnemy with hp := if enemyDied then 0 else g.testEnemy.hp - 12 }
          dirty := true }
      game.replicated

def hostCmdCast (fromId : UInt32) : DungeonGame :=
  if g.run.phase ≠ .inCombat then g
  else match g.run.findTrainer fromId with
    | none => g
    | some i =>
      match (g.run.party i).castSlot with
      | none => g
      | some l => { g with run := g.run.setMember i ((g.run.party i).casted l), dirty := true }

def hostCmdSwitch (fromId : UInt32) (slot : UInt8) : Except Fault (DungeonGame × DungeonSent) :=
  match g.run.findTrainer fromId with
  | none => g.replicated
  | some i =>
    if h : slot.toNat < 6 then
      if (g.run.party i).slotFainted ⟨slot.toNat, h⟩ then g.replicated
      else
        { g with
          run := g.run.setMember i { g.run.party i with activeSlot := slot }
          dirty := true }.replicated
    else g.replicated

def hostCmdRest : Except Fault (DungeonGame × DungeonSent) :=
  if g.run.phase = .floorComplete ∨ g.run.phase = .exploring then
    { g with
      run := { g.run with
        phase := .exploring
        party := fun i => if i.val < g.run.partySize.val then (g.run.party i).healed else g.run.party i }
      dirty := true }.replicated
  else .ok (g, [])

def hostProcessCmd (fromId : UInt32) (verb : Option DungeonVerb) (arg : Str) :
    Except Fault (DungeonGame × DungeonSent) :=
  match verb with
  | some .hostStart => g.hostStartRun
  | some .attack => g.hostCmdAttack fromId
  | some .cast => .ok (g.hostCmdCast fromId, [])
  | some .switch => g.hostCmdSwitch fromId (UInt8.ofNat (atoi arg % 256).toNat)
  | some .rest => g.hostCmdRest
  | _ => .ok (g, [])

/-! ### What is typed -/

/-- The verb behind a word, once it is in lower case. -/
def verbOf (v : Str) : Option DungeonVerb :=
  [(cstr "party", DungeonVerb.party), (cstr "attack", .attack), (cstr "cast", .cast),
    (cstr "switch", .switch), (cstr "item", .item), (cstr "answer", .answer), (cstr "wordle", .wordle),
    (cstr "hack", .hack), (cstr "flee", .flee), (cstr "rest", .rest), (cstr "start", .hostStart)].lookup v

def becomeHost : DungeonGame :=
  { g with
    active := true
    isHost := true
    run := { g.run with
      partySize := 1
      party := Function.update g.run.party 0
        { (g.run.party 0).healed with nodeId := g.myId, activeSlot := 0 }
      phase := .lobby } }

def handleLocalCommand (verb arg : Str) : Except Fault (DungeonGame × DungeonSent) :=
  let v := (verb.take 15).map toLower
  if v = cstr "host" then .ok (g.becomeHost, [g.sendBeacon])
  else if v = cstr "join" then
    .ok ({ g with active := true, isHost := false }, [g.sendBeacon, g.sendJoinRequest])
  else if g.active = false then .ok (g, [])
  else match verbOf v with
    | none => .ok (g, [])
    | some dv =>
      if g.isHost then g.hostProcessCmd g.myId (some dv) arg
      else .ok (g, [g.forwardCmd dv arg])

/-! ### What is received -/

/-- The node id at the head of a payload. -/
def senderOf (payload : List UInt8) : UInt32 :=
  ofBe32 (payload.getD 0 0) (payload.getD 1 0) (payload.getD 2 0) (payload.getD 3 0)

def handleBeacon (payload : List UInt8) : DungeonGame :=
  if g.active = false ∨ payload.length < dungeonBeaconSize ∨ senderOf payload = g.myId then g
  else { g with dirty := true }

/-- The state with the guest in the next slot. -/
def addGuest (guestId : UInt32) (h : g.run.partySize.val < 5) : DungeonGame :=
  let slot : Fin 5 := ⟨g.run.partySize.val, h⟩
  { g with
    run := { g.run with
      partySize := ⟨g.run.partySize.val + 1, by omega⟩
      party := Function.update g.run.party slot { (g.run.party slot).filled with nodeId := guestId } }
    dirty := true }

def handleJoin (payload : List UInt8) : Except Fault (DungeonGame × DungeonSent) :=
  if g.isHost = false ∨ payload.length < dungeonBeaconSize ∨ senderOf payload = g.myId then .ok (g, [])
  else if h : g.run.partySize.val < 5 then do
    let game := g.addGuest (senderOf payload) h
    let p ← game.sendState
    return (game, [game.sendJoinAck (senderOf payload) true (UInt8.ofNat g.run.partySize.val), p])
  else .ok (g, [g.sendJoinAck (senderOf payload) false 0])

def handleJoinAck (payload : List UInt8) : Except Fault DungeonGame :=
  if g.isHost = true ∨ payload.length < dungeonJoinAckSize ∨ senderOf payload ≠ g.myId then .ok g
  else if payload.getD 4 0 = 0 then .ok { g with dirty := true }
  else if h : (payload.getD 5 0).toNat < 5 then
    let slot : Fin 5 := ⟨(payload.getD 5 0).toNat, h⟩
    .ok { g with
      run := g.run.setMember slot { (g.run.party slot).filled with nodeId := g.myId }
      dirty := true }
  else .error .outOfBounds

def handleCmd (payload rest : List UInt8) : Except Fault (DungeonGame × DungeonSent) :=
  if g.isHost = false ∨ payload.length < dungeonCmdHdrSize then .ok (g, [])
  else
    g.hostProcessCmd (senderOf payload) (DungeonVerb.ofByte (payload.getD 4 0))
      (if dungeonCmdHdrSize < payload.length then
        ((payload ++ rest).drop dungeonCmdHdrSize).takeWhile (· ≠ 0)
      else [])

/-- The size of the party a state packet speaks of. -/
def claimedSize (payload : List UInt8) : Fin 6 := ⟨min (payload.getD 2 0).toNat 5, by omega⟩

/-- The entry of member `i`. -/
def entryAt (payload : List UInt8) (i : Fin 5) : List UInt8 :=
  (payload.drop (dungeonStateHdrSize + i.val * dungeonStateSlotSize)).take dungeonStateSlotSize

/-- The packet is long enough for the entry of member `i`. -/
def Present (payload : List UInt8) (i : Fin 5) : Prop :=
  i.val < (claimedSize payload).val ∧
    dungeonStateHdrSize + i.val * dungeonStateSlotSize + dungeonStateSlotSize ≤ payload.length

instance (payload : List UInt8) (i : Fin 5) : Decidable (Present payload i) :=
  inferInstanceAs (Decidable (_ ∧ _))

/-- The member as the packet gives it; the active slot is written to without a check. -/
def copyMember (payload : List UInt8) (party : Fin 5 → DungeonTrainer) (i : Fin 5) :
    Except Fault (Fin 5 → DungeonTrainer) :=
  if Present payload i then
    if h : ((entryAt payload i).getD 8 0).toNat < 6 then
      .ok (Function.update party i ((party i).copied (entryAt payload i) ⟨_, h⟩))
    else .error .outOfBounds
  else .ok party

def handleState (payload : List UInt8) : Except Fault DungeonGame :=
  if g.active = false ∨ g.isHost = true ∨ payload.length < dungeonStateHdrSize then .ok g
  else do
    let party ← (List.finRange 5).foldlM (copyMember payload) g.run.party
    return { g with
      run := { g.run with
        currentFloor := { g.run.currentFloor with depth := payload.getD 1 0 }
        phase := payload.getD 0 0
        partySize := claimedSize payload
        party := party }
      dirty := true }

def handleMsg (payload : List UInt8) : DungeonGame :=
  if g.active = false ∨ payload = [] then g else { g with dirty := true }

def handlePrompt (payload : List UInt8) : DungeonGame :=
  if g.active = false ∨ payload.length < 2 then g else { g with dirty := true }

/-- The game without packets to send. -/
def silent (x : Except Fault DungeonGame) : Except Fault (DungeonGame × DungeonSent) :=
  x.map fun g => (g, [])

def handlePacket (p : Packet) (rest : List UInt8) : Except Fault (DungeonGame × DungeonSent) :=
  if p.type = dungeonBeacon then .ok (g.handleBeacon p.payload, [])
  else if p.type = dungeonJoin then g.handleJoin p.payload
  else if p.type = dungeonJoinAck then silent (g.handleJoinAck p.payload)
  else if p.type = dungeonCmd then g.handleCmd p.payload rest
  else if p.type = dungeonState then silent (g.handleState p.payload)
  else if p.type = dungeonMsg then .ok (g.handleMsg p.payload, [])
  else if p.type = dungeonPrompt then .ok (g.handlePrompt p.payload, [])
  else .ok (g, [])

def handle : DungeonEvent → Except Fault (DungeonGame × DungeonSent)
  | .command verb arg => g.handleLocalCommand verb arg
  | .packet p rest => g.handlePacket p rest

/-- The game after an event. -/
def step (e : DungeonEvent) : Except Fault DungeonGame := Prod.fst <$> g.handle e

end DungeonGame

end MonsterMesh
