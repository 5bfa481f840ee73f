import MonsterMesh.Engine.Turn
import MonsterMesh.Wire.Packet
import MonsterMesh.Wire.PartyMin

/-! The state of one device in a text battle: its engine, its screen and its side of the wire. -/
namespace MonsterMesh

inductive Mode where
  | off | networked | localRoguelike
deriving DecidableEq, Repr

inductive Role where
  | legacy | server | client
deriving DecidableEq, Repr

inductive Phase where
  | idle | waitAction | waitRemote | waitSwitch | waitFlee | animating | finished
  | waitChallengeOverlay | waitPeerReady
deriving DecidableEq, Repr

/-- The scrolling text log, a ring of six lines. `unshipped` counts the lines no UPDATE carried. -/
structure BattleLog where
  lines : Fin 6 → CStr
  head : Fin 6
  unshipped : Fin 7

/-- `appendLog`; a line is cut at 40 characters. -/
def BattleLog.append (l : BattleLog) (line : CStr) : BattleLog :=
  { lines := Function.update l.lines l.head ((line.takeWhile (· ≠ 0)).take 40)
    head := l.head + 1
    unshipped := if h : l.unshipped.val < 6 then ⟨l.unshipped.val + 1, by omega⟩ else l.unshipped }

/-- The last `n` lines, oldest first. -/
def BattleLog.recent (l : BattleLog) (n : Fin 7) : List CStr :=
  (List.range n.val).map fun i => l.lines ⟨(l.head.val + 6 - n.val + i) % 6, Nat.mod_lt _ (by omega)⟩

/-- Experience bookkeeping of the local party. -/
structure Xp where
  participantMask : UInt8
  lastPlayerActive : UInt8
  isTrainerBattle : Bool
  pendingXpDrops : UInt8
  pendingXpPerSlot : Fin 6 → UInt32
  slotXpAccum : Fin 6 → UInt32

/-- The part of the state that turns and UPDATEs write: the engine and what the player sees. -/
structure Scene where
  engine : Engine
  log : BattleLog
  playerWon : Bool
  xp : Xp

/-- An action submitted for a turn, kept for replays. -/
structure SentAction where
  action : UInt8
  index : UInt8
  turn : UInt16

/-- `SERVER` and `CLIENT` fields are only meaningful in their role, as in the source. `sent` is the
history of everything given to the transport, newest first. -/
structure TextBattle extends Scene where
  mode : Mode
  phase : Phase
  role : Role
  remoteId : UInt32
  session : UInt16
  cursor : Fin 4
  switchCursor : Fin 6
  pendingRemoteAction : Bool
  lastSent : SentAction
  prevSent : SentAction
  lastSendMs : UInt32
  fleeAttempts : UInt8
  myNodeNum : UInt32
  lastRecvMs : UInt32
  peerReady : Bool
  peerReadyTimeoutMs : UInt32
  myTbName : CStr
  peerTbName : CStr
  pendingMyParty : Gen1Party
  pendingClientParty : Gen1Party
  pendingServerParty : Gen1Party
  lastChallengeMs : UInt32
  challengeTries : UInt8
  awaitingAccept : Bool
  updateSeq : UInt8
  unackedUpdate : Bool
  pendingKeyExit : Bool
  finishedAtMs : UInt32
  lastUpdateSendMs : UInt32
  lastUpdate : Option Packet
  clientActionType : UInt8
  clientActionIndex : UInt8
  clientActionTurn : UInt8
  lastClientActionSendMs : UInt32
  lastAppliedUpdateSeq : UInt8
  clientNeedsFullState : Bool
  awaitingFirstUpdate : Bool
  lastAcceptSendMs : UInt32
  awaitingUpdateSinceMs : UInt32
  preAcceptUpdate : Option Packet
  clientTurn : UInt8
  sent : List Packet

/-- What a call reads from the device: `millis()` and `esp_random()`. -/
structure Env where
  millis : UInt32
  random : UInt32

namespace Scene

variable (s : Scene)

def appendLog (line : CStr) : Scene := { s with log := s.log.append line }

/-- The lines an engine call passes to `engineLogCb`. -/
def engineLog (lines : List CStr) : Scene := { s with log := lines.foldl BattleLog.append s.log }

def setParty (side : Side) (p : BattleParty) : Scene :=
  { s with engine := s.engine.setParty side p }

def forfeit (side : Side) : Scene :=
  { s with engine := (s.engine.forfeit side true).1 }.engineLog (s.engine.forfeit side true).2.lines

def submitAction (side : Side) (actionType index : UInt8) : Scene :=
  { s with engine := s.engine.submitAction side actionType index }

def autoReplace (side : Side) : Scene :=
  let r := s.engine.autoReplaceIfFainted side true
  { s with engine := r.2.1 }.engineLog r.2.2.lines

/-- `handleFaints`: each side, if its active mon is down. -/
def handleFaints : Scene :=
  let s := if (s.engine.p .zero).activeMon.hp = 0 then s.autoReplace .zero else s
  if (s.engine.p .one).activeMon.hp = 0 then s.autoReplace .one else s

end Scene

namespace TextBattle

variable (t : TextBattle)

def send (p : Packet) : TextBattle := { t with sent := p :: t.sent }

def setPhase (p : Phase) : TextBattle := { t with phase := p }

def onScene (f : Scene → Scene) : TextBattle := { t with toScene := f t.toScene }

def appendLog (line : String) : TextBattle := t.onScene (·.appendLog (cstr line))

def exit : TextBattle :=
  { t with
    mode := .off, phase := .idle, role := .legacy
    awaitingAccept := false, awaitingFirstUpdate := false, awaitingUpdateSinceMs := 0
    unackedUpdate := false, pendingKeyExit := false, finishedAtMs := 0, challengeTries := 0
    clientActionType := 0xFF, clientTurn := 0, clientNeedsFullState := false
    log := { t.log with unshipped := 0 }, preAcceptUpdate := none }

/-- `setMyTbParty` -/
def setMyTbParty (p : Gen1Party) (name : CStr) : TextBattle :=
  { t with pendingMyParty := p, myTbName := name.take tbMaxNameLen }

end TextBattle
end MonsterMesh

/-! What the server tells the client about the board: the canonical buffer, its hash, and the
UPDATE and FULL_STATE packets. -/
namespace MonsterMesh

open Bytes

/-- The side of the local engine that holds the client's party. -/
def Role.clientSide : Role → Side
  | .client => .zero
  | _ => .one

/-- Active slot, count, and HP and status of every mon. -/
def BattleParty.boardBytes (p : BattleParty) : List UInt8 :=
  UInt8.ofNat p.active.val :: UInt8.ofNat p.count.val ::
    p.slots.flatMap fun i => be16 (p.mons i).hp ++ [(p.mons i).status]

/-- `packClientStateFromEngine`: the buffer both roles hash. The result byte is always ONGOING. -/
def TextBattle.packClientState (t : TextBattle) : List UInt8 :=
  let side := t.role.clientSide
  let turn := if t.role = .client then t.clientTurn.toUInt16 else t.engine.turn
  be16 turn ++ tbResultOngoing :: (t.engine.p side).boardBytes ++
    (t.engine.p side.other).boardBytes ++ List.ofFn (t.engine.p side).activeMon.pp

def TextBattle.boardHash24 (t : TextBattle) : UInt32 := tbBoardHash24 t.packClientState

/-! ### The sections of an UPDATE -/

def hash24Bytes (h : UInt32) : List UInt8 := [(h >>> 16).toUInt8, (h >>> 8).toUInt8, h.toUInt8]

/-- A result of the server's engine, as its client sees it. -/
def Result.clientView : Result → UInt8
  | .p2Win => tbResultYouWin
  | .p1Win => tbResultYouLose
  | .draw => tbResultDraw
  | .ongoing => tbResultOngoing

/-- The log lines that fit below the reserve for the sections behind them; `w` bytes are used. -/
def fitLines : Nat → List CStr → List CStr
  | _, [] => []
  | w, l :: ls => if 101 < w + 1 + l.length then [] else l :: fitLines (w + 1 + l.length) ls

/-- The LOG section at offset `w`: a count, then each line with its length. -/
def logBytes (w : Nat) (lines : List CStr) : List UInt8 :=
  let fit := fitLines (w + 1) lines
  UInt8.ofNat fit.length :: fit.flatMap fun l => UInt8.ofNat l.length :: l

def BattlePoke.boostBytes (m : BattlePoke) : List UInt8 :=
  [m.atkBoost.toUInt8, m.defBoost.toUInt8, m.spdBoost.toUInt8, m.spcBoost.toUInt8,
    m.accBoost.toUInt8, m.evaBoost.toUInt8]

/-- The BENCH section: the client's mons with PP, its active stages, the server's mons. -/
def benchBytes (mine foe : BattleParty) : List UInt8 :=
  UInt8.ofNat mine.count.val :: (mine.slots.flatMap fun i =>
      be16 (mine.mons i).hp ++ (mine.mons i).status :: List.ofFn (mine.mons i).pp) ++
    mine.activeMon.boostBytes ++
    UInt8.ofNat foe.count.val ::
      foe.slots.flatMap fun i => be16 (foe.mons i).hp ++ [(foe.mons i).status]

def flagBits (bits : List Bool) : UInt8 :=
  (bits.zipIdx.map fun b => if b.1 then (1 : UInt8) <<< UInt8.ofNat b.2 else 0).foldl (· ||| ·) 0

/-- Counters, substitute, flags and screens of one side. -/
def BattleParty.fxBytes (p : BattleParty) : List UInt8 :=
  let m := p.activeMon
  [m.sleepTurns, m.confuseTurns] ++ be16 m.substituteHp ++
    [flagBits [m.mustRecharge, m.flinched, m.thrashing, m.rageActive, m.transformed,
        decide (m.chargingSlot ≠ 0xFF)],
      flagBits [p.reflect, p.lightScreen, p.mist, p.focused], p.reflectTurns, p.lightScreenTurns]

/-- The FX section. -/
def fxBytes (mine foe : BattleParty) : List UInt8 :=
  mine.fxBytes ++ foe.fxBytes ++
    [mine.activeMon.disabledSlot, mine.activeMon.disabledTurns, mine.activeMon.trapTurns]

namespace TextBattle

variable (t : TextBattle)

/-- The flags of the next UPDATE. -/
def updateFlags : UInt16 :=
  tbUpdHp ||| tbUpdPp ||| tbUpdSwitch ||| tbUpdStatus ||| tbUpdBench ||| tbUpdFx |||
    (if t.engine.result ≠ .ongoing then tbUpdResult else 0) |||
    (if 0 < t.log.unshipped.val then tbUpdLog else 0) |||
    (if t.engine.result = .ongoing ∧ (t.engine.p .one).activeMon.hp = 0 then tbUpdNeedPlayerSwitch
      else 0)

/-- The payload of the next UPDATE. The six unconditional sections are always sent. -/
def updatePayload : List UInt8 :=
  let mine := t.engine.p .one
  let foe := t.engine.p .zero
  let fixed := t.engine.turn.toUInt8 :: be16 t.updateFlags ++ hash24Bytes t.boardHash24 ++
    be16 mine.activeMon.hp ++ be16 foe.activeMon.hp ++ List.ofFn mine.activeMon.pp ++
    [UInt8.ofNat mine.active.val, UInt8.ofNat foe.active.val] ++
    [mine.activeMon.status, foe.activeMon.status] ++
    (if t.engine.result ≠ .ongoing then [t.engine.result.clientView] else [])
  fixed ++
    (if 0 < t.log.unshipped.val then logBytes fixed.length (t.log.recent t.log.unshipped) else []) ++
    benchBytes mine foe ++ fxBytes mine foe

def updatePacket : Packet := ⟨textBattleUpdate, t.session, t.updateSeq + 1, t.updatePayload⟩

/-- `serverAuthSendUpdate` -/
def serverAuthSendUpdate (env : Env) : TextBattle :=
  { t.send t.updatePacket with
    updateSeq := t.updateSeq + 1
    log := { t.log with unshipped := 0 }
    lastUpdate := some t.updatePacket
    unackedUpdate := true
    lastUpdateSendMs := env.millis }

/-- `serverAuthSendFullState`: the board itself is the payload. -/
def serverAuthSendFullState : TextBattle :=
  t.send ⟨textBattleFullState, t.session, t.updateSeq, t.packClientState⟩

end TextBattle
end MonsterMesh

/-! Experience for a fainted foe and the level-ups it brings inside the battle. -/
namespace MonsterMesh

def decimal (n : Nat) : CStr := cstr (toString n)

/-- The number of bits set in the participant mask. -/
def popcount (mask : UInt8) : Nat := ((List.range 8).filter (fun i => mask.toNat.testBit i)).length

/-- The linear stat scale of a level-up. -/
def scaleStat (oldLvl newLvl : UInt8) (v : UInt16) : UInt16 :=
  if oldLvl = 0 then v
  else
    let r := v.toNat * newLvl.toNat / oldLvl.toNat
    if 0xFFFF < r then 0xFFFF else UInt16.ofNat r

/-- `inBattleLevelUp`, the mon: one level more, stats scaled, HP up by what the maximum gained. -/
def BattlePoke.levelUp (m : BattlePoke) : BattlePoke :=
  let newLvl := m.level + 1
  let scale := scaleStat m.level newLvl
  let newMaxHp := scale m.maxHp
  let deltaHp := if m.maxHp < newMaxHp then newMaxHp - m.maxHp else 0
  { m with
    maxHp := newMaxHp
    hp := if newMaxHp.toNat < m.hp.toNat + deltaHp.toNat then newMaxHp else m.hp + deltaHp
    atk := scale m.atk, def' := scale m.def', spd := scale m.spd, spc := scale m.spc
    level := newLvl }

/-- `gen1NameToAscii` on the bytes of a name and its zero padding. -/
def gen1NameToAscii (name : CStr) : CStr :=
  ((name ++ List.replicate (11 - name.length) 0).map gen1CharToAscii).takeWhile (· ≠ 0)

def levelUpLine (m : BattlePoke) (newLvl : UInt8) : CStr :=
  let ascii := gen1NameToAscii m.nickname
  (if ascii = [] then cstr "?" else ascii.take 10) ++ cstr " grew to L" ++ decimal newLvl.toNat ++
    cstr "!"

/-- The experience from level `lvl` to the next. -/
def levelThreshold (lvl : UInt8) : UInt32 :=
  3 * lvl.toUInt32 * lvl.toUInt32 + 3 * lvl.toUInt32 + 1

namespace Scene

/-- `inBattleLevelUp` -/
def inBattleLevelUp (s : Scene) (slot : Fin 6) : Scene :=
  let p := s.engine.p .zero
  let m := p.mons slot
  if p.count.val ≤ slot.val ∨ 100 ≤ m.level then s
  else
    (s.setParty .zero { p with mons := Function.update p.mons slot m.levelUp }).appendLog
      (levelUpLine m (m.level + 1))

/-- The level-up loop. Every round raises the level, so a hundred rounds always suffice. -/
def levelUps (s : Scene) (slot : Fin 6) : Nat → Scene
  | 0 => s
  | fuel + 1 =>
    let curLvl := ((s.engine.p .zero).mons slot).level
    if 100 ≤ curLvl ∨ s.xp.slotXpAccum slot < levelThreshold curLvl then s
    else
      let left := s.xp.slotXpAccum slot - levelThreshold curLvl
      let s := { s with xp := { s.xp with
        slotXpAccum := Function.update s.xp.slotXpAccum slot left } }
      (s.inBattleLevelUp slot).levelUps slot fuel

/-- The credit of one participant that is still standing. -/
def creditSlot (s : Scene) (mask : UInt8) (xp : UInt32) (slot : Fin 6) : Scene :=
  if mask &&& (1 <<< UInt8.ofNat slot.val) = 0 ∨ ((s.engine.p .zero).mons slot).hp = 0 then s
  else
    { s with xp := { s.xp with
        pendingXpPerSlot := Function.update s.xp.pendingXpPerSlot slot
          (s.xp.pendingXpPerSlot slot + xp)
        slotXpAccum := Function.update s.xp.slotXpAccum slot (s.xp.slotXpAccum slot + xp) }
      }.levelUps slot 100

/-- The share of each participant, `mult` being 3 for a trainer battle and 2 otherwise. -/
def faintXp (mask : UInt8) (foe : BattlePoke) (mult : UInt32) : UInt32 :=
  let pcount := if popcount mask = 0 then 1 else popcount mask
  let lvl := if foe.level ≠ 0 then foe.level.toUInt32 else 1
  let b := gen1BaseStats (if foe.species < 152 then foe.species else 0)
  let sum := (b.hp.toNat + b.atk.toNat + b.def'.toNat + b.spd.toNat + b.spc.toNat) / 3
  let baseYield := UInt32.ofNat (if sum < 20 then 20 else sum)
  let xp := baseYield * lvl * mult / UInt32.ofNat (14 * pcount)
  if xp = 0 then 1 else xp

/-- One fainted foe: the share goes to every participant, then the mask starts over. -/
def creditFaint (s : Scene) (foe : BattlePoke) (mult : UInt32) : Scene :=
  let mask := s.xp.participantMask
  let xp := faintXp mask foe mult
  let s := { s with xp := { s.xp with pendingXpDrops := s.xp.pendingXpDrops + 1 } }
  let s := s.appendLog (cstr "Each earned " ++ decimal xp.toNat ++ cstr " XP!")
  let s := (s.engine.p .zero).slots.foldl (fun s slot => s.creditSlot mask xp slot) s
  { s with xp := { s.xp with
    participantMask := 1 <<< UInt8.ofNat (s.engine.p .zero).active.val } }

/-- Every foe whose HP went from `pre` to 0. -/
def creditFaints (s : Scene) (pre : Fin 6 → UInt16) (mult : UInt32) : Scene :=
  (s.engine.p .one).slots.foldl (fun s i =>
    let foe := (s.engine.p .one).mons i
    if 0 < pre i ∧ foe.hp = 0 then s.creditFaint foe mult else s) s

/-- The HP of the other side's slots, 0 beyond its count. -/
def foeHp (s : Scene) (i : Fin 6) : UInt16 :=
  if i.val < (s.engine.p .one).count.val then ((s.engine.p .one).mons i).hp else 0

/-- A new active mon joins the participants. -/
def trackActive (s : Scene) : Scene :=
  let cur := UInt8.ofNat (s.engine.p .zero).active.val
  if cur ≠ s.xp.lastPlayerActive then
    { s with xp := { s.xp with
      participantMask := s.xp.participantMask ||| (1 <<< cur), lastPlayerActive := cur } }
  else s

end Scene
end MonsterMesh
