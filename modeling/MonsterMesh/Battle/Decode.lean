import Mathlib.Data.Fin.VecNotation
import MonsterMesh.Battle.State

/-! Applying the sections of an UPDATE to the client's scene. A section that does not fit the rest
of the payload ends the decoding with what was already applied. -/
namespace MonsterMesh

open Bytes

/-- A scene and the bytes left to read. The error is the scene at an early return. -/
abbrev Scan := Except Scene (Scene × List UInt8)

/-- `mons[active].f = …` on a side that has mons. -/
def BattleParty.onActive (p : BattleParty) (f : BattlePoke → BattlePoke) : BattleParty :=
  if p.count.val = 0 then p else p.setActiveMon (f p.activeMon)

/-- A slot below the count becomes the active one. -/
def BattleParty.activate (p : BattleParty) (slot : UInt8) : BattleParty :=
  if h : slot.toNat < p.count.val then
    { p with active := (⟨slot.toNat, h⟩ : Fin p.count.val).castLE (by omega) }
  else p

/-- `mons[i].f = …` on a slot below the count. -/
def BattleParty.onSlot (p : BattleParty) (i : Nat) (f : BattlePoke → BattlePoke) : BattleParty :=
  if h : i < p.count.val then
    { p with mons := Function.update p.mons ⟨i, by omega⟩ (f (p.mons ⟨i, by omega⟩)) }
  else p

def BattlePoke.setHpStatus (hi lo st : UInt8) (m : BattlePoke) : BattlePoke :=
  { m with hp := ofBe16 hi lo, status := st }

def ppOf (a b c d : UInt8) : Fin 4 → UInt8 := ![a, b, c, d]

def BattlePoke.setBoosts (a d s sp ac ev : UInt8) (m : BattlePoke) : BattlePoke :=
  { m with
    atkBoost := a.toInt8, defBoost := d.toInt8, spdBoost := s.toInt8
    spcBoost := sp.toInt8, accBoost := ac.toInt8, evaBoost := ev.toInt8 }

def bit (flags : UInt8) (i : Nat) : Bool := flags.toNat.testBit i

/-- The visible effects of one side; the charged slot itself is not sent. -/
def BattleParty.setFx (p : BattleParty) (sleep confuse hi lo mf ff refl screen : UInt8) :
    BattleParty :=
  let m := p.activeMon
  { p.setActiveMon { m with
      sleepTurns := sleep, confuseTurns := confuse, substituteHp := ofBe16 hi lo
      mustRecharge := bit mf 0, flinched := bit mf 1, thrashing := bit mf 2
      rageActive := bit mf 3, transformed := bit mf 4 } with
    reflect := bit ff 0, lightScreen := bit ff 1, mist := bit ff 2, focused := bit ff 3
    reflectTurns := refl, lightScreenTurns := screen }

namespace Scene

variable (s : Scene)

/-- Runs a section when its flag is set. -/
def sectionIf (flags flag : UInt16) (f : Scene → List UInt8 → Scan) (rest : List UInt8) : Scan :=
  if flags &&& flag ≠ 0 then f s rest else .ok (s, rest)

def onParty (side : Side) (f : BattleParty → BattleParty) : Scene :=
  s.setParty side (f (s.engine.p side))

def applyHp : List UInt8 → Scan
  | a :: b :: c :: d :: rest =>
    .ok ((s.onParty .zero (·.onActive fun m => { m with hp := ofBe16 a b })).onParty .one
      (·.onActive fun m => { m with hp := ofBe16 c d }), rest)
  | _ => .error s

def applyPp : List UInt8 → Scan
  | a :: b :: c :: d :: rest =>
    .ok (s.onParty .zero (·.onActive fun m => { m with pp := ppOf a b c d }), rest)
  | _ => .error s

def applySwitch : List UInt8 → Scan
  | a :: b :: rest => .ok ((s.onParty .zero (·.activate a)).onParty .one (·.activate b), rest)
  | _ => .error s

def applyStatus : List UInt8 → Scan
  | a :: b :: rest =>
    .ok ((s.onParty .zero (·.onActive fun m => { m with status := a })).onParty .one
      (·.onActive fun m => { m with status := b }), rest)
  | _ => .error s

/-- The line and the outcome of a result byte. -/
def showResult (result : UInt8) : Scene :=
  if result = tbResultYouWin then { s.appendLog (cstr "You won!") with playerWon := true }
  else if result = tbResultYouLose then s.appendLog (cstr "You blacked out…")
  else if result = tbResultDraw then s.appendLog (cstr "It's a draw.")
  else if result = tbResultFled then s.appendLog (cstr "Got away safely!")
  else s

/-- The RESULT section, with `finished`: whether its byte is not ONGOING. -/
def applyResult (flags : UInt16) (rest : List UInt8) : Except Scene (Bool × Scene × List UInt8) :=
  if flags &&& tbUpdResult ≠ 0 then
    match rest with
    | r :: rest => .ok (r ≠ tbResultOngoing, s.showResult r, rest)
    | [] => .error s
  else .ok (false, s, rest)

/-- The lines of the LOG section. A line that does not fit stops the loop, not the decoding. -/
def readLines : Nat → Scene → List UInt8 → Scene × List UInt8
  | 0, s, rest => (s, rest)
  | _, s, [] => (s, [])
  | n + 1, s, len :: rest =>
    if rest.length < len.toNat then (s, rest)
    else readLines n (s.appendLog ((rest.take len.toNat).take 40)) (rest.drop len.toNat)

def applyLog : List UInt8 → Scan
  | n :: rest => .ok (readLines n.toNat s rest)
  | _ => .error s

/-- The client's mons from slot `i` on, `n` of them. -/
def readBench : Nat → Nat → Scene → List UInt8 → Scan
  | 0, _, s, rest => .ok (s, rest)
  | n + 1, i, s, a :: b :: st :: p0 :: p1 :: p2 :: p3 :: rest =>
    readBench n (i + 1) (s.onParty .zero (·.onSlot i fun m =>
      { m.setHpStatus a b st with pp := ppOf p0 p1 p2 p3 })) rest
  | _, _, s, _ => .error s

/-- The HP and status of the mons of a side from slot `i` on, `n` of them. -/
def readSide (side : Side) : Nat → Nat → Scene → List UInt8 → Scan
  | 0, _, s, rest => .ok (s, rest)
  | n + 1, i, s, a :: b :: st :: rest =>
    readSide side n (i + 1) (s.onParty side (·.onSlot i (·.setHpStatus a b st))) rest
  | _, _, s, _ => .error s

def applyBoosts : List UInt8 → Scan
  | a :: b :: c :: d :: e :: f :: rest =>
    .ok (s.onParty .zero (·.onActive (·.setBoosts a b c d e f)), rest)
  | _ => .error s

def applyMyBench : List UInt8 → Scan
  | n :: rest => readBench (min n.toNat 6) 0 s rest
  | _ => .error s

def applyFoeBench : List UInt8 → Scan
  | n :: rest => readSide .one (min n.toNat 6) 0 s rest
  | _ => .error s

def applyBench (rest : List UInt8) : Scan := do
  let (s, rest) ← s.applyMyBench rest
  let (s, rest) ← s.applyBoosts rest
  s.applyFoeBench rest

def applyFxSide (side : Side) : List UInt8 → Scan
  | a :: b :: c :: d :: e :: f :: g :: h :: rest =>
    .ok (s.onParty side (·.setFx a b c d e f g h), rest)
  | _ => .error s

def applyCounters : List UInt8 → Scan
  | a :: b :: c :: rest =>
    .ok (s.onParty .zero (·.onActive fun m =>
      { m with disabledSlot := a, disabledTurns := b, trapTurns := c }), rest)
  | _ => .error s

def applyFx (rest : List UInt8) : Scan := do
  let (s, rest) ← s.applyFxSide .zero rest
  let (s, rest) ← s.applyFxSide .one rest
  s.applyCounters rest

/-- All sections in flag order; the result is the scene and `finished`. -/
def applySections (flags : UInt16) (rest : List UInt8) : Except Scene (Scene × Bool) := do
  let (s, rest) ← s.sectionIf flags tbUpdHp applyHp rest
  let (s, rest) ← s.sectionIf flags tbUpdPp applyPp rest
  let (s, rest) ← s.sectionIf flags tbUpdSwitch applySwitch rest
  let (s, rest) ← s.sectionIf flags tbUpdStatus applyStatus rest
  let (finished, s, rest) ← s.applyResult flags rest
  let (s, rest) ← s.sectionIf flags tbUpdLog applyLog rest
  let (s, rest) ← s.sectionIf flags tbUpdBench applyBench rest
  let (s, _) ← s.sectionIf flags tbUpdFx applyFx rest
  return (s, finished)

/-! ### FULL_STATE -/

/-- One side of the snapshot. -/
def readSnapshot (side : Side) : List UInt8 → Scan
  | active :: count :: rest =>
    let n := min count.toNat 6
    let s := s.onParty side fun p =>
      if h : active.toNat < n then { p with active := ⟨active.toNat, by omega⟩ } else p
    readSide side n 0 s rest
  | _ => .error s

/-- Both sides and, if present, the PP of the client's active mon. -/
def applySnapshot (rest : List UInt8) : Scan := do
  let (s, rest) ← s.readSnapshot .zero rest
  let (s, rest) ← s.readSnapshot .one rest
  match rest with
  | a :: b :: c :: d :: rest =>
    return (s.onParty .zero (·.onActive fun m => { m with pp := ppOf a b c d }), rest)
  | _ => return (s, rest)

end Scene
end MonsterMesh

/-! The receiver: the CHALLENGE overlay, ACCEPT, and a battle driven by UPDATEs. -/
namespace MonsterMesh

open Bytes

namespace TextBattle

variable (t : TextBattle) (env : Env)

/-! ### Sending -/

def actionPacket (actionType index : UInt8) : Packet :=
  ⟨textBattleActionV2, t.session, 0, [t.clientTurn, actionType, index, t.lastAppliedUpdateSeq]⟩

/-- `clientAuthSendActionV2`; the pure-ACK sentinel 0xFE is not kept for retransmission. -/
def clientAuthSendActionV2 (actionType index : UInt8) : TextBattle :=
  let t := t.send (t.actionPacket actionType index)
  if actionType ≠ 0xFE then
    { t with
      clientActionType := actionType, clientActionIndex := index
      clientActionTurn := t.clientTurn, lastClientActionSendMs := env.millis }
  else t

def clientAuthSendStateRequest : TextBattle :=
  t.send ⟨textBattleStateRequest, t.session, 0, [t.lastAppliedUpdateSeq]⟩

/-! ### UPDATE -/

/-- Stores the outcome of decoding: the scene of an early return, or the whole one. -/
def withScene (s : Scene) : TextBattle := { t with toScene := s }

/-- The experience of an UPDATE, mirrored from the server's turn. -/
def mirrorXp (pre : Fin 6 → UInt16) : TextBattle :=
  t.onScene fun s => (s.creditFaints pre 3).trackActive

/-- The phase an applied UPDATE leads to. -/
def commitUpdate (seq : UInt8) (finished needSwitch : Bool) : TextBattle :=
  let t := { t with lastAppliedUpdateSeq := seq, lastRecvMs := env.millis }
  if finished then (t.setPhase .finished).clientAuthSendActionV2 env 0xFE 0
  else if needSwitch then
    { t with
      phase := .waitSwitch, switchCursor := (t.engine.p .zero).active, clientActionType := 0xFF }
  else { t with phase := .waitAction, clientActionType := 0xFF }

/-- The hash check behind the sections: ask for the full state, or commit. -/
def checkUpdate (seq : UInt8) (serverHash : List UInt8) (finished needSwitch : Bool) : TextBattle :=
  if hash24Bytes t.boardHash24 ≠ serverHash then
    { { t with clientNeedsFullState := true }.clientAuthSendStateRequest with
      lastRecvMs := env.millis }
  else t.commitUpdate env seq finished needSwitch

/-- A new UPDATE: its turn, flags and hash are read, the sections applied and checked. -/
def applyUpdate (seq turn fhi flo h0 h1 h2 : UInt8) (body : List UInt8) : TextBattle :=
  let pre := t.foeHp
  let flags := ofBe16 fhi flo
  let t := { t with clientTurn := turn }
  match t.toScene.applySections flags body with
  | .error s => t.withScene s
  | .ok (s, finished) =>
    ((t.withScene s).mirrorXp pre).checkUpdate env seq [h0, h1, h2] finished
      (flags &&& tbUpdNeedPlayerSwitch ≠ 0)

/-- The same UPDATE again is only acknowledged. -/
def reAck : TextBattle :=
  if t.clientActionType ≠ 0xFF then
    t.clientAuthSendActionV2 env t.clientActionType t.clientActionIndex
  else t.clientAuthSendActionV2 env 0xFE 0

def clientAuthOnUpdatePkt (p : Packet) : TextBattle :=
  match p.payload with
  | turn :: fhi :: flo :: h0 :: h1 :: h2 :: body =>
    if p.session ≠ t.session then t
    else if t.phase = .waitChallengeOverlay then
      { t with preAcceptUpdate := some { p with payload := p.payload.take 196 } }
    else
      let t : TextBattle := { t with awaitingFirstUpdate := false, awaitingUpdateSinceMs := 0 }
      if p.seq = t.lastAppliedUpdateSeq ∧ t.lastAppliedUpdateSeq ≠ 0 then t.reAck env
      else t.applyUpdate env p.seq turn fhi flo h0 h1 h2 body
  | _ => t

/-! ### FULL_STATE -/

/-- What follows a snapshot that was read to its end. -/
def commitFullState (seq result : UInt8) : TextBattle :=
  { { t with
      clientNeedsFullState := false, awaitingFirstUpdate := false, awaitingUpdateSinceMs := 0
      lastAppliedUpdateSeq := seq, lastRecvMs := env.millis, clientActionType := 0xFF
    }.appendLog "State reconverged." with
    phase := if result = tbResultOngoing then .waitAction else .finished }

def clientAuthOnFullStatePkt (p : Packet) : TextBattle :=
  match p.payload with
  | _ :: _ :: result :: rest =>
    if rest.length < 2 ∨ p.session ≠ t.session then t
    else
      match t.toScene.applySnapshot rest with
      | .error s => t.withScene s
      | .ok (s, _) => (t.withScene s).commitFullState env p.seq result
  | _ => t

/-! ### The handshake -/

def acceptPacket (accepted : Bool) : Packet :=
  let name := t.myTbName.take tbMaxNameLen
  ⟨textBattleAccept, t.session, 0,
    [if accepted then 1 else 0, UInt8.ofNat name.length] ++ name ++ packPartyMinTb t.pendingMyParty⟩

/-- An UPDATE that came before the key press is applied now. -/
def applyBuffered : TextBattle :=
  match t.preAcceptUpdate with
  | some p => { t with preAcceptUpdate := none }.clientAuthOnUpdatePkt env p
  | none => t

/-- The battle proper: both parties healed, waiting for the first UPDATE. -/
def openBattle : TextBattle :=
  let t := { t with
    engine := (t.engine.start t.pendingMyParty t.pendingServerParty 0 3).heal
    phase := .waitRemote, awaitingFirstUpdate := true, awaitingUpdateSinceMs := env.millis }
  { t.appendLog "Battle begins!" with lastRecvMs := env.millis }

def clientAuthSendAccept (accepted : Bool) : TextBattle :=
  let t := { t.send (t.acceptPacket accepted) with lastAcceptSendMs := env.millis }
  if !accepted then
    { t.appendLog "Declined." with
      phase := .finished, awaitingFirstUpdate := false, awaitingUpdateSinceMs := 0 }
  else if t.awaitingFirstUpdate then t
  else (t.openBattle env).applyBuffered env

/-- The fields of a CHALLENGE addressed to this node: the name and the party. -/
def parseChallenge (p : Packet) : Option (CStr × List UInt8) :=
  match p.payload with
  | a :: b :: c :: d :: gen :: len :: rest =>
    let targetId := ofBe32 a b c d
    let nameLen := min len.toNat tbMaxNameLen
    if rest.length < tbPartyMinBytes ∨ targetId ≠ 0 ∧ t.myNodeNum ≠ 0 ∧ targetId ≠ t.myNodeNum ∨
        gen ≠ 1 ∨ rest.length < nameLen + tbPartyMinBytes then none
    else some (rest.take nameLen, rest.drop nameLen)
  | _ => none

/-- The overlay of a new challenge. -/
def beginOverlay (fromId : UInt32) (session : UInt16) (name : CStr) (party : List UInt8) :
    TextBattle :=
  let name := name.takeWhile (· ≠ 0)
  let t := { t with
    playerWon := false
    log := { t.log with head := 0 }
    mode := .networked, role := .client, phase := .waitChallengeOverlay
    remoteId := fromId, session := session, cursor := 0, switchCursor := 0, peerReady := true
    lastAppliedUpdateSeq := 0, clientActionType := 0xFF, clientNeedsFullState := false
    pendingRemoteAction := false, preAcceptUpdate := none
    peerTbName := name, pendingServerParty := unpackPartyMinTb party }
  let t := t.onScene (·.appendLog ((if name = [] then cstr "Trainer" else name) ++
    cstr " wants to battle!"))
  { t.appendLog "Y=accept  N=decline" with lastRecvMs := env.millis }

def clientAuthOnChallengePkt (fromId : UInt32) (p : Packet) : TextBattle :=
  match t.parseChallenge p with
  | none => t
  | some (name, party) =>
    if t.mode ≠ .off ∧ t.role = .client ∧ t.awaitingFirstUpdate ∧ p.session = t.session then
      t.clientAuthSendAccept env true
    else t.beginOverlay env fromId p.session name party

/-! ### Timers -/

/-- Until the first UPDATE the client repeats ACCEPT; after 15 s it asks for the state. -/
def retransmitAccept (nowMs : UInt32) : TextBattle :=
  if !t.awaitingFirstUpdate then t
  else if 15000 ≤ nowMs - t.awaitingUpdateSinceMs then
    if 12000 ≤ nowMs - t.lastAcceptSendMs then
      { t.clientAuthSendStateRequest with lastAcceptSendMs := nowMs }
    else t
  else if 5000 + (env.random &&& 0x7FF) ≤ nowMs - t.lastAcceptSendMs then
    t.clientAuthSendAccept env true
  else t

def clientAuthRetransmit (nowMs : UInt32) : TextBattle :=
  let t := t.retransmitAccept env nowMs
  if !t.clientNeedsFullState ∧ t.clientActionType ≠ 0xFF ∧ t.clientActionTurn = t.clientTurn ∧
      tbActionResendMs ≤ nowMs - t.lastClientActionSendMs then
    t.clientAuthSendActionV2 env t.clientActionType t.clientActionIndex
  else t

end TextBattle
end MonsterMesh
