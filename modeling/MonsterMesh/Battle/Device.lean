import MonsterMesh.Battle.Decode
import MonsterMesh.Battle.State
import MonsterMesh.Lib.Run

/-! The initiator: CHALLENGE, the ACCEPT that starts the battle, the client's actions. -/
namespace MonsterMesh

open Bytes

namespace TextBattle

variable (t : TextBattle) (env : Env)

def challengePacket : Packet :=
  let name := t.myTbName.take tbMaxNameLen
  ⟨textBattleChallenge, t.session, 0,
    be32 t.remoteId ++ [1, UInt8.ofNat name.length] ++ name ++ packPartyMinTb t.pendingMyParty⟩

def serverAuthSendChallenge : TextBattle :=
  { t.send t.challengePacket with
    lastChallengeMs := env.millis, challengeTries := t.challengeTries + 1 }

/-- The stub engine a waiting server shows: its own party, and no opponent. -/
def stubEngine (myParty : Gen1Party) : Engine :=
  let e := t.engine.start myParty myParty 0xCAFEBABE 3
  e.setParty .one { e.p .one with count := 0 }

def startServerAuthAsInitiator (remoteId : UInt32) (myParty : Gen1Party) (myName : CStr) :
    TextBattle :=
  let t := { t with
    engine := t.stubEngine myParty
    log := ({ t.log with head := 0 } : BattleLog).append (cstr "Sending challenge…")
    playerWon := false
    mode := .networked, phase := .waitRemote, role := .server, remoteId := remoteId
    session := (env.millis ^^^ remoteId).toUInt16
    cursor := 0, switchCursor := 0, pendingRemoteAction := false
    peerReady := false, awaitingAccept := true, challengeTries := 0, lastChallengeMs := 0
    unackedUpdate := false, updateSeq := 0, lastUpdate := none
    clientActionType := 0xFF, lastAppliedUpdateSeq := 0, clientNeedsFullState := false
    pendingMyParty := myParty, myTbName := myName.take tbMaxNameLen, peerTbName := [] }
  { t.serverAuthSendChallenge env with lastRecvMs := env.millis }

/-- The fields of an ACCEPT for this session, or of nothing: accepted, the name, the party. -/
def parseAccept (p : Packet) : Option (UInt8 × CStr × List UInt8) :=
  if p.payload.length < 2 + tbPartyMinBytes ∨ p.session ≠ t.session then none
  else
    let nameLen := min (p.payload.getD 1 0).toNat tbMaxNameLen
    if p.payload.length < 2 + nameLen + tbPartyMinBytes then none
    else some (p.payload.getD 0 0, (p.payload.drop 2).take nameLen, p.payload.drop (2 + nameLen))

/-- The battle proper: both parties healed, first UPDATE sent. -/
def beginBattle (fromId : UInt32) (name : CStr) (party : List UInt8) : TextBattle :=
  let client := unpackPartyMinTb party
  let name := name.takeWhile (· ≠ 0)
  let seed := env.millis ^^^ env.random ^^^ fromId
  let t := { t with
    peerTbName := name, pendingClientParty := client
    engine := (t.engine.start t.pendingMyParty client seed 3).heal
    awaitingAccept := false, peerReady := true, remoteId := fromId
    pendingRemoteAction := false, phase := .waitAction, lastRecvMs := env.millis }
  let t := (t.onScene (·.handleFaints)).appendLog "Battle begins!"
  let t := t.onScene (·.appendLog (cstr "Vs " ++ if name = [] then cstr "trainer" else name))
  t.serverAuthSendUpdate env

def serverAuthOnAcceptPkt (fromId : UInt32) (p : Packet) : TextBattle :=
  if !t.awaitingAccept then t
  else
    match t.parseAccept p with
    | none => t
    | some (accepted, name, party) =>
      if accepted = 0 then
        { t.appendLog "Challenge declined." with phase := .finished, awaitingAccept := false }
      else t.beginBattle env fromId name party

/-- Clears the retransmit of an UPDATE the client confirms. -/
def ackUpdate (lastAckedSeq : UInt8) : TextBattle :=
  { t with unackedUpdate := t.unackedUpdate && !(lastAckedSeq == t.updateSeq) }

/-- The effect of an in-turn action of the client. -/
def clientAction (actionType index : UInt8) : TextBattle :=
  if actionType = 0xFE then { t with lastRecvMs := env.millis }
  else if actionType = 2 then
    (((t.onScene (·.forfeit .one)).appendLog "Opponent fled.").setPhase .finished
      ).serverAuthSendUpdate env
  else
    { t.onScene (·.submitAction .one actionType index) with
      pendingRemoteAction := true, lastRecvMs := env.millis }

def serverAuthOnActionV2Pkt (fromId : UInt32) (p : Packet) : TextBattle :=
  match p.payload with
  | turn :: actionType :: index :: lastAckedSeq :: _ =>
    if p.session ≠ t.session ∨ fromId ≠ t.remoteId then t
    else
      let t := t.ackUpdate lastAckedSeq
      if turn ≠ t.engine.turn.toUInt8 then t else t.clientAction env actionType index
  | _ => t

def serverAuthOnStateRequestPkt (fromId : UInt32) (p : Packet) : TextBattle :=
  if p.payload = [] ∨ p.session ≠ t.session ∨ fromId ≠ t.remoteId then t
  else t.serverAuthSendFullState

def serverAuthRetransmit (nowMs : UInt32) : TextBattle :=
  if t.awaitingAccept then
    if tbChallengeResendMs ≤ nowMs - t.lastChallengeMs then
      if tbChallengeMaxTries ≤ t.challengeTries then
        { t.appendLog "No response — cancelled." with phase := .finished, awaitingAccept := false }
      else t.serverAuthSendChallenge env
    else t
  else
    match t.lastUpdate with
    | some p =>
      if t.unackedUpdate ∧ tbUpdateResendMs ≤ nowMs - t.lastUpdateSendMs then
        { t.send p with lastUpdateSendMs := nowMs }
      else t
    | none => t

end TextBattle
end MonsterMesh

/-! The three entry points of the device: `handlePacket`, `handleKey` and `tick`. -/
namespace MonsterMesh

open Bytes

namespace TextBattle

variable (t : TextBattle) (env : Env)

/-! ### The lockstep wire -/

def startActionPacket (turn : UInt16) (actionType index : UInt8) : Packet :=
  ⟨textBattleAction, t.session, turn.toUInt8, be16 turn ++ [actionType, index]⟩

/-- `sendAction`: the last action becomes the previous one. -/
def sendAction (actionType index : UInt8) : TextBattle :=
  let turn := t.engine.turn
  { t.send (t.startActionPacket turn actionType index) with
    prevSent := if t.lastSent.action ≠ 0xFF then t.lastSent else t.prevSent
    lastSent := ⟨actionType, index, turn⟩, lastSendMs := env.millis }

def sendForfeit : TextBattle := t.send ⟨textBattleForfeit, t.session, 0, []⟩

def sendHash : TextBattle :=
  t.send ⟨textBattleHash, t.session, t.engine.turn.toUInt8,
    be16 t.engine.turn ++ t.engine.hashState⟩

/-- The action this device played in a turn it has left. -/
def replay (turn : UInt16) : Option SentAction :=
  if t.lastSent.action ≠ 0xFF ∧ t.lastSent.turn = turn then some t.lastSent
  else if t.prevSent.action ≠ 0xFF ∧ t.prevSent.turn = turn then some t.prevSent
  else none

/-- A lockstep action of the peer. -/
def onAction (p : Packet) : TextBattle :=
  match p.payload with
  | hi :: lo :: act :: idx :: _ =>
    let turn := ofBe16 hi lo
    if turn ≠ t.engine.turn then
      let t := if turn < t.engine.turn then
          match t.replay turn with
          | some a => t.send (t.startActionPacket turn a.action a.index)
          | none => t
        else t
      { t with lastRecvMs := env.millis }
    else
      { t.onScene (·.submitAction .one act idx) with
        pendingRemoteAction := true, lastRecvMs := env.millis }
  | _ => t

/-- A state hash of the peer; only one of the same turn is compared. -/
def onHash (p : Packet) : TextBattle :=
  if p.payload.length < 10 ∨ ofBe16 (p.payload.getD 0 0) (p.payload.getD 1 0) ≠ t.engine.turn then t
  else if (p.payload.drop 2).take 8 ≠ t.engine.hashState then
    ((t.appendLog "Desync detected — match aborted.").onScene (·.forfeit .zero)).setPhase .finished
  else t

/-- The first packet of the session proves that the peer's station is up. -/
def notePeer : TextBattle :=
  if t.peerReady then t
  else if t.phase = .waitPeerReady then
    ({ t with peerReady := true, phase := .waitAction } : TextBattle).appendLog "Opponent ready!"
  else ({ t with peerReady := true } : TextBattle).appendLog "Opponent ready — go!"

/-- The packets behind the common session and sender checks. -/
def legacyPacket (p : Packet) : Bool × TextBattle :=
  if p.type = textBattleReady then (true, t)
  else if p.type = textBattleAction then (true, t.onAction env p)
  else if p.type = textBattleForfeit then (true, (t.onScene (·.forfeit .one)).setPhase .finished)
  else if p.type = textBattleHash then (true, t.onHash p)
  else (false, t)

/-- `handlePacket` on a buffer that holds a packet. -/
def dispatch (fromId : UInt32) (p : Packet) : Bool × TextBattle :=
  if p.type = textBattleChallenge then
    (true, if t.mode ≠ .off then t else t.clientAuthOnChallengePkt env fromId p)
  else if t.mode ≠ .off ∧ t.role = .server ∧ p.type = textBattleAccept then
    (true, t.serverAuthOnAcceptPkt env fromId p)
  else if t.mode ≠ .off ∧ t.role = .server ∧ p.type = textBattleActionV2 then
    (true, t.serverAuthOnActionV2Pkt env fromId p)
  else if t.mode ≠ .off ∧ t.role = .server ∧ p.type = textBattleStateRequest then
    (true, t.serverAuthOnStateRequestPkt fromId p)
  else if t.mode ≠ .off ∧ t.role = .client ∧ p.type = textBattleUpdate then
    (true, t.clientAuthOnUpdatePkt env p)
  else if t.mode ≠ .off ∧ t.role = .client ∧ p.type = textBattleFullState then
    (true, t.clientAuthOnFullStatePkt env p)
  else if p.type = textBattleStart then
    (true, if t.mode ≠ .off ∨ p.payload.length < 14 then t
      else { t with session := p.session, remoteId := fromId })
  else if t.mode = .off ∨ p.session ≠ t.session ∨ t.remoteId ≠ 0 ∧ fromId ≠ t.remoteId then
    (false, t)
  else t.notePeer.legacyPacket env p

def handlePacket (fromId : UInt32) (buf : List UInt8) : Bool × TextBattle :=
  match Packet.ofBytes buf with
  | some p => t.dispatch env fromId p
  | none => (false, t)

/-! ### Turns -/

/-- The line a finished engine shows, and the winner it records. -/
def showOutcome (s : Scene) : Scene :=
  match s.engine.result with
  | .p1Win => { s.appendLog (cstr "You won!") with playerWon := true }
  | .p2Win => s.appendLog (cstr "You blacked out…")
  | .draw => s.appendLog (cstr "It's a draw.")
  | .ongoing => s

/-- A turn of the engine, with the replacements and the experience it brings. -/
def playOut (s : Scene) : Except Fault Scene := do
  let pre := s.foeHp
  let (e, out) ← s.engine.executeTurn true
  let s := ({ s with engine := e }.engineLog out.lines).handleFaints
  return s.creditFaints pre (if s.xp.isTrainerBattle then 3 else 2)

/-- What follows the engine's turn: the participants, the outcome, the packet, the phase. -/
def endTurn : TextBattle :=
  let moved := UInt8.ofNat (t.engine.p .zero).active.val ≠ t.xp.lastPlayerActive
  let t : TextBattle := { t.onScene (·.trackActive) with cursor := if moved then 0 else t.cursor }
  if t.engine.result ≠ .ongoing then
    let t := t.onScene showOutcome
    (if t.role = .server then t.serverAuthSendUpdate env else t).setPhase .finished
  else
    let t : TextBattle := { t with pendingRemoteAction := false }
    let t :=
      if t.mode = .networked then
        if t.role = .server then t.serverAuthSendUpdate env else t.sendHash
      else t
    t.setPhase .waitAction

def resolveTurn : Except Fault TextBattle := do
  let s ← playOut t.toScene
  return (t.withScene s).endTurn env

/-! ### `tick` -/

/-- The first tick on a server's result screen starts its clock. -/
def stampFinished (nowMs : UInt32) : TextBattle :=
  if t.phase = .finished ∧ t.finishedAtMs = 0 then { t with finishedAtMs := nowMs } else t

/-- A held exit is released once the last UPDATE is confirmed, or after 45 s. -/
def releaseExit (nowMs : UInt32) : Bool × TextBattle :=
  if t.pendingKeyExit ∧
      (!t.unackedUpdate ∨ t.finishedAtMs ≠ 0 ∧ 45000 < nowMs - t.finishedAtMs) then
    (true, exit { t with pendingKeyExit := false })
  else (false, t)

/-- The retransmissions of each role; `true` when a held exit is released. -/
def tickRole (nowMs : UInt32) : Bool × TextBattle :=
  match t.role with
  | .server => ((t.stampFinished nowMs).serverAuthRetransmit env nowMs).releaseExit nowMs
  | .client => (false, t.clientAuthRetransmit env nowMs)
  | .legacy =>
    (false,
      if t.phase = .waitRemote ∧ t.lastSent.action ≠ 0xFF ∧
          resendIntervalMs ≤ nowMs - t.lastSendMs then
        t.sendAction env t.lastSent.action t.lastSent.index
      else t)

/-- A peer without READY is let through after its time. -/
def tickPeer (nowMs : UInt32) : TextBattle :=
  if t.phase = .waitPeerReady ∧ t.peerReadyTimeoutMs ≤ nowMs then
    (t.setPhase .waitAction).appendLog "Peer ready (timeout)"
  else t

def trafficTimeout : UInt32 := if t.role ≠ .legacy then tbNoTrafficTimeoutMs else remoteTimeoutMs

/-- A silent opponent forfeits. -/
def tickTimeout (nowMs : UInt32) : TextBattle :=
  if t.trafficTimeout < nowMs - t.lastRecvMs ∧ t.phase ≠ .finished ∧ t.phase ≠ .waitPeerReady ∧
      !t.awaitingAccept then
    let t := t.appendLog "Opponent timed out."
    (if t.engine.result = .ongoing then t.onScene (·.forfeit .one) else t).setPhase .finished
  else t

def tickNetworked (nowMs : UInt32) : Except Fault TextBattle :=
  let r := t.tickRole env nowMs
  if r.1 then .ok r.2
  else
    let t := (r.2.tickPeer nowMs).tickTimeout nowMs
    if t.phase = .waitRemote ∧ t.pendingRemoteAction then t.resolveTurn env else .ok t

def tickLocal : Except Fault TextBattle :=
  if t.phase = .waitRemote then
    let pick := t.engine.cpuPickAction .one
    (t.onScene (·.submitAction .one pick.1 pick.2)).resolveTurn env
  else .ok t

def tick (nowMs : UInt32) : Except Fault TextBattle :=
  match t.mode with
  | .off => .ok t
  | .networked => t.tickNetworked env nowMs
  | .localRoguelike => t.tickLocal env

/-! ### `handleKey` -/

def isChar (c : UInt8) (lower upper : Char) : Bool :=
  c = UInt8.ofNat lower.toNat || c = UInt8.ofNat upper.toNat

/-- K, Enter and space. -/
def keyAccept (c : UInt8) : Bool := isChar c 'k' 'K' || c = 10 || c = 13 || c = 32

def keyBack (c : UInt8) : Bool := isChar c 'l' 'L'

def keyUp (c : UInt8) : Bool := isChar c 'w' 'W' || c = 0xB5

def keyDown (c : UInt8) : Bool := isChar c 's' 'S' || c = 0xB6

/-- Any key on the result screen leaves it, but a server first waits for its last UPDATE. -/
def keyFinished : TextBattle :=
  if t.role = .server ∧ t.unackedUpdate ∧ !t.pendingKeyExit then { t with pendingKeyExit := true }
  else t.exit

def keyOverlay (c : UInt8) : TextBattle :=
  if isChar c 'y' 'Y' then t.clientAuthSendAccept env true
  else if isChar c 'n' 'N' ∨ c = 27 then t.clientAuthSendAccept env false
  else t

/-- ESC forfeits. -/
def keyEscape : TextBattle :=
  match t.role with
  | .client => (t.clientAuthSendActionV2 env 2 0).setPhase .finished
  | .server => ((t.onScene (·.forfeit .zero)).serverAuthSendUpdate env).setPhase .finished
  | .legacy =>
    ((if t.mode = .networked then t.sendForfeit else t).onScene (·.forfeit .zero)).setPhase .finished

/-- The flee formula of a fight that is neither networked nor local: it may fail. -/
def tryEscape : TextBattle :=
  let t : TextBattle := { t with fleeAttempts := t.fleeAttempts + 1 }
  let player := (t.engine.p .zero).activeMon
  let enemy := (t.engine.p .one).activeMon
  let f := UInt32.ofNat (player.spd.toNat * 32 / (enemy.spd.toNat + 1)) +
    30 * t.fleeAttempts.toUInt32
  if 255 ≤ f ∨ env.millis.toUInt8 < f.toUInt8 then
    (t.appendLog "Got away safely!").setPhase .finished
  else ((t.appendLog "Can't escape!").onScene (·.submitAction .zero 2 0)).setPhase .waitRemote

def keyFlee (c : UInt8) : TextBattle :=
  if !keyAccept c then t.setPhase .waitAction
  else if t.role = .client then (t.clientAuthSendActionV2 env 2 0).setPhase .finished
  else if t.mode = .networked then (t.sendForfeit.onScene (·.forfeit .zero)).setPhase .finished
  else if t.role = .legacy then (t.appendLog "Got away safely!").setPhase .finished
  else t.tryEscape env

/-- The own action: to the server from a client, into the engine otherwise. -/
def submitOwn (actionType index : UInt8) : TextBattle :=
  let t :=
    if t.role = .client then t.clientAuthSendActionV2 env actionType index
    else
      let t := t.onScene (·.submitAction .zero actionType index)
      if t.mode = .networked ∧ t.role = .legacy then t.sendAction env actionType index else t
  t.setPhase .waitRemote

/-- The switch cursor moves on a ring of `count` slots. -/
def wrapSlot (v : Int) : Except Fault (Fin 6) :=
  let n := (t.engine.p .zero).count
  if h : n.val = 0 then .error .divByZero
  else .ok ⟨(v % n.val).toNat, by
    have h₁ := Int.emod_lt_of_pos v (show (0 : Int) < n.val by omega)
    have h₂ := Int.emod_nonneg v (show (n.val : Int) ≠ 0 by omega)
    omega⟩

def keySwitch (c : UInt8) : Except Fault TextBattle :=
  let move (v : Int) : Except Fault TextBattle :=
    (fun i => { t with switchCursor := i }) <$> t.wrapSlot (t.switchCursor.val + v)
  let p := t.engine.p .zero
  if keyUp c then move (-2)
  else if keyDown c then move 2
  else if isChar c 'a' 'A' then move (-1)
  else if isChar c 'd' 'D' then move 1
  else if keyAccept c then
    .ok (if 0 < (p.mons t.switchCursor).hp ∧ t.switchCursor ≠ p.active then
      t.submitOwn env 1 (UInt8.ofNat t.switchCursor.val) else t)
  else .ok (if keyBack c then t.setPhase .waitAction else t)

/-- A move is chosen: Struggle when no move has PP left, else the move under the cursor. -/
def chooseMove : TextBattle :=
  if t.mode = .networked ∧ !t.peerReady then t.appendLog "Waiting for opponent..."
  else
    let mon := (t.engine.p .zero).activeMon
    if ¬ ∃ i, mon.moves i ≠ 0 ∧ 0 < mon.pp i then t.submitOwn env 0 0xFE
    else if mon.moves t.cursor = 0 ∨ mon.pp t.cursor = 0 then t
    else if mon.disabledSlot = UInt8.ofNat t.cursor.val ∧ 0 < mon.disabledTurns then
      t.appendLog "That move is disabled."
    else t.submitOwn env 0 (UInt8.ofNat t.cursor.val)

/-- The switch menu, closed to a trapped mon. -/
def openSwitch : TextBattle :=
  let p := t.engine.p .zero
  if 0 < p.activeMon.trapTurns then
    t.onScene (·.appendLog ((cstr "Can't switch — trapped for " ++
      decimal p.activeMon.trapTurns.toNat ++ cstr "!").take 39))
  else { t with switchCursor := p.active, phase := .waitSwitch }

def keyAction (c : UInt8) : TextBattle :=
  let move (v : Fin 4) : TextBattle := { t with cursor := t.cursor + v }
  if h : 49 ≤ c ∧ c ≤ 52 then
    chooseMove { t with cursor := ⟨(c.toNat - 49) % 4, Nat.mod_lt _ (by omega)⟩ } env
  else if keyUp c then move 2
  else if keyDown c then move 2
  else if isChar c 'a' 'A' then move 3
  else if isChar c 'd' 'D' then move 1
  else if keyAccept c then t.chooseMove env
  else if isChar c 'p' 'P' ∨ keyBack c then t.openSwitch
  else t

def handleKey (c : UInt8) : Except Fault TextBattle :=
  if t.mode = .off then .ok t
  else if t.phase = .finished then .ok t.keyFinished
  else if t.phase = .waitChallengeOverlay then .ok (t.keyOverlay env c)
  else if c = 27 then .ok (t.keyEscape env)
  else if t.phase = .waitRemote ∨ t.phase = .animating ∨ t.phase = .waitPeerReady then .ok t
  else if t.phase = .waitFlee then .ok (t.keyFlee env c)
  else if isChar c 'f' 'F' then .ok ((t.appendLog "Flee? K=yes  any=no").setPhase .waitFlee)
  else if t.phase = .waitSwitch then t.keySwitch env c
  else if t.phase = .waitAction then .ok (t.keyAction env c)
  else .ok t

end TextBattle
end MonsterMesh

/-! One device as a state machine over packets, keys and ticks. -/
namespace MonsterMesh

def BattleLog.empty : BattleLog := ⟨fun _ => [], 0, 0⟩

def Gen1Party.empty : Gen1Party := ⟨0, fun _ => 0, fun _ => .zero, fun _ _ => 0⟩

namespace TextBattle

/-- A default-constructed device. -/
def fresh : TextBattle :=
  { engine := .fresh, log := .empty, playerWon := false
    xp := ⟨1, 0, true, 0, fun _ => 0, fun _ => 0⟩
    mode := .off, phase := .idle, role := .legacy, remoteId := 0, session := 0
    cursor := 0, switchCursor := 0, pendingRemoteAction := false
    lastSent := ⟨0xFF, 0, 0⟩, prevSent := ⟨0xFF, 0, 0⟩, lastSendMs := 0, fleeAttempts := 0
    myNodeNum := 0, lastRecvMs := 0, peerReady := false, peerReadyTimeoutMs := 0
    myTbName := [], peerTbName := []
    pendingMyParty := .empty, pendingClientParty := .empty, pendingServerParty := .empty
    lastChallengeMs := 0, challengeTries := 0, awaitingAccept := false
    updateSeq := 0, unackedUpdate := false, pendingKeyExit := false, finishedAtMs := 0
    lastUpdateSendMs := 0, lastUpdate := none
    clientActionType := 0xFF, clientActionIndex := 0, clientActionTurn := 0
    lastClientActionSendMs := 0, lastAppliedUpdateSeq := 0, clientNeedsFullState := false
    awaitingFirstUpdate := false, lastAcceptSendMs := 0, awaitingUpdateSinceMs := 0
    preAcceptUpdate := none, clientTurn := 0, sent := [] }

/-- A call from the firmware's loop. -/
inductive Input where
  | packet (fromId : UInt32) (buf : List UInt8)
  | key (c : UInt8)
  | tick (nowMs : UInt32)

def step (t : TextBattle) (i : Env × Input) : Except Fault TextBattle :=
  match i.2 with
  | .packet fromId buf => .ok (t.handlePacket i.1 fromId buf).2
  | .key c => t.handleKey i.1 c
  | .tick nowMs => t.tick i.1 nowMs

end TextBattle
end MonsterMesh
