import MonsterMesh.Battle.Device

/-! The calls that open a battle without a challenge: over the lockstep wire, and against the
computer. -/
namespace MonsterMesh

open Bytes

/-- The opponent's nicknames with its tag in front: `"%.4s-%.5s"`. -/
def BattleParty.tag (p : BattleParty) (theirTag : CStr) : BattleParty :=
  if theirTag = [] then p
  else
    { p with mons := fun i =>
        if i.val < p.count.val then
          { p.mons i with nickname := theirTag.take 4 ++ cstr "-" ++ (p.mons i).nickname.take 5 }
        else p.mons i }

def Xp.restart : Xp := ⟨1, 0, true, 0, fun _ => 0, fun _ => 0⟩

namespace TextBattle

variable (t : TextBattle) (env : Env)

def startPacket (rngSeed : UInt32) (myParty : Gen1Party) : Packet :=
  ⟨textBattleStart, t.session, 0, be32 rngSeed ++ [1, myParty.count] ++
    (List.range 8).map fun i => myParty.species ⟨i % 7, Nat.mod_lt _ (by omega)⟩⟩

def sendReady : TextBattle := t.send ⟨textBattleReady, t.session, 0, []⟩

/-- The parties of a lockstep battle; without the opponent's own party it is mirrored. -/
def lockstepEngine (myParty oppParty : Gen1Party) (rngSeed : UInt32) : Engine :=
  (t.engine.start myParty (if 0 < oppParty.count then oppParty else myParty) rngSeed 3).heal

def startNetworkedAsInitiator (remoteId : UInt32) (myParty oppParty : Gen1Party)
    (existingSeed : UInt32) (existingSession : UInt16) : TextBattle :=
  let session := if existingSession ≠ 0 then existingSession else env.millis.toUInt16
  let rngSeed :=
    if existingSeed ≠ 0 then existingSeed else env.random ^^^ remoteId ^^^ session.toUInt32
  let t := { t with
    engine := t.lockstepEngine myParty oppParty rngSeed
    log := { t.log with head := 0 }
    mode := .networked, phase := .waitRemote, remoteId := remoteId, session := session
    peerReady := false, cursor := 0, switchCursor := 0, pendingRemoteAction := false }
  let t := if existingSeed = 0 then t.send (t.startPacket rngSeed myParty) else t
  let t := (t.appendLog "Battle ready — waiting for peer…").onScene (·.handleFaints)
  { t with
    phase := if t.engine.result = .ongoing then .waitPeerReady else t.phase
    lastRecvMs := env.millis, peerReadyTimeoutMs := env.millis + 10000 }

def startNetworkedAsReceiver (remoteId : UInt32) (myParty : Gen1Party) (rngSeed : UInt32)
    (oppParty : Gen1Party) (existingSession : UInt16) : TextBattle :=
  let t := { t with
    engine := t.lockstepEngine myParty oppParty rngSeed
    log := { t.log with head := 0 }
    mode := .networked, phase := .waitAction, remoteId := remoteId, session := existingSession
    cursor := 0, switchCursor := 0 }
  ({ t.appendLog "Battle started!" with
    lastRecvMs := env.millis, peerReady := true } : TextBattle).sendReady.sendHash

def startLocal (myParty cpuParty : Gen1Party) (theirTag : CStr) : TextBattle :=
  let e := t.engine.start myParty cpuParty (env.millis ^^^ env.random) 3
  ({ t with
    engine := (e.setParty .one ((e.p .one).tag theirTag)).heal
    log := { t.log with head := 0 }
    playerWon := false
    xp := Xp.restart
    mode := .localRoguelike, phase := .waitAction, remoteId := 0
    cursor := 0, switchCursor := 0, fleeAttempts := 0 } : TextBattle).appendLog
      "A wild battle begins!"

/-- The next trainer of a gauntlet; the own party keeps its state. -/
def nextOpponent (cpu : Gen1Party) (theirTag : CStr) : TextBattle :=
  let e := t.engine.replaceOpponent cpu
  ({ t with
    engine := e.setParty .one ((e.p .one).tag theirTag).heal
    mode := .localRoguelike, phase := .waitAction, pendingRemoteAction := false
    cursor := 0, switchCursor := 0 } : TextBattle).appendLog "Next trainer steps up!"

/-! A server that has challenged node 7, at time 0. -/

def clock : Env := ⟨0, 0⟩

def challenger : TextBattle := fresh.startServerAuthAsInitiator clock 7 (soloParty 0x99 33 0) []

def joinPacket : Packet :=
  ⟨textBattleAccept, 7, 0, [1, 0] ++ packPartyMinTb (soloParty 0xB0 33 0)⟩

/-- Node 7, with the challenge on its screen. -/
def joiner : TextBattle :=
  ((fresh.setMyTbParty (soloParty 0xB0 33 0) []).handlePacket clock 1 challenger.challengePacket.bytes).2

def fleePacket : Packet := ⟨textBattleActionV2, 7, 0, [0, 2, 0, 1]⟩

end TextBattle
end MonsterMesh

/-! All the calls of the firmware on one text battle: packets, keys and ticks, the ways to open a battle,
and what the module does between two fights. -/
namespace MonsterMesh

/-- HP and status of every mon restored; PP stays. -/
def BattleParty.restoreHp (p : BattleParty) : BattleParty :=
  { p with mons := fun i =>
      if i.val < p.count.val then { p.mons i with hp := (p.mons i).maxHp, status := 0 } else p.mons i }

namespace TextBattle

variable (t : TextBattle)

def healPlayer : TextBattle :=
  (t.onScene fun s => s.setParty .zero (s.engine.p .zero).restoreHp).appendLog "HP restored."

def markPeerReady : TextBattle :=
  { t with peerReady := true, phase := if t.phase = .waitPeerReady then .waitAction else t.phase }

/-- `consumePendingXp`: the experience of each slot since the last call. -/
def consumePendingXp : (Fin 6 → UInt32) × TextBattle :=
  (t.xp.pendingXpPerSlot,
    t.onScene fun s => { s with xp := { s.xp with pendingXpPerSlot := fun _ => 0, pendingXpDrops := 0 } })

/-- A call of the firmware on its text battle. -/
inductive Call where
  | input (i : Input)
  | startLocal (mine cpu : Gen1Party) (theirTag : CStr)
  | nextOpponent (cpu : Gen1Party) (theirTag : CStr)
  | startNetworkedAsInitiator (remoteId : UInt32) (mine opp : Gen1Party) (seed : UInt32) (session : UInt16)
  | startNetworkedAsReceiver (remoteId : UInt32) (mine : Gen1Party) (seed : UInt32) (opp : Gen1Party)
      (session : UInt16)
  | startServerAuthAsInitiator (remoteId : UInt32) (mine : Gen1Party) (name : CStr)
  | setMyTbParty (mine : Gen1Party) (name : CStr)
  | healPlayer
  | markPeerReady
  | consumePendingXp
  | exit

def call (env : Env) : Call → Except Fault TextBattle
  | .input i => t.step (env, i)
  | .startLocal mine cpu theirTag => .ok (t.startLocal env mine cpu theirTag)
  | .nextOpponent cpu theirTag => .ok (t.nextOpponent cpu theirTag)
  | .startNetworkedAsInitiator remoteId mine opp seed session =>
    .ok (t.startNetworkedAsInitiator env remoteId mine opp seed session)
  | .startNetworkedAsReceiver remoteId mine seed opp session =>
    .ok (t.startNetworkedAsReceiver env remoteId mine seed opp session)
  | .startServerAuthAsInitiator remoteId mine name => .ok (t.startServerAuthAsInitiator env remoteId mine name)
  | .setMyTbParty mine name => .ok (t.setMyTbParty mine name)
  | .healPlayer => .ok t.healPlayer
  | .markPeerReady => .ok t.markPeerReady
  | .consumePendingXp => .ok t.consumePendingXp.2
  | .exit => .ok t.exit

end TextBattle
end MonsterMesh
