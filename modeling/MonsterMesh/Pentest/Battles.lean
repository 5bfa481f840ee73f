import Mathlib.Data.Nat.Bitwise
import MonsterMesh.Pentest.Lite

/-! The battles of the pentest module, and who books them. -/
namespace MonsterMesh

/-- `Gen1BattleEngine::Result`; `battleResult` numbers them in this order. -/
inductive EngineResult where
  | ongoing | p1Win | p2Win | draw
deriving DecidableEq

structure PikachuPeer where
  (nodeId lastSeenSec : UInt32)
  level : UInt8
  (wins losses : UInt16)

/-- A broadcast result, without the levels. -/
structure PikachuPvpResult where
  (challenger challenged winner : UInt32)
  turns : ℕ
  rngSeed : UInt32
deriving DecidableEq

/-- The rounds against the party of a peer. -/
structure PvpGauntlet where
  active : Bool
  (round totalRounds : ℕ)
deriving DecidableEq

/-- What a fight was started for. -/
inductive FightKind where
  | wild
  | gym (g : ℕ)
  | pvp (peerNodeId : UInt32)
deriving DecidableEq

/-- The variables around a battle, without texts and levels: the queued log lines are counted. Beside them are
how many fights were started, what the last one was started for, whether it was booked, and the results that
were sent. -/
structure Pentest where
  battleInProgress : Bool
  battleResult : EngineResult
  battleGymIdx : ℕ
  (pentestWins pentestLosses : ℕ)
  gymBeaten : ℕ
  pendingFightCount : ℕ
  (pvpPeerNodeId pvpRngSeed : UInt32)
  pikaPeers : Fin 8 → PikachuPeer
  daycareLite : DaycareLite
  result : EngineResult
  turn : ℕ
  (nextTurnMs battleEndedMs nextLineMs : UInt32)
  logQueueCount : ℕ
  gauntlet : PvpGauntlet
  pvpProtected : Bool
  fights : ℕ
  fight : Option FightKind
  booked : Bool
  sent : List PikachuPvpResult

/-- What a call meets: the time, the dice of an encounter, the outcome of a turn and its lines, and whether a
packet can be allocated. -/
structure Luck where
  millis : UInt32
  roll : ℕ
  outcome : EngineResult
  lines : ℕ
  allocates : Bool

namespace Pentest

/-- After a boot, with what was saved. -/
def boot (wins losses gymBeaten : ℕ) (peers : Fin 8 → PikachuPeer) : Pentest :=
  { battleInProgress := false, battleResult := .ongoing, battleGymIdx := 0, pentestWins := wins
    pentestLosses := losses, gymBeaten := gymBeaten, pendingFightCount := 0, pvpPeerNodeId := 0
    pvpRngSeed := 0, pikaPeers := peers, daycareLite := .empty, result := .ongoing, turn := 0, nextTurnMs := 0
    battleEndedMs := 0, nextLineMs := 0, logQueueCount := 0, gauntlet := ⟨false, 0, 0⟩, pvpProtected := false
    fights := 0, fight := none, booked := true, sent := [] }

variable (nodeNum : UInt32) (x : Luck) (s : Pentest)

def logQueueMax : ℕ := 12
def lineDrainMs : UInt32 := 600
def gauntletGymCount : ℕ := 8

def battleLogQueue (lines : ℕ) : Pentest :=
  { s with logQueueCount := min logQueueMax (s.logQueueCount + lines) }

/-! ### Starts -/

/-- `__builtin_popcount` of the beaten gyms. -/
def gymsBeaten : ℕ := ((List.range 8).filter fun g => s.gymBeaten.testBit g).length

/-- A new battle of the engine. -/
def engineStart (kind : FightKind) : Pentest :=
  { s with
    battleResult := .ongoing, battleInProgress := true, result := .ongoing, turn := 0
    nextTurnMs := x.millis + 2000, battleEndedMs := 0, logQueueCount := 0, nextLineMs := 0
    fights := s.fights + 1, fight := some kind, booked := false }

/-- The leader of the next gym, or a wild one. -/
def triggerEncounter : Pentest :=
  if x.roll < 85 then battleLogQueue (engineStart x { s with battleGymIdx := 255 } .wild) 2
  else
    let gIdx := if gauntletGymCount ≤ gymsBeaten s then gauntletGymCount - 1 else gymsBeaten s
    battleLogQueue (engineStart x { s with battleGymIdx := gIdx } (.gym gIdx)) 2

def triggerBattle : Pentest :=
  if s.pvpProtected then s
  else if s.battleInProgress ∧ s.battleResult = .ongoing then
    if s.pendingFightCount < 4 then { s with pendingFightCount := s.pendingFightCount + 1 } else s
  else triggerEncounter x s

/-- The neighbour of the daycare whose party a peer fights with. -/
def gauntletFor (peerNodeId : UInt32) : PvpGauntlet :=
  match (List.finRange 16).find? fun i => (s.daycareLite.list i).nodeId = peerNodeId ∧
    0 < (s.daycareLite.list i).partyCount with
  | some i =>
    let partyCount := (s.daycareLite.list i).partyCount.toNat
    if 1 < partyCount then ⟨true, 0, if 6 < partyCount then 6 else partyCount⟩ else ⟨false, 0, 0⟩
  | none => ⟨false, 0, 0⟩

/-- A fight that is going on is given up. -/
def preempt : Pentest :=
  if s.battleInProgress then
    { s with
      battleInProgress := false, battleResult := .ongoing, battleEndedMs := 0, logQueueCount := 0
      nextLineMs := 0, nextTurnMs := 0, pendingFightCount := 0 }
  else s

def triggerPvpBattle (peerNodeId : UInt32) : Pentest :=
  let s := preempt s
  if (List.finRange 8).any fun i => (s.pikaPeers i).nodeId = peerNodeId then
    let s := { s with
      gauntlet := gauntletFor s peerNodeId, pvpProtected := true, pendingFightCount := 0
      pvpPeerNodeId := peerNodeId, pvpRngSeed := x.millis ^^^ nodeNum ^^^ peerNodeId }
    battleLogQueue (engineStart x s (.pvp peerNodeId)) 2
  else s

/-- The user chooses a peer from the list of those that are there. -/
def challenge (slot : Fin 8) : Pentest :=
  if (s.pikaPeers slot).nodeId ≠ 0 then triggerPvpBattle nodeNum x s (s.pikaPeers slot).nodeId else s

/-! ### Ends -/

def sendPvpResult (winnerNodeId : UInt32) : Pentest :=
  if s.pvpPeerNodeId = 0 ∨ !x.allocates then s
  else { s with sent := s.sent ++ [{
    challenger := nodeNum, challenged := s.pvpPeerNodeId, winner := winnerNodeId
    turns := s.turn % 2 ^ 16, rngSeed := s.pvpRngSeed }] }

/-- A battle is booked at its end. -/
def book : Pentest :=
  let s := { s with
    gauntlet.active := false, battleEndedMs := x.millis, battleResult := s.result, booked := true }
  let s := battleLogQueue s 1
  let s :=
    if s.battleResult = .p1Win then
      { s with
        pentestWins := (s.pentestWins + 1) % 2 ^ 16
        gymBeaten := if s.battleGymIdx < 8 then s.gymBeaten ||| 1 <<< s.battleGymIdx else s.gymBeaten }
    else if s.battleResult = .p2Win then { s with pentestLosses := (s.pentestLosses + 1) % 2 ^ 16 }
    else s
  if s.pvpPeerNodeId ≠ 0 then
    let winner := if s.battleResult = .p1Win then nodeNum
      else if s.battleResult = .p2Win then s.pvpPeerNodeId else 0
    { sendPvpResult nodeNum x s winner with pvpPeerNodeId := 0 }
  else s

/-- The result screen is over, and a queued fight begins. -/
def endLinger : Pentest :=
  let s := { s with battleInProgress := false, pvpProtected := false }
  if 0 < s.pendingFightCount then triggerBattle x { s with pendingFightCount := s.pendingFightCount - 1 } else s

def endBattle : Pentest :=
  let s := if s.battleEndedMs = 0 then book nodeNum x s else s
  if x.millis - s.battleEndedMs > 9500 then endLinger x s else s

def drainLine : Pentest :=
  if 0 < s.logQueueCount ∧ s.nextLineMs ≤ x.millis then
    { s with logQueueCount := s.logQueueCount - 1, nextLineMs := x.millis + lineDrainMs }
  else s

/-- Another of the peer's party takes over from the one that was beaten. -/
def nextRound : Pentest :=
  battleLogQueue { s with
    gauntlet.round := s.gauntlet.round + 1, result := .ongoing, nextTurnMs := x.millis + 2500
    nextLineMs := x.millis } 3

def playTurn : Pentest :=
  battleLogQueue { s with
    result := x.outcome, turn := s.turn + 1, nextTurnMs := x.millis + 2000, nextLineMs := x.millis } x.lines

/-- A round was won and there is another. -/
def anotherRound : Bool :=
  s.result = .p1Win && s.gauntlet.active && s.gauntlet.round + 1 < s.gauntlet.totalRounds

def battleTick : Pentest :=
  if !s.battleInProgress then s
  else
    let s := drainLine x s
    if anotherRound s ∧ s.battleEndedMs = 0 then if 0 < s.logQueueCount then s else nextRound x s
    else if s.result ≠ .ongoing then endBattle nodeNum x s
    else if 0 < s.logQueueCount then s
    else if x.millis < s.nextTurnMs then s
    else playTurn x s

/-! ### Packets -/

/-- Slot 0 of the peers. -/
def firstSlot : Fin 8 := (Fin.last 7).rev

/-- The loop of `pikaPeerUpsert` over the slots. -/
def scanPeers (nodeId : UInt32) : List (Fin 8) → UInt32 → Fin 8 → Fin 8
  | [], _, oldestSlot => oldestSlot
  | i :: is, oldestSeen, oldestSlot =>
    if (s.pikaPeers i).nodeId = nodeId ∨ (s.pikaPeers i).nodeId = 0 then i
    else if (s.pikaPeers i).lastSeenSec < oldestSeen then scanPeers nodeId is (s.pikaPeers i).lastSeenSec i
    else scanPeers nodeId is oldestSeen oldestSlot

def pikaPeerUpsert (p : PikachuPeer) : Pentest :=
  let slot := scanPeers s p.nodeId (List.finRange 8) (s.pikaPeers firstSlot).lastSeenSec firstSlot
  { s with pikaPeers := Function.update s.pikaPeers slot p }

inductive Packet where
  | pvpResult (r : PikachuPvpResult)
  | daycareBeacon (b : DaycareBeacon)
  | pikachuBeacon (p : PikachuPeer)

def handleReceived (nowSec : UInt32) : Packet → Pentest
  | .pvpResult r =>
    if r.challenged = nodeNum ∧ r.challenger ≠ nodeNum then
      if r.winner = nodeNum then { s with pentestWins := (s.pentestWins + 1) % 2 ^ 16 }
      else if r.winner = r.challenger then { s with pentestLosses := (s.pentestLosses + 1) % 2 ^ 16 }
      else s
    else s
  | .daycareBeacon b =>
    if b.nodeId ≠ nodeNum then
      let level := if 0 < b.partyCount then (b.pokemon (Fin.ofNat 6 0)).level else 5
      pikaPeerUpsert { s with daycareLite := s.daycareLite.handleBeacon b nowSec }
        { nodeId := b.nodeId, lastSeenSec := nowSec, level := level, wins := 0, losses := 0 }
    else s
  | .pikachuBeacon p => if p.nodeId = nodeNum then s else pikaPeerUpsert s { p with lastSeenSec := nowSec }

inductive Event where
  | trigger (x : Luck)
  | challenge (x : Luck) (slot : Fin 8)
  | received (nowSec : UInt32) (p : Packet)
  | tick (x : Luck)

def step : Event → Pentest
  | .trigger x => triggerBattle x s
  | .challenge x slot => challenge nodeNum x s slot
  | .received nowSec p => handleReceived nodeNum s nowSec p
  | .tick x => battleTick nodeNum x s

end Pentest
end MonsterMesh
