import MonsterMesh.Gym.Parties
import MonsterMesh.Wire.Packet

/-! The state of a gym node: what it keeps on flash, its ladders, and the records of its players. -/
namespace MonsterMesh

open Text

/-! ### Limits -/

def gauntletPrevMax : ℕ := 4
def gauntletNameMax : ℕ := 16
def gauntletBadgeMax : ℕ := 16
def gauntletSessionTtl : UInt32 := 600
def adminClaimWindowMs : UInt32 := 120000
def ladderIdleMs : UInt32 := 600000

/-- The node number of a leader that is no player. -/
def npcLeader : UInt32 := 0xFFFFFFFE

structure GauntletTrainer where
  nodeNum : UInt32
  name : CStr
  party : Gen1Party
  timestamp : UInt32

def GauntletTrainer.zero : GauntletTrainer := ⟨0, [], .zero, 0⟩

/-- What a gym keeps on flash. -/
structure GauntletState where
  gymName : CStr
  gymBadge : CStr
  leader : GauntletTrainer
  rosterSize : UInt8
  prevLeaders : List GauntletTrainer
  totalChallenges : UInt32
  totalBattles : UInt32
  lastUpdate : UInt32
  gymPresetIdx : UInt8
  memberLevels : Fin 5 → UInt8
  adminNodeNum : UInt32
  autoEnabled : Bool
  autoSlots : Fin 5 → UInt8 × UInt8
  autoLeaderLevel : UInt8

/-- The record of a player. -/
structure GauntletProfile where
  name : CStr
  totalChallenges : UInt32
  totalWins : UInt32
  totalLosses : UInt32
  gymTitles : UInt8
  bestRank : UInt8
  reachedLeader : Bool
  lastSeen : UInt32
  lastParty : CStr

def GauntletProfile.zero : GauntletProfile := ⟨[], 0, 0, 0, 0, 0, false, 0, []⟩

/-- The progress of one challenger. Node number 0 is an empty slot. -/
structure GauntletLadderProgress where
  nodeNum : UInt32
  ladderIdx : UInt8
  lastSeenMs : UInt32

structure GauntletSession where
  nodeNum : UInt32
  lastActivity : UInt32

/-- The gym node: the first part is lost with the power, `flash` and `profiles` are not. -/
structure Gauntlet where
  state : GauntletState
  sessions : Fin 4 → GauntletSession
  ladders : Fin 8 → GauntletLadderProgress
  adminClaimUntilMs : UInt32
  flash : Option GauntletState
  profiles : UInt32 → Option GauntletProfile

/-- What a call reads from outside: the milliseconds since boot, of which the counter of the firmware
shows the low 32 bits, the clock, the random numbers, the names of the nodes. -/
structure GymEnv where
  now : ℕ
  time : UInt32
  rolls : ℕ → ℕ
  shortName : UInt32 → CStr
  self : UInt32

def GymEnv.millis (env : GymEnv) : UInt32 := UInt32.ofNat env.now

/-- `getFrom`: the local client sends as node 0. -/
def GymEnv.getFrom (env : GymEnv) (fromId : UInt32) : UInt32 := if fromId = 0 then env.self else fromId

namespace Gauntlet

variable (g : Gauntlet) (env : GymEnv)

/-- `gauntletSave(state_)` -/
def save : Gauntlet := { g with flash := some g.state }

/-- A change of the gym that is stamped and saved. -/
def commit (f : GauntletState → GauntletState) : Gauntlet :=
  ({ g with state := { f g.state with lastUpdate := env.time } } : Gauntlet).save

/-! ### Ladders -/

def lookupLadder (nodeNum : UInt32) : Option (Fin 8) :=
  if nodeNum = 0 then none else (List.finRange 8).find? fun i => (g.ladders i).nodeNum = nodeNum

def expireLadders : Gauntlet :=
  { g with ladders := fun i =>
      let e := g.ladders i
      if e.nodeNum = 0 then e
      else if ladderIdleMs < env.millis - e.lastSeenMs then ⟨0, 0, e.lastSeenMs⟩ else e }

def setLadder (i : Fin 8) (e : GauntletLadderProgress) : Gauntlet :=
  { g with ladders := Function.update g.ladders i e }

local instance (priority := 1200) ladderCount_neZero : @NeZero Nat Zero.ofOfNat0 8 := Nat.instNeZeroSucc

/-- The slot seen longest ago, by the raw counter. -/
def oldestLadder : Fin 8 :=
  ((List.finRange 8).foldl (fun best i =>
    if (g.ladders i).lastSeenMs < best.2 then (i, (g.ladders i).lastSeenMs) else best)
      ((0 : Fin 8), (0xFFFFFFFF : UInt32))).1

/-- The slot of a node, with the ring after the call; a node without one gets one, unless it is node
0. -/
def lookupOrInsertLadder (nodeNum : UInt32) : Option (Fin 8) × Gauntlet :=
  if nodeNum = 0 then (none, g)
  else
    match g.lookupLadder nodeNum with
    | some i => (some i, g)
    | none =>
      let g := g.expireLadders env
      let i := ((List.finRange 8).find? fun i => (g.ladders i).nodeNum = 0).getD g.oldestLadder
      (some i, g.setLadder i ⟨nodeNum, 0, env.millis⟩)

/-! ### Profiles -/

/-- `gauntletProfileUpdate` -/
def profileUpdate (nodeNum : UInt32) (name partyCsv : CStr) (challengeStarted ranked : Bool)
    (rankAchieved : UInt8) (becameLeader reachedLeader : Bool) : Gauntlet :=
  if nodeNum = 0 then g
  else
    let p := (g.profiles nodeNum).getD .zero
    let p : GauntletProfile :=
      { p with
        name := if name ≠ [] then name.take (gauntletNameMax - 1) else p.name
        lastParty := if partyCsv ≠ [] then partyCsv.take 63 else p.lastParty
        totalChallenges := if challengeStarted then p.totalChallenges + 1 else p.totalChallenges
        gymTitles := if becameLeader then p.gymTitles + 1 else p.gymTitles
        totalWins := if becameLeader then p.totalWins + 1 else p.totalWins
        totalLosses := if !becameLeader && ranked then p.totalLosses + 1 else p.totalLosses
        reachedLeader := reachedLeader || p.reachedLeader
        bestRank :=
          if becameLeader then 1
          else if ranked ∧ 0 < rankAchieved ∧ (p.bestRank = 0 ∨ rankAchieved < p.bestRank) then
            rankAchieved
          else p.bestRank
        lastSeen := env.time }
    { g with profiles := Function.update g.profiles nodeNum (some p) }

end Gauntlet
end MonsterMesh

/-! What a gym serves: one trainer party a request, or the five parties of the ladder in one packet. -/
namespace MonsterMesh

open Text

def bbsPing : UInt8 := 0x70
def bbsFightRequest : UInt8 := 0x72
def bbsFightResult : UInt8 := 0x73
def bbsLadderRequest : UInt8 := 0x74
def bbsLadderNames : UInt8 := 0x75
def bbsLadderParties : UInt8 := 0x76

namespace GauntletState

variable (s : GauntletState)

/-! ### One party a request -/

/-- The level the leader slot is scaled to. -/
def leaderScale : UInt8 :=
  if s.memberLevels 4 = 0 ∧ s.autoLeaderLevel ≠ 0 then s.autoLeaderLevel else s.memberLevels 4

/-- `buildGymBattleParty`; `out` is the caller's buffer, which nobody has written yet. -/
def buildGymBattleParty (out : Gen1Party) : Gen1Party :=
  if s.leader.nodeNum ≠ 0 ∧ s.leader.nodeNum ≠ npcLeader then s.leader.party
  else
    let out :=
      if s.autoEnabled then
        ((autoLookupTrainer (s.autoSlots 4).1 (s.autoSlots 4).2 s.leaderScale).map (·.party)).getD out
      else out
    if s.autoEnabled ∧ 0 < out.count then out
    else if 0 < s.leader.party.count then s.leader.party
    else gauntletBuildE4Party 0

/-- `buildLadderTrainerParty` -/
def buildLadderTrainerParty (out : Gen1Party) (idx : UInt8) : Gen1Party :=
  if idx = 4 then s.buildGymBattleParty out
  else
    if h : s.autoEnabled = true ∧ idx.toNat < 5 then
      let slot := s.autoSlots ⟨idx.toNat, h.2⟩
      let out := ((autoLookupTrainer slot.1 slot.2 (s.memberLevels ⟨idx.toNat, h.2⟩)).map
        (·.party)).getD out
      if 0 < out.count then out else s.buildGymBattleParty out
    else s.buildGymBattleParty out

/-! ### The whole ladder -/

structure LadderMonWire where
  (dex level : UInt8)
  moves : Fin 4 → UInt8

def LadderMonWire.bytes (m : LadderMonWire) : List UInt8 :=
  [m.dex, m.level, m.moves 0, m.moves 1, m.moves 2, m.moves 3]

/-- `buildSlot`: the mons of a slot as they go out. The moves come from a copy of the default
table. -/
def buildSlot (idx : Fin 5) : List LadderMonWire :=
  if s.autoEnabled then
    let (source, trainer) := s.autoSlots idx
    let scaleTo :=
      if idx = gauntletGymLeaderIdx ∧ s.memberLevels idx = 0 then s.autoLeaderLevel
      else s.memberLevels idx
    if source < gauntletGymCount then
      match (gauntletGymPreset source).bind (·.trainers[trainer.toNat]?) with
      | none => []
      | some tr =>
        let canonBoss := if bossLevel tr.party = 0 then 1 else bossLevel tr.party
        ((tr.party.filter (·.dex ≠ 0)).take 6).map fun m =>
          ⟨m.dex, scaledLevel scaleTo canonBoss m.level, m.presetMoves⟩
    else if source = 8 then
      match elitePool[trainer.toNat]? with
      | none => []
      | some e =>
        let canonBoss := if e.bossLevel = 0 then 1 else e.bossLevel
        (e.party.take 6).map fun m =>
          ⟨m.1, scaledLevel scaleTo canonBoss m.2, pickDefaultMoves m.1⟩
    else []
  else []

/-- The slots behind offset `off`; the loop ends at the first that does not fit. -/
def packSlots (off : ℕ) : List (List LadderMonWire) → List UInt8
  | [] => []
  | mons :: rest =>
    if battlelinkMaxPayload < off + 1 + mons.length * 6 then []
    else
      UInt8.ofNat mons.length :: mons.flatMap LadderMonWire.bytes ++
        packSlots (off + 1 + mons.length * 6) rest

def ladderPartiesPayload : List UInt8 := 5 :: packSlots 1 ((List.finRange 5).map s.buildSlot)

def trainerName (idx : Fin 5) : CStr :=
  if s.autoEnabled then
    let (source, trainer) := s.autoSlots idx
    if source < gauntletGymCount then
      (((gauntletGymPreset source).bind (·.trainers[trainer.toNat]?)).map fun tr => cstr tr.name).getD
        (cstr "?")
    else if source = 8 then (elitePool[trainer.toNat]?.map fun e => cstr e.name).getD (cstr "?")
    else cstr "?"
  else cstr "?"

/-- A string of at most 16 bytes behind its length. -/
def lenPrefixed (name : CStr) : List UInt8 :=
  UInt8.ofNat (name.take 16).length :: name.take 16

def packNames (off : ℕ) : List CStr → List UInt8
  | [] => []
  | name :: rest =>
    if battlelinkMaxPayload < off + (lenPrefixed name).length then []
    else lenPrefixed name ++ packNames (off + (lenPrefixed name).length) rest

/-- The five names, then the name of the gym and its badge where they fit. -/
def ladderNamesPayload : List UInt8 :=
  let names := 5 :: packNames 1 ((List.finRange 5).map s.trainerName)
  let tail := lenPrefixed s.gymName ++ lenPrefixed s.gymBadge
  if names.length + tail.length ≤ battlelinkMaxPayload then names ++ tail else names

end GauntletState
end MonsterMesh
