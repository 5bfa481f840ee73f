import MonsterMesh.Gym.State
import MonsterMesh.Lib.Run

/-! The battle packets of a gym: fights asked for, fights reported, and the leader they make. -/
namespace MonsterMesh

open Text

/-- The packets a gym answers with. A party goes out in chunks. -/
inductive GymReply where
  | bbsReply
  | party (session : UInt16) (p : Gen1Party)
  | packet (p : Packet)

namespace Gauntlet

variable (g : Gauntlet) (env : GymEnv)

/-- `promoteToLeader`, for a challenger that is said to have played `party`. -/
def promoteToLeader (fromId : UInt32) (party : Gen1Party) : Gauntlet :=
  let nodeNum := env.getFrom fromId
  let name := env.shortName nodeNum
  let s := g.state
  let prevLeaders :=
    if s.leader.nodeNum ≠ 0 then (s.leader :: s.prevLeaders).take gauntletPrevMax else s.prevLeaders
  let g : Gauntlet :=
    { g with state := { s with
        prevLeaders := prevLeaders
        leader := ⟨nodeNum, name.take (gauntletNameMax - 1), party, env.time⟩
        rosterSize := 0
        lastUpdate := env.time } }
  (g.profileUpdate env nodeNum name (gauntletFormatParty party 64) false false 0 true true).save

/-- The name in a result, or the short name of the sender. -/
def resultName (fromId : UInt32) (rest : List UInt8) : CStr :=
  let name : CStr :=
    match rest with
    | [] => []
    | nameLen :: bytes => ((bytes.take nameLen.toNat).take (gauntletNameMax - 1)).takeWhile (· ≠ 0)
  if name = [] then (env.shortName fromId).take (gauntletNameMax - 1) else name

/-- The slot of a ladder, moved to trainer `ladderIdx` and seen now. -/
def touchLadder (p : Option (Fin 8)) (ladderIdx : UInt8) : Gauntlet :=
  match p with
  | none => g
  | some i => g.setLadder i { g.ladders i with ladderIdx := ladderIdx, lastSeenMs := env.millis }

/-- A fight that ended the challenge: won against the leader, or lost. -/
def endChallenge (fromId : UInt32) (outcome : UInt8) (name : CStr) : Gauntlet :=
  if outcome = 1 then
    -- the party on record is the gym's own: the challenger's is not on the wire
    let party := g.state.buildGymBattleParty .zero
    let g := g.promoteToLeader env fromId party
    g.profileUpdate env fromId name (gauntletFormatParty party 64) true false 0 true true
  else g.profileUpdate env fromId name [] true false 0 false false

/-- `BBS_FIGHT_RESULT` -/
def handleResult (fromId : UInt32) : List UInt8 → Gauntlet
  | [] => g
  | outcome :: rest =>
    let name := resultName env fromId rest
    let (p, g) := g.lookupOrInsertLadder env fromId
    let idx := (p.map fun i => (g.ladders i).ladderIdx).getD 4
    if outcome = 1 ∧ idx < 4 then
      let g := g.touchLadder env p (idx + 1)
      ({ g with state := { g.state with totalBattles := g.state.totalBattles + 1 } } : Gauntlet).save
    else
      let g := (g.endChallenge env fromId outcome name).touchLadder env p 0
      ({ g with state := { g.state with
          totalBattles := g.state.totalBattles + 1
          totalChallenges := g.state.totalChallenges + 1 } } : Gauntlet).save

/-- `BBS_FIGHT_REQUEST`; `out` is what the buffer of the reply holds before it is filled. -/
def handleRequest (fromId : UInt32) (session : UInt16) (out : Gen1Party) : List GymReply × Gauntlet :=
  let (p, g) := g.lookupOrInsertLadder env fromId
  let idx := (p.map fun i => (g.ladders i).ladderIdx).getD 4
  ([.party session (g.state.buildLadderTrainerParty out idx)], g.touchLadder env p idx)

/-- `BBS_LADDER_REQUEST` -/
def ladderReplies (session : UInt16) : List GymReply :=
  [.packet ⟨bbsLadderNames, session, 0, g.state.ladderNamesPayload⟩,
    .packet ⟨bbsLadderParties, session, 1, g.state.ladderPartiesPayload⟩]

/-- `handleBattlePacket` -/
def handleBattlePacket (fromId : UInt32) (p : Packet) (out : Gen1Party) : List GymReply × Gauntlet :=
  if p.type = bbsPing then ([.bbsReply], g)
  else if p.type = bbsFightRequest then g.handleRequest env fromId p.session out
  else if p.type = bbsLadderRequest then (g.ladderReplies p.session, g)
  else if p.type = bbsFightResult then ([], g.handleResult env fromId p.payload)
  else ([], g)

end Gauntlet
end MonsterMesh

/-! The other ways to change a gym: text messages, the menu on the device, the boot. -/
namespace MonsterMesh

open Text

/-! ### What is typed -/

/-- A byte that ends a prefix or a bare command. -/
def wordEnd (s : Str) : Bool :=
  match s with
  | [] => true
  | c :: _ => isBlank c || c = 10 || c = 13

/-- The length of the prefix that addresses the gym, or 0. -/
def matchPrefix (s : Str) : ℕ :=
  let off := if s.head? = some 33 then 1 else 0
  let r := s.drop off
  if (hasPrefix (cstr "mmg") r || hasPrefix (cstr "gym") r || hasPrefix (cstr "bbs") r) &&
      wordEnd (r.drop 3) then off + 3
  else 0

def isHelpAlias (s : Str) : Bool :=
  sameText (cstr "help") s || sameText (cstr "list") s || sameText (cstr "ls") s

def commandAliases : List CStr :=
  ["admin", "challenge", "leader", "roster", "records", "profile", "msg", "ping"].map cstr

def isCommandAlias (s : Str) : Bool :=
  commandAliases.any fun c => hasPrefix c s && wordEnd (s.drop c.length)

/-- What follows `admin`. -/
inductive AdminCommand
  | help
  | usage
  | reset
  | name (text : Str)
  | badge (text : Str)
  | gym (args : Str)
  | set (args : Str)
  deriving DecidableEq

/-- A blank at the head. -/
def blankNext (s : Str) : Bool := (s.head?.map isBlank).getD false

def adminCommand (sub : Str) : AdminCommand :=
  if hasPrefix (cstr "reset") sub then .reset
  else if hasPrefix (cstr "set") sub then .set (skipBlanks (sub.drop 3))
  else if hasPrefix (cstr "gym") sub && (sub.length = 3 || blankNext (sub.drop 3)) then
    .gym (skipBlanks (sub.drop 3))
  else if hasPrefix (cstr "help") sub || hasPrefix (cstr "list") sub || sub = [] then .help
  else if hasPrefix (cstr "name") sub && blankNext (sub.drop 4) then .name (skipBlanks (sub.drop 4))
  else if hasPrefix (cstr "badge") sub && blankNext (sub.drop 5) then
    .badge (skipBlanks (sub.drop 5))
  else .usage

/-- What a message asks of the gym. -/
inductive GymCommand
  | status
  | challenge
  | roster
  | leader
  | records
  | msg (body : Str)
  | profile
  | admin (c : AdminCommand)
  | help
  | ping
  | unknown
  deriving DecidableEq

/-- The command `handleCommand` finds. -/
def gymCommand (cmd : Str) : GymCommand :=
  if cmd = [] then .status
  else if hasPrefix (cstr "challenge") cmd then .challenge
  else if hasPrefix (cstr "roster") cmd then .roster
  else if hasPrefix (cstr "leader") cmd then .leader
  else if hasPrefix (cstr "records") cmd then .records
  else if hasPrefix (cstr "msg") cmd && blankNext (cmd.drop 3) then .msg (skipBlanks (cmd.drop 4))
  else if hasPrefix (cstr "profile") cmd then .profile
  else if hasPrefix (cstr "admin") cmd then .admin (adminCommand (skipBlanks (cmd.drop 5)))
  else if hasPrefix (cstr "help") cmd then .help
  else .unknown

/-- The command in the payload of a text message, if it is for the gym. -/
def textCommand (payload : List UInt8) : Option GymCommand :=
  let t := skipBlanks ((payload.take 237).takeWhile (· ≠ 0))
  if matchPrefix t = 0 then
    if isHelpAlias t then some .help
    else if isCommandAlias t then
      some (if hasPrefix (cstr "ping") t then .ping else gymCommand t)
    else none
  else
    let cmd := skipBlanks (t.drop (matchPrefix t))
    some (if hasPrefix (cstr "ping") cmd then .ping else gymCommand cmd)

/-! ### The wizards -/

/-- What a line of the wizard is answered with when it sets nothing. -/
inductive WizardReply
  | pickGym
  | gymOutOfRange
  | pickMember (gymIdx : UInt8)
  | memberOutOfRange
  | pickLevel (gymIdx : UInt8) (memberIdx : Fin 5)
  | levelOutOfRange
  deriving DecidableEq

/-- A level as it is typed; 0 stands for the canonical levels. -/
def typedLevel (s : Str) : Except WizardReply UInt8 :=
  if hasPrefix (cstr "stock") s then .ok 0
  else if atoi s < 1 ∨ 100 < atoi s then .error .levelOutOfRange
  else .ok (UInt8.ofNat (atoi s).toNat)

def typedGym (s : Str) : Except WizardReply UInt8 :=
  if s = [] then .error .pickGym
  else if atoi s < 1 ∨ 8 < atoi s then .error .gymOutOfRange
  else .ok (UInt8.ofNat ((atoi s).toNat - 1))

/-- `admin gym N [L]` -/
def gymArgs (p : Str) : Except WizardReply (UInt8 × UInt8) := do
  let gymIdx ← typedGym p
  let level ← if skipWord p = [] then .ok 0 else typedLevel (skipWord p)
  .ok (gymIdx, level)

def typedMember (gymIdx : UInt8) (s : Str) : Except WizardReply (Fin 5) :=
  if s = [] then .error (.pickMember gymIdx)
  else if h : atoi s < 1 ∨ 5 < atoi s then .error .memberOutOfRange
  else .ok ⟨(atoi s).toNat - 1, by omega⟩

/-- `admin set N M L` -/
def setArgs (args : Str) : Except WizardReply (UInt8 × Fin 5 × UInt8) := do
  let gymIdx ← typedGym args
  let memberIdx ← typedMember gymIdx (skipWord args)
  let rest := skipWord (skipWord args)
  let newLvl ← if rest = [] then .error (.pickLevel gymIdx memberIdx) else typedLevel rest
  .ok (gymIdx, memberIdx, newLvl)

/-! ### The trainers of a gym -/

/-- The trainer of a gym at a place of its ladder. -/
def presetTrainer (gymIdx : UInt8) (m : Fin 5) : Option GymPresetTrainer :=
  (gauntletGymPreset gymIdx).bind (·.trainers[m.val]?)

/-- The canonical level of the strongest mon of a trainer. -/
def canonBoss (gymIdx : UInt8) (m : Fin 5) : UInt8 :=
  ((presetTrainer gymIdx m).map fun tr => bossLevel tr.party).getD 0

/-- The level `admin gym` gives a member when the leader gets `level`. -/
def memberLevel (gymIdx : UInt8) (m : Fin 5) (level : UInt8) : UInt8 :=
  if level = 0 then 0
  else
    let canonLeaderBoss := canonBoss gymIdx gauntletGymLeaderIdx
    scaledLevel level (if canonLeaderBoss = 0 then 1 else canonLeaderBoss) (canonBoss gymIdx m)

def presetLeader (gymIdx : UInt8) (m : Fin 5) (name : String) (level : UInt8) (time : UInt32) :
    GauntletTrainer :=
  ⟨npcLeader, (cstr name).take (gauntletNameMax - 1),
    gauntletBuildPresetTrainerParty gymIdx (UInt8.ofNat m.val) level, time⟩

/-! ### The auto-fill -/

structure GruntRef where
  (gym trainer bossLvl : UInt8)
  deriving DecidableEq

/-- The 32 trainers below the leaders. -/
def gruntPool : List GruntRef :=
  (List.range 8).flatMap fun gym => (List.finRange 5).dropLast.map fun t =>
    ⟨UInt8.ofNat gym, UInt8.ofNat t.val, canonBoss (UInt8.ofNat gym) t⟩

/-- One pick: the place of the picked one is filled by the last. -/
def swapRemove (pool : List GruntRef) (pick : ℕ) : List GruntRef :=
  match pool.getLast? with
  | none => pool
  | some last => (pool.set pick last).dropLast

/-- The picks of the random numbers from `k` on. -/
def pickGrunts (rolls : ℕ → ℕ) (k : ℕ) : ℕ → List GruntRef → List GruntRef
  | 0, _ => []
  | n + 1, pool =>
    let pick := rolls k % pool.length
    match pool[pick]? with
    | none => []
    | some ref => ref :: pickGrunts rolls (k + 1) n (swapRemove pool pick)

/-- One round of the exchange sort: what ends up in front, and the rest. -/
def exchangeRound (x : GruntRef) : List GruntRef → GruntRef × List GruntRef
  | [] => (x, [])
  | y :: rest =>
    if y.bossLvl < x.bossLvl then
      let r := exchangeRound y rest
      (r.1, x :: r.2)
    else
      let r := exchangeRound x rest
      (r.1, y :: r.2)

/-- The exchange sort of the picks, weakest first. -/
def exchangeSort : ℕ → List GruntRef → List GruntRef
  | n + 1, x :: rest =>
    let r := exchangeRound x rest
    r.1 :: exchangeSort n r.2
  | _, l => l

/-- The four picks of an auto-fill. -/
def chosenGrunts (rolls : ℕ → ℕ) : List GruntRef := exchangeSort 4 (pickGrunts rolls 0 4 gruntPool)

/-- Source, index and canonical boss of the leader an auto-fill picks. -/
def chosenLeader (rolls : ℕ → ℕ) : UInt8 × UInt8 × UInt8 :=
  let pickL := UInt8.ofNat (rolls 4 % 13)
  if pickL < 8 then (pickL, 4, canonBoss pickL gauntletGymLeaderIdx)
  else (8, pickL - 8, (elitePool[(pickL - 8).toNat]?.map (·.bossLevel)).getD 0)

/-- A leader stronger than the strongest grunt is scaled down to that level. -/
def leaderOverride (rolls : ℕ → ℕ) : UInt8 :=
  let topGruntBoss := ((chosenGrunts rolls).getLast?.map (·.bossLvl)).getD 0
  if 0 < topGruntBoss ∧ topGruntBoss < (chosenLeader rolls).2.2 then topGruntBoss else 0

namespace GauntletState

variable (s : GauntletState) (env : GymEnv)

/-- The gym an auto-fill makes of `s`. -/
def autoFill : GauntletState :=
  let chosen := chosenGrunts env.rolls
  let (leaderSource, leaderTrainer, _) := chosenLeader env.rolls
  let found := autoLookupTrainer leaderSource leaderTrainer (leaderOverride env.rolls)
  { s with
    autoEnabled := true
    autoSlots := fun i =>
      if i = 4 then (leaderSource, leaderTrainer)
      else ((chosen[i.val]?.map fun ref => (ref.gym, ref.trainer)).getD (s.autoSlots i))
    autoLeaderLevel := leaderOverride env.rolls
    gymName := cstr "MonsterMesh Gym"
    gymBadge := cstr "Random Badge"
    leader :=
      ⟨npcLeader, (cstr ((found.map (·.name)).getD "?")).take (gauntletNameMax - 1),
        (found.map (·.party)).getD .zero, env.time⟩ }

/-- What a reset wipes. -/
def wiped : GauntletState :=
  { s with
    gymPresetIdx := 0xFF
    memberLevels := fun _ => 0
    leader := .zero
    adminNodeNum := 0
    autoEnabled := false
    gymName := cstr "Pallet Gym"
    gymBadge := cstr "Boulder Badge" }

/-- `gymAdminApply`, past its checks. -/
def applied (tr : GymPresetTrainer) (gymIdx : UInt8) (m : Fin 5) (level : UInt8) : GauntletState :=
  let s := { s with
    autoEnabled := true
    autoSlots := Function.update s.autoSlots m (gymIdx, UInt8.ofNat m.val)
    memberLevels := Function.update s.memberLevels m level
    gymPresetIdx := 0xFF }
  if m = gauntletGymLeaderIdx then
    { s with leader := presetLeader gymIdx m tr.name level env.time, autoLeaderLevel := 0 }
  else s

/-- The gym whose preset is adopted: its name and badge, and no levels of its own. -/
def adopted (g : GymPreset) (gymIdx : UInt8) : GauntletState :=
  if s.gymPresetIdx ≠ gymIdx then
    { s with
      gymPresetIdx := gymIdx
      memberLevels := fun _ => 0
      gymName := (cstr g.name ++ cstr " Gym").take (gauntletNameMax - 1)
      gymBadge := (cstr g.badgeName ++ cstr " Badge").take (gauntletBadgeMax - 1) }
  else s

/-- The last step of `admin set`. -/
def wizardSet (g : GymPreset) (gymIdx : UInt8) (m : Fin 5) (newLvl : UInt8) : GauntletState :=
  let s := s.adopted g gymIdx
  let s := { s with memberLevels := Function.update s.memberLevels m newLvl }
  if m = gauntletGymLeaderIdx then
    { s with leader := presetLeader gymIdx m g.leaderName newLvl env.time }
  else s

end GauntletState
end MonsterMesh

/-! A gym over time: the packets and messages it gets, its menu, its sweeps, its reboots. -/
namespace MonsterMesh

open Text

/-- What an `admin` command is answered with. -/
inductive AdminReply
  | menu
  | usage
  | notAuthorized
  | onlyAdmin
  | claimed
  | dropped
  | nameUsage
  | renamed (gymName : CStr)
  | badgeUsage
  | badgeSet (gymBadge : CStr)
  | wizard (r : WizardReply)
  | gymSet (gymIdx level : UInt8)
  | memberSet (gymIdx : UInt8) (m : Fin 5)
  deriving DecidableEq

/-- What `gauntletInitDefaults` makes. -/
def GauntletState.defaults (env : GymEnv) : GauntletState where
  gymName := cstr "Pallet Gym"
  gymBadge := cstr "Boulder Badge"
  leader := .zero
  rosterSize := 0
  prevLeaders := []
  totalChallenges := 0
  totalBattles := 0
  lastUpdate := env.time
  gymPresetIdx := 0xFF
  memberLevels := fun _ => 0
  adminNodeNum := 0
  autoEnabled := false
  autoSlots := fun _ => (0, 0)
  autoLeaderLevel := 0

namespace Gauntlet

variable (g : Gauntlet) (env : GymEnv)

/-! ### Administration -/

def autoSetup : Gauntlet := g.commit env (·.autoFill env)

/-- `isAdminAuthorized`: while the window is open, the first to ask becomes the admin. -/
def isAdminAuthorized (sender : UInt32) : Bool × Gauntlet :=
  if sender = 0 then (false, g)
  else if g.state.adminNodeNum = sender then (true, g)
  else if g.state.adminNodeNum = 0 ∧ g.adminClaimUntilMs ≠ 0 ∧ env.millis < g.adminClaimUntilMs then
    (true, { g.commit env ({ · with adminNodeNum := sender }) with adminClaimUntilMs := 0 })
  else (false, g)

/-- A reset, which leaves an auto-filled gym and an open window. -/
def gymAdminResetAndOpenWindow : Gauntlet :=
  { (g.commit env (·.wiped)).autoSetup env with
    adminClaimUntilMs := env.millis + adminClaimWindowMs }

def gymAdminApply (gymIdx memberIdx level : UInt8) : Gauntlet :=
  if h : memberIdx.toNat < 5 ∧ level ≤ 100 then
    match presetTrainer gymIdx ⟨memberIdx.toNat, h.1⟩ with
    | none => g
    | some tr => g.commit env (·.applied env tr gymIdx ⟨memberIdx.toNat, h.1⟩ level)
  else g

/-- `admin gym N [L]`: the whole gym. -/
def adminGym (gymIdx level : UInt8) : Gauntlet :=
  (List.finRange 5).foldl (fun g m =>
    g.gymAdminApply env gymIdx (UInt8.ofNat m.val) (memberLevel gymIdx m level)) g

/-- `admin set N M L`: one member. -/
def adminSet (gymIdx : UInt8) (m : Fin 5) (newLvl : UInt8) : Gauntlet :=
  match gauntletGymPreset gymIdx with
  | none => g
  | some p => g.commit env (·.wizardSet env p gymIdx m newLvl)

/-- The commands of an established admin. -/
def ownedCommand : AdminCommand → AdminReply × Gauntlet
  | .help => (.menu, g)
  | .usage => (.usage, g)
  | .reset => (.dropped, g.gymAdminResetAndOpenWindow env)
  | .name text =>
    if text = [] then (.nameUsage, g)
    else
      let name := text.take (gauntletNameMax - 1)
      (.renamed name, g.commit env ({ · with gymName := name }))
  | .badge text =>
    if text = [] then (.badgeUsage, g)
    else
      let badge := text.take (gauntletBadgeMax - 1)
      (.badgeSet badge, g.commit env ({ · with gymBadge := badge }))
  | .gym args =>
    match gymArgs args with
    | .error r => (.wizard r, g)
    | .ok (gymIdx, level) => (.gymSet gymIdx level, g.adminGym env gymIdx level)
  | .set args =>
    match setArgs args with
    | .error r => (.wizard r, g)
    | .ok (gymIdx, m, newLvl) => (.memberSet gymIdx m, g.adminSet env gymIdx m newLvl)

/-- The `admin` branch of `handleCommand`. Only `admin set` can claim; a claim does nothing else. -/
def adminDispatch (sender : UInt32) (c : AdminCommand) : AdminReply × Gauntlet :=
  match c with
  | .help => (.menu, g)
  | .usage => (.usage, g)
  | .set args =>
    let (authorized, g') := g.isAdminAuthorized env sender
    if !authorized then (.notAuthorized, g')
    else if g.state.adminNodeNum ≠ sender ∧ g'.state.adminNodeNum = sender then (.claimed, g')
    else g'.ownedCommand env (.set args)
  | c => if g.state.adminNodeNum = sender then g.ownedCommand env c else (.onlyAdmin, g)

/-! ### Sessions -/

def setSession (i : Fin 4) (s : GauntletSession) : Gauntlet :=
  { g with sessions := Function.update g.sessions i s }

/-- The session idle the longest. -/
def oldestSession : Option (Fin 4) :=
  ((List.finRange 4).foldl (fun (best : Option (Fin 4) × UInt32) i =>
    if (g.sessions i).lastActivity < best.2 then (some i, (g.sessions i).lastActivity) else best)
      (none, 0xFFFFFFFF)).1

def getOrCreateSession (nodeNum : UInt32) : Option (Fin 4) × Gauntlet :=
  let find (n : UInt32) := (List.finRange 4).find? fun i => (g.sessions i).nodeNum = n
  if nodeNum = 0 then (none, g)
  else
    match find nodeNum with
    | some i => (some i, g)
    | none =>
      match (find 0).or g.oldestSession with
      | none => (none, g)
      | some i => (some i, g.setSession i ⟨nodeNum, 0⟩)

def expireSessions : Gauntlet :=
  if env.time = 0 then g
  else
    { g with sessions := fun i =>
        let s := g.sessions i
        if s.nodeNum ≠ 0 ∧ gauntletSessionTtl < env.time - s.lastActivity then ⟨0, 0⟩ else s }

/-- `handleReceived` of a text message. The other commands read the gym and change nothing of it. -/
def handleText (fromId : UInt32) (payload : List UInt8) : Option AdminReply × Gauntlet :=
  if skipBlanks ((payload.take 237).takeWhile (· ≠ 0)) = [] then (none, g)
  else
    match g.getOrCreateSession (env.getFrom fromId) with
    | (none, g) => (none, g)
    | (some i, g) =>
      let g := g.setSession i { g.sessions i with lastActivity := env.time }
      match textCommand payload with
      | some (.admin c) =>
        let r := g.adminDispatch env fromId c
        (some r.1, r.2)
      | _ => (none, g)

/-! ### Boot -/

/-- The constructor. -/
def boot : Gauntlet :=
  let state := g.flash.getD (.defaults env)
  let g : Gauntlet :=
    { g with
      state := state
      sessions := fun _ => ⟨0, 0⟩
      ladders := fun _ => ⟨0, 0, 0⟩
      adminClaimUntilMs := if state.adminNodeNum = 0 then env.millis + adminClaimWindowMs else 0
      flash := some state }
  if state.adminNodeNum = 0 ∧ gauntletGymCount ≤ state.gymPresetIdx ∧ state.autoEnabled = false then
    g.autoSetup env
  else g

end Gauntlet

/-! ### Runs -/

/-- What happens to a gym. -/
inductive GymEvent
  | battle (fromId : UInt32) (p : Packet) (out : Gen1Party)
  | text (fromId : UInt32) (payload : List UInt8)
  | menuApply (gymIdx memberIdx level : UInt8)
  | menuReset
  | sweep
  | reboot

def Gauntlet.step (g : Gauntlet) (env : GymEnv) : GymEvent → Gauntlet
  | .battle fromId p out => (g.handleBattlePacket env fromId p out).2
  | .text fromId payload => (g.handleText env fromId payload).2
  | .menuApply gymIdx memberIdx level => g.gymAdminApply env gymIdx memberIdx level
  | .menuReset => g.gymAdminResetAndOpenWindow env
  | .sweep => g.expireSessions env
  | .reboot => g.boot env

/-- Device 1 at a time, where all random numbers are 0. -/
def GymEnv.plain (now : ℕ) : GymEnv := ⟨now, 0, fun _ => 0, fun _ => [], 1⟩

/-- A device that was never on. -/
def Gauntlet.blank (env : GymEnv) : Gauntlet where
  state := .defaults env
  sessions := fun _ => ⟨0, 0⟩
  ladders := fun _ => ⟨0, 0, 0⟩
  adminClaimUntilMs := 0
  flash := none
  profiles := fun _ => none

end MonsterMesh
