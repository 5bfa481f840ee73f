import Mathlib.Algebra.Group.Int.Defs
import Mathlib.Algebra.Group.Nat.Defs
import Mathlib.Data.Fintype.Basic
import Mathlib.Logic.Function.Basic
import MonsterMesh.Data.Species
import MonsterMesh.Lib.Walk

/-! The single-player league: the saved progress, the terminal and the battles it asks for. -/
namespace MonsterMesh

structure LordSave where
  badges : UInt8
  nextResetEpoch : ℕ
  exploreRunsToday : ℕ
  totalRuns : ℕ
  bestRunWaves : ℕ
  gymProgress : Fin 8 → ℕ
  e4Progress : ℕ
  leagueCleared : Bool
  ngPlusTier : ℕ
  gymTierCleared : Fin 8 → ℕ
  e4TierCleared : ℕ

def lordInitDefaults : LordSave :=
  ⟨0, 0, 0, 0, 0, fun _ => 0, 0, false, 0, fun _ => 0, 0⟩

namespace LordSave

variable (s : LordSave)

/-- The days start at 9:00 local time. -/
def lordApplyDailyReset (nowEpoch : ℕ) (tzOffsetHours : ℤ) : LordSave :=
  let tzSec := tzOffsetHours * 3600
  let shifted := (nowEpoch : ℤ) + tzSec - 9 * 3600
  let shifted := if shifted < 0 then shifted - (86400 - 1) else shifted
  let nextBoundaryLocal := shifted.tdiv 86400 * 86400 + 9 * 3600 + 86400
  if nowEpoch = 0 then s
  else if s.nextResetEpoch = 0 ∨ s.nextResetEpoch ≤ nowEpoch then
    { s with
      exploreRunsToday := 0
      nextResetEpoch := ((nextBoundaryLocal - tzSec) % 2 ^ 32).toNat }
  else s

/-- The bit of a gym in the badge byte. -/
def gymMask (gymIdx : Fin 8) : UInt8 := 1 <<< UInt8.ofNat gymIdx.val

def lordOnGymCleared (gymIdx : Fin 8) : LordSave :=
  { s with
    badges := s.badges ||| gymMask gymIdx
    gymProgress := Function.update s.gymProgress gymIdx 5 }

def lordHasBadge (gymIdx : Fin 8) : Bool := s.badges &&& gymMask gymIdx != 0

def lordGymUnlocked (gymIdx : Fin 8) : Bool :=
  (List.finRange 8).all fun i => decide (gymIdx ≤ i) || s.lordHasBadge i

/-- The gym `gym fight` without a number goes for. -/
def autoPick : Option (Fin 8) :=
  (List.finRange 8).find? fun i =>
    !(s.lordHasBadge i && decide (s.ngPlusTier ≤ s.gymTierCleared i)) && s.lordGymUnlocked i

/-- The route that goes with the number of badges. -/
def routeIdx : ℕ := min ((List.finRange 8).countP fun i => s.lordHasBadge i) 7

end LordSave

/-- The opponent a gauntlet begins at for a stored progress. -/
def startIdx (progress : ℕ) : Fin 5 := ⟨min progress 4, by omega⟩

/-- What a line asks the module for. -/
inductive FightRequest where
  | gym (gymIdx : Fin 8) (trainerIdx : Fin 5)
  | e4 (memberIdx : Fin 5)
  | explore (routeIdx : ℕ)
  | fight
deriving DecidableEq, Repr

/-- A line typed at the terminal. -/
inductive Line where
  | gymFight (n : ℕ)
  | explore
  | fight
  | other (yes : Bool)
deriving DecidableEq, Repr

/-- The line begins with `y`. -/
def Line.yes : Line → Bool
  | .other y => y
  | _ => false

structure Terminal where
  lord : LordSave
  /-- `lord.dat`. -/
  saved : LordSave
  partyLoaded : Bool
  pendingRematchGym : Option (Fin 8)

theorem gymNumber_lt {n : ℕ} (h : n ≤ 8) : n - 1 < 8 := by
  omega

namespace Terminal

variable (t : Terminal)

def lordSave (l : LordSave) : Terminal := { t with lord := l, saved := l }

def onGymBattleEnded (gymIdx : Fin 8) (trainerIdx : Fin 5) (playerWon : Bool) : Terminal :=
  if playerWon = false then
    if 0 < trainerIdx.val ∧ t.lord.gymProgress gymIdx < trainerIdx.val then
      t.lordSave { t.lord with
        gymProgress := Function.update t.lord.gymProgress gymIdx trainerIdx.val }
    else t
  else if trainerIdx.val < 4 then
    t.lordSave { t.lord with
      gymProgress :=
        if t.lord.gymProgress gymIdx ≤ trainerIdx.val then
          Function.update t.lord.gymProgress gymIdx (trainerIdx.val + 1)
        else t.lord.gymProgress }
  else
    t.lordSave { t.lord.lordOnGymCleared gymIdx with
      gymTierCleared := Function.update t.lord.gymTierCleared gymIdx t.lord.ngPlusTier }

def onE4BattleEnded (memberIdx : Fin 5) (playerWon : Bool) : Terminal :=
  if playerWon = false then t.lordSave t.lord
  else if memberIdx.val < 4 then
    t.lordSave { t.lord with
      e4Progress :=
        if t.lord.e4Progress ≤ memberIdx.val then memberIdx.val + 1 else t.lord.e4Progress }
  else
    t.lordSave { t.lord with
      leagueCleared := true
      e4TierCleared := t.lord.ngPlusTier
      ngPlusTier := if t.lord.ngPlusTier < 5 then t.lord.ngPlusTier + 1 else t.lord.ngPlusTier
      e4Progress := 0
      gymProgress := fun _ => 0 }

def onExploreBattleEnded (lvl : ℕ) (playerWon : Bool) : Terminal :=
  if playerWon then
    t.lordSave { t.lord with
      exploreRunsToday :=
        if t.lord.exploreRunsToday < 0xFF then t.lord.exploreRunsToday + 1
        else t.lord.exploreRunsToday
      totalRuns :=
        if t.lord.totalRuns < 0xFFFFFFFF then t.lord.totalRuns + 1 else t.lord.totalRuns
      bestRunWaves := max t.lord.bestRunWaves lvl }
  else t.lordSave t.lord

/-- `gym fight` on the Indigo Plateau. -/
def gymFightE4 : Terminal × Option FightRequest :=
  if t.partyLoaded = false then (t, none)
  else if t.lord.badges ≠ 0xFF then (t, none)
  else
    let l : LordSave :=
      if t.lord.leagueCleared ∧ 5 ≤ t.lord.e4Progress then { t.lord with e4Progress := 0 }
      else t.lord
    ({ t with lord := l }, some (.e4 (startIdx l.e4Progress)))

/-- `gym fight` on one of the eight gyms. -/
def gymFightGym (gymIdx : Fin 8) : Terminal × Option FightRequest :=
  if t.partyLoaded = false then (t, none)
  else if t.lord.lordGymUnlocked gymIdx = false then (t, none)
  else if t.lord.lordHasBadge gymIdx then
    if t.lord.gymTierCleared gymIdx < t.lord.ngPlusTier then
      let l : LordSave :=
        { t.lord with gymProgress := Function.update t.lord.gymProgress gymIdx 0 }
      ({ t with lord := l }, some (.gym gymIdx (startIdx (l.gymProgress gymIdx))))
    else ({ t with pendingRematchGym := some gymIdx }, none)
  else (t, some (.gym gymIdx (startIdx (t.lord.gymProgress gymIdx))))

def gymFight (n : ℕ) : Terminal × Option FightRequest :=
  if n = 0 then
    match t.lord.autoPick with
    | some g => t.gymFightGym g
    | none => if t.lord.badges = 0xFF ∧ t.lord.e4Progress < 5 then t.gymFightE4 else (t, none)
  else if h : n ≤ 8 then t.gymFightGym ⟨n - 1, gymNumber_lt h⟩
  else if n = 9 then t.gymFightE4
  else (t, none)

/-- The answer to the question whether to fight a cleared gym again. -/
def rematch (gymIdx : Fin 8) (yes : Bool) : Terminal × Option FightRequest :=
  ({ t with pendingRematchGym := none },
    if yes && t.partyLoaded then some (.gym gymIdx 0) else none)

def executeLine (line : Line) : Terminal × Option FightRequest :=
  match t.pendingRematchGym with
  | some g => t.rematch g line.yes
  | none => match line with
    | .gymFight n => t.gymFight n
    | .explore => (t, if t.partyLoaded then some (.explore t.lord.routeIdx) else none)
    | .fight => (t, if t.partyLoaded then some .fight else none)
    | .other _ => (t, none)

end Terminal

/-- The end of a battle, left for the thread that runs the terminal. -/
inductive StagedEnd where
  | gym (gymIdx : Fin 8) (trainerIdx : Fin 5) (won : Bool)
  | explore (lvl : ℕ) (won : Bool)
  | e4 (memberIdx : Fin 5) (won : Bool)
  | fight
deriving DecidableEq, Repr

/-- Where a fight with a gym on the mesh stands when a battle ends. -/
inductive BbsBranch where
  | off | keeps | ends
deriving DecidableEq, Repr

structure League where
  terminal : Terminal
  textBattleStartReq : Bool
  gymBattle : Option (Fin 8)
  gymTrainer : Fin 5
  exploreRoute : Option ℕ
  e4Member : Option (Fin 5)
  textBattleActive : Bool
  activeGymBattle : Option (Fin 8)
  activeGymTrainer : Fin 5
  activeExplore : Option ℕ
  activeE4Member : Option (Fin 5)
  staged : Option StagedEnd

inductive LeagueEvent where
  | party (loaded : Bool)
  | line (line : Line)
  /-- A round of `runOnce` that may start what was asked for. -/
  | start (wildLevel : ℕ)
  /-- The battle on screen is over. -/
  | ended (won : Bool) (bbs : BbsBranch)
  /-- The terminal's thread takes what was left for it. -/
  | consume
  /-- The terminal is opened at this time. -/
  | opened (epoch : ℕ)
  /-- A battle that the league did not ask for comes on, or a stale one is thrown out. -/
  | others (active : Bool)
  | reboot

namespace League

variable (s : League)

/-- The device after it booted with this `lord.dat`. -/
def booted (saved : LordSave) : League where
  terminal := ⟨saved, saved, false, none⟩
  textBattleStartReq := false
  gymBattle := none
  gymTrainer := 0
  exploreRoute := none
  e4Member := none
  textBattleActive := false
  activeGymBattle := none
  activeGymTrainer := 0
  activeExplore := none
  activeE4Member := none
  staged := none

/-- The first boot, without a save. -/
def fresh : League := booted lordInitDefaults

def request : FightRequest → League
  | .gym g t => { s with textBattleStartReq := true, gymBattle := some g, gymTrainer := t }
  | .e4 m => { s with textBattleStartReq := true, e4Member := some m }
  | .explore r => { s with textBattleStartReq := true, exploreRoute := some r }
  | .fight => { s with textBattleStartReq := true }

def executeLine (line : Line) : League :=
  let (t, req) := s.terminal.executeLine line
  match req with
  | some r => { s with terminal := t }.request r
  | none => { s with terminal := t }

/-- The slot that is started: the Elite Four before a route before a gym. -/
def activate (wildLevel : ℕ) : League :=
  match s.e4Member, s.exploreRoute, s.gymBattle with
  | some m, _, _ => { s with activeE4Member := some m }
  | none, some _, _ => { s with activeExplore := some wildLevel }
  | none, none, some g =>
    { s with activeGymBattle := some g, activeGymTrainer := s.gymTrainer }
  | none, none, none => s

def start (wildLevel : ℕ) : League :=
  if s.textBattleStartReq ∧ s.textBattleActive = false then
    { s.activate wildLevel with
      textBattleStartReq := false, gymBattle := none, exploreRoute := none, e4Member := none
      textBattleActive := true }
  else s

/-- The battle is over and the next one is not at hand. -/
def close (stagedEnd : Option StagedEnd) : League :=
  { s with textBattleActive := false, staged := stagedEnd <|> s.staged <|> some .fight }

def gymEnded (g : Fin 8) (won : Bool) : League :=
  if h : won = true ∧ s.activeGymTrainer.val < 4 then
    { s with activeGymTrainer := ⟨s.activeGymTrainer.val + 1, by omega⟩ }
  else { s with activeGymBattle := none }.close (some (.gym g s.activeGymTrainer won))

def e4Ended (m : Fin 5) (won : Bool) : League :=
  if h : won = true ∧ m.val < 4 then { s with activeE4Member := some ⟨m.val + 1, by omega⟩ }
  else { s with activeE4Member := none }.close (some (.e4 m won))

def ended (won : Bool) (bbs : BbsBranch) : League :=
  if s.textBattleActive = false then s
  else match s.activeGymBattle, s.activeExplore, bbs, s.activeE4Member with
    | some g, _, _, _ => s.gymEnded g won
    | none, some lvl, _, _ => { s with activeExplore := none }.close (some (.explore lvl won))
    | none, none, .keeps, _ => s
    | none, none, .ends, _ => s.close none
    | none, none, .off, some m => s.e4Ended m won
    | none, none, .off, none => s.close none

def report (t : Terminal) : StagedEnd → Terminal
  | .gym g i won => t.onGymBattleEnded g i won
  | .explore lvl won => t.onExploreBattleEnded lvl won
  | .e4 m won => t.onE4BattleEnded m won
  | .fight => t

/-- A report leaves the party and the question alone. -/
theorem report_rest (t : Terminal) (e : StagedEnd) :
    (report t e).partyLoaded = t.partyLoaded ∧
      (report t e).pendingRematchGym = t.pendingRematchGym := by
  cases e with
  | gym g i won =>
    change (t.onGymBattleEnded g i won).partyLoaded = _ ∧ (t.onGymBattleEnded g i won).pendingRematchGym = _
    unfold Terminal.onGymBattleEnded
    split <;> split <;> exact ⟨rfl, rfl⟩
  | explore lvl won =>
    change (t.onExploreBattleEnded lvl won).partyLoaded = _ ∧
      (t.onExploreBattleEnded lvl won).pendingRematchGym = _
    unfold Terminal.onExploreBattleEnded
    split <;> exact ⟨rfl, rfl⟩
  | e4 m won =>
    change (t.onE4BattleEnded m won).partyLoaded = _ ∧ (t.onE4BattleEnded m won).pendingRematchGym = _
    unfold Terminal.onE4BattleEnded
    split
    · exact ⟨rfl, rfl⟩
    · split <;> exact ⟨rfl, rfl⟩
  | fight => exact ⟨rfl, rfl⟩

def consume : League :=
  match s.staged with
  | some e => { s with terminal := report s.terminal e, staged := none }
  | none => s

def step : LeagueEvent → League
  | .party loaded => { s with terminal := { s.terminal with partyLoaded := loaded } }
  | .line l => s.executeLine l
  | .start lvl => s.start lvl
  | .ended won bbs => s.ended won bbs
  | .consume => s.consume
  | .opened epoch =>
    { s with terminal := { s.terminal with lord := s.terminal.lord.lordApplyDailyReset epoch (-4) } }
  | .others active => { s with textBattleActive := active }
  | .reboot => booted s.terminal.saved

end League

end MonsterMesh
