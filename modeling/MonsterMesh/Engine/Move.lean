import Mathlib.Data.List.Infix
import Mathlib.Data.Fintype.Pi
import MonsterMesh.Engine.Duel

/-! Executing one move: `useMove` and `applyMove`, cut at the points where the source returns. -/
namespace MonsterMesh

/-- Effects that skip the hit check because the user is their target. -/
def MoveEffect.selfTarget : MoveEffect → Bool
  | .boostAtk | .boostDef | .boostSpd | .boostSpc | .boostAcc | .boostEva => true
  | .focusEnergy | .mist | .lightScreen | .reflect | .rest | .healHalf | .haze => true
  | _ => false

/-- Effects whose damage is not computed by `calcDamage`. -/
def MoveEffect.ownDamage : MoveEffect → Bool
  | .fixedDmg | .levelDmg | .ohko => true
  | _ => false

/-- Repeated hits stop at the one that brings the target down. -/
def BattlePoke.hurtTimes (m : BattlePoke) (dmg : UInt16) : Nat → BattlePoke
  | 0 => m
  | n + 1 => if (m.hurt dmg).hp = 0 then m.hurt dmg else (m.hurt dmg).hurtTimes dmg n

namespace Duel

/-! ### `applyMove` -/

/-- Dream Eater on a waking target, and the hit roll. -/
def hitCheck (d : Duel) (mv : MoveData) : Bool × Duel :=
  if mv.effect = .dreamEater ∧ ¬ d.target.asleep then
    (false, d.emit Gen1Text.miss d.user.nickname)
  else if mv.effect.selfTarget ∨ mv.effect = .swiftNevermiss then (true, d)
  else
    let r := d.rollHit mv
    if r.1 then r else (false, r.2.emit Gen1Text.miss d.user.nickname)

/-- Everything before the damage block; `true` when the block is reached. -/
def beforeDamage (d : Duel) (mv : MoveData) : Bool × Duel :=
  let r := d.hitCheck mv
  if r.1 then
    let d := if mv.effect = .payDay then r.2.emit "Coins scattered everywhere!" [] else r.2
    if d.user.flinched then
      let d := d.emit "[POKEMON] flinched and couldn't move!" d.user.nickname
      (false, d.setUser { d.user with flinched := false })
    else (true, d)
  else r

def hitCount (d : Duel) (mv : MoveData) : Nat × Duel :=
  if mv.effect = .multiHit then
    let few := d.rand32.1 % 4 < 2
    let d := d.rand32.2
    let odd := d.rand32.1 &&& 1 ≠ 0
    (if few then (if odd then 2 else 3) else (if odd then 4 else 5), d.rand32.2)
  else if mv.effect = .doubleHit then (2, d)
  else (1, d)

/-- The product of the two type factors, 4 when neutral. -/
def typeFactor (d : Duel) (mv : MoveData) : Nat :=
  let e1 := effectiveness d.gen mv.type d.target.type1
  let e2 := if d.target.type1 ≠ d.target.type2 then effectiveness d.gen mv.type d.target.type2
    else 2
  e1.toNat * e2.toNat

/-- Recoil, drain and self-destruction. -/
def userAfterHit (d : Duel) (mv : MoveData) (dmg : UInt16) : Duel :=
  match mv.effect with
  | .recoil => (d.setUser (d.user.hurt (dmg / 4))).emit Gen1Text.recoil d.user.nickname
  | .drainHp => (d.setUser (d.user.restore (dmg / 2))).emit Gen1Text.drain d.target.nickname
  | .dreamEater =>
    (d.setUser (d.user.restore (dmg / 2))).emit "[POKEMON]'s dream was eaten!" d.target.nickname
  | .explode => (d.setUser { d.user with hp := 0 }).emit Gen1Text.faint d.user.nickname
  | _ => d

/-- Flinch and trap on a target that is still standing. -/
def targetAfterHit (d : Duel) (mv : MoveData) : Duel :=
  match mv.effect with
  | .flinch =>
    if d.target.hp = 0 then d
    else if mv.effectChance = 0 then d.setTarget { d.target with flinched := true }
    else
      let r := d.percent mv.effectChance
      if r.1 then r.2.setTarget { d.target with flinched := true } else r.2
  | .trapping =>
    if d.target.hp ≠ 0 ∧ d.target.trapTurns = 0 then
      let turns := 2 + (d.rand32.1 % 4).toUInt8
      (d.rand32.2.setTarget { d.target with trapTurns := turns }).emit
        "[POKEMON] was trapped!" d.target.nickname
    else d
  | _ => d

/-- The accumulators of Bide and Counter, and the payoff of Rage. -/
def recordHit (d : Duel) (dmg : UInt16) : Duel :=
  let d :=
    if d.target.bideTurns ≠ 0 then
      let r := d.narrow (d.target.bideDamage.toNat + dmg.toNat)
      r.2.setTarget { d.target with bideDamage := r.1 }
    else d
  let d := d.setTarget { d.target with lastDamageTaken := dmg }
  if d.target.rageActive ∧ d.target.hp ≠ 0 then d.targetStat .atk true else d

/-- The line of a repeated hit is passed to the sink without a check. -/
def sayHits (d : Duel) (hits : Nat) : Except Fault Duel :=
  if 1 < hits then
    if d.sink then .ok (d.say (cstr s!"Hit {hits} times!")) else .error .nullSink
  else .ok d

/-- A hit on a target that is not immune: the damage, its messages and what it sets off. -/
def landHit (d : Duel) (mv : MoveData) (dmg : UInt16) (crit : Bool) : Except Fault Duel := do
  let eff := d.typeFactor mv
  let hits := (d.hitCount mv).1
  let d := (d.hitCount mv).2
  let d := d.setTarget (d.target.hurtTimes dmg hits)
  let d := if crit then d.emit Gen1Text.crit [] else d
  let d := if 4 < eff then d.emit Gen1Text.super [] else
    if eff < 4 then d.emit Gen1Text.resist [] else d
  let d ← d.sayHits hits
  return ((d.userAfterHit mv dmg).targetAfterHit mv).recordHit dmg

/-- The damage block; `false` when the target is immune and `applyMove` returns. -/
def dealDamage (d : Duel) (mv : MoveData) : Except Fault (Bool × Duel) :=
  if mv.power = 0 ∨ mv.effect.ownDamage then .ok (true, d)
  else do
    let (dmg, crit, d) ← d.calcDamage mv
    if d.typeFactor mv = 0 then return (false, d.emit Gen1Text.immune d.target.nickname)
    let d ← d.landHit mv dmg crit
    return (true, d)

/-- The fixed damage families. -/
def fixedDamage (d : Duel) (mv : MoveData) : Except Fault Duel :=
  match mv.effect with
  | .fixedDmg =>
    .ok (d.setTarget (d.target.hurt (if "Sonic".toList <:+: mv.name.toList then 20 else 40)))
  | .levelDmg => .ok (d.setTarget (d.target.hurt d.user.level.toUInt16))
  | .psywave => do
    let v ← modulo d.rand32.1.toNat (d.user.level.toNat * 3 / 2)
    let r := d.rand32.2.narrow (1 + v)
    return r.2.setTarget (d.target.hurt r.1)
  | .superFang =>
    let half := if d.target.hp / 2 = 0 then 1 else d.target.hp / 2
    .ok (d.setTarget { d.target with hp := d.target.hp - half })
  | .ohko =>
    if d.user.level < d.target.level then .ok (d.emit Gen1Text.miss d.user.nickname)
    else .ok ((d.setTarget { d.target with hp := 0 }).emit Gen1Text.ohko [])
  | _ => .ok d

/-- `chance == 0 || percent(chance)` -/
def roll (d : Duel) (chance : UInt8) : Bool × Duel :=
  if chance = 0 then (true, d) else d.percent chance

/-- A status condition on a healthy target. -/
def inflict (d : Duel) (mv : MoveData) (status : UInt8) (text : String) : Duel :=
  if d.target.status = stNone then
    let r := d.roll mv.effectChance
    if r.1 then (r.2.setTarget { d.target with status := status }).emit text d.target.nickname
    else r.2
  else d

/-- Sleep also draws its length. -/
def inflictSleep (d : Duel) (mv : MoveData) : Duel :=
  if d.target.status = stNone then
    let r := d.roll mv.effectChance
    if r.1 then
      let turns := 1 + (r.2.rand32.1 % 7).toUInt8
      (r.2.rand32.2.setTarget { d.target with status := stSlp, sleepTurns := turns }).emit
        Gen1Text.statusSlp d.target.nickname
    else r.2
  else d

def inflictConfusion (d : Duel) (mv : MoveData) : Duel :=
  if d.target.confuseTurns = 0 then
    let r := d.roll mv.effectChance
    if r.1 then
      let turns := 2 + (r.2.rand32.1 % 4).toUInt8
      (r.2.rand32.2.setTarget { d.target with confuseTurns := turns }).emit
        Gen1Text.statusConfuse d.target.nickname
    else r.2
  else d

/-- Haze clears stages and field effects of both sides, but not the screen counters. -/
def haze (d : Duel) : Duel :=
  let clear (fx : FieldFx) : FieldFx :=
    { fx with focused := false, lightScreen := false, reflect := false, mist := false }
  { d with
    user := d.user.clearBoosts, target := d.target.clearBoosts
    userFx := clear d.userFx, targetFx := clear d.targetFx }

/-- The switch over secondary and status effects. -/
def secondary (d : Duel) (mv : MoveData) : Duel :=
  match mv.effect with
  | .statusPsn => d.inflict mv stPsn Gen1Text.statusPsn
  | .statusBrn => d.inflict mv stBrn Gen1Text.statusBrn
  | .statusPar => d.inflict mv stPar Gen1Text.statusPar
  | .statusSlp => d.inflictSleep mv
  | .statusFrz => d.inflict mv stFrz Gen1Text.statusFrz
  | .statusConfuse => d.inflictConfusion mv
  | .boostAtk => d.userStat .atk true
  | .boostDef => d.userStat .def' true
  | .boostSpd => d.userStat .spd true
  | .boostSpc => d.userStat .spc true
  | .boostAcc => d.userStat .acc true
  | .boostEva => d.userStat .eva true
  | .dropAtk => d.targetStat .atk false
  | .dropDef => d.targetStat .def' false
  | .dropSpd => d.targetStat .spd false
  | .dropSpc => d.targetStat .spc false
  | .dropAcc => d.targetStat .acc false
  | .dropEva => d.targetStat .eva false
  | .focusEnergy => { d with userFx := { d.userFx with focused := true } }
  | .mist => { d with userFx := { d.userFx with mist := true } }
  | .lightScreen =>
    { d with userFx := { d.userFx with lightScreen := true, lightScreenTurns := 5 } }
  | .reflect => { d with userFx := { d.userFx with reflect := true, reflectTurns := 5 } }
  | .haze => d.haze
  | .rest => d.setUser { d.user with hp := d.user.maxHp, status := stSlp, sleepTurns := 2 }
  | .healHalf =>
    if d.user.hp < d.user.maxHp then
      let heal := if d.user.maxHp / 2 = 0 then 1 else d.user.maxHp / 2
      (d.setUser (d.user.restore heal)).emit "[POKEMON] regained health!" d.user.nickname
    else d
  | .conversion =>
    (d.setUser { d.user with type1 := d.target.type1, type2 := d.target.type2 }).emit
      "[POKEMON] copied the foe's type!" d.user.nickname
  | .rage => d.setUser { d.user with rageActive := true }
  | .hyperBeam =>
    if d.target.hp ≠ 0 then d.setUser { d.user with mustRecharge := true } else d
  | _ => d

/-- The two closing messages. -/
def closing (d : Duel) (mv : MoveData) : Duel :=
  let d := if mv.power = 0 ∧ mv.effect = .none then d.emit "But nothing happened!" [] else d
  if d.target.hp = 0 then d.emit Gen1Text.faint d.target.nickname else d

def applyMove (d : Duel) (mv : MoveData) : Except Fault Duel :=
  if (d.beforeDamage mv).1 then do
    let (goOn, d) ← (d.beforeDamage mv).2.dealDamage mv
    if !goOn then return d
    let d ← d.fixedDamage mv
    return (d.secondary mv).closing mv
  else .ok (d.beforeDamage mv).2

/-! ### `useMove` -/

/-- Freeze and sleep; `true` when the user may go on. -/
def wakeUp (d : Duel) : Bool × Duel :=
  if d.user.frozen then (false, d.emit "[POKEMON] is frozen solid!" d.user.nickname)
  else if d.user.asleep then
    if 0 < d.user.sleepTurns then
      (false, (d.setUser { d.user with sleepTurns := d.user.sleepTurns - 1 }).emit
        "[POKEMON] is fast asleep." d.user.nickname)
    else
      (true, (d.setUser { d.user with status := d.user.status &&& ~~~stSlp }).emit
        "[POKEMON] woke up!" d.user.nickname)
  else (true, d)

/-- Paralysis and the recharge turn. -/
def shakeOff (d : Duel) : Bool × Duel :=
  let r := if d.user.paralyzed then d.percent 25 else (false, d)
  if r.1 then (false, r.2.emit "[POKEMON] is fully paralyzed!" d.user.nickname)
  else if d.user.mustRecharge then
    (false, (r.2.setUser { d.user with mustRecharge := false }).emit
      "[POKEMON] must recharge!" d.user.nickname)
  else (true, r.2)

/-- The damage of a confused mon to itself: a typeless physical attack of power 40. -/
def confusionDamage (m : BattlePoke) : Except Fault Nat := do
  let n ← int32 ((2 * m.level.toNat / 5 + 2) * 40)
  let n ← int32 (n * m.atk.toNat)
  let n ← divide n m.def'.toNat
  return n / 50 + 2

def confusion (d : Duel) : Except Fault (Bool × Duel) := do
  if d.user.confuseTurns = 0 then return (true, d)
  let d := d.setUser { d.user with confuseTurns := d.user.confuseTurns - 1 }
  let (hit, d) := d.percent 50
  if !hit then return (true, d)
  let d := d.emit "[POKEMON] hurt itself in confusion!" d.user.nickname
  let self ← confusionDamage d.user
  let (self, d) := d.narrow self
  return (false, d.setUser (d.user.hurt self))

/-- A trap or a flinch takes the turn. -/
def heldBack (d : Duel) : Bool × Duel :=
  if 0 < d.user.trapTurns then (false, d.emit "[POKEMON] can't move!" d.user.nickname)
  else if d.user.flinched then
    (false, (d.setUser { d.user with flinched := false }).emit
      "[POKEMON] flinched and couldn't move!" d.user.nickname)
  else (true, d)

/-- The pre-move status checks, in the source's order. -/
def preMove (d : Duel) : Except Fault (Bool × Duel) :=
  let w := d.wakeUp
  if !w.1 then .ok w
  else
    let s := w.2.shakeOff
    if !s.1 then .ok s
    else do
      let c ← s.2.confusion
      return if c.1 then c.2.heldBack else c

end Duel

/-- `arr[slot]` of a four-slot array. -/
def slotAt {α : Type} (arr : Fin 4 → α) (slot : UInt8) : Except Fault α :=
  if h : slot.toNat < 4 then .ok (arr ⟨slot.toNat, h⟩) else .error .outOfBounds

/-- `arr[slot] = v` -/
def setSlot {α : Type} (arr : Fin 4 → α) (slot : UInt8) (v : α) : Except Fault (Fin 4 → α) :=
  if h : slot.toNat < 4 then .ok (Function.update arr ⟨slot.toNat, h⟩ v) else .error .outOfBounds

/-- A move about to be applied: its data, its slot, and whether it is the Struggle sentinel. -/
structure Ready where
  mv : MoveData
  slot : UInt8
  struggle : Bool

namespace Duel

/-- The move the submitted slot names, if it can be used at all. -/
def chosenMove (d : Duel) (moveSlot : UInt8) : Option Ready :=
  if moveSlot = 0xFE then (mdata d.gen 165).map (⟨·, moveSlot, true⟩)
  else if h : moveSlot.toNat < 4 then
    match mdata d.gen (d.user.moves ⟨moveSlot.toNat, h⟩) with
    | none => none
    | some mv =>
      if d.user.pp ⟨moveSlot.toNat, h⟩ = 0 then none else some ⟨mv, moveSlot, false⟩
  else none

/-- The move in a slot, if the table has it. -/
def slotMove (d : Duel) (slot : UInt8) : Except Fault (Option Ready) := do
  let id ← slotAt d.user.moves slot
  return (mdata d.gen id).map (⟨·, slot, false⟩)

/-- The second turn of a two-turn move fires the charged slot. -/
def releaseCharge (d : Duel) (r : Ready) : Except Fault (Option Ready × Duel) :=
  if d.user.chargingSlot ≠ 0xFF then do
    let o ← d.slotMove d.user.chargingSlot
    return (o, d.setUser { d.user with chargingSlot := 0xFF })
  else .ok (some r, d)

/-- A thrash lock forces its own slot. -/
def thrashLock (d : Duel) (r : Ready) : Except Fault (Option Ready) :=
  if d.user.thrashSlot ≠ 0xFF then d.slotMove d.user.thrashSlot else .ok (some r)

/-- A turn of Bide: store, or release twice the stored damage. -/
def bideTurn (d : Duel) : Duel :=
  let d := d.setUser { d.user with bideTurns := d.user.bideTurns - 1 }
  if d.user.bideTurns = 0 then
    let r := d.narrow (d.user.bideDamage.toNat * 2)
    let d := r.2.setUser { d.user with bideDamage := 0 }
    let d := d.setTarget (d.target.hurt r.1)
    let d := d.emit "[POKEMON] unleashed energy!" d.user.nickname
    if d.target.hp = 0 then d.emit Gen1Text.faint d.target.nickname else d
  else d.emit "[POKEMON] is storing energy." d.user.nickname

/-- A disabled move does not fire; the counter runs. -/
def disabledTurn (d : Duel) : Duel :=
  let d := d.emit "[POKEMON]'s move is disabled!" d.user.nickname
  let turns := d.user.disabledTurns - 1
  d.setUser { d.user with
    disabledTurns := turns
    disabledSlot := if turns = 0 then 0xFF else d.user.disabledSlot }

/-- The line announcing the first turn of a two-turn move. -/
def chargeText (name : String) : String :=
  if name = "Solar Beam" then "[POKEMON] absorbed light!"
  else if name = "Sky Attack" then "[POKEMON] is glowing!"
  else if name = "Skull Bash" then "[POKEMON] lowered its head!"
  else if name = "Razor Wind" then "[POKEMON] whipped up a whirlwind!"
  else if name = "Fly" then "[POKEMON] flew up high!"
  else if name = "Dig" then "[POKEMON] dug a hole!"
  else "[POKEMON] is charging!"

/-- `pp[moveSlot]--; lastMoveIdx = moveSlot;` -/
def spendPp (d : Duel) (r : Ready) : Except Fault Duel := do
  if r.struggle then return d
  let left ← slotAt d.user.pp r.slot
  let pp ← setSlot d.user.pp r.slot (left - 1)
  return d.setUser { d.user with pp := pp, lastMoveIdx := r.slot }

/-- The first turns of two-turn moves and Bide end the action; Thrash takes its lock. -/
def setUp (d : Duel) (r : Ready) : Option Ready × Duel :=
  if !r.struggle && r.mv.effect = .chargeTurn && d.user.chargingSlot = 0xFF then
    (none, (d.setUser { d.user with chargingSlot := r.slot }).emit
      (chargeText r.mv.name) d.user.nickname)
  else if !r.struggle && r.mv.effect = .bide && d.user.bideTurns = 0 then
    (none, (d.setUser { d.user with bideTurns := 2, bideDamage := 0 }).emit
      "[POKEMON] is storing energy." d.user.nickname)
  else if !r.struggle && r.mv.effect = .thrash && d.user.thrashSlot = 0xFF then
    let turns := 2 + (d.rand32.1 &&& 1).toUInt8
    (some r, d.rand32.2.setUser { d.user with thrashSlot := r.slot, thrashTurns := turns })
  else (some r, d)

/-- Bide and a disabled slot end the action; otherwise the move spends its PP. -/
def fire (d : Duel) (r : Ready) : Except Fault (Option Ready × Duel) :=
  if 0 < d.user.bideTurns then .ok (none, d.bideTurn)
  else if d.user.disabledSlot = r.slot ∧ 0 < d.user.disabledTurns then .ok (none, d.disabledTurn)
  else do
    let d ← d.spendPp r
    return (d.emitMove Gen1Text.use d.user.nickname r.mv.name).setUp r

/-- What a move other than Struggle goes through after the status checks. -/
def slotTurn (d : Duel) (r : Ready) : Except Fault (Option Ready × Duel) := do
  match ← d.releaseCharge r with
  | (none, d) => return (none, d)
  | (some r, d) =>
    match ← d.thrashLock r with
    | none => return (none, d)
    | some r => d.fire r

/-- `useMove` up to its call of `applyMove`. -/
def beginMove (d : Duel) (moveSlot : UInt8) : Except Fault (Option Ready × Duel) :=
  match d.chosenMove moveSlot with
  | none => .ok (none, d)
  | some r => do
    let p ← d.preMove
    if !p.1 then return (none, p.2)
    else if r.struggle then
      return (some r, p.2.emitMove Gen1Text.use p.2.user.nickname r.mv.name)
    else p.2.slotTurn r

/-- The confusion that ends a thrash. -/
def daze (d : Duel) : Duel :=
  if d.user.confuseTurns = 0 then
    let turns := 2 + (d.rand32.1 % 4).toUInt8
    (d.rand32.2.setUser { d.user with confuseTurns := turns }).emit
      "[POKEMON] became confused!" d.user.nickname
  else d

/-- Thrash bookkeeping after the damage. -/
def thrashTurn (d : Duel) (mv : MoveData) : Duel :=
  if mv.effect = .thrash ∧ d.user.thrashSlot ≠ 0xFF then
    let turns := if 0 < d.user.thrashTurns then d.user.thrashTurns - 1 else d.user.thrashTurns
    if turns = 0 then (d.setUser { d.user with thrashTurns := turns, thrashSlot := 0xFF }).daze
    else d.setUser { d.user with thrashTurns := turns }
  else d

/-- Counter: twice the last damage taken, on top of the move's own damage. -/
def counter (d : Duel) (mv : MoveData) : Duel :=
  if mv.effect = .counter ∧ 0 < d.user.lastDamageTaken then
    let r := d.narrow (d.user.lastDamageTaken.toNat * 2)
    let d := r.2.setUser { d.user with lastDamageTaken := 0 }
    let d := d.setTarget (d.target.hurt r.1)
    let d := d.emit "[POKEMON] returned the hit!" d.user.nickname
    if d.target.hp = 0 then d.emit Gen1Text.faint d.target.nickname else d
  else d

/-- Substitute: a quarter of the maximum, if the user has more than that. -/
def substitute (d : Duel) (mv : MoveData) : Duel :=
  if mv.effect = .substitute ∧ d.user.substituteHp = 0 then
    let cost := if d.user.maxHp / 4 = 0 then 1 else d.user.maxHp / 4
    if cost < d.user.hp then
      (d.setUser { d.user with hp := d.user.hp - cost, substituteHp := cost }).emit
        "[POKEMON] made a substitute!" d.user.nickname
    else d.emit "[POKEMON] is too weak for a substitute!" d.user.nickname
  else d

/-- Disable: a random usable slot of the target, for 4 to 7 turns. -/
def disable (d : Duel) (mv : MoveData) : Duel :=
  if mv.effect = .disable then
    let valid := (List.finRange 4).filter (fun i => d.target.moves i ≠ 0 ∧ 0 < d.target.pp i)
    if valid = [] then d
    else
      let slot := valid.getD (d.rand32.1.toNat % valid.length) 0
      let d := d.rand32.2
      let turns := 4 + (d.rand32.1 % 4).toUInt8
      (d.rand32.2.setTarget { d.target with
        disabledSlot := UInt8.ofNat slot.val, disabledTurns := turns }).emit
        "[POKEMON]'s move was disabled!" d.target.nickname
  else d

/-- The move Metronome rolls, with the duel it is applied to. -/
def metronomeRoll (d : Duel) (mv : MoveData) : Option MoveData × Duel :=
  if mv.effect = .metronome then
    match mdata d.gen (1 + (d.rand32.1 % 165).toUInt8) with
    | some picked =>
      if picked.effect = .metronome then (none, d.rand32.2)
      else (some picked, d.rand32.2.emitMove "Metronome rolled [MOVE]!" [] picked.name)
    | none => (none, d.rand32.2)
  else (none, d)

def metronome (d : Duel) (mv : MoveData) : Except Fault Duel :=
  match d.metronomeRoll mv with
  | (some picked, d) => d.applyMove picked
  | (none, d) => .ok d

/-- The move the target used last, if its slot holds one. -/
def targetLastMove (d : Duel) : Option UInt8 :=
  if h : d.target.lastMoveIdx.toNat < 4 then
    let id := d.target.moves ⟨d.target.lastMoveIdx.toNat, h⟩
    if id = 0 then none else some id
  else none

/-- Slot `slot` becomes the move `id` with 5 PP; the original is kept aside. -/
def copyMove (d : Duel) (slot id : UInt8) : Except Fault Duel := do
  let origMove ← slotAt d.user.moves slot
  let origPp ← slotAt d.user.pp slot
  let moves ← setSlot d.user.moves slot id
  let pp ← setSlot d.user.pp slot 5
  return (d.setUser { d.user with
    mimicSlot := slot, mimicOrigMove := origMove, mimicOrigPp := origPp
    moves := moves, pp := pp }).emitMove "[POKEMON] copied [MOVE]!" d.user.nickname
      (((mdata d.gen id).map (·.name)).getD "?")

/-- Mimic: the target's last move replaces this slot until the user switches out. -/
def mimic (d : Duel) (r : Ready) : Except Fault Duel :=
  if r.mv.effect = .mimic ∧ d.user.mimicSlot = 0xFF then
    match d.targetLastMove with
    | some id => d.copyMove r.slot id
    | none => .ok d
  else .ok d

/-- Transform: a snapshot, then the target's species, types, stats and moves. The split Special
of the later generations is not copied. -/
def transform (d : Duel) (mv : MoveData) : Duel :=
  if mv.effect = .transform ∧ ¬ d.user.transformed then
    let u := d.user
    let t := d.target
    (d.setUser { u with
      transformed := true
      origSpecies := u.species, origType1 := u.type1, origType2 := u.type2
      origAtk := u.atk, origDef := u.def', origSpd := u.spd, origSpc := u.spc
      origMoves := u.moves, origPp := u.pp
      species := t.species, type1 := t.type1, type2 := t.type2
      atk := t.atk, def' := t.def', spd := t.spd, spc := t.spc
      moves := t.moves, pp := fun _ => 5 }).emit "[POKEMON] transformed!" u.nickname
  else d

/-- The blocks between `applyMove` and Metronome. -/
def afterMove (d : Duel) (mv : MoveData) : Duel :=
  (((d.thrashTurn mv).counter mv).substitute mv).disable mv

/-- `useMove` after its call of `applyMove`. -/
def endMove (d : Duel) (r : Ready) : Except Fault Duel := do
  let d ← (d.afterMove r.mv).metronome r.mv
  let d ← d.mimic r
  return d.transform r.mv

def useMove (d : Duel) (moveSlot : UInt8) : Except Fault Duel := do
  match ← d.beginMove moveSlot with
  | (none, d) => return d
  | (some r, d) => do
    let d ← d.applyMove r.mv
    d.endMove r

end Duel
end MonsterMesh
