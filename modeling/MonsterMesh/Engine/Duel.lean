import MonsterMesh.Engine.State

/-! The part of the engine one move can touch: the two active mons, the field effects of both
sides and the generator. `user` and `target` are the references of the source's move code. -/
namespace MonsterMesh

/-! Message templates. -/
namespace Gen1Text

def crit := "A critical hit!"
def drain := "[POKEMON] had its energy drained!"
def faint := "[POKEMON] fainted!"
def forfeit := "[POKEMON] forfeited the match."
def immune := "It doesn't affect [POKEMON]..."
def miss := "[POKEMON]'s attack missed!"
def ohko := "It's a one-hit KO!"
def recoil := "[POKEMON] is hit with recoil!"
def resist := "It's not very effective..."
def statusBrn := "[POKEMON] was burned!"
def statusConfuse := "[POKEMON] became confused!"
def statusFrz := "[POKEMON] was frozen solid!"
def statusPar := "[POKEMON] is paralyzed! It may be unable to move!"
def statusPsn := "[POKEMON] was poisoned!"
def statusSlp := "[POKEMON] fell asleep!"
def super := "It's super effective!"
def switchIn := "Go! [POKEMON]!"
def switchOut := "Come back, [POKEMON]!"
def use := "[POKEMON] used [MOVE]!"

end Gen1Text

/-- Substitutes `[POKEMON]` and `[MOVE]`, the two placeholders the templates use. -/
def fillTemplate (poke move : CStr) : Nat → CStr → CStr
  | 0, _ => []
  | _, [] => []
  | n + 1, c :: rest =>
    if (cstr "[POKEMON]").isPrefixOf (c :: rest) then
      poke ++ fillTemplate poke move n ((c :: rest).drop 9)
    else if (cstr "[MOVE]").isPrefixOf (c :: rest) then
      move ++ fillTemplate poke move n ((c :: rest).drop 6)
    else c :: fillTemplate poke move n rest

/-- The line `emit` builds in its 64-byte buffer. -/
def emitLine (tmpl : String) (poke move : CStr) : CStr :=
  (fillTemplate poke move (cstr tmpl).length (cstr tmpl)).take 63

structure Duel where
  gen : UInt8
  /-- `log != nullptr` -/
  sink : Bool
  rng : Rng
  user : BattlePoke
  target : BattlePoke
  userFx : FieldFx
  targetFx : FieldFx
  out : Output

namespace Duel

def isGen3 (d : Duel) : Bool := 3 ≤ d.gen

def say (d : Duel) (line : CStr) : Duel :=
  { d with out := { d.out with lines := if d.sink then d.out.lines ++ [line] else d.out.lines } }

def emit (d : Duel) (tmpl : String) (poke : CStr) : Duel := d.say (emitLine tmpl poke [])

def emitMove (d : Duel) (tmpl : String) (poke : CStr) (move : String) : Duel :=
  d.say (emitLine tmpl poke (cstr move))

def rand32 (d : Duel) : UInt32 × Duel :=
  (d.rng.rand32.1, { d with rng := d.rng.rand32.2 })

/-- `percent(p)` -/
def percent (d : Duel) (p : UInt8) : Bool × Duel :=
  (d.rand32.1 % 100 < p.toUInt32, d.rand32.2)

/-- Stores `v` in a `uint16_t`, noting whether it fits. -/
def narrow (d : Duel) (v : Nat) : UInt16 × Duel :=
  (UInt16.ofNat v, { d with out := { d.out with truncated := d.out.truncated || 65536 ≤ v } })

def setUser (d : Duel) (m : BattlePoke) : Duel := { d with user := m }

def setTarget (d : Duel) (m : BattlePoke) : Duel := { d with target := m }

end Duel

/-- The six stages, as lenses on a mon. -/
inductive Stage where
  | atk | def' | spd | spc | acc | eva
deriving DecidableEq

namespace BattlePoke

def boost (m : BattlePoke) : Stage → Int8
  | .atk => m.atkBoost
  | .def' => m.defBoost
  | .spd => m.spdBoost
  | .spc => m.spcBoost
  | .acc => m.accBoost
  | .eva => m.evaBoost

def setBoost (m : BattlePoke) (s : Stage) (v : Int8) : BattlePoke :=
  match s with
  | .atk => { m with atkBoost := v }
  | .def' => { m with defBoost := v }
  | .spd => { m with spdBoost := v }
  | .spc => { m with spcBoost := v }
  | .acc => { m with accBoost := v }
  | .eva => { m with evaBoost := v }

/-- `if (hp <= d) hp = 0; else hp -= d;` -/
def hurt (m : BattlePoke) (d : UInt16) : BattlePoke :=
  { m with hp := if m.hp ≤ d then 0 else m.hp - d }

/-- `hp += heal; if (hp > maxHp) hp = maxHp;` -/
def restore (m : BattlePoke) (heal : UInt16) : BattlePoke :=
  { m with hp := if m.maxHp < m.hp + heal then m.maxHp else m.hp + heal }

/-- The six stages back to 0. -/
def clearBoosts (m : BattlePoke) : BattlePoke :=
  { m with atkBoost := 0, defBoost := 0, spdBoost := 0, spcBoost := 0, accBoost := 0, evaBoost := 0 }

def asleep (m : BattlePoke) : Bool := m.status &&& stSlp ≠ 0

def burned (m : BattlePoke) : Bool := m.status &&& stBrn ≠ 0

def frozen (m : BattlePoke) : Bool := m.status &&& stFrz ≠ 0

def poisoned (m : BattlePoke) : Bool := m.status &&& stPsn ≠ 0

def paralyzed (m : BattlePoke) : Bool := m.status &&& stPar ≠ 0

end BattlePoke

/-- The name a stage has in a message. -/
def Stage.label : Stage → String
  | .atk => "Attack"
  | .def' => "Defense"
  | .spd => "Speed"
  | .spc => "Special"
  | .acc => "accuracy"
  | .eva => "evasion"

/-- `emitStatChange`: the new stage and the message; without a sink it does nothing. -/
def statChange (stage : Int8) (up : Bool) : Int8 × String :=
  if up then
    if 6 ≤ stage then (stage, " maxed!") else (stage + 1, " rose!")
  else if stage ≤ -6 then (stage, " bottomed!") else (stage - 1, " fell!")

def statChangeLine (m : BattlePoke) (s : Stage) (suffix : String) : CStr :=
  m.nickname.take 10 ++ cstr "'s " ++ cstr s.label ++ cstr suffix

def Duel.userStat (d : Duel) (s : Stage) (up : Bool) : Duel :=
  if d.sink then
    let r := statChange (d.user.boost s) up
    (d.setUser (d.user.setBoost s r.1)).say (statChangeLine d.user s r.2)
  else d

def Duel.targetStat (d : Duel) (s : Stage) (up : Bool) : Duel :=
  if d.sink then
    let r := statChange (d.target.boost s) up
    (d.setTarget (d.target.setBoost s r.1)).say (statChangeLine d.target s r.2)
  else d

/-! ### Hit roll and damage -/

/-- The accuracy after both stages, in units of 1/10000 percent. -/
def Duel.hitProduct (d : Duel) (mv : MoveData) : Nat :=
  mv.accuracy.toNat * boostMult d.user.accBoost * boostMult (-d.target.evaBoost)

def Duel.rollHit (d : Duel) (mv : MoveData) : Bool × Duel :=
  if mv.accuracy = 0 then (true, d)
  else
    let threshold := min (d.hitProduct mv / 10000) 100
    (d.rand32.1.toNat % 100 < threshold, d.rand32.2)

/-- A value of an `int32_t` computation all of whose operands are non-negative. -/
def int32 (v : Nat) : Except Fault Nat :=
  if v < 2147483648 then .ok v else .error .signedOverflow

def divide (a b : Nat) : Except Fault Nat := if b = 0 then .error .divByZero else .ok (a / b)

def modulo (a b : Nat) : Except Fault Nat := if b = 0 then .error .divByZero else .ok (a % b)

def isSpecialType (gen type : UInt8) : Bool :=
  if 3 ≤ gen then type < gen3TypeCount && gen3TypeIsSpecial.getD type.toNat false
  else 9 ≤ type && type ≤ 15

def BattlePoke.attackStat (m : BattlePoke) (gen type : UInt8) : UInt16 :=
  if isSpecialType gen type then (if 3 ≤ gen then m.spaG3 else m.spc) else m.atk

def BattlePoke.defenceStat (m : BattlePoke) (gen type : UInt8) : UInt16 :=
  if isSpecialType gen type then (if 3 ≤ gen then m.spdG3 else m.spc) else m.def'

def BattlePoke.attackStage (m : BattlePoke) (gen type : UInt8) : Int8 :=
  if isSpecialType gen type then m.spcBoost else m.atkBoost

def BattlePoke.defenceStage (m : BattlePoke) (gen type : UInt8) : Int8 :=
  if isSpecialType gen type then m.spcBoost else m.defBoost

/-- The screen that doubles the defence used against a move of this type. -/
def FieldFx.screens (fx : FieldFx) (gen type : UInt8) : Bool :=
  if isSpecialType gen type then fx.lightScreen else fx.reflect

/-- The critical-hit roll. -/
def Duel.rollCrit (d : Duel) : Bool × Duel :=
  let r := d.rand32.1 &&& 0xFF
  let crit :=
    if d.isGen3 then
      if d.userFx.focused then r &&& 0x3 = 0 else r &&& 0xF = 0
    else
      let bs := gen1BaseStats (if d.user.species < 152 then d.user.species else 0)
      let critRate := bs.spd.toNat / 2
      let critRate := if d.userFx.focused then critRate / 4 else critRate
      r.toNat < min critRate 255
  (crit, d.rand32.2)

/-- The attack and defence values `A` and `D` after stages, burn and screens. -/
def Duel.boostedStats (d : Duel) (mv : MoveData) : Except Fault (Nat × Nat) := do
  let a ← int32 ((d.user.attackStat d.gen mv.type).toNat *
    boostMult (d.user.attackStage d.gen mv.type))
  let b ← int32 ((d.target.defenceStat d.gen mv.type).toNat *
    boostMult (d.target.defenceStage d.gen mv.type))
  let a := if d.user.burned then a / 100 / 2 else a / 100
  let b ← if d.targetFx.screens d.gen mv.type then int32 (b / 100 * 2) else .ok (b / 100)
  return (a, b)

/-- A critical hit ignores stages and screens. -/
def Duel.rawStats (d : Duel) (mv : MoveData) : Nat × Nat :=
  let a := (d.user.attackStat d.gen mv.type).toNat
  (if d.user.burned then a / 2 else a, (d.target.defenceStat d.gen mv.type).toNat)

/-- The damage before the variance roll. -/
def Duel.baseDamage (d : Duel) (mv : MoveData) (crit : Bool) (a b : Nat) : Except Fault Nat := do
  let level := if crit && !d.isGen3 then d.user.level.toNat * 2 else d.user.level.toNat
  let n ← int32 ((2 * level / 5 + 2) * mv.power.toNat)
  let n ← int32 (n * a)
  let n ← divide n b
  let dmg := n / 50 + 2
  let dmg ← if crit && d.isGen3 then int32 (dmg * 2) else .ok dmg
  let dmg ← if mv.type = d.user.type1 ∨ mv.type = d.user.type2 then
      (· / 2) <$> int32 (dmg * 3) else .ok dmg
  let e1 := effectiveness d.gen mv.type d.target.type1
  let e2 := if d.target.type1 ≠ d.target.type2 then effectiveness d.gen mv.type d.target.type2
    else 2
  let dmg ← (· / 2) <$> int32 (dmg * e1.toNat)
  (· / 2) <$> int32 (dmg * e2.toNat)

/-- The variance roll, 217 to 255 parts of 255, and the clamp to 1 .. 65535. -/
def Duel.varyDamage (d : Duel) (dmg : Nat) : Except Fault (UInt16 × Duel) :=
  if dmg = 0 then .ok (0, d)
  else do
    let v ← int32 (dmg * (217 + d.rand32.1.toNat % 39))
    return (UInt16.ofNat (min (max (v / 255) 1) 65535), d.rand32.2)

/-- `calcDamage`: the damage, the critical flag and the duel after the draws. -/
def Duel.calcDamage (d : Duel) (mv : MoveData) : Except Fault (UInt16 × Bool × Duel) :=
  if mv.power = 0 then .ok (0, false, d)
  else do
    let boosted ← d.boostedStats mv
    let crit := d.rollCrit.1
    let d := d.rollCrit.2
    let stats := if crit then d.rawStats mv else boosted
    let dmg ← d.baseDamage mv crit stats.1 stats.2
    let r ← d.varyDamage dmg
    return (r.1, crit, r.2)

end MonsterMesh
