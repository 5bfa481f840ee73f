import MonsterMesh.Engine.Move
import MonsterMesh.Engine.State
import MonsterMesh.Lib.Run

/-! A whole turn: who acts first, both actions, the end-of-turn ticks and the win check. -/
namespace MonsterMesh

open Fallible

/-! ### One side's action -/

def BattleParty.fielded (p : BattleParty) (m : BattlePoke) (fx : FieldFx) : BattleParty :=
  { p.setActiveMon m with toFieldFx := fx }

/-- What a move of `side` reads and writes. -/
def Engine.duel (e : Engine) (side : Side) (sink : Bool) : Duel :=
  { gen := e.gen, sink := sink, rng := e.s
    user := (e.p side).activeMon, target := (e.p side.other).activeMon
    userFx := (e.p side).toFieldFx, targetFx := (e.p side.other).toFieldFx
    out := .empty }

/-- The engine after a move of `side` left the duel `d`. -/
def Engine.absorb (e : Engine) (side : Side) (d : Duel) : Engine :=
  { e with
    s := d.rng
    p := fun t =>
      if t = side then (e.p t).fielded d.user d.userFx else (e.p t).fielded d.target d.targetFx }

def Engine.setParty (e : Engine) (side : Side) (p : BattleParty) : Engine :=
  { e with p := Function.update e.p side p }

/-- The line `emit` sends to a sink, if there is one. -/
def sinkLine (sink : Bool) (tmpl : String) (poke : CStr) : Output :=
  ⟨if sink then [emitLine tmpl poke []] else [], false⟩

/-- The Mimic'd slot gets its own move and PP back. -/
def BattlePoke.unmimic (m : BattlePoke) : BattlePoke :=
  if h : m.mimicSlot.toNat < 4 then
    { m with
      moves := Function.update m.moves ⟨m.mimicSlot.toNat, h⟩ m.mimicOrigMove
      pp := Function.update m.pp ⟨m.mimicSlot.toNat, h⟩ m.mimicOrigPp
      mimicSlot := 0xFF, mimicOrigMove := 0, mimicOrigPp := 0 }
  else m

/-- A transformed mon gets its own species, types, stats and moves back. -/
def BattlePoke.untransform (m : BattlePoke) : BattlePoke :=
  if m.transformed then
    { m with
      species := m.origSpecies, type1 := m.origType1, type2 := m.origType2
      atk := m.origAtk, def' := m.origDef, spd := m.origSpd, spc := m.origSpc
      moves := m.origMoves, pp := m.origPp, transformed := false }
  else m

def BattlePoke.clearVolatile (m : BattlePoke) : BattlePoke :=
  let m := { m.clearBoosts with
    confuseTurns := 0, mustRecharge := false, thrashing := false, thrashTurns := 0
    disabledSlot := 0xFF, disabledTurns := 0, flinched := false, chargingSlot := 0xFF
    trapTurns := 0, thrashSlot := 0xFF, bideTurns := 0, bideDamage := 0
    rageActive := false, substituteHp := 0, lastDamageTaken := 0 }
  m.unmimic.untransform

/-- The mon leaving the field is cleared, then slot `i` becomes the active one. -/
def BattleParty.switchTo (p : BattleParty) (i : Fin 6) : BattleParty :=
  { p.setActiveMon p.activeMon.clearVolatile with active := i }

/-- The slot a switch names: another member of the party, still standing. -/
def BattleParty.switchTarget (p : BattleParty) (idx : UInt8) : Option (Fin 6) :=
  if h : idx.toNat < p.count.val then
    let i : Fin 6 := ⟨idx.toNat, by omega⟩
    if i = p.active ∨ (p.mons i).hp = 0 then none else some i
  else none

def Engine.stepAction (e : Engine) (side : Side) (sink : Bool) : Except Fault (Engine × Output) :=
  if e.result ≠ .ongoing ∨ (e.p side).activeMon.hp = 0 then .ok (e, .empty)
  else if e.pendAction side = 1 then
    match (e.p side).switchTarget (e.pendIndex side) with
    | none => .ok (e, .empty)
    | some i =>
      .ok (e.setParty side ((e.p side).switchTo i),
        sinkLine sink Gen1Text.switchOut (e.p side).activeMon.nickname ++
          sinkLine sink Gen1Text.switchIn ((e.p side).mons i).nickname)
  else if e.pendAction side = 0 then
    (fun d => (e.absorb side d, d.out)) <$> (e.duel side sink).useMove (e.pendIndex side)
  else .ok (e, .empty)

theorem Engine.stepAction_pendAction (e : Engine) (s : Side) (sink : Bool) {r : Engine × Output}
    (h : e.stepAction s sink = .ok r) : r.1.pendAction = e.pendAction := by
  unfold stepAction at h
  split_ifs at h
  · cases h
    rfl
  · split at h <;> cases h <;> rfl
  · obtain ⟨d, _, rfl⟩ := map_eq_ok.mp h
    rfl
  · cases h
    rfl

/-! ### End of turn -/

/-- Damage of one `n`-th of the maximum, at least 1. -/
def BattlePoke.chip (m : BattlePoke) (n : UInt16) : BattlePoke :=
  m.hurt (if m.maxHp / n = 0 then 1 else m.maxHp / n)

/-- One source of residual damage, with its line. -/
def BattlePoke.tick (m : BattlePoke) (active : Bool) (n : UInt16) (line : String) (sink : Bool) :
    BattlePoke × Output :=
  if active then (m.chip n, sinkLine sink line m.nickname) else (m, .empty)

/-- Poison, burn and trap; the trap also loses a turn. -/
def BattlePoke.residual (m : BattlePoke) (sink : Bool) : BattlePoke × Output :=
  let a := m.tick m.poisoned 8 "[POKEMON] is hurt by poison!" sink
  let b := a.1.tick a.1.burned 8 "[POKEMON] is hurt by its burn!" sink
  let c := b.1.tick (0 < b.1.trapTurns) 16 "[POKEMON] is hurt by trap!" sink
  ({ c.1 with trapTurns := c.1.trapTurns - (if 0 < c.1.trapTurns then 1 else 0) },
    a.2 ++ b.2 ++ c.2)

/-- The screens lose a turn and go down at 0. -/
def FieldFx.countDown (fx : FieldFx) : FieldFx :=
  let fx := if fx.lightScreenTurns ≠ 0 then
    { fx with lightScreenTurns := fx.lightScreenTurns - 1
              lightScreen := if fx.lightScreenTurns - 1 = 0 then false else fx.lightScreen }
    else fx
  if fx.reflectTurns ≠ 0 then
    { fx with reflectTurns := fx.reflectTurns - 1
              reflect := if fx.reflectTurns - 1 = 0 then false else fx.reflect }
  else fx

def BattleParty.endOfTurn (p : BattleParty) (sink : Bool) : BattleParty × Output :=
  if p.activeMon.hp = 0 then (p, .empty)
  else
    let r := p.activeMon.residual sink
    (p.fielded r.1 p.toFieldFx.countDown,
      if r.1.hp = 0 then r.2 ++ sinkLine sink Gen1Text.faint r.1.nickname else r.2)

def Engine.applyEndOfTurn (e : Engine) (side : Side) (sink : Bool) : Engine × Output :=
  (e.setParty side ((e.p side).endOfTurn sink).1, ((e.p side).endOfTurn sink).2)

/-! ### Turn order and `executeTurn` -/

/-- The priority of the submitted action: +6 for a switch, the move's own for a move. -/
def Engine.actionPriority (e : Engine) (side : Side) : Int :=
  if e.pendAction side = 1 then 6
  else if h : e.pendAction side = 0 ∧ (e.pendIndex side).toNat < 4 then
    ((mdata e.gen ((e.p side).activeMon.moves ⟨(e.pendIndex side).toNat, h.2⟩)).map
      (·.priority)).getD 0
  else 0

/-- Speed times its stage, in hundredths. -/
def BattlePoke.speedProduct (m : BattlePoke) : Nat := m.spd.toNat * boostMult m.spdBoost

/-- Speed after stages and paralysis. -/
def BattlePoke.turnSpeed (m : BattlePoke) : Nat :=
  let s := m.speedProduct / 100
  if m.paralyzed then s / 4 else s

/-- `pokeActsFirst`: priority, then speed, then a coin. -/
def Engine.pokeActsFirst (e : Engine) (side : Side) : Bool × Engine :=
  let pri1 := e.actionPriority side
  let pri2 := e.actionPriority side.other
  if pri1 ≠ pri2 then (pri2 < pri1, e)
  else
    let s1 := (e.p side).activeMon.turnSpeed
    let s2 := (e.p side.other).activeMon.turnSpeed
    if s1 ≠ s2 then (s2 < s1, e)
    else (e.s.rand32.1 &&& 1 = 0, { e with s := e.s.rand32.2 })

/-- The side whose action runs first, with the engine after the draw. -/
def Engine.firstSide (e : Engine) : Side × Engine :=
  (if (e.pokeActsFirst .zero).1 then .zero else .one, (e.pokeActsFirst .zero).2)

/-- The result once every action and tick of the turn is done. -/
def Engine.outcome (e : Engine) : Result :=
  match (e.p .zero).anyAlive, (e.p .one).anyAlive with
  | false, false => .draw
  | false, true => .p2Win
  | true, false => .p1Win
  | true, true => e.result

/-- The pending actions are consumed, the turn is counted and the winner looked for. -/
def Engine.closeTurn (e : Engine) : Engine :=
  { e with pendAction := fun _ => 0xFF, turn := e.turn + 1, result := e.outcome }

/-- Whether `executeTurn` does anything. -/
def Engine.ready (e : Engine) : Bool :=
  e.result = .ongoing ∧ e.pendAction .zero ≠ 0xFF ∧ e.pendAction .one ≠ 0xFF

/-- The turn of an engine that is ready, `first` being the side to act first. -/
def Engine.playTurn (e : Engine) (first : Side) (sink : Bool) :
    Except Fault (Engine × Output) := do
  let (e, o1) ← e.stepAction first sink
  let (e, o2) ← e.stepAction first.other sink
  let (e, o3) := e.applyEndOfTurn first sink
  let (e, o4) := e.applyEndOfTurn first.other sink
  return (e.closeTurn, o1 ++ o2 ++ o3 ++ o4)

def Engine.executeTurn (e : Engine) (sink : Bool) : Except Fault (Engine × Output) :=
  if e.ready then e.firstSide.2.playTurn e.firstSide.1 sink else .ok (e, .empty)

/-- The first standing slot of a party. -/
def BattleParty.firstAlive (p : BattleParty) : Option (Fin 6) :=
  p.slots.find? (fun i => 0 < (p.mons i).hp)

def Engine.autoReplaceIfFainted (e : Engine) (side : Side) (sink : Bool) :
    Bool × Engine × Output :=
  if 0 < (e.p side).activeMon.hp then (true, e, .empty)
  else
    match (e.p side).firstAlive with
    | some i => (true, e.setParty side ((e.p side).switchTo i),
        sinkLine sink Gen1Text.switchIn ((e.p side).mons i).nickname)
    | none => (false, e, .empty)

def Engine.forfeit (e : Engine) (side : Side) (sink : Bool) : Engine × Output :=
  ({ e with result := match side with
      | .zero => .p2Win
      | .one => .p1Win },
    sinkLine sink Gen1Text.forfeit (e.p side).activeMon.nickname)

/-! ### The calls of `applyMove` in a turn -/

/-- The calls of `applyMove` that one `useMove` makes, each with the duel it is entered in. -/
def Duel.calls (d : Duel) (moveSlot : UInt8) : List (MoveData × Duel) :=
  match d.beginMove moveSlot with
  | .ok (some r, d) => (r.mv, d) ::
    match d.applyMove r.mv with
    | .ok d =>
      match (d.afterMove r.mv).metronomeRoll r.mv with
      | (some picked, d) => [(picked, d)]
      | (none, _) => []
    | .error _ => []
  | _ => []

def Engine.stepCalls (e : Engine) (side : Side) (sink : Bool) : List (MoveData × Duel) :=
  if e.result = .ongoing ∧ (e.p side).activeMon.hp ≠ 0 ∧ e.pendAction side = 0 then
    (e.duel side sink).calls (e.pendIndex side)
  else []

def Engine.playCalls (e : Engine) (first : Side) (sink : Bool) : List (MoveData × Duel) :=
  e.stepCalls first sink ++
    match e.stepAction first sink with
    | .ok (e, _) => e.stepCalls first.other sink
    | .error _ => []

def Engine.turnCalls (e : Engine) (sink : Bool) : List (MoveData × Duel) :=
  if e.ready then e.firstSide.2.playCalls e.firstSide.1 sink else []

/-! ### State hash and computer opponent -/

/-- FNV-1a over bytes. -/
def fnv1a (h : UInt64) (bytes : List UInt8) : UInt64 :=
  bytes.foldl (fun h b => (h ^^^ b.toUInt64) * 1099511628211) h

def bytes16 (v : UInt16) : List UInt8 := [v.toUInt8, (v >>> 8).toUInt8]

def bytes32 (v : UInt32) : List UInt8 :=
  [v.toUInt8, (v >>> 8).toUInt8, (v >>> 16).toUInt8, (v >>> 24).toUInt8]

def byteOf (b : Bool) : UInt8 := if b then 1 else 0

def BattlePoke.hashFlags (m : BattlePoke) : UInt8 :=
  (if m.mustRecharge then 0x01 else 0) ||| (if m.thrashing then 0x02 else 0) |||
    (if m.flinched then 0x04 else 0) ||| (if m.rageActive then 0x08 else 0) |||
    (if m.transformed then 0x10 else 0)

/-- The bytes of a mon `hashState` mixes, in its order. -/
def BattlePoke.hashBytes (m : BattlePoke) : List UInt8 :=
  [m.species, m.level, m.type1, m.type2] ++ bytes16 m.maxHp ++
    bytes16 m.atk ++ bytes16 m.def' ++ bytes16 m.spd ++ bytes16 m.spc ++
    List.ofFn m.moves ++ bytes16 m.hp ++ [m.status, m.sleepTurns, m.confuseTurns] ++
    [m.atkBoost.toUInt8, m.defBoost.toUInt8, m.spdBoost.toUInt8, m.spcBoost.toUInt8,
      m.accBoost.toUInt8, m.evaBoost.toUInt8] ++
    [m.toxicCounter, m.hashFlags, m.thrashTurns, m.lastMoveIdx, m.disabledSlot,
      m.disabledTurns, m.chargingSlot, m.trapTurns, m.thrashSlot] ++
    bytes16 m.bideTurns ++ bytes16 m.bideDamage ++ bytes16 m.substituteHp ++
    bytes16 m.lastDamageTaken ++ [m.mimicSlot, m.mimicOrigMove, m.mimicOrigPp] ++
    List.ofFn m.pp

def fnvOffset : UInt64 := 1469598103934665603

def BattleParty.sideHash (p : BattleParty) : UInt64 :=
  fnv1a fnvOffset
    ([UInt8.ofNat p.active.val, byteOf p.reflect, byteOf p.lightScreen, byteOf p.mist,
        byteOf p.focused, p.reflectTurns, p.lightScreenTurns] ++
      p.slots.flatMap (fun i => (p.mons i).hashBytes))

/-- `hashState`: eight bytes, least significant first. -/
def Engine.hashState (e : Engine) : List UInt8 :=
  let th := fnv1a fnvOffset (bytes16 e.turn ++ bytes32 e.s.s0 ++ bytes32 e.s.s1 ++
    bytes32 e.s.s2 ++ bytes32 e.s.s3 ++ bytes32 e.rng)
  let h := th ^^^ (e.p .zero).sideHash ^^^ (e.p .one).sideHash
  (List.range 8).map (fun i => (h >>> UInt64.ofNat (i * 8)).toUInt8)

/-- The score `cpuPickAction` gives to a usable slot. -/
def Engine.cpuScore (e : Engine) (side : Side) (i : Fin 4) : Option Nat :=
  let m := (e.p side).activeMon
  let foe := (e.p side.other).activeMon
  if m.moves i = 0 ∨ m.pp i = 0 then none
  else
    (mdata e.gen (m.moves i)).map fun mv =>
      let score := mv.power.toNat
      let score := if mv.type = m.type1 ∨ mv.type = m.type2 then score * 3 / 2 else score
      let e1 := effectiveness e.gen mv.type foe.type1
      let e2 := if foe.type1 ≠ foe.type2 then effectiveness e.gen mv.type foe.type2 else 2
      let score := score * e1.toNat * e2.toNat / 4
      if mv.power = 0 ∧ foe.status = stNone then 30 else score

/-- `cpuPickAction`: action type and index. -/
def Engine.cpuPickAction (e : Engine) (side : Side) : UInt8 × UInt8 :=
  if (e.p side).activeMon.hp = 0 then
    (1, UInt8.ofNat (((e.p side).firstAlive.map (·.val)).getD 0))
  else
    let best := (List.finRange 4).foldl (fun (best : Option (Nat × Fin 4)) i =>
      match e.cpuScore side i, best with
      | some s, none => some (s, i)
      | some s, some (b, j) => if b < s then some (s, i) else some (b, j)
      | none, b => b) none
    (0, match best with
      | some (_, i) => UInt8.ofNat i.val
      | none => 0xFE)

end MonsterMesh
