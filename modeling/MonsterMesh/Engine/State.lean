import Mathlib.Data.Fintype.Pi
import MonsterMesh.Data.Moves
import MonsterMesh.Data.Species

/-! The state of the battle engine: mons, sides, random words and pending actions. -/
namespace MonsterMesh

/-- What the C++ leaves undefined. A step that would do one of these has no successor state. -/
inductive Fault where
  | divByZero | signedOverflow | outOfBounds | nullSink
deriving DecidableEq, Repr

/-- The two sides of a battle, 0 and 1 in the source. -/
inductive Side where
  | zero | one
deriving DecidableEq, Repr

instance : Fintype Side := ⟨{.zero, .one}, by intro s; cases s <;> decide⟩

def Side.other : Side → Side
  | .zero => .one
  | .one => .zero

@[simp] theorem Side.other_other (s : Side) : s.other.other = s := by cases s <;> rfl

@[simp] theorem Side.other_ne (s : Side) : s.other ≠ s := by cases s <;> decide

theorem Side.eq_or_eq_other (s t : Side) : t = s ∨ t = s.other := by
  cases s <;> cases t <;> simp [Side.other]

theorem Side.forall_iff {P : Side → Prop} (s : Side) : (∀ t, P t) ↔ P s ∧ P s.other := by
  refine ⟨fun h => ⟨h s, h s.other⟩, fun h t => ?_⟩
  rcases s.eq_or_eq_other t with rfl | rfl
  · exact h.1
  · exact h.2

/-- A C string: its bytes up to the terminator. -/
abbrev CStr := List UInt8

def cstr (s : String) : CStr := s.toUTF8.data.toList

/-- `gen1CharToAscii` -/
def gen1CharToAscii (c : UInt8) : UInt8 :=
  if 0x80 ≤ c ∧ c ≤ 0x99 then 65 + (c - 0x80)
  else if 0xA0 ≤ c ∧ c ≤ 0xB9 then 97 + (c - 0xA0)
  else if 0xF6 ≤ c then 48 + (c - 0xF6)
  else if c = 0x7F then 32
  else if c = 0x50 then 0
  else if c = 0xE8 then 46
  else 63

/-! Status condition bits. -/

def stNone : UInt8 := 0x00
def stSlp : UInt8 := 0x07
def stPsn : UInt8 := 0x08
def stBrn : UInt8 := 0x10
def stFrz : UInt8 := 0x20
def stPar : UInt8 := 0x40

/-- A record of the save file. `moves`, `dvs` and the experience words are raw bytes. -/
structure Gen1Pokemon where
  species : UInt8
  hp : UInt16
  boxLevel : UInt8
  status : UInt8
  moves : Fin 4 → UInt8
  (hpExp atkExp defExp spdExp spcExp : UInt16)
  (dvs0 dvs1 : UInt8)
  pp : Fin 4 → UInt8
  level : UInt8

def Gen1Pokemon.zero : Gen1Pokemon :=
  ⟨0, 0, 0, 0, fun _ => 0, 0, 0, 0, 0, 0, 0, 0, fun _ => 0, 0⟩

structure Gen1Party where
  count : UInt8
  species : Fin 7 → UInt8
  mons : Fin 6 → Gen1Pokemon
  nicknames : Fin 6 → Fin 11 → UInt8

@[ext]
structure BattlePoke where
  species : UInt8
  nickname : CStr
  level : UInt8
  (type1 type2 : UInt8)
  (hp maxHp : UInt16)
  (atk def' spd spc : UInt16)
  (spaG3 spdG3 : UInt16)
  (moves pp : Fin 4 → UInt8)
  status : UInt8
  (sleepTurns confuseTurns : UInt8)
  (atkBoost defBoost spdBoost spcBoost accBoost evaBoost : Int8)
  toxicCounter : UInt8
  mustRecharge : Bool
  thrashing : Bool
  thrashTurns : UInt8
  lastMoveIdx : UInt8
  disabledSlot : UInt8
  disabledTurns : UInt8
  flinched : Bool
  chargingSlot : UInt8
  trapTurns : UInt8
  thrashSlot : UInt8
  bideTurns : UInt16
  bideDamage : UInt16
  rageActive : Bool
  substituteHp : UInt16
  lastDamageTaken : UInt16
  (mimicSlot mimicOrigMove mimicOrigPp : UInt8)
  transformed : Bool
  (origSpecies origType1 origType2 : UInt8)
  (origAtk origDef origSpd origSpc : UInt16)
  (origMoves origPp : Fin 4 → UInt8)

instance : DecidableEq BattlePoke := fun _ _ => decidable_of_iff _ BattlePoke.ext_iff.symm

/-- A zeroed slot, as `memset` leaves it. -/
def BattlePoke.zero : BattlePoke :=
  { species := 0, nickname := [], level := 0, type1 := 0, type2 := 0, hp := 0, maxHp := 0
    atk := 0, def' := 0, spd := 0, spc := 0, spaG3 := 0, spdG3 := 0
    moves := fun _ => 0, pp := fun _ => 0, status := 0, sleepTurns := 0, confuseTurns := 0
    atkBoost := 0, defBoost := 0, spdBoost := 0, spcBoost := 0, accBoost := 0, evaBoost := 0
    toxicCounter := 0, mustRecharge := false, thrashing := false, thrashTurns := 0
    lastMoveIdx := 0, disabledSlot := 0, disabledTurns := 0, flinched := false
    chargingSlot := 0, trapTurns := 0, thrashSlot := 0, bideTurns := 0, bideDamage := 0
    rageActive := false, substituteHp := 0, lastDamageTaken := 0
    mimicSlot := 0, mimicOrigMove := 0, mimicOrigPp := 0, transformed := false
    origSpecies := 0, origType1 := 0, origType2 := 0
    origAtk := 0, origDef := 0, origSpd := 0, origSpc := 0
    origMoves := fun _ => 0, origPp := fun _ => 0 }

/-- The field effects of one side. -/
@[ext]
structure FieldFx where
  (reflect lightScreen mist focused : Bool)
  (reflectTurns lightScreenTurns : UInt8)
deriving DecidableEq

def FieldFx.none : FieldFx := ⟨false, false, false, false, 0, 0⟩

/-- One side. `count` is at most six by its type, as the loader clips it. -/
@[ext]
structure BattleParty extends FieldFx where
  mons : Fin 6 → BattlePoke
  count : Fin 7
  active : Fin 6

instance : DecidableEq BattleParty := fun _ _ => decidable_of_iff _ BattleParty.ext_iff.symm

def BattleParty.zero : BattleParty :=
  { FieldFx.none with mons := fun _ => .zero, count := 0, active := 0 }

/-- The mon on the field, `mons[active]`. -/
def BattleParty.activeMon (p : BattleParty) : BattlePoke := p.mons p.active

def BattleParty.setActiveMon (p : BattleParty) (m : BattlePoke) : BattleParty :=
  { p with mons := Function.update p.mons p.active m }

/-- The slots `0 .. count-1`, the ones every loop over a party visits. -/
def BattleParty.slots (p : BattleParty) : List (Fin 6) :=
  (List.finRange 6).filter (fun i => i.val < p.count.val)

def BattleParty.anyAlive (p : BattleParty) : Bool := p.slots.any (fun i => 0 < (p.mons i).hp)

inductive Result where
  | ongoing | p1Win | p2Win | draw
deriving DecidableEq, Repr

def Result.swap : Result → Result
  | .p1Win => .p2Win
  | .p2Win => .p1Win
  | r => r

/-- The four words of the xoshiro128+ generator. -/
structure Rng where
  (s0 s1 s2 s3 : UInt32)
deriving DecidableEq, Repr

def rotl32 (x : UInt32) (k : UInt32) : UInt32 := (x <<< k) ||| (x >>> (32 - k))

/-- `rand32`: the drawn word and the next generator state. -/
def Rng.rand32 (s : Rng) : UInt32 × Rng :=
  let t := s.s1 <<< 9
  let s2 := s.s2 ^^^ s.s0
  let s3 := s.s3 ^^^ s.s1
  let s1 := s.s1 ^^^ s2
  let s0 := s.s0 ^^^ s3
  (s.s0 + s.s3, ⟨s0, s1, s2 ^^^ t, rotl32 s3 11⟩)

@[ext]
structure Engine where
  p : Side → BattleParty
  rng : UInt32
  turn : UInt16
  gen : UInt8
  result : Result
  pendAction : Side → UInt8
  pendIndex : Side → UInt8
  s : Rng

instance : DecidableEq Engine := fun _ _ => decidable_of_iff _ Engine.ext_iff.symm

/-- What a call hands out besides the next state: the lines given to the log sink, and whether a
damage value lost bits when it was narrowed to `uint16_t`. -/
structure Output where
  lines : List CStr
  truncated : Bool
deriving DecidableEq

def Output.empty : Output := ⟨[], false⟩

def Output.append (a b : Output) : Output := ⟨a.lines ++ b.lines, a.truncated || b.truncated⟩

instance : Append Output := ⟨Output.append⟩

@[simp] theorem Output.append_truncated (a b : Output) :
    (a ++ b).truncated = (a.truncated || b.truncated) := rfl

/-- Move data of the active generation. -/
def mdata (gen id : UInt8) : Option MoveData := if 3 ≤ gen then gen3Move id else gen1Move id

def effectiveness (gen atkType defType : UInt8) : UInt8 :=
  if 3 ≤ gen then
    if gen3TypeCount ≤ atkType ∨ gen3TypeCount ≤ defType then 2
    else chartEntry gen3Typechart atkType defType
  else if gen1TypeCount ≤ atkType ∨ gen1TypeCount ≤ defType then 2
  else chartEntry gen1Typechart atkType defType

/-- The stage multiplier in hundredths. -/
def boostMult (stage : Int8) : Nat :=
  [25, 28, 33, 40, 50, 66, 100, 150, 200, 250, 300, 350, 400].getD
    (min (stage.toInt + 6).toNat 12) 100

end MonsterMesh

/-! Building mons, parties and battles from save records. -/
namespace MonsterMesh

/-- The probe bits `b` of the source's root loop, largest first. -/
def isqrtProbes : List Nat := [32768, 8192, 2048, 512, 128, 32, 8, 2]

/-- One round of the second loop on `(v, r)`. -/
def isqrtStep (s : Nat × Nat) (b : Nat) : Nat × Nat :=
  if s.2 + b ≤ s.1 then (s.1 - (s.2 + b), s.2 / 2 + b) else (s.1, s.2 / 2)

/-- `isqrt16`: the first loop skips the probes above `v`, the second runs over the others. -/
def isqrt16 (v : Nat) : Nat :=
  ((isqrtProbes.dropWhile (fun b => v < b)).foldl isqrtStep (v, 0)).2

def calcStat (base iv : UInt8) (expVal : UInt16) (level : UInt8) (isHp : Bool) : UInt16 :=
  let expBonus := (isqrt16 expVal.toNat + 3) / 4
  let v := ((base.toNat + iv.toNat) * 2 + expBonus) * level.toNat / 100
  UInt16.ofNat (if isHp then v + level.toNat + 10 else v + 5)

/-- `memset` to zero followed by `initSentinelFields`. -/
def BattlePoke.blank : BattlePoke :=
  { BattlePoke.zero with
    lastMoveIdx := 0xFF, disabledSlot := 0xFF, chargingSlot := 0xFF
    thrashSlot := 0xFF, mimicSlot := 0xFF }

/-- The nickname shown in battle: the save's, decoded, or the species name. -/
def battleNickname (dex : UInt8) (nick : Fin 11 → UInt8) : CStr :=
  let decoded : CStr :=
    if nick 0 ≠ 0 ∧ nick 0 ≠ 0x50 then
      (((List.finRange 11).take 10).map (fun i => gen1CharToAscii (nick i))).takeWhile (· ≠ 0)
    else []
  if decoded = [] ∨ decoded.head? = some 63 then
    (cstr (gen1SpeciesName (if dex < 152 then dexToInternal dex else 0))).take 10
  else decoded

/-- The saved HP, unless it is 0 or above the maximum. -/
def startHp (saved maxHp : UInt16) : UInt16 :=
  if saved = 0 ∨ maxHp < saved then maxHp else saved

theorem startHp_le (saved maxHp : UInt16) : startHp saved maxHp ≤ maxHp := by
  unfold startHp
  split_ifs with h
  · exact UInt16.le_refl _
  · exact UInt16.not_lt.mp (not_or.mp h).2

def initBattlePokeFromSave (src : Gen1Pokemon) (nick : Fin 11 → UInt8) (gen : UInt8) :
    BattlePoke :=
  let species := internalToDex src.species
  let level := if src.level ≠ 0 then src.level else src.boxLevel
  let atkDV := (src.dvs0 >>> 4) &&& 0xF
  let defDV := src.dvs0 &&& 0xF
  let spdDV := (src.dvs1 >>> 4) &&& 0xF
  let spcDV := src.dvs1 &&& 0xF
  let hpDV := ((atkDV &&& 1) <<< 3) ||| ((defDV &&& 1) <<< 2) |||
    ((spdDV &&& 1) <<< 1) ||| (spcDV &&& 1)
  let b := gen1BaseStats (if species < 152 then species else 0)
  let g := gen3BaseStats (if species < 152 then species else 0)
  let m := { BattlePoke.blank with
    species := species, nickname := battleNickname species nick, level := level }
  let m :=
    if 3 ≤ gen then
      { m with
        type1 := g.type1, type2 := g.type2
        maxHp := calcStat g.hp hpDV src.hpExp level true
        atk := calcStat g.atk atkDV src.atkExp level false
        def' := calcStat g.def' defDV src.defExp level false
        spd := calcStat g.spe spdDV src.spdExp level false
        spaG3 := calcStat g.spa spcDV src.spcExp level false
        spdG3 := calcStat g.spd spcDV src.spcExp level false
        spc := calcStat g.spa spcDV src.spcExp level false }
    else
      { m with
        type1 := b.type1, type2 := b.type2
        maxHp := calcStat b.hp hpDV src.hpExp level true
        atk := calcStat b.atk atkDV src.atkExp level false
        def' := calcStat b.def' defDV src.defExp level false
        spd := calcStat b.spd spdDV src.spdExp level false
        spc := calcStat b.spc spcDV src.spcExp level false }
  { m with
    hp := startHp src.hp m.maxHp
    moves := src.moves, pp := src.pp, status := src.status }

/-- The count of a party, clipped to six. -/
def Gen1Party.size (pty : Gen1Party) : Fin 7 := ⟨min pty.count.toNat 6, by omega⟩

/-- The side a party loads: the slots below its count, the rest zeroed. -/
def initSide (pty : Gen1Party) (gen : UInt8) : BattleParty :=
  { BattleParty.zero with
    count := pty.size
    mons := fun i =>
      if i.val < pty.size.val then initBattlePokeFromSave (pty.mons i) (pty.nicknames i) gen
      else .zero }

def seedRng (rngSeed : UInt32) : Rng :=
  let s0 := if rngSeed ≠ 0 then rngSeed else 0xDEADBEEF
  let s1 := rotl32 s0 7 ^^^ 0x9E3779B9
  let s2 := rotl32 s1 13 ^^^ 0x85EBCA77
  let s3 := rotl32 s2 17 ^^^ 0xC2B2AE3D
  ⟨s0, s1, s2, s3⟩

/-- `start` on an engine: everything but the pending indices is overwritten. -/
def Engine.start (e : Engine) (p1 p2 : Gen1Party) (rngSeed : UInt32) (gen : UInt8) : Engine :=
  { e with
    rng := rngSeed, gen := gen, turn := 0, result := .ongoing
    pendAction := fun _ => 0xFF
    s := seedRng rngSeed
    p := fun side => match side with
      | .zero => initSide p1 gen
      | .one => initSide p2 gen }

/-- A default-constructed engine. -/
def Engine.fresh : Engine :=
  { p := fun _ => .zero, rng := 0, turn := 0, gen := 3, result := .ongoing
    pendAction := fun _ => 0xFF, pendIndex := fun _ => 0, s := ⟨0, 0, 0, 0⟩ }

def Engine.replaceOpponent (e : Engine) (pty : Gen1Party) : Engine :=
  { e with
    p := Function.update e.p .one (initSide pty e.gen)
    result := .ongoing
    pendAction := fun _ => 0xFF
    pendIndex := fun _ => 0 }

def Engine.submitAction (e : Engine) (side : Side) (actionType index : UInt8) : Engine :=
  { e with
    pendAction := Function.update e.pendAction side actionType
    pendIndex := Function.update e.pendIndex side index }

/-- The heal every PvP start path runs after `start`: full HP, no status, PP from the table. -/
def BattlePoke.heal (m : BattlePoke) : BattlePoke :=
  { m with
    hp := m.maxHp
    status := 0
    pp := fun s => ((gen1Move (m.moves s)).map (·.pp)).getD 0 }

def BattleParty.heal (p : BattleParty) : BattleParty :=
  { p with mons := fun i => if i.val < p.count.val then (p.mons i).heal else p.mons i }

def Engine.heal (e : Engine) : Engine := { e with p := fun side => (e.p side).heal }

/-- One mon of level 20 that knows one move. -/
def soloParty (species move : UInt8) (hp : UInt16) : Gen1Party :=
  { count := 1, species := fun _ => species, nicknames := fun _ _ => 0x50
    mons := fun _ => { Gen1Pokemon.zero with
      species := species, hp := hp, level := 20, moves := fun _ => move, pp := fun _ => 20 } }

end MonsterMesh
