import Mathlib.Data.Fintype.Basic
import MonsterMesh.Dungeon.State
import MonsterMesh.Lib.Text

/-! A fight in the dungeon: the actors' attacks, the spells that enemies choose, and what conditions cost. -/
namespace MonsterMesh

/-- The byte of a type. -/
def PokeType.byte : PokeType → UInt8
  | .normal => 0
  | .fire => 1
  | .water => 2
  | .electric => 3
  | .grass => 4
  | .ice => 5
  | .fighting => 6
  | .poison => 7
  | .ground => 8
  | .flying => 9
  | .psychic => 10
  | .bug => 11
  | .rock => 12
  | .ghost => 13
  | .dragon => 14
  | .dark => 15
  | .steel => 16
  | .fairy => 17

namespace DungeonBattle

open Text

/-- Rows are attacking types, columns defending types: 0 for immune, else 50, 100 or 200 percent. -/
def gen1TypeChart : List (List UInt8) := [
  [100, 100, 100, 100, 100, 100, 100, 100, 100, 100, 100, 100, 50, 0, 100],
  [100, 50, 50, 100, 200, 200, 100, 100, 100, 100, 100, 200, 50, 100, 50],
  [100, 200, 50, 100, 50, 100, 100, 100, 200, 100, 100, 100, 200, 100, 50],
  [100, 100, 200, 50, 50, 100, 100, 100, 0, 200, 100, 100, 100, 100, 50],
  [100, 50, 200, 100, 50, 100, 100, 50, 200, 50, 100, 50, 200, 100, 50],
  [100, 50, 50, 100, 200, 50, 100, 100, 200, 200, 100, 100, 100, 100, 200],
  [200, 100, 100, 100, 100, 200, 100, 50, 100, 100, 50, 50, 200, 0, 100],
  [100, 100, 100, 100, 200, 100, 100, 50, 50, 100, 100, 200, 50, 50, 100],
  [100, 200, 100, 200, 50, 100, 100, 200, 100, 0, 100, 50, 200, 100, 100],
  [100, 100, 100, 50, 200, 100, 200, 100, 100, 100, 100, 200, 50, 100, 100],
  [100, 100, 100, 100, 100, 100, 200, 200, 100, 100, 50, 100, 100, 0, 100],
  [100, 50, 100, 100, 200, 100, 50, 200, 100, 50, 200, 100, 100, 100, 100],
  [100, 200, 100, 100, 100, 200, 50, 100, 50, 200, 100, 200, 100, 100, 100],
  [0, 100, 100, 100, 100, 100, 100, 100, 100, 100, 0, 100, 100, 200, 100],
  [100, 100, 100, 100, 100, 100, 100, 100, 100, 100, 100, 100, 100, 100, 200]]

def typeEffectiveness (atk dfn : UInt8) : UInt8 :=
  if 15 ≤ atk ∨ 15 ≤ dfn then 100 else (gen1TypeChart.getD atk.toNat []).getD dfn.toNat 100

/-- Combined effectiveness for a dual-type defender. -/
def typeEffectivenessDual (atk t1 t2 : UInt8) : UInt16 :=
  UInt16.ofNat ((typeEffectiveness atk t1).toNat * (typeEffectiveness atk t2).toNat / 100)

/-- The effectiveness that fits the byte of the damage formula. -/
def effCapped (atk t1 t2 : UInt8) : UInt8 :=
  if 200 < typeEffectivenessDual atk t1 t2 then 200 else (typeEffectivenessDual atk t1 t2).toUInt8

/-- The damage before the type chart, in 32 bits. -/
def rawDamage (level : UInt8) (attack : UInt16) (power : UInt8) (defense : UInt16) (stab : Bool) : UInt32 :=
  let lvlBonus := UInt32.ofNat (level.toNat * 2 / 5) + 2
  let raw := lvlBonus * attack.toUInt32 * power.toUInt32 / (if 0 < defense then defense.toUInt32 else 1) / 50 + 2
  if stab then raw * 150 / 100 else raw

def gen1Damage (level : UInt8) (attack : UInt16) (power : UInt8) (defense : UInt16) (typeEff : UInt8)
    (stab : Bool) : UInt16 :=
  if power = 0 then 0
  else
    let final := rawDamage level attack power defense stab * typeEff.toUInt32 / 100
    if 65535 < final then 65535 else final.toUInt16

/-! ### Spells -/

structure DnDSpell where
  name : String
  (slotLevel pokeType basePower : UInt8)
  /-- Positive heals. -/
  hpEffect : Int8
  (effectCode effectChance : UInt8)
deriving DecidableEq

/-- The spell list of each class. -/
def classSpells : DnDClass → List DnDSpell
  | .fighter => [⟨"Action Surge", 0, 6, 0, 0, 10, 100⟩, ⟨"Second Wind", 0, 0, 0, 20, 0, 0⟩,
      ⟨"Trip Attack", 0, 6, 50, 0, 13, 50⟩, ⟨"Disarming Strike", 0, 6, 55, 0, 12, 50⟩,
      ⟨"Sweeping Attack", 0, 6, 65, 0, 0, 0⟩, ⟨"Push Attack", 0, 6, 45, 0, 7, 30⟩]
  | .barbarian => [⟨"Rage", 0, 6, 0, 0, 10, 100⟩, ⟨"Reckless Attack", 0, 6, 80, 0, 0, 0⟩,
      ⟨"Frenzy Throw", 0, 12, 60, 0, 7, 20⟩, ⟨"Intimidate", 0, 0, 0, 0, 12, 100⟩,
      ⟨"Bear Totem", 0, 0, 0, 0, 11, 100⟩, ⟨"Brutal Critical", 0, 6, 95, 0, 0, 0⟩]
  | .ranger => [⟨"Hunter's Mark", 1, 0, 0, 0, 10, 100⟩, ⟨"Ensnaring Strike", 1, 4, 50, 0, 14, 50⟩,
      ⟨"Hail of Arrows", 1, 0, 55, 0, 0, 0⟩, ⟨"Lightning Arrow", 3, 3, 80, 0, 2, 20⟩,
      ⟨"Entangle", 1, 4, 0, 0, 14, 70⟩, ⟨"Volley", 5, 0, 75, 0, 0, 0⟩]
  | .rogue => [⟨"Sneak Attack", 0, 0, 75, 0, 0, 0⟩, ⟨"Cunning Action", 0, 0, 0, 0, 11, 100⟩,
      ⟨"Psychic Blade", 0, 10, 60, 0, 6, 30⟩, ⟨"Poison Dagger", 0, 7, 45, 0, 4, 40⟩,
      ⟨"Uncanny Dodge", 0, 0, 0, 0, 11, 100⟩, ⟨"Assassinate", 0, 0, 90, 0, 0, 0⟩]
  | .wizard => [⟨"Fireball", 3, 1, 80, 0, 1, 10⟩, ⟨"Magic Missile", 1, 10, 45, 0, 0, 0⟩,
      ⟨"Thunderwave", 1, 3, 50, 0, 2, 60⟩, ⟨"Ray of Frost", 0, 2, 40, 0, 2, 10⟩,
      ⟨"Cone of Cold", 5, 5, 85, 0, 5, 20⟩, ⟨"Disintegrate", 6, 10, 120, 0, 0, 0⟩]
  | .sorcerer => [⟨"Burning Hands", 1, 1, 50, 0, 1, 10⟩, ⟨"Chromatic Orb", 1, 0, 60, 0, 0, 0⟩,
      ⟨"Lightning Bolt", 3, 3, 80, 0, 0, 0⟩, ⟨"Wild Surge", 0, 0, 40, 0, 6, 50⟩,
      ⟨"Chaos Bolt", 1, 0, 65, 0, 0, 0⟩, ⟨"Twinned Spell", 0, 0, 70, 0, 0, 0⟩]
  | .warlock => [⟨"Eldritch Blast", 0, 10, 60, 0, 0, 0⟩, ⟨"Hex", 1, 7, 30, 0, 4, 100⟩,
      ⟨"Hunger of Hadar", 3, 13, 70, 0, 3, 20⟩, ⟨"Blight", 4, 7, 90, 0, 4, 50⟩,
      ⟨"Banishment", 4, 10, 0, 0, 14, 100⟩, ⟨"Dark One's Blessing", 0, 13, 0, 15, 0, 0⟩]
  | .cleric => [⟨"Sacred Flame", 0, 10, 40, 0, 0, 0⟩, ⟨"Guiding Bolt", 1, 10, 70, 0, 10, 100⟩,
      ⟨"Cure Wounds", 1, 0, 0, 25, 0, 0⟩, ⟨"Spiritual Weapon", 2, 6, 55, 0, 0, 0⟩,
      ⟨"Inflict Wounds", 1, 13, 75, 0, 0, 0⟩, ⟨"Harm", 6, 13, 100, 0, 0, 0⟩]
  | .paladin => [⟨"Divine Smite", 1, 6, 65, 0, 0, 0⟩, ⟨"Lay on Hands", 0, 0, 0, 30, 0, 0⟩,
      ⟨"Bless", 1, 0, 0, 0, 10, 100⟩, ⟨"Thunderous Smite", 1, 3, 70, 0, 7, 20⟩,
      ⟨"Searing Smite", 1, 1, 60, 0, 1, 100⟩, ⟨"Aura of Courage", 3, 0, 0, 0, 11, 100⟩]
  | .druid => [⟨"Shillelagh", 0, 4, 50, 0, 10, 100⟩, ⟨"Healing Word", 1, 4, 0, 20, 0, 0⟩,
      ⟨"Entangle", 1, 4, 0, 0, 14, 80⟩, ⟨"Call Lightning", 3, 3, 80, 0, 2, 10⟩,
      ⟨"Erupting Earth", 3, 8, 75, 0, 13, 50⟩, ⟨"Sunbeam", 6, 1, 90, 0, 1, 30⟩]
  | .bard => [⟨"Vicious Mockery", 0, 10, 30, 0, 6, 100⟩, ⟨"Cutting Words", 0, 0, 0, 0, 12, 100⟩,
      ⟨"Hypnotic Pattern", 3, 10, 70, 0, 3, 70⟩, ⟨"Shatter", 2, 0, 60, 0, 0, 0⟩,
      ⟨"Power Word Pain", 7, 10, 100, 0, 0, 0⟩, ⟨"Song of Rest", 0, 0, 0, 15, 0, 0⟩]
  | .monk => [⟨"Flurry of Blows", 0, 6, 30, 0, 0, 0⟩, ⟨"Stunning Strike", 0, 6, 50, 0, 14, 40⟩,
      ⟨"Ki-Empowered", 0, 6, 55, 0, 0, 0⟩, ⟨"Shadow Step", 0, 13, 45, 0, 10, 100⟩,
      ⟨"Empty Body", 0, 10, 0, 0, 11, 100⟩, ⟨"Quivering Palm", 9, 6, 90, 0, 14, 100⟩]

/-! ### Actors -/

structure EnemyActor where
  dndClass : DnDClass
  classLevel : UInt8
  (hp maxHp atk dfn : UInt16)
  (type1 type2 : UInt8)
  /-- Remaining slots; index 0 is level 1. -/
  spellSlots : Fin 9 → UInt8
  statusFlags : UInt32
deriving DecidableEq

structure PlayerActor where
  (hp maxHp atk dfn : UInt16)
  (level type1 type2 : UInt8)
  statusFlags : UInt32
deriving DecidableEq

/-! The flags of a condition. -/

def poison : UInt32 := 1
def badPoison : UInt32 := 2
def burn : UInt32 := 4
def paralysis : UInt32 := 8
def freeze : UInt32 := 16
def sleep : UInt32 := 32
def confusion : UInt32 := 64
def stunned : UInt32 := 1024

/-- The next state, and the number it gives. -/
def lcg (state : UInt32) : UInt32 × UInt32 :=
  let state := state * 1664525 + 1013904223
  (state >>> 16, state)

/-- `if (dmg >= hp) hp = 0; else hp -= dmg;` -/
def hurt (hp dmg : UInt16) : UInt16 := if hp ≤ dmg then 0 else hp - dmg

/-! ### The player's attack -/

/-- The words that give a move its type, in the order they are tried. -/
def moveTypes : List (List String × PokeType) := [
  (["fire", "ember", "flame"], .fire),
  (["water", "surf", "bubble"], .water),
  (["thunder", "bolt", "spark"], .electric),
  (["leaf", "vine", "grass"], .grass),
  (["psychic", "psych"], .psychic),
  (["rock", "stone", "slide"], .rock),
  (["ice", "blizzard", "frost"], .ice),
  (["poison", "acid", "sludge"], .poison),
  (["shadow", "ghost", "lick"], .ghost),
  (["kick", "punch", "karate"], .fighting),
  (["wing", "gust", "fly"], .flying)]

/-- The type of a move from its name, of which 15 bytes are read. -/
def moveTypeOf (moveName : Str) : UInt8 :=
  let low := (moveName.take 15).map toLower
  match moveTypes.find? fun r => r.1.any fun key => contains low (lit key) with
  | some r => r.2.byte
  | none => PokeType.normal.byte

/-- What one blow is made of. -/
structure Blow where
  level : UInt8
  attack : UInt16
  power : UInt8
  defense : UInt16
  (moveType type1 type2 : UInt8)
  stab : Bool

def Blow.damage (b : Blow) : UInt16 :=
  gen1Damage b.level b.attack b.power b.defense (effCapped b.moveType b.type1 b.type2) b.stab

def playerBlow (attacker : PlayerActor) (target : EnemyActor) (moveName : Str) : Blow :=
  let moveType := moveTypeOf moveName
  { level := attacker.level, attack := attacker.atk, power := 40, defense := target.dfn, moveType
    type1 := target.type1, type2 := target.type2
    stab := moveType = attacker.type1 || moveType = attacker.type2 }

/-- The damage and the target after the attack. -/
def playerAttack (attacker : PlayerActor) (target : EnemyActor) (moveName : Str) : UInt16 × EnemyActor :=
  let dmg := (playerBlow attacker target moveName).damage
  (dmg, { target with hp := hurt target.hp dmg })

/-! ### The enemy's action -/

def slotAvailable (enemy : EnemyActor) (s : DnDSpell) : Bool :=
  if s.slotLevel = 0 then true
  else if h : s.slotLevel.toNat - 1 < 9 then 0 < enemy.spellSlots ⟨s.slotLevel.toNat - 1, h⟩
  else false

/-- The available damage spell with the highest power, the first of equals. -/
def strongest (enemy : EnemyActor) (spells : List DnDSpell) : Option DnDSpell :=
  spells.foldl (fun best s =>
    if (best.map DnDSpell.basePower).getD 0 < s.basePower ∧ slotAvailable enemy s then some s else best) none

/-- An available spell at random, each with three chances in ten. -/
def anySpell (enemy : EnemyActor) : List DnDSpell → UInt32 → Option DnDSpell × UInt32
  | [], rng => (none, rng)
  | s :: spells, rng =>
    if slotAvailable enemy s then
      let (r, rng) := lcg rng
      if r % 10 < 3 then (some s, rng) else anySpell enemy spells rng
    else anySpell enemy spells rng

/-- The spell an enemy casts, or none for its physical move. -/
def pickEnemyAction (enemy : EnemyActor) (rng : UInt32) : Option DnDSpell × UInt32 :=
  let spells := classSpells enemy.dndClass
  let heal := if enemy.hp.toNat < enemy.maxHp.toNat * 3 / 10 then
    spells.find? fun s => 0 < s.hpEffect && slotAvailable enemy s else none
  match heal with
  | some s => (some s, rng)
  | none => match strongest enemy spells with
    | some s => (some s, rng)
    | none => anySpell enemy spells rng

/-- What an enemy does with its turn. -/
inductive Action where
  | skipped | stunned | physical
  | spell (s : DnDSpell)
deriving DecidableEq

/-- A paralysed enemy may lose its turn, a stunned one does; else it picks an action. -/
def action (attacker : EnemyActor) (rng : UInt32) : Action × UInt32 :=
  let paralysed : Bool := attacker.statusFlags &&& paralysis ≠ 0
  let (r, rolled) := lcg rng
  if paralysed ∧ r % 4 = 0 then (.skipped, rolled)
  else
    let rng := if paralysed then rolled else rng
    if attacker.statusFlags &&& stunned ≠ 0 then (.stunned, rng)
    else match pickEnemyAction attacker rng with
      | (none, rng) => (.physical, rng)
      | (some s, rng) => (.spell s, rng)

def physicalBlow (attacker : EnemyActor) (target : PlayerActor) : Blow :=
  { level := attacker.classLevel + 3, attack := attacker.atk, power := 40, defense := target.dfn
    moveType := attacker.type1, type1 := target.type1, type2 := target.type2, stab := true }

def spellBlow (attacker : EnemyActor) (target : PlayerActor) (s : DnDSpell) : Blow :=
  { level := attacker.classLevel + 3, attack := attacker.atk, power := s.basePower, defense := target.dfn
    moveType := s.pokeType, type1 := target.type1, type2 := target.type2
    stab := s.pokeType = attacker.type1 || s.pokeType = attacker.type2 }

/-- The slot of a leveled spell is used up. -/
def paySlot (attacker : EnemyActor) (s : DnDSpell) : EnemyActor :=
  if h : 0 < s.slotLevel ∧ s.slotLevel.toNat - 1 < 9 then
    let si : Fin 9 := ⟨s.slotLevel.toNat - 1, h.2⟩
    if 0 < attacker.spellSlots si then
      { attacker with spellSlots := Function.update attacker.spellSlots si (attacker.spellSlots si - 1) }
    else attacker
  else attacker

def selfHeal (attacker : EnemyActor) (s : DnDSpell) : EnemyActor :=
  let newHp := attacker.hp + UInt16.ofNat s.hpEffect.toInt.toNat
  { attacker with hp := if attacker.maxHp < newHp then attacker.maxHp else newHp }

/-- The condition that a secondary effect leaves. -/
def effectFlag (code : UInt8) : UInt32 :=
  match code.toNat with
  | 1 => burn
  | 2 => paralysis
  | 3 => sleep
  | 4 => poison
  | 5 => freeze
  | 6 => confusion
  | 14 => stunned
  | _ => 0

/-- The secondary effect of a blow that did damage. -/
def secondary (target : PlayerActor) (s : DnDSpell) (dmg : UInt16) (rng : UInt32) : PlayerActor × UInt32 :=
  if 0 < dmg ∧ 0 < s.effectCode ∧ 0 < s.effectChance then
    let (r, rng) := lcg rng
    if r % 100 < s.effectChance.toUInt32 then
      ({ target with statusFlags := target.statusFlags ||| effectFlag s.effectCode }, rng)
    else (target, rng)
  else (target, rng)

/-- The two actors after an enemy's turn. -/
structure Exchange where
  attacker : EnemyActor
  target : PlayerActor
  rng : UInt32
  dmg : UInt16

/-- A spell: the blow and its slot, or the healing, and the secondary effect. -/
def castSpell (attacker : EnemyActor) (target : PlayerActor) (s : DnDSpell) (rng : UInt32) : Exchange :=
  let dmg := if 0 < s.basePower then (spellBlow attacker target s).damage else 0
  let attacker :=
    if 0 < s.basePower then paySlot attacker s
    else if 0 < s.hpEffect then selfHeal attacker s
    else attacker
  let (target, rng) := secondary target s dmg rng
  { attacker, target, rng, dmg }

def enemyAttack (attacker : EnemyActor) (target : PlayerActor) (rng : UInt32) : Exchange :=
  match action attacker rng with
  | (.skipped, rng) => { attacker, target, rng, dmg := 0 }
  | (.stunned, rng) =>
    { attacker := { attacker with statusFlags := attacker.statusFlags &&& ~~~stunned }, target, rng, dmg := 0 }
  | (.physical, rng) =>
    let dmg := (physicalBlow attacker target).damage
    { attacker, target := { target with hp := hurt target.hp dmg }, rng, dmg }
  | (.spell s, rng) =>
    let x := castSpell attacker target s rng
    { x with target.hp := hurt x.target.hp x.dmg }

/-! ### Conditions -/

/-- The damage of a condition, in a byte. -/
def statusDamage (flags : UInt32) (hp : UInt16) : UInt8 :=
  if flags &&& burn ≠ 0 then (if 8 < hp then hp / 8 else 1).toUInt8
  else if flags &&& badPoison ≠ 0 then (if 6 < hp then hp / 6 else 1).toUInt8
  else if flags &&& poison ≠ 0 then (if 16 < hp then hp / 16 else 1).toUInt8
  else 0

/-- What `tickStatus` returns, and the HP it leaves. -/
def tickStatus (flags : UInt32) (hp : UInt16) : UInt8 × UInt16 :=
  let damage := statusDamage flags hp
  if hp.toNat ≤ damage.toNat then ((hp - 1).toUInt8, 1) else (damage, hp - damage.toUInt16)

end DungeonBattle
end MonsterMesh
