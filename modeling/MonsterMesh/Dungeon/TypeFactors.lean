import Mathlib.Algebra.Group.Nat.Defs
import MonsterMesh.Dungeon.Fight

/-! What the types of a defender make of a blow. -/
namespace MonsterMesh.DungeonBattle

open Text

variable {a : EnemyActor} {t : PlayerActor} {s : DnDSpell} {rng : UInt32} {b : Blow}

namespace Blow

def raw (b : Blow) : UInt32 := rawDamage b.level b.attack b.power b.defense b.stab

def factor₁ (b : Blow) : ℕ := (typeEffectiveness b.moveType b.type1).toNat

def factor₂ (b : Blow) : ℕ := (typeEffectiveness b.moveType b.type2).toNat

/-- The product of the chart's factors for the distinct types of the defender, in percent. -/
def product (b : Blow) : ℕ := if b.type1 = b.type2 then b.factor₁ else b.factor₁ * b.factor₂ / 100

/-- The damage of the formula, scaled by that product. -/
def scaled (b : Blow) : ℕ := b.raw.toNat * b.product / 100

/-- The damage that a blow is to do. -/
def lawful (b : Blow) : ℕ := min b.scaled 65535

/-- The factor that the code uses. -/
def used (b : Blow) : ℕ := (effCapped b.moveType b.type1 b.type2).toNat

/-- A single type that resists, whose half is taken twice. -/
def ResistedTwice (b : Blow) : Prop := b.type1 = b.type2 ∧ b.factor₁ = 50

/-- Two weak types, whose product is capped. -/
def Capped (b : Blow) : Prop := b.type1 ≠ b.type2 ∧ b.factor₁ = 200 ∧ b.factor₂ = 200

/-- The types are used once and the product stays in 32 bits, or the damage is the greatest in any case. -/
def Fair (b : Blow) : Prop :=
  (¬ b.ResistedTwice ∧ ¬ b.Capped ∧ b.raw.toNat * b.used < 2 ^ 32) ∨
    65535 ≤ b.scaled ∧ 65535 ≤ b.raw.toNat * b.used % 2 ^ 32 / 100

instance : Decidable b.ResistedTwice := inferInstanceAs (Decidable (_ ∧ _))

instance : Decidable b.Capped := inferInstanceAs (Decidable (_ ∧ _))

instance : Decidable b.Fair := inferInstanceAs (Decidable (_ ∨ _))

end Blow

/-! ### Factors -/

theorem typeEffectiveness_cases (atk dfn : UInt8) : typeEffectiveness atk dfn = 0 ∨ typeEffectiveness atk dfn = 50 ∨
    typeEffectiveness atk dfn = 100 ∨ typeEffectiveness atk dfn = 200 := by
  have hchart : ∀ row ∈ gen1TypeChart, ∀ x ∈ row, x = 0 ∨ x = 50 ∨ x = 100 ∨ x = 200 := by decide +kernel
  unfold typeEffectiveness
  split_ifs
  · exact .inr (.inr (.inl rfl))
  · rw [List.getD_eq_getElem?_getD, List.getD_eq_getElem?_getD]
    rcases hrow : gen1TypeChart[atk.toNat]? with _ | row
    · exact .inr (.inr (.inl rfl))
    · rw [Option.getD_some]
      rcases hx : row[dfn.toNat]? with _ | x
      · exact .inr (.inr (.inl rfl))
      · exact hchart row (List.mem_of_getElem? hrow) x (List.mem_of_getElem? hx)

theorem effCapped_eq (atk t1 t2 : UInt8) : (effCapped atk t1 t2).toNat =
    min ((typeEffectiveness atk t1).toNat * (typeEffectiveness atk t2).toNat / 100) 200 := by
  unfold effCapped typeEffectivenessDual
  obtain h₁ | h₁ | h₁ | h₁ := typeEffectiveness_cases atk t1 <;>
    obtain h₂ | h₂ | h₂ | h₂ := typeEffectiveness_cases atk t2 <;> rw [h₁, h₂] <;> rfl

/-- The code's factor against the product: half of it for a single type that resists, and for two weak ones. -/
theorem Blow.used_product (b : Blow) : (¬ b.ResistedTwice ∧ ¬ b.Capped ∧ b.used = b.product ∧ b.used ≤ 200) ∨
    ((b.ResistedTwice ∨ b.Capped) ∧ 2 * b.used = b.product ∧ 25 ≤ b.used ∧ b.used ≤ 200) := by
  unfold ResistedTwice Capped used product factor₁ factor₂
  rw [effCapped_eq]
  by_cases ht : b.type1 = b.type2
  · rw [if_pos ht, ← ht]
    obtain h | h | h | h := typeEffectiveness_cases b.moveType b.type1 <;> rw [h] <;> simp
  · rw [if_neg ht]
    obtain h₁ | h₁ | h₁ | h₁ := typeEffectiveness_cases b.moveType b.type1 <;>
      obtain h₂ | h₂ | h₂ | h₂ := typeEffectiveness_cases b.moveType b.type2 <;> rw [h₁, h₂] <;> simp [ht]

/-! ### Damage -/

/-- With the powers of this game no product of the formula leaves its 32 bits before the types come in. -/
theorem Blow.two_le_raw (h : b.power.toNat ≤ 120) : 2 ≤ b.raw.toNat := by
  have hlevel := b.level.toNat_lt
  have hattack := b.attack.toNat_lt
  have htwo : (2 : UInt32).toNat = 2 := rfl
  have hbonus : (UInt32.ofNat (b.level.toNat * 2 / 5) + 2).toNat ≤ 104 := by
    rw [UInt32.toNat_add, UInt32.toNat_ofNat', htwo]
    refine (Nat.mod_le _ _).trans ((Nat.add_le_add_right (Nat.mod_le _ _) 2).trans ?_)
    omega
  have hstrength : ((UInt32.ofNat (b.level.toNat * 2 / 5) + 2) * b.attack.toUInt32 * b.power.toUInt32).toNat ≤
      104 * 65535 * 120 := by
    rw [UInt32.toNat_mul, UInt32.toNat_mul, UInt16.toNat_toUInt32, UInt8.toNat_toUInt32]
    refine (Nat.mod_le _ _).trans (Nat.mul_le_mul ((Nat.mod_le _ _).trans (Nat.mul_le_mul hbonus ?_)) h)
    omega
  unfold raw rawDamage
  dsimp only
  generalize (UInt32.ofNat (b.level.toNat * 2 / 5) + 2) * b.attack.toUInt32 * b.power.toUInt32 = x at hstrength
  generalize (if 0 < b.defense then b.defense.toUInt32 else 1) = d
  have hbase : 2 ≤ (x / d / 50 + 2).toNat ∧ (x / d / 50 + 2).toNat ≤ 16357538 := by
    have hdiv := (Nat.div_le_self _ d.toNat).trans hstrength
    have hfifty : (50 : UInt32).toNat = 50 := rfl
    rw [UInt32.toNat_add, UInt32.toNat_div, UInt32.toNat_div, hfifty, htwo, Nat.mod_eq_of_lt (by omega)]
    generalize x.toNat / d.toNat = y at hdiv
    omega
  split_ifs
  · have hfactor : (150 : UInt32).toNat = 150 := rfl
    have hcent : (100 : UInt32).toNat = 100 := rfl
    rw [UInt32.toNat_div, UInt32.toNat_mul, hfactor, hcent, Nat.mod_eq_of_lt (by omega)]
    omega
  · exact hbase.1

theorem Blow.damage_toNat (h : b.power ≠ 0) :
    b.damage.toNat = min (b.raw.toNat * b.used % 2 ^ 32 / 100) 65535 := by
  have hfinal : (b.raw * (effCapped b.moveType b.type1 b.type2).toUInt32 / 100).toNat =
      b.raw.toNat * b.used % 2 ^ 32 / 100 := by
    rw [UInt32.toNat_div, UInt32.toNat_mul, UInt8.toNat_toUInt32]
    rfl
  unfold damage gen1Damage
  rw [if_neg h]
  change (if 65535 < b.raw * (effCapped b.moveType b.type1 b.type2).toUInt32 / 100 then 65535 else _ : UInt16).toNat = _
  have hmax : (65535 : UInt32).toNat = 65535 := rfl
  have hmax' : (65535 : UInt16).toNat = 65535 := rfl
  split_ifs with hlt
  · have hlt := UInt32.lt_iff_toNat_lt.mp hlt
    rw [hfinal] at hlt
    omega
  · have hle := UInt32.lt_iff_toNat_lt.not.mp hlt
    rw [hfinal] at hle
    rw [UInt32.toNat_toUInt16]
    change (b.raw * (effCapped b.moveType b.type1 b.type2).toUInt32 / 100).toNat % _ = _
    rw [hfinal]
    omega

/-- A blow does the lawful damage exactly when it is fair. -/
theorem Blow.lawful_iff (h : b.power ≠ 0) (hle : b.power.toNat ≤ 120) :
    b.damage.toNat = b.lawful ↔ b.Fair := by
  have hraw := b.two_le_raw hle
  rw [damage_toNat h]
  unfold lawful Fair scaled
  obtain ⟨hr, hc, hsame, hmax⟩ | ⟨hbad, hhalf, hmin, hmax⟩ := b.used_product
  · rw [← hsame]
    constructor
    · intro he
      by_cases hlt : b.raw.toNat * b.used < 2 ^ 32
      · exact .inl ⟨hr, hc, hlt⟩
      · right
        omega
    · rintro (⟨-, -, hlt⟩ | ⟨h₁, h₂⟩)
      · rw [Nat.mod_eq_of_lt hlt]
      · omega
  · rw [← hhalf]
    have hnot : ¬ (¬ b.ResistedTwice ∧ ¬ b.Capped ∧ b.raw.toNat * b.used < 2 ^ 32) := by
      rintro ⟨hr, hc, -⟩
      exact hbad.elim hr hc
    rw [show b.raw.toNat * (2 * b.used) = 2 * (b.raw.toNat * b.used) by ring]
    have hfifty : 50 ≤ b.raw.toNat * b.used := Nat.mul_le_mul hraw hmin
    constructor
    · intro he
      right
      omega
    · rintro (hf | ⟨h₁, h₂⟩)
      · exact absurd hf hnot
      · omega

/-! ### Attacks -/

/-- The blow of an enemy's turn, if it strikes one. -/
def enemyBlow (a : EnemyActor) (t : PlayerActor) (rng : UInt32) : Option Blow :=
  match (action a rng).1 with
  | .physical => some (physicalBlow a t)
  | .spell s => if 0 < s.basePower then some (spellBlow a t s) else none
  | _ => none

theorem enemyAttack_dmg : (enemyAttack a t rng).dmg = ((enemyBlow a t rng).map Blow.damage).getD 0 := by
  unfold enemyAttack enemyBlow
  rcases action a rng with ⟨x, r⟩
  cases x with
  | skipped => rfl
  | stunned => rfl
  | physical => rfl
  | spell s =>
    dsimp only [castSpell]
    split_ifs <;> rfl

theorem classSpells_power : ∀ c, ∀ s ∈ classSpells c, s.basePower.toNat ≤ 120 := by
  intro c
  cases c <;> decide

theorem enemyBlow_power (h : enemyBlow a t rng = some b) : b.power ≠ 0 ∧ b.power.toNat ≤ 120 := by
  unfold enemyBlow at h
  split at h
  · cases h
    exact ⟨(by decide : (40 : UInt8) ≠ 0), (by decide : (40 : UInt8).toNat ≤ 120)⟩
  · rename_i s hs
    split_ifs at h with hp
    cases h
    refine ⟨fun hz => absurd hp ?_, classSpells_power _ s (action_picked hs).1⟩
    change s.basePower = 0 at hz
    rw [hz]
    decide
  · cases h

/-- The damage of an attack takes each type of the defender once exactly when its blow is fair. -/
theorem attack_types_once (p : PlayerActor) (e : EnemyActor) (moveName : Str) (a : EnemyActor) (t : PlayerActor)
    (rng : UInt32) : ((playerAttack p e moveName).1.toNat = (playerBlow p e moveName).lawful ↔
      (playerBlow p e moveName).Fair) ∧
    match enemyBlow a t rng with
      | some b => (enemyAttack a t rng).dmg.toNat = b.lawful ↔ b.Fair
      | none => (enemyAttack a t rng).dmg = 0 := by
  refine ⟨Blow.lawful_iff (by decide : (40 : UInt8) ≠ 0) (by decide : (40 : UInt8).toNat ≤ 120), ?_⟩
  rw [enemyAttack_dmg]
  rcases hblow : enemyBlow a t rng with _ | b
  · rfl
  · obtain ⟨hzero, hle⟩ := enemyBlow_power hblow
    exact Blow.lawful_iff hzero hle

/-- A trainer's mon of level 20. -/
def challenger : PlayerActor where
  hp := 60
  maxHp := 60
  atk := 80
  dfn := 40
  level := 20
  type1 := 0
  type2 := 0
  statusFlags := 0

def wildEnemy (type1 type2 : UInt8) : EnemyActor where
  dndClass := .fighter
  classLevel := 3
  hp := 60
  maxHp := 60
  atk := 50
  dfn := 40
  type1 := type1
  type2 := type2
  spellSlots := fun _ => 0
  statusFlags := 0

/-- A fire move does a quarter to a fire type, and only twice the damage to a bug that is grass too. -/
theorem ember_damage :
    (playerAttack challenger (wildEnemy 1 1) (lit "Ember")).1 = 4 ∧
      (playerBlow challenger (wildEnemy 1 1) (lit "Ember")).lawful = 9 ∧
      (playerAttack challenger (wildEnemy 11 4) (lit "Ember")).1 = 36 ∧
      (playerBlow challenger (wildEnemy 11 4) (lit "Ember")).lawful = 72 := by
  decide

end MonsterMesh.DungeonBattle
