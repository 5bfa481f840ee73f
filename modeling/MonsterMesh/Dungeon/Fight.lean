import MonsterMesh.Dungeon.Combat
import MonsterMesh.Lib.Walk

/-! Fights of any number of actors, call after call, and what each call does to them. -/
namespace MonsterMesh.DungeonBattle

open Text

structure Fight where
  players : ℕ → PlayerActor
  enemies : ℕ → EnemyActor

/-- A call of one of the functions that change an actor; the dice come with it. -/
inductive Call where
  | playerAttack (i j : ℕ) (moveName : Str)
  | enemyAttack (j i : ℕ) (rng : UInt32)
  | tickPlayer (i : ℕ)
  | tickEnemy (j : ℕ)

namespace Fight

variable (f : Fight)

def setPlayer (i : ℕ) (p : PlayerActor) : Fight := { f with players := Function.update f.players i p }

def setEnemy (j : ℕ) (e : EnemyActor) : Fight := { f with enemies := Function.update f.enemies j e }

variable {f} {i j k : ℕ} {p : PlayerActor} {e : EnemyActor}

@[simp] theorem setPlayer_same : (f.setPlayer i p).players i = p := Function.update_self ..

theorem setPlayer_other (h : k ≠ i) : (f.setPlayer i p).players k = f.players k := Function.update_of_ne h ..

@[simp] theorem setPlayer_enemies : (f.setPlayer i p).enemies = f.enemies := rfl

@[simp] theorem setEnemy_same : (f.setEnemy j e).enemies j = e := Function.update_self ..

theorem setEnemy_other (h : k ≠ j) : (f.setEnemy j e).enemies k = f.enemies k := Function.update_of_ne h ..

@[simp] theorem setEnemy_players : (f.setEnemy j e).players = f.players := rfl

variable (f)

def step : Call → Fight
  | .playerAttack i j moveName => f.setEnemy j (playerAttack (f.players i) (f.enemies j) moveName).2
  | .enemyAttack j i rng =>
    let x := enemyAttack (f.enemies j) (f.players i) rng
    (f.setEnemy j x.attacker).setPlayer i x.target
  | .tickPlayer i =>
    let p := f.players i
    f.setPlayer i { p with hp := (tickStatus p.statusFlags p.hp).2 }
  | .tickEnemy j =>
    let e := f.enemies j
    f.setEnemy j { e with hp := (tickStatus e.statusFlags e.hp).2 }

end Fight

/-! ### What an enemy picks -/

variable {a : EnemyActor} {t : PlayerActor} {s : DnDSpell} {rng rng' : UInt32} {spells : List DnDSpell}

theorem strongest_picked (h : strongest a spells = some s) : s ∈ spells ∧ slotAvailable a s = true := by
  have hfold (l : List DnDSpell) (best : Option DnDSpell) (hbest : ∀ s ∈ best, slotAvailable a s = true) :
      ∀ s ∈ l.foldl (fun best s =>
        if (best.map DnDSpell.basePower).getD 0 < s.basePower ∧ slotAvailable a s then some s else best) best,
        (s ∈ l ∨ s ∈ best) ∧ slotAvailable a s = true := by
    induction l generalizing best with
    | nil => exact fun s hs => ⟨.inr hs, hbest s hs⟩
    | cons x l ih =>
      intro s hs
      rw [List.foldl_cons] at hs
      split_ifs at hs with hx
      · obtain ⟨hmem, hs⟩ := ih (some x) (fun y hy => by cases hy; exact hx.2) s hs
        refine ⟨.inl ?_, hs⟩
        obtain hmem | hmem := hmem
        · exact List.mem_cons_of_mem x hmem
        · cases hmem
          exact List.mem_cons_self ..
      · obtain ⟨hmem, hs⟩ := ih best hbest s hs
        exact ⟨hmem.imp_left (List.mem_cons_of_mem x), hs⟩
  obtain ⟨hmem | hmem, hs⟩ := hfold spells none nofun s h
  · exact ⟨hmem, hs⟩
  · cases hmem

theorem anySpell_picked (h : (anySpell a spells rng).1 = some s) : s ∈ spells ∧ slotAvailable a s = true := by
  induction spells generalizing rng with
  | nil => cases h
  | cons x spells ih =>
    unfold anySpell at h
    split_ifs at h with hx
    · dsimp only at h
      split_ifs at h
      · cases h
        exact ⟨List.mem_cons_self .., hx⟩
      · exact ⟨List.mem_cons_of_mem x (ih h).1, (ih h).2⟩
    · exact ⟨List.mem_cons_of_mem x (ih h).1, (ih h).2⟩

/-- Whatever an enemy picks is a spell of its class with a slot for it. -/
theorem pickEnemyAction_picked (h : (pickEnemyAction a rng).1 = some s) :
    s ∈ classSpells a.dndClass ∧ slotAvailable a s = true := by
  unfold pickEnemyAction at h
  dsimp only at h
  split at h
  · rename_i x hheal
    cases h
    split_ifs at hheal
    have hs := List.find?_some hheal
    rw [Bool.and_eq_true] at hs
    exact ⟨List.mem_of_find?_eq_some hheal, hs.2⟩
  · split at h
    · rename_i x hbest
      cases h
      exact strongest_picked hbest
    · exact anySpell_picked h

theorem action_picked (h : (action a rng).1 = .spell s) :
    s ∈ classSpells a.dndClass ∧ slotAvailable a s = true := by
  unfold action at h
  dsimp only at h
  split_ifs at h
  all_goals
    split at h
    · cases h
    · rename_i x y hpick
      cases h
      exact pickEnemyAction_picked (congrArg Prod.fst hpick)

/-! ### What an enemy's turn does -/

/-- The spell an enemy casts in its turn, if it casts one. -/
def cast (a : EnemyActor) (rng : UInt32) : Option DnDSpell :=
  match (action a rng).1 with
  | .spell s => some s
  | _ => none

/-- The spell with which an enemy heals itself in its turn. -/
def heals (a : EnemyActor) (rng : UInt32) : Option DnDSpell :=
  (cast a rng).filter fun s => s.basePower = 0 && 0 < s.hpEffect

theorem cast_picked (h : cast a rng = some s) : s ∈ classSpells a.dndClass ∧ slotAvailable a s = true := by
  unfold cast at h
  split at h
  · rename_i x hx
    cases h
    exact action_picked hx
  · cases h

theorem secondary_kept (dmg : UInt16) : (secondary t s dmg rng).1.hp = t.hp ∧
    (secondary t s dmg rng).1.maxHp = t.maxHp := by
  unfold secondary
  dsimp only
  split_ifs <;> exact ⟨rfl, rfl⟩

variable (a t rng) in
/-- The target loses the damage and keeps its maximum. -/
theorem enemyAttack_target : (enemyAttack a t rng).target.hp = hurt t.hp (enemyAttack a t rng).dmg ∧
    (enemyAttack a t rng).target.maxHp = t.maxHp := by
  have hnone : hurt t.hp 0 = t.hp := by
    unfold hurt
    split_ifs with h
    · exact (UInt16.le_antisymm h (UInt16.le_iff_toNat_le.mpr (Nat.zero_le _))).symm
    · exact UInt16.sub_zero _
  unfold enemyAttack
  split
  · exact ⟨hnone.symm, rfl⟩
  · exact ⟨hnone.symm, rfl⟩
  · exact ⟨rfl, rfl⟩
  · rename_i x r _
    exact ⟨congrArg (hurt · (castSpell a t x r).dmg) (secondary_kept _).1, (secondary_kept _).2⟩

variable (a t rng) in
/-- The attacker after its turn: one spell's slot or healing, or the stun it recovers from. -/
theorem enemyAttack_cases : (∃ s, cast a rng = some s ∧ 0 < s.basePower ∧
      (enemyAttack a t rng).attacker = paySlot a s) ∨
    (∃ s, cast a rng = some s ∧ s.basePower = 0 ∧ 0 < s.hpEffect ∧
      (enemyAttack a t rng).attacker = selfHeal a s) ∨
    ((∀ s ∈ cast a rng, s.basePower = 0 ∧ ¬ 0 < s.hpEffect) ∧ ∃ flags,
      (enemyAttack a t rng).attacker = { a with statusFlags := flags }) := by
  unfold cast enemyAttack
  rcases action a rng with ⟨x, r⟩
  cases x with
  | skipped => exact .inr (.inr ⟨nofun, _, rfl⟩)
  | stunned => exact .inr (.inr ⟨nofun, _, rfl⟩)
  | physical => exact .inr (.inr ⟨nofun, _, rfl⟩)
  | spell s =>
    by_cases hp : 0 < s.basePower
    · exact .inl ⟨s, rfl, hp, if_pos hp⟩
    · have hzero : s.basePower = 0 := by
        rw [← UInt8.toNat_inj]
        have := UInt8.lt_iff_toNat_lt.not.mp hp
        simpa using this
      by_cases he : 0 < s.hpEffect
      · exact .inr (.inl ⟨s, rfl, hzero, he, (if_neg hp).trans (if_pos he)⟩)
      · refine .inr (.inr ⟨?_, a.statusFlags, (if_neg hp).trans (if_neg he)⟩)
        intro y hy
        cases hy
        exact ⟨hzero, he⟩

end MonsterMesh.DungeonBattle
