import Mathlib.Algebra.BigOperators.Fin
import Mathlib.Algebra.Order.BigOperators.Group.Finset
import MonsterMesh.Dungeon.Fight

/-! What an enemy's spells cost it, call after call. -/
namespace MonsterMesh.DungeonBattle

open Text

variable {a : EnemyActor} {t : PlayerActor} {s : DnDSpell} {rng : UInt32} {f : Fight} {j : ℕ} {c : Call}
  {calls : List Call} {L : Fin 9}

theorem DnDSpell.slot_lt (s : DnDSpell) (h : 0 < s.slotLevel ∧ s.slotLevel.toNat - 1 < 9) :
    s.slotLevel.toNat - 1 < 9 :=
  h.2

/-- The slot a spell needs; a cantrip needs none. -/
def DnDSpell.slot (s : DnDSpell) : Option (Fin 9) :=
  if h : 0 < s.slotLevel ∧ s.slotLevel.toNat - 1 < 9 then some ⟨s.slotLevel.toNat - 1, s.slot_lt h⟩
  else none

/-- One slot of this level less, and the others as they were. -/
def Charged (slots slots' : Fin 9 → UInt8) (L : Fin 9) : Prop :=
  0 < slots L ∧ slots' = Function.update slots L (slots L - 1)

/-- What a turn leaves of the slots: one less for a leveled spell, all of them otherwise. -/
def Settled (a : EnemyActor) (t : PlayerActor) (rng : UInt32) : Prop :=
  match (cast a rng).bind DnDSpell.slot with
  | some L => Charged a.spellSlots (enemyAttack a t rng).attacker.spellSlots L
  | none => (enemyAttack a t rng).attacker.spellSlots = a.spellSlots

/-- The leveled spell that the enemy picks, if it picks one, is a damage spell. -/
def Striking (a : EnemyActor) (rng : UInt32) : Prop :=
  ∀ s ∈ cast a rng, 0 < s.slotLevel → 0 < s.basePower

instance : Decidable (Striking a rng) := inferInstanceAs (Decidable (∀ s ∈ cast a rng, _))

/-! ### One turn -/

theorem classSpells_level : ∀ c, ∀ s ∈ classSpells c, s.slotLevel.toNat ≤ 9 := by
  intro c
  cases c <;> decide

theorem slot_some (hs : s ∈ classSpells a.dndClass) (hl : 0 < s.slotLevel) : ∃ L, s.slot = some L := by
  have hle := classSpells_level a.dndClass s hs
  unfold DnDSpell.slot
  rw [dif_pos ⟨hl, by omega⟩]
  exact ⟨_, rfl⟩

theorem slot_pos (h : s.slot = some L) : 0 < s.slotLevel := by
  unfold DnDSpell.slot at h
  split_ifs at h with hl
  exact hl.1

theorem slotAvailable_pos (h : s.slot = some L) (ha : slotAvailable a s = true) : 0 < a.spellSlots L := by
  unfold DnDSpell.slot at h
  split_ifs at h with hl
  cases h
  unfold slotAvailable at ha
  rw [if_neg fun hz => absurd hl.1 (by rw [hz]; decide), dif_pos hl.2] at ha
  exact of_decide_eq_true ha

theorem paySlot_eq (a : EnemyActor) (s : DnDSpell) : (paySlot a s).spellSlots = match s.slot with
    | some L => if 0 < a.spellSlots L then Function.update a.spellSlots L (a.spellSlots L - 1) else a.spellSlots
    | none => a.spellSlots := by
  unfold paySlot DnDSpell.slot
  by_cases h : 0 < s.slotLevel ∧ s.slotLevel.toNat - 1 < 9
  · rw [dif_pos h, dif_pos h]
    dsimp only
    split_ifs <;> rfl
  · rw [dif_neg h, dif_neg h]

theorem update_ne {slots : Fin 9 → UInt8} (h : 0 < slots L) : slots ≠ Function.update slots L (slots L - 1) := by
  intro he
  have hL := congrFun he L
  rw [Function.update_self] at hL
  have h₁ := congrArg UInt8.toNat hL
  have h₂ := UInt8.lt_iff_toNat_lt.mp h
  have hle : (1 : UInt8) ≤ slots L := UInt8.le_iff_toNat_le.mpr h₂
  have hone : (1 : UInt8).toNat = 1 := rfl
  have hzero : (0 : UInt8).toNat = 0 := rfl
  rw [UInt8.toNat_sub_of_le _ _ hle] at h₁
  omega

/-- A turn settles its slot exactly when it is not a leveled healing or utility spell. -/
theorem settled_iff : Settled a t rng ↔ Striking a rng := by
  unfold Settled Striking
  obtain ⟨s, hc, hp, he⟩ | ⟨s, hc, hp, hh, he⟩ | ⟨hc, flags, he⟩ := enemyAttack_cases a t rng
  · have hpicked := cast_picked hc
    have htrue : ∀ s ∈ cast a rng, 0 < s.slotLevel → 0 < s.basePower := by
      intro x hx _
      cases hc.symm.trans hx
      exact hp
    refine ⟨fun _ => htrue, fun _ => ?_⟩
    rw [he, paySlot_eq, hc, Option.bind_some]
    rcases hslot : s.slot with _ | L
    · rfl
    · have hpos := slotAvailable_pos hslot hpicked.2
      exact ⟨hpos, if_pos hpos⟩
  · have hpicked := cast_picked hc
    rw [he, hc, Option.bind_some]
    rcases hslot : s.slot with _ | L
    · refine ⟨fun _ x hx hl => ?_, fun _ => rfl⟩
      cases hx
      obtain ⟨L, hL⟩ := slot_some hpicked.1 hl
      cases hslot.symm.trans hL
    · refine ⟨fun h => absurd h.2 (update_ne h.1), fun h => ?_⟩
      have := h s rfl (slot_pos hslot)
      rw [hp] at this
      exact absurd this (by decide)
  · rw [he]
    rcases hcast : cast a rng with _ | s
    · exact ⟨fun _ => nofun, fun _ => rfl⟩
    · have hpicked := cast_picked hcast
      have hp := (hc s hcast).1
      rw [Option.bind_some]
      rcases hslot : s.slot with _ | L
      · refine ⟨fun _ x hx hl => ?_, fun _ => rfl⟩
        cases hx
        obtain ⟨L, hL⟩ := slot_some hpicked.1 hl
        cases hslot.symm.trans hL
      · refine ⟨fun h => absurd h.2 (update_ne h.1), fun h => ?_⟩
        have := h s rfl (slot_pos hslot)
        rw [hp] at this
        exact absurd this (by decide)

/-! ### Whole fights -/

/-- The slot that a call has enemy `j` use. -/
def Call.uses (f : Fight) (j : ℕ) : Call → Option (Fin 9)
  | .enemyAttack k _ rng => if k = j then (cast (f.enemies j) rng).bind DnDSpell.slot else none
  | _ => none

theorem uses_self (f : Fight) (j i : ℕ) (rng : UInt32) :
    (Call.enemyAttack j i rng).uses f j = (cast (f.enemies j) rng).bind DnDSpell.slot :=
  if_pos rfl

/-- The leveled spells that enemy `j` casts in a fight, by the slots they need. -/
def used (j : ℕ) : Fight → List Call → List (Fin 9)
  | _, [] => []
  | f, c :: calls => (c.uses f j).toList ++ used j (f.step c) calls

/-- No enemy picks a leveled healing or utility spell. -/
def NoLeveledUtility (f : Fight) : Call → Prop
  | .enemyAttack j _ rng => Striking (f.enemies j) rng
  | _ => True

instance (f : Fight) : ∀ c, Decidable (NoLeveledUtility f c)
  | .enemyAttack j _ rng => inferInstanceAs (Decidable (Striking (f.enemies j) rng))
  | .playerAttack _ _ _ => .isTrue trivial
  | .tickPlayer _ => .isTrue trivial
  | .tickEnemy _ => .isTrue trivial

theorem setEnemy_slots {k : ℕ} {e : EnemyActor} (h : k = j → e.spellSlots = (f.enemies j).spellSlots) :
    ((f.setEnemy k e).enemies j).spellSlots = (f.enemies j).spellSlots := by
  by_cases hk : j = k
  · subst hk
    rw [Fight.setEnemy_same]
    exact h rfl
  · rw [Fight.setEnemy_other hk]

/-- A call takes one slot off an enemy exactly where it has the enemy use one. -/
def Pays (f : Fight) (c : Call) : Prop := ∀ j,
  match c.uses f j with
  | some L => Charged (f.enemies j).spellSlots ((f.step c).enemies j).spellSlots L
  | none => ((f.step c).enemies j).spellSlots = (f.enemies j).spellSlots

theorem NoLeveledUtility.pays (h : NoLeveledUtility f c) : Pays f c := by
  intro j
  cases c with
  | playerAttack i k moveName =>
    refine setEnemy_slots fun hk => ?_
    subst hk
    rfl
  | tickPlayer i => rfl
  | tickEnemy k =>
    refine setEnemy_slots fun hk => ?_
    subst hk
    rfl
  | enemyAttack k i rng =>
    by_cases hk : k = j
    · subst hk
      rw [uses_self, Fight.step, Fight.setPlayer_enemies, Fight.setEnemy_same]
      exact (settled_iff (t := f.players i)).mpr h
    · have hnone : (Call.enemyAttack k i rng).uses f j = none := if_neg hk
      rw [hnone]
      exact setEnemy_slots fun he => absurd he hk

theorem pays_iff : Pays f c ↔ NoLeveledUtility f c := by
  refine ⟨fun h => ?_, NoLeveledUtility.pays⟩
  cases c with
  | enemyAttack k i rng =>
    refine (settled_iff (t := f.players i)).mp ?_
    have hk := h k
    rw [uses_self, Fight.step, Fight.setPlayer_enemies, Fight.setEnemy_same] at hk
    exact hk
  | playerAttack i k moveName => trivial
  | tickPlayer i => trivial
  | tickEnemy k => trivial

theorem step_count (h : NoLeveledUtility f c) (j : ℕ) (L : Fin 9) : (c.uses f j).toList.count L +
    (((f.step c).enemies j).spellSlots L).toNat = ((f.enemies j).spellSlots L).toNat := by
  have hslots := h.pays j
  rcases huse : c.uses f j with _ | K
  · rw [huse] at hslots
    rw [hslots]
    exact Nat.zero_add _
  · rw [huse] at hslots
    obtain ⟨hpos, heq⟩ := hslots
    rw [heq, Option.toList_some, List.count_singleton]
    by_cases hK : L = K
    · subst hK
      have h₁ := UInt8.lt_iff_toNat_lt.mp hpos
      have hle : (1 : UInt8) ≤ (f.enemies j).spellSlots L := UInt8.le_iff_toNat_le.mpr h₁
      have hone : (1 : UInt8).toNat = 1 := rfl
      have hzero : (0 : UInt8).toNat = 0 := rfl
      rw [Function.update_self, UInt8.toNat_sub_of_le _ _ hle, if_pos (beq_self_eq_true _)]
      omega
    · rw [Function.update_of_ne hK, if_neg (by simpa using fun he => hK he.symm)]
      exact Nat.zero_add _

/-- Over a fight, the spells cast at a level and the slots left of it are the slots at its start. -/
theorem used_count (h : Walk.Along Fight.step NoLeveledUtility f calls) (j : ℕ) (L : Fin 9) :
    (used j f calls).count L + (((Walk.run Fight.step f calls).enemies j).spellSlots L).toNat =
      ((f.enemies j).spellSlots L).toNat := by
  induction calls generalizing f with
  | nil => exact Nat.zero_add _
  | cons c calls ih =>
    have hstep := step_count h.1 j L
    have hrest := ih h.2
    unfold used
    rw [List.count_append, Walk.run_cons]
    omega

theorem length_eq_count (l : List (Fin 9)) : l.length = ∑ L, l.count L := by
  induction l with
  | nil => simp
  | cons K l ih =>
    simp only [List.count_cons, Finset.sum_add_distrib, ← ih, List.length_cons, beq_iff_eq]
    simp

/-- An enemy's turn settles its slot exactly when the spell it picks is not a leveled healing or utility spell;
in a fight without these nobody casts more leveled spells than it had slots. -/
theorem enemyAttack_pays (a : EnemyActor) (t : PlayerActor) (rng : UInt32) (f : Fight) (calls : List Call) :
    (Settled a t rng ↔ Striking a rng) ∧
      (Walk.Along Fight.step Pays f calls ↔ Walk.Along Fight.step NoLeveledUtility f calls) ∧
      (Walk.Along Fight.step NoLeveledUtility f calls → ∀ j,
        (∀ L, (used j f calls).count L ≤ ((f.enemies j).spellSlots L).toNat) ∧
          (used j f calls).length ≤ ∑ L, ((f.enemies j).spellSlots L).toNat) := by
  refine ⟨settled_iff, ?_, fun h j => ?_⟩
  · have hiff : (Pays : Fight → Call → Prop) = NoLeveledUtility := by
      funext f c
      exact propext pays_iff
    rw [hiff]
  have hcount (L : Fin 9) : (used j f calls).count L ≤ ((f.enemies j).spellSlots L).toNat := by
    have := used_count h j L
    omega
  refine ⟨hcount, ?_⟩
  rw [length_eq_count]
  exact Finset.sum_le_sum fun L _ => hcount L

/-- A druid that is badly hurt. -/
def hurtDruid : EnemyActor where
  dndClass := .druid
  classLevel := 1
  hp := 5
  maxHp := 300
  atk := 30
  dfn := 30
  type1 := 4
  type2 := 4
  spellSlots := fun i => if i.val = 0 then 2 else 0
  statusFlags := 0

def wanderer : PlayerActor where
  hp := 200
  maxHp := 200
  atk := 30
  dfn := 30
  level := 10
  type1 := 0
  type2 := 0
  statusFlags := 0

/-- A wizard with two slots of the first level casts them both. -/
theorem enemyAttack_pays_wizard :
    let f : Fight := ⟨fun _ => wanderer, fun _ => { hurtDruid with dndClass := .wizard }⟩
    let calls := [.enemyAttack 0 0 1, .enemyAttack 0 1 2, .enemyAttack 0 0 3]
    (used 0 f calls).length ≤ ∑ L, ((f.enemies 0).spellSlots L).toNat :=
  ((enemyAttack_pays hurtDruid wanderer 0 _ _).2.2 (by decide) 0).2

/-- The healing word of a druid costs nothing, however often it is cast. -/
theorem healingWord_free : (cast hurtDruid 0).map DnDSpell.name = some "Healing Word" ∧
    (cast hurtDruid 0).bind DnDSpell.slot = some 0 ∧
    (enemyAttack hurtDruid wanderer 0).attacker.spellSlots 0 = 2 ∧ ¬ Settled hurtDruid wanderer 0 ∧
    (used 0 ⟨fun _ => wanderer, fun _ => hurtDruid⟩
      [.enemyAttack 0 0 0, .enemyAttack 0 0 0, .enemyAttack 0 0 0]).length = 3 := by
  refine ⟨by decide, by decide, by decide, fun h => ?_, by decide⟩
  exact absurd ((settled_iff.mp h) _ rfl (by decide)) (by decide)

end MonsterMesh.DungeonBattle
