import Mathlib.Algebra.Group.Nat.Defs
import MonsterMesh.Dungeon.Fight

/-! What conditions cost an actor, and that nothing but its own healing gives HP back. -/
namespace MonsterMesh.DungeonBattle

open Text

variable {a : EnemyActor} {t : PlayerActor} {s : DnDSpell} {rng flags : UInt32} {hp dmg : UInt16}
  {f f' : Fight} {i j : ℕ} {calls : List Call}

/-! ### One tick -/

/-- A tick takes what it says, and leaves the last HP. -/
def Exact (flags : UInt32) (hp : UInt16) : Prop :=
  let r := tickStatus flags hp
  r.2 ≤ hp ∧ (1 ≤ hp → 1 ≤ r.2) ∧ (hp = 0 → r.2 = 0) ∧ r.1.toNat + r.2.toNat = hp.toNat

theorem tickStatus_fainted (flags : UInt32) : tickStatus flags 0 = (255, 1) := by
  unfold tickStatus
  dsimp only
  rw [if_pos (show (0 : UInt16).toNat ≤ _ from Nat.zero_le _)]
  rfl

variable (flags) in
/-- The byte loses nothing where the floor is reached. -/
theorem tickStatus_sum (h : hp ≠ 0) : (tickStatus flags hp).1.toNat + (tickStatus flags hp).2.toNat = hp.toNat ∧
    1 ≤ (tickStatus flags hp).2.toNat := by
  have hpos : hp.toNat ≠ 0 := fun he => h (UInt16.toNat_inj.mp he)
  have hbyte := (statusDamage flags hp).toNat_lt
  have hword := hp.toNat_lt
  have hone : (1 : UInt16).toNat = 1 := rfl
  unfold tickStatus
  dsimp only
  split_ifs with hd
  · have hle : (1 : UInt16) ≤ hp := UInt16.le_iff_toNat_le.mpr (by omega)
    change (hp - 1).toUInt8.toNat + (1 : UInt16).toNat = _ ∧ 1 ≤ (1 : UInt16).toNat
    rw [UInt16.toNat_toUInt8, UInt16.toNat_sub_of_le _ _ hle, hone]
    omega
  · have hle : (statusDamage flags hp).toUInt16 ≤ hp :=
      UInt16.le_iff_toNat_le.mpr (by rw [UInt8.toNat_toUInt16]; omega)
    change (statusDamage flags hp).toNat + (hp - _).toNat = _ ∧ 1 ≤ (hp - _).toNat
    rw [UInt16.toNat_sub_of_le _ _ hle, UInt8.toNat_toUInt16]
    omega

theorem tickStatus_le (h : hp ≠ 0) : (tickStatus flags hp).2 ≤ hp := by
  have := tickStatus_sum flags h
  rw [UInt16.le_iff_toNat_le]
  omega

theorem exact_iff : Exact flags hp ↔ hp ≠ 0 := by
  constructor
  · rintro ⟨-, -, hzero, -⟩ rfl
    have := hzero rfl
    rw [tickStatus_fainted] at this
    exact absurd this (by decide)
  · intro h
    have hsum := tickStatus_sum flags h
    exact ⟨tickStatus_le h, fun _ => UInt16.le_iff_toNat_le.mpr hsum.2, fun hz => absurd hz h, hsum.1⟩

/-! ### One call -/

theorem hurt_le : hurt hp dmg ≤ hp := by
  unfold hurt
  split_ifs with h
  · exact UInt16.le_iff_toNat_le.mpr (Nat.zero_le _)
  · have hlt := UInt16.not_le.mp h
    exact UInt16.sub_le (UInt16.le_of_lt hlt)

theorem selfHeal_le : (selfHeal a s).hp ≤ a.maxHp := by
  unfold selfHeal
  dsimp only
  split_ifs with h
  · exact UInt16.le_refl _
  · exact UInt16.not_lt.mp h

theorem classSpells_heal : ∀ c, ∀ s ∈ classSpells c, s.hpEffect.toInt ≤ 30 := by
  intro c
  cases c <;> decide

/-- A spell heals some of an actor that has HP to heal. -/
theorem selfHeal_pos (hs : s ∈ classSpells a.dndClass) (he : 0 < s.hpEffect) (hp : a.hp = 0)
    (hmax : a.maxHp ≠ 0) : (selfHeal a s).hp ≠ 0 := by
  have h₁ : 0 < s.hpEffect.toInt := Int8.lt_iff_toInt_lt.mp he
  have h₂ := classSpells_heal a.dndClass s hs
  unfold selfHeal
  dsimp only
  split_ifs with h
  · exact hmax
  · intro hz
    rw [hp, UInt16.zero_add, ← UInt16.toNat_inj, UInt16.toNat_ofNat'] at hz
    have hzero : (0 : UInt16).toNat = 0 := rfl
    omega

theorem paySlot_kept : (paySlot a s).hp = a.hp ∧ (paySlot a s).maxHp = a.maxHp := by
  unfold paySlot
  dsimp only
  split_ifs <;> exact ⟨rfl, rfl⟩

theorem heals_some (h : cast a rng = some s) (hp : s.basePower = 0) (he : 0 < s.hpEffect) :
    heals a rng = some s := by
  unfold heals
  rw [h, Option.filter_some, if_pos (by simp [hp, he])]

theorem heals_none (h : ∀ s ∈ cast a rng, ¬ (s.basePower = 0 ∧ 0 < s.hpEffect)) : heals a rng = none := by
  unfold heals
  rw [Option.filter_eq_none_iff]
  intro s hs
  simpa using h s hs

variable (a t rng) in
/-- An enemy's own HP after its turn: as before, or after the healing it cast. -/
theorem enemyAttack_own : (enemyAttack a t rng).attacker.maxHp = a.maxHp ∧
    ((heals a rng = none ∧ (enemyAttack a t rng).attacker.hp = a.hp) ∨
      ∃ s ∈ classSpells a.dndClass, 0 < s.hpEffect ∧ heals a rng = some s ∧
        (enemyAttack a t rng).attacker.hp = (selfHeal a s).hp) := by
  obtain ⟨s, hc, hp, he⟩ | ⟨s, hc, hp, hh, he⟩ | ⟨hc, flags, he⟩ := enemyAttack_cases a t rng
  · rw [he]
    refine ⟨paySlot_kept.2, .inl ⟨heals_none ?_, paySlot_kept.1⟩⟩
    rintro x hx ⟨hz, -⟩
    cases hc.symm.trans hx
    rw [hz] at hp
    exact absurd hp (by decide)
  · rw [he]
    exact ⟨rfl, .inr ⟨s, (cast_picked hc).1, hh, heals_some hc hp hh, rfl⟩⟩
  · rw [he]
    exact ⟨rfl, .inl ⟨heals_none fun s hs h => (hc s hs).2 h.2, rfl⟩⟩

/-! ### Whole fights -/

/-- Nobody has more HP than its maximum. -/
def Fit (f : Fight) : Prop :=
  (∀ i, (f.players i).hp ≤ (f.players i).maxHp) ∧ ∀ j, (f.enemies j).hp ≤ (f.enemies j).maxHp

/-- The enemy heals itself in this call. -/
def HealsItself (f : Fight) (j : ℕ) (c : Call) : Prop :=
  ∃ i rng, c = .enemyAttack j i rng ∧ heals (f.enemies j) rng ≠ none

/-- After the call everybody is within its maximum, and only the healing of a living enemy gave HP. -/
structure Draining (f : Fight) (c : Call) : Prop where
  fit : Fit (f.step c)
  players : ∀ i, ((f.step c).players i).hp ≤ (f.players i).hp
  enemies : ∀ j, (f.enemies j).hp < ((f.step c).enemies j).hp → HealsItself f j c ∧ (f.enemies j).hp ≠ 0

/-- No tick for an actor without HP, and no enemy without HP is let heal itself. -/
def Living (f : Fight) : Call → Prop
  | .playerAttack _ _ _ => True
  | .enemyAttack j _ rng => (f.enemies j).hp = 0 → (f.enemies j).maxHp ≠ 0 → heals (f.enemies j) rng = none
  | .tickPlayer i => (f.players i).hp ≠ 0
  | .tickEnemy j => (f.enemies j).hp ≠ 0

instance (f : Fight) : ∀ c, Decidable (Living f c)
  | .playerAttack _ _ _ => .isTrue trivial
  | .enemyAttack j _ rng =>
    inferInstanceAs (Decidable ((f.enemies j).hp = 0 → (f.enemies j).maxHp ≠ 0 → heals (f.enemies j) rng = none))
  | .tickPlayer i => inferInstanceAs (Decidable ((f.players i).hp ≠ 0))
  | .tickEnemy j => inferInstanceAs (Decidable ((f.enemies j).hp ≠ 0))

/-- A player actor that is put back with no more HP. -/
theorem Fit.setPlayer (hf : Fit f) {p : PlayerActor} (hmax : p.maxHp = (f.players i).maxHp)
    (hp : p.hp ≤ (f.players i).hp) : Fit (f.setPlayer i p) ∧ ∀ k, ((f.setPlayer i p).players k).hp ≤ (f.players k).hp := by
  have hone (k : ℕ) : ((f.setPlayer i p).players k).hp ≤ (f.players k).hp ∧
      ((f.setPlayer i p).players k).maxHp = (f.players k).maxHp := by
    by_cases hk : k = i
    · subst hk
      rw [Fight.setPlayer_same]
      exact ⟨hp, hmax⟩
    · rw [Fight.setPlayer_other hk]
      exact ⟨UInt16.le_refl _, rfl⟩
  refine ⟨⟨fun k => ?_, hf.2⟩, fun k => (hone k).1⟩
  rw [(hone k).2]
  exact UInt16.le_trans (hone k).1 (hf.1 k)

/-- An enemy that is put back within its maximum. -/
theorem Fit.setEnemy (hf : Fit f) {e : EnemyActor} (he : e.hp ≤ e.maxHp) : Fit (f.setEnemy j e) := by
  refine ⟨hf.1, fun k => ?_⟩
  by_cases hk : k = j
  · subst hk
    rw [Fight.setEnemy_same]
    exact he
  · rw [Fight.setEnemy_other hk]
    exact hf.2 k

theorem setEnemy_rise {e : EnemyActor} {P : ℕ → Prop} (he : (f.enemies j).hp < e.hp → P j) (k : ℕ)
    (h : (f.enemies k).hp < ((f.setEnemy j e).enemies k).hp) : P k := by
  by_cases hk : k = j
  · subst hk
    rw [Fight.setEnemy_same] at h
    exact he h
  · rw [Fight.setEnemy_other hk] at h
    exact absurd h (UInt16.lt_irrefl _)

/-- A blow at an enemy. -/
theorem playerAttack_draining (hf : Fit f) (moveName : Str) : Draining f (.playerAttack i j moveName) where
  fit := hf.setEnemy (UInt16.le_trans hurt_le (hf.2 j))
  players _ := UInt16.le_refl _
  enemies := setEnemy_rise fun h => absurd hurt_le (UInt16.not_le.mpr h)

theorem tickPlayer_draining (hf : Fit f) : Draining f (.tickPlayer i) ↔ (f.players i).hp ≠ 0 := by
  constructor
  · intro h hz
    have hle := h.players i
    change ((f.setPlayer i _).players i).hp ≤ _ at hle
    rw [Fight.setPlayer_same, hz, tickStatus_fainted] at hle
    exact absurd hle (show ¬ (1 : UInt16) ≤ 0 by decide)
  · intro h
    have hset := hf.setPlayer (i := i) (p := { f.players i with
      hp := (tickStatus (f.players i).statusFlags (f.players i).hp).2 }) rfl (tickStatus_le h)
    exact ⟨hset.1, hset.2, fun j hj => absurd hj (UInt16.lt_irrefl _)⟩

theorem tickEnemy_draining (hf : Fit f) : Draining f (.tickEnemy j) ↔ (f.enemies j).hp ≠ 0 := by
  constructor
  · intro h hz
    have hrise := h.enemies j
    change _ < ((f.setEnemy j _).enemies j).hp → _ at hrise
    rw [Fight.setEnemy_same, hz, tickStatus_fainted] at hrise
    exact (hrise (show (0 : UInt16) < 1 by decide)).2 rfl
  · intro h
    refine ⟨hf.setEnemy (UInt16.le_trans (tickStatus_le h) (hf.2 j)), fun _ => UInt16.le_refl _, ?_⟩
    exact setEnemy_rise fun hr => absurd (tickStatus_le h) (UInt16.not_le.mpr hr)

theorem enemyAttack_draining (hf : Fit f) : Draining f (.enemyAttack j i rng) ↔ Living f (.enemyAttack j i rng) := by
  have hown := enemyAttack_own (f.enemies j) (f.players i) rng
  have htarget := enemyAttack_target (f.enemies j) (f.players i) rng
  constructor
  · intro h hz hmax
    obtain ⟨-, ⟨hnone, -⟩ | ⟨s, hs, he, -, hhp⟩⟩ := hown
    · exact hnone
    · have hrise := h.enemies j
      change _ < ((f.setEnemy j _).enemies j).hp → _ at hrise
      rw [Fight.setEnemy_same, hhp, hz] at hrise
      refine absurd rfl (hrise (UInt16.lt_iff_toNat_lt.mpr ?_)).2
      have hne := selfHeal_pos hs he hz hmax
      have hpos : (selfHeal (f.enemies j) s).hp.toNat ≠ 0 := fun hn => hne (UInt16.toNat_inj.mp hn)
      change 0 < _
      omega
  · intro h
    have hfit : Fit (f.setEnemy j (enemyAttack (f.enemies j) (f.players i) rng).attacker) := by
      refine hf.setEnemy ?_
      rw [hown.1]
      obtain ⟨-, ⟨-, hhp⟩ | ⟨s, -, -, -, hhp⟩⟩ := hown
      · rw [hhp]
        exact hf.2 j
      · rw [hhp]
        exact selfHeal_le
    have hset := hfit.setPlayer (i := i) (p := (enemyAttack (f.enemies j) (f.players i) rng).target) htarget.2
      (by rw [htarget.1]; exact hurt_le)
    refine ⟨hset.1, hset.2, setEnemy_rise fun hr => ?_⟩
    obtain ⟨hsame, ⟨-, hhp⟩ | ⟨s, -, -, hheals, -⟩⟩ := hown
    · rw [hhp] at hr
      exact absurd hr (UInt16.lt_irrefl _)
    · refine ⟨⟨i, rng, rfl, by rw [hheals]; exact nofun⟩, fun hz => ?_⟩
      have hmax : (f.enemies j).maxHp ≠ 0 := by
        intro hm
        have hle := hfit.2 j
        rw [Fight.setEnemy_same, hsame, hm] at hle
        exact absurd (UInt16.lt_of_lt_of_le hr hle) (by rw [hz]; decide)
      exact absurd (h hz hmax) (by rw [hheals]; exact nofun)

theorem draining_iff (hf : Fit f) (c : Call) : Draining f c ↔ Living f c := by
  cases c with
  | playerAttack i j moveName => exact ⟨fun _ => trivial, fun _ => playerAttack_draining hf moveName⟩
  | enemyAttack j i rng => exact enemyAttack_draining hf
  | tickPlayer i => exact tickPlayer_draining hf
  | tickEnemy j => exact tickEnemy_draining hf

/-- A tick is exact for an actor that has HP, and a fight drains its actors as long as the fainted are left alone. -/
theorem tickStatus_exact (flags : UInt32) (hp : UInt16) (f : Fight) (hf : Fit f) (calls : List Call) :
    (Exact flags hp ↔ hp ≠ 0) ∧
      (Walk.Along Fight.step Draining f calls ↔ Walk.Along Fight.step Living f calls) := by
  refine ⟨exact_iff, fun h => ?_, fun h => ?_⟩
  · exact h.trade (fun f c _ hc => hc.fit) (fun f c hf hc => (draining_iff hf c).mp hc) hf
  · exact h.trade (fun f c hf hc => ((draining_iff hf c).mpr hc).fit)
      (fun f c hf hc => (draining_iff hf c).mpr hc) hf

/-- A burnt player against a paralysed cleric. -/
def sampleFight : Fight where
  players _ :=
    { hp := 40, maxHp := 40, atk := 50, dfn := 40, level := 12, type1 := 1, type2 := 1, statusFlags := burn }
  enemies _ :=
    { dndClass := .cleric, classLevel := 3, hp := 50, maxHp := 60, atk := 55, dfn := 45, type1 := 4, type2 := 7
      spellSlots := fun i => if i.val = 0 then 4 else if i.val = 1 then 2 else 0, statusFlags := paralysis }

theorem tickStatus_exact_sampleFight : Walk.Along Fight.step Draining sampleFight
    [.tickPlayer 0, .enemyAttack 0 0 7, .playerAttack 0 0 (lit "Ember"), .tickEnemy 0, .enemyAttack 0 0 9] :=
  have hfit : Fit sampleFight :=
    ⟨fun _ => (by decide : (40 : UInt16) ≤ 40), fun _ => (by decide : (50 : UInt16) ≤ 60)⟩
  (tickStatus_exact 0 1 sampleFight hfit _).2.mpr (by decide)

/-- An actor without HP and without any condition gets 1 HP, and is said to have lost 255. -/
theorem tickStatus_revives : ¬ Exact 0 0 ∧ tickStatus 0 0 = (255, 1) := by
  refine ⟨fun h => absurd (h.2.2.1 rfl) (by decide), rfl⟩

end MonsterMesh.DungeonBattle
