import MonsterMesh.Engine.Bounds

/-! Where the damage formula does not come down to nothing. -/
namespace MonsterMesh

open Fallible

namespace Duel

variable {d : Duel} {mv : MoveData} {a b : ℕ}

/-- The attack and defence after stages, burn and screens. -/
def stagedStats (d : Duel) (mv : MoveData) : ℕ × ℕ :=
  let a := (d.user.attackStat d.gen mv.type).toNat * boostMult (d.user.attackStage d.gen mv.type) / 100
  let b := (d.target.defenceStat d.gen mv.type).toNat * boostMult (d.target.defenceStage d.gen mv.type) / 100
  (if d.user.burned then a / 2 else a, if d.targetFx.screens d.gen mv.type then b * 2 else b)

/-- The two values a move is measured by; a critical hit takes the unstaged ones. -/
def attackDefence (d : Duel) (mv : MoveData) : ℕ × ℕ :=
  if d.rollCrit.1 then d.rawStats mv else d.stagedStats mv

def levelTerm (d : Duel) (crit : Bool) : ℕ :=
  2 * (if crit && !d.isGen3 then d.user.level.toNat * 2 else d.user.level.toNat) / 5 + 2

/-- The move has a type of its user. -/
def Stab (d : Duel) (mv : MoveData) : Prop := mv.type = d.user.type1 ∨ mv.type = d.user.type2

instance : Decidable (d.Stab mv) := inferInstanceAs (Decidable (_ ∨ _))

/-- The damage before the type factors. -/
def untyped (d : Duel) (mv : MoveData) (crit : Bool) (a b : ℕ) : ℕ :=
  let x := d.levelTerm crit * mv.power.toNat * a / b / 50 + 2
  let x := if crit && d.isGen3 then x * 2 else x
  if d.Stab mv then x * 3 / 2 else x

/-- The factors of the two defending types, in halves; one type counts once. -/
def factor₁ (d : Duel) (mv : MoveData) : ℕ := (effectiveness d.gen mv.type d.target.type1).toNat

def factor₂ (d : Duel) (mv : MoveData) : ℕ :=
  (if d.target.type1 ≠ d.target.type2 then effectiveness d.gen mv.type d.target.type2 else 2).toNat

/-- The stats the claim is about. -/
structure Ordinary (d : Duel) (mv : MoveData) : Prop where
  power : 0 < mv.power
  level : 1 ≤ d.user.level.toNat ∧ d.user.level.toNat ≤ 100
  attack : 1 ≤ (d.user.attackStat d.gen mv.type).toNat ∧ (d.user.attackStat d.gen mv.type).toNat ≤ 1000
  defence : 1 ≤ (d.target.defenceStat d.gen mv.type).toNat ∧ (d.target.defenceStat d.gen mv.type).toNat ≤ 1000

instance : Decidable (d.Ordinary mv) :=
  decidable_of_iff (0 < mv.power ∧ (1 ≤ d.user.level.toNat ∧ d.user.level.toNat ≤ 100) ∧
      (1 ≤ (d.user.attackStat d.gen mv.type).toNat ∧ (d.user.attackStat d.gen mv.type).toNat ≤ 1000) ∧
      (1 ≤ (d.target.defenceStat d.gen mv.type).toNat ∧ (d.target.defenceStat d.gen mv.type).toNat ≤ 1000))
    ⟨fun ⟨h₁, h₂, h₃, h₄⟩ => ⟨h₁, h₂, h₃, h₄⟩, fun h => ⟨h.1, h.2, h.3, h.4⟩⟩

theorem boostedStats_eq (h : d.Ordinary mv) : d.boostedStats mv = .ok (d.stagedStats mv) := by
  obtain ⟨_, ha⟩ := h.attack
  obtain ⟨_, hb⟩ := h.defence
  have hma := (boostMult_bounds (d.user.attackStage d.gen mv.type)).2
  have hmb := (boostMult_bounds (d.target.defenceStage d.gen mv.type)).2
  have h₁ : (d.user.attackStat d.gen mv.type).toNat * boostMult (d.user.attackStage d.gen mv.type) ≤
      1000 * 400 := Nat.mul_le_mul ha hma
  have h₂ : (d.target.defenceStat d.gen mv.type).toNat * boostMult (d.target.defenceStage d.gen mv.type) ≤
      1000 * 400 := Nat.mul_le_mul hb hmb
  unfold boostedStats stagedStats
  rw [int32_ok (by omega), bind_ok, int32_ok (by omega), bind_ok]
  dsimp only
  by_cases hs : d.targetFx.screens d.gen mv.type
  · rw [if_pos hs, if_pos hs, int32_ok (by omega)]
    rfl
  · rw [if_neg hs, if_neg hs]
    rfl

theorem rollCrit_same (d : Duel) (mv : MoveData) : d.rollCrit.2.untyped mv = d.untyped mv ∧
    d.rollCrit.2.factor₁ mv = d.factor₁ mv ∧ d.rollCrit.2.factor₂ mv = d.factor₂ mv := ⟨rfl, rfl, rfl⟩

theorem factor₁_le (d : Duel) (mv : MoveData) : d.factor₁ mv ≤ 4 := effectiveness_le ..

theorem factor₂_le (d : Duel) (mv : MoveData) : d.factor₂ mv ≤ 4 := by
  unfold factor₂
  split_ifs
  · exact effectiveness_le ..
  · decide

/-- Double levels and staged attacks do not come together. -/
theorem levelTerm_attack_le (mv : MoveData) (hl : d.user.level.toNat ≤ 100) {c : Bool} (ha : a ≤ if c then 1000 else 4000) :
    d.levelTerm c * mv.power.toNat ≤ 82 * 255 ∧
      d.levelTerm c * mv.power.toNat * a ≤ if c then 20910000 else 42840000 := by
  have hp := mv.power.toNat_lt
  unfold levelTerm
  cases c with
  | false =>
    rw [Bool.false_and, if_neg Bool.false_ne_true]
    have hn : (2 * d.user.level.toNat / 5 + 2) * mv.power.toNat ≤ 42 * 255 := Nat.mul_le_mul (by omega) (by omega)
    exact ⟨by omega, Nat.mul_le_mul hn ha⟩
  | true =>
    have hn : (2 * (if true && !d.isGen3 then d.user.level.toNat * 2 else d.user.level.toNat) / 5 + 2) *
        mv.power.toNat ≤ 82 * 255 := by
      refine Nat.mul_le_mul ?_ (by omega)
      split_ifs <;> omega
    exact ⟨hn, Nat.mul_le_mul hn ha⟩

theorem untyped_le (mv : MoveData) (b : ℕ) (hl : d.user.level.toNat ≤ 100) {c : Bool}
    (ha : a ≤ if c then 1000 else 4000) : d.untyped mv c a b ≤ 1285203 := by
  have hn := (levelTerm_attack_le mv hl ha).2
  have hdiv := Nat.div_le_self (d.levelTerm c * mv.power.toNat * a) b
  unfold untyped
  dsimp only
  cases c with
  | false =>
    rw [if_neg Bool.false_ne_true] at hn
    rw [Bool.false_and, if_neg Bool.false_ne_true]
    split_ifs <;> omega
  | true =>
    rw [if_pos rfl] at hn
    split_ifs <;> omega

/-- The two type factors, each halved on its own. -/
theorem baseDamage_eq (hl : d.user.level.toNat ≤ 100) {c : Bool} (ha : a ≤ if c then 1000 else 4000)
    (hb : 0 < b) : d.baseDamage mv c a b =
      .ok (d.untyped mv c a b * d.factor₁ mv / 2 * d.factor₂ mv / 2) := by
  obtain ⟨hn, hna⟩ := levelTerm_attack_le mv hl ha
  have hx := untyped_le mv b hl ha
  have h₁ : d.untyped mv c a b * d.factor₁ mv ≤ 1285203 * 4 := Nat.mul_le_mul hx (factor₁_le d mv)
  have h₂ : d.untyped mv c a b * d.factor₁ mv / 2 * d.factor₂ mv ≤ 2570406 * 4 :=
    Nat.mul_le_mul (by omega) (factor₂_le d mv)
  have htop : d.levelTerm c * mv.power.toNat * a ≤ 42840000 := by
    split_ifs at hna <;> omega
  have hdiv := Nat.div_le_self (d.levelTerm c * mv.power.toNat * a) b
  -- what is left once the damage without type factors is there
  have htail : ∀ y, (if d.Stab mv then y * 3 / 2 else y) = d.untyped mv c a b → y * 3 < 2147483648 → (do
      let dmg ← if d.Stab mv then (· / 2) <$> int32 (y * 3) else .ok y
      let dmg ← (· / 2) <$> int32 (dmg * d.factor₁ mv)
      (· / 2) <$> int32 (dmg * d.factor₂ mv)) =
        .ok (d.untyped mv c a b * d.factor₁ mv / 2 * d.factor₂ mv / 2) := by
    intro y hy hlt
    by_cases hs : d.Stab mv
    · rw [if_pos hs] at hy
      rw [if_pos hs, int32_ok hlt, map_ok, bind_ok, hy]
      dsimp only
      rw [int32_ok (by omega), map_ok, bind_ok, int32_ok (by omega), map_ok]
    · rw [if_neg hs] at hy
      rw [if_neg hs, bind_ok, hy]
      dsimp only
      rw [int32_ok (by omega), map_ok, bind_ok, int32_ok (by omega), map_ok]
  have hterm : (2 * (if c && !d.isGen3 then d.user.level.toNat * 2 else d.user.level.toNat) / 5 + 2) =
      d.levelTerm c := rfl
  unfold baseDamage
  dsimp only
  rw [hterm, int32_ok (by omega), bind_ok, int32_ok (by omega), bind_ok, divide_ok hb, bind_ok]
  by_cases hc : (c && d.isGen3) = true
  · rw [if_pos hc, int32_ok (by omega), bind_ok]
    refine htail _ ?_ (by omega)
    unfold untyped
    dsimp only
    rw [if_pos hc]
  · rw [if_neg hc]
    refine htail _ ?_ (by omega)
    unfold untyped
    dsimp only
    rw [if_neg hc]

/-- The variance keeps a damage that is there. -/
theorem varyDamage_eq {x : ℕ} (h : x ≤ 5140812) : Total (d.varyDamage x) fun r => r.1 = 0 ↔ x = 0 := by
  unfold varyDamage
  by_cases h0 : x = 0
  · rw [if_pos h0]
    exact .ok ⟨fun _ => h0, fun _ => rfl⟩
  · have hroll : x * (217 + d.rand32.1.toNat % 39) ≤ 5140812 * 255 := Nat.mul_le_mul h (by omega)
    rw [if_neg h0, int32_ok (by omega), bind_ok]
    refine .ok ⟨fun hz => ?_, fun hx => absurd hx h0⟩
    have hz := congrArg UInt16.toNat hz
    rw [UInt16.toNat_ofNat', UInt16.toNat_zero] at hz
    omega

/-! ### The two ways to nothing -/

/-- The staged defence of a hit that is not critical comes down to 0. -/
def DefenceGone (d : Duel) (mv : MoveData) : Prop :=
  d.rollCrit.1 = false ∧
    (d.target.defenceStat d.gen mv.type).toNat * boostMult (d.target.defenceStage d.gen mv.type) < 100

/-- Both types resist a hit that is too weak to be halved twice. -/
def HalvedAway (d : Duel) (mv : MoveData) : Prop :=
  d.factor₁ mv = 1 ∧ d.factor₂ mv = 1 ∧ ¬ (d.rollCrit.1 && d.isGen3) ∧
    d.levelTerm d.rollCrit.1 * mv.power.toNat * (d.attackDefence mv).1 <
      (if d.Stab mv then 50 else 100) * (d.attackDefence mv).2

instance : Decidable (d.DefenceGone mv) := inferInstanceAs (Decidable (_ ∧ _))

instance : Decidable (d.HalvedAway mv) := inferInstanceAs (Decidable (_ ∧ _))

theorem untyped_ge (d : Duel) (mv : MoveData) (c : Bool) (a b : ℕ) : 2 ≤ d.untyped mv c a b := by
  unfold untyped
  dsimp only
  generalize d.levelTerm c * mv.power.toNat * a / b = q
  split_ifs <;> omega

theorem untyped_lt_four_iff (d : Duel) (mv : MoveData) (c : Bool) (a : ℕ) (hb : 0 < b) : d.untyped mv c a b < 4 ↔
    ¬ (c && d.isGen3) ∧ d.levelTerm c * mv.power.toNat * a < (if d.Stab mv then 50 else 100) * b := by
  have h₁ := Nat.div_lt_iff_lt_mul (x := d.levelTerm c * mv.power.toNat * a) (y := 50) hb
  have h₂ := Nat.div_lt_iff_lt_mul (x := d.levelTerm c * mv.power.toNat * a) (y := 100) hb
  unfold untyped
  dsimp only
  generalize d.levelTerm c * mv.power.toNat * a / b = q at h₁ h₂ ⊢
  by_cases hc : (c && d.isGen3) = true
  · rw [if_pos hc]
    refine ⟨fun h => ?_, fun h => absurd hc h.1⟩
    split_ifs at h <;> omega
  · rw [if_neg hc]
    by_cases hs : d.Stab mv
    · rw [if_pos hs, if_pos hs, ← h₁]
      exact ⟨fun h => ⟨hc, by omega⟩, fun h => by have hlt := h.2; omega⟩
    · rw [if_neg hs, if_neg hs, ← h₂]
      exact ⟨fun h => ⟨hc, by omega⟩, fun h => by have hlt := h.2; omega⟩

theorem halved_iff {x : ℕ} (e₁ e₂ : ℕ) (hx : 2 ≤ x) :
    x * e₁ / 2 * e₂ / 2 = 0 ↔ (e₁ = 0 ∨ e₂ = 0) ∨ e₁ = 1 ∧ e₂ = 1 ∧ x < 4 := by
  rcases e₁ with _ | _ | e₁
  · simp
  · rcases e₂ with _ | _ | e₂
    · simp
    · omega
    · have hge : x / 2 * 2 ≤ x / 2 * (e₂ + 1 + 1) := Nat.mul_le_mul_left _ (by omega)
      have hone : x * (0 + 1) = x := Nat.mul_one x
      rw [hone]
      omega
  · rcases e₂ with _ | e₂
    · simp
    · have hge : x * 2 ≤ x * (e₁ + 1 + 1) := Nat.mul_le_mul_left _ (by omega)
      have hge₂ : x * (e₁ + 1 + 1) / 2 * 1 ≤ x * (e₁ + 1 + 1) / 2 * (e₂ + 1) := Nat.mul_le_mul_left _ (by omega)
      omega

/-- A type of the defender is immune. -/
def Immune (d : Duel) (mv : MoveData) : Prop :=
  effectiveness d.gen mv.type d.target.type1 = 0 ∨ effectiveness d.gen mv.type d.target.type2 = 0

instance : Decidable (d.Immune mv) := inferInstanceAs (Decidable (_ ∨ _))

theorem immune_iff : d.Immune mv ↔ d.factor₁ mv = 0 ∨ d.factor₂ mv = 0 := by
  have hz : ∀ x : UInt8, x.toNat = 0 ↔ x = 0 := fun x => UInt8.toNat_inj (b := 0)
  unfold Immune factor₁ factor₂
  by_cases ht : d.target.type1 = d.target.type2
  · rw [if_neg (not_not.mpr ht), ht, hz]
    exact ⟨fun h => .inl (h.elim id id), fun h => h.imp_right (absurd · (by decide))⟩
  · rw [if_pos ht, hz, hz]

/-- What a damage has to be: nothing where a type is immune, and something elsewhere. -/
def Fitting (d : Duel) (mv : MoveData) (dmg : UInt16) : Prop :=
  (d.Immune mv → dmg = 0) ∧ (¬ d.Immune mv → 1 ≤ dmg.toNat)

theorem baseDamage_zero (c : Bool) (r : ℕ) : d.baseDamage mv c a 0 ≠ .ok r := by
  intro h
  unfold baseDamage at h
  obtain ⟨_, _, h⟩ := bind_eq_ok.mp h
  obtain ⟨_, _, h⟩ := bind_eq_ok.mp h
  obtain ⟨_, hz, _⟩ := bind_eq_ok.mp h
  cases hz

/-- The attack and defence of a hit are inside the ranges of the formula. -/
theorem attackDefence_le (h : d.Ordinary mv) :
    (d.attackDefence mv).1 ≤ if d.rollCrit.1 then 1000 else 4000 := by
  obtain ⟨_, ha⟩ := h.attack
  have hma := (boostMult_bounds (d.user.attackStage d.gen mv.type)).2
  have h₁ : (d.user.attackStat d.gen mv.type).toNat * boostMult (d.user.attackStage d.gen mv.type) ≤
      1000 * 400 := Nat.mul_le_mul ha hma
  unfold attackDefence rawStats stagedStats
  dsimp only
  split_ifs <;> dsimp only <;> omega

theorem defence_pos_iff (h : d.Ordinary mv) : 0 < (d.attackDefence mv).2 ↔ ¬ d.DefenceGone mv := by
  obtain ⟨hb, _⟩ := h.defence
  unfold DefenceGone attackDefence rawStats stagedStats
  cases d.rollCrit.1 with
  | true =>
    rw [if_pos rfl]
    exact ⟨fun _ hg => absurd hg.1 (by decide), fun _ => hb⟩
  | false =>
    rw [if_neg Bool.false_ne_true]
    have hcut (n : ℕ) : 0 < n / 100 ↔ ¬ n < 100 := by omega
    simp only [true_and]
    rw [← hcut]
    split_ifs
    · exact ⟨fun h => by omega, fun h => by omega⟩
    · exact Iff.rfl

theorem calcDamage_eq (h : d.Ordinary mv) : d.calcDamage mv =
    (d.rollCrit.2.baseDamage mv d.rollCrit.1 (d.attackDefence mv).1 (d.attackDefence mv).2 >>= fun dmg =>
      (fun r => (r.1, d.rollCrit.1, r.2)) <$> d.rollCrit.2.varyDamage dmg) := by
  have hp : mv.power ≠ 0 := fun h0 => absurd h.power (by rw [h0]; decide)
  unfold calcDamage
  rw [if_neg hp, boostedStats_eq h, bind_ok]
  rfl

/-- A damage fits the types exactly where the staged defence is not cut to 0 and the damage is not
halved away. -/
theorem damage_fitting_iff (d : Duel) (mv : MoveData) (h : d.Ordinary mv) :
    Total (d.calcDamage mv) (fun r => d.Fitting mv r.1) ↔ ¬ d.DefenceGone mv ∧ ¬ d.HalvedAway mv := by
  have ha := attackDefence_le h
  have hpos := defence_pos_iff h
  rw [calcDamage_eq h]
  rcases Nat.eq_zero_or_pos (d.attackDefence mv).2 with h0 | hb
  · have hgone : d.DefenceGone mv := not_not.mp fun hg => absurd (hpos.mpr hg) (by omega)
    refine ⟨fun ht => ?_, fun hg => absurd hgone hg.1⟩
    obtain ⟨r, hr, -⟩ := ht
    obtain ⟨dmg, hd, -⟩ := bind_eq_ok.mp hr
    rw [h0] at hd
    exact absurd hd (baseDamage_zero _ _)
  · have hl : d.rollCrit.2.user.level.toNat ≤ 100 := h.level.2
    have hu := untyped_le mv (d.attackDefence mv).2 h.level.2 ha
    have hge := untyped_ge d mv d.rollCrit.1 (d.attackDefence mv).1 (d.attackDefence mv).2
    have hlt := untyped_lt_four_iff d mv d.rollCrit.1 (d.attackDefence mv).1 hb
    have hhalf := halved_iff (d.factor₁ mv) (d.factor₂ mv) hge
    have h₁ : d.untyped mv d.rollCrit.1 (d.attackDefence mv).1 (d.attackDefence mv).2 * d.factor₁ mv ≤
        1285203 * 4 := Nat.mul_le_mul hu (factor₁_le d mv)
    have h₂ : d.untyped mv d.rollCrit.1 (d.attackDefence mv).1 (d.attackDefence mv).2 * d.factor₁ mv / 2 *
        d.factor₂ mv ≤ 2570406 * 4 := Nat.mul_le_mul (by omega) (factor₂_le d mv)
    obtain ⟨r, hr, hz⟩ := varyDamage_eq (d := d.rollCrit.2)
      (x := d.untyped mv d.rollCrit.1 (d.attackDefence mv).1 (d.attackDefence mv).2 * d.factor₁ mv / 2 *
        d.factor₂ mv / 2) (by omega)
    have hbase : d.rollCrit.2.baseDamage mv d.rollCrit.1 (d.attackDefence mv).1 (d.attackDefence mv).2 =
        .ok (d.untyped mv d.rollCrit.1 (d.attackDefence mv).1 (d.attackDefence mv).2 * d.factor₁ mv / 2 *
          d.factor₂ mv / 2) := baseDamage_eq hl ha hb
    have hhalved : d.HalvedAway mv ↔ d.factor₁ mv = 1 ∧ d.factor₂ mv = 1 ∧
        d.untyped mv d.rollCrit.1 (d.attackDefence mv).1 (d.attackDefence mv).2 < 4 := by
      rw [hlt]
      rfl
    have hne : d.HalvedAway mv → ¬ d.Immune mv := by
      rw [immune_iff]
      rintro ⟨h₁, h₂, -⟩
      omega
    rw [hhalf, ← immune_iff, ← hhalved] at hz
    rw [hbase, bind_ok, hr, map_ok]
    constructor
    · rintro ⟨_, hok, hfit⟩
      cases hok
      refine ⟨hpos.mp hb, fun hh => ?_⟩
      have hone := hfit.2 (hne hh)
      rw [hz.mpr (.inr hh)] at hone
      exact absurd hone (by decide)
    · rintro ⟨-, hh⟩
      refine .ok ⟨fun hi => hz.mpr (.inl hi), fun hi => Nat.pos_of_ne_zero fun h0 => ?_⟩
      rcases hz.mp (UInt16.toNat_inj.mp h0) with h' | h'
      · exact hi h'
      · exact hh h'

/-- A level 5 mon with all stats 12 against one of the given types. -/
def sparring (type1 type2 : UInt8) : Duel :=
  { gen := 1, sink := true, rng := ⟨1, 2, 3, 4⟩
    user := { BattlePoke.zero with level := 5, atk := 12, spc := 12 }
    target := { BattlePoke.zero with level := 5, def' := 12, spc := 12, type1, type2 }
    userFx := .none, targetFx := .none, out := .empty }

def absorb : MoveData := ⟨71, "Absorb", 11, 20, 100, 25, 0, .drainHp, 0⟩

/-- One resisting type leaves something. -/
theorem damage_fitting_grass :
    Total ((sparring 11 11).calcDamage absorb) fun r => (sparring 11 11).Fitting absorb r.1 :=
  (damage_fitting_iff (sparring 11 11) absorb (by decide +kernel)).mpr (by decide +kernel)

/-- Grass and Poison together leave nothing of Absorb. -/
theorem absorb_halved_away : (sparring 11 3).Ordinary absorb ∧ ¬ (sparring 11 3).Immune absorb ∧
    ¬ Total ((sparring 11 3).calcDamage absorb) fun r => (sparring 11 3).Fitting absorb r.1 := by
  have hi : ¬ (sparring 11 3).Immune absorb := by decide +kernel
  refine ⟨by decide +kernel, hi, ?_⟩
  rintro ⟨r, hr, hfit⟩
  have hzero : ((sparring 11 3).calcDamage absorb).toOption.map (·.1) = some 0 := by decide +kernel
  rw [hr] at hzero
  have h0 : r.1 = 0 := Option.some.inj hzero
  have hone := hfit.2 hi
  rw [h0] at hone
  exact absurd hone (by decide)

end Duel
end MonsterMesh
