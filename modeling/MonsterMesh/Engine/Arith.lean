import Mathlib.Data.List.Infix
import Mathlib.Tactic.Ring
import MonsterMesh.Engine.Used

/-! Ranges: what the stat formula yields from any save record, and that the damage formula stays
inside 32 bits on such stats. -/
namespace MonsterMesh

open Fallible

/-! ### The stat formula -/

/-- The largest root the probes can build up. -/
def rootBound (probes : List Nat) (r : Nat) : Nat := probes.foldl (fun r b => r / 2 + b) r

theorem foldl_isqrtStep_le (probes : List Nat) {v r r' : Nat} (h : r ≤ r') :
    (probes.foldl isqrtStep (v, r)).2 ≤ rootBound probes r' := by
  induction probes generalizing v r r' with
  | nil => exact h
  | cons b probes ih =>
    simp only [List.foldl_cons, rootBound]
    have hs : (isqrtStep (v, r) b).2 ≤ r' / 2 + b := by
      unfold isqrtStep
      dsimp only
      split_ifs <;> dsimp only <;> omega
    exact ih hs

theorem isqrt16_le (v : Nat) : isqrt16 v ≤ 510 := by
  have hall : ∀ l ∈ isqrtProbes.tails, rootBound l 0 ≤ 510 := by decide
  have hsuf : isqrtProbes.dropWhile (fun b => v < b) <:+ isqrtProbes := List.dropWhile_suffix _
  exact Nat.le_trans (foldl_isqrtStep_le _ (Nat.le_refl 0))
    (hall _ ((List.mem_tails _ _).mpr hsuf))

/-- The product in the stat formula, before the constant is added. -/
theorem statProduct_le {base iv : UInt8} {maxBase : Nat} (expVal : UInt16) (level : UInt8)
    (hb : base.toNat ≤ maxBase) (hi : iv.toNat ≤ 15) :
    ((base.toNat + iv.toNat) * 2 + (isqrt16 expVal.toNat + 3) / 4) * level.toNat / 100 ≤
      ((maxBase + 15) * 2 + 128) * 255 / 100 := by
  have hq := isqrt16_le expVal.toNat
  have hl := level.toNat_lt
  apply Nat.div_le_div_right
  apply Nat.mul_le_mul <;> omega

theorem calcStat_le {base iv level : UInt8} {expVal : UInt16} {maxBase : Nat}
    (hb : base.toNat ≤ maxBase) (hi : iv.toNat ≤ 15) :
    (calcStat base iv expVal level false).toNat ≤ ((maxBase + 15) * 2 + 128) * 255 / 100 + 5 := by
  have hp := statProduct_le expVal level hb hi
  unfold calcStat
  dsimp only
  rw [UInt16.toNat_ofNat', if_neg (by decide)]
  exact Nat.le_trans (Nat.mod_le _ _) (by omega)

theorem calcStat_hp_le {base iv level : UInt8} {expVal : UInt16} {maxBase : Nat}
    (hb : base.toNat ≤ maxBase) (hi : iv.toNat ≤ 15) :
    (calcStat base iv expVal level true).toNat ≤
      ((maxBase + 15) * 2 + 128) * 255 / 100 + 265 := by
  have hp := statProduct_le expVal level hb hi
  have hl := level.toNat_lt
  unfold calcStat
  dsimp only
  rw [UInt16.toNat_ofNat', if_pos rfl]
  exact Nat.le_trans (Nat.mod_le _ _) (by omega)

/-- No stat but HP is below 5. -/
theorem le_calcStat {base iv level : UInt8} {expVal : UInt16} (hi : iv.toNat ≤ 15) :
    5 ≤ (calcStat base iv expVal level false).toNat := by
  have hb := base.toNat_lt
  have hp := statProduct_le expVal level (show base.toNat ≤ 255 by omega) hi
  unfold calcStat
  dsimp only
  rw [UInt16.toNat_ofNat', if_neg (by decide), Nat.mod_eq_of_lt (by omega)]
  omega

/-- No maximum of HP is below 10. -/
theorem le_calcStat_hp {base iv level : UInt8} {expVal : UInt16} (hi : iv.toNat ≤ 15) :
    10 ≤ (calcStat base iv expVal level true).toNat := by
  have hb := base.toNat_lt
  have hl := level.toNat_lt
  have hp := statProduct_le expVal level (show base.toNat ≤ 255 by omega) hi
  unfold calcStat
  dsimp only
  rw [UInt16.toNat_ofNat', if_pos rfl, Nat.mod_eq_of_lt (by omega)]
  omega

theorem nibble_le (v : UInt8) : (v &&& 0xF).toNat ≤ 15 := by
  rw [UInt8.toNat_and]
  exact Nat.and_le_right

theorem hpDV_le (a b c d : UInt8) :
    (((a &&& 1) <<< 3) ||| ((b &&& 1) <<< 2) ||| ((c &&& 1) <<< 1) ||| (d &&& 1)).toNat ≤ 15 := by
  have hbit : ∀ v : UInt8, v &&& 1 = 0 ∨ v &&& 1 = 1 := by
    intro v
    have hv : (v &&& 1).toNat = v.toNat % 2 := by rw [UInt8.toNat_and]; exact Nat.and_one_is_mod _
    rcases Nat.mod_two_eq_zero_or_one v.toNat with h | h
    · exact .inl (UInt8.toNat_inj.mp (hv.trans h))
    · exact .inr (UInt8.toNat_inj.mp (hv.trans h))
  rcases hbit a with ha | ha <;> rcases hbit b with hb | hb <;> rcases hbit c with hc | hc <;>
    rcases hbit d with hd | hd <;> simp [ha, hb, hc, hd]

theorem forall_getD {α : Type} {P : α → Prop} {l : List α} {d : α} (hl : ∀ a ∈ l, P a) (hd : P d)
    (n : Nat) : P (l.getD n d) := by
  rw [List.getD_eq_getElem?_getD]
  cases h : l[n]? with
  | none => exact hd
  | some a => exact hl a (List.mem_of_getElem? h)

/-- The largest base stats of the first table. -/
theorem gen1BaseStats_le (dex : UInt8) :
    (gen1BaseStats dex).hp.toNat ≤ 250 ∧ (gen1BaseStats dex).atk.toNat ≤ 155 ∧
      (gen1BaseStats dex).spc.toNat ≤ 194 := by
  apply forall_getD (l := gen1BaseStatsTable)
    (P := fun b => b.hp.toNat ≤ 250 ∧ b.atk.toNat ≤ 155 ∧ b.spc.toNat ≤ 194)
  · decide +kernel
  · decide

/-- The largest base stats of the split table. -/
theorem gen3BaseStats_le (dex : UInt8) :
    (gen3BaseStats dex).hp.toNat ≤ 250 ∧ (gen3BaseStats dex).atk.toNat ≤ 155 ∧
      (gen3BaseStats dex).spa.toNat ≤ 194 := by
  apply forall_getD (l := gen3BaseStatsTable)
    (P := fun b => b.hp.toNat ≤ 250 ∧ b.atk.toNat ≤ 155 ∧ b.spa.toNat ≤ 194)
  · decide +kernel
  · decide

/-! ### The ranges of a mon -/

/-- The ranges of the stats the damage formulas read. -/
structure Vital.Stats (gen : UInt8) (v : Vital) : Prop where
  atk : v.atk.toNat ≤ 1198
  def' : 5 ≤ v.def'.toNat
  spc : 5 ≤ v.spc.toNat ∧ v.spc.toNat ≤ 1397
  spaG3 : v.spaG3.toNat ≤ 1397
  spdG3 : 3 ≤ gen → 5 ≤ v.spdG3.toNat
  orig : v.transformed = true → v.origAtk.toNat ≤ 1198 ∧ 5 ≤ v.origDef.toNat ∧
    5 ≤ v.origSpc.toNat ∧ v.origSpc.toNat ≤ 1397

/-- The slots a mon is locked into exist. -/
structure Vital.Lock (v : Vital) : Prop where
  charging : v.chargingSlot = 0xFF ∨ v.chargingSlot.toNat < 4
  thrash : v.thrashSlot = 0xFF ∨ v.thrashSlot.toNat < 4

/-- The accumulators never hold more than the HP a mon has lost. -/
structure Vital.Tally (v : Vital) : Prop where
  lastDamage : v.lastDamageTaken ≤ v.maxHp
  bide : v.bideTurns ≠ 0 → v.bideDamage.toNat + v.hp.toNat ≤ v.maxHp.toNat

/-- A mon of a loaded party, at rest. The accumulators of a fainted mon are not bounded. -/
structure Vital.Sound (gen : UInt8) (v : Vital) : Prop where
  stats : v.Stats gen
  lock : v.Lock
  maxHp : v.maxHp.toNat ≤ 1942
  hp : v.hp ≤ v.maxHp
  tally : v.hp ≠ 0 → v.Tally

/-- Whatever bytes a save record holds, the mon built from it is sound. -/
theorem init_sound (src : Gen1Pokemon) (nick : Fin 11 → UInt8) (gen : UInt8) :
    (initBattlePokeFromSave src nick gen).vital.Sound gen := by
  have hn : ∀ b : UInt8, (b &&& 0xF).toNat ≤ 15 := nibble_le
  unfold initBattlePokeFromSave
  by_cases hg : 3 ≤ gen
  · simp only [hg, if_true]
    obtain ⟨hhp, hatk, hspa⟩ := gen3BaseStats_le
      (if internalToDex src.species < 152 then internalToDex src.species else 0)
    exact ⟨⟨calcStat_le hatk (hn _), le_calcStat (hn _), ⟨le_calcStat (hn _), calcStat_le hspa (hn _)⟩,
        calcStat_le hspa (hn _), fun _ => le_calcStat (hn _), nofun⟩,
      ⟨.inl rfl, .inl rfl⟩, calcStat_hp_le hhp (hpDV_le _ _ _ _), startHp_le _ _,
      fun _ => ⟨UInt16.zero_le, fun h => absurd rfl h⟩⟩
  · simp only [hg, if_false]
    obtain ⟨hhp, hatk, hspc⟩ := gen1BaseStats_le
      (if internalToDex src.species < 152 then internalToDex src.species else 0)
    exact ⟨⟨calcStat_le hatk (hn _), le_calcStat (hn _), ⟨le_calcStat (hn _), calcStat_le hspc (hn _)⟩,
        Nat.zero_le _, fun h => absurd h hg, nofun⟩,
      ⟨.inl rfl, .inl rfl⟩, calcStat_hp_le hhp (hpDV_le _ _ _ _), startHp_le _ _,
      fun _ => ⟨UInt16.zero_le, fun h => absurd rfl h⟩⟩

theorem init_maxHp (src : Gen1Pokemon) (nick : Fin 11 → UInt8) (gen : UInt8) :
    0 < (initBattlePokeFromSave src nick gen).maxHp := by
  have hten : ∀ base iv expVal level, iv.toNat ≤ 15 → 0 < calcStat base iv expVal level true := by
    intro base iv expVal level hiv
    have hle : 10 ≤ (calcStat base iv expVal level true).toNat := le_calcStat_hp hiv
    refine UInt16.lt_iff_toNat_lt.mpr ?_
    exact Nat.lt_of_lt_of_le (by decide) hle
  unfold initBattlePokeFromSave
  by_cases hg : 3 ≤ gen
  · simp only [hg, if_true]
    exact hten _ _ _ _ (hpDV_le _ _ _ _)
  · simp only [hg, if_false]
    exact hten _ _ _ _ (hpDV_le _ _ _ _)

/-! ### The tables -/

theorem chartEntry_le (chart : List (List UInt8)) (top : Nat)
    (h : ∀ row ∈ chart, ∀ x ∈ row, x.toNat ≤ top) (h2 : (2 : UInt8).toNat ≤ top) (a b : UInt8) :
    (chartEntry chart a b).toNat ≤ top := by
  have hrow : ∀ x ∈ chart.getD a.toNat [], x.toNat ≤ top :=
    forall_getD (P := fun row => ∀ x ∈ row, UInt8.toNat x ≤ top) h (by simp) _
  exact forall_getD (P := fun x : UInt8 => x.toNat ≤ top) hrow h2 _

theorem effectiveness_le (gen a b : UInt8) : (effectiveness gen a b).toNat ≤ 4 := by
  have h₁ := chartEntry_le gen1Typechart 4 (by decide +kernel) (by decide) a b
  have h₃ := chartEntry_le gen3Typechart 4 (by decide +kernel) (by decide) a b
  unfold effectiveness
  split_ifs
  · decide
  · exact h₃
  · decide
  · exact h₁

/-- Nothing is weak to Normal. -/
theorem effectiveness_normal_le (gen b : UInt8) : (effectiveness gen 0 b).toNat ≤ 2 := by
  have h₁ : (chartEntry gen1Typechart 0 b).toNat ≤ 2 :=
    forall_getD (l := gen1Typechart.getD 0 []) (P := fun x : UInt8 => x.toNat ≤ 2)
      (by decide +kernel) (by decide) _
  have h₃ : (chartEntry gen3Typechart 0 b).toNat ≤ 2 :=
    forall_getD (l := gen3Typechart.getD 0 []) (P := fun x : UInt8 => x.toNat ≤ 2)
      (by decide +kernel) (by decide) _
  unfold effectiveness
  split_ifs
  · decide
  · exact h₃
  · decide
  · exact h₁

/-- The move comes from the table of the generation. -/
def MoveData.Listed (gen : UInt8) (mv : MoveData) : Prop := ∃ id, mdata gen id = some mv

/-- The strongest special move, and the strongest physical one that is not of type Normal. -/
theorem Listed.power_le {gen : UInt8} {mv : MoveData} (h : mv.Listed gen) :
    (isSpecialType gen mv.type = true → mv.power.toNat ≤ 120) ∧
      (mv.type ≠ 0 → mv.power.toNat ≤ 140) ∧ mv.power.toNat ≤ 250 := by
  obtain ⟨id, h⟩ := h
  unfold mdata at h
  unfold isSpecialType
  by_cases hg : 3 ≤ gen
  · simp only [hg, if_true] at h ⊢
    have hall : ∀ mv ∈ gen3Moves,
        ((mv.type < gen3TypeCount && gen3TypeIsSpecial.getD mv.type.toNat false) = true →
          mv.power.toNat ≤ 120) ∧ (mv.type ≠ 0 → mv.power.toNat ≤ 140) ∧ mv.power.toNat ≤ 250 := by
      decide +kernel
    exact hall mv (List.mem_of_find?_eq_some h)
  · simp only [hg, if_false] at h ⊢
    have hall : ∀ mv ∈ gen1Moves,
        ((9 ≤ mv.type && mv.type ≤ 15) = true → mv.power.toNat ≤ 120) ∧
          (mv.type ≠ 0 → mv.power.toNat ≤ 140) ∧ mv.power.toNat ≤ 250 := by
      decide +kernel
    exact hall mv (List.mem_of_find?_eq_some h)

theorem boostMult_bounds (stage : Int8) : 25 ≤ boostMult stage ∧ boostMult stage ≤ 400 :=
  forall_getD (P := fun m => 25 ≤ m ∧ m ≤ 400) (by decide) (by decide) _

/-! ### The damage formula -/

theorem int32_ok {v : Nat} (h : v < 2147483648) : int32 v = .ok v := if_pos h

theorem int32_total {v : Nat} {P : Nat → Prop} (h : v < 2147483648) (hp : P v) :
    Total (int32 v) P := ⟨v, int32_ok h, hp⟩

theorem divide_ok {a b : Nat} (h : 0 < b) : divide a b = .ok (a / b) := if_neg (by omega)

/-- The accuracy product stays far inside 32 bits, whatever the stages. -/
theorem hitProduct_lt (d : Duel) (mv : MoveData) : d.hitProduct mv < 2147483648 := by
  have ha := mv.accuracy.toNat_lt
  have h₁ := (boostMult_bounds d.user.accBoost).2
  have h₂ := (boostMult_bounds (-d.target.evaBoost)).2
  have hm : d.hitProduct mv ≤ 255 * 400 * 400 :=
    Nat.mul_le_mul (Nat.mul_le_mul (by omega) h₁) h₂
  omega

theorem speedProduct_lt (m : BattlePoke) : m.speedProduct < 2147483648 := by
  have hs := m.spd.toNat_lt
  have hb := (boostMult_bounds m.spdBoost).2
  have hm : m.speedProduct ≤ 65535 * 400 := Nat.mul_le_mul (by omega) hb
  omega

namespace Duel

variable (d : Duel) (mv : MoveData)

theorem boostedStats_total (ha : (d.user.attackStat d.gen mv.type).toNat ≤ 1397)
    (hd : 5 ≤ (d.target.defenceStat d.gen mv.type).toNat) :
    Total (d.boostedStats mv) fun s =>
      s.1 ≤ 4 * (d.user.attackStat d.gen mv.type).toNat ∧ 0 < s.2 := by
  obtain ⟨_, hb₁⟩ := boostMult_bounds (d.user.attackStage d.gen mv.type)
  obtain ⟨hb₂, hb₂'⟩ := boostMult_bounds (d.target.defenceStage d.gen mv.type)
  have hdl := (d.target.defenceStat d.gen mv.type).toNat_lt
  unfold boostedStats
  generalize (d.user.attackStat d.gen mv.type).toNat = a at *
  generalize (d.target.defenceStat d.gen mv.type).toNat = b at *
  generalize boostMult (d.user.attackStage d.gen mv.type) = ma at *
  generalize boostMult (d.target.defenceStage d.gen mv.type) = mb at *
  have h₁ : a * ma ≤ a * 400 := Nat.mul_le_mul_left _ hb₁
  have h₂ : b * mb ≤ 65535 * 400 := Nat.mul_le_mul (by omega) hb₂'
  have h₃ : 5 * 25 ≤ b * mb := Nat.mul_le_mul hd hb₂
  have hx : ∀ x ≤ a * ma / 100, x ≤ 4 * a := by omega
  have hburn : (if d.user.burned then a * ma / 100 / 2 else a * ma / 100) ≤ 4 * a := by
    apply hx
    split_ifs <;> omega
  refine (int32_total (P := (· = a * ma)) (by omega) rfl).bind ?_
  rintro _ rfl
  refine (int32_total (P := (· = b * mb)) (by omega) rfl).bind ?_
  rintro _ rfl
  by_cases hs : d.targetFx.screens d.gen mv.type
  · simp only [hs, if_true]
    exact (int32_total (P := (0 < ·)) (by omega) (by omega)).bind fun b' hb' => .ok ⟨hburn, hb'⟩
  · simp only [hs, Bool.false_eq_true, if_false, bind_ok]
    exact .ok ⟨hburn, by omega⟩

/-- Level doubling, stages and the critical factor never come together. -/
theorem levelFactor_le {crit g3 : Bool} {level a A : Nat} (hl : level ≤ 255)
    (ha : a ≤ if crit then A else 4 * A) :
    (2 * (if crit && !g3 then level * 2 else level) / 5 + 2) * a * (if crit && g3 then 2 else 1) ≤
      416 * A := by
  cases crit <;> cases g3 <;> simp only [Bool.and_false, Bool.and_true, Bool.not_true,
    Bool.not_false, Bool.false_eq_true, if_true, if_false, Nat.mul_one] at ha ⊢
  · calc _ ≤ 104 * (4 * A) := Nat.mul_le_mul (by omega) ha
      _ = 416 * A := by omega
  · calc _ ≤ 104 * (4 * A) := Nat.mul_le_mul (by omega) ha
      _ = 416 * A := by omega
  · calc _ ≤ 206 * A := Nat.mul_le_mul (by omega) ha
      _ ≤ 416 * A := by omega
  · calc _ ≤ 104 * A * 2 := Nat.mul_le_mul_right _ (Nat.mul_le_mul (by omega) ha)
      _ ≤ 416 * A := by omega

/-- The largest product of power, stat and both type factors a legal attack reaches. -/
def strongest : Nat := 2683520

/-- The two type factors, applied to a damage that came from the power-stat product `w`. -/
theorem typed_total {x e₁ e₂ w : Nat} (hx : 100 * x ≤ 3 * (416 * w + 200)) (hw : w ≤ 349250)
    (he₁ : e₁ ≤ 4) (he₂ : e₂ ≤ 4) (ht : w * (e₁ * e₂) ≤ strongest) :
    Total (do
      let dmg ← (· / 2) <$> int32 (x * e₁)
      (· / 2) <$> int32 (dmg * e₂)) (· ≤ 8372606) := by
  have h₁ : x * e₁ ≤ x * 4 := Nat.mul_le_mul_left _ he₁
  have h₂ : x * e₁ / 2 * e₂ ≤ x * e₁ / 2 * 4 := Nat.mul_le_mul_left _ he₂
  have h₃ : 2 * (x * e₁ / 2 * e₂) ≤ x * (e₁ * e₂) := by
    rw [← Nat.mul_assoc, ← Nat.mul_assoc]
    exact Nat.mul_le_mul_right _ (by omega)
  have he : e₁ * e₂ ≤ 4 * 4 := Nat.mul_le_mul he₁ he₂
  have h₄ : 100 * x * (e₁ * e₂) ≤ 3 * (416 * w + 200) * (e₁ * e₂) := Nat.mul_le_mul_right _ hx
  have h₅ : 3 * (416 * w + 200) * (e₁ * e₂) = 1248 * (w * (e₁ * e₂)) + 600 * (e₁ * e₂) := by ring
  rw [Nat.mul_assoc, h₅] at h₄
  unfold strongest at ht
  rw [int32_ok (by omega), map_ok, bind_ok, int32_ok (by omega), map_ok]
  exact .ok (by omega)

theorem baseDamage_total {c : Bool} {a b A : Nat} (hb : 0 < b)
    (ha : a ≤ if c then A else 4 * A) (hp : mv.power.toNat * A ≤ 349250)
    (hw : mv.power.toNat * A * d.typeFactor mv ≤ strongest) :
    Total (d.baseDamage mv c a b) (· ≤ 8372606) := by
  have hl := d.user.level.toNat_lt
  have hpow := mv.power.toNat_lt
  have hk := @levelFactor_le c d.isGen3 _ _ _ (Nat.le_of_lt_succ hl) ha
  have he₁ := effectiveness_le d.gen mv.type d.target.type1
  have he₂ : (if d.target.type1 ≠ d.target.type2 then effectiveness d.gen mv.type d.target.type2
      else 2).toNat ≤ 4 := by
    split_ifs
    · exact effectiveness_le ..
    · decide
  have hf : 2 * (if (c && !d.isGen3) = true then d.user.level.toNat * 2
      else d.user.level.toNat) / 5 + 2 ≤ 206 := by
    split_ifs <;> omega
  unfold baseDamage
  dsimp only
  generalize 2 * (if (c && !d.isGen3) = true then d.user.level.toNat * 2
      else d.user.level.toNat) / 5 + 2 = f at *
  have hfp : f * mv.power.toNat ≤ 206 * 255 := Nat.mul_le_mul hf (by omega)
  -- the level, power and stat product, with the critical factor
  have hn : f * mv.power.toNat * a * (if (c && d.isGen3) = true then 2 else 1) ≤
      416 * (mv.power.toNat * A) := by
    calc _ = mv.power.toNat * (f * a * (if (c && d.isGen3) = true then 2 else 1)) := by ring
      _ ≤ mv.power.toNat * (416 * A) := Nat.mul_le_mul_left _ hk
      _ = 416 * (mv.power.toNat * A) := by ring
  have hdiv := Nat.div_le_self (f * mv.power.toNat * a) b
  -- the STAB branch and the type factors, from the damage after the critical factor
  have htail : ∀ m, 50 * m ≤ 416 * (mv.power.toNat * A) + 200 → Total (do
      let dmg ← if mv.type = d.user.type1 ∨ mv.type = d.user.type2 then
        (· / 2) <$> int32 (m * 3) else .ok m
      let dmg ← (· / 2) <$> int32 (dmg * (effectiveness d.gen mv.type d.target.type1).toNat)
      (· / 2) <$> int32 (dmg * UInt8.toNat (if d.target.type1 ≠ d.target.type2 then
        effectiveness d.gen mv.type d.target.type2 else 2))) (· ≤ 8372606) := by
    intro m hm
    by_cases hs : mv.type = d.user.type1 ∨ mv.type = d.user.type2
    · rw [if_pos hs, int32_ok (by omega), map_ok, bind_ok]
      exact typed_total (by omega) hp he₁ he₂ hw
    · rw [if_neg hs, bind_ok]
      exact typed_total (by omega) hp he₁ he₂ hw
  rw [int32_ok (by omega), bind_ok, int32_ok (by split_ifs at hn <;> omega), bind_ok,
    divide_ok hb, bind_ok]
  by_cases hc : (c && d.isGen3) = true
  · rw [if_pos hc] at hn ⊢
    rw [int32_ok (by omega), bind_ok]
    refine htail _ ?_
    omega
  · rw [if_neg hc] at hn ⊢
    refine htail _ ?_
    omega

theorem varyDamage_ok {dmg : Nat} (h : dmg ≤ 8372606) : ∃ r, d.varyDamage dmg = .ok r := by
  unfold varyDamage
  split_ifs
  · exact ⟨_, rfl⟩
  · have hr : dmg * (217 + d.rand32.1.toNat % 39) ≤ 8372606 * 255 := Nat.mul_le_mul h (by omega)
    rw [int32_ok (by omega)]
    exact ⟨_, rfl⟩

theorem typeFactor_le : d.typeFactor mv ≤ 4 * 4 := by
  unfold typeFactor
  refine Nat.mul_le_mul (effectiveness_le ..) ?_
  split_ifs
  · exact effectiveness_le ..
  · decide

theorem typeFactor_normal_le (h : mv.type = 0) : d.typeFactor mv ≤ 2 * 2 := by
  unfold typeFactor
  rw [h]
  refine Nat.mul_le_mul (effectiveness_normal_le ..) ?_
  split_ifs
  · exact effectiveness_normal_le ..
  · decide

variable {d mv}

/-- The attack stat is bounded, more tightly for physical moves. -/
theorem attackStat_le (mv : MoveData) (hu : d.user.vital.Stats d.gen) :
    (d.user.attackStat d.gen mv.type).toNat ≤ 1397 ∧
      (isSpecialType d.gen mv.type = false → (d.user.attackStat d.gen mv.type).toNat ≤ 1198) := by
  have ha : d.user.atk.toNat ≤ 1198 := hu.atk
  have hs : d.user.spc.toNat ≤ 1397 := hu.spc.2
  have hg : d.user.spaG3.toNat ≤ 1397 := hu.spaG3
  unfold BattlePoke.attackStat
  cases isSpecialType d.gen mv.type
  · exact ⟨Nat.le_trans ha (by omega), fun _ => ha⟩
  · refine ⟨?_, nofun⟩
    rw [if_pos rfl]
    split_ifs
    · exact hg
    · exact hs

theorem le_defenceStat (mv : MoveData) (ht : d.target.vital.Stats d.gen) :
    5 ≤ (d.target.defenceStat d.gen mv.type).toNat := by
  have hd : 5 ≤ d.target.def'.toNat := ht.def'
  have hs : 5 ≤ d.target.spc.toNat := ht.spc.1
  unfold BattlePoke.defenceStat
  split_ifs with _ hg
  · exact ht.spdG3 hg
  · exact hs
  · exact hd

theorem power_stat_le (hu : d.user.vital.Stats d.gen) (hm : mv.Listed d.gen) :
    mv.power.toNat * (d.user.attackStat d.gen mv.type).toNat ≤ 349250 ∧
      mv.power.toNat * (d.user.attackStat d.gen mv.type).toNat * d.typeFactor mv ≤ strongest := by
  obtain ⟨hsp, hph, hp⟩ := Listed.power_le hm
  obtain ⟨ha, ha'⟩ := attackStat_le mv hu
  have hf := typeFactor_le d mv
  refine ⟨Nat.mul_le_mul hp ha, ?_⟩
  cases hspec : isSpecialType d.gen mv.type with
  | true =>
    calc _ ≤ 120 * 1397 * 16 := Nat.mul_le_mul (Nat.mul_le_mul (hsp hspec) ha) hf
      _ ≤ strongest := by decide
  | false =>
    by_cases h0 : mv.type = 0
    · calc _ ≤ 250 * 1198 * 4 :=
            Nat.mul_le_mul (Nat.mul_le_mul hp (ha' hspec)) (typeFactor_normal_le d mv h0)
        _ ≤ strongest := by decide
    · calc _ ≤ 140 * 1198 * 16 := Nat.mul_le_mul (Nat.mul_le_mul (hph h0) (ha' hspec)) hf
        _ = strongest := by decide

/-- With a loaded mon on either side the damage formula divides by no zero and stays inside
32 bits. -/
theorem calcDamage_ok (hu : d.user.vital.Stats d.gen) (ht : d.target.vital.Stats d.gen)
    (hm : mv.Listed d.gen) : ∃ r, d.calcDamage mv = .ok r := by
  obtain ⟨hp, hw⟩ := power_stat_le hu hm
  obtain ⟨ha, _⟩ := attackStat_le mv hu
  have hd := le_defenceStat mv ht
  unfold calcDamage
  split_ifs
  · exact ⟨_, rfl⟩
  · obtain ⟨⟨a, b⟩, hb, ha', hb'⟩ := boostedStats_total d mv ha hd
    rw [hb, bind_ok]
    have hraw : (d.rawStats mv).1 ≤ (d.user.attackStat d.gen mv.type).toNat := by
      unfold rawStats
      dsimp only
      split_ifs <;> omega
    have hraw' : 0 < (d.rawStats mv).2 := Nat.lt_of_lt_of_le (by omega) hd
    obtain ⟨dmg, hdmg, hle⟩ := baseDamage_total d.rollCrit.2 mv (c := d.rollCrit.1)
      (a := (if d.rollCrit.1 then d.rawStats mv else (a, b)).1)
      (b := (if d.rollCrit.1 then d.rawStats mv else (a, b)).2)
      (by split_ifs; exacts [hraw', hb']) (by split_ifs; exacts [hraw, ha']) hp hw
    obtain ⟨r, hr⟩ := varyDamage_ok d.rollCrit.2 hle
    exact ⟨_, bind_eq_ok.mpr ⟨dmg, hdmg, bind_eq_ok.mpr ⟨r, hr, rfl⟩⟩⟩

end Duel
end MonsterMesh
