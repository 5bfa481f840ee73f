import MonsterMesh.Engine.State
import MonsterMesh.Lib.Root
import MonsterMesh.Save.Patcher

/-! The one stat formula, and the two programs that compute it. -/
namespace MonsterMesh

/-- The product in the stat formula. -/
def statProduct (base dv statExp level : ℕ) : ℕ := ((base + dv) * 2 + ceilSqrt statExp / 4) * level

def statFormula (base dv statExp level : ℕ) : ℕ := statProduct base dv statExp level / 100 + 5

def hpFormula (base dv statExp level : ℕ) : ℕ := statProduct base dv statExp level / 100 + level + 10

/-! ### The patcher -/

namespace DaycareSavPatcher

/-- The loop is Newton's iteration from above the root. -/
theorem isqrtLoop_eq {n fuel x : ℕ} (h0 : 0 < n) (hx : 0 < x) (hf : x ≤ fuel)
    (hn : n < (x + 1) * (x + 1)) : isqrtLoop n fuel x ((x + n / x) / 2) = Nat.sqrt n := by
  induction fuel generalizing x with
  | zero => omega
  | succ fuel ih =>
    unfold isqrtLoop
    split_ifs with h
    · have hnext : 0 < (x + n / x) / 2 := by
        rcases Nat.eq_or_lt_of_le (Nat.succ_le_of_lt hx) with rfl | hx1
        · rw [Nat.div_one]
          omega
        · have hle := Nat.le_add_right x (n / x)
          omega
      exact ih hnext (by omega) (lt_newton_succ_sq hx)
    · exact Nat.eq_sqrt.mpr ⟨sq_le_of_le_newton (Nat.le_of_not_lt h), hn⟩

theorem isqrt16_eq (n : ℕ) : isqrt16 n = Nat.sqrt n := by
  unfold isqrt16
  split_ifs with h
  · rw [h, Nat.sqrt_zero]
  · have hpos := Nat.pos_of_ne_zero h
    have hdiv : n / n = 1 := Nat.div_self hpos
    have hloop := isqrtLoop_eq (n := n) hpos hpos (Nat.le_refl n) (by nlinarith)
    rwa [hdiv] at hloop

theorem evBonus_eq (statExp : ℕ) : evBonus statExp = ceilSqrt statExp / 4 := by
  unfold evBonus ceilSqrt
  rw [isqrt16_eq]

theorem calcStat_eq (base : UInt8) (dv statExp level : ℕ) :
    calcStat base dv statExp level = statFormula base.toNat dv statExp level := by
  unfold calcStat statFormula statProduct
  rw [evBonus_eq]

theorem calcStatHP_eq (base : UInt8) (dv statExp level : ℕ) :
    calcStatHP base dv statExp level = hpFormula base.toNat dv statExp level := by
  unfold calcStatHP hpFormula statProduct
  rw [evBonus_eq]

end DaycareSavPatcher

/-! ### The battle engine -/

/-- The first probe is twice a power of four, and with it the root is twice that of the half. -/
theorem isqrt16_eq {v : ℕ} (hv : v < 65536) : isqrt16 v = 2 * Nat.sqrt (v / 2) :=
  probed_eq (c := 2) (k := 8) (by decide) (by omega)

/-- What the engine's bonus has too much. -/
def rootSurplus (statExp : ℕ) : ℕ := (2 * Nat.sqrt (statExp / 2) + 3) / 4 - ceilSqrt statExp / 4

theorem rootSurplus_eq (statExp : ℕ) :
    (2 * Nat.sqrt (statExp / 2) + 3) / 4 = ceilSqrt statExp / 4 + rootSurplus statExp := by
  have hlt := Nat.lt_succ_sqrt (statExp / 2)
  have hle : ceilSqrt statExp ≤ 2 * Nat.sqrt (statExp / 2) + 3 := by
    refine ceilSqrt_le_iff.mpr ?_
    generalize Nat.sqrt (statExp / 2) = s at hlt ⊢
    have hhalf : statExp / 2 + 1 ≤ (s + 1) * (s + 1) := hlt
    have hexp : (2 * s + 3) * (2 * s + 3) = 4 * ((s + 1) * (s + 1)) + 4 * s + 5 := by ring
    omega
  unfold rootSurplus
  omega

/-- No surplus up to a stat experience of 1, and from 10 to 17. -/
theorem rootSurplus_eq_zero_iff {e : ℕ} : rootSurplus e = 0 ↔ e ≤ 1 ∨ 10 ≤ e ∧ e ≤ 17 := by
  constructor
  · intro h
    have heq := rootSurplus_eq e
    rw [h, Nat.add_zero] at heq
    have hs := Nat.lt_succ_sqrt (e / 2)
    -- the ceiling is at least four times the common quarter `m`, the half's root at most twice
    obtain ⟨m, hm⟩ : ∃ m, ceilSqrt e / 4 = m := ⟨_, rfl⟩
    rw [hm] at heq
    have hroot : Nat.sqrt (e / 2) ≤ 2 * m := by omega
    have hhalf : e / 2 < (2 * m + 1) * (2 * m + 1) :=
      hs.trans_le (Nat.mul_self_le_mul_self (Nat.succ_le_succ hroot))
    rcases m with _ | m
    · left
      omega
    · have hceil : ¬ ceilSqrt e ≤ 4 * m + 3 := by omega
      rw [ceilSqrt_le_iff] at hceil
      have hm0 : m = 0 := by nlinarith [Nat.div_add_mod e 2, Nat.mod_lt e (show 0 < 2 by decide)]
      subst hm0
      right
      omega
  · intro h
    have hs := Nat.sqrt_lt (m := e / 2) (n := 3)
    have hs1 := Nat.sqrt_lt (m := e / 2) (n := 1)
    have hc := ceilSqrt_le_iff (n := e) (r := 3)
    unfold rootSurplus
    omega

/-! ### Where they agree -/

/-- The engine, the patcher and the formula have the same stat and the same maximum of HP. -/
structure OneFormula (base dv : UInt8) (statExp : UInt16) (level : UInt8) : Prop where
  stat : (calcStat base dv statExp level false).toNat =
    DaycareSavPatcher.calcStat base dv.toNat statExp.toNat level.toNat
  hp : (calcStat base dv statExp level true).toNat =
    DaycareSavPatcher.calcStatHP base dv.toNat statExp.toNat level.toNat
  statFormula : DaycareSavPatcher.calcStat base dv.toNat statExp.toNat level.toNat =
    statFormula base.toNat dv.toNat statExp.toNat level.toNat
  hpFormula : DaycareSavPatcher.calcStatHP base dv.toNat statExp.toNat level.toNat =
    hpFormula base.toNat dv.toNat statExp.toNat level.toNat

/-- The surplus does not carry the product over the next hundred. -/
def NoCarry (base dv statExp level : ℕ) : Prop :=
  statProduct base dv statExp level % 100 + rootSurplus statExp * level < 100

instance (base dv statExp level : ℕ) : Decidable (NoCarry base dv statExp level) :=
  inferInstanceAs (Decidable (_ < _))

/-- At level 100 the formulas agree on the stat experiences without a surplus only. -/
theorem noCarry_hundred_iff (base dv e : ℕ) :
    NoCarry base dv e 100 ↔ e ≤ 1 ∨ 10 ≤ e ∧ e ≤ 17 := by
  rw [← rootSurplus_eq_zero_iff]
  unfold NoCarry statProduct
  rw [Nat.mul_mod_left]
  omega

theorem div_add_eq_iff {a b : ℕ} : (a + b) / 100 = a / 100 ↔ a % 100 + b < 100 := by omega

theorem engineProduct_eq (base dv statExp level : ℕ) (h : statExp < 65536) :
    ((base + dv) * 2 + (isqrt16 statExp + 3) / 4) * level =
      statProduct base dv statExp level + rootSurplus statExp * level := by
  rw [isqrt16_eq h, rootSurplus_eq]
  unfold statProduct
  ring

end MonsterMesh
