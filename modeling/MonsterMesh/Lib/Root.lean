import Mathlib.Algebra.Group.Nat.Defs
import Mathlib.Algebra.GroupWithZero.Nat
import Mathlib.Data.Nat.Sqrt
import Mathlib.Tactic.Linarith
import Mathlib.Tactic.Ring
import Mathlib.Tactic.SplitIfs

/-! Integer square roots: Newton's iteration, the method of probing bits, and rounding up. -/

variable {n v x p w k j c r : ℕ}

/-! ### Newton's iteration -/

/-- A round of Newton's iteration never falls below the root. -/
theorem lt_newton_succ_sq (hx : 0 < x) : n < ((x + n / x) / 2 + 1) * ((x + n / x) / 2 + 1) := by
  have hq : n < x * (n / x + 1) := Nat.lt_mul_div_succ n hx
  generalize n / x = q at hq
  have hr : x + (q + 1) ≤ 2 * ((x + q) / 2 + 1) := by omega
  generalize (x + q) / 2 + 1 = r at hr
  have hmean : 4 * (x * (q + 1)) ≤ 4 * (r * r) := by
    calc 4 * (x * (q + 1)) = 4 * x * (q + 1) := by ring
      _ ≤ (x + (q + 1)) ^ 2 := four_mul_le_sq_add x (q + 1)
      _ ≤ (2 * r) ^ 2 := Nat.pow_le_pow_left hr 2
      _ = 4 * (r * r) := by ring
  omega

/-- Where a round does not fall, the root is reached. -/
theorem sq_le_of_le_newton (h : x ≤ (x + n / x) / 2) : x * x ≤ n := by
  have hq : x ≤ n / x := by omega
  exact (Nat.mul_le_mul_left x hq).trans (Nat.mul_div_le n x)

/-! ### Probing bits -/

/-- One probe of the bit `b` on what is left and twice the scaled root so far. -/
def probe (s : ℕ × ℕ) (b : ℕ) : ℕ × ℕ :=
  if s.2 + b ≤ s.1 then (s.1 - (s.2 + b), s.2 / 2 + b) else (s.1, s.2 / 2)

/-- The `k` smallest of the powers of four, each taken `c` times, largest first. -/
def probes (c : ℕ) : ℕ → List ℕ
  | 0 => []
  | k + 1 => c * 4 ^ k :: probes c k

theorem four_pow (k : ℕ) : 4 ^ k = 2 ^ k * 2 ^ k := (Nat.mul_pow 2 2 k)

theorem probe_eq : probe (w, c * p * 2 ^ (k + 1)) (c * 4 ^ k) =
    if c * p * 2 ^ (k + 1) + c * 4 ^ k ≤ w then
      (w - (c * p * 2 ^ (k + 1) + c * 4 ^ k), c * (p + 2 ^ k) * 2 ^ k)
    else (w, c * p * 2 ^ k) := by
  have h2 : c * p * 2 ^ (k + 1) / 2 = c * p * 2 ^ k := by
    rw [pow_succ, ← Nat.mul_assoc, Nat.mul_div_cancel _ (by decide)]
  unfold probe
  dsimp only
  rw [h2]
  split_ifs
  · rw [four_pow]
    congr 1
    ring
  · rfl

/-- The probes of `c` times the powers of four leave `c` times the root of the `c`-th part. -/
theorem foldl_probe (hc : 0 < c) (hw : w + c * (p * p) = v) (hv : v < c * ((p + 2 ^ k) * (p + 2 ^ k))) :
    ((probes c k).foldl probe (w, c * p * 2 ^ k)).2 = c * Nat.sqrt (v / c) := by
  induction k generalizing p w with
  | zero =>
    have hp : p = Nat.sqrt (v / c) := by
      refine Nat.eq_sqrt.mpr ⟨(Nat.le_div_iff_mul_le hc).mpr ?_, (Nat.div_lt_iff_lt_mul hc).mpr ?_⟩
      · rw [Nat.mul_comm]
        omega
      · rw [Nat.mul_comm]
        exact hv
    rw [← hp]
    unfold probes
    rw [List.foldl_nil, Nat.pow_zero, Nat.mul_one]
  | succ k ih =>
    have hsq : c * ((p + 2 ^ k) * (p + 2 ^ k)) = c * (p * p) + (c * p * 2 ^ (k + 1) + c * 4 ^ k) := by
      rw [four_pow]
      ring
    unfold probes
    rw [List.foldl_cons, probe_eq]
    split_ifs with h
    · refine ih ?_ ?_
      · omega
      · rwa [show p + 2 ^ k + 2 ^ k = p + 2 ^ (k + 1) by ring]
    · refine ih hw ?_
      omega

/-- Probes above the value may be left out. -/
theorem dropWhile_probes (hv : v < c * 4 ^ k) :
    ∃ j, (probes c k).dropWhile (fun b => decide (v < b)) = probes c j ∧ v < c * 4 ^ j := by
  induction k with
  | zero => exact ⟨0, rfl, hv⟩
  | succ k ih =>
    by_cases h : v < c * 4 ^ k
    · rw [probes, List.dropWhile_cons_of_pos (by simpa using h)]
      exact ih h
    · rw [probes, List.dropWhile_cons_of_neg (by simpa using h)]
      exact ⟨k + 1, rfl, hv⟩

/-- The whole method, from nothing, on a value the largest probe is enough for. -/
theorem probed_eq (hc : 0 < c) (hv : v < c * 4 ^ k) :
    (((probes c k).dropWhile fun b => decide (v < b)).foldl probe (v, 0)).2 = c * Nat.sqrt (v / c) := by
  obtain ⟨j, hj, hlt⟩ := dropWhile_probes hv
  have hfold := foldl_probe (v := v) (k := j) (p := 0) (w := v) hc rfl (by rwa [Nat.zero_add, ← four_pow])
  rw [Nat.mul_zero, Nat.zero_mul] at hfold
  rw [hj, hfold]

/-! ### Rounding up -/

/-- The square root, rounded up. -/
def ceilSqrt (n : ℕ) : ℕ := if Nat.sqrt n * Nat.sqrt n < n then Nat.sqrt n + 1 else Nat.sqrt n

theorem ceilSqrt_le_iff : ceilSqrt n ≤ r ↔ n ≤ r * r := by
  have hle := Nat.sqrt_le n
  unfold ceilSqrt
  split_ifs with h
  · constructor
    · intro hr
      exact (Nat.lt_succ_sqrt n).le.trans (Nat.mul_self_le_mul_self hr)
    · intro hr
      exact Nat.mul_self_lt_mul_self_iff.mp (h.trans_le hr)
  · constructor
    · intro hr
      exact (Nat.le_of_not_lt h).trans (Nat.mul_self_le_mul_self hr)
    · intro hr
      exact Nat.mul_self_le_mul_self_iff.mp (hle.trans hr)
