import Mathlib.Data.Nat.Notation
import Mathlib.Tactic.SplitIfs

/-! Linear scans for the last threshold that a value reaches. -/

/-- Starting at `l`, climbs at most `n` steps while the next threshold is within `e`. -/
def climb (f : ℕ → ℕ) (e : ℕ) : ℕ → ℕ → ℕ
  | 0, l => l
  | n + 1, l => if e < f (l + 1) then l else climb f e n (l + 1)

variable {f g : ℕ → ℕ} {e e' n l : ℕ}

theorem le_climb (f : ℕ → ℕ) (e n l : ℕ) : l ≤ climb f e n l := by
  induction n generalizing l with
  | zero => exact Nat.le_refl _
  | succ n ih =>
    unfold climb
    split_ifs
    · exact Nat.le_refl _
    · exact Nat.le_trans (Nat.le_succ l) (ih (l + 1))

theorem climb_le (f : ℕ → ℕ) (e n l : ℕ) : climb f e n l ≤ l + n := by
  induction n generalizing l with
  | zero => exact Nat.le_refl _
  | succ n ih =>
    unfold climb
    split_ifs
    · omega
    · exact Nat.le_trans (ih (l + 1)) (by omega)

/-- A larger value climbs at least as far. -/
theorem climb_mono (h : e ≤ e') : climb f e n l ≤ climb f e' n l := by
  induction n generalizing l with
  | zero => exact Nat.le_refl _
  | succ n ih =>
    unfold climb
    split_ifs with h₁ h₂ h₂
    · exact Nat.le_refl _
    · exact Nat.le_trans (Nat.le_succ l) (le_climb f e' n (l + 1))
    · omega
    · exact ih

/-- The threshold of every level passed is within the value. -/
theorem climb_reaches {k : ℕ} (h : l < k) (hk : k ≤ climb f e n l) : f k ≤ e := by
  induction n generalizing l with
  | zero =>
    unfold climb at hk
    omega
  | succ n ih =>
    unfold climb at hk
    split_ifs at hk with h₁
    · omega
    · rcases Nat.eq_or_lt_of_le h with rfl | h'
      · exact Nat.le_of_not_lt h₁
      · exact ih h' hk

/-- Equal thresholds give equal climbs. -/
theorem climb_congr (h : ∀ k, l < k → k ≤ l + n → f k = g k) :
    climb f e n l = climb g e n l := by
  induction n generalizing l with
  | zero => rfl
  | succ n ih =>
    unfold climb
    rw [h (l + 1) (by omega) (by omega), ih fun k hk hk' => h k (by omega) (by omega)]
