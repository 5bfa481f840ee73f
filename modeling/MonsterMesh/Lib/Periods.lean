import Mathlib.Algebra.BigOperators.Group.Finset.Basic
import Mathlib.Algebra.BigOperators.Group.Finset.Piecewise
import Mathlib.Algebra.Group.Nat.Defs
import Mathlib.Algebra.GroupWithZero.Nat
import Mathlib.Algebra.Order.BigOperators.Group.Finset
import Mathlib.Logic.Function.Basic

/-! Rings of counters, one for each of the last `n` periods of `unit` ticks: a sliding window. -/

/-- The counters, and the place of the period that was seen last. -/
structure Periods where
  slot : ℕ → ℕ
  last : ℕ

namespace Periods

open Finset

variable {unit n t m : ℕ} {r : Periods} {log : List (ℕ × ℕ)} {p q : ℕ → Bool}

/-- The place of the period of a time. -/
def place (unit n t : ℕ) : ℕ := t / unit % n

def add (unit n t amount : ℕ) (r : Periods) : Periods :=
  { r with slot := Function.update r.slot (place unit n t) (r.slot (place unit n t) + amount) }

/-- A period that begins starts from zero. -/
def turn (unit n t : ℕ) (r : Periods) : Periods :=
  if r.last ≠ place unit n t then
    { slot := Function.update r.slot (place unit n t) 0, last := place unit n t }
  else r

/-- What all the counters hold. -/
def total (n : ℕ) (r : Periods) : ℕ := ∑ i ∈ range n, r.slot i

/-- What was logged at the times with `p`. -/
def amount (log : List (ℕ × ℕ)) (p : ℕ → Bool) : ℕ := ((log.filter fun e => p e.1).map Prod.snd).sum

/-- A time of the last `n` periods. -/
def recent (unit n t s : ℕ) : Bool := t / unit < s / unit + n

/-- The counters hold what was logged in the last `n` periods, each in its place. -/
structure Tracks (unit n t : ℕ) (log : List (ℕ × ℕ)) (r : Periods) : Prop where
  last : r.last = place unit n t
  slots : ∀ i < n, r.slot i = amount log fun s => place unit n s = i && recent unit n t s
  past : ∀ e ∈ log, e.1 ≤ t

/-! ### Amounts -/

@[simp] theorem amount_nil : amount [] p = 0 := rfl

theorem amount_cons (e : ℕ × ℕ) : amount (e :: log) p = (if p e.1 then e.2 else 0) + amount log p := by
  unfold amount
  rw [List.filter_cons]
  split_ifs
  · rfl
  · rw [Nat.zero_add]

theorem amount_concat (e : ℕ × ℕ) : amount (log ++ [e]) p = amount log p + if p e.1 then e.2 else 0 := by
  induction log with
  | nil => rw [List.nil_append, amount_cons, amount_nil, Nat.add_comm]
  | cons a log ih => rw [List.cons_append, amount_cons, amount_cons, ih, Nat.add_assoc]

theorem amount_congr (h : ∀ e ∈ log, p e.1 = q e.1) : amount log p = amount log q := by
  induction log with
  | nil => rfl
  | cons e log ih =>
    obtain ⟨he, hrest⟩ := List.forall_mem_cons.mp h
    rw [amount_cons, amount_cons, ih hrest, he]

theorem amount_zero (h : ∀ e ∈ log, p e.1 = false) : amount log p = 0 := by
  induction log with
  | nil => rfl
  | cons e log ih =>
    obtain ⟨he, hrest⟩ := List.forall_mem_cons.mp h
    rw [amount_cons, ih hrest, he]
    rfl

/-- Every logged amount with `p` is in one place. -/
theorem sum_amount (f : ℕ → ℕ) (hf : ∀ s, f s < n) :
    ∑ i ∈ range n, amount log (fun s => f s = i && p s) = amount log p := by
  induction log with
  | nil => exact sum_const_zero
  | cons e log ih =>
    rw [amount_cons, ← ih, ← sum_congr rfl fun i _ => (amount_cons (p := fun s => f s = i && p s) e).symm,
      sum_add_distrib]
    refine congrArg (· + _) ?_
    cases hp : p e.1 with
    | true =>
      simp only [Bool.and_true, decide_eq_true_eq]
      rw [sum_ite_eq (range n) (f e.1) fun _ => e.2, if_pos (mem_range.mpr (hf e.1))]
      rfl
    | false =>
      simp only [Bool.and_false, Bool.false_eq_true, if_false]
      exact sum_const_zero

theorem amount_split : amount log p = amount log (fun s => q s && p s) + amount log fun s => !q s && p s := by
  induction log with
  | nil => rfl
  | cons e log ih =>
    rw [amount_cons, amount_cons, amount_cons, ih]
    cases q e.1 <;> cases p e.1 <;> simp <;> omega

/-! ### The window -/

theorem place_lt (hn : 0 < n) (s : ℕ) : place unit n s < n := Nat.mod_lt _ hn

/-- All the counters together hold what was logged in the window. -/
theorem Tracks.total_eq (h : Tracks unit n t log r) (hn : 0 < n) : r.total n = amount log (recent unit n t) := by
  unfold Periods.total
  rw [sum_congr rfl fun i hi => h.slots i (mem_range.mp hi)]
  exact sum_amount (place unit n) (place_lt hn)

theorem tracks_zero (hunit : t < unit) : Tracks unit n t [] ⟨fun _ => 0, 0⟩ := by
  refine ⟨?_, fun _ _ => rfl, fun _ he => absurd he List.not_mem_nil⟩
  unfold place
  rw [Nat.div_eq_of_lt hunit, Nat.zero_mod]

theorem Tracks.add (h : Tracks unit n t log r) (hn : 0 < n) (a : ℕ) :
    Tracks unit n t (log ++ [(t, a)]) (r.add unit n t a) := by
  refine ⟨h.last, fun i hi => ?_, fun e he => ?_⟩
  · have hnow : recent unit n t t = true := decide_eq_true (Nat.lt_add_of_pos_right hn)
    rw [amount_concat]
    unfold Periods.add
    dsimp only
    rw [hnow, Bool.and_true]
    by_cases hplace : place unit n t = i
    · rw [hplace, Function.update_self, h.slots i hi, if_pos (decide_eq_true rfl)]
    · rw [Function.update_of_ne (Ne.symm hplace), h.slots i hi, if_neg fun hc => hplace (of_decide_eq_true hc),
        Nat.add_zero]
  · rcases List.mem_append.mp he with he | he
    · exact h.past e he
    · rw [List.mem_singleton.mp he]

theorem div_succ (unit t : ℕ) : (t + 1) / unit = t / unit ∨ (t + 1) / unit = t / unit + 1 := by
  rw [Nat.succ_div]
  split_ifs
  · exact Or.inr rfl
  · exact Or.inl rfl

/-- Two periods less than `n` apart are not in one place. -/
theorem mod_ne {a b : ℕ} (hlt : a < b) (hn : b < a + n) : a % n ≠ b % n := by
  intro he
  have hzero : (b - a) % n = 0 := Nat.sub_mod_eq_zero_of_mod_eq he.symm
  rw [Nat.mod_eq_of_lt (by omega)] at hzero
  omega

/-- A tick goes by. -/
theorem Tracks.turn (h : Tracks unit n t log r) (hn : 1 < n) :
    Tracks unit n (t + 1) log (r.turn unit n (t + 1)) := by
  have hpast : ∀ e ∈ log, e.1 ≤ t + 1 := fun e he => Nat.le_succ_of_le (h.past e he)
  rcases div_succ unit t with hsame | hnext
  · have hplace : place unit n (t + 1) = place unit n t := congrArg (· % n) hsame
    unfold Periods.turn
    rw [hplace, if_neg (not_not.mpr h.last)]
    refine ⟨h.last.trans hplace.symm, fun i hi => ?_, hpast⟩
    rw [h.slots i hi]
    unfold recent
    rw [hsame]
  · have hne : r.last ≠ place unit n (t + 1) := by
      rw [h.last]
      unfold place
      rw [hnext]
      exact mod_ne (Nat.lt_succ_self _) (by omega)
    unfold Periods.turn
    rw [if_pos hne]
    refine ⟨rfl, fun i hi => ?_, hpast⟩
    dsimp only
    by_cases hi' : i = place unit n (t + 1)
    · subst hi'
      rw [Function.update_self]
      refine (amount_zero fun e he => ?_).symm
      have hle : e.1 / unit ≤ t / unit := Nat.div_le_div_right (h.past e he)
      by_contra hc
      simp only [Bool.not_eq_false, Bool.and_eq_true, decide_eq_true_eq, recent] at hc
      unfold place at hc
      rw [hnext] at hc
      exact mod_ne (Nat.lt_succ_of_le hle) hc.2 hc.1
    · rw [Function.update_of_ne hi', h.slots i hi]
      refine amount_congr fun e he => ?_
      have hle : e.1 / unit ≤ t / unit := Nat.div_le_div_right (h.past e he)
      by_cases hplace : place unit n e.1 = i
      · have hother : e.1 / unit + n ≠ t / unit + 1 := fun heq => hi' (by
          rw [← hplace]
          unfold place
          rw [hnext, ← heq, Nat.add_mod_right])
        rw [decide_eq_true hplace, Bool.true_and, Bool.true_and]
        unfold recent
        rw [hnext]
        exact decide_eq_decide.mpr (by omega)
      · rw [decide_eq_false hplace, Bool.false_and, Bool.false_and]

/-! ### What leaves the window -/

/-- The counters of the `m` periods to come. -/
def coming (unit n t m : ℕ) (r : Periods) : ℕ := ∑ j ∈ range m, r.slot ((t / unit + 1 + j) % n)

/-- What the place of the period `m + 1` from now holds is what leaves the window when it begins. -/
theorem slot_coming (h : Tracks unit n t log r) (hm : m < n) : r.slot ((t / unit + 1 + m) % n) =
    amount log fun s => s / unit + n = t / unit + m + 1 := by
  rw [h.slots _ (Nat.mod_lt _ (by omega))]
  refine amount_congr fun e he => ?_
  have hle : e.1 / unit ≤ t / unit := Nat.div_le_div_right (h.past e he)
  unfold place recent
  rw [← Bool.decide_and]
  refine decide_eq_decide.mpr ⟨fun ⟨hmod, hrecent⟩ => ?_, fun heq => ⟨?_, by omega⟩⟩
  · by_contra hne
    rcases Nat.lt_or_gt_of_ne hne with hlt | hgt
    · refine mod_ne (n := n) (a := e.1 / unit + n) (b := t / unit + 1 + m) (by omega) (by omega) ?_
      rw [Nat.add_mod_right]
      exact hmod
    · exact mod_ne (n := n) (a := e.1 / unit) (b := t / unit + 1 + m) (by omega) (by omega) hmod
  · rw [show t / unit + 1 + m = e.1 / unit + n by omega, Nat.add_mod_right]

/-- The window is what leaves it within `m` periods, and what is left then. -/
theorem Tracks.total_coming (h : Tracks unit n t log r) (hm : m ≤ n) (hn : 0 < n) :
    r.total n = r.coming unit n t m + amount log fun s => t / unit + m < s / unit + n := by
  rw [h.total_eq hn]
  induction m with
  | zero =>
    unfold coming
    rw [range_zero, sum_empty, Nat.zero_add]
    rfl
  | succ m ih =>
    have hsplit : amount log (fun s => t / unit + m < s / unit + n) = _ :=
      amount_split (q := fun s => s / unit + n = t / unit + m + 1)
    have hleaves : amount log (fun s => decide (s / unit + n = t / unit + m + 1) &&
        decide (t / unit + m < s / unit + n)) = r.slot ((t / unit + 1 + m) % n) := by
      rw [slot_coming h (by omega)]
      refine amount_congr fun e _ => ?_
      rw [← Bool.decide_and]
      exact decide_eq_decide.mpr ⟨And.left, fun heq => ⟨heq, by omega⟩⟩
    have hstays : amount log (fun s => !decide (s / unit + n = t / unit + m + 1) &&
        decide (t / unit + m < s / unit + n)) =
          amount log fun s => t / unit + (m + 1) < s / unit + n := by
      refine amount_congr fun e _ => ?_
      rw [← decide_not, ← Bool.decide_and]
      exact decide_eq_decide.mpr (by omega)
    rw [ih (by omega), hsplit, hleaves, hstays]
    unfold coming
    rw [sum_range_succ]
    exact (Nat.add_assoc ..).symm

end Periods
