import Mathlib.Data.List.Pairwise
import Mathlib.Data.List.Perm.Basic
import Mathlib.Order.Basic
import Mathlib.Order.Defs.LinearOrder
import Mathlib.Order.Nat

/-! The upper bound of a value in a sorted list, found by halving, and insertion there. -/
namespace Sorted

variable {α : Type} {p : ℕ → Bool} {lt : α → α → Bool} {R : α → α → Prop} {x : α} {l : List α}

/-- The first place from `first` on at which `p` holds, looked for in `len` places. -/
def search (p : ℕ → Bool) : ℕ → ℕ → ℕ → ℕ
  | 0, first, _ => first
  | fuel + 1, first, len =>
    if len = 0 then first
    else if p (first + len / 2) then search p fuel first (len / 2)
    else search p fuel (first + len / 2 + 1) (len - len / 2 - 1)

/-- Where `p` stays true once it is, it is false before the place found and true from there on. -/
theorem search_splits {n : ℕ} (hp : ∀ i j, i ≤ j → j < n → p i = true → p j = true) {fuel first len : ℕ}
    (hfuel : len ≤ fuel) (hn : first + len ≤ n) :
    (∀ i, first ≤ i → i < search p fuel first len → p i = false) ∧
      ∀ i, search p fuel first len ≤ i → i < first + len → p i = true := by
  induction fuel generalizing first len with
  | zero =>
    obtain rfl : len = 0 := Nat.le_zero.mp hfuel
    exact ⟨fun i hi hlt => absurd hi (not_le_of_gt hlt), fun i hi hlt => absurd hi (not_le_of_gt hlt)⟩
  | succ fuel ih =>
    rw [search]
    by_cases hlen : len = 0
    · subst hlen
      rw [if_pos rfl]
      exact ⟨fun i hi hlt => absurd hi (not_le_of_gt hlt), fun i hi hlt => absurd hi (not_le_of_gt hlt)⟩
    rw [if_neg hlen]
    by_cases hmid : p (first + len / 2) = true
    · rw [if_pos hmid]
      obtain ⟨hbefore, hafter⟩ := @ih first (len / 2) (by omega) (by omega)
      refine ⟨hbefore, fun i hi hlt => ?_⟩
      by_cases him : i < first + len / 2
      · exact hafter i hi him
      · exact hp _ i (not_lt.mp him) (by omega) hmid
    · rw [if_neg hmid]
      obtain ⟨hbefore, hafter⟩ := @ih (first + len / 2 + 1) (len - len / 2 - 1)
        (by omega) (by omega)
      refine ⟨fun i hi hlt => ?_, fun i hi hlt => hafter i hi (by omega)⟩
      by_cases him : first + len / 2 < i
      · exact hbefore i him hlt
      · refine Bool.eq_false_iff.mpr fun htrue => hmid ?_
        exact hp i _ (not_lt.mp him) (by omega) htrue

/-- `std::upper_bound` -/
def upperBound (lt : α → α → Bool) (x : α) (l : List α) : ℕ :=
  search (fun i => (l[i]?).any (lt x)) l.length 0 l.length

/-- The list with `x` put in at its upper bound. -/
def place (lt : α → α → Bool) (x : α) (l : List α) : List α :=
  l.take (upperBound lt x l) ++ x :: l.drop (upperBound lt x l)

theorem place_perm : (place lt x l).Perm (x :: l) := by
  have h := @List.perm_middle _ x (l.take (upperBound lt x l)) (l.drop (upperBound lt x l))
  rwa [List.take_append_drop] at h

theorem length_place : (place lt x l).length = l.length + 1 := place_perm.length_eq

/-- In a list that `lt x` splits, `x` is put in between the two parts. -/
theorem place_eq (hl : l.Pairwise fun a b => lt x a = true → lt x b = true) :
    ∃ l₁ l₂, l = l₁ ++ l₂ ∧ place lt x l = l₁ ++ x :: l₂ ∧ (∀ y ∈ l₁, lt x y = false) ∧
      ∀ y ∈ l₂, lt x y = true := by
  obtain ⟨hbefore, hafter⟩ := search_splits (p := fun i => (l[i]?).any (lt x)) (n := l.length)
    (fun i j hij hj hi => by
      have hi' : i < l.length := lt_of_le_of_lt hij hj
      rw [List.getElem?_eq_getElem hi', Option.any_some] at hi
      rw [List.getElem?_eq_getElem hj, Option.any_some]
      rcases hij.eq_or_lt with rfl | hlt
      · exact hi
      · exact List.pairwise_iff_getElem.mp hl i j hi' hj hlt hi)
    (le_refl l.length) (Nat.le_of_eq (Nat.zero_add _))
  refine ⟨l.take (upperBound lt x l), l.drop (upperBound lt x l), (List.take_append_drop ..).symm,
    rfl, fun y hy => ?_, fun y hy => ?_⟩
  · obtain ⟨i, hi, rfl⟩ := List.mem_take_iff_getElem.mp hy
    have h := hbefore i (Nat.zero_le i) (lt_of_lt_of_le hi (Nat.min_le_left ..))
    rwa [List.getElem?_eq_getElem (lt_of_lt_of_le hi (Nat.min_le_right ..)), Option.any_some] at h
  · obtain ⟨i, hi, rfl⟩ := List.mem_drop_iff_getElem.mp hy
    have h := hafter _ (Nat.le_add_right (upperBound lt x l) i) (by omega)
    rwa [List.getElem?_eq_getElem (by omega), Option.any_some] at h

/-- A list sorted by `R` stays sorted when `x` is put in, if `x` is after what `lt` puts before it. -/
theorem place_pairwise (hl : l.Pairwise R) (hlt : ∀ a b, R a b → lt x a = true → lt x b = true)
    (hbefore : ∀ y ∈ l, lt x y = false → R y x) (hafter : ∀ y ∈ l, lt x y = true → R x y) :
    (place lt x l).Pairwise R := by
  obtain ⟨l₁, l₂, rfl, hplace, h₁, h₂⟩ := place_eq (hl.imp fun {a b} => hlt a b)
  rw [hplace]
  obtain ⟨hl₁, hl₂, hcross⟩ := List.pairwise_append.mp hl
  refine List.pairwise_append.mpr ⟨hl₁, List.pairwise_cons.mpr ⟨fun y hy => ?_, hl₂⟩, fun y hy z hz => ?_⟩
  · exact hafter y (List.mem_append_right _ hy) (h₂ y hy)
  · rcases List.mem_cons.mp hz with rfl | hz
    · exact hbefore y (List.mem_append_left _ hy) (h₁ y hy)
    · exact hcross y hy z hz

end Sorted
