import Mathlib.Algebra.BigOperators.Group.Finset.Piecewise
import Mathlib.Algebra.GroupWithZero.Nat
import Mathlib.Algebra.Order.BigOperators.Group.Finset

/-! A table of chains, one for each bucket, and what its elements add up to. -/
namespace Buckets

variable {ι α : Type} {f : α → ℕ} {p : α → Bool} {t : ι → List α} {i : ι}
  {a : α} {l : List α}

theorem sum_eraseP (h : l.find? p = some a) : ((l.eraseP p).map f).sum + f a = (l.map f).sum := by
  induction l with
  | nil => cases h
  | cons b l ih =>
    rw [List.find?_cons] at h
    cases hb : p b with
    | true =>
      rw [hb] at h
      cases h
      rw [List.eraseP_cons_of_pos hb, List.map_cons, List.sum_cons, Nat.add_comm]
    | false =>
      rw [hb] at h
      rw [List.eraseP_cons_of_neg (by simp [hb]), List.map_cons, List.map_cons, List.sum_cons,
        List.sum_cons, ← ih h]
      omega

/-- An element of the table is found in its bucket, if every element is in its own. -/
theorem find_bucket {home : α → ι} {is : List ι} (hp : ∀ j, ∀ x ∈ t j, home x = j)
    (h : (is.flatMap t).find? p = some a) : (t (home a)).find? p = some a := by
  rw [List.find?_flatMap] at h
  obtain ⟨j, _, hj⟩ := List.exists_of_findSome?_eq_some h
  have hhome := hp j a (List.mem_of_find?_eq_some hj)
  rw [hhome]
  exact hj

/-- A chain of elements that are at home in its bucket keeps every element at home. -/
theorem home_update [DecidableEq ι] {home : α → ι} (hp : ∀ j, ∀ x ∈ t j, home x = j)
    (hl : ∀ x ∈ l, home x = i) : ∀ j, ∀ x ∈ Function.update t i l j, home x = j := by
  intro j x hx
  by_cases hj : j = i
  · subst hj
    rw [Function.update_self] at hx
    exact hl x hx
  · rw [Function.update_of_ne hj] at hx
    exact hp j x hx

variable [Fintype ι]

/-- The sum of `f` over the elements of a table. -/
def weight (f : α → ℕ) (t : ι → List α) : ℕ := ∑ i, ((t i).map f).sum

theorem weight_empty : weight f (fun _ : ι => ([] : List α)) = 0 := by
  unfold weight
  exact Finset.sum_eq_zero fun _ _ => rfl

variable [DecidableEq ι]

/-- Another chain in one bucket changes the sum by what the chains differ in. -/
theorem weight_update (l : List α) :
    weight f (Function.update t i l) + ((t i).map f).sum = weight f t + (l.map f).sum := by
  have hne : ∀ j ∈ Finset.univ.erase i, ((Function.update t i l j).map f).sum = ((t j).map f).sum :=
    fun j hj => by rw [Function.update_of_ne (Finset.ne_of_mem_erase hj)]
  unfold weight
  rw [← Finset.add_sum_erase _ _ (Finset.mem_univ i), ← Finset.add_sum_erase _ _ (Finset.mem_univ i),
    Finset.sum_congr rfl hne, Function.update_self]
  omega

theorem weight_push : weight f (Function.update t i (a :: t i)) = weight f t + f a := by
  have h := weight_update (f := f) (t := t) (i := i) (a :: t i)
  rw [List.map_cons, List.sum_cons] at h
  omega

/-- What is taken out of its bucket is taken off the sum. -/
theorem weight_erase (h : (t i).find? p = some a) :
    weight f (Function.update t i ((t i).eraseP p)) + f a = weight f t := by
  have hu := weight_update (f := f) (t := t) (i := i) ((t i).eraseP p)
  have he := sum_eraseP (f := f) h
  omega

end Buckets
