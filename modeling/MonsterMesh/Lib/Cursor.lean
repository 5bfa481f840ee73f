import Mathlib.Data.List.Basic

/-! A cursor that moves over a list to the next element of a kind. -/
namespace Cursor

variable {α : Type} {p : α → Bool} {k i : ℕ} {l : List α}

/-- The index of the first element of the kind from `k` on. -/
def next (p : α → Bool) (k : ℕ) (l : List α) : Option ℕ := ((l.drop k).findIdx? p).map (k + ·)

/-- None of the kind is passed over. -/
theorem next_some (h : next p k l = some i) :
    k ≤ i ∧ (∃ a, l[i]? = some a ∧ p a = true) ∧ ∀ j b, k ≤ j → j < i → l[j]? = some b → p b = false := by
  obtain ⟨d, hd, rfl⟩ := Option.map_eq_some_iff.mp h
  obtain ⟨hlt, hp, hbefore⟩ := List.findIdx?_eq_some_iff_getElem.mp hd
  refine ⟨Nat.le_add_right k d, ⟨(l.drop k)[d], ?_, hp⟩, fun j b hk hj hb => ?_⟩
  · rw [← List.getElem?_drop, List.getElem?_eq_getElem hlt]
  · obtain ⟨e, rfl⟩ := Nat.exists_eq_add_of_le hk
    have he : e < d := by omega
    have hget := hbefore e he
    rw [← List.getElem?_drop, List.getElem?_eq_getElem (Nat.lt_trans he hlt)] at hb
    rw [Option.some.inj hb] at hget
    exact Bool.eq_false_iff.mpr hget

theorem next_none (h : next p k l = none) {j : ℕ} {b : α} (hk : k ≤ j) (hb : l[j]? = some b) :
    p b = false := by
  obtain ⟨e, rfl⟩ := Nat.exists_eq_add_of_le hk
  rw [← List.getElem?_drop] at hb
  have hall := List.findIdx?_eq_none_iff.mp (Option.map_eq_none_iff.mp h)
  exact hall b (List.mem_of_getElem? hb)

theorem next_eq_none_iff : next p k l = none ↔ (l.drop k).countP p = 0 := by
  unfold next
  rw [Option.map_eq_none_iff, List.findIdx?_eq_none_iff, List.countP_eq_zero]
  exact forall₂_congr fun _ _ => Bool.eq_false_iff

end Cursor
