import Mathlib.Data.List.Nodup

/-! Offers made in order, of which those that are new are taken while there is room. -/
namespace Quota

variable {α σ : Type} [DecidableEq α] {held : α → Bool} {l l' : List α} {a b : α} {n : ℕ}

/-- The offers not held yet, each where it comes first. -/
def due (held : α → Bool) : List α → List α
  | [] => []
  | a :: l => if held a then due held l else a :: due (fun b => b = a || held b) l

theorem mem_due : a ∈ due held l ↔ a ∈ l ∧ held a = false := by
  induction l generalizing held with
  | nil => simp [due]
  | cons b l ih =>
    rw [due]
    by_cases hb : held b = true
    · rw [if_pos hb, ih, List.mem_cons]
      constructor
      · rintro ⟨h, hn⟩
        exact ⟨.inr h, hn⟩
      · rintro ⟨rfl | h, hn⟩
        · exact absurd (hb.symm.trans hn) (by decide)
        · exact ⟨h, hn⟩
    · rw [if_neg hb, List.mem_cons, List.mem_cons, ih, Bool.or_eq_false_iff, decide_eq_false_iff_not]
      constructor
      · rintro (rfl | ⟨h, -, hn⟩)
        · exact ⟨.inl rfl, Bool.eq_false_iff.mpr hb⟩
        · exact ⟨.inr h, hn⟩
      · rintro ⟨rfl | h, hn⟩
        · exact .inl rfl
        · by_cases hab : a = b
          · exact .inl hab
          · exact .inr ⟨h, hab, hn⟩

theorem nodup_due : (due held l).Nodup := by
  induction l generalizing held with
  | nil => exact List.nodup_nil
  | cons b l ih =>
    rw [due]
    split
    · exact ih
    · rw [List.nodup_cons, mem_due]
      exact ⟨fun h => by simp at h, ih⟩

theorem due_append : due held (l ++ l') = due held l ++ due (fun b => b ∈ l || held b) l' := by
  induction l generalizing held with
  | nil => simp [due]
  | cons a l ih =>
    rw [List.cons_append, due, due]
    by_cases ha : held a = true
    · rw [if_pos ha, if_pos ha, ih]
      congr 2
      funext b
      by_cases hb : b = a
      · subst hb
        simp [ha]
      · simp [hb]
    · rw [if_neg ha, if_neg ha, ih, List.cons_append]
      congr 3
      funext b
      by_cases hb : b = a <;> simp [hb]

/-! ### Taking -/

variable (has : σ → α → Bool) (add : σ → α → σ)

/-- An offer is taken when there is room for it and it is new. -/
def offer (n : ℕ) (s : σ × List α) (a : α) : σ × List α :=
  if s.2.length < n ∧ has s.1 a = false then (add s.1 a, s.2 ++ [a]) else s

def offerAll (n : ℕ) (s : σ) (l : List α) : σ × List α := l.foldl (offer has add n) (s, [])

variable {has add}

theorem foldl_offer (h : ∀ s a b, has (add s a) b = (b = a || has s b)) (s : σ) (out : List α) :
    (l.foldl (offer has add n) (s, out)).2 = out ++ (due (has s) l).take (n - out.length) ∧
      ∀ b, has (l.foldl (offer has add n) (s, out)).1 b =
        (b ∈ (due (has s) l).take (n - out.length) || has s b) := by
  induction l generalizing s out with
  | nil => simp [due]
  | cons a l ih =>
    rw [List.foldl_cons, due]
    by_cases ha : has s a = true
    · have ho : offer has add n (s, out) a = (s, out) := if_neg fun hc => by simp [ha] at hc
      rw [ho, if_pos ha]
      exact ih s out
    · have hf : has s a = false := Bool.eq_false_iff.mpr ha
      rw [if_neg ha]
      by_cases hn : out.length < n
      · have ho : offer has add n (s, out) a = (add s a, out ++ [a]) := if_pos ⟨hn, hf⟩
        have hs : n - out.length = (n - (out ++ [a]).length) + 1 := by
          rw [List.length_append, List.length_singleton]
          omega
        have hheld : has (add s a) = fun b => b = a || has s b := funext (h s a)
        obtain ⟨h₁, h₂⟩ := ih (add s a) (out ++ [a])
        rw [ho, hs, List.take_succ_cons, ← hheld]
        refine ⟨?_, fun b => ?_⟩
        · rw [h₁, List.append_assoc]
          rfl
        · rw [h₂, hheld]
          by_cases hb : b = a <;> simp [hb]
      · have ho : offer has add n (s, out) a = (s, out) := if_neg fun hc => hn hc.1
        have hz : n - out.length = 0 := by omega
        obtain ⟨h₁, h₂⟩ := ih s out
        rw [ho, hz, List.take_zero, h₁, hz, List.take_zero]
        refine ⟨rfl, fun b => ?_⟩
        rw [h₂, hz, List.take_zero]

variable (h : ∀ s a b, has (add s a) b = (b = a || has s b)) (s : σ)

include h

/-- The first `n` new offers are taken. -/
theorem offerAll_taken : (offerAll has add n s l).2 = (due (has s) l).take n := by
  rw [offerAll, (foldl_offer h s []).1, List.nil_append]
  rfl

theorem offerAll_has (b : α) :
    has (offerAll has add n s l).1 b = true ↔ b ∈ (due (has s) l).take n ∨ has s b = true := by
  rw [offerAll, (foldl_offer h s []).2, Bool.or_eq_true, decide_eq_true_eq]
  rfl

/-- A new offer is left out exactly when those before it fill the room. -/
theorem left_out_iff (hl : a ∉ l) (ha : has s a = false) :
    has (offerAll has add n s (l ++ a :: l')).1 a = false ↔ n ≤ (due (has s) l).length := by
  have hd : due (has s) (l ++ a :: l') =
      due (has s) l ++ a :: due (fun b => b = a || (b ∈ l || has s b)) l' := by
    rw [due_append, due, if_neg]
    simp [hl, ha]
  have hnot : a ∉ due (has s) l := fun hm => hl (mem_due.mp hm).1
  rw [Bool.eq_false_iff, ne_eq, offerAll_has h, hd, ha]
  constructor
  · intro hn
    by_contra hlt
    rw [Nat.not_le] at hlt
    refine hn (.inl ?_)
    rw [List.take_append, List.mem_append]
    have hs : n - (due (has s) l).length = (n - (due (has s) l).length - 1) + 1 := by omega
    rw [hs, List.take_succ_cons]
    exact .inr List.mem_cons_self
  · intro hle hm
    rw [List.take_append_of_le_length hle] at hm
    exact hnot (List.mem_of_mem_take (hm.resolve_right (by decide)))

end Quota
