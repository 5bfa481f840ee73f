import Mathlib.Data.Nat.Basic

/-! Loops that make a round first and then ask whether to go on. -/
namespace Rounds

variable {σ : Type} {next : σ → σ} {again : σ → Bool} {s : σ}

/-- At most `n` rounds. -/
def loop (next : σ → σ) (again : σ → Bool) : ℕ → σ → Option σ
  | 0, _ => none
  | n + 1, s => if again (next s) then loop next again n (next s) else some (next s)

/-- The loop comes to an end. -/
def Stops (next : σ → σ) (again : σ → Bool) (s : σ) : Prop := ∃ n, (loop next again n s).isSome

theorem stops_iff : Stops next again s ↔ (again (next s) = true → Stops next again (next s)) := by
  constructor
  · rintro ⟨n, h⟩ ha
    cases n with
    | zero => simp [loop] at h
    | succ n => exact ⟨n, by rwa [loop, if_pos ha] at h⟩
  · intro h
    by_cases ha : again (next s) = true
    · obtain ⟨n, hn⟩ := h ha
      exact ⟨n + 1, by rwa [loop, if_pos ha]⟩
    · exact ⟨1, by rw [loop, if_neg ha]; rfl⟩

/-- A round that would go on makes the rank smaller. -/
theorem stops_of_rank (P : σ → Prop) (rank : σ → ℕ)
    (h : ∀ s, P s → again (next s) = true → P (next s) ∧ rank (next s) < rank s) : P s → Stops next again s := by
  induction hr : rank s using Nat.strong_induction_on generalizing s with
  | _ r ih =>
    subst hr
    intro hs
    rw [stops_iff]
    intro ha
    obtain ⟨hp, hlt⟩ := h s hs ha
    exact ih _ hlt rfl hp

theorem not_stops (P : σ → Prop) (h : ∀ s, P s → again (next s) = true ∧ P (next s)) (hs : P s) :
    ¬Stops next again s := by
  rintro ⟨n, hn⟩
  induction n generalizing s with
  | zero => simp [loop] at hn
  | succ n ih =>
    obtain ⟨ha, hp⟩ := h s hs
    exact ih hp (by rwa [loop, if_pos ha] at hn)

/-- What each round keeps holds of the end. -/
theorem loop_keeps (P : σ → Prop) (h : ∀ s, P s → P (next s)) {n : ℕ} {t : σ} (hs : P s)
    (ht : loop next again n s = some t) : P t := by
  induction n generalizing s with
  | zero => simp [loop] at ht
  | succ n ih =>
    rw [loop] at ht
    split at ht
    · exact ih (h s hs) ht
    · exact Option.some.inj ht ▸ h s hs

/-- More rounds make no difference to a loop that has ended. -/
theorem loop_mono {m n : ℕ} {t : σ} (hmn : m ≤ n) (h : loop next again m s = some t) : loop next again n s = some t := by
  induction m generalizing n s with
  | zero => simp [loop] at h
  | succ m ih =>
    obtain ⟨n, rfl⟩ : ∃ k, n = k + 1 := ⟨n - 1, by omega⟩
    rw [loop] at h ⊢
    split at h
    case isTrue ha => rw [if_pos ha]; exact ih (by omega) h
    case isFalse ha => rw [if_neg ha]; exact h

end Rounds
