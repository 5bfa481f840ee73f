import MonsterMesh.Lib.Run

/-! Two computations side by side: their results are related, or both fail alike and not in one way. -/
namespace Fallible

variable {ε α α' β β' γ : Type}

/-- Both succeed with related results, or both fail with the same error, which is not `bad`. -/
def Matches (bad : ε) (R : α → α' → Prop) : Except ε α → Except ε α' → Prop
  | .ok a, .ok a' => R a a'
  | .error e, .error e' => e = e' ∧ e ≠ bad
  | _, _ => False

namespace Matches

variable {bad e : ε} {R R' : α → α' → Prop} {S : β → β' → Prop} {x : Except ε α} {y : Except ε α'} {a : α} {a' : α'}

theorem error (h : e ≠ bad) : Matches bad R (.error e : Except ε α) (.error e) := ⟨rfl, h⟩

theorem bind {f : α → Except ε β} {g : α' → Except ε β'} (hxy : Matches bad R x y)
    (h : ∀ a a', x = .ok a → R a a' → Matches bad S (f a) (g a')) : Matches bad S (x >>= f) (y >>= g) := by
  cases x <;> cases y
  · exact hxy
  · exact hxy.elim
  · exact hxy.elim
  · exact h _ _ rfl hxy

theorem map {f : α → β} {g : α' → β'} (hxy : Matches bad R x y) (h : ∀ a a', R a a' → S (f a) (g a')) :
    Matches bad S (f <$> x) (g <$> y) := by
  cases x <;> cases y
  · exact hxy
  · exact hxy.elim
  · exact hxy.elim
  · exact h _ _ hxy

/-- Both begin with the same computation. -/
theorem after {x : Except ε γ} {P : γ → Prop} {f : γ → Except ε β} {g : γ → Except ε β'} (hx : Avoids bad x P)
    (h : ∀ c, x = .ok c → Matches bad S (f c) (g c)) : Matches bad S (x >>= f) (x >>= g) := by
  cases x with
  | error e => exact ⟨rfl, hx⟩
  | ok c => exact h c rfl

/-- Both take the same branch. -/
theorem branch {c : Prop} [Decidable c] {x' : Except ε α} {y' : Except ε α'} (h : c → Matches bad R x y)
    (h' : ¬ c → Matches bad R x' y') : Matches bad R (if c then x else x') (if c then y else y') := by
  by_cases hc : c
  · rw [if_pos hc, if_pos hc]
    exact h hc
  · rw [if_neg hc, if_neg hc]
    exact h' hc

/-- Neither fails in the bad way. -/
theorem ne (hxy : Matches bad R x y) : y ≠ .error bad := by
  rintro rfl
  cases x with
  | error e => exact hxy.2 hxy.1
  | ok a => exact hxy

/-- What the results are related by is an equality of some view of them. -/
theorem map_eq {f : α → β} {g : α' → β} (hxy : Matches bad (fun a a' => f a = g a') x y) : f <$> x = g <$> y := by
  cases x <;> cases y
  · exact congrArg Except.error hxy.1
  · exact hxy.elim
  · exact hxy.elim
  · exact congrArg Except.ok hxy

end Matches
end Fallible
