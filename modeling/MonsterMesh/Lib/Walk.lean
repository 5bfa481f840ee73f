import Mathlib.Data.List.Basic

/-! Runs of a step function that cannot fail, and what holds along them. -/
namespace Walk

variable {σ α : Type} {step : σ → α → σ} {cond cond' : σ → α → Prop} {P : σ → Prop} {s : σ} {a : α}
  {as bs : List α}

/-- The state after all inputs. -/
def run (step : σ → α → σ) (s : σ) (as : List α) : σ := as.foldl step s

/-- `cond` holds at each step of the run. -/
def Along (step : σ → α → σ) (cond : σ → α → Prop) : σ → List α → Prop
  | _, [] => True
  | s, a :: as => cond s a ∧ Along step cond (step s a) as

@[simp] theorem run_nil : run step s [] = s := rfl

@[simp] theorem run_cons : run step s (a :: as) = run step (step s a) as := rfl

@[simp] theorem run_append : run step s (as ++ bs) = run step (run step s as) bs :=
  List.foldl_append

@[simp] theorem run_concat : run step s (as ++ [a]) = step (run step s as) a := by
  rw [run_append, run_cons, run_nil]

theorem along_append :
    Along step cond s (as ++ bs) ↔ Along step cond s as ∧ Along step cond (run step s as) bs := by
  induction as generalizing s with
  | nil => exact ⟨fun h => ⟨trivial, h⟩, fun h => h.2⟩
  | cons a as ih => rw [List.cons_append, Along, Along, ih, run_cons, and_assoc]

theorem along_concat :
    Along step cond s (as ++ [a]) ↔ Along step cond s as ∧ cond (run step s as) a := by
  rw [along_append]
  exact ⟨fun h => ⟨h.1, h.2.1⟩, fun h => ⟨h.1, h.2, trivial⟩⟩

/-- What each step keeps under its condition, a run keeps. -/
theorem run_invariant (hstep : ∀ s a, P s → cond s a → P (step s a)) (hs : P s)
    (h : Along step cond s as) : P (run step s as) := by
  induction as generalizing s with
  | nil => exact hs
  | cons a as ih => exact ih (hstep s a hs h.1) h.2

variable {Q : σ → Prop} in
/-- Where a step from `P` that ends in `Q` has met its condition, and one that meets it keeps `P`, a run meets its
conditions exactly if all its states have `Q`. -/
theorem along_iff_of (hq : ∀ s, P s → Q s)
    (h : ∀ s a, P s → (Q (step s a) → cond s a) ∧ (cond s a → P (step s a))) (hs : P s) :
    Along step cond s as ↔ ∀ n, Q (run step s (as.take n)) := by
  induction as generalizing s with
  | nil =>
    refine ⟨fun _ n => ?_, fun _ => trivial⟩
    rw [List.take_nil]
    exact hq s hs
  | cons a as ih =>
    obtain ⟨hnec, hsuff⟩ := h s a hs
    constructor
    · rintro ⟨hc, hrest⟩ n
      cases n with
      | zero => exact hq s hs
      | succ n => exact (ih (hsuff hc)).mp hrest n
    · intro hall
      have hc : cond s a := hnec (hall 1)
      exact ⟨hc, (ih (hsuff hc)).mpr fun n => hall (n + 1)⟩

/-- Where a step keeps `P` exactly under its condition, so does a run. -/
theorem along_iff (h : ∀ s a, P s → (cond s a ↔ P (step s a))) (hs : P s) :
    Along step cond s as ↔ ∀ n, P (run step s (as.take n)) :=
  along_iff_of (fun _ hp => hp) (fun s a hp => ⟨(h s a hp).mpr, (h s a hp).mp⟩) hs

theorem along_forall (h : ∀ s a, cond s a) : Along step cond s as := by
  induction as generalizing s with
  | nil => trivial
  | cons a as ih => exact ⟨h s a, ih⟩

/-- What every step keeps, a run keeps. -/
theorem run_keeps (hstep : ∀ s a, P s → P (step s a)) (hs : P s) : P (run step s as) :=
  have h : Along step (fun _ _ => True) s as := along_forall fun _ _ => trivial
  run_invariant (fun s a hp _ => hstep s a hp) hs h

/-- Along a run that keeps `P`, a condition may be traded for what it says under `P`. -/
theorem Along.trade (hkeep : ∀ s a, P s → cond s a → P (step s a))
    (h : ∀ s a, P s → cond s a → cond' s a) (hs : P s) (hc : Along step cond s as) :
    Along step cond' s as := by
  induction as generalizing s with
  | nil => trivial
  | cons a as ih => exact ⟨h s a hs hc.1, ih (hkeep s a hs hc.1) hc.2⟩

instance [∀ s a, Decidable (cond s a)] : ∀ s as, Decidable (Along step cond s as)
  | _, [] => .isTrue trivial
  | s, a :: as =>
    have := instDecidableAlong (step s a) as
    inferInstanceAs (Decidable (cond s a ∧ Along step cond (step s a) as))

end Walk
