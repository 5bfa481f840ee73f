import Mathlib.Data.List.Nodup
import Mathlib.Logic.Basic
import Mathlib.Logic.Function.Basic
import Mathlib.Order.Defs.Unbundled

/-! Fallible step functions: what a successful bind says, and invariants over whole runs. -/

namespace Fallible

variable {ε σ τ α β γ : Type}

@[simp] theorem pure_eq_ok (a : α) : (pure a : Except ε α) = .ok a := rfl

@[simp] theorem map_ok (f : α → β) (a : α) : f <$> (Except.ok a : Except ε α) = .ok (f a) := rfl

@[simp] theorem map_error (f : α → β) (e : ε) :
    f <$> (Except.error e : Except ε α) = .error e := rfl

@[simp] theorem bind_ok (a : α) (f : α → Except ε β) : (Except.ok a >>= f) = f a := rfl

@[simp] theorem bind_error (e : ε) (f : α → Except ε β) :
    ((Except.error e : Except ε α) >>= f) = .error e := rfl

theorem bind_eq_ok {x : Except ε α} {f : α → Except ε β} {b : β} :
    (x >>= f) = .ok b ↔ ∃ a, x = .ok a ∧ f a = .ok b := by
  cases x <;> simp

theorem map_eq_ok {x : Except ε α} {f : α → β} {b : β} :
    f <$> x = .ok b ↔ ∃ a, x = .ok a ∧ f a = b := by
  cases x <;> simp

/-- A computation whose result was looked at has one. -/
theorem exists_of_map {x : Except ε α} {f : α → β} {b : β} (h : x.toOption.map f = some b) :
    ∃ a, x = .ok a ∧ f a = b := by
  cases x with
  | error e => cases h
  | ok a => exact ⟨a, rfl, Option.some.inj h⟩

@[simp] theorem error_ne_ok {e : ε} {a : α} : (Except.error e : Except ε α) ≠ .ok a := nofun

/-- A computation that succeeds with a result satisfying `P`. -/
def Total (x : Except ε α) (P : α → Prop) : Prop := ∃ a, x = .ok a ∧ P a

theorem Total.ok {a : α} {P : α → Prop} (h : P a) : Total (.ok a : Except ε α) P := ⟨a, rfl, h⟩

theorem Total.bind {x : Except ε α} {f : α → Except ε β} {P : α → Prop} {Q : β → Prop}
    (hx : Total x P) (hf : ∀ a, P a → Total (f a) Q) : Total (x >>= f) Q := by
  obtain ⟨a, rfl, ha⟩ := hx
  exact hf a ha

theorem Total.map {x : Except ε α} {f : α → β} {P : α → Prop} {Q : β → Prop}
    (hx : Total x P) (hf : ∀ a, P a → Q (f a)) : Total (f <$> x) Q := by
  obtain ⟨a, rfl, ha⟩ := hx
  exact ⟨f a, rfl, hf a ha⟩

theorem Total.mono {x : Except ε α} {P Q : α → Prop} (hx : Total x P) (h : ∀ a, P a → Q a) :
    Total x Q := by
  obtain ⟨a, rfl, ha⟩ := hx
  exact ⟨a, rfl, h a ha⟩

theorem mapM_ok {f : α → Except ε β} {g : α → β} {l : List α} (h : ∀ a ∈ l, f a = .ok (g a)) :
    l.mapM f = .ok (l.map g) := by
  induction l with
  | nil => rfl
  | cons a l ih =>
    rw [List.mapM_cons, h a (List.mem_cons_self ..), ih fun b hb => h b (List.mem_cons_of_mem a hb)]
    rfl

/-- A loop that rewrites one place a round has rewritten all it came by. -/
theorem foldlM_update {ι : Type} [DecidableEq ι] {f : (ι → α) → ι → Except ε (ι → α)} {new : ι → α → α}
    {l : List ι} (h : ∀ p, ∀ i ∈ l, f p i = .ok (Function.update p i (new i (p i)))) (hl : l.Nodup)
    (p : ι → α) : l.foldlM f p = .ok fun i => if i ∈ l then new i (p i) else p i := by
  induction l generalizing p with
  | nil => rfl
  | cons a l ih =>
    obtain ⟨ha, hl⟩ := List.nodup_cons.mp hl
    rw [List.foldlM_cons, h p a (List.mem_cons_self ..), bind_ok,
      ih (fun p i hi => h p i (List.mem_cons_of_mem a hi)) hl]
    refine congrArg Except.ok (funext fun i => ?_)
    rcases eq_or_ne i a with rfl | hne
    · rw [if_neg ha, if_pos (List.mem_cons_self ..), Function.update_self]
    · rw [Function.update_of_ne hne]
      simp only [List.mem_cons, hne, false_or]

/-! ### Runs under a condition on each step -/

/-- `t` is reached from `s` by inputs whose steps succeed and satisfy `cond`. -/
inductive Reach (step : σ → α → Except ε σ) (cond : σ → α → Prop) (s : σ) : σ → Prop
  | refl : Reach step cond s s
  | tail {t u : σ} (a : α) (h : Reach step cond s t) (hc : cond t a) (hs : step t a = .ok u) :
      Reach step cond s u

namespace Reach

variable {step : σ → α → Except ε σ} {cond cond' : σ → α → Prop} {s t u : σ}

theorem invariant {P : σ → Prop}
    (hstep : ∀ s a t, P s → cond s a → step s a = .ok t → P t)
    (hr : Reach step cond s t) (hs : P s) : P t := by
  induction hr with
  | refl => exact hs
  | tail a _ hc hst ih => exact hstep _ a _ ih hc hst

/-- A preorder that every step respects, from states satisfying an invariant, holds between
the ends of a run. -/
theorem relates {P : σ → Prop} {R : σ → σ → Prop} (hrefl : ∀ s, R s s)
    (htrans : ∀ s t u, R s t → R t u → R s u)
    (hinv : ∀ s a t, P s → cond s a → step s a = .ok t → P t)
    (hstep : ∀ s a t, P s → cond s a → step s a = .ok t → R s t)
    (hr : Reach step cond s t) (hs : P s) : R s t := by
  induction hr with
  | refl => exact hrefl s
  | tail a h hc hst ih => exact htrans _ _ _ ih (hstep _ a _ (h.invariant hinv hs) hc hst)

theorem mono (h : ∀ s a, cond s a → cond' s a) (hr : Reach step cond s t) :
    Reach step cond' s t := by
  induction hr with
  | refl => exact .refl
  | tail a _ hc hst ih => exact .tail a ih (h _ a hc) hst

theorem trans (hst : Reach step cond s t) (htu : Reach step cond t u) : Reach step cond s u := by
  induction htu with
  | refl => exact hst
  | tail a _ hc hs ih => exact .tail a ih hc hs

end Reach

/-! ### Two systems in lockstep -/

/-- The state after all inputs, if no step fails. -/
def play (step : σ → α → Except ε σ) : σ → List α → Except ε σ
  | s, [] => .ok s
  | s, a :: as => step s a >>= fun t => play step t as

/-- `cond` holds at each step of the run of the inputs, as far as the run gets. -/
def Along (step : σ → α → Except ε σ) (cond : σ → α → Prop) : σ → List α → Prop
  | _, [] => True
  | s, a :: as => cond s a ∧ ∀ t, step s a = .ok t → Along step cond t as

theorem along_concat {step : σ → α → Except ε σ} {cond : σ → α → Prop} {s : σ} {as : List α} {a : α} :
    Along step cond s (as ++ [a]) ↔
      Along step cond s as ∧ ∀ t, play step s as = .ok t → cond t a := by
  induction as generalizing s with
  | nil =>
    refine ⟨fun h => ⟨trivial, fun t ht => ?_⟩, fun h => ⟨h.2 s rfl, fun _ _ => trivial⟩⟩
    cases ht
    exact h.1
  | cons b as ih =>
    constructor
    · rintro ⟨hb, hrest⟩
      refine ⟨⟨hb, fun t ht => (ih.mp (hrest t ht)).1⟩, fun t ht => ?_⟩
      obtain ⟨u, hu, ht⟩ := bind_eq_ok.mp ht
      exact (ih.mp (hrest u hu)).2 t ht
    · rintro ⟨⟨hb, hrest⟩, hlast⟩
      refine ⟨hb, fun t ht => ih.mpr ⟨hrest t ht, fun u hu => hlast u ?_⟩⟩
      exact bind_eq_ok.mpr ⟨t, ht, hu⟩

/-- Conditions that say the same in the states of a run say the same along it. -/
theorem along_congr {step : σ → α → Except ε σ} {cond cond' : σ → α → Prop} {P : σ → Prop} {s : σ}
    {as : List α} (hstep : ∀ s a t, P s → step s a = .ok t → P t) (h : ∀ s a, P s → (cond s a ↔ cond' s a))
    (hs : P s) : Along step cond s as ↔ Along step cond' s as := by
  induction as generalizing s with
  | nil => exact Iff.rfl
  | cons a as ih =>
    exact and_congr (h s a hs) (forall_congr' fun t => forall_congr' fun ht => ih (hstep s a t hs ht))

theorem along_of_mem {step : σ → α → Except ε σ} {cond : σ → α → Prop} {as : List α}
    (h : ∀ s, ∀ a ∈ as, cond s a) (s : σ) : Along step cond s as := by
  induction as generalizing s with
  | nil => trivial
  | cons a as ih =>
    exact ⟨h s a (List.mem_cons_self ..), fun t _ =>
      ih (fun s b hb => h s b (List.mem_cons_of_mem a hb)) t⟩

theorem along_of_forall {step : σ → α → Except ε σ} {cond : σ → α → Prop}
    (h : ∀ s a, cond s a) (s : σ) (as : List α) : Along step cond s as :=
  along_of_mem (fun s a _ => h s a) s

/-- Two conditions that a run meets, and one that both imply. -/
theorem Along.mono₂ {step : σ → α → Except ε σ} {c d e : σ → α → Prop} {s : σ} {as : List α}
    (h : ∀ s a, c s a → d s a → e s a) (hc : Along step c s as) (hd : Along step d s as) :
    Along step e s as := by
  induction as generalizing s with
  | nil => trivial
  | cons a as ih =>
    exact ⟨h s a hc.1 hd.1, fun t ht => ih (hc.2 t ht) (hd.2 t ht)⟩

/-- Where a step keeps `P` exactly under its condition, so does a run. -/
theorem along_iff {step : σ → α → Except ε σ} {cond : σ → α → Prop} {P : σ → Prop} {s : σ} {as : List α}
    (h : ∀ s a, P s → (cond s a ↔ Total (step s a) P)) (hs : P s) :
    Along step cond s as ↔ ∀ n, Total (play step s (as.take n)) P := by
  induction as generalizing s with
  | nil =>
    refine ⟨fun _ n => ?_, fun _ => trivial⟩
    rw [List.take_nil]
    exact Total.ok hs
  | cons a as ih =>
    constructor
    · rintro ⟨hc, hrest⟩ n
      obtain ⟨t, ht, hPt⟩ := (h s a hs).mp hc
      cases n with
      | zero => exact Total.ok hs
      | succ n =>
        rw [List.take_succ_cons, play, ht]
        exact (ih hPt).mp (hrest t ht) n
    · intro hall
      have hstep : Total (step s a) P := by
        obtain ⟨t, ht, hPt⟩ := hall 1
        rw [List.take_succ_cons, List.take_zero, play] at ht
        obtain ⟨u, hu, htu⟩ := bind_eq_ok.mp ht
        cases htu
        exact ⟨t, hu, hPt⟩
      refine ⟨(h s a hs).mpr hstep, fun t ht => (ih ?_).mpr fun n => ?_⟩
      · obtain ⟨u, hu, hPu⟩ := hstep
        rw [ht] at hu
        cases hu
        exact hPu
      · have hn := hall (n + 1)
        rwa [List.take_succ_cons, play, ht] at hn

/-- A condition that can be computed, looked at along a run. -/
def checks (step : σ → α → Except ε σ) (ok : σ → α → Bool) : σ → List α → Bool
  | _, [] => true
  | s, a :: as => ok s a && match step s a with
    | .ok t => checks step ok t as
    | .error _ => true

theorem along_of_checks {step : σ → α → Except ε σ} {ok : σ → α → Bool} {s : σ} {as : List α}
    (h : checks step ok s as = true) : Along step (fun s a => ok s a = true) s as := by
  induction as generalizing s with
  | nil => trivial
  | cons a as ih =>
    obtain ⟨hok, hrest⟩ := Bool.and_eq_true_iff.mp h
    refine ⟨hok, fun t ht => ih ?_⟩
    rwa [ht] at hrest

theorem along_of_decide {step : σ → α → Except ε σ} {cond : σ → α → Prop} [∀ s a, Decidable (cond s a)] {s : σ}
    {as : List α} (h : checks step (fun s a => decide (cond s a)) s as = true) : Along step cond s as :=
  (along_of_checks h).mono₂ (fun _ _ hc _ => of_decide_eq_true hc) (along_of_checks h)

/-- Where each step succeeds, keeps `P` and meets another condition, so does a run. -/
theorem Along.trade {step : σ → α → Except ε σ} {cond cond' : σ → α → Prop} {P : σ → Prop} {s : σ} {as : List α}
    (h : ∀ s a, P s → cond s a → Total (step s a) P ∧ cond' s a) (hs : P s) (hc : Along step cond s as) :
    Along step cond' s as := by
  induction as generalizing s with
  | nil => trivial
  | cons a as ih =>
    obtain ⟨⟨t, ht, hp⟩, hcond⟩ := h s a hs hc.1
    refine ⟨hcond, fun u hu => ?_⟩
    rw [ht] at hu
    cases hu
    exact ih hp (hc.2 t ht)

theorem Reach.head {step : σ → α → Except ε σ} {cond : σ → α → Prop} {s t u : σ} (a : α)
    (hc : cond s a) (hs : step s a = .ok t) (h : Reach step cond t u) : Reach step cond s u :=
  (Reach.tail a .refl hc hs).trans h

theorem Reach.of_play {step : σ → α → Except ε σ} {cond : σ → α → Prop} {s t : σ} {l : List α}
    (hc : Along step cond s l) (h : play step s l = .ok t) : Reach step cond s t := by
  induction l generalizing s with
  | nil =>
    cases h
    exact .refl
  | cons a l ih =>
    obtain ⟨u, hs, h⟩ := bind_eq_ok.mp h
    exact .head a hc.1 hs (ih (hc.2 u hs) h)

/-- When each step succeeds and keeps `P` under its condition, so does a run. -/
theorem play_total {step : σ → α → Except ε σ} {cond : σ → α → Prop} {P : σ → Prop} {s : σ} {as : List α}
    (h : ∀ s a, P s → cond s a → Total (step s a) P) (hs : P s) (ha : Along step cond s as) :
    Total (play step s as) P := by
  induction as generalizing s with
  | nil => exact .ok hs
  | cons a as ih =>
    obtain ⟨t, ht, hp⟩ := h s a hs ha.1
    have hrest := ih hp (ha.2 t ht)
    unfold play
    rwa [ht]

/-- A map between two systems that commutes with each step commutes with whole runs. -/
theorem play_map {step : σ → α → Except ε σ} {step' : τ → β → Except ε τ}
    {cond : σ → α → Prop} {f : σ → τ} {g : α → β}
    (h : ∀ s a, cond s a → step' (f s) (g a) = f <$> step s a) (s : σ) (as : List α)
    (ha : Along step cond s as) : play step' (f s) (as.map g) = f <$> play step s as := by
  induction as generalizing s with
  | nil => rfl
  | cons a as ih =>
    obtain ⟨hc, hrest⟩ := ha
    simp only [List.map_cons, play, h s a hc]
    cases hs : step s a with
    | error e => rfl
    | ok t => exact ih t (hrest t hs)

/-! ### Computations that do not fail in one way -/

/-- A computation that does not fail with `e`, and whose result satisfies `P`. -/
def Avoids (e : ε) (x : Except ε α) (P : α → Prop) : Prop :=
  match x with
  | .ok a => P a
  | .error e' => e' ≠ e

namespace Avoids

variable {e e' : ε} {x : Except ε α} {P Q : α → Prop} {R : β → Prop} {a : α}

theorem ok (h : P a) : Avoids e (.ok a : Except ε α) P := h

theorem error (h : e' ≠ e) : Avoids e (.error e' : Except ε α) P := h

theorem mono (hx : Avoids e x P) (h : ∀ a, P a → Q a) : Avoids e x Q := by
  cases x with
  | ok a => exact h a hx
  | error e' => exact hx

theorem bind {f : α → Except ε β} (hx : Avoids e x P) (hf : ∀ a, P a → Avoids e (f a) R) :
    Avoids e (x >>= f) R := by
  cases x with
  | ok a => exact hf a hx
  | error e' => exact hx

theorem map {f : α → β} (hx : Avoids e x P) (hf : ∀ a, P a → R (f a)) : Avoids e (f <$> x) R := by
  cases x with
  | ok a => exact hf a hx
  | error e' => exact hx

theorem result (hx : Avoids e x P) (h : x = .ok a) : P a := by
  rw [h] at hx
  exact hx

theorem ne (hx : Avoids e x P) : x ≠ .error e := fun h => by
  rw [h] at hx
  exact hx rfl

theorem of_ok (h : ∀ a, x = .ok a → P a) (hne : x ≠ .error e) : Avoids e x P := by
  cases x with
  | ok a => exact h a rfl
  | error e' => exact fun he => hne (he ▸ rfl)

/-- A run avoids what each of its steps avoids. -/
theorem play {step : σ → β → Except ε σ} {cond : σ → β → Prop} {P : σ → Prop} {s : σ} {as : List β}
    (h : ∀ s a, P s → cond s a → Avoids e (step s a) P) (hs : P s) (ha : Along step cond s as) :
    Avoids e (Fallible.play step s as) P := by
  induction as generalizing s with
  | nil => exact hs
  | cons a as ih =>
    have hstep := h s a hs ha.1
    unfold Fallible.play
    cases hr : step s a with
    | error e' =>
      rw [hr] at hstep
      exact hstep
    | ok t =>
      rw [hr] at hstep
      exact ih hstep (ha.2 t hr)

end Avoids

end Fallible
