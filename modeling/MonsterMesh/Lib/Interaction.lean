import MonsterMesh.Lib.Run

/-! Programs that read and write a memory, and what their runs keep. -/

/-- A program over addresses `ι` and cells `β` that ends with an `α`. -/
inductive Interaction (ι β α : Type) where
  | done (a : α)
  | read (i : ι) (k : β → Interaction ι β α)
  | write (i : ι) (b : β) (k : Interaction ι β α)

/-- A memory whose accesses may fail. -/
structure Interaction.Memory (ε ι β σ : Type) where
  read : σ → ι → Except ε β
  write : σ → ι → β → Except ε σ

namespace Interaction

open Fallible

variable {ε ι β σ α γ : Type}

def bind : Interaction ι β α → (α → Interaction ι β γ) → Interaction ι β γ
  | .done a, f => f a
  | .read i k, f => .read i fun b => (k b).bind f
  | .write i b k, f => .write i b (k.bind f)

instance : Monad (Interaction ι β) where
  pure := .done
  bind := bind

def load (i : ι) : Interaction ι β β := .read i .done

def store (i : ι) (b : β) : Interaction ι β Unit := .write i b (.done ())

/-- The program against a memory. -/
def run (m : Memory ε ι β σ) : Interaction ι β α → σ → Except ε (α × σ)
  | .done a, s => .ok (a, s)
  | .read i k, s => do
    let b ← m.read s i
    (k b).run m s
  | .write i b k, s => do
    let s ← m.write s i b
    k.run m s

/-- Whatever is read, the result is one of `Q`. -/
def Always (Q : α → Prop) : Interaction ι β α → Prop
  | .done a => Q a
  | .read _ k => ∀ b, (k b).Always Q
  | .write _ _ k => k.Always Q

/-- A result of `P`, or a failure of `F`. -/
inductive Ends (F : ε → Prop) (P : α → Prop) : Except ε α → Prop
  | returns {a : α} (h : P a) : Ends F P (.ok a)
  | fails {e : ε} (h : F e) : Ends F P (.error e)

variable {m : Memory ε ι β σ} {f : α → Interaction ι β γ} {F G : ε → Prop} {P P' : σ → Prop} {Q : α → Prop}
  {Q' : γ → Prop}

theorem run_bind : ∀ (p : Interaction ι β α) (s : σ), (p >>= f).run m s = p.run m s >>= fun r => (f r.1).run m r.2
  | .done a, s => rfl
  | .read i k, s => by
    show (m.read s i >>= fun b => (k b >>= f).run m s) = _
    cases h : m.read s i with
    | error e => simp [run, h]
    | ok b => simp [run, h, bind_ok, run_bind (k b) s]
  | .write i b k, s => by
    show (m.write s i b >>= fun t => (k >>= f).run m t) = _
    cases h : m.write s i b with
    | error e => simp [run, h]
    | ok t => simp [run, h, bind_ok, run_bind k t]

@[simp] theorem always_pure {a : α} : (pure a : Interaction ι β α).Always Q ↔ Q a := Iff.rfl

@[simp] theorem always_load {i : ι} {Q : β → Prop} : (load i).Always Q ↔ ∀ b, Q b := Iff.rfl

@[simp] theorem always_store {i : ι} {b : β} {Q : Unit → Prop} : (store i b).Always Q ↔ Q () := Iff.rfl

@[simp] theorem always_bind : ∀ {p : Interaction ι β α}, (p >>= f).Always Q' ↔ p.Always fun a => (f a).Always Q'
  | .done _ => Iff.rfl
  | .read _ k => forall_congr' fun b => always_bind (p := k b)
  | .write _ _ k => always_bind (p := k)

theorem Always.result : ∀ {p : Interaction ι β α} {s t : σ} {a : α}, p.Always Q → p.run m s = .ok (a, t) → Q a
  | .done a, s, t, b, hp, h => by
    obtain ⟨rfl, -⟩ := Prod.mk.inj (Except.ok.inj h)
    exact hp
  | .read i k, s, t, a, hp, h => by
    obtain ⟨b, -, hk⟩ := bind_eq_ok.mp h
    exact Always.result (hp b) hk
  | .write i b k, s, t, a, hp, h => by
    obtain ⟨u, -, hk⟩ := bind_eq_ok.mp h
    exact Always.result (p := k) hp hk

theorem Ends.mono {P P' : α → Prop} {x : Except ε α} (hx : Ends F P x) (hF : ∀ e, F e → G e) (hP : ∀ a, P a → P' a) :
    Ends G P' x := by
  cases hx with
  | returns h => exact .returns (hP _ h)
  | fails h => exact .fails (hF _ h)

theorem Ends.bind {P : α → Prop} {g : α → Except ε γ} {x : Except ε α} (hx : Ends F P x)
    (hg : ∀ a, P a → Ends F Q' (g a)) : Ends F Q' (x >>= g) := by
  cases hx with
  | returns h => exact hg _ h
  | fails h => exact .fails h

theorem Ends.ite {P : α → Prop} {x y : Except ε α} {c : Prop} [Decidable c] (hx : c → Ends F P x)
    (hy : ¬c → Ends F P y) : Ends F P (if c then x else y) := by
  split
  case isTrue h => exact hx h
  case isFalse h => exact hy h

theorem Ends.ok {P : α → Prop} {x : Except ε α} {a : α} (hx : Ends F P x) (h : x = .ok a) : P a := by
  subst h
  cases hx with
  | returns h => exact h

theorem Ends.error {P : α → Prop} {x : Except ε α} {e : ε} (hx : Ends F P x) (h : x = .error e) : F e := by
  subst h
  cases hx with
  | fails h => exact h

/-- What every access keeps, and how it may fail, holds of every program. -/
theorem run_ends (hread : ∀ s i, P s → Ends F (fun _ => True) (m.read s i))
    (hwrite : ∀ s i b, P s → Ends F P (m.write s i b)) : ∀ (p : Interaction ι β α) (s : σ), P s →
      Ends F (fun r => P r.2) (p.run m s)
  | .done _, _, h => .returns h
  | .read i k, s, h => (hread s i h).bind fun b _ => run_ends hread hwrite (k b) s h
  | .write i b k, s, h => (hwrite s i b h).bind fun t ht => run_ends hread hwrite k t ht

end Interaction
