import Mathlib.Data.List.Forall2

/-! Readers that take exactly what a writer wrote, and messages made of them, section after section. -/
namespace Reading

variable {ε σ τ β : Type}

/-- A reader takes items off the front of a list and changes a state. -/
abbrev Reader (ε σ β : Type) := σ → List β → Except ε (σ × List β)

/-- Whatever follows `w`, the reader takes `w` alone, and does `g` to the state. -/
def Reads (f : Reader ε σ β) (w : List β) (g : σ → σ) : Prop := ∀ s rest, f s (w ++ rest) = .ok (g s, rest)

/-- The reader that takes nothing. -/
def skip : Reader ε σ β := fun s rest => .ok (s, rest)

def after (f f' : Reader ε σ β) : Reader ε σ β := fun s rest => f s rest >>= fun r => f' r.1 r.2

/-- An optional reader. -/
def given (c : Prop) [Decidable c] (f : Reader ε σ β) : Reader ε σ β := if c then f else skip

/-- The readers in a row. -/
def all : List (Reader ε σ β) → Reader ε σ β
  | [] => skip
  | f :: fs => after f (all fs)

/-- The reader beside a second component of the state. -/
def beside (f : Reader ε σ β) : Reader ε (σ × τ) β := fun s rest => (fun r => ((r.1, s.2), r.2)) <$> f s.1 rest

variable {f f' : Reader ε σ β} {w w' : List β} {g g' : σ → σ}

theorem skip_reads : Reads (skip : Reader ε σ β) [] id := fun _ _ => rfl

theorem Reads.after (h : Reads f w g) (h' : Reads f' w' g') : Reads (after f f') (w ++ w') (g' ∘ g) := by
  intro s rest
  unfold Reading.after
  rw [List.append_assoc, h s (w' ++ rest)]
  exact h' (g s) rest

theorem Reads.given {c : Prop} [Decidable c] (h : c → Reads f w g) (hw : ¬ c → w = []) :
    Reads (given c f) w (if c then g else id) := by
  unfold Reading.given
  split
  · rename_i hc
    exact h hc
  · rename_i hc
    rw [hw hc]
    exact skip_reads

theorem Reads.beside (h : Reads f w g) : Reads (beside f : Reader ε (σ × τ) β) w (Prod.map g id) := by
  intro s rest
  unfold Reading.beside
  rw [h s.1 rest]
  rfl

/-- A section: how it is read, what was written, and what that tells. -/
structure Part (ε σ β : Type) where
  read : Reader ε σ β
  bytes : List β
  tells : σ → σ
  exact : Reads read bytes tells

/-- A section that is there when a condition holds, and empty otherwise. -/
def Part.given (c : Prop) [Decidable c] (h : c → Reads f w g) (hw : ¬ c → w = []) : Part ε σ β :=
  ⟨Reading.given c f, w, if c then g else id, Reads.given h hw⟩

theorem Part.given_tells {c : Prop} [Decidable c] {h : c → Reads f w g} {hw : ¬ c → w = []} (hc : c) :
    (Part.given c h hw).tells = g := if_pos hc

theorem Part.given_silent {c : Prop} [Decidable c] {h : c → Reads f w g} {hw : ¬ c → w = []} (hc : ¬ c) :
    (Part.given c h hw).tells = id := if_neg hc

/-- Every section takes its own bytes, so nothing shifts the sections behind it. -/
theorem all_reads (ps : List (Part ε σ β)) :
    Reads (all (ps.map Part.read)) (ps.map Part.bytes).flatten fun s => ps.foldl (fun s p => p.tells s) s := by
  induction ps with
  | nil => exact skip_reads
  | cons p ps ih =>
    have h := p.exact.after ih
    rw [← List.flatten_cons, ← List.map_cons] at h
    exact h

/-- A reader of `n` records of one kind, by their positions. -/
theorem reads_records {α : Type} {f : ℕ → ℕ → Reader ε σ β} {k : α → ℕ} {w : α → List β} {g : α → σ → σ}
    (hdone : ∀ i s rest, f 0 i s rest = .ok (s, rest))
    (hnext : ∀ n a s rest, f (n + 1) (k a) s (w a ++ rest) = f n (k a + 1) (g a s) rest) :
    ∀ (l : List α) (i : ℕ), l.map k = List.range' i l.length →
      Reads (f l.length i) (l.flatMap w) fun s => l.foldl (fun s a => g a s) s := by
  intro l
  induction l with
  | nil =>
    intro i _ s rest
    exact hdone i s rest
  | cons a l ih =>
    intro i hl s rest
    rw [List.map_cons, List.length_cons, List.range'_succ] at hl
    obtain ⟨hi, hl⟩ := List.cons.inj hl
    rw [List.flatMap_cons, List.append_assoc, List.length_cons, ← hi, hnext, ih _ (hi ▸ hl)]
    rfl

end Reading
