import Mathlib.Data.List.Basic

/-! Data laid over a keystream: laid over the same stream once more it is there again. -/
namespace Keystream

variable {α : Type} {mix : α → α → α} {ks ks' data data' : List α} {block : ℕ → List α} {size n : ℕ}

/-- `data` mixed into the front of `ks`; what it does not reach stays. -/
def onto (mix : α → α → α) (ks data : List α) : List α := List.zipWith mix ks data ++ ks.drop data.length

/-- The first `n` blocks one after the other. -/
def stream (block : ℕ → List α) (n : ℕ) : List α := (List.range n).flatMap block

theorem onto_length (h : data.length ≤ ks.length) : (onto mix ks data).length = ks.length := by
  unfold onto
  rw [List.length_append, List.length_zipWith, List.length_drop]
  omega

theorem onto_nil : onto mix ks [] = ks := by
  simp [onto]

theorem take_onto (h : data.length ≤ ks.length) : (onto mix ks data).take data.length = List.zipWith mix ks data := by
  have hlen : (List.zipWith mix ks data).length = data.length := by
    rw [List.length_zipWith]
    omega
  unfold onto
  rw [List.take_left' hlen]

/-- The front of the data meets the front of the stream. -/
theorem onto_append (h : ks.length = data.length) :
    onto mix (ks ++ ks') (data ++ data') = onto mix ks data ++ onto mix ks' data' := by
  have hdrop : (ks ++ ks').drop (data ++ data').length = ks'.drop data'.length := by
    rw [List.length_append, ← h, ← List.drop_drop, List.drop_left]
  have hnone : ks.drop data.length = [] := by rw [← h, List.drop_length]
  unfold onto
  rw [List.zipWith_append h, hdrop, hnone, List.append_nil, List.append_assoc]

theorem zipWith_twice (hmix : ∀ k x, mix k (mix k x) = x) : ∀ {ks data : List α}, data.length ≤ ks.length →
    List.zipWith mix ks (List.zipWith mix ks data) = data := by
  intro ks data
  induction data generalizing ks with
  | nil => simp
  | cons x data ih =>
    intro h
    cases ks with
    | nil => exact absurd h (by simp)
    | cons k ks =>
      rw [List.length_cons, List.length_cons] at h
      rw [List.zipWith_cons_cons, List.zipWith_cons_cons, hmix, ih (by omega)]

/-- The stream takes away what it put on. -/
theorem onto_twice (hmix : ∀ k x, mix k (mix k x) = x) (h : data.length ≤ ks.length) :
    (onto mix ks ((onto mix ks data).take data.length)).take data.length = data := by
  have hlen : (List.zipWith mix ks data).length = data.length := by
    rw [List.length_zipWith]
    omega
  rw [take_onto h]
  have hback : (onto mix ks (List.zipWith mix ks data)).take (List.zipWith mix ks data).length = _ :=
    take_onto (Nat.le_trans (Nat.le_of_eq hlen) h)
  rw [hlen] at hback
  rw [hback, zipWith_twice hmix h]

theorem stream_succ : stream block (n + 1) = stream block n ++ block n := by
  unfold stream
  rw [List.range_succ, List.flatMap_append, List.flatMap_singleton]

theorem stream_length (hb : ∀ i, (block i).length = size) : (stream block n).length = size * n := by
  induction n with
  | zero => rfl
  | succ n ih => rw [stream_succ, List.length_append, ih, hb, Nat.mul_succ]

end Keystream
