import Mathlib.Data.List.Basic

/-! Rows of elements with a tag and a length byte, a reader that walks them, and rows that are cut off. -/
namespace Tlv

variable {σ : Type} {f : σ → UInt8 → List UInt8 → σ} {s : σ} {bytes rest t : List UInt8} {m n k : ℕ}

/-- A tag and a body whose length fits its byte. -/
structure Element where
  tag : UInt8
  body : List UInt8
  fits : body.length < 256

namespace Element

variable {e : Element} {es : List Element}

def encode (e : Element) : List UInt8 := e.tag :: UInt8.ofNat e.body.length :: e.body

def size (e : Element) : ℕ := e.body.length + 2

theorem encode_length (e : Element) : e.encode.length = e.size := rfl

theorem length_toNat (e : Element) : (UInt8.ofNat e.body.length).toNat = e.body.length := by
  rw [UInt8.toNat_ofNat']
  exact Nat.mod_eq_of_lt e.fits

end Element

/-- The reader, with a bound on its steps: fewer than two bytes end the row, a length that runs past the end
breaks it off. -/
def walk (f : σ → UInt8 → List UInt8 → σ) : ℕ → σ → List UInt8 → Option σ
  | n + 1, s, tag :: len :: rest =>
    if len.toNat ≤ rest.length then walk f n (f s tag (rest.take len.toNat)) (rest.drop len.toNat) else none
  | _, s, _ => some s

/-- The reader on a whole row. -/
def read (f : σ → UInt8 → List UInt8 → σ) (s : σ) (bytes : List UInt8) : Option σ := walk f bytes.length s bytes

/-- Steps to spare change nothing. -/
theorem walk_spare (h : bytes.length ≤ n) : walk f n s bytes = read f s bytes := by
  have hmore (m n : ℕ) (s : σ) (bytes : List UInt8) (hm : bytes.length ≤ m) (hn : bytes.length ≤ n) :
      walk f m s bytes = walk f n s bytes := by
    induction m generalizing n s bytes with
    | zero =>
      obtain rfl := List.eq_nil_of_length_eq_zero (Nat.le_zero.mp hm)
      cases n <;> rfl
    | succ m ih =>
      match bytes with
      | [] => cases n <;> rfl
      | [_] => cases n <;> rfl
      | tag :: len :: rest =>
        obtain ⟨n, rfl⟩ : ∃ k, n = k + 1 := ⟨n - 1, by rw [List.length_cons] at hn; omega⟩
        unfold walk
        rw [List.length_cons, List.length_cons] at hm hn
        split_ifs
        · exact ih n _ _ (by rw [List.length_drop]; omega) (by rw [List.length_drop]; omega)
        · rfl
  exact hmore n bytes.length s bytes h (Nat.le_refl _)

theorem read_short (h : bytes.length < 2) : read f s bytes = some s := by
  match bytes with
  | [] => rfl
  | [_] => rfl
  | _ :: _ :: rest =>
    rw [List.length_cons, List.length_cons] at h
    omega

theorem read_cons (tag len : UInt8) : read f s (tag :: len :: rest) =
    if len.toNat ≤ rest.length then read f (f s tag (rest.take len.toNat)) (rest.drop len.toNat) else none := by
  conv_lhs => rw [read, List.length_cons, walk]
  split_ifs
  · exact walk_spare (by rw [List.length_drop, List.length_cons]; omega)
  · rfl

variable {e : Element} {es : List Element}

theorem read_encode (e : Element) : read f s (e.encode ++ rest) = read f (f s e.tag e.body) rest := by
  rw [Element.encode, List.cons_append, List.cons_append, read_cons, e.length_toNat, List.length_append,
    if_pos (Nat.le_add_right _ _), List.take_left, List.drop_left]

/-- Complete elements are read one after the other, whatever follows. -/
theorem read_elements (es : List Element) : read f s (es.flatMap Element.encode ++ rest) =
    read f (es.foldl (fun s e => f s e.tag e.body) s) rest := by
  induction es generalizing s with
  | nil => rfl
  | cons e es ih => rw [List.flatMap_cons, List.append_assoc, read_encode, ih, List.foldl_cons]

/-- The beginning of an element that has its header breaks the row off. -/
theorem read_cut (h₂ : 2 ≤ k) (hk : k < e.size) : read f s (e.encode.take k) = none := by
  obtain ⟨k, rfl⟩ : ∃ j, k = j + 2 := ⟨k - 2, by omega⟩
  unfold Element.size at hk
  rw [Element.encode, List.take_succ_cons, List.take_succ_cons, read_cons, e.length_toNat, if_neg]
  rw [List.length_take]
  omega

/-! ### A row of which the first `n` bytes are kept -/

/-- The elements that lie completely inside. -/
def within : ℕ → List Element → List Element
  | _, [] => []
  | n, e :: es => if e.size ≤ n then e :: within (n - e.size) es else []

/-- The element that the end falls into, and how many of its bytes are kept. -/
def cut : ℕ → List Element → Option (Element × ℕ)
  | _, [] => none
  | n, e :: es => if e.size ≤ n then cut (n - e.size) es else some (e, n)

/-- The bytes that are left after all elements. -/
def room : ℕ → List Element → ℕ
  | n, [] => n
  | n, e :: es => room (n - e.size) es

/-- What is kept: the elements inside and the beginning of the one that is cut, or all of them and some of the bytes
behind them. -/
theorem take_elements (n : ℕ) (es : List Element) (t : List UInt8) :
    (∃ e k, cut n es = some (e, k) ∧ k < e.size ∧
      (es.flatMap Element.encode ++ t).take n = (within n es).flatMap Element.encode ++ e.encode.take k) ∨
    (cut n es = none ∧
      (es.flatMap Element.encode ++ t).take n = (within n es).flatMap Element.encode ++ t.take (room n es)) := by
  induction es generalizing n with
  | nil => exact .inr ⟨rfl, rfl⟩
  | cons e es ih =>
    unfold cut within room
    rw [List.flatMap_cons, List.append_assoc]
    split_ifs with hsize
    · have htake : (e.encode ++ (es.flatMap Element.encode ++ t)).take n =
          e.encode ++ (es.flatMap Element.encode ++ t).take (n - e.size) := by
        rw [List.take_append, List.take_of_length_le (e.encode_length ▸ hsize), e.encode_length]
      rw [htake, List.flatMap_cons, List.append_assoc]
      obtain ⟨x, k, hcut, hk, he⟩ | ⟨hcut, he⟩ := ih (n - e.size)
      · exact .inl ⟨x, k, hcut, hk, by rw [he, List.append_assoc]⟩
      · exact .inr ⟨hcut, by rw [he]⟩
    · refine .inl ⟨e, n, rfl, Nat.lt_of_not_le hsize, ?_⟩
      rw [List.take_append_of_le_length (by rw [e.encode_length]; omega)]
      rfl

end Tlv
