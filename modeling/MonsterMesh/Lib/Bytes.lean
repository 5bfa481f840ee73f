import Mathlib.Data.List.Basic
import Mathlib.Data.Nat.Bitwise

/-! Big-endian words as bytes. -/
namespace Bytes

/-- The two bytes of a word, high byte first. -/
def be16 (v : UInt16) : List UInt8 := [(v >>> 8).toUInt8, v.toUInt8]

/-- The word of two bytes, high byte first. -/
def ofBe16 (hi lo : UInt8) : UInt16 := hi.toUInt16 <<< 8 ||| lo.toUInt16

theorem ofBe16_toNat (hi lo : UInt8) : (ofBe16 hi lo).toNat = hi.toNat * 256 + lo.toNat := by
  have hh := hi.toNat_lt
  have hl := lo.toNat_lt
  simp only [ofBe16, UInt16.toNat_or, UInt16.toNat_shiftLeft, UInt8.toNat_toUInt16]
  rw [show (8 : UInt16).toNat % 16 = 8 from rfl, Nat.shiftLeft_eq, Nat.mod_eq_of_lt (by omega),
    ← Nat.shiftLeft_eq, ← Nat.shiftLeft_add_eq_or_of_lt (by omega), Nat.shiftLeft_eq]

theorem ofBe16_be16 (v : UInt16) : ofBe16 (v >>> 8).toUInt8 v.toUInt8 = v := by
  apply UInt16.toNat_inj.mp
  have hv := v.toNat_lt
  rw [ofBe16_toNat]
  simp only [UInt16.toNat_toUInt8, UInt16.toNat_shiftRight]
  rw [show (8 : UInt16).toNat % 16 = 8 from rfl, Nat.shiftRight_eq_div_pow]
  omega

/-- The four bytes of a double word. -/
def be32 (v : UInt32) : List UInt8 :=
  [(v >>> 24).toUInt8, (v >>> 16).toUInt8, (v >>> 8).toUInt8, v.toUInt8]

def ofBe32 (a b c d : UInt8) : UInt32 :=
  a.toUInt32 <<< 24 ||| b.toUInt32 <<< 16 ||| c.toUInt32 <<< 8 ||| d.toUInt32

theorem ofBe32_toNat (a b c d : UInt8) :
    (ofBe32 a b c d).toNat = ((a.toNat * 256 + b.toNat) * 256 + c.toNat) * 256 + d.toNat := by
  have ha := a.toNat_lt
  have hb := b.toNat_lt
  have hc := c.toNat_lt
  have hd := d.toNat_lt
  have hor : ∀ {x y k : ℕ}, y < 2 ^ k → x * 2 ^ k ||| y = x * 2 ^ k + y := by
    intro x y k hy
    rw [← Nat.shiftLeft_eq, Nat.shiftLeft_add_eq_or_of_lt hy]
  simp only [ofBe32, UInt32.toNat_or, UInt32.toNat_shiftLeft, UInt8.toNat_toUInt32]
  rw [show (24 : UInt32).toNat % 32 = 24 from rfl, show (16 : UInt32).toNat % 32 = 16 from rfl,
    show (8 : UInt32).toNat % 32 = 8 from rfl]
  simp only [Nat.shiftLeft_eq]
  rw [Nat.mod_eq_of_lt (by omega), Nat.mod_eq_of_lt (by omega), Nat.mod_eq_of_lt (by omega),
    hor (show b.toNat * 2 ^ 16 < 2 ^ 24 by omega),
    show a.toNat * 2 ^ 24 + b.toNat * 2 ^ 16 = (a.toNat * 256 + b.toNat) * 2 ^ 16 by omega,
    hor (show c.toNat * 2 ^ 8 < 2 ^ 16 by omega),
    show (a.toNat * 256 + b.toNat) * 2 ^ 16 + c.toNat * 2 ^ 8 =
      ((a.toNat * 256 + b.toNat) * 256 + c.toNat) * 2 ^ 8 by omega,
    hor (show d.toNat < 2 ^ 8 from hd)]
  rfl

theorem ofBe32_be32 (v : UInt32) :
    ofBe32 (v >>> 24).toUInt8 (v >>> 16).toUInt8 (v >>> 8).toUInt8 v.toUInt8 = v := by
  apply UInt32.toNat_inj.mp
  have hv := v.toNat_lt
  rw [ofBe32_toNat]
  simp only [UInt32.toNat_toUInt8, UInt32.toNat_shiftRight]
  rw [show (24 : UInt32).toNat % 32 = 24 from rfl, show (16 : UInt32).toNat % 32 = 16 from rfl,
    show (8 : UInt32).toNat % 32 = 8 from rfl]
  simp only [Nat.shiftRight_eq_div_pow]
  omega

/-! ### Little-endian numbers -/

/-- The low `n` bytes of a number, low byte first. -/
def le : ℕ → ℕ → List UInt8
  | 0, _ => []
  | n + 1, v => UInt8.ofNat v :: le n (v / 256)

def ofLe : List UInt8 → ℕ
  | [] => 0
  | b :: bs => b.toNat + 256 * ofLe bs

@[simp] theorem length_le (n v : ℕ) : (le n v).length = n := by
  induction n generalizing v with
  | zero => rfl
  | succ n ih => rw [le, List.length_cons, ih]

theorem ofLe_le {n v : ℕ} (h : v < 256 ^ n) : ofLe (le n v) = v := by
  induction n generalizing v with
  | zero =>
    rw [Nat.pow_zero] at h
    rw [le, ofLe]
    omega
  | succ n ih =>
    rw [Nat.pow_succ] at h
    rw [le, ofLe, ih (Nat.div_lt_of_lt_mul (by omega)), UInt8.toNat_ofNat']
    omega

theorem ofLe_lt (bs : List UInt8) : ofLe bs < 256 ^ bs.length := by
  induction bs with
  | nil => exact Nat.one_pos
  | cons b bs ih =>
    have hb := b.toNat_lt
    rw [ofLe, List.length_cons, Nat.pow_succ]
    omega

theorem le_ofLe (bs : List UInt8) : le bs.length (ofLe bs) = bs := by
  induction bs with
  | nil => rfl
  | cons b bs ih =>
    have hb := b.toNat_lt
    have hlow : UInt8.ofNat (b.toNat + 256 * ofLe bs) = b := by
      apply UInt8.toNat_inj.mp
      rw [UInt8.toNat_ofNat']
      omega
    have hhigh : (b.toNat + 256 * ofLe bs) / 256 = ofLe bs := by omega
    rw [List.length_cons, ofLe, le, hlow, hhigh, ih]

/-- The number in the next `n` bytes, and the bytes behind it. -/
def read (n : ℕ) (bs : List UInt8) : ℕ × List UInt8 := (ofLe (bs.take n), bs.drop n)

theorem read_le {n v : ℕ} (h : v < 256 ^ n) (rest : List UInt8) : read n (le n v ++ rest) = (v, rest) := by
  unfold read
  rw [List.take_left' (length_le n v), List.drop_left' (length_le n v), ofLe_le h]

/-- Byte `k` of block `i`, when every block has `n` bytes. -/
theorem getD_flatMap_block {α : Type} {f : α → List UInt8} {n : ℕ} (hf : ∀ a, (f a).length = n)
    (d : UInt8) {k : ℕ} (hk : k < n) (xs : List α) {i : ℕ} (hi : i < xs.length) :
    (xs.flatMap f).getD (i * n + k) d = (f xs[i]).getD k d := by
  induction xs generalizing i with
  | nil => simp at hi
  | cons a xs ih =>
    cases i with
    | zero =>
      rw [List.flatMap_cons, List.getD_append _ _ _ _ (by rw [hf]; omega), Nat.zero_mul,
        Nat.zero_add]
      rfl
    | succ i =>
      have hi' : i < xs.length := by simpa using hi
      have hlen : (f a).length ≤ (i + 1) * n + k := by
        rw [hf, Nat.succ_mul]
        omega
      have hsub : (i + 1) * n + k - (f a).length = i * n + k := by
        rw [hf, Nat.succ_mul]
        omega
      rw [List.flatMap_cons, List.getD_append_right _ _ _ _ hlen, hsub, ih hi']
      rfl

theorem length_flatMap_block {α : Type} {f : α → List UInt8} {n : ℕ} (hf : ∀ a, (f a).length = n)
    (xs : List α) : (xs.flatMap f).length = xs.length * n := by
  induction xs with
  | nil => rw [List.flatMap_nil, List.length_nil, List.length_nil, Nat.zero_mul]
  | cons a xs ih => rw [List.flatMap_cons, List.length_append, hf, ih, List.length_cons, Nat.succ_mul, Nat.add_comm]

/-- Block `i`, cut out. -/
theorem take_drop_flatMap_block {α : Type} {f : α → List UInt8} {n : ℕ} (hf : ∀ a, (f a).length = n)
    (xs : List α) {i : ℕ} (hi : i < xs.length) : ((xs.flatMap f).drop (i * n)).take n = f xs[i] := by
  induction xs generalizing i with
  | nil => exact absurd hi (Nat.not_lt_zero _)
  | cons a xs ih =>
    rw [List.flatMap_cons]
    cases i with
    | zero =>
      rw [Nat.zero_mul, List.drop_zero, List.take_append_of_le_length (hf a).ge, List.take_of_length_le (hf a).le]
      rfl
    | succ i =>
      have hle : (f a).length ≤ (i + 1) * n := by
        rw [hf, Nat.succ_mul]
        omega
      have hsub : (i + 1) * n - (f a).length = i * n := by
        rw [hf, Nat.succ_mul]
        omega
      rw [List.drop_append, List.drop_of_length_le hle, hsub, List.nil_append, ih (Nat.lt_of_succ_lt_succ hi)]
      rfl

end Bytes
