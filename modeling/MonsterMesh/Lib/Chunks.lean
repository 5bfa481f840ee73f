import Mathlib.Data.Nat.Bitwise
import Mathlib.Tactic.Ring

/-! Messages that come in parts: the buffer they are written to, and the mask of the parts that have
come. -/
namespace Chunks

variable {α : Type} {size i j n : ℕ} {cells : ℕ → α} {P data : List α}

/-- `data` written from `off` on. -/
def put (cells : ℕ → α) (off : ℕ) (data : List α) (k : ℕ) : α :=
  if off ≤ k then (data[k - off]?).getD (cells k) else cells k

/-- The first `n` cells. -/
def contents (cells : ℕ → α) (n : ℕ) : List α := (List.range n).map cells

/-- Part `i` of a message in parts of `size`. -/
def part (size : ℕ) (P : List α) (i : ℕ) : List α := (P.drop (i * size)).take size

theorem part_length : (part size P i).length ≤ size := List.length_take_le ..

/-- The cells of part `i` hold the message. -/
def Holds (size : ℕ) (P : List α) (cells : ℕ → α) (i : ℕ) : Prop :=
  ∀ k, i * size ≤ k → k < (i + 1) * size → ∀ x, P[k]? = some x → cells k = x

/-- A part is held where it was written, whatever was there. -/
theorem holds_put : Holds size P (put cells (i * size) (part size P i)) i := by
  intro k hk hlt x hx
  have hoff : k - i * size < size := by
    rw [Nat.add_mul, Nat.one_mul] at hlt
    omega
  have hget : (part size P i)[k - i * size]? = some x := by
    unfold part
    rw [List.getElem?_take_of_lt hoff, List.getElem?_drop, Nat.add_sub_cancel' hk]
    exact hx
  unfold put
  rw [if_pos hk, hget]
  rfl

/-- Another part, written to its place, leaves it alone. -/
theorem Holds.put (h : Holds size P cells j) (hij : j ≠ i) (hd : data.length ≤ size) :
    Holds size P (put cells (i * size) data) j := by
  intro k hk hlt x hx
  unfold Chunks.put
  split
  · rename_i hi
    have hnone : data[k - i * size]? = none := by
      refine List.getElem?_eq_none ?_
      rcases Nat.lt_or_gt_of_ne hij with hji | hji
      · have hle : (j + 1) * size ≤ i * size := Nat.mul_le_mul_right _ hji
        omega
      · have hle : (i + 1) * size ≤ j * size := Nat.mul_le_mul_right _ hji
        rw [Nat.add_mul, Nat.one_mul] at hle
        omega
    rw [hnone]
    exact h k hk hlt x hx
  · exact h k hk hlt x hx

/-- With all its parts held the message is there. -/
theorem contents_of_holds (h : ∀ i < n, Holds size P cells i) (hn : P.length ≤ n * size) :
    contents cells P.length = P := by
  refine List.ext_getElem (by rw [contents, List.length_map, List.length_range]) fun k hk hk' => ?_
  have hpos : 0 < size := Nat.pos_of_ne_zero fun h0 => by
    rw [h0, Nat.mul_zero] at hn
    omega
  have hi : k / size < n := by
    rw [Nat.div_lt_iff_lt_mul hpos]
    omega
  have hlow : k / size * size ≤ k := Nat.div_mul_le_self k size
  have hhigh : k < (k / size + 1) * size := (Nat.div_lt_iff_lt_mul hpos).mp (Nat.lt_succ_self _)
  simp only [contents, List.getElem_map, List.getElem_range]
  exact h _ hi k hlow hhigh _ (List.getElem?_eq_getElem hk')

/-! ### The mask -/

def has (mask : UInt8) (i : ℕ) : Bool := mask.toNat.testBit i

theorem has_zero (i : ℕ) : has 0 i = false := Nat.zero_testBit i

theorem has_set {mask k : UInt8} (hk : k.toNat < 8) (j : ℕ) :
    has (mask ||| (1 <<< k)) j = (has mask j || decide (j = k.toNat)) := by
  have hbit : ((1 : UInt8) <<< k).toNat = 2 ^ k.toNat := by
    have hlt : 2 ^ k.toNat < 2 ^ 8 := Nat.pow_lt_pow_right (by omega) hk
    rw [UInt8.toNat_shiftLeft, Nat.mod_eq_of_lt hk]
    change 1 <<< k.toNat % 2 ^ 8 = _
    rw [Nat.one_shiftLeft, Nat.mod_eq_of_lt hlt]
  unfold has
  rw [UInt8.toNat_or, hbit, Nat.testBit_or, Nat.testBit_two_pow]
  congr 1
  exact decide_eq_decide.mpr eq_comm

/-- A mask with the lowest `total` bits set. -/
theorem has_of_full {mask : UInt8} {total : ℕ} (ht : total ≤ 8)
    (h : mask &&& UInt8.ofNat (2 ^ total - 1) = UInt8.ofNat (2 ^ total - 1)) {i : ℕ} (hi : i < total) :
    has mask i = true := by
  have hfull : (UInt8.ofNat (2 ^ total - 1)).toNat = 2 ^ total - 1 := by
    have hle : 2 ^ total ≤ 2 ^ 8 := Nat.pow_le_pow_right (by omega) ht
    rw [UInt8.toNat_ofNat']
    omega
  have hnat := congrArg (fun m => m.toNat.testBit i) h
  simp only [UInt8.toNat_and, hfull, Nat.testBit_and, Nat.testBit_two_pow_sub_one, hi, decide_true,
    Bool.and_true] at hnat
  exact hnat

end Chunks
