import Mathlib.Data.List.Basic

/-! Cyclic redundancy checks, one bit of the message at a time. -/
namespace MonsterMesh.Crc

variable {w : ℕ} {p c d : BitVec w} {b e : Bool} {bs es : List Bool}

/-- The register after one more bit. -/
def bitStep (p c : BitVec w) (b : Bool) : BitVec w :=
  (c <<< 1) ^^^ (if c.msb ^^ b then p else 0#w)

def register (p c : BitVec w) (bs : List Bool) : BitVec w := bs.foldl (bitStep p) c

@[simp] theorem register_nil : register p c [] = c := rfl

@[simp] theorem register_cons : register p c (b :: bs) = register p (bitStep p c b) bs := rfl

theorem register_append : register p c (bs ++ es) = register p (register p c bs) es :=
  List.foldl_append

theorem feed_xor (x y : Bool) :
    (if (x ^^ y) then p else 0#w) = (if x then p else 0#w) ^^^ (if y then p else 0#w) := by
  cases x <;> cases y <;> simp

theorem bitStep_xor : bitStep p (c ^^^ d) (b ^^ e) = bitStep p c b ^^^ bitStep p d e := by
  have hm : ((c ^^^ d).msb ^^ (b ^^ e)) = ((c.msb ^^ b) ^^ (d.msb ^^ e)) := by
    rw [BitVec.msb_xor]
    cases c.msb <;> cases d.msb <;> cases b <;> cases e <;> rfl
  unfold bitStep
  rw [hm, feed_xor, BitVec.shiftLeft_xor_distrib]
  ac_rfl

/-- The register is linear in its start and in the message. -/
theorem register_xor : bs.length = es.length →
    register p (c ^^^ d) (List.zipWith (· ^^ ·) bs es) = register p c bs ^^^ register p d es := by
  induction bs generalizing c d es with
  | nil =>
    intro h
    cases es with
    | nil => rfl
    | cons _ _ => simp at h
  | cons b bs ih =>
    intro h
    cases es with
    | nil => simp at h
    | cons e es =>
      rw [List.zipWith_cons_cons, register_cons, register_cons, register_cons, bitStep_xor]
      exact ih (by simpa using h)

/-- A register whose low bits are clear was shifted there without a feedback. -/
theorem bitStep_low (hp : p.getLsbD 0 = true) {k : ℕ} (hk : k + 1 ≤ w)
    (h : ∀ i ≤ k, (bitStep p c b).getLsbD i = false) :
    (c.msb ^^ b) = false ∧ ∀ i < k, c.getLsbD i = false := by
  have hf : (c.msb ^^ b) = false := by
    have h0 := h 0 (Nat.zero_le k)
    unfold bitStep at h0
    cases hx : (c.msb ^^ b) with
    | false => rfl
    | true => simp [hx, hp] at h0
  refine ⟨hf, fun i hi => ?_⟩
  have hi' := h (i + 1) hi
  unfold bitStep at hi'
  rw [hf] at hi'
  have hw : i + 1 < w := by omega
  rw [BitVec.getLsbD_eq_getElem (by omega)]
  simpa [hw] using hi'

/-- Read backwards, every bit of the message clears one low bit less. -/
theorem register_low (hp : p.getLsbD 0 = true) {k : ℕ} : k + bs.length ≤ w →
    (∀ i < k + bs.length, (register p c bs).getLsbD i = false) → ∀ i < k, c.getLsbD i = false := by
  induction bs generalizing c k with
  | nil => exact fun _ h i hi => h i (by simpa using hi)
  | cons b bs ih =>
    intro hk h
    rw [List.length_cons] at hk h
    have hstep := ih (c := bitStep p c b) (k := k + 1) (by omega) fun i hi => h i (by omega)
    exact (bitStep_low hp (by omega) fun i hi => hstep i (by omega)).2

/-- A message no longer than the register that leaves it clear is all zeros. -/
theorem clear_message (hp : p.getLsbD 0 = true) : bs.length ≤ w → register p 0#w bs = 0#w →
    ∀ b ∈ bs, b = false := by
  induction bs with
  | nil => simp
  | cons b bs ih =>
    intro hw h
    rw [List.length_cons] at hw
    have hclear : ∀ i < w - bs.length + bs.length, (register p (bitStep p 0#w b) bs).getLsbD i = false := by
      intro i _
      rw [register_cons] at h
      rw [h, BitVec.getLsbD_zero]
    have hlow : ∀ i < w - bs.length, (bitStep p 0#w b).getLsbD i = false :=
      register_low hp (by omega) hclear
    obtain ⟨hb, -⟩ := bitStep_low (k := 0) hp (by omega) fun i hi => hlow i (by omega)
    rw [BitVec.msb_zero, Bool.false_xor] at hb
    subst hb
    have hzero : bitStep p 0#w false = 0#w := by simp [bitStep]
    rw [register_cons, hzero] at h
    intro x hx
    rcases List.mem_cons.mp hx with rfl | hx
    · rfl
    · exact ih (by omega) h x hx

theorem eq_of_xor_zero (h : c ^^^ d = 0#w) : c = d := by
  have hc : c ^^^ d ^^^ d = 0#w ^^^ d := by rw [h]
  simpa [BitVec.xor_assoc] using hc

theorem bitStep_injective (hp : p.getLsbD 0 = true) (hw : 0 < w) (h : bitStep p c b = bitStep p d b) :
    c = d := by
  have hx : bitStep p (c ^^^ d) (b ^^ b) = 0#w := by rw [bitStep_xor, h, BitVec.xor_self]
  rw [Bool.xor_self] at hx
  obtain ⟨hm, hlow⟩ := bitStep_low (k := w - 1) hp (by omega) fun i _ => by rw [hx, BitVec.getLsbD_zero]
  rw [Bool.xor_false] at hm
  refine eq_of_xor_zero (BitVec.eq_of_getLsbD_eq fun i hi => ?_)
  rw [BitVec.getLsbD_zero]
  rcases Nat.lt_or_ge i (w - 1) with hi' | hi'
  · exact hlow i hi'
  · have he : i = w - 1 := by omega
    rw [he, ← BitVec.msb_eq_getLsbD_last, hm]

/-- Registers that differ stay apart on a common message. -/
theorem register_injective (hp : p.getLsbD 0 = true) (hw : 0 < w) :
    register p c bs = register p d bs → c = d := by
  induction bs generalizing c d with
  | nil => exact id
  | cons b bs ih => exact fun h => bitStep_injective hp hw (ih h)

theorem eq_of_zipWith_xor : bs.length = es.length → (∀ x ∈ List.zipWith (· ^^ ·) bs es, x = false) →
    bs = es := by
  induction bs generalizing es with
  | nil =>
    intro h _
    exact (List.length_eq_zero_iff.mp h.symm).symm
  | cons b bs ih =>
    intro h hx
    cases es with
    | nil => simp at h
    | cons e es =>
      rw [List.zipWith_cons_cons] at hx
      have hbe : (b ^^ e) = false := hx _ List.mem_cons_self
      have hrest : bs = es := ih (by simpa using h) fun x h => hx x (List.mem_cons_of_mem _ h)
      have hb : b = e := by simpa using hbe
      rw [hrest, hb]

/-- Two messages that differ only within `w` bits in a row do not collide. -/
theorem burst_detected (hp : p.getLsbD 0 = true) {pre mid mid' post : List Bool}
    (hlen : mid.length = mid'.length) (hw : mid.length ≤ w)
    (h : register p c (pre ++ mid ++ post) = register p c (pre ++ mid' ++ post)) : mid = mid' := by
  rcases Nat.eq_zero_or_pos mid.length with hz | hpos
  · have hz' : mid'.length = 0 := by omega
    rw [List.length_eq_zero_iff.mp hz, List.length_eq_zero_iff.mp hz']
  · rw [register_append, register_append, register_append, register_append] at h
    have hmid := register_injective hp (by omega) h
    refine eq_of_zipWith_xor hlen (clear_message hp (by rwa [List.length_zipWith, ← hlen, Nat.min_self]) ?_)
    have hx := register_xor (p := p) (c := register p c pre) (d := register p c pre) hlen
    rwa [BitVec.xor_self, hmid, BitVec.xor_self] at hx

end MonsterMesh.Crc
