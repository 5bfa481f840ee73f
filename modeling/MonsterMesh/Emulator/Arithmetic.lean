import Mathlib.Tactic.SplitIfs
import MonsterMesh.Emulator.Instructions

/-! The arithmetic of the processor: its flags, decimal numbers, and the short cuts that it takes. -/
namespace MonsterMesh.PeanutGb

namespace Alu

variable {cpu : Cpu} {r : UInt8} {c : Bool}

theorem and_bit (x i : ℕ) : x &&& 2 ^ i ≠ 0 ↔ x / 2 ^ i % 2 = 1 := by
  rw [Nat.and_two_pow, Nat.testBit_eq_decide_div_mod_eq]
  by_cases h : x / 2 ^ i % 2 = 1 <;> simp [h]

theorem xor_bit (x y i : ℕ) : (x ^^^ y) / 2 ^ i % 2 = (x / 2 ^ i + y / 2 ^ i) % 2 := by
  have h := Nat.testBit_xor x y i
  simp only [Nat.testBit_eq_decide_div_mod_eq] at h
  have := Nat.mod_two_eq_zero_or_one (x / 2 ^ i)
  have := Nat.mod_two_eq_zero_or_one (y / 2 ^ i)
  have := Nat.mod_two_eq_zero_or_one ((x ^^^ y) / 2 ^ i)
  by_cases h1 : x / 2 ^ i % 2 = 1 <;> by_cases h2 : y / 2 ^ i % 2 = 1 <;> simp [h1, h2] at h <;> omega

/-- The half carry is the parity of the three fifth bits. -/
theorem half_iff (a r temp : UInt8) :
    half a r temp = true ↔ (a.toNat / 16 + r.toNat / 16 + temp.toNat / 16) % 2 = 1 := by
  have h : half a r temp = true ↔ (a.toNat ^^^ r.toNat ^^^ temp.toNat) &&& 2 ^ 4 ≠ 0 := by
    rw [half, decide_eq_true_iff, ne_eq, ← UInt8.toNat_inj]
    simp
  rw [h, and_bit, xor_bit]
  have := xor_bit a.toNat r.toNat 4
  simp only [Nat.reducePow] at *
  omega

theorem bit_le (b : Bool) : bit b ≤ 1 := by
  cases b <;> decide

theorem toNat_ofInt (i : ℤ) : (UInt8.ofInt i).toNat = (i % 256).toNat := by
  have : (i % 256).toNat < 256 := by omega
  simpa [UInt8.ofInt] using this

/-! ### Adding and subtracting -/

theorem adcR8_a : (adcR8 cpu r c).a.toNat = (cpu.a.toNat + r.toNat + bit c) % 256 := by
  simp [adcR8, Nat.add_assoc]

theorem adcR8_h : (adcR8 cpu r c).f.h = true ↔ 16 ≤ cpu.a.toNat % 16 + r.toNat % 16 + bit c := by
  have ha : (adcR8 cpu r c).a.toNat = _ := adcR8_a
  have hc := bit_le c
  show half cpu.a r (adcR8 cpu r c).a = true ↔ _
  rw [half_iff, ha]
  omega

theorem adcR8_c : (adcR8 cpu r c).f.c = true ↔ 256 ≤ cpu.a.toNat + r.toNat + bit c := by
  simp only [adcR8, decide_eq_true_eq]
  omega

theorem sbcR8_a : (sbcR8 cpu r c).a.toNat = (cpu.a.toNat + 512 - (r.toNat + bit c)) % 256 := by
  have hc := bit_le c
  have hr := r.toNat_lt
  have ha := cpu.a.toNat_lt
  simp only [sbcR8, difference, toNat_ofInt]
  omega

theorem sbcR8_h : (sbcR8 cpu r c).f.h = true ↔ cpu.a.toNat % 16 < r.toNat % 16 + bit c := by
  have ha : (sbcR8 cpu r c).a.toNat = _ := sbcR8_a
  have hc := bit_le c
  have hr := r.toNat_lt
  have := cpu.a.toNat_lt
  show half cpu.a r (sbcR8 cpu r c).a = true ↔ _
  rw [half_iff, ha]
  omega

theorem sbcR8_c : (sbcR8 cpu r c).f.c = true ↔ cpu.a.toNat < r.toNat + bit c := by
  simp only [sbcR8, difference, decide_eq_true_eq]
  omega

/-! ### Decimal digits -/

section
variable {p q x y k : ℕ}

theorem decimal_six (hx : x < 10) (hy : y < 10) (hk : k ≤ 1) :
    (16 ≤ x + y + k ∨ 9 < (p * 16 + x + (q * 16 + y) + k) % 256 % 16) ↔ 10 ≤ x + y + k := by
  have h : (p * 16 + x + (q * 16 + y) + k) % 256 % 16 = (x + y + k) % 16 := by omega
  rw [h]
  omega

theorem decimal_carry (hp : p < 10) (hq : q < 10) (hx : x < 10) (hy : y < 10) (hk : k ≤ 1) :
    (256 ≤ p * 16 + x + (q * 16 + y) + k ∨
      0x9F < (p * 16 + x + (q * 16 + y) + k) % 256 + if 10 ≤ x + y + k then 6 else 0) ↔
        100 ≤ p * 10 + x + (q * 10 + y) + k := by
  split_ifs <;> omega

theorem decimal_sum (hp : p < 10) (hq : q < 10) (hx : x < 10) (hy : y < 10) (hk : k ≤ 1) :
    ((p * 16 + x + (q * 16 + y) + k) % 256 + (if 10 ≤ x + y + k then 6 else 0) +
      if 100 ≤ p * 10 + x + (q * 10 + y) + k then 0x60 else 0) % 256 =
    (p * 10 + x + (q * 10 + y) + k) % 100 / 10 * 16 + (p * 10 + x + (q * 10 + y) + k) % 100 % 10 := by
  have h0 : (p * 10 + x + (q * 10 + y) + k) % 100 % 10 = if 10 ≤ x + y + k then x + y + k - 10 else x + y + k := by
    split_ifs <;> omega
  have h1 : (p * 10 + x + (q * 10 + y) + k) % 100 / 10 =
      (p + q + if 10 ≤ x + y + k then 1 else 0) - if 100 ≤ p * 10 + x + (q * 10 + y) + k then 10 else 0 := by
    split_ifs <;> omega
  rw [h0, h1]
  split_ifs <;> omega

theorem decimal_borrow (hx : x < 10) (hy : y < 10) (hk : k ≤ 1) :
    p * 16 + x < q * 16 + y + k ↔ p * 10 + x < q * 10 + y + k := by
  omega

theorem decimal_difference (hp : p < 10) (hq : q < 10) (hx : x < 10) (hy : y < 10) (hk : k ≤ 1) :
    ((p * 16 + x + 512 - (q * 16 + y + k)) % 256 + 512 - (if x < y + k then 6 else 0) -
      if p * 10 + x < q * 10 + y + k then 0x60 else 0) % 256 =
    (p * 10 + x + 100 - (q * 10 + y + k)) % 100 / 10 * 16 + (p * 10 + x + 100 - (q * 10 + y + k)) % 100 % 10 := by
  have h0 : (p * 10 + x + 100 - (q * 10 + y + k)) % 100 % 10 = if x < y + k then x + 10 - (y + k) else x - (y + k) := by
    split_ifs <;> omega
  have h1 : (p * 10 + x + 100 - (q * 10 + y + k)) % 100 / 10 =
      (p + (if p * 10 + x < q * 10 + y + k then 10 else 0)) - (q + if x < y + k then 1 else 0) := by
    split_ifs <;> omega
  rw [h0, h1]
  split_ifs <;> omega

end

/-- Two decimal digits in a byte. -/
def bcd (n : ℕ) : UInt8 := UInt8.ofNat (n / 10 * 16 + n % 10)

theorem bcd_toNat {n : ℕ} (h : n < 100) : (bcd n).toNat = n / 10 * 16 + n % 10 := by
  rw [bcd, UInt8.toNat_ofNat_of_lt']
  show _ < 256
  omega

theorem bcd_digits {p x : ℕ} (hp : p < 10) (hx : x < 10) : (bcd (p * 10 + x)).toNat = p * 16 + x := by
  rw [bcd_toNat (by omega)]
  omega

theorem digits_of {n : ℕ} (h : n < 100) : ∃ p x, p < 10 ∧ x < 10 ∧ n = p * 10 + x :=
  ⟨n / 10, n % 10, by omega, by omega, by omega⟩

theorem daa_plus (hn : cpu.f.n = false) : (daa cpu).a.toNat =
      (cpu.a.toNat + (if cpu.f.h = true ∨ 9 < cpu.a.toNat % 16 then 6 else 0) +
        (if cpu.f.c = true ∨ 0x9F < cpu.a.toNat + (if cpu.f.h = true ∨ 9 < cpu.a.toNat % 16 then 6 else 0) then 0x60
          else 0)) % 256 ∧
    ((daa cpu).f.c = true ↔ cpu.f.c = true ∨
      0x9F < cpu.a.toNat + (if cpu.f.h = true ∨ 9 < cpu.a.toNat % 16 then 6 else 0)) := by
  have hlt := cpu.a.toNat_lt
  cases hh : cpu.f.h <;> cases hc : cpu.f.c <;> simp only [daa, hn, hh, hc, toNat_ofInt] <;> simp <;>
    (repeat' split) <;> omega

theorem daa_minus (hn : cpu.f.n = true) :
    (daa cpu).a.toNat = (cpu.a.toNat + 512 - (if cpu.f.h = true then 6 else 0) - (if cpu.f.c = true then 0x60 else 0)) %
      256 ∧ ((daa cpu).f.c = true ↔ cpu.f.c = true) := by
  have hlt := cpu.a.toNat_lt
  cases hh : cpu.f.h <;> cases hc : cpu.f.c <;> simp only [daa, hn, hh, hc, toNat_ofInt] <;> simp <;> omega

theorem daa_z : (daa cpu).f.z = true ↔ (daa cpu).a = 0 := by
  simp [daa]

/-- `DAA` after an addition of decimal numbers. -/
theorem daa_added {x y : ℕ} (hx : x < 100) (hy : y < 100) (ha : cpu.a = bcd x) :
    (daa (adcR8 cpu (bcd y) c)).a = bcd ((x + y + bit c) % 100) ∧
    ((daa (adcR8 cpu (bcd y) c)).f.c = true ↔ 100 ≤ x + y + bit c) := by
  obtain ⟨p, x, hp, hx₀, rfl⟩ := digits_of hx
  obtain ⟨q, y, hq, hy₀, rfl⟩ := digits_of hy
  have hc := bit_le c
  obtain ⟨hd, hf⟩ := daa_plus (show (adcR8 cpu (bcd (q * 10 + y)) c).f.n = false from rfl)
  have hm : ∀ (r : ℕ) {z : ℕ}, z < 10 → (r * 16 + z) % 16 = z := fun r z hz => by omega
  have hsix := decimal_six (p := p) (q := q) hx₀ hy₀ hc
  have hcarry := decimal_carry hp hq hx₀ hy₀ hc
  simp only [adcR8_h, adcR8_c, adcR8_a, ha, bcd_digits hp hx₀, bcd_digits hq hy₀, hm p hx₀, hm q hy₀, hsix,
    hcarry] at hd hf
  rw [← UInt8.toNat_inj, hd, decimal_sum hp hq hx₀ hy₀ hc, bcd_toNat (Nat.mod_lt _ (by decide))]
  exact ⟨rfl, hf⟩

/-- `DAA` after a subtraction. -/
theorem daa_subtracted {x y : ℕ} (hx : x < 100) (hy : y < 100) (ha : cpu.a = bcd x) :
    (daa (sbcR8 cpu (bcd y) c)).a = bcd ((x + 100 - (y + bit c)) % 100) ∧
    ((daa (sbcR8 cpu (bcd y) c)).f.c = true ↔ x < y + bit c) := by
  obtain ⟨p, x, hp, hx₀, rfl⟩ := digits_of hx
  obtain ⟨q, y, hq, hy₀, rfl⟩ := digits_of hy
  have hc := bit_le c
  obtain ⟨hd, hf⟩ := daa_minus (show (sbcR8 cpu (bcd (q * 10 + y)) c).f.n = true from rfl)
  have hm : ∀ (r : ℕ) {z : ℕ}, z < 10 → (r * 16 + z) % 16 = z := fun r z hz => by omega
  have hborrow := decimal_borrow (p := p) (q := q) hx₀ hy₀ hc
  simp only [sbcR8_h, sbcR8_c, sbcR8_a, ha, bcd_digits hp hx₀, bcd_digits hq hy₀, hm p hx₀, hm q hy₀] at hd hf
  simp only [hborrow] at hd hf ⊢
  rw [← UInt8.toNat_inj, hd, bcd_toNat (Nat.mod_lt _ (by decide))]
  exact ⟨decimal_difference hp hq hx₀ hy₀ hc, hf⟩

/-! ### Short cuts -/

theorem flags_ext {f g : Flags} (hz : f.z = g.z) (hn : f.n = g.n) (hh : f.h = g.h) (hc : f.c = g.c) : f = g := by
  cases f
  cases g
  simp_all

theorem high_byte (t : UInt16) : t &&& 0xFF00 ≠ 0 ↔ 256 ≤ t.toNat := by
  have hlt := t.toNat_lt
  have hdiv : (t.toNat &&& 0xFF00) / 2 ^ 8 = t.toNat / 2 ^ 8 &&& 2 ^ 8 - 1 := Nat.and_div_two_pow
  have hmod : (t.toNat &&& 0xFF00) % 2 ^ 8 = t.toNat % 2 ^ 8 &&& 0 := Nat.and_mod_two_pow
  rw [Nat.and_two_pow_sub_one_eq_mod] at hdiv
  rw [Nat.and_zero] at hmod
  rw [ne_eq, ← UInt16.toNat_inj, UInt16.toNat_and]
  show ¬t.toNat &&& 0xFF00 = 0 ↔ _
  omega

theorem low_byte (t : UInt16) : t &&& 0xFF = 0 ↔ t.toUInt8 = 0 := by
  rw [← UInt16.toNat_inj, ← UInt8.toNat_inj, UInt16.toNat_and, UInt16.toNat_toUInt8]
  show t.toNat &&& 2 ^ 8 - 1 = 0 ↔ _
  rw [Nat.and_two_pow_sub_one_eq_mod]
  rfl

theorem adcR8Portable_eq : adcR8Portable cpu r c = adcR8 cpu r c := by
  have hc := bit_le c
  have ha := cpu.a.toNat_lt
  have hr := r.toNat_lt
  have ht : (UInt16.ofNat (cpu.a.toNat + r.toNat + bit c)).toNat = cpu.a.toNat + r.toNat + bit c :=
    UInt16.toNat_ofNat_of_lt' (by show _ < 65536; omega)
  have h8 : (UInt16.ofNat (cpu.a.toNat + r.toNat + bit c)).toUInt8 = UInt8.ofNat (cpu.a.toNat + (r.toNat + bit c)) := by
    rw [← UInt8.toNat_inj, UInt16.toNat_toUInt8, ht, UInt8.toNat_ofNat', Nat.add_assoc]
  have hhigh := high_byte (UInt16.ofNat (cpu.a.toNat + r.toNat + bit c))
  have hlow := low_byte (UInt16.ofNat (cpu.a.toNat + r.toNat + bit c))
  rw [ht] at hhigh
  rw [h8] at hlow
  simp only [adcR8Portable, adcR8, h8, hhigh, hlow]
  congr 2
  rw [decide_eq_decide]
  omega

theorem sbcR8Portable_eq : sbcR8Portable cpu r c = sbcR8 cpu r c := by
  have hc := bit_le c
  have ha := cpu.a.toNat_lt
  have hr := r.toNat_lt
  have ht : (cpu.a.toUInt16 - UInt16.ofNat (r.toNat + bit c)).toNat =
      (cpu.a.toNat + 65536 - (r.toNat + bit c)) % 65536 := by
    rw [UInt16.toNat_sub, UInt16.toNat_ofNat_of_lt' (by show _ < 65536; omega)]
    simp only [UInt8.toNat_toUInt16]
    omega
  have h8 : (cpu.a.toUInt16 - UInt16.ofNat (r.toNat + bit c)).toUInt8 =
      UInt8.ofInt (cpu.a.toNat - (r.toNat + bit c : ℕ)) := by
    rw [← UInt8.toNat_inj, UInt16.toNat_toUInt8, ht, toNat_ofInt]
    omega
  have hhigh := high_byte (cpu.a.toUInt16 - UInt16.ofNat (r.toNat + bit c))
  have hlow := low_byte (cpu.a.toUInt16 - UInt16.ofNat (r.toNat + bit c))
  rw [ht] at hhigh
  rw [h8] at hlow
  simp only [sbcR8Portable, sbcR8, difference, h8, hhigh, hlow]
  congr 2
  rw [decide_eq_decide]
  omega

theorem sbcR8_self : (sbcR8 cpu cpu.a c).a = if c then 0xFF else 0 := by
  have h : (sbcR8 cpu cpu.a c).a.toNat = _ := sbcR8_a
  rw [← UInt8.toNat_inj, h]
  cases c <;> simp [bit]

/-- Subtracting the accumulator from itself. -/
theorem sbcR8_self_eq : sbcR8 cpu cpu.a c =
    { cpu with a := if c then 0xFF else 0, f := ⟨!c, true, c, c⟩ } := by
  have ha : (sbcR8 cpu cpu.a c).a = _ := sbcR8_self
  have hh : (sbcR8 cpu cpu.a c).f.h = true ↔ _ := sbcR8_h
  have hc : (sbcR8 cpu cpu.a c).f.c = true ↔ _ := sbcR8_c
  have hz : (sbcR8 cpu cpu.a c).f.z = decide ((sbcR8 cpu cpu.a c).a = 0) := rfl
  have hf : (sbcR8 cpu cpu.a c).f = ⟨!c, true, c, c⟩ := by
    refine flags_ext ?_ rfl ?_ ?_
    · rw [hz, ha]
      cases c <;> rfl
    · rw [Bool.eq_iff_iff, hh]
      cases c <;> simp [bit]
    · rw [Bool.eq_iff_iff, hc]
      cases c <;> simp [bit]
  show { cpu with a := (sbcR8 cpu cpu.a c).a, f := (sbcR8 cpu cpu.a c).f } = _
  rw [ha, hf]

theorem cpR8_self_eq : cpR8 cpu cpu.a = cpA cpu := by
  have h : (sbcR8 cpu cpu.a false).f = ⟨true, true, false, false⟩ := by rw [sbcR8_self_eq]; rfl
  show { cpu with f := (sbcR8 cpu cpu.a false).f } = _
  rw [h]
  rfl

theorem and_bit16 (t : UInt16) (i : ℕ) (hi : i < 16) : t &&& UInt16.ofNat (2 ^ i) ≠ 0 ↔ t.toNat / 2 ^ i % 2 = 1 := by
  have hlt : 2 ^ i < 2 ^ 16 := Nat.pow_lt_pow_right (by decide) hi
  rw [← and_bit, ne_eq, ← UInt16.toNat_inj, UInt16.toNat_and, UInt16.toNat_ofNat_of_lt' hlt]
  rfl

theorem addHl_half (a b : ℕ) : ((a + b) ^^^ a ^^^ b) &&& 0x1000 ≠ 0 ↔ 0x1000 ≤ a % 0x1000 + b % 0x1000 := by
  have h := and_bit ((a + b) ^^^ a ^^^ b) 12
  have h₁ := xor_bit ((a + b) ^^^ a) b 12
  have h₂ := xor_bit (a + b) a 12
  simp only [Nat.reducePow] at h h₁ h₂
  rw [h]
  omega

theorem addHlHl_eq : addHlHl cpu = addHl cpu .hl := by
  have hlt := cpu.hl.toNat_lt
  have hget : cpu.get16 .hl = cpu.hl := rfl
  have ht : cpu.hl <<< 1 = UInt16.ofNat (cpu.hl.toNat + cpu.hl.toNat) := by
    rw [← UInt16.toNat_inj, UInt16.toNat_shiftLeft, UInt16.toNat_ofNat']
    show cpu.hl.toNat <<< 1 % 65536 = _
    rw [Nat.shiftLeft_eq]
    congr 1
    omega
  have hc : cpu.hl &&& 0x8000 ≠ 0 ↔ 0xFFFF < cpu.hl.toNat + cpu.hl.toNat := by
    have h := and_bit16 cpu.hl 15 (by decide)
    simp only [Nat.reducePow] at h
    rw [show (0x8000 : UInt16) = UInt16.ofNat 32768 from rfl, h]
    omega
  have hh : (cpu.hl <<< 1) &&& 0x1000 ≠ 0 ↔
      ((cpu.hl.toNat + cpu.hl.toNat) ^^^ cpu.hl.toNat ^^^ cpu.hl.toNat) &&& 0x1000 ≠ 0 := by
    have h := and_bit16 (cpu.hl <<< 1) 12 (by decide)
    simp only [Nat.reducePow] at h
    rw [show (0x1000 : UInt16) = UInt16.ofNat 4096 from rfl, h, addHl_half, ht, UInt16.toNat_ofNat']
    omega
  simp only [addHlHl, addHl, hget, hh, hc]
  rw [ht]

theorem addHlSp_eq : addHlSp cpu = addHl cpu .sp := by
  have hlt := cpu.hl.toNat_lt
  have hsp := cpu.sp.toNat_lt
  have hget : cpu.get16 .sp = cpu.sp := rfl
  have hc : (cpu.hl.toNat + cpu.sp.toNat) &&& 0x10000 ≠ 0 ↔ 0xFFFF < cpu.hl.toNat + cpu.sp.toNat := by
    have h := and_bit (cpu.hl.toNat + cpu.sp.toNat) 16
    simp only [Nat.reducePow] at h
    rw [h]
    omega
  have hh : (cpu.hl.toNat % 0x1000 + cpu.sp.toNat % 0x1000) &&& 0x1000 ≠ 0 ↔
      ((cpu.hl.toNat + cpu.sp.toNat) ^^^ cpu.hl.toNat ^^^ cpu.sp.toNat) &&& 0x1000 ≠ 0 := by
    have h := and_bit (cpu.hl.toNat % 0x1000 + cpu.sp.toNat % 0x1000) 12
    simp only [Nat.reducePow] at h
    rw [h, addHl_half]
    omega
  simp only [addHlSp, addHl, hget, hh, hc]

/-- Decimal arithmetic: `DAA` after any addition or subtraction of two decimal numbers, with a carry or a borrow. -/
theorem decimal_exact {x y : ℕ} (hx : x < 100) (hy : y < 100) (ha : cpu.a = bcd x) (c : Bool) :
    ((daa (adcR8 cpu (bcd y) c)).a = bcd ((x + y + bit c) % 100) ∧
      ((daa (adcR8 cpu (bcd y) c)).f.c = true ↔ 100 ≤ x + y + bit c) ∧
      ((daa (adcR8 cpu (bcd y) c)).f.z = true ↔ (x + y + bit c) % 100 = 0)) ∧
    (daa (sbcR8 cpu (bcd y) c)).a = bcd ((x + 100 - (y + bit c)) % 100) ∧
      ((daa (sbcR8 cpu (bcd y) c)).f.c = true ↔ x < y + bit c) ∧
      ((daa (sbcR8 cpu (bcd y) c)).f.z = true ↔ (x + 100 - (y + bit c)) % 100 = 0) := by
  have hzero : ∀ n : ℕ, bcd (n % 100) = 0 ↔ n % 100 = 0 := by
    intro n
    have hn := bcd_toNat (Nat.mod_lt n (show 0 < 100 by decide))
    rw [← UInt8.toNat_inj, hn]
    show _ = 0 ↔ _
    omega
  obtain ⟨hadd, haddc⟩ := daa_added (c := c) hx hy ha
  obtain ⟨hsub, hsubc⟩ := daa_subtracted (c := c) hx hy ha
  exact ⟨⟨hadd, haddc, by rw [daa_z, hadd, hzero]⟩, hsub, hsubc, by rw [daa_z, hsub, hzero]⟩

/-- 42 and 39. -/
def fortyTwo : Cpu := ⟨0x42, ⟨false, false, false, false⟩, 0, 0, 0, 0, 0, 0, 0, 0, false, false⟩

theorem decimal_fortyTwo : (daa (adcR8 fortyTwo 0x39 false)).a = 0x81 ∧ (daa (sbcR8 fortyTwo 0x39 false)).a = 0x03 :=
  have h := decimal_exact (x := 42) (y := 39) (by decide) (by decide) (show fortyTwo.a = _ from rfl) false
  ⟨h.1.1, h.2.1⟩

end Alu

namespace Instr

open Alu

variable {cpu : Cpu}

/-- The bodies that are written out for the accumulator do what the general ones do. -/
theorem arithReg_eq (op : AluOp) (y : Operand) (val : UInt8) (h : y = .reg .a → val = cpu.a) :
    arithReg op y val cpu = arith op val cpu := by
  unfold arithReg
  split
  · rw [h rfl, arith, sbcR8_self_eq]
    rfl
  · rw [h rfl, arith, sbcR8_self_eq, sbcA]
  · rw [h rfl, arith, cpR8_self_eq]
  · rfl

theorem arithImm_eq (op : AluOp) (val : UInt8) : arithImm op val cpu = arith op val cpu := by
  unfold arithImm
  split
  · exact sbcR8Portable_eq
  · rfl

/-- Every instruction that has a body of its own, and every macro that has a second version, computes the same registers
and flags as the general one. -/
theorem shortcuts_agree (cpu : Cpu) :
    (∀ op y val, (y = .reg .a → val = cpu.a) → arithReg op y val cpu = arith op val cpu) ∧
    (∀ op val, arithImm op val cpu = arith op val cpu) ∧
    addHlHl cpu = Alu.addHl cpu .hl ∧ addHlSp cpu = Alu.addHl cpu .sp ∧
    (∀ r c, adcR8Portable cpu r c = adcR8 cpu r c) ∧ ∀ r c, sbcR8Portable cpu r c = sbcR8 cpu r c :=
  ⟨fun op y val h => arithReg_eq op y val h, fun op val => arithImm_eq op val, addHlHl_eq, addHlSp_eq,
    fun _ _ => adcR8Portable_eq, fun _ _ => sbcR8Portable_eq⟩

theorem shortcuts_fortyTwo : arithReg .adc (.reg .a) 0x42 fortyTwo = arith .adc 0x42 fortyTwo :=
  (shortcuts_agree fortyTwo).1 .adc (.reg .a) 0x42 fun _ => rfl

end Instr
end MonsterMesh.PeanutGb
