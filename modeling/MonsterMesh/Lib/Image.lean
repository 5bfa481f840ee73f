import Mathlib.Data.List.Basic
import Mathlib.Logic.Function.Basic

/-! Byte images: writes of consecutive bytes, big-endian fields, and what a change is confined to. -/

/-- A byte at every address. -/
abbrev Image := ℕ → UInt8

namespace Image

variable {s t u : Image} {a n x : ℕ} {R R' : ℕ → Prop}

/-- The `n` addresses from `a` on. -/
def Within (a n x : ℕ) : Prop := a ≤ x ∧ x < a + n

instance : Decidable (Within a n x) := inferInstanceAs (Decidable (_ ∧ _))

/-- The bytes at `a`, `a + 1`, … replaced. -/
def write (s : Image) (a : ℕ) (bytes : List UInt8) : Image :=
  fun x => if Within a bytes.length x then bytes.getD (x - a) 0 else s x

theorem write_off {bytes : List UInt8} (h : ¬ Within a bytes.length x) : s.write a bytes x = s x :=
  if_neg h

theorem write_at {l : List UInt8} {k : ℕ} (h : k < l.length) :
    s.write a l (a + k) = l.getD k 0 := by
  have hw : Within a l.length (a + k) := ⟨Nat.le_add_right a k, by omega⟩
  unfold write
  rw [if_pos hw, Nat.add_sub_cancel_left]

theorem write_byte (v : UInt8) : s.write a [v] a = v := by
  have h := write_at (s := s) (a := a) (l := [v]) (k := 0) (by simp)
  simpa using h

/-- The `n` bytes from `a` on. -/
def read (s : Image) (a n : ℕ) : List UInt8 := (List.range n).map fun k => s (a + k)

@[simp] theorem length_read : (s.read a n).length = n := by simp [read]

theorem getD_read {k : ℕ} (h : k < n) : (s.read a n).getD k 0 = s (a + k) := by
  simp [read, h]

/-! ### Big-endian fields -/

def read16 (s : Image) (a : ℕ) : ℕ := (s a).toNat * 256 + (s (a + 1)).toNat

def read24 (s : Image) (a : ℕ) : ℕ :=
  (s a).toNat * 65536 + (s (a + 1)).toNat * 256 + (s (a + 2)).toNat

def write16 (s : Image) (a v : ℕ) : Image := s.write a [UInt8.ofNat (v / 256), UInt8.ofNat v]

def write24 (s : Image) (a v : ℕ) : Image :=
  s.write a [UInt8.ofNat (v / 65536), UInt8.ofNat (v / 256), UInt8.ofNat v]

theorem read16_lt : s.read16 a < 65536 := by
  have h₀ := (s a).toNat_lt
  have h₁ := (s (a + 1)).toNat_lt
  unfold read16
  omega

theorem read24_lt : s.read24 a < 16777216 := by
  have h₀ := (s a).toNat_lt
  have h₁ := (s (a + 1)).toNat_lt
  have h₂ := (s (a + 2)).toNat_lt
  unfold read24
  omega

theorem read16_write16 {v : ℕ} (h : v < 65536) : (s.write16 a v).read16 a = v := by
  have h₀ := write_at (s := s) (a := a) (l := [UInt8.ofNat (v / 256), UInt8.ofNat v]) (k := 0)
    (by simp)
  have h₁ := write_at (s := s) (a := a) (l := [UInt8.ofNat (v / 256), UInt8.ofNat v]) (k := 1)
    (by simp)
  unfold read16 write16
  simp only [Nat.add_zero] at h₀
  rw [h₀, h₁]
  simp
  omega

theorem read24_write24 {v : ℕ} (h : v < 16777216) : (s.write24 a v).read24 a = v := by
  have hat := fun k => write_at (s := s) (a := a)
    (l := [UInt8.ofNat (v / 65536), UInt8.ofNat (v / 256), UInt8.ofNat v]) (k := k)
  have h₀ := hat 0 (by simp)
  unfold read24 write24
  simp only [Nat.add_zero] at h₀
  rw [h₀, hat 1 (by simp), hat 2 (by simp)]
  simp
  omega

/-- A field reads the same where the same bytes stand. -/
theorem read16_shift {b : ℕ} (h : ∀ j < 2, t (b + j) = s (a + j)) : t.read16 b = s.read16 a := by
  have h₀ : t b = s a := h 0 (by decide)
  unfold read16
  rw [h₀, h 1 (by decide)]

theorem read24_shift {b : ℕ} (h : ∀ j < 3, t (b + j) = s (a + j)) : t.read24 b = s.read24 a := by
  have h₀ : t b = s a := h 0 (by decide)
  unfold read24
  rw [h₀, h 1 (by decide), h 2 (by decide)]

theorem read16_congr (h : ∀ x, Within a 2 x → t x = s x) : t.read16 a = s.read16 a :=
  read16_shift fun j hj => h _ ⟨Nat.le_add_right a j, by omega⟩

theorem read24_congr (h : ∀ x, Within a 3 x → t x = s x) : t.read24 a = s.read24 a :=
  read24_shift fun j hj => h _ ⟨Nat.le_add_right a j, by omega⟩

/-- A field away from the bytes written reads as before. -/
theorem read16_write {b : ℕ} (bytes : List UInt8) (h : a + 2 ≤ b ∨ b + bytes.length ≤ a) :
    (s.write b bytes).read16 a = s.read16 a :=
  read16_congr fun x hx => write_off fun hw => by
    unfold Within at hx hw
    omega

theorem read24_write {b : ℕ} (bytes : List UInt8) (h : a + 3 ≤ b ∨ b + bytes.length ≤ a) :
    (s.write b bytes).read24 a = s.read24 a :=
  read24_congr fun x hx => write_off fun hw => by
    unfold Within at hx hw
    omega

theorem read16_write16_of_ne {b v : ℕ} (h : a + 2 ≤ b ∨ b + 2 ≤ a) :
    (s.write16 b v).read16 a = s.read16 a :=
  read16_write _ h

/-! ### Frames -/

/-- Outside the region `R` nothing has changed. -/
def SameOff (R : ℕ → Prop) (s t : Image) : Prop := ∀ x, ¬ R x → t x = s x

theorem SameOff.refl (R : ℕ → Prop) (s : Image) : SameOff R s s := fun _ _ => rfl

theorem SameOff.trans (h : SameOff R s t) (h' : SameOff R t u) : SameOff R s u :=
  fun x hx => (h' x hx).trans (h x hx)

theorem SameOff.mono (h : SameOff R s t) (hR : ∀ x, R x → R' x) : SameOff R' s t :=
  fun x hx => h x fun hr => hx (hR x hr)

theorem write_sameOff (bytes : List UInt8) (h : ∀ x, Within a bytes.length x → R x) :
    SameOff R s (s.write a bytes) :=
  fun x hx => write_off fun hw => hx (h x hw)

theorem write16_sameOff (v : ℕ) (h : ∀ x, Within a 2 x → R x) : SameOff R s (s.write16 a v) :=
  write_sameOff _ h

theorem write24_sameOff (v : ℕ) (h : ∀ x, Within a 3 x → R x) : SameOff R s (s.write24 a v) :=
  write_sameOff _ h

theorem foldl_sameOff {ι : Type} {f : Image → ι → Image} {l : List ι}
    (h : ∀ s, ∀ i ∈ l, SameOff R s (f s i)) (s : Image) : SameOff R s (l.foldl f s) := by
  induction l generalizing s with
  | nil => exact .refl R s
  | cons i l ih =>
    have hfirst := h s i (List.mem_cons_self ..)
    exact hfirst.trans (ih (fun s j hj => h s j (List.mem_cons_of_mem i hj)) (f s i))

/-- Inside the region `R` nothing has changed. -/
def SameOn (R : ℕ → Prop) (s t : Image) : Prop := ∀ x, R x → t x = s x

theorem SameOn.refl (R : ℕ → Prop) (s : Image) : SameOn R s s := fun _ _ => rfl

theorem SameOn.trans (h : SameOn R s t) (h' : SameOn R t u) : SameOn R s u :=
  fun x hx => (h' x hx).trans (h x hx)

theorem SameOff.sameOn (h : SameOff R s t) (hd : ∀ x, R' x → ¬ R x) : SameOn R' s t :=
  fun x hx => h x (hd x hx)

theorem SameOn.write (h : SameOn R s t) (a : ℕ) (bytes : List UInt8) :
    SameOn R (s.write a bytes) (t.write a bytes) := by
  intro x hx
  unfold Image.write
  split_ifs
  · rfl
  · exact h x hx

theorem SameOn.read16 (h : SameOn R s t) (hR : ∀ x, Within a 2 x → R x) :
    t.read16 a = s.read16 a :=
  read16_congr fun x hx => h x (hR x hx)

theorem SameOn.read24 (h : SameOn R s t) (hR : ∀ x, Within a 3 x → R x) :
    t.read24 a = s.read24 a :=
  read24_congr fun x hx => h x (hR x hx)

/-- Steps confined to disjoint regions: what the run leaves in a region is what that region's step
made of it, from an image that had not changed there. -/
theorem foldl_sameOn {ι : Type} {f : Image → ι → Image} {R : ι → ℕ → Prop}
    (hoff : ∀ s i, SameOff (R i) s (f s i)) {l : List ι} (hn : l.Nodup)
    (hdis : ∀ i ∈ l, ∀ j ∈ l, ∀ x, i ≠ j → R i x → ¬ R j x) {i : ι} (hi : i ∈ l) (s : Image) :
    ∃ u, SameOn (R i) s u ∧ SameOn (R i) (f u i) (l.foldl f s) := by
  induction l generalizing s with
  | nil => cases hi
  | cons j l ih =>
    have hother : ∀ s, ∀ k ∈ j :: l, k ≠ i → SameOn (R i) s (f s k) :=
      fun s k hk hne => (hoff s k).sameOn fun x hx => hdis i hi k hk x (Ne.symm hne) hx
    obtain ⟨hj, hn⟩ := List.nodup_cons.mp hn
    rcases List.mem_cons.mp hi with rfl | hil
    · refine ⟨s, .refl _ s, fun x hx => ?_⟩
      refine foldl_sameOff (R := fun x => ¬ R i x) (fun s k hk => ?_) (f s i) x (not_not.mpr hx)
      have hne : k ≠ i := fun h => hj (h ▸ hk)
      exact fun y hy => hother s k (List.mem_cons_of_mem i hk) hne y (not_not.mp hy)
    · have hne : j ≠ i := fun h => hj (h ▸ hil)
      obtain ⟨u, hu, hend⟩ := ih hn (fun i hi k hk =>
        hdis i (List.mem_cons_of_mem j hi) k (List.mem_cons_of_mem j hk)) hil (f s j)
      exact ⟨u, (hother s j (List.mem_cons_self ..) hne).trans hu, hend⟩

/-- Bytes copied over from another image. -/
theorem write_read (s t : Image) (a n x : ℕ) :
    s.write a (t.read a n) x = if Within a n x then t x else s x := by
  unfold write
  rw [length_read]
  split_ifs with h
  · obtain ⟨k, rfl⟩ := Nat.exists_eq_add_of_le h.1
    rw [Nat.add_sub_cancel_left, getD_read (by unfold Within at h; omega)]
  · rfl

/-! ### Sums of bytes -/

/-- The sum of the `n` bytes from `a` on, in one byte. -/
def sum (s : Image) (a n : ℕ) : UInt8 := ((List.range n).map fun k => s (a + k)).foldl (· + ·) 0

theorem sum_congr (h : ∀ x, Within a n x → t x = s x) : t.sum a n = s.sum a n := by
  unfold sum
  congr 1
  refine List.map_congr_left fun k hk => h _ ⟨Nat.le_add_right a k, ?_⟩
  have := List.mem_range.mp hk
  omega

end Image
