import MonsterMesh.Lib.Text

/-! Texts whose bytes are whole characters. -/
namespace Text

variable {l r s : Str} {b : UInt8}

/-- The bytes are those of some characters. -/
def Utf8 (s : Str) : Prop := ∃ cs : List Char, cs.flatMap String.utf8EncodeChar = s

/-- A byte that is a character by itself. -/
def isAscii (b : UInt8) : Bool := b < 128

theorem utf8_nil : Utf8 [] := ⟨[], rfl⟩

theorem utf8_append (hl : Utf8 l) (hr : Utf8 r) : Utf8 (l ++ r) := by
  obtain ⟨cs, rfl⟩ := hl
  obtain ⟨ds, rfl⟩ := hr
  exact ⟨cs ++ ds, List.flatMap_append⟩

theorem or_high (x : UInt8) {k : UInt8} (hk : 128 ≤ k) : 128 ≤ x ||| k := by
  rw [UInt8.le_iff_toNat_le] at hk ⊢
  rw [UInt8.toNat_or]
  exact hk.trans Nat.right_le_or

/-- The bytes of a character that has more than one are no characters by themselves. -/
theorem encode_high (c : Char) (hb : b ∈ String.utf8EncodeChar c) : String.utf8EncodeChar c = [b] ∨ 128 ≤ b := by
  have hhigh : ∀ k : UInt8, 128 ≤ k → ∀ x, b = x ||| k → 128 ≤ b := by
    rintro k hk x rfl
    exact or_high x hk
  rcases c.utf8Size_eq with h | h | h | h
  · rw [String.utf8EncodeChar_eq_singleton h, List.mem_singleton] at hb
    rw [String.utf8EncodeChar_eq_singleton h, hb]
    exact .inl rfl
  · rw [String.utf8EncodeChar_eq_cons_cons h] at hb
    simp only [List.mem_cons, List.not_mem_nil, or_false] at hb
    rcases hb with hb | hb
    · exact .inr (hhigh 0xc0 (by decide) _ hb)
    · exact .inr (hhigh 0x80 (by decide) _ hb)
  · rw [String.utf8EncodeChar_eq_cons_cons_cons h] at hb
    simp only [List.mem_cons, List.not_mem_nil, or_false] at hb
    rcases hb with hb | hb | hb
    · exact .inr (hhigh 0xe0 (by decide) _ hb)
    all_goals exact .inr (hhigh 0x80 (by decide) _ hb)
  · rw [String.utf8EncodeChar_eq_cons_cons_cons_cons h] at hb
    simp only [List.mem_cons, List.not_mem_nil, or_false] at hb
    rcases hb with hb | hb | hb | hb
    · exact .inr (hhigh 0xf0 (by decide) _ hb)
    all_goals exact .inr (hhigh 0x80 (by decide) _ hb)

theorem utf8_ascii (hb : isAscii b = true) : Utf8 [b] := by
  have hlt : b.toNat < 128 := UInt8.lt_iff_toNat_lt.mp (of_decide_eq_true hb)
  refine ⟨[Char.ofUInt8 b], ?_⟩
  have hsize : (Char.ofUInt8 b).utf8Size = 1 := by
    rw [Char.utf8Size_eq_one_iff, UInt32.le_iff_toNat_le]
    change b.toUInt32.toNat ≤ 127
    rw [UInt8.toNat_toUInt32]
    omega
  rw [List.flatMap_cons, List.flatMap_nil, List.append_nil, String.utf8EncodeChar_eq_singleton hsize]
  exact congrArg (fun x => [x]) (UInt8.toUInt8_toUInt32 b)

/-- An ASCII character cuts a text between whole characters. -/
theorem utf8_split (hb : isAscii b = true) : Utf8 (l ++ b :: r) ↔ Utf8 l ∧ Utf8 r := by
  constructor
  · rintro ⟨cs, hcs⟩
    induction cs generalizing l with
    | nil => exact absurd hcs.symm (by simp)
    | cons c cs ih =>
      rw [List.flatMap_cons] at hcs
      rcases List.append_eq_append_iff.mp hcs with ⟨l', hl, hrest⟩ | ⟨m, hc, hrest⟩
      · obtain ⟨hl', hr⟩ := ih hrest
        rw [hl]
        exact ⟨utf8_append ⟨[c], by rw [List.flatMap_cons, List.flatMap_nil, List.append_nil]⟩ hl', hr⟩
      · cases m with
        | nil =>
          rw [List.append_nil] at hc
          obtain ⟨-, hr⟩ := ih (l := []) hrest.symm
          exact ⟨⟨[c], by rw [List.flatMap_cons, List.flatMap_nil, List.append_nil, hc]⟩, hr⟩
        | cons b' m =>
          obtain ⟨rfl, hr⟩ := List.cons.inj hrest
          have hmem : b ∈ String.utf8EncodeChar c := by
            rw [hc]
            exact List.mem_append_right l (List.mem_cons_self ..)
          rcases encode_high c hmem with hone | hhigh
          · rw [hone] at hc
            have hlen := congrArg List.length hc
            rw [List.length_append, List.length_cons, List.length_cons, List.length_nil] at hlen
            obtain rfl := List.eq_nil_of_length_eq_zero (show l.length = 0 by omega)
            obtain rfl := List.eq_nil_of_length_eq_zero (show m.length = 0 by omega)
            exact ⟨utf8_nil, cs, hr.symm⟩
          · have hlt := UInt8.lt_iff_toNat_lt.mp (of_decide_eq_true hb)
            have hle := UInt8.le_iff_toNat_le.mp hhigh
            omega
  · rintro ⟨hl, hr⟩
    have hone := utf8_append (utf8_ascii hb) hr
    exact utf8_append hl hone

/-- ASCII text around a text leaves it to the text whether it is made of whole characters. -/
theorem utf8_after (hs : s.all isAscii = true) : Utf8 (s ++ r) ↔ Utf8 r := by
  induction s with
  | nil => rfl
  | cons b s ih =>
    rw [List.all_cons, Bool.and_eq_true] at hs
    have hsplit := utf8_split (l := []) (r := s ++ r) hs.1
    rw [List.nil_append] at hsplit
    rw [List.cons_append, hsplit, ih hs.2]
    exact ⟨fun h => h.2, fun h => ⟨utf8_nil, h⟩⟩

end Text
