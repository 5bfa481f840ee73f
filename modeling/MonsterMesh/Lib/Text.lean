import Mathlib.Data.Nat.Digits.Lemmas

/-! Text as bytes: words, numbers and prefixes, as the C library reads them. -/
namespace Text

/-- The bytes of a C string, up to its terminator. -/
abbrev Str := List UInt8

def isDigit (c : UInt8) : Bool := 48 ≤ c && c ≤ 57

/-- A blank between words: a space or a tab. -/
def isBlank (c : UInt8) : Bool := c = 32 || c = 9

/-- What `isspace` skips. -/
def isSpace (c : UInt8) : Bool := c = 32 || (9 ≤ c && c ≤ 13)

def toLower (c : UInt8) : UInt8 := if 65 ≤ c ∧ c ≤ 90 then c + 32 else c

def toUpper (c : UInt8) : UInt8 := if 97 ≤ c ∧ c ≤ 122 then c - 32 else c

/-- `strncasecmp(s, p, strlen(p)) == 0` -/
def hasPrefix (p s : Str) : Bool := (p.map toLower).isPrefixOf (s.map toLower)

/-- `strcasecmp(s, p) == 0` -/
def sameText (p s : Str) : Bool := p.map toLower = s.map toLower

def skipBlanks (s : Str) : Str := s.dropWhile isBlank

/-- What follows the first word and the blanks behind it. -/
def skipWord (s : Str) : Str := skipBlanks (s.dropWhile fun c => !isBlank c)

def number (s : Str) : ℕ := s.foldl (fun n c => n * 10 + (c.toNat - 48)) 0

/-- `atoi` -/
def atoi (s : Str) : ℤ :=
  match s.dropWhile isSpace with
  | 45 :: r => -(number (r.takeWhile isDigit) : ℤ)
  | 43 :: r => number (r.takeWhile isDigit)
  | r => number (r.takeWhile isDigit)

/-- `%u` -/
def decimal (n : ℕ) : Str :=
  if n = 0 then [48] else (Nat.digits 10 n).reverse.map fun d => 48 + UInt8.ofNat d

/-- The words between delimiters, as `strtok` hands them out. -/
def words (delim : UInt8 → Bool) (s : Str) : List Str :=
  (s.splitOnP delim).filter fun w => !w.isEmpty

/-! ### Numbers -/

variable {n : ℕ} {s r : Str} {delim : UInt8 → Bool}

theorem digit_toNat {d : ℕ} (h : d < 10) : (48 + UInt8.ofNat d).toNat = 48 + d := by
  rw [UInt8.toNat_add, UInt8.toNat_ofNat']
  have h₁ : (48 : UInt8).toNat = 48 := rfl
  omega

theorem isDigit_iff {c : UInt8} : isDigit c = true ↔ 48 ≤ c.toNat ∧ c.toNat ≤ 57 := by
  unfold isDigit
  rw [Bool.and_eq_true, decide_eq_true_eq, decide_eq_true_eq, UInt8.le_iff_toNat_le,
    UInt8.le_iff_toNat_le]
  rfl

/-- A number is written in digits, with no sign and no blank before it. -/
theorem isDigit_of_decimal {c : UInt8} (h : c ∈ decimal n) : isDigit c = true := by
  unfold decimal at h
  split at h
  · rw [List.mem_singleton.mp h]
    rfl
  · obtain ⟨d, hd, rfl⟩ := List.mem_map.mp h
    have hlt := Nat.digits_lt_base (by omega) (List.mem_reverse.mp hd)
    rw [isDigit_iff, digit_toNat hlt]
    omega

theorem decimal_ne_nil : decimal n ≠ [] := by
  unfold decimal
  split
  · exact List.cons_ne_nil _ _
  · rename_i h
    rw [ne_eq, List.map_eq_nil_iff, List.reverse_eq_nil_iff, Nat.digits_eq_nil_iff_eq_zero]
    exact h

/-- Reading the digits of a number, most significant first, gives it back. -/
theorem number_decimal : number (decimal n) = n := by
  unfold decimal
  split
  · rename_i h
    exact h.symm
  have hfold (l : List ℕ) (hl : ∀ d ∈ l, d < 10) :
      number (l.reverse.map fun d => 48 + UInt8.ofNat d) = Nat.ofDigits 10 l := by
    induction l with
    | nil => rfl
    | cons d l ih =>
      have hd := hl d (List.mem_cons_self ..)
      have ih := ih fun x hx => hl x (List.mem_cons_of_mem d hx)
      unfold number at ih ⊢
      rw [List.reverse_cons, List.map_append, List.foldl_append, ih, Nat.ofDigits_cons]
      change _ * 10 + ((48 + UInt8.ofNat d).toNat - 48) = _
      rw [digit_toNat hd]
      omega
  rw [hfold _ fun d hd => Nat.digits_lt_base (by omega) hd, Nat.ofDigits_digits]

theorem digit_ne {c : UInt8} (h : isDigit c = true) :
    isSpace c = false ∧ c ≠ 45 ∧ c ≠ 43 := by
  have hc := isDigit_iff.mp h
  refine ⟨?_, ?_, ?_⟩
  · unfold isSpace
    have h₁ : (32 : UInt8).toNat = 32 := rfl
    have h₂ : (13 : UInt8).toNat = 13 := rfl
    rw [Bool.or_eq_false_iff, Bool.and_eq_false_iff]
    refine ⟨decide_eq_false fun he => ?_, .inr (decide_eq_false fun hle => ?_)⟩
    · rw [he] at hc
      omega
    · have hle := UInt8.le_iff_toNat_le.mp hle
      omega
  · rintro rfl
    exact absurd hc.1 (by decide)
  · rintro rfl
    exact absurd hc.1 (by decide)

/-- A number that something else than a digit ends is read back. -/
theorem atoi_decimal (h : ∀ c, r.head? = some c → isDigit c = false) :
    atoi (decimal n ++ r) = n := by
  obtain ⟨c, l, hl⟩ := List.exists_cons_of_ne_nil (decimal_ne_nil (n := n))
  have hall : ∀ x ∈ decimal n, isDigit x = true := fun x hx => isDigit_of_decimal hx
  obtain ⟨hspace, hminus, hplus⟩ := digit_ne (hall c (hl ▸ List.mem_cons_self ..))
  have htake : (decimal n ++ r).takeWhile isDigit = decimal n := by
    rw [List.takeWhile_append_of_pos hall]
    cases r with
    | nil => simp
    | cons x r => rw [List.takeWhile_cons_of_neg (by simp [h x rfl]), List.append_nil]
  have hdrop : (decimal n ++ r).dropWhile isSpace = decimal n ++ r := by
    rw [hl, List.cons_append, List.dropWhile_cons_of_neg (by simp [hspace])]
  unfold atoi
  rw [hdrop]
  split
  · rename_i x hx
    rw [hl, List.cons_append, List.cons.injEq] at hx
    exact absurd hx.1 hminus
  · rename_i x hx
    rw [hl, List.cons_append, List.cons.injEq] at hx
    exact absurd hx.1 hplus
  · rw [htake, number_decimal]

/-! ### Words -/

theorem words_single (h : ∀ c ∈ s, delim c = false) (hs : s ≠ []) : words delim s = [s] := by
  unfold words
  rw [List.splitOnP_eq_singleton h, List.filter_cons_of_pos (by simpa using hs), List.filter_nil]

theorem words_cons {d : UInt8} (h : ∀ c ∈ s, delim c = false) (hs : s ≠ []) (hd : delim d = true) :
    words delim (s ++ d :: r) = s :: words delim r := by
  unfold words
  rw [List.splitOnP_append_cons_of_forall_mem h d hd, List.filter_cons_of_pos (by simpa using hs)]

/-- Words that a delimiter joins are found again. -/
theorem words_joined {d : UInt8} {l : List Str} (hd : delim d = true) (hs : s ≠ [])
    (h : ∀ c ∈ s, delim c = false) (hl : ∀ w ∈ l, w ≠ [] ∧ ∀ c ∈ w, delim c = false) :
    words delim (s ++ l.flatMap (d :: ·)) = s :: l := by
  induction l generalizing s with
  | nil =>
    rw [List.flatMap_nil, List.append_nil]
    exact words_single h hs
  | cons w l ih =>
    obtain ⟨hw, hc⟩ := hl w (List.mem_cons_self ..)
    rw [List.flatMap_cons, List.cons_append, words_cons h hs hd,
      ih hw hc fun x hx => hl x (List.mem_cons_of_mem w hx)]

theorem dropWhile_of_none {p : UInt8 → Bool} (h : ∀ c ∈ s, p c = false) : s.dropWhile p = s := by
  cases s with
  | nil => rfl
  | cons c s => rw [List.dropWhile_cons_of_neg (by simp [h c (List.mem_cons_self ..)])]

/-- A word ends where a byte comes that does not belong to it. -/
theorem takeWhile_word {p : UInt8 → Bool} {d : UInt8} (h : ∀ c ∈ s, p c = true) (hd : p d = false) :
    (s ++ d :: r).takeWhile p = s ∧ (s ++ d :: r).dropWhile p = d :: r := by
  rw [List.takeWhile_append_of_pos h, List.dropWhile_append_of_pos h,
    List.takeWhile_cons_of_neg (by simp [hd]), List.dropWhile_cons_of_neg (by simp [hd]),
    List.append_nil]
  exact ⟨rfl, rfl⟩

theorem decimal_length {k : ℕ} (hk : 0 < k) (h : n < 10 ^ k) : (decimal n).length ≤ k := by
  unfold decimal
  split
  · exact hk
  · rw [List.length_map, List.length_reverse]
    exact (Nat.digits_length_le_iff (by omega) n).mpr h

end Text

/-! Texts written as literals, and the search for one text in another. -/
namespace Text

/-- The bytes of a literal. -/
def lit (s : String) : Str := s.toList.flatMap String.utf8EncodeChar

/-- `strstr(s, key) != NULL` -/
def contains (s key : Str) : Bool := s.tails.any fun t => key.isPrefixOf t

end Text
