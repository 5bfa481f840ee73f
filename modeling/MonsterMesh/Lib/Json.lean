import Mathlib.Algebra.GroupWithZero.Nat
import MonsterMesh.Lib.Utf8

/-! JSON texts without blanks: strings, whole numbers and objects of them. -/
namespace Json

open Text

inductive Value where
  | str (s : Str)
  | num (n : ℕ)
  | obj (fields : List (Str × Value))

variable {s r v raw key : Str} {b c : UInt8} {n m : ℕ}

/-! ### Strings -/

/-- What stands for itself in a string. -/
def isPlain (b : UInt8) : Bool := 32 ≤ b && b ≠ 34 && b ≠ 92

/-- The text up to the quote that ends a string, and what follows the quote. -/
def body : Str → Option (Str × Str)
  | [] => none
  | b :: r =>
    if b = 34 then some ([], r)
    else if b = 92 then
      match r with
      | [] => none
      | c :: r => (body r).map fun p => (b :: c :: p.1, p.2)
    else if b < 32 then none
    else (body r).map fun p => (b :: p.1, p.2)

def hexDigit (b : UInt8) : Option ℕ :=
  if isDigit b then some (b.toNat - 48)
  else if 97 ≤ toLower b ∧ toLower b ≤ 102 then some ((toLower b).toNat - 87)
  else none

def hex4 : Str → Option (ℕ × Str)
  | a :: b :: c :: d :: r => do
    let a ← hexDigit a
    let b ← hexDigit b
    let c ← hexDigit c
    let d ← hexDigit d
    some (((a * 16 + b) * 16 + c) * 16 + d, r)
  | _ => none

def encode (n : ℕ) : Str := String.utf8EncodeChar (Char.ofNat n)

/-- The character of an escape with `u`; one outside of the basic plane takes two of them. -/
def unicode (r : Str) : Option (Str × Str) := do
  let (u, r) ← hex4 r
  if 0xD800 ≤ u ∧ u < 0xDC00 then
    match r with
    | 92 :: 117 :: r =>
      let (w, r) ← hex4 r
      if 0xDC00 ≤ w ∧ w < 0xE000 then some (encode (0x10000 + (u - 0xD800) * 0x400 + (w - 0xDC00)), r) else none
    | _ => none
  else if 0xDC00 ≤ u ∧ u < 0xE000 then none
  else some (encode u, r)

/-- The character of a one-letter escape. -/
def letter (b : UInt8) : Option UInt8 :=
  if b = 34 ∨ b = 92 ∨ b = 47 then some b
  else if b = 98 then some 8
  else if b = 102 then some 12
  else if b = 110 then some 10
  else if b = 114 then some 13
  else if b = 116 then some 9
  else none

/-- What the text in a string stands for. -/
def unescape : ℕ → Str → Option Str
  | _, [] => some []
  | 0, _ => none
  | n + 1, b :: r =>
    if b = 92 then
      match r with
      | [] => none
      | c :: r =>
        if c = 117 then (unicode r).bind fun p => (unescape n p.2).map (p.1 ++ ·)
        else (letter c).bind fun c => (unescape n r).map (c :: ·)
    else (unescape n r).map (b :: ·)

def string (s : Str) : Option (Str × Str) :=
  (body s).bind fun p => (unescape p.1.length p.1).map (·, p.2)

/-! ### Values -/

/-- The digits of a number, which has no leading zero. -/
def number (s : Str) : Option (ℕ × Str) :=
  let ds := s.takeWhile isDigit
  if ds = [] ∨ (ds.head? = some 48 ∧ 1 < ds.length) then none else some (Text.number ds, s.dropWhile isDigit)

mutual
def value : ℕ → Str → Option (Value × Str)
  | 0, _ => none
  | _ + 1, [] => none
  | n + 1, b :: r =>
    if b = 34 then (string r).map fun p => (.str p.1, p.2)
    else if b = 123 then
      if r.head? = some 125 then some (.obj [], r.tail) else (fields n r).map fun p => (.obj p.1, p.2)
    else (number (b :: r)).map fun p => (.num p.1, p.2)
/-- The fields of an object, up to the brace that closes it. -/
def fields : ℕ → Str → Option (List (Str × Value) × Str)
  | 0, _ => none
  | _ + 1, [] => none
  | n + 1, b :: r =>
    if b = 34 then
      (string r).bind fun k =>
        if k.2.head? = some 58 then
          (value n k.2.tail).bind fun p =>
            if p.2.head? = some 44 then (fields n p.2.tail).map fun q => ((k.1, p.1) :: q.1, q.2)
            else if p.2.head? = some 125 then some ([(k.1, p.1)], p.2.tail)
            else none
        else none
    else none
end

/-- The value of a text that is one value. -/
def parse (s : Str) : Option Value :=
  match value (s.length + 1) s with
  | some (v, []) => some v
  | _ => none

/-! ### Escaped strings -/

/-- A byte that a string may hold. -/
def isVisible (b : UInt8) : Bool := 32 ≤ b

/-- A text as it is written in a string: quotes and backslashes after a backslash. -/
def escape (v : Str) : Str := v.flatMap fun b => if b = 34 ∨ b = 92 then [92, b] else [b]

theorem escape_cons (b : UInt8) (v : Str) :
    escape (b :: v) = (if b = 34 ∨ b = 92 then [92, b] else [b]) ++ escape v := List.flatMap_cons ..

theorem escape_plain (h : ∀ b ∈ v, isPlain b = true) : escape v = v := by
  induction v with
  | nil => rfl
  | cons b v ih =>
    have hb := h b (List.mem_cons_self ..)
    unfold isPlain at hb
    simp only [Bool.and_eq_true, decide_eq_true_eq] at hb
    rw [escape_cons, if_neg (by tauto), ih fun x hx => h x (List.mem_cons_of_mem b hx)]
    rfl

theorem isPlain_of (hb : isVisible b = true) (hs : ¬ (b = 34 ∨ b = 92)) : isPlain b = true := by
  rw [not_or] at hs
  unfold isPlain
  simp only [Bool.and_eq_true, decide_eq_true_eq]
  exact ⟨⟨of_decide_eq_true hb, hs.1⟩, hs.2⟩

theorem body_quote : body (34 :: r) = some ([], r) := by
  unfold body
  rfl

theorem body_pair : body (92 :: c :: r) = (body r).map fun p => (92 :: c :: p.1, p.2) := by
  rw [body.eq_def]
  rfl

theorem body_plain (h : isPlain b = true) : body (b :: r) = (body r).map fun p => (b :: p.1, p.2) := by
  unfold isPlain at h
  simp only [Bool.and_eq_true, decide_eq_true_eq] at h
  rw [body.eq_def]
  dsimp only
  rw [if_neg h.1.2, if_neg h.2, if_neg (UInt8.not_lt.mpr h.1.1)]

theorem unescape_plain (h : b ≠ 92) : unescape (n + 1) (b :: r) = (unescape n r).map (b :: ·) := by
  rw [unescape.eq_def]
  exact if_neg h

theorem body_escape (h : ∀ b ∈ v, isVisible b = true) : body (escape v ++ 34 :: r) = some (escape v, r) := by
  induction v with
  | nil => exact body_quote
  | cons b v ih =>
    have ih := ih fun x hx => h x (List.mem_cons_of_mem b hx)
    have hb := h b (List.mem_cons_self ..)
    rw [escape_cons]
    by_cases hs : b = 34 ∨ b = 92
    · rw [if_pos hs]
      change body (92 :: b :: (escape v ++ 34 :: r)) = _
      rw [body_pair, ih]
      rfl
    · rw [if_neg hs, List.singleton_append, List.cons_append, body_plain (isPlain_of hb hs), ih]
      rfl

theorem unescape_escape (h : (escape v).length ≤ n) : unescape n (escape v) = some v := by
  induction v generalizing n with
  | nil =>
    cases n <;> rfl
  | cons b v ih =>
    rw [escape_cons, List.length_append] at h
    rw [escape_cons]
    by_cases hs : b = 34 ∨ b = 92
    · rw [if_pos hs] at h ⊢
      obtain ⟨n, rfl⟩ : ∃ k, n = k + 1 := ⟨n - 1, by
        rw [List.length_cons] at h
        omega⟩
      have hne : b ≠ 117 := by
        rintro rfl
        exact absurd hs (by decide)
      have hletter : letter b = some b := if_pos (by tauto)
      change (if b = 117 then _ else (letter b).bind fun c => (unescape n (escape v)).map (c :: ·)) = _
      rw [if_neg hne, hletter, ih (by rw [List.length_cons, List.length_cons, List.length_nil] at h; omega)]
      rfl
    · rw [if_neg hs] at h ⊢
      obtain ⟨n, rfl⟩ : ∃ k, n = k + 1 := ⟨n - 1, by
        rw [List.length_cons] at h
        omega⟩
      rw [not_or] at hs
      rw [List.singleton_append, unescape_plain hs.2, ih (by
        rw [List.length_cons, List.length_nil] at h
        omega)]
      rfl

/-- An escaped text is read back. -/
theorem string_escape (h : ∀ b ∈ v, isVisible b = true) : string (escape v ++ 34 :: r) = some (v, r) := by
  unfold string
  rw [body_escape h, Option.bind_some, unescape_escape (Nat.le_refl _)]
  rfl

/-! ### Texts that were not escaped -/

/-- What a string is made of: a quote stands only behind a backslash, a control character too. -/
theorem body_spec (h : body s = some (raw, r)) : s = raw ++ 34 :: r ∧
    (92 ∉ raw → ∀ b ∈ raw, isPlain b = true) ∧ ∀ l t, raw = l ++ 34 :: t → ∃ l', l = l' ++ [92] := by
  induction hn : s.length using Nat.strong_induction_on generalizing s raw with
  | _ n ih =>
    cases s with
    | nil => cases h
    | cons b s =>
      rw [List.length_cons] at hn
      unfold body at h
      split_ifs at h with hq hb hc
      · obtain ⟨rfl, rfl⟩ := Prod.mk.inj (Option.some.inj h)
        rw [hq]
        refine ⟨rfl, fun _ x hx => absurd hx List.not_mem_nil, fun l t ht => absurd ht (by simp)⟩
      · cases s with
        | nil => cases h
        | cons c s =>
          obtain ⟨⟨raw', r'⟩, hbody, heq⟩ := Option.map_eq_some_iff.mp h
          obtain ⟨rfl, rfl⟩ := Prod.mk.inj heq
          rw [List.length_cons] at hn
          obtain ⟨hs, -, hquote⟩ := ih _ (by omega) hbody rfl
          refine ⟨by rw [hs]; rfl, fun hno => absurd (hb ▸ List.mem_cons_self ..) hno, fun l t ht => ?_⟩
          match l with
          | [] =>
            rw [List.nil_append] at ht
            exact absurd (List.cons.inj ht).1 (hb ▸ by decide)
          | [x] => exact ⟨[], by rw [← (List.cons.inj ht).1, hb]; rfl⟩
          | x :: y :: l =>
            obtain ⟨l', hl'⟩ := hquote l t (List.cons.inj (List.cons.inj ht).2).2
            exact ⟨x :: y :: l', by rw [hl']; rfl⟩
      · obtain ⟨⟨raw', r'⟩, hbody, heq⟩ := Option.map_eq_some_iff.mp h
        obtain ⟨rfl, rfl⟩ := Prod.mk.inj heq
        obtain ⟨hs, hplain, hquote⟩ := ih _ (by omega) hbody rfl
        refine ⟨by rw [hs]; rfl, fun hno x hx => ?_, fun l t ht => ?_⟩
        · rcases List.mem_cons.mp hx with rfl | hx
          · have hle := UInt8.not_lt.mp hc
            unfold isPlain
            simp only [Bool.and_eq_true, decide_eq_true_eq]
            exact ⟨⟨hle, hq⟩, hb⟩
          · exact hplain (fun hm => hno (List.mem_cons_of_mem b hm)) x hx
        · cases l with
          | nil =>
            rw [List.nil_append] at ht
            exact absurd (List.cons.inj ht).1 hq
          | cons x l =>
            obtain ⟨l', hl'⟩ := hquote l t (List.cons.inj ht).2
            exact ⟨x :: l', by rw [hl']; rfl⟩

theorem encode_length (n : ℕ) : (encode n).length ≤ 4 := by
  unfold encode
  rw [String.length_utf8EncodeChar]
  exact Char.utf8Size_le_four _

/-- Four digits in front of the rest. -/
theorem hex4_spec {u : ℕ} (h : hex4 s = some (u, r)) :
    ∃ a b c d, s = a :: b :: c :: d :: r ∧ 34 ∉ [a, b, c, d] := by
  unfold hex4 at h
  split at h
  · rename_i a b c d r'
    obtain ⟨a', ha, h⟩ := Option.bind_eq_some_iff.mp h
    obtain ⟨b', hb, h⟩ := Option.bind_eq_some_iff.mp h
    obtain ⟨c', hc, h⟩ := Option.bind_eq_some_iff.mp h
    obtain ⟨d', hd, h⟩ := Option.bind_eq_some_iff.mp h
    obtain ⟨-, rfl⟩ := Prod.mk.inj (Option.some.inj h)
    have hno : ∀ x u, hexDigit x = some u → 34 ≠ x := by
      rintro x u hx rfl
      cases hx
    refine ⟨a, b, c, d, rfl, ?_⟩
    simp only [List.mem_cons, List.not_mem_nil, or_false, not_or]
    exact ⟨hno a a' ha, hno b b' hb, hno c c' hc, hno d d' hd⟩
  · cases h

theorem unicode_spec {u : Str} (h : unicode s = some (u, r)) :
    ∃ t, s = t ++ r ∧ u.length ≤ t.length ∧ 34 ∉ t := by
  unfold unicode at h
  obtain ⟨⟨x, s₁⟩, hx, hchar⟩ := Option.bind_eq_some_iff.mp h
  clear h
  obtain ⟨a, b, c, d, rfl, hno⟩ := hex4_spec hx
  dsimp only at hchar
  split_ifs at hchar with hhigh hlow
  · split at hchar
    · obtain ⟨⟨w, s₃⟩, hw, hlow⟩ := Option.bind_eq_some_iff.mp hchar
      clear hchar
      obtain ⟨a', b', c', d', rfl, hno'⟩ := hex4_spec hw
      dsimp only at hlow
      split_ifs at hlow
      obtain ⟨rfl, rfl⟩ := Prod.mk.inj (Option.some.inj hlow)
      refine ⟨[a, b, c, d, 92, 117, a', b', c', d'], rfl, ?_, ?_⟩
      · exact (encode_length _).trans (by simp)
      · simp only [List.mem_cons, List.not_mem_nil, or_false, not_or] at hno hno' ⊢
        exact ⟨hno.1, hno.2.1, hno.2.2.1, hno.2.2.2, by decide, by decide, hno'⟩
    · cases hchar
  · obtain ⟨rfl, rfl⟩ := Prod.mk.inj (Option.some.inj hchar)
    exact ⟨[a, b, c, d], rfl, encode_length _, hno⟩

/-- One step of reading a string: a byte by itself, or an escape, which is longer than what it stands for. -/
theorem unescape_cases (h : unescape (n + 1) (b :: s) = some v) :
    (b ≠ 92 ∧ ∃ w, unescape n s = some w ∧ v = b :: w) ∨
    b = 92 ∧ ∃ t r u w, s = t ++ r ∧ unescape n r = some w ∧ v = u ++ w ∧ u.length ≤ t.length ∧
      (34 ∉ t ∨ t = [34] ∧ u = [34]) := by
  by_cases hb : b = 92
  · refine .inr ⟨hb, ?_⟩
    rw [unescape.eq_def] at h
    dsimp only at h
    rw [if_pos hb] at h
    cases s with
    | nil => cases h
    | cons c s =>
      dsimp only at h
      split_ifs at h with hc
      · obtain ⟨⟨u, r⟩, hu, h⟩ := Option.bind_eq_some_iff.mp h
        obtain ⟨w, hw, rfl⟩ := Option.map_eq_some_iff.mp h
        obtain ⟨t, rfl, hlen, hno⟩ := unicode_spec hu
        refine ⟨c :: t, r, u, w, rfl, hw, rfl, hlen.trans (Nat.le_succ _), .inl fun hm => ?_⟩
        rcases List.mem_cons.mp hm with he | hm
        · rw [hc] at he
          exact absurd he (by decide)
        · exact hno hm
      · obtain ⟨x, hx, h⟩ := Option.bind_eq_some_iff.mp h
        obtain ⟨w, hw, rfl⟩ := Option.map_eq_some_iff.mp h
        refine ⟨[c], s, [x], w, rfl, hw, rfl, Nat.le_refl _, ?_⟩
        by_cases hq : c = 34
        · rw [hq] at hx ⊢
          obtain rfl := Option.some.inj hx
          exact .inr ⟨rfl, rfl⟩
        · exact .inl fun hm => hq (List.mem_singleton.mp hm).symm
  · rw [unescape_plain hb] at h
    obtain ⟨w, hw, rfl⟩ := Option.map_eq_some_iff.mp h
    exact .inl ⟨hb, w, hw, rfl⟩

/-- What a string stands for is not longer than the string, and shorter if there is an escape. -/
theorem unescape_length (h : unescape n s = some v) : v.length ≤ s.length ∧ (v.length = s.length → 92 ∉ s) := by
  induction n generalizing s v with
  | zero =>
    cases s with
    | nil => exact ⟨by rw [← Option.some.inj h], fun _ => List.not_mem_nil⟩
    | cons b s => cases h
  | succ n ih =>
    cases s with
    | nil => exact ⟨by rw [← Option.some.inj h], fun _ => List.not_mem_nil⟩
    | cons b s =>
      rcases unescape_cases h with ⟨hb, w, hw, rfl⟩ | ⟨-, t, r, u, w, rfl, hw, rfl, hlen, -⟩
      · obtain ⟨hle, hno⟩ := ih hw
        rw [List.length_cons, List.length_cons]
        refine ⟨by omega, fun he hm => ?_⟩
        rcases List.mem_cons.mp hm with hm | hm
        · exact hb hm.symm
        · exact hno (by omega) hm
      · obtain ⟨hle, -⟩ := ih hw
        rw [List.length_append, List.length_cons, List.length_append]
        exact ⟨by omega, fun he => by omega⟩

theorem unescape_one (h : unescape n [c] = some v) (hc : c ≠ 92) : v = [c] := by
  cases n with
  | zero => cases h
  | succ n =>
    rw [unescape_plain hc] at h
    obtain ⟨x, hx, rfl⟩ := Option.map_eq_some_iff.mp h
    cases n <;> exact congrArg (c :: ·) (Option.some.inj hx).symm

/-- A byte behind a quote is not part of an escape. -/
theorem unescape_last (h : unescape n (s ++ [34, c]) = some v) (hc : c ≠ 92) : ∃ v', v = v' ++ [c] := by
  induction n generalizing s v with
  | zero => cases s <;> cases h
  | succ n ih =>
    cases s with
    | nil =>
      rw [List.nil_append, unescape_plain (by decide)] at h
      obtain ⟨w, hw, rfl⟩ := Option.map_eq_some_iff.mp h
      rw [unescape_one hw hc]
      exact ⟨[34], rfl⟩
    | cons b s =>
      rcases unescape_cases h with ⟨-, w, hw, rfl⟩ | ⟨-, t, r, u, w, hs, hw, rfl, -, hquote⟩
      · obtain ⟨v', rfl⟩ := ih hw
        exact ⟨b :: v', rfl⟩
      · -- the escape ends before the quote, or the quote is what it stands for
        rcases List.append_eq_append_iff.mp hs with ⟨t', ht, hrest⟩ | ⟨t', hs', hrest⟩
        · cases t' with
          | nil =>
            rw [List.nil_append] at hrest
            obtain ⟨v', rfl⟩ := ih (s := []) (hrest ▸ hw)
            exact ⟨u ++ v', (List.append_assoc ..).symm⟩
          | cons x t' =>
            obtain ⟨rfl, hr⟩ := List.cons.inj hrest
            have hmem : 34 ∈ t := by
              rw [ht]
              exact List.mem_append_right s (List.mem_cons_self ..)
            obtain ⟨hone, rfl⟩ := hquote.resolve_left (not_not_intro hmem)
            have hlen := congrArg List.length (ht.symm.trans hone)
            rw [List.length_append, List.length_cons, List.length_singleton] at hlen
            obtain rfl := List.eq_nil_of_length_eq_zero (show t'.length = 0 by omega)
            change [c] = r at hr
            rw [← hr] at hw
            rw [unescape_one hw hc]
            exact ⟨[34], rfl⟩
        · obtain ⟨v', rfl⟩ := ih (hrest ▸ hw)
          exact ⟨u ++ v', (List.append_assoc ..).symm⟩

/-- A text between quotes that was not escaped and that a reader finds there as it is: there was nothing to escape.
Behind the closing quote comes one byte, and another quote if there is any. -/
theorem string_bare (h : string (v ++ 34 :: c :: r) = some (v, s)) (hc : c ≠ 34 ∧ c ≠ 92)
    (hr : 34 ∈ r → r.head? = some 34) : ∀ b ∈ v, isPlain b = true := by
  obtain ⟨⟨raw, s'⟩, hbody, hread⟩ := Option.bind_eq_some_iff.mp h
  obtain ⟨v', hv, heq⟩ := Option.map_eq_some_iff.mp hread
  obtain ⟨rfl, rfl⟩ := Prod.mk.inj heq
  obtain ⟨hsplit, hplain, hquote⟩ := body_spec hbody
  obtain ⟨hle, hno⟩ := unescape_length hv
  dsimp only at hle hno hv
  rcases List.append_eq_append_iff.mp hsplit with ⟨t, ht, hrest⟩ | ⟨t, ht, hrest⟩
  · cases t with
    | nil =>
      rw [List.append_nil] at ht
      rw [ht] at hno hplain
      exact hplain (hno rfl)
    | cons x t =>
      exfalso
      obtain ⟨rfl, hafter⟩ := List.cons.inj hrest
      clear hrest
      cases t with
      | nil => exact hc.1 (List.cons.inj hafter).1
      | cons y t =>
        obtain ⟨rfl, hrest⟩ := List.cons.inj hafter
        have hmem : 34 ∈ r := by
          rw [hrest]
          exact List.mem_append_right t (List.mem_cons_self ..)
        have hhead := hr hmem
        cases t with
        | nil =>
          obtain ⟨w, hw⟩ := unescape_last (ht ▸ hv) hc.2
          obtain ⟨l, hl⟩ := hquote v' [c] ht
          have hlast := hw.symm.trans hl
          exact hc.2 (List.cons.inj (List.append_inj_right' hlast rfl)).1
        | cons z t =>
          rw [hrest] at hhead
          obtain rfl := Option.some.inj hhead
          obtain ⟨l, hl⟩ := hquote (v' ++ [34, c]) t (by rw [ht, List.append_assoc]; rfl)
          have hlast : v' ++ [34] ++ [c] = l ++ [92] := by rw [← hl, List.append_assoc]; rfl
          exact hc.2 (List.cons.inj (List.append_inj_right' hlast rfl)).1
  · have hlen := congrArg List.length ht
    rw [List.length_append] at hlen
    obtain rfl := List.eq_nil_of_length_eq_zero (show t.length = 0 by omega)
    rw [List.append_nil] at ht
    rw [← ht] at hno hplain
    exact hplain (hno rfl)

/-- A text that was cut is not ended by a quote. -/
theorem body_cut (h : ∀ b ∈ v, isVisible b = true) (k : ℕ) : body ((escape v).take k) = none := by
  induction v generalizing k with
  | nil => cases k <;> rfl
  | cons b v ih =>
    have ih := ih fun x hx => h x (List.mem_cons_of_mem b hx)
    have hb := h b (List.mem_cons_self ..)
    rw [escape_cons]
    by_cases hs : b = 34 ∨ b = 92
    · rw [if_pos hs]
      change body ((92 :: b :: escape v).take k) = none
      match k with
      | 0 => rfl
      | 1 => rfl
      | k + 2 =>
        rw [List.take_succ_cons, List.take_succ_cons, body_pair, ih]
        rfl
    · rw [if_neg hs, List.singleton_append]
      cases k with
      | zero => rfl
      | succ k =>
        rw [List.take_succ_cons, body_plain (isPlain_of hb hs), ih]
        rfl

/-! ### Values and their texts -/

/-- The text is read as the value, before anything but a digit. -/
def Parses (t : Str) (x : Value) : Prop :=
  ∀ n ≥ t.length, ∀ c r, isDigit c = false → value (n + 1) (t ++ c :: r) = some (x, c :: r)

theorem parses_str (h : ∀ b ∈ v, isVisible b = true) : Parses (34 :: (escape v ++ [34])) (.str v) := by
  intro n _ c r _
  rw [List.cons_append, List.append_assoc, List.singleton_append, value, if_pos rfl, string_escape h]
  rfl

theorem decimal_head (hn : n ≠ 0) : (decimal n).head? ≠ some 48 := by
  have hne : Nat.digits 10 n ≠ [] := Nat.digits_ne_nil_iff_ne_zero.mpr hn
  have hlast := Nat.getLast_digit_ne_zero 10 hn
  have hlt := Nat.digits_lt_base (m := n) (by omega : 1 < 10) (List.getLast_mem hne)
  unfold decimal
  rw [if_neg hn, List.head?_map, List.head?_reverse, List.getLast?_eq_some_getLast hne, Option.map_some]
  intro he
  have hbyte := congrArg UInt8.toNat (Option.some.inj he)
  rw [digit_toNat hlt] at hbyte
  change _ = 48 at hbyte
  omega

theorem number_decimal (hc : isDigit c = false) : number (decimal n ++ c :: r) = some (n, c :: r) := by
  have hall : ∀ x ∈ decimal n, isDigit x = true := fun x hx => isDigit_of_decimal hx
  have htake : (decimal n ++ c :: r).takeWhile isDigit = decimal n := by
    rw [List.takeWhile_append_of_pos hall, List.takeWhile_cons_of_neg (by rw [hc]; exact Bool.false_ne_true),
      List.append_nil]
  have hdrop : (decimal n ++ c :: r).dropWhile isDigit = c :: r := by
    rw [List.dropWhile_append_of_pos hall, List.dropWhile_cons_of_neg (by rw [hc]; exact Bool.false_ne_true)]
  unfold number
  rw [htake, hdrop, if_neg, Text.number_decimal]
  rintro (h | ⟨hhead, hlen⟩)
  · exact decimal_ne_nil h
  · by_cases hn : n = 0
    · rw [hn] at hlen
      exact absurd hlen (by decide)
    · exact decimal_head hn hhead

theorem parses_num : Parses (decimal n) (.num n) := by
  intro m _ c r hc
  obtain ⟨b, t, ht⟩ := List.exists_cons_of_ne_nil (decimal_ne_nil (n := n))
  have hb : isDigit b = true := isDigit_of_decimal (n := n) (ht ▸ List.mem_cons_self ..)
  have hquote : b ≠ 34 := by
    rintro rfl
    exact absurd hb (by decide)
  have hbrace : b ≠ 123 := by
    rintro rfl
    exact absurd hb (by decide)
  have hnum := number_decimal (n := n) (r := r) hc
  rw [ht, List.cons_append] at hnum ⊢
  rw [value, if_neg hquote, if_neg hbrace, hnum]
  rfl

/-- A field: its key, the text of its value, and the value. -/
structure Member where
  key : Str
  text : Str
  val : Value

def Member.Sound (f : Member) : Prop := (∀ b ∈ f.key, isVisible b = true) ∧ Parses f.text f.val

/-- The text of a key, up to the value. -/
def keyText (key : Str) : Str := 34 :: (escape key ++ [34, 58])

/-- The text of some fields, up to the brace that closes the object. -/
def fieldsText : List Member → Str
  | [] => []
  | [f] => keyText f.key ++ f.text ++ [125]
  | f :: fs => keyText f.key ++ f.text ++ 44 :: fieldsText fs

def objText (fs : List Member) : Str := 123 :: fieldsText fs

def objValue (fs : List Member) : Value := .obj (fs.map fun f => (f.key, f.val))

/-- What comes after the value of a field. -/
def afterField (n : ℕ) (key : Str) (p : Value × Str) : Option (List (Str × Value) × Str) :=
  if p.2.head? = some 44 then (fields n p.2.tail).map fun q => ((key, p.1) :: q.1, q.2)
  else if p.2.head? = some 125 then some ([(key, p.1)], p.2.tail)
  else none

theorem fields_key (hkey : ∀ b ∈ key, isVisible b = true) :
    fields (n + 1) (keyText key ++ s) = (value n s).bind (afterField n key) := by
  unfold keyText
  rw [List.cons_append, List.append_assoc]
  change fields (n + 1) (34 :: (escape key ++ 34 :: 58 :: s)) = _
  rw [fields, if_pos rfl, string_escape hkey, Option.bind_some]
  exact if_pos rfl

/-- A field that is read, and that another one follows. -/
theorem fields_more {f : Member} (hf : f.Sound) (hn : f.text.length < n) :
    fields (n + 1) (keyText f.key ++ f.text ++ 44 :: s) = (fields n s).map fun q => ((f.key, f.val) :: q.1, q.2) := by
  obtain ⟨n, rfl⟩ : ∃ k, n = k + 1 := ⟨n - 1, by omega⟩
  rw [List.append_assoc, fields_key hf.1, hf.2 n (by omega) 44 s rfl, Option.bind_some]
  exact if_pos rfl

theorem fields_last {f : Member} (hf : f.Sound) (hn : f.text.length < n) :
    fields (n + 1) (keyText f.key ++ f.text ++ 125 :: s) = some ([(f.key, f.val)], s) := by
  obtain ⟨n, rfl⟩ : ∃ k, n = k + 1 := ⟨n - 1, by omega⟩
  rw [List.append_assoc, fields_key hf.1, hf.2 n (by omega) 125 s rfl, Option.bind_some]
  rfl

theorem keyText_length (key : Str) : 3 ≤ (keyText key).length := by
  unfold keyText
  rw [List.length_cons, List.length_append]
  change 3 ≤ _ + 2 + 1
  omega

theorem fields_text {fs : List Member} (hne : fs ≠ []) (hfs : ∀ f ∈ fs, f.Sound) (hn : (fieldsText fs).length ≤ n) :
    fields n (fieldsText fs ++ s) = some (fs.map fun f => (f.key, f.val), s) := by
  induction fs generalizing n with
  | nil => exact absurd rfl hne
  | cons f fs ih =>
    have hf := hfs f (List.mem_cons_self ..)
    have hkey := keyText_length f.key
    cases fs with
    | nil =>
      rw [fieldsText, List.length_append, List.length_append] at hn
      obtain ⟨n, rfl⟩ : ∃ k, n = k + 1 := ⟨n - 1, by omega⟩
      rw [fieldsText, List.append_assoc]
      exact fields_last hf (by omega)
    | cons g fs =>
      rw [fieldsText, List.length_append, List.length_append, List.length_cons] at hn
      · obtain ⟨n, rfl⟩ : ∃ k, n = k + 1 := ⟨n - 1, by omega⟩
        rw [fieldsText, List.append_assoc, List.cons_append, fields_more hf (by omega),
          ih (List.cons_ne_nil g fs) (fun x hx => hfs x (List.mem_cons_of_mem f hx)) (by omega)]
        · rfl
        · exact List.cons_ne_nil g fs
      · exact List.cons_ne_nil g fs

theorem fieldsText_head {fs : List Member} (hne : fs ≠ []) : ∃ t, fieldsText fs ++ s = 34 :: t := by
  cases fs with
  | nil => exact absurd rfl hne
  | cons f fs =>
    cases fs with
    | nil => exact ⟨_, rfl⟩
    | cons g fs => exact ⟨_, rfl⟩

/-- The bytes of fields in an object, with what follows each of them. -/
def fieldsLength (fs : List Member) : ℕ := (fs.map fun f => (keyText f.key).length + f.text.length + 1).sum

theorem fieldsLength_append (fs gs : List Member) : fieldsLength (fs ++ gs) = fieldsLength fs + fieldsLength gs := by
  unfold fieldsLength
  rw [List.map_append, List.sum_append]

theorem objText_length {fs : List Member} (hne : fs ≠ []) : (objText fs).length = 1 + fieldsLength fs := by
  unfold objText fieldsLength
  rw [List.length_cons, Nat.add_comm 1, Nat.add_right_cancel_iff]
  induction fs with
  | nil => exact absurd rfl hne
  | cons f fs ih =>
    rw [List.map_cons, List.sum_cons]
    cases fs with
    | nil =>
      rw [fieldsText, List.length_append, List.length_append]
      rfl
    | cons g fs =>
      rw [fieldsText, List.length_append, List.length_append, List.length_cons, ih (List.cons_ne_nil g fs)]
      · omega
      · exact List.cons_ne_nil g fs

/-- The text of some fields that others follow. -/
def manyText (fs : List Member) : Str := fs.flatMap fun f => keyText f.key ++ f.text ++ [44]

theorem manyText_cons (f : Member) (fs : List Member) :
    manyText (f :: fs) = keyText f.key ++ f.text ++ 44 :: manyText fs := by
  unfold manyText
  rw [List.flatMap_cons, List.append_assoc, List.singleton_append]

theorem fieldsText_append (fs : List Member) {gs : List Member} (hgs : gs ≠ []) :
    fieldsText (fs ++ gs) = manyText fs ++ fieldsText gs := by
  induction fs with
  | nil => rfl
  | cons f fs ih =>
    have hne : fs ++ gs ≠ [] := List.append_ne_nil_of_right_ne_nil fs hgs
    rw [List.cons_append, fieldsText, ih, manyText_cons]
    · simp only [List.append_assoc, List.cons_append]
    · exact hne

/-- An object is closed by a brace in the place of a comma. -/
theorem objText_close {fs : List Member} (hne : fs ≠ []) :
    ∃ out, objText fs = out ++ [125] ∧ 123 :: manyText fs = out ++ [44] := by
  obtain ⟨fs, f, rfl⟩ := (List.eq_nil_or_concat' fs).resolve_left hne
  refine ⟨123 :: (manyText fs ++ (keyText f.key ++ f.text)), ?_, ?_⟩
  · unfold objText
    rw [fieldsText_append fs (List.cons_ne_nil f []), fieldsText]
    simp only [List.append_assoc, List.cons_append]
  · unfold manyText
    rw [List.flatMap_append, List.flatMap_singleton]
    simp only [List.append_assoc, List.cons_append]

theorem visible_escape (h : ∀ b ∈ v, isVisible b = true) : ∀ b ∈ escape v, isVisible b = true := by
  intro b hb
  obtain ⟨x, hx, hmem⟩ := List.mem_flatMap.mp hb
  split_ifs at hmem
  · rcases List.mem_cons.mp hmem with rfl | hmem
    · rfl
    · rw [List.mem_singleton.mp hmem]
      exact h x hx
  · rw [List.mem_singleton.mp hmem]
    exact h x hx

/-- Fields whose keys and values have no control characters are printed without any. -/
theorem visible_manyText {fs : List Member}
    (hfs : ∀ f ∈ fs, (∀ b ∈ f.key, isVisible b = true) ∧ ∀ b ∈ f.text, isVisible b = true) :
    ∀ b ∈ manyText fs, isVisible b = true := by
  intro b hb
  obtain ⟨f, hf, hmem⟩ := List.mem_flatMap.mp hb
  obtain ⟨hkey, htext⟩ := hfs f hf
  unfold keyText at hmem
  simp only [List.mem_append, List.mem_cons, List.not_mem_nil, or_false] at hmem
  rcases hmem with ((rfl | hmem | rfl | rfl) | hmem) | rfl
  · rfl
  · exact visible_escape hkey b hmem
  · rfl
  · rfl
  · exact htext b hmem
  · rfl

/-- Fields that are read, and what follows them. -/
theorem fields_many {fs : List Member} (hfs : ∀ f ∈ fs, f.Sound) (hn : (manyText fs).length ≤ n + fs.length) :
    fields (n + fs.length) (manyText fs ++ s) =
      (fields n s).map fun q => (fs.map (fun f => (f.key, f.val)) ++ q.1, q.2) := by
  induction fs with
  | nil =>
    change fields n s = _
    cases fields n s <;> rfl
  | cons f fs ih =>
    have hkey := keyText_length f.key
    rw [manyText_cons, List.length_append, List.length_append, List.length_cons, List.length_cons] at hn
    rw [manyText_cons, List.append_assoc, List.cons_append, List.length_cons, ← Nat.add_assoc,
      fields_more (hfs f (List.mem_cons_self ..)) (by omega),
      ih (fun x hx => hfs x (List.mem_cons_of_mem f hx)) (by omega), Option.map_map]
    rfl

/-- The value of the first field that is read. -/
theorem fields_head {gs : List (Str × Value)} {x : Str × Value} (hkey : ∀ b ∈ key, isVisible b = true)
    (h : fields (n + 1) (keyText key ++ s) = some (x :: gs, r)) : ∃ t, value n s = some (x.2, t) := by
  rw [fields_key hkey] at h
  obtain ⟨⟨y, t⟩, hvalue, hafter⟩ := Option.bind_eq_some_iff.mp h
  unfold afterField at hafter
  have hx : x.2 = y := by
    split_ifs at hafter
    · obtain ⟨q, -, hq⟩ := Option.map_eq_some_iff.mp hafter
      rw [← (List.cons.inj (Prod.mk.inj hq).1).1]
    · rw [← (List.cons.inj (Prod.mk.inj (Option.some.inj hafter)).1).1]
  rw [hx]
  exact ⟨t, hvalue⟩

theorem manyText_head {fs : List Member} (hne : fs ≠ []) : ∃ t, manyText fs ++ s = 34 :: t := by
  obtain ⟨f, fs, rfl⟩ := List.exists_cons_of_ne_nil hne
  rw [manyText_cons]
  exact ⟨_, rfl⟩

/-- The value of an object is that of its fields. -/
theorem value_open (h : ∃ t, s = 34 :: t) :
    value (n + 1) (123 :: s) = (fields n s).map fun p => (.obj p.1, p.2) := by
  obtain ⟨t, rfl⟩ := h
  rw [value, if_neg (by decide), if_pos rfl]
  exact if_neg (by rw [List.head?_cons]; decide)

theorem value_obj {fs : List Member} (hne : fs ≠ []) (hfs : ∀ f ∈ fs, f.Sound) (hn : (objText fs).length ≤ n) :
    value (n + 1) (objText fs ++ s) = some (objValue fs, s) := by
  unfold objText at hn ⊢
  rw [List.length_cons] at hn
  rw [List.cons_append, value_open (fieldsText_head hne), fields_text hne hfs (by omega)]
  rfl

theorem parses_obj {fs : List Member} (hne : fs ≠ []) (hfs : ∀ f ∈ fs, f.Sound) :
    Parses (objText fs) (objValue fs) := fun _ hn _ _ _ => value_obj hne hfs hn

theorem parse_obj {fs : List Member} (hne : fs ≠ []) (hfs : ∀ f ∈ fs, f.Sound) :
    parse (objText fs) = some (objValue fs) := by
  have h := value_obj (s := []) hne hfs (Nat.le_refl _)
  rw [List.append_nil] at h
  unfold parse
  rw [h]

theorem parse_eq_some {x : Value} : parse s = some x ↔ value (s.length + 1) s = some (x, []) := by
  unfold parse
  split
  · rename_i y hy
    rw [hy]
    simp
  · rename_i hno
    constructor
    · intro h
      cases h
    · intro h
      exact absurd h (hno x)

theorem manyText_length (fs : List Member) : (manyText fs).length = fieldsLength fs := by
  induction fs with
  | nil => rfl
  | cons f fs ih =>
    rw [manyText_cons, List.length_append, List.length_append, List.length_cons, ih]
    change _ = (keyText f.key).length + f.text.length + 1 + fieldsLength fs
    omega

theorem length_le_manyText (fs : List Member) : fs.length ≤ (manyText fs).length := by
  induction fs with
  | nil => exact Nat.le_refl _
  | cons f fs ih =>
    rw [manyText_cons, List.length_append, List.length_cons, List.length_cons]
    omega

/-- An object whose first fields are read has a value only if the fields after them have. -/
theorem parse_many {fs : List Member} {gs : List (Str × Value)} (hne : fs ≠ []) (hfs : ∀ f ∈ fs, f.Sound)
    (h : parse (123 :: (manyText fs ++ s)) = some (.obj gs)) :
    ∃ n q, n + fs.length = (manyText fs).length + s.length + 1 ∧ fields n s = some (q, []) ∧
      gs = fs.map (fun f => (f.key, f.val)) ++ q := by
  have hlong := length_le_manyText fs
  obtain ⟨n, hn⟩ : ∃ n, n + fs.length = (manyText fs).length + s.length + 1 :=
    ⟨(manyText fs).length + s.length + 1 - fs.length, by omega⟩
  have hlen : (123 :: (manyText fs ++ s)).length = n + fs.length := by
    rw [hn, List.length_cons, List.length_append]
  rw [parse_eq_some, value_open (manyText_head hne), hlen, fields_many hfs (by omega), Option.map_map] at h
  obtain ⟨⟨q, r⟩, hq, heq⟩ := Option.map_eq_some_iff.mp h
  obtain ⟨hgs, rfl⟩ := Prod.mk.inj heq
  exact ⟨n, q, hn, hq, (Value.obj.inj hgs).symm⟩

/-- A string that was cut before the brace behind it. -/
theorem fields_cut {k : ℕ} (hv : ∀ b ∈ v, isVisible b = true) (hkey : ∀ b ∈ key, isVisible b = true)
    (hk : k < (escape v).length + 2) : fields n (keyText key ++ 34 :: (escape v ++ [34, 125]).take k) = none := by
  cases n with
  | zero => rfl
  | succ n =>
    rw [fields_key hkey]
    cases n with
    | zero => rfl
    | succ n =>
      rw [value, if_pos rfl]
      by_cases hcut : k ≤ (escape v).length
      · rw [List.take_append_of_le_length hcut]
        unfold string
        rw [body_cut hv]
        rfl
      · obtain rfl : k = (escape v).length + 1 := by omega
        rw [List.take_length_add_append]
        change ((string (escape v ++ [34])).map _).bind _ = none
        rw [string_escape hv]
        rfl

/-! ### Characters -/

theorem utf8_escape : Utf8 (escape v) ↔ Utf8 v := by
  have hcut : ∀ l : Str, Utf8 (l ++ escape v) ↔ Utf8 (l ++ v) := by
    induction v with
    | nil => exact fun l => Iff.rfl
    | cons b v ih =>
      intro l
      rw [escape_cons]
      by_cases hs : b = 34 ∨ b = 92
      · have hb : isAscii b = true := by
          rcases hs with rfl | rfl <;> rfl
        have ih := ih []
        rw [List.nil_append, List.nil_append] at ih
        have hone := utf8_split (l := []) (r := escape v) hb
        rw [List.nil_append] at hone
        rw [if_pos hs, utf8_split hb]
        change Utf8 (l ++ 92 :: b :: escape v) ↔ _
        rw [utf8_split rfl, hone, ih]
        exact ⟨fun h => ⟨h.1, h.2.2⟩, fun h => ⟨h.1, utf8_nil, h.2⟩⟩
      · rw [if_neg hs]
        have ih := ih (l ++ [b])
        rw [List.append_assoc, List.append_assoc] at ih
        exact ih
  exact hcut []

theorem ascii_decimal (n : ℕ) : (decimal n).all isAscii = true := by
  rw [List.all_eq_true]
  intro b hb
  have hdigit := isDigit_iff.mp (isDigit_of_decimal hb)
  refine decide_eq_true (UInt8.lt_iff_toNat_lt.mpr ?_)
  change _ < 128
  omega

theorem ascii_escape (h : v.all isAscii = true) : (escape v).all isAscii = true := by
  induction v with
  | nil => rfl
  | cons b v ih =>
    rw [List.all_cons, Bool.and_eq_true] at h
    rw [escape_cons, List.all_append, Bool.and_eq_true]
    refine ⟨?_, ih h.2⟩
    split_ifs
    · rw [List.all_cons, List.all_cons, h.1]
      rfl
    · rw [List.all_cons, h.1]
      rfl

theorem ascii_keyText (h : key.all isAscii = true) : (keyText key).all isAscii = true := by
  unfold keyText
  rw [List.all_cons, List.all_append, ascii_escape h]
  rfl

/-- With keys in ASCII, an object is made of whole characters if the texts of its values are. -/
theorem utf8_obj {fs : List Member} (hfs : ∀ f ∈ fs, f.key.all isAscii = true) :
    Utf8 (objText fs) ↔ ∀ f ∈ fs, Utf8 f.text := by
  have hopen : Utf8 (objText fs) ↔ Utf8 (fieldsText fs) := utf8_after (s := [123]) rfl
  rw [hopen]
  induction fs with
  | nil => exact ⟨fun _ f hf => absurd hf List.not_mem_nil, fun _ => utf8_nil⟩
  | cons f fs ih =>
    have hkey := ascii_keyText (hfs f (List.mem_cons_self ..))
    cases fs with
    | nil =>
      rw [fieldsText, List.append_assoc, utf8_after hkey, utf8_split rfl, List.forall_mem_singleton]
      exact ⟨fun h => h.1, fun h => ⟨h, utf8_nil⟩⟩
    | cons g fs =>
      have hrest : Utf8 (fieldsText (g :: fs)) ↔ ∀ x ∈ g :: fs, Utf8 x.text :=
        ih (fun x hx => hfs x (List.mem_cons_of_mem f hx)) (utf8_after (s := [123]) rfl)
      rw [fieldsText, List.append_assoc, utf8_after hkey, utf8_split rfl, hrest]
      · exact (List.forall_mem_cons (p := fun x : Member => Utf8 x.text)).symm
      · exact List.cons_ne_nil g fs

theorem utf8_text : Utf8 (34 :: (escape v ++ [34])) ↔ Utf8 v := by
  have hopen : Utf8 (34 :: (escape v ++ [34])) ↔ Utf8 (escape v ++ [34]) := utf8_after (s := [34]) rfl
  rw [hopen, utf8_split rfl, utf8_escape]
  exact ⟨fun h => h.1, fun h => ⟨h, utf8_nil⟩⟩

end Json
