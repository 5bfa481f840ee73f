import Mathlib.Data.List.Basic
import MonsterMesh.Lib.Run
import MonsterMesh.Lib.Text

/-! Reads of a buffer that fault outside of it. -/
namespace Bounded

inductive Fault where
  | outside | endless
deriving DecidableEq

variable {buf : List UInt8} {i n : ℕ}

def byte (buf : List UInt8) (i : ℕ) : Except Fault UInt8 :=
  match buf[i]? with
  | some b => .ok b
  | none => .error .outside

/-- The `n` bytes from `i` on. -/
def slice (buf : List UInt8) (i n : ℕ) : Except Fault (List UInt8) :=
  if i + n ≤ buf.length then .ok ((buf.drop i).take n) else .error .outside

theorem byte_ok {b : UInt8} (h : buf[i]? = some b) : byte buf i = .ok b := by
  unfold byte
  rw [h]

theorem slice_ok (h : i + n ≤ buf.length) : slice buf i n = .ok ((buf.drop i).take n) := if_pos h

end Bounded

/-! Writes to a buffer that fault outside of it, and texts printed into the room that is left. -/
namespace Bounded

open Fallible Text

variable {buf l r bytes text : List UInt8} {b c : UInt8} {i n : ℕ}

/-- `buf[i] = b` -/
def store (buf : List UInt8) (i : ℕ) (b : UInt8) : Except Fault (List UInt8) :=
  if i < buf.length then .ok (buf.set i b) else .error .outside

/-- The bytes one after the other, from `i` on. -/
def storeAll (buf : List UInt8) (i : ℕ) : List UInt8 → Except Fault (List UInt8)
  | [] => .ok buf
  | b :: bytes => do
    let buf ← store buf i b
    storeAll buf (i + 1) bytes

/-- `snprintf(buf + i, n, ..)`: as much of the text as there is room for, and a terminator. -/
def snprintf (buf : List UInt8) (i n : ℕ) (text : Str) : Except Fault (List UInt8) :=
  if n = 0 then .ok buf else storeAll buf i (text.take (n - 1) ++ [0])

/-- What a C string in the buffer reads as. -/
def cstr (buf : List UInt8) : Str := buf.takeWhile (· ≠ 0)

theorem store_append : store (l ++ r) l.length b = if r = [] then .error .outside else .ok (l ++ b :: r.tail) := by
  unfold store
  rw [List.length_append]
  cases r with
  | nil => rw [if_neg (by rw [List.length_nil]; omega), if_pos rfl]
  | cons a r =>
    rw [if_pos (by rw [List.length_cons]; omega), if_neg (List.cons_ne_nil a r),
      List.set_append_right _ _ (Nat.le_refl _), Nat.sub_self]
    rfl

theorem storeAll_append (h : bytes.length ≤ r.length) :
    storeAll (l ++ r) l.length bytes = .ok (l ++ bytes ++ r.drop bytes.length) := by
  induction bytes generalizing l r with
  | nil => rw [List.append_nil]; rfl
  | cons b bytes ih =>
    rw [List.length_cons] at h
    have hr : r ≠ [] := by
      rintro rfl
      rw [List.length_nil] at h
      omega
    unfold storeAll
    rw [store_append, if_neg hr, bind_ok]
    have htail : bytes.length ≤ r.tail.length := by
      rw [List.length_tail]
      omega
    have hnext := ih (l := l ++ [b]) htail
    rw [List.length_append, List.length_singleton, List.append_assoc, List.singleton_append] at hnext
    rw [hnext, List.length_cons, ← List.drop_one, List.drop_drop, Nat.add_comm 1]
    simp only [List.append_assoc, List.cons_append, List.nil_append]

/-- A text that there is room for is printed whole. -/
theorem snprintf_whole (h : text.length < r.length) :
    snprintf (l ++ r) l.length r.length text = .ok (l ++ text ++ 0 :: r.drop (text.length + 1)) := by
  unfold snprintf
  rw [if_neg (by omega), List.take_of_length_le (by omega), storeAll_append]
  · rw [List.length_append, List.length_singleton]
    simp only [List.append_assoc, List.singleton_append]
  · rw [List.length_append, List.length_singleton]
    omega

/-- Printing never writes more than the room it was given. -/
theorem snprintf_ok (l r : List UInt8) (text : Str) :
    ∃ s, snprintf (l ++ r) l.length r.length text = .ok (l ++ s) ∧ s.length = r.length := by
  unfold snprintf
  split_ifs with h
  · exact ⟨r, rfl, rfl⟩
  · have hle : (text.take (r.length - 1) ++ [0]).length ≤ r.length := by
      rw [List.length_append, List.length_take, List.length_singleton]
      omega
    refine ⟨text.take (r.length - 1) ++ [0] ++ r.drop (text.take (r.length - 1) ++ [0]).length, ?_, ?_⟩
    · rw [storeAll_append hle]
      simp only [List.append_assoc]
    · rw [List.length_append, List.length_drop]
      omega

theorem cstr_append (h : 0 ∉ l) : cstr (l ++ 0 :: r) = l := by
  unfold cstr
  rw [List.takeWhile_append_of_pos]
  · rw [List.takeWhile_cons_of_neg (by decide), List.append_nil]
  · intro b hb
    exact decide_eq_true fun he => h (he ▸ hb)

/-! ### Texts printed one after the other -/

/-- A C string in a buffer of `n` bytes. -/
structure CString (n : ℕ) where
  bytes : Str
  fits : bytes.length < n
  terminated : 0 ∉ bytes
deriving DecidableEq

/-- A buffer with the index that the next byte goes to. -/
structure Printer where
  buf : List UInt8
  pos : ℕ
deriving DecidableEq

namespace Printer

variable {p : Printer} {out : Str}

def start (size : ℕ) : Printer := ⟨List.replicate size 0, 0⟩

/-- `buf[pos++] = c` -/
def put (p : Printer) (c : UInt8) : Except Fault Printer := do
  let buf ← store p.buf p.pos c
  .ok ⟨buf, p.pos + 1⟩

/-- `pos += snprintf(buf + pos, sizeof(buf) - pos, ..)`: what is added is the length of the whole text. -/
def print (p : Printer) (text : Str) : Except Fault Printer :=
  if p.pos ≤ p.buf.length then do
    let buf ← snprintf p.buf p.pos (p.buf.length - p.pos) text
    .ok ⟨buf, p.pos + text.length⟩
  else .error .outside

/-- The buffer begins with what was printed. -/
def Holds (p : Printer) (out : Str) : Prop := ∃ rest, p.buf = out ++ rest ∧ p.pos = out.length

theorem start_holds (size : ℕ) : (start size).Holds [] := ⟨_, rfl, rfl⟩

theorem put_holds (hp : p.Holds out) (hlt : out.length < p.buf.length) :
    ∃ q, p.put c = .ok q ∧ q.Holds (out ++ [c]) ∧ q.buf.length = p.buf.length := by
  obtain ⟨rest, hbuf, hpos⟩ := hp
  have hrest : rest ≠ [] := by
    rintro rfl
    rw [hbuf, List.append_nil] at hlt
    omega
  refine ⟨⟨out ++ c :: rest.tail, out.length + 1⟩, ?_, ⟨rest.tail, ?_, ?_⟩, ?_⟩
  · unfold put
    rw [hbuf, hpos, store_append, if_neg hrest]
    rfl
  · simp only [List.append_assoc, List.singleton_append]
  · rw [List.length_append, List.length_singleton]
  · rw [hbuf, List.length_append, List.length_append, List.length_cons, List.length_tail]
    have hpos := List.length_pos_iff.mpr hrest
    omega

/-- A text that there is room for is put down whole; a longer one takes the index to the end of the buffer and on. -/
theorem print_holds (hp : p.Holds out) (hle : out.length ≤ p.buf.length) (text : Str) :
    ∃ q, p.print text = .ok q ∧ q.buf.length = p.buf.length ∧
      (out.length + text.length < p.buf.length → q.Holds (out ++ text)) ∧ q.pos = out.length + text.length := by
  obtain ⟨rest, hbuf, hpos⟩ := hp
  have hlen : p.buf.length = out.length + rest.length := by rw [hbuf, List.length_append]
  have hroom : p.buf.length - p.pos = rest.length := by omega
  obtain ⟨s, hprint, hsame⟩ := snprintf_ok out rest text
  refine ⟨⟨out ++ s, out.length + text.length⟩, ?_, ?_, fun hlt => ?_, rfl⟩
  · unfold print
    rw [if_pos (by omega), hroom, hbuf, hpos, hprint, bind_ok]
  · rw [List.length_append]
    omega
  · have hwhole := snprintf_whole (l := out) (show text.length < rest.length by omega)
    exact ⟨0 :: rest.drop (text.length + 1), Except.ok.inj (hprint.symm.trans hwhole), (List.length_append ..).symm⟩

/-- Texts that there is room for, one after the other. -/
theorem foldlM_holds {texts : List Str} (hp : p.Holds out)
    (hlt : out.length + texts.flatten.length < p.buf.length) :
    ∃ q, texts.foldlM print p = .ok q ∧ q.Holds (out ++ texts.flatten) ∧ q.buf.length = p.buf.length := by
  induction texts generalizing p out with
  | nil => exact ⟨p, rfl, by rwa [List.flatten_nil, List.append_nil], rfl⟩
  | cons text texts ih =>
    rw [List.flatten_cons, List.length_append] at hlt
    obtain ⟨q, hprint, hlen, hholds, -⟩ := print_holds hp (by omega) text
    obtain ⟨q', hrun, hout, hlen'⟩ := ih (hholds (by omega)) (by rw [List.length_append]; omega)
    refine ⟨q', ?_, ?_, hlen'.trans hlen⟩
    · rw [List.foldlM_cons, hprint]
      exact hrun
    · rwa [List.flatten_cons, ← List.append_assoc]

/-- What a terminator at the index makes of the buffer. -/
theorem store_holds (hp : p.Holds out) (hlt : out.length < p.buf.length) (hout : 0 ∉ out) :
    cstr <$> store p.buf p.pos 0 = .ok out := by
  obtain ⟨rest, hbuf, hpos⟩ := hp
  have hrest : rest ≠ [] := by
    rintro rfl
    rw [hbuf, List.append_nil] at hlt
    omega
  rw [hbuf, hpos, store_append, if_neg hrest, map_ok, cstr_append hout]

end Printer
end Bounded
