import Mathlib.Algebra.GroupWithZero.Nat
import Mathlib.Algebra.Order.Group.Nat
import Mathlib.Data.List.Infix
import Mathlib.Tactic.Common

/-! Messages framed by two marker bytes and a length, and a reader that finds them again in any
bytes: it keeps what it has read of a frame and starts over where no frame can be. -/

namespace Framing

/-- Two different marker bytes and the longest payload, whose length fits two bytes. -/
structure Wire where
  (start1 start2 : UInt8)
  cap : ℕ
  ne : start1 ≠ start2
  small : cap < 65536

/-- The length field of a frame. -/
def lengthOf (hi lo : UInt8) : ℕ := hi.toNat * 256 + lo.toNat

namespace Wire

variable {w : Wire}

def header (w : Wire) (n : ℕ) : List UInt8 :=
  [w.start1, w.start2, UInt8.ofNat (n / 256), UInt8.ofNat n]

def frame (w : Wire) (p : List UInt8) : List UInt8 := w.header p.length ++ p

/-- What the reader does with the next byte, after the bytes `pre` of a frame: the bytes it keeps and
the payload it hands out. -/
def scan (w : Wire) (pre : List UInt8) (c : UInt8) : List UInt8 × Option (List UInt8) :=
  match pre with
  | [] => (if c = w.start1 then [c] else [], none)
  | [a] => (if c = w.start2 then [a, c] else [], none)
  | [a, b] => ([a, b, c], none)
  | [a, b, hi] =>
    if w.cap < lengthOf hi c then ([], none)
    else if lengthOf hi c = 0 then ([], some [])
    else ([a, b, hi, c], none)
  | a :: b :: hi :: lo :: p =>
    if lengthOf hi lo ≤ p.length + 1 then ([], some (p ++ [c])) else (a :: b :: hi :: lo :: (p ++ [c]), none)

/-- The bytes kept and the payloads handed out after all of the bytes. -/
def scans (w : Wire) : List UInt8 → List UInt8 → List UInt8 × List (List UInt8)
  | pre, [] => (pre, [])
  | pre, c :: cs =>
    let r := w.scan pre c
    ((w.scans r.1 cs).1, r.2.toList ++ (w.scans r.1 cs).2)

theorem scans_append (pre as bs : List UInt8) :
    w.scans pre (as ++ bs) =
      ((w.scans (w.scans pre as).1 bs).1, (w.scans pre as).2 ++ (w.scans (w.scans pre as).1 bs).2) := by
  induction as generalizing pre with
  | nil => rfl
  | cons c as ih => simp only [List.cons_append, scans, ih, List.append_assoc]

theorem scans_concat (pre as : List UInt8) (c : UInt8) :
    (w.scans pre (as ++ [c])).1 = (w.scan (w.scans pre as).1 c).1 := by
  rw [scans_append]
  rfl

/-! ### A frame is read -/

theorem lengthOf_header {n : ℕ} (h : n < 65536) :
    lengthOf (UInt8.ofNat (n / 256)) (UInt8.ofNat n) = n := by
  unfold lengthOf
  rw [UInt8.toNat_ofNat', UInt8.toNat_ofNat']
  omega

/-- Inside a frame the reader keeps the bytes until the last one has come. -/
theorem scans_payload {a b hi lo : UInt8} {p q : List UInt8}
    (h : lengthOf hi lo = p.length + q.length) (hq : q ≠ []) :
    w.scans (a :: b :: hi :: lo :: p) q = ([], [p ++ q]) := by
  induction q generalizing p with
  | nil => exact absurd rfl hq
  | cons c q ih =>
    rw [List.length_cons] at h
    rcases q with _ | ⟨d, q⟩
    · simp only [scans, scan]
      rw [if_pos (by rw [List.length_nil] at h; omega)]
      rfl
    · have hlong : ¬ lengthOf hi lo ≤ p.length + 1 := by
        rw [List.length_cons] at h
        omega
      have hsize : lengthOf hi lo = (p ++ [c]).length + (d :: q).length := by
        rw [List.length_append, List.length_singleton]
        omega
      have hrest := ih hsize (List.cons_ne_nil _ _)
      rw [scans, scan, if_neg hlong]
      dsimp only
      rw [hrest]
      simp

theorem scans_frame {p : List UInt8} (h : p.length ≤ w.cap) : w.scans [] (w.frame p) = ([], [p]) := by
  have hsize := lengthOf_header (Nat.lt_of_le_of_lt h w.small)
  unfold frame header
  simp only [List.cons_append, List.nil_append, scans, scan, if_true]
  rw [hsize, if_neg (Nat.not_lt.mpr h)]
  rcases p with _ | ⟨c, p⟩
  · rfl
  · rw [if_neg (by simp)]
    dsimp only
    rw [scans_payload (p := []) (by rw [hsize]; simp) (List.cons_ne_nil _ _)]
    rfl

theorem scans_frames {ps : List (List UInt8)} (h : ∀ p ∈ ps, p.length ≤ w.cap) :
    w.scans [] (ps.flatMap w.frame) = ([], ps) := by
  induction ps with
  | nil => rfl
  | cons p ps ih =>
    rw [List.flatMap_cons, scans_append, scans_frame (h p (List.mem_cons_self ..)),
      ih fun q hq => h q (List.mem_cons_of_mem p hq)]
    rfl

/-! ### What is kept is part of a frame -/

/-- A frame that is not complete. -/
def Partial (w : Wire) : List UInt8 → Prop
  | _ :: _ :: hi :: lo :: p => p.length < lengthOf hi lo ∧ lengthOf hi lo ≤ w.cap
  | _ => True

theorem Partial.length_lt {pre : List UInt8} (h : w.Partial pre) : pre.length < w.cap + 4 := by
  match pre, h with
  | [], _ => exact Nat.succ_pos _
  | [_], _ => simp
  | [_, _], _ => simp
  | [_, _, _], _ => simp
  | _ :: _ :: hi :: lo :: p, h =>
    have hlt := h.1
    have hle := h.2
    simp only [List.length_cons]
    omega

theorem scan_partial {pre : List UInt8} (h : w.Partial pre) (c : UInt8) :
    w.Partial (w.scan pre c).1 := by
  match pre, h with
  | [], _ =>
    unfold scan
    dsimp only
    split_ifs <;> trivial
  | [_], _ =>
    unfold scan
    dsimp only
    split_ifs <;> trivial
  | [_, _], _ => trivial
  | [_, _, hi], _ =>
    unfold scan
    dsimp only
    split_ifs with hbig hzero
    · trivial
    · trivial
    · exact ⟨Nat.pos_of_ne_zero hzero, Nat.not_lt.mp hbig⟩
  | _ :: _ :: hi :: lo :: p, h =>
    unfold scan
    dsimp only
    split_ifs with hall
    · trivial
    · refine ⟨?_, h.2⟩
      rw [List.length_append, List.length_singleton]
      omega

/-! ### Bytes in front of the frames -/

/-- How many bytes at the end are the first marker. -/
def trailing (w : Wire) (g : List UInt8) : ℕ := (g.reverse.takeWhile (· = w.start1)).length

theorem trailing_concat (g : List UInt8) (c : UInt8) :
    w.trailing (g ++ [c]) = if c = w.start1 then w.trailing g + 1 else 0 := by
  unfold trailing
  rw [List.reverse_append, List.reverse_singleton, List.singleton_append, List.takeWhile_cons]
  split_ifs with h h' h'
  · rfl
  · simp_all
  · simp_all
  · rfl

/-- Where the two markers are nowhere next to each other, the reader keeps at most the first: it does
so after an odd number of them. -/
theorem scans_garbage {g : List UInt8} (h : ¬ [w.start1, w.start2] <:+: g) :
    w.scans [] g = (if w.trailing g % 2 = 1 then [w.start1] else [], []) := by
  induction g using List.reverseRecOn with
  | nil => rfl
  | append_singleton g c ih =>
    have hg : ¬ [w.start1, w.start2] <:+: g := fun hi => h (hi.trans (List.infix_append' [] g [c]))
    rw [scans_append, ih hg, trailing_concat]
    by_cases hc : c = w.start1
    · subst hc
      rw [if_pos rfl]
      by_cases hodd : w.trailing g % 2 = 1
      · rw [if_pos hodd, if_neg (by omega)]
        simp [scans, scan, w.ne]
      · rw [if_neg hodd, if_pos (by omega)]
        simp [scans, scan]
    · rw [if_neg hc]
      by_cases hodd : w.trailing g % 2 = 1
      · have hne : c ≠ w.start2 := by
          intro he
          subst he
          apply h
          have hlast : ∃ g', g = g' ++ [w.start1] := by
            rcases List.eq_nil_or_concat g with rfl | ⟨g', d, rfl⟩
            · simp [trailing] at hodd
            · refine ⟨g', ?_⟩
              rw [List.concat_eq_append, trailing_concat] at hodd
              split_ifs at hodd with hd
              · rw [List.concat_eq_append, hd]
          obtain ⟨g', rfl⟩ := hlast
          exact ⟨g', [], by simp⟩
        rw [if_pos hodd]
        simp [scans, scan, hne]
      · rw [if_neg hodd]
        simp [scans, scan, hc]

/-- Without the first marker nothing is kept. -/
theorem scans_unmarked {g : List UInt8} (h : w.start1 ∉ g) : w.scans [] g = ([], []) := by
  induction g with
  | nil => rfl
  | cons c g ih =>
    obtain ⟨hc, hg⟩ := not_or.mp (mt List.mem_cons.mpr h)
    rw [scans, scan, if_neg (Ne.symm hc)]
    dsimp only
    rw [ih hg]
    rfl

/-! ### Payloads take bytes -/

/-- The bytes that payloads and their headers take. -/
def load (ps : List (List UInt8)) : ℕ := (ps.map fun p => p.length + 4).sum

theorem load_append (ps qs : List (List UInt8)) : load (ps ++ qs) = load ps + load qs := by
  unfold load
  rw [List.map_append, List.sum_append]

theorem length_frames (w : Wire) (ps : List (List UInt8)) : (ps.flatMap w.frame).length = load ps := by
  unfold load
  rw [List.length_flatMap]
  refine congrArg List.sum (List.map_congr_left fun p _ => ?_)
  unfold frame header
  rw [List.length_append]
  simp only [List.length_cons, List.length_nil]
  omega

theorem scan_load (pre : List UInt8) (c : UInt8) :
    (w.scan pre c).1.length + load (w.scan pre c).2.toList ≤ pre.length + 1 := by
  unfold scan
  split
  · dsimp only
    split_ifs <;> simp [load]
  · dsimp only
    split_ifs <;> simp [load]
  · simp [load]
  · split_ifs <;> simp [load]
  · split_ifs <;> simp [load]

theorem scans_load (pre as : List UInt8) :
    (w.scans pre as).1.length + load (w.scans pre as).2 ≤ pre.length + as.length := by
  induction as generalizing pre with
  | nil => simp [scans, load]
  | cons c as ih =>
    have hc := scan_load (w := w) pre c
    have hrest := ih (w.scan pre c).1
    simp only [scans, load_append, List.length_cons]
    omega

/-- A first marker that was kept spoils the next two. -/
theorem scans_spoiled (w : Wire) (rest : List UInt8) :
    (w.scans [w.start1] (w.start1 :: w.start2 :: rest)).2 = (w.scans [] rest).2 := by
  simp [scans, scan, w.ne, w.ne.symm]

/-- After an odd number of first markers the frame that follows is lost. -/
theorem frames_lost {g : List UInt8} {ps : List (List UInt8)} (h : ¬ [w.start1, w.start2] <:+: g)
    (hodd : w.trailing g % 2 = 1) (hps : ps ≠ []) : (w.scans [] (g ++ ps.flatMap w.frame)).2 ≠ ps := by
  intro he
  obtain ⟨rest, hrest⟩ : ∃ rest, ps.flatMap w.frame = w.start1 :: w.start2 :: rest := by
    obtain ⟨p, ps, rfl⟩ := List.exists_cons_of_ne_nil hps
    exact ⟨_, List.flatMap_cons⟩
  have hlen := length_frames w ps
  have hload := scans_load (w := w) [] rest
  rw [scans_append, scans_garbage h, if_pos hodd, hrest, List.nil_append, scans_spoiled] at he
  rw [hrest, List.length_cons, List.length_cons] at hlen
  rw [he, List.length_nil] at hload
  omega

/-- Behind other bytes all frames are read exactly when an even number of first markers precedes
them. -/
theorem frames_read_iff {g : List UInt8} {ps : List (List UInt8)} (h : ¬ [w.start1, w.start2] <:+: g)
    (hcap : ∀ p ∈ ps, p.length ≤ w.cap) :
    (w.scans [] (g ++ ps.flatMap w.frame)).2 = ps ↔ ps = [] ∨ w.trailing g % 2 = 0 := by
  constructor
  · intro he
    by_contra hn
    obtain ⟨hps, hodd⟩ := not_or.mp hn
    exact frames_lost h (by omega) hps he
  · rintro (rfl | heven)
    · rw [List.flatMap_nil, List.append_nil, scans_garbage h]
    · rw [scans_append, scans_garbage h, if_neg (by omega), scans_frames hcap]
      rfl

end Wire
end Framing
