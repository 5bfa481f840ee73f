import Mathlib.Data.List.TakeWhile
import MonsterMesh.Lib.Framing

/-! The serial stream of the phone API: framing of what is sent and the two readers of what is
received. -/
namespace MonsterMesh

open Framing

def start1 : UInt8 := 0x94
def start2 : UInt8 := 0xc3
def headerLen : ℕ := 4
def maxToFromRadioSize : ℕ := 512
def maxStreamBufSize : ℕ := maxToFromRadioSize + 4

/-- The receive side, with the payloads `handleToRadio` has been called with. -/
structure StreamAPI where
  rxBuf : ℕ → UInt8
  rxPtr : ℕ
  toRadio : List (List UInt8)

namespace StreamAPI

def fresh : StreamAPI := ⟨fun _ => 0, 0, []⟩

/-- `(rxBuf[2] << 8) + rxBuf[3]` -/
def length (s : StreamAPI) : ℕ := ((s.rxBuf 2).toNat <<< 8) + (s.rxBuf 3).toNat

def handleToRadio (s : StreamAPI) (len : ℕ) : StreamAPI :=
  { s with toRadio := s.toRadio ++ [(List.range len).map fun i => s.rxBuf (headerLen + i)] }

/-- The body of both loops, for a character that is not negative. -/
def recByte (s : StreamAPI) (c : UInt8) : StreamAPI :=
  let ptr := s.rxPtr
  let s := { s with rxPtr := ptr + 1, rxBuf := Function.update s.rxBuf ptr c }
  if ptr = 0 then if c ≠ start1 then { s with rxPtr := 0 } else s
  else if ptr = 1 then if c ≠ start2 then { s with rxPtr := 0 } else s
  else if headerLen - 1 ≤ ptr then
    let len := s.length
    let s := if ptr = headerLen - 1 ∧ maxToFromRadioSize < len then { s with rxPtr := 0 } else s
    if s.rxPtr ≠ 0 ∧ len + headerLen ≤ ptr + 1 then
      { s with rxPtr := 0 }.handleToRadio len
    else s
  else s

/-- `readStream` while bytes are available. -/
def readStream (s : StreamAPI) (available : List UInt8) : StreamAPI := available.foldl recByte s

/-- Where `char` is signed, the bytes from 128 on are negative. -/
def negative (charSigned : Bool) (c : UInt8) : Bool := charSigned && 0x80 ≤ c

def handleRecStream (charSigned : Bool) (s : StreamAPI) : List UInt8 → StreamAPI
  | [] => s
  | c :: buf => if negative charSigned c then s else handleRecStream charSigned (s.recByte c) buf

/-- What `emitTxBuffer` writes for a message in `txBuf`. -/
def emitTxBuffer (msg : List UInt8) : List UInt8 :=
  if msg.length ≠ 0 then
    [start1, start2, UInt8.ofNat (msg.length >>> 8 &&& 0xff), UInt8.ofNat (msg.length &&& 0xff)] ++ msg
  else []

/-! ### Both readers look for frames -/

def wire : Wire := ⟨start1, start2, maxToFromRadioSize, by decide, by decide⟩

/-- `pre` is what the buffer holds of a frame. -/
structure Holds (s : StreamAPI) (pre : List UInt8) : Prop where
  ptr : s.rxPtr = pre.length
  buf : ∀ i (h : i < pre.length), s.rxBuf i = pre[i]
  part : wire.Partial pre

variable {s : StreamAPI} {pre : List UInt8} {c : UInt8} {len : ℕ}

theorem fresh_holds : fresh.Holds [] := ⟨rfl, fun i h => absurd h (Nat.not_lt_zero i), trivial⟩

theorem update_buf (h : s.Holds pre) (c : UInt8) :
    ∀ i (hi : i < (pre ++ [c]).length), Function.update s.rxBuf s.rxPtr c i = (pre ++ [c])[i] := by
  intro i hi
  rw [h.ptr]
  rcases Nat.lt_or_ge i pre.length with hlt | hge
  · rw [Function.update_of_ne (Nat.ne_of_lt hlt), h.buf i hlt, List.getElem_append_left hlt]
  · obtain rfl : i = pre.length := by
      rw [List.length_append, List.length_singleton] at hi
      omega
    rw [Function.update_self, List.getElem_append_right (Nat.le_refl _)]
    simp

/-- The state after the byte was stored. -/
def store (s : StreamAPI) (c : UInt8) : StreamAPI :=
  { s with rxPtr := s.rxPtr + 1, rxBuf := Function.update s.rxBuf s.rxPtr c }

theorem store_holds (h : s.Holds pre) (hp : wire.Partial (pre ++ [c])) :
    (s.store c).Holds (pre ++ [c]) := by
  refine ⟨?_, update_buf h c, hp⟩
  show s.rxPtr + 1 = _
  rw [h.ptr, List.length_append, List.length_singleton]

theorem store_length {hi lo : UInt8} {p : List UInt8} {a b c : UInt8}
    (h : ∀ i (hi' : i < (a :: b :: hi :: lo :: p).length),
      (s.store c).rxBuf i = (a :: b :: hi :: lo :: p)[i]) : (s.store c).length = lengthOf hi lo := by
  have h2 := h 2 (by simp)
  have h3 := h 3 (by simp)
  unfold length lengthOf
  rw [h2, h3]
  simp [Nat.shiftLeft_eq]

theorem payload_eq {f : ℕ → UInt8} {a b hi lo : UInt8} {p : List UInt8}
    (h : ∀ i (hi' : i < (a :: b :: hi :: lo :: p).length), f i = (a :: b :: hi :: lo :: p)[i]) :
    ((List.range p.length).map fun i => f (headerLen + i)) = p := by
  refine List.ext_getElem (by simp) fun i h₁ h₂ => ?_
  rw [List.getElem_map, List.getElem_range, Nat.add_comm]
  exact h (i + 4) (by simp only [List.length_cons]; omega)

/-- The buffer and the frame reader after a byte: they keep the same, and hand out the same. -/
def Matches (s t : StreamAPI) (r : List UInt8 × Option (List UInt8)) : Prop :=
  t.Holds r.1 ∧ t.toRadio = s.toRadio ++ r.2.toList

theorem matches_reset (h : wire.scan pre c = ([], none)) :
    Matches s { s.store c with rxPtr := 0 } (wire.scan pre c) := by
  rw [h]
  exact ⟨⟨rfl, fun i hi => absurd hi (Nat.not_lt_zero i), trivial⟩, (List.append_nil _).symm⟩

theorem matches_store (hs : s.Holds pre) (h : wire.scan pre c = (pre ++ [c], none)) :
    Matches s (s.store c) (wire.scan pre c) := by
  have hp := wire.scan_partial hs.part c
  rw [h] at hp ⊢
  exact ⟨store_holds hs hp, (List.append_nil _).symm⟩

theorem matches_handed {p : List UInt8} (h : wire.scan pre c = ([], some p))
    (hp : ((List.range len).map fun i => (s.store c).rxBuf (headerLen + i)) = p) :
    Matches s ({ s.store c with rxPtr := 0 }.handleToRadio len) (wire.scan pre c) := by
  rw [h]
  exact ⟨⟨rfl, fun i hi => absurd hi (Nat.not_lt_zero i), trivial⟩,
    congrArg (fun q => s.toRadio ++ [q]) hp⟩

theorem recByte_start1 (h : s.Holds []) : Matches s (s.recByte c) (wire.scan [] c) := by
  have hr : s.recByte c = if c ≠ start1 then { s.store c with rxPtr := 0 } else s.store c := by
    unfold recByte
    exact if_pos h.ptr
  rw [hr]
  by_cases hc : c = start1
  · rw [if_neg (not_not.mpr hc)]
    exact matches_store h (congrArg (·, none) (if_pos hc))
  · rw [if_pos hc]
    exact matches_reset (congrArg (·, none) (if_neg hc))

theorem recByte_start2 {a : UInt8} (h : s.Holds [a]) :
    Matches s (s.recByte c) (wire.scan [a] c) := by
  have hr : s.recByte c = if c ≠ start2 then { s.store c with rxPtr := 0 } else s.store c := by
    unfold recByte
    dsimp only
    rw [if_neg (by rw [h.ptr]; simp), if_pos (show s.rxPtr = 1 from h.ptr)]
    rfl
  rw [hr]
  by_cases hc : c = start2
  · rw [if_neg (not_not.mpr hc)]
    exact matches_store h (congrArg (·, none) (if_pos hc))
  · rw [if_pos hc]
    exact matches_reset (congrArg (·, none) (if_neg hc))

theorem recByte_high {a b : UInt8} (h : s.Holds [a, b]) :
    Matches s (s.recByte c) (wire.scan [a, b] c) := by
  have hptr : s.rxPtr = 2 := h.ptr
  have hr : s.recByte c = s.store c := by
    unfold recByte
    dsimp only
    rw [if_neg (by omega), if_neg (by omega), if_neg (by rw [hptr]; decide)]
    rfl
  rw [hr]
  exact matches_store h rfl

/-- From the fourth byte on the length is known. -/
theorem recByte_known (h : 3 ≤ s.rxPtr) (hlen : (s.store c).length = len) :
    s.recByte c =
      if s.rxPtr = 3 ∧ maxToFromRadioSize < len then { s.store c with rxPtr := 0 }
      else if len + 4 ≤ s.rxPtr + 1 then { s.store c with rxPtr := 0 }.handleToRadio len
      else s.store c := by
  have hr : s.recByte c =
      let t := if s.rxPtr = headerLen - 1 ∧ maxToFromRadioSize < (s.store c).length then
        { s.store c with rxPtr := 0 } else s.store c
      if t.rxPtr ≠ 0 ∧ (s.store c).length + headerLen ≤ s.rxPtr + 1 then
        { t with rxPtr := 0 }.handleToRadio (s.store c).length
      else t := by
    unfold recByte
    dsimp only
    rw [if_neg (by omega), if_neg (by omega), if_pos (show headerLen - 1 ≤ s.rxPtr from h)]
    rfl
  rw [hr, hlen]
  dsimp only
  by_cases hbig : s.rxPtr = 3 ∧ maxToFromRadioSize < len
  · rw [if_pos (show s.rxPtr = headerLen - 1 ∧ maxToFromRadioSize < len from hbig), if_pos hbig,
      if_neg (fun hn => hn.1 rfl)]
  · rw [if_neg (show ¬ (s.rxPtr = headerLen - 1 ∧ maxToFromRadioSize < len) from hbig), if_neg hbig]
    exact if_congr (and_iff_right (Nat.succ_ne_zero _)) rfl rfl

theorem recByte_low {a b hi : UInt8} (h : s.Holds [a, b, hi]) :
    Matches s (s.recByte c) (wire.scan [a, b, hi] c) := by
  have hptr : s.rxPtr = 3 := h.ptr
  have hlen : (s.store c).length = lengthOf hi c := store_length (p := []) (update_buf h c)
  rw [recByte_known (by omega) hlen]
  by_cases hbig : maxToFromRadioSize < lengthOf hi c
  · rw [if_pos ⟨hptr, hbig⟩]
    exact matches_reset (if_pos hbig)
  · rw [if_neg (fun hn => hbig hn.2)]
    by_cases hzero : lengthOf hi c = 0
    · rw [if_pos (by omega), hzero]
      exact matches_handed ((if_neg hbig).trans (if_pos hzero)) rfl
    · rw [if_neg (by omega)]
      exact matches_store h ((if_neg hbig).trans (if_neg hzero))

theorem recByte_payload {a b hi lo : UInt8} {p : List UInt8} (h : s.Holds (a :: b :: hi :: lo :: p)) :
    Matches s (s.recByte c) (wire.scan (a :: b :: hi :: lo :: p) c) := by
  have hptr : s.rxPtr = p.length + 4 := h.ptr
  have hbuf := update_buf h c
  have hlen : (s.store c).length = lengthOf hi lo := store_length (p := p ++ [c]) hbuf
  rw [recByte_known (by omega) hlen, if_neg (by omega)]
  by_cases hall : lengthOf hi lo ≤ p.length + 1
  · have hexact : lengthOf hi lo = (p ++ [c]).length := by
      have hlt : p.length < lengthOf hi lo := h.part.1
      rw [List.length_append, List.length_singleton]
      omega
    rw [if_pos (by omega), hexact]
    exact matches_handed (if_pos hall) (payload_eq (p := p ++ [c]) hbuf)
  · rw [if_neg (by omega)]
    exact matches_store h (if_neg hall)

/-- A byte does to the buffer what the frame reader does to what it keeps. -/
theorem recByte_scan (h : s.Holds pre) (c : UInt8) : Matches s (s.recByte c) (wire.scan pre c) := by
  rcases pre with _ | ⟨a, _ | ⟨b, _ | ⟨hi, _ | ⟨lo, p⟩⟩⟩⟩
  · exact recByte_start1 h
  · exact recByte_start2 h
  · exact recByte_high h
  · exact recByte_low h
  · exact recByte_payload h

/-- `readStream` hands out the payloads of the frame reader. -/
theorem readStream_scans (h : s.Holds pre) (cs : List UInt8) :
    (s.readStream cs).Holds (wire.scans pre cs).1 ∧
      (s.readStream cs).toRadio = s.toRadio ++ (wire.scans pre cs).2 := by
  induction cs generalizing s pre with
  | nil => exact ⟨h, (List.append_nil _).symm⟩
  | cons c cs ih =>
    obtain ⟨hh, ht⟩ := recByte_scan h c
    obtain ⟨hh', ht'⟩ := ih hh
    refine ⟨hh', ht'.trans ?_⟩
    rw [ht, List.append_assoc]
    rfl

/-- The index stays inside the buffer. -/
theorem readStream_ptr (cs : List UInt8) : (fresh.readStream cs).rxPtr < maxStreamBufSize := by
  have h := (readStream_scans fresh_holds cs).1
  rw [h.ptr]
  exact h.part.length_lt

/-- Reading in parts is reading all of it. -/
theorem readStream_parts (s : StreamAPI) (reads : List (List UInt8)) :
    reads.foldl readStream s = s.readStream reads.flatten := by
  unfold readStream
  rw [List.foldl_flatten]

/-- `handleRecStream` reads a part up to its first negative character. -/
theorem handleRecStream_eq (charSigned : Bool) (s : StreamAPI) (buf : List UInt8) :
    s.handleRecStream charSigned buf = s.readStream (buf.takeWhile fun c => !negative charSigned c) := by
  induction buf generalizing s with
  | nil => rfl
  | cons c buf ih =>
    unfold handleRecStream
    rw [List.takeWhile_cons]
    cases negative charSigned c with
    | true => rfl
    | false => exact ih _

theorem handleRecStream_unsigned (s : StreamAPI) (buf : List UInt8) :
    s.handleRecStream false buf = s.readStream buf := by
  have hall : (buf.takeWhile fun c => !negative false c) = buf :=
    List.takeWhile_eq_self_iff.mpr fun c _ => rfl
  rw [handleRecStream_eq, hall]

/-- Where characters are signed the first marker is never read. -/
theorem handleRecStream_signed (h : s.Holds []) (buf : List UInt8) :
    (s.handleRecStream true buf).Holds [] ∧ (s.handleRecStream true buf).toRadio = s.toRadio := by
  have hnone : wire.start1 ∉ buf.takeWhile fun c => !negative true c := fun hm =>
    absurd (List.mem_takeWhile_imp hm) (by decide)
  have hr := readStream_scans h (buf.takeWhile fun c => !negative true c)
  rw [wire.scans_unmarked hnone, List.append_nil] at hr
  rw [handleRecStream_eq]
  exact hr

theorem parts_signed (h : s.Holds []) (reads : List (List UInt8)) :
    (reads.foldl (handleRecStream true) s).toRadio = s.toRadio := by
  induction reads generalizing s with
  | nil => rfl
  | cons buf reads ih =>
    obtain ⟨hh, ht⟩ := handleRecStream_signed h buf
    exact (ih hh).trans ht

theorem parts_unsigned (s : StreamAPI) (reads : List (List UInt8)) :
    reads.foldl (handleRecStream false) s = reads.foldl readStream s := by
  induction reads generalizing s with
  | nil => rfl
  | cons buf reads ih => rw [List.foldl_cons, List.foldl_cons, handleRecStream_unsigned, ih]

/-! ### What is sent -/

theorem emitTxBuffer_nil : emitTxBuffer [] = [] := rfl

/-- A message that is not empty goes out as a frame. -/
theorem emitTxBuffer_frame {msg : List UInt8} (h : msg ≠ []) (hlen : msg.length ≤ maxToFromRadioSize) :
    emitTxBuffer msg = wire.frame msg := by
  have hmax : msg.length ≤ 512 := hlen
  have hlow : msg.length &&& 0xff = msg.length % 256 := Nat.and_two_pow_sub_one_eq_mod msg.length 8
  have hhigh : msg.length >>> 8 &&& 0xff = msg.length / 256 := by
    rw [Nat.shiftRight_eq_div_pow]
    have hmod := Nat.and_two_pow_sub_one_eq_mod (msg.length / 2 ^ 8) 8
    simp only [Nat.reducePow, Nat.reduceSub] at hmod ⊢
    omega
  have hbyte : UInt8.ofNat (msg.length % 256) = UInt8.ofNat msg.length := by
    apply UInt8.toNat_inj.mp
    rw [UInt8.toNat_ofNat', UInt8.toNat_ofNat']
    omega
  unfold emitTxBuffer
  rw [if_pos (mt List.length_eq_zero_iff.mp h), hlow, hhigh, hbyte]
  rfl

theorem emitted_frames {msgs : List (List UInt8)} (h : ∀ m ∈ msgs, m.length ≤ maxToFromRadioSize) :
    msgs.flatMap emitTxBuffer = (msgs.filter (· ≠ [])).flatMap wire.frame := by
  induction msgs with
  | nil => rfl
  | cons m msgs ih =>
    have hrest := ih fun n hn => h n (List.mem_cons_of_mem m hn)
    by_cases hm : m = []
    · rw [List.flatMap_cons, hrest, List.filter_cons_of_neg (by simpa using hm), hm]
      rfl
    · rw [List.flatMap_cons, hrest, List.filter_cons_of_pos (by simpa using hm), List.flatMap_cons,
        emitTxBuffer_frame hm (h m (List.mem_cons_self ..))]

theorem emitted_read {msgs : List (List UInt8)} (h : ∀ m ∈ msgs, m.length ≤ maxToFromRadioSize) :
    (fresh.readStream (msgs.flatMap emitTxBuffer)).toRadio = msgs.filter (· ≠ []) := by
  rw [(readStream_scans fresh_holds _).2, emitted_frames h,
    wire.scans_frames fun p hp => h p (List.mem_of_mem_filter hp)]
  rfl

/-! ### Frames behind other bytes -/

/-- What is asked of the two readers on the frames of `ps` behind the bytes `g`, when they come in the
parts `reads`. -/
structure Resynchronises (charSigned : Bool) (ps reads : List (List UInt8)) : Prop where
  payloads : (reads.foldl readStream fresh).toRadio = ps
  inside : ∀ bytes, (fresh.readStream bytes).rxPtr ≤ maxStreamBufSize
  agree : (reads.foldl (handleRecStream charSigned) fresh).toRadio = (reads.foldl readStream fresh).toRadio
  emitted : (fresh.readStream (ps.flatMap emitTxBuffer)).toRadio = ps.filter (· ≠ [])

/-- Both readers find the frames exactly if there is none, or if characters are unsigned and the bytes
in front end in an even number of first markers. -/
theorem resynchronises_iff {charSigned : Bool} {g : List UInt8} {ps reads : List (List UInt8)}
    (hg : ¬ [start1, start2] <:+: g) (hps : ∀ p ∈ ps, p.length ≤ maxToFromRadioSize)
    (hr : reads.flatten = g ++ ps.flatMap wire.frame) :
    Resynchronises charSigned ps reads ↔
      ps = [] ∨ charSigned = false ∧ wire.trailing g % 2 = 0 := by
  have hread : (reads.foldl readStream fresh).toRadio = (wire.scans [] (g ++ ps.flatMap wire.frame)).2 := by
    rw [readStream_parts, hr, (readStream_scans fresh_holds _).2]
    rfl
  have hiff := wire.frames_read_iff hg hps
  constructor
  · intro h
    have heven := hiff.mp (hread.symm.trans h.payloads)
    cases charSigned with
    | false => exact heven.imp_right fun he => ⟨rfl, he⟩
    | true =>
      left
      have hnone := parts_signed fresh_holds reads
      exact h.payloads.symm.trans (h.agree.symm.trans hnone)
  · intro h
    have hpay : (reads.foldl readStream fresh).toRadio = ps :=
      hread.trans (hiff.mpr (h.imp_right And.right))
    refine ⟨hpay, fun bytes => Nat.le_of_lt (readStream_ptr bytes), ?_, emitted_read hps⟩
    cases charSigned with
    | false => rw [parts_unsigned]
    | true =>
      have hnil : ps = [] := h.resolve_right fun hs => Bool.noConfusion hs.1
      rw [parts_signed fresh_holds, hpay, hnil]
      rfl

theorem resynchronises_hello : Resynchronises false [[0x68, 0x69], [7]]
    [[0x0a, 0x94, 0x94, 0x94], [0xc3, 0, 2, 0x68], [0x69, 0x94, 0xc3, 0, 1, 7]] :=
  (@resynchronises_iff false [0x0a, 0x94, 0x94] [[0x68, 0x69], [7]]
    [[0x0a, 0x94, 0x94, 0x94], [0xc3, 0, 2, 0x68], [0x69, 0x94, 0xc3, 0, 1, 7]]
    (by decide) (by decide) (by decide)).mpr (.inr ⟨rfl, by decide⟩)

/-- One stray first marker in front of a frame makes the reader miss it. -/
theorem stray_marker_loses_frame :
    ¬ ∀ (charSigned : Bool) (g : List UInt8) (ps reads : List (List UInt8)), ¬ [start1, start2] <:+: g →
      (∀ p ∈ ps, p.length ≤ maxToFromRadioSize) → reads.flatten = g ++ ps.flatMap wire.frame →
      Resynchronises charSigned ps reads := by
  intro h
  have hx := (h false [start1] [[1]] [start1 :: wire.frame [1]] (by decide) (by decide) (by decide)).payloads
  exact absurd hx (by decide)

end StreamAPI
end MonsterMesh
