import Mathlib.Data.Nat.Notation
import Mathlib.Logic.Function.Basic
import MonsterMesh.Lib.Crc
import MonsterMesh.Lib.Text

/-! The file transfers between the flash and a phone: the adapter and its checksum. -/
namespace MonsterMesh

open Text

namespace XModem

inductive Control where
  | nul | soh | stx | eot | ack | nak | can | ctrlz
deriving DecidableEq, Repr

/-- `sizeof(meshtastic_XModem_buffer_t::bytes)` -/
def bufferSize : ℕ := 128

def maxRetrans : ℤ := 25

/-- One byte of the CRC-16 CCITT. -/
def crcByte (crc : UInt16) (b : UInt8) : UInt16 :=
  let crc := (crc >>> 8) ||| (crc <<< 8)
  let crc := crc ^^^ b.toUInt16
  let crc := crc ^^^ ((crc &&& 0xff) >>> 4)
  let crc := crc ^^^ ((crc <<< 8) <<< 4)
  crc ^^^ (((crc &&& 0xff) <<< 4) <<< 1)

def crc16Ccitt (buffer : List UInt8) : UInt16 := buffer.foldl crcByte 0

end XModem

structure XModem where
  control : XModem.Control
  (seq crc16 : UInt16)
  buffer : List UInt8
  fits : buffer.length ≤ XModem.bufferSize

namespace XModem

def zero : XModem := ⟨.nul, 0, 0, [], Nat.zero_le _⟩

/-- `check` on the packet's own checksum. -/
def check (p : XModem) : Bool := crc16Ccitt p.buffer = p.crc16

/-- The next piece of a file, short only at its end. -/
def chunkAt (data : List UInt8) (pos : ℕ) : List UInt8 := (data.drop pos).take bufferSize

theorem chunkAt_length_le (data : List UInt8) (pos : ℕ) : (chunkAt data pos).length ≤ bufferSize :=
  List.length_take_le _ _

/-- A packet of file data. -/
def dataPacket (seq : UInt16) (data : List UInt8) (pos : ℕ) : XModem :=
  ⟨.soh, seq, crc16Ccitt (chunkAt data pos), chunkAt data pos, chunkAt_length_le data pos⟩

end XModem

/-- An open file: what it holds and where it is read next. -/
structure OpenFile where
  name : Str
  data : List UInt8
  pos : ℕ

structure XModemAdapter where
  (isReceiving isTransmitting isEOT : Bool)
  retrans : ℤ
  packetno : UInt16
  /-- `none` once it is closed. -/
  file : Option OpenFile
  filename : List UInt8
  xmodemStore : XModem
  /-- The flash file system. -/
  flash : Str → Option (List UInt8)

namespace XModemAdapter

open XModem

variable (a : XModemAdapter)

/-- The adapter as it boots. -/
def boot (flash : Str → Option (List UInt8)) : XModemAdapter :=
  { isReceiving := false, isTransmitting := false, isEOT := false, retrans := maxRetrans, packetno := 0
    file := none, filename := List.replicate bufferSize 0, xmodemStore := .zero, flash := flash }

/-- The file name as the C string it is. -/
def fileName : Str := a.filename.takeWhile (· ≠ 0)

def sendControl (c : Control) : XModemAdapter :=
  { a with xmodemStore := { XModem.zero with control := c } }

/-- The next chunk of the file goes into the store. `none` is a read from a closed file. -/
def sendChunk : Option XModemAdapter :=
  a.file.map fun f =>
    { a with
      xmodemStore := dataPacket a.packetno f.data f.pos
      isEOT := a.isEOT || decide ((chunkAt f.data f.pos).length < bufferSize)
      file := some { f with pos := f.pos + (chunkAt f.data f.pos).length } }

/-- The name in a packet with number 0. Only its own bytes of the field change. -/
def nameFile (p : XModem) : XModemAdapter :=
  { a with filename := p.buffer ++ a.filename.drop p.buffer.length }

/-- `opens` says whether the file system can open the file. -/
def openForWrite (opens : Bool) : XModemAdapter :=
  if opens then
    { a.sendControl .ack with
      file := some ⟨a.fileName, [], 0⟩
      flash := Function.update a.flash a.fileName (some [])
      isReceiving := true
      packetno := 1 }
  else { a.sendControl .nak with file := none, isReceiving := false }

def openForRead (opens : Bool) : Option XModemAdapter :=
  match if opens then a.flash a.fileName else none with
  | some data =>
    sendChunk { a with file := some ⟨a.fileName, data, 0⟩, packetno := 1, isTransmitting := true }
  | none => some { a.sendControl .nak with file := none, isTransmitting := false }

def append (f : OpenFile) (bytes : List UInt8) : XModemAdapter :=
  { a with
    file := some { f with data := f.data ++ bytes }
    flash := Function.update a.flash f.name (some (f.data ++ bytes)) }

/-- A data packet while a file is received: the expected number and an intact buffer, or NAK. -/
def receive (p : XModem) : XModemAdapter :=
  if p.seq = a.packetno ∧ p.check then
    { (match a.file with
        | some f => a.append f p.buffer
        | none => a).sendControl .ack with packetno := a.packetno + 1 }
  else a.sendControl .nak

/-- SOH or STX. -/
def onData (p : XModem) (opens : Bool) : Option XModemAdapter :=
  if p.seq = 0 ∧ !a.isReceiving ∧ !a.isTransmitting then
    if p.control = .soh then some ((a.nameFile p).openForWrite opens)
    else (a.nameFile p).openForRead opens
  else if a.isReceiving then some (a.receive p)
  else if a.isTransmitting then some { a.sendControl .can with isTransmitting := false }
  else some a

def onAck : Option XModemAdapter :=
  if a.isTransmitting then
    if a.isEOT then
      some { a.sendControl .eot with file := none, isTransmitting := false, isEOT := false }
    else sendChunk { a with retrans := maxRetrans, packetno := a.packetno + 1 }
  else some (a.sendControl .can)

/-- The chunk of the current packet once more. -/
def seekChunk : Option XModemAdapter :=
  sendChunk { a with
    file := a.file.map fun f => { f with pos := ((a.packetno.toUInt32 - 1) * 128).toNat } }

def onNak : Option XModemAdapter :=
  if a.isTransmitting then
    let a := { a with retrans := a.retrans - 1 }
    if a.retrans ≤ 0 then some { a.sendControl .can with file := none, isTransmitting := false }
    else a.seekChunk
  else some (a.sendControl .can)

def handlePacket (p : XModem) (opens : Bool) : Option XModemAdapter :=
  match p.control with
  | .soh | .stx => a.onData p opens
  | .eot => some { a.sendControl .ack with file := none, isReceiving := false }
  | .can =>
    some { a.sendControl .ack with
      file := none, flash := Function.update a.flash a.fileName none, isReceiving := false }
  | .ack => a.onAck
  | .nak => a.onNak
  | .nul | .ctrlz => some a

end XModemAdapter
end MonsterMesh

/-! The checksum of the file transfers is the bitwise CRC, so it tells apart what a burst of errors changed. -/
namespace MonsterMesh.XModem

open Crc

/-- The CCITT polynomial. -/
def ccitt : BitVec 16 := 0x1021

/-- The bits of a byte, the highest first. -/
def bitsOf (b : UInt8) : List Bool := (List.range 8).map fun i => b.toBitVec.getLsbD (7 - i)

theorem bitsOf_xor (b e : UInt8) : bitsOf (b ^^^ e) = List.zipWith (· ^^ ·) (bitsOf b) (bitsOf e) := by
  simp [bitsOf, List.range_succ]

/-! The stages of `crcByte`. -/

def turned (c : BitVec 16) : BitVec 16 := (c >>> 8) ||| (c <<< 8)

def lowByte (x : BitVec 16) : BitVec 16 := x &&& 0xff

def mixed (x : BitVec 16) : BitVec 16 :=
  let x := x ^^^ (lowByte x >>> 4)
  let x := x ^^^ ((x <<< 8) <<< 4)
  x ^^^ ((lowByte x <<< 4) <<< 1)

theorem crcByte_mixed (c : UInt16) (b : UInt8) :
    (crcByte c b).toBitVec = mixed (turned c.toBitVec ^^^ b.toBitVec.setWidth 16) := by
  rfl

theorem turned_xor (c d : BitVec 16) : turned (c ^^^ d) = turned c ^^^ turned d := by
  refine BitVec.eq_of_getLsbD_eq fun i hi => ?_
  unfold turned
  simp only [BitVec.getLsbD_or, BitVec.getLsbD_xor, BitVec.getLsbD_ushiftRight, BitVec.getLsbD_shiftLeft]
  rcases Nat.lt_or_ge i 8 with h | h
  · simp [h]
  · have hc : c.getLsbD (8 + i) = false := BitVec.getLsbD_of_ge _ _ (by omega)
    have hd : d.getLsbD (8 + i) = false := BitVec.getLsbD_of_ge _ _ (by omega)
    simp [hc, hd, hi, Nat.not_lt.mpr h]

theorem lowByte_xor (x y : BitVec 16) : lowByte (x ^^^ y) = lowByte x ^^^ lowByte y := by
  refine BitVec.eq_of_getLsbD_eq fun i _ => ?_
  unfold lowByte
  simp only [BitVec.getLsbD_and, BitVec.getLsbD_xor, Bool.and_xor_distrib_right]

theorem mixed_xor (x y : BitVec 16) : mixed (x ^^^ y) = mixed x ^^^ mixed y := by
  simp only [mixed, lowByte_xor, BitVec.shiftLeft_xor_distrib, BitVec.ushiftRight_xor_distrib]
  ac_rfl

theorem crcByte_xor (c d : UInt16) (b e : UInt8) :
    crcByte (c ^^^ d) (b ^^^ e) = crcByte c b ^^^ crcByte d e := by
  refine UInt16.toBitVec_inj.mp ?_
  rw [UInt16.toBitVec_xor, crcByte_mixed, crcByte_mixed, crcByte_mixed, ← mixed_xor, UInt16.toBitVec_xor,
    UInt8.toBitVec_xor, turned_xor, BitVec.setWidth_xor]
  congr 1
  ac_rfl

theorem mixed_high (h : BitVec 8) :
    mixed (turned (h ++ 0#8)) = register ccitt (h ++ 0#8) (List.replicate 8 false) := by
  revert h
  decide +kernel

theorem mixed_low (h : BitVec 8) :
    mixed (turned (0#8 ++ h)) = register ccitt (0#8 ++ h) (List.replicate 8 false) := by
  revert h
  decide +kernel

theorem mixed_byte (b : BitVec 8) : mixed (b.setWidth 16) = register ccitt 0#16 (bitsOf ⟨b⟩) := by
  revert b
  decide +kernel

theorem halves (c : BitVec 16) : c = (c.extractLsb' 8 8 ++ 0#8) ^^^ (0#8 ++ c.extractLsb' 0 8) := by
  refine BitVec.eq_of_getLsbD_eq fun i hi => ?_
  rw [BitVec.getLsbD_xor, BitVec.getLsbD_append, BitVec.getLsbD_append]
  rcases Nat.lt_or_ge i 8 with h | h
  · simp [h]
  · have h' : i - 8 < 8 := by omega
    have hs : 8 + (i - 8) = i := by omega
    simp [Nat.not_lt.mpr h, h', hs]

theorem register_zeros (c : BitVec 16) :
    register ccitt c (List.replicate 8 false) = mixed (turned c) := by
  conv_lhs => rw [halves c]
  conv_rhs => rw [halves c]
  rw [turned_xor, mixed_xor, mixed_high, mixed_low, ← register_xor rfl]
  rfl

/-- A byte of `crc16_ccitt` is eight bits of the long division. -/
theorem crcByte_register (c : UInt16) (b : UInt8) :
    (crcByte c b).toBitVec = register ccitt c.toBitVec (bitsOf b) := by
  have hlen : (List.replicate 8 false).length = (bitsOf b).length := rfl
  have hx := register_xor (p := ccitt) (c := c.toBitVec) (d := 0#16) hlen
  have hz : List.zipWith (· ^^ ·) (List.replicate 8 false) (bitsOf b) = bitsOf b := by
    simp [bitsOf, List.range_succ, List.replicate_succ]
  rw [hz, BitVec.xor_zero] at hx
  rw [hx, register_zeros, crcByte_mixed, mixed_xor, mixed_byte]

def bits (buffer : List UInt8) : List Bool := buffer.flatMap bitsOf

theorem crc_register (buffer : List UInt8) (c : UInt16) :
    (buffer.foldl crcByte c).toBitVec = register ccitt c.toBitVec (bits buffer) := by
  induction buffer generalizing c with
  | nil => rfl
  | cons b rest ih =>
    have hb : bits (b :: rest) = bitsOf b ++ bits rest := List.flatMap_cons
    rw [List.foldl_cons, ih, crcByte_register, hb, register_append]

theorem bitsOf_injective {b e : UInt8} (h : bitsOf b = bitsOf e) : b = e := by
  refine UInt8.toBitVec_inj.mp (BitVec.eq_of_getLsbD_eq fun i hi => ?_)
  have hi' := congrArg (fun l : List Bool => l[7 - i]?) h
  have hs : 7 - (7 - i) = i := by omega
  have hl : 7 - i < 8 := by omega
  simpa [bitsOf, hl, hs] using hi'

theorem bits_injective {xs ys : List UInt8} (h : bits xs = bits ys) : xs = ys := by
  induction xs generalizing ys with
  | nil =>
    cases ys with
    | nil => rfl
    | cons y ys => simp [bits, bitsOf, List.range_succ] at h
  | cons x xs ih =>
    cases ys with
    | nil => simp [bits, bitsOf, List.range_succ] at h
    | cons y ys =>
      have hx : bits (x :: xs) = bitsOf x ++ bits xs := List.flatMap_cons
      have hy : bits (y :: ys) = bitsOf y ++ bits ys := List.flatMap_cons
      rw [hx, hy] at h
      obtain ⟨hb, hr⟩ := List.append_inj h (by simp [bitsOf])
      rw [bitsOf_injective hb, ih hr]

/-- At most 16 bits in a row differ. -/
def Burst (xs ys : List UInt8) : Prop :=
  ∃ pre mid mid' post : List Bool, mid.length = mid'.length ∧ mid.length ≤ 16 ∧
    bits xs = pre ++ mid ++ post ∧ bits ys = pre ++ mid' ++ post

theorem crc_burst {xs ys : List UInt8} (hb : Burst xs ys) (h : crc16Ccitt xs = crc16Ccitt ys) : xs = ys := by
  obtain ⟨pre, mid, mid', post, hlen, hw, hx, hy⟩ := hb
  have hr : register ccitt 0#16 (bits xs) = register ccitt 0#16 (bits ys) := by
    have hc := congrArg UInt16.toBitVec h
    unfold crc16Ccitt at hc
    rwa [crc_register, crc_register] at hc
  rw [hx, hy] at hr
  have hmid := burst_detected (by decide) hlen hw hr
  exact bits_injective (by rw [hx, hy, hmid])

end MonsterMesh.XModem
