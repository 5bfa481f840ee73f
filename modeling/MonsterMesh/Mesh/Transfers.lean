import MonsterMesh.Mesh.XModem

/-! What a transfer leaves on the flash and at the phone, whatever is lost, repeated or damaged on the way. -/
namespace MonsterMesh

open Text

namespace XModem

variable {F : List UInt8} {n : ℕ} {p : XModem}

/-- The packets a file takes; the last one is short, if only by being empty. -/
def packets (F : List UInt8) : ℕ := F.length / bufferSize + 1

/-- Packet `n` of a file, the first being 1. -/
def filePacket (F : List UInt8) (n : ℕ) : XModem := dataPacket (UInt16.ofNat n) F ((n - 1) * bufferSize)

theorem take_chunk (h : 1 ≤ n) :
    F.take ((n - 1) * bufferSize) ++ (filePacket F n).buffer = F.take (n * bufferSize) := by
  have hn : n * bufferSize = (n - 1) * bufferSize + bufferSize := by
    unfold bufferSize
    omega
  rw [hn, List.take_add]
  rfl

theorem take_packets (h : packets F ≤ n) : F.take (n * bufferSize) = F := by
  refine List.take_of_length_le ?_
  unfold packets bufferSize at *
  omega

/-- Only the last packet is short. -/
theorem short_iff (h : 1 ≤ n) (hn : n ≤ packets F) :
    (filePacket F n).buffer.length < bufferSize ↔ n = packets F := by
  have hl : (filePacket F n).buffer.length = min bufferSize (F.length - (n - 1) * bufferSize) := by
    show (chunkAt F ((n - 1) * bufferSize)).length = _
    rw [chunkAt, List.length_take, List.length_drop]
  rw [hl]
  unfold packets bufferSize at *
  omega

/-- A packet of the file as it comes in: at most 16 bits in a row of its data were changed. -/
def Arrives (F : List UInt8) (p : XModem) : Prop :=
  ∃ n, 1 ≤ n ∧ n ≤ packets F ∧ p.control = .soh ∧ p.seq = (filePacket F n).seq ∧
    p.crc16 = (filePacket F n).crc16 ∧ Burst (filePacket F n).buffer p.buffer

theorem ofNat_inj {m n : ℕ} (hm : m < 65536) (hn : n < 65536) (h : UInt16.ofNat m = UInt16.ofNat n) : m = n := by
  have ht := congrArg UInt16.toNat h
  simpa [Nat.mod_eq_of_lt hm, Nat.mod_eq_of_lt hn] using ht

/-- The only packet that passes as number `n` is the file's. -/
theorem Arrives.intact (h : Arrives F p) (hF : packets F < 65536) (hn : n ≤ packets F + 1)
    (hs : p.seq = UInt16.ofNat n) (hc : p.check = true) :
    1 ≤ n ∧ n ≤ packets F ∧ p.buffer = (filePacket F n).buffer := by
  obtain ⟨m, hm1, hm, -, hseq, hcrc, hb⟩ := h
  have hmn : m = n := by
    have he : UInt16.ofNat m = UInt16.ofNat n := hseq.symm.trans hs
    rcases Nat.lt_or_ge n 65536 with hlt | hge
    · exact ofNat_inj (by omega) hlt he
    · have hn' : n = 65536 := by omega
      have h0 := congrArg UInt16.toNat he
      rw [hn'] at h0
      have h0' : m % 65536 = 0 := by simpa using h0
      omega
  subst hmn
  refine ⟨hm1, hm, (crc_burst hb ?_).symm⟩
  have hc' : crc16Ccitt p.buffer = p.crc16 := by simpa [check] using hc
  rw [hc', hcrc]
  rfl

end XModem

namespace XModemAdapter

open XModem

variable {a a' : XModemAdapter} {F : List UInt8} {name : Str} {n : ℕ} {p : XModem} {ps : List (XModem × Bool)}

def feed (a : XModemAdapter) (ps : List (XModem × Bool)) : Option XModemAdapter :=
  ps.foldlM (fun a p => a.handlePacket p.1 p.2) a

theorem feed_cons {q : XModem × Bool} : a.feed (q :: ps) = (a.handlePacket q.1 q.2).bind fun a => a.feed ps :=
  List.foldlM_cons

/-! ### A file from the phone -/

/-- The first `n - 1` packets of the file are written. -/
structure Receiving (a : XModemAdapter) (F : List UInt8) (name : Str) (n : ℕ) : Prop where
  on : a.isReceiving = true
  next : a.packetno = UInt16.ofNat n
  bound : 1 ≤ n ∧ n ≤ packets F + 1
  file : ∃ pos, a.file = some ⟨name, F.take ((n - 1) * bufferSize), pos⟩
  flash : a.flash name = some (F.take ((n - 1) * bufferSize))

theorem handlePacket_receiving (h : a.isReceiving = true) (hp : p.control = .soh) (opens : Bool) :
    a.handlePacket p opens = some (a.receive p) := by
  simp [handlePacket, hp, onData, h]

theorem Receiving.step (h : a.Receiving F name n) (hp : Arrives F p) (hF : packets F < 65536) :
    ((a.receive p).Receiving F name n ∧ (a.receive p).flash = a.flash ∧ p ≠ filePacket F n) ∨
      (n ≤ packets F ∧ (a.receive p).Receiving F name (n + 1) ∧
        ∀ other, other ≠ name → (a.receive p).flash other = a.flash other) := by
  obtain ⟨pos, hfile⟩ := h.file
  by_cases hc : p.seq = a.packetno ∧ p.check = true
  · obtain ⟨h1, hn, hbuf⟩ := hp.intact hF h.bound.2 (hc.1.trans h.next) hc.2
    have hdata : F.take ((n - 1) * bufferSize) ++ p.buffer = F.take ((n + 1 - 1) * bufferSize) := by
      rw [hbuf, take_chunk h1, Nat.add_sub_cancel]
    refine Or.inr ⟨hn, ?_, ?_⟩
    · unfold receive
      rw [if_pos hc, hfile]
      refine ⟨h.on, ?_, ⟨by omega, by omega⟩, ⟨pos, ?_⟩, ?_⟩
      · show a.packetno + 1 = _
        rw [h.next, UInt16.ofNat_add]
        rfl
      · show some (OpenFile.mk name (F.take ((n - 1) * bufferSize) ++ p.buffer) pos) = _
        rw [hdata]
      · show Function.update a.flash name (some (F.take ((n - 1) * bufferSize) ++ p.buffer)) name = _
        rw [Function.update_self, hdata]
    · intro other ho
      unfold receive
      rw [if_pos hc, hfile]
      exact Function.update_of_ne ho _ _
  · refine Or.inl ⟨?_, ?_, ?_⟩
    · unfold receive
      rw [if_neg hc]
      exact ⟨h.on, h.next, h.bound, h.file, h.flash⟩
    · unfold receive
      rw [if_neg hc]
      rfl
    · rintro rfl
      refine hc ⟨h.next.symm, ?_⟩
      simp [check, filePacket, dataPacket]

/-- A packet whose data a burst changed is refused, and nothing is written. -/
theorem damaged_refused (h : a.isReceiving = true) (hp : p.control = .soh) {sent : List UInt8}
    (hcrc : p.crc16 = crc16Ccitt sent) (hb : Burst sent p.buffer) (hne : sent ≠ p.buffer) (opens : Bool) :
    ∃ a', a.handlePacket p opens = some a' ∧ a'.xmodemStore.control = .nak ∧ a'.flash = a.flash ∧
      a'.file = a.file ∧ a'.packetno = a.packetno := by
  have hc : ¬ (p.seq = a.packetno ∧ p.check = true) := by
    rintro ⟨-, hc⟩
    have hc' : crc16Ccitt p.buffer = p.crc16 := by simpa [check] using hc
    exact hne (crc_burst hb (hcrc.symm.trans hc'.symm))
  refine ⟨a.receive p, handlePacket_receiving h hp opens, ?_⟩
  unfold receive
  rw [if_neg hc]
  exact ⟨rfl, rfl, rfl, rfl⟩

/-- The packets still to come, each intact. -/
def pending (F : List UInt8) (n : ℕ) : List XModem :=
  (List.range' n (packets F + 1 - n)).map (filePacket F)

theorem pending_cons (h : n ≤ packets F) : pending F n = filePacket F n :: pending F (n + 1) := by
  unfold pending
  rw [show packets F + 1 - n = packets F + 1 - (n + 1) + 1 by omega, List.range'_succ, List.map_cons]

/-- After any deliveries a whole number of packets is written, and all of them once each came intact in turn. -/
theorem feed_receiving (h : a.Receiving F name n) (hF : packets F < 65536) :
    (∀ q ∈ ps, Arrives F q.1) → ∃ a' m, a.feed ps = some a' ∧ a'.Receiving F name m ∧ n ≤ m ∧
      (∀ other, other ≠ name → a'.flash other = a.flash other) ∧
      ((pending F n).Sublist (ps.map Prod.fst) → m = packets F + 1) := by
  induction ps generalizing a n with
  | nil =>
    refine fun _ => ⟨a, n, rfl, h, le_rfl, fun _ _ => rfl, fun hs => ?_⟩
    by_contra hn
    rw [pending_cons (by have := h.bound; omega)] at hs
    simp at hs
  | cons q ps ih =>
    intro hps
    have hq := hps q List.mem_cons_self
    have hctl : q.1.control = .soh := by
      obtain ⟨_, _, _, hc, _⟩ := hq
      exact hc
    have hstep := handlePacket_receiving h.on hctl q.2
    rcases h.step hq hF with ⟨hr, hflash, hne⟩ | ⟨hn, hr, hframe⟩
    · obtain ⟨a', m, hrun, hm, hle, hother, hall⟩ := ih hr fun x hx => hps x (List.mem_cons_of_mem _ hx)
      refine ⟨a', m, ?_, hm, hle, fun o ho => ?_, fun hs => hall ?_⟩
      · rw [feed_cons, hstep]
        exact hrun
      · rw [hother o ho, hflash]
      · rw [List.map_cons] at hs
        rcases List.sublist_cons_iff.mp hs with hs | ⟨r, hr, -⟩
        · exact hs
        · by_cases hn : n ≤ packets F
          · rw [pending_cons hn] at hr
            exact absurd (List.cons.inj hr).1.symm hne
          · rw [pending, show packets F + 1 - n = 0 by omega]
            exact List.nil_sublist _
    · obtain ⟨a', m, hrun, hm, hle, hother, hall⟩ := ih hr fun x hx => hps x (List.mem_cons_of_mem _ hx)
      refine ⟨a', m, ?_, hm, by omega, fun o ho => ?_, fun hs => hall ?_⟩
      · rw [feed_cons, hstep]
        exact hrun
      · rw [hother o ho, hframe o ho]
      · rw [pending_cons hn, List.map_cons] at hs
        exact List.Sublist.of_cons_cons hs

theorem receiving_start (hr : a.isReceiving = false) (ht : a.isTransmitting = false) {p₀ : XModem}
    (hc : p₀.control = .soh) (hs : p₀.seq = 0) :
    ∃ a₁, a.handlePacket p₀ true = some a₁ ∧ a₁.Receiving F (a.nameFile p₀).fileName 1 ∧
      ∀ other, other ≠ (a.nameFile p₀).fileName → a₁.flash other = a.flash other := by
  refine ⟨(a.nameFile p₀).openForWrite true, ?_, ⟨rfl, rfl, ⟨le_rfl, Nat.le_add_left _ _⟩, ⟨0, ?_⟩, ?_⟩, ?_⟩
  · simp [handlePacket, hc, onData, hs, hr, ht]
  · simp [openForWrite, sendControl, fileName]
  · simp [openForWrite, sendControl, fileName]
  · exact fun other ho => Function.update_of_ne ho _ _

/-- The packet that names file `a`. -/
def namePacket (c : Control) : XModem := ⟨c, 0, 0, [97], by decide⟩

theorem letter_damaged : ∃ a', { boot (fun _ => none) with isReceiving := true }.handlePacket
      ⟨.soh, 1, crc16Ccitt [1], [2], by decide⟩ true = some a' ∧ a'.xmodemStore.control = .nak := by
  have hb : Burst [1] [2] := ⟨[], bits [1], bits [2], [], rfl, by decide, rfl, rfl⟩
  obtain ⟨a', hrun, hnak, -⟩ := damaged_refused (a := { boot (fun _ => none) with isReceiving := true })
    (p := ⟨.soh, 1, crc16Ccitt [1], [2], by decide⟩) rfl rfl rfl hb (by decide) true
  exact ⟨a', hrun, hnak⟩

/-! ### A file to the phone -/

/-- The phone's answer: ACK for a packet it took, NAK for one it wants again. -/
def answer (ok : Bool) : XModem := { XModem.zero with control := if ok then .ack else .nak }

/-- The adapter with what the phone has of the file; the phone is silent once the transfer is over. -/
def converse (s : XModemAdapter × List UInt8) (ok : Bool) : Option (XModemAdapter × List UInt8) :=
  if s.1.isTransmitting then
    (s.1.handlePacket (answer ok) true).map fun a => (a, if ok then s.2 ++ s.1.xmodemStore.buffer else s.2)
  else some s

/-- Packet `n` is out. A stale end mark of an earlier transfer ends the file at its first packet. -/
structure Sending (a : XModemAdapter) (F : List UInt8) (stale : Bool) (n : ℕ) : Prop where
  on : a.isTransmitting = true
  number : a.packetno = UInt16.ofNat n
  bound : 1 ≤ n ∧ n ≤ packets F
  file : ∃ name, a.file = some ⟨name, F, (n - 1) * bufferSize + (filePacket F n).buffer.length⟩
  store : a.xmodemStore = filePacket F n
  eot : a.isEOT = (stale || decide (n = packets F))
  first : stale = true → n = 1

/-- How a transfer stands after some answers. -/
inductive Standing (F : List UInt8) (stale : Bool) (a : XModemAdapter) (copy : List UInt8) : Prop where
  | sending (n : ℕ) (h : a.Sending F stale n) (hcopy : copy = F.take ((n - 1) * bufferSize))
  | done (off : a.isTransmitting = false) (h : a.xmodemStore.control = .eot)
      (hcopy : copy = if stale then F.take bufferSize else F)
  | cancelled (n : ℕ) (off : a.isTransmitting = false) (h : a.xmodemStore.control = .can)
      (hn : n < packets F) (hcopy : copy = F.take (n * bufferSize))

theorem sendChunk_open {f : OpenFile} (h : a.file = some f) :
    a.sendChunk = some { a with
      xmodemStore := dataPacket a.packetno f.data f.pos
      isEOT := a.isEOT || decide ((chunkAt f.data f.pos).length < bufferSize)
      file := some { f with pos := f.pos + (chunkAt f.data f.pos).length } } := by
  rw [sendChunk, h, Option.map_some]

theorem sendChunk_sending (stale : Bool) {name : Str} (hon : a.isTransmitting = true)
    (hnum : a.packetno = UInt16.ofNat n) (hb : 1 ≤ n ∧ n ≤ packets F)
    (hfile : a.file = some ⟨name, F, (n - 1) * bufferSize⟩)
    (he : (a.isEOT || decide (n = packets F)) = (stale || decide (n = packets F)))
    (hs : stale = true → n = 1) :
    ∃ a', a.sendChunk = some a' ∧ a'.Sending F stale n ∧ a'.retrans = a.retrans := by
  refine ⟨_, sendChunk_open hfile, ⟨hon, hnum, hb, ⟨name, rfl⟩, ?_, ?_, hs⟩, rfl⟩
  · show dataPacket a.packetno F ((n - 1) * bufferSize) = _
    rw [hnum, filePacket]
  · have hd : decide ((chunkAt F ((n - 1) * bufferSize)).length < bufferSize) = decide (n = packets F) :=
      decide_eq_decide.mpr (short_iff hb.1 hb.2)
    show (a.isEOT || decide ((chunkAt F ((n - 1) * bufferSize)).length < bufferSize)) = _
    rw [hd, he]

theorem Sending.ack {stale : Bool} (h : a.Sending F stale n) :
    ∃ a', a.handlePacket (answer true) true = some a' ∧
      (((stale = true ∨ n = packets F) ∧ a'.isTransmitting = false ∧ a'.xmodemStore.control = .eot) ∨
        (stale = false ∧ n < packets F ∧ a'.Sending F stale (n + 1) ∧ a'.retrans = maxRetrans)) := by
  have hstep : a.handlePacket (answer true) true = a.onAck := rfl
  rw [hstep, onAck, if_pos h.on]
  by_cases he : a.isEOT = true
  · rw [if_pos he]
    refine ⟨_, rfl, Or.inl ⟨?_, rfl, rfl⟩⟩
    rw [h.eot, Bool.or_eq_true, decide_eq_true_eq] at he
    exact he
  · rw [if_neg he]
    have hn := he
    rw [h.eot, Bool.or_eq_true, decide_eq_true_eq, not_or, Bool.not_eq_true] at hn
    have hb := h.bound
    obtain ⟨name, hfile⟩ := h.file
    have hlen : (filePacket F n).buffer.length = bufferSize := by
      have hle := (filePacket F n).fits
      have hs := (short_iff (F := F) hb.1 hb.2).not.mpr hn.2
      omega
    have hpos : (n - 1) * bufferSize + (filePacket F n).buffer.length = (n + 1 - 1) * bufferSize := by
      rw [hlen]
      unfold bufferSize
      omega
    rw [hpos] at hfile
    have hnum : a.packetno + 1 = UInt16.ofNat (n + 1) := by
      rw [h.number, UInt16.ofNat_add]
      rfl
    have hmark : (a.isEOT || decide (n + 1 = packets F)) = (stale || decide (n + 1 = packets F)) := by
      rw [(Bool.not_eq_true _).mp he, hn.1]
    have hfirst : stale = true → n + 1 = 1 := by simp [hn.1]
    obtain ⟨a', hsend, hs', hr⟩ := sendChunk_sending stale
      (a := { a with retrans := maxRetrans, packetno := a.packetno + 1 }) h.on hnum (by omega) hfile hmark
      hfirst
    exact ⟨a', hsend, Or.inr ⟨hn.1, by omega, hs', hr⟩⟩

theorem seek_pos (hF : packets F < 65536) (h : 1 ≤ n ∧ n ≤ packets F) :
    (((UInt16.ofNat n).toUInt32 - 1) * 128).toNat = (n - 1) * bufferSize := by
  have hn : n < 65536 := by omega
  have h1 : (UInt16.ofNat n).toUInt32.toNat = n := by simp [Nat.mod_eq_of_lt hn]
  have h2 : ((UInt16.ofNat n).toUInt32 - 1).toNat = n - 1 := by
    rw [UInt32.toNat_sub_of_le _ _ (by rw [UInt32.le_iff_toNat_le, h1]; exact h.1), h1]
    rfl
  rw [UInt32.toNat_mul, h2]
  unfold bufferSize
  exact Nat.mod_eq_of_lt (by show (n - 1) * 128 < 2 ^ 32; omega)

theorem Sending.nak {stale : Bool} (h : a.Sending F stale n) (hF : packets F < 65536) :
    ∃ a', a.handlePacket (answer false) true = some a' ∧
      ((a.retrans ≤ 1 ∧ a'.isTransmitting = false ∧ a'.xmodemStore.control = .can) ∨
        (1 < a.retrans ∧ a'.Sending F stale n ∧ a'.retrans = a.retrans - 1)) := by
  have hstep : a.handlePacket (answer false) true = a.onNak := rfl
  rw [hstep, onNak, if_pos h.on]
  by_cases hr : a.retrans - 1 ≤ 0
  · rw [if_pos hr]
    exact ⟨_, rfl, Or.inl ⟨by omega, rfl, rfl⟩⟩
  · rw [if_neg hr]
    obtain ⟨name, hfile⟩ := h.file
    have hseek : (a.file.map fun f => { f with pos := ((a.packetno.toUInt32 - 1) * 128).toNat }) =
        some ⟨name, F, (n - 1) * bufferSize⟩ := by
      rw [hfile, h.number, Option.map_some, seek_pos hF h.bound]
    have he : (a.isEOT || decide (n = packets F)) = (stale || decide (n = packets F)) := by
      rw [h.eot, Bool.or_assoc, Bool.or_self]
    obtain ⟨a', hsend, hs', hr'⟩ := sendChunk_sending stale
      (a := { a with
        retrans := a.retrans - 1
        file := a.file.map fun f => { f with pos := ((a.packetno.toUInt32 - 1) * 128).toNat } })
      h.on h.number h.bound hseek he h.first
    exact ⟨a', hsend, Or.inr ⟨by omega, hs', hr'⟩⟩

theorem converse_over {s : XModemAdapter × List UInt8} (h : s.1.isTransmitting = false) (oks : List Bool) :
    oks.foldlM converse s = some s := by
  induction oks with
  | nil => rfl
  | cons ok oks ih =>
    have hs : converse s ok = some s := by simp [converse, h]
    rw [List.foldlM_cons, hs]
    exact ih

theorem converse_sending {a' : XModemAdapter} {copy : List UInt8} {ok : Bool} (h : a.isTransmitting = true)
    (hp : a.handlePacket (answer ok) true = some a') :
    converse (a, copy) ok = some (a', if ok then copy ++ a.xmodemStore.buffer else copy) := by
  unfold converse
  rw [if_pos h, hp]
  rfl

/-- The answers never hold 25 NAKs in a row, `t` NAKs having gone before. -/
def Patient (t : ℕ) (oks : List Bool) : Prop := ¬ List.replicate 25 false <:+: List.replicate t false ++ oks

theorem Patient.ack {t : ℕ} {oks : List Bool} (h : Patient t (true :: oks)) : Patient 0 oks := by
  intro hi
  rw [List.replicate_zero, List.nil_append] at hi
  exact h (hi.trans ((List.suffix_cons true oks).trans (List.suffix_append _ _)).isInfix)

theorem Patient.nak {t : ℕ} {oks : List Bool} (h : Patient t (false :: oks)) : Patient (t + 1) oks := by
  intro hi
  rw [List.replicate_succ' (n := t), List.append_assoc, List.singleton_append] at hi
  exact h hi

theorem Patient.lt {t : ℕ} {oks : List Bool} (h : Patient t oks) : t < 25 := by
  by_contra ht
  have hr : List.replicate t false = List.replicate 25 false ++ List.replicate (t - 25) false := by
    rw [List.replicate_append_replicate]
    congr 1
    omega
  refine h ?_
  rw [hr, List.append_assoc]
  exact (List.prefix_append _ _).isInfix

/-- What the phone has once it took packet `n`. -/
theorem Sending.copied {stale : Bool} {copy : List UInt8} (h : a.Sending F stale n)
    (hcopy : copy = F.take ((n - 1) * bufferSize)) :
    copy ++ a.xmodemStore.buffer = F.take (n * bufferSize) := by
  rw [hcopy, h.store, take_chunk h.bound.1]

theorem Sending.copied_last {stale : Bool} {copy : List UInt8} (h : a.Sending F stale n)
    (hcopy : copy = F.take ((n - 1) * bufferSize)) (hl : stale = true ∨ n = packets F) :
    copy ++ a.xmodemStore.buffer = if stale then F.take bufferSize else F := by
  rw [h.copied hcopy]
  by_cases hs : stale = true
  · rw [if_pos hs, h.first hs, Nat.one_mul]
  · rw [if_neg hs, hl.resolve_left hs, take_packets le_rfl]

theorem converse_run {stale : Bool} {oks : List Bool} (hF : packets F < 65536) :
    ∀ {a : XModemAdapter} {n t : ℕ} {copy : List UInt8}, a.Sending F stale n → copy = F.take ((n - 1) * bufferSize) →
    ∃ s, oks.foldlM converse (a, copy) = some s ∧ Standing F stale s.1 s.2 ∧
      (∀ m, s.1.Sending F stale m → m = n + oks.count true) ∧
      (a.retrans = maxRetrans - t → Patient t oks → s.1.xmodemStore.control ≠ .can) := by
  induction oks with
  | nil =>
    intro a n t copy h hcopy
    refine ⟨(a, copy), rfl, .sending n h hcopy, fun m hm => ?_, fun _ _ hc => ?_⟩
    · have hm' := hm.number.symm.trans h.number
      have := ofNat_inj (by have := hm.bound; omega) (by have := h.bound; omega) hm'
      simpa using this
    · rw [h.store] at hc
      cases hc
  | cons ok oks ih =>
    intro a n t copy h hcopy
    cases ok with
    | true =>
      obtain ⟨a', hp, hnext⟩ := h.ack
      have hstep : converse (a, copy) true = some (a', copy ++ a.xmodemStore.buffer) := converse_sending h.on hp
      rw [List.foldlM_cons, hstep]
      rcases hnext with ⟨hlast, hoff, heot⟩ | ⟨-, -, hs', hr'⟩
      · refine ⟨_, converse_over hoff oks, .done hoff heot (h.copied_last hcopy hlast), fun m hm => ?_,
          fun _ _ hc => ?_⟩
        · exact absurd hm.on (by rw [hoff]; simp)
        · rw [heot] at hc
          cases hc
      · obtain ⟨s, hrun, hstand, hcount, hcan⟩ := ih (t := 0) hs' (h.copied hcopy)
        refine ⟨s, hrun, hstand, fun m hm => ?_, fun _ hpat => hcan (by simpa using hr') hpat.ack⟩
        rw [hcount m hm, List.count_cons_self]
        omega
    | false =>
      obtain ⟨a', hp, hnext⟩ := h.nak hF
      have hstep : converse (a, copy) false = some (a', copy) := converse_sending h.on hp
      rw [List.foldlM_cons, hstep]
      rcases hnext with ⟨hr, hoff, hcan⟩ | ⟨-, hs', hr'⟩
      · have hb := h.bound
        refine ⟨_, converse_over hoff oks, .cancelled (n - 1) hoff hcan (by omega) hcopy, fun m hm => ?_,
          fun ht hpat _ => ?_⟩
        · exact absurd hm.on (by rw [hoff]; simp)
        · have := hpat.nak.lt
          unfold maxRetrans at ht
          omega
      · obtain ⟨s, hrun, hstand, hcount, hcan⟩ := ih (t := t + 1) hs' hcopy
        refine ⟨s, hrun, hstand, fun m hm => ?_, fun ht hpat => hcan ?_ hpat.nak⟩
        · rw [hcount m hm]
          simp
        · rw [hr', ht]
          push_cast
          omega

theorem sending_start (hr : a.isReceiving = false) (ht : a.isTransmitting = false) {p₀ : XModem}
    (hc : p₀.control = .stx) (hs : p₀.seq = 0) (hfile : a.flash (a.nameFile p₀).fileName = some F) :
    ∃ a₁, a.handlePacket p₀ true = some a₁ ∧ a₁.Sending F a.isEOT 1 ∧ a₁.retrans = a.retrans := by
  have hopen : a.handlePacket p₀ true = (a.nameFile p₀).openForRead true := by
    simp [handlePacket, hc, onData, hs, hr, ht]
  have hflash : (if true = true then (a.nameFile p₀).flash (a.nameFile p₀).fileName else none) = some F := hfile
  rw [hopen, openForRead, hflash]
  refine sendChunk_sending a.isEOT rfl rfl ⟨le_rfl, Nat.le_add_left _ _⟩ rfl rfl fun _ => rfl

def oneFile : Str → Option (List UInt8) := fun name => if name = [97] then some [1, 2, 3] else none

end XModemAdapter
end MonsterMesh
