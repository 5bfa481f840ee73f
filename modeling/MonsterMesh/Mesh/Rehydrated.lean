import Mathlib.Algebra.BigOperators.Fin
import MonsterMesh.Lib.Walk
import MonsterMesh.Mesh.Cache

/-! What comes back out of the packet cache, and the sizes it keeps. -/
namespace MonsterMesh

open Bytes

/-! ### Metadata and entries are read back from their bytes -/

/-- A bit-field is what its bits of a word say. -/
theorem ofNat_eq {w v : ℕ} {x : BitVec w} (h : v % 2 ^ w = x.toNat) : BitVec.ofNat w v = x :=
  BitVec.eq_of_toNat_eq ((BitVec.toNat_ofNat ..).trans h)

namespace PacketCacheMetadata

variable (m : PacketCacheMetadata)

theorem word_lt : m.word < 256 ^ 4 := by
  have h₁ := m.portnum.isLt
  have h₂ := m.wantResponse.isLt
  have h₃ := m.emoji.isLt
  have h₄ := m.bitfield.isLt
  have h₅ := m.rxRssi.toNat_lt
  unfold word
  omega

theorem ofRaw_raw : ofRaw m.raw = m := by
  have h₁ := m.portnum.isLt
  have h₂ := m.wantResponse.isLt
  have h₃ := m.emoji.isLt
  have h₄ := m.bitfield.isLt
  have h₅ := m.rxRssi.toNat_lt
  have h₆ := m.priority.isLt
  unfold ofRaw raw
  simp only [read_le m.word_lt, read_le (n := 4) m.replyId.toNat_lt, read_le (n := 4) m.rxTime.toNat_lt,
    read_le (n := 1) m.transportMechanism.toNat_lt, read_le (n := 1) (v := 0) (by decide),
    read_le (n := 1) (v := m.priority.toNat) (by omega)]
  refine PacketCacheMetadata.ext (ofNat_eq ?_) (ofNat_eq ?_) (ofNat_eq ?_) (ofNat_eq ?_) ?_
    UInt32.ofNat_toNat UInt32.ofNat_toNat UInt8.ofNat_toNat (ofNat_eq (by omega))
  · unfold word
    omega
  · unfold word
    omega
  · unfold word
    omega
  · unfold word
    omega
  · apply UInt8.toNat_inj.mp
    rw [UInt8.toNat_ofNat']
    unfold word
    omega

theorem length_raw : m.raw.length = sizeofPacketCacheMetadata := by
  unfold raw
  simp only [List.length_append, length_le]
  rfl

end PacketCacheMetadata

namespace PacketCacheEntry

/-- The block holds the payload, and the metadata if there is any. -/
def Whole (e : PacketCacheEntry) : Prop :=
  e.tail.length = e.payloadLen.toNat + if e.hasMetadata then sizeofPacketCacheMetadata else 0

variable {e : PacketCacheEntry}

theorem length_raw (next : UInt32) (h : e.Whole) : (e.raw next).length = e.len := by
  unfold raw len
  simp only [List.length_append, length_le]
  rw [h]
  show _ = 24 + _ + _
  omega

theorem ofRaw_raw (next : UInt32) (h : e.Whole) (rest : List UInt8) : ofRaw (e.raw next ++ rest) = e := by
  have hbits : e.encrypted.toNat + 2 * e.hasMetadata.toNat < 256 ^ 2 := by
    cases e.encrypted <;> cases e.hasMetadata <;> decide
  unfold ofRaw raw
  simp only [List.append_assoc, read_le (n := 4) next.toNat_lt, read_le (n := 4) e.header.to'.toNat_lt,
    read_le (n := 4) e.header.from'.toNat_lt, read_le (n := 4) e.header.id.toNat_lt,
    read_le (n := 1) e.header.flags.toNat_lt, read_le (n := 1) e.header.channel.toNat_lt,
    read_le (n := 1) e.header.nextHop.toNat_lt, read_le (n := 1) e.header.relayNode.toNat_lt,
    read_le (n := 2) e.payloadLen.toNat_lt, read_le hbits]
  have hmeta : decide ((e.encrypted.toNat + 2 * e.hasMetadata.toNat) / 2 % 2 = 1) = e.hasMetadata := by
    cases e.encrypted <;> cases e.hasMetadata <;> rfl
  have henc : decide ((e.encrypted.toNat + 2 * e.hasMetadata.toNat) % 2 = 1) = e.encrypted := by
    cases e.encrypted <;> cases e.hasMetadata <;> rfl
  rw [hmeta, henc, Nat.mod_eq_of_lt e.payloadLen.toNat_lt, List.take_left' h]
  simp only [UInt32.ofNat_toNat, UInt8.ofNat_toNat, UInt16.ofNat_toNat]

end PacketCacheEntry

namespace PacketCache

/-- The size of the buffer that a dump fills. -/
theorem length_dump {entries : List (UInt32 × PacketCacheEntry)} (h : ∀ x ∈ entries, x.2.Whole) :
    (dump entries).length = dumpSize (entries.map Prod.snd) := by
  unfold dump dumpSize
  rw [List.length_flatMap, List.map_map]
  exact congrArg List.sum (List.map_congr_left fun x hx => PacketCacheEntry.length_raw x.1 (h x hx))

/-- A dump is loaded as the entries it was made of. -/
theorem entriesOf_dump {entries : List (UInt32 × PacketCacheEntry)} (h : ∀ x ∈ entries, x.2.Whole) :
    entriesOf entries.length (dump entries) = entries.map Prod.snd := by
  induction entries with
  | nil => rfl
  | cons x entries ih =>
    have hx := h x (List.mem_cons_self ..)
    unfold dump at ih ⊢
    rw [List.flatMap_cons, List.length_cons, entriesOf, PacketCacheEntry.ofRaw_raw x.1 hx]
    rw [List.drop_left' (PacketCacheEntry.length_raw x.1 hx), ih fun y hy => h y (List.mem_cons_of_mem x hy)]
    rfl

end PacketCache

/-! ### A packet is rehydrated -/

/-- The fields of a decoded payload that a cache is asked to keep. -/
structure Data.SameAs (d d' : Data) : Prop where
  portnum : d'.portnum = d.portnum
  payload : d'.payload = d.payload
  wantResponse : d'.wantResponse = d.wantResponse
  emoji : d'.emoji ≠ 0 ↔ d.emoji ≠ 0
  bitfield : d'.bitfield = d.bitfield
  replyId : d'.replyId = d.replyId
  requestId : d'.requestId = d.requestId

def PayloadVariant.SameAs : PayloadVariant → PayloadVariant → Prop
  | .decoded d, .decoded d' => d.SameAs d'
  | .encrypted bytes, .encrypted bytes' => bytes' = bytes
  | _, _ => False

/-- The fields of a packet that a cache is asked to keep. -/
structure MeshPacket.SameAs (p q : MeshPacket) : Prop where
  from' : q.from' = p.from'
  to' : q.to' = p.to'
  id : q.id = p.id
  channel : q.channel = p.channel
  nextHop : q.nextHop = p.nextHop
  relayNode : q.relayNode = p.relayNode
  hopLimit : q.hopLimit = p.hopLimit
  hopStart : q.hopStart = p.hopStart
  wantAck : q.wantAck = p.wantAck
  viaMqtt : q.viaMqtt = p.viaMqtt
  rxTime : q.rxTime = p.rxTime
  transportMechanism : q.transportMechanism = p.transportMechanism
  priority : q.priority = p.priority
  variant : p.variant.SameAs q.variant

/-- A payload that fits its array, with a port that has a number in the table of ports. -/
def PayloadVariant.InDomain : PayloadVariant → Prop
  | .decoded d => d.payload.length ≤ 233 ∧ d.portnum < 512
  | .encrypted bytes => bytes.length ≤ 256
  | .unset => False

/-- A packet with hop counts of three bits and a payload. -/
structure MeshPacket.InDomain (p : MeshPacket) : Prop where
  hopLimit : p.hopLimit ≤ 7
  hopStart : p.hopStart ≤ 7
  variant : p.variant.InDomain

/-- The fields of a decoded payload fit what the metadata has for them. -/
structure Data.Fits (d : Data) : Prop where
  bitfield : d.bitfield < 32
  emoji : d.emoji = 0 ∨ d.emoji.toNat % 2 = 1
  requestId : d.requestId = 0

def PayloadVariant.Fits : PayloadVariant → Prop
  | .decoded d => d.Fits
  | _ => True

structure MeshPacket.Fits (p : MeshPacket) : Prop where
  priority : p.priority < 128
  variant : p.variant.Fits

theorem headerFlags_table : ∀ (a b : Fin 8) (wantAck viaMqtt : Bool),
    headerFlags (UInt8.ofNat a.val) (UInt8.ofNat b.val) wantAck viaMqtt &&& 0x07 = UInt8.ofNat a.val ∧
      (headerFlags (UInt8.ofNat a.val) (UInt8.ofNat b.val) wantAck viaMqtt &&& 0xE0) >>> 5 =
        UInt8.ofNat b.val ∧
      decide (headerFlags (UInt8.ofNat a.val) (UInt8.ofNat b.val) wantAck viaMqtt &&& 0x08 ≠ 0) = wantAck ∧
      decide (headerFlags (UInt8.ofNat a.val) (UInt8.ofNat b.val) wantAck viaMqtt &&& 0x10 ≠ 0) =
        viaMqtt := by
  decide +kernel

/-- The flags of a header are read back, for hop counts of three bits. -/
theorem headerFlags_read {hopLimit hopStart : UInt8} (wantAck viaMqtt : Bool) (hl : hopLimit ≤ 7)
    (hs : hopStart ≤ 7) :
    headerFlags hopLimit hopStart wantAck viaMqtt &&& 0x07 = hopLimit ∧
      (headerFlags hopLimit hopStart wantAck viaMqtt &&& 0xE0) >>> 5 = hopStart ∧
      decide (headerFlags hopLimit hopStart wantAck viaMqtt &&& 0x08 ≠ 0) = wantAck ∧
      decide (headerFlags hopLimit hopStart wantAck viaMqtt &&& 0x10 ≠ 0) = viaMqtt := by
  have h := headerFlags_table ⟨hopLimit.toNat, Nat.lt_succ_of_le (UInt8.le_iff_toNat_le.mp hl)⟩
    ⟨hopStart.toNat, Nat.lt_succ_of_le (UInt8.le_iff_toNat_le.mp hs)⟩ wantAck viaMqtt
  simpa only [UInt8.ofNat_toNat] using h

/-- What the metadata says about a decoded payload. -/
def PacketCacheMetadata.data (m : PacketCacheMetadata) (payload : List UInt8) : Data :=
  { Data.zero with
    payload := payload
    portnum := UInt32.ofNat m.portnum.toNat
    wantResponse := m.wantResponse ≠ 0
    emoji := UInt32.ofNat m.emoji.toNat
    bitfield := UInt8.ofNat m.bitfield.toNat
    replyId := m.replyId }

/-- An entry with metadata gives back its header, its payload and what the metadata says. -/
theorem rehydrate_eq {e : PacketCacheEntry} {m : PacketCacheMetadata} {payload : List UInt8}
    (hm : e.hasMetadata = true) (hlen : e.payloadLen.toNat = payload.length)
    (ht : e.tail = payload ++ m.raw) :
    e.rehydrate = { MeshPacket.zero with
      from' := e.header.from', to' := e.header.to', id := e.header.id, channel := e.header.channel
      nextHop := e.header.nextHop, relayNode := e.header.relayNode
      hopLimit := e.header.flags &&& 0x07
      wantAck := e.header.flags &&& 0x08 ≠ 0
      viaMqtt := e.header.flags &&& 0x10 ≠ 0
      hopStart := (e.header.flags &&& 0xE0) >>> 5
      rxRssi := m.rxRssi.toNat - 200
      rxTime := m.rxTime
      transportMechanism := m.transportMechanism
      priority := UInt8.ofNat m.priority.toNat
      variant := if e.encrypted then .encrypted payload else .decoded (m.data payload) } := by
  unfold PacketCacheEntry.rehydrate
  rw [hm, hlen, ht, List.take_left, List.drop_left, if_pos rfl, m.ofRaw_raw]
  cases e.encrypted with
  | true => rfl
  | false =>
    have hreply : (if m.replyId ≠ 0 then m.replyId else 0) = m.replyId := by
      by_cases h : m.replyId = 0
      · rw [if_neg (not_not.mpr h), h]
      · rw [if_pos h]
    have hrequest : (if m.replyId ≠ 0 then (0 : UInt32) else m.replyId) = 0 := by
      by_cases h : m.replyId = 0
      · rw [if_neg (not_not.mpr h), h]
      · rw [if_pos h]
    simp only [if_true, Bool.false_eq_true, if_false, hreply, hrequest]
    rfl

theorem payloadLen_eq {n : ℕ} (h : n ≤ 256) : (UInt16.ofNat n).toNat = n := by
  rw [UInt16.toNat_ofNat']
  omega

theorem priority_read {x : UInt8} : UInt8.ofNat (BitVec.ofNat 7 x.toNat).toNat = x ↔ x < 128 := by
  rw [UInt8.lt_iff_toNat_lt, ← UInt8.toNat_inj, UInt8.toNat_ofNat', BitVec.toNat_ofNat]
  have hx := x.toNat_lt
  show x.toNat % 128 % 256 = x.toNat ↔ x.toNat < 128
  omega

theorem bitfield_read {x : UInt8} : UInt8.ofNat (BitVec.ofNat 5 x.toNat).toNat = x ↔ x < 32 := by
  rw [UInt8.lt_iff_toNat_lt, ← UInt8.toNat_inj, UInt8.toNat_ofNat', BitVec.toNat_ofNat]
  have hx := x.toNat_lt
  show x.toNat % 32 % 256 = x.toNat ↔ x.toNat < 32
  omega

theorem portnum_read {x : UInt32} (h : x < 512) : UInt32.ofNat (BitVec.ofNat 9 x.toNat).toNat = x := by
  rw [UInt32.lt_iff_toNat_lt] at h
  rw [← UInt32.toNat_inj, UInt32.toNat_ofNat', BitVec.toNat_ofNat]
  have hx : x.toNat < 512 := h
  show x.toNat % 512 % 4294967296 = x.toNat
  omega

theorem wantResponse_read (b : Bool) : decide (BitVec.ofBool b ≠ 0) = b := by cases b <;> rfl

theorem emoji_read {x : UInt32} :
    (UInt32.ofNat (BitVec.ofNat 1 x.toNat).toNat ≠ 0 ↔ x ≠ 0) ↔ x = 0 ∨ x.toNat % 2 = 1 := by
  have hz : ∀ y : UInt32, y = 0 ↔ y.toNat = 0 := fun y => UInt32.toNat_inj.symm
  rw [ne_eq, ne_eq, hz, hz x, UInt32.toNat_ofNat', BitVec.toNat_ofNat]
  show (¬ x.toNat % 2 % 4294967296 = 0 ↔ ¬ x.toNat = 0) ↔ _
  omega

/-- The shared word gives the reply back, and a request only as a reply. -/
theorem identifiers_read {reply request : UInt32} :
    (if reply ≠ 0 then reply else if request ≠ 0 then request else 0) = reply ∧ (0 : UInt32) = request ↔
      request = 0 := by
  constructor
  · rintro ⟨_, h⟩
    exact h.symm
  · rintro rfl
    refine ⟨?_, rfl⟩
    by_cases h : reply = 0
    · rw [if_neg (not_not.mpr h), if_neg (not_not.mpr rfl), h]
    · rw [if_pos h]

theorem data_sameAs_iff {m : PacketCacheMetadata} {d : Data} (hm : m.replyId = 0) (hd : d.portnum < 512) :
    d.SameAs ((m.describe d).data d.payload) ↔ d.Fits := by
  have hid := @identifiers_read d.replyId d.requestId
  constructor
  · intro h
    have hreply := h.replyId
    unfold PacketCacheMetadata.describe PacketCacheMetadata.data at hreply
    dsimp only at hreply
    rw [hm] at hreply
    exact ⟨bitfield_read.mp h.bitfield, emoji_read.mp h.emoji, hid.mp ⟨hreply, h.requestId⟩⟩
  · intro h
    have hreply : (m.describe d).replyId = d.replyId := by
      unfold PacketCacheMetadata.describe
      dsimp only
      rw [hm]
      exact (hid.mpr h.requestId).1
    exact ⟨portnum_read hd, rfl, wantResponse_read d.wantResponse, emoji_read.mpr h.emoji,
      bitfield_read.mpr h.bitfield, hreply, h.requestId.symm⟩

/-- What is left to compare once the header and the metadata of every variant are read back. -/
theorem sameAs_iff {p : MeshPacket} {e : PacketCacheEntry} {m : PacketCacheMetadata} {payload : List UInt8}
    (h : p.InDomain) (hm : e.hasMetadata = true) (hlen : e.payloadLen.toNat = payload.length)
    (ht : e.tail = payload ++ m.raw) (hh : e.header = p.header)
    (hmeta : m.rxTime = p.rxTime ∧ m.transportMechanism = p.transportMechanism ∧
      m.priority = BitVec.ofNat 7 p.priority.toNat) :
    p.SameAs e.rehydrate ↔ p.priority < 128 ∧
      p.variant.SameAs (if e.encrypted then .encrypted payload else .decoded (m.data payload)) := by
  obtain ⟨hlimit, hstart, hack, hmqtt⟩ := headerFlags_read p.wantAck p.viaMqtt h.hopLimit h.hopStart
  rw [rehydrate_eq hm hlen ht, hh, hmeta.1, hmeta.2.1, hmeta.2.2]
  constructor
  · intro hs
    exact ⟨priority_read.mp hs.priority, hs.variant⟩
  · rintro ⟨hpri, hvar⟩
    exact ⟨rfl, rfl, rfl, rfl, rfl, rfl, hlimit, hstart, hack, hmqtt, rfl, rfl, priority_read.mpr hpri, hvar⟩

/-- A packet has an entry, which holds its whole payload and gives the packet back exactly if the
packet fits the metadata. -/
theorem cacheEntry_rehydrates {p : MeshPacket} (h : p.InDomain) :
    ∃ e, p.cacheEntry true = some e ∧ e.Whole ∧ (p.SameAs e.rehydrate ↔ p.Fits) := by
  have hdom := h.variant
  have hfits : p.Fits ↔ p.priority < 128 ∧ p.variant.Fits := ⟨fun h => ⟨h.1, h.2⟩, fun h => ⟨h.1, h.2⟩⟩
  unfold MeshPacket.cacheEntry
  rw [hfits]
  cases hv : p.variant with
  | unset =>
    rw [hv] at hdom
    exact hdom.elim
  | encrypted bytes =>
    rw [hv] at hdom
    have hlen := payloadLen_eq hdom
    refine ⟨_, rfl, ?_, ?_⟩
    · unfold PacketCacheEntry.Whole
      dsimp only
      rw [List.length_append, hlen, if_pos rfl, if_pos rfl, p.metadata.length_raw]
    · rw [sameAs_iff h rfl hlen rfl rfl ⟨rfl, rfl, rfl⟩, hv]
      exact and_congr_right fun _ => ⟨fun _ => trivial, fun _ => rfl⟩
  | decoded d =>
    rw [hv] at hdom
    have hlen := payloadLen_eq (Nat.le_trans hdom.1 (by decide))
    refine ⟨_, rfl, ?_, ?_⟩
    · unfold PacketCacheEntry.Whole
      dsimp only
      rw [List.length_append, hlen, if_pos rfl, if_pos rfl, PacketCacheMetadata.length_raw]
    · rw [sameAs_iff h rfl hlen rfl rfl ⟨rfl, rfl, rfl⟩, hv]
      exact and_congr_right fun _ => data_sameAs_iff rfl hdom.2

end MonsterMesh
