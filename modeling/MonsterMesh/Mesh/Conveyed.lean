import MonsterMesh.Mesh.ChannelTable
import MonsterMesh.Mesh.Encryption
import MonsterMesh.Mesh.Flood

/-! What one node encodes another one decodes. -/
namespace MonsterMesh

open Fallible Text

namespace Channels

variable {c : Channels} {stack : ℕ}

/-- Every hash fits into the header, and it is known of every channel which key it has, if any. -/
def Usable (stack : ℕ) (c : Channels) : Prop := ∀ i, c.hashes i < 256 ∧ ∃ k, c.getKey stack i = .ok k

theorem hashOf_lt (name : Text.Str) (k : CryptoKey) : hashOf name k < 256 := by
  cases k with
  | none => exact (by decide : (-1 : ℤ) < 256)
  | some bytes => exact Int.ofNat_lt.mpr (UInt8.toNat_lt _)

/-- A table that is sound is usable. -/
theorem Sound.usable (h : c.Sound stack) : c.Usable stack := by
  intro i
  obtain ⟨k, hk, _⟩ := h.keys i
  obtain ⟨k', _, hh⟩ := map_eq_ok.mp (h.hashes i)
  exact ⟨hh ▸ hashOf_lt _ k', k, hk⟩

end Channels

/-- The packet as `Router::send` has it: its sender is named. -/
def MeshPacket.signed (p : MeshPacket) (nodeNum : UInt32) : MeshPacket := { p with from' := p.getFrom nodeNum }

/-- The nodes hold one channel table and each other's public keys, and neither is licensed. -/
structure Acquainted (a b : Station) : Prop where
  channels : b.channels = a.channels
  unlicensed : a.isLicensed = false ∧ b.isLicensed = false
  knownOnly : b.knownOnly = false
  numbered : b.nodeNum ≠ 0
  keys : a.publicKey.length = 32 ∧ b.publicKey.length = 32
  knowsB : (a.getMeshNode b.nodeNum).map NodeUser.publicKey = some b.publicKey
  knowsA : (b.getMeshNode a.nodeNum).map NodeUser.publicKey = some a.publicKey
  knowsItself : (b.getMeshNode b.nodeNum).map NodeUser.publicKey = some b.publicKey

namespace Cryptography

/-- Decoding inverts encoding, for a packet that `a` sends to `b` with the payload `d`. -/
structure Inverts (w : Cryptography) (a b : Station) (packetId extraNonce : UInt32) (d : Data) : Prop where
  protobuf : w.pbDecode (w.pbEncode d) = some d
  written : d.portnum ≠ unknownApp → w.pbEncode d ≠ []
  counter : ∀ key fromNode packetId bytes,
    w.encryptAESCtr key fromNode packetId (w.encryptAESCtr key fromNode packetId bytes) = bytes
  counterLength : ∀ key fromNode packetId bytes,
    (w.encryptAESCtr key fromNode packetId bytes).length = bytes.length
  aead : ∀ bytes, w.decryptCurve25519 b.privateKey a.publicKey a.nodeNum packetId
    (w.encryptCurve25519 a.privateKey b.publicKey a.nodeNum packetId extraNonce bytes) = some bytes
  aeadLength : ∀ bytes, (w.encryptCurve25519 a.privateKey b.publicKey a.nodeNum packetId extraNonce bytes).length =
    bytes.length + pkcOverhead

/-- What is encrypted under a channel's key is nothing to any other key, nor to the AEAD. -/
structure Hides (w : Cryptography) (a b : Station) (packetId : UInt32) (d : Data) (key : List UInt8) : Prop where
  wrongKey : ∀ key' ≠ key, ∀ d', w.pbDecode (w.encryptPacket key' a.nodeNum packetId
    (w.encryptPacket key a.nodeNum packetId (w.pbEncode d))) = some d' → d'.portnum = unknownApp
  rejects : w.decryptCurve25519 b.privateKey a.publicKey a.nodeNum packetId
    (w.encryptPacket key a.nodeNum packetId (w.pbEncode d)) = none

namespace Inverts

variable {w : Cryptography} {a b : Station} {packetId extraNonce : UInt32} {d : Data}

theorem encryptPacket_length (h : w.Inverts a b packetId extraNonce d) (key : List UInt8)
    (fromNode id : UInt32) (bytes : List UInt8) : (w.encryptPacket key fromNode id bytes).length = bytes.length := by
  unfold encryptPacket
  split_ifs
  · rfl
  · exact h.counterLength ..

/-- `decrypt` is `encryptPacket` again. -/
theorem encryptPacket_twice (h : w.Inverts a b packetId extraNonce d) (key : List UInt8)
    (fromNode id : UInt32) (bytes : List UInt8) :
    w.encryptPacket key fromNode id (w.encryptPacket key fromNode id bytes) = bytes := by
  have hlen := h.encryptPacket_length key fromNode id bytes
  by_cases hplain : key = [] ∨ 256 < bytes.length
  · have hsame : w.encryptPacket key fromNode id bytes = bytes := if_pos hplain
    rw [hsame, hsame]
  · have hctr : w.encryptPacket key fromNode id bytes = w.encryptAESCtr key fromNode id bytes := if_neg hplain
    rw [hctr] at hlen ⊢
    unfold encryptPacket
    rw [hlen, if_neg hplain]
    exact h.counter ..

end Inverts

theorem pbEncodeToBytes_eq {w : Cryptography} {d : Data} (h : (w.pbEncode d).length ≤ 256) :
    w.pbEncodeToBytes d = w.pbEncode d := if_pos h

end Cryptography

namespace Station

variable {w : Cryptography} {stack : ℕ} {a b n : Station} {p q : MeshPacket} {d e : Data} {k : List UInt8}
  {extraNonce : UInt32} {i : Fin 8}

/-- `b` decodes the packet, to what the payload `d` says. -/
def Conveys (w : Cryptography) (stack : ℕ) (b : Station) (p : MeshPacket) (d : Data) (wantResponse : Bool) :
    Prop :=
  ∃ r d', b.perhapsDecode w stack p = .ok r ∧ r.state = .success ∧ r.packet.variant = .decoded d' ∧
    d'.portnum = d.portnum ∧ d'.payload = d.payload ∧ d'.requestId = d.requestId ∧ d'.replyId = d.replyId ∧
    d'.wantResponse = wantResponse

/-! ### The sender -/

/-- The packet that was encrypted with the public key of `node`. -/
def sealedPacket (w : Cryptography) (n : Station) (extraNonce : UInt32) (p : MeshPacket) (node : NodeUser)
    (bytes : List UInt8) : MeshPacket :=
  { p with
    variant := .encrypted (w.encryptCurve25519 n.privateKey node.publicKey (p.getFrom n.nodeNum) p.id extraNonce bytes)
    channel := 0, pkiEncrypted := true }

/-- The packet that was encrypted with the key of a channel. -/
def channelPacket (w : Cryptography) (n : Station) (p : MeshPacket) (hash : ℤ) (key bytes : List UInt8) :
    MeshPacket :=
  { p with
    channel := UInt8.ofInt hash
    variant := .encrypted (w.encryptPacket key (p.getFrom n.nodeNum) p.id bytes) }

theorem setActiveByIndex_ok {c : Channels} {key : List UInt8} {chIndex : UInt8} {r : ℤ × List UInt8}
    (h : c.setActiveByIndex stack key chIndex = .ok r) (hr : 0 ≤ r.1) :
    ∃ i, Channels.indexOf? chIndex = some i ∧ r.1 = c.hashes i ∧ c.getKey stack i = .ok (some r.2) := by
  unfold Channels.setActiveByIndex at h
  cases hi : Channels.indexOf? chIndex with
  | none =>
    rw [hi] at h
    cases h
    exact absurd (show (0 : ℤ) ≤ -1 from hr) (by decide)
  | some i =>
    rw [hi] at h
    obtain ⟨k, hk, rfl⟩ := map_eq_ok.mp h
    cases k with
    | none => exact absurd (show (0 : ℤ) ≤ -1 from hr) (by decide)
    | some bytes => exact ⟨i, rfl, rfl, hk⟩

theorem toNat_ofInt {h : ℤ} (hpos : 0 ≤ h) (hlt : h < 256) : ((UInt8.ofInt h).toNat : ℤ) = h := by
  unfold UInt8.ofInt
  rw [UInt8.toNat_ofNat']
  omega

/-- A packet is encoded in one of two ways. -/
theorem perhapsEncode_cases (hp : p.variant = .decoded d) {key : List UInt8}
    (h : n.perhapsEncode w stack extraNonce p = .ok ⟨.none, q, key⟩) :
    (∃ node, n.pkiNode p (n.marked p d) = some node ∧
      (w.pbEncodeToBytes (n.marked p d)).length + headerLength + pkcOverhead ≤ maxLoraPayloadLen ∧
      q = sealedPacket w n extraNonce p node (w.pbEncodeToBytes (n.marked p d))) ∨
    n.pkiNode p (n.marked p d) = none ∧
      (w.pbEncodeToBytes (n.marked p d)).length + headerLength ≤ maxLoraPayloadLen ∧
      ∃ i k, Channels.indexOf? p.channel = some i ∧ n.channels.getKey stack i = .ok (some k) ∧
        0 ≤ n.channels.hashes i ∧
        q = channelPacket w n p (n.channels.hashes i) k (w.pbEncodeToBytes (n.marked p d)) := by
  unfold perhapsEncode at h
  rw [hp] at h
  dsimp only at h
  by_cases hlarge : maxLoraPayloadLen < (w.pbEncodeToBytes (n.marked p d)).length + headerLength
  · rw [if_pos hlarge] at h
    cases h
  rw [if_neg hlarge] at h
  have hnode : n.pkiNode { p with variant := .decoded (n.marked p d) } (n.marked p d) =
      n.pkiNode p (n.marked p d) := rfl
  rw [hnode] at h
  cases hpki : n.pkiNode p (n.marked p d) with
  | some node =>
    rw [hpki] at h
    dsimp only at h
    split_ifs at h with hlarger hkey
    · cases h
    · cases h
    · cases h
      exact Or.inl ⟨node, rfl, not_lt.mp hlarger, rfl⟩
  | none =>
    rw [hpki] at h
    dsimp only at h
    by_cases hasked : p.pkiEncrypted = true
    · rw [if_pos hasked] at h
      cases h
    rw [if_neg hasked] at h
    obtain ⟨r, hr, heq⟩ := map_eq_ok.mp h
    by_cases hneg : r.1 < 0
    · rw [if_pos hneg] at heq
      cases heq
    rw [if_neg hneg] at heq
    obtain ⟨i, hi, hhash, hk⟩ := setActiveByIndex_ok hr (not_lt.mp hneg)
    cases heq
    refine Or.inr ⟨rfl, not_lt.mp hlarge, i, r.2, hi, hk, hhash ▸ not_lt.mp hneg, ?_⟩
    rw [← hhash]
    rfl

/-! ### The receiver -/

/-- What the channels make of a packet that was encrypted with the key of channel `i`. -/
theorem tryChannels_found (hu : n.channels.Usable stack) {bytes : List UInt8} (hd : d.portnum ≠ unknownApp)
    (hright : w.pbDecode (w.encryptPacket k p.from' p.id bytes) = some d)
    (hwrong : ∀ key' ≠ k, ∀ d', w.pbDecode (w.encryptPacket key' p.from' p.id bytes) = some d' →
      d'.portnum = unknownApp)
    (hk : n.channels.getKey stack i = .ok (some k)) (hi : n.channels.hashes i = p.channel.toNat)
    {l : List (Fin 8)} (hmem : i ∈ l) (key : List UInt8) :
    ∃ r, n.tryChannels w stack p bytes l key = .ok r ∧
      if n.isLicensed = false ∧ p.isToUs n.nodeNum = true ∧ d.portnum = textMessageApp then r.1 = .legacy
      else ∃ j, r.1 = .found j d := by
  induction l generalizing key with
  | nil => exact absurd hmem List.not_mem_nil
  | cons j rest ih =>
    unfold tryChannels
    by_cases hhash : n.channels.hashes j ≠ p.channel.toNat
    · rw [if_pos hhash]
      have hne : i ≠ j := fun he => hhash (he ▸ hi)
      exact ih ((List.mem_cons.mp hmem).resolve_left hne) key
    rw [if_neg hhash]
    obtain ⟨_, kj, hkj⟩ := hu j
    have hset : ∃ key', n.channels.setCrypto stack key j = .ok key' ∧ (j = i → key'.2 = k) := by
      unfold Channels.setCrypto
      rw [hkj]
      refine ⟨_, rfl, fun he => ?_⟩
      rw [he, hk] at hkj
      cases hkj
      rfl
    obtain ⟨active, hset, hactive⟩ := hset
    rw [hset, bind_ok]
    by_cases hkey : active.2 = k
    · rw [hkey, hright]
      dsimp only
      rw [if_neg hd]
      by_cases hlegacy : n.isLicensed = false ∧ p.isToUs n.nodeNum = true ∧ d.portnum = textMessageApp
      · have hrefused : (!n.isLicensed && p.isToUs n.nodeNum && decide (d.portnum = textMessageApp)) = true := by
          rw [hlegacy.1, hlegacy.2.1, decide_eq_true hlegacy.2.2]
          rfl
        rw [if_pos hrefused]
        exact ⟨_, rfl, (if_pos hlegacy).mpr rfl⟩
      · have hrefused : ¬ (!n.isLicensed && p.isToUs n.nodeNum && decide (d.portnum = textMessageApp)) = true := by
          simpa [and_assoc] using hlegacy
        rw [if_neg hrefused]
        exact ⟨_, rfl, (if_neg hlegacy).mpr ⟨j, rfl⟩⟩
    · have hrest : i ∈ rest := (List.mem_cons.mp hmem).resolve_left fun he => hkey (hactive he.symm)
      cases hdec : w.pbDecode (w.encryptPacket active.2 p.from' p.id bytes) with
      | none => exact ih hrest active.2
      | some d' =>
        dsimp only
        rw [if_pos (hwrong _ hkey d' hdec)]
        exact ih hrest active.2

/-- How `b` reads what was encrypted with the key of a channel. -/
theorem decodeByChannel_found (hab : Acquainted a b) (hu : a.channels.Usable stack) (hto : p.to' = b.nodeNum)
    {bytes : List UInt8} (hd : d.portnum ≠ unknownApp)
    (hright : w.pbDecode (w.encryptPacket k p.from' p.id bytes) = some d)
    (hwrong : ∀ key' ≠ k, ∀ d', w.pbDecode (w.encryptPacket key' p.from' p.id bytes) = some d' →
      d'.portnum = unknownApp)
    (hk : a.channels.getKey stack i = .ok (some k)) (hi : a.channels.hashes i = p.channel.toNat) :
    ∃ r, b.decodeByChannel w stack p bytes = .ok r ∧
      if d.portnum = textMessageApp then r.state = .failure
      else r.state = .success ∧ ∃ chIndex, r.packet = accepted p chIndex d := by
  have hus : p.isToUs b.nodeNum = true := decide_eq_true hto
  rw [← hab.channels] at hu hk hi
  obtain ⟨⟨attempt, key⟩, hr, hcase⟩ :=
    tryChannels_found hu hd hright hwrong hk hi (List.mem_finRange i) b.key
  unfold decodeByChannel
  rw [hr]
  refine ⟨_, rfl, ?_⟩
  by_cases htext : d.portnum = textMessageApp
  · rw [if_pos ⟨hab.unlicensed.2, hus, htext⟩] at hcase
    dsimp only at hcase
    subst hcase
    exact (if_pos htext).mpr rfl
  · rw [if_neg fun hc => htext hc.2.2] at hcase
    obtain ⟨chIndex, hcase⟩ := hcase
    dsimp only at hcase
    subst hcase
    exact (if_neg htext).mpr ⟨rfl, _, rfl⟩

/-- The AEAD has no part in it. -/
theorem perhapsDecode_channel (hab : Acquainted a b) (hfrom : p.from' = a.nodeNum) {bytes : List UInt8}
    (hp : p.variant = .encrypted bytes) (hlen : bytes.length ≤ 256)
    (hrejects : w.decryptCurve25519 b.privateKey a.publicKey p.from' p.id bytes = none) :
    b.perhapsDecode w stack p = b.decodeByChannel w stack p bytes := by
  unfold perhapsDecode
  rw [hab.knownOnly, Bool.false_and, if_neg Bool.false_ne_true, hp]
  dsimp only
  rw [if_neg (not_lt.mpr hlen)]
  cases hs : b.pkiSender p bytes.length with
  | none => rfl
  | some publicKey =>
    have hknows := hab.knowsA
    have hkey : publicKey = a.publicKey := by
      unfold pkiSender at hs
      rw [hfrom] at hs
      obtain ⟨sender, hsender, hsame⟩ := Option.map_eq_some_iff.mp hknows
      rw [hsender] at hs
      cases hreceiver : b.getMeshNode p.to' with
      | none =>
        rw [hreceiver] at hs
        cases hs
      | some receiver =>
        rw [hreceiver] at hs
        dsimp only at hs
        split_ifs at hs
        cases hs
        exact hsame
    dsimp only
    rw [hkey, hrejects]

/-- How `b` reads what was encrypted with its public key. -/
theorem perhapsDecode_sealed (hab : Acquainted a b) (hfrom : p.from' = a.nodeNum) (hto : p.to' = b.nodeNum)
    (hone : isBroadcast p.to' = false) (hchannel : p.channel = 0) {bytes plain : List UInt8}
    (hp : p.variant = .encrypted bytes) (hlen : bytes.length ≤ 256) (hover : pkcOverhead < bytes.length)
    (hopen : w.decryptCurve25519 b.privateKey a.publicKey p.from' p.id bytes = some plain)
    (hplain : w.pbDecode plain = some d) (hd : d.portnum ≠ unknownApp) :
    ∃ r, b.perhapsDecode w stack p = .ok r ∧ r.state = .success ∧
      r.packet = accepted { p with pkiEncrypted := true, publicKey := keyBytes a.publicKey } 0 d := by
  have hsender : b.pkiSender p bytes.length = some a.publicKey := by
    obtain ⟨sender, hsender, hsame⟩ := Option.map_eq_some_iff.mp hab.knowsA
    obtain ⟨receiver, hreceiver, hown⟩ := Option.map_eq_some_iff.mp hab.knowsItself
    have hlens := hab.keys
    rw [← hsame, ← hown] at hlens
    have hpos : sender.publicKey ≠ [] ∧ receiver.publicKey ≠ [] :=
      ⟨fun he => by simp [he] at hlens, fun he => by simp [he] at hlens⟩
    have hnum : 0 < p.to' := by
      rw [hto, UInt32.lt_iff_toNat_lt]
      exact Nat.pos_of_ne_zero fun hz => hab.numbered (UInt32.toNat_inj.mp hz)
    have hus : p.isToUs b.nodeNum = true := decide_eq_true hto
    have hto' : b.getMeshNode p.to' = some receiver := hto ▸ hreceiver
    unfold pkiSender
    rw [hfrom, hsender, hto']
    dsimp only
    rw [if_pos, hsame]
    rw [decide_eq_true hchannel, hus, decide_eq_true hnum, hone, decide_eq_true hpos.1, decide_eq_true hpos.2,
      decide_eq_true hover]
    rfl
  unfold perhapsDecode
  rw [hab.knownOnly, Bool.false_and, if_neg Bool.false_ne_true, hp]
  dsimp only
  rw [if_neg (not_lt.mpr hlen), hsender]
  dsimp only
  rw [hopen]
  dsimp only
  rw [hplain]
  dsimp only
  rw [if_neg hd]
  exact ⟨_, rfl, rfl, rfl⟩

/-! ### On the air -/

/-- What `perhapsDecode` reads of a packet that comes by the radio. -/
theorem received_eq (q : MeshPacket) {bytes : List UInt8} (hq : q.variant = .encrypted bytes) (rxRssi : ℤ) :
    (q.beginSending.received rxRssi).from' = q.from' ∧ (q.beginSending.received rxRssi).to' = q.to' ∧
      (q.beginSending.received rxRssi).id = q.id ∧ (q.beginSending.received rxRssi).channel = q.channel ∧
      (q.beginSending.received rxRssi).variant = .encrypted bytes := by
  unfold MeshPacket.beginSending Frame.received
  dsimp only
  split_ifs
  all_goals
    rw [hq]
    exact ⟨rfl, rfl, rfl, rfl, rfl⟩

/-- The bit of the bitfield by which a response is asked for, as the receiver finds it. -/
theorem marked_wantResponse (a : Station) (p : MeshPacket) (hfrom : p.isFromUs a.nodeNum = true) (d : Data) :
    (if (a.marked p d).hasBitfield then
      (a.marked p d).wantResponse || (a.marked p d).bitfield &&& (2 : UInt8) ≠ 0 else (a.marked p d).wantResponse) =
      (d.wantResponse || d.bitfield &&& (2 : UInt8) ≠ 0) := by
  unfold marked
  rw [if_pos hfrom]
  dsimp only
  rw [if_pos rfl]
  cases d.wantResponse with
  | true => rfl
  | false =>
    have hbit : ∀ bits : Fin 256, ∀ ok : Bool,
        (UInt8.ofNat bits ||| (if ok = true then (1 : UInt8) else 0) ||| (0 : UInt8)) &&& (2 : UInt8) =
          UInt8.ofNat bits &&& (2 : UInt8) := by
      decide +kernel
    have hfield := hbit ⟨d.bitfield.toNat, UInt8.toNat_lt _⟩ a.okToMqtt
    rw [show UInt8.ofNat d.bitfield.toNat = d.bitfield from UInt8.ofNat_toNat] at hfield
    rw [if_neg Bool.false_ne_true, hfield]

theorem marked_rest (a : Station) (p : MeshPacket) (d : Data) :
    (a.marked p d).portnum = d.portnum ∧ (a.marked p d).payload = d.payload ∧
      (a.marked p d).requestId = d.requestId ∧ (a.marked p d).replyId = d.replyId := by
  unfold marked
  split_ifs <;> exact ⟨rfl, rfl, rfl, rfl⟩

/-- The packet that `b` accepts says what `a` put into it. -/
theorem conveys_of_accepted (hfrom : p.isFromUs a.nodeNum = true) {r : Decoded} {r₀ : MeshPacket}
    {chIndex : UInt8} (hr : b.perhapsDecode w stack q = .ok r) (hstate : r.state = .success)
    (hpacket : r.packet = accepted r₀ chIndex (a.marked p d)) :
    Conveys w stack b q d (d.wantResponse || d.bitfield &&& (2 : UInt8) ≠ 0) := by
  obtain ⟨hport, hpayload, hrequest, hreply⟩ := marked_rest a p d
  refine ⟨r, bitfieldRead (a.marked p d), hr, hstate, ?_, hport, hpayload, hrequest, hreply,
    marked_wantResponse a p hfrom d⟩
  rw [hpacket]
  rfl

theorem signed_from (hfrom : p.isFromUs a.nodeNum = true) : (p.signed a.nodeNum).from' = a.nodeNum := by
  unfold MeshPacket.signed MeshPacket.getFrom
  unfold MeshPacket.isFromUs at hfrom
  simp only [Bool.or_eq_true, decide_eq_true_eq] at hfrom
  dsimp only
  split_ifs with hzero
  · rfl
  · exact hfrom.resolve_left hzero

theorem isFromUs_of_eq (hfrom : p.from' = a.nodeNum) : p.isFromUs a.nodeNum = true := by
  unfold MeshPacket.isFromUs
  rw [hfrom, decide_eq_true rfl, Bool.or_true]

theorem getFrom_of_eq (hfrom : p.from' = a.nodeNum) : p.getFrom a.nodeNum = a.nodeNum := by
  unfold MeshPacket.getFrom
  rw [hfrom, ite_self]

theorem marked_signed (hfrom : p.isFromUs a.nodeNum = true) (d : Data) :
    a.marked (p.signed a.nodeNum) d = a.marked p d := by
  unfold marked
  rw [if_pos hfrom, if_pos (isFromUs_of_eq (signed_from hfrom))]

theorem pkiNode_signed (hfrom : p.isFromUs a.nodeNum = true) (d : Data) :
    a.pkiNode (p.signed a.nodeNum) (a.marked p d) = a.pkiNode p d := by
  unfold pkiNode
  rw [hfrom, isFromUs_of_eq (signed_from hfrom), (marked_rest a p d).1]
  rfl

theorem pkiNode_some {node : NodeUser} (h : a.pkiNode p d = some node) :
    a.getMeshNode p.to' = some node ∧ isBroadcast p.to' = false := by
  unfold pkiNode at h
  cases hnode : a.getMeshNode p.to' with
  | none =>
    rw [hnode] at h
    cases h
  | some node' =>
    rw [hnode] at h
    dsimp only at h
    split_ifs at h with hall
    cases h
    simp only [Bool.and_eq_true, Bool.not_eq_true'] at hall
    exact ⟨rfl, hall.1.1.1.1.1.2⟩

/-- `b` decodes what `a` encoded, unless it is a text message that was not encrypted with `b`'s key. -/
theorem perhapsDecode_perhapsEncode {key : List UInt8} (hab : Acquainted a b) (hu : a.channels.Usable stack)
    (hp : p.variant = .decoded d) (hfrom : p.isFromUs a.nodeNum = true) (hto : p.to' = b.nodeNum)
    (hd : d.portnum ≠ unknownApp) (hfits : (w.pbEncode (a.marked p d)).length ≤ 256)
    (hw : w.Inverts a b p.id extraNonce (a.marked p d))
    (hkeys : ∀ i k, Channels.indexOf? p.channel = some i → a.channels.getKey stack i = .ok (some k) →
      w.Hides a b p.id (a.marked p d) k)
    (he : a.perhapsEncode w stack extraNonce (p.signed a.nodeNum) = .ok ⟨.none, q, key⟩) (rxRssi : ℤ) :
    if d.portnum = textMessageApp ∧ a.pkiNode p d = none then
      ∃ r, b.perhapsDecode w stack (q.beginSending.received rxRssi) = .ok r ∧ r.state = .failure
    else Conveys w stack b (q.beginSending.received rxRssi) d (d.wantResponse || d.bitfield &&& (2 : UInt8) ≠ 0) := by
  have hsigned := signed_from hfrom
  have hport := (marked_rest a p d).1
  have hbytes := Cryptography.pbEncodeToBytes_eq hfits
  have hunknown : (a.marked p d).portnum ≠ unknownApp := hport ▸ hd
  rcases perhapsEncode_cases (p := p.signed a.nodeNum) hp he with
    ⟨node, hnode, hlen, rfl⟩ | ⟨hnone, hlen, i, k, hi, hk, hhash, rfl⟩
  · rw [marked_signed hfrom, pkiNode_signed hfrom] at hnode
    rw [marked_signed hfrom, hbytes] at hlen
    rw [marked_signed hfrom, hbytes]
    obtain ⟨hmesh, hone⟩ := pkiNode_some hnode
    have hkey : node.publicKey = b.publicKey := by
      have hknows := hab.knowsB
      rw [← hto, hmesh] at hknows
      exact Option.some.inj hknows
    have hsome : ¬ (d.portnum = textMessageApp ∧ a.pkiNode p d = none) := fun hc => by
      rw [hnode] at hc
      cases hc.2
    rw [if_neg hsome]
    generalize hq : sealedPacket w a extraNonce (p.signed a.nodeNum) node (w.pbEncode (a.marked p d)) = q
    have hvariant : q.variant = .encrypted (w.encryptCurve25519 a.privateKey b.publicKey a.nodeNum p.id extraNonce
        (w.pbEncode (a.marked p d))) := by
      rw [← hq, ← hkey]
      unfold sealedPacket
      dsimp only
      rw [getFrom_of_eq hsigned]
      rfl
    have hqfrom : q.from' = a.nodeNum := hq ▸ hsigned
    have hqto : q.to' = b.nodeNum := hq ▸ hto
    have hqid : q.id = p.id := hq ▸ rfl
    have hqchannel : q.channel = 0 := hq ▸ rfl
    obtain ⟨hrfrom, hrto, hrid, hrchannel, hrvariant⟩ := received_eq q hvariant rxRssi
    have hsealed := hw.aeadLength (w.pbEncode (a.marked p d))
    have hpos := List.length_pos_of_ne_nil (hw.written hunknown)
    have hmax : maxLoraPayloadLen = 255 := rfl
    obtain ⟨r, hr, hstate, hpacket⟩ : ∃ r, b.perhapsDecode w stack (q.beginSending.received rxRssi) = .ok r ∧
        r.state = .success ∧ r.packet = accepted _ 0 (a.marked p d) := perhapsDecode_sealed hab
      (hrfrom.trans hqfrom) (hrto.trans hqto) (by rw [hrto, hqto, ← hto]; exact hone)
      (hrchannel.trans hqchannel) hrvariant (by omega) (by omega)
      (by rw [hrfrom, hqfrom, hrid, hqid]; exact hw.aead _) hw.protobuf hunknown
    exact conveys_of_accepted hfrom hr hstate hpacket
  · rw [marked_signed hfrom, pkiNode_signed hfrom] at hnone
    rw [marked_signed hfrom, hbytes] at hlen
    rw [marked_signed hfrom, hbytes]
    have hhides := hkeys i k hi hk
    generalize hq : channelPacket w a (p.signed a.nodeNum) (a.channels.hashes i) k
      (w.pbEncode (a.marked p d)) = q
    have hvariant : q.variant = .encrypted (w.encryptPacket k a.nodeNum p.id (w.pbEncode (a.marked p d))) := by
      rw [← hq]
      unfold channelPacket
      dsimp only
      rw [getFrom_of_eq hsigned]
      rfl
    have hqfrom : q.from' = a.nodeNum := hq ▸ hsigned
    have hqto : q.to' = b.nodeNum := hq ▸ hto
    have hqid : q.id = p.id := hq ▸ rfl
    have hqchannel : a.channels.hashes i = q.channel.toNat := by
      rw [← hq]
      exact (toNat_ofInt hhash (hu i).1).symm
    obtain ⟨hrfrom, hrto, hrid, hrchannel, hrvariant⟩ := received_eq q hvariant rxRssi
    have hcrypt := hw.encryptPacket_length k a.nodeNum p.id (w.pbEncode (a.marked p d))
    have hright := hw.encryptPacket_twice k a.nodeNum p.id (w.pbEncode (a.marked p d))
    have hdecode : b.perhapsDecode w stack (q.beginSending.received rxRssi) =
        b.decodeByChannel w stack (q.beginSending.received rxRssi)
          (w.encryptPacket k a.nodeNum p.id (w.pbEncode (a.marked p d))) :=
      perhapsDecode_channel hab (hrfrom.trans hqfrom) hrvariant (by rw [hcrypt]; exact hfits)
        (by rw [hrfrom, hqfrom, hrid, hqid]; exact hhides.rejects)
    obtain ⟨r, hr, hcase⟩ := decodeByChannel_found (d := a.marked p d) (k := k) hab hu (hrto.trans hqto) hunknown
      (by rw [hrfrom, hqfrom, hrid, hqid, hright]; exact hw.protobuf)
      (by rw [hrfrom, hqfrom, hrid, hqid]; exact hhides.wrongKey) hk (hrchannel ▸ hqchannel)
    rw [← hdecode] at hr
    rw [hport] at hcase
    by_cases htext : d.portnum = textMessageApp
    · rw [if_pos htext] at hcase
      rw [if_pos ⟨htext, hnone⟩]
      exact ⟨r, hr, hcase⟩
    · rw [if_neg htext] at hcase
      rw [if_neg fun hc => htext hc.1]
      obtain ⟨hstate, chIndex, hpacket⟩ := hcase
      exact conveys_of_accepted hfrom hr hstate hpacket

/-- One channel, which is not encrypted. -/
def openTable (name : Text.Str) (hash : ℤ) : Channels :=
  { channels := fun i => if i.val = 0 then ⟨i, true, ⟨[0], name⟩, .primary⟩ else ⟨i, true, ⟨[], []⟩, .disabled⟩
    primaryIndex := Fin.ofNat 8 0, hashes := fun i => if i.val = 0 then hash else -1
    lora := ⟨true, .longFast⟩ }

/-- A node that knows the nodes 17 and 34. -/
def neighbor (nodeNum : UInt32) (privateKey publicKey : List UInt8) (channels : Channels) : Station :=
  { nodeNum := nodeNum, isLicensed := false, okToMqtt := false, forceSimradio := false, knownOnly := false
    privateKey := privateKey, publicKey := publicKey, channels := channels, key := []
    getMeshNode := fun num => if num = 17 then some ⟨true, List.replicate 32 17⟩
      else if num = 34 then some ⟨true, List.replicate 32 34⟩ else none }

def sender (channels : Channels) : Station :=
  neighbor 17 (List.replicate 32 18) (List.replicate 32 17) channels

def receiver (channels : Channels) : Station :=
  neighbor 34 (List.replicate 32 35) (List.replicate 32 34) channels

/-- Cryptography for a payload that is written as `bytes`. -/
def standIn (d : Data) (bytes : List UInt8) : Cryptography :=
  { pbEncode := fun _ => bytes
    pbDecode := fun bs => if bs = bytes then some d else none
    encryptAESCtr := fun _ _ _ bs => bs.map fun b => ~~~b
    encryptCurve25519 := fun _ _ _ _ _ bs => bs ++ List.replicate 12 0
    decryptCurve25519 := fun _ _ _ _ bs =>
      if bs.drop (bs.length - 12) = List.replicate 12 0 then some (bs.take (bs.length - 12)) else none }

theorem openTable_usable (name : Text.Str) {hash : ℤ} (h : hash < 256) : (openTable name hash).Usable 1 := by
  intro i
  by_cases hi : i.val = 0
  · refine ⟨?_, some [], ?_⟩
    · show (if i.val = 0 then hash else -1) < 256
      rwa [if_pos hi]
    · unfold Channels.getKey openTable
      dsimp only
      rw [if_pos hi]
      rfl
  · refine ⟨?_, none, ?_⟩
    · show (if i.val = 0 then hash else -1) < 256
      rw [if_neg hi]
      decide
    · unfold Channels.getKey openTable
      dsimp only
      rw [if_neg hi]
      rfl

theorem openTable_key {name : Text.Str} {hash : ℤ} (h : (openTable name hash).getKey 1 i = .ok (some k)) :
    k = [] := by
  unfold Channels.getKey openTable at h
  dsimp only at h
  by_cases hi : i.val = 0
  · rw [if_pos hi] at h
    exact (Option.some.inj (Except.ok.inj h)).symm
  · rw [if_neg hi] at h
    cases h

theorem neighbors_acquainted (channels : Channels) : Acquainted (sender channels) (receiver channels) :=
  ⟨rfl, ⟨rfl, rfl⟩, rfl, (by decide : (34 : UInt32) ≠ 0), ⟨rfl, rfl⟩, rfl, rfl, rfl⟩

theorem standIn_inverts {d : Data} {bytes : List UInt8} (hne : bytes ≠ []) (channels : Channels)
    (packetId extraNonce : UInt32) :
    (standIn d bytes).Inverts (sender channels) (receiver channels) packetId extraNonce d := by
  refine ⟨if_pos rfl, fun _ => hne, fun _ _ _ bs => ?_, fun _ _ _ bs => List.length_map _, fun bs => ?_,
    fun bs => ?_⟩
  · show (bs.map fun b => ~~~b).map (fun b => ~~~b) = bs
    rw [List.map_map]
    exact (List.map_congr_left fun b _ => UInt8.not_not).trans (List.map_id bs)
  · show (if (bs ++ List.replicate 12 (0 : UInt8)).drop ((bs ++ List.replicate 12 (0 : UInt8)).length - 12) =
        List.replicate 12 0 then
      some ((bs ++ List.replicate 12 (0 : UInt8)).take ((bs ++ List.replicate 12 (0 : UInt8)).length - 12))
        else none) = some bs
    rw [List.length_append, List.length_replicate, Nat.add_sub_cancel, List.drop_left, List.take_left, if_pos rfl]
  · show (bs ++ List.replicate 12 0).length = bs.length + pkcOverhead
    rw [List.length_append, List.length_replicate]
    rfl

theorem complement_ne (b : UInt8) : ~~~b ≠ b := by
  have hall : ∀ x : Fin 256, ~~~(UInt8.ofNat x) ≠ UInt8.ofNat x := by decide +kernel
  have hb := hall ⟨b.toNat, UInt8.toNat_lt _⟩
  rwa [show UInt8.ofNat b.toNat = b from UInt8.ofNat_toNat] at hb

/-- What is not encrypted is nothing to a key. -/
theorem standIn_hides {d : Data} {b : UInt8} {bytes : List UInt8} (hlen : bytes.length < 11) (channels : Channels)
    (packetId : UInt32) :
    (standIn d (b :: bytes)).Hides (sender channels) (receiver channels) packetId d [] := by
  have hplain : (standIn d (b :: bytes)).encryptPacket [] (sender channels).nodeNum packetId
      ((standIn d (b :: bytes)).pbEncode d) = b :: bytes := if_pos (Or.inl rfl)
  have hlength : (b :: bytes).length < 12 := by
    rw [List.length_cons]
    omega
  refine ⟨fun key' hne d' hd' => ?_, ?_⟩
  · have hcoded : ¬ (key' = [] ∨ 256 < (b :: bytes).length) := by
      rintro (he | hlong)
      · exact hne he
      · omega
    rw [hplain] at hd'
    unfold Cryptography.encryptPacket at hd'
    rw [if_neg hcoded] at hd'
    change (if (b :: bytes).map (fun x => ~~~x) = b :: bytes then some d else none) = some d' at hd'
    have hother : (b :: bytes).map (fun x => ~~~x) ≠ b :: bytes := fun he =>
      complement_ne b (List.cons.inj he).1
    rw [if_neg hother] at hd'
    cases hd'
  · rw [hplain]
    show (if (b :: bytes).drop ((b :: bytes).length - 12) = List.replicate 12 0 then
      some ((b :: bytes).take ((b :: bytes).length - 12)) else none) = none
    rw [Nat.sub_eq_zero_of_le hlength.le, List.drop_zero, if_neg]
    intro he
    have hsame := congrArg List.length he
    rw [List.length_replicate] at hsame
    omega

/-- A position request, as its sender has it. -/
def positionRequest : Data := { Data.zero with portnum := positionApp, wantResponse := true }

def positionPacket : MeshPacket :=
  { MeshPacket.zero with to' := 34, id := 5, hopLimit := 3, variant := .decoded positionRequest }

def positionBytes : List UInt8 := [0x08, 3, 0x18, 1, 0x48, 2]

def positionCrypto : Cryptography :=
  standIn { positionRequest with hasBitfield := true, bitfield := 2 } positionBytes

def positionSent : MeshPacket :=
  { positionPacket with from' := 17, channel := 10, variant := .encrypted positionBytes }

theorem position_conveyed : Conveys positionCrypto 1 (receiver (openTable [] 10))
    (positionSent.beginSending.received (-90)) positionRequest true := by
  have hencoded : (sender (openTable [] 10)).perhapsEncode positionCrypto 1 0 (positionPacket.signed 17) =
      .ok ⟨.none, positionSent, []⟩ := rfl
  have hcase := perhapsDecode_perhapsEncode (p := positionPacket) (d := positionRequest)
    (neighbors_acquainted (openTable [] 10)) (openTable_usable [] (by decide)) rfl rfl rfl (by decide) (by decide)
    (standIn_inverts (by decide) _ _ _)
    (fun i k _ hk => by
      obtain rfl := openTable_key hk
      exact standIn_hides (by decide) _ _) hencoded (-90)
  rwa [if_neg (by decide)] at hcase

/-- A text message on a channel that is not encrypted with public keys. -/
def greeting : Data := { Data.zero with portnum := textMessageApp, payload := [0x68, 0x69] }

def greetingPacket : MeshPacket :=
  { MeshPacket.zero with to' := 34, id := 6, hopLimit := 3, variant := .decoded greeting }

def greetingBytes : List UInt8 := [0x08, 1, 0x12, 2, 0x68, 0x69, 0x48, 0]

def greetingCrypto : Cryptography := standIn { greeting with hasBitfield := true } greetingBytes

def greetingSent : MeshPacket :=
  { greetingPacket with from' := 17, channel := 0, variant := .encrypted greetingBytes }

def serialTable : Channels := openTable (ascii "serial") 0

/-- The receiver takes it for a direct message of the old kind. -/
theorem greeting_refused :
    Acquainted (sender serialTable) (receiver serialTable) ∧ serialTable.Usable 1 ∧
      greetingCrypto.Inverts (sender serialTable) (receiver serialTable) 6 0
        ((sender serialTable).marked greetingPacket greeting) ∧
      (∀ i k, Channels.indexOf? greetingPacket.channel = some i → serialTable.getKey 1 i = .ok (some k) →
        greetingCrypto.Hides (sender serialTable) (receiver serialTable) 6
          ((sender serialTable).marked greetingPacket greeting) k) ∧
      (sender serialTable).perhapsEncode greetingCrypto 1 0 (greetingPacket.signed 17) =
        .ok ⟨.none, greetingSent, []⟩ ∧
      ¬ Conveys greetingCrypto 1 (receiver serialTable) (greetingSent.beginSending.received (-90)) greeting
        greeting.wantResponse := by
  refine ⟨neighbors_acquainted _, openTable_usable _ (by decide), standIn_inverts (by decide) _ _ _,
    fun i k _ hk => openTable_key hk ▸ standIn_hides (by decide) _ _, rfl, ?_⟩
  rintro ⟨r, _, hr, hstate, _⟩
  have hfailure : (receiver serialTable).perhapsDecode greetingCrypto 1
      (greetingSent.beginSending.received (-90)) = .ok ⟨.failure, greetingSent.beginSending.received (-90), []⟩ := rfl
  rw [hfailure] at hr
  cases hr
  cases hstate

end Station
end MonsterMesh
