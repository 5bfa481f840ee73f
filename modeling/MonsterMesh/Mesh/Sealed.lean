import Mathlib.Tactic.FinCases
import MonsterMesh.Mesh.CryptoEngine

/-! A direct message opens to what was sealed, and nothing opens that was not sealed so. -/
namespace MonsterMesh

open Bounded Fallible Keystream

variable {E : AesBlock → AesBlock} {nonce : AesBlock} {inp out plain crypt tag : List UInt8} {M n : ℕ}

theorem xor_twice (k x : UInt8) : k ^^^ (k ^^^ x) = x := by
  rw [← UInt8.xor_assoc, UInt8.xor_self, UInt8.zero_xor]

/-- Bytes written behind `l`. -/
theorem storeAll_behind {l r bytes : List UInt8} {i k : ℕ} (hl : l.length = i) (hk : bytes.length = k)
    (hr : k ≤ r.length) : storeAll (l ++ r) i bytes = .ok (l ++ bytes ++ r.drop k) := by
  rw [← hl, ← hk]
  exact storeAll_append (hk.trans_le hr)

namespace Ccm

/-- The keystream a packet is laid over. -/
def keystream (E : AesBlock → AesBlock) (nonce : AesBlock) (n : ℕ) : List UInt8 :=
  stream (fun i => (E (counterBlock nonce (i + 1))).toList) n

theorem keystream_length : (keystream E nonce n).length = 16 * n :=
  stream_length fun _ => Vector.length_toList

/-- The blocks it takes. -/
def blocks (inp : List UInt8) : ℕ := (inp.length + 15) / 16

/-- The input laid over the keystream, with the rest of the last block and of the buffer behind it. -/
def covered (E : AesBlock → AesBlock) (nonce : AesBlock) (inp out : List UInt8) (n : ℕ) : List UInt8 :=
  onto (· ^^^ ·) (keystream E nonce n) (inp.take (16 * n)) ++ out.drop (16 * n)

theorem covered_zero : covered E nonce inp out 0 = out := by
  simp [covered, keystream, stream, onto]

theorem keystream_succ :
    keystream E nonce (n + 1) = keystream E nonce n ++ (E (counterBlock nonce (n + 1))).toList := stream_succ

theorem covered_front (h : 16 * n ≤ inp.length) :
    (onto (· ^^^ ·) (keystream E nonce n) (inp.take (16 * n))).length = 16 * n := by
  have htake : (inp.take (16 * n)).length = 16 * n := List.length_take_of_le h
  rw [onto_length (htake.trans keystream_length.symm).le, keystream_length]

/-- One block more, whole or not. -/
theorem encrBlock_covered (hn : 16 * n ≤ inp.length) (hroom : 16 * (n + 1) ≤ out.length) :
    encrBlock E nonce inp (covered E nonce inp out n) n = .ok (covered E nonce inp out (n + 1)) := by
  have htake : (inp.take (16 * n)).length = 16 * n := List.length_take_of_le hn
  have hpiece : ((inp.drop (16 * n)).take 16).length ≤ (E (counterBlock nonce (n + 1))).toList.length := by
    rw [Vector.length_toList]
    exact List.length_take_le ..
  have hblock : (onto (· ^^^ ·) (E (counterBlock nonce (n + 1))).toList ((inp.drop (16 * n)).take 16)).length = 16 := by
    rw [onto_length hpiece, Vector.length_toList]
  have hsplit : inp.take (16 * (n + 1)) = inp.take (16 * n) ++ (inp.drop (16 * n)).take 16 := by
    rw [Nat.mul_succ, List.take_add]
  have hrest : 16 ≤ (out.drop (16 * n)).length := by
    rw [List.length_drop]
    omega
  unfold encrBlock covered
  rw [storeAll_behind (covered_front hn) hblock hrest, ← onto_append (keystream_length.trans htake.symm), ← hsplit,
    ← keystream_succ, List.drop_drop, Nat.mul_succ]

/-- The whole blocks. -/
theorem encrLoop_covered (hroom : 16 * n ≤ out.length) : 16 * n ≤ inp.length →
    (List.range n).foldlM (encrBlock E nonce inp) out = .ok (covered E nonce inp out n) := by
  induction n with
  | zero =>
    intro _
    rw [covered_zero]
    rfl
  | succ n ih =>
    intro hn
    rw [List.range_succ, List.foldlM_append, ih (by omega) (by omega), bind_ok, List.foldlM_cons,
      encrBlock_covered (by omega) hroom]
    rfl

/-- `aes_ccm_encr` stays within a buffer that has room for whole blocks. -/
theorem encr_ok (hroom : 16 * blocks inp ≤ out.length) :
    encr E nonce inp out = .ok (covered E nonce inp out (blocks inp)) := by
  unfold blocks at hroom ⊢
  unfold encr
  rw [encrLoop_covered (by omega) (by omega), bind_ok]
  by_cases hlast : inp.length % 16 = 0
  · rw [if_pos hlast, show (inp.length + 15) / 16 = inp.length / 16 by omega]
  · have hn : (inp.length + 15) / 16 = inp.length / 16 + 1 := by omega
    rw [hn] at hroom ⊢
    rw [if_neg hlast, encrBlock_covered (by omega) hroom]

/-- What the input has become. -/
def crypted (E : AesBlock → AesBlock) (nonce : AesBlock) (inp : List UInt8) : List UInt8 :=
  (onto (· ^^^ ·) (keystream E nonce (blocks inp)) inp).take inp.length

theorem le_keystream (E : AesBlock → AesBlock) (nonce : AesBlock) (inp : List UInt8) :
    inp.length ≤ (keystream E nonce (blocks inp)).length := by
  rw [keystream_length]
  unfold blocks
  omega

theorem covered_take : (covered E nonce inp out (blocks inp)).take inp.length = crypted E nonce inp := by
  have hle := le_keystream E nonce inp
  have hall : inp.take (16 * blocks inp) = inp := List.take_of_length_le (by rwa [← keystream_length])
  unfold covered crypted
  rw [hall, List.take_append_of_le_length (by rwa [onto_length hle])]

theorem covered_length (hroom : 16 * blocks inp ≤ out.length) :
    (covered E nonce inp out (blocks inp)).length = out.length := by
  have hle := le_keystream E nonce inp
  have hall : inp.take (16 * blocks inp) = inp := List.take_of_length_le (by rwa [← keystream_length])
  unfold covered
  rw [hall, List.length_append, onto_length hle, keystream_length, List.length_drop]
  omega

theorem crypted_length : (crypted E nonce inp).length = inp.length := by
  have hle := le_keystream E nonce inp
  unfold crypted
  rw [List.length_take, onto_length hle]
  omega

/-- Decryption is encryption again. -/
theorem crypted_twice : crypted E nonce (crypted E nonce inp) = inp := by
  have hlen : (crypted E nonce inp).length = inp.length := crypted_length
  have hb : blocks (crypted E nonce inp) = blocks inp := by
    unfold blocks
    rw [hlen]
  have hback := onto_twice xor_twice (le_keystream E nonce inp)
  rw [crypted, hb, hlen]
  exact hback

/-! ### The comparison -/

theorem compared (d : Fin 256) :
    ((1 : BitVec 32) &&& ((BitVec.ofFin d : BitVec 8).zeroExtend 32 - 1).sshiftRight 8) - 1 = 0 ↔ d = 0 := by
  revert d
  decide +kernel

theorem foldl_or (l : List UInt8) (d : UInt8) : l.foldl (· ||| ·) d = 0 ↔ d = 0 ∧ ∀ x ∈ l, x = 0 := by
  induction l generalizing d with
  | nil => simp
  | cons x l ih =>
    rw [List.foldl_cons, ih, UInt8.or_eq_zero_iff, List.forall_mem_cons, and_assoc]

theorem difference_zero_iff : ∀ {a b : List UInt8}, a.length = b.length → (difference a b = 0 ↔ a = b) := by
  intro a
  unfold difference
  induction a with
  | nil =>
    intro b h
    have hb : b = [] := List.length_eq_zero_iff.mp h.symm
    simp [hb]
  | cons x a ih =>
    intro b h
    cases b with
    | nil => cases h
    | cons y b =>
      have hrest := ih (Nat.succ.inj h)
      rw [foldl_or] at hrest ⊢
      rw [List.zipWith_cons_cons, List.forall_mem_cons, UInt8.xor_eq_zero_iff, List.cons.injEq]
      exact ⟨fun hz => ⟨hz.2.1, hrest.mp ⟨rfl, hz.2.2⟩⟩, fun hz => ⟨rfl, hz.1, (hrest.mpr hz.2).2⟩⟩

theorem constantTimeCompare_iff {a b : List UInt8} (h : a.length = b.length) :
    constantTimeCompare a b = 0 ↔ a = b := by
  unfold constantTimeCompare
  by_cases ha : a = []
  · rw [if_pos ha]
    rw [ha] at h ⊢
    exact ⟨fun _ => (List.length_eq_zero_iff.mp h.symm).symm, fun _ => rfl⟩
  · rw [if_neg ha, ← difference_zero_iff h]
    have hd := compared (difference a b).toBitVec.toFin
    refine hd.trans ⟨fun h0 => ?_, fun h0 => ?_⟩
    · exact UInt8.toNat_inj.mp (congrArg Fin.val h0)
    · rw [h0]
      rfl

/-! ### Text and tag -/

/-- What goes behind the text. -/
def tagOf (E : AesBlock → AesBlock) (M : ℕ) (nonce : AesBlock) (aad plain : List UInt8) : List UInt8 :=
  encrAuth E M nonce (auth E plain (authStart E M nonce aad plain.length)).toList

theorem encrAuth_length (h : M ≤ 16) (x : List UInt8) (hx : M ≤ x.length) : (encrAuth E M nonce x).length = M := by
  unfold encrAuth
  rw [List.length_zipWith, List.length_take, Vector.length_toList]
  omega

theorem tagOf_length (h : M ≤ 16) {aad : List UInt8} : (tagOf E M nonce aad plain).length = M :=
  encrAuth_length h _ (by rwa [Vector.length_toList])

theorem zipWith_xor_inj {ks x y : List UInt8} (hx : x.length ≤ ks.length) (hy : y.length ≤ ks.length) :
    List.zipWith (· ^^^ ·) x ks = List.zipWith (· ^^^ ·) y ks ↔ x = y := by
  have hcomm : ∀ l : List UInt8, List.zipWith (· ^^^ ·) l ks = List.zipWith (· ^^^ ·) ks l :=
    fun l => List.zipWith_comm_of_comm UInt8.xor_comm
  refine ⟨fun h => ?_, fun h => by rw [h]⟩
  rw [hcomm, hcomm] at h
  rw [← zipWith_twice xor_twice hx, ← zipWith_twice xor_twice hy, h]

/-- The tag is right exactly if it is the one that encryption makes. -/
theorem tag_checks (h : M ≤ 16) {x : List UInt8} (hx : x.length = 16) (ht : M ≤ tag.length) :
    constantTimeCompare (x.take M) (decrAuth E M nonce tag) = 0 ↔ tag.take M = encrAuth E M nonce x := by
  have hks : (E (counterBlock nonce 0)).toList.length = 16 := Vector.length_toList
  have hxM : (x.take M).length = M := by
    rw [List.length_take]
    omega
  have htM : (tag.take M).length = M := List.length_take_of_le ht
  have hd : (decrAuth E M nonce tag).length = M := by
    unfold decrAuth
    rw [List.length_zipWith, htM]
    omega
  have hcancel : ∀ y : List UInt8, y.length = M →
      List.zipWith (· ^^^ ·) (List.zipWith (· ^^^ ·) y (E (counterBlock nonce 0)).toList)
        (E (counterBlock nonce 0)).toList = y := by
    intro y hy
    rw [List.zipWith_comm_of_comm UInt8.xor_comm, List.zipWith_comm_of_comm (l := y) UInt8.xor_comm]
    exact zipWith_twice xor_twice (by omega)
  rw [constantTimeCompare_iff (hxM.trans hd.symm)]
  unfold decrAuth encrAuth
  constructor
  · intro heq
    rw [heq, hcancel _ htM]
  · intro heq
    rw [heq, hcancel _ hxM]

/-- `aes_ccm_ae` writes the text over, then the tag. -/
theorem ae_ok {aad buf : List UInt8} (hM : M ≤ 16) (ha : aad.length ≤ 30) (hroom : 16 * blocks plain ≤ buf.length)
    (hauth : plain.length + M ≤ buf.length) : ae E M nonce aad plain buf plain.length =
      .ok (0, crypted E nonce plain ++ tagOf E M nonce aad plain ++
        (covered E nonce plain buf (blocks plain)).drop (plain.length + M)) := by
  have hlen : (covered E nonce plain buf (blocks plain)).length = buf.length := covered_length hroom
  have htag : (tagOf E M nonce aad plain).length = M := tagOf_length hM
  have hfront : ((covered E nonce plain buf (blocks plain)).take plain.length).length = plain.length := by
    rw [covered_take, crypted_length]
  have hstore := storeAll_behind hfront htag
    (r := (covered E nonce plain buf (blocks plain)).drop plain.length) (by rw [List.length_drop]; omega)
  rw [List.take_append_drop, covered_take, List.drop_drop] at hstore
  unfold ae
  rw [if_neg (by omega), encr_ok hroom, bind_ok]
  show (storeAll _ _ (tagOf E M nonce aad plain) >>= _) = _
  rw [hstore, bind_ok]

/-- `aes_ccm_ad` accepts exactly the tag that encryption would have made. -/
theorem ad_ok {aad buf : List UInt8} (hM : M ≤ 16) (ha : aad.length ≤ 30) (ht : M ≤ tag.length)
    (hroom : 16 * blocks crypt ≤ buf.length) : ad E M nonce aad crypt tag buf =
      .ok (tag.take M = tagOf E M nonce aad (crypted E nonce crypt),
        covered E nonce crypt buf (blocks crypt)) := by
  have hlen : (crypted E nonce crypt).length = crypt.length := crypted_length
  have hx : (auth E (crypted E nonce crypt) (authStart E M nonce aad crypt.length)).toList.length = 16 :=
    Vector.length_toList
  have hcheck : _ ↔ tag.take M = encrAuth E M nonce _ := tag_checks hM hx ht
  unfold ad
  rw [if_neg (by omega), if_neg (by omega)]
  simp only [encr_ok hroom, bind_ok, covered_take]
  unfold tagOf
  rw [hlen, decide_eq_decide.mpr hcheck]

end Ccm
namespace CryptoEngine

open Ccm

variable {w : Primitives} {privateKey remotePublic key : List UInt8} {fromNode extraNonce : UInt32}
  {packetNum : UInt64} {bytes bytesOut : List UInt8}

/-- What goes on the air: the text, the tag of eight bytes and the number drawn. -/
def sealedBytes (E : AesBlock → AesBlock) (fromNode : UInt32) (packetNum : UInt64) (extraNonce : UInt32)
    (plain : List UInt8) : List UInt8 :=
  crypted E (initNonce fromNode packetNum extraNonce) plain ++
    tagOf E 8 (initNonce fromNode packetNum extraNonce) [] plain ++ Bytes.le 4 extraNonce.toNat

theorem sealedBytes_length :
    (sealedBytes E fromNode packetNum extraNonce plain).length = plain.length + pkcOverhead := by
  have htag : (tagOf E 8 (initNonce fromNode packetNum extraNonce) [] plain).length = 8 := tagOf_length (by decide)
  unfold sealedBytes
  rw [List.length_append, List.length_append, crypted_length, htag, Bytes.length_le]
  rfl

/-- With a key agreed on, `encryptCurve25519` writes just that. -/
theorem encrypt_ok (hr : remotePublic ≠ []) (hk : sharedKey w privateKey remotePublic = some key)
    (hroom : 16 * blocks bytes ≤ bytesOut.length) (hlen : bytes.length + pkcOverhead ≤ bytesOut.length) :
    ∃ rest, encryptCurve25519 w privateKey remotePublic fromNode packetNum extraNonce bytes bytesOut =
      .ok (true, sealedBytes (w.aesEncrypt key) fromNode packetNum extraNonce bytes ++ rest) := by
  have hover : pkcOverhead = 12 := rfl
  have hle : (Bytes.le 4 extraNonce.toNat).length = 4 := Bytes.length_le 4 _
  have hfirst : storeAll bytesOut (bytes.length + 8) (Bytes.le 4 extraNonce.toNat) =
      .ok (bytesOut.take (bytes.length + 8) ++ Bytes.le 4 extraNonce.toNat ++
        (bytesOut.drop (bytes.length + 8)).drop 4) := by
    have htake : (bytesOut.take (bytes.length + 8)).length = bytes.length + 8 :=
      List.length_take_of_le (by omega)
    have hstore := storeAll_behind htake hle (r := bytesOut.drop (bytes.length + 8))
      (by rw [List.length_drop]; omega)
    rwa [List.take_append_drop] at hstore
  obtain ⟨buf, hbuf⟩ : ∃ buf, buf = bytesOut.take (bytes.length + 8) ++ Bytes.le 4 extraNonce.toNat ++
    (bytesOut.drop (bytes.length + 8)).drop 4 := ⟨_, rfl⟩
  have hbl : buf.length = bytesOut.length := by
    rw [hbuf, List.length_append, List.length_append, List.length_take, hle, List.length_drop, List.length_drop]
    omega
  obtain ⟨front, hfront⟩ : ∃ front, front = crypted (w.aesEncrypt key) (initNonce fromNode packetNum extraNonce) bytes ++
    tagOf (w.aesEncrypt key) 8 (initNonce fromNode packetNum extraNonce) [] bytes := ⟨_, rfl⟩
  have hfl : front.length = bytes.length + 8 := by
    rw [hfront, List.length_append, crypted_length, tagOf_length (by decide)]
  obtain ⟨tail, htail⟩ : ∃ tail, tail = (covered (w.aesEncrypt key) (initNonce fromNode packetNum extraNonce) bytes buf
    (blocks bytes)).drop (bytes.length + 8) := ⟨_, rfl⟩
  have htl : 4 ≤ tail.length := by
    rw [htail, List.length_drop, covered_length (by omega)]
    omega
  have hae : ae (w.aesEncrypt key) 8 (initNonce fromNode packetNum extraNonce) [] bytes buf bytes.length =
      .ok (0, front ++ tail) := by
    rw [ae_ok (by decide) (by decide) (by omega) (by omega), hfront, htail]
  refine ⟨tail.drop 4, ?_⟩
  unfold encryptCurve25519
  rw [hfirst, bind_ok, if_neg hr, hk, ← hbuf]
  show (ae _ _ _ _ _ _ _ >>= _) = _
  rw [hae, bind_ok, storeAll_behind hfl hle htl, bind_ok, hfront]
  rfl

/-- The number that a packet carries behind its tag. -/
def carried (bytes : List UInt8) : UInt32 := UInt32.ofNat (Bytes.ofLe ((bytes.drop (bytes.length - 4)).take 4))

/-- What the receiver makes of the text. -/
def opened (E : AesBlock → AesBlock) (fromNode : UInt32) (packetNum : UInt64) (bytes : List UInt8) : List UInt8 :=
  crypted E (initNonce fromNode packetNum (carried bytes)) (bytes.take (bytes.length - pkcOverhead))

theorem le_carried (h : pkcOverhead ≤ bytes.length) :
    Bytes.le 4 (carried bytes).toNat = bytes.drop (bytes.length - 4) := by
  have hover : pkcOverhead = 12 := rfl
  have hlast : (bytes.drop (bytes.length - 4)).length = 4 := by
    rw [List.length_drop]
    omega
  have htake : (bytes.drop (bytes.length - 4)).take 4 = bytes.drop (bytes.length - 4) :=
    List.take_of_length_le hlast.le
  have hlt := Bytes.ofLe_lt (bytes.drop (bytes.length - 4))
  rw [hlast] at hlt
  have hle := Bytes.le_ofLe (bytes.drop (bytes.length - 4))
  rw [hlast] at hle
  unfold carried
  rw [htake, UInt32.toNat_ofNat', Nat.mod_eq_of_lt (by omega), hle]

/-- A packet is text, tag and number. -/
theorem packet_parts (h : pkcOverhead ≤ bytes.length) :
    bytes = bytes.take (bytes.length - pkcOverhead) ++ (bytes.drop (bytes.length - pkcOverhead)).take 8 ++
      Bytes.le 4 (carried bytes).toNat := by
  have hover : pkcOverhead = 12 := rfl
  have hrest : (bytes.drop (bytes.length - pkcOverhead)).drop 8 = bytes.drop (bytes.length - 4) := by
    rw [List.drop_drop]
    congr 1
    omega
  rw [le_carried h, ← hrest, List.append_assoc, List.take_append_drop, List.take_append_drop]

/-- `decryptCurve25519` says yes to what encryption makes of the text it finds, and to nothing else. -/
theorem decrypt_ok (h : pkcOverhead ≤ bytes.length) (hr : remotePublic ≠ [])
    (hk : sharedKey w privateKey remotePublic = some key) (hroom : bytes.length ≤ bytesOut.length + 12)
    (hblock : 16 ∣ bytesOut.length) : ∃ out,
      decryptCurve25519 w privateKey remotePublic fromNode packetNum bytes bytesOut =
        .ok (bytes = sealedBytes (w.aesEncrypt key) fromNode packetNum (carried bytes)
          (opened (w.aesEncrypt key) fromNode packetNum bytes), out) ∧
      out.take (bytes.length - pkcOverhead) = opened (w.aesEncrypt key) fromNode packetNum bytes := by
  have hover : pkcOverhead = 12 := rfl
  have htext : (bytes.take (bytes.length - pkcOverhead)).length = bytes.length - pkcOverhead :=
    List.length_take_of_le (Nat.sub_le _ _)
  have hrooms : 16 * blocks (bytes.take (bytes.length - pkcOverhead)) ≤ bytesOut.length := by
    obtain ⟨k, hk⟩ := hblock
    unfold blocks
    rw [htext, hk]
    omega
  have htag : 8 ≤ (bytes.drop (bytes.length - pkcOverhead)).length := by
    rw [List.length_drop]
    omega
  have hnumber : UInt32.ofNat (Bytes.ofLe ((bytes.drop (bytes.length - pkcOverhead + 8)).take 4)) = carried bytes := by
    unfold carried
    rw [show bytes.length - pkcOverhead + 8 = bytes.length - 4 by omega]
  have hiff : (bytes.drop (bytes.length - pkcOverhead)).take 8 = tagOf (w.aesEncrypt key) 8
        (initNonce fromNode packetNum (carried bytes)) [] (opened (w.aesEncrypt key) fromNode packetNum bytes) ↔
      bytes = sealedBytes (w.aesEncrypt key) fromNode packetNum (carried bytes)
        (opened (w.aesEncrypt key) fromNode packetNum bytes) := by
    have hparts := packet_parts h
    have hback : crypted (w.aesEncrypt key) (initNonce fromNode packetNum (carried bytes))
        (opened (w.aesEncrypt key) fromNode packetNum bytes) = bytes.take (bytes.length - pkcOverhead) := crypted_twice
    unfold sealedBytes
    rw [hback]
    constructor
    · intro heq
      rw [← heq]
      exact hparts
    · intro heq
      exact List.append_cancel_left (List.append_cancel_right (hparts.symm.trans heq))
  refine ⟨covered (w.aesEncrypt key) (initNonce fromNode packetNum (carried bytes))
    (bytes.take (bytes.length - pkcOverhead)) bytesOut (blocks (bytes.take (bytes.length - pkcOverhead))), ?_, ?_⟩
  · unfold decryptCurve25519
    simp only [if_neg (Nat.not_lt.mpr h), hnumber, if_neg hr, hk]
    rw [ad_ok (by decide) (by decide) htag hrooms]
    exact congrArg (fun b => Except.ok (b, _)) (decide_eq_decide.mpr hiff)
  · have htake : (covered (w.aesEncrypt key) (initNonce fromNode packetNum (carried bytes))
      (bytes.take (bytes.length - pkcOverhead)) bytesOut (blocks (bytes.take (bytes.length - pkcOverhead)))).take
        (bytes.take (bytes.length - pkcOverhead)).length = opened (w.aesEncrypt key) fromNode packetNum bytes :=
      covered_take
    rwa [htext] at htake

/-- The number of a packet that was sealed is the one drawn. -/
theorem carried_sealed : carried (sealedBytes E fromNode packetNum extraNonce plain) = extraNonce := by
  have hlt := extraNonce.toNat_lt
  have hle : (Bytes.le 4 extraNonce.toNat).length = 4 := Bytes.length_le 4 _
  have hlast : ∀ front : List UInt8, (front ++ Bytes.le 4 extraNonce.toNat).drop
      ((front ++ Bytes.le 4 extraNonce.toNat).length - 4) = Bytes.le 4 extraNonce.toNat := by
    intro front
    rw [List.length_append, hle, Nat.add_sub_cancel, List.drop_left]
  unfold carried sealedBytes
  rw [hlast, List.take_of_length_le hle.le, Bytes.ofLe_le (by omega), UInt32.ofNat_toNat]

/-- What was sealed opens to the text. -/
theorem opened_sealed : opened E fromNode packetNum (sealedBytes E fromNode packetNum extraNonce plain) = plain := by
  have hlen : (sealedBytes E fromNode packetNum extraNonce plain).length - pkcOverhead = plain.length := by
    rw [sealedBytes_length, Nat.add_sub_cancel]
  unfold opened
  rw [carried_sealed, hlen]
  unfold sealedBytes
  rw [List.append_assoc, List.take_left' crypted_length, crypted_twice]

/-- Two nodes that agree on a secret: the receiver takes a packet for a text exactly if the sender, with some number
drawn, sends that packet for that text. -/
theorem opens_iff_sealed {privateA publicA privateB publicB secret buf scratch : List UInt8}
    (hab : w.dh2 (keyBytes publicB) privateA = some secret) (hba : w.dh2 (keyBytes publicA) privateB = some secret)
    (ha : publicA ≠ []) (hb : publicB ≠ []) (hbuf : buf.length = 256) (hscratch : scratch.length = 256)
    (hplain : plain.length + pkcOverhead ≤ 256) (hmin : pkcOverhead ≤ bytes.length) (hmax : bytes.length ≤ 256) :
    (∃ out, decryptCurve25519 w privateB publicA fromNode packetNum bytes scratch = .ok (true, out) ∧
        out.take (bytes.length - pkcOverhead) = plain) ↔
      ∃ extraNonce out, encryptCurve25519 w privateA publicB fromNode packetNum extraNonce plain buf = .ok (true, out) ∧
        out.take (plain.length + pkcOverhead) = bytes := by
  have hover : pkcOverhead = 12 := rfl
  have hkA : sharedKey w privateA publicB = some (w.sha256 secret) := by rw [sharedKey, hab]; rfl
  have hkB : sharedKey w privateB publicA = some (w.sha256 secret) := by rw [sharedKey, hba]; rfl
  have hroom : 16 * blocks plain ≤ buf.length := by
    unfold blocks
    omega
  have hsend : ∀ extraNonce, ∃ rest, encryptCurve25519 w privateA publicB fromNode packetNum extraNonce plain buf =
      .ok (true, sealedBytes (w.aesEncrypt (w.sha256 secret)) fromNode packetNum extraNonce plain ++ rest) :=
    fun extraNonce => encrypt_ok hb hkA hroom (by omega)
  have hopen : ∃ out, decryptCurve25519 w privateB publicA fromNode packetNum bytes scratch =
      .ok (bytes = sealedBytes (w.aesEncrypt (w.sha256 secret)) fromNode packetNum (carried bytes)
        (opened (w.aesEncrypt (w.sha256 secret)) fromNode packetNum bytes), out) ∧
      out.take (bytes.length - pkcOverhead) = opened (w.aesEncrypt (w.sha256 secret)) fromNode packetNum bytes :=
    decrypt_ok hmin ha hkB (by omega) (by omega)
  obtain ⟨out, hdec, htext⟩ := hopen
  constructor
  · rintro ⟨out', hok, hplain'⟩
    rw [hdec] at hok
    obtain ⟨hyes, rfl⟩ := Prod.mk.inj (Except.ok.inj hok)
    have hsealed := of_decide_eq_true hyes
    rw [← htext, hplain'] at hsealed
    obtain ⟨rest, hrest⟩ := hsend (carried bytes)
    refine ⟨carried bytes, _, hrest, ?_⟩
    rw [List.take_left' sealedBytes_length]
    exact hsealed.symm
  · rintro ⟨extraNonce, out', hok, hbytes⟩
    obtain ⟨rest, hrest⟩ := hsend extraNonce
    rw [hrest] at hok
    obtain ⟨-, rfl⟩ := Prod.mk.inj (Except.ok.inj hok)
    rw [List.take_left' sealedBytes_length] at hbytes
    rw [← hbytes, carried_sealed, opened_sealed] at hdec
    rw [← hbytes, opened_sealed] at htext
    refine ⟨out, ?_, ?_⟩
    · rw [← hbytes, hdec, decide_eq_true rfl]
    · rw [← hbytes]
      exact htext

/-- Stand-ins: the agreement adds the keys, the hash is the key itself, the cipher adds it to the block. -/
def standIns : Primitives where
  dh2 publicKey privateKey := some (List.zipWith (· + ·) publicKey privateKey)
  sha256 secret := secret
  aesEncrypt key b := Vector.ofFn fun i => b.get i + key.getD i 0 + 90

/-- What one node sealed with the number 5 the other opens: a text of two bytes. -/
theorem greeting_opened : ∃ out, decryptCurve25519 standIns (List.replicate 32 4) (List.replicate 32 3) 7 9
    [10, 3, 17, 14, 163, 163, 163, 161, 163, 163, 5, 0, 0, 0] (List.replicate 256 0) = .ok (true, out) ∧
      out.take (14 - pkcOverhead) = [104, 105] := by
  have hsent : (encryptCurve25519 standIns (List.replicate 32 3) (List.replicate 32 4) 7 9 5 [104, 105]
      (List.replicate 256 0)).toOption.map (fun r => (r.1, r.2.take 14)) =
        some (true, [10, 3, 17, 14, 163, 163, 163, 161, 163, 163, 5, 0, 0, 0]) := by decide +kernel
  obtain ⟨⟨yes, out⟩, hout, hr⟩ := exists_of_map hsent
  obtain ⟨rfl, hbytes⟩ := Prod.mk.inj hr
  have hne : ∀ b : UInt8, List.replicate 32 b ≠ [] := fun b => List.cons_ne_nil _ _
  have hab : standIns.dh2 (keyBytes (List.replicate 32 4)) (List.replicate 32 3) = some (List.replicate 32 7) := by
    decide +kernel
  have hba : standIns.dh2 (keyBytes (List.replicate 32 3)) (List.replicate 32 4) = some (List.replicate 32 7) := by
    decide +kernel
  exact (opens_iff_sealed hab hba (hne 3) (hne 4) List.length_replicate List.length_replicate (by decide)
    (by decide) (by decide)).mpr ⟨5, out, hout, hbytes⟩

end CryptoEngine
end MonsterMesh
