import MonsterMesh.Mesh.Sealed

/-! The numbers a node gives its packets, and that no cipher block serves two of them. -/
namespace MonsterMesh

open Ccm CryptoEngine

/-- What `generatePacketId` keeps from call to call. -/
structure PacketIds where
  didInit : Bool
  rollingPacketId : UInt32

namespace PacketIds

variable {s : PacketIds} {draws : List (UInt32 × UInt32)} {i j k n : ℕ}

def idCounterMask : UInt32 := (0xFFFFFFFF : UInt32) >>> 22

/-- One call, with what `random` returns to it. -/
def generatePacketId (s : PacketIds) (draw : UInt32 × UInt32) : UInt32 × PacketIds :=
  let rolling := ((if s.didInit then s.rollingPacketId else draw.1) + 1) &&& idCounterMask
  (rolling ||| draw.2 <<< 10, ⟨true, rolling⟩)

/-- The numbers of call after call. -/
def ids (s : PacketIds) : List (UInt32 × UInt32) → List UInt32
  | [] => []
  | draw :: draws => (s.generatePacketId draw).1 :: ids (s.generatePacketId draw).2 draws

/-- Where the counter of a run starts. -/
def start (s : PacketIds) (draws : List (UInt32 × UInt32)) : UInt32 :=
  if s.didInit then s.rollingPacketId else (draws.head?.map Prod.fst).getD 0

theorem masked_toNat (c : UInt32) : ((c + 1) &&& idCounterMask).toNat = (c.toNat + 1) % 1024 := by
  have hmask : idCounterMask.toNat = 2 ^ 10 - 1 := rfl
  have hone : (1 : UInt32).toNat = 1 := rfl
  rw [UInt32.toNat_and, hmask, Nat.and_two_pow_sub_one_eq_mod, UInt32.toNat_add, hone]
  omega

/-- The random half stays clear of the counter. -/
theorem low_toNat (c top : UInt32) (h : c.toNat < 1024) : (c ||| top <<< 10).toNat % 1024 = c.toNat := by
  have hten : (10 : UInt32).toNat % 32 = 10 := rfl
  have hshift : (top <<< 10).toNat % 2 ^ 10 = 0 := by
    rw [UInt32.toNat_shiftLeft, hten, Nat.shiftLeft_eq]
    omega
  rw [UInt32.toNat_or, show 1024 = 2 ^ 10 from rfl, Nat.or_mod_two_pow, hshift, Nat.or_zero]
  omega

/-- One call moves the counter on by one. -/
theorem generate_step (s : PacketIds) (draw : UInt32 × UInt32) (draws : List (UInt32 × UInt32)) :
    (s.generatePacketId draw).2.start draws = (s.start (draw :: draws) + 1) &&& idCounterMask ∧
      (s.generatePacketId draw).1.toNat % 1024 = ((s.start (draw :: draws)).toNat + 1) % 1024 := by
  refine ⟨rfl, ?_⟩
  have hlow := masked_toNat (s.start (draw :: draws))
  have hlt : ((s.start (draw :: draws) + 1) &&& idCounterMask).toNat < 1024 := by omega
  rw [← hlow]
  exact low_toNat _ draw.2 hlt

/-- The low ten bits count. -/
theorem ids_low : ∀ {s : PacketIds} {i : ℕ} {a : UInt32}, (s.ids draws)[i]? = some a →
    a.toNat % 1024 = ((s.start draws).toNat + 1 + i) % 1024 := by
  induction draws with
  | nil =>
    intro s i a h
    cases h
  | cons draw draws ih =>
    intro s i a h
    obtain ⟨hstart, hlow⟩ := generate_step s draw draws
    cases i with
    | zero =>
      obtain rfl := Option.some.inj h
      exact hlow
    | succ i =>
      have hrest := ih h
      rw [hstart, masked_toNat] at hrest
      omega

/-- Fewer than 1024 calls apart no number comes twice. -/
theorem ids_apart {a b : UInt32} (hi : (s.ids draws)[i]? = some a) (hj : (s.ids draws)[j]? = some b)
    (hij : i < j + 1024) (hji : j < i + 1024) (h : a = b) : i = j := by
  have ha := ids_low hi
  have hb := ids_low hj
  rw [← h] at hb
  omega

end PacketIds

/-! ### The bytes of a nonce and of a block -/

theorem block_toList {l : List UInt8} (h : l.length = 16) : (block l).toList = l := by
  apply List.ext_getElem
  · rw [Vector.length_toList, h]
  · intro n hn hn'
    simp [block, hn']

theorem le_take (m n v : ℕ) : (Bytes.le (m + n) v).take m = Bytes.le m v := by
  induction m generalizing v with
  | zero => rfl
  | succ m ih => rw [Nat.succ_add, Bytes.le, List.take_succ_cons, ih, Bytes.le]

variable {fromNode extraNonce extraNonce' a b : UInt32} {k k' n : ℕ}

theorem initNonce_toList (packetId : UInt64) : (initNonce fromNode packetId extraNonce).toList =
    (Bytes.le 8 packetId.toNat).take 4 ++
      (if extraNonce ≠ 0 then Bytes.le 4 extraNonce.toNat else (Bytes.le 8 packetId.toNat).drop 4) ++
      Bytes.le 4 fromNode.toNat ++ List.replicate 4 0 := by
  apply block_toList
  have hmid : (if extraNonce ≠ 0 then Bytes.le 4 extraNonce.toNat else (Bytes.le 8 packetId.toNat).drop 4).length =
      4 := by
    split_ifs
    · exact Bytes.length_le 4 _
    · rw [List.length_drop, Bytes.length_le]
  rw [List.length_append, List.length_append, List.length_append, List.length_take, hmid, Bytes.length_le,
    Bytes.length_le, List.length_replicate]
  rfl

/-- The number of the packet stands in front. -/
theorem initNonce_front (packetId : UInt32) :
    (initNonce fromNode packetId.toUInt64 extraNonce).toList.take 4 = Bytes.le 4 packetId.toNat := by
  have hlen : (Bytes.le 4 packetId.toNat).length = 4 := Bytes.length_le 4 _
  rw [initNonce_toList, UInt32.toNat_toUInt64, show 8 = 4 + 4 from rfl, le_take, List.append_assoc, List.append_assoc,
    List.take_left' hlen]

theorem initNonce_number (h : 4 ≤ n) (heq : (initNonce fromNode a.toUInt64 extraNonce).toList.take n =
    (initNonce fromNode b.toUInt64 extraNonce').toList.take n) : a = b := by
  have hfront := congrArg (List.take 4) heq
  rw [List.take_take, List.take_take, Nat.min_eq_left h, initNonce_front, initNonce_front] at hfront
  have hnum := congrArg Bytes.ofLe hfront
  rw [Bytes.ofLe_le a.toNat_lt, Bytes.ofLe_le b.toNat_lt] at hnum
  exact UInt32.toNat_inj.mp hnum

theorem counterBlock_toList (nonce : AesBlock) :
    (counterBlock nonce k).toList = 1 :: nonce.toList.take 13 ++ wpaPutBe16 k := by
  apply block_toList
  rw [List.length_append, List.length_cons, List.length_take, Vector.length_toList]
  rfl

/-- A counter block tells its nonce and its place. -/
theorem counterBlock_inj {nonce nonce' : AesBlock} (hk : k < 65536) (hk' : k' < 65536)
    (h : counterBlock nonce k = counterBlock nonce' k') : nonce.toList.take 13 = nonce'.toList.take 13 ∧ k = k' := by
  have hlist := congrArg Vector.toList h
  rw [counterBlock_toList, counterBlock_toList, List.cons_append, List.cons_append] at hlist
  have hlen : (nonce.toList.take 13).length = (nonce'.toList.take 13).length := by
    rw [List.length_take, List.length_take, Vector.length_toList, Vector.length_toList]
  obtain ⟨hn, hc⟩ := List.append_inj (List.cons.inj hlist).2 hlen
  refine ⟨hn, ?_⟩
  have hhi := (List.cons.inj hc).1
  have hlo := (List.cons.inj (List.cons.inj hc).2).1
  have hword : UInt16.ofNat k = UInt16.ofNat k' := by
    rw [← Bytes.ofBe16_be16 (UInt16.ofNat k), ← Bytes.ofBe16_be16 (UInt16.ofNat k'), hhi, hlo]
  have hnat := congrArg UInt16.toNat hword
  rw [UInt16.toNat_ofNat', UInt16.toNat_ofNat'] at hnat
  omega

/-- What the tag starts from; its flags are those of no counter block. -/
def tagBlock (nonce : AesBlock) (plainLen : ℕ) : AesBlock := block (25 :: nonce.toList.take 13 ++ wpaPutBe16 plainLen)

theorem authStart_eq (E : AesBlock → AesBlock) (nonce : AesBlock) (plainLen : ℕ) :
    authStart E 8 nonce [] plainLen = E (tagBlock nonce plainLen) := rfl

theorem tagBlock_ne (nonce nonce' : AesBlock) (plainLen k : ℕ) : tagBlock nonce plainLen ≠ counterBlock nonce' k := by
  intro h
  have hlist := congrArg Vector.toList h
  have hlen : (25 :: nonce.toList.take 13 ++ wpaPutBe16 plainLen).length = 16 := by
    rw [List.length_append, List.length_cons, List.length_take, Vector.length_toList]
    rfl
  rw [counterBlock_toList, tagBlock, block_toList hlen] at hlist
  exact absurd (List.cons.inj hlist).1 (by decide)

namespace PacketIds

/-- Of the packets that a node numbers, none fewer than 1024 calls after another is encrypted with a block that
served the other: neither a counter block nor the block that the tag starts from, and in counter mode the nonces
differ in the bytes that the counter leaves alone. -/
theorem blocks_fresh {s : PacketIds} {draws : List (UInt32 × UInt32)} {i j : ℕ}
    (hi : (s.ids draws)[i]? = some a) (hj : (s.ids draws)[j]? = some b) (hij : i < j + 1024) (hji : j < i + 1024) :
    (k < 65536 → k' < 65536 → counterBlock (initNonce fromNode a.toUInt64 extraNonce) k =
        counterBlock (initNonce fromNode b.toUInt64 extraNonce') k' → i = j ∧ k = k') ∧
      (∀ E, authStart E 8 (initNonce fromNode a.toUInt64 extraNonce) [] n =
          E (tagBlock (initNonce fromNode a.toUInt64 extraNonce) n)) ∧
      tagBlock (initNonce fromNode a.toUInt64 extraNonce) n ≠
        counterBlock (initNonce fromNode b.toUInt64 extraNonce') k ∧
      ((initNonce fromNode a.toUInt64 0).toList.take 12 = (initNonce fromNode b.toUInt64 0).toList.take 12 →
        i = j) := by
  refine ⟨fun hk hk' h => ?_, fun E => authStart_eq E _ n, tagBlock_ne _ _ n k, fun h => ?_⟩
  · obtain ⟨hn, hkk⟩ := counterBlock_inj hk hk' h
    exact ⟨ids_apart hi hj hij hji (initNonce_number (by decide) hn), hkk⟩
  · exact ids_apart hi hj hij hji (initNonce_number (by decide) h)

/-- The counter wraps between two packets of a node just booted; their first blocks differ all the same. -/
theorem wrapped_fresh : PacketIds.ids ⟨false, 0⟩ [(1022, 5), (0, 5)] = [6143, 5120] ∧
    counterBlock (initNonce 7 (6143 : UInt32).toUInt64 1) 1 ≠ counterBlock (initNonce 7 (5120 : UInt32).toUInt64 2) 1 := by
  have hids : PacketIds.ids ⟨false, 0⟩ [(1022, 5), (0, 5)] = [6143, 5120] := by decide
  refine ⟨hids, fun h => ?_⟩
  have hi : (PacketIds.ids ⟨false, 0⟩ [(1022, 5), (0, 5)])[0]? = some 6143 := by rw [hids]; rfl
  have hj : (PacketIds.ids ⟨false, 0⟩ [(1022, 5), (0, 5)])[1]? = some 5120 := by rw [hids]; rfl
  have hfresh := (blocks_fresh (n := 0) hi hj (by decide) (by decide)).1 (by decide) (by decide) h
  exact absurd hfresh.1 (by decide)

end PacketIds
end MonsterMesh
