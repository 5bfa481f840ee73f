import MonsterMesh.Lib.Bytes
import MonsterMesh.Lib.Keystream
import MonsterMesh.Lib.Writing
import MonsterMesh.Mesh.Encryption

/-! AES-CCM as the firmware computes it, over any block cipher, with the buffers it writes to. -/
namespace MonsterMesh

open Bounded Keystream

/-- `AES_BLOCK_SIZE` bytes. -/
abbrev AesBlock := Vector UInt8 16

namespace Ccm

/-- The block that starts with the bytes. -/
def block (bytes : List UInt8) : AesBlock := Vector.ofFn fun i => bytes.getD i 0

def wpaPutBe16 (val : ℕ) : List UInt8 := Bytes.be16 (UInt16.ofNat val)

/-- `dst ^= src`, for as many bytes as `src` has. -/
def xorAesBlock (dst : AesBlock) (src : List UInt8) : AesBlock := block (onto (· ^^^ ·) dst.toList src)

/-- `d` as the loop leaves it. -/
def difference (a b : List UInt8) : UInt8 := (List.zipWith (· ^^^ ·) a b).foldl (· ||| ·) 0

/-- Constant time: the two bytes' worth of arithmetic turns `d > 0` into `-1`. -/
def constantTimeCompare (a b : List UInt8) : BitVec 32 :=
  if a = [] then 0 else (1 &&& ((difference a b).toBitVec.zeroExtend 32 - 1).sshiftRight 8) - 1

section
variable (aesEncrypt : AesBlock → AesBlock) (M : ℕ) (nonce : AesBlock) (aad : List UInt8)

def authStart (plainLen : ℕ) : AesBlock :=
  let flags : UInt8 := (if aad = [] then 0 else 0x40) ||| UInt8.ofNat ((M + 2 ^ 64 - 2) % 2 ^ 64 / 2 * 8) ||| 1
  let x := aesEncrypt (block (flags :: nonce.toList.take 13 ++ wpaPutBe16 plainLen))
  if aad = [] then x
  else
    let aadBuf := wpaPutBe16 aad.length ++ aad ++ List.replicate (30 - aad.length) 0
    let x := aesEncrypt (xorAesBlock (block (aadBuf.take 16)) x.toList)
    if 14 < aad.length then aesEncrypt (xorAesBlock (block (aadBuf.drop 16)) x.toList) else x

def auth (data : List UInt8) (x : AesBlock) : AesBlock :=
  let whole := (List.range (data.length / 16)).foldl
    (fun x i => aesEncrypt (xorAesBlock x ((data.drop (16 * i)).take 16))) x
  if data.length % 16 = 0 then whole else aesEncrypt (xorAesBlock whole (data.drop (16 * (data.length / 16))))

/-- `A_i = Flags | Nonce N | Counter i` -/
def counterBlock (i : ℕ) : AesBlock := block (1 :: nonce.toList.take 13 ++ wpaPutBe16 i)

/-- One keystream block goes to the buffer, and a block of the input is laid over it. -/
def encrBlock (inp out : List UInt8) (i : ℕ) : Except Bounded.Fault (List UInt8) :=
  storeAll out (16 * i) (onto (· ^^^ ·) (aesEncrypt (counterBlock nonce (i + 1))).toList ((inp.drop (16 * i)).take 16))

/-- The last block is written whole, however short the input. -/
def encr (inp out : List UInt8) : Except Bounded.Fault (List UInt8) := do
  let out ← (List.range (inp.length / 16)).foldlM (encrBlock aesEncrypt nonce inp) out
  if inp.length % 16 = 0 then .ok out else encrBlock aesEncrypt nonce inp out (inp.length / 16)

/-- The first `M` bytes, under the keystream block that is kept for them. -/
def encrAuth (x : List UInt8) : List UInt8 :=
  List.zipWith (· ^^^ ·) (x.take M) (aesEncrypt (counterBlock nonce 0)).toList

def decrAuth (tag : List UInt8) : List UInt8 :=
  List.zipWith (· ^^^ ·) (tag.take M) (aesEncrypt (counterBlock nonce 0)).toList

/-- `aes_ccm_ae` under the key of the cipher: the tag goes to the output from `authAt` on. -/
def ae (plain crypt : List UInt8) (authAt : ℕ) : Except Bounded.Fault (ℤ × List UInt8) :=
  if 30 < aad.length ∨ 16 < M then .ok (-1, crypt)
  else do
    let x := auth aesEncrypt plain (authStart aesEncrypt M nonce aad plain.length)
    let crypt ← encr aesEncrypt nonce plain crypt
    let crypt ← storeAll crypt authAt (encrAuth aesEncrypt M nonce x.toList)
    .ok (0, crypt)

/-- `aes_ccm_ad`: the plain text is written even where the tag turns out to be wrong. -/
def ad (crypt tag plain : List UInt8) : Except Bounded.Fault (Bool × List UInt8) :=
  if 30 < aad.length ∨ 16 < M then .ok (false, plain)
  else if tag.length < M then .error .outside
  else do
    let t := decrAuth aesEncrypt M nonce tag
    let plain ← encr aesEncrypt nonce crypt plain
    let x := auth aesEncrypt (plain.take crypt.length) (authStart aesEncrypt M nonce aad crypt.length)
    .ok (constantTimeCompare (x.toList.take M) t = 0, plain)

end

end Ccm
end MonsterMesh

/-! Direct messages under a shared secret: `encryptCurve25519` and `decryptCurve25519`. -/
namespace MonsterMesh

open Bounded

/-- The primitives that the firmware is linked with: the key agreement, the hash and the block cipher. -/
structure Primitives where
  dh2 : (publicKey privateKey : List UInt8) → Option (List UInt8)
  sha256 : List UInt8 → List UInt8
  aesEncrypt : (key : List UInt8) → AesBlock → AesBlock

namespace CryptoEngine

/-- The nonce of a packet; one that is not zero takes the place of the upper half of the packet's number. -/
def initNonce (fromNode : UInt32) (packetId : UInt64) (extraNonce : UInt32) : AesBlock :=
  Ccm.block ((Bytes.le 8 packetId.toNat).take 4 ++
    (if extraNonce ≠ 0 then Bytes.le 4 extraNonce.toNat else (Bytes.le 8 packetId.toNat).drop 4) ++
    Bytes.le 4 fromNode.toNat ++ List.replicate 4 0)

section
variable (w : Primitives) (privateKey remotePublic : List UInt8) (fromNode : UInt32) (packetNum : UInt64)

/-- `setDHPublicKey` and `hash`: what both ends encrypt with. -/
def sharedKey : Option (List UInt8) := (w.dh2 (keyBytes remotePublic) privateKey).map w.sha256

/-- The number drawn is kept behind the tag; it is written again as the last block may have run over it. -/
def encryptCurve25519 (extraNonce : UInt32) (bytes bytesOut : List UInt8) : Except Bounded.Fault (Bool × List UInt8) := do
  let out ← storeAll bytesOut (bytes.length + 8) (Bytes.le 4 extraNonce.toNat)
  if remotePublic = [] then .ok (false, out)
  else
    match sharedKey w privateKey remotePublic with
    | none => .ok (false, out)
    | some key => do
      let r ← Ccm.ae (w.aesEncrypt key) 8 (initNonce fromNode packetNum extraNonce) [] bytes out bytes.length
      let out ← storeAll r.2 (bytes.length + 8) (Bytes.le 4 extraNonce.toNat)
      .ok (true, out)

/-- `numBytes - 12` wraps around for a packet that is too short, and the read is then far outside of it. -/
def decryptCurve25519 (bytes bytesOut : List UInt8) : Except Bounded.Fault (Bool × List UInt8) :=
  if bytes.length < pkcOverhead then .error .outside
  else
    let numBytes := bytes.length - pkcOverhead
    let extraNonce := UInt32.ofNat (Bytes.ofLe ((bytes.drop (numBytes + 8)).take 4))
    if remotePublic = [] then .ok (false, bytesOut)
    else
      match sharedKey w privateKey remotePublic with
      | none => .ok (false, bytesOut)
      | some key =>
        Ccm.ad (w.aesEncrypt key) 8 (initNonce fromNode packetNum extraNonce) [] (bytes.take numBytes)
          (bytes.drop numBytes) bytesOut

end

end CryptoEngine
end MonsterMesh
