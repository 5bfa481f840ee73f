import MonsterMesh.Lib.Bytes
import MonsterMesh.Mesh.Packet

/-! The packet cache: entries with their metadata, their raw form, and the hash table they are kept
in. -/
namespace MonsterMesh

open Bytes

/-! ### Entries -/

/-- `PacketCacheMetadata`; `replyId` is the word that the two identifiers share. -/
@[ext]
structure PacketCacheMetadata where
  portnum : BitVec 9
  (wantResponse emoji : BitVec 1)
  bitfield : BitVec 5
  rxRssi : UInt8
  (replyId rxTime : UInt32)
  transportMechanism : UInt8
  priority : BitVec 7
deriving DecidableEq

namespace PacketCacheMetadata

def zero : PacketCacheMetadata := ⟨0, 0, 0, 0, 0, 0, 0, 0, 0⟩

/-- The word of the bit-fields; the byte of the signal-to-noise ratio is left out. -/
def word (m : PacketCacheMetadata) : ℕ :=
  m.portnum.toNat + 512 * m.wantResponse.toNat + 1024 * m.emoji.toNat + 2048 * m.bitfield.toNat +
    65536 * m.rxRssi.toNat

/-- The sixteen bytes of the structure. -/
def raw (m : PacketCacheMetadata) : List UInt8 :=
  le 4 m.word ++ (le 4 m.replyId.toNat ++ (le 4 m.rxTime.toNat ++
    (le 1 m.transportMechanism.toNat ++ (le 1 0 ++ (le 1 m.priority.toNat ++ le 1 0)))))

def ofRaw (bs : List UInt8) : PacketCacheMetadata :=
  let word := read 4 bs
  let replyId := read 4 word.2
  let rxTime := read 4 replyId.2
  let transportMechanism := read 1 rxTime.2
  let bitfield2 := read 1 transportMechanism.2
  let priority := read 1 bitfield2.2
  { portnum := BitVec.ofNat 9 word.1
    wantResponse := BitVec.ofNat 1 (word.1 / 512)
    emoji := BitVec.ofNat 1 (word.1 / 1024)
    bitfield := BitVec.ofNat 5 (word.1 / 2048)
    rxRssi := UInt8.ofNat (word.1 / 65536)
    replyId := UInt32.ofNat replyId.1
    rxTime := UInt32.ofNat rxTime.1
    transportMechanism := UInt8.ofNat transportMechanism.1
    priority := BitVec.ofNat 7 priority.1 }

end PacketCacheMetadata

def sizeofPacketCacheEntry : ℕ := 24
def sizeofPacketCacheMetadata : ℕ := 16

/-- `PacketHeader` -/
@[ext]
structure PacketHeader where
  (to' from' id : UInt32)
  (flags channel nextHop relayNode : UInt8)
deriving DecidableEq

/-- An entry in its memory block: the fields, then the bytes behind them. -/
@[ext]
structure PacketCacheEntry where
  header : PacketHeader
  payloadLen : UInt16
  (encrypted hasMetadata : Bool)
  tail : List UInt8
deriving DecidableEq

/-- The flags of a header. -/
def headerFlags (hopLimit hopStart : UInt8) (wantAck viaMqtt : Bool) : UInt8 :=
  (hopLimit &&& (0x07 : UInt8)) ||| (if wantAck then (0x08 : UInt8) else 0) |||
    (if viaMqtt then (0x10 : UInt8) else 0) ||| ((hopStart <<< 5) &&& (0xE0 : UInt8))

def MeshPacket.header (p : MeshPacket) : PacketHeader :=
  { to' := p.to', from' := p.from', id := p.id, flags := headerFlags p.hopLimit p.hopStart p.wantAck p.viaMqtt
    channel := p.channel, nextHop := p.nextHop, relayNode := p.relayNode }

/-- The metadata of every payload variant. -/
def MeshPacket.metadata (p : MeshPacket) : PacketCacheMetadata :=
  { PacketCacheMetadata.zero with
    rxRssi := UInt8.ofNat ((p.rxRssi + 200) % 256).toNat
    rxTime := p.rxTime
    transportMechanism := p.transportMechanism
    priority := BitVec.ofNat 7 p.priority.toNat }

/-- What the metadata of a decoded payload adds. -/
def PacketCacheMetadata.describe (m : PacketCacheMetadata) (d : Data) : PacketCacheMetadata :=
  { m with
    portnum := BitVec.ofNat 9 d.portnum.toNat
    wantResponse := BitVec.ofBool d.wantResponse
    emoji := BitVec.ofNat 1 d.emoji.toNat
    bitfield := BitVec.ofNat 5 d.bitfield.toNat
    replyId := if d.replyId ≠ 0 then d.replyId else if d.requestId ≠ 0 then d.requestId else m.replyId }

/-- The entry `cache` builds, unless the payload is of another kind. -/
def MeshPacket.cacheEntry (p : MeshPacket) (preserveMetadata : Bool) : Option PacketCacheEntry :=
  match p.variant with
  | .encrypted bytes =>
    some { header := p.header, payloadLen := UInt16.ofNat bytes.length, encrypted := true
           hasMetadata := preserveMetadata
           tail := bytes ++ if preserveMetadata then p.metadata.raw else [] }
  | .decoded d =>
    some { header := p.header, payloadLen := UInt16.ofNat d.payload.length, encrypted := false
           hasMetadata := preserveMetadata
           tail := d.payload ++ if preserveMetadata then (p.metadata.describe d).raw else [] }
  | .unset => none

/-- The size of an entry's block. -/
def PacketCacheEntry.len (e : PacketCacheEntry) : ℕ :=
  sizeofPacketCacheEntry + e.payloadLen.toNat + if e.hasMetadata then sizeofPacketCacheMetadata else 0

/-- `rehydrate` -/
def PacketCacheEntry.rehydrate (e : PacketCacheEntry) : MeshPacket :=
  let payload := e.tail.take e.payloadLen.toNat
  let m := if e.hasMetadata then PacketCacheMetadata.ofRaw (e.tail.drop e.payloadLen.toNat)
    else PacketCacheMetadata.zero
  let p : MeshPacket := { MeshPacket.zero with
    from' := e.header.from', to' := e.header.to', id := e.header.id, channel := e.header.channel
    nextHop := e.header.nextHop, relayNode := e.header.relayNode
    hopLimit := e.header.flags &&& 0x07
    wantAck := e.header.flags &&& 0x08 ≠ 0
    viaMqtt := e.header.flags &&& 0x10 ≠ 0
    hopStart := (e.header.flags &&& 0xE0) >>> 5 }
  let p := if e.hasMetadata then { p with
    rxRssi := m.rxRssi.toNat - 200
    rxTime := m.rxTime
    transportMechanism := m.transportMechanism
    priority := UInt8.ofNat m.priority.toNat } else p
  if e.encrypted then { p with variant := .encrypted payload }
  else
    let d := { Data.zero with payload := payload }
    -- The second test of the shared word is never reached with a word that is not 0.
    { p with variant := .decoded (if e.hasMetadata then { d with
        portnum := UInt32.ofNat m.portnum.toNat
        wantResponse := m.wantResponse ≠ 0
        emoji := UInt32.ofNat m.emoji.toNat
        bitfield := UInt8.ofNat m.bitfield.toNat
        replyId := if m.replyId ≠ 0 then m.replyId else 0
        requestId := if m.replyId ≠ 0 then 0 else m.replyId } else d) }

/-! ### Dumps -/

/-- The bytes of an entry's block, whose `next` pointer is whatever it was. -/
def PacketCacheEntry.raw (next : UInt32) (e : PacketCacheEntry) : List UInt8 :=
  le 4 next.toNat ++ (le 4 e.header.to'.toNat ++ (le 4 e.header.from'.toNat ++ (le 4 e.header.id.toNat ++
    (le 1 e.header.flags.toNat ++ (le 1 e.header.channel.toNat ++ (le 1 e.header.nextHop.toNat ++
      (le 1 e.header.relayNode.toNat ++ (le 2 e.payloadLen.toNat ++
        (le 2 (e.encrypted.toNat + 2 * e.hasMetadata.toNat) ++ e.tail)))))))))

def PacketCache.dump (entries : List (UInt32 × PacketCacheEntry)) : List UInt8 :=
  entries.flatMap fun x => x.2.raw x.1

def PacketCache.dumpSize (entries : List PacketCacheEntry) : ℕ :=
  (entries.map PacketCacheEntry.len).sum

/-- The entry at the start of a dump: its fields and as much of the bytes behind them as they say. -/
def PacketCacheEntry.ofRaw (bs : List UInt8) : PacketCacheEntry :=
  let next := read 4 bs
  let to' := read 4 next.2
  let from' := read 4 to'.2
  let id := read 4 from'.2
  let flags := read 1 id.2
  let channel := read 1 flags.2
  let nextHop := read 1 channel.2
  let relayNode := read 1 nextHop.2
  let payloadLen := read 2 relayNode.2
  let bitfield := read 2 payloadLen.2
  let hasMetadata : Bool := bitfield.1 / 2 % 2 = 1
  { header :=
      { to' := UInt32.ofNat to'.1, from' := UInt32.ofNat from'.1, id := UInt32.ofNat id.1
        flags := UInt8.ofNat flags.1, channel := UInt8.ofNat channel.1
        nextHop := UInt8.ofNat nextHop.1, relayNode := UInt8.ofNat relayNode.1 }
    payloadLen := UInt16.ofNat payloadLen.1
    encrypted := bitfield.1 % 2 = 1
    hasMetadata := hasMetadata
    tail := bitfield.2.take
      (payloadLen.1 % 65536 + if hasMetadata then sizeofPacketCacheMetadata else 0) }

/-- The entries of a dump of `n`. -/
def PacketCache.entriesOf : ℕ → List UInt8 → List PacketCacheEntry
  | 0, _ => []
  | n + 1, bs =>
    let e := PacketCacheEntry.ofRaw bs
    e :: PacketCache.entriesOf n (bs.drop e.len)

/-! ### The table -/

/-- `PACKET_HASH` -/
def packetHash (a b : UInt32) : UInt32 := (((a ^^^ b) >>> 16) ^^^ (a ^^^ b)) &&& 0xFFFF

/-- `PACKET_CACHE_BUCKET` -/
def packetCacheBucket (h : UInt32) : Fin 64 :=
  Fin.ofNat 64 (((h >>> 12) ^^^ (h >>> 6) ^^^ h) &&& 0x3F).toNat

def PacketCacheEntry.bucket (e : PacketCacheEntry) : Fin 64 :=
  packetCacheBucket (packetHash e.header.from' e.header.id)

/-- The cache. An entry is held under the address of its block; `heap` is the next address that
`malloc` gives out. -/
structure PacketCache where
  buckets : Fin 64 → List (ℕ × PacketCacheEntry)
  numEntries : ℕ
  size : ℕ
  heap : ℕ

namespace PacketCache

def empty : PacketCache := ⟨fun _ => [], 0, 0, 0⟩

def insert (c : PacketCache) (addr : ℕ) (e : PacketCacheEntry) : PacketCache :=
  { c with
    buckets := Function.update c.buckets e.bucket ((addr, e) :: c.buckets e.bucket)
    numEntries := c.numEntries + 1 }

/-- `cache`, with whether `malloc` succeeds. -/
def cache (c : PacketCache) (p : MeshPacket) (preserveMetadata malloc : Bool) :
    Option PacketCacheEntry × PacketCache :=
  if malloc then
    match p.cacheEntry preserveMetadata with
    | some e => (some e, { c with size := c.size + e.len, heap := c.heap + 1 }.insert c.heap e)
    | none => (none, c)
  else (none, c)

/-- The blocks of a list, at the addresses from `heap` on. -/
def insertAll (c : PacketCache) : List PacketCacheEntry → PacketCache
  | [] => c
  | e :: es => ({ c with heap := c.heap + 1 }.insert c.heap e).insertAll es

/-- `load` of `n` entries. When `malloc` fails for entry `i`, the sizes of those before it are taken
off again, and its own stays. -/
def load (c : PacketCache) (src : List UInt8) (n : ℕ) (fails : Option (Fin n)) :
    Option (List PacketCacheEntry) × PacketCache :=
  let entries := entriesOf n src
  match fails with
  | some i =>
    let before := ((entries.take i).map PacketCacheEntry.len).sum
    let upTo := ((entries.take (i + 1)).map PacketCacheEntry.len).sum
    (none, { c with size := c.size + upTo - before })
  | none =>
    (some entries, { c with size := c.size + (entries.map PacketCacheEntry.len).sum }.insertAll entries)

/-- The entry of an address. -/
def entry (c : PacketCache) (addr : ℕ) : Option PacketCacheEntry :=
  (((List.finRange 64).flatMap c.buckets).find? fun x => x.1 = addr).map Prod.snd

/-- `release` of the entry at an address; an address that holds none stands for a null pointer. -/
def release (c : PacketCache) (addr : ℕ) : PacketCache :=
  match c.entry addr with
  | none => c
  | some e =>
    { c with
      buckets := Function.update c.buckets e.bucket ((c.buckets e.bucket).eraseP fun x => x.1 = addr)
      numEntries := c.numEntries - 1
      size := c.size - e.len }

/-- The calls on a cache, with the outcomes of `malloc`. -/
inductive Call where
  | cache (p : MeshPacket) (preserveMetadata malloc : Bool)
  | load (src : List UInt8) (n : ℕ) (fails : Option (Fin n))
  | release (addr : ℕ)

def step (c : PacketCache) : Call → PacketCache
  | .cache p preserveMetadata malloc => (c.cache p preserveMetadata malloc).2
  | .load src n fails => (c.load src n fails).2
  | .release addr => c.release addr

end PacketCache

end MonsterMesh
