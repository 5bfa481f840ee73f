import MonsterMesh.Lib.Chunks
import MonsterMesh.Lib.Walk

/-! Parties that come in chunks: the receiver of a peer's party and the receiver of a gym's. -/
namespace MonsterMesh

open Chunks

def sizeofGen1Party : ℕ := 404

/-! ### Reassembly -/

/-- The buffer, the mask of the chunks that have come, and the last `partTotal`. -/
structure Assembly where
  cells : ℕ → UInt8
  mask : UInt8
  total : UInt8

def Assembly.zero : Assembly := ⟨fun _ => 0, 0, 0⟩

/-- The mask and the total are cleared; what the buffer holds stays. -/
def Assembly.reset (a : Assembly) : Assembly := { a with mask := 0, total := 0 }

structure Chunk where
  (partIdx partTotal : UInt8)
  data : List UInt8

def chunkOf : List UInt8 → Option Chunk
  | partIdx :: partTotal :: data => some ⟨partIdx, partTotal, data⟩
  | _ => none

/-- Placed by chunks of `size` it stays within the buffer. -/
def Chunk.Fits (size cap : ℕ) (c : Chunk) : Prop :=
  c.partTotal ≠ 0 ∧ c.partTotal ≤ 8 ∧ c.partIdx < c.partTotal ∧
    c.partIdx.toNat * size + c.data.length ≤ cap

instance (size cap : ℕ) (c : Chunk) : Decidable (c.Fits size cap) := by
  unfold Chunk.Fits
  infer_instance

def Assembly.add (size : ℕ) (a : Assembly) (c : Chunk) : Assembly :=
  { cells := put a.cells (c.partIdx.toNat * size) c.data
    mask := a.mask ||| (1 <<< c.partIdx)
    total := c.partTotal }

def fullMask (total : UInt8) : UInt8 := UInt8.ofNat (2 ^ total.toNat - 1)

abbrev Assembly.Full (a : Assembly) : Prop := a.mask &&& fullMask a.total = fullMask a.total

/-- `memcpy` of the buffer into a `Gen1Party`. -/
def Assembly.party (a : Assembly) : List UInt8 := contents a.cells sizeofGen1Party

/-! ### A peer's party -/

def mmbChunk : ℕ := 100

def mmbPartyChunksBytes : ℕ := 800

/-- What the module knows of a challenge and of the party it waits for. The last two are a history:
the sessions begun, and each party put together from chunks with the session it was for. -/
structure Mmb where
  (active pendingInitiator pendingReceiver pendingAccepted : Bool)
  (battlePeer challenger awaitingReply acceptedTarget txTarget rxFrom : UInt32)
  chunks : Assembly
  oppParty : List UInt8
  oppPartyReady : Bool
  sessions : ℕ
  assembled : List (ℕ × List UInt8)

namespace Mmb

def init : Mmb :=
  { active := false, pendingInitiator := false, pendingReceiver := false, pendingAccepted := false
    battlePeer := 0, challenger := 0, awaitingReply := 0, acceptedTarget := 0
    txTarget := 0, rxFrom := 0
    chunks := .zero, oppParty := [], oppPartyReady := false, sessions := 0, assembled := [] }

/-- Neither in a battle nor about to be. -/
def quiet (s : Mmb) : Bool := !s.active && !s.pendingReceiver && !s.pendingInitiator

/-- A party exchange begins. -/
def arm (s : Mmb) (peer : UInt32) : Mmb :=
  { s with txTarget := peer, rxFrom := peer, oppPartyReady := false, chunks := s.chunks.reset
           sessions := s.sessions + 1 }

/-- As a `PARTY_MIN` begins it: the mask is left alone. -/
def armMin (s : Mmb) (peer : UInt32) : Mmb :=
  { s with txTarget := peer, rxFrom := peer, oppPartyReady := false
           sessions := s.sessions + 1 }

/-- The state of a failed handshake is dropped. -/
def clear (s : Mmb) : Mmb :=
  { s with pendingInitiator := false, pendingReceiver := false, txTarget := 0
           rxFrom := 0, oppPartyReady := false, chunks := s.chunks.reset }

/-- A party from the challenger stands for the START that was lost. -/
def armReceiver (arm : Mmb → UInt32 → Mmb) (s : Mmb) (sender : UInt32) : Mmb :=
  if s.rxFrom = 0 ∧ s.challenger = sender ∧ s.quiet then
    { arm s sender with battlePeer := sender, pendingReceiver := true }
  else s

/-- A party from the peer that was challenged stands for the reply that was lost. -/
def armInitiator (arm : Mmb → UInt32 → Mmb) (s : Mmb) (sender : UInt32) (hasParty : Bool) : Mmb :=
  if s.rxFrom = 0 ∧ s.awaitingReply = sender ∧ s.quiet ∧ hasParty then
    { arm s sender with pendingAccepted := true, acceptedTarget := sender, awaitingReply := 0 }
  else s

def selfArm (arm : Mmb → UInt32 → Mmb) (s : Mmb) (sender : UInt32) (hasParty : Bool) : Mmb :=
  (s.armReceiver arm sender).armInitiator arm sender hasParty

abbrev Expects (s : Mmb) (sender : UInt32) : Prop :=
  (s.rxFrom ≠ 0 ∧ sender = s.rxFrom) ∨ (s.challenger ≠ 0 ∧ sender = s.challenger)

/-- The chunk a packet is taken for, by a receiver that has armed itself if it had to. -/
def accepted (s : Mmb) (sender : UInt32) (payload : List UInt8) : Option Chunk :=
  if s.Expects sender then (chunkOf payload).filter (Chunk.Fits mmbChunk mmbPartyChunksBytes)
  else none

def takeChunk (s : Mmb) (c : Chunk) : Mmb :=
  let chunks := s.chunks.add mmbChunk c
  if chunks.Full then
    { s with oppParty := chunks.party, oppPartyReady := true, rxFrom := 0, chunks := .zero
             assembled := (s.sessions, chunks.party) :: s.assembled }
  else { s with chunks := chunks }

end Mmb

/-- What happens to the receiver. Ages are looked at by the caller: `expired` is the ten minutes of
a challenge, `stale` the 45 s of a pending START and the two minutes of the janitor. -/
inductive MmbEvent
  | battleOpened
  | challengeDm (sender : UInt32)
  | challenge (peer : UInt32)
  | reply (sender : UInt32) (yes : Bool)
  | replyDrained (hasParty : Bool)
  | localYes (expired : Bool)
  | start (sender : UInt32) (stale : Bool)
  | partyMin (sender : UInt32) (party : Option (List UInt8)) (hasParty : Bool)
  | chunk (sender : UInt32) (session : UInt16) (payload : List UInt8) (hasParty : Bool)
  | txGivenUp
  | janitor (stale : Bool)
  | launch (hasParty : Bool)
  | battleEnded

namespace Mmb

def onStart (s : Mmb) (sender : UInt32) (stale : Bool) : Mmb :=
  if s.pendingReceiver ∧ sender = s.battlePeer ∧ !s.active then s
  else if s.quiet then { s.arm sender with battlePeer := sender, pendingReceiver := true }
  else if s.pendingReceiver ∧ stale ∧ !s.oppPartyReady then
    { s.clear.arm sender with battlePeer := sender, pendingReceiver := true }
  else s

def onPartyMin (s : Mmb) (sender : UInt32) (party : Option (List UInt8)) (hasParty : Bool) : Mmb :=
  let s := s.selfArm armMin sender hasParty
  match party with
  | some p =>
    if s.Expects sender then
      { s with oppParty := p, oppPartyReady := true, rxFrom := 0, chunks := s.chunks.reset }
    else s
  | none => s

def onChunk (s : Mmb) (sender : UInt32) (payload : List UInt8) (hasParty : Bool) : Mmb :=
  let s := s.selfArm arm sender hasParty
  match s.accepted sender payload with
  | some c => s.takeChunk c
  | none => s

/-- `challengePeerByShortName`, the peer resolved. -/
def onChallenge (s : Mmb) (peer : UInt32) : Mmb :=
  let s := if s.pendingInitiator ∨ s.pendingReceiver ∨ s.txTarget ≠ 0 ∨ s.rxFrom ≠ 0 then s.clear
    else s
  { s with awaitingReply := peer }

def onReply (s : Mmb) (sender : UInt32) (yes : Bool) : Mmb :=
  if s.awaitingReply ≠ 0 ∧ sender = s.awaitingReply then
    if yes then
      { s.arm sender with pendingAccepted := true, acceptedTarget := sender, awaitingReply := 0 }
    else { s with awaitingReply := 0 }
  else s

def onLocalYReply (s : Mmb) (expired : Bool) : Mmb :=
  if s.challenger = 0 ∨ expired ∨ !s.quiet then s
  else { s.arm s.challenger with battlePeer := s.challenger, pendingReceiver := true }

def onReplyDrained (s : Mmb) (hasParty : Bool) : Mmb :=
  if s.pendingAccepted then
    if s.acceptedTarget ≠ 0 ∧ hasParty then
      { s with pendingAccepted := false, battlePeer := s.acceptedTarget, pendingInitiator := true }
    else { s with pendingAccepted := false }
  else s

def onJanitor (s : Mmb) (stale : Bool) : Mmb :=
  if (s.pendingReceiver ∨ s.pendingInitiator) ∧ stale ∧ !s.oppPartyReady ∧ !s.active then s.clear
  else s

def onLaunch (s : Mmb) (hasParty : Bool) : Mmb :=
  if (s.pendingInitiator ∨ s.pendingReceiver) ∧ !s.active ∧ hasParty ∧ s.oppPartyReady then
    { s with pendingInitiator := false, pendingReceiver := false, oppPartyReady := false
             txTarget := 0, chunks := .zero, active := true }
  else s

def onBattleEnded (s : Mmb) : Mmb :=
  { s.clear with active := false, chunks := .zero, challenger := 0, awaitingReply := 0
                 battlePeer := 0 }

def step (s : Mmb) : MmbEvent → Mmb
  | .battleOpened => { s with active := true }
  | .challengeDm sender => if sender ≠ 0 then { s with challenger := sender } else s
  | .challenge peer => s.onChallenge peer
  | .reply sender yes => s.onReply sender yes
  | .replyDrained hasParty => s.onReplyDrained hasParty
  | .localYes expired => s.onLocalYReply expired
  | .start sender stale => s.onStart sender stale
  | .partyMin sender party hasParty => s.onPartyMin sender party hasParty
  | .chunk sender _ payload hasParty => s.onChunk sender payload hasParty
  | .txGivenUp => { s with txTarget := 0 }
  | .janitor stale => s.onJanitor stale
  | .launch hasParty => s.onLaunch hasParty
  | .battleEnded => s.onBattleEnded

end Mmb

/-! ### A gym's party -/

def bbsChunk : ℕ := 194

def bbsPartyChunksBytes : ℕ := 512

structure Bbs where
  (fightActive awaitParty requestPending battleStartPending : Bool)
  target : UInt32
  chunks : Assembly
  gymParty : List UInt8
  sessions : ℕ
  assembled : List (ℕ × List UInt8)

inductive BbsEvent
  | request (gym : UInt32)
  | chunk (sender : UInt32) (session : UInt16) (payload : List UInt8)
  | started
  | bulkStarted
  | trainerBeaten
  | requestSent
  | ended

namespace Bbs

def init : Bbs :=
  { fightActive := false, awaitParty := false, requestPending := false, battleStartPending := false
    target := 0, chunks := .zero, gymParty := [], sessions := 0, assembled := [] }

/-- The terminal's `mmg`. -/
def onRequest (s : Bbs) (gym : UInt32) : Bbs :=
  if s.fightActive ∨ s.awaitParty then s
  else
    { s with target := gym, awaitParty := true, fightActive := false, chunks := s.chunks.reset
             requestPending := false, sessions := s.sessions + 1 }

def accepted (s : Bbs) (sender : UInt32) (payload : List UInt8) : Option Chunk :=
  if s.awaitParty ∧ sender = s.target then
    (chunkOf payload).filter (Chunk.Fits bbsChunk bbsPartyChunksBytes)
  else none

/-- The mask of a full party is not cleared. -/
def takeChunk (s : Bbs) (c : Chunk) : Bbs :=
  let chunks := s.chunks.add bbsChunk c
  if chunks.Full then
    { s with chunks := chunks, gymParty := chunks.party, awaitParty := false
             battleStartPending := true
             assembled := (s.sessions, chunks.party) :: s.assembled }
  else { s with chunks := chunks }

def onChunk (s : Bbs) (sender : UInt32) (payload : List UInt8) : Bbs :=
  match s.accepted sender payload with
  | some c => s.takeChunk c
  | none => s

/-- A win against a trainer that came in chunks, with another behind it. -/
def onTrainerBeaten (s : Bbs) : Bbs :=
  { s with fightActive := false, awaitParty := false, chunks := s.chunks.reset
           requestPending := true }

def onRequestSent (s : Bbs) : Bbs :=
  if s.requestPending ∧ s.target ≠ 0 then
    { s with requestPending := false, awaitParty := true, sessions := s.sessions + 1 }
  else s

def onEnded (s : Bbs) : Bbs :=
  { s with fightActive := false, awaitParty := false, target := 0
           chunks := { s.chunks with mask := 0 } }

def step (s : Bbs) : BbsEvent → Bbs
  | .request gym => s.onRequest gym
  | .chunk sender _ payload => s.onChunk sender payload
  | .started => { s with battleStartPending := false, fightActive := true }
  | .bulkStarted => { s with fightActive := true }
  | .trainerBeaten => s.onTrainerBeaten
  | .requestSent => s.onRequestSent
  | .ended => s.onEnded

end Bbs

end MonsterMesh
