import Mathlib.Logic.Function.Basic
import Mathlib.Tactic.Common
import MonsterMesh.Lib.Cursor
import MonsterMesh.Lib.Walk
import MonsterMesh.Mesh.Packet

/-! A server that stores text messages and replays them to those who ask. -/
namespace MonsterMesh

structure PacketHistoryStruct where
  (time to' from' id : UInt32)
  channel : UInt8
  replyId : UInt32
  emoji : Bool
  payload : List UInt8
  rxRssi : Int
  (hopStart hopLimit : UInt8)
  viaMqtt : Bool
  transportMechanism : UInt8
deriving DecidableEq

/-- The server's own number and settings, what it allocates packets with, and its encoding of texts, which
says whether a text went to all. -/
structure StoreForwardConfig where
  nodeNum : UInt32
  (records historyReturnMax : ℕ)
  (allocated : MeshPacket)
  (allocatedData : Data)
  encodeText : Bool → List UInt8 → List UInt8

/-- A packet that was replayed to a client, with the number of the message that it holds. -/
structure Replay where
  client : UInt32
  index : ℕ
  packet : MeshPacket
deriving DecidableEq

/-- The server. Beside its variables are all messages that it ever stored, how many of them it had stored
before it began anew, what it replayed, and where the messages begin that the current request may want. -/
structure StoreForward where
  packetHistory : List PacketHistoryStruct
  lastRequest : UInt32 → ℕ
  busy : Bool
  (busyTo lastTime : UInt32)
  requestCount : ℕ
  stored : List PacketHistoryStruct
  restarted : ℕ
  replays : List Replay
  asked : Option ℕ

namespace StoreForward

/-- `TEXT_MESSAGE_APP` -/
def textMessageApp : UInt32 := 1

/-- The server with an empty history. -/
def start : StoreForward :=
  { packetHistory := [], lastRequest := fun _ => 0, busy := false, busyTo := 0, lastTime := 0
    requestCount := 0, stored := [], restarted := 0, replays := [], asked := none }

variable (v : StoreForwardConfig) (s : StoreForward)

/-- The client is only interested in packets that are not from itself and in broadcast packets or packets
towards it. -/
def wanted (dest : UInt32) (h : PacketHistoryStruct) : Bool :=
  h.from' ≠ dest && (h.to' = nodenumBroadcast || h.to' = dest)

def inTime (lastTime : UInt32) (h : PacketHistoryStruct) : Bool := h.time ≠ 0 && lastTime < h.time

def due (dest lastTime : UInt32) (h : PacketHistoryStruct) : Bool := inTime lastTime h && wanted dest h

def getNumAvailablePackets (dest lastTime : UInt32) : ℕ :=
  (s.packetHistory.drop (s.lastRequest dest)).countP (due dest lastTime)

def historyAdd (now : UInt32) (mp : MeshPacket) (p : Data) : StoreForward :=
  let s := if s.packetHistory.length = v.records then
    { s with packetHistory := [], lastRequest := fun _ => 0, restarted := s.stored.length } else s
  let h : PacketHistoryStruct :=
    { time := now, to' := mp.to', from' := mp.getFrom v.nodeNum, id := mp.id, channel := mp.channel
      replyId := p.replyId, emoji := p.emoji ≠ 0, payload := p.payload, rxRssi := mp.rxRssi
      hopStart := mp.hopStart, hopLimit := mp.hopLimit, viaMqtt := mp.viaMqtt
      transportMechanism := mp.transportMechanism }
  { s with packetHistory := s.packetHistory ++ [h], stored := s.stored ++ [h] }

/-- Where the window of a request begins. -/
def since (now secAgo : UInt32) : UInt32 := if now < secAgo then 0 else now - secAgo

def historySend (now secAgo to' : UInt32) : StoreForward :=
  let s := { s with lastTime := since now secAgo }
  let queueSize := min (getNumAvailablePackets s to' s.lastTime) v.historyReturnMax
  if queueSize ≠ 0 then { s with busy := true, busyTo := to', asked := some (s.stored.length - v.records) } else s

/-- What `preparePayload` makes of a stored message. -/
def payloadPacket (dest : UInt32) (loc : Bool) (h : PacketHistoryStruct) : MeshPacket :=
  let data := { v.allocatedData with
    replyId := h.replyId
    emoji := if h.emoji then 1 else 0
    portnum := if loc then textMessageApp else v.allocatedData.portnum
    payload := if loc then h.payload else v.encodeText (h.to' = nodenumBroadcast) h.payload }
  { v.allocated with
    to' := if loc then h.to' else dest, from' := h.from', id := h.id, channel := h.channel, rxTime := h.time
    rxRssi := h.rxRssi, hopStart := h.hopStart, hopLimit := h.hopLimit, viaMqtt := h.viaMqtt
    transportMechanism := h.transportMechanism, wantAck := false, variant := .decoded data }

/-- The server after the next message for a client was prepared, if there is one. -/
def preparePayload (dest lastTime : UInt32) (loc : Bool) : Option StoreForward :=
  match Cursor.next (due dest lastTime) (s.lastRequest dest) s.packetHistory with
  | some i => (s.packetHistory[i]?).map fun h =>
    { s with
      lastRequest := Function.update s.lastRequest dest (i + 1)
      replays := s.replays ++ [⟨dest, s.restarted + i, payloadPacket v dest loc h⟩] }
  | none => none

def sendPayload (dest lastTime : UInt32) : Option StoreForward :=
  (preparePayload v s dest lastTime false).map fun s => { s with requestCount := s.requestCount + 1 }

/-- A run with the airtime that it needs. -/
def runOnce : StoreForward :=
  if s.busy then
    if s.requestCount < v.historyReturnMax then
      match sendPayload v s s.busyTo s.lastTime with
      | some s => s
      | none => { s with requestCount := 0, busy := false, asked := none }
    else s
  else s

/-- The next message for the phone, without a time limit. -/
def sendToPhone : StoreForward :=
  match preparePayload v s v.nodeNum 0 true with
  | some s => s
  | none => { s with busy := false, asked := none }

def getForPhone : StoreForward :=
  if s.busy then if s.busyTo = v.nodeNum then sendToPhone v s else s
  else if getNumAvailablePackets s v.nodeNum 0 = 0 then s
  else sendToPhone v { s with busy := true, busyTo := v.nodeNum, asked := none }

/-- A client wants to abort or has another error. -/
def clientAbort (from' : UInt32) : StoreForward :=
  if s.busy ∧ s.busyTo = from' then { s with requestCount := 0, busy := false, asked := none } else s

/-- A client asks for its history, and is refused while the server is busy. -/
def clientHistory (now secAgo from' : UInt32) : StoreForward :=
  if s.busy then s else historySend v s now secAgo from'

inductive Event where
  | historyAdd (now : UInt32) (mp : MeshPacket) (p : Data)
  | clientHistory (now secAgo from' : UInt32)
  | clientAbort (from' : UInt32)
  | getForPhone
  | runOnce

def step : Event → StoreForward
  | .historyAdd now mp p => historyAdd v s now mp p
  | .clientHistory now secAgo from' => clientHistory v s now secAgo from'
  | .clientAbort from' => clientAbort s from'
  | .getForPhone => getForPhone v s
  | .runOnce => runOnce v s

end StoreForward
end MonsterMesh

/-! What a client is sent of the messages that were stored. -/
namespace MonsterMesh.StoreForward

open Walk

variable {v : StoreForwardConfig} {s s' : StoreForward} {e : Event} {dest lastTime : UInt32} {loc : Bool}
  {h : PacketHistoryStruct} {floor : ℕ}

/-! ### What is said -/

/-- Message `i` was replayed to the client. -/
def Replayed (s : StoreForward) (client : UInt32) (i : ℕ) : Prop :=
  ∃ x ∈ s.replays, x.client = client ∧ x.index = i

/-- The messages from `floor` up to `n` that are due to the client were replayed. -/
def DoneTo (s : StoreForward) (n : ℕ) (client lastTime : UInt32) (floor : ℕ) : Prop :=
  ∀ i < n, floor ≤ i → ∀ h ∈ s.stored[i]?, due client lastTime h = true → Replayed s client i

instance (client : UInt32) (i : ℕ) : Decidable (Replayed s client i) := by unfold Replayed; infer_instance

instance (n : ℕ) (client : UInt32) : Decidable (DoneTo s n client lastTime floor) := by
  unfold DoneTo
  infer_instance

/-- All stored messages were replayed that are due to the client. -/
def Done (s : StoreForward) (client lastTime : UInt32) (floor : ℕ) : Prop :=
  DoneTo s s.stored.length client lastTime floor

instance (client : UInt32) : Decidable (Done s client lastTime floor) := by unfold Done; infer_instance

/-- What was replayed to a client are stored messages that it wants, in their order and none twice. -/
structure Orderly (v : StoreForwardConfig) (s : StoreForward) : Prop where
  ordered : s.replays.Pairwise fun x y => x.client = y.client → x.index < y.index
  genuine : ∀ x ∈ s.replays, ∃ h, s.stored[x.index]? = some h ∧ wanted x.client h = true ∧
    ∃ loc, x.packet = payloadPacket v x.client loc h

/-- A run sends one more message or ends the request; a request that ends, but not by an abort, has replayed
all that it asked for, and so has one that finds nothing. -/
structure Served (v : StoreForwardConfig) (s : StoreForward) (e : Event) : Prop where
  moves : e = .runOnce → s.busy = true → (∃ x, (step v s e).replays = s.replays ++ [x]) ∨
    (step v s e).busy = false ∧ (step v s e).requestCount = 0
  ends : s.busy = true → ∀ floor ∈ s.asked, (∀ c, e ≠ .clientAbort c) → (step v s e).busy = false →
    Done (step v s e) s.busyTo s.lastTime floor
  nothing : ∀ now secAgo c, e = .clientHistory now secAgo c → s.busy = false → (step v s e).busy = false →
    v.historyReturnMax ≠ 0 → Done s c (since now secAgo) (s.stored.length - v.records)

/-- The limit of a request is not reached before its end; what a request wants still lies ahead of its
client, so it was neither passed over nor lost when the server began anew; and the server does not begin anew
before the end of a request. -/
def spares (v : StoreForwardConfig) (s : StoreForward) : Event → Prop
  | .runOnce => s.busy = true → s.requestCount < v.historyReturnMax
  | .clientHistory now secAgo c => s.busy = false →
      DoneTo s (s.restarted + s.lastRequest c) c (since now secAgo) (s.stored.length - v.records)
  | .historyAdd _ _ _ => s.packetHistory.length = v.records → s.busy = true →
      ∀ floor ∈ s.asked, Done s s.busyTo s.lastTime floor
  | .clientAbort _ | .getForPhone => True

instance : ∀ e : Event, Decidable (spares v s e)
  | .runOnce => inferInstanceAs (Decidable (s.busy = true → s.requestCount < v.historyReturnMax))
  | .clientHistory now secAgo c => inferInstanceAs (Decidable (s.busy = false →
      DoneTo s (s.restarted + s.lastRequest c) c (since now secAgo) (s.stored.length - v.records)))
  | .historyAdd _ _ _ => inferInstanceAs (Decidable (s.packetHistory.length = v.records → s.busy = true →
      ∀ floor ∈ s.asked, Done s s.busyTo s.lastTime floor))
  | .clientAbort _ | .getForPhone => inferInstanceAs (Decidable True)

/-! ### The history -/

/-- The history holds the last messages, and no client was sent one ahead of its index. -/
structure Kept (v : StoreForwardConfig) (s : StoreForward) : Prop where
  history : s.packetHistory = s.stored.drop s.restarted
  bounded : s.packetHistory.length ≤ v.records
  restarted : s.restarted ≤ s.stored.length
  reach : ∀ c, s.lastRequest c ≤ s.packetHistory.length
  behind : ∀ x ∈ s.replays, x.index < s.restarted + s.lastRequest x.client
  orderly : Orderly v s

/-- A busy server is done with what lies behind the client's index. -/
def OnTrack (s : StoreForward) : Prop :=
  s.busy = true → ∀ floor ∈ s.asked, DoneTo s (s.restarted + s.lastRequest s.busyTo) s.busyTo s.lastTime floor

theorem start_kept : Kept v start :=
  ⟨rfl, Nat.zero_le _, Nat.le_refl 0, fun _ => Nat.le_refl 0, fun _ hx => absurd hx List.not_mem_nil,
    ⟨List.Pairwise.nil, fun _ hx => absurd hx List.not_mem_nil⟩⟩

theorem start_onTrack : OnTrack start := fun hb => absurd hb Bool.false_ne_true

theorem Kept.getElem? (hk : Kept v s) (i : ℕ) : s.packetHistory[i]? = s.stored[s.restarted + i]? := by
  rw [hk.history, List.getElem?_drop]

theorem inTime_zero (ht : inTime lastTime h = true) : inTime 0 h = true := by
  obtain ⟨hne, -⟩ := Bool.and_eq_true_iff.mp ht
  refine Bool.and_eq_true_iff.mpr ⟨hne, decide_eq_true ?_⟩
  exact UInt32.pos_iff_ne_zero.mpr (of_decide_eq_true hne)

theorem due_zero (hd : due dest lastTime h = true) : due dest 0 h = true := by
  obtain ⟨ht, hw⟩ := Bool.and_eq_true_iff.mp hd
  exact Bool.and_eq_true_iff.mpr ⟨inTime_zero ht, hw⟩

/-! ### The next message for a client -/

/-- The message at `i` was prepared for the client, and none before it was due. -/
structure Prepared (v : StoreForwardConfig) (s : StoreForward) (dest lastTime : UInt32) (i : ℕ)
    (s' : StoreForward) : Prop where
  ahead : s.lastRequest dest ≤ i
  skipped : ∀ j b, s.lastRequest dest ≤ j → j < i → s.packetHistory[j]? = some b → due dest lastTime b = false
  served : ∃ h loc, s.packetHistory[i]? = some h ∧ due dest lastTime h = true ∧ s' = { s with
    lastRequest := Function.update s.lastRequest dest (i + 1)
    replays := s.replays ++ [⟨dest, s.restarted + i, payloadPacket v dest loc h⟩] }

theorem preparePayload_some (hp : preparePayload v s dest lastTime loc = some s') :
    ∃ i, Prepared v s dest lastTime i s' := by
  unfold preparePayload at hp
  split at hp
  · rename_i i hnext
    obtain ⟨hahead, ⟨h, hget, hdue⟩, hskipped⟩ := Cursor.next_some hnext
    rw [hget] at hp
    exact ⟨i, hahead, hskipped, h, loc, hget, hdue, (Option.some.inj hp).symm⟩
  · cases hp

/-- Nothing is left for the client. -/
theorem preparePayload_none (hp : preparePayload v s dest lastTime loc = none) {j : ℕ}
    (hj : s.lastRequest dest ≤ j) (hb : s.packetHistory[j]? = some h) : due dest lastTime h = false := by
  unfold preparePayload at hp
  split at hp
  · rename_i i hnext
    obtain ⟨-, ⟨g, hget, -⟩, -⟩ := Cursor.next_some hnext
    rw [hget] at hp
    cases hp
  · rename_i hnext
    exact Cursor.next_none hnext hj hb

theorem Prepared.kept {i : ℕ} (hp : Prepared v s dest lastTime i s') (hk : Kept v s) : Kept v s' := by
  obtain ⟨hahead, -, h, loc, hget, hdue, rfl⟩ := hp
  have hwanted : wanted dest h = true := (Bool.and_eq_true_iff.mp hdue).2
  refine ⟨hk.history, hk.bounded, hk.restarted, fun c => ?_, fun x hx => ?_, ?_, fun x hx => ?_⟩
  · change Function.update s.lastRequest dest (i + 1) c ≤ s.packetHistory.length
    by_cases hc : c = dest
    · rw [hc, Function.update_self]
      exact (List.getElem?_eq_some_iff.mp hget).1
    · rw [Function.update_of_ne hc]
      exact hk.reach c
  · change x.index < s.restarted + Function.update s.lastRequest dest (i + 1) x.client
    rcases List.mem_append.mp hx with hx | hx
    · have hbehind := hk.behind x hx
      by_cases hc : x.client = dest
      · rw [hc, Function.update_self]
        rw [hc] at hbehind
        omega
      · rw [Function.update_of_ne hc]
        exact hbehind
    · rw [List.mem_singleton.mp hx, Function.update_self]
      exact Nat.lt_succ_self _
  · refine List.pairwise_append.mpr ⟨hk.orderly.ordered, List.pairwise_singleton _ _, fun x hx y hy hxy => ?_⟩
    rw [List.mem_singleton.mp hy] at hxy ⊢
    have hbehind := hk.behind x hx
    rw [hxy] at hbehind
    exact Nat.lt_of_lt_of_le hbehind (Nat.add_le_add_left hahead _)
  · rcases List.mem_append.mp hx with hx | hx
    · exact hk.orderly.genuine x hx
    · rw [List.mem_singleton.mp hx]
      exact ⟨h, (hk.getElem? i).symm.trans hget, hwanted, loc, rfl⟩

theorem Replayed.prepared {i j : ℕ} {c : UInt32} (hp : Prepared v s dest lastTime i s') (hr : Replayed s c j) :
    Replayed s' c j := by
  obtain ⟨-, -, h, loc, -, -, rfl⟩ := hp
  obtain ⟨x, hx, hxc⟩ := hr
  exact ⟨x, List.mem_append_left _ hx, hxc⟩

/-- What was passed over is not due, and what was prepared is replayed. -/
theorem Prepared.done {i : ℕ} {t : UInt32} (hp : Prepared v s dest t i s') (hk : Kept v s)
    (hdue : ∀ h, due dest lastTime h = true → due dest t h = true)
    (hd : DoneTo s (s.restarted + s.lastRequest dest) dest lastTime floor) :
    DoneTo s' (s'.restarted + s'.lastRequest dest) dest lastTime floor := by
  have hp' := hp
  obtain ⟨hahead, hskipped, h, loc, hget, hh, rfl⟩ := hp
  intro j hj hfloor g hg hdg
  change j < s.restarted + Function.update s.lastRequest dest (i + 1) dest at hj
  rw [Function.update_self] at hj
  change g ∈ s.stored[j]? at hg
  by_cases hlow : j < s.restarted + s.lastRequest dest
  · exact (hd j hlow hfloor g hg hdg).prepared hp'
  · obtain ⟨m, rfl⟩ := Nat.exists_eq_add_of_le (show s.restarted ≤ j by omega)
    by_cases hm : m < i
    · have hno := hskipped m g (by omega) hm ((hk.getElem? m).trans hg)
      rw [hdue g hdg] at hno
      cases hno
    · have hmi : m = i := by omega
      exact ⟨_, List.mem_append_right _ List.mem_cons_self, rfl, by rw [hmi]⟩

/-- When nothing is left, all is done. -/
theorem done_of_none {t : UInt32} (hk : Kept v s) (hp : preparePayload v s dest t loc = none)
    (hdue : ∀ h, due dest lastTime h = true → due dest t h = true)
    (hd : DoneTo s (s.restarted + s.lastRequest dest) dest lastTime floor) : Done s dest lastTime floor := by
  intro j _ hfloor g hg hdg
  by_cases hlow : j < s.restarted + s.lastRequest dest
  · exact hd j hlow hfloor g hg hdg
  · obtain ⟨m, rfl⟩ := Nat.exists_eq_add_of_le (show s.restarted ≤ j by omega)
    have hno := preparePayload_none hp (show s.lastRequest dest ≤ m by omega) ((hk.getElem? m).trans hg)
    rw [hdue g hdg] at hno
    cases hno

theorem Kept.reach_stored (hk : Kept v s) (c : UInt32) : s.restarted + s.lastRequest c ≤ s.stored.length := by
  have hreach := hk.reach c
  have hrestarted := hk.restarted
  rw [hk.history, List.length_drop] at hreach
  omega

theorem DoneTo.stored_more {n : ℕ} {c t : UInt32} (hd : DoneTo s n c t floor) (hn : n ≤ s.stored.length)
    (hstored : ∃ l, s'.stored = s.stored ++ l) (hreplays : s'.replays = s.replays) :
    DoneTo s' n c t floor := by
  obtain ⟨l, hl⟩ := hstored
  intro i hi hfloor h hh hdue
  rw [hl, List.getElem?_append_left (by omega)] at hh
  unfold Replayed
  rw [hreplays]
  exact hd i hi hfloor h hh hdue

theorem Orderly.stored_more (ho : Orderly v s) (hstored : ∃ l, s'.stored = s.stored ++ l)
    (hreplays : s'.replays = s.replays) : Orderly v s' := by
  obtain ⟨l, hl⟩ := hstored
  refine ⟨by rw [hreplays]; exact ho.ordered, fun x hx => ?_⟩
  rw [hreplays] at hx
  obtain ⟨h, hget, hrest⟩ := ho.genuine x hx
  refine ⟨h, ?_, hrest⟩
  rw [hl, List.getElem?_append_left (List.getElem?_eq_some_iff.mp hget).1]
  exact hget

/-! ### Adding a message -/

theorem historyAdd_kept (hrecords : 1 ≤ v.records) (hk : Kept v s) {now : UInt32} {mp : MeshPacket} {p : Data} :
    Kept v (historyAdd v s now mp p) := by
  unfold historyAdd
  dsimp only
  by_cases hfull : s.packetHistory.length = v.records
  · rw [if_pos hfull]
    refine ⟨?_, hrecords, ?_, fun _ => Nat.zero_le _, fun x hx => ?_, hk.orderly.stored_more ⟨_, rfl⟩ rfl⟩
    · exact List.drop_left.symm
    · exact Nat.le.intro (List.length_append).symm
    · obtain ⟨h, hget, -⟩ := hk.orderly.genuine x hx
      exact (List.getElem?_eq_some_iff.mp hget).1
  · rw [if_neg hfull]
    have hbounded := hk.bounded
    refine ⟨?_, ?_, ?_, fun c => ?_, hk.behind, hk.orderly.stored_more ⟨_, rfl⟩ rfl⟩
    · dsimp only
      rw [hk.history, List.drop_append_of_le_length hk.restarted]
    · rw [List.length_append, List.length_singleton]
      omega
    · rw [List.length_append]
      exact Nat.le_add_right_of_le hk.restarted
    · rw [List.length_append]
      exact Nat.le_add_right_of_le (hk.reach c)

theorem historyAdd_onTrack (hk : Kept v s) (ht : OnTrack s) {now : UInt32} {mp : MeshPacket} {p : Data}
    (hspares : spares v s (.historyAdd now mp p)) : OnTrack (historyAdd v s now mp p) := by
  unfold historyAdd
  dsimp only
  by_cases hfull : s.packetHistory.length = v.records
  · rw [if_pos hfull]
    intro hb floor hfloor
    exact (hspares hfull hb floor hfloor).stored_more (Nat.le_refl _) ⟨_, rfl⟩ rfl
  · rw [if_neg hfull]
    intro hb floor hfloor
    exact (ht hb floor hfloor).stored_more (hk.reach_stored s.busyTo) ⟨_, rfl⟩ rfl

theorem historyAdd_busy {now : UInt32} {mp : MeshPacket} {p : Data} :
    (historyAdd v s now mp p).busy = s.busy := by
  unfold historyAdd
  dsimp only
  split <;> rfl

/-! ### Requests -/

theorem historySend_cases (v : StoreForwardConfig) (s : StoreForward) (now secAgo c : UInt32) :
    (historySend v s now secAgo c = { s with
        lastTime := since now secAgo, busy := true, busyTo := c, asked := some (s.stored.length - v.records) }) ∨
      historySend v s now secAgo c = { s with lastTime := since now secAgo } ∧
        (v.historyReturnMax ≠ 0 → getNumAvailablePackets s c (since now secAgo) = 0) := by
  unfold historySend
  dsimp only
  split
  · exact .inl rfl
  · rename_i hnone
    refine .inr ⟨rfl, fun hmax => ?_⟩
    rw [not_not] at hnone
    change min (getNumAvailablePackets s c (since now secAgo)) v.historyReturnMax = 0 at hnone
    omega

theorem clientHistory_kept (hk : Kept v s) {now secAgo c : UInt32} : Kept v (clientHistory v s now secAgo c) := by
  unfold clientHistory
  split
  · exact hk
  · rcases historySend_cases v s now secAgo c with heq | ⟨heq, -⟩
    · rw [heq]
      exact ⟨hk.history, hk.bounded, hk.restarted, hk.reach, hk.behind, hk.orderly.ordered, hk.orderly.genuine⟩
    · rw [heq]
      exact ⟨hk.history, hk.bounded, hk.restarted, hk.reach, hk.behind, hk.orderly.ordered, hk.orderly.genuine⟩

theorem clientHistory_onTrack (ht : OnTrack s) {now secAgo c : UInt32}
    (hspares : spares v s (.clientHistory now secAgo c)) : OnTrack (clientHistory v s now secAgo c) := by
  unfold clientHistory
  split
  · exact ht
  · rename_i hidle
    rcases historySend_cases v s now secAgo c with heq | ⟨heq, -⟩
    · rw [heq]
      rintro - floor hfloor
      obtain rfl := Option.some.inj hfloor
      exact hspares (Bool.eq_false_iff.mpr hidle)
    · rw [heq]
      exact fun hb => absurd hb hidle

/-- A request that finds nothing has nothing left. -/
theorem clientHistory_nothing (hk : Kept v s) {now secAgo c : UInt32}
    (hspares : spares v s (.clientHistory now secAgo c)) (hidle : s.busy = false)
    (hafter : (clientHistory v s now secAgo c).busy = false) (hmax : v.historyReturnMax ≠ 0) :
    Done s c (since now secAgo) (s.stored.length - v.records) := by
  unfold clientHistory at hafter
  rw [if_neg (Bool.eq_false_iff.mp hidle)] at hafter
  rcases historySend_cases v s now secAgo c with heq | ⟨-, hnone⟩
  · rw [heq] at hafter
    cases hafter
  · have hnext : preparePayload v s c (since now secAgo) false = none := by
      unfold preparePayload
      rw [Cursor.next_eq_none_iff.mpr (hnone hmax)]
    exact done_of_none hk hnext (fun _ hd => hd) (hspares hidle)

/-! ### Serving -/

/-- A server that served the client of its request is on track. -/
theorem Prepared.onTrack {i : ℕ} {t : UInt32} (hp : Prepared v s s.busyTo t i s') (hk : Kept v s)
    (ht : OnTrack s) (hdue : ∀ h, due s.busyTo s.lastTime h = true → due s.busyTo t h = true) : OnTrack s' := by
  have hdone (hb : s.busy = true) (floor : ℕ) (hfloor : floor ∈ s.asked) :=
    hp.done hk hdue (ht hb floor hfloor)
  obtain ⟨-, -, h, loc, -, -, rfl⟩ := hp
  exact hdone

theorem runOnce_cases (v : StoreForwardConfig) (s : StoreForward) (hb : s.busy = true)
    (hcount : s.requestCount < v.historyReturnMax) :
    (∃ i s', Prepared v s s.busyTo s.lastTime i s' ∧
        runOnce v s = { s' with requestCount := s'.requestCount + 1 }) ∨
      preparePayload v s s.busyTo s.lastTime false = none ∧
        runOnce v s = { s with requestCount := 0, busy := false, asked := none } := by
  unfold runOnce sendPayload
  rw [if_pos hb, if_pos hcount]
  cases hp : preparePayload v s s.busyTo s.lastTime false with
  | some s' =>
    obtain ⟨i, hprepared⟩ := preparePayload_some hp
    exact .inl ⟨i, s', hprepared, rfl⟩
  | none => exact .inr ⟨rfl, rfl⟩

theorem sendToPhone_cases (v : StoreForwardConfig) (s : StoreForward) :
    (∃ i, Prepared v s v.nodeNum 0 i (sendToPhone v s)) ∨ preparePayload v s v.nodeNum 0 true = none ∧
      sendToPhone v s = { s with busy := false, asked := none } := by
  unfold sendToPhone
  cases hp : preparePayload v s v.nodeNum 0 true with
  | some s' => exact .inl (preparePayload_some hp)
  | none => exact .inr ⟨rfl, rfl⟩

theorem sendToPhone_kept (hk : Kept v s) : Kept v (sendToPhone v s) := by
  rcases sendToPhone_cases v s with ⟨i, hp⟩ | ⟨-, heq⟩
  · exact hp.kept hk
  · rw [heq]
    exact ⟨hk.history, hk.bounded, hk.restarted, hk.reach, hk.behind, hk.orderly.ordered, hk.orderly.genuine⟩

theorem sendToPhone_onTrack (hk : Kept v s) (ht : OnTrack s) (hto : s.busyTo = v.nodeNum) :
    OnTrack (sendToPhone v s) := by
  rcases sendToPhone_cases v s with ⟨i, hp⟩ | ⟨-, heq⟩
  · rw [← hto] at hp
    exact hp.onTrack hk ht fun _ => due_zero
  · rw [heq]
    exact fun hb => absurd hb Bool.false_ne_true

theorem getForPhone_kept (hk : Kept v s) : Kept v (getForPhone v s) := by
  unfold getForPhone
  split
  · split
    · exact sendToPhone_kept hk
    · exact hk
  · split
    · exact hk
    · exact sendToPhone_kept
        ⟨hk.history, hk.bounded, hk.restarted, hk.reach, hk.behind, hk.orderly.ordered, hk.orderly.genuine⟩

theorem getForPhone_onTrack (hk : Kept v s) (ht : OnTrack s) : OnTrack (getForPhone v s) := by
  unfold getForPhone
  split
  · split
    · rename_i hto
      exact sendToPhone_onTrack hk ht hto
    · exact ht
  · split
    · exact ht
    · refine sendToPhone_onTrack ?_ (fun _ _ hfloor => absurd hfloor (Option.not_mem_none _)) rfl
      exact ⟨hk.history, hk.bounded, hk.restarted, hk.reach, hk.behind, hk.orderly.ordered, hk.orderly.genuine⟩

/-- What ends by the phone is done. -/
theorem getForPhone_ends (hk : Kept v s) (ht : OnTrack s) (hb : s.busy = true) (hfloor : floor ∈ s.asked)
    (hend : (getForPhone v s).busy = false) : Done (getForPhone v s) s.busyTo s.lastTime floor := by
  unfold getForPhone at hend ⊢
  rw [if_pos hb] at hend ⊢
  by_cases hto : s.busyTo = v.nodeNum
  · rw [if_pos hto] at hend ⊢
    rcases sendToPhone_cases v s with ⟨i, hp⟩ | ⟨hnone, heq⟩
    · obtain ⟨-, -, h, loc, -, -, hs⟩ := hp
      rw [hs] at hend
      rw [hb] at hend
      cases hend
    · rw [heq]
      rw [← hto] at hnone
      have hdone : Done s s.busyTo s.lastTime floor :=
        done_of_none hk hnone (fun _ => due_zero) (ht hb floor hfloor)
      exact hdone
  · rw [if_neg hto, hb] at hend
    cases hend

theorem runOnce_idle (hb : s.busy = false) : runOnce v s = s := by
  unfold runOnce
  rw [if_neg (Bool.eq_false_iff.mp hb)]

theorem runOnce_kept (hk : Kept v s) : Kept v (runOnce v s) := by
  unfold runOnce sendPayload
  split
  · split
    · cases hp : preparePayload v s s.busyTo s.lastTime false with
      | some s' =>
        obtain ⟨i, hprepared⟩ := preparePayload_some hp
        have hk' := hprepared.kept hk
        exact ⟨hk'.history, hk'.bounded, hk'.restarted, hk'.reach, hk'.behind, hk'.orderly.ordered,
          hk'.orderly.genuine⟩
      | none =>
        exact ⟨hk.history, hk.bounded, hk.restarted, hk.reach, hk.behind, hk.orderly.ordered, hk.orderly.genuine⟩
    · exact hk
  · exact hk

theorem runOnce_onTrack (hk : Kept v s) (ht : OnTrack s) (hspares : spares v s .runOnce) :
    OnTrack (runOnce v s) := by
  cases hb : s.busy with
  | false =>
    rw [runOnce_idle hb]
    exact ht
  | true =>
    rcases runOnce_cases v s hb (hspares hb) with ⟨i, s', hp, heq⟩ | ⟨-, heq⟩
    · rw [heq]
      exact hp.onTrack hk ht fun _ hd => hd
    · rw [heq]
      exact fun hc => absurd hc Bool.false_ne_true

theorem runOnce_ends (hk : Kept v s) (ht : OnTrack s) (hspares : spares v s .runOnce) (hb : s.busy = true)
    (hfloor : floor ∈ s.asked) (hend : (runOnce v s).busy = false) :
    Done (runOnce v s) s.busyTo s.lastTime floor := by
  rcases runOnce_cases v s hb (hspares hb) with ⟨i, s', hp, heq⟩ | ⟨hnone, heq⟩
  · obtain ⟨-, -, h, loc, -, -, rfl⟩ := hp
    rw [heq] at hend
    exact absurd hend (Bool.eq_false_iff.not.mpr (not_not.mpr hb))
  · rw [heq]
    have hdone : Done s s.busyTo s.lastTime floor :=
      done_of_none hk hnone (fun _ hd => hd) (ht hb floor hfloor)
    exact hdone

theorem runOnce_moves (hspares : spares v s .runOnce) (hb : s.busy = true) :
    (∃ x, (runOnce v s).replays = s.replays ++ [x]) ∨
      (runOnce v s).busy = false ∧ (runOnce v s).requestCount = 0 := by
  rcases runOnce_cases v s hb (hspares hb) with ⟨i, s', hp, heq⟩ | ⟨-, heq⟩
  · obtain ⟨-, -, h, loc, -, -, rfl⟩ := hp
    rw [heq]
    exact .inl ⟨_, rfl⟩
  · rw [heq]
    exact .inr ⟨rfl, rfl⟩

theorem clientAbort_cases (s : StoreForward) (c : UInt32) :
    clientAbort s c = s ∨ clientAbort s c = { s with requestCount := 0, busy := false, asked := none } := by
  unfold clientAbort
  split
  · exact .inr rfl
  · exact .inl rfl

/-! ### Runs -/

theorem step_kept (hrecords : 1 ≤ v.records) (hk : Kept v s) : Kept v (step v s e) := by
  cases e with
  | historyAdd now mp p => exact historyAdd_kept hrecords hk
  | clientHistory now secAgo c => exact clientHistory_kept hk
  | clientAbort c =>
    change Kept v (clientAbort s c)
    rcases clientAbort_cases s c with heq | heq
    · rw [heq]
      exact hk
    · rw [heq]
      exact ⟨hk.history, hk.bounded, hk.restarted, hk.reach, hk.behind, hk.orderly.ordered, hk.orderly.genuine⟩
  | getForPhone => exact getForPhone_kept hk
  | runOnce => exact runOnce_kept hk

theorem step_onTrack (hk : Kept v s) (ht : OnTrack s) (hspares : spares v s e) : OnTrack (step v s e) := by
  cases e with
  | historyAdd now mp p => exact historyAdd_onTrack hk ht hspares
  | clientHistory now secAgo c => exact clientHistory_onTrack ht hspares
  | clientAbort c =>
    change OnTrack (clientAbort s c)
    rcases clientAbort_cases s c with heq | heq
    · rw [heq]
      exact ht
    · rw [heq]
      exact fun hb => absurd hb Bool.false_ne_true
  | getForPhone => exact getForPhone_onTrack hk ht
  | runOnce => exact runOnce_onTrack hk ht hspares

theorem step_ends (hk : Kept v s) (ht : OnTrack s) (hspares : spares v s e) (hb : s.busy = true)
    (hfloor : floor ∈ s.asked) (hno : ∀ c, e ≠ .clientAbort c) (hend : (step v s e).busy = false) :
    Done (step v s e) s.busyTo s.lastTime floor := by
  cases e with
  | historyAdd now mp p =>
    have hbusy := hend.symm.trans (historyAdd_busy.trans hb)
    cases hbusy
  | clientHistory now secAgo c =>
    have heq : clientHistory v s now secAgo c = s := if_pos hb
    change (clientHistory v s now secAgo c).busy = false at hend
    rw [heq, hb] at hend
    cases hend
  | clientAbort c => exact absurd rfl (hno c)
  | getForPhone => exact getForPhone_ends hk ht hb hfloor hend
  | runOnce => exact runOnce_ends hk ht hspares hb hfloor hend

theorem step_served (hk : Kept v s) (ht : OnTrack s) (hspares : spares v s e) : Served v s e where
  moves := by
    rintro rfl hb
    exact runOnce_moves hspares hb
  ends hb floor hfloor hno hend := step_ends hk ht hspares hb hfloor hno hend
  nothing := by
    rintro now secAgo c rfl hidle hafter hmax
    exact clientHistory_nothing hk hspares hidle hafter hmax

/-- In every run the replays are in order, and in one that spares the branches that lose messages, a busy
server goes on or ends, and a request ends only after it was served. -/
theorem storeForward_sound {es : List Event} (hrecords : 1 ≤ v.records)
    (h : Along (step v) (spares v) start es) :
    Orderly v (run (step v) start es) ∧ Along (step v) (Served v) start es := by
  have hkept : Kept v (run (step v) start es) := run_keeps (fun _ _ hk => step_kept hrecords hk) start_kept
  refine ⟨hkept.orderly, ?_⟩
  refine h.trade (P := fun s => Kept v s ∧ OnTrack s) (fun s e hp hc => ?_) (fun s e hp hc => ?_)
    ⟨start_kept, start_onTrack⟩
  · exact ⟨step_kept hrecords hp.1, step_onTrack hp.1 hp.2 hc⟩
  · exact step_served hp.1 hp.2 hc

/-- A server with room for ten messages that replays some for a request. -/
def tenRecords (historyReturnMax : ℕ) : StoreForwardConfig :=
  { nodeNum := 1, records := 10, historyReturnMax := historyReturnMax, allocated := .zero, allocatedData := .zero
    encodeText := fun _ text => text }

/-- Node 5 says something to all. -/
def said (now id : UInt32) : Event :=
  .historyAdd now { MeshPacket.zero with from' := 5, to' := nodenumBroadcast, id := id } .zero

theorem storeForward_sound_twoMessages :
    Orderly (tenRecords 25) (run (step (tenRecords 25)) start
        [said 100 1, said 200 2, .clientHistory 300 250 7, .runOnce, .runOnce, .runOnce]) ∧
      Along (step (tenRecords 25)) (Served (tenRecords 25)) start
        [said 100 1, said 200 2, .clientHistory 300 250 7, .runOnce, .runOnce, .runOnce] :=
  storeForward_sound (by decide) (by decide +kernel)

/-- After as many messages as it returns for a request, the server is busy for ever. -/
theorem fullRequest_neverEnds :
    ¬ ∀ (v : StoreForwardConfig) (es : List Event), 1 ≤ v.records →
      Orderly v (run (step v) start es) ∧ Along (step v) (Served v) start es := by
  intro hall
  have hrun := (hall (tenRecords 1)
    ([said 100 1, said 200 2, .clientHistory 300 250 7, .runOnce] ++ [.runOnce]) (by decide)).2
  rcases (along_concat.mp hrun).2.moves rfl (by decide +kernel) with ⟨x, hx⟩ | ⟨hbusy, -⟩
  · have hlength := congrArg List.length hx
    rw [List.length_append, List.length_singleton] at hlength
    revert hlength
    decide +kernel
  · revert hbusy
    decide +kernel

end MonsterMesh.StoreForward
