import Mathlib.Data.List.Nodup
import Mathlib.Data.List.Range
import MonsterMesh.Lib.Run
import MonsterMesh.Mesh.Records

/-! The packets that wait to be sent again until they are acknowledged. -/
namespace MonsterMesh

open Fallible

/-- A pending packet. The firmware knows neither the number of its entry nor when it is due on a clock
that does not wrap around. -/
structure PendingPacket where
  packet : MeshPacket
  nextTxMsec : UInt32
  numRetransmissions : UInt8
  (entry due : ℕ)
deriving DecidableEq

/-- How an entry leaves the map. -/
inductive Ending where
  | stopped | ranOut
deriving DecidableEq

/-- A copy that was released, of a packet of ours or not. -/
structure Ended where
  entry : ℕ
  how : Ending
  own : Bool
deriving DecidableEq

/-- A transmission for an entry, and for all but its first one when it was due. -/
structure Sent where
  (entry time : ℕ)
  due : Option ℕ
deriving DecidableEq

/-- The map of pending packets, and what has happened: how many transmissions each entry was given,
those that were made, the copies that were released and the naks that were raised. -/
@[ext]
structure NextHopRouter where
  nodeNum : UInt32
  pending : List PendingPacket
  time : ℕ
  begun : List UInt8
  sent : List Sent
  ended : List Ended
  naks : List ℕ
deriving DecidableEq

inductive PendingFault where
  | erasedEntry
deriving DecidableEq

/-- `NUM_RELIABLE_RETX` -/
def numReliableRetx : UInt8 := 3

/-- `NUM_INTERMEDIATE_RETX` -/
def numIntermediateRetx : UInt8 := 2

def transportMechanismLora : UInt8 := 1

/-- The clock that the firmware reads. -/
def millis (time : ℕ) : UInt32 := UInt32.ofNat time

/-- What `ReliableRouter::send` draws: the airtime of the packet, its two retransmission times, the next
hop to its destination and the default hop limit. -/
structure SendDraws where
  (airtime reliableMsec nextHopMsec : UInt32)
  (nextHop defaultHopLimit : UInt8)

/-- What `doRetransmissions` draws for an entry: how much later it is queued again, for how long, and
the next hop to its destination. -/
structure RetransmissionDraws where
  later : ℕ
  (msec nextHopMsec : UInt32)
  nextHop : UInt8

/-- The order in which the map is walked. -/
structure HashOrder where
  order : List PacketKey → List PacketKey
  perm : ∀ l, (order l).Perm l

namespace NextHopRouter

variable (s : NextHopRouter)

def start (nodeNum : UInt32) (time : ℕ) : NextHopRouter := ⟨nodeNum, [], time, [], [], [], []⟩

/-- `GlobalPacketId` of the packet of an entry. -/
def keyOf (x : PendingPacket) : PacketKey := x.packet.key s.nodeNum

def findPendingPacket (k : PacketKey) : Option PendingPacket := s.pending.find? fun x => s.keyOf x = k

/-- `stopRetransmission`, which releases the copy. -/
def stopRetransmission (how : Ending) (k : PacketKey) : NextHopRouter :=
  match s.findPendingPacket k with
  | none => s
  | some old =>
    { s with
      pending := s.pending.eraseP fun x => s.keyOf x = k
      ended := s.ended ++ [⟨old.entry, how, old.packet.isFromUs s.nodeNum⟩] }

/-- `setNextTx` -/
def setNextTx (time : ℕ) (msec : UInt32) (x : PendingPacket) : PendingPacket :=
  { x with nextTxMsec := millis time + msec, due := time + msec.toNat }

/-- `startRetransmission`, and the first transmission, which follows it. -/
def startRetransmission (p : MeshPacket) (numReTx : UInt8) (msec : UInt32) : NextHopRouter :=
  let s := s.stopRetransmission .stopped (p.key s.nodeNum)
  { s with
    pending := s.pending ++ [setNextTx s.time msec ⟨p, 0, numReTx - 1, s.begun.length, 0⟩]
    begun := s.begun ++ [numReTx]
    sent := s.sent ++ [⟨s.begun.length, s.time, none⟩] }

/-- The times of the entries that a packet on the air keeps waiting. -/
def delay (airtime : UInt32) (waits : PendingPacket → Bool) : NextHopRouter :=
  { s with pending := s.pending.map fun x => if waits x then
      { x with nextTxMsec := x.nextTxMsec + airtime, due := x.due + airtime.toNat } else x }

/-- The packet with the next hop that `NextHopRouter::send` gives it. -/
def routed (nextHop : UInt8) (p : MeshPacket) : MeshPacket :=
  { p with
    relayNode := lastByteOfNodeNum s.nodeNum
    nextHop := if isBroadcast p.to' then 0 else nextHop }

/-- Whether `NextHopRouter::send` starts retransmissions of the packet. -/
def starts (p : MeshPacket) : Bool :=
  (!p.isFromUs s.nodeNum || !p.wantAck) && p.nextHop ≠ 0 && (0 < p.hopLimit || p.wantAck)

/-- `NextHopRouter::send` -/
def sendNextHop (p : MeshPacket) (nextHop : UInt8) (msec : UInt32) : NextHopRouter :=
  if s.starts (s.routed nextHop p) then s.startRetransmission (s.routed nextHop p) numIntermediateRetx msec
  else s

/-- `ReliableRouter::send` -/
def send (p : MeshPacket) (d : SendDraws) : NextHopRouter :=
  let p := if p.wantAck && p.hopLimit = 0 then { p with hopLimit := d.defaultHopLimit } else p
  let s := if p.wantAck then s.startRetransmission p numReliableRetx d.reliableMsec else s
  let s := s.delay d.airtime fun x => (s.keyOf x).2 ≠ p.id
  if isBroadcast p.to' then s else s.sendNextHop p d.nextHop d.nextHopMsec

/-- `ReliableRouter::shouldFilterReceived`, where the history tells whether the packet was seen before
and no better copy is handled instead; a rebroadcast is a send that follows. -/
def shouldFilterReceived (p : MeshPacket) (airtime : UInt32) (dupe : Bool) : NextHopRouter :=
  let lora : Bool := p.transportMechanism = transportMechanismLora
  let s := if p.from' = s.nodeNum && lora then s.stopRetransmission .stopped (p.key s.nodeNum) else s
  let s := s.delay airtime fun _ => true
  if !isBroadcast p.to' && dupe && lora then s.stopRetransmission .stopped (p.from', p.id) else s

/-- `ReliableRouter::sniffReceived`, with the request id that it reads of the packet. -/
def sniffReceived (p : MeshPacket) (requestId : UInt32) : NextHopRouter :=
  let isAckorReply := match p.variant with
    | .decoded d => d.requestId ≠ 0 || d.replyId ≠ 0
    | _ => false
  let s := if p.isToUs s.nodeNum && requestId ≠ 0 then s.stopRetransmission .stopped (p.to', requestId) else s
  if !isBroadcast p.to' && isAckorReply && !p.isToUs s.nodeNum then
    s.stopRetransmission .stopped (p.to', requestId)
  else s

/-- The entry once its packet is sent again. -/
def again (d : RetransmissionDraws) (x : PendingPacket) : PendingPacket :=
  let packet := if !isBroadcast x.packet.to' && x.numRetransmissions = 1 then { x.packet with nextHop := 0 }
    else x.packet
  setNextTx (s.time + d.later) d.msec
    { x with packet := packet, numRetransmissions := x.numRetransmissions - 1 }

/-- One round of the loop of `doRetransmissions`. Where the send has erased the entry, what follows it
is undefined. -/
def visit (now : UInt32) (draws : PacketKey → RetransmissionDraws) (s : NextHopRouter) (k : PacketKey) :
    Except PendingFault NextHopRouter :=
  match s.findPendingPacket k with
  | none => .ok s
  | some x =>
    if x.nextTxMsec ≤ now then
      if x.numRetransmissions = 0 then
        let s := if x.packet.isFromUs s.nodeNum then { s with naks := s.naks ++ [x.entry] } else s
        .ok (s.stopRetransmission .ranOut k)
      else
        let d := draws k
        let s := if !isBroadcast x.packet.to' && x.numRetransmissions ≠ 1 then
          s.sendNextHop x.packet d.nextHop d.nextHopMsec else s
        if s.pending.any fun y => y.entry = x.entry then
          .ok { s with
            pending := s.pending.map fun y => if y.entry = x.entry then s.again d y else y
            sent := s.sent ++ [⟨x.entry, s.time, some x.due⟩] }
        else .error .erasedEntry
    else .ok s

/-- `doRetransmissions` -/
def doRetransmissions (h : HashOrder) (draws : PacketKey → RetransmissionDraws) :
    Except PendingFault NextHopRouter :=
  (h.order (s.pending.map s.keyOf)).foldlM (visit (millis s.time) draws) s

/-- The calls that touch the map; `sendNextHop` is that of a rebroadcast. -/
inductive Call where
  | send (p : MeshPacket) (d : SendDraws)
  | sendNextHop (p : MeshPacket) (nextHop : UInt8) (msec : UInt32)
  | shouldFilterReceived (p : MeshPacket) (airtime : UInt32) (dupe : Bool)
  | sniffReceived (p : MeshPacket) (requestId : UInt32)
  | doRetransmissions (h : HashOrder) (draws : PacketKey → RetransmissionDraws)

/-- A call, some time after the last one. -/
def step (c : ℕ × Call) : Except PendingFault NextHopRouter :=
  let s := { s with time := s.time + c.1 }
  match c.2 with
  | .send p d => .ok (s.send p d)
  | .sendNextHop p nextHop msec => .ok (s.sendNextHop p nextHop msec)
  | .shouldFilterReceived p airtime dupe => .ok (s.shouldFilterReceived p airtime dupe)
  | .sniffReceived p requestId => .ok (s.sniffReceived p requestId)
  | .doRetransmissions h draws => s.doRetransmissions h draws

end NextHopRouter
end MonsterMesh

/-! How pending packets come, are sent again, and go. -/
namespace MonsterMesh

open Fallible

namespace NextHopRouter

variable {s t : NextHopRouter} {x y : PendingPacket} {k : PacketKey} {p : MeshPacket} {n : UInt8}

/-- How many transmissions were made for an entry. -/
def transmissions (s : NextHopRouter) (i : ℕ) : ℕ := s.sent.countP fun x => x.entry = i

/-- How many transmissions are due to a packet: those of a reliable one of ours are more. -/
def Allotted (s : NextHopRouter) (p : MeshPacket) (n : UInt8) : Prop :=
  n = numReliableRetx ∧ p.wantAck = true ∨
    n = numIntermediateRetx ∧ (p.isFromUs s.nodeNum && p.wantAck) = false

theorem Allotted.eq_or (h : s.Allotted p n) : n = numReliableRetx ∨ n = numIntermediateRetx :=
  h.imp And.left And.left

/-- What holds at any time, also where the clock wraps around. -/
structure Kept (s : NextHopRouter) : Prop where
  unique : (s.pending.map s.keyOf).Nodup
  released : (s.pending.map PendingPacket.entry ++ s.ended.map Ended.entry).Perm (List.range s.begun.length)
  numbers : ∀ n ∈ s.begun, n = numReliableRetx ∨ n = numIntermediateRetx
  allotted : ∀ x ∈ s.pending, ∀ n, s.begun[x.entry]? = some n → s.Allotted x.packet n
  clock : ∀ x ∈ s.pending, x.nextTxMsec = millis x.due
  left : ∀ x ∈ s.pending, ∀ n, s.begun[x.entry]? = some n →
    s.transmissions x.entry + x.numRetransmissions.toNat = n.toNat
  limited : ∀ i n, s.begun[i]? = some n → s.transmissions i ≤ n.toNat
  ranOut : ∀ e ∈ s.ended, e.how = .ranOut → ∀ n, s.begun[e.entry]? = some n →
    s.transmissions e.entry = n.toNat
  naks : s.naks = (s.ended.filter fun e => e.how = .ranOut && e.own).map Ended.entry
  sent : ∀ x ∈ s.sent, x.entry < s.begun.length

/-- No transmission was made before it was due. -/
def Punctual (s : NextHopRouter) : Prop := ∀ x ∈ s.sent, ∀ due, x.due = some due → due ≤ x.time

/-! ### What leaves the map -/

theorem find_splits (h : s.findPendingPacket k = some x) :
    s.keyOf x = k ∧ ∃ l₁ l₂, s.pending = l₁ ++ x :: l₂ ∧
      (s.pending.eraseP fun y => s.keyOf y = k) = l₁ ++ l₂ := by
  obtain ⟨hx, l₁, l₂, hp, hl₁⟩ := List.find?_eq_some_iff_append.mp h
  refine ⟨of_decide_eq_true hx, l₁, l₂, hp, ?_⟩
  rw [hp, List.eraseP_append_right _ fun y hy => by simpa using hl₁ y hy,
    List.eraseP_cons_of_pos (p := fun y => decide (s.keyOf y = k)) hx]

theorem mem_of_find (h : s.findPendingPacket k = some x) : x ∈ s.pending := List.mem_of_find?_eq_some h

theorem key_of_find (h : s.findPendingPacket k = some x) : s.keyOf x = k := (find_splits h).1

theorem find_none_iff : s.findPendingPacket k = none ↔ k ∉ s.pending.map s.keyOf := by
  unfold findPendingPacket
  rw [List.find?_eq_none]
  simp only [decide_eq_true_eq, List.mem_map, not_exists, not_and]

theorem Kept.find_eq (h : s.Kept) (hx : x ∈ s.pending) : s.findPendingPacket (s.keyOf x) = some x := by
  cases hf : s.findPendingPacket (s.keyOf x) with
  | none => exact absurd (List.mem_map_of_mem hx) (find_none_iff.mp hf)
  | some y => rw [List.inj_on_of_nodup_map h.unique (mem_of_find hf) hx (key_of_find hf)]

theorem Kept.entries (h : s.Kept) : (s.pending.map PendingPacket.entry).Nodup :=
  (List.nodup_append.mp (h.released.nodup_iff.mpr List.nodup_range)).1

theorem Kept.entry_lt (h : s.Kept) (hx : x ∈ s.pending) : x.entry < s.begun.length := by
  have hmem := h.released.subset (List.mem_append_left _ (List.mem_map_of_mem hx))
  exact List.mem_range.mp hmem

theorem Kept.ended_lt (h : s.Kept) {e : Ended} (he : e ∈ s.ended) : e.entry < s.begun.length := by
  have hmem := h.released.subset (List.mem_append_right _ (List.mem_map_of_mem he))
  exact List.mem_range.mp hmem

/-- An entry that is released, either way. -/
theorem stopRetransmission_kept (h : s.Kept) (hx : s.findPendingPacket k = some x) {how : Ending}
    {naks : List ℕ} (hzero : how = .ranOut → x.numRetransmissions = 0)
    (hnaks : naks = if how = .ranOut ∧ x.packet.isFromUs s.nodeNum = true then s.naks ++ [x.entry]
      else s.naks) :
    Kept { s with
      pending := s.pending.eraseP fun y => s.keyOf y = k
      ended := s.ended ++ [⟨x.entry, how, x.packet.isFromUs s.nodeNum⟩], naks := naks } := by
  obtain ⟨_, l₁, l₂, hp, he⟩ := find_splits hx
  have hsub : ∀ y ∈ l₁ ++ l₂, y ∈ s.pending := fun y hy => by
    rw [hp]
    exact (List.mem_append.mp hy).elim (List.mem_append_left _) fun hy =>
      List.mem_append_right _ (List.mem_cons_of_mem _ hy)
  have hkeep : ∀ y ∈ s.pending.eraseP fun y => s.keyOf y = k, y ∈ s.pending := fun y hy => by
    rw [he] at hy
    exact hsub y hy
  refine ⟨?_, ?_, h.numbers, fun y hy => h.allotted y (hkeep y hy), fun y hy => h.clock y (hkeep y hy),
    fun y hy => h.left y (hkeep y hy), h.limited, fun e hmem hran => ?_, ?_, h.sent⟩
  · have hu := h.unique
    show ((s.pending.eraseP fun y => s.keyOf y = k).map s.keyOf).Nodup
    exact hu.sublist (List.Sublist.map _ List.eraseP_sublist)
  · show ((s.pending.eraseP fun y => s.keyOf y = k).map PendingPacket.entry ++
      (s.ended ++ [_]).map Ended.entry).Perm (List.range s.begun.length)
    refine List.Perm.trans ?_ h.released
    rw [he, hp]
    simp only [List.map_append, List.map_cons, List.map_nil, List.append_assoc, List.cons_append]
    refine List.Perm.append_left _ ?_
    rw [← List.append_assoc]
    exact List.perm_append_singleton _ _
  · rcases List.mem_append.mp hmem with hmem | hmem
    · exact h.ranOut e hmem hran
    · obtain rfl := List.mem_singleton.mp hmem
      intro n hn
      have hleft := h.left x (mem_of_find hx) n hn
      rw [hzero hran] at hleft
      exact hleft
  · show naks = ((s.ended ++ [_]).filter _).map Ended.entry
    rw [hnaks, h.naks, List.filter_append, List.map_append, List.filter_cons, List.filter_nil]
    dsimp only
    simp only [Bool.and_eq_true, decide_eq_true_eq]
    split_ifs
    · rfl
    · rw [List.map_nil, List.append_nil]

theorem stopped_kept (h : s.Kept) (k : PacketKey) : (s.stopRetransmission .stopped k).Kept := by
  unfold stopRetransmission
  cases hx : s.findPendingPacket k with
  | none => exact h
  | some x =>
    refine stopRetransmission_kept h hx (fun hc => absurd hc (by decide)) ?_
    rw [if_neg fun hc => absurd hc.1 (by decide)]

theorem stopRetransmission_keys (how : Ending) (h : s.Kept) :
    k ∉ (s.stopRetransmission how k).pending.map (s.stopRetransmission how k).keyOf := by
  unfold stopRetransmission
  cases hx : s.findPendingPacket k with
  | none => exact find_none_iff.mp hx
  | some x =>
    obtain ⟨hk, l₁, l₂, hp, he⟩ := find_splits hx
    show k ∉ (s.pending.eraseP _).map s.keyOf
    have hu := h.unique
    rw [hp, List.map_append, List.map_cons, hk] at hu
    rw [he, List.map_append]
    exact (List.nodup_middle.mp hu).notMem

theorem stopRetransmission_begun (how : Ending) :
    (s.stopRetransmission how k).begun = s.begun ∧ (s.stopRetransmission how k).sent = s.sent ∧
      (s.stopRetransmission how k).nodeNum = s.nodeNum ∧ (s.stopRetransmission how k).time = s.time := by
  unfold stopRetransmission
  cases s.findPendingPacket k <;> exact ⟨rfl, rfl, rfl, rfl⟩

/-! ### What comes to the map -/

theorem transmissions_append (l : List Sent) (e : Sent) (i : ℕ) (s : NextHopRouter) :
    transmissions { s with sent := l ++ [e] } i = l.countP (fun x => x.entry = i) +
      if e.entry = i then 1 else 0 := by
  unfold transmissions
  rw [List.countP_append, List.countP_singleton]
  simp only [decide_eq_true_eq]

/-- An entry that was not begun yet had no transmissions. -/
theorem Kept.unsent (h : s.Kept) {i : ℕ} (hi : s.begun.length ≤ i) : s.transmissions i = 0 := by
  unfold transmissions
  refine List.countP_eq_zero.mpr fun x hx he => ?_
  have hlt := h.sent x hx
  have heq := of_decide_eq_true he
  omega

theorem getElem?_append_begun {l : List UInt8} {a n : UInt8} {i : ℕ} (h : (l ++ [a])[i]? = some n) :
    i < l.length ∧ l[i]? = some n ∨ i = l.length ∧ n = a := by
  by_cases hi : i < l.length
  · rw [List.getElem?_append_left hi] at h
    exact Or.inl ⟨hi, h⟩
  · rw [List.getElem?_append_right (not_lt.mp hi)] at h
    obtain ⟨hlt, heq⟩ := List.getElem?_eq_some_iff.mp h
    rw [List.length_singleton] at hlt
    refine Or.inr ⟨by omega, ?_⟩
    rw [List.getElem_singleton] at heq
    exact heq.symm

theorem millis_add (time : ℕ) (msec : UInt32) : millis time + msec = millis (time + msec.toNat) := by
  unfold millis
  rw [UInt32.ofNat_add, UInt32.ofNat_toNat]

/-- An entry that is begun, for a packet that has none. -/
theorem begin_kept (h : s.Kept) {numReTx msec : _} (hnew : p.key s.nodeNum ∉ s.pending.map s.keyOf)
    (hnum : s.Allotted p numReTx) :
    Kept { s with
      pending := s.pending ++ [setNextTx s.time msec ⟨p, 0, numReTx - 1, s.begun.length, 0⟩]
      begun := s.begun ++ [numReTx]
      sent := s.sent ++ [⟨s.begun.length, s.time, none⟩] } := by
  have hcount : ∀ i, transmissions { s with
      pending := s.pending ++ [setNextTx s.time msec ⟨p, 0, numReTx - 1, s.begun.length, 0⟩]
      begun := s.begun ++ [numReTx]
      sent := s.sent ++ [⟨s.begun.length, s.time, none⟩] } i =
        s.transmissions i + if s.begun.length = i then 1 else 0 := fun i =>
    transmissions_append s.sent ⟨s.begun.length, s.time, none⟩ i s
  have hpos : 1 ≤ numReTx.toNat ∧ (numReTx - 1).toNat = numReTx.toNat - 1 := by
    rcases hnum.eq_or with rfl | rfl <;> exact ⟨by decide, by decide⟩
  refine ⟨?_, ?_, fun n hn => ?_, fun y hy n hn => ?_, fun y hy => ?_, fun y hy n hn => ?_, fun i n hn => ?_,
    fun e he hran n hn => ?_, h.naks, fun e he => ?_⟩
  · show ((s.pending ++ [_]).map s.keyOf).Nodup
    rw [List.map_append]
    refine List.nodup_append.mpr ⟨h.unique, List.nodup_singleton _, fun a ha b hb => ?_⟩
    obtain rfl := List.mem_singleton.mp hb
    intro he
    rw [he] at ha
    exact hnew ha
  · show ((s.pending ++ [_]).map PendingPacket.entry ++ _).Perm (List.range (s.begun ++ [_]).length)
    rw [List.length_append, List.length_singleton, List.range_succ, List.map_append, List.append_assoc]
    refine List.perm_middle.trans ?_
    exact (h.released.cons _).trans (List.perm_append_singleton _ _).symm
  · rcases List.mem_append.mp hn with hn | hn
    · exact h.numbers n hn
    · obtain rfl := List.mem_singleton.mp hn
      exact hnum.eq_or
  · rcases List.mem_append.mp hy with hy | hy
    · have hlt := h.entry_lt hy
      rcases getElem?_append_begun hn with ⟨_, hn⟩ | ⟨hi, _⟩
      · exact h.allotted y hy n hn
      · omega
    · obtain rfl := List.mem_singleton.mp hy
      rcases getElem?_append_begun hn with ⟨hi, _⟩ | ⟨_, rfl⟩
      · exact absurd hi (lt_irrefl _)
      · exact hnum
  · rcases List.mem_append.mp hy with hy | hy
    · exact h.clock y hy
    · obtain rfl := List.mem_singleton.mp hy
      exact millis_add ..
  · rw [hcount]
    rcases List.mem_append.mp hy with hy | hy
    · have hlt := h.entry_lt hy
      rcases getElem?_append_begun hn with ⟨_, hn⟩ | ⟨hi, _⟩
      · rw [if_neg (by omega)]
        exact h.left y hy n hn
      · omega
    · obtain rfl := List.mem_singleton.mp hy
      rcases getElem?_append_begun hn with ⟨hi, _⟩ | ⟨_, rfl⟩
      · exact absurd hi (lt_irrefl _)
      · show s.transmissions s.begun.length + (if s.begun.length = s.begun.length then 1 else 0) +
          (n - 1).toNat = n.toNat
        rw [h.unsent (le_refl _), if_pos rfl]
        omega
  · rw [hcount]
    rcases getElem?_append_begun hn with ⟨hi, hn⟩ | ⟨rfl, rfl⟩
    · rw [if_neg (by omega)]
      exact h.limited i n hn
    · rw [h.unsent (le_refl _), if_pos rfl]
      omega
  · rw [hcount]
    have hlt := h.ended_lt he
    rcases getElem?_append_begun hn with ⟨_, hn⟩ | ⟨hi, _⟩
    · rw [if_neg (by omega)]
      exact h.ranOut e he hran n hn
    · omega
  · show e.entry < (s.begun ++ [_]).length
    rw [List.length_append, List.length_singleton]
    rcases List.mem_append.mp he with he | he
    · exact Nat.lt_succ_of_lt (h.sent e he)
    · obtain rfl := List.mem_singleton.mp he
      exact Nat.lt_succ_self _

theorem startRetransmission_kept (h : s.Kept) {numReTx msec : _} (hnum : s.Allotted p numReTx) :
    (s.startRetransmission p numReTx msec).Kept := by
  obtain ⟨_, _, hn, _⟩ := stopRetransmission_begun (s := s) (k := p.key s.nodeNum) .stopped
  refine begin_kept (stopped_kept h (p.key s.nodeNum)) ?_ ?_
  · rw [hn]
    exact stopRetransmission_keys .stopped h
  · unfold Allotted
    rw [hn]
    exact hnum

theorem delay_kept (h : s.Kept) (airtime : UInt32) (waits : PendingPacket → Bool) :
    (s.delay airtime waits).Kept := by
  have hmem : ∀ y ∈ (s.delay airtime waits).pending, ∃ x ∈ s.pending,
      y.packet = x.packet ∧ y.entry = x.entry ∧ y.numRetransmissions = x.numRetransmissions ∧
        (y = x ∨ y.nextTxMsec = x.nextTxMsec + airtime ∧ y.due = x.due + airtime.toNat) := fun y hy => by
    obtain ⟨x, hx, rfl⟩ := List.mem_map.mp hy
    refine ⟨x, hx, ?_⟩
    split_ifs
    · exact ⟨rfl, rfl, rfl, Or.inr ⟨rfl, rfl⟩⟩
    · exact ⟨rfl, rfl, rfl, Or.inl rfl⟩
  have hkeys : (s.delay airtime waits).pending.map s.keyOf = s.pending.map s.keyOf := by
    unfold delay
    rw [List.map_map]
    refine List.map_congr_left fun x _ => ?_
    rw [Function.comp_apply]
    split_ifs <;> rfl
  have hentries : (s.delay airtime waits).pending.map PendingPacket.entry =
      s.pending.map PendingPacket.entry := by
    unfold delay
    rw [List.map_map]
    refine List.map_congr_left fun x _ => ?_
    rw [Function.comp_apply]
    split_ifs <;> rfl
  refine ⟨?_, ?_, h.numbers, fun y hy n hn => ?_, fun y hy => ?_, fun y hy n hn => ?_, h.limited, h.ranOut,
    h.naks, h.sent⟩
  · have hu := h.unique
    rw [← hkeys] at hu
    exact hu
  · have hr := h.released
    rw [← hentries] at hr
    exact hr
  · obtain ⟨x, hx, hpacket, hentry, _⟩ := hmem y hy
    rw [hentry] at hn
    rw [hpacket]
    exact h.allotted x hx n hn
  · obtain ⟨x, hx, _, _, _, rfl | ⟨hnext, hdue⟩⟩ := hmem y hy
    · exact h.clock y hx
    · rw [hnext, hdue, h.clock x hx, millis_add]
  · obtain ⟨x, hx, _, hentry, hleft, _⟩ := hmem y hy
    rw [hentry] at hn ⊢
    rw [hleft]
    exact h.left x hx n hn

theorem sendNextHop_kept (h : s.Kept) (p : MeshPacket) (nextHop : UInt8) (msec : UInt32) :
    (s.sendNextHop p nextHop msec).Kept := by
  unfold sendNextHop
  split_ifs with hs
  · refine startRetransmission_kept h (Or.inr ⟨rfl, ?_⟩)
    simp only [starts, Bool.and_eq_true, Bool.or_eq_true, Bool.not_eq_true'] at hs
    exact Bool.and_eq_false_iff.mpr hs.1.1
  · exact h

theorem send_kept (h : s.Kept) (p : MeshPacket) (d : SendDraws) : (s.send p d).Kept := by
  unfold send
  dsimp only
  generalize (if p.wantAck && p.hopLimit = 0 then { p with hopLimit := d.defaultHopLimit } else p) = p'
  have hbegun : Kept (if p'.wantAck = true then s.startRetransmission p' numReliableRetx d.reliableMsec
      else s) := by
    split_ifs with hack
    · exact startRetransmission_kept h (Or.inl ⟨rfl, hack⟩)
    · exact h
  generalize (if p'.wantAck = true then s.startRetransmission p' numReliableRetx d.reliableMsec else s) = s'
    at hbegun ⊢
  have hdelayed := delay_kept hbegun d.airtime fun x => (s'.keyOf x).2 ≠ p'.id
  split_ifs
  · exact hdelayed
  · exact sendNextHop_kept hdelayed ..

theorem shouldFilterReceived_kept (h : s.Kept) (p : MeshPacket) (airtime : UInt32) (dupe : Bool) :
    (s.shouldFilterReceived p airtime dupe).Kept := by
  unfold shouldFilterReceived
  dsimp only
  split_ifs
  · exact stopped_kept (delay_kept (stopped_kept h _) ..) _
  · exact stopped_kept (delay_kept h ..) _
  · exact delay_kept (stopped_kept h _) ..
  · exact delay_kept h ..

theorem sniffReceived_kept (h : s.Kept) (p : MeshPacket) (requestId : UInt32) :
    (s.sniffReceived p requestId).Kept := by
  unfold sniffReceived
  dsimp only
  split_ifs
  · exact stopped_kept (stopped_kept h _) _
  · exact stopped_kept h _
  · exact stopped_kept h _
  · exact h

/-! ### What is sent again -/

variable {now : UInt32} {draws : PacketKey → RetransmissionDraws} {d : RetransmissionDraws}

/-- The entry of `k` is sent again at `now`. -/
structure Resends (s : NextHopRouter) (now : UInt32) (k : PacketKey) (x : PendingPacket) : Prop where
  found : s.findPendingPacket k = some x
  comes : x.nextTxMsec ≤ now
  left : x.numRetransmissions ≠ 0

/-- The send starts retransmissions of its own, in place of the entry. -/
def Restarts (s : NextHopRouter) (d : RetransmissionDraws) (x : PendingPacket) : Prop :=
  isBroadcast x.packet.to' = false ∧ x.numRetransmissions ≠ 1 ∧
    s.starts (s.routed d.nextHop x.packet) = true

/-- The state after the entry `x` was sent again. -/
def resent (s : NextHopRouter) (d : RetransmissionDraws) (x : PendingPacket) : NextHopRouter :=
  { s with
    pending := s.pending.map fun y => if y.entry = x.entry then s.again d y else y
    sent := s.sent ++ [⟨x.entry, s.time, some x.due⟩] }

theorem Kept.eq_of_entry (h : s.Kept) (hx : x ∈ s.pending) (hy : y ∈ s.pending) (he : y.entry = x.entry) :
    y = x :=
  List.inj_on_of_nodup_map h.entries hy hx he

theorem again_key (d : RetransmissionDraws) (y : PendingPacket) : s.keyOf (s.again d y) = s.keyOf y := by
  unfold again keyOf
  dsimp only
  split_ifs <;> rfl

theorem again_allotted (h : s.Allotted y.packet n) (d : RetransmissionDraws) :
    s.Allotted (s.again d y).packet n := by
  unfold again setNextTx
  dsimp only
  split_ifs
  · exact h
  · exact h

theorem resent_kept (h : s.Kept) (hx : x ∈ s.pending) (hleft : x.numRetransmissions ≠ 0)
    (d : RetransmissionDraws) : (s.resent d x).Kept := by
  have hcount : ∀ i, (s.resent d x).transmissions i = s.transmissions i + if x.entry = i then 1 else 0 :=
    fun i => transmissions_append s.sent ⟨x.entry, s.time, some x.due⟩ i s
  have hpos : 1 ≤ x.numRetransmissions.toNat ∧
      (x.numRetransmissions - 1).toNat = x.numRetransmissions.toNat - 1 := by
    have hle : (1 : UInt8) ≤ x.numRetransmissions := by
      rw [UInt8.le_iff_toNat_le]
      exact Nat.pos_of_ne_zero fun hz => hleft (UInt8.toNat_inj.mp hz)
    exact ⟨UInt8.le_iff_toNat_le.mp hle, UInt8.toNat_sub_of_le _ _ hle⟩
  have hkeys : (s.resent d x).pending.map s.keyOf = s.pending.map s.keyOf := by
    unfold resent
    rw [List.map_map]
    refine List.map_congr_left fun y _ => ?_
    rw [Function.comp_apply]
    split_ifs
    · exact again_key d y
    · rfl
  have hentries : (s.resent d x).pending.map PendingPacket.entry = s.pending.map PendingPacket.entry := by
    unfold resent
    rw [List.map_map]
    refine List.map_congr_left fun y _ => ?_
    rw [Function.comp_apply]
    split_ifs <;> rfl
  refine ⟨?_, ?_, h.numbers, fun y hy n hn => ?_, fun y hy => ?_, fun y hy n hn => ?_, fun i n hn => ?_,
    fun e he hran n hn => ?_, h.naks, fun e he => ?_⟩
  · have hu := h.unique
    rw [← hkeys] at hu
    exact hu
  · have hr := h.released
    rw [← hentries] at hr
    exact hr
  · obtain ⟨z, hz, rfl⟩ := List.mem_map.mp hy
    by_cases he : z.entry = x.entry
    · rw [if_pos he] at hn ⊢
      exact again_allotted (h.allotted z hz n hn) d
    · rw [if_neg he] at hn ⊢
      exact h.allotted z hz n hn
  · obtain ⟨z, hz, rfl⟩ := List.mem_map.mp hy
    split_ifs
    · exact millis_add ..
    · exact h.clock z hz
  · obtain ⟨z, hz, rfl⟩ := List.mem_map.mp hy
    rw [hcount]
    by_cases he : z.entry = x.entry
    · obtain rfl := h.eq_of_entry hx hz he
      rw [if_pos rfl] at hn ⊢
      have hl := h.left z hz n hn
      show s.transmissions z.entry + (if z.entry = z.entry then 1 else 0) +
        (z.numRetransmissions - 1).toNat = n.toNat
      rw [if_pos rfl]
      omega
    · rw [if_neg he] at hn ⊢
      rw [if_neg (Ne.symm he)]
      exact h.left z hz n hn
  · rw [hcount]
    split_ifs with he
    · subst he
      have hl := h.left x hx n hn
      omega
    · exact h.limited i n hn
  · rw [hcount]
    have hne : x.entry ≠ e.entry := fun heq => by
      have hnd := h.released.nodup_iff.mpr List.nodup_range
      exact (List.nodup_append.mp hnd).2.2 _ (List.mem_map_of_mem hx) _ (List.mem_map_of_mem he) heq
    rw [if_neg hne]
    exact h.ranOut e he hran n hn
  · rcases List.mem_append.mp he with he | he
    · exact h.sent e he
    · obtain rfl := List.mem_singleton.mp he
      exact h.entry_lt hx

/-- What a round of the loop leaves alone. -/
structure Spares (s t : NextHopRouter) (k : PacketKey) : Prop where
  nodeNum : t.nodeNum = s.nodeNum
  time : t.time = s.time
  find : ∀ k' ≠ k, t.findPendingPacket k' = s.findPendingPacket k'
  sent : s.sent ⊆ t.sent

theorem find_eq_of_mem (h : s.Kept) (hx : x ∈ s.pending) (hk : s.keyOf x = k) :
    s.findPendingPacket k = some x := hk ▸ h.find_eq hx

theorem resent_spares (h : s.Kept) (hx : s.findPendingPacket k = some x)
    (hleft : x.numRetransmissions ≠ 0) (d : RetransmissionDraws) : s.Spares (s.resent d x) k := by
  have hkept := resent_kept h (mem_of_find hx) hleft d
  refine ⟨rfl, rfl, fun k' hne => ?_, List.subset_append_left _ _⟩
  cases hf : s.findPendingPacket k' with
  | some y =>
    have hy := mem_of_find hf
    have hent : y.entry ≠ x.entry := fun he => hne (by
      rw [← key_of_find hf, ← key_of_find hx, h.eq_of_entry (mem_of_find hx) hy he])
    have hmem : y ∈ (s.resent d x).pending := List.mem_map.mpr ⟨y, hy, if_neg hent⟩
    have hk : (s.resent d x).keyOf y = k' := (key_of_find hf : s.keyOf y = k')
    exact find_eq_of_mem hkept hmem hk
  | none =>
    refine find_none_iff.mpr fun hmem => find_none_iff.mp hf ?_
    obtain ⟨y, hy, hk⟩ := List.mem_map.mp hmem
    obtain ⟨z, hz, rfl⟩ := List.mem_map.mp hy
    refine List.mem_map.mpr ⟨z, hz, ?_⟩
    rw [← hk]
    split_ifs
    · exact (again_key d z).symm
    · rfl

theorem erased_spares (hx : s.findPendingPacket k = some x) {ended : List Ended} {naks : List ℕ} :
    s.Spares { s with pending := s.pending.eraseP fun y => s.keyOf y = k, ended := ended, naks := naks } k := by
  refine ⟨rfl, rfl, fun k' hne => ?_, fun _ => id⟩
  obtain ⟨hk, l₁, l₂, hp, he⟩ := find_splits hx
  show (s.pending.eraseP fun y => s.keyOf y = k).find? (fun y => s.keyOf y = k') =
    s.pending.find? fun y => s.keyOf y = k'
  rw [he, hp, List.find?_append, List.find?_append, List.find?_cons_of_neg]
  rw [hk]
  exact fun hc => hne (of_decide_eq_true hc).symm

/-- A send that starts retransmissions of its own erases the entry. -/
theorem visit_restarts (h : s.Kept) (hx : s.Resends now k x) (hr : s.Restarts (draws k) x) :
    visit now draws s k = .error .erasedEntry := by
  obtain ⟨hbroad, hone, hstarts⟩ := hr
  obtain ⟨hk, l₁, l₂, hp, he⟩ := find_splits hx.found
  have hkey : (s.routed (draws k).nextHop x.packet).key s.nodeNum = k := hk
  have hsend : s.sendNextHop x.packet (draws k).nextHop (draws k).nextHopMsec =
      s.startRetransmission (s.routed (draws k).nextHop x.packet) numIntermediateRetx
        (draws k).nextHopMsec := if_pos hstarts
  have hpending : ∀ y ∈ (s.startRetransmission (s.routed (draws k).nextHop x.packet) numIntermediateRetx
      (draws k).nextHopMsec).pending, y.entry ≠ x.entry := fun y hy heq => by
    unfold startRetransmission stopRetransmission at hy
    rw [hkey, hx.found] at hy
    dsimp only at hy
    rcases List.mem_append.mp hy with hy | hy
    · rw [he] at hy
      have hnd := h.entries
      rw [hp, List.map_append, List.map_cons] at hnd
      refine (List.nodup_middle.mp hnd).notMem ?_
      rw [← List.map_append, ← heq]
      exact List.mem_map_of_mem hy
    · obtain rfl := List.mem_singleton.mp hy
      have hlt := h.entry_lt (mem_of_find hx.found)
      exact absurd (show s.begun.length = x.entry from heq) (by omega)
  have hsent : (if (!isBroadcast x.packet.to' && decide (x.numRetransmissions ≠ 1)) = true then
      s.sendNextHop x.packet (draws k).nextHop (draws k).nextHopMsec else s) =
        s.startRetransmission (s.routed (draws k).nextHop x.packet) numIntermediateRetx
          (draws k).nextHopMsec := by
    rw [hbroad, decide_eq_true hone]
    exact hsend
  unfold visit
  rw [hx.found]
  dsimp only
  rw [if_pos hx.comes, if_neg hx.left, hsent, if_neg]
  intro hany
  obtain ⟨y, hy, heq⟩ := List.any_eq_true.mp hany
  exact hpending y hy (of_decide_eq_true heq)

theorem visit_resends (hx : s.Resends now k x) (hr : ¬ s.Restarts (draws k) x) :
    visit now draws s k = .ok (s.resent (draws k) x) := by
  have hsend : (if (!isBroadcast x.packet.to' && decide (x.numRetransmissions ≠ 1)) = true then
      s.sendNextHop x.packet (draws k).nextHop (draws k).nextHopMsec else s) = s := by
    split_ifs with hc
    · simp only [Bool.and_eq_true, Bool.not_eq_true', decide_eq_true_eq] at hc
      exact if_neg fun hs => hr ⟨hc.1, hc.2, hs⟩
    · rfl
  have hany : (s.pending.any fun y => y.entry = x.entry) = true :=
    List.any_eq_true.mpr ⟨x, mem_of_find hx.found, decide_eq_true rfl⟩
  unfold visit
  rw [hx.found]
  dsimp only
  rw [if_pos hx.comes, if_neg hx.left, hsend, if_pos hany]
  rfl

/-- A round that sends nothing. -/
theorem visit_quiet (h : s.Kept) (hno : ∀ x, ¬ s.Resends now k x) :
    ∃ t, visit now draws s k = .ok t ∧ t.Kept ∧ s.Spares t k ∧ t.sent = s.sent := by
  unfold visit
  cases hf : s.findPendingPacket k with
  | none => exact ⟨s, rfl, h, ⟨rfl, rfl, fun _ _ => rfl, fun _ => id⟩, rfl⟩
  | some x =>
    dsimp only
    by_cases hcomes : x.nextTxMsec ≤ now
    · have hzero : x.numRetransmissions = 0 := by
        by_contra hleft
        exact hno x ⟨hf, hcomes, hleft⟩
      rw [if_pos hcomes, if_pos hzero]
      refine ⟨_, rfl, ?_⟩
      by_cases hown : x.packet.isFromUs s.nodeNum = true
      · rw [if_pos hown]
        unfold stopRetransmission
        have hf' : findPendingPacket { s with naks := s.naks ++ [x.entry] } k = some x := hf
        rw [hf']
        dsimp only
        refine ⟨stopRetransmission_kept h hf (fun _ => hzero) (if_pos ⟨rfl, hown⟩).symm, erased_spares hf, rfl⟩
      · rw [if_neg hown]
        unfold stopRetransmission
        rw [hf]
        dsimp only
        exact ⟨stopRetransmission_kept h hf (fun _ => hzero) (if_neg fun hc => hown hc.2).symm,
          erased_spares hf, rfl⟩
    · rw [if_neg hcomes]
      exact ⟨s, rfl, h, ⟨rfl, rfl, fun _ _ => rfl, fun _ => id⟩, rfl⟩

/-! ### The loop -/

/-- What holds where the clock never runs ahead of an entry. -/
def InTime (s : NextHopRouter) : Prop := s.Kept ∧ s.Punctual

/-- The round of the loop at `k` does no harm. -/
def Harmless (s : NextHopRouter) (now : UInt32) (draws : PacketKey → RetransmissionDraws) (k : PacketKey) :
    Prop :=
  ∀ x, s.Resends now k x → x.due ≤ s.time ∧ ¬ s.Restarts (draws k) x

theorem harmless_congr {k' : PacketKey} (h : s.Spares t k) (hne : k' ≠ k) :
    t.Harmless now draws k' ↔ s.Harmless now draws k' := by
  have hresends : ∀ x, t.Resends now k' x ↔ s.Resends now k' x := fun x =>
    ⟨fun hx => ⟨(h.find k' hne).symm.trans hx.found, hx.comes, hx.left⟩,
      fun hx => ⟨(h.find k' hne).trans hx.found, hx.comes, hx.left⟩⟩
  have hrestarts : ∀ x, t.Restarts (draws k') x ↔ s.Restarts (draws k') x := fun x => by
    unfold Restarts starts routed
    rw [h.nodeNum]
  unfold Harmless
  simp only [hresends, hrestarts, h.time]

theorem visit_iff (h : s.InTime) (k : PacketKey) :
    Total (visit now draws s k) InTime ↔ s.Harmless now draws k := by
  by_cases hx : ∃ x, s.Resends now k x
  · obtain ⟨x, hx⟩ := hx
    have hsame : ∀ y, s.Resends now k y → y = x := fun y hy => by
      have he := hy.found
      rw [hx.found] at he
      exact (Option.some.inj he).symm
    constructor
    · rintro ⟨t, ht, hkept⟩ y hy
      obtain rfl := hsame y hy
      have hrestarts : ¬ s.Restarts (draws k) y := fun hr => by
        rw [visit_restarts h.1 hy hr] at ht
        cases ht
      rw [visit_resends hy hrestarts] at ht
      cases ht
      refine ⟨?_, hrestarts⟩
      exact hkept.2 ⟨y.entry, s.time, some y.due⟩ (List.mem_append_right _ (List.mem_singleton.mpr rfl)) _ rfl
    · intro hall
      obtain ⟨hdue, hrestarts⟩ := hall x hx
      rw [visit_resends hx hrestarts]
      refine Total.ok ⟨resent_kept h.1 (mem_of_find hx.found) hx.left _, fun e he due hd => ?_⟩
      rcases List.mem_append.mp he with he | he
      · exact h.2 e he due hd
      · obtain rfl := List.mem_singleton.mp he
        cases hd
        exact hdue
  · have hno : ∀ x, ¬ s.Resends now k x := fun x hr => hx ⟨x, hr⟩
    refine iff_of_true ?_ fun x hr => absurd hr (hno x)
    obtain ⟨t, ht, hkept, hspares, hsent⟩ := visit_quiet h.1 hno
    rw [ht]
    refine Total.ok ⟨hkept, fun e he => ?_⟩
    rw [hsent] at he
    exact h.2 e he

/-- A round of the loop only ever touches its own entry. -/
theorem visit_spares (h : s.Kept) (ht : visit now draws s k = .ok t) : s.Spares t k ∧ t.Kept := by
  by_cases hx : ∃ x, s.Resends now k x
  · obtain ⟨x, hx⟩ := hx
    by_cases hr : s.Restarts (draws k) x
    · rw [visit_restarts h hx hr] at ht
      cases ht
    · rw [visit_resends hx hr] at ht
      cases ht
      exact ⟨resent_spares h hx.found hx.left _, resent_kept h (mem_of_find hx.found) hx.left _⟩
  · obtain ⟨u, hu, hkept, hspares, _⟩ := visit_quiet h fun x hr => hx ⟨x, hr⟩
    rw [hu] at ht
    cases ht
    exact ⟨hspares, hkept⟩

/-- What was sent by the loop so far stays sent. -/
theorem loop_sent {ks : List PacketKey} (h : s.Kept) (ht : ks.foldlM (visit now draws) s = .ok t) :
    s.sent ⊆ t.sent ∧ t.Kept := by
  induction ks generalizing s with
  | nil =>
    cases ht
    exact ⟨fun _ => id, h⟩
  | cons k ks ih =>
    rw [List.foldlM_cons] at ht
    obtain ⟨u, hu, ht⟩ := bind_eq_ok.mp ht
    obtain ⟨hspares, hkept⟩ := visit_spares h hu
    obtain ⟨hsent, hkept⟩ := ih hkept ht
    exact ⟨fun e he => hsent (hspares.sent he), hkept⟩

theorem Punctual.of_subset (h : t.Punctual) (hsub : s.sent ⊆ t.sent) : s.Punctual :=
  fun e he => h e (hsub he)

theorem loop_iff {ks : List PacketKey} (hnd : ks.Nodup) (h : s.InTime) :
    Total (ks.foldlM (visit now draws) s) InTime ↔ ∀ k ∈ ks, s.Harmless now draws k := by
  induction ks generalizing s with
  | nil => exact iff_of_true (Total.ok h) fun _ hk => absurd hk (List.not_mem_nil)
  | cons k ks ih =>
    obtain ⟨hnotin, hnd⟩ := List.nodup_cons.mp hnd
    have hrest : ∀ t, s.Spares t k → ((∀ k' ∈ ks, t.Harmless now draws k') ↔
        ∀ k' ∈ ks, s.Harmless now draws k') := fun t ht =>
      forall₂_congr fun k' hk' => harmless_congr ht fun he => hnotin (he ▸ hk')
    rw [List.foldlM_cons]
    constructor
    · rintro ⟨u, hu, hin⟩
      obtain ⟨t, ht, hu⟩ := bind_eq_ok.mp hu
      obtain ⟨hspares, hkept⟩ := visit_spares h.1 ht
      have htime : t.InTime := ⟨hkept, hin.2.of_subset (loop_sent hkept hu).1⟩
      have hhere := (visit_iff h k).mp ⟨t, ht, htime⟩
      have hthere := (hrest t hspares).mp ((ih hnd htime).mp ⟨u, hu, hin⟩)
      exact List.forall_mem_cons.mpr ⟨hhere, hthere⟩
    · intro hall
      obtain ⟨hhere, hthere⟩ := List.forall_mem_cons.mp hall
      obtain ⟨t, ht, htime⟩ := (visit_iff h k).mpr hhere
      obtain ⟨hspares, _⟩ := visit_spares h.1 ht
      rw [ht, bind_ok]
      exact (ih hnd htime).mpr ((hrest t hspares).mpr hthere)

/-! ### Runs -/

/-- All that was sent since was a first transmission. -/
def Firsts (s t : NextHopRouter) : Prop := ∀ e ∈ t.sent, e ∈ s.sent ∨ e.due = none

theorem Firsts.refl (s : NextHopRouter) : s.Firsts s := fun _ he => Or.inl he

theorem Firsts.trans {u : NextHopRouter} (hst : s.Firsts t) (htu : t.Firsts u) : s.Firsts u := by
  intro e he
  rcases htu e he with he | hdue
  · exact hst e he
  · exact Or.inr hdue

theorem Punctual.firsts (h : s.Punctual) (hst : s.Firsts t) : t.Punctual := by
  intro e he due hdue
  rcases hst e he with he | hnone
  · exact h e he due hdue
  · rw [hnone] at hdue
    cases hdue

theorem stopRetransmission_firsts (s : NextHopRouter) (how : Ending) (k : PacketKey) :
    s.Firsts (s.stopRetransmission how k) := by
  intro e he
  rw [(stopRetransmission_begun how).2.1] at he
  exact Or.inl he

theorem startRetransmission_firsts (s : NextHopRouter) (p : MeshPacket) (numReTx : UInt8) (msec : UInt32) :
    s.Firsts (s.startRetransmission p numReTx msec) := by
  intro e he
  rcases List.mem_append.mp he with he | he
  · exact stopRetransmission_firsts s .stopped _ e he
  · obtain rfl := List.mem_singleton.mp he
    exact Or.inr rfl

theorem sendNextHop_firsts (s : NextHopRouter) (p : MeshPacket) (nextHop : UInt8) (msec : UInt32) :
    s.Firsts (s.sendNextHop p nextHop msec) := by
  unfold sendNextHop
  split_ifs
  · exact startRetransmission_firsts _ _ _ _
  · exact Firsts.refl s

theorem delay_firsts (s : NextHopRouter) (airtime : UInt32) (waits : PendingPacket → Bool) :
    s.Firsts (s.delay airtime waits) :=
  Firsts.refl s

theorem send_firsts (s : NextHopRouter) (p : MeshPacket) (d : SendDraws) : s.Firsts (s.send p d) := by
  unfold send
  dsimp only
  generalize (if p.wantAck && p.hopLimit = 0 then { p with hopLimit := d.defaultHopLimit } else p) = p'
  have hbegun : s.Firsts (if p'.wantAck = true then
      s.startRetransmission p' numReliableRetx d.reliableMsec else s) := by
    split_ifs
    · exact startRetransmission_firsts _ _ _ _
    · exact Firsts.refl s
  generalize (if p'.wantAck = true then s.startRetransmission p' numReliableRetx d.reliableMsec else s) = s'
    at hbegun ⊢
  have hdelayed := hbegun.trans (delay_firsts s' d.airtime fun x => (s'.keyOf x).2 ≠ p'.id)
  split_ifs
  · exact hdelayed
  · exact hdelayed.trans (sendNextHop_firsts _ _ _ _)

theorem shouldFilterReceived_firsts (s : NextHopRouter) (p : MeshPacket) (airtime : UInt32) (dupe : Bool) :
    s.Firsts (s.shouldFilterReceived p airtime dupe) := by
  unfold shouldFilterReceived
  dsimp only
  split_ifs
  · exact ((stopRetransmission_firsts s _ _).trans (delay_firsts _ _ _)).trans (stopRetransmission_firsts _ _ _)
  · exact (delay_firsts s _ _).trans (stopRetransmission_firsts _ _ _)
  · exact (stopRetransmission_firsts s _ _).trans (delay_firsts _ _ _)
  · exact delay_firsts s _ _

theorem sniffReceived_firsts (s : NextHopRouter) (p : MeshPacket) (requestId : UInt32) :
    s.Firsts (s.sniffReceived p requestId) := by
  unfold sniffReceived
  dsimp only
  split_ifs
  · exact (stopRetransmission_firsts s _ _).trans (stopRetransmission_firsts _ _ _)
  · exact stopRetransmission_firsts _ _ _
  · exact stopRetransmission_firsts _ _ _
  · exact Firsts.refl s

theorem Kept.later (h : s.Kept) (time : ℕ) : Kept { s with time := time } :=
  ⟨h.unique, h.released, h.numbers, h.allotted, h.clock, h.left, h.limited, h.ranOut, h.naks, h.sent⟩

/-- The retransmissions of the step are due, also on a clock that does not wrap around, and none of them
starts retransmissions of its own. -/
def Meets (s : NextHopRouter) (c : ℕ × Call) : Prop :=
  match c.2 with
  | .doRetransmissions _ draws => ∀ x ∈ s.pending, x.numRetransmissions ≠ 0 →
      x.nextTxMsec ≤ millis (s.time + c.1) → x.due ≤ s.time + c.1 ∧ ¬ s.Restarts (draws (s.keyOf x)) x
  | _ => True

/-- What is said of the pending packets: no two of them are for one packet; each transmission was for an
entry that was begun, for as many as it was given at most, and none before it was due; every copy waits
or was released, once; and a nak was raised for each entry of ours that ran out, and for no other. -/
structure Sound (s : NextHopRouter) : Prop where
  unique : (s.pending.map s.keyOf).Nodup
  allotted : ∀ x ∈ s.pending, ∀ n, s.begun[x.entry]? = some n → s.Allotted x.packet n
  numbers : ∀ n ∈ s.begun, n = numReliableRetx ∨ n = numIntermediateRetx
  limited : ∀ i n, s.begun[i]? = some n → s.transmissions i ≤ n.toNat
  begun : ∀ e ∈ s.sent, e.entry < s.begun.length
  punctual : ∀ e ∈ s.sent, ∀ due, e.due = some due → due ≤ e.time
  released : (s.pending.map PendingPacket.entry ++ s.ended.map Ended.entry).Perm (List.range s.begun.length)
  ranOut : ∀ e ∈ s.ended, e.how = .ranOut → s.begun[e.entry]?.map UInt8.toNat = some (s.transmissions e.entry)
  naks : s.naks.Nodup ∧ ∀ i, i ∈ s.naks ↔ (⟨i, .ranOut, true⟩ : Ended) ∈ s.ended

theorem step_kept (h : s.Kept) {c : ℕ × Call} (ht : s.step c = .ok t) : t.Kept := by
  obtain ⟨elapsed, c⟩ := c
  have hlater := h.later (s.time + elapsed)
  cases c with
  | send p d =>
    cases ht
    exact send_kept hlater p d
  | sendNextHop p nextHop msec =>
    cases ht
    exact sendNextHop_kept hlater p nextHop msec
  | shouldFilterReceived p airtime dupe =>
    cases ht
    exact shouldFilterReceived_kept hlater p airtime dupe
  | sniffReceived p requestId =>
    cases ht
    exact sniffReceived_kept hlater p requestId
  | doRetransmissions order draws => exact (loop_sent hlater ht).2

theorem doRetransmissions_iff (h : s.InTime) (order : HashOrder) (draws : PacketKey → RetransmissionDraws) :
    Total (s.doRetransmissions order draws) InTime ↔ ∀ x ∈ s.pending, x.numRetransmissions ≠ 0 →
      x.nextTxMsec ≤ millis s.time → x.due ≤ s.time ∧ ¬ s.Restarts (draws (s.keyOf x)) x := by
  have hnd : (order.order (s.pending.map s.keyOf)).Nodup := (order.perm _).nodup_iff.mpr h.1.unique
  unfold doRetransmissions
  rw [loop_iff hnd h]
  constructor
  · intro hall x hx hleft hcomes
    have hkey : s.keyOf x ∈ order.order (s.pending.map s.keyOf) :=
      (order.perm _).mem_iff.mpr (List.mem_map_of_mem hx)
    exact hall (s.keyOf x) hkey x ⟨h.1.find_eq hx, hcomes, hleft⟩
  · intro hall k _ x hx
    have hdue := hall x (mem_of_find hx.found) hx.left hx.comes
    rwa [key_of_find hx.found] at hdue

theorem step_iff (h : s.InTime) (c : ℕ × Call) : s.Meets c ↔ Total (s.step c) InTime := by
  obtain ⟨elapsed, c⟩ := c
  have hlater := h.1.later (s.time + elapsed)
  have htime : InTime { s with time := s.time + elapsed } := ⟨hlater, h.2⟩
  cases c with
  | send p d =>
    exact iff_of_true trivial (Total.ok ⟨send_kept hlater p d, htime.2.firsts (send_firsts _ p d)⟩)
  | sendNextHop p nextHop msec =>
    exact iff_of_true trivial (Total.ok
      ⟨sendNextHop_kept hlater p nextHop msec, htime.2.firsts (sendNextHop_firsts _ p nextHop msec)⟩)
  | shouldFilterReceived p airtime dupe =>
    exact iff_of_true trivial (Total.ok ⟨shouldFilterReceived_kept hlater p airtime dupe,
      htime.2.firsts (shouldFilterReceived_firsts _ p airtime dupe)⟩)
  | sniffReceived p requestId =>
    exact iff_of_true trivial (Total.ok
      ⟨sniffReceived_kept hlater p requestId, htime.2.firsts (sniffReceived_firsts _ p requestId)⟩)
  | doRetransmissions order draws => exact (doRetransmissions_iff htime order draws).symm

theorem start_kept (nodeNum : UInt32) (time : ℕ) : (start nodeNum time).Kept := by
  refine ⟨List.nodup_nil, List.Perm.refl _, ?_, ?_, ?_, ?_, fun i n hn => ?_, ?_, rfl, ?_⟩
  · exact fun _ hn => absurd hn List.not_mem_nil
  · exact fun _ hx => absurd hx List.not_mem_nil
  · exact fun _ hx => absurd hx List.not_mem_nil
  · exact fun _ hx => absurd hx List.not_mem_nil
  · cases hn
  · exact fun _ he => absurd he List.not_mem_nil
  · exact fun _ hx => absurd hx List.not_mem_nil

theorem start_inTime (nodeNum : UInt32) (time : ℕ) : (start nodeNum time).InTime :=
  ⟨start_kept nodeNum time, fun _ he => absurd he List.not_mem_nil⟩

theorem Kept.sound_iff (h : s.Kept) : s.Sound ↔ s.Punctual := by
  refine ⟨Sound.punctual, fun hp => ⟨h.unique, h.allotted, h.numbers, h.limited, h.sent, hp, h.released,
    fun e he hran => ?_, ?_, fun i => ?_⟩⟩
  · have hlt := h.ended_lt he
    have hn := List.getElem?_eq_getElem hlt
    rw [h.ranOut e he hran _ hn, hn]
    rfl
  · have hnd := (List.nodup_append.mp (h.released.nodup_iff.mpr List.nodup_range)).2.1
    rw [h.naks]
    exact hnd.sublist (List.Sublist.map _ List.filter_sublist)
  · rw [h.naks, List.mem_map]
    constructor
    · rintro ⟨⟨i, how, own⟩, he, rfl⟩
      obtain ⟨he, hc⟩ := List.mem_filter.mp he
      simp only [Bool.and_eq_true, decide_eq_true_eq] at hc
      obtain ⟨rfl, rfl⟩ := hc
      exact he
    · intro he
      exact ⟨_, List.mem_filter.mpr ⟨he, rfl⟩, rfl⟩

/-- The life cycle of retransmissions. -/
theorem pending_sound_iff (nodeNum : UInt32) (time : ℕ) (calls : List (ℕ × Call)) :
    (∀ n, Total (play step (start nodeNum time) (calls.take n)) Sound) ↔
      Along step Meets (start nodeNum time) calls := by
  rw [along_iff (fun _ c hs => step_iff hs c) (start_inTime nodeNum time)]
  refine forall_congr' fun n => ⟨?_, fun h => h.mono fun _ ht => ht.1.sound_iff.mpr ht.2⟩
  rintro ⟨t, ht, hsound⟩
  have hreach := Reach.of_play (along_of_forall (fun _ _ => trivial) (start nodeNum time) _) ht
  have hkept : t.Kept := hreach.invariant (fun _ _ _ hs _ hst => step_kept hs hst) (start_kept nodeNum time)
  exact ⟨t, ht, hkept, hsound.punctual⟩

def inOrder : HashOrder := ⟨id, List.Perm.refl⟩

/-- A packet that wants an ack is sent when the clock is about to wrap around, and the loop comes by. -/
def wrapsAround : List (ℕ × Call) :=
  [(0, .send { MeshPacket.zero with to' := 9, id := 5, wantAck := true, hopLimit := 3 } ⟨0, 5000, 0, 0, 3⟩),
    (10, .doRetransmissions inOrder fun _ => ⟨0, 0, 0, 0⟩)]

/-- It is sent again at once, and not five seconds later. -/
theorem wrapsAround_early : ¬ Total (play step (start 7 4294966296) wrapsAround) Sound := by
  rintro ⟨t, ht, hsound⟩
  have hsent : (play step (start 7 4294966296) wrapsAround).toOption.map NextHopRouter.sent =
      some [⟨0, 4294966296, none⟩, ⟨0, 4294966306, some 4294971296⟩] := by decide +kernel
  rw [ht] at hsent
  have hmem : (⟨0, 4294966306, some 4294971296⟩ : Sent) ∈ t.sent := by
    rw [show t.sent = _ from Option.some.inj hsent]
    exact List.mem_cons_of_mem _ (List.mem_singleton.mpr rfl)
  have hlate := hsound.punctual _ hmem _ rfl
  exact absurd hlate (by decide)

end NextHopRouter
end MonsterMesh
