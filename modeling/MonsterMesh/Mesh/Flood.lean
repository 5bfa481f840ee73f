import Mathlib.Logic.Function.Basic
import MonsterMesh.Lib.Walk
import MonsterMesh.Mesh.Copies
import MonsterMesh.Mesh.Rehydrated

/-! A broadcast in a network of nodes that flood it. -/
namespace MonsterMesh

open Walk

open scoped List

/-- What is on the air. -/
structure Frame where
  header : PacketHeader
  payload : List UInt8

/-- `beginSending` -/
def MeshPacket.beginSending (p : MeshPacket) : Frame :=
  let p := if 7 < p.hopLimit then { p with hopLimit := 3 } else p
  { header := p.header, payload := match p.variant with | .encrypted bytes => bytes | _ => [] }

namespace Frame

variable (f : Frame)

def hopLimit : UInt8 := f.header.flags &&& (0x07 : UInt8)

def hopStart : UInt8 := (f.header.flags &&& (0xE0 : UInt8)) >>> 5

/-- The packet that `handleReceiveInterrupt` makes of a frame. -/
def received (rxRssi : ℤ) : MeshPacket :=
  { MeshPacket.zero with
    from' := f.header.from', to' := f.header.to', id := f.header.id, channel := f.header.channel
    hopLimit := f.hopLimit, hopStart := f.hopStart
    wantAck := f.header.flags &&& (0x08 : UInt8) ≠ 0, viaMqtt := f.header.flags &&& (0x10 : UInt8) ≠ 0
    nextHop := if f.hopStart = 0 then 0 else f.header.nextHop
    relayNode := if f.hopStart = 0 then 0 else f.header.relayNode
    rxRssi := rxRssi, variant := .encrypted f.payload, transportMechanism := transportLora }

/-- What flooding reads of a frame. -/
def routed : Routed := ⟨f.header.from', f.header.id, f.header.to', f.hopLimit, f.hopStart⟩

end Frame

/-- A frame with its sender and the nodes that it was delivered to. -/
structure Transmission (ι : Type) where
  sender : ι
  frame : Frame
  heardBy : List ι

/-- The nodes, and what was on the air, in order. -/
structure Flood (ι : Type) where
  nodes : ι → FloodingRouter
  air : List (Transmission ι)

/-- A broadcast: the node it comes from with its number, its id, where it goes and its first hop limit. -/
structure Broadcast (ι : Type) where
  originator : ι
  (num id to' : UInt32)
  hopStart : UInt8
  num_ne_zero : num ≠ 0
  id_ne_zero : id ≠ 0
  isBroadcast : isBroadcast to' = true
  hopStart_ne_zero : hopStart ≠ 0

/-- `send` is the originator's own, `other` is what a node does about other packets. -/
inductive FloodEvent (ι : Type) where
  | send (p : MeshPacket) (e : Sending)
  | transmit (v : ι)
  | deliver (i : ℕ) (v : ι) (rxRssi : ℤ) (e : Reception)
  | other (v : ι) (n : FloodingRouter)

namespace Broadcast

section

variable {ι : Type} (b : Broadcast ι) (s : Flood ι)

def key : PacketKey := (b.num, b.id)

/-- The broadcast's copies in the queue of a node. -/
def queued (n : FloodingRouter) : List Routed := n.copies.filter fun r => r.key n.nodeNum = b.key

/-- The node has a record of the broadcast. -/
def Recorded (n : FloodingRouter) : Prop := (n.history.find b.num b.id).isSome = true

/-- Before the broadcast is sent. -/
structure Starts : Prop where
  num : (s.nodes b.originator).nodeNum = b.num
  queued : ∀ v, b.queued (s.nodes v) = []
  air : s.air = []

/-! ### What goes on the air -/

theorem low_bits : ∀ a : Fin 256, (UInt8.ofNat a <<< 5) &&& (0xE0 : UInt8) =
    ((UInt8.ofNat a &&& (0x07 : UInt8)) <<< 5) &&& (0xE0 : UInt8) := by
  decide +kernel

theorem low_le : ∀ a : Fin 256, UInt8.ofNat a &&& (0x07 : UInt8) ≤ 7 := by
  decide +kernel

/-- The hop limit goes on the air as it is, or as three where it is too high. -/
def limitOnAir (hopLimit : UInt8) : UInt8 := if 7 < hopLimit then 3 else hopLimit

/-- Three bits of the hop start go on the air. -/
def startOnAir (hopStart : UInt8) : UInt8 := hopStart &&& (0x07 : UInt8)

theorem startOnAir_le (a : UInt8) : startOnAir a ≤ 7 := by
  have h := low_le ⟨a.toNat, a.toNat_lt⟩
  rwa [UInt8.ofNat_toNat] at h

theorem limitOnAir_le (a : UInt8) : limitOnAir a ≤ 7 := by
  unfold limitOnAir
  split_ifs with h
  · decide
  · exact UInt8.not_lt.mp h

theorem flags_read {hopLimit : UInt8} (hopStart : UInt8) (wantAck viaMqtt : Bool) (h : hopLimit ≤ 7) :
    headerFlags hopLimit hopStart wantAck viaMqtt &&& (0x07 : UInt8) = hopLimit ∧
      (headerFlags hopLimit hopStart wantAck viaMqtt &&& (0xE0 : UInt8)) >>> 5 = startOnAir hopStart := by
  have hlow := low_bits ⟨hopStart.toNat, hopStart.toNat_lt⟩
  rw [UInt8.ofNat_toNat] at hlow
  have hsame : headerFlags hopLimit hopStart wantAck viaMqtt =
      headerFlags hopLimit (startOnAir hopStart) wantAck viaMqtt := by
    unfold headerFlags startOnAir
    rw [hlow]
  rw [hsame]
  obtain ⟨hl, hs, _⟩ := headerFlags_read wantAck viaMqtt h (startOnAir_le hopStart)
  exact ⟨hl, hs⟩

theorem beginSending_routed (p : MeshPacket) : p.beginSending.routed =
    { p.routed with hopLimit := limitOnAir p.hopLimit, hopStart := startOnAir p.hopStart } := by
  have hle := limitOnAir_le p.hopLimit
  unfold MeshPacket.beginSending Frame.routed Frame.hopLimit Frame.hopStart limitOnAir at *
  dsimp only
  split_ifs at hle ⊢ with hlim
  · obtain ⟨hl, hs⟩ := flags_read p.hopStart p.wantAck p.viaMqtt hle
    exact congrArg₂ (Routed.mk p.from' p.id p.to') hl hs
  · obtain ⟨hl, hs⟩ := flags_read p.hopStart p.wantAck p.viaMqtt hle
    exact congrArg₂ (Routed.mk p.from' p.id p.to') hl hs

/-- The hop limit of a relay is below the hop start, where that of the copy that came in is not above it. -/
theorem tosend_lt {n : FloodingRouter} {p : MeshPacket} (h : p.hopLimit ≤ p.hopStart) (hpos : 0 < p.hopLimit) :
    (n.tosend p).hopLimit < p.hopStart := by
  rw [UInt8.le_iff_toNat_le] at h
  rw [UInt8.lt_iff_toNat_lt] at hpos
  have hzero : (0 : UInt8).toNat = 0 := rfl
  have hone : (1 : UInt8).toNat = 1 := rfl
  have hle : (1 : UInt8) ≤ p.hopLimit := by
    rw [UInt8.le_iff_toNat_le]
    omega
  have hsub : (p.hopLimit - 1).toNat = p.hopLimit.toNat - 1 := by
    rw [UInt8.toNat_sub_of_le _ _ hle, hone]
  rw [UInt8.lt_iff_toNat_lt]
  unfold FloodingRouter.tosend
  split_ifs with hdec
  · show (p.hopLimit - 1).toNat < _
    omega
  · -- a router that keeps the hop limit is not the first to relay the packet
    have hne : p.hopStart ≠ p.hopLimit := fun he => hdec (by
      unfold FloodingRouter.shouldDecrementHopLimit
      refine if_pos ?_
      simp only [Bool.and_eq_true, decide_eq_true_eq]
      exact ⟨fun hz => by rw [← he, hz] at hpos; exact absurd hpos (by decide), he⟩)
    have hne' : p.hopStart.toNat ≠ p.hopLimit.toNat := fun he => hne (UInt8.toNat_inj.mp he)
    omega

/-! ### The copies of a broadcast -/

/-- A copy that a relay made. -/
structure IsRelay (r : Routed) : Prop where
  from' : r.from' = b.num
  id : r.id = b.id
  to' : r.to' = b.to'
  hopStart : r.hopStart = startOnAir b.hopStart
  hopLimit : r.hopLimit < startOnAir b.hopStart

/-- What the originator has on the air. -/
def onAir : Routed :=
  ⟨b.num, b.id, b.to', limitOnAir b.hopStart, startOnAir b.hopStart⟩

/-- The hops of the broadcast on the air: a hop start, and a hop limit that is not above it. -/
structure Fits : Prop where
  start : startOnAir b.hopStart ≠ 0
  limit : limitOnAir b.hopStart ≤ startOnAir b.hopStart

section

variable {b s} {n m : FloodingRouter} {p : MeshPacket}

theorem IsRelay.onAir (hr : b.IsRelay p.routed) : b.IsRelay p.beginSending.routed := by
  have hle := startOnAir_le b.hopStart
  have hlim : limitOnAir p.hopLimit = p.hopLimit := by
    have hlt : p.hopLimit < startOnAir b.hopStart := hr.hopLimit
    refine if_neg ?_
    rw [UInt8.lt_iff_toNat_lt] at hlt ⊢
    rw [UInt8.le_iff_toNat_le] at hle
    omega
  have hstart : startOnAir p.hopStart = startOnAir b.hopStart := by
    have hs : p.hopStart = startOnAir b.hopStart := hr.hopStart
    rw [hs]
    unfold startOnAir
    rw [UInt8.and_assoc, UInt8.and_self]
  rw [beginSending_routed, hlim, hstart]
  exact ⟨hr.from', hr.id, hr.to', rfl, hr.hopLimit⟩

theorem queued_subperm (hn : m.nodeNum = n.nodeNum) (h : m.copies <+~ n.copies) :
    b.queued m <+~ b.queued n := by
  unfold queued
  rw [hn]
  exact h.filter _

theorem mem_queued {r : Routed} : r ∈ b.queued n ↔ r ∈ n.copies ∧ r.key n.nodeNum = b.key := by
  unfold queued
  rw [List.mem_filter, decide_eq_true_eq]

/-- A copy more in a queue. -/
theorem queued_cons (hn : m.nodeNum = n.nodeNum) {r : Routed} {l : List Routed} (h : m.copies <+~ r :: l) :
    b.queued m <+~ r :: l.filter fun r => r.key n.nodeNum = b.key := by
  unfold queued
  rw [hn]
  refine (h.filter _).trans ?_
  rw [List.filter_cons]
  split_ifs
  · exact List.Subperm.refl _
  · exact List.subperm_cons_self

theorem received_key (f : Frame) (rxRssi : ℤ) (hf : f.header.from' = b.num) (hid : f.header.id = b.id)
    (nodeNum : UInt32) : (f.received rxRssi).key nodeNum = b.key := by
  unfold MeshPacket.key MeshPacket.getFrom Frame.received key
  dsimp only
  rw [hf, hid, if_neg b.num_ne_zero]

theorem Fits.of_le (h : b.hopStart ≤ 7 ∨ 3 ≤ b.hopStart % 8) : b.Fits := by
  have htable : ∀ a : Fin 256, UInt8.ofNat a ≠ 0 → (UInt8.ofNat a ≤ 7 ∨ 3 ≤ UInt8.ofNat a % 8) →
      startOnAir (UInt8.ofNat a) ≠ 0 ∧ limitOnAir (UInt8.ofNat a) ≤ startOnAir (UInt8.ofNat a) := by
    decide +kernel
  have hb := htable ⟨b.hopStart.toNat, b.hopStart.toNat_lt⟩
  rw [UInt8.ofNat_toNat] at hb
  exact ⟨(hb b.hopStart_ne_zero h).1, (hb b.hopStart_ne_zero h).2⟩

theorem sentCopy_eq (hn : n.nodeNum = b.num) (hus : p.isFromUs b.num = true) (hid : p.id = b.id)
    (hto : p.to' = b.to') (hhop : p.hopLimit = b.hopStart) :
    n.sentCopy p = ⟨b.num, b.id, b.to', b.hopStart, b.hopStart⟩ := by
  have hfrom : p.getFrom b.num = b.num := by
    unfold MeshPacket.isFromUs at hus
    unfold MeshPacket.getFrom
    simp only [Bool.or_eq_true, decide_eq_true_eq] at hus
    split_ifs with hz
    · rfl
    · exact hus.resolve_left hz
  unfold FloodingRouter.sentCopy
  rw [hn, hus, if_pos rfl, hfrom, hid, hto, hhop]

theorem air_set {i : ℕ} {t : Transmission ι} (h : s.air[i]? = some t) :
    ∃ l₁ l₂, s.air = l₁ ++ t :: l₂ ∧ ∀ t', s.air.set i t' = l₁ ++ t' :: l₂ := by
  obtain ⟨hlt, rfl⟩ := List.getElem?_eq_some_iff.mp h
  refine ⟨s.air.take i, s.air.drop (i + 1), ?_, fun t' => List.set_eq_take_append_cons_drop.trans (if_pos hlt)⟩
  rw [List.getElem_cons_drop, List.take_append_drop]

end

end

variable {ι : Type} [DecidableEq ι] (b : Broadcast ι) (s : Flood ι)

/-! ### Steps -/

def step : FloodEvent ι → Flood ι
  | .send p e => { s with nodes := Function.update s.nodes b.originator ((s.nodes b.originator).send p e) }
  | .transmit v =>
    match (s.nodes v).txQueue.txQueue.queue with
    | [] => s
    | x :: _ =>
      { nodes := Function.update s.nodes v { s.nodes v with txQueue := (s.nodes v).txQueue.dequeue }
        air := if x.packet.key (s.nodes v).nodeNum = b.key then s.air ++ [⟨v, x.packet.beginSending, []⟩]
          else s.air }
  | .deliver i v rxRssi e =>
    match s.air[i]? with
    | none => s
    | some t =>
      { nodes := Function.update s.nodes v ((s.nodes v).receive (t.frame.received rxRssi) e)
        air := s.air.set i { t with heardBy := v :: t.heardBy } }
  | .other v n => { s with nodes := Function.update s.nodes v n }

/-- The originator sends this broadcast, a transmission is delivered to a node once, a record that is
made stays, and other packets bring no copy of the broadcast to a queue. -/
def Admissible : FloodEvent ι → Prop
  | .send p _ => p.isFromUs b.num = true ∧ p.id = b.id ∧ p.to' = b.to' ∧ p.hopLimit = b.hopStart
  | .transmit _ => True
  | .deliver i v rxRssi e => ∀ t ∈ s.air[i]?,
    v ∉ t.heardBy ∧ b.Recorded ((s.nodes v).receive (t.frame.received rxRssi) e)
  | .other v n =>
    n.nodeNum = (s.nodes v).nodeNum ∧ (b.Recorded (s.nodes v) → b.Recorded n) ∧
      b.queued n <+~ b.queued (s.nodes v)

instance (n : FloodingRouter) : Decidable (b.Recorded n) :=
  inferInstanceAs (Decidable ((n.history.find b.num b.id).isSome = true))

instance : ∀ c, Decidable (b.Admissible s c)
  | .send _ _ => inferInstanceAs (Decidable (_ ∧ _ ∧ _ ∧ _))
  | .transmit _ => .isTrue trivial
  | .deliver i v rxRssi e => inferInstanceAs (Decidable (∀ t ∈ s.air[i]?,
    v ∉ t.heardBy ∧ b.Recorded ((s.nodes v).receive (t.frame.received rxRssi) e)))
  | .other v n => inferInstanceAs (Decidable (n.nodeNum = (s.nodes v).nodeNum ∧
    (b.Recorded (s.nodes v) → b.Recorded n) ∧ b.queued n <+~ b.queued (s.nodes v)))

/-- How often a node was on the air with the broadcast. -/
def sent (v : ι) : ℕ := s.air.countP fun t => t.sender = v

/-- How many of the originator's transmissions the node heard. -/
def direct (v : ι) : ℕ := s.air.countP fun t => t.sender = b.originator && v ∈ t.heardBy

/-- Whether the node heard a relay. -/
def indirect (v : ι) : Bool := s.air.any fun t => t.sender ≠ b.originator && v ∈ t.heardBy

/-- The relays have fewer hops left than the broadcast began with, so that none is taken for a repeated
copy, and a node relays it at most once more than its originator sends it. -/
structure Contained : Prop where
  descends : ∀ t ∈ s.air, t.sender ≠ b.originator → t.frame.hopLimit < t.frame.hopStart
  repeated : ∀ t ∈ s.air, ∀ rxRssi, (t.frame.received rxRssi).isRepeated = true → t.sender = b.originator
  bounded : ∀ v ≠ b.originator, sent s v ≤ sent s b.originator + 1

/-! ### What every step keeps -/

/-- A copy that may wait in the queue of `v`. -/
def Waits (v : ι) (r : Routed) : Prop :=
  if v = b.originator then r = ⟨b.num, b.id, b.to', b.hopStart, b.hopStart⟩ else b.IsRelay r

/-- A copy that `v` may have on the air. -/
def Heard (v : ι) (r : Routed) : Prop := if v = b.originator then r = b.onAir else b.IsRelay r

structure Kept : Prop where
  num : (s.nodes b.originator).nodeNum = b.num
  queue : ∀ v, ∀ r ∈ b.queued (s.nodes v), b.Waits v r
  air : ∀ t ∈ s.air, b.Heard t.sender t.frame.routed
  recorded : ∀ v ≠ b.originator, ∀ t ∈ s.air, v ∈ t.heardBy → b.Recorded (s.nodes v)

/-- The relays of `v`, sent or waiting, are as many as the transmissions of the originator that it
heard, or one more if it heard a relay. -/
def Within (v : ι) : Prop :=
  sent s v + (b.queued (s.nodes v)).length ≤ b.direct s v + if b.indirect s v then 1 else 0

variable {b s} {n m : FloodingRouter} {p : MeshPacket} {e : Sending}

theorem update_cases (s : Flood ι) (v : ι) (n : FloodingRouter) (w : ι) :
    w = v ∧ Function.update s.nodes v n w = n ∨ w ≠ v ∧ Function.update s.nodes v n w = s.nodes w := by
  by_cases hw : w = v
  · exact Or.inl ⟨hw, hw ▸ Function.update_self ..⟩
  · exact Or.inr ⟨hw, Function.update_of_ne hw ..⟩

/-- A node that changes. -/
theorem update_kept (h : b.Kept s) {v : ι} (hnum : n.nodeNum = (s.nodes v).nodeNum)
    (hrec : v ≠ b.originator → b.Recorded (s.nodes v) → b.Recorded n)
    (hqueue : ∀ r ∈ b.queued n, r ∈ b.queued (s.nodes v) ∨ b.Waits v r) :
    b.Kept { s with nodes := Function.update s.nodes v n } := by
  refine ⟨?_, fun w r hr => ?_, h.air, fun w hw t ht hheard => ?_⟩
  · show (Function.update s.nodes v n b.originator).nodeNum = b.num
    rcases update_cases s v n b.originator with ⟨ho, hn⟩ | ⟨_, hn⟩
    · rw [hn, hnum, ← ho]
      exact h.num
    · rw [hn]
      exact h.num
  · change r ∈ b.queued (Function.update s.nodes v n w) at hr
    rcases update_cases s v n w with ⟨rfl, hn⟩ | ⟨_, hn⟩
    · rw [hn] at hr
      exact (hqueue r hr).elim (h.queue w r) fun hwaits => hwaits
    · rw [hn] at hr
      exact h.queue w r hr
  · show b.Recorded (Function.update s.nodes v n w)
    have hold := h.recorded w hw t ht hheard
    rcases update_cases s v n w with ⟨rfl, hn⟩ | ⟨_, hn⟩
    · rw [hn]
      exact hrec hw hold
    · rw [hn]
      exact hold

/-- A frame that comes on the air. -/
theorem append_kept (h : b.Kept s) {v : ι} {f : Frame} (hf : b.Heard v f.routed) :
    b.Kept { s with air := s.air ++ [⟨v, f, []⟩] } := by
  refine ⟨h.num, h.queue, fun t ht => ?_, fun w hw t ht hheard => ?_⟩
  · rcases List.mem_append.mp ht with ht | ht
    · exact h.air t ht
    · obtain rfl := List.mem_singleton.mp ht
      exact hf
  · rcases List.mem_append.mp ht with ht | ht
    · exact h.recorded w hw t ht hheard
    · obtain rfl := List.mem_singleton.mp ht
      exact absurd hheard List.not_mem_nil

/-- A frame that is delivered. -/
theorem hear_kept (h : b.Kept s) {v : ι} {i : ℕ} {t : Transmission ι} (hi : s.air[i]? = some t)
    (hrec : b.Recorded (s.nodes v)) :
    b.Kept { s with air := s.air.set i { t with heardBy := v :: t.heardBy } } := by
  obtain ⟨l₁, l₂, hair, hset⟩ := air_set hi
  have hmem : ∀ t' ∈ s.air.set i { t with heardBy := v :: t.heardBy },
      t' ∈ s.air ∨ t' = { t with heardBy := v :: t.heardBy } := fun t' ht' => by
    rw [hset] at ht'
    rw [hair]
    simp only [List.mem_append, List.mem_cons] at ht' ⊢
    tauto
  have ht : t ∈ s.air := by
    rw [hair]
    exact List.mem_append_right _ (List.mem_cons_self ..)
  refine ⟨h.num, h.queue, fun t' ht' => ?_, fun w hw t' ht' hheard => ?_⟩
  · rcases hmem t' ht' with ht' | rfl
    · exact h.air t' ht'
    · exact h.air t ht
  · rcases hmem t' ht' with ht' | rfl
    · exact h.recorded w hw t' ht' hheard
    · rcases List.mem_cons.mp hheard with rfl | hheard
      · exact hrec
      · exact h.recorded w hw t ht hheard

/-! ### One step -/

/-- A copy that waits goes on the air as one that may be heard. -/
theorem Waits.heard {v : ι} (h : b.Waits v p.routed) : b.Heard v p.beginSending.routed := by
  unfold Waits at h
  unfold Heard
  split_ifs at h ⊢ with ho
  · have hl : p.hopLimit = b.hopStart := congrArg Routed.hopLimit h
    have hs : p.hopStart = b.hopStart := congrArg Routed.hopStart h
    rw [beginSending_routed, h, hl, hs]
    rfl
  · exact h.onAir

/-- A copy that is on the air and has hops left is relayed as one that may wait. -/
theorem Heard.relayed (hfit : b.Fits) {v w : ι} {f : Frame} {rxRssi : ℤ} (hw : w ≠ b.originator)
    (h : b.Heard v f.routed) (hpos : 0 < f.hopLimit) : b.Waits w (n.tosend (f.received rxRssi)).routed := by
  have hread : f.routed.from' = b.num ∧ f.routed.id = b.id ∧ f.routed.to' = b.to' ∧
      f.routed.hopStart = startOnAir b.hopStart ∧ f.routed.hopLimit ≤ startOnAir b.hopStart := by
    unfold Heard at h
    split_ifs at h
    · rw [h]
      exact ⟨rfl, rfl, rfl, rfl, hfit.limit⟩
    · exact ⟨h.from', h.id, h.to', h.hopStart, UInt8.le_of_lt h.hopLimit⟩
  obtain ⟨hfrom, hid, hto, hstart, hle⟩ := hread
  have hhops : f.hopLimit ≤ f.hopStart := by
    change f.hopStart = _ at hstart
    rw [hstart]
    exact hle
  have hlt := @tosend_lt n (f.received rxRssi) hhops hpos
  have hsame : (n.tosend (f.received rxRssi)).routed =
      { f.routed with hopLimit := (n.tosend (f.received rxRssi)).hopLimit } := by
    unfold FloodingRouter.tosend
    split_ifs <;> rfl
  unfold Waits
  rw [if_neg hw, hsame]
  refine ⟨hfrom, hid, hto, hstart, ?_⟩
  rw [← hstart]
  exact hlt

theorem Heard.key {v : ι} {f : Frame} (h : b.Heard v f.routed) (rxRssi : ℤ) (nodeNum : UInt32) :
    (f.received rxRssi).key nodeNum = b.key := by
  unfold Heard at h
  split_ifs at h
  · exact received_key f rxRssi (congrArg Routed.from' h) (congrArg Routed.id h) nodeNum
  · exact received_key f rxRssi h.from' h.id nodeNum

theorem Heard.id_ne_zero {v : ι} {f : Frame} (h : b.Heard v f.routed) : f.header.id ≠ 0 := by
  have hkey := h.key 0 0
  exact fun hz => b.id_ne_zero ((congrArg Prod.snd hkey).symm.trans hz)

/-- What a reception brings to the queue of a node. -/
theorem receive_queued (hfit : b.Fits) {v w : ι} {f : Frame} {rxRssi : ℤ} {e : Reception}
    (hnum : w = b.originator → n.nodeNum = b.num) (h : b.Heard v f.routed) :
    ∀ r ∈ b.queued (n.receive (f.received rxRssi) e), r ∈ b.queued n ∨ b.Waits w r := by
  have hn : (n.receive (f.received rxRssi) e).nodeNum = n.nodeNum := FloodingRouter.receive_nodeNum e
  have hwaits : (f.received rxRssi).isFromUs n.nodeNum = false → 0 < (f.received rxRssi).hopLimit →
      b.Waits w (n.tosend (f.received rxRssi)).routed := fun hus hpos => by
    refine h.relayed hfit (fun ho => ?_) hpos
    have hfrom : f.header.from' = b.num := by
      unfold Heard at h
      split_ifs at h
      · exact congrArg Routed.from' h
      · exact h.from'
    unfold MeshPacket.isFromUs Frame.received at hus
    dsimp only at hus
    rw [hfrom, hnum ho] at hus
    simp at hus
  intro r hr
  rcases @FloodingRouter.receive_cases n (f.received rxRssi) h.id_ne_zero e with hc | ⟨_, hus, hpos, hc⟩ |
    ⟨hus, hpos, x, l, hperm, _, hc⟩
  · exact Or.inl ((queued_subperm hn hc).subset hr)
  · rcases List.mem_cons.mp ((queued_cons hn hc).subset hr) with rfl | hr
    · exact Or.inr (hwaits hus hpos)
    · exact Or.inl hr
  · rcases List.mem_cons.mp ((queued_cons hn hc).subset hr) with rfl | hr
    · exact Or.inr (hwaits hus hpos)
    · refine Or.inl (mem_queued.mpr ⟨hperm.symm.subset (List.mem_cons_of_mem _ (List.mem_filter.mp hr).1), ?_⟩)
      exact of_decide_eq_true (List.mem_filter.mp hr).2

theorem step_kept (hfit : b.Fits) (h : b.Kept s) (c : FloodEvent ι) (had : b.Admissible s c) :
    b.Kept (b.step s c) := by
  cases c with
  | send p e =>
    obtain ⟨hus, hid, hto, hhop⟩ := had
    have hnum : ((s.nodes b.originator).send p e).nodeNum = (s.nodes b.originator).nodeNum :=
      FloodingRouter.sendRouter_nodeNum
    refine update_kept h hnum (fun hne => absurd rfl hne) fun r hr => ?_
    rcases List.mem_cons.mp ((queued_cons hnum FloodingRouter.send_copies).subset hr) with rfl | hr
    · exact Or.inr ((if_pos rfl).mpr (sentCopy_eq h.num hus hid hto hhop))
    · exact Or.inl hr
  | transmit v =>
    unfold step
    dsimp only
    split
    · exact h
    · rename_i x rest hq
      have hcopies : (s.nodes v).copies = x.packet.routed :: (s.nodes v).txQueue.dequeue.copies :=
        TxQueue.dequeue_copies hq
      have hsub : (s.nodes v).txQueue.dequeue.copies <+~ (s.nodes v).copies := by
        rw [hcopies]
        exact List.subperm_cons_self
      have hnode := update_kept h (v := v) (n := { s.nodes v with txQueue := (s.nodes v).txQueue.dequeue }) rfl
        (fun _ hrec => hrec) fun r hr => Or.inl ((@queued_subperm _ b (s.nodes v)
          { s.nodes v with txQueue := (s.nodes v).txQueue.dequeue } rfl hsub).subset hr)
      split_ifs with hkey
      · refine append_kept hnode (Waits.heard (h.queue v _ (mem_queued.mpr ⟨?_, hkey⟩)))
        exact hcopies.symm ▸ List.mem_cons_self ..
      · exact hnode
  | deliver i v rxRssi e =>
    unfold Admissible at had
    unfold step
    dsimp only at had ⊢
    cases hi : s.air[i]? with
    | none => exact h
    | some t =>
      have had := had t hi
      have ht : t ∈ s.air := List.mem_of_getElem? hi
      have hnode := update_kept h (v := v) (n := (s.nodes v).receive (t.frame.received rxRssi) e)
        (FloodingRouter.receive_nodeNum e) (fun _ _ => had.2)
        (receive_queued hfit (fun ho => ho ▸ h.num) (h.air t ht))
      refine hear_kept hnode hi ?_
      show b.Recorded (Function.update s.nodes v _ v)
      rw [Function.update_self]
      exact had.2
  | other v n =>
    obtain ⟨hnum, hrec, hqueue⟩ := had
    exact update_kept h hnum (fun _ => hrec) fun r hr => Or.inl (hqueue.subset hr)

/-! ### How many relays there are -/

theorem sent_append (nodes : ι → FloodingRouter) (air : List (Transmission ι)) (v w : ι) (f : Frame) :
    sent ⟨nodes, air ++ [⟨v, f, []⟩]⟩ w = sent ⟨nodes, air⟩ w + if v = w then 1 else 0 := by
  unfold sent
  rw [List.countP_append, List.countP_singleton]
  simp only [decide_eq_true_eq]

theorem direct_append (nodes : ι → FloodingRouter) (air : List (Transmission ι)) (v w : ι) (f : Frame) :
    b.direct ⟨nodes, air ++ [⟨v, f, []⟩]⟩ w = b.direct ⟨nodes, air⟩ w := by
  unfold direct
  rw [List.countP_append, List.countP_singleton]
  simp only [List.not_mem_nil, decide_false, Bool.and_false, Bool.false_eq_true, if_false, Nat.add_zero]

theorem indirect_append (nodes : ι → FloodingRouter) (air : List (Transmission ι)) (v w : ι) (f : Frame) :
    b.indirect ⟨nodes, air ++ [⟨v, f, []⟩]⟩ w = b.indirect ⟨nodes, air⟩ w := by
  unfold indirect
  rw [List.any_append, List.any_cons, List.any_nil]
  simp only [List.not_mem_nil, decide_false, Bool.and_false, Bool.or_false]

section

variable {i : ℕ} {t : Transmission ι} {v w : ι} (nodes : ι → FloodingRouter)

theorem sent_hear (hi : s.air[i]? = some t) :
    sent ⟨nodes, s.air.set i { t with heardBy := v :: t.heardBy }⟩ w = sent s w := by
  obtain ⟨l₁, l₂, hair, hset⟩ := air_set hi
  unfold sent
  rw [hset, hair, List.countP_append, List.countP_append, List.countP_cons, List.countP_cons]

theorem direct_hear (hi : s.air[i]? = some t) (hnew : v ∉ t.heardBy) :
    b.direct ⟨nodes, s.air.set i { t with heardBy := v :: t.heardBy }⟩ w =
      b.direct s w + if w = v ∧ t.sender = b.originator then 1 else 0 := by
  obtain ⟨l₁, l₂, hair, hset⟩ := air_set hi
  unfold direct
  rw [hset, hair, List.countP_append, List.countP_append, List.countP_cons, List.countP_cons]
  simp only [Bool.and_eq_true, decide_eq_true_eq, List.mem_cons]
  by_cases hw : w = v
  · subst hw
    by_cases ho : t.sender = b.originator
    · simp only [ho, hnew, true_or, and_true, and_false, if_true, if_false]
      omega
    · simp only [ho, false_and, and_false, if_false]
      omega
  · simp only [hw, false_or, false_and, if_false]
    omega

theorem indirect_hear (hi : s.air[i]? = some t) :
    b.indirect ⟨nodes, s.air.set i { t with heardBy := v :: t.heardBy }⟩ w = true ↔
      b.indirect s w = true ∨ w = v ∧ t.sender ≠ b.originator := by
  obtain ⟨l₁, l₂, hair, hset⟩ := air_set hi
  unfold indirect
  rw [hset, hair]
  simp only [List.any_append, List.any_cons, Bool.or_eq_true, Bool.and_eq_true, decide_eq_true_eq,
    List.mem_cons]
  tauto

end

theorem update_within {v w : ι} (h : b.Within s w)
    (hlen : w = v → (b.queued n).length ≤ (b.queued (s.nodes v)).length) :
    b.Within { s with nodes := Function.update s.nodes v n } w := by
  unfold Within at h ⊢
  change sent s w + (b.queued (Function.update s.nodes v n w)).length ≤
    b.direct s w + if b.indirect s w then 1 else 0
  rcases update_cases s v n w with ⟨rfl, hn⟩ | ⟨_, hn⟩
  · rw [hn]
    have := hlen rfl
    omega
  · rw [hn]
    exact h

theorem transmit_within {v w : ι} (h : b.Within s w) : b.Within (b.step s (.transmit v)) w := by
  unfold step
  dsimp only
  split
  · exact h
  rename_i x rest hq
  have hcopies : (s.nodes v).copies = x.packet.routed :: (s.nodes v).txQueue.dequeue.copies :=
    TxQueue.dequeue_copies hq
  generalize hn : ({ s.nodes v with txQueue := (s.nodes v).txQueue.dequeue } : FloodingRouter) = n
  have hqueue : b.queued n = (s.nodes v).txQueue.dequeue.copies.filter fun r =>
      r.key (s.nodes v).nodeNum = b.key := hn ▸ rfl
  have hlen : (b.queued (s.nodes v)).length =
      (b.queued n).length + if x.packet.key (s.nodes v).nodeNum = b.key then 1 else 0 := by
    rw [hqueue]
    unfold queued
    rw [hcopies, List.filter_cons]
    change (if decide (x.packet.key (s.nodes v).nodeNum = b.key) = true then _ else _ : List Routed).length = _
    simp only [decide_eq_true_eq]
    split_ifs
    · rw [List.length_cons]
    · rfl
  split_ifs at hlen ⊢ with hkey
  · unfold Within at h ⊢
    rw [sent_append, direct_append, indirect_append]
    change sent s w + _ + (b.queued (Function.update s.nodes v n w)).length ≤
      b.direct s w + if b.indirect s w then 1 else 0
    rcases update_cases s v n w with ⟨rfl, hw⟩ | ⟨hne, hw⟩
    · rw [hw, if_pos rfl]
      omega
    · rw [hw, if_neg (Ne.symm hne)]
      exact h
  · exact update_within h fun _ => Nat.le_of_eq hlen.symm

/-- How much longer a reception makes the queue of a node. -/
theorem receive_length {v : ι} {f : Frame} {rxRssi : ℤ} {e : Reception} (h : b.Heard v f.routed) :
    (b.queued (n.receive (f.received rxRssi) e)).length ≤ (b.queued n).length ∨
      (b.Recorded n → (f.received rxRssi).isRepeated = true) ∧
        (b.queued (n.receive (f.received rxRssi) e)).length ≤ (b.queued n).length + 1 := by
  have hn : (n.receive (f.received rxRssi) e).nodeNum = n.nodeNum := FloodingRouter.receive_nodeNum e
  have hkey := h.key rxRssi n.nodeNum
  rcases @FloodingRouter.receive_cases n (f.received rxRssi) h.id_ne_zero e with hc | ⟨hrep, _, _, hc⟩ |
    ⟨_, _, x, l, hperm, hx, hc⟩
  · exact Or.inl (queued_subperm hn hc).length_le
  · refine Or.inr ⟨fun hrec => hrep ?_, (queued_cons hn hc).length_le⟩
    rw [hkey]
    exact hrec
  · refine Or.inl ?_
    have hl := (queued_cons (b := b) hn hc).length_le
    have hold : (b.queued n).length = (l.filter fun r => r.key n.nodeNum = b.key).length + 1 := by
      unfold queued
      rw [(hperm.filter _).length_eq, List.filter_cons, if_pos (decide_eq_true (hx.trans hkey)),
        List.length_cons]
    rw [List.length_cons] at hl
    omega

/-- A copy that is repeated by its originator comes from its originator. -/
theorem Heard.sender {v : ι} {f : Frame} {rxRssi : ℤ} (h : b.Heard v f.routed)
    (hrep : (f.received rxRssi).isRepeated = true) : v = b.originator := by
  by_contra hv
  unfold Heard at h
  rw [if_neg hv] at h
  unfold MeshPacket.isRepeated at hrep
  simp only [Bool.and_eq_true, decide_eq_true_eq] at hrep
  have hlt : f.hopLimit < f.hopStart := by
    have hs : f.hopStart = startOnAir b.hopStart := h.hopStart
    rw [hs]
    exact h.hopLimit
  have heq : f.hopStart = f.hopLimit := hrep.2
  rw [heq] at hlt
  exact absurd hlt (UInt8.lt_irrefl _)

theorem deliver_within (h : b.Kept s) {i : ℕ} {v w : ι} {rxRssi : ℤ} {e : Reception}
    (had : b.Admissible s (.deliver i v rxRssi e)) (hw : w ≠ b.originator) (hwithin : b.Within s w) :
    b.Within (b.step s (.deliver i v rxRssi e)) w := by
  unfold Admissible at had
  unfold step
  dsimp only at had ⊢
  cases hi : s.air[i]? with
  | none => exact hwithin
  | some t =>
    obtain ⟨hnew, _⟩ := had t hi
    have ht : t ∈ s.air := List.mem_of_getElem? hi
    unfold Within at hwithin ⊢
    dsimp only
    rw [sent_hear _ hi, direct_hear _ hi hnew]
    simp only [indirect_hear _ hi]
    rcases update_cases s v ((s.nodes v).receive (t.frame.received rxRssi) e) w with ⟨rfl, hn⟩ | ⟨hne, hn⟩
    · rw [hn]
      by_cases ho : t.sender = b.originator
      · -- one transmission of the originator more
        rw [if_pos ⟨rfl, ho⟩]
        have hlen := (@receive_length _ _ b (s.nodes w) _ _ rxRssi e (h.air t ht)).elim Nat.le_succ_of_le And.right
        simp only [ho, ne_eq, not_true_eq_false, and_false, or_false]
        omega
      · -- a relay counts if it is the first copy that the node hears
        rw [if_neg fun hc => ho hc.2, if_pos (Or.inr ⟨rfl, ho⟩)]
        by_cases hrec : b.Recorded (s.nodes w)
        · have hnot : (t.frame.received rxRssi).isRepeated ≠ true := fun hrep => ho ((h.air t ht).sender hrep)
          have hlen := (@receive_length _ _ b (s.nodes w) _ _ rxRssi e (h.air t ht)).resolve_right
            fun hr => hnot (hr.1 hrec)
          split_ifs at hwithin <;> omega
        · have hnone : b.indirect s w = false := Bool.eq_false_iff.mpr fun hany => by
            obtain ⟨t', ht', hheard⟩ := List.any_eq_true.mp hany
            simp only [Bool.and_eq_true, decide_eq_true_eq] at hheard
            exact hrec (h.recorded w hw t' ht' hheard.2)
          rw [hnone, if_neg Bool.false_ne_true] at hwithin
          have hlen := (@receive_length _ _ b (s.nodes w) _ _ rxRssi e (h.air t ht)).elim Nat.le_succ_of_le And.right
          omega
    · rw [hn, if_neg fun hc => hne hc.1]
      simp only [hne, false_and, or_false]
      exact hwithin

theorem step_within (h : b.Kept s) (c : FloodEvent ι) (had : b.Admissible s c)
    {w : ι} (hw : w ≠ b.originator) (hwithin : b.Within s w) : b.Within (b.step s c) w := by
  cases c with
  | send p e => exact update_within hwithin fun ho => absurd ho hw
  | transmit v => exact transmit_within hwithin
  | deliver i v rxRssi e => exact deliver_within h had hw hwithin
  | other v n => exact update_within hwithin fun _ => had.2.2.length_le

theorem start_kept (h : b.Starts s) : b.Kept s := by
  refine ⟨h.num, fun v r hr => ?_, fun t ht => ?_, fun v _ t ht => ?_⟩
  · rw [h.queued v] at hr
    exact absurd hr List.not_mem_nil
  · rw [h.air] at ht
    exact absurd ht List.not_mem_nil
  · rw [h.air] at ht
    exact absurd ht List.not_mem_nil

theorem start_within (h : b.Starts s) (v : ι) : b.Within s v := by
  unfold Within sent
  rw [h.queued v, h.air]
  exact Nat.zero_le _

theorem Kept.contained (h : b.Kept s) (hw : ∀ v ≠ b.originator, b.Within s v) : b.Contained s := by
  refine ⟨fun t ht hne => ?_, fun t ht _ hrep => (h.air t ht).sender hrep, fun v hv => ?_⟩
  · have hr := h.air t ht
    unfold Heard at hr
    rw [if_neg hne] at hr
    have hs : t.frame.hopStart = startOnAir b.hopStart := hr.hopStart
    rw [hs]
    exact hr.hopLimit
  · have hle : b.direct s v ≤ sent s b.originator := List.countP_mono_left fun t _ ht => by
      simp only [Bool.and_eq_true, decide_eq_true_eq] at ht
      exact decide_eq_true ht.1
    have hv := hw v hv
    unfold Within at hv
    split_ifs at hv <;> omega

/-- A run of the network, for a broadcast whose hops fit on the air. -/
theorem run_contained (hfit : b.Fits) (hs : b.Starts s) {events : List (FloodEvent ι)}
    (h : Along b.step b.Admissible s events) : b.Contained (run b.step s events) := by
  have hrun : b.Kept (run b.step s events) ∧ ∀ v ≠ b.originator, b.Within (run b.step s events) v :=
    run_invariant (P := fun s => b.Kept s ∧ ∀ v ≠ b.originator, b.Within s v)
      (fun s c hk had => ⟨step_kept hfit hk.1 c had, fun v hv => step_within hk.1 c had hv (hk.2 v hv)⟩)
      ⟨start_kept hs, fun v _ => start_within hs v⟩ h
  exact hrun.1.contained hrun.2

/-! ### Hops that do not fit on the air -/

/-- A node that has heard nothing. -/
def fresh (nodeNum : UInt32) : FloodingRouter :=
  { nodeNum := nodeNum, role := .client, rebroadcastMode := .all, meshNodes := []
    history := PacketHistory.start 1, txQueue := TxQueue.start 16 }

/-- Nodes 9 and 7. -/
def two : Flood Bool := { nodes := fun v => fresh (if v then 7 else 9), air := [] }

/-- A broadcast of node 9. -/
def ofNine (hopStart : UInt8) (h : hopStart ≠ 0) : Broadcast Bool :=
  { originator := false, num := 9, id := 1, to' := nodenumBroadcast, hopStart := hopStart
    num_ne_zero := by decide, id_ne_zero := by decide, isBroadcast := rfl, hopStart_ne_zero := h }

theorem two_starts (hopStart : UInt8) (h : hopStart ≠ 0) : (ofNine hopStart h).Starts two :=
  ⟨rfl, fun _ => rfl, rfl⟩

def sending : Sending :=
  { now := 20, nowInsert := 20, letThrough := true, channel := 0, priority := 0, variant := .encrypted []
    publicKey := [], pkiEncrypted := false, delays := ⟨0, 0, 0⟩ }

/-- The broadcast is sent and relayed. -/
def once (hopStart : UInt8) : List (FloodEvent Bool) :=
  [.send { MeshPacket.zero with id := 1, to' := nodenumBroadcast, hopLimit := hopStart } sending,
    .transmit false, .deliver 0 true 0 ⟨20, 20, true, sending, 0, 0⟩, .transmit true]

theorem once_rises : ∀ a : Fin 256, ∀ h : UInt8.ofNat a ≠ 0,
    ¬ (UInt8.ofNat a ≤ 7 ∨ 3 ≤ UInt8.ofNat a % 8) →
    Along (ofNine (UInt8.ofNat a) h).step (ofNine (UInt8.ofNat a) h).Admissible two (once (UInt8.ofNat a)) ∧
      ∃ t ∈ (run (ofNine (UInt8.ofNat a) h).step two (once (UInt8.ofNat a))).air, t.sender = true ∧
        ¬ t.frame.hopLimit < t.frame.hopStart := by
  decide +kernel

/-- A broadcast is contained in every network exactly if its first hop limit is seven or less, or three
or more in its last three bits, which is what goes on the air of it as the hop start. -/
theorem contained_iff {hopStart : UInt8} (h : hopStart ≠ 0) :
    (∀ (ι : Type) [DecidableEq ι] (b : Broadcast ι), b.hopStart = hopStart → ∀ s, b.Starts s →
      ∀ events, Along b.step b.Admissible s events → b.Contained (run b.step s events)) ↔
    hopStart ≤ 7 ∨ 3 ≤ hopStart % 8 := by
  constructor
  · intro hall
    by_contra hno
    have hrises := once_rises ⟨hopStart.toNat, hopStart.toNat_lt⟩
    simp only [UInt8.ofNat_toNat] at hrises
    obtain ⟨halong, t, ht, hsender, hnot⟩ := hrises h hno
    have hc := hall Bool (ofNine hopStart h) rfl two (two_starts hopStart h) _ halong
    refine hnot (hc.descends t ht ?_)
    rw [hsender]
    exact Bool.true_eq_false_eq_False
  · intro hok ι _ b hb s hs events halong
    exact run_contained (Fits.of_le (hb ▸ hok)) hs halong

theorem three_contained :
    (ofNine 3 (by decide)).Contained (run (ofNine 3 (by decide)).step two (once 3)) :=
  have hne : (3 : UInt8) ≠ 0 := by decide
  have hle : (3 : UInt8) ≤ 7 := by decide
  have halong : Along (ofNine 3 (by decide)).step (ofNine 3 (by decide)).Admissible two (once 3) := by
    decide +kernel
  (contained_iff hne).mpr (Or.inl hle) Bool (ofNine 3 hne) rfl two (two_starts ..) (once 3) halong

/-- A broadcast that a client asked nine hops for: it is on the air with hop limit three and hop start
one, and its relay has two hops left. -/
theorem nine_not_contained :
    Along (ofNine 9 (by decide)).step (ofNine 9 (by decide)).Admissible two (once 9) ∧
      ¬ (ofNine 9 (by decide)).Contained (run (ofNine 9 (by decide)).step two (once 9)) := by
  obtain ⟨halong, t, ht, hsender, hnot⟩ := once_rises 9 (by decide) (by decide)
  refine ⟨halong, fun h => hnot (h.descends t ht ?_)⟩
  rw [hsender]
  exact Bool.true_eq_false_eq_False

end Broadcast
end MonsterMesh
