import Mathlib.Data.List.Perm.Subperm
import MonsterMesh.Mesh.Flooding
import MonsterMesh.Mesh.QueueOrder
import MonsterMesh.Mesh.Records

/-! The copies of a packet that wait in the transmit queue, and what a reception adds to them. -/
namespace MonsterMesh

open MeshPacketQueue

open scoped List

/-- What flooding reads of a packet: where it comes from, which one it is, where it goes, and its hops. -/
structure Routed where
  (from' id to' : UInt32)
  (hopLimit hopStart : UInt8)
deriving DecidableEq

def MeshPacket.routed (p : MeshPacket) : Routed := ⟨p.from', p.id, p.to', p.hopLimit, p.hopStart⟩

/-- The packet that this is a copy of, on the node `nodeNum`. -/
def Routed.key (nodeNum : UInt32) (r : Routed) : PacketKey := (if r.from' = 0 then nodeNum else r.from', r.id)

namespace TxQueue

variable {nodeNum : UInt32} {q : TxQueue} {p : MeshPacket} {w : Wanted}

def copies (q : TxQueue) : List Routed := q.txQueue.queue.map fun x => x.packet.routed

theorem map_subperm {l l' : List Queued} (h : l <+~ l') (f : Queued → Routed) : l.map f <+~ l'.map f := by
  obtain ⟨m, hperm, hsub⟩ := h
  exact ⟨m.map f, hperm.map f, hsub.map f⟩

theorem enqueueWithin_subperm (fuel : ℕ) (ticket : ℕ) (p : MeshPacket) (q : MeshPacketQueue) :
    (enqueueWithin nodeNum fuel q ticket p).queue.queue <+~ ⟨ticket, q.insertions, p⟩ :: q.queue := by
  induction fuel generalizing q with
  | zero => exact List.subperm_cons_self
  | succ fuel ih =>
    rw [enqueueWithin]
    split_ifs with hfull
    · cases q.victim p with
      | none => exact List.subperm_cons_self
      | some i =>
        refine (ih { q with queue := q.queue.eraseIdx i }).trans ?_
        exact (List.Sublist.cons_cons _ (List.eraseIdx_sublist ..)).subperm
    · exact Sorted.place_perm.subperm

/-- A packet that is enqueued adds no copy but its own. -/
theorem enqueue_copies (p : MeshPacket) (q : TxQueue) :
    (q.enqueue nodeNum p).copies <+~ p.routed :: q.copies :=
  map_subperm (enqueueWithin_subperm _ _ p q.txQueue) _

theorem setTransmitDelay_copies (d : TxDelays) : (q.setTransmitDelay d).copies = q.copies := by
  unfold setTransmitDelay
  split
  · rfl
  · rename_i x rest hq
    unfold copies
    rw [hq, List.map_cons, List.map_cons]
    refine congrArg₂ List.cons ?_ rfl
    unfold delayed
    split_ifs <;> rfl

/-- A packet that is removed takes its own copy away. -/
theorem remove_copies {x : Queued} (h : (q.txQueue.remove nodeNum w).1 = some x) :
    q.copies.Perm (x.packet.routed :: (q.remove nodeNum w).copies) := by
  obtain ⟨l₁, l₂, hq, hrest⟩ := remove_splits h
  unfold copies remove
  rw [hrest, hq, List.map_append, List.map_cons, List.map_append]
  exact List.perm_middle

theorem remove_subperm : (q.remove nodeNum w).copies <+~ q.copies := by
  cases h : (q.txQueue.remove nodeNum w).1 with
  | some x => exact List.subperm_cons_self.trans (remove_copies h).symm.subperm
  | none =>
    unfold copies remove
    rw [remove_none h]

theorem clampToLateRebroadcastWindow_copies (from' id now worst : UInt32) :
    (q.clampToLateRebroadcastWindow nodeNum from' id now worst).copies <+~ q.copies := by
  unfold clampToLateRebroadcastWindow
  dsimp only
  split
  · exact List.Subperm.refl _
  · rename_i x hx
    have hout := remove_copies hx
    exact (map_subperm (enqueueWithin_subperm _ _ _ _) _).trans hout.symm.subperm

theorem dequeue_copies {x : Queued} {rest : List Queued} (h : q.txQueue.queue = x :: rest) :
    q.copies = x.packet.routed :: q.dequeue.copies := by
  unfold copies dequeue MeshPacketQueue.dequeue
  dsimp only
  rw [h, List.map_cons, List.tail_cons]

end TxQueue

namespace FloodingRouter

open PacketHistory TxQueue

variable {n : FloodingRouter} {p : MeshPacket} {e : Sending}

def copies (n : FloodingRouter) : List Routed := n.txQueue.copies

/-- What the copy of a packet is that comes from `send`. -/
def sentCopy (n : FloodingRouter) (p : MeshPacket) : Routed :=
  ⟨p.getFrom n.nodeNum, p.id, p.to', p.hopLimit, if p.isFromUs n.nodeNum then p.hopLimit else p.hopStart⟩

theorem sendRadio_copies (d : TxDelays) : (n.sendRadio p d).copies <+~ p.routed :: n.copies := by
  unfold sendRadio
  dsimp only
  split_ifs with hlora hacc
  · exact List.subperm_cons_self
  · show (setTransmitDelay _ _).copies <+~ _
    rw [setTransmitDelay_copies]
    exact enqueue_copies p n.txQueue
  · exact enqueue_copies p n.txQueue

theorem sendRouter_copies : (n.sendRouter p e).copies <+~ n.sentCopy p :: n.copies := by
  unfold sendRouter
  split_ifs
  · exact List.subperm_cons_self
  · exact sendRadio_copies e.delays
  · exact List.subperm_cons_self

theorem send_copies : (n.send p e).copies <+~ n.sentCopy p :: n.copies := sendRouter_copies

theorem sendNextHop_copies : (n.sendNextHop p e).copies <+~ n.sentCopy p :: n.copies := sendRouter_copies

theorem sendRouter_nodeNum : (n.sendRouter p e).nodeNum = n.nodeNum := by
  unfold sendRouter sendRadio
  split_ifs <;> rfl

theorem perhapsRebroadcast_nodeNum : (n.perhapsRebroadcast p e).1.nodeNum = n.nodeNum := by
  unfold perhapsRebroadcast send sendNextHop
  split_ifs
  · exact sendRouter_nodeNum
  · exact sendRouter_nodeNum
  · rfl

/-- A rebroadcast adds one copy at most, of a packet of another node that has hops left. -/
theorem perhapsRebroadcast_copies : (n.perhapsRebroadcast p e).1.copies <+~ n.copies ∨
    p.isFromUs n.nodeNum = false ∧ 0 < p.hopLimit ∧
      (n.perhapsRebroadcast p e).1.copies <+~ (n.tosend p).routed :: n.copies := by
  unfold perhapsRebroadcast
  split
  · rename_i hc
    simp only [Bool.and_eq_true, Bool.not_eq_true', decide_eq_true_eq] at hc
    have hfrom : p.isFromUs n.nodeNum = false := hc.1.1.1.1.2
    have hne : p.from' ≠ 0 := fun h => by
      unfold MeshPacket.isFromUs at hfrom
      rw [h] at hfrom
      exact absurd hfrom (by simp)
    have hsent : n.sentCopy (n.tosend p) = (n.tosend p).routed := by
      have hf : (n.tosend p).from' = p.from' := by
        unfold tosend
        split_ifs <;> rfl
      unfold sentCopy MeshPacket.getFrom MeshPacket.isFromUs
      unfold MeshPacket.isFromUs at hfrom
      rw [hf, hfrom, if_neg hne, if_neg Bool.false_ne_true, ← hf]
      rfl
    refine Or.inr ⟨hfrom, hc.1.1.1.2, ?_⟩
    rw [← hsent]
    split_ifs
    · exact send_copies
    · exact sendNextHop_copies
  · exact Or.inl (List.Subperm.refl _)

theorem cancelSending_copies (from' id : UInt32) : (n.cancelSending from' id).copies <+~ n.copies := by
  unfold cancelSending
  dsimp only
  split_ifs
  · exact remove_subperm
  · exact List.Subperm.refl _

theorem perhapsCancelDupe_copies (now worst : UInt32) :
    (n.perhapsCancelDupe p now worst).copies <+~ n.copies := by
  unfold perhapsCancelDupe
  dsimp only
  split_ifs
  · exact (clampToLateRebroadcastWindow_copies ..).trans (cancelSending_copies ..)
  · exact cancelSending_copies ..
  · exact clampToLateRebroadcastWindow_copies ..
  · exact List.Subperm.refl _

theorem cancelSending_nodeNum (from' id : UInt32) : (n.cancelSending from' id).nodeNum = n.nodeNum := by
  unfold cancelSending
  dsimp only
  split_ifs <;> rfl

theorem perhapsCancelDupe_nodeNum (now worst : UInt32) :
    (n.perhapsCancelDupe p now worst).nodeNum = n.nodeNum := by
  unfold perhapsCancelDupe
  dsimp only
  split_ifs
  · exact cancelSending_nodeNum ..
  · exact cancelSending_nodeNum ..
  · rfl
  · rfl

/-! ### Receptions -/

/-- A relay of the packet is the only copy that comes to the queue. -/
def Relays (n : FloodingRouter) (p : MeshPacket) (m : FloodingRouter) : Prop :=
  p.isFromUs n.nodeNum = false ∧ 0 < p.hopLimit ∧ m.copies <+~ (n.tosend p).routed :: n.copies

/-- A relay of the packet comes to the queue in place of another copy of it. -/
def Swaps (n : FloodingRouter) (p : MeshPacket) (m : FloodingRouter) : Prop :=
  p.isFromUs n.nodeNum = false ∧ 0 < p.hopLimit ∧
    ∃ x l, n.copies.Perm (x :: l) ∧ x.key n.nodeNum = p.key n.nodeNum ∧ m.copies <+~ (n.tosend p).routed :: l

theorem perhapsRebroadcast_cases :
    (n.perhapsRebroadcast p e).1.copies <+~ n.copies ∨ n.Relays p (n.perhapsRebroadcast p e).1 :=
  perhapsRebroadcast_copies

theorem outdated_key {x : Queued} (h : n.outdated p = some x) : x.packet.key n.nodeNum = p.key n.nodeNum := by
  have hw := List.find?_some h
  unfold wanted at hw
  simp only [Bool.and_eq_true, decide_eq_true_eq] at hw
  exact Prod.ext hw.1.1.1 hw.1.1.2

theorem perhapsHandleUpgradedPacket_cases :
    (n.perhapsHandleUpgradedPacket p e).1.copies <+~ n.copies ∨
      n.Swaps p (n.perhapsHandleUpgradedPacket p e).1 := by
  unfold perhapsHandleUpgradedPacket
  split_ifs with hc
  · simp only [Bool.and_eq_true] at hc
    obtain ⟨x, hx⟩ := Option.isSome_iff_exists.mp hc.2
    have hout : n.copies.Perm (x.packet.routed ::
        (n.txQueue.removePendingTXPacket n.nodeNum (p.getFrom n.nodeNum) p.id p.hopLimit).copies) :=
      remove_copies hx
    dsimp only
    rcases @perhapsRebroadcast_copies { n with
        txQueue := n.txQueue.removePendingTXPacket n.nodeNum (p.getFrom n.nodeNum) p.id p.hopLimit } p e with
      h | ⟨hfrom, hhop, h⟩
    · exact Or.inl (h.trans (List.subperm_cons_self.trans hout.symm.subperm))
    · exact Or.inr ⟨hfrom, hhop, _, _, hout, outdated_key hx, h⟩
  · exact Or.inl (List.Subperm.refl _)

theorem perhapsHandleUpgradedPacket_false (h : (n.perhapsHandleUpgradedPacket p e).2 = false) :
    (n.perhapsHandleUpgradedPacket p e).1 = n := by
  unfold perhapsHandleUpgradedPacket at h ⊢
  split_ifs at h ⊢
  rfl

theorem perhapsHandleUpgradedPacket_nodeNum : (n.perhapsHandleUpgradedPacket p e).1.nodeNum = n.nodeNum := by
  unfold perhapsHandleUpgradedPacket
  split_ifs
  · exact perhapsRebroadcast_nodeNum
  · rfl

theorem handleDupe_cases (e : Reception) :
    (n.handleDupe p e).copies <+~ n.copies ∨ p.isRepeated = true ∧ n.Relays p (n.handleDupe p e) := by
  unfold handleDupe
  split_ifs with hrep hfind
  · exact Or.inl (List.Subperm.refl _)
  · exact perhapsRebroadcast_cases.imp_right fun h => ⟨hrep, h⟩
  · exact Or.inl (perhapsCancelDupe_copies ..)

theorem handleDupe_nodeNum (e : Reception) : (n.handleDupe p e).nodeNum = n.nodeNum := by
  unfold handleDupe
  split_ifs
  · rfl
  · exact perhapsRebroadcast_nodeNum
  · exact perhapsCancelDupe_nodeNum ..

/-- What a reception adds to the queue: nothing, or a relay of a packet that is new or repeated by its
originator, or a relay in place of another. -/
theorem receive_cases (hid : p.id ≠ 0) (e : Reception) :
    (n.receive p e).copies <+~ n.copies ∨
    ((n.history.find (p.key n.nodeNum).1 (p.key n.nodeNum).2).isSome = true → p.isRepeated = true) ∧
      n.Relays p (n.receive p e) ∨
    n.Swaps p (n.receive p e) := by
  unfold receive shouldFilterReceived
  rw [wasSeenRecently_eq hid]
  dsimp only
  generalize n.history.find (p.key n.nodeNum).1 (p.key n.nodeNum).2 = found
  generalize (if true = true then _ else n.history : PacketHistory) = h'
  have hup := @perhapsHandleUpgradedPacket_cases { n with history := h' } p e.sending
  have hno := @perhapsHandleUpgradedPacket_false { n with history := h' } p e.sending
  cases hu : found.any fun r => decide (r.hopLimit < p.hopLimit) with
  | true =>
    rw [if_pos rfl]
    by_cases hdone : (perhapsHandleUpgradedPacket { n with history := h' } p e.sending).2 = true
    · rw [if_pos hdone]
      exact hup.imp_right Or.inr
    · rw [if_neg hdone, hno (Bool.eq_false_iff.mpr hdone)]
      obtain ⟨r, rfl⟩ : ∃ r, found = some r := Option.isSome_iff_exists.mp (by
        cases found with
        | none => exact hu
        | some r => rfl)
      rw [Option.isSome_some, if_pos rfl]
      exact (@handleDupe_cases { n with history := h' } p e).imp_right fun h => Or.inl ⟨fun _ => h.1, h.2⟩
  | false =>
    rw [if_neg Bool.false_ne_true, if_neg Bool.false_ne_true]
    cases found with
    | some r =>
      rw [Option.isSome_some, if_pos rfl]
      exact (@handleDupe_cases { n with history := h' } p e).imp_right fun h => Or.inl ⟨fun _ => h.1, h.2⟩
    | none =>
      rw [Option.isSome_none, if_neg Bool.false_ne_true]
      dsimp only
      split_ifs
      · exact (@perhapsRebroadcast_cases { n with history := h' } p e.sending).imp_right fun h =>
          Or.inl ⟨fun h => h.elim, h⟩
      · exact Or.inl (List.Subperm.refl _)

theorem receive_nodeNum (e : Reception) : (n.receive p e).nodeNum = n.nodeNum := by
  have hup := fun h' => @perhapsHandleUpgradedPacket_nodeNum { n with history := h' } p e.sending
  have hdupe := fun m : FloodingRouter => @handleDupe_nodeNum m p e
  have hre := fun m : FloodingRouter => @perhapsRebroadcast_nodeNum m p e.sending
  unfold receive shouldFilterReceived
  dsimp only
  split_ifs <;> simp only [hup, hdupe, hre]

end FloodingRouter
end MonsterMesh
