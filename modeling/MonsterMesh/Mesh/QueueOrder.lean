import MonsterMesh.Mesh.PacketQueue

/-! The transmit queue is ordered, bounded and loses nothing. -/
namespace MonsterMesh

open Sorted Walk

namespace MeshPacketQueue

variable {nodeNum : UInt32} {q : MeshPacketQueue} {x y : Queued} {p : MeshPacket} {ticket : ℕ}

/-! ### The order -/

/-- What the queue is sorted by: lateness, then priority, then who sent the packet. -/
def rank (nodeNum : UInt32) (p : MeshPacket) : ℕ :=
  (if p.txAfter = 0 then 0 else 512) + 2 * (255 - p.priority.toNat) +
    if p.isFromUs nodeNum then 1 else 0

theorem compare_iff {p₁ p₂ : MeshPacket} :
    compareMeshPacketFunc nodeNum p₁ p₂ = true ↔ rank nodeNum p₁ < rank nodeNum p₂ := by
  have h₁ := p₁.priority.toNat_lt
  have h₂ := p₂.priority.toNat_lt
  have heq := UInt8.toNat_inj (a := p₁.priority) (b := p₂.priority)
  have hlt := UInt8.lt_iff_toNat_lt (a := p₂.priority) (b := p₁.priority)
  unfold compareMeshPacketFunc rank
  by_cases hl₁ : p₁.txAfter = 0 <;> by_cases hl₂ : p₂.txAfter = 0 <;>
    by_cases hp : p₁.priority = p₂.priority <;> cases p₁.isFromUs nodeNum <;>
      cases p₂.isFromUs nodeNum <;> simp_all <;> omega

theorem before_iff : before nodeNum x y = true ↔ rank nodeNum x.packet < rank nodeNum y.packet :=
  compare_iff

theorem before_false : before nodeNum x y = false ↔ rank nodeNum y.packet ≤ rank nodeNum x.packet := by
  rw [← Bool.not_eq_true, before_iff, not_lt]

/-- The place of `x` before `y`: by the comparison, and by insertion where it makes no difference. -/
def Before (nodeNum : UInt32) (x y : Queued) : Prop :=
  before nodeNum x y = true ∨ before nodeNum y x = false ∧ x.order < y.order

theorem Before.rank_le (h : Before nodeNum x y) : rank nodeNum x.packet ≤ rank nodeNum y.packet := by
  rcases h with h | h
  · exact Nat.le_of_lt (before_iff.mp h)
  · exact before_false.mp h.1

/-- The queue is sorted, and its insertions are older than the next. -/
structure Ordered (nodeNum : UInt32) (q : MeshPacketQueue) : Prop where
  sorted : q.queue.Pairwise (Before nodeNum)
  older : ∀ x ∈ q.queue, x.order < q.insertions

theorem put_ordered (h : q.Ordered nodeNum) : (q.put nodeNum ticket p).Ordered nodeNum := by
  refine ⟨place_pairwise h.sorted (fun a b hab ha => ?_) (fun y hy hxy => ?_) (fun y _ hxy => Or.inl hxy),
    fun x hx => ?_⟩
  · exact before_iff.mpr (lt_of_lt_of_le (before_iff.mp ha) hab.rank_le)
  · exact Or.inr ⟨hxy, h.older y hy⟩
  · rcases List.mem_cons.mp (place_perm.mem_iff.mp hx) with rfl | hx
    · exact Nat.lt_succ_self _
    · exact Nat.lt_succ_of_lt (h.older x hx)

/-- A queue with fewer packets, in the same order. -/
theorem Ordered.sublist {l : List Queued} (h : q.Ordered nodeNum) (hl : l.Sublist q.queue) :
    { q with queue := l }.Ordered nodeNum :=
  ⟨h.sorted.sublist hl, fun x hx => h.older x (hl.subset hx)⟩

/-! ### Eviction -/

theorem late_false : late x = false ↔ x.packet.txAfter = 0 := by
  unfold late
  rw [decide_eq_false_iff_not, not_not]

theorem replaceable_iff : replaceable p x = true ↔ late x = false ∧ x.packet.priority < p.priority := by
  unfold replaceable
  rw [Bool.and_eq_true, Bool.not_eq_true', decide_eq_true_eq]

/-- Before a packet that is not late all are so, and none has a lower priority. -/
theorem Before.late_false (h : Before nodeNum x y) (hy : late y = false) :
    late x = false ∧ y.packet.priority ≤ x.packet.priority := by
  have hr := h.rank_le
  have hpx := x.packet.priority.toNat_lt
  have hpy := y.packet.priority.toNat_lt
  rw [MeshPacketQueue.late_false] at hy ⊢
  rw [UInt8.le_iff_toNat_le]
  unfold rank at hr
  rw [if_pos hy] at hr
  split_ifs at hr with hx <;> first | exact ⟨hx, by omega⟩ | omega

theorem walk_spec (l : List Queued) (k : ℕ) : walk l k ≤ k ∧
    (∀ j, walk l k < j → j ≤ k → (l[j]?).any late = true) ∧
      (walk l k = 0 ∨ (l[walk l k]?).any late = false) := by
  induction k with
  | zero => exact ⟨le_rfl, fun j hj hk => absurd hk (not_le_of_gt hj), Or.inl rfl⟩
  | succ k ih =>
    rw [walk]
    split_ifs with hlate
    · refine ⟨Nat.le_succ_of_le ih.1, fun j hj hk => ?_, ih.2.2⟩
      rcases Nat.le_succ_iff.mp hk with hk | rfl
      · exact ih.2.1 j hj hk
      · exact hlate
    · exact ⟨le_rfl, fun j hj hk => absurd hk (not_le_of_gt hj),
        Or.inr (Bool.eq_false_iff.mpr hlate)⟩

/-- The packet at place `i` is the last that may be thrown out for `p`. -/
def LastReplaceable (p : MeshPacket) (l : List Queued) (i : ℕ) : Prop :=
  ∃ l₁ v l₂, l = l₁ ++ v :: l₂ ∧ l₁.length = i ∧ replaceable p v = true ∧
    ∀ x ∈ l₂, replaceable p x = false

theorem lastReplaceable_of {l : List Queued} {i : ℕ} (hi : (l[i]?).any (replaceable p) = true)
    (h : ∀ j, i < j → j < l.length → (l[j]?).any late = true) : LastReplaceable p l i := by
  have hlt : i < l.length := by
    by_contra hge
    rw [List.getElem?_eq_none (not_lt.mp hge)] at hi
    cases hi
  rw [List.getElem?_eq_getElem hlt, Option.any_some] at hi
  have hsplit : l = l.take i ++ l[i] :: l.drop (i + 1) := by
    rw [← List.drop_eq_getElem_cons hlt, List.take_append_drop]
  refine ⟨l.take i, l[i], l.drop (i + 1), hsplit, List.length_take_of_le (Nat.le_of_lt hlt), hi,
    fun x hx => ?_⟩
  obtain ⟨j, hj, rfl⟩ := List.mem_drop_iff_getElem.mp hx
  have hlate := h (i + 1 + j) (by omega) (by omega)
  rw [List.getElem?_eq_getElem (by omega), Option.any_some] at hlate
  unfold replaceable
  rw [hlate]
  rfl

/-- No packet before one that is not late and not thrown out is thrown out. -/
theorem not_replaceable_before (h : Before nodeNum x y) (hy : late y = false)
    (hr : replaceable p y = false) : replaceable p x = false := by
  rw [← Bool.not_eq_true, replaceable_iff] at hr ⊢
  rintro ⟨_, hx⟩
  exact hr ⟨hy, UInt8.lt_of_le_of_lt (h.late_false hy).2 hx⟩

/-- `replaceLowerPriorityPacket` finds the last packet that may be thrown out, if there is any. -/
theorem victim_spec (h : q.Ordered nodeNum) (p : MeshPacket) :
    (∃ i, q.victim p = some i ∧ LastReplaceable p q.queue i) ∨
      q.victim p = none ∧ ∀ x ∈ q.queue, replaceable p x = false := by
  have hsorted := h.sorted
  unfold victim
  cases hback : q.queue.getLast? with
  | none =>
    rw [List.getLast?_eq_none_iff.mp hback]
    exact Or.inr ⟨rfl, fun x hx => absurd hx List.not_mem_nil⟩
  | some back =>
    obtain ⟨init, hq⟩ := List.getLast?_eq_some_iff.mp hback
    have hlast : q.queue[q.queue.length - 1]? = some back := by
      rw [← List.getLast?_eq_getElem?, hback]
    dsimp only
    by_cases hr : replaceable p back = true
    · rw [if_pos hr]
      refine Or.inl ⟨_, rfl, lastReplaceable_of ?_ fun j hj hlt => ?_⟩
      · rw [hlast]
        exact hr
      · omega
    rw [if_neg hr]
    by_cases hlate : late back = true
    · rw [if_pos hlate]
      obtain ⟨hle, hafter, hat⟩ := walk_spec q.queue (q.queue.length - 1)
      generalize walk q.queue (q.queue.length - 1) = it at hle hafter hat ⊢
      by_cases hit : (q.queue[it]?).any (replaceable p) = true
      · rw [if_pos hit]
        exact Or.inl ⟨it, rfl, lastReplaceable_of hit fun j hj hlt => hafter j hj (by omega)⟩
      · rw [if_neg hit]
        refine Or.inr ⟨rfl, fun x hx => ?_⟩
        obtain ⟨j, hj, rfl⟩ := List.mem_iff_getElem.mp hx
        have hlt : it < q.queue.length := by omega
        rw [List.getElem?_eq_getElem hlt, Option.any_some] at hit hat
        rcases lt_trichotomy it j with hij | rfl | hij
        · have hl := hafter j hij (by omega)
          rw [List.getElem?_eq_getElem hj, Option.any_some] at hl
          unfold replaceable
          rw [hl]
          rfl
        · exact Bool.eq_false_iff.mpr hit
        · refine not_replaceable_before (List.pairwise_iff_getElem.mp hsorted j it hj hlt hij)
            (hat.resolve_left (by omega)) (Bool.eq_false_iff.mpr hit)
    · rw [if_neg hlate]
      refine Or.inr ⟨rfl, fun x hx => ?_⟩
      rw [hq] at hx hsorted
      rcases List.mem_append.mp hx with hx | hx
      · exact not_replaceable_before ((List.pairwise_append.mp hsorted).2.2 x hx back
          (List.mem_singleton_self back)) (Bool.eq_false_iff.mpr hlate) (Bool.eq_false_iff.mpr hr)
      · rw [List.mem_singleton.mp hx]
        exact Bool.eq_false_iff.mpr hr

/-! ### Enqueueing -/

/-- A full queue, into which `p` is put in place of the last packet of lower priority. -/
theorem enqueue_full (h : q.Ordered nodeNum) (hb : q.queue.length ≤ q.maxLen)
    (hfull : q.maxLen ≤ q.queue.length) (ticket : ℕ) (p : MeshPacket) :
    (∃ l₁ v l₂, q.queue = l₁ ++ v :: l₂ ∧ replaceable p v = true ∧ (∀ x ∈ l₂, replaceable p x = false) ∧
      q.enqueue nodeNum ticket p = ⟨true, true, { q with queue := l₁ ++ l₂ }.put nodeNum ticket p, [v]⟩) ∨
    (∀ x ∈ q.queue, replaceable p x = false) ∧ q.enqueue nodeNum ticket p = ⟨false, true, q, []⟩ := by
  unfold enqueue
  rw [enqueueWithin, if_pos hfull]
  rcases victim_spec h p with ⟨i, hv, l₁, v, l₂, hq, rfl, hr, hl₂⟩ | ⟨hv, hnone⟩
  · refine Or.inl ⟨l₁, v, l₂, hq, hr, hl₂, ?_⟩
    rw [hv]
    dsimp only
    have hget : q.queue[l₁.length]? = some v := by
      rw [hq, List.getElem?_append_right (le_refl _), Nat.sub_self]
      rfl
    have herase : q.queue.eraseIdx l₁.length = l₁ ++ l₂ := by
      rw [hq, List.eraseIdx_append_of_length_le (le_refl _), Nat.sub_self]
      rfl
    have hlen : q.queue.length = (l₁ ++ l₂).length + 1 := by
      rw [hq, List.length_append, List.length_append, List.length_cons]
      omega
    rw [hget, herase, hlen, enqueueWithin, if_neg (by dsimp only; omega)]
    rfl
  · refine Or.inr ⟨hnone, ?_⟩
    rw [hv]

theorem enqueue_free (hfree : q.queue.length < q.maxLen) (ticket : ℕ) (p : MeshPacket) :
    q.enqueue nodeNum ticket p = ⟨true, false, q.put nodeNum ticket p, []⟩ := by
  unfold enqueue
  rw [enqueueWithin, if_neg (not_le.mpr hfree)]

theorem put_tickets (q : MeshPacketQueue) :
    ((q.put nodeNum ticket p).queue.map Queued.ticket).Perm (ticket :: q.queue.map Queued.ticket) :=
  place_perm.map Queued.ticket

/-! ### Removal -/

/-- A packet that is removed is taken out of its place. -/
theorem remove_splits {w : Wanted} (h : (q.remove nodeNum w).1 = some x) :
    ∃ l₁ l₂, q.queue = l₁ ++ x :: l₂ ∧ (q.remove nodeNum w).2 = { q with queue := l₁ ++ l₂ } := by
  obtain ⟨hx, l₁, l₂, hq, hl₁⟩ := List.find?_eq_some_iff_append.mp h
  refine ⟨l₁, l₂, hq, ?_⟩
  unfold remove
  rw [hq, List.eraseP_append_right _ fun y hy => by simpa using hl₁ y hy, List.eraseP_cons_of_pos hx]

theorem remove_none {w : Wanted} (h : (q.remove nodeNum w).1 = none) : (q.remove nodeNum w).2 = q := by
  unfold remove at h ⊢
  rw [List.eraseP_of_forall_not fun y hy => by simpa using List.find?_eq_none.mp h y hy]

end MeshPacketQueue

namespace TxQueue

open MeshPacketQueue

variable {nodeNum : UInt32} {maxLen : ℕ} {s : TxQueue}

/-- Every packet accepted is in the queue, or was dequeued, removed or thrown out, and only one of
these. -/
def Conserved (s : TxQueue) : Prop :=
  (s.txQueue.queue.map Queued.ticket ++ s.dequeued ++ s.removed ++ s.evicted).Perm (List.range s.accepted)

/-- A full queue makes room for `p` by throwing out the last packet that is not late and has a lower
priority, and if there is none it stays as it is. -/
def Evicts (nodeNum : UInt32) (s : TxQueue) (p : MeshPacket) : Prop :=
  (∃ l₁ v l₂, s.txQueue.queue = l₁ ++ v :: l₂ ∧ replaceable p v = true ∧
      (∀ x ∈ l₂, replaceable p x = false) ∧ s.txQueue.enqueue nodeNum s.accepted p =
        ⟨true, true, { s.txQueue with queue := l₁ ++ l₂ }.put nodeNum s.accepted p, [v]⟩) ∨
    (∀ x ∈ s.txQueue.queue, replaceable p x = false) ∧
      s.txQueue.enqueue nodeNum s.accepted p = ⟨false, true, s.txQueue, []⟩

/-- What holds of the queue at any time. -/
structure Kept (nodeNum : UInt32) (maxLen : ℕ) (s : TxQueue) : Prop where
  capacity : s.txQueue.maxLen = maxLen
  ordered : s.txQueue.Ordered nodeNum
  bounded : s.txQueue.queue.length ≤ maxLen
  conserved : s.Conserved

theorem start_kept : (start maxLen).Kept nodeNum maxLen :=
  ⟨rfl, ⟨List.Pairwise.nil, fun _ hx => absurd hx List.not_mem_nil⟩, Nat.zero_le _, List.Perm.refl _⟩

theorem Kept.evicts (h : s.Kept nodeNum maxLen) (hfull : maxLen ≤ s.txQueue.queue.length) (p : MeshPacket) :
    Evicts nodeNum s p := by
  have hcap := h.capacity
  have hb := h.bounded
  exact enqueue_full h.ordered (by omega) (by omega) s.accepted p

/-- Counting says the same as `Conserved`. -/
theorem conserved_iff : s.Conserved ↔ ∀ t, (s.txQueue.queue.map Queued.ticket).count t +
    s.dequeued.count t + s.removed.count t + s.evicted.count t = (List.range s.accepted).count t := by
  unfold Conserved
  rw [List.perm_iff_count]
  simp only [List.count_append]

theorem enqueue_kept (h : s.Kept nodeNum maxLen) (p : MeshPacket) :
    (s.enqueue nodeNum p).Kept nodeNum maxLen := by
  have hcap := h.capacity
  have hb := h.bounded
  have hcons := conserved_iff.mp h.conserved
  unfold enqueue
  by_cases hfull : maxLen ≤ s.txQueue.queue.length
  · rcases h.evicts hfull p with ⟨l₁, v, l₂, hq, _, _, he⟩ | ⟨_, he⟩
    · rw [he]
      have hsub : (l₁ ++ l₂).Sublist s.txQueue.queue := by
        rw [hq]
        exact (List.Sublist.refl l₁).append (List.sublist_cons_self v l₂)
      refine ⟨hcap, put_ordered (h.ordered.sublist hsub), ?_, conserved_iff.mpr fun t => ?_⟩
      · show (place _ _ (l₁ ++ l₂)).length ≤ maxLen
        rw [length_place, List.length_append]
        rw [hq, List.length_append, List.length_cons] at hb
        omega
      · have ht := hcons t
        have hp := List.perm_iff_count.mp (@put_tickets nodeNum p s.accepted
          { s.txQueue with queue := l₁ ++ l₂ }) t
        rw [hq] at ht
        simp only [List.map_append, List.map_cons, List.map_nil, List.count_append, List.count_cons,
          List.count_nil, if_true, List.range_succ] at ht hp ⊢
        omega
    · rw [he]
      refine ⟨hcap, h.ordered, hb, conserved_iff.mpr fun t => ?_⟩
      have ht := hcons t
      simpa using ht
  · rw [enqueue_free (by omega)]
    refine ⟨hcap, put_ordered h.ordered, ?_, conserved_iff.mpr fun t => ?_⟩
    · show (place _ _ s.txQueue.queue).length ≤ maxLen
      rw [length_place]
      omega
    · have ht := hcons t
      have hp := List.perm_iff_count.mp (@put_tickets nodeNum p s.accepted
        s.txQueue) t
      simp only [List.map_nil, List.append_nil, List.count_append, List.count_cons, List.count_nil, if_true,
        List.range_succ] at ht hp ⊢
      omega

theorem remove_kept (h : s.Kept nodeNum maxLen) (w : Wanted) :
    (s.remove nodeNum w).Kept nodeNum maxLen := by
  have hb := h.bounded
  have hcons := conserved_iff.mp h.conserved
  unfold remove
  cases hx : (s.txQueue.remove nodeNum w).1 with
  | none =>
    rw [remove_none hx]
    refine ⟨h.capacity, h.ordered, hb, conserved_iff.mpr fun t => ?_⟩
    simpa using hcons t
  | some x =>
    obtain ⟨l₁, l₂, hq, hr⟩ := remove_splits hx
    rw [hr]
    have hsub : (l₁ ++ l₂).Sublist s.txQueue.queue := by
      rw [hq]
      exact (List.Sublist.refl l₁).append (List.sublist_cons_self x l₂)
    refine ⟨h.capacity, h.ordered.sublist hsub, hsub.length_le.trans hb, conserved_iff.mpr fun t => ?_⟩
    have ht := hcons t
    rw [hq] at ht
    simp only [List.map_append, List.map_cons, List.map_nil, List.count_append, List.count_cons,
      List.count_nil, Option.toList_some] at ht ⊢
    omega

theorem dequeue_kept (h : s.Kept nodeNum maxLen) : s.dequeue.Kept nodeNum maxLen := by
  have hcons := conserved_iff.mp h.conserved
  have hsub : s.txQueue.queue.tail.Sublist s.txQueue.queue := List.tail_sublist _
  refine ⟨h.capacity, h.ordered.sublist hsub, hsub.length_le.trans h.bounded, conserved_iff.mpr fun t => ?_⟩
  have ht := hcons t
  unfold dequeue MeshPacketQueue.dequeue
  dsimp only
  cases hq : s.txQueue.queue with
  | nil =>
    rw [hq] at ht
    simpa using ht
  | cons x rest =>
    rw [hq] at ht
    simp only [List.map_cons, List.map_nil, List.count_append, List.count_cons, List.count_nil,
      Option.toList_some, List.head?_cons, List.tail_cons] at ht ⊢
    omega

/-- A late packet stays late or, when its time wraps to 0, is none any more. -/
theorem rank_delayed (d : TxDelays) (p : MeshPacket) : rank nodeNum (delayed d p) ≤ rank nodeNum p := by
  unfold delayed
  by_cases hl : p.txAfter = 0
  · rw [if_neg (not_not.mpr hl)]
  · rw [if_pos hl]
    have hu : MeshPacket.isFromUs { p with
        txAfter := min (max (p.txAfter + d.addDelay) (d.now + d.addDelay)) (d.now + 2 * d.worst) } nodeNum =
        p.isFromUs nodeNum := rfl
    unfold rank
    rw [hu, if_neg hl]
    dsimp only
    split_ifs <;> omega

/-- The packet at the front stays before the others, whatever time it is given. -/
theorem setTransmitDelay_kept (h : s.Kept nodeNum maxLen) (d : TxDelays) :
    (s.setTransmitDelay d).Kept nodeNum maxLen := by
  have hcons := conserved_iff.mp h.conserved
  have hsorted := h.ordered.sorted
  have holder := h.ordered.older
  have hb := h.bounded
  unfold setTransmitDelay
  cases hq : s.txQueue.queue with
  | nil => exact h
  | cons x rest =>
    rw [hq] at hsorted holder hb
    obtain ⟨hx, hrest⟩ := List.pairwise_cons.mp hsorted
    refine ⟨h.capacity, ⟨List.pairwise_cons.mpr ⟨fun y hy => ?_, hrest⟩, fun y hy => ?_⟩, hb,
      conserved_iff.mpr fun t => ?_⟩
    · have hle := @rank_delayed nodeNum d x.packet
      exact (hx y hy).imp (fun h => before_iff.mpr (lt_of_le_of_lt hle (before_iff.mp h)))
        fun h => ⟨before_false.mpr (le_trans hle (before_false.mp h.1)), h.2⟩
    · rcases List.mem_cons.mp hy with rfl | hy
      · exact holder x (List.mem_cons_self ..)
      · exact holder y (List.mem_cons_of_mem x hy)
    · have ht := hcons t
      rw [hq] at ht
      exact ht

theorem clampToLateRebroadcastWindow_kept (h : s.Kept nodeNum maxLen) (from' id now worst : UInt32) :
    (s.clampToLateRebroadcastWindow nodeNum from' id now worst).Kept nodeNum maxLen := by
  have hcap := h.capacity
  have hb := h.bounded
  have hcons := conserved_iff.mp h.conserved
  unfold clampToLateRebroadcastWindow
  dsimp only
  cases hx : (s.txQueue.remove nodeNum ⟨from', id, true, false, 0⟩).1 with
  | none => exact h
  | some x =>
    obtain ⟨l₁, l₂, hq, hr⟩ := remove_splits hx
    have hlen : s.txQueue.queue.length = (l₁ ++ l₂).length + 1 := by
      rw [hq, List.length_append, List.length_append, List.length_cons]
      omega
    have hsub : (l₁ ++ l₂).Sublist s.txQueue.queue := by
      rw [hq]
      exact (List.Sublist.refl l₁).append (List.sublist_cons_self x l₂)
    -- The packet that was taken out left room for itself.
    rw [hr]
    dsimp only
    rw [enqueue_free (q := { s.txQueue with queue := l₁ ++ l₂ }) (by dsimp only; omega)]
    refine ⟨hcap, put_ordered (h.ordered.sublist hsub), ?_, conserved_iff.mpr fun t => ?_⟩
    · show (place _ _ (l₁ ++ l₂)).length ≤ maxLen
      rw [length_place]
      omega
    · have ht := hcons t
      have hp := List.perm_iff_count.mp (@put_tickets nodeNum
        { x.packet with txAfter := now + worst } x.ticket { s.txQueue with queue := l₁ ++ l₂ }) t
      rw [hq] at ht
      simp only [List.map_append, List.map_cons, List.map_nil, List.append_nil, List.count_append,
        List.count_cons, List.count_nil, if_true] at ht hp ⊢
      omega

theorem step_kept (h : s.Kept nodeNum maxLen) (call : Call) : (s.step nodeNum call).Kept nodeNum maxLen := by
  cases call with
  | enqueue p => exact enqueue_kept h p
  | dequeue => exact dequeue_kept h
  | remove w => exact remove_kept h w
  | setTransmitDelay d => exact setTransmitDelay_kept h d
  | clampToLateRebroadcastWindow from' id now worst =>
    exact clampToLateRebroadcastWindow_kept h from' id now worst
  | removePendingTXPacket from' id hopLimitLt => exact remove_kept h _

/-- After any calls the queue is sorted with insertion order among equivalent packets, is no longer
than it may be, has lost no packet, and when full makes room as it should. -/
theorem run_kept (nodeNum : UInt32) (maxLen : ℕ) (calls : List Call) :
    (run (step nodeNum) (start maxLen) calls).Kept nodeNum maxLen ∧
      ∀ p, (run (step nodeNum) (start maxLen) calls).txQueue.queue.length = maxLen →
        Evicts nodeNum (run (step nodeNum) (start maxLen) calls) p := by
  have h : (run (step nodeNum) (start maxLen) calls).Kept nodeNum maxLen :=
    run_keeps (fun _ call h => step_kept h call) start_kept
  exact ⟨h, fun p hfull => h.evicts (Nat.le_of_eq hfull.symm) p⟩

end TxQueue
end MonsterMesh
