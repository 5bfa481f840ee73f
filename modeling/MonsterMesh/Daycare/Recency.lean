import MonsterMesh.Daycare.Places

/-! Who makes room, who is forgotten and whose arrival is noticed: when the 32-bit times tell the truth. -/
namespace MonsterMesh

/-! ### Stamps and moments -/

namespace Instant

variable {s t now seen : Instant}

theorem toNat_millis (t : Instant) : t.millis.toNat = t.up % 2 ^ 32 := UInt32.toNat_ofNat'

/-- `s` lies in an earlier round of the millisecond count than `t`, or in the same one. -/
def RoundLe (s t : Instant) : Prop := s.boot < t.boot ∨ s.boot = t.boot ∧ s.round ≤ t.round

/-- A lesser stamp is an earlier moment exactly when it is of no later round. -/
theorem le_iff_roundLe (h : s.millis.toNat ≤ t.millis.toNat) : s ≤ t ↔ RoundLe s t := by
  rw [toNat_millis, toNat_millis] at h
  change s.boot < t.boot ∨ s.boot = t.boot ∧ s.up ≤ t.up ↔
    s.boot < t.boot ∨ s.boot = t.boot ∧ s.up / 2 ^ 32 ≤ t.up / 2 ^ 32
  have hs := Nat.div_add_mod s.up (2 ^ 32)
  have ht := Nat.div_add_mod t.up (2 ^ 32)
  omega

/-- More than the timeout has passed. -/
def Stale (now seen : Instant) : Prop := seen.up + neighborTimeoutMs.toNat < now.up

instance : Decidable (Stale now seen) := inferInstanceAs (Decidable (_ < _))

/-- The time was not taken before the sight, but for what a whole round hides, and the age has not
come round to a small one. -/
def Timely (now seen : Instant) : Prop :=
  (now.up < seen.up →
    (seen.up - now.up) % 2 ^ 32 = 0 ∨ 2 ^ 32 ≤ (seen.up - now.up) % 2 ^ 32 + neighborTimeoutMs.toNat) ∧
  (2 ^ 32 ≤ now.up - seen.up → neighborTimeoutMs.toNat < (now.up - seen.up) % 2 ^ 32)

/-- The 32-bit difference tells whether the timeout has passed exactly for timely times. -/
theorem stale_iff_timely :
    (neighborTimeoutMs < now.millis - seen.millis ↔ Stale now seen) ↔ Timely now seen := by
  have hd : (now.millis - seen.millis).toNat = (2 ^ 32 - seen.up % 2 ^ 32 + now.up % 2 ^ 32) % 2 ^ 32 := by
    rw [UInt32.toNat_sub, toNat_millis, toNat_millis]
  have hT : neighborTimeoutMs.toNat = 7200000 := rfl
  unfold Stale Timely
  rw [UInt32.lt_iff_toNat_lt, hd, hT]
  omega

end Instant

/-! ### Eviction -/

/-- The entry of least stamp is the one seen first exactly when no entry is of an earlier round. -/
theorem least_first_iff {α : Type} (t : Slots α) (seen : α → Instant) :
    (∀ j < t.count, seen (t.slot (t.least (fun a => (seen a).millis.toNat) uint32Max)) ≤ seen (t.slot j)) ↔
      ∀ j < t.count,
        Instant.RoundLe (seen (t.slot (t.least (fun a => (seen a).millis.toNat) uint32Max)))
          (seen (t.slot j)) := by
  refine forall_congr' fun j => imp_congr_right fun hj => Instant.le_iff_roundLe ?_
  exact Slots.least_le (fun a => (seen a).millis.toNat) (fun a => NeighborTable.millis_le (seen a)) hj

namespace NeighborTable

variable {t : NeighborTable} {now : Instant} {id : UInt32}

/-- A node that is not in the full table takes the place of an entry seen no later than any other. -/
def EvictsOldest (t : NeighborTable) (id : UInt32) : Prop :=
  t.findNode id = none → maxNeighbors ≤ t.count →
    ∀ j < t.count, (t.slot (t.placeFor id).2).lastSeen ≤ (t.slot j).lastSeen

/-- The least stamp of the full table is of the earliest round in it. -/
def OneRound (t : NeighborTable) (id : UInt32) : Prop :=
  t.findNode id = none → maxNeighbors ≤ t.count →
    ∀ j < t.count, Instant.RoundLe (t.slot t.oldest).lastSeen (t.slot j).lastSeen

theorem evictsOldest_iff : t.EvictsOldest id ↔ t.OneRound id := by
  unfold EvictsOldest OneRound
  refine imp_congr_right fun hf => imp_congr_right fun hc => ?_
  have hp : (t.placeFor id).2 = t.oldest := by
    rcases placeFor_cases t id with ⟨i, h, -⟩ | ⟨-, h, -⟩ | ⟨-, -, h⟩
    · exact absurd (h.symm.trans hf) nofun
    · omega
    · rw [h]
  rw [hp]
  exact least_first_iff t NeighborSlot.lastSeen

/-- Exactly the entries whose last beacon is more than the timeout old are gone. -/
def ExpiresExactly (t : NeighborTable) (now : Instant) : Prop :=
  (t.expireNeighbors now).entries = t.entries.filter fun e => !decide (now.Stale e.lastSeen)

theorem expiresExactly_iff :
    t.ExpiresExactly now ↔ ∀ e ∈ t.entries, now.Timely e.lastSeen := by
  unfold ExpiresExactly expireNeighbors
  rw [Slots.entries_removeAll]
  have hpred : ∀ e : NeighborSlot,
      ((!decide (neighborTimeoutMs < now.millis - e.lastSeen.millis)) = !decide (now.Stale e.lastSeen)) ↔
        now.Timely e.lastSeen := by
    intro e
    rw [Bool.not_inj_iff, decide_eq_decide]
    exact Instant.stale_iff_timely
  constructor
  · intro h e he
    have hm := congrArg (fun l => e ∈ l) h
    simp only [List.mem_filter, he, true_and] at hm
    exact (hpred e).mp (Bool.eq_iff_iff.mpr (iff_of_eq hm))
  · intro h
    exact List.filter_congr fun e he => (hpred e).mpr (h e he)

end NeighborTable

namespace RelationshipTable

variable {t : RelationshipTable} {now : Instant} {k : PairKey}

/-- A pair that is not in the full table takes the place of one seen no later than any other. -/
def EvictsOldest (t : RelationshipTable) (now : Instant) (k : PairKey) : Prop :=
  t.findRelationship k = none → maxRelationships ≤ t.count →
    ∀ j < t.count, (t.slot (t.getOrCreateRelationship now k).2).lastSeen ≤ (t.slot j).lastSeen

/-- The least stamp of the full table is of the earliest round in it. -/
def OneRound (t : RelationshipTable) (k : PairKey) : Prop :=
  t.findRelationship k = none → maxRelationships ≤ t.count →
    ∀ j < t.count, Instant.RoundLe (t.slot t.oldest).lastSeen (t.slot j).lastSeen

theorem evictsOldest_iff : t.EvictsOldest now k ↔ t.OneRound k := by
  unfold EvictsOldest OneRound
  refine imp_congr_right fun hf => imp_congr_right fun hc => ?_
  have hp : (t.getOrCreateRelationship now k).2 = t.oldest := by
    rcases getOrCreate_cases t now k with ⟨i, h, -⟩ | ⟨-, -, h⟩ | ⟨-, h, -⟩
    · exact absurd (h.symm.trans hf) nofun
    · rw [h]
    · omega
  rw [hp]
  exact least_first_iff t DaycareRelationship.lastSeen

end RelationshipTable

/-! ### Arrivals -/

namespace DaycareNode

open NeighborTable

variable {d : DaycareNode} {e : NodeEvent}

def nodes (d : DaycareNode) : List UInt32 := d.neighbors.entries.map nodeOf

/-- An arrival is run for each node that comes into the table, and for no other. -/
def Arrived (d : DaycareNode) (e : NodeEvent) : Prop :=
  (d.step e).arrivals = d.arrivals ++ (d.step e).nodes.filter fun id => !d.nodes.contains id

/-- No beacon of a node outside the table comes while it is full. -/
def NotCrowded (d : DaycareNode) : NodeEvent → Prop
  | .beacon b _ =>
    b.nodeId ≠ d.nodeNum → d.neighbors.findNode b.nodeId = none → d.neighbors.count < maxNeighbors
  | _ => True

theorem mem_nodes {id : UInt32} : id ∈ d.nodes ↔ d.neighbors.findNode id ≠ none := by
  rw [ne_eq, findNode_none, nodes, List.mem_map]
  constructor
  · rintro ⟨s, hs, rfl⟩ h
    exact h s hs rfl
  · intro h
    by_contra hn
    exact h fun s hs he => hn ⟨s, hs, he⟩

theorem filter_self {l l' : List UInt32} (h : ∀ id ∈ l', id ∈ l) :
    (l'.filter fun id => !l.contains id) = [] := by
  rw [List.filter_eq_nil_iff]
  intro id hid
  simp [h id hid]

/-- Without a peer's beacon no arrival is run and no node comes in. -/
theorem arrived_of_quiet (h : ∀ b m, e = .beacon b m → b.nodeId = d.nodeNum) : Arrived d e := by
  have ha : (d.step e).arrivals = d.arrivals := by
    cases e with
    | beacon b m => exact congrArg arrivals (if_pos (h b m rfl))
    | tick lag pick => exact (kept_tick d (d.taken lag) pick).1.arrivals
    | force pick => exact (kept_force d pick).1.arrivals
    | checkIn count =>
      change (d.checkIn count).arrivals = _
      unfold checkIn
      rcases d.flash with _ | st
      · rfl
      · dsimp only
        split_ifs <;> rfl
    | _ => rfl
  have hsub : ∀ id ∈ (d.step e).nodes, id ∈ d.nodes := by
    have hc := (step_change d e).2
    unfold nodes
    generalize (d.step e).neighbors = t at hc ⊢
    intro id hid
    obtain ⟨s, hs, rfl⟩ := List.mem_map.mp hid
    cases hc with
    | same _ => exact hid
    | heard b m he hb => exact absurd (h b m he) hb
    | expired lag pick he =>
      unfold expireNeighbors at hs
      rw [Slots.entries_removeAll] at hs
      exact List.mem_map_of_mem (List.mem_of_mem_filter hs)
    | emptied _ => exact absurd hs List.not_mem_nil
    | restarted _ => exact absurd hs List.not_mem_nil
  unfold Arrived
  rw [ha, filter_self hsub, List.append_nil]

theorem arrived_beacon {b : DaycareBeacon} {m : Meeting} (hb : b.nodeId ≠ d.nodeNum) :
    Arrived d (.beacon b m) ↔
      (d.neighbors.findNode b.nodeId = none → d.neighbors.count < maxNeighbors) := by
  obtain ⟨hn, -, ha⟩ := received_eq d b m hb
  have hnodes : (d.step (.beacon b m)).nodes = (d.neighbors.handleBeacon d.now b).entries.map nodeOf := by
    rw [← hn]
    rfl
  unfold Arrived
  rw [hnodes]
  change (d.handleReceived b m).arrivals = _ ↔ _
  rw [ha, List.append_right_inj, handleBeacon_eq]
  rcases placeFor_cases d.neighbors b.nodeId with ⟨i, hf, hp⟩ | ⟨hf, hc, hp⟩ | ⟨hf, hc, hp⟩
  · obtain ⟨hi, hid⟩ := findNode_some hf
    have hmem : ∀ id ∈ (d.neighbors.put i (d.neighbors.heard d.now b)).entries.map nodeOf, id ∈ d.nodes := by
      intro id h
      rw [Slots.entries_put, List.map_set, nodeOf_heard] at h
      rcases List.mem_or_eq_of_mem_set h with h | rfl
      · exact h
      · exact mem_nodes.mpr (by rw [hf]; exact Option.some_ne_none i)
    rw [hp, filter_self hmem, Slots.count_put, if_neg (Nat.lt_irrefl _), hf]
    exact ⟨fun _ h => absurd h (Option.some_ne_none i), fun _ => rfl⟩
  · have hnew : b.nodeId ∉ d.nodes := fun h => mem_nodes.mp h hf
    have hold : (d.neighbors.entries.map nodeOf).filter (fun id => !d.nodes.contains id) = [] :=
      filter_self fun id h => h
    rw [hp, Slots.entries_grow_put, List.map_append, List.filter_append, hold, Slots.count_put,
      Slots.count_grow, if_pos (Nat.lt_succ_self _), List.map_singleton, nodeOf_heard,
      List.filter_singleton]
    simp [hnew, hc]
  · have hnew : b.nodeId ∉ d.nodes := fun h => mem_nodes.mp h hf
    have hlt : d.neighbors.oldest < (d.neighbors.entries.map nodeOf).length := by
      rw [List.length_map, Slots.length_entries]
      exact Slots.least_lt (fun s => millis_le s.lastSeen) (Nat.lt_of_lt_of_le (by decide) hc)
    have hin : b.nodeId ∈ ((d.neighbors.put d.neighbors.oldest (d.neighbors.heard d.now b)).entries.map
        nodeOf).filter fun id => !d.nodes.contains id := by
      rw [List.mem_filter, Slots.entries_put, List.map_set, nodeOf_heard]
      exact ⟨List.mem_set hlt _, by simp [hnew]⟩
    rw [hp, Slots.count_put, if_neg (Nat.lt_irrefl _)]
    constructor
    · intro h
      rw [← h] at hin
      exact absurd hin List.not_mem_nil
    · intro h
      exact absurd (h hf) (Nat.not_lt.mpr hc)

theorem arrived_iff : Arrived d e ↔ NotCrowded d e := by
  cases e with
  | beacon b m =>
    by_cases hb : b.nodeId = d.nodeNum
    · have h := arrived_of_quiet (d := d) (e := .beacon b m) (by rintro _ _ ⟨⟩; exact hb)
      exact ⟨fun _ hne => absurd hb hne, fun _ => h⟩
    · rw [arrived_beacon hb]
      exact ⟨fun h _ => h, fun h => h hb⟩
  | _ => exact ⟨fun _ => trivial, fun _ => arrived_of_quiet (by rintro _ _ ⟨⟩)⟩

theorem step_boot (h : e ≠ .restart) : (d.step e).now.boot = d.now.boot := by
  cases e with
  | beacon b m =>
    change (d.handleReceived b m).now.boot = _
    unfold handleReceived triggerArrivalEvent
    dsimp only
    split_ifs <;> rfl
  | tick lag pick => exact congrArg Instant.boot (kept_tick d (d.taken lag) pick).1.now
  | force pick => exact congrArg Instant.boot (kept_force d pick).1.now
  | checkIn count =>
    change (d.checkIn count).now.boot = _
    unfold checkIn
    rcases d.flash with _ | st
    · rfl
    · dsimp only
      split_ifs <;> rfl
  | restart => exact absurd rfl h
  | _ => rfl

/-- The neighbours were all heard since the last start, so their ages are differences of `up`. -/
def OfThisBoot (d : DaycareNode) : Prop := ∀ s ∈ d.neighbors.entries, s.lastSeen.boot = d.now.boot

theorem ofThisBoot_step (hfit : d.Fits) (h : d.OfThisBoot) : (d.step e).OfThisBoot := by
  have hc := (step_change d e).2
  by_cases hr : e = .restart
  · subst hr
    exact fun s hs => absurd hs List.not_mem_nil
  · unfold OfThisBoot
    rw [step_boot hr]
    generalize (d.step e).neighbors = t at hc ⊢
    intro s hs
    cases hc with
    | same _ => exact h s hs
    | heard b m _ _ =>
      rcases mem_handleBeacon hfit.neighbors hs with rfl | ⟨hs, -⟩
      · rfl
      · exact h s hs
    | expired lag pick _ =>
      unfold expireNeighbors at hs
      rw [Slots.entries_removeAll] at hs
      exact h s (List.mem_of_mem_filter hs)
    | emptied _ => exact absurd hs List.not_mem_nil
    | restarted he => exact absurd he hr

theorem ofThisBoot_run (num : UInt32) (es : List NodeEvent) :
    (Walk.run step (start num 0 none) es).OfThisBoot :=
  (Walk.run_keeps (P := fun d : DaycareNode => d.Fits ∧ d.OfThisBoot)
    (fun _ _ h => ⟨fits_step h.1, ofThisBoot_step h.1 h.2⟩)
    ⟨fits_run num [], fun _ hs => absurd hs List.not_mem_nil⟩).2

/-- The pairs as they are when the step's meeting, if any, looks its own up. -/
def pairsAt (d : DaycareNode) : NodeEvent → RelationshipTable
  | .tick lag _ => (d.decayIfDue (d.taken lag)).state.relationships
  | _ => d.state.relationships

/-- In every run the tables fit and hold no key twice; who makes room, who is forgotten and who is
greeted is right exactly as far as the stamps and the count tell. -/
theorem tables_iff (num : UInt32) (es : List NodeEvent) (e : NodeEvent) :
    let d := Walk.run step (start num 0 none) es
    d.Fits ∧ d.OfThisBoot ∧ (Arrived d e ↔ NotCrowded d e) ∧
      (∀ id, d.neighbors.EvictsOldest id ↔ d.neighbors.OneRound id) ∧
      (∀ now k, (d.pairsAt e).EvictsOldest now k ↔ (d.pairsAt e).OneRound k) ∧
      ∀ lag, d.neighbors.ExpiresExactly (d.taken lag) ↔
        ∀ s ∈ d.neighbors.entries, (d.taken lag).Timely s.lastSeen :=
  ⟨fits_run num es, ofThisBoot_run num es, arrived_iff, fun _ => evictsOldest_iff,
    fun _ _ => RelationshipTable.evictsOldest_iff, fun _ => expiresExactly_iff⟩

/-- A beacon of a node with no party. -/
def hail (id : UInt32) : NodeEvent := .beacon ⟨id, [], [], 0, fun _ => .zero, 0⟩ ⟨0, 0, 0, 0, false⟩

/-- A tick with a time taken a millisecond before a beacon forgets its sender, and the seventeenth
node to call is not greeted. -/
theorem neighbor_forgotten :
    ¬(Walk.run step (start 1 0 none) [.wait 5, hail 2]).neighbors.ExpiresExactly ⟨0, 4⟩ ∧
      ¬Arrived (Walk.run step (start 1 0 none) ((List.range 16).map fun i => hail (UInt32.ofNat (i + 2))))
        (hail 18) := by
  constructor
  · intro h
    exact absurd (congrArg List.length h) (by decide +kernel)
  · rw [arrived_iff]
    intro h
    exact absurd (h (by decide +kernel) (by decide +kernel)) (by decide +kernel)

end DaycareNode
end MonsterMesh
