import MonsterMesh.Daycare.Tables
import MonsterMesh.Lib.Walk

/-! Where an entry goes, and that no table outgrows its array or holds a key twice. -/
namespace MonsterMesh

namespace NeighborTable

variable {t : NeighborTable} {now : Instant} {b : DaycareBeacon} {id : UInt32} {i : ℕ}

def nodeOf (e : NeighborSlot) : UInt32 := e.pokemon.nodeId

theorem millis_le (now : Instant) : now.millis.toNat ≤ uint32Max :=
  Nat.le_of_lt_succ now.millis.toNat_lt

theorem findNode_none : t.findNode id = none ↔ ∀ e ∈ t.entries, nodeOf e ≠ id := by
  unfold findNode nodeOf
  simp only [Slots.find_eq_none_iff_entries, decide_eq_true_eq, ne_eq]

theorem findNode_some (h : t.findNode id = some i) : i < t.count ∧ nodeOf (t.slot i) = id := by
  obtain ⟨hi, hp, -⟩ := Slots.find_eq_some.mp h
  exact ⟨hi, of_decide_eq_true hp⟩

/-- The three places a beacon can go to. -/
theorem placeFor_cases (t : NeighborTable) (id : UInt32) :
    (∃ i, t.findNode id = some i ∧ t.placeFor id = (t, i)) ∨
      (t.findNode id = none ∧ t.count < maxNeighbors ∧ t.placeFor id = (t.grow, t.count)) ∨
      (t.findNode id = none ∧ maxNeighbors ≤ t.count ∧ t.placeFor id = (t, t.oldest)) := by
  unfold placeFor
  rcases hf : t.findNode id with _ | i
  · by_cases hc : t.count < maxNeighbors
    · exact .inr (.inl ⟨rfl, hc, by simp only [if_pos hc]⟩)
    · exact .inr (.inr ⟨rfl, Nat.not_lt.mp hc, by simp only [if_neg hc]⟩)
  · exact .inl ⟨i, rfl, rfl⟩

/-- The entry a beacon leaves. -/
def heard (t : NeighborTable) (now : Instant) (b : DaycareBeacon) : NeighborSlot :=
  ⟨(t.slot (t.placeFor b.nodeId).2).pokemon.refresh b, now⟩

theorem handleBeacon_eq :
    t.handleBeacon now b = (t.placeFor b.nodeId).1.put (t.placeFor b.nodeId).2 (t.heard now b) := by
  unfold handleBeacon heard
  rcases placeFor_cases t b.nodeId with ⟨i, -, h⟩ | ⟨-, -, h⟩ | ⟨-, -, h⟩
  · rw [h]
  · rw [h]
    rfl
  · rw [h]

theorem nodeOf_heard : nodeOf (t.heard now b) = b.nodeId := by
  unfold nodeOf heard DaycareNeighborPokemon.refresh
  dsimp only
  split_ifs <;> rfl

/-- The table fits its array and lists no node twice. -/
structure Fits (t : NeighborTable) : Prop where
  count : t.count ≤ maxNeighbors
  distinct : t.Distinct nodeOf

theorem fits_handleBeacon (h : t.Fits) : (t.handleBeacon now b).Fits := by
  rw [handleBeacon_eq]
  rcases placeFor_cases t b.nodeId with ⟨i, hf, hp⟩ | ⟨hf, hc, hp⟩ | ⟨hf, hc, hp⟩
  · obtain ⟨hi, hn⟩ := findNode_some hf
    rw [hp]
    exact ⟨h.count, h.distinct.put_same hi (nodeOf_heard.trans hn.symm)⟩
  · rw [hp]
    refine ⟨hc, h.distinct.grow_put fun e he => ?_⟩
    rw [nodeOf_heard]
    exact findNode_none.mp hf e he
  · rw [hp]
    refine ⟨h.count, h.distinct.put fun e he => ?_⟩
    rw [nodeOf_heard]
    exact findNode_none.mp hf e he

/-- Behind a beacon stand its own entry and those of other nodes. -/
theorem mem_handleBeacon (h : t.Fits) {e : NeighborSlot} (he : e ∈ (t.handleBeacon now b).entries) :
    e = t.heard now b ∨ e ∈ t.entries ∧ nodeOf e ≠ b.nodeId := by
  have hfit : (t.handleBeacon now b).Fits := fits_handleBeacon h
  rw [handleBeacon_eq] at he hfit
  rcases placeFor_cases t b.nodeId with ⟨i, hf, hp⟩ | ⟨hf, -, hp⟩ | ⟨hf, -, hp⟩
  · obtain ⟨hi, hn⟩ := findNode_some hf
    rw [hp] at he hfit
    obtain ⟨j, hj, rfl⟩ := Slots.mem_entries.mp he
    rcases eq_or_ne j i with rfl | hij
    · exact .inl Slots.slot_put_self
    · have hs : (t.put i (t.heard now b)).slot j = t.slot j := Function.update_of_ne hij ..
      refine .inr ⟨Slots.mem_entries.mpr ⟨j, hj, hs.symm⟩, fun hk => hij ?_⟩
      rw [hs] at hk
      exact h.distinct.eq hj hi (hk.trans hn.symm)
  · rw [hp, Slots.entries_grow_put] at he
    rcases List.mem_append.mp he with he | he
    · exact .inr ⟨he, findNode_none.mp hf e he⟩
    · exact .inl (List.mem_singleton.mp he)
  · rw [hp, Slots.entries_put] at he
    rcases List.mem_or_eq_of_mem_set he with he | he
    · exact .inr ⟨he, findNode_none.mp hf e he⟩
    · exact .inl he

theorem fits_expire (h : t.Fits) : (t.expireNeighbors now).Fits :=
  ⟨Slots.count_removeAll.trans h.count, h.distinct.removeAll⟩

theorem fits_of_empty {t : NeighborTable} (h : t.count = 0) : t.Fits := by
  have he : t.entries = [] := List.eq_nil_of_length_eq_zero (by rw [Slots.length_entries, h])
  refine ⟨h ▸ Nat.zero_le _, ?_⟩
  unfold Slots.Distinct
  rw [he]
  exact List.nodup_nil

end NeighborTable

namespace RelationshipTable

variable {t : RelationshipTable} {now : Instant} {k : PairKey} {id : UInt32} {m : Meeting}

theorem findRelationship_none : t.findRelationship k = none ↔ ∀ r ∈ t.entries, r.key ≠ k := by
  unfold findRelationship
  simp only [Slots.find_eq_none_iff_entries, decide_eq_true_eq, ne_eq]

theorem findRelationship_some {i : ℕ} (h : t.findRelationship k = some i) :
    i < t.count ∧ (t.slot i).key = k := by
  obtain ⟨hi, hp, -⟩ := Slots.find_eq_some.mp h
  exact ⟨hi, of_decide_eq_true hp⟩

/-- The table fits its array and lists no pair twice. -/
structure Fits (t : RelationshipTable) : Prop where
  count : t.count ≤ maxRelationships
  distinct : t.Distinct DaycareRelationship.key

/-- The relationship of a pair that was not there before. -/
def fresh (now : Instant) (k : PairKey) : DaycareRelationship := ⟨k.1, k.2.1, k.2.2, 0, 0, 0, now, 0⟩

theorem getOrCreate_cases (t : RelationshipTable) (now : Instant) (k : PairKey) :
    (∃ i, t.findRelationship k = some i ∧ t.getOrCreateRelationship now k = (t, i)) ∨
      (t.findRelationship k = none ∧ maxRelationships ≤ t.count ∧
        t.getOrCreateRelationship now k = (t.put t.oldest (fresh now k), t.oldest)) ∨
      (t.findRelationship k = none ∧ t.count < maxRelationships ∧
        t.getOrCreateRelationship now k = (t.grow.put t.count (fresh now k), t.count)) := by
  unfold getOrCreateRelationship
  rcases hf : t.findRelationship k with _ | i
  · by_cases hc : maxRelationships ≤ t.count
    · exact .inr (.inl ⟨rfl, hc, by simp only [if_pos hc, fresh]⟩)
    · exact .inr (.inr ⟨rfl, Nat.not_le.mp hc, by simp only [if_neg hc, fresh]⟩)
  · exact .inl ⟨i, rfl, rfl⟩

/-- The pair is at the place that is handed out, and the tables still fit. -/
theorem fits_getOrCreate (h : t.Fits) :
    (t.getOrCreateRelationship now k).1.Fits ∧
      (t.getOrCreateRelationship now k).2 < (t.getOrCreateRelationship now k).1.count ∧
      ((t.getOrCreateRelationship now k).1.slot (t.getOrCreateRelationship now k).2).key = k := by
  rcases getOrCreate_cases t now k with ⟨i, hf, hp⟩ | ⟨hf, hc, hp⟩ | ⟨hf, hc, hp⟩
  · obtain ⟨hi, hk⟩ := findRelationship_some hf
    rw [hp]
    exact ⟨h, hi, hk⟩
  · have hlt : t.oldest < t.count :=
      Slots.least_lt (fun r => NeighborTable.millis_le r.lastSeen)
        (Nat.lt_of_lt_of_le (by decide) hc)
    rw [hp]
    refine ⟨⟨h.count, h.distinct.put (findRelationship_none.mp hf)⟩, hlt, ?_⟩
    rw [Slots.slot_put_self]
    rfl
  · rw [hp]
    refine ⟨⟨hc, h.distinct.grow_put (findRelationship_none.mp hf)⟩, Nat.lt_succ_self _, ?_⟩
    rw [Slots.slot_put_self]
    rfl

theorem fits_meet (h : t.Fits) : (t.meet now id m).Fits := by
  obtain ⟨hfit, hlt, -⟩ := @fits_getOrCreate t now (id, m.localIdx, m.remoteDex) h
  exact ⟨hfit.count, hfit.distinct.put_same hlt rfl⟩

theorem fits_decay (present : DaycareRelationship → Bool) (h : t.Fits) :
    Fits (t.each fun r => r.decay now (present r)) := by
  refine ⟨h.count, h.distinct.each fun r => ?_⟩
  unfold DaycareRelationship.decay
  split <;> rfl

end RelationshipTable

theorem known_addKnownNode {known : List UInt32} (id : UInt32) (hl : known.length ≤ maxKnownNodes)
    (hd : known.Nodup) :
    (addKnownNode known id).length ≤ maxKnownNodes ∧ (addKnownNode known id).Nodup := by
  unfold addKnownNode isKnownNode
  by_cases hk : known.contains id = true
  · rw [if_pos hk]
    exact ⟨hl, hd⟩
  · have hn : id ∉ known := fun h => hk (List.contains_iff_mem.mpr h)
    rw [if_neg hk]
    by_cases hc : known.length < maxKnownNodes
    · rw [if_pos hc]
      exact ⟨by rw [List.length_append]; exact hc, List.nodup_append.mpr ⟨hd, List.nodup_singleton _,
        fun a ha b hb he => hn (List.mem_singleton.mp hb ▸ he ▸ ha)⟩⟩
    · rw [if_neg hc]
      refine ⟨?_, List.nodup_append.mpr ⟨hd.sublist (List.drop_sublist 1 known), List.nodup_singleton _,
        fun a ha b hb he => hn (List.mem_singleton.mp hb ▸ he ▸ List.mem_of_mem_drop ha)⟩⟩
      rw [List.length_append, List.length_drop, List.length_singleton]
      have : maxKnownNodes = 32 := rfl
      omega

structure DaycareSocial.Fits (st : DaycareSocial) : Prop where
  known : st.knownNodes.length ≤ maxKnownNodes
  nodup : st.knownNodes.Nodup
  pairs : RelationshipTable.Fits st.relationships

theorem DaycareSocial.fits_init : DaycareSocial.init.Fits :=
  ⟨Nat.zero_le _, List.nodup_nil, Nat.zero_le _, List.nodup_nil⟩

theorem DaycareSocial.fits_zero : DaycareSocial.zero.Fits :=
  ⟨Nat.zero_le _, List.nodup_nil, Nat.zero_le _, List.nodup_nil⟩

namespace DaycareNode

variable {d : DaycareNode} {e : NodeEvent} {b : DaycareBeacon} {m : Meeting} {now : Instant}
  {id : UInt32} {pick : Option (ℕ × Meeting)}

structure Fits (d : DaycareNode) : Prop where
  neighbors : NeighborTable.Fits d.neighbors
  state : d.state.Fits
  flash : ∀ st, d.flash = some st → st.Fits

theorem fits_start (num : UInt32) (boot : ℕ) {flash : Option DaycareSocial}
    (h : ∀ st, flash = some st → st.Fits) : (start num boot flash).Fits :=
  ⟨NeighborTable.fits_of_empty rfl, DaycareSocial.fits_zero, h⟩

theorem fits_meet (h : d.Fits) : (d.meet id m).Fits :=
  ⟨h.neighbors, ⟨h.state.known, h.state.nodup, RelationshipTable.fits_meet h.state.pairs⟩, h.flash⟩

theorem fits_cycle (h : d.Fits) : (d.runEventCycle pick).Fits := by
  rcases pick with _ | ⟨ni, m⟩
  · exact h
  · unfold runEventCycle
    dsimp only
    split_ifs
    · exact fits_meet h
    · exact h

theorem fits_decay (h : d.Fits) : (d.decayFriendships now).Fits := by
  refine ⟨h.neighbors, ⟨h.state.known, h.state.nodup, ?_⟩, h.flash⟩
  exact RelationshipTable.fits_decay (fun r => (d.neighbors.findNode r.nodeId).isSome) h.state.pairs

theorem fits_init (h : d.Fits) : d.init.Fits :=
  ⟨NeighborTable.fits_of_empty rfl, DaycareSocial.fits_init, h.flash⟩

theorem fits_handleBeacon (h : d.Fits) : (d.handleBeacon b).Fits :=
  have hk := known_addKnownNode b.nodeId h.state.known h.state.nodup
  ⟨NeighborTable.fits_handleBeacon h.neighbors, ⟨hk.1, hk.2, h.state.pairs⟩, h.flash⟩

theorem fits_received (h : d.Fits) : (d.handleReceived b m).Fits := by
  have hb := fits_handleBeacon (b := b) h
  have ha : ∀ l, Fits { d.handleBeacon b with arrivals := l } := fun l =>
    ⟨hb.neighbors, hb.state, hb.flash⟩
  unfold handleReceived triggerArrivalEvent
  dsimp only
  split_ifs
  · exact h
  · exact ha _
  · exact fits_meet (ha _)
  · exact hb

theorem fits_checkIn {count : UInt8} (h : d.Fits) : (d.checkIn count).Fits := by
  have hi := fits_init h
  have hfl := h.flash
  unfold checkIn
  rcases hf : d.flash with _ | st
  · exact ⟨hi.neighbors, ⟨hi.state.known, hi.state.nodup, hi.state.pairs⟩, h.flash⟩
  · have hst := h.flash st hf
    rw [hf] at hfl
    dsimp only
    split_ifs
    · exact ⟨h.neighbors, ⟨hst.known, hst.nodup, hst.pairs⟩, hfl⟩
    · exact ⟨hi.neighbors, ⟨hi.state.known, hi.state.nodup, hi.state.pairs⟩, h.flash⟩

theorem Fits.stamped (h : d.Fits) (event decay save : UInt32) :
    Fits { d with
      state := { d.state with lastEventMs := event, lastFriendshipDecayMs := decay }
      lastSaveMs := save } :=
  ⟨h.neighbors, ⟨h.state.known, h.state.nodup, h.state.pairs⟩, h.flash⟩

theorem fits_saved (h : d.Fits) : d.saveState.Fits :=
  ⟨h.neighbors, h.state, fun _ hs => Option.some.inj hs ▸ h.state⟩

theorem fits_tick (h : d.Fits) : (d.tick now pick).Fits := by
  have hdecay : (d.decayIfDue now).Fits := by
    unfold decayIfDue
    split_ifs
    · exact (fits_decay h).stamped _ _ _
    · exact h
  have hcycle : ((d.decayIfDue now).cycleIfDue now pick).Fits := by
    unfold cycleIfDue
    split_ifs
    · exact (fits_cycle hdecay).stamped _ _ _
    · exact hdecay
  have hexpire : (((d.decayIfDue now).cycleIfDue now pick).expire now).Fits :=
    ⟨NeighborTable.fits_expire hcycle.neighbors, hcycle.state, hcycle.flash⟩
  unfold tick
  split_ifs
  · exact h
  · unfold saveIfDue
    split_ifs
    · exact (fits_saved hexpire).stamped _ _ _
    · exact hexpire

theorem fits_step (h : d.Fits) : (d.step e).Fits := by
  cases e with
  | wait ms => exact ⟨h.neighbors, h.state, h.flash⟩
  | beacon b m => exact fits_received h
  | tick lag pick => exact fits_tick h
  | force pick =>
    change (d.forceEvent pick).Fits
    unfold forceEvent
    split_ifs
    · exact (fits_cycle h).stamped _ _ _
    · exact h
  | init => exact fits_init h
  | checkIn count => exact fits_checkIn h
  | checkOut => exact ⟨h.neighbors, h.state, (fits_saved h).flash⟩
  | restart =>
    have hs := fits_start d.nodeNum (d.now.boot + 1) h.flash
    exact ⟨hs.neighbors, hs.state, hs.flash⟩

/-! ### What a step writes -/

theorem cycle_eq (d : DaycareNode) (pick : Option (ℕ × Meeting)) :
    ∃ r, d.runEventCycle pick = { d with state := { d.state with relationships := r } } := by
  rcases pick with _ | ⟨ni, m⟩
  · exact ⟨_, rfl⟩
  · unfold runEventCycle
    dsimp only
    split_ifs
    · exact ⟨_, rfl⟩
    · exact ⟨_, rfl⟩

/-- What a tick, an event or an arrival leaves as it was. -/
structure Kept (d d' : DaycareNode) : Prop where
  nodeNum : d'.nodeNum = d.nodeNum
  now : d'.now = d.now
  known : d'.state.knownNodes = d.state.knownNodes
  arrivals : d'.arrivals = d.arrivals

theorem Kept.trans {d₁ d₂ d₃ : DaycareNode} (h : Kept d₁ d₂) (h' : Kept d₂ d₃) : Kept d₁ d₃ :=
  ⟨h'.nodeNum.trans h.nodeNum, h'.now.trans h.now, h'.known.trans h.known, h'.arrivals.trans h.arrivals⟩

theorem kept_decay (d : DaycareNode) (now : Instant) :
    Kept d (d.decayIfDue now) ∧ (d.decayIfDue now).neighbors = d.neighbors := by
  unfold decayIfDue
  split_ifs <;> exact ⟨⟨rfl, rfl, rfl, rfl⟩, rfl⟩

theorem kept_cycle (d : DaycareNode) (now : Instant) (pick : Option (ℕ × Meeting)) :
    Kept d (d.cycleIfDue now pick) ∧ (d.cycleIfDue now pick).neighbors = d.neighbors := by
  obtain ⟨r, hr⟩ := cycle_eq d pick
  unfold cycleIfDue
  rw [hr]
  split_ifs <;> exact ⟨⟨rfl, rfl, rfl, rfl⟩, rfl⟩

theorem kept_save (d : DaycareNode) (now : Instant) :
    Kept d (d.saveIfDue now) ∧ (d.saveIfDue now).neighbors = d.neighbors := by
  unfold saveIfDue
  split_ifs <;> exact ⟨⟨rfl, rfl, rfl, rfl⟩, rfl⟩

theorem kept_tick (d : DaycareNode) (now : Instant) (pick : Option (ℕ × Meeting)) :
    Kept d (d.tick now pick) ∧
      (d.tick now pick).neighbors =
        if d.active = false ∨ d.state.partyCount = 0 then d.neighbors
        else d.neighbors.expireNeighbors now := by
  obtain ⟨h₁, hn₁⟩ := kept_decay d now
  obtain ⟨h₂, hn₂⟩ := kept_cycle (d.decayIfDue now) now pick
  obtain ⟨h₃, hn₃⟩ := kept_save (((d.decayIfDue now).cycleIfDue now pick).expire now) now
  have he : Kept ((d.decayIfDue now).cycleIfDue now pick)
      (((d.decayIfDue now).cycleIfDue now pick).expire now) := ⟨rfl, rfl, rfl, rfl⟩
  unfold tick
  split_ifs
  · exact ⟨⟨rfl, rfl, rfl, rfl⟩, rfl⟩
  · refine ⟨((h₁.trans h₂).trans he).trans h₃, hn₃.trans ?_⟩
    change NeighborTable.expireNeighbors _ now = _
    rw [hn₂, hn₁]

theorem kept_force (d : DaycareNode) (pick : Option (ℕ × Meeting)) :
    Kept d (d.forceEvent pick) ∧ (d.forceEvent pick).neighbors = d.neighbors := by
  obtain ⟨r, hr⟩ := cycle_eq d pick
  unfold forceEvent
  rw [hr]
  split_ifs <;> exact ⟨⟨rfl, rfl, rfl, rfl⟩, rfl⟩

/-- An arrival is run for a peer's beacon that made the table grow. -/
theorem received_eq (d : DaycareNode) (b : DaycareBeacon) (m : Meeting) (hb : b.nodeId ≠ d.nodeNum) :
    (d.handleReceived b m).neighbors = d.neighbors.handleBeacon d.now b ∧
      (d.handleReceived b m).nodeNum = d.nodeNum ∧
      (d.handleReceived b m).arrivals =
        d.arrivals ++ if d.neighbors.count < (d.neighbors.handleBeacon d.now b).count then [b.nodeId] else [] := by
  unfold handleReceived
  have hnb : (d.handleBeacon b).neighbors = d.neighbors.handleBeacon d.now b := rfl
  rw [if_neg hb, hnb]
  by_cases hc : d.neighbors.count < (d.neighbors.handleBeacon d.now b).count
  · rw [if_pos hc, if_pos hc]
    unfold triggerArrivalEvent
    dsimp only
    split_ifs <;> exact ⟨rfl, rfl, rfl⟩
  · rw [if_neg hc, if_neg hc, List.append_nil]
    exact ⟨rfl, rfl, rfl⟩

/-- What can become of the neighbours in a step. -/
inductive Change (d : DaycareNode) (e : NodeEvent) : NeighborTable → Prop
  | same (hown : ∀ b m, e = .beacon b m → b.nodeId = d.nodeNum) : Change d e d.neighbors
  | heard (b : DaycareBeacon) (m : Meeting) (he : e = .beacon b m) (hb : b.nodeId ≠ d.nodeNum) :
    Change d e (d.neighbors.handleBeacon d.now b)
  | expired (lag : ℕ) (pick : Option (ℕ × Meeting)) (he : e = .tick lag pick) :
    Change d e (d.neighbors.expireNeighbors (d.taken lag))
  | emptied (he : ∀ b m, e ≠ .beacon b m) : Change d e { d.neighbors with count := 0 }
  | restarted (he : e = .restart) : Change d e (start d.nodeNum (d.now.boot + 1) d.flash).neighbors

theorem step_change (d : DaycareNode) (e : NodeEvent) :
    (d.step e).nodeNum = d.nodeNum ∧ Change d e (d.step e).neighbors := by
  cases e with
  | wait ms => exact ⟨rfl, .same (by rintro _ _ ⟨⟩)⟩
  | beacon b m =>
    by_cases hb : b.nodeId = d.nodeNum
    · have hs : d.step (.beacon b m) = d := if_pos hb
      rw [hs]
      exact ⟨rfl, .same (by rintro _ _ ⟨⟩; exact hb)⟩
    · obtain ⟨hn, hnum, -⟩ := received_eq d b m hb
      change (d.handleReceived b m).nodeNum = _ ∧ Change _ _ (d.handleReceived b m).neighbors
      rw [hn]
      exact ⟨hnum, .heard b m rfl hb⟩
  | tick lag pick =>
    obtain ⟨hk, hn⟩ := kept_tick d (d.taken lag) pick
    change (d.tick (d.taken lag) pick).nodeNum = _ ∧ Change _ _ (d.tick (d.taken lag) pick).neighbors
    rw [hn]
    refine ⟨hk.nodeNum, ?_⟩
    split_ifs
    · exact .same (by rintro _ _ ⟨⟩)
    · exact .expired lag pick rfl
  | force pick =>
    obtain ⟨hk, hn⟩ := kept_force d pick
    change (d.forceEvent pick).nodeNum = _ ∧ Change _ _ (d.forceEvent pick).neighbors
    rw [hn]
    exact ⟨hk.nodeNum, .same (by rintro _ _ ⟨⟩)⟩
  | init => exact ⟨rfl, .emptied (by rintro _ _ ⟨⟩)⟩
  | checkIn count =>
    change (d.checkIn count).nodeNum = _ ∧ Change _ _ (d.checkIn count).neighbors
    unfold checkIn
    rcases hf : d.flash with _ | st
    · exact ⟨rfl, .emptied (by rintro _ _ ⟨⟩)⟩
    · dsimp only
      split_ifs
      · exact ⟨rfl, .same (by rintro _ _ ⟨⟩)⟩
      · exact ⟨rfl, .emptied (by rintro _ _ ⟨⟩)⟩
  | checkOut => exact ⟨rfl, .same (by rintro _ _ ⟨⟩)⟩
  | restart => exact ⟨rfl, .restarted rfl⟩

/-- No run makes a table outgrow its array or hold a key twice. -/
theorem fits_run (num : UInt32) (es : List NodeEvent) :
    (Walk.run step (start num 0 none) es).Fits :=
  Walk.run_keeps (fun _ _ => fits_step) (fits_start num 0 nofun)

end DaycareNode
end MonsterMesh
