import MonsterMesh.Daycare.Places
import MonsterMesh.Gym.Challenger

/-! What is stored of a neighbour's party, and the party it is fought with, against the beacon. -/
namespace MonsterMesh

open Text

/-! ### Parties from an entry -/

/-- The first `count` places of a party. -/
def partyOf (count : UInt8) (mon : Fin 6 → Gen1Pokemon) (nickname : Fin 6 → Str) : Gen1Party :=
  { count
    species := fun i => if h : i.val < 6 then if i.val < count.toNat then (mon ⟨i, h⟩).species else 0 else 0
    mons := fun i => if i.val < count.toNat then mon i else .zero
    nicknames := fun i k => if i.val < count.toNat then (nickname i).getD k.val 0 else 0 }

/-- A level of 0 is taken for 5. -/
def buildPartyFromNeighbor (n : DaycareNeighborPokemon) : Gen1Party :=
  partyOf (if 6 < n.partyCount then 6 else n.partyCount)
    (fun i =>
      let m := n.party i
      bulkMon m.species (if m.level = 0 then 5 else m.level) m.moves)
    fun i => (n.party i).nickname.take 10

/-- The rival of `fight`, built in place. -/
def rivalFromNeighbor (n : DaycareNeighborPokemon) : Gen1Party :=
  partyOf (if 6 < n.partyCount then 6 else n.partyCount)
    (fun i =>
      let m := n.party i
      { Gen1Pokemon.zero with
        species := dexToInternal m.species, level := m.level, boxLevel := m.level, moves := m.moves
        dvs0 := 0x88, dvs1 := 0x88 })
    fun i => (n.party i).nickname.take 10

/-! ### Agreement with a beacon -/

namespace DaycareBeacon

variable (b : DaycareBeacon)

/-- A mon as a field of ten characters can hold it. -/
def mon (i : Fin 6) : BeaconMon := { b.pokemon i with nickname := (b.pokemon i).nickname.take 10 }

/-- The lead mon, or nothing where there is no party. -/
def lead : UInt8 × UInt8 × Str :=
  if 0 < b.count then ((b.mon 0).species, (b.mon 0).level, (b.mon 0).nickname) else (0, 0, [])

end DaycareBeacon

def DaycareNeighborPokemon.lead (n : DaycareNeighborPokemon) : UInt8 × UInt8 × Str :=
  (n.speciesDex, n.level, n.nickname)

/-- An entry says what the beacon says. -/
structure DaycareNeighborPokemon.Mirrors (n : DaycareNeighborPokemon) (b : DaycareBeacon) : Prop where
  count : n.partyCount = b.count
  mons : ∀ i : Fin 6, i.val < b.count.toNat → n.party i = b.mon i
  tier : n.ngPlusTier = b.ngPlusTier
  lead : n.lead = b.lead

/-- A party to fight has the mons and moves of the beacon and nothing else. -/
structure Gen1Party.Fields (gp : Gen1Party) (b : DaycareBeacon) : Prop where
  count : gp.count = b.count
  listed : ∀ i : Fin 6, i.val < b.count.toNat → gp.species i.castSucc = dexToInternal (b.mon i).species
  species : ∀ i : Fin 6, i.val < b.count.toNat → (gp.mons i).species = dexToInternal (b.mon i).species
  level : ∀ i : Fin 6, i.val < b.count.toNat → (b.mon i).level ≠ 0 → (gp.mons i).level = (b.mon i).level
  moves : ∀ i : Fin 6, i.val < b.count.toNat → (gp.mons i).moves = (b.mon i).moves
  nicknames : ∀ i : Fin 6, i.val < b.count.toNat → ∀ k : Fin 11,
    gp.nicknames i k = (b.mon i).nickname.getD k.val 0
  rest : ∀ i : Fin 6, b.count.toNat ≤ i.val →
    gp.mons i = .zero ∧ gp.species i.castSucc = 0 ∧ ∀ k, gp.nicknames i k = 0

/-- The entry and both parties made of it are those of the beacon. -/
structure DaycareNeighborPokemon.Faithful (n : DaycareNeighborPokemon) (b : DaycareBeacon) : Prop where
  entry : n.Mirrors b
  party : (buildPartyFromNeighbor n).Fields b
  rival : (rivalFromNeighbor n).Fields b

/-- The entry of a node. -/
def NeighborTable.entryOf (t : NeighborTable) (id : UInt32) : Option DaycareNeighborPokemon :=
  (t.findNode id).map fun i => (t.slot i).pokemon

/-- What an event has to leave: a peer's beacon is what its entry says. -/
def Shown (d : DaycareNode) : NodeEvent → Prop
  | .beacon b m =>
    b.nodeId ≠ d.nodeNum →
      ∃ n, (d.handleReceived b m).neighbors.entryOf b.nodeId = some n ∧ n.Faithful b
  | _ => True

/-- No moves in the beacon; and one without a party goes to a place with no summary left in it. -/
def Plain (d : DaycareNode) : NodeEvent → Prop
  | .beacon b _ =>
    b.nodeId ≠ d.nodeNum →
      (∀ i : Fin 6, i.val < b.count.toNat → (b.pokemon i).moves = fun _ => 0) ∧
        (b.count = 0 →
          (d.neighbors.slot (d.neighbors.placeFor b.nodeId).2).pokemon.lead = (0, 0, []))
  | _ => True

/-! ### The parties of an entry -/

theorem DaycareBeacon.count_le (b : DaycareBeacon) : b.count.toNat ≤ 6 := by
  unfold DaycareBeacon.count
  split
  · rename_i h
    exact (UInt8.lt_iff_toNat_lt.mp h).le
  · exact le_rfl

namespace DaycareNeighborPokemon

variable {n : DaycareNeighborPokemon} {b : DaycareBeacon}

theorem Mirrors.clipped (h : n.Mirrors b) :
    (if 6 < n.partyCount then 6 else n.partyCount) = b.count := by
  have hle := b.count_le
  rw [h.count]
  apply if_neg
  intro hlt
  have := UInt8.lt_iff_toNat_lt.mp hlt
  change 6 < b.count.toNat at this
  omega

/-- Places that hold the mons of a beacon make its party. -/
theorem fields_partyOf {mon : Fin 6 → Gen1Pokemon} {nickname : Fin 6 → Str}
    (hs : ∀ i : Fin 6, i.val < b.count.toNat → (mon i).species = dexToInternal (b.mon i).species)
    (hl : ∀ i : Fin 6, i.val < b.count.toNat → (b.mon i).level ≠ 0 → (mon i).level = (b.mon i).level)
    (hm : ∀ i : Fin 6, i.val < b.count.toNat → (mon i).moves = (b.mon i).moves)
    (hn : ∀ i : Fin 6, i.val < b.count.toNat → nickname i = (b.mon i).nickname) :
    (partyOf b.count mon nickname).Fields b := by
  have hin : ∀ i : Fin 6, i.val < b.count.toNat → (partyOf b.count mon nickname).mons i = mon i :=
    fun i hi => if_pos hi
  have hlist : ∀ i : Fin 6, (partyOf b.count mon nickname).species i.castSucc =
      if i.val < b.count.toNat then (mon i).species else 0 := fun i => dif_pos i.isLt
  refine ⟨rfl, ?_, ?_, ?_, ?_, ?_, ?_⟩
  · intro i hi
    rw [hlist, if_pos hi, hs i hi]
  · intro i hi
    rw [hin i hi, hs i hi]
  · intro i hi h0
    rw [hin i hi, hl i hi h0]
  · intro i hi
    rw [hin i hi, hm i hi]
  · intro i hi k
    rw [← hn i hi]
    exact if_pos hi
  · intro i hi
    exact ⟨if_neg (by omega), by rw [hlist, if_neg (by omega)], fun k => if_neg (by omega)⟩

theorem take_mon (i : Fin 6) : (b.mon i).nickname.take 10 = (b.mon i).nickname := by
  unfold DaycareBeacon.mon
  rw [List.take_take]
  rfl

/-- Whatever the entry says right is right in the parties made of it. -/
theorem Mirrors.faithful (h : n.Mirrors b) : n.Faithful b := by
  refine ⟨h, ?_, ?_⟩
  · unfold buildPartyFromNeighbor
    rw [h.clipped]
    apply fields_partyOf
    · intro i hi
      rw [h.mons i hi]
      rfl
    · intro i hi h0
      rw [h.mons i hi]
      exact if_neg h0
    · intro i hi
      rw [h.mons i hi]
      rfl
    · intro i hi
      rw [h.mons i hi, take_mon]
  · unfold rivalFromNeighbor
    rw [h.clipped]
    apply fields_partyOf
    · intro i hi
      rw [h.mons i hi]
    · intro i hi h0
      rw [h.mons i hi]
    · intro i hi
      rw [h.mons i hi]
    · intro i hi
      rw [h.mons i hi, take_mon]

/-- No entry of the table has been given moves. -/
def Moveless (n : DaycareNeighborPokemon) : Prop := ∀ i, (n.party i).moves = fun _ => 0

theorem refresh_party (n : DaycareNeighborPokemon) (b : DaycareBeacon) (i : Fin 6) :
    (n.refresh b).party i =
      if i.val < b.count.toNat then { b.mon i with moves := (n.party i).moves } else n.party i := by
  unfold refresh
  dsimp only
  by_cases hc : 0 < b.count
  · rw [if_pos hc]
    rfl
  · rw [if_neg hc]
    rfl

theorem moveless_refresh (h : n.Moveless) : (n.refresh b).Moveless := by
  intro i
  rw [refresh_party]
  split_ifs
  · exact h i
  · exact h i

theorem refresh_lead (n : DaycareNeighborPokemon) (b : DaycareBeacon) :
    (n.refresh b).lead = if 0 < b.count then b.lead else n.lead := by
  unfold refresh lead DaycareBeacon.lead
  dsimp only
  split_ifs <;> rfl

theorem refresh_rest (n : DaycareNeighborPokemon) (b : DaycareBeacon) :
    (n.refresh b).partyCount = b.count ∧ (n.refresh b).ngPlusTier = b.ngPlusTier ∧
      (n.refresh b).nodeId = b.nodeId := by
  unfold refresh
  dsimp only
  split_ifs <;> exact ⟨rfl, rfl, rfl⟩

/-- A refreshed entry is right exactly when the beacon has no moves and no summary is left standing. -/
theorem mirrors_refresh_iff (hm : n.Moveless) :
    (n.refresh b).Mirrors b ↔
      (∀ i : Fin 6, i.val < b.count.toNat → (b.pokemon i).moves = fun _ => 0) ∧
        (b.count = 0 → n.lead = (0, 0, [])) := by
  obtain ⟨hc, ht, -⟩ := refresh_rest n b
  have hmons : ∀ i : Fin 6, i.val < b.count.toNat →
      ((n.refresh b).party i = b.mon i ↔ (b.pokemon i).moves = fun _ => 0) := by
    intro i hi
    rw [refresh_party, if_pos hi, hm i]
    constructor
    · intro h
      exact (congrArg BeaconMon.moves h).symm
    · intro h
      rw [← h]
      rfl
  have hlead : (n.refresh b).lead = b.lead ↔ (b.count = 0 → n.lead = (0, 0, [])) := by
    rw [refresh_lead]
    by_cases h0 : b.count = 0
    · have hl : b.lead = (0, 0, []) := by
        unfold DaycareBeacon.lead
        rw [h0]
        rfl
      rw [h0, if_neg (by decide), hl]
      exact ⟨fun h _ => h, fun h => h rfl⟩
    · have hpos : 0 < b.count := UInt8.pos_iff_ne_zero.mpr h0
      rw [if_pos hpos]
      exact ⟨fun _ h => absurd h h0, fun _ => rfl⟩
  constructor
  · intro h
    exact ⟨fun i hi => (hmons i hi).mp (h.mons i hi), hlead.mp h.lead⟩
  · rintro ⟨h, hl⟩
    exact ⟨hc, fun i hi => (hmons i hi).mpr (h i hi), ht, hlead.mpr hl⟩

end DaycareNeighborPokemon

/-! ### The table -/

namespace NeighborTable

variable {t : NeighborTable} {now : Instant} {b : DaycareBeacon} {id : UInt32}

/-- After a beacon its node's entry is the refreshed one. -/
theorem entryOf_handleBeacon (h : t.Fits) :
    (t.handleBeacon now b).entryOf b.nodeId = some (t.heard now b).pokemon := by
  have hfit : (t.handleBeacon now b).Fits := fits_handleBeacon h
  have hslot : (t.handleBeacon now b).slot (t.placeFor b.nodeId).2 = t.heard now b := by
    rw [handleBeacon_eq, Slots.slot_put_self]
  have hlt : (t.placeFor b.nodeId).2 < (t.handleBeacon now b).count := by
    rw [handleBeacon_eq]
    rcases placeFor_cases t b.nodeId with ⟨i, hf, hp⟩ | ⟨-, -, hp⟩ | ⟨-, hc, hp⟩
    · rw [hp]
      exact (findNode_some hf).1
    · rw [hp]
      exact Nat.lt_succ_self _
    · rw [hp]
      exact Slots.least_lt (fun e => millis_le e.lastSeen) (Nat.lt_of_lt_of_le (by decide) hc)
  have hfind : (t.handleBeacon now b).findNode b.nodeId = some (t.placeFor b.nodeId).2 := by
    rcases hn : (t.handleBeacon now b).findNode b.nodeId with _ | i
    · refine absurd ?_ (findNode_none.mp hn _ (Slots.mem_entries.mpr ⟨_, hlt, hslot⟩))
      exact nodeOf_heard
    · obtain ⟨hi, hk⟩ := findNode_some hn
      rw [hfit.distinct.eq hi hlt (hk.trans (by rw [hslot]; exact nodeOf_heard.symm))]
  unfold entryOf
  rw [hfind, Option.map_some, hslot]

end NeighborTable

/-! ### Runs -/

namespace DaycareNode

open DaycareNeighborPokemon NeighborTable

variable {d : DaycareNode} {e : NodeEvent} {num : UInt32} {es : List NodeEvent}

/-- The beacons of peers, in the order they came. -/
def heardFrom (num : UInt32) (es : List NodeEvent) : List DaycareBeacon :=
  es.filterMap fun
    | .beacon b _ => if b.nodeId = num then none else some b
    | _ => none

/-- The last beacon of a node. -/
def lastFrom (bs : List DaycareBeacon) (id : UInt32) : Option DaycareBeacon :=
  (bs.filter (·.nodeId = id)).getLast?

/-- No place of the table holds moves, used or not. -/
def NoMoves (d : DaycareNode) : Prop := ∀ i, (d.neighbors.slot i).pokemon.Moveless

theorem noMoves_step (h : d.NoMoves) : (d.step e).NoMoves := by
  have hc := (step_change d e).2
  unfold NoMoves
  generalize (d.step e).neighbors = t at hc ⊢
  cases hc with
  | same _ => exact h
  | heard b m _ _ =>
    have hheard : (d.neighbors.heard d.now b).pokemon.Moveless := moveless_refresh (h _)
    intro i
    rw [handleBeacon_eq]
    refine Slots.all_put (P := fun s : NeighborSlot => s.pokemon.Moveless) (fun j => ?_) hheard i
    rcases placeFor_cases d.neighbors b.nodeId with ⟨k, -, hp⟩ | ⟨-, -, hp⟩ | ⟨-, -, hp⟩
    · rw [hp]
      exact h j
    · rw [hp]
      exact h j
    · rw [hp]
      exact h j
  | expired lag pick _ =>
    exact fun i => Slots.all_sweep (P := fun s : NeighborSlot => s.pokemon.Moveless) h i
  | emptied _ => exact h
  | restarted _ => exact fun _ _ => rfl

theorem noMoves_run (num : UInt32) (es : List NodeEvent) :
    (Walk.run step (start num 0 none) es).NoMoves :=
  Walk.run_keeps (fun _ _ => noMoves_step) fun _ _ => rfl

/-- A beacon is what its entry says exactly when it is plain. -/
theorem shown_iff_plain (hfit : d.Fits) (hm : d.NoMoves) : Shown d e ↔ Plain d e := by
  cases e with
  | beacon b m =>
    unfold Shown Plain
    refine imp_congr_right fun hb => ?_
    rw [(received_eq d b m hb).1, entryOf_handleBeacon hfit.neighbors]
    have hiff := mirrors_refresh_iff (b := b) (hm (d.neighbors.placeFor b.nodeId).2)
    constructor
    · rintro ⟨n, hn, hf⟩
      rw [Option.some.injEq] at hn
      subst hn
      exact hiff.mp hf.entry
    · intro h
      exact ⟨_, rfl, (hiff.mpr h).faithful⟩
  | _ => exact Iff.rfl

/-- Every entry is what its node last broadcast. -/
def Current (num : UInt32) (es : List NodeEvent) (d : DaycareNode) : Prop :=
  ∀ s ∈ d.neighbors.entries,
    ∃ b, lastFrom (heardFrom num es) s.pokemon.nodeId = some b ∧ s.pokemon.Faithful b

theorem heardFrom_concat (h : ∀ b m, e = .beacon b m → b.nodeId = num) :
    heardFrom num (es ++ [e]) = heardFrom num es := by
  unfold heardFrom
  rw [List.filterMap_append]
  cases e with
  | beacon b m => simp [h b m rfl]
  | _ => simp

theorem heardFrom_beacon {b : DaycareBeacon} {m : Meeting} (hb : b.nodeId ≠ num) :
    heardFrom num (es ++ [.beacon b m]) = heardFrom num es ++ [b] := by
  unfold heardFrom
  rw [List.filterMap_append]
  simp [hb]

theorem current_step (hfit : d.Fits) (hnum : d.nodeNum = num) (hs : Shown d e)
    (h : Current num es d) : Current num (es ++ [e]) (d.step e) := by
  subst hnum
  have hc := (step_change d e).2
  unfold Current
  generalize (d.step e).neighbors = t at hc ⊢
  cases hc with
  | same hown =>
    rw [heardFrom_concat hown]
    exact h
  | heard b m he hb =>
    subst he
    obtain ⟨n, hn, hf⟩ := hs hb
    rw [(received_eq d b m hb).1, entryOf_handleBeacon hfit.neighbors, Option.some.injEq] at hn
    subst hn
    rw [heardFrom_beacon hb]
    intro s hs
    unfold lastFrom
    rw [List.filter_append]
    rcases mem_handleBeacon hfit.neighbors hs with rfl | ⟨hs, hne⟩
    · have hid : (d.neighbors.heard d.now b).pokemon.nodeId = b.nodeId := nodeOf_heard
      refine ⟨b, ?_, hf⟩
      rw [hid]
      simp
    · obtain ⟨b', hb', hf'⟩ := h s hs
      have hne' : ¬b.nodeId = s.pokemon.nodeId := fun h => hne h.symm
      refine ⟨b', ?_, hf'⟩
      rw [List.filter_singleton, decide_eq_false hne', cond_false, List.append_nil]
      exact hb'
  | expired lag pick he =>
    subst he
    rw [heardFrom_concat (by rintro _ _ ⟨⟩)]
    intro s hs
    unfold expireNeighbors at hs
    rw [Slots.entries_removeAll] at hs
    exact h s (List.mem_of_mem_filter hs)
  | emptied _ => exact fun s hs => absurd hs List.not_mem_nil
  | restarted _ => exact fun s hs => absurd hs List.not_mem_nil

theorem current_run (num : UInt32) (es : List NodeEvent)
    (h : Walk.Along step Shown (start num 0 none) es) :
    Current num es (Walk.run step (start num 0 none) es) := by
  induction es using List.reverseRecOn with
  | nil => exact fun s hs => absurd hs List.not_mem_nil
  | append_singleton es e ih =>
    obtain ⟨hes, he⟩ := Walk.along_concat.mp h
    have hnum : (Walk.run step (start num 0 none) es).nodeNum = num :=
      Walk.run_keeps (P := fun d => d.nodeNum = num) (fun d e hd => (step_change d e).1.trans hd) rfl
    rw [Walk.run_concat]
    exact current_step (fits_run num es) hnum he (ih hes)

/-- In every run each beacon is shown as it was exactly when each is plain; every entry is then what
its node last broadcast. -/
theorem stored_is_broadcast_iff (num : UInt32) (es : List NodeEvent) :
    (Walk.Along step Shown (start num 0 none) es ↔ Walk.Along step Plain (start num 0 none) es) ∧
      (Walk.Along step Plain (start num 0 none) es →
        ∀ s ∈ (Walk.run step (start num 0 none) es).neighbors.entries,
          ∃ b, lastFrom (heardFrom num es) s.pokemon.nodeId = some b ∧ s.pokemon.Faithful b) := by
  have hkeep : ∀ (d : DaycareNode) e, d.Fits ∧ d.NoMoves → (d.step e).Fits ∧ (d.step e).NoMoves :=
    fun d e h => ⟨fits_step h.1, noMoves_step h.2⟩
  have hstart : (start num 0 none).Fits ∧ (start num 0 none).NoMoves :=
    ⟨fits_run num [], noMoves_run num []⟩
  have hiff : Walk.Along step Shown (start num 0 none) es ↔
      Walk.Along step Plain (start num 0 none) es :=
    ⟨Walk.Along.trade (fun d e h _ => hkeep d e h) (fun d e h => (shown_iff_plain h.1 h.2).mp) hstart,
      Walk.Along.trade (fun d e h _ => hkeep d e h) (fun d e h => (shown_iff_plain h.1 h.2).mpr) hstart⟩
  exact ⟨hiff, fun h => current_run num es (hiff.mpr h)⟩

/-- A beacon of node 2 with at most one mon, number 16. -/
def pidgey (count : UInt8) (moves : Fin 4 → UInt8) : NodeEvent :=
  .beacon ⟨2, [66, 76, 85], [], count, fun _ => ⟨16, 9, [80], moves⟩, 0⟩
    ⟨0, 0, 0, 0, false⟩

/-- The moves of a beacon are dropped, and a reply without a party leaves the old lead mon. -/
theorem moves_dropped :
    ¬Walk.Along step Shown (start 1 0 none) [pidgey 1 ![16, 0, 0, 0]] ∧
      ¬Walk.Along step Shown (start 1 0 none) [pidgey 1 fun _ => 0, pidgey 0 fun _ => 0] := by
  constructor
  · rintro ⟨h, -⟩
    have hp := (shown_iff_plain (fits_run 1 []) (noMoves_run 1 [])).mp h
    have h0 := congrFun ((hp (by decide)).1 0 (by decide)) 0
    exact absurd h0 (by decide)
  · rintro ⟨-, h, -⟩
    have hp := (shown_iff_plain (fits_run 1 [pidgey 1 fun _ => 0])
      (noMoves_run 1 [pidgey 1 fun _ => 0])).mp h
    exact absurd ((hp (by decide)).2 rfl) (by decide)

end DaycareNode
end MonsterMesh
