import MonsterMesh.Gym.Effects
import MonsterMesh.Gym.Lineups

/-! What a gym serves for a slot of its ladder, by either protocol. -/
namespace MonsterMesh

open Gauntlet
open GauntletState (LadderMonWire)

namespace GauntletState

variable (s : GauntletState)

/-- A player holds the gym. -/
def PlayerLeads : Prop := s.leader.nodeNum ≠ 0 ∧ s.leader.nodeNum ≠ npcLeader

instance : Decidable s.PlayerLeads := inferInstanceAs (Decidable (_ ∧ _))

/-- The level a slot is scaled to. -/
def slotScale (i : Fin 5) : UInt8 := if i = gauntletGymLeaderIdx then s.leaderScale else s.memberLevels i

/-- What a challenger that awaits the ladder of node `gym` makes of slot `i` of the bulk packet. -/
def bulkLineup (c : LadderRun) (i : Fin 5) : List (UInt8 × UInt8 × (Fin 4 → UInt8)) :=
  ((c.onParties c.target s.ladderPartiesPayload).parties i).lineup

/-- What a request for trainer `i` is answered with. -/
def requestLineup (out : Gen1Party) (i : Fin 5) : List (UInt8 × UInt8 × (Fin 4 → UInt8)) :=
  (s.buildLadderTrainerParty out (UInt8.ofNat i.val)).lineup

/-- A gym that is filled, with every slot naming a trainer. -/
structure Staffed (s : GauntletState) : Prop where
  enabled : s.autoEnabled = true
  named : ∀ i, Named (s.autoSlots i)

variable {s} {c : LadderRun} {out : Gen1Party} {i : Fin 5}

/-- A leader without a level of its own has the level the auto-fill gave it. -/
theorem slotScale_eq (i : Fin 5) : s.slotScale i =
    if i = gauntletGymLeaderIdx ∧ s.memberLevels i = 0 then s.autoLeaderLevel
    else s.memberLevels i := by
  unfold slotScale leaderScale
  by_cases hi : i = 4
  · subst hi
    rw [if_pos (show (4 : Fin 5) = gauntletGymLeaderIdx from rfl)]
    by_cases hm : s.memberLevels 4 = 0
    · rw [if_pos (⟨rfl, hm⟩ : (4 : Fin 5) = gauntletGymLeaderIdx ∧ _)]
      by_cases ha : s.autoLeaderLevel = 0
      · rw [if_neg fun h => h.2 ha]
        exact hm.trans ha.symm
      · exact if_pos ⟨hm, ha⟩
    · rw [if_neg fun h => hm h.1, if_neg fun h => hm h.2]
  · have hi' : ¬i = gauntletGymLeaderIdx := hi
    rw [if_neg hi', if_neg fun h => hi h.1]

theorem buildSlot_eq (h : s.autoEnabled = true) (i : Fin 5) :
    s.buildSlot i = slotMons (s.autoSlots i) (s.slotScale i) := by
  unfold buildSlot
  rw [if_pos h, slotScale_eq]
  rfl

/-- The bulk packet carries what `buildSlot` makes of each slot. -/
theorem bulkLineup_slots (h : ∀ i, (s.buildSlot i).length ≤ 6) (hc : c.bulkActive = true) (i : Fin 5) :
    s.bulkLineup c i = (s.buildSlot i).map LadderMonWire.entry := by
  have hlen : ∀ l ∈ (List.finRange 5).map s.buildSlot, l.length ≤ 6 := by
    intro l hl
    obtain ⟨j, -, rfl⟩ := List.mem_map.mp hl
    exact h j
  have hpack := packSlots_eq hlen 1 (by simp)
  obtain ⟨-, hread⟩ := readParties_slots hlen
  unfold bulkLineup LadderRun.onParties ladderPartiesPayload
  rw [if_pos ⟨hc, rfl⟩, hpack]
  dsimp only
  have hcount : trainerCount 5 = ((List.finRange 5).map s.buildSlot).length := by simp; rfl
  rw [hcount]
  generalize readParties _ _ = r at hread ⊢
  have hget : ((r.2.getD i.val .zero).lineup) = (s.buildSlot i).map LadderMonWire.entry := by
    have hlt : i.val < (List.finRange 5).length := by simp
    have hi := congrArg (fun l => l[i.val]?) hread
    rw [List.getElem?_map, List.getElem?_map, List.getElem?_map,
      List.getElem?_eq_getElem hlt, List.getElem_finRange] at hi
    rw [List.getD_eq_getElem?_getD]
    cases hr : r.2[i.val]? with
    | none =>
      rw [hr] at hi
      cases hi
    | some p =>
      rw [hr] at hi
      exact Option.some.inj hi
  split <;> exact hget

theorem Staffed.buildSlot_length (hs : s.Staffed) (i : Fin 5) : (s.buildSlot i).length ≤ 6 := by
  rw [buildSlot_eq hs.enabled]
  obtain ⟨_, -, -, -, h⟩ := autoLookup_lineup (hs.named i) (s.slotScale i)
  exact h

/-- The bulk packet carries the mons of each slot. -/
theorem Staffed.bulkLineup_eq (hs : s.Staffed) (hc : c.bulkActive = true) (i : Fin 5) :
    s.bulkLineup c i = slotLineup (s.autoSlots i) (s.slotScale i) := by
  rw [bulkLineup_slots hs.buildSlot_length hc, buildSlot_eq hs.enabled]
  rfl

/-- A request for a trainer below the leader is answered with the mons of its slot. -/
theorem Staffed.requestLineup_grunt (hs : s.Staffed) (hi : i ≠ 4) (out : Gen1Party) :
    s.requestLineup out i = slotLineup (s.autoSlots i) (s.slotScale i) := by
  obtain ⟨t, ht, hlineup, hne, -⟩ := autoLookup_lineup (hs.named i) (s.slotScale i)
  have hscale : s.slotScale i = s.memberLevels i := if_neg hi
  have hnat : (UInt8.ofNat i.val).toNat = i.val := by
    rw [UInt8.toNat_ofNat']
    omega
  have hidx : ¬UInt8.ofNat i.val = 4 := fun h => hi (Fin.ext (by rw [← hnat, h]; rfl))
  have hfin : (⟨(UInt8.ofNat i.val).toNat, by omega⟩ : Fin 5) = i := Fin.ext hnat
  have hpos : 0 < t.party.count := lineup_ne_nil (by
    rw [hlineup]
    exact fun h => hne (List.map_eq_nil_iff.mp h))
  unfold requestLineup buildLadderTrainerParty
  rw [if_neg hidx, dif_pos ⟨hs.enabled, by omega⟩]
  dsimp only
  rw [hfin, ← hscale, ht, Option.map_some, Option.getD_some, if_pos hpos, hlineup]

/-- A request for the leader is answered with the player's party, or the mons of the leader's slot. -/
theorem Staffed.requestLineup_leader (hs : s.Staffed) (out : Gen1Party) :
    s.requestLineup out 4 = if s.PlayerLeads then s.leader.party.lineup
      else slotLineup (s.autoSlots 4) (s.slotScale 4) := by
  obtain ⟨t, ht, hlineup, hne, -⟩ := autoLookup_lineup (hs.named 4) (s.slotScale 4)
  have hscale : s.slotScale 4 = s.leaderScale := if_pos rfl
  have hpos : 0 < t.party.count := lineup_ne_nil (by
    rw [hlineup]
    exact fun h => hne (List.map_eq_nil_iff.mp h))
  have hidx : (UInt8.ofNat (4 : Fin 5).val) = 4 := rfl
  unfold requestLineup buildLadderTrainerParty
  rw [if_pos hidx]
  unfold buildGymBattleParty
  by_cases hp : s.leader.nodeNum ≠ 0 ∧ s.leader.nodeNum ≠ npcLeader
  · rw [if_pos hp]
    exact (if_pos hp).symm
  · rw [if_neg hp, if_pos hs.enabled, ← hscale, ht, Option.map_some, Option.getD_some,
      if_pos ⟨hs.enabled, hpos⟩, hlineup]
    exact (if_neg hp).symm

/-- The two protocols agree on every slot. -/
def Agrees (s : GauntletState) : Prop := ∀ (c : LadderRun) (out : Gen1Party) (i : Fin 5),
  c.bulkActive = true → s.bulkLineup c i = s.requestLineup out i

/-- A player who leads leads with the mons of the leader's slot. -/
def Settled (s : GauntletState) : Prop :=
  s.PlayerLeads → s.leader.party.lineup = slotLineup (s.autoSlots 4) (s.slotScale 4)

theorem Staffed.agrees (hs : s.Staffed) (h : s.Settled) : s.Agrees := by
  intro c out i hc
  rw [hs.bulkLineup_eq hc]
  by_cases hi : i = 4
  · subst hi
    rw [hs.requestLineup_leader]
    split
    · rename_i hp
      exact (h hp).symm
    · rfl
  · rw [hs.requestLineup_grunt hi]

/-! ### What is read of a gym -/

/-- The fields that are served. -/
structure SameServed (s s' : GauntletState) : Prop where
  enabled : s'.autoEnabled = s.autoEnabled
  slots : s'.autoSlots = s.autoSlots
  levels : s'.memberLevels = s.memberLevels
  leaderLevel : s'.autoLeaderLevel = s.autoLeaderLevel
  leader : s'.leader = s.leader

variable {s' : GauntletState}

theorem SameServed.bulkLineup (h : SameServed s s') (c : LadderRun) (i : Fin 5) :
    s'.bulkLineup c i = s.bulkLineup c i := by
  have hslot : s'.buildSlot = s.buildSlot := by
    funext j
    unfold buildSlot
    rw [h.enabled, h.slots, h.levels, h.leaderLevel]
  unfold GauntletState.bulkLineup ladderPartiesPayload
  rw [hslot]

theorem SameServed.requestLineup (h : SameServed s s') (out : Gen1Party) (i : Fin 5) :
    s'.requestLineup out i = s.requestLineup out i := by
  have hgym : s'.buildGymBattleParty = s.buildGymBattleParty := by
    funext out
    unfold buildGymBattleParty leaderScale
    rw [h.enabled, h.slots, h.levels, h.leaderLevel, h.leader]
  unfold GauntletState.requestLineup buildLadderTrainerParty
  simp only [hgym, h.enabled, h.slots, h.levels]

/-! ### A gym that is not filled -/

theorem unfilled_bulk (h : s.autoEnabled = false) (hc : c.bulkActive = true) (i : Fin 5) :
    s.bulkLineup c i = [] := by
  have hslot (j : Fin 5) : s.buildSlot j = [] := by
    unfold buildSlot
    rw [if_neg (by rw [h]; decide)]
  rw [bulkLineup_slots (fun j => by rw [hslot]; decide) hc, hslot]
  rfl

/-- By request it serves its leader for every slot, and Lorelei where no leader is stored. -/
theorem unfilled_request (h : s.autoEnabled = false) (out : Gen1Party) (i : Fin 5) :
    s.requestLineup out i =
      if s.PlayerLeads ∨ 0 < s.leader.party.count then s.leader.party.lineup
      else (gauntletBuildE4Party 0).lineup := by
  have hparty : s.buildLadderTrainerParty out (UInt8.ofNat i.val) = s.buildGymBattleParty out := by
    unfold buildLadderTrainerParty
    split
    · rfl
    · rw [dif_neg fun hc => by rw [h] at hc; exact absurd hc.1 (by decide)]
  unfold requestLineup
  rw [hparty]
  unfold buildGymBattleParty
  by_cases hp : s.leader.nodeNum ≠ 0 ∧ s.leader.nodeNum ≠ npcLeader
  · rw [if_pos hp, if_pos (.inl hp)]
  · rw [if_neg hp, if_neg fun hc => by rw [h] at hc; exact absurd hc.1 (by decide)]
    by_cases hcount : 0 < s.leader.party.count
    · rw [if_pos hcount, if_pos (.inr hcount)]
    · rw [if_neg hcount, if_neg fun hc => hc.elim hp hcount]

theorem lineup_nil_iff {p : Gen1Party} : p.lineup = [] ↔ p.count = 0 := by
  constructor
  · intro h
    have hlen := congrArg List.length h
    rw [Gen1Party.lineup, List.length_ofFn, List.length_nil] at hlen
    refine UInt8.toNat_inj.mp ?_
    change p.count.toNat = 0
    omega
  · intro h
    by_contra hne
    have hpos := UInt8.lt_iff_toNat_lt.mp (lineup_ne_nil hne)
    rw [h] at hpos
    exact absurd hpos (by decide)

/-- It agrees with itself only under a player without mons. -/
theorem unfilled_agrees_iff (h : s.autoEnabled = false) :
    s.Agrees ↔ s.PlayerLeads ∧ s.leader.party.count = 0 := by
  have hlorelei : (gauntletBuildE4Party 0).lineup ≠ [] := fun hnil =>
    absurd (lineup_nil_iff.mp hnil) (by decide)
  constructor
  · intro ha
    have hnil : s.requestLineup .zero 0 = [] := by
      rw [← ha { LadderRun.idle with bulkActive := true } .zero 0 rfl, unfilled_bulk h rfl]
    rw [unfilled_request h] at hnil
    split at hnil
    · rename_i hor
      have hzero := lineup_nil_iff.mp hnil
      refine ⟨hor.resolve_right fun hpos => ?_, hzero⟩
      rw [hzero] at hpos
      exact absurd hpos (by decide)
    · exact absurd hnil hlorelei
  · rintro ⟨hp, hzero⟩ c out i hc
    rw [unfilled_bulk h hc, unfilled_request h, if_pos (.inl hp)]
    exact (lineup_nil_iff.mpr hzero).symm

end GauntletState
end MonsterMesh
