import MonsterMesh.Gym.Admin
import MonsterMesh.Gym.Challenger

/-! The mons of a ladder slot, as a party is built from it and as they go over the air. -/
namespace MonsterMesh

open GauntletState (LadderMonWire)

/-! ### The roster -/

/-- A party that can be built: one to six mons, each with a species and a level. -/
def Buildable (l : List (UInt8 × UInt8)) : Prop := l ≠ [] ∧ l.length ≤ 6 ∧ ∀ m ∈ l, Known m

instance (l : List (UInt8 × UInt8)) : Decidable (Buildable l) :=
  haveI : Decidable (∀ m ∈ l, Known m) := List.decidableBAll Known l
  inferInstanceAs (Decidable (_ ∧ _ ∧ _))

/-- What the roster lists of a mon. -/
def GymPresetMon.known (m : GymPresetMon) : UInt8 × UInt8 := (m.dex, m.level)

theorem gyms_buildable : ∀ g ∈ gauntletGyms, g.trainers.length = 5 ∧
    ∀ tr ∈ g.trainers, Buildable (tr.party.map GymPresetMon.known) := by decide +kernel

theorem elites_buildable : ∀ e ∈ elitePool, e.bossLevel ≠ 0 ∧ Buildable e.party := by decide +kernel

/-- A pair of source and index that names a trainer. -/
def Named (slot : UInt8 × UInt8) : Prop := slot.1.toNat ≤ 8 ∧ slot.2.toNat < 5

instance (slot : UInt8 × UInt8) : Decidable (Named slot) := inferInstanceAs (Decidable (_ ∧ _))

theorem gauntletGymPreset_some {g : UInt8} (h : g.toNat < 8) : ∃ p, gauntletGymPreset g = some p ∧
    p ∈ gauntletGyms := by
  have hlt : g.toNat < gauntletGyms.length := h
  exact ⟨gauntletGyms[g.toNat], List.getElem?_eq_getElem hlt, List.getElem_mem hlt⟩

theorem presetTrainer_some {g t : UInt8} (hg : g.toNat < 8) (ht : t.toNat < 5) :
    ∃ tr, (gauntletGymPreset g).bind (·.trainers[t.toNat]?) = some tr ∧
      Buildable (tr.party.map GymPresetMon.known) := by
  obtain ⟨p, hp, hmem⟩ := gauntletGymPreset_some hg
  obtain ⟨hlen, hbuild⟩ := gyms_buildable p hmem
  have hlt : t.toNat < p.trainers.length := hlen ▸ ht
  refine ⟨p.trainers[t.toNat], ?_, hbuild _ (List.getElem_mem hlt)⟩
  rw [hp]
  exact List.getElem?_eq_getElem hlt

theorem elite_some {t : UInt8} (ht : t.toNat < 5) : ∃ e, elitePool[t.toNat]? = some e ∧
    e.bossLevel ≠ 0 ∧ Buildable e.party := by
  have hlt : t.toNat < elitePool.length := ht
  exact ⟨elitePool[t.toNat], List.getElem?_eq_getElem hlt, elites_buildable _ (List.getElem_mem hlt)⟩

/-! ### The mons of a slot -/

/-- The mons of a trainer with its strongest moved to level `scale`. -/
def slotMons (slot : UInt8 × UInt8) (scale : UInt8) : List LadderMonWire :=
  if slot.1 < gauntletGymCount then
    match (gauntletGymPreset slot.1).bind (·.trainers[slot.2.toNat]?) with
    | none => []
    | some tr =>
      let canonBoss := if bossLevel tr.party = 0 then 1 else bossLevel tr.party
      ((tr.party.filter (·.dex ≠ 0)).take 6).map fun m =>
        ⟨m.dex, scaledLevel scale canonBoss m.level, m.presetMoves⟩
  else if slot.1 = 8 then
    match elitePool[slot.2.toNat]? with
    | none => []
    | some e =>
      let canonBoss := if e.bossLevel = 0 then 1 else e.bossLevel
      (e.party.take 6).map fun m => ⟨m.1, scaledLevel scale canonBoss m.2, pickDefaultMoves m.1⟩
  else []

/-- What a challenger makes of a mon on the wire. -/
def GauntletState.LadderMonWire.entry (m : LadderMonWire) : UInt8 × UInt8 × (Fin 4 → UInt8) :=
  (dexToInternal m.dex, m.level, m.moves)

/-- Species, level and moves of the mons of a slot. -/
def slotLineup (slot : UInt8 × UInt8) (scale : UInt8) : List (UInt8 × UInt8 × (Fin 4 → UInt8)) :=
  (slotMons slot scale).map LadderMonWire.entry

theorem known_spec {dex level scale canon : UInt8} {moves : Fin 4 → UInt8} {nick : String}
    (h : Known (dex, level)) :
    (⟨dex, scaledLevel scale canon level, moves, nick⟩ : MonSpec).Proper := by
  obtain ⟨h₁, h₂, h₃⟩ := h
  have hlvl := scaledLevel_range scale canon h₃
  refine ⟨fun h => ?_, UInt8.le_iff_toNat_le.mpr h₂, fun h => ?_⟩
  · subst h
    exact absurd h₁ (by decide : ¬1 ≤ (0 : UInt8).toNat)
  · rw [show scaledLevel scale canon level = 0 from h] at hlvl
    exact absurd hlvl.1 (by decide)

/-- A named slot has a trainer, whose party is the mons of the slot. -/
theorem autoLookup_lineup {slot : UInt8 × UInt8} (h : Named slot) (scale : UInt8) :
    ∃ t, autoLookupTrainer slot.1 slot.2 scale = some t ∧
      t.party.lineup = slotLineup slot scale ∧ slotMons slot scale ≠ [] ∧
        (slotMons slot scale).length ≤ 6 := by
  obtain ⟨source, trainer⟩ := slot
  obtain ⟨hs, ht⟩ := h
  dsimp only at hs ht ⊢
  by_cases hlt : source.toNat < 8
  · have hlt' : source < gauntletGymCount := UInt8.lt_iff_toNat_lt.mpr hlt
    obtain ⟨tr, htr, hne, hlen, hknown⟩ := presetTrainer_some hlt ht
    rw [List.length_map] at hlen
    have hk (m : GymPresetMon) (hm : m ∈ tr.party) : Known (m.dex, m.level) :=
      hknown _ (List.mem_map_of_mem hm)
    have hfilter : (tr.party.filter (·.dex ≠ 0)).take 6 = tr.party := by
      rw [List.filter_eq_self.mpr, List.take_of_length_le hlen]
      intro m hm
      refine decide_eq_true fun h => ?_
      have h₁ := (hk m hm).1
      rw [show m.dex = 0 from h] at h₁
      exact absurd h₁ (by decide : ¬1 ≤ (0 : UInt8).toNat)
    have hmons : slotMons (source, trainer) scale = tr.party.map fun m =>
        ⟨m.dex, scaledLevel scale (if bossLevel tr.party = 0 then 1 else bossLevel tr.party) m.level,
          m.presetMoves⟩ := by
      unfold slotMons
      rw [if_pos hlt', htr]
      dsimp only
      rw [hfilter]
    refine ⟨⟨tr.name, bossLevel tr.party, gauntletBuildPresetTrainerParty source trainer scale⟩, ?_,
      ?_, ?_, ?_⟩
    · unfold autoLookupTrainer
      rw [if_pos hlt', htr]
      rfl
    · unfold gauntletBuildPresetTrainerParty slotLineup
      rw [htr, hmons]
      dsimp only
      rw [fillParty_lineup, List.map_map, List.map_map]
      · rfl
      · intro y hy
        obtain ⟨m, hm, rfl⟩ := List.mem_map.mp hy
        exact known_spec (hk m hm)
      · rwa [List.length_map]
    · rw [hmons]
      exact fun h => hne (List.map_eq_nil_iff.mpr (List.map_eq_nil_iff.mp h))
    · rw [hmons, List.length_map]
      exact hlen
  · have heq : source = 8 := UInt8.toNat_inj.mp (by
      change source.toNat = 8
      omega)
    subst heq
    have hnlt : ¬(8 : UInt8) < gauntletGymCount := by decide
    obtain ⟨e, he, hboss, hne, hlen, hknown⟩ := elite_some ht
    have hmons : slotMons (8, trainer) scale = e.party.map fun m =>
        ⟨m.1, scaledLevel scale e.bossLevel m.2, pickDefaultMoves m.1⟩ := by
      unfold slotMons
      rw [if_neg hnlt, if_pos rfl, he]
      dsimp only
      rw [if_neg hboss, List.take_of_length_le hlen]
    refine ⟨⟨e.name, e.bossLevel, gauntletParseParty (eliteCsv e scale)⟩, ?_, ?_, ?_, ?_⟩
    · unfold autoLookupTrainer
      rw [if_neg hnlt, if_pos rfl, he]
      rfl
    · unfold slotLineup
      rw [hmons, List.map_map]
      exact parse_eliteCsv hne hlen hknown
    · rw [hmons]
      exact fun h => hne (List.map_eq_nil_iff.mp h)
    · rw [hmons, List.length_map]
      exact hlen

theorem lineup_ne_nil {p : Gen1Party} (h : p.lineup ≠ []) : 0 < p.count := by
  rw [UInt8.lt_iff_toNat_lt]
  by_contra hn
  have hzero : p.count.toNat = 0 := Nat.le_zero.mp (Nat.le_of_not_lt hn)
  refine h (List.eq_nil_of_length_eq_zero ?_)
  rw [Gen1Party.lineup, List.length_ofFn, hzero]
  rfl

/-! ### The level of a slot -/

/-- The canonical level of the strongest mon of a slot. -/
def slotBoss (slot : UInt8 × UInt8) : UInt8 :=
  ((autoLookupTrainer slot.1 slot.2 0).map (·.bossLevel)).getD 0

/-- The level a slot is scaled to, 0 standing for its canonical level. -/
def slotLevel (slot : UInt8 × UInt8) (scale : UInt8) : UInt8 := if scale = 0 then slotBoss slot else scale

def namedSlots : List (UInt8 × UInt8) :=
  (List.finRange 9).flatMap fun source => (List.finRange 5).map fun trainer =>
    (UInt8.ofNat source.val, UInt8.ofNat trainer.val)

theorem Named.mem {slot : UInt8 × UInt8} (h : Named slot) : slot ∈ namedSlots := by
  obtain ⟨source, trainer⟩ := slot
  obtain ⟨hs, ht⟩ := h
  dsimp only at hs ht
  refine List.mem_flatMap.mpr ⟨⟨source.toNat, by omega⟩, List.mem_finRange _, ?_⟩
  refine List.mem_map.mpr ⟨⟨trainer.toNat, ht⟩, List.mem_finRange _, ?_⟩
  rw [UInt8.ofNat_toNat, UInt8.ofNat_toNat]

/-- No mon of a slot is stronger than its boss, who is one of them. -/
structure Bossed (slot : UInt8 × UInt8) : Prop where
  levels : ∀ m ∈ slotMons slot 0, 1 ≤ m.level.toNat ∧ m.level ≤ slotBoss slot
  boss_le : (slotBoss slot).toNat ≤ 100
  boss : ∃ m ∈ slotMons slot 0, m.level = slotBoss slot

instance (slot : UInt8 × UInt8) : Decidable (Bossed slot) :=
  decidable_of_iff ((∀ m ∈ slotMons slot 0, 1 ≤ m.level.toNat ∧ m.level ≤ slotBoss slot) ∧
      (slotBoss slot).toNat ≤ 100 ∧ ∃ m ∈ slotMons slot 0, m.level = slotBoss slot)
    ⟨fun h => ⟨h.1, h.2.1, h.2.2⟩, fun h => ⟨h.levels, h.boss_le, h.boss⟩⟩

theorem Named.bossed {slot : UInt8 × UInt8} (h : Named slot) : Bossed slot := by
  have hall : ∀ (source : Fin 9) (trainer : Fin 5),
      Bossed (UInt8.ofNat source.val, UInt8.ofNat trainer.val) := by decide +kernel
  obtain ⟨source, trainer⟩ := slot
  obtain ⟨hs, ht⟩ := h
  dsimp only at hs ht
  have hslot := hall ⟨source.toNat, by omega⟩ ⟨trainer.toNat, ht⟩
  rwa [UInt8.ofNat_toNat, UInt8.ofNat_toNat] at hslot

/-- What a slot lists whatever its level. -/
def GauntletState.LadderMonWire.kind (m : LadderMonWire) : UInt8 × UInt8 × UInt8 × UInt8 × UInt8 :=
  (dexToInternal m.dex, m.moves 0, m.moves 1, m.moves 2, m.moves 3)

theorem stock_kinds : (namedSlots.map fun slot => (slotMons slot 0).map LadderMonWire.kind).Nodup := by
  decide +kernel

/-- The mons of a slot are its canonical mons, moved together. -/
theorem slotMons_scaled {slot : UInt8 × UInt8} (h : Named slot) (scale : UInt8) :
    slotMons slot scale = (slotMons slot 0).map fun m =>
      { m with level := scaledLevel scale (slotBoss slot) m.level } := by
  obtain ⟨source, trainer⟩ := slot
  obtain ⟨hs, ht⟩ := h
  dsimp only at hs ht
  by_cases hlt : source.toNat < 8
  · have hlt' : source < gauntletGymCount := UInt8.lt_iff_toNat_lt.mpr hlt
    obtain ⟨tr, htr, -⟩ := presetTrainer_some hlt ht
    have hboss : slotBoss (source, trainer) = bossLevel tr.party := by
      unfold slotBoss autoLookupTrainer
      rw [if_pos hlt', htr]
      rfl
    have hne : bossLevel tr.party ≠ 0 := by
      intro h0
      have hn : Named (source, trainer) := ⟨hs, ht⟩
      obtain ⟨hle, -, m, hm, hmb⟩ := hn.bossed
      have hone := (hle m hm).1
      rw [hmb, hboss, h0] at hone
      exact absurd hone (by decide)
    have hform (scale : UInt8) : slotMons (source, trainer) scale =
        ((tr.party.filter (·.dex ≠ 0)).take 6).map fun m =>
          ⟨m.dex, scaledLevel scale (bossLevel tr.party) m.level, m.presetMoves⟩ := by
      unfold slotMons
      rw [if_pos hlt', htr]
      dsimp only
      rw [if_neg hne]
    rw [hform scale, hform 0, hboss, List.map_map]
    rfl
  · have heq : source = 8 := UInt8.toNat_inj.mp (by
      change source.toNat = 8
      omega)
    subst heq
    have hnlt : ¬(8 : UInt8) < gauntletGymCount := by decide
    obtain ⟨e, he, hne, -⟩ := elite_some ht
    have hboss : slotBoss (8, trainer) = e.bossLevel := by
      unfold slotBoss autoLookupTrainer
      rw [if_neg hnlt, if_pos rfl, he]
      rfl
    have hform (scale : UInt8) : slotMons (8, trainer) scale = (e.party.take 6).map fun m =>
        ⟨m.1, scaledLevel scale e.bossLevel m.2, pickDefaultMoves m.1⟩ := by
      unfold slotMons
      rw [if_neg hnlt, if_pos rfl, he]
      dsimp only
      rw [if_neg hne]
    rw [hform scale, hform 0, hboss, List.map_map]
    rfl

theorem scaledLevel_self {boss level : UInt8} (h : 1 ≤ level.toNat ∧ level ≤ boss)
    (hb : boss.toNat ≤ 100) : scaledLevel boss boss level = level := by
  have hle := UInt8.le_iff_toNat_le.mp h.2
  have hpos : 0 < boss := UInt8.lt_iff_toNat_lt.mpr (show (0 : UInt8).toNat < boss.toNat from by
    change 0 < boss.toNat
    omega)
  unfold scaledLevel
  dsimp only
  rw [if_pos hpos, if_neg (by omega), if_neg (by omega)]
  refine UInt8.toNat_inj.mp ?_
  rw [UInt8.toNat_ofNat']
  omega

/-- The boss of a slot has the level the slot is scaled to. -/
theorem scaledLevel_boss {boss scale : UInt8} (hs : scale ≠ 0) (hle : scale.toNat ≤ 100) :
    scaledLevel scale boss boss = scale := by
  have hone : 0 < scale.toNat := Nat.pos_of_ne_zero fun h => hs (UInt8.toNat_inj.mp h)
  have hpos : 0 < scale := UInt8.lt_iff_toNat_lt.mpr hone
  unfold scaledLevel
  dsimp only
  rw [if_pos hpos, if_neg (by omega), if_neg (by omega)]
  refine UInt8.toNat_inj.mp ?_
  rw [UInt8.toNat_ofNat']
  omega

/-- The canonical mons are those at the canonical level. -/
theorem slotMons_level {slot : UInt8 × UInt8} (h : Named slot) (scale : UInt8) :
    slotMons slot scale = slotMons slot (slotLevel slot scale) := by
  unfold slotLevel
  by_cases hs : scale = 0
  · rw [if_pos hs, hs, slotMons_scaled h (slotBoss slot)]
    obtain ⟨hle, hb, -⟩ := h.bossed
    refine (List.map_id _).symm.trans (List.map_congr_left fun m hm => ?_)
    rw [scaledLevel_self (hle m hm) hb]
    rfl
  · rw [if_neg hs]

theorem slotLineup_level {slot : UInt8 × UInt8} {a b : UInt8} (h : Named slot)
    (hab : slotLevel slot a = slotLevel slot b) : slotLineup slot a = slotLineup slot b := by
  unfold slotLineup
  rw [slotMons_level h a, slotMons_level h b, hab]

/-- Two levels of a slot differ in its mons. -/
theorem slotLevel_of_lineup {slot : UInt8 × UInt8} {a b : UInt8} (h : Named slot) (ha : a.toNat ≤ 100)
    (hb : b.toNat ≤ 100) (hab : slotLineup slot a = slotLineup slot b) :
    slotLevel slot a = slotLevel slot b := by
  obtain ⟨hle, hboss, m, hm, hmb⟩ := h.bossed
  have hone := (hle m hm).1
  have hlevel (scale : UInt8) (hs : scale.toNat ≤ 100) :
      (slotLevel slot scale).toNat ≤ 100 ∧ slotLevel slot scale ≠ 0 := by
    unfold slotLevel
    split
    · refine ⟨hboss, fun h0 => ?_⟩
      rw [hmb, h0] at hone
      exact absurd hone (by decide)
    · rename_i h0
      exact ⟨hs, h0⟩
  have hmap (scale : UInt8) : (slotLineup slot scale) = (slotMons slot 0).map fun m =>
      (dexToInternal m.dex, scaledLevel (slotLevel slot scale) (slotBoss slot) m.level, m.moves) := by
    unfold slotLineup
    rw [slotMons_level h, slotMons_scaled h, List.map_map]
    rfl
  rw [hmap a, hmap b] at hab
  have hsame := List.map_inj_left.mp hab m hm
  rw [hmb, scaledLevel_boss (hlevel a ha).2 (hlevel a ha).1,
    scaledLevel_boss (hlevel b hb).2 (hlevel b hb).1] at hsame
  exact congrArg (·.2.1) hsame

/-- Two trainers differ in their mons at any levels. -/
theorem slot_of_lineup {slot slot' : UInt8 × UInt8} {a b : UInt8} (h : Named slot) (h' : Named slot')
    (hab : slotLineup slot a = slotLineup slot' b) : slot = slot' := by
  have hkind {slot : UInt8 × UInt8} (h : Named slot) (scale : UInt8) :
      (slotLineup slot scale).map (fun x => (x.1, x.2.2 0, x.2.2 1, x.2.2 2, x.2.2 3)) =
        (slotMons slot 0).map LadderMonWire.kind := by
    unfold slotLineup
    rw [slotMons_scaled h, List.map_map, List.map_map]
    rfl
  refine List.inj_on_of_nodup_map stock_kinds h.mem h'.mem ?_
  rw [← hkind h a, ← hkind h' b, hab]

/-! ### The mons over the air -/

theorem putBulkMon_mons (gp : Gen1Party) (m : ℕ) (dex level : UInt8) (moves : Fin 4 → UInt8)
    (i : Fin 6) : (putBulkMon gp m dex level moves).mons i =
      if i.val = m then bulkMon dex level moves else gp.mons i := rfl

/-- The mons of a slot are read where they were written. -/
theorem readMons_bytes (l : List LadderMonWire) (m : ℕ) (gp : Gen1Party) (rest : List UInt8) :
    ∃ gp', readMons l.length m gp (l.flatMap LadderMonWire.bytes ++ rest) = (true, gp', rest) ∧
      gp'.count = gp.count ∧ (∀ i : Fin 6, i.val < m → gp'.mons i = gp.mons i) ∧
      ∀ (i : Fin 6) (w : LadderMonWire), m ≤ i.val → l[i.val - m]? = some w →
        (gp'.mons i).entry = w.entry := by
  induction l generalizing m gp with
  | nil => exact ⟨gp, rfl, rfl, fun _ _ => rfl, nofun⟩
  | cons x l ih =>
    obtain ⟨gp', hread, hcount, hbelow, hmons⟩ := ih (m + 1)
      (putBulkMon gp m x.dex x.level ![x.moves 0, x.moves 1, x.moves 2, x.moves 3])
    refine ⟨gp', hread, hcount, fun i hi => ?_, fun i w hi hw => ?_⟩
    · rw [hbelow i (by omega), putBulkMon_mons, if_neg (by omega)]
    · by_cases him : i.val = m
      · rw [him, Nat.sub_self] at hw
        obtain rfl : x = w := Option.some.inj hw
        rw [hbelow i (by omega), putBulkMon_mons, if_pos him]
        have hmoves : ![x.moves 0, x.moves 1, x.moves 2, x.moves 3] = x.moves := by
          funext k
          match k with
          | 0 => rfl
          | 1 => rfl
          | 2 => rfl
          | 3 => rfl
        rw [hmoves]
        rfl
      · refine hmons i w (by omega) ?_
        rwa [show i.val - m = i.val - (m + 1) + 1 by omega, List.getElem?_cons_succ] at hw

theorem lineup_of_entries {gp : Gen1Party} {l : List LadderMonWire} (hlen : l.length ≤ 6)
    (hcount : gp.count = UInt8.ofNat l.length)
    (hmons : ∀ (i : Fin 6) (w : LadderMonWire), l[i.val]? = some w → (gp.mons i).entry = w.entry) :
    gp.lineup = l.map LadderMonWire.entry := by
  have hc : gp.count.toNat = l.length := by
    rw [hcount, UInt8.toNat_ofNat']
    omega
  have hlineup : gp.lineup.length = l.length := by
    rw [Gen1Party.lineup, List.length_ofFn, hc]
    omega
  refine List.ext_getElem (by rw [hlineup, List.length_map]) fun j hj _ => ?_
  rw [hlineup] at hj
  simp only [Gen1Party.lineup, List.getElem_ofFn, List.getElem_map]
  exact hmons ⟨j, by omega⟩ _ (List.getElem?_eq_getElem hj)

/-- A slot of the packet. -/
def slotBytes (mons : List LadderMonWire) : List UInt8 :=
  UInt8.ofNat mons.length :: mons.flatMap LadderMonWire.bytes

theorem readParty_slot {l : List LadderMonWire} (hlen : l.length ≤ 6) (rest : List UInt8) :
    ∃ gp, readParty (slotBytes l ++ rest) = (true, gp, rest) ∧
      gp.lineup = l.map LadderMonWire.entry := by
  obtain ⟨gp, hread, hcount, -, hmons⟩ :=
    readMons_bytes l 0 { Gen1Party.zero with count := UInt8.ofNat l.length } rest
  refine ⟨gp, ?_, lineup_of_entries hlen hcount fun i w hw => hmons i w (Nat.zero_le _) hw⟩
  have hsmall : ¬6 < UInt8.ofNat l.length := by
    rw [UInt8.lt_iff_toNat_lt, UInt8.toNat_ofNat']
    change ¬6 < l.length % 256
    omega
  have hn : (UInt8.ofNat l.length).toNat = l.length := by
    rw [UInt8.toNat_ofNat']
    omega
  unfold slotBytes readParty
  rw [List.cons_append]
  dsimp only
  rw [if_neg hsmall, hn]
  exact hread

/-- The parties of a packet are the mons of its slots. -/
theorem readParties_slots {ls : List (List LadderMonWire)} (h : ∀ l ∈ ls, l.length ≤ 6) :
    (readParties ls.length (ls.flatMap slotBytes)).1 = true ∧
      (readParties ls.length (ls.flatMap slotBytes)).2.map Gen1Party.lineup =
        ls.map (·.map LadderMonWire.entry) := by
  induction ls with
  | nil => exact ⟨rfl, rfl⟩
  | cons l ls ih =>
    obtain ⟨gp, hread, hgp⟩ := readParty_slot (h l (List.mem_cons_self ..)) (ls.flatMap slotBytes)
    obtain ⟨hok, hmap⟩ := ih fun x hx => h x (List.mem_cons_of_mem l hx)
    rw [List.flatMap_cons, List.length_cons]
    unfold readParties
    dsimp only
    rw [hread]
    dsimp only
    rw [if_pos rfl]
    exact ⟨hok, by rw [List.map_cons, hgp, hmap, List.map_cons]⟩

/-- Five slots always fit. -/
theorem packSlots_eq {ls : List (List LadderMonWire)} (h : ∀ l ∈ ls, l.length ≤ 6) (off : ℕ)
    (hoff : off + 37 * ls.length ≤ 196) : GauntletState.packSlots off ls = ls.flatMap slotBytes := by
  induction ls generalizing off with
  | nil => rfl
  | cons l ls ih =>
    have hl := h l (List.mem_cons_self ..)
    rw [List.length_cons] at hoff
    unfold GauntletState.packSlots
    rw [if_neg (by unfold battlelinkMaxPayload; omega),
      ih (fun x hx => h x (List.mem_cons_of_mem l hx)) _ (by omega)]
    rfl

end MonsterMesh
