import MonsterMesh.Save.RoundTrip

/-! The two ways experience reaches a save record, against the species' growth curve. -/
namespace MonsterMesh

open DaycareSavPatcher Image

variable {s t : Image} {i k : ℕ} {xp : ℕ → UInt32}

/-! ### Crediting a mon of the terminal's party -/

theorem levelFromExpMediumFast_le (exp : ℕ) : levelFromExpMediumFast exp ≤ 100 :=
  climb_le _ exp 99 1

theorem battleExp_lt (exp : ℕ) (add : UInt32) : battleExp exp add < 16777216 :=
  Nat.lt_of_le_of_lt (Nat.min_le_right ..) (by decide)

theorem creditMon_exp {m : Image} {add : UInt32} (h : add ≠ 0) :
    (creditMon m add).read24 pkmExp = battleExp (m.read24 pkmExp) add := by
  unfold creditMon
  dsimp only
  rw [if_neg h]
  split_ifs
  · rw [read24_write _ (.inr (show pkmLevelPc + 1 ≤ pkmExp by decide)),
      read24_write _ (.inl (by decide)), read24_write24 (battleExp_lt ..)]
  · exact read24_write24 (battleExp_lt ..)

theorem creditMon_level {m : Image} {add : UInt32} (h : add ≠ 0) :
    (creditMon m add pkmLevelParty).toNat =
      max (m pkmLevelParty).toNat
        (levelFromExpMediumFast (battleExp (m.read24 pkmExp) add)) := by
  have hle := levelFromExpMediumFast_le (battleExp (m.read24 pkmExp) add)
  have hparty : ∀ v, m.write24 pkmExp v pkmLevelParty = m pkmLevelParty :=
    fun v => write_off (by simp only [List.length_cons, List.length_nil]; decide)
  unfold creditMon
  dsimp only
  rw [if_neg h, hparty]
  split_ifs with hlt
  · rw [write_off (by simp only [List.length_singleton]; decide), write_byte, UInt8.toNat_ofNat']
    omega
  · rw [hparty]
    omega

theorem creditMon_boxLevel {m : Image} {add : UInt32} (h : add ≠ 0) :
    (creditMon m add pkmLevelPc).toNat =
      if (m pkmLevelParty).toNat < levelFromExpMediumFast (battleExp (m.read24 pkmExp) add) then
        levelFromExpMediumFast (battleExp (m.read24 pkmExp) add)
      else (m pkmLevelPc).toNat := by
  have hle := levelFromExpMediumFast_le (battleExp (m.read24 pkmExp) add)
  have hoff : ∀ v k, ¬ Within pkmExp 3 k → m.write24 pkmExp v k = m k :=
    fun v k hk => write_off hk
  unfold creditMon
  dsimp only
  rw [if_neg h, hoff _ pkmLevelParty (by decide)]
  split_ifs with hlt
  · rw [write_byte, UInt8.toNat_ofNat']
    omega
  · rw [hoff _ pkmLevelPc (by decide)]

/-! ### One battle's credit, written back -/

/-- A battle's experience for the party of `s`, written back to `s`. -/
def battleSave (s : Image) (xp : ℕ → UInt32) : Image :=
  writeParty s ((loadParty s).creditBattleXpPerSlot xp)

section Slot

variable (xp : ℕ → UInt32) (hi : i < (loadParty s).slots)
include hi

theorem battleSave_byte {a n j : ℕ} (h : PlainField a n) (hj : j < n) :
    battleSave s xp (pkm i + a + j) = creditMon ((loadParty s).mons i) (xp i) (a + j) := by
  have hslot : i < ((loadParty s).creditBattleXpPerSlot xp).slots := hi
  unfold battleSave
  rw [writeParty_plain hslot h hj]
  change (if i < (loadParty s).count.toNat ∧ i < 6 then _ else _ : Image) (a + j) = _
  rw [if_pos (Nat.lt_min.mp hi)]

theorem battleSave_exp :
    (battleSave s xp).read24 (pkm i + pkmExp) =
      if xp i = 0 then s.read24 (pkm i + pkmExp)
      else battleExp (s.read24 (pkm i + pkmExp)) (xp i) := by
  have hp : PlainField pkmExp 3 := by decide
  have hload : ((loadParty s).mons i).read24 pkmExp = s.read24 (pkm i + pkmExp) :=
    read24_shift fun j hj => loadParty_plain hi hp hj
  have hsave : (battleSave s xp).read24 (pkm i + pkmExp) =
      (creditMon ((loadParty s).mons i) (xp i)).read24 pkmExp :=
    read24_shift fun j hj => battleSave_byte xp hi hp hj
  rw [hsave, ← hload]
  split_ifs with h
  · rw [h, creditMon_zero]
  · exact creditMon_exp h

theorem battleSave_level :
    (battleSave s xp (pkm i + pkmLevelParty)).toNat =
      if xp i = 0 then (s (pkm i + pkmLevelParty)).toNat
      else max (s (pkm i + pkmLevelParty)).toNat
        (levelFromExpMediumFast (battleExp (s.read24 (pkm i + pkmExp)) (xp i))) := by
  have hp : PlainField pkmLevelParty 1 := by decide
  have hsave := battleSave_byte xp hi hp (j := 0) (by decide)
  have hload := loadParty_plain hi hp (j := 0) (by decide)
  have hexp : ((loadParty s).mons i).read24 pkmExp = s.read24 (pkm i + pkmExp) :=
    read24_shift fun j hj => loadParty_plain hi (show PlainField pkmExp 3 by decide) hj
  simp only [Nat.add_zero] at hsave hload
  rw [hsave, ← hload, ← hexp]
  split_ifs with h
  · rw [h, creditMon_zero]
  · exact creditMon_level h

theorem battleSave_boxLevel :
    (battleSave s xp (pkm i + pkmLevelPc)).toNat =
      if xp i ≠ 0 ∧ (s (pkm i + pkmLevelParty)).toNat <
          levelFromExpMediumFast (battleExp (s.read24 (pkm i + pkmExp)) (xp i)) then
        levelFromExpMediumFast (battleExp (s.read24 (pkm i + pkmExp)) (xp i))
      else (s (pkm i + pkmLevelPc)).toNat := by
  have hp : PlainField pkmLevelPc 1 := by decide
  have hsave := battleSave_byte xp hi hp (j := 0) (by decide)
  have hload := loadParty_plain hi hp (j := 0) (by decide)
  have hlevel := loadParty_plain hi (show PlainField pkmLevelParty 1 by decide) (j := 0) (by decide)
  have hexp : ((loadParty s).mons i).read24 pkmExp = s.read24 (pkm i + pkmExp) :=
    read24_shift fun j hj => loadParty_plain hi (show PlainField pkmExp 3 by decide) hj
  simp only [Nat.add_zero] at hsave hload hlevel
  rw [hsave, ← hload, ← hlevel, ← hexp]
  by_cases h : xp i = 0
  · rw [if_neg fun hn => hn.1 h, h, creditMon_zero]
  · rw [creditMon_boxLevel h]
    simp only [ne_eq, h, not_false_eq_true, true_and]

/-- No stat is recomputed. -/
theorem battleSave_stats :
    storedStats (battleSave s xp) (pkm i) = storedStats s (pkm i) := by
  have hfield : ∀ a, pkmMaxHp ≤ a → a + 2 ≤ savPokemonSize →
      (battleSave s xp).read16 (pkm i + a) = s.read16 (pkm i + a) := by
    intro a h₀ h₁
    have hp : PlainField a 2 := .inr (.inr ⟨Nat.le_trans (by decide) h₀, h₁⟩)
    refine read16_shift fun j hj => ?_
    rw [battleSave_byte xp hi hp hj, ← loadParty_plain hi hp hj]
    refine creditMon_off _ _ _ ?_
    unfold GrowthByte Within pkmExp pkmLevelPc pkmLevelParty
    unfold pkmMaxHp at h₀
    omega
  unfold storedStats
  rw [hfield pkmMaxHp (by decide) (by decide), hfield pkmAttack (by decide) (by decide),
    hfield pkmDefense (by decide) (by decide), hfield pkmSpeed (by decide) (by decide),
    hfield pkmSpecial (by decide) (by decide)]

end Slot

/-! ### The growth curve -/

/-- A record of a species, at the level of its experience, which is within level 100's. -/
structure ConsistentRecord (s : Image) (i : ℕ) : Prop where
  species : IsSpecies (internalToDex (s (pkm i + pkmSpecies)))
  exp : s.read24 (pkm i + pkmExp) ≤ expForLevel (internalToDex (s (pkm i + pkmSpecies))) 100
  level : (s (pkm i + pkmLevelParty)).toNat =
    levelForExp (internalToDex (s (pkm i + pkmSpecies))) (s.read24 (pkm i + pkmExp))

/-- What a credit of `amount` is to make of the record: EXP up to level 100's, the level of that
EXP in both bytes, and the stats of that level. -/
structure Grown (s t : Image) (i amount : ℕ) : Prop where
  exp : t.read24 (pkm i + pkmExp) =
    min (s.read24 (pkm i + pkmExp) + amount)
      (expForLevel (internalToDex (s (pkm i + pkmSpecies))) 100)
  level : (t (pkm i + pkmLevelParty)).toNat =
    levelForExp (internalToDex (s (pkm i + pkmSpecies))) (t.read24 (pkm i + pkmExp))
  boxLevel : (t (pkm i + pkmLevelPc)).toNat =
    levelForExp (internalToDex (s (pkm i + pkmSpecies))) (t.read24 (pkm i + pkmExp))
  stats : storedStats t (pkm i) =
    statsFor s (pkm i) (internalToDex (s (pkm i + pkmSpecies)))
      (levelForExp (internalToDex (s (pkm i + pkmSpecies))) (t.read24 (pkm i + pkmExp)))

/-- Growing is never a loss. -/
theorem Grown.never_down {amount : ℕ} (h : Grown s t i amount) (hs : ConsistentRecord s i) :
    s.read24 (pkm i + pkmExp) ≤ t.read24 (pkm i + pkmExp) ∧
      s (pkm i + pkmLevelParty) ≤ t (pkm i + pkmLevelParty) := by
  have hexp : s.read24 (pkm i + pkmExp) ≤ t.read24 (pkm i + pkmExp) := by
    rw [h.exp]
    exact Nat.le_min.mpr ⟨Nat.le_add_right .., hs.exp⟩
  refine ⟨hexp, UInt8.le_iff_toNat_le.mpr ?_⟩
  rw [hs.level, h.level]
  exact levelForExp_mono hexp

/-- The daycare's path grows a record unless the 32-bit sum wraps. -/
theorem patchPokemon_grown (hi : i < 6) (hs : ConsistentRecord s i) (xp : UInt32) :
    Grown s (patchPokemon s i (internalToDex (s (pkm i + pkmSpecies))) xp) i xp.toNat ↔
      s.read24 (pkm i + pkmExp) + xp.toNat < 4294967296 := by
  have hexp := @read24_patchPokemon s i _ xp hi hs.species
  have hcap := hs.exp
  have hmax := expForLevel_100_le (internalToDex (s (pkm i + pkmSpecies)))
  have hxp := xp.toNat_lt
  constructor
  · intro h
    have hsum := h.exp
    rw [hexp] at hsum
    unfold creditedExp at hsum
    omega
  · intro hwrap
    have hbyte : ∀ e, (UInt8.ofNat (levelForExp
        (internalToDex (s (pkm i + pkmSpecies))) e)).toNat =
        levelForExp (internalToDex (s (pkm i + pkmSpecies))) e := by
      intro e
      have hle := levelForExp_le (internalToDex (s (pkm i + pkmSpecies))) e
      rw [UInt8.toNat_ofNat']
      omega
    exact
      { exp := hexp.trans (creditedExp_eq hwrap)
        level := by rw [levels_patchPokemon hi hs.species (.inr rfl), hbyte, hexp]
        boxLevel := by rw [levels_patchPokemon hi hs.species (.inl rfl), hbyte, hexp]
        stats := by rw [storedStats_patchPokemon hi hs.species, hexp] }

/-- When the terminal's single cubic curve and its cap of a million come out as the species' own
rule: for the record's EXP and this amount, with nothing left to do for the second level byte and
the stats. -/
structure CubicAgrees (s : Image) (i : ℕ) (add : UInt32) : Prop where
  credit : add ≠ 0 → s.read24 (pkm i + pkmExp) + add.toNat < 4294967296 ∧
    min (s.read24 (pkm i + pkmExp) + add.toNat) 1000000 =
      min (s.read24 (pkm i + pkmExp) + add.toNat)
        (expForLevel (internalToDex (s (pkm i + pkmSpecies))) 100) ∧
    max (s (pkm i + pkmLevelParty)).toNat (levelFromExpMediumFast
      (min (s.read24 (pkm i + pkmExp) + add.toNat) 1000000)) =
      levelForExp (internalToDex (s (pkm i + pkmSpecies)))
        (min (s.read24 (pkm i + pkmExp) + add.toNat) 1000000)
  boxLevel : levelForExp (internalToDex (s (pkm i + pkmSpecies)))
      (min (s.read24 (pkm i + pkmExp) + add.toNat)
        (expForLevel (internalToDex (s (pkm i + pkmSpecies))) 100)) =
      (s (pkm i + pkmLevelParty)).toNat →
    s (pkm i + pkmLevelPc) = s (pkm i + pkmLevelParty)
  stats : storedStats s (pkm i) =
    statsFor s (pkm i) (internalToDex (s (pkm i + pkmSpecies)))
      (levelForExp (internalToDex (s (pkm i + pkmSpecies)))
        (min (s.read24 (pkm i + pkmExp) + add.toNat)
          (expForLevel (internalToDex (s (pkm i + pkmSpecies))) 100)))

theorem battleExp_eq {exp : ℕ} {add : UInt32} (h : exp + add.toNat < 4294967296) :
    battleExp exp add = min (exp + add.toNat) 1000000 := by
  unfold battleExp
  rw [Nat.mod_eq_of_lt h]

theorem Grown.cubicAgrees (hi : i < (loadParty s).slots) (hs : ConsistentRecord s i)
    (h : Grown s (battleSave s xp) i (xp i).toNat) : CubicAgrees s i (xp i) := by
  have hcap := hs.exp
  have hmax := expForLevel_100_le (internalToDex (s (pkm i + pkmSpecies)))
  have hxp := (xp i).toNat_lt
  have hexp := h.exp
  have hlevel := h.level
  have hbox := h.boxLevel
  have hstats := h.stats
  rw [battleSave_level xp hi] at hlevel
  rw [battleSave_boxLevel xp hi] at hbox
  rw [battleSave_stats xp hi] at hstats
  refine ⟨fun hne => ?_, fun hsame => ?_, ?_⟩
  · have hsum := battleSave_exp xp hi
    rw [if_neg hne] at hsum
    have hwrap : s.read24 (pkm i + pkmExp) + (xp i).toNat < 4294967296 := by
      rw [hexp] at hsum
      unfold battleExp at hsum
      omega
    rw [if_neg hne, hsum, battleExp_eq hwrap] at hlevel
    rw [battleExp_eq hwrap, hexp] at hsum
    exact ⟨hwrap, hsum.symm, hlevel⟩
  · rw [hexp, hsame] at hbox
    refine UInt8.toNat_inj.mp ?_
    split_ifs at hbox with hup
    · exact absurd hbox (Nat.ne_of_gt hup.2)
    · exact hbox
  · rwa [hexp] at hstats

theorem CubicAgrees.grown (hi : i < (loadParty s).slots) (hs : ConsistentRecord s i)
    (h : CubicAgrees s i (xp i)) : Grown s (battleSave s xp) i (xp i).toNat := by
  have hcap := hs.exp
  have hexp : (battleSave s xp).read24 (pkm i + pkmExp) =
      min (s.read24 (pkm i + pkmExp) + (xp i).toNat)
        (expForLevel (internalToDex (s (pkm i + pkmSpecies))) 100) := by
    rw [battleSave_exp xp hi]
    split_ifs with h0
    · rw [h0, UInt32.toNat_zero, Nat.add_zero, Nat.min_eq_left hcap]
    · obtain ⟨hwrap, hmin, _⟩ := h.credit h0
      rw [battleExp_eq hwrap, hmin]
  have hlevel : (battleSave s xp (pkm i + pkmLevelParty)).toNat =
      levelForExp (internalToDex (s (pkm i + pkmSpecies)))
        ((battleSave s xp).read24 (pkm i + pkmExp)) := by
    rw [battleSave_level xp hi, hexp]
    split_ifs with h0
    · rw [h0, UInt32.toNat_zero, Nat.add_zero, Nat.min_eq_left hcap, hs.level]
    · obtain ⟨hwrap, hmin, hagree⟩ := h.credit h0
      rw [battleExp_eq hwrap, hagree, hmin]
  refine ⟨hexp, hlevel, ?_, ?_⟩
  · have hbox := h.boxLevel
    rw [← hexp, ← hlevel, battleSave_level xp hi] at hbox
    rw [← hlevel, battleSave_level xp hi, battleSave_boxLevel xp hi]
    by_cases h0 : xp i = 0
    · rw [if_neg fun hn => hn.1 h0, if_pos h0]
      rw [if_pos h0] at hbox
      rw [hbox rfl]
    · rw [if_neg h0] at hbox ⊢
      split_ifs with hup
      · omega
      · have hle : ¬ (s (pkm i + pkmLevelParty)).toNat <
            levelFromExpMediumFast (battleExp (s.read24 (pkm i + pkmExp)) (xp i)) :=
          fun hlt => hup ⟨h0, hlt⟩
        rw [hbox (by omega)]
        omega
  · rw [battleSave_stats xp hi, hexp]
    exact h.stats

/-- Of a consistent record, the daycare makes what the growth curve says unless the sum wraps; the
terminal does so just where its cubic curve happens to agree. -/
theorem credits_follow_curve (hi : i < min (s savPartyCount).toNat 6) (hs : ConsistentRecord s i)
    (xp : ℕ → UInt32) :
    (Grown s (patchPokemon s i (internalToDex (s (pkm i + pkmSpecies))) (xp i)) i (xp i).toNat ↔
        s.read24 (pkm i + pkmExp) + (xp i).toNat < 4294967296) ∧
      (Grown s (battleSave s xp) i (xp i).toNat ↔ CubicAgrees s i (xp i)) := by
  have hslot : i < (loadParty s).slots := loadParty_slots s ▸ hi
  exact ⟨patchPokemon_grown (Nat.lt_of_lt_of_le hi (Nat.min_le_right ..)) hs (xp i),
    Grown.cubicAgrees hslot hs, CubicAgrees.grown hslot hs⟩

/-- A Pikachu whose stats are up to date. -/
def trimSave : Image := patchPokemon (soloSave 0x54 5 125) 0 25 1

theorem credits_follow_curve_pikachu :
    Grown trimSave (patchPokemon trimSave 0 25 10) 0 10 ∧
      Grown trimSave (battleSave trimSave fun _ => 10) 0 10 := by
  have hs : ConsistentRecord trimSave 0 :=
    ⟨by decide +kernel, by decide +kernel, by decide +kernel⟩
  have h := credits_follow_curve (by decide +kernel) hs fun _ => 10
  exact ⟨h.1.mpr (by decide +kernel),
    h.2.mpr ⟨by decide +kernel, by decide +kernel, by decide +kernel⟩⟩

/-- On the slow curve a Dratini at level 10 is put at level 11 313 points early. -/
theorem dratini_levels_early :
    ConsistentRecord (soloSave 0x58 10 1250) 0 ∧
      ¬ Grown (soloSave 0x58 10 1250) (battleSave (soloSave 0x58 10 1250) fun _ => 100) 0 100 := by
  have hi : 0 < (loadParty (soloSave 0x58 10 1250)).slots := by decide +kernel
  refine ⟨⟨by decide +kernel, by decide +kernel, by decide +kernel⟩, fun h => ?_⟩
  have hlevel := h.level
  rw [h.exp, battleSave_level _ hi] at hlevel
  exact absurd hlevel (by decide +kernel)

end MonsterMesh
