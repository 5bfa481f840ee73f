import MonsterMesh.Save.Patcher

/-! What the patcher does to one record of the party: the fields it writes and what they hold. -/
namespace MonsterMesh
namespace DaycareSavPatcher

open Image

/-! ### The fields of a record -/

/-- The 44 bytes of party slot `i`. -/
def Record (i : ℕ) : ℕ → Prop := Within (pkm i) savPokemonSize

/-- Current HP, and maximum HP with the four other stats. -/
def StatField (p x : ℕ) : Prop := Within (p + pkmCurrentHp) 2 x ∨ Within (p + pkmMaxHp) 10 x

/-- EXP, the two level bytes and the stats. -/
def PatchField (i x : ℕ) : Prop :=
  Within (pkm i + pkmExp) 3 x ∨ Within (pkm i + pkmLevelPc) 1 x ∨
    Within (pkm i + pkmLevelParty) 1 x ∨ StatField (pkm i) x

/-- The moves and their PP. -/
def MoveField (i x : ℕ) : Prop :=
  Within (pkm i + pkmMoves) 4 x ∨ Within (pkm i + pkmPp) 4 x

variable {s t : Image} {i j x : ℕ} {dex : UInt8} {xp : UInt32}

theorem field_record {k n : ℕ} (h : k + n ≤ savPokemonSize) :
    ∀ x, Within (pkm i + k) n x → Record i x := by
  intro x hx
  unfold Record Within at *
  omega

theorem within_exp : ∀ x, Within (pkm i + pkmExp) 3 x → PatchField i x := fun _ hx => .inl hx

theorem PatchField.record (h : PatchField i x) : Record i x := by
  rcases h with h | h | h | h | h <;> exact field_record (by decide) x h

/-- DVs and stat experience. -/
def GeneField (p : ℕ) : ℕ → Prop := Within (p + pkmHpEv) 12

theorem GeneField.not_patchField (h : GeneField (pkm i) x) : ¬ PatchField i x := by
  unfold GeneField PatchField StatField Within at *
  unfold pkmHpEv at h
  unfold pkmExp pkmLevelPc pkmLevelParty pkmCurrentHp pkmMaxHp
  omega

theorem MoveField.record (h : MoveField i x) : Record i x := by
  rcases h with h | h <;> exact field_record (by decide) x h

theorem MoveField.not_patchField (h : MoveField i x) : ¬ PatchField i x := by
  unfold MoveField PatchField StatField Within at *
  unfold pkmMoves pkmPp at h
  unfold pkmExp pkmLevelPc pkmLevelParty pkmCurrentHp pkmMaxHp
  omega

theorem record_disjoint (hne : i ≠ j) (h : Record i x) : ¬ Record j x := by
  unfold Record Within pkm savPokemonSize at *
  omega

/-- The records end well before the checksum. -/
theorem record_lt_checksum (hi : i < 6) (h : Record i x) : x < savChecksumOffset := by
  unfold Record Within pkm savPokemonData savPokemonSize at h
  unfold savChecksumOffset
  omega

/-! ### Stats -/

theorem isqrtLoop_le (n fuel x y : ℕ) : isqrtLoop n fuel x y ≤ x := by
  induction fuel generalizing x y with
  | zero => exact Nat.le_refl x
  | succ fuel ih =>
    unfold isqrtLoop
    split_ifs with h
    · exact Nat.le_trans (ih y _) (Nat.le_of_lt h)
    · exact Nat.le_refl x

theorem isqrt16_le (n : ℕ) : isqrt16 n ≤ n := by
  unfold isqrt16
  split_ifs
  · exact Nat.zero_le n
  · exact isqrtLoop_le n n n _

theorem evBonus_le {n : ℕ} (h : n < 65536) : evBonus n ≤ 16384 := by
  have hle := isqrt16_le n
  unfold evBonus
  dsimp only
  split_ifs <;> omega

/-- Base stat, DV and stat experience at a level up to 100. -/
theorem grown_le (base : UInt8) {dv n level : ℕ} (hd : dv ≤ 15) (hn : n < 65536)
    (hl : level ≤ 100) : ((base.toNat + dv) * 2 + evBonus n) * level / 100 ≤ 16924 := by
  have hb := base.toNat_lt
  have he := evBonus_le hn
  have hs : (base.toNat + dv) * 2 + evBonus n ≤ 16924 := by omega
  have hm := Nat.mul_le_mul hs hl
  omega

theorem calcStatHP_lt {base : UInt8} {dv n level : ℕ} (hd : dv ≤ 15) (hn : n < 65536)
    (hl : level ≤ 100) : calcStatHP base dv n level < 65536 := by
  have h := grown_le base hd hn hl
  unfold calcStatHP
  omega

theorem calcStat_lt {base : UInt8} {dv n level : ℕ} (hd : dv ≤ 15) (hn : n < 65536)
    (hl : level ≤ 100) : calcStat base dv n level < 65536 := by
  have h := grown_le base hd hn hl
  unfold calcStat
  omega

/-- Every stat fits its 16-bit field. -/
structure Stats.Fits (st : Stats) : Prop where
  maxHp : st.maxHp < 65536
  attack : st.attack < 65536
  defense : st.defense < 65536
  speed : st.speed < 65536
  special : st.special < 65536

theorem statsFor_fits (s : Image) (p : ℕ) (dex : UInt8) {level : ℕ} (hl : level ≤ 100) :
    (statsFor s p dex level).Fits := by
  have h₀ := (s (p + pkmDvs)).toNat_lt
  have h₁ := (s (p + pkmDvs + 1)).toNat_lt
  constructor
  · exact calcStatHP_lt (by dsimp only [dvs]; omega) read16_lt hl
  · exact calcStat_lt (by dsimp only [dvs]; omega) read16_lt hl
  · exact calcStat_lt (by dsimp only [dvs]; omega) read16_lt hl
  · exact calcStat_lt (by dsimp only [dvs]; omega) read16_lt hl
  · exact calcStat_lt (by dsimp only [dvs]; omega) read16_lt hl

theorem one_le_maxHp (s : Image) (p : ℕ) (dex : UInt8) (level : ℕ) :
    1 ≤ (statsFor s p dex level).maxHp := by
  dsimp only [statsFor, calcStatHP]
  omega

theorem scaledHp_bounds (old oldMax : ℕ) {maxHp : ℕ} (h : 1 ≤ maxHp) :
    1 ≤ scaledHp old oldMax maxHp ∧ scaledHp old oldMax maxHp ≤ maxHp := by
  unfold scaledHp
  dsimp only
  split_ifs <;> omega

/-- The five stats a record holds. -/
def storedStats (s : Image) (p : ℕ) : Stats :=
  { maxHp := s.read16 (p + pkmMaxHp)
    attack := s.read16 (p + pkmAttack)
    defense := s.read16 (p + pkmDefense)
    speed := s.read16 (p + pkmSpeed)
    special := s.read16 (p + pkmSpecial) }

theorem storedStats_writeStats {p curHp : ℕ} {st : Stats} (h : st.Fits) :
    storedStats (writeStats s p curHp st) p = st := by
  obtain ⟨hhp, hatk, hdef, hspd, hspc⟩ := h
  unfold storedStats writeStats
  unfold pkmMaxHp pkmAttack pkmDefense pkmSpeed pkmSpecial
  simp (disch := omega) only [read16_write16_of_ne, read16_write16]

theorem curHp_writeStats {p curHp : ℕ} {st : Stats} (h : curHp < 65536) :
    (writeStats s p curHp st).read16 (p + pkmCurrentHp) = curHp := by
  unfold writeStats
  unfold pkmCurrentHp pkmMaxHp pkmAttack pkmDefense pkmSpeed pkmSpecial
  simp (disch := omega) only [read16_write16_of_ne, read16_write16]

theorem writeStats_off {p : ℕ} (curHp : ℕ) (st : Stats) :
    SameOff (StatField p) s (writeStats s p curHp st) := by
  have hcur : ∀ x, Within (p + pkmCurrentHp) 2 x → StatField p x := fun x hx => .inl hx
  have hstat : ∀ a, p + pkmMaxHp ≤ a → a ≤ p + pkmSpecial → ∀ x, Within a 2 x → StatField p x := by
    intro a h₀ h₁ x hx
    refine .inr ?_
    unfold Within at *
    unfold pkmMaxHp pkmSpecial at *
    omega
  unfold writeStats
  refine (((((write16_sameOff _ hcur).trans (write16_sameOff _ (hstat _ ?_ ?_))).trans
    (write16_sameOff _ (hstat _ ?_ ?_))).trans (write16_sameOff _ (hstat _ ?_ ?_))).trans
    (write16_sameOff _ (hstat _ ?_ ?_))).trans (write16_sameOff _ (hstat _ ?_ ?_)) <;>
    exact Nat.add_le_add_left (by decide) _

theorem recalcStats_off {p : ℕ} (dex : UInt8) (level : ℕ) :
    SameOff (StatField p) s (recalcStats s p dex level) := by
  unfold recalcStats
  split_ifs
  · exact writeStats_off _ _
  · exact .refl _ s

theorem storedStats_recalcStats {p level : ℕ} (hdex : IsSpecies dex) (hl : level ≤ 100) :
    storedStats (recalcStats s p dex level) p = statsFor s p dex level := by
  unfold recalcStats
  rw [if_pos hdex]
  exact storedStats_writeStats (statsFor_fits s p dex hl)

theorem curHp_recalcStats {p level : ℕ} (hdex : IsSpecies dex) (hl : level ≤ 100) :
    (recalcStats s p dex level).read16 (p + pkmCurrentHp) =
      scaledHp (s.read16 (p + pkmCurrentHp)) (s.read16 (p + pkmMaxHp))
        (statsFor s p dex level).maxHp := by
  have hb := scaledHp_bounds (s.read16 (p + pkmCurrentHp)) (s.read16 (p + pkmMaxHp))
    (one_le_maxHp s p dex level)
  have hf := (statsFor_fits s p dex hl).maxHp
  unfold recalcStats
  rw [if_pos hdex]
  exact curHp_writeStats (by omega)

/-- The stats depend on the DVs and the stat experience alone. -/
theorem statsFor_congr {p : ℕ} (h : SameOn (GeneField p) s t) (dex : UInt8) (level : ℕ) :
    statsFor t p dex level = statsFor s p dex level := by
  have hf : ∀ k, pkmHpEv ≤ k → k ≤ pkmDvs →
      t.read16 (p + k) = s.read16 (p + k) := by
    intro k h₀ h₁
    refine h.read16 fun x hx => ?_
    unfold GeneField Within at *
    unfold pkmHpEv pkmDvs at *
    omega
  have hdv : dvs t p = dvs s p := by
    have h₀ : t (p + pkmDvs) = s (p + pkmDvs) :=
      h _ (by unfold GeneField Within pkmHpEv pkmDvs; omega)
    have h₁ : t (p + pkmDvs + 1) = s (p + pkmDvs + 1) :=
      h _ (by unfold GeneField Within pkmHpEv pkmDvs; omega)
    unfold dvs
    rw [h₀, h₁]
  unfold statsFor
  rw [hdv, hf pkmHpEv (by decide) (by decide), hf pkmAtkEv (by decide) (by decide),
    hf pkmDefEv (by decide) (by decide), hf pkmSpdEv (by decide) (by decide),
    hf pkmSpcEv (by decide) (by decide)]

/-! ### Experience and levels -/

theorem expForLevel_100_le (dex : UInt8) : expForLevel dex 100 ≤ 1250000 := by
  unfold expForLevel
  split_ifs
  · omega
  · cases speciesGrowthRate dex <;> decide

theorem creditedExp_le (dex : UInt8) (exp : ℕ) (xp : UInt32) :
    creditedExp dex exp xp ≤ expForLevel dex 100 :=
  Nat.min_le_right ..

theorem creditedExp_lt (dex : UInt8) (exp : ℕ) (xp : UInt32) :
    creditedExp dex exp xp < 16777216 :=
  Nat.lt_of_le_of_lt (Nat.le_trans (creditedExp_le dex exp xp) (expForLevel_100_le dex)) (by decide)

theorem creditedExp_eq {exp : ℕ} (h : exp + xp.toNat < 4294967296) :
    creditedExp dex exp xp = min (exp + xp.toNat) (expForLevel dex 100) := by
  unfold creditedExp
  rw [Nat.mod_eq_of_lt h]

/-- A credit below the cap loses nothing. -/
theorem le_creditedExp {exp : ℕ} (h : exp + xp.toNat < 4294967296)
    (hcap : exp ≤ expForLevel dex 100) : exp ≤ creditedExp dex exp xp := by
  rw [creditedExp_eq h]
  exact Nat.le_min.mpr ⟨Nat.le_add_right .., hcap⟩

theorem levelForExp_le (dex : UInt8) (exp : ℕ) : levelForExp dex exp ≤ 100 := by
  unfold levelForExp
  split_ifs
  · exact climb_le _ exp 99 1
  · decide

theorem one_le_levelForExp (dex : UInt8) (exp : ℕ) : 1 ≤ levelForExp dex exp := by
  unfold levelForExp
  split_ifs
  · exact le_climb _ exp 99 1
  · exact Nat.le_refl 1

theorem levelForExp_mono {exp exp' : ℕ} (h : exp ≤ exp') :
    levelForExp dex exp ≤ levelForExp dex exp' := by
  unfold levelForExp
  split_ifs
  · exact climb_mono h
  · exact Nat.le_refl 1

/-! ### Patching a record -/

/-- EXP and the two level bytes replaced. -/
def grow (s : Image) (i exp level : ℕ) : Image :=
  ((s.write24 (pkm i + pkmExp) exp).write (pkm i + pkmLevelPc) [UInt8.ofNat level]).write
    (pkm i + pkmLevelParty) [UInt8.ofNat level]

theorem grow_off (s : Image) (i exp level : ℕ) : SameOff (PatchField i) s (grow s i exp level) := by
  have hexp : ∀ x, Within (pkm i + pkmExp) 3 x → PatchField i x := fun x hx => .inl hx
  have hpc : ∀ x, Within (pkm i + pkmLevelPc) 1 x → PatchField i x := fun x hx => .inr (.inl hx)
  have hparty : ∀ x, Within (pkm i + pkmLevelParty) 1 x → PatchField i x :=
    fun x hx => .inr (.inr (.inl hx))
  exact ((write24_sameOff _ hexp).trans (write_sameOff _ hpc)).trans (write_sameOff _ hparty)

theorem read24_grow {exp level : ℕ} (h : exp < 16777216) :
    (grow s i exp level).read24 (pkm i + pkmExp) = exp := by
  unfold grow pkmExp pkmLevelPc pkmLevelParty
  rw [read24_write _ (by simp), read24_write _ (by simp), read24_write24 h]

theorem levelParty_grow (s : Image) (i exp level : ℕ) :
    grow s i exp level (pkm i + pkmLevelParty) = UInt8.ofNat level :=
  write_byte _

theorem levelPc_grow (s : Image) (i exp level : ℕ) :
    grow s i exp level (pkm i + pkmLevelPc) = UInt8.ofNat level := by
  unfold grow
  rw [write_off (by unfold Within pkmLevelPc pkmLevelParty; simp), write_byte]

/-- A slot that is patched grows, and its stats are those of the new level. -/
theorem patchPokemon_eq (hi : i < 6) (hdex : IsSpecies dex) :
    patchPokemon s i dex xp =
      recalcStats
        (grow s i (creditedExp dex (s.read24 (pkm i + pkmExp)) xp)
          (levelForExp dex (creditedExp dex (s.read24 (pkm i + pkmExp)) xp)))
        (pkm i) dex (levelForExp dex (creditedExp dex (s.read24 (pkm i + pkmExp)) xp)) := by
  have hskip : ¬ (6 ≤ i ∨ ¬ IsSpecies dex) := by
    rintro (h | h)
    · omega
    · exact h hdex
  unfold patchPokemon
  rw [if_neg hskip]
  dsimp only
  rw [Nat.min_eq_left (levelForExp_le dex _)]
  rfl


theorem patchPokemon_skip (h : 6 ≤ i ∨ ¬ IsSpecies dex) : patchPokemon s i dex xp = s := if_pos h

theorem patchPokemon_off (s : Image) (i : ℕ) (dex : UInt8) (xp : UInt32) :
    SameOff (PatchField i) s (patchPokemon s i dex xp) := by
  by_cases h : 6 ≤ i ∨ ¬ IsSpecies dex
  · rw [patchPokemon_skip h]
    exact .refl _ s
  · obtain ⟨hi, hdex⟩ := not_or.mp h
    rw [patchPokemon_eq (Nat.lt_of_not_le hi) (not_not.mp hdex)]
    exact (grow_off s i _ _).trans ((recalcStats_off _ _).mono fun x hx => .inr (.inr (.inr hx)))

section Patched

variable (hi : i < 6) (hdex : IsSpecies dex)
include hi hdex

theorem read24_patchPokemon :
    (patchPokemon s i dex xp).read24 (pkm i + pkmExp) =
      creditedExp dex (s.read24 (pkm i + pkmExp)) xp := by
  rw [patchPokemon_eq hi hdex]
  refine Eq.trans (read24_congr fun x hx => recalcStats_off _ _ x ?_)
    (read24_grow (creditedExp_lt ..))
  unfold StatField Within at *
  unfold pkmExp at hx
  unfold pkmCurrentHp pkmMaxHp
  omega

theorem levels_patchPokemon {k : ℕ} (hk : k = pkmLevelPc ∨ k = pkmLevelParty) :
    patchPokemon s i dex xp (pkm i + k) =
      UInt8.ofNat (levelForExp dex (creditedExp dex (s.read24 (pkm i + pkmExp)) xp)) := by
  rw [patchPokemon_eq hi hdex, recalcStats_off _ _ _ ?_]
  · rcases hk with rfl | rfl
    · exact levelPc_grow ..
    · exact levelParty_grow ..
  · unfold StatField Within pkmCurrentHp pkmMaxHp
    rcases hk with rfl | rfl
    · unfold pkmLevelPc
      omega
    · unfold pkmLevelParty
      omega

theorem storedStats_patchPokemon :
    storedStats (patchPokemon s i dex xp) (pkm i) =
      statsFor s (pkm i) dex
        (levelForExp dex (creditedExp dex (s.read24 (pkm i + pkmExp)) xp)) := by
  rw [patchPokemon_eq hi hdex, storedStats_recalcStats hdex (levelForExp_le ..)]
  exact statsFor_congr ((grow_off s i _ _).sameOn fun x hx => hx.not_patchField) ..

/-- A patched slot is alive, and not above its maximum. -/
theorem hp_patchPokemon :
    1 ≤ (patchPokemon s i dex xp).read16 (pkm i + pkmCurrentHp) ∧
      (patchPokemon s i dex xp).read16 (pkm i + pkmCurrentHp) ≤
        (patchPokemon s i dex xp).read16 (pkm i + pkmMaxHp) := by
  have hmax : (patchPokemon s i dex xp).read16 (pkm i + pkmMaxHp) =
      (statsFor s (pkm i) dex
        (levelForExp dex (creditedExp dex (s.read24 (pkm i + pkmExp)) xp))).maxHp :=
    congrArg Stats.maxHp (storedStats_patchPokemon hi hdex)
  rw [hmax, patchPokemon_eq hi hdex, curHp_recalcStats hdex (levelForExp_le ..),
    statsFor_congr ((grow_off s i _ _).sameOn fun x hx => hx.not_patchField)]
  exact scaledHp_bounds _ _ (one_le_maxHp ..)

end Patched

/-! ### Learning moves -/

theorem setMove_off (s : Image) (i slot : ℕ) (mv : UInt8) :
    SameOff (MoveField i) s (setMove s i slot mv) := by
  unfold setMove
  split_ifs with h
  · exact .refl _ s
  · have hmove : ∀ x, Within (pkm i + pkmMoves + slot) 1 x → MoveField i x := by
      intro x hx
      refine .inl ?_
      unfold Within at *
      omega
    have hpp : ∀ x, Within (pkm i + pkmPp + slot) 1 x → MoveField i x := by
      intro x hx
      refine .inr ?_
      unfold Within at *
      omega
    exact (write_sameOff _ hmove).trans (write_sameOff _ hpp)

theorem noted_ne_nil (l : List UInt8) (mv : UInt8) :
    (if l.length < 8 then l ++ [mv] else l) ≠ [] := by
  split_ifs with h
  · simp
  · intro hnil
    simp [hnil] at h

theorem learnMove_cases (i : ℕ) (l : Learning) (mv : UInt8) :
    learnMove i l mv = l ∨
      (∃ slot, (learnMove i l mv).image = setMove l.image i slot mv ∧
        (learnMove i l mv).pending = l.pending ∧ (learnMove i l mv).learned ≠ []) ∨
      ((learnMove i l mv).image = l.image ∧ (learnMove i l mv).learned = l.learned ∧
        (learnMove i l mv).pending ≠ []) := by
  unfold learnMove
  dsimp only
  split
  · exact .inl rfl
  · split
    · exact .inr (.inl ⟨_, rfl, rfl, noted_ne_nil _ mv⟩)
    · exact .inr (.inr ⟨rfl, rfl, noted_ne_nil _ mv⟩)

/-- Nothing learned and nothing pending means nothing written. -/
theorem learnMove_idle {l : Learning} {mv : UInt8} (h₀ : (learnMove i l mv).learned = [])
    (h₁ : (learnMove i l mv).pending = []) : learnMove i l mv = l := by
  rcases learnMove_cases i l mv with h | ⟨_, _, _, h⟩ | ⟨_, _, h⟩
  · exact h
  · exact absurd h₀ h
  · exact absurd h₁ h

theorem foldl_learnMove_idle (mvs : List UInt8) {l : Learning}
    (h₀ : (mvs.foldl (learnMove i) l).learned = [])
    (h₁ : (mvs.foldl (learnMove i) l).pending = []) : mvs.foldl (learnMove i) l = l := by
  induction mvs generalizing l with
  | nil => rfl
  | cons mv mvs ih =>
    have hrest := ih h₀ h₁
    rw [List.foldl_cons] at h₀ h₁
    rw [hrest] at h₀ h₁
    rw [List.foldl_cons, hrest, learnMove_idle h₀ h₁]

theorem learnMoves_idle {fromLevel toLevel : UInt8}
    (h₀ : (learnMoves s i dex fromLevel toLevel).learned = [])
    (h₁ : (learnMoves s i dex fromLevel toLevel).pending = []) :
    (learnMoves s i dex fromLevel toLevel).image = s := by
  unfold learnMoves at *
  split_ifs at * with h
  · rfl
  · rw [foldl_learnMove_idle _ h₀ h₁]

/-- A property of the image that survives every `setMove` of a slot survives learning. -/
theorem learnMoves_keeps {P : Image → Prop} (hset : ∀ s k mv, P s → P (setMove s i k mv))
    (hs : P s) (dex fromLevel toLevel : UInt8) :
    P (learnMoves s i dex fromLevel toLevel).image := by
  have hone : ∀ (l : Learning) mv, P l.image → P (learnMove i l mv).image := by
    intro l mv hl
    rcases learnMove_cases i l mv with h | ⟨k, h, _⟩ | ⟨h, _⟩ <;> rw [h]
    · exact hl
    · exact hset _ k mv hl
    · exact hl
  have hall : ∀ (mvs : List UInt8) (l : Learning), P l.image →
      P (mvs.foldl (learnMove i) l).image := by
    intro mvs
    induction mvs with
    | nil => exact fun l hl => hl
    | cons mv mvs ih => exact fun l hl => ih _ (hone l mv hl)
  unfold learnMoves
  split_ifs
  · exact hs
  · exact hall _ _ hs

/-! ### The checksum -/

theorem fixChecksum_off (s : Image) : SameOff (· = savChecksumOffset) s (fixChecksum s) :=
  write_sameOff _ fun x hx => by
    unfold Within at hx
    simp only [List.length_singleton] at hx
    omega

end DaycareSavPatcher
end MonsterMesh
