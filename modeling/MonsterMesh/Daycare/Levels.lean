import MonsterMesh.Daycare.State
import MonsterMesh.Lib.Run
import MonsterMesh.Save.Frames

/-! The level a daycare advertises, and the total experience behind it. -/
namespace MonsterMesh

open DaycareSavPatcher Fallible

namespace DaycarePokemonState

variable {p : DaycarePokemonState} {xp : UInt16}

/-- The total is within level 100's, and the level is that of the total. -/
structure Level (p : DaycarePokemonState) : Prop where
  total : p.savExp.toNat + p.totalXpGained.toNat ≤ expForLevel p.speciesDex 100
  level : p.savLevel.toNat + p.totalLevelsGained.toNat =
    levelForExp p.speciesDex (p.savExp.toNat + p.totalXpGained.toNat)

/-- The invariant as the counters and the beacon show it. -/
theorem Level.beacon (h : p.Level) :
    p.savExp.toNat + p.totalXpGained.toNat ≤ expForLevel p.speciesDex 100 ∧
      p.beaconLevel.toNat =
        levelForExp p.speciesDex (p.savExp.toNat + p.totalXpGained.toNat) := by
  have hl := h.level
  have hle := levelForExp_le p.speciesDex (p.savExp.toNat + p.totalXpGained.toNat)
  refine ⟨h.total, ?_⟩
  unfold beaconLevel
  rw [← hl, UInt8.toNat_add, UInt16.toNat_toUInt8]
  omega

theorem total_toNat (h : p.savExp.toNat + p.totalXpGained.toNat ≤ expForLevel p.speciesDex 100) :
    p.total.toNat = p.savExp.toNat + p.totalXpGained.toNat := by
  have hcap := expForLevel_100_le p.speciesDex
  unfold total
  rw [UInt32.toNat_add]
  omega

theorem newLevel_toNat
    (h : p.savExp.toNat + p.totalXpGained.toNat ≤ expForLevel p.speciesDex 100) :
    p.newLevel.toNat = levelForExp p.speciesDex (p.savExp.toNat + p.totalXpGained.toNat) := by
  have hle := levelForExp_le p.speciesDex (p.savExp.toNat + p.totalXpGained.toNat)
  unfold newLevel
  rw [total_toNat h, Nat.min_eq_left hle, UInt8.toNat_ofNat']
  omega

/-- Crediting within the cap, then raising the level when the new one is higher. -/
theorem Level.raise (h : p.Level)
    (hx : p.savExp.toNat + p.totalXpGained.toNat + xp.toNat ≤ expForLevel p.speciesDex 100)
    {q : DaycarePokemonState}
    (hq : q = if p.savLevel.toNat + p.totalLevelsGained.toNat < (p.credit xp).newLevel.toNat then
      (p.credit xp).setLevel else p.credit xp) : q.Level := by
  have hcap := expForLevel_100_le p.speciesDex
  have hgain : (p.credit xp).totalXpGained.toNat = p.totalXpGained.toNat + xp.toNat := by
    unfold credit
    dsimp only
    rw [UInt32.toNat_add, UInt16.toNat_toUInt32]
    omega
  have htotal : (p.credit xp).savExp.toNat + (p.credit xp).totalXpGained.toNat ≤
      expForLevel (p.credit xp).speciesDex 100 := by
    rw [hgain]
    change p.savExp.toNat + (p.totalXpGained.toNat + xp.toNat) ≤ expForLevel p.speciesDex 100
    omega
  have hnew := newLevel_toNat htotal
  have hle := levelForExp_le (p.credit xp).speciesDex
    ((p.credit xp).savExp.toNat + (p.credit xp).totalXpGained.toNat)
  have hold := h.level
  have hmono : levelForExp p.speciesDex (p.savExp.toNat + p.totalXpGained.toNat) ≤
      levelForExp (p.credit xp).speciesDex
        ((p.credit xp).savExp.toNat + (p.credit xp).totalXpGained.toNat) := by
    refine levelForExp_mono ?_
    rw [hgain]
    change _ ≤ p.savExp.toNat + (p.totalXpGained.toNat + xp.toNat)
    omega
  subst hq
  split_ifs with hlt
  · refine ⟨htotal, ?_⟩
    change p.savLevel.toNat +
      ((p.credit xp).newLevel.toUInt16 - p.savLevel.toUInt16).toNat = _
    rw [UInt16.toNat_sub, UInt8.toNat_toUInt16, UInt8.toNat_toUInt16]
    change _ = levelForExp (p.credit xp).speciesDex
      ((p.credit xp).savExp.toNat + (p.credit xp).totalXpGained.toNat)
    omega
  · refine ⟨htotal, ?_⟩
    change p.savLevel.toNat + p.totalLevelsGained.toNat = _
    omega

/-- An hourly event stops at level 100's total. -/
theorem eventXp_within
    (h : p.savExp.toNat + p.totalXpGained.toNat ≤ expForLevel p.speciesDex 100) (xp : UInt16) :
    p.savExp.toNat + p.totalXpGained.toNat + (p.eventXp xp).toNat ≤
      expForLevel p.speciesDex 100 := by
  have hcap := expForLevel_100_le p.speciesDex
  have ht := total_toNat h
  have hmax : (UInt32.ofNat (expForLevel p.speciesDex 100)).toNat = expForLevel p.speciesDex 100 := by
    rw [UInt32.toNat_ofNat']
    omega
  have hxp : (if 200 < xp then 200 else xp).toNat ≤ 200 := by
    split_ifs with h200
    · decide
    · exact UInt16.le_iff_toNat_le.mp (UInt16.not_lt.mp h200)
  unfold eventXp
  dsimp only
  generalize (if 200 < xp then 200 else xp) = add at hxp ⊢
  have hsum : (p.total + add.toUInt32).toNat = p.total.toNat + add.toNat := by
    rw [UInt32.toNat_add, UInt16.toNat_toUInt32]
    omega
  simp only [UInt32.lt_iff_toNat_lt, UInt32.le_iff_toNat_le, hsum, hmax]
  split_ifs with hover hfull
  · exact h
  · have hsub : (UInt32.ofNat (expForLevel p.speciesDex 100) - p.total).toNat =
        expForLevel p.speciesDex 100 - p.total.toNat := by
      rw [UInt32.toNat_sub_of_le _ _ (UInt32.le_iff_toNat_le.mpr (by omega)), hmax]
    rw [UInt32.toNat_toUInt16, hsub]
    omega
  · omega

theorem Level.runEvent (h : p.Level) (xp : UInt16) : (p.runEvent xp).Level := by
  have hold := h.beacon.2
  refine h.raise (eventXp_within h.total xp) ?_
  unfold DaycarePokemonState.runEvent
  dsimp only
  simp only [UInt8.lt_iff_toNat_lt]
  change (if p.beaconLevel.toNat < _ then _ else _) = _
  rw [hold, ← h.level]

theorem Level.runArrival (h : p.Level)
    (hx : p.savExp.toNat + p.totalXpGained.toNat + (arrivalXp xp).toNat ≤
      expForLevel p.speciesDex 100) : (p.runArrival xp).Level :=
  h.raise hx rfl

/-- A slot that has never held a mon, or one at the level of its total. -/
def Sound (p : DaycarePokemonState) : Prop := p = zero ∨ p.Level

end DaycarePokemonState

/-- A record whose level is that of its experience, which is within level 100's. -/
def DaycarePartyInfo.Consistent (info : DaycarePartyInfo) : Prop :=
  info.totalExp ≤ expForLevel info.dexNum 100 ∧
    info.level.toNat = levelForExp info.dexNum info.totalExp

instance (info : DaycarePartyInfo) : Decidable info.Consistent :=
  inferInstanceAs (Decidable (_ ∧ _))

namespace DaycarePokemonState

variable {p : DaycarePokemonState} {info : DaycarePartyInfo}

/-- A record that may be taken over: a consistent one if the counters start from nothing, and
otherwise the very record they were counted from. -/
def Takes (p : DaycarePokemonState) (info : DaycarePartyInfo) : Prop :=
  if p.speciesDex ≠ info.dexNum ∨ p.totalXpGained = 0 ∧ p.totalLevelsGained = 0 then
    info.Consistent
  else info.level = p.savLevel ∧ UInt32.ofNat info.totalExp = p.savExp

instance (p : DaycarePokemonState) (info : DaycarePartyInfo) : Decidable (p.Takes info) :=
  inferInstanceAs (Decidable (if p.speciesDex ≠ info.dexNum ∨
      p.totalXpGained = 0 ∧ p.totalLevelsGained = 0 then info.Consistent
    else info.level = p.savLevel ∧ UInt32.ofNat info.totalExp = p.savExp))

theorem consistent_level (h : info.Consistent) (hx : p.totalXpGained = 0)
    (hl : p.totalLevelsGained = 0) (hd : p.speciesDex = info.dexNum) :
    { p with savLevel := info.level, savExp := UInt32.ofNat info.totalExp }.Level := by
  have hcap := expForLevel_100_le info.dexNum
  obtain ⟨hexp, hlevel⟩ := h
  have hnat : (UInt32.ofNat info.totalExp).toNat = info.totalExp := by
    rw [UInt32.toNat_ofNat']
    omega
  constructor
  · dsimp only
    rw [hx, hd, hnat]
    exact hexp
  · dsimp only
    rw [hx, hl, hd, hnat]
    exact hlevel

theorem Sound.checkIn (h : p.Sound) (ht : p.Takes info) : (p.checkIn info).Level := by
  unfold Takes at ht
  unfold DaycarePokemonState.checkIn
  dsimp only
  by_cases hd : p.speciesDex ≠ info.dexNum
  · rw [if_pos (.inl hd)] at ht
    rw [if_pos hd]
    exact consistent_level (p := { zero with speciesDex := info.dexNum }) ht rfl rfl rfl
  · rw [if_neg hd]
    by_cases hz : p.totalXpGained = 0 ∧ p.totalLevelsGained = 0
    · rw [if_pos (.inr hz)] at ht
      exact consistent_level ht hz.1 hz.2 (not_not.mp hd)
    · rw [if_neg (not_or.mpr ⟨hd, hz⟩)] at ht
      rw [ht.1, ht.2]
      refine h.resolve_left fun h0 => hz ?_
      subst h0
      exact ⟨rfl, rfl⟩

end DaycarePokemonState

/-! ### Runs -/

inductive DaycareCall where
  | checkIn (sram : Image)
  | checkInLevels (species levels : ℕ → UInt8) (count : UInt8)
  | event (k : EventKind) (evt : DaycareEvent)
  | saveState
  | restart
  | checkOut (sram : Image)

namespace PokemonDaycare

def call (d : PokemonDaycare) : DaycareCall → Except Empty PokemonDaycare
  | .checkIn sram => .ok (d.checkIn sram)
  | .checkInLevels species levels count => .ok (d.checkInLevels species levels count)
  | .event k evt => .ok (d.event k evt)
  | .saveState => .ok d.saveState
  | .restart => .ok (.boot d.flash)
  | .checkOut sram => .ok (d.checkOut sram).1

/-- Check-ins find records the kept counters belong to, and arrivals stay within level 100. -/
def Counted (d : PokemonDaycare) : DaycareCall → Prop
  | .checkIn sram =>
    ∀ i < readPartyCount sram, (d.reloaded.pokemon i).Takes (readPartySlot sram i)
  | .checkInLevels species levels count =>
    ∀ i < min count.toNat 6, (d.reloaded.pokemon i).Takes
      ⟨species i, levels i, expForLevel (species i) (levels i).toNat⟩
  | .event .arrival evt => ∀ i, d.Hit evt i →
    (d.state.pokemon i).savExp.toNat + (d.state.pokemon i).totalXpGained.toNat +
      (DaycarePokemonState.arrivalXp evt.xp).toNat ≤
        expForLevel (d.state.pokemon i).speciesDex 100
  | _ => True

/-- Every slot in memory and in flash is sound, and the party's are all at their level. -/
structure Levelled (d : PokemonDaycare) : Prop where
  party : ∀ i < d.state.partyCount.toNat, (d.state.pokemon i).Level
  memory : ∀ i, (d.state.pokemon i).Sound
  flash : ∀ i, (d.reloaded.pokemon i).Sound

variable {d e : PokemonDaycare}

theorem levelled_boot : (boot none).Levelled :=
  ⟨fun _ hi => absurd hi (Nat.not_lt_zero _), fun _ => .inl rfl, fun _ => .inl rfl⟩

theorem levelled_checkInParty {count : ℕ} {info : ℕ → DaycarePartyInfo} (h : d.Levelled)
    (hc : count ≤ 6) (ht : ∀ i < count, (d.reloaded.pokemon i).Takes (info i)) :
    (d.checkInParty count info).Levelled := by
  have hslot : ∀ i, (d.checkInParty count info).state.pokemon i =
      if i < count then (d.reloaded.pokemon i).checkIn (info i) else d.reloaded.pokemon i :=
    fun _ => rfl
  have hcount : (d.checkInParty count info).state.partyCount.toNat = count := by
    change (UInt8.ofNat count).toNat = count
    rw [UInt8.toNat_ofNat']
    omega
  refine ⟨fun i hi => ?_, fun i => ?_, h.flash⟩
  · rw [hslot, if_pos (hcount ▸ hi)]
    exact (h.flash i).checkIn (ht i (hcount ▸ hi))
  · rw [hslot]
    split_ifs with hi
    · exact .inr ((h.flash i).checkIn (ht i hi))
    · exact h.flash i

theorem levelled_event {k : EventKind} {evt : DaycareEvent} (h : d.Levelled)
    (hc : d.Counted (.event k evt)) : (d.event k evt).Levelled := by
  obtain ⟨hflash, _, hcount, _⟩ := d.event_kept k evt
  have hre : (d.event k evt).reloaded = d.reloaded := by
    unfold reloaded
    rw [hflash]
  have hrun : ∀ i, d.Hit evt i → (k.run (d.state.pokemon i) evt.xp).Level := by
    intro i hit
    have hp := h.party i (by
      obtain ⟨_, _, hlt, rfl⟩ := hit
      exact hlt)
    cases k with
    | hourly => exact hp.runEvent evt.xp
    | arrival => exact hp.runArrival (hc i hit)
  refine ⟨fun i hi => ?_, fun i => ?_, fun i => ?_⟩
  · rw [event_slot]
    split_ifs with hit
    · exact hrun i hit
    · exact h.party i (hcount ▸ hi)
  · rw [event_slot]
    split_ifs with hit
    · exact .inr (hrun i hit)
    · exact h.memory i
  · rw [hre]
    exact h.flash i

theorem levelled_saveState (h : d.Levelled) : d.saveState.Levelled := by
  refine ⟨h.party, h.memory, fun i => ?_⟩
  change ((if d.state.magic = daycareMagic then d.state else DaycareState.init).pokemon i).Sound
  split_ifs
  · exact h.memory i
  · exact .inl rfl

theorem levelled_call {c : DaycareCall} (h : d.Levelled) (hc : d.Counted c)
    (hs : d.call c = .ok e) : e.Levelled := by
  cases c with
  | checkIn sram =>
    cases hs
    exact levelled_checkInParty h (Nat.min_le_right ..) hc
  | checkInLevels species levels count =>
    cases hs
    exact levelled_checkInParty h (Nat.min_le_right ..) hc
  | event k evt =>
    cases hs
    exact levelled_event h hc
  | saveState =>
    cases hs
    exact levelled_saveState h
  | restart =>
    cases hs
    exact ⟨fun _ hi => absurd hi (Nat.not_lt_zero _), fun _ => .inl rfl, h.flash⟩
  | checkOut sram =>
    cases hs
    exact levelled_saveState (d := { d with active := false }) ⟨h.party, h.memory, h.flash⟩

/-- A Pikachu one event short of level 6. -/
def eagerSave : Image := soloSave 0x54 5 215

/-- It comes, and the event takes it there. -/
def grown : PokemonDaycare := (checkIn (boot none) eagerSave).event .hourly ⟨10, 0⟩

end PokemonDaycare
end MonsterMesh
