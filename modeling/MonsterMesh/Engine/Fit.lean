import MonsterMesh.Engine.Arith
import MonsterMesh.Engine.HitPoints

/-! One move inside the ranges of the stats: it cannot fault and loses no bits, short of four
named accidents. -/
namespace MonsterMesh

open Fallible

/-! ### What a move keeps -/

/-- A mon in action. Its accumulators stay bounded even when the action brings it down. -/
structure Vital.Acting (gen : UInt8) (v : Vital) : Prop where
  sound : v.Sound gen
  tally : v.Tally

/-- The mon in front of it: a loaded one, or the zeroed slot of an empty party. -/
def Vital.Foe (gen : UInt8) : Bool → Vital → Prop
  | true, v => v.Sound gen
  | false, v => v = BattlePoke.zero.vital

/-- The fields a mon in action changes, within their ranges. -/
theorem Vital.Acting.set {gen : UInt8} {v : Vital} (h : v.Acting gen)
    {hp bideTurns bideDamage last : UInt16} {charging thrash : UInt8} (hhp : hp ≤ v.maxHp)
    (hlast : last ≤ v.maxHp)
    (hb : bideTurns ≠ 0 → bideDamage.toNat + hp.toNat ≤ v.maxHp.toNat)
    (hc : charging = 0xFF ∨ charging.toNat < 4) (ht : thrash = 0xFF ∨ thrash.toNat < 4) :
    Vital.Acting gen { v with
      hp := hp, bideTurns := bideTurns, bideDamage := bideDamage, lastDamageTaken := last
      chargingSlot := charging, thrashSlot := thrash } :=
  have hs := h.sound.stats
  ⟨⟨⟨hs.atk, hs.def', hs.spc, hs.spaG3, hs.spdG3, hs.orig⟩, ⟨hc, ht⟩, h.sound.maxHp, hhp,
    fun _ => ⟨hlast, hb⟩⟩, ⟨hlast, hb⟩⟩

theorem Vital.Sound.worn {gen : UInt8} {v w : Vital} (h : v.Sound gen) (hw : v.Worn w) :
    w.Sound gen := by
  have hle : w.hp.toNat ≤ v.hp.toNat := UInt16.le_iff_toNat_le.mp hw.hp
  have hne : w.hp ≠ 0 → v.hp ≠ 0 := fun hn hz => hn (UInt16.le_zero_iff.mp (hz ▸ hw.hp))
  rw [hw.same]
  refine ⟨⟨h.stats.atk, h.stats.def', h.stats.spc, h.stats.spaG3, h.stats.spdG3, h.stats.orig⟩,
    ⟨h.lock.charging, h.lock.thrash⟩, h.maxHp, UInt16.le_trans hw.hp h.hp, fun hn => ?_⟩
  obtain ⟨hl, hb⟩ := h.tally (hne hn)
  exact ⟨hl, fun ht => Nat.le_trans (Nat.add_le_add_left hle _) (hb ht)⟩

/-- The damage a standing target remembers is HP it has lost. -/
theorem Vital.Sound.hit {gen : UInt8} {dmg : UInt16} {v w : Vital} (h : v.Sound gen)
    (hw : v.Hit dmg w) : w.Sound gen := by
  have hle : v.hp.toNat ≤ v.maxHp.toNat := UInt16.le_iff_toNat_le.mp h.hp
  have hmax := h.maxHp
  rw [hw.same]
  refine ⟨⟨h.stats.atk, h.stats.def', h.stats.spc, h.stats.spaG3, h.stats.spdG3, h.stats.orig⟩,
    ⟨h.lock.charging, h.lock.thrash⟩, h.maxHp, UInt16.le_trans hw.hp h.hp, fun hn => ?_⟩
  have hst := hw.standing hn
  have hne : v.hp ≠ 0 := fun hz => hn (UInt16.le_zero_iff.mp (hz ▸ hw.hp))
  refine ⟨?_, fun ht => ?_⟩
  · rw [UInt16.le_iff_toNat_le]
    dsimp only
    omega
  · have hb := (h.tally hne).bide ht
    dsimp only at ht ⊢
    rw [if_pos ht, UInt16.toNat_add, Nat.mod_eq_of_lt (by omega)]
    omega

/-- A healing effect only runs while nothing is stored. -/
theorem Vital.Acting.spent {gen : UInt8} {heals : Bool} {v w : Vital} (h : v.Acting gen)
    (hw : v.Spent heals w) (hb : heals = true → v.bideTurns = 0) : w.Acting gen := by
  have hs := h.sound
  have hle : w.hp ≤ v.maxHp := by
    rcases hw.hp with h' | ⟨_, h'⟩
    · exact UInt16.le_trans h' hs.hp
    · exact h'
  have hstore : v.bideTurns ≠ 0 → v.bideDamage.toNat + w.hp.toNat ≤ v.maxHp.toNat := by
    intro ht
    rcases hw.hp with h' | ⟨hh, _⟩
    · exact Nat.le_trans (Nat.add_le_add_left (UInt16.le_iff_toNat_le.mp h') _) (h.tally.bide ht)
    · exact absurd (hb hh) ht
  rw [hw.same]
  exact h.set hle h.tally.lastDamage hstore hs.lock.charging hs.lock.thrash

theorem Vital.Foe.worn {gen : UInt8} {fielded : Bool} {v w : Vital} (h : v.Foe gen fielded)
    (hw : v.Worn w) : w.Foe gen fielded := by
  cases fielded with
  | true => exact Vital.Sound.worn h hw
  | false =>
    have hv : v = BattlePoke.zero.vital := h
    have hz : w.hp = v.hp := by
      have hle := hw.hp
      rw [hv] at hle ⊢
      exact UInt16.le_zero_iff.mp hle
    show w = _
    rw [hw.same, hz]
    exact hv

/-- The state a move works on: a sink, no lost bits so far, a mon in action and its foe. -/
structure Vitals.Fit (gen : UInt8) (fielded : Bool) (v : Vitals) : Prop where
  gen : v.gen = gen
  sink : v.sink = true
  intact : v.truncated = false
  user : v.user.Acting v.gen
  target : v.target.Foe v.gen fielded

namespace Duel

variable {d : Duel} {mv : MoveData} {g : UInt8} {fielded : Bool}

/-! ### What can go wrong in `applyMove` -/

variable (d mv) in
/-- A damaging move meets a defence of 0. Only an empty slot has one. -/
def HitsNobody : Prop :=
  (d.beforeDamage mv).1 = true ∧ mv.Damages ∧ d.target.defenceStat d.gen mv.type = 0

variable (d mv) in
/-- Psywave takes a remainder by a range of 0, that of level 0. -/
def PsywaveByZero : Prop :=
  (d.beforeDamage mv).1 = true ∧ mv.effect = .psywave ∧ d.user.level = 0 ∧
    ∃ d₁, (d.beforeDamage mv).2.dealDamage mv = .ok (true, d₁)

variable (d mv) in
/-- A hit overflows the store of a target that bides. -/
def BideOverflow : Prop :=
  (d.beforeDamage mv).1 = true ∧ mv.Damages ∧ d.target.bideTurns ≠ 0 ∧
    ∃ r, (d.beforeDamage mv).2.calcDamage mv = .ok r ∧
      65536 ≤ d.target.bideDamage.toNat + r.1.toNat

variable (d mv) in
/-- The condition on one call of `applyMove`. -/
structure ArithSafe : Prop where
  defence : ¬ d.HitsNobody mv
  psywave : ¬ d.PsywaveByZero mv
  fang : ¬ d.FangUnderflow mv
  bide : ¬ d.BideOverflow mv

/-! ### The calls of `applyMove` -/

theorem defenceStat_zero {gen type : UInt8} : BattlePoke.zero.defenceStat gen type = 0 := by
  unfold BattlePoke.defenceStat
  split_ifs <;> rfl

theorem defenceStat_congr {m m' : BattlePoke} (h : m.vital = m'.vital) (gen type : UInt8) :
    m.defenceStat gen type = m'.defenceStat gen type := by
  have h₁ : m.spdG3 = m'.spdG3 := congrArg Vital.spdG3 h
  have h₂ : m.spc = m'.spc := congrArg Vital.spc h
  have h₃ : m.def' = m'.def' := congrArg Vital.def' h
  simp only [BattlePoke.defenceStat, h₁, h₂, h₃]

/-- A damaging move that gets to its damage has a loaded target. -/
theorem target_sound (hf : d.vitals.Fit g fielded) (hs : ¬ d.HitsNobody mv)
    (hb : (d.beforeDamage mv).1 = true) (hm : mv.Damages) : d.target.vital.Sound d.gen := by
  cases fielded with
  | true => exact hf.target
  | false =>
    have hz : d.target.vital = BattlePoke.zero.vital := hf.target
    exact absurd ⟨hb, hm, (defenceStat_congr hz _ _).trans defenceStat_zero⟩ hs

theorem sayHits_bind_ok (hs : d.sink = true) (hits : Nat) (f : Duel → Duel) :
    ∃ d', (d.sayHits hits >>= fun d => .ok (f d)) = .ok d' := by
  unfold sayHits
  rw [if_pos hs]
  split_ifs <;> exact ⟨_, rfl⟩

theorem landHit_ok (hs : d.sink = true) (dmg : UInt16) (crit : Bool) :
    ∃ d', d.landHit mv dmg crit = .ok d' := by
  obtain ⟨rng, hg⟩ := hitCount_snd d mv
  unfold landHit
  refine sayHits_bind_ok ?_ _ _
  rw [hg]
  split_ifs <;> exact hs

theorem dealDamage_ok (hs : d.sink = true) (hu : d.user.vital.Stats d.gen)
    (hl : mv.Listed d.gen) (ht : mv.Damages → d.target.vital.Stats d.gen) :
    ∃ r, d.dealDamage mv = .ok r := by
  unfold dealDamage
  split_ifs with h₀
  · exact ⟨_, rfl⟩
  · obtain ⟨⟨dmg, crit, d₁⟩, hc⟩ := calcDamage_ok hu (ht h₀) hl
    obtain ⟨rng, hg⟩ := calcDamage_duel d mv hc
    dsimp only at hg
    rw [hc, bind_ok]
    dsimp only
    split_ifs
    · exact ⟨_, rfl⟩
    · obtain ⟨d₂, h₂⟩ := landHit_ok (d := d₁) (by rw [hg]; exact hs) dmg crit
      exact ⟨_, bind_eq_ok.mpr ⟨d₂, h₂, rfl⟩⟩

theorem fixedDamage_ok (h : mv.effect = .psywave → d.user.level ≠ 0) :
    ∃ d', d.fixedDamage mv = .ok d' := by
  unfold fixedDamage
  revert h
  cases mv.effect
  case psywave =>
    intro h
    have hl : d.user.level.toNat ≠ 0 := fun h0 => h rfl (UInt8.toNat_inj.mp h0)
    exact ⟨_, bind_eq_ok.mpr ⟨_, if_neg (by omega), rfl⟩⟩
  case ohko =>
    intro _
    dsimp only
    split_ifs <;> exact ⟨_, rfl⟩
  all_goals exact fun _ => ⟨_, rfl⟩

theorem struck_level {heals : Bool} {dmg : UInt16} {v w : Vitals} (h : v.Struck heals dmg w) :
    w.user.level = v.user.level := by
  rw [h.user.same]

theorem applyMove_ok (hf : d.vitals.Fit g fielded) (hl : mv.Listed d.gen) (hs : d.ArithSafe mv) :
    ∃ d', d.applyMove mv = .ok d' := by
  have hb := beforeDamage_vitals d mv
  have hgen : (d.beforeDamage mv).2.gen = d.gen := congrArg Vitals.gen hb
  have huser : (d.beforeDamage mv).2.user.vital = d.user.vital := congrArg Vitals.user hb
  have htarget : (d.beforeDamage mv).2.target.vital = d.target.vital := congrArg Vitals.target hb
  have hsink : (d.beforeDamage mv).2.sink = true := (congrArg Vitals.sink hb).trans hf.sink
  unfold applyMove
  split_ifs with hreach
  · obtain ⟨⟨goOn, d₁⟩, hd⟩ := dealDamage_ok hsink
      (by rw [hgen, huser]; exact hf.user.sound.stats) (by rw [hgen]; exact hl)
      (by
        intro hm
        rw [hgen, htarget]
        exact (target_sound hf hs.defence hreach hm).stats)
    rw [hd, bind_ok]
    cases goOn with
    | false => exact ⟨_, rfl⟩
    | true =>
      have hlevel : d₁.user.level = d.user.level := by
        have hv : d₁.vitals.user.level = (d.beforeDamage mv).2.vitals.user.level := by
          rcases dealDamage_cases _ mv hd with he | ⟨_, _, _, _, _, _, hst⟩
          · rw [he]
          · exact struck_level hst
        rw [hb] at hv
        exact hv
      obtain ⟨d₂, h₂⟩ := fixedDamage_ok (d := d₁) (by
        intro he h0
        exact hs.psywave ⟨hreach, he, hlevel ▸ h0, d₁, hd⟩)
      exact ⟨_, bind_eq_ok.mpr ⟨d₂, h₂, rfl⟩⟩
  · exact ⟨_, rfl⟩

/-- One call of `applyMove` keeps the state fit. -/
theorem applyMove_fit {d' : Duel} (h : d.applyMove mv = .ok d') (hf : d.vitals.Fit g fielded)
    (hs : d.ArithSafe mv) (hb : mv.effect.heals = true → d.user.bideTurns = 0) :
    d'.vitals.Fit g fielded := by
  obtain ⟨w, hw, ha⟩ := applyMove_cases d mv h hs.fang
  have hwf : w.Fit g fielded ∧ (mv.effect.heals = true → w.user.bideTurns = 0) := by
    rcases hw with rfl | ⟨hreach, hm, dmg, crit, d₁, hc, hst⟩
    · exact ⟨hf, hb⟩
    · have hsound := target_sound hf hs.defence hreach hm
      have hfield : fielded = true := by
        cases fielded with
        | true => rfl
        | false =>
          have hz : d.target.vital = BattlePoke.zero.vital := hf.target
          have h5 := hsound.stats.def'
          rw [hz] at h5
          exact absurd h5 (by decide)
      subst hfield
      have htr : (d.vitals.target.bideTurns ≠ 0 &&
          65536 ≤ d.vitals.target.bideDamage.toNat + dmg.toNat) = false := by
        by_contra hx
        simp only [Bool.not_eq_false, Bool.and_eq_true, decide_eq_true_eq] at hx
        exact hs.bide ⟨hreach, hm, hx.1, _, hc, hx.2⟩
      have hut : w.user.bideTurns = d.vitals.user.bideTurns := by rw [hst.user.same]
      rw [hst.rest, htr, Bool.or_false] at *
      exact ⟨⟨hf.gen, hf.sink, hf.intact, hf.user.spent hst.user hb, hsound.hit hst.target⟩,
        fun hh => hut.trans (hb hh)⟩
  obtain ⟨hwf, hwb⟩ := hwf
  rw [ha.rest]
  exact ⟨hwf.gen, hwf.sink, hwf.intact, hwf.user.spent ha.user hwb, hwf.target.worn ha.target⟩

/-! ### Up to the call -/

theorem confusionDamage_ok {m : BattlePoke} {gen : UInt8} (h : m.vital.Stats gen) :
    ∃ n, confusionDamage m = .ok n ∧ n < 65536 := by
  have ha : m.atk.toNat ≤ 1198 := h.atk
  have hd : 5 ≤ m.def'.toNat := h.def'
  have hl := m.level.toNat_lt
  have h₁ : (2 * m.level.toNat / 5 + 2) * 40 * m.atk.toNat ≤ 104 * 40 * 1198 :=
    Nat.mul_le_mul (Nat.mul_le_mul_right _ (by omega)) ha
  have h₂ := Nat.div_le_div h₁ hd (by omega)
  refine ⟨_, bind_eq_ok.mpr ⟨_, int32_ok (by omega), bind_eq_ok.mpr ⟨_, int32_ok (by omega),
    bind_eq_ok.mpr ⟨_, divide_ok (by omega), rfl⟩⟩⟩, ?_⟩
  omega

theorem confusion_ok (h : d.user.vital.Stats d.gen) : ∃ r, d.confusion = .ok r := by
  obtain ⟨n, hn, _⟩ := confusionDamage_ok h
  unfold confusion
  split_ifs
  · exact ⟨_, rfl⟩
  · dsimp only
    split_ifs
    · exact ⟨_, rfl⟩
    · exact ⟨_, bind_eq_ok.mpr ⟨n, hn, rfl⟩⟩

theorem preMove_ok (h : d.user.vital.Stats d.gen) : ∃ r, d.preMove = .ok r := by
  unfold preMove
  dsimp only
  split_ifs
  · exact ⟨_, rfl⟩
  · exact ⟨_, rfl⟩
  · have hv : d.wakeUp.2.shakeOff.2.vitals = d.vitals :=
      (shakeOff_vitals _).trans (wakeUp_vitals d)
    have hu : d.wakeUp.2.shakeOff.2.user.vital = d.user.vital := congrArg Vitals.user hv
    have hg : d.wakeUp.2.shakeOff.2.gen = d.gen := congrArg Vitals.gen hv
    obtain ⟨c, hc⟩ := confusion_ok (d := d.wakeUp.2.shakeOff.2) (by rw [hu, hg]; exact h)
    exact ⟨_, bind_eq_ok.mpr ⟨c, hc, rfl⟩⟩

theorem slotAt_ok {α : Type} {arr : Fin 4 → α} {slot : UInt8} (h : slot.toNat < 4) :
    slotAt arr slot = .ok (arr ⟨slot.toNat, h⟩) := dif_pos h

theorem setSlot_ok {α : Type} {arr : Fin 4 → α} {slot : UInt8} {v : α} (h : slot.toNat < 4) :
    setSlot arr slot v = .ok (Function.update arr ⟨slot.toNat, h⟩ v) := dif_pos h

theorem slotMove_ok {slot : UInt8} (h : slot.toNat < 4) : ∃ o, d.slotMove slot = .ok o := by
  exact ⟨_, bind_eq_ok.mpr ⟨_, slotAt_ok h, rfl⟩⟩

theorem releaseCharge_ok (h : d.user.vital.Lock) (r : Ready) :
    ∃ p, d.releaseCharge r = .ok p := by
  unfold releaseCharge
  split_ifs with hc
  · obtain ⟨o, ho⟩ := slotMove_ok (d := d) (h.charging.resolve_left hc)
    exact ⟨_, bind_eq_ok.mpr ⟨o, ho, rfl⟩⟩
  · exact ⟨_, rfl⟩

theorem thrashLock_ok (h : d.user.vital.Lock) (r : Ready) : ∃ o, d.thrashLock r = .ok o := by
  unfold thrashLock
  split_ifs with hc
  · exact slotMove_ok (h.thrash.resolve_left hc)
  · exact ⟨_, rfl⟩

theorem spendPp_ok {r : Ready} (h : r.slot.toNat < 4) : ∃ d', d.spendPp r = .ok d' := by
  unfold spendPp
  split_ifs
  · exact ⟨_, rfl⟩
  · exact ⟨_, bind_eq_ok.mpr ⟨_, slotAt_ok h, bind_eq_ok.mpr ⟨_, setSlot_ok h, rfl⟩⟩⟩

theorem fire_ok {r : Ready} (h : r.slot.toNat < 4) : ∃ p, d.fire r = .ok p := by
  unfold fire
  split_ifs
  · exact ⟨_, rfl⟩
  · exact ⟨_, rfl⟩
  · obtain ⟨d', hd⟩ := spendPp_ok (d := d) h
    exact ⟨_, bind_eq_ok.mpr ⟨d', hd, rfl⟩⟩

theorem lock_slotted {v w : Vital} (h : v.Lock) (hs : v.Slotted w) : w.Lock := by
  refine ⟨?_, ?_⟩
  · rcases hs.charging with h' | h' | h'
    · exact .inl h'
    · exact h' ▸ h.charging
    · exact .inr h'
  · rcases hs.thrash with h' | h' | h'
    · exact .inl h'
    · exact h' ▸ h.thrash
    · exact .inr h'

theorem slotTurn_ok {r : Ready} (h : d.user.vital.Lock) (hr : FromSlot d.gen r) :
    ∃ p, d.slotTurn r = .ok p := by
  unfold slotTurn
  obtain ⟨⟨o, d₁⟩, hc⟩ := releaseCharge_ok h r
  obtain ⟨hv, hu, hf⟩ := releaseCharge_cases d hr hc
  rw [hc, bind_ok]
  cases o with
  | none => exact ⟨_, rfl⟩
  | some r₁ =>
    have hg : d₁.gen = d.gen := congrArg Vitals.gen hv
    obtain ⟨o₂, ht⟩ := thrashLock_ok (d := d₁) (lock_slotted h hu) r₁
    have hf₂ := thrashLock_cases d₁ (hg ▸ hf r₁ rfl) ht
    dsimp only
    rw [ht, bind_ok]
    cases o₂ with
    | none => exact ⟨_, rfl⟩
    | some r₂ => exact fire_ok (hf₂ r₂ rfl).slot

theorem beginMove_ok (hf : d.vitals.Fit g fielded) (slot : UInt8) :
    ∃ p, d.beginMove slot = .ok p := by
  have hst : d.user.vital.Stats d.gen := hf.user.sound.stats
  unfold beginMove
  cases hc : d.chosenMove slot with
  | none => exact ⟨_, rfl⟩
  | some r =>
    obtain ⟨⟨go, d₁⟩, hp⟩ := preMove_ok hst
    dsimp only
    rw [hp, bind_ok]
    split_ifs with h₀ h₁
    · exact ⟨_, rfl⟩
    · exact ⟨_, rfl⟩
    · rcases preMove_cases d hp with hv | ⟨rfl, _⟩
      · have hu : d₁.user.vital = d.user.vital := congrArg Vitals.user hv
        have hg : d₁.gen = d.gen := congrArg Vitals.gen hv
        rcases chosenMove_cases d hc with ⟨hs, _⟩ | hfrom
        · exact absurd hs h₁
        · exact slotTurn_ok (hu ▸ hf.user.sound.lock) (hg ▸ hfrom)
      · exact absurd rfl h₀

theorem locked_fit {d' : Duel} (hf : d.vitals.Fit g fielded) (hl : Locked d d') :
    d'.vitals.Fit g fielded := by
  have hs := hf.user.sound
  have hlock := lock_slotted hs.lock hl.slotted
  rw [hl.rest]
  refine ⟨hf.gen, hf.sink, hf.intact, ?_, hf.target⟩
  dsimp only
  rw [hl.slotted.same]
  exact hf.user.set hs.hp hf.user.tally.lastDamage hf.user.tally.bide hlock.charging hlock.thrash

/-- A turn of Bide releases at most twice the HP the user has lost. -/
theorem bideTurn_fit {v w : Vitals} (hf : v.Fit g fielded) (hb : v.user.bideTurns ≠ 0)
    (h : BideTurn v w) : w.Fit g fielded := by
  have hs := hf.user.sound
  have hst := hf.user.tally.bide hb
  have hmax := hs.maxHp
  rcases h.rest with hr | hr
  · rw [hr]
    exact ⟨hf.gen, hf.sink, hf.intact, hf.user.set hs.hp hf.user.tally.lastDamage (fun _ => hst)
      hs.lock.charging hs.lock.thrash, hf.target⟩
  · have hn : decide (65536 ≤ v.user.bideDamage.toNat * 2) = false := by
      rw [decide_eq_false_iff_not]
      omega
    have htarget := hf.target.worn h.target
    rw [hr, hn, Bool.or_false]
    exact ⟨hf.gen, hf.sink, hf.intact, hf.user.set hs.hp hf.user.tally.lastDamage (fun h0 => absurd rfl h0)
      hs.lock.charging hs.lock.thrash, htarget⟩

theorem store_fit {v : Vitals} (hf : v.Fit g fielded) :
    Vitals.Fit g fielded { v with user := { v.user with bideTurns := 2, bideDamage := 0 } } := by
  have hs := hf.user.sound
  have hle := UInt16.le_iff_toNat_le.mp hs.hp
  exact ⟨hf.gen, hf.sink, hf.intact, hf.user.set hs.hp hf.user.tally.lastDamage
    (fun _ => by simpa using hle) hs.lock.charging hs.lock.thrash, hf.target⟩

theorem begun_fit {d' : Duel} {o : Option Ready} (hf : d.vitals.Fit g fielded) (h : Begun d d' o) :
    d'.vitals.Fit g fielded := by
  cases h with
  | struggle _ _ hv => exact hv ▸ hf
  | slot _ _ hl => exact locked_fit hf hl
  | idle hl => exact locked_fit hf hl
  | hurt hh =>
    obtain ⟨hw, n, hn, hr⟩ := hh
    obtain ⟨m, hm, hlt⟩ := confusionDamage_ok hf.user.sound.stats
    have hnm : n = m := Except.ok.inj (hn.symm.trans hm)
    rw [hr, decide_eq_false (by omega), Bool.or_false]
    exact ⟨hf.gen, hf.sink, hf.intact, hf.user.spent (hw.spent false) nofun, hf.target⟩
  | bide hl hb hbt =>
    exact bideTurn_fit (locked_fit hf hl) (fun h => hb (hl.bideTurns.symm.trans h)) hbt
  | store hl hv => exact hv ▸ store_fit (locked_fit hf hl)

/-- What the move about to be applied is known to satisfy. -/
structure Fires (d : Duel) (r : Ready) : Prop where
  listed : r.mv.Listed d.gen
  idle : r.mv.effect ≠ .recoil → d.user.bideTurns = 0
  slot : r.mv.effect = .mimic → r.slot.toNat < 4

theorem struggle_recoil {gen : UInt8} {mv : MoveData} (h : mdata gen 165 = some mv) :
    mv.effect = .recoil := by
  have heffect : ∀ gen, (mdata gen 165).map (·.effect) = some .recoil := by
    intro gen
    unfold mdata
    split_ifs <;> decide +kernel
  have hgen := heffect gen
  rw [h] at hgen
  exact Option.some.inj hgen

theorem begun_fires {d' : Duel} {r : Ready} (h : Begun d d' (some r)) : d'.Fires r := by
  cases h with
  | struggle hm hs hv =>
    have hg : d'.gen = d.gen := congrArg Vitals.gen hv
    have he := struggle_recoil hm
    exact ⟨hg ▸ ⟨165, hm⟩, fun hh => absurd he hh,
      fun hh => absurd (he.symm.trans hh) (by decide)⟩
  | slot hr hb hl =>
    exact ⟨hl.gen ▸ hr.listed, fun _ => hl.bideTurns.trans hb, fun _ => hr.slot⟩

/-! ### After the call -/

theorem thrashTurn_fit (hf : d.vitals.Fit g fielded) : (d.thrashTurn mv).vitals.Fit g fielded := by
  obtain ⟨t, ht, hv⟩ := thrashTurn_cases d mv
  have hs := hf.user.sound
  have hlock : t = 0xFF ∨ t.toNat < 4 := by
    rcases ht with rfl | rfl
    · exact hs.lock.thrash
    · exact .inl rfl
  rw [hv]
  exact ⟨hf.gen, hf.sink, hf.intact, hf.user.set hs.hp hf.user.tally.lastDamage hf.user.tally.bide
    hs.lock.charging hlock, hf.target⟩

/-- Counter returns at most twice the HP the user has lost. -/
theorem counter_fit (hf : d.vitals.Fit g fielded) : (d.counter mv).vitals.Fit g fielded := by
  rcases counter_cases d mv with h | ⟨ht, hr⟩
  · exact h ▸ hf
  · have hs := hf.user.sound
    have hlast := UInt16.le_iff_toNat_le.mp hf.user.tally.lastDamage
    have hmax := hs.maxHp
    have hn : decide (65536 ≤ d.vitals.user.lastDamageTaken.toNat * 2) = false := by
      rw [decide_eq_false_iff_not]
      omega
    have htarget := hf.target.worn ht
    rw [hr, hn, Bool.or_false]
    exact ⟨hf.gen, hf.sink, hf.intact, hf.user.set hs.hp UInt16.zero_le hf.user.tally.bide
      hs.lock.charging hs.lock.thrash, htarget⟩

theorem afterMove_fit (hf : d.vitals.Fit g fielded) : (d.afterMove mv).vitals.Fit g fielded := by
  unfold afterMove
  have h₁ : Vitals.Fit g fielded ((d.thrashTurn mv).counter mv).vitals :=
    counter_fit (thrashTurn_fit hf)
  obtain ⟨hs, hw⟩ := substitute_cases ((d.thrashTurn mv).counter mv) mv
  rw [disable_vitals, hs]
  exact ⟨h₁.gen, h₁.sink, h₁.intact, h₁.user.spent (hw.spent false) nofun, h₁.target⟩

theorem afterMove_bideTurns (h : d.user.bideTurns = 0) : (d.afterMove mv).user.bideTurns = 0 := by
  obtain ⟨t, _, hv⟩ := thrashTurn_cases d mv
  have h₁ : (d.thrashTurn mv).user.bideTurns = 0 :=
    (congrArg (fun v => v.user.bideTurns) hv).trans h
  have h₂ : ((d.thrashTurn mv).counter mv).user.bideTurns = 0 := by
    rcases counter_cases (d.thrashTurn mv) mv with hc | ⟨_, hr⟩
    · exact (congrArg (fun v => v.user.bideTurns) hc).trans h₁
    · exact (congrArg (fun v => v.user.bideTurns) hr).trans h₁
  obtain ⟨hs, hw⟩ := substitute_cases ((d.thrashTurn mv).counter mv) mv
  have hd : (d.afterMove mv).vitals = (((d.thrashTurn mv).counter mv).substitute mv).vitals :=
    disable_vitals _ _
  have h₃ : (((d.thrashTurn mv).counter mv).substitute mv).user.bideTurns = 0 :=
    (congrArg Vital.bideTurns hw.same).trans h₂
  exact (congrArg (fun v => v.user.bideTurns) hd).trans h₃

theorem applyMove_bideTurns {d' : Duel} (h : d.applyMove mv = .ok d') (hs : d.ArithSafe mv) :
    d'.user.bideTurns = d.user.bideTurns := by
  obtain ⟨w, hw, ha⟩ := applyMove_cases d mv h hs.fang
  have hx : d'.vitals.user.bideTurns = w.user.bideTurns := by rw [ha.user.same]
  refine hx.trans ?_
  rcases hw with rfl | ⟨_, _, _, _, _, _, hst⟩
  · rfl
  · rw [hst.user.same]
    rfl

theorem metronomeRoll_cases {picked : MoveData} {d' : Duel}
    (h : d.metronomeRoll mv = (some picked, d')) :
    mv.effect = .metronome ∧ picked.Listed d.gen := by
  unfold metronomeRoll at h
  split_ifs at h with he
  · split at h
    · rename_i hm
      split_ifs at h
      · cases h
      · cases h
        exact ⟨he, _, hm⟩
    · cases h
  · cases h

theorem metronome_fit (hf : d.vitals.Fit g fielded)
    (hs : ∀ picked d₁, d.metronomeRoll mv = (some picked, d₁) → d₁.ArithSafe picked)
    (hb : mv.effect = .metronome → d.user.bideTurns = 0) :
    ∃ d', d.metronome mv = .ok d' ∧ d'.vitals.Fit g fielded := by
  have hr := metronomeRoll_vitals d mv
  unfold metronome
  cases hm : d.metronomeRoll mv with
  | mk o d₁ =>
    rw [hm] at hr
    have hf₁ : d₁.vitals.Fit g fielded := hr ▸ hf
    cases o with
    | none => exact ⟨d₁, rfl, hf₁⟩
    | some picked =>
      obtain ⟨he, hl⟩ := metronomeRoll_cases hm
      have hg : d₁.gen = d.gen := congrArg Vitals.gen hr
      have hu : d₁.user.bideTurns = d.user.bideTurns :=
        congrArg (fun v => v.user.bideTurns) hr
      obtain ⟨d', hd⟩ := applyMove_ok hf₁ (hg ▸ hl) (hs picked d₁ hm)
      exact ⟨d', hd, applyMove_fit hd hf₁ (hs picked d₁ hm) fun _ => hu.trans (hb he)⟩

theorem mimic_ok {r : Ready} (h : r.mv.effect = .mimic → r.slot.toNat < 4) :
    ∃ d', d.mimic r = .ok d' := by
  unfold mimic
  split_ifs with hm
  · have hs := h hm.1
    split
    · exact ⟨_, bind_eq_ok.mpr ⟨_, slotAt_ok hs, bind_eq_ok.mpr ⟨_, slotAt_ok hs,
        bind_eq_ok.mpr ⟨_, setSlot_ok hs, bind_eq_ok.mpr ⟨_, setSlot_ok hs, rfl⟩⟩⟩⟩⟩
    · exact ⟨_, rfl⟩
  · exact ⟨_, rfl⟩

/-- A mon that transforms takes the stats of a sound one. -/
theorem become_sound {gen : UInt8} {v t : Vital} (h : v.Acting gen) (ht : t.Sound gen) :
    (v.become t).Sound gen := by
  have hs := h.sound
  refine ⟨⟨ht.stats.atk, ht.stats.def', ht.stats.spc, hs.stats.spaG3, hs.stats.spdG3, fun _ =>
    ⟨hs.stats.atk, hs.stats.def', hs.stats.spc⟩⟩, ⟨hs.lock.charging, hs.lock.thrash⟩, hs.maxHp,
    hs.hp, fun _ => ⟨h.tally.lastDamage, h.tally.bide⟩⟩

/-- What a whole move leaves behind. The user of a move against an empty slot may have copied its
stats, but then the battle is over. -/
structure Left (g : UInt8) (fielded : Bool) (v : Vitals) : Prop where
  intact : v.truncated = false
  user : fielded = true → v.user.Sound g
  target : v.target.Foe g fielded

theorem transform_left (hf : d.vitals.Fit g fielded) :
    Left g fielded (d.transform mv).vitals := by
  have hg := hf.gen
  have hu := hf.user
  have ht := hf.target
  rw [hg] at hu ht
  rcases transform_cases d mv with h | ⟨_, h⟩
  · rw [h]
    exact ⟨hf.intact, fun _ => hu.sound, ht⟩
  · rw [h]
    refine ⟨hf.intact, ?_, ht⟩
    rintro rfl
    exact become_sound hu ht

/-- No call of `applyMove` in this move is unsafe. -/
def MoveSafe (d : Duel) (slot : UInt8) : Prop := ∀ c ∈ d.calls slot, c.2.ArithSafe c.1

theorem useMove_left {slot : UInt8} (hf : d.vitals.Fit g fielded) (hs : d.MoveSafe slot) :
    ∃ d', d.useMove slot = .ok d' ∧ Left g fielded d'.vitals := by
  obtain ⟨⟨o, d₁⟩, hb⟩ := beginMove_ok hf slot
  have hbegun := beginMove_begun d hb
  have hf₁ := begun_fit hf hbegun
  unfold MoveSafe calls at hs
  unfold useMove
  rw [hb] at hs ⊢
  rw [bind_ok]
  cases o with
  | none =>
    have hg := hf₁.gen
    exact ⟨d₁, rfl, hf₁.intact, fun _ => hg ▸ hf₁.user.sound, hg ▸ hf₁.target⟩
  | some r =>
    have hfires := begun_fires hbegun
    have hs₁ : d₁.ArithSafe r.mv := hs (r.mv, d₁) (List.mem_cons_self ..)
    have hidle : r.mv.effect.heals = true → d₁.user.bideTurns = 0 := fun hh =>
      hfires.idle fun he => absurd (he ▸ hh) (by decide)
    obtain ⟨d₂, ha⟩ := applyMove_ok hf₁ hfires.listed hs₁
    have hf₂ := applyMove_fit ha hf₁ hs₁ hidle
    have hf₃ : Vitals.Fit g fielded (d₂.afterMove r.mv).vitals := afterMove_fit hf₂
    obtain ⟨d₃, hm, hf₄⟩ := metronome_fit hf₃
      (by
        intro picked d₅ hr
        refine hs (picked, d₅) ?_
        dsimp only
        rw [ha]
        dsimp only
        rw [hr]
        simp)
      (by
        intro he
        refine afterMove_bideTurns ((applyMove_bideTurns ha hs₁).trans (hfires.idle ?_))
        exact fun hr => absurd (he.symm.trans hr) (by decide))
    obtain ⟨d₄, hi⟩ := mimic_ok (d := d₃) hfires.slot
    have hf₅ : d₄.vitals.Fit g fielded := (mimic_vitals d₃ hi) ▸ hf₄
    refine ⟨d₄.transform r.mv, ?_, transform_left hf₅⟩
    exact bind_eq_ok.mpr ⟨d₂, ha, bind_eq_ok.mpr ⟨d₃, hm, bind_eq_ok.mpr ⟨d₄, hi, rfl⟩⟩⟩

end Duel
end MonsterMesh
