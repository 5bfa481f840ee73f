import MonsterMesh.Engine.Every
import MonsterMesh.Engine.Fit
import MonsterMesh.Engine.SwitchOut

/-! The charge of a two-turn move: where it is taken, kept and released. -/
namespace MonsterMesh

open Fallible

namespace BattlePoke

/-- The slot that is charging holds a two-turn move. -/
def ChargedMove (g : UInt8) (m : BattlePoke) (mv : MoveData) : Prop :=
  (∃ h : m.chargingSlot.toNat < 4, mdata g (m.moves ⟨m.chargingSlot.toNat, h⟩) = some mv) ∧
    mv.effect = .chargeTurn

/-- What is known of every mon: it is not charging, charges a two-turn move, or has nothing to use. -/
def Charge (g : UInt8) (m : BattlePoke) : Prop :=
  m.chargingSlot = 0xFF ∨ (∃ mv, m.ChargedMove g mv) ∨ ∀ i, m.pp i = 0

end BattlePoke

/-- The slots that both mons are charging. -/
def Vitals.charges (v : Vitals) : UInt8 × UInt8 := (v.user.chargingSlot, v.target.chargingSlot)

namespace Duel

variable {d d' : Duel} {mv : MoveData} {r : Ready} {o : Option Ready} {slot : UInt8}

/-! ### What leaves the charge alone -/

theorem fixedDamage_charges (h : d.fixedDamage mv = .ok d') : d'.vitals.charges = d.vitals.charges := by
  unfold fixedDamage at h
  split at h
  · cases h
    rfl
  · cases h
    rfl
  · obtain ⟨v, _, h⟩ := bind_eq_ok.mp h
    cases h
    rfl
  · cases h
    rfl
  · split_ifs at h <;> cases h <;> rfl
  · cases h
    rfl

theorem struck_charges {heals : Bool} {dmg : UInt16} {v w : Vitals} (h : v.Struck heals dmg w) :
    w.charges = v.charges := by
  rw [h.rest]
  unfold Vitals.charges
  rw [h.user.same, h.target.same]

theorem secondary_charges : (d.secondary mv).vitals.charges = d.vitals.charges := by
  obtain ⟨v, hv, hs⟩ := secondary_vitals d mv
  rw [hv]
  unfold Vitals.charges
  rw [hs.same]
  rfl

theorem applyMove_charges (h : d.applyMove mv = .ok d') : d'.vitals.charges = d.vitals.charges := by
  have hb := congrArg Vitals.charges (beforeDamage_vitals d mv)
  unfold applyMove at h
  split at h
  · obtain ⟨⟨goOn, d₁⟩, hd, h⟩ := bind_eq_ok.mp h
    have h₁ : d₁.vitals.charges = d.vitals.charges := by
      rcases dealDamage_cases _ mv hd with he | ⟨_, _, dmg, crit, d₂, _, hs⟩
      · exact (congrArg Vitals.charges he).trans hb
      · exact (struck_charges hs).trans hb
    cases goOn with
    | false =>
      cases h
      exact h₁
    | true =>
      obtain ⟨d₂, hx, h⟩ := bind_eq_ok.mp h
      cases h
      rw [closing_vitals, secondary_charges, fixedDamage_charges hx, h₁]
  · cases h
    exact hb

theorem afterMove_charges : (d.afterMove mv).vitals.charges = d.vitals.charges := by
  have hthrash : (d.thrashTurn mv).vitals.charges = d.vitals.charges := by
    obtain ⟨t, _, hv⟩ := thrashTurn_cases d mv
    rw [hv]
    rfl
  have hcounter : ((d.thrashTurn mv).counter mv).vitals.charges = d.vitals.charges := by
    rcases counter_cases (d.thrashTurn mv) mv with h | h
    · rw [h, hthrash]
    · rw [h.rest, ← hthrash]
      unfold Vitals.charges
      rw [h.target.same]
  obtain ⟨hv, hw⟩ := substitute_cases ((d.thrashTurn mv).counter mv) mv
  unfold afterMove
  rw [disable_vitals, hv, ← hcounter]
  unfold Vitals.charges
  rw [hw.same]
  rfl

theorem endMove_charges (h : d.endMove r = .ok d') : d'.vitals.charges = d.vitals.charges := by
  unfold endMove at h
  obtain ⟨d₁, hm, h⟩ := bind_eq_ok.mp h
  obtain ⟨d₂, hi, h⟩ := bind_eq_ok.mp h
  cases h
  have hroll := congrArg Vitals.charges (metronomeRoll_vitals (d.afterMove r.mv) r.mv)
  have hmetronome : d₁.vitals.charges = (d.afterMove r.mv).vitals.charges := by
    unfold metronome at hm
    cases hp : (d.afterMove r.mv).metronomeRoll r.mv with
    | mk picked d₃ =>
      rw [hp] at hm hroll
      cases picked with
      | none =>
        cases hm
        exact hroll
      | some picked => exact (applyMove_charges hm).trans hroll
  have htransform : (d₂.transform r.mv).vitals.charges = d₂.vitals.charges := by
    rcases transform_cases d₂ r.mv with h | ⟨_, h⟩
    · rw [h]
    · rw [h]
      rfl
  rw [htransform, mimic_vitals d₁ hi, hmetronome, afterMove_charges]

/-! ### The charge up to the call of `applyMove` -/

theorem releaseCharge_charging (h : d.releaseCharge r = .ok (o, d')) : d'.user.chargingSlot = 0xFF := by
  unfold releaseCharge at h
  split_ifs at h with hc
  · obtain ⟨o', _, h⟩ := bind_eq_ok.mp h
    cases h
    rfl
  · cases h
    exact not_not.mp hc

theorem spendPp_moves (h : d.spendPp r = .ok d') : d'.user.moves = d.user.moves ∧ d'.gen = d.gen := by
  unfold spendPp at h
  split_ifs at h
  · cases h
    exact ⟨rfl, rfl⟩
  · obtain ⟨_, _, h⟩ := bind_eq_ok.mp h
    obtain ⟨_, _, h⟩ := bind_eq_ok.mp h
    cases h
    exact ⟨rfl, rfl⟩

/-- A move that fires has no charge, and one that charges is a two-turn move. -/
theorem fire_charging (hn : d.Named r) (hc : d.user.chargingSlot = 0xFF) (h : d.fire r = .ok (o, d')) :
    d'.user.chargingSlot = 0xFF ∨ o = none ∧ ∃ mv, d'.user.ChargedMove d'.gen mv := by
  unfold fire at h
  split_ifs at h
  · cases h
    rcases (bideTurn_cases d).rest with hb | hb
    · exact Or.inl ((congrArg (fun v => v.user.chargingSlot) hb).trans hc)
    · exact Or.inl ((congrArg (fun v => v.user.chargingSlot) hb).trans hc)
  · cases h
    exact Or.inl hc
  · obtain ⟨d₁, hs, h⟩ := bind_eq_ok.mp h
    have hc₁ : d₁.user.chargingSlot = 0xFF :=
      (congrArg (fun v => v.user.chargingSlot) (spendPp_vitals d hs)).trans hc
    obtain ⟨hmoves, hgen⟩ := spendPp_moves hs
    replace h := Except.ok.inj h
    unfold setUp at h
    split_ifs at h with hcharge
    · cases h
      simp only [Bool.and_eq_true, decide_eq_true_eq] at hcharge
      obtain ⟨hlt, hm⟩ := hn
      refine Or.inr ⟨rfl, r.mv, ⟨hlt, ?_⟩, hcharge.1.2⟩
      change mdata d₁.gen (d₁.user.moves ⟨r.slot.toNat, hlt⟩) = some r.mv
      rw [hgen, hmoves]
      exact hm
    · cases h
      exact Or.inl hc₁
    · cases h
      exact Or.inl hc₁
    · cases h
      exact Or.inl hc₁

theorem slotTurn_charging (hn : d.Named r) (hs : r.struggle = false) (h : d.slotTurn r = .ok (o, d')) :
    d'.user.chargingSlot = 0xFF ∨ o = none ∧ ∃ mv, d'.user.ChargedMove d'.gen mv := by
  unfold slotTurn at h
  obtain ⟨⟨o₁, d₁⟩, hc, h⟩ := bind_eq_ok.mp h
  have hreleased := releaseCharge_charging hc
  cases o₁ with
  | none =>
    cases h
    exact Or.inl hreleased
  | some r₁ =>
    obtain ⟨o₂, ht, h⟩ := bind_eq_ok.mp h
    cases o₂ with
    | none =>
      cases h
      exact Or.inl hreleased
    | some r₂ => exact fire_charging (locks_named d hn hs hc ht).1 hreleased h

theorem preMove_charges {go : Bool} (h : d.preMove = .ok (go, d')) : d'.vitals.charges = d.vitals.charges := by
  rcases preMove_cases d h with hv | ⟨-, hworn, n, -, hv⟩
  · rw [hv]
  · rw [hv]
    unfold Vitals.charges
    dsimp only
    rw [hworn.same]
    rfl

/-- Every way to the call of `applyMove`: as before, with Struggle, without a charge, or charging. -/
theorem beginMove_charging (h : d.beginMove slot = .ok (o, d')) :
    (o = none ∨ ∃ r, o = some r ∧ r.mv.effect = .recoil) ∧ d'.kits = d.kits ∧
        d'.vitals.charges = d.vitals.charges ∨
      d'.user.chargingSlot = 0xFF ∨ o = none ∧ ∃ mv, d'.user.ChargedMove d'.gen mv := by
  unfold beginMove at h
  cases hc : d.chosenMove slot with
  | none =>
    rw [hc] at h
    cases h
    exact Or.inl ⟨Or.inl rfl, rfl, rfl⟩
  | some r =>
    rw [hc] at h
    obtain ⟨⟨go, d₁⟩, hp, h⟩ := bind_eq_ok.mp h
    have hk := preMove_kits d hp
    have hcharges := preMove_charges hp
    split_ifs at h with h₀ h₁
    · cases h
      exact Or.inl ⟨Or.inl rfl, hk, hcharges⟩
    · cases h
      rcases chosenMove_cases d hc with ⟨-, hm⟩ | hf
      · exact Or.inl ⟨Or.inr ⟨r, rfl, struggle_recoil hm⟩, hk, hcharges⟩
      · exact absurd h₁ (by simp [hf.struggle])
    · have hs : r.struggle = false := Bool.eq_false_iff.mpr h₁
      exact Or.inr (slotTurn_charging ((chosenMove_named d hc hs).1.of_kits hk) hs h)

/-! ### A whole move -/

theorem charge_of_kits {g : UInt8} (hk : d'.kits = d.kits) (hc : d'.vitals.charges = d.vitals.charges)
    (h : d.user.Charge g) : d'.user.Charge g := by
  have hmoves : d'.user.moves = d.user.moves := congrArg (fun k => k.user.moves) hk
  have hpp : d'.user.pp = d.user.pp := congrArg (fun k => k.user.pp) hk
  have hslot : d'.user.chargingSlot = d.user.chargingSlot := congrArg Prod.fst hc
  unfold BattlePoke.Charge BattlePoke.ChargedMove
  simp only [hmoves, hpp, hslot]
  exact h

/-- A move without an effect of its own on the kit leaves it alone. -/
theorem recoil_kits (he : mv.effect = .recoil) (h : d.applyMove mv = .ok d') : d'.kits = d.kits := by
  rcases applyMove_kits d mv h with hk | ⟨hc, -⟩
  · exact hk
  · exact absurd (he.symm.trans hc.1) (by decide)

theorem recoil_endMove_kits (he : r.mv.effect = .recoil) (h : d.endMove r = .ok d') : d'.kits = d.kits := by
  rcases endMove_kits d h with hk | ⟨hc, -⟩ | ⟨hc, -⟩ | ⟨hc, -⟩
  · exact hk
  · exact absurd (he.symm.trans hc) (by decide)
  · exact absurd (he.symm.trans hc) (by decide)
  · exact absurd (he.symm.trans hc) (by decide)

theorem useMove_user_charge (hcharge : d.user.Charge d.gen) (h : d.useMove slot = .ok d') :
    d'.user.Charge d.gen := by
  unfold useMove at h
  obtain ⟨⟨o, d₁⟩, hb, h⟩ := bind_eq_ok.mp h
  have hgen : d₁.gen = d.gen := congrArg Kits.gen (beginMove_kits d hb)
  cases o with
  | none =>
    cases h
    rcases beginMove_charging hb with ⟨-, hk, hc⟩ | hc | ⟨-, hc⟩
    · exact charge_of_kits hk hc hcharge
    · exact Or.inl hc
    · exact Or.inr (Or.inl (hgen ▸ hc))
  | some r =>
    obtain ⟨d₂, ha, h⟩ := bind_eq_ok.mp h
    have hcharges := (endMove_charges h).trans (applyMove_charges ha)
    rcases beginMove_charging hb with ⟨hr, hk, hc⟩ | hc | ⟨hr, -⟩
    · rcases hr with hr | ⟨r', hr, he⟩
      · cases hr
      · cases hr
        have hkits := (recoil_endMove_kits he h).trans (recoil_kits he ha)
        exact charge_of_kits (hkits.trans hk) (hcharges.trans hc) hcharge
    · exact Or.inl ((congrArg Prod.fst hcharges).trans hc)
    · cases hr

theorem begun_target (h : Begun d d' o) : d'.target.chargingSlot = d.target.chargingSlot := by
  have htarget : ∀ {v w : Vitals}, w = v → w.target.chargingSlot = v.target.chargingSlot :=
    fun h => congrArg (fun v => v.target.chargingSlot) h
  cases h with
  | struggle hm hs hv => exact htarget hv
  | slot hr hb hl => exact htarget hl.rest
  | idle hl => exact htarget hl.rest
  | hurt hh =>
    obtain ⟨-, n, -, hv⟩ := hh
    exact htarget hv
  | bide hl hb hbide =>
    have hworn := congrArg Vital.chargingSlot hbide.target.same
    exact hworn.trans (htarget hl.rest)
  | store hl hv => exact (htarget hv).trans (htarget hl.rest)

theorem useMove_target_charge {g : UInt8} (hcharge : d.target.Charge g) (h : d.useMove slot = .ok d') :
    d'.target.Charge g := by
  obtain ⟨k, -, hk⟩ := useMove_kits d h
  have hmoves : d'.target.moves = d.target.moves := congrArg (fun k => k.target.moves) hk
  have hpp : d'.target.pp = d.target.pp := congrArg (fun k => k.target.pp) hk
  have hslot : d'.target.chargingSlot = d.target.chargingSlot := by
    unfold useMove at h
    obtain ⟨⟨o, d₁⟩, hb, h⟩ := bind_eq_ok.mp h
    have hbegun := begun_target (beginMove_begun d hb)
    cases o with
    | none =>
      cases h
      exact hbegun
    | some r =>
      obtain ⟨d₂, ha, h⟩ := bind_eq_ok.mp h
      exact (congrArg Prod.snd ((endMove_charges h).trans (applyMove_charges ha))).trans hbegun
  unfold BattlePoke.Charge BattlePoke.ChargedMove
  simp only [hmoves, hpp, hslot]
  exact hcharge

end Duel

/-! ### Whole battles -/

theorem clearVolatile_charging (m : BattlePoke) : m.clearVolatile.chargingSlot = 0xFF := by
  unfold BattlePoke.clearVolatile BattlePoke.unmimic BattlePoke.untransform
  dsimp only
  split_ifs <;> rfl

theorem residual_charging (m : BattlePoke) (sink : Bool) :
    (m.residual sink).1.chargingSlot = m.chargingSlot := by
  have htick : ∀ (m : BattlePoke) (active : Bool) (n : UInt16) (line : String),
      (m.tick active n line sink).1.chargingSlot = m.chargingSlot := by
    intro m active n line
    unfold BattlePoke.tick
    split_ifs <;> rfl
  unfold BattlePoke.residual
  dsimp only
  exact (htick ..).trans ((htick ..).trans (htick ..))

theorem residual_charge {g : UInt8} {m : BattlePoke} (h : m.Charge g) (sink : Bool) :
    (m.residual sink).1.Charge g := by
  have hk := residual_kit m sink
  have hmoves : (m.residual sink).1.moves = m.moves := congrArg Kit.moves hk
  have hpp : (m.residual sink).1.pp = m.pp := congrArg Kit.pp hk
  have hslot : (m.residual sink).1.chargingSlot = m.chargingSlot := residual_charging m sink
  unfold BattlePoke.Charge BattlePoke.ChargedMove
  simp only [hmoves, hpp, hslot]
  exact h

theorem charge_kept (g : UInt8) : Kept g (BattlePoke.Charge g) where
  loaded src nick := ⟨Or.inl (Engine.initBattlePoke_neutral src nick g).chargingSlot,
    Or.inl (Engine.heal_neutral (Engine.initBattlePoke_neutral src nick g)).chargingSlot⟩
  empty := Or.inr (Or.inr fun _ => rfl)
  useMove _ _ _ hgen huser htarget h :=
    ⟨hgen ▸ Duel.useMove_user_charge (hgen.symm ▸ huser) h, Duel.useMove_target_charge htarget h⟩
  clearVolatile m _ := Or.inl (clearVolatile_charging m)
  residual _ sink h := residual_charge h sink

/-! ### The second turn -/

namespace Duel

/-- The user uses one of its slots and passes every check in front of the move. -/
def passes (d : Duel) (slot : UInt8) : Bool :=
  match d.chosenMove slot, d.preMove with
  | some r, .ok (true, d₁) =>
    !r.struggle && d₁.user.thrashSlot = 0xFF && d₁.user.bideTurns = 0 &&
      !(d₁.user.disabledSlot = d₁.user.chargingSlot && 0 < d₁.user.disabledTurns)
  | _, _ => false

/-- The user pays for a move and ends its turn charging it. -/
def Charges (d : Duel) (slot : UInt8) (j : Fin 4) : Prop :=
  d.spends slot = some j ∧ ∃ d', d.useMove slot = .ok d' ∧ d'.user.chargingSlot = UInt8.ofNat j.val

/-- The second turn of a two-turn move: what was charged is applied, the charge is over, and the same move
is not charged again. -/
structure SecondTurn (d : Duel) (slot : UInt8) (j : Fin 4) : Prop where
  fires : ∃ mv, mdata d.gen (d.user.moves j) = some mv ∧ d.fires slot = some mv
  ends : ∀ d', d.useMove slot = .ok d' → d'.user.chargingSlot = 0xFF
  once : ¬ d.Charges slot j

variable {d d' : Duel} {mv : MoveData} {slot : UInt8}

theorem passes_cases (h : d.passes slot) :
    ∃ r d₁, d.chosenMove slot = some r ∧ d.preMove = .ok (true, d₁) ∧ r.struggle = false ∧ d₁.user.thrashSlot = 0xFF ∧ d₁.user.bideTurns = 0 ∧
      ¬ (d₁.user.disabledSlot = d₁.user.chargingSlot ∧ 0 < d₁.user.disabledTurns) := by
  unfold passes at h
  cases hc : d.chosenMove slot with
  | none =>
    rw [hc] at h
    cases h
  | some r =>
    cases hp : d.preMove with
    | error f =>
      rw [hc, hp] at h
      cases h
    | ok p =>
      obtain ⟨go, d₁⟩ := p
      cases go with
      | false =>
        rw [hc, hp] at h
        cases h
      | true =>
        rw [hc, hp] at h
        simp only [Bool.and_eq_true, Bool.not_eq_true', decide_eq_true_eq, Bool.and_eq_false_iff,
          decide_eq_false_iff_not] at h
        refine ⟨r, d₁, rfl, rfl, h.1.1.1, h.1.1.2, h.1.2, fun hd => ?_⟩
        rcases h.2 with hn | hn
        · exact hn hd.1
        · exact hn hd.2

theorem fire_again {r : Ready} (hr : r.slot.toNat < 4) (hs : r.struggle = false)
    (he : r.mv.effect = .chargeTurn) (hc : d.user.chargingSlot = 0xFF) (hb : d.user.bideTurns = 0)
    (hd : ¬ (d.user.disabledSlot = r.slot ∧ 0 < d.user.disabledTurns)) :
    ∃ d', d.fire r = .ok (none, d') ∧ d'.user.chargingSlot = r.slot := by
  obtain ⟨d₁, hp⟩ := spendPp_ok (d := d) hr
  have hc₁ : d₁.user.chargingSlot = 0xFF :=
    (congrArg (fun v => v.user.chargingSlot) (spendPp_vitals d hp)).trans hc
  have hcharge : (!r.struggle && decide (r.mv.effect = .chargeTurn) &&
      decide ((d₁.emitMove Gen1Text.use d₁.user.nickname r.mv.name).user.chargingSlot = 0xFF)) = true := by
    rw [hs, he,
      show (d₁.emitMove Gen1Text.use d₁.user.nickname r.mv.name).user.chargingSlot = 0xFF from hc₁]
    decide
  unfold fire
  rw [if_neg (by rw [hb]; decide), if_neg hd, hp, bind_ok]
  unfold setUp
  rw [if_pos hcharge]
  exact ⟨_, rfl, rfl⟩

theorem slotTurn_again (hm : d.user.ChargedMove d.gen mv) (hthrash : d.user.thrashSlot = 0xFF)
    (hb : d.user.bideTurns = 0)
    (hd : ¬ (d.user.disabledSlot = d.user.chargingSlot ∧ 0 < d.user.disabledTurns)) (r : Ready) :
    ∃ d', d.slotTurn r = .ok (none, d') ∧ d'.user.chargingSlot = d.user.chargingSlot := by
  obtain ⟨⟨hlt, hmv⟩, he⟩ := hm
  have hcharging : d.user.chargingSlot ≠ 0xFF := by
    intro hff
    rw [hff] at hlt
    exact absurd hlt (by decide)
  have hmove : d.slotMove d.user.chargingSlot = .ok (some ⟨mv, d.user.chargingSlot, false⟩) := by
    unfold slotMove
    rw [slotAt_ok hlt, bind_ok, hmv]
    rfl
  have hrelease : d.releaseCharge r = .ok (some ⟨mv, d.user.chargingSlot, false⟩,
      d.setUser { d.user with chargingSlot := 0xFF }) := by
    unfold releaseCharge
    rw [if_pos hcharging, hmove]
    rfl
  have hlock : (d.setUser { d.user with chargingSlot := 0xFF }).thrashLock
      ⟨mv, d.user.chargingSlot, false⟩ = .ok (some ⟨mv, d.user.chargingSlot, false⟩) :=
    if_neg (not_not.mpr hthrash)
  obtain ⟨d', hfire, hcharge⟩ := fire_again (d := d.setUser { d.user with chargingSlot := 0xFF })
    (r := ⟨mv, d.user.chargingSlot, false⟩) hlt rfl he rfl hb hd
  unfold slotTurn
  rw [hrelease, bind_ok]
  dsimp only
  rw [hlock, bind_ok]
  exact ⟨d', hfire, hcharge⟩

/-- The charge is released, found to be over, and taken again. -/
theorem beginMove_again (hm : d.user.ChargedMove d.gen mv) (h : d.passes slot) :
    ∃ d', d.beginMove slot = .ok (none, d') ∧ d'.user.chargingSlot = d.user.chargingSlot := by
  obtain ⟨r, d₁, hc, hp, hs, hthrash, hb, hd⟩ := passes_cases h
  have hk := preMove_kits d hp
  have hgen : d₁.gen = d.gen := congrArg Kits.gen hk
  have hmoves : d₁.user.moves = d.user.moves := congrArg (fun k => k.user.moves) hk
  have hslot : d₁.user.chargingSlot = d.user.chargingSlot := congrArg Prod.fst (preMove_charges hp)
  have hm₁ : d₁.user.ChargedMove d₁.gen mv := by
    unfold BattlePoke.ChargedMove
    simp only [hgen, hmoves, hslot]
    exact hm
  obtain ⟨d', hturn, hcharge⟩ := slotTurn_again hm₁ hthrash hb hd r
  refine ⟨d', ?_, hcharge.trans hslot⟩
  unfold beginMove
  rw [hc]
  dsimp only
  rw [hp, bind_ok]
  dsimp only
  rw [if_neg (by decide), if_neg (by rw [hs]; decide)]
  exact hturn

theorem not_secondTurn {j : Fin 4} (hm : d.user.ChargedMove d.gen mv) (h : d.passes slot) :
    ¬ d.SecondTurn slot j := by
  rintro ⟨⟨mv', -, hfires⟩, -, -⟩
  obtain ⟨d', hb, -⟩ := beginMove_again hm h
  unfold fires at hfires
  rw [hb] at hfires
  cases hfires

end Duel

namespace Engine

/-- Where a mon acts on the second turn of its two-turn move, the move fires. -/
def FiresSecond (e : Engine) (c : Call) : Prop :=
  ∀ x ∈ e.callMoves c, ∀ j : Fin 4, x.duel.user.chargingSlot = UInt8.ofNat j.val →
    x.duel.passes x.slot → x.duel.SecondTurn x.slot j

/-- No mon acts on the second turn of a two-turn move. -/
def NeverSecond (e : Engine) (c : Call) : Prop :=
  ∀ x ∈ e.callMoves c, ∀ j : Fin 4, x.duel.user.chargingSlot = UInt8.ofNat j.val →
    ¬ x.duel.passes x.slot

/-- A battle, healed first where it is between players. -/
def opening (e₀ : Engine) (p1 p2 : Gen1Party) (seed : UInt32) (gen : UInt8) (healed : Bool) : Engine :=
  if healed then (e₀.start p1 p2 seed gen).heal else e₀.start p1 p2 seed gen

variable {e : Engine} {g : UInt8}

theorem passes_charged {d : Duel} {slot : UInt8} {j : Fin 4} (hcharge : d.user.Charge d.gen)
    (hj : d.user.chargingSlot = UInt8.ofNat j.val) (h : d.passes slot) :
    ∃ mv, d.user.ChargedMove d.gen mv := by
  rcases hcharge with hnone | hcharged | hempty
  · have hne : ∀ j : Fin 4, UInt8.ofNat j.val ≠ 0xFF := by decide
    exact absurd (hj.symm.trans hnone) (hne j)
  · exact hcharged
  · obtain ⟨r, d₁, hc, -, hs, -⟩ := Duel.passes_cases h
    obtain ⟨-, hlt, hpp⟩ := Duel.chosenMove_named d hc hs
    exact absurd (hempty _) hpp

theorem firesSecond_iff (h : e.Every g (BattlePoke.Charge g)) (c : Call) :
    e.FiresSecond c ↔ e.NeverSecond c := by
  have hmoves := every_callMoves (charge_kept g) h c
  constructor
  · intro hfires x hx j hj hpasses
    obtain ⟨hgen, hcharge, -⟩ := hmoves x hx
    obtain ⟨mv, hm⟩ := passes_charged (hgen.symm ▸ hcharge) hj hpasses
    exact Duel.not_secondTurn hm hpasses (hfires x hx j hj hpasses)
  · intro hnever x hx j hj hpasses
    exact absurd hpasses (hnever x hx j hj)

theorem firesSecond_run (cs : List Call) (h : e.Every g (BattlePoke.Charge g)) :
    Along Engine.call FiresSecond e cs ↔ Along Engine.call NeverSecond e cs := by
  induction cs generalizing e with
  | nil => exact Iff.rfl
  | cons c cs ih =>
    unfold Along
    refine and_congr (firesSecond_iff h c) (forall_congr' fun e' => forall_congr' fun hc => ?_)
    exact ih (every_call (charge_kept g) h hc)

/-- Two-turn moves fire on their second turn along a battle only where no mon ever acts on it. -/
theorem two_turn_iff (e₀ : Engine) (p1 p2 : Gen1Party) (seed : UInt32) (gen : UInt8) (healed : Bool)
    (cs : List Call) :
    Along Engine.call FiresSecond (opening e₀ p1 p2 seed gen healed) cs ↔
      Along Engine.call NeverSecond (opening e₀ p1 p2 seed gen healed) cs := by
  refine firesSecond_run (g := gen) cs ?_
  unfold opening
  split_ifs
  · exact every_start_heal (charge_kept gen) e₀ p1 p2 seed
  · exact every_start (charge_kept gen) e₀ p1 p2 seed

/-- A mon that knows Sky Attack uses it against one that splashes, a second time. -/
def skyAttackTwice : List Call :=
  oneTurn ++ [.submitAction .zero 0 0, .submitAction .one 0 0]

theorem skyAttack_neverFires : ¬ Along Engine.call FiresSecond
    (opening Engine.fresh (soloParty 0x99 143 0) (soloParty 0x22 150 0) 7 3 true)
    (skyAttackTwice ++ [.executeTurn]) := by
  intro h
  have hevery := every_start_heal (charge_kept 3) Engine.fresh (soloParty 0x99 143 0) (soloParty 0x22 150 0) 7
  obtain ⟨e, hplay, hacts⟩ := exists_of_map (show (play Engine.call
      (opening Engine.fresh (soloParty 0x99 143 0) (soloParty 0x22 150 0) 7 3 true)
      skyAttackTwice).toOption.map (fun e => (e.callMoves .executeTurn).any fun x =>
        x.duel.user.chargingSlot = 0 && x.duel.passes x.slot) = some true by decide +kernel)
  obtain ⟨x, hx, hact⟩ := List.any_eq_true.mp hacts
  rw [Bool.and_eq_true, decide_eq_true_eq] at hact
  have hnever := (firesSecond_run _ hevery).mp h
  exact (along_concat.mp hnever).2 e hplay x hx 0 hact.1 hact.2

end Engine
end MonsterMesh
