import Mathlib.Tactic.IntervalCases
import MonsterMesh.Engine.Every
import MonsterMesh.Engine.Fit

/-! The indices and stages of a mon, and what each part of a move does to them. -/
namespace MonsterMesh

open Fallible

structure Indices where
  boost : Stage → Int8
  (chargingSlot thrashSlot disabledSlot mimicSlot lastMoveIdx : UInt8)

def BattlePoke.indices (m : BattlePoke) : Indices :=
  { boost := m.boost, chargingSlot := m.chargingSlot, thrashSlot := m.thrashSlot, disabledSlot := m.disabledSlot
    mimicSlot := m.mimicSlot, lastMoveIdx := m.lastMoveIdx }

/-- One of the four slots, or none. -/
def Slotted (x : UInt8) : Prop := x.toNat < 4 ∨ x = 0xFF

/-- A slot that is stored is one of the four where it is not 0xFF. -/
theorem Slotted.lt {x : UInt8} (h : Slotted x) (hx : x ≠ 0xFF) : x.toNat < 4 := h.resolve_right hx

namespace Indices

/-- The stages are from -6 to 6, and what is stored of a slot is one. -/
structure InRange (k : Indices) : Prop where
  boost : ∀ s, -6 ≤ k.boost s ∧ k.boost s ≤ 6
  charging : Slotted k.chargingSlot
  thrash : Slotted k.thrashSlot
  disabled : Slotted k.disabledSlot
  mimic : Slotted k.mimicSlot
  lastMove : Slotted k.lastMoveIdx

end Indices

/-- The indices of both mons in a duel. -/
def Duel.indices (d : Duel) : Indices × Indices := (d.user.indices, d.target.indices)

def Duel.InRange (d : Duel) : Prop := d.indices.1.InRange ∧ d.indices.2.InRange

theorem Duel.InRange.same {d d' : Duel} (h : d.InRange) (heq : d'.indices = d.indices) : d'.InRange := by
  unfold InRange
  rw [heq]
  exact h

/-! ### Stages -/

theorem boost_setBoost (m : BattlePoke) (s t : Stage) (v : Int8) :
    (m.setBoost s v).boost t = if t = s then v else m.boost t := by
  cases s <;> cases t <;> rfl

theorem statChange_inRange {stage : Int8} (h : -6 ≤ stage ∧ stage ≤ 6) (up : Bool) :
    -6 ≤ (statChange stage up).1 ∧ (statChange stage up).1 ≤ 6 := by
  obtain ⟨v, hv⟩ : ∃ v, stage.toInt = v := ⟨_, rfl⟩
  have hs : stage = Int8.ofInt v := by rw [← hv, Int8.ofInt_toInt]
  obtain ⟨h₁, h₂⟩ := h
  rw [Int8.le_iff_toInt_le, hv] at h₁ h₂
  have h₁ : -6 ≤ v := h₁
  have h₂ : v ≤ 6 := h₂
  subst hs
  interval_cases v <;> cases up <;> decide

theorem setBoost_inRange {m : BattlePoke} (h : m.indices.InRange) (s : Stage) {v : Int8} (hv : -6 ≤ v ∧ v ≤ 6) :
    (m.setBoost s v).indices.InRange := by
  have hboost : ∀ t, -6 ≤ (m.setBoost s v).boost t ∧ (m.setBoost s v).boost t ≤ 6 := fun t => by
    rw [boost_setBoost]
    split
    · exact hv
    · exact h.boost t
  cases s <;> exact ⟨hboost, h.charging, h.thrash, h.disabled, h.mimic, h.lastMove⟩

theorem zero_inRange : (-6 : Int8) ≤ 0 ∧ (0 : Int8) ≤ 6 := by decide

theorem clearBoosts_inRange {m : BattlePoke} (h : m.indices.InRange) : m.clearBoosts.indices.InRange :=
  ⟨fun s => by cases s <;> exact zero_inRange, h.charging, h.thrash, h.disabled, h.mimic, h.lastMove⟩

theorem indices_hurtTimes (m : BattlePoke) (dmg : UInt16) (n : ℕ) : (m.hurtTimes dmg n).indices = m.indices := by
  induction n generalizing m with
  | zero => rfl
  | succ n ih =>
    unfold BattlePoke.hurtTimes
    split
    · rfl
    · exact ih _

namespace Duel

variable {d d' : Duel} {mv : MoveData} {r : Ready} {slot : UInt8}

theorem userStat_inRange (h : d.InRange) (s : Stage) (up : Bool) : (d.userStat s up).InRange := by
  unfold userStat
  split
  · exact ⟨setBoost_inRange h.1 s (statChange_inRange (h.1.boost s) up), h.2⟩
  · exact h

theorem targetStat_inRange (h : d.InRange) (s : Stage) (up : Bool) : (d.targetStat s up).InRange := by
  unfold targetStat
  split
  · exact ⟨h.1, setBoost_inRange h.2 s (statChange_inRange (h.2.boost s) up)⟩
  · exact h

/-! ### Arithmetic -/

/-- The two ways a computation can go wrong. -/
def Arith (f : Fault) : Prop := f = .signedOverflow ∨ f = .divByZero

instance (f : Fault) : Decidable (Arith f) := inferInstanceAs (Decidable (_ ∨ _))

section

variable {f : Fault} (hf : ¬ Arith f)

include hf

theorem int32_avoids (v : ℕ) : Avoids f (int32 v) fun _ => True := by
  unfold int32
  split
  · trivial
  · exact fun h => hf (.inl h.symm)

theorem divide_avoids (a b : ℕ) : Avoids f (divide a b) fun _ => True := by
  unfold divide
  split
  · exact fun h => hf (.inr h.symm)
  · trivial

theorem modulo_avoids (a b : ℕ) : Avoids f (modulo a b) fun _ => True := by
  unfold modulo
  split
  · exact fun h => hf (.inr h.symm)
  · trivial

theorem boostedStats_avoids (d : Duel) (mv : MoveData) : Avoids f (d.boostedStats mv) fun _ => True := by
  unfold boostedStats
  refine (int32_avoids hf _).bind fun a _ => (int32_avoids hf _).bind fun b _ => ?_
  dsimp only
  split
  · exact (int32_avoids hf _).bind fun _ _ => trivial
  · trivial

theorem half_avoids (v : ℕ) : Avoids f ((· / 2) <$> int32 v) fun _ => True :=
  (int32_avoids hf v).map fun _ _ => trivial

/-- The bonus for the user's own type and the two type factors. -/
theorem typed_avoids (d : Duel) (mv : MoveData) (dmg e₁ e₂ : ℕ) :
    Avoids f (do
      let dmg ← if mv.type = d.user.type1 ∨ mv.type = d.user.type2 then (· / 2) <$> int32 (dmg * 3) else .ok dmg
      let dmg ← (· / 2) <$> int32 (dmg * e₁)
      (· / 2) <$> int32 (dmg * e₂)) fun _ => True := by
  by_cases hs : mv.type = d.user.type1 ∨ mv.type = d.user.type2
  · rw [if_pos hs]
    exact (half_avoids hf _).bind fun _ _ => (half_avoids hf _).bind fun _ _ => half_avoids hf _
  · rw [if_neg hs, bind_ok]
    exact (half_avoids hf _).bind fun _ _ => half_avoids hf _

theorem baseDamage_avoids (d : Duel) (mv : MoveData) (crit : Bool) (a b : ℕ) :
    Avoids f (d.baseDamage mv crit a b) fun _ => True := by
  unfold baseDamage
  refine (int32_avoids hf _).bind fun _ _ => (int32_avoids hf _).bind fun _ _ =>
    (divide_avoids hf _ _).bind fun n _ => ?_
  dsimp only
  by_cases hc : (crit && d.isGen3) = true
  · rw [if_pos hc]
    exact (int32_avoids hf _).bind fun _ _ => typed_avoids hf d mv _ _ _
  · rw [if_neg hc]
    exact typed_avoids hf d mv _ _ _

theorem varyDamage_avoids (d : Duel) (dmg : ℕ) : Avoids f (d.varyDamage dmg) fun _ => True := by
  unfold varyDamage
  split
  · trivial
  · exact (int32_avoids hf _).bind fun _ _ => trivial

theorem calcDamage_avoids (d : Duel) (mv : MoveData) :
    Avoids f (d.calcDamage mv) fun r => r.2.2.indices = d.indices := by
  refine .of_ok (fun r hr => ?_) ?_
  · obtain ⟨g, hg⟩ := calcDamage_duel d mv hr
    rw [hg]
    rfl
  · refine Avoids.ne (P := fun _ => True) ?_
    unfold calcDamage
    split
    · trivial
    · refine (boostedStats_avoids hf d mv).bind fun _ _ => ?_
      dsimp only
      exact (baseDamage_avoids hf _ _ _ _ _).bind fun _ _ => (varyDamage_avoids hf _ _).bind fun _ _ => trivial

theorem confusionDamage_avoids (m : BattlePoke) : Avoids f (confusionDamage m) fun _ => True := by
  unfold confusionDamage
  exact (int32_avoids hf _).bind fun _ _ => (int32_avoids hf _).bind fun _ _ =>
    (divide_avoids hf _ _).bind fun _ _ => trivial

end

/-! ### `applyMove` -/

theorem hitCheck_indices (d : Duel) (mv : MoveData) : (d.hitCheck mv).2.indices = d.indices := by
  unfold hitCheck rollHit
  dsimp only
  split_ifs <;> rfl

theorem beforeDamage_indices (d : Duel) (mv : MoveData) : (d.beforeDamage mv).2.indices = d.indices := by
  rw [← hitCheck_indices d mv]
  unfold beforeDamage
  dsimp only
  split_ifs <;> rfl

theorem userAfterHit_indices (d : Duel) (mv : MoveData) (dmg : UInt16) :
    (d.userAfterHit mv dmg).indices = d.indices := by
  unfold userAfterHit
  split <;> rfl

theorem targetAfterHit_indices (d : Duel) (mv : MoveData) : (d.targetAfterHit mv).indices = d.indices := by
  unfold targetAfterHit
  split
  · dsimp only
    split_ifs <;> rfl
  · split_ifs <;> rfl
  · rfl

theorem storeBide_indices (d : Duel) (dmg : UInt16) : (if d.target.bideTurns ≠ 0 then
    (d.narrow (d.target.bideDamage.toNat + dmg.toNat)).2.setTarget
      { d.target with bideDamage := (d.narrow (d.target.bideDamage.toNat + dmg.toNat)).1 }
    else d).indices = d.indices := by
  split_ifs <;> rfl

/-- Rage is the one stage change of a hit. -/
theorem recordHit_inRange (h : d.InRange) (dmg : UInt16) : (d.recordHit dmg).InRange := by
  have hb := h.same (storeBide_indices d dmg)
  unfold recordHit
  dsimp only
  generalize (if d.target.bideTurns ≠ 0 then
    (d.narrow (d.target.bideDamage.toNat + dmg.toNat)).2.setTarget
      { d.target with bideDamage := (d.narrow (d.target.bideDamage.toNat + dmg.toNat)).1 }
    else d) = d₁ at hb ⊢
  split_ifs
  · exact targetStat_inRange (d := d₁.setTarget { d₁.target with lastDamageTaken := dmg }) hb .atk true
  · exact hb

theorem landHit_avoids (h : d.InRange) (mv : MoveData) (dmg : UInt16) (crit : Bool) :
    Avoids .outOfBounds (d.landHit mv dmg crit) InRange := by
  unfold landHit
  dsimp only
  obtain ⟨g, hg⟩ := hitCount_snd d mv
  refine Avoids.bind (P := fun d₁ => d₁.indices = d.indices) (.of_ok (fun d₁ hd => ?_) ?_) fun d₁ hd => ?_
  · obtain ⟨o, ho⟩ := sayHits_eq hd
    have hk : d₁.indices = (d.user.indices, (d.target.hurtTimes dmg (d.hitCount mv).1).indices) := by
      rw [ho, hg]
      split_ifs <;> rfl
    rw [hk, indices_hurtTimes]
    rfl
  · unfold sayHits
    split_ifs <;> exact nofun
  · refine recordHit_inRange ?_ dmg
    exact h.same ((targetAfterHit_indices _ mv).trans ((userAfterHit_indices d₁ mv dmg).trans hd))

theorem dealDamage_avoids (h : d.InRange) (mv : MoveData) :
    Avoids .outOfBounds (d.dealDamage mv) fun r => r.2.InRange := by
  unfold dealDamage
  split
  · exact h
  · refine (calcDamage_avoids (by decide) d mv).bind fun ⟨dmg, crit, d₁⟩ hd => ?_
    dsimp only at hd ⊢
    split
    · exact h.same hd
    · exact (landHit_avoids (h.same hd) mv dmg crit).bind fun _ hd => hd

theorem fixedDamage_avoids (h : d.InRange) (mv : MoveData) : Avoids .outOfBounds (d.fixedDamage mv) InRange := by
  unfold fixedDamage
  split
  · exact h
  · exact h
  · exact (modulo_avoids (by decide) _ _).bind fun _ _ => h
  · exact h
  · split <;> exact h
  · exact h

theorem inflict_indices (d : Duel) (mv : MoveData) (status : UInt8) (text : String) :
    (d.inflict mv status text).indices = d.indices := by
  unfold inflict roll
  dsimp only
  split_ifs <;> rfl

theorem inflictSleep_indices (d : Duel) (mv : MoveData) : (d.inflictSleep mv).indices = d.indices := by
  unfold inflictSleep roll
  dsimp only
  split_ifs <;> rfl

theorem inflictConfusion_indices (d : Duel) (mv : MoveData) : (d.inflictConfusion mv).indices = d.indices := by
  unfold inflictConfusion roll
  dsimp only
  split_ifs <;> rfl

theorem secondary_inRange (h : d.InRange) (mv : MoveData) : (d.secondary mv).InRange := by
  unfold secondary
  cases mv.effect
  case statusPsn => exact h.same (inflict_indices ..)
  case statusBrn => exact h.same (inflict_indices ..)
  case statusPar => exact h.same (inflict_indices ..)
  case statusFrz => exact h.same (inflict_indices ..)
  case statusSlp => exact h.same (inflictSleep_indices ..)
  case statusConfuse => exact h.same (inflictConfusion_indices ..)
  case haze => exact ⟨clearBoosts_inRange h.1, clearBoosts_inRange h.2⟩
  case healHalf =>
    dsimp only
    split_ifs <;> exact h
  case hyperBeam =>
    dsimp only
    split_ifs <;> exact h
  all_goals first
    | exact userStat_inRange h _ _
    | exact targetStat_inRange h _ _
    | exact h

theorem closing_indices (d : Duel) (mv : MoveData) : (d.closing mv).indices = d.indices := by
  unfold closing
  dsimp only
  split_ifs <;> rfl

theorem applyMove_avoids (h : d.InRange) (mv : MoveData) : Avoids .outOfBounds (d.applyMove mv) InRange := by
  have hb : (d.beforeDamage mv).2.InRange := h.same (beforeDamage_indices d mv)
  unfold applyMove
  split
  · refine (dealDamage_avoids hb mv).bind fun ⟨goOn, d₁⟩ h₁ => ?_
    dsimp only at h₁ ⊢
    split
    · exact h₁
    · exact (fixedDamage_avoids h₁ mv).bind fun d₂ h₂ => (secondary_inRange h₂ mv).same (closing_indices _ mv)
  · exact hb

/-! ### Up to the call of `applyMove` -/

theorem wakeUp_indices (d : Duel) : d.wakeUp.2.indices = d.indices := by
  unfold wakeUp
  split_ifs <;> rfl

theorem shakeOff_indices (d : Duel) : d.shakeOff.2.indices = d.indices := by
  unfold shakeOff
  dsimp only
  split_ifs <;> rfl

theorem heldBack_indices (d : Duel) : d.heldBack.2.indices = d.indices := by
  unfold heldBack
  split_ifs <;> rfl

theorem confusion_avoids (h : d.InRange) : Avoids .outOfBounds d.confusion fun r => r.2.InRange := by
  unfold confusion
  split
  · exact h
  · dsimp only
    split
    · exact h
    · exact (confusionDamage_avoids (by decide) _).bind fun _ _ => h

theorem preMove_avoids (h : d.InRange) : Avoids .outOfBounds d.preMove fun r => r.2.InRange := by
  have hw : d.wakeUp.2.InRange := h.same (wakeUp_indices d)
  have hs : d.wakeUp.2.shakeOff.2.InRange := hw.same (shakeOff_indices _)
  unfold preMove
  dsimp only
  split
  · exact hw
  · split
    · exact hs
    · refine (confusion_avoids hs).bind fun c hc => ?_
      split
      · exact hc.same (heldBack_indices c.2)
      · exact hc

theorem bideTurn_indices (d : Duel) : d.bideTurn.indices = d.indices := by
  unfold bideTurn
  dsimp only
  split_ifs <;> rfl

theorem slotMove_avoids (hs : slot.toNat < 4) :
    Avoids .outOfBounds (d.slotMove slot) fun o => ∀ r, o = some r → r.slot.toNat < 4 := by
  unfold slotMove
  rw [slotAt_ok hs, bind_ok]
  rintro r hr
  obtain ⟨mv, -, rfl⟩ := Option.map_eq_some_iff.mp hr
  exact hs

theorem releaseCharge_avoids (h : d.InRange) (hr : r.slot.toNat < 4) :
    Avoids .outOfBounds (d.releaseCharge r) fun p => p.2.InRange ∧ ∀ r', p.1 = some r' → r'.slot.toNat < 4 := by
  unfold releaseCharge
  split
  · rename_i hc
    refine (slotMove_avoids (h.1.charging.lt hc)).bind fun o ho => ⟨⟨?_, h.2⟩, ho⟩
    exact ⟨h.1.boost, .inr rfl, h.1.thrash, h.1.disabled, h.1.mimic, h.1.lastMove⟩
  · exact ⟨h, fun r' hr' => by cases hr'; exact hr⟩

theorem thrashLock_avoids (h : d.InRange) (hr : r.slot.toNat < 4) :
    Avoids .outOfBounds (d.thrashLock r) fun o => ∀ r', o = some r' → r'.slot.toNat < 4 := by
  unfold thrashLock
  split
  · rename_i hc
    exact slotMove_avoids (h.1.thrash.lt hc)
  · exact fun r' hr' => by cases hr'; exact hr

theorem disabledTurn_inRange (h : d.InRange) : d.disabledTurn.InRange := by
  unfold disabledTurn
  refine ⟨⟨h.1.boost, h.1.charging, h.1.thrash, ?_, h.1.mimic, h.1.lastMove⟩, h.2⟩
  show Slotted (if _ then _ else _)
  split
  · exact .inr rfl
  · exact h.1.disabled

theorem spendPp_avoids (h : d.InRange) (hr : r.slot.toNat < 4) : Avoids .outOfBounds (d.spendPp r) InRange := by
  unfold spendPp
  split
  · exact h
  · rw [slotAt_ok hr, bind_ok, setSlot_ok hr, bind_ok]
    exact ⟨⟨h.1.boost, h.1.charging, h.1.thrash, h.1.disabled, h.1.mimic, .inl hr⟩, h.2⟩

theorem setUp_inRange (h : d.InRange) (hr : r.slot.toNat < 4) :
    (d.setUp r).2.InRange ∧ ∀ r', (d.setUp r).1 = some r' → r'.slot.toNat < 4 := by
  unfold setUp
  split
  · exact ⟨⟨⟨h.1.boost, .inl hr, h.1.thrash, h.1.disabled, h.1.mimic, h.1.lastMove⟩, h.2⟩, nofun⟩
  · split
    · exact ⟨h, nofun⟩
    · split
      · refine ⟨⟨⟨h.1.boost, h.1.charging, .inl hr, h.1.disabled, h.1.mimic, h.1.lastMove⟩, h.2⟩, ?_⟩
        exact fun r' hr' => by cases hr'; exact hr
      · exact ⟨h, fun r' hr' => by cases hr'; exact hr⟩

theorem fire_avoids (h : d.InRange) (hr : r.slot.toNat < 4) :
    Avoids .outOfBounds (d.fire r) fun p => p.2.InRange ∧ ∀ r', p.1 = some r' → r'.slot.toNat < 4 := by
  unfold fire
  split
  · exact ⟨h.same (bideTurn_indices d), nofun⟩
  · split
    · exact ⟨disabledTurn_inRange h, nofun⟩
    · exact (spendPp_avoids h hr).bind fun d₁ h₁ => setUp_inRange (d := d₁.emitMove _ _ _) h₁ hr

theorem slotTurn_avoids (h : d.InRange) (hr : r.slot.toNat < 4) :
    Avoids .outOfBounds (d.slotTurn r) fun p => p.2.InRange ∧ ∀ r', p.1 = some r' → r'.slot.toNat < 4 := by
  unfold slotTurn
  refine (releaseCharge_avoids h hr).bind fun ⟨o, d₁⟩ ⟨h₁, ho⟩ => ?_
  dsimp only at h₁ ho
  cases o with
  | none => exact ⟨h₁, nofun⟩
  | some r₁ =>
    refine (thrashLock_avoids h₁ (ho r₁ rfl)).bind fun o₂ ho₂ => ?_
    cases o₂ with
    | none => exact ⟨h₁, nofun⟩
    | some r₂ => exact fire_avoids h₁ (ho₂ r₂ rfl)

/-- The move that is applied comes from one of the slots, or it is Struggle. -/
theorem beginMove_avoids (h : d.InRange) (slot : UInt8) :
    Avoids .outOfBounds (d.beginMove slot) fun p => p.2.InRange ∧
      ∀ r, p.1 = some r → r.slot.toNat < 4 ∨ r.mv.effect = .recoil := by
  unfold beginMove
  cases hc : d.chosenMove slot with
  | none => exact ⟨h, nofun⟩
  | some r =>
    refine (preMove_avoids h).bind fun ⟨go, d₁⟩ h₁ => ?_
    dsimp only at h₁ ⊢
    split
    · exact ⟨h₁, nofun⟩
    · split
      · rename_i hs
        refine ⟨h₁, fun r' hr' => ?_⟩
        cases hr'
        rcases chosenMove_cases d hc with ⟨-, hm⟩ | hf
        · exact .inr (struggle_recoil hm)
        · exact absurd hs (by simp [hf.struggle])
      · rename_i hs
        obtain ⟨hr, -⟩ := (chosenMove_named d hc (Bool.eq_false_iff.mpr hs)).1
        exact (slotTurn_avoids h₁ hr).mono fun p hp => ⟨hp.1, fun r' hr' => .inl (hp.2 r' hr')⟩

/-! ### After the call of `applyMove` -/

theorem daze_indices (d : Duel) : d.daze.indices = d.indices := by
  unfold daze
  split_ifs <;> rfl

theorem thrashTurn_inRange (h : d.InRange) (mv : MoveData) : (d.thrashTurn mv).InRange := by
  unfold thrashTurn
  split
  · generalize (if 0 < d.user.thrashTurns then d.user.thrashTurns - 1 else d.user.thrashTurns) = n
    dsimp only
    split
    · have hset : (d.setUser { d.user with thrashTurns := n, thrashSlot := 0xFF }).InRange :=
        ⟨⟨h.1.boost, h.1.charging, .inr rfl, h.1.disabled, h.1.mimic, h.1.lastMove⟩, h.2⟩
      exact hset.same (daze_indices _)
    · exact h
  · exact h

theorem counter_indices (d : Duel) (mv : MoveData) : (d.counter mv).indices = d.indices := by
  unfold counter
  dsimp only
  split_ifs <;> rfl

theorem substitute_indices (d : Duel) (mv : MoveData) : (d.substitute mv).indices = d.indices := by
  unfold substitute
  dsimp only
  split_ifs <;> rfl

theorem disable_inRange (h : d.InRange) (mv : MoveData) : (d.disable mv).InRange := by
  have hslot : ∀ i : Fin 4, (UInt8.ofNat i.val).toNat < 4 := by decide
  unfold disable
  dsimp only
  split
  · split
    · exact h
    · exact ⟨h.1, h.2.boost, h.2.charging, h.2.thrash, .inl (hslot _), h.2.mimic, h.2.lastMove⟩
  · exact h

theorem afterMove_inRange (h : d.InRange) (mv : MoveData) : (d.afterMove mv).InRange := by
  have hcounter := (thrashTurn_inRange h mv).same (counter_indices _ mv)
  exact disable_inRange (hcounter.same (substitute_indices _ mv)) mv

theorem metronomeRoll_indices (d : Duel) (mv : MoveData) : (d.metronomeRoll mv).2.indices = d.indices := by
  unfold metronomeRoll
  split_ifs
  · split
    · split_ifs <;> rfl
    · rfl
  · rfl

theorem metronome_avoids (h : d.InRange) (mv : MoveData) : Avoids .outOfBounds (d.metronome mv) InRange := by
  have hroll := h.same (metronomeRoll_indices d mv)
  unfold metronome
  rcases hm : d.metronomeRoll mv with ⟨_ | picked, d₁⟩
  · rw [hm] at hroll
    exact hroll
  · rw [hm] at hroll
    exact applyMove_avoids hroll picked

/-- Mimic copies into the slot it was used from. -/
theorem mimic_avoids (h : d.InRange) (hr : r.slot.toNat < 4 ∨ r.mv.effect = .recoil) :
    Avoids .outOfBounds (d.mimic r) InRange := by
  unfold mimic
  split
  · rename_i hm
    have hr : r.slot.toNat < 4 := hr.resolve_right fun he => absurd (hm.1.symm.trans he) (by decide)
    split
    · unfold copyMove
      rw [slotAt_ok hr, bind_ok, slotAt_ok hr, bind_ok, setSlot_ok hr, bind_ok, setSlot_ok hr, bind_ok]
      exact ⟨⟨h.1.boost, h.1.charging, h.1.thrash, h.1.disabled, .inl hr, h.1.lastMove⟩, h.2⟩
    · exact h
  · exact h

theorem transform_indices (d : Duel) (mv : MoveData) : (d.transform mv).indices = d.indices := by
  unfold transform
  dsimp only
  split_ifs <;> rfl

theorem useMove_avoids (h : d.InRange) (slot : UInt8) : Avoids .outOfBounds (d.useMove slot) InRange := by
  unfold useMove
  refine (beginMove_avoids h slot).bind fun ⟨o, d₁⟩ ⟨h₁, hr⟩ => ?_
  dsimp only at h₁ hr
  cases o with
  | none => exact h₁
  | some r =>
    refine (applyMove_avoids h₁ r.mv).bind fun d₂ h₂ => ?_
    unfold endMove
    refine (metronome_avoids (afterMove_inRange h₂ r.mv) r.mv).bind fun d₃ h₃ => ?_
    exact (mimic_avoids h₃ (hr r rfl)).bind fun d₄ h₄ => h₄.same (transform_indices d₄ r.mv)

end Duel
end MonsterMesh
