import MonsterMesh.Engine.Indices
import MonsterMesh.Lib.Matching

/-! A turn with and without a log sink: the moves during which it makes no difference. -/
namespace MonsterMesh

open Fallible

/-- Who a stage effect changes (`true` for the user), the stage and the direction. -/
def MoveEffect.stageChange : MoveEffect → Option (Bool × Stage × Bool)
  | .boostAtk => some (true, .atk, true)
  | .boostDef => some (true, .def', true)
  | .boostSpd => some (true, .spd, true)
  | .boostSpc => some (true, .spc, true)
  | .boostAcc => some (true, .acc, true)
  | .boostEva => some (true, .eva, true)
  | .dropAtk => some (false, .atk, false)
  | .dropDef => some (false, .def', false)
  | .dropSpd => some (false, .spd, false)
  | .dropSpc => some (false, .spc, false)
  | .dropAcc => some (false, .acc, false)
  | .dropEva => some (false, .eva, false)
  | _ => Option.none

namespace Duel

/-- The same duel with another listener and other lines heard so far. -/
def heard (d : Duel) (sink : Bool) (out : Output) : Duel := { d with sink := sink, out := out }

/-- Two duels that differ in who listens only. -/
def Alike (d d' : Duel) : Prop := ∃ sink out, d' = d.heard sink out

/-- The same answer, and duels that differ in who listens only. -/
def AlikeWith {α : Type} (p p' : α × Duel) : Prop := p'.1 = p.1 ∧ p.2.Alike p'.2

variable {d d' : Duel} {mv : MoveData} {r : Ready} {slot : UInt8} {s : Bool} {o : Output}

theorem Alike.refl (d : Duel) : d.Alike d := ⟨d.sink, d.out, rfl⟩

theorem Alike.trans {d₁ d₂ d₃ : Duel} (h : d₁.Alike d₂) (h' : d₂.Alike d₃) : d₁.Alike d₃ := by
  obtain ⟨s, o, rfl⟩ := h
  obtain ⟨s', o', rfl⟩ := h'
  exact ⟨s', o', rfl⟩

@[simp] theorem heard_gen : (d.heard s o).gen = d.gen := rfl

@[simp] theorem heard_user : (d.heard s o).user = d.user := rfl

@[simp] theorem heard_target : (d.heard s o).target = d.target := rfl

@[simp] theorem heard_userFx : (d.heard s o).userFx = d.userFx := rfl

@[simp] theorem heard_targetFx : (d.heard s o).targetFx = d.targetFx := rfl

@[simp] theorem heard_rand32 : (d.heard s o).rand32 = (d.rand32.1, d.rand32.2.heard s o) := rfl

@[simp] theorem heard_percent (p : UInt8) :
    (d.heard s o).percent p = ((d.percent p).1, (d.percent p).2.heard s o) := rfl

@[simp] theorem heard_setUser (m : BattlePoke) : (d.heard s o).setUser m = (d.setUser m).heard s o := rfl

@[simp] theorem heard_setTarget (m : BattlePoke) : (d.heard s o).setTarget m = (d.setTarget m).heard s o := rfl

/-! ### `applyMove` -/

theorem heard_rollHit (d : Duel) (s : Bool) (o : Output) (mv : MoveData) :
    (d.heard s o).rollHit mv = ((d.rollHit mv).1, (d.rollHit mv).2.heard s o) := by
  unfold rollHit
  split <;> rfl

theorem hitCheck_alike (d : Duel) (s : Bool) (o : Output) (mv : MoveData) :
    AlikeWith (d.hitCheck mv) ((d.heard s o).hitCheck mv) := by
  unfold hitCheck
  rw [heard_rollHit]
  simp only [heard_target]
  split_ifs <;> exact ⟨rfl, _, _, rfl⟩

theorem payDay_alike (d : Duel) (s : Bool) (o : Output) (mv : MoveData) :
    (if mv.effect = .payDay then d.emit "Coins scattered everywhere!" [] else d).Alike
      (if mv.effect = .payDay then (d.heard s o).emit "Coins scattered everywhere!" [] else d.heard s o) := by
  split_ifs <;> exact ⟨_, _, rfl⟩

theorem beforeDamage_alike (d : Duel) (s : Bool) (o : Output) (mv : MoveData) :
    AlikeWith (d.beforeDamage mv) ((d.heard s o).beforeDamage mv) := by
  obtain ⟨h₁, s₁, o₁, h₂⟩ := hitCheck_alike d s o mv
  obtain ⟨s₂, o₂, hp⟩ := payDay_alike (d.hitCheck mv).2 s₁ o₁ mv
  unfold beforeDamage
  dsimp only
  rw [h₁, h₂, hp]
  by_cases hr : (d.hitCheck mv).1 = true
  · rw [if_pos hr, if_pos hr, heard_user]
    split_ifs <;> exact ⟨rfl, _, _, rfl⟩
  · rw [if_neg hr, if_neg hr]
    exact ⟨h₁, _, _, h₂⟩

theorem varyDamage_alike (d : Duel) (s : Bool) (o : Output) (dmg : ℕ) :
    (d.heard s o).varyDamage dmg = (fun r => (r.1, r.2.heard s o)) <$> d.varyDamage dmg := by
  unfold varyDamage
  split_ifs
  · rfl
  · simp only [heard_rand32]
    cases int32 (dmg * (217 + d.rand32.1.toNat % 39)) <;> rfl

theorem calcDamage_heard (d : Duel) (s : Bool) (o : Output) (mv : MoveData) :
    (d.heard s o).calcDamage mv = (fun r => (r.1, r.2.1, r.2.2.heard s o)) <$> d.calcDamage mv := by
  have hb : (d.heard s o).boostedStats mv = d.boostedStats mv := rfl
  have hc : (d.heard s o).rollCrit = (d.rollCrit.1, d.rollCrit.2.heard s o) := rfl
  have hr : (d.rollCrit.2.heard s o).rawStats mv = d.rollCrit.2.rawStats mv := rfl
  have hd : ∀ c a b, (d.rollCrit.2.heard s o).baseDamage mv c a b = d.rollCrit.2.baseDamage mv c a b :=
    fun _ _ _ => rfl
  unfold calcDamage
  split_ifs with h0
  · rfl
  · rw [hb, hc]
    cases d.boostedStats mv with
    | error e => rfl
    | ok boosted =>
      simp only [bind_ok, hr, hd, varyDamage_alike]
      cases d.rollCrit.2.baseDamage mv d.rollCrit.1
          (if d.rollCrit.1 = true then d.rollCrit.2.rawStats mv else boosted).1
          (if d.rollCrit.1 = true then d.rollCrit.2.rawStats mv else boosted).2 with
      | error e => rfl
      | ok dmg =>
        simp only [bind_ok]
        cases d.rollCrit.2.varyDamage dmg <;> rfl

/-! ### Stages -/

/-- A stage that a change does not move. -/
def AtLimit (stage : Int8) (up : Bool) : Prop := (statChange stage up).1 = stage

theorem setBoost_self (m : BattlePoke) (st : Stage) : m.setBoost st (m.boost st) = m := by
  cases st <;> rfl

theorem userStat_still {st : Stage} {up : Bool} (h : AtLimit (d.user.boost st) up) :
    d.Alike (d.userStat st up) := by
  have hl : (statChange (d.user.boost st) up).1 = d.user.boost st := h
  unfold userStat
  split_ifs
  · dsimp only
    rw [hl, setBoost_self]
    exact ⟨_, _, rfl⟩
  · exact .refl d

theorem targetStat_still {st : Stage} {up : Bool} (h : AtLimit (d.target.boost st) up) :
    d.Alike (d.targetStat st up) := by
  have hl : (statChange (d.target.boost st) up).1 = d.target.boost st := h
  unfold targetStat
  split_ifs
  · dsimp only
    rw [hl, setBoost_self]
    exact ⟨_, _, rfl⟩
  · exact .refl d

theorem Alike.symm (h : d.Alike d') : d'.Alike d := by
  obtain ⟨s, o, rfl⟩ := h
  exact ⟨d.sink, d.out, rfl⟩

theorem alike_ite {c : Prop} [Decidable c] {a a' b b' : Duel} (ha : a.Alike a') (hb : b.Alike b') :
    (if c then a else b).Alike (if c then a' else b') := by
  split
  · exact ha
  · exact hb

theorem Alike.indices (h : d.Alike d') : d'.indices = d.indices := by
  obtain ⟨s, o, rfl⟩ := h
  rfl

theorem heard_alike (d : Duel) (s : Bool) (o : Output) : d.Alike (d.heard s o) := ⟨s, o, rfl⟩

theorem userStat_alike {st : Stage} {up : Bool} (s : Bool) (o : Output) (h : AtLimit (d.user.boost st) up) :
    (d.userStat st up).Alike ((d.heard s o).userStat st up) := by
  have hh : AtLimit ((d.heard s o).user.boost st) up := h
  exact ((userStat_still h).symm.trans (heard_alike d s o)).trans (userStat_still hh)

theorem targetStat_alike {st : Stage} {up : Bool} (s : Bool) (o : Output) (h : AtLimit (d.target.boost st) up) :
    (d.targetStat st up).Alike ((d.heard s o).targetStat st up) := by
  have hh : AtLimit ((d.heard s o).target.boost st) up := h
  exact ((targetStat_still h).symm.trans (heard_alike d s o)).trans (targetStat_still hh)

/-- The stage that a stage effect is about. -/
def stageOf (d : Duel) (c : Bool × Stage × Bool) : Int8 := (if c.1 then d.user else d.target).boost c.2.1

theorem heard_roll (d : Duel) (s : Bool) (o : Output) (chance : UInt8) :
    (d.heard s o).roll chance = ((d.roll chance).1, (d.roll chance).2.heard s o) := by
  unfold roll
  split <;> rfl

theorem inflict_alike (d : Duel) (s : Bool) (o : Output) (mv : MoveData) (st : UInt8) (text : String) :
    (d.inflict mv st text).Alike ((d.heard s o).inflict mv st text) := by
  unfold inflict
  simp only [heard_target, heard_roll]
  split_ifs <;> exact ⟨_, _, rfl⟩

theorem inflictSleep_alike (d : Duel) (s : Bool) (o : Output) (mv : MoveData) :
    (d.inflictSleep mv).Alike ((d.heard s o).inflictSleep mv) := by
  unfold inflictSleep
  simp only [heard_target, heard_roll]
  split_ifs <;> exact ⟨_, _, rfl⟩

theorem inflictConfusion_alike (d : Duel) (s : Bool) (o : Output) (mv : MoveData) :
    (d.inflictConfusion mv).Alike ((d.heard s o).inflictConfusion mv) := by
  unfold inflictConfusion
  simp only [heard_target, heard_roll]
  split_ifs <;> exact ⟨_, _, rfl⟩

/-- A stage effect at its limit changes nothing, with a listener or without. -/
theorem secondary_alike (d : Duel) (s : Bool) (o : Output) (mv : MoveData)
    (h : ∀ c ∈ mv.effect.stageChange, AtLimit (d.stageOf c) c.2.2) :
    (d.secondary mv).Alike ((d.heard s o).secondary mv) := by
  have huser : ∀ st up, mv.effect.stageChange = some (true, st, up) →
      (d.userStat st up).Alike ((d.heard s o).userStat st up) :=
    fun st up hc => userStat_alike s o (h _ hc)
  have htarget : ∀ st up, mv.effect.stageChange = some (false, st, up) →
      (d.targetStat st up).Alike ((d.heard s o).targetStat st up) :=
    fun st up hc => targetStat_alike s o (h _ hc)
  unfold secondary
  cases he : mv.effect
  case statusPsn => exact inflict_alike ..
  case statusBrn => exact inflict_alike ..
  case statusPar => exact inflict_alike ..
  case statusFrz => exact inflict_alike ..
  case statusSlp => exact inflictSleep_alike ..
  case statusConfuse => exact inflictConfusion_alike ..
  case healHalf => exact alike_ite ⟨_, _, rfl⟩ ⟨_, _, rfl⟩
  case hyperBeam => exact alike_ite ⟨_, _, rfl⟩ ⟨_, _, rfl⟩
  all_goals first
    | exact huser _ _ (by rw [he]; rfl)
    | exact htarget _ _ (by rw [he]; rfl)
    | exact ⟨_, _, rfl⟩

theorem closing_alike (d : Duel) (s : Bool) (o : Output) (mv : MoveData) :
    (d.closing mv).Alike ((d.heard s o).closing mv) := by
  unfold closing
  dsimp only
  split_ifs <;> exact ⟨_, _, rfl⟩

theorem fixedDamage_alike (d : Duel) (s : Bool) (o : Output) (mv : MoveData) :
    Matches .nullSink Alike (d.fixedDamage mv) ((d.heard s o).fixedDamage mv) := by
  unfold fixedDamage
  split
  · exact ⟨_, _, rfl⟩
  · exact ⟨_, _, rfl⟩
  · simp only [heard_rand32, heard_user]
    exact Matches.after (modulo_avoids (by decide) _ _) fun v _ => ⟨_, _, rfl⟩
  · exact ⟨_, _, rfl⟩
  · rw [heard_user, heard_target]
    by_cases hl : d.user.level < d.target.level
    · rw [if_pos hl, if_pos hl]
      exact ⟨_, _, rfl⟩
    · rw [if_neg hl, if_neg hl]
      exact ⟨_, _, rfl⟩
  · exact ⟨_, _, rfl⟩

/-! ### Quiet moves -/

/-- The moves that hit more than once. -/
def Repeats (mv : MoveData) : Prop := mv.effect = .multiHit ∨ mv.effect = .doubleHit

/-- A hit for `dmg` does not move the target's Attack stage: it does not rage, falls, or cannot rise. -/
def Placid (d : Duel) (dmg : UInt16) : Prop :=
  d.target.rageActive = true → (d.target.hurt dmg).hp = 0 ∨ AtLimit d.target.atkBoost true

/-- Whether the damage block computes damage. -/
def Damages (mv : MoveData) : Prop := mv.power ≠ 0 ∧ mv.effect.ownDamage = false

/-- The damage, if it is computed at all, comes out, and the target is not immune. -/
def Lands (d : Duel) (mv : MoveData) : Prop :=
  Damages mv → (∃ r, d.calcDamage mv = .ok r) ∧ d.typeFactor mv ≠ 0

/-- The damage block hits once, and no rage answers. -/
def QuietHit (d : Duel) (mv : MoveData) : Prop :=
  Damages mv → ∀ r, d.calcDamage mv = .ok r → ¬ Repeats mv ∧ d.Placid r.1

/-- Nothing in the move needs a listener, if it hits: no repeated hit, and no stage to change. -/
def Quiet (d : Duel) (mv : MoveData) : Prop :=
  (d.beforeDamage mv).1 = true → (d.beforeDamage mv).2.Lands mv →
    (d.beforeDamage mv).2.QuietHit mv ∧ ∀ c ∈ mv.effect.stageChange, AtLimit (d.stageOf c) c.2.2

theorem hitCount_once (d : Duel) {mv : MoveData} (h : ¬ Repeats mv) : d.hitCount mv = (1, d) := by
  unfold hitCount
  rw [if_neg fun he => h (.inl he), if_neg fun he => h (.inr he)]

theorem userAfterHit_alike (d : Duel) (s : Bool) (o : Output) (mv : MoveData) (dmg : UInt16) :
    (d.userAfterHit mv dmg).Alike ((d.heard s o).userAfterHit mv dmg) := by
  unfold userAfterHit
  split <;> exact ⟨_, _, rfl⟩

theorem targetAfterHit_alike (d : Duel) (s : Bool) (o : Output) (mv : MoveData) :
    (d.targetAfterHit mv).Alike ((d.heard s o).targetAfterHit mv) := by
  unfold targetAfterHit
  split
  · refine alike_ite ⟨_, _, rfl⟩ (alike_ite ⟨_, _, rfl⟩ ?_)
    exact alike_ite ⟨_, _, rfl⟩ ⟨_, _, rfl⟩
  · exact alike_ite ⟨_, _, rfl⟩ ⟨_, _, rfl⟩
  · exact ⟨_, _, rfl⟩

/-- The stores of a hit, before rage answers it. -/
def recorded (d : Duel) (dmg : UInt16) : Duel :=
  let d :=
    if d.target.bideTurns ≠ 0 then
      let r := d.narrow (d.target.bideDamage.toNat + dmg.toNat)
      r.2.setTarget { d.target with bideDamage := r.1 }
    else d
  d.setTarget { d.target with lastDamageTaken := dmg }

theorem recordHit_eq (d : Duel) (dmg : UInt16) : d.recordHit dmg =
    if (d.recorded dmg).target.rageActive = true ∧ (d.recorded dmg).target.hp ≠ 0 then
      (d.recorded dmg).targetStat .atk true
    else d.recorded dmg := rfl

theorem recorded_heard (d : Duel) (s : Bool) (o : Output) (dmg : UInt16) :
    (d.recorded dmg).Alike ((d.heard s o).recorded dmg) := by
  unfold recorded
  by_cases hb : d.target.bideTurns ≠ 0
  · rw [if_pos hb, if_pos (c := (d.heard s o).target.bideTurns ≠ 0) hb]
    exact ⟨_, _, rfl⟩
  · rw [if_neg hb, if_neg (c := (d.heard s o).target.bideTurns ≠ 0) hb]
    exact ⟨_, _, rfl⟩

theorem recorded_keeps (d : Duel) (dmg : UInt16) : (d.recorded dmg).indices = d.indices ∧
    (d.recorded dmg).target.rageActive = d.target.rageActive ∧ (d.recorded dmg).target.hp = d.target.hp := by
  unfold recorded
  dsimp only
  split_ifs <;> exact ⟨rfl, rfl, rfl⟩

theorem stageOf_eq {c : Bool × Stage × Bool} (h : d'.indices = d.indices) : d'.stageOf c = d.stageOf c := by
  have hu : d'.user.boost = d.user.boost := congrArg (fun k => k.1.boost) h
  have ht : d'.target.boost = d.target.boost := congrArg (fun k => k.2.boost) h
  unfold stageOf
  split
  · rw [hu]
  · rw [ht]

/-- What is stored of a hit does not depend on the listener, if rage does not answer it. -/
theorem recordHit_alike (d : Duel) (s : Bool) (o : Output) (dmg : UInt16)
    (h : d.target.rageActive = true ∧ d.target.hp ≠ 0 → AtLimit (d.target.boost .atk) true) :
    (d.recordHit dmg).Alike ((d.heard s o).recordHit dmg) ∧ (d.recordHit dmg).indices = d.indices := by
  obtain ⟨s', o', hr⟩ := recorded_heard d s o dmg
  obtain ⟨hi, hrage, hhp⟩ := recorded_keeps d dmg
  have hstage : (d.recorded dmg).target.boost .atk = d.target.boost .atk :=
    stageOf_eq (c := (false, .atk, true)) hi
  rw [← hrage, ← hhp, ← hstage] at h
  rw [recordHit_eq, recordHit_eq, hr, heard_target]
  by_cases hc : (d.recorded dmg).target.rageActive = true ∧ (d.recorded dmg).target.hp ≠ 0
  · rw [if_pos hc, if_pos hc]
    exact ⟨targetStat_alike s' o' (h hc), (targetStat_still (h hc)).indices.trans hi⟩
  · rw [if_neg hc, if_neg hc]
    exact ⟨⟨_, _, rfl⟩, hi⟩

theorem sayHits_once (d : Duel) : d.sayHits 1 = .ok d := rfl

theorem hurtTimes_once (m : BattlePoke) (dmg : UInt16) : m.hurtTimes dmg 1 = m.hurt dmg := by
  unfold BattlePoke.hurtTimes
  split <;> rfl

/-- The messages between the damage and what it sets off. -/
def hitLines (d : Duel) (crit : Bool) (eff : ℕ) : Duel :=
  let d := if crit then d.emit Gen1Text.crit [] else d
  if 4 < eff then d.emit Gen1Text.super [] else if eff < 4 then d.emit Gen1Text.resist [] else d

theorem hitLines_heard (d : Duel) (crit : Bool) (eff : ℕ) : d.Alike (d.hitLines crit eff) := by
  unfold hitLines
  dsimp only
  split_ifs <;> exact ⟨_, _, rfl⟩

theorem landHit_once (d : Duel) {mv : MoveData} (dmg : UInt16) (crit : Bool) (h : ¬ Repeats mv) :
    d.landHit mv dmg crit = .ok (((((d.setTarget (d.target.hurt dmg)).hitLines crit
      (d.typeFactor mv)).userAfterHit mv dmg).targetAfterHit mv).recordHit dmg) := by
  unfold landHit
  rw [hitCount_once d h]
  dsimp only
  rw [sayHits_once, hurtTimes_once]
  rfl

/-- What does not depend on the listener keeps duels alike. -/
theorem Alike.congr {f : Duel → Duel} (h : d.Alike d') (hf : ∀ d s o, (f d).Alike (f (d.heard s o))) :
    (f d).Alike (f d') := by
  obtain ⟨s, o, rfl⟩ := h
  exact hf d s o

theorem hitLines_alike (crit : Bool) (eff : ℕ) (d : Duel) (s : Bool) (o : Output) :
    (d.hitLines crit eff).Alike ((d.heard s o).hitLines crit eff) :=
  ((hitLines_heard d crit eff).symm.trans (heard_alike d s o)).trans (hitLines_heard _ crit eff)

/-- The effects of a hit before its stores leave the rage and the HP of the target. -/
theorem afterHit_target (d : Duel) (mv : MoveData) (dmg : UInt16) :
    ((d.userAfterHit mv dmg).targetAfterHit mv).target.rageActive = d.target.rageActive ∧
      ((d.userAfterHit mv dmg).targetAfterHit mv).target.hp = d.target.hp := by
  have hu : (d.userAfterHit mv dmg).target = d.target := by
    unfold userAfterHit
    split <;> rfl
  rw [← hu]
  unfold targetAfterHit
  split
  · dsimp only
    split_ifs <;> exact ⟨rfl, rfl⟩
  · split_ifs <;> exact ⟨rfl, rfl⟩
  · exact ⟨rfl, rfl⟩

theorem landHit_alike (d : Duel) (s : Bool) (o : Output) {mv : MoveData} {dmg : UInt16} (crit : Bool)
    (h : ¬ Repeats mv) (hp : d.Placid dmg) :
    Matches .nullSink (fun d₁ d₂ => d₁.Alike d₂ ∧ d₁.indices = d.indices) (d.landHit mv dmg crit)
      ((d.heard s o).landHit mv dmg crit) := by
  have hlines := hitLines_alike crit (d.typeFactor mv) (d.setTarget (d.target.hurt dmg)) s o
  obtain ⟨s₁, o₁, he⟩ := hitLines_heard (d.setTarget (d.target.hurt dmg)) crit (d.typeFactor mv)
  rw [landHit_once d dmg crit h, landHit_once (d.heard s o) dmg crit h]
  change (recordHit _ dmg).Alike (recordHit _ dmg) ∧ _
  have hafter := (hlines.congr fun d s o => userAfterHit_alike d s o mv dmg).congr
    fun d s o => targetAfterHit_alike d s o mv
  obtain ⟨hrage, hhp⟩ :=
    afterHit_target ((d.setTarget (d.target.hurt dmg)).hitLines crit (d.typeFactor mv)) mv dmg
  have hi := (targetAfterHit_indices _ mv).trans (userAfterHit_indices
    ((d.setTarget (d.target.hurt dmg)).hitLines crit (d.typeFactor mv)) mv dmg)
  rw [he] at hrage hhp hi hafter ⊢
  obtain ⟨s₂, o₂, h₂⟩ := hafter
  have hstage : ((((d.setTarget (d.target.hurt dmg)).heard s₁ o₁).userAfterHit mv dmg).targetAfterHit
      mv).target.boost .atk = d.target.boost .atk :=
    stageOf_eq (c := (false, .atk, true)) hi
  obtain ⟨ha, hk⟩ := recordHit_alike _ s₂ o₂ dmg fun hr => by
    rw [hstage]
    exact (hp (hrage ▸ hr.1)).resolve_left fun hz => hr.2 (hhp.trans hz)
  exact ⟨h₂ ▸ ha, hk.trans hi⟩

theorem dealDamage_skip (d : Duel) {mv : MoveData} (h : ¬ Damages mv) : d.dealDamage mv = .ok (true, d) := by
  have hc : mv.power = 0 ∨ mv.effect.ownDamage = true := by
    by_contra hn
    rw [not_or] at hn
    exact h ⟨hn.1, Bool.eq_false_iff.mpr hn.2⟩
  unfold dealDamage
  rw [if_pos hc]

theorem dealDamage_block (d : Duel) {mv : MoveData} (h : Damages mv) : d.dealDamage mv = (do
    let r ← d.calcDamage mv
    if r.2.2.typeFactor mv = 0 then return (false, r.2.2.emit Gen1Text.immune r.2.2.target.nickname)
    let d ← r.2.2.landHit mv r.1 r.2.1
    return (true, d)) := by
  have hc : ¬ (mv.power = 0 ∨ mv.effect.ownDamage = true) :=
    not_or.mpr ⟨h.1, Bool.eq_false_iff.mp h.2⟩
  unfold dealDamage
  rw [if_neg hc]

/-- The damage block of a quiet hit; it goes on unless the target is immune. -/
theorem dealDamage_alike (d : Duel) (s : Bool) (o : Output) {mv : MoveData} (hq : d.Lands mv → d.QuietHit mv) :
    Matches .nullSink (fun r r' => AlikeWith r r' ∧ r.2.indices = d.indices ∧ (r.1 = true → d.Lands mv))
      (d.dealDamage mv) ((d.heard s o).dealDamage mv) := by
  by_cases hm : Damages mv
  · rw [dealDamage_block d hm, dealDamage_block _ hm, calcDamage_heard]
    cases hc : d.calcDamage mv with
    | error e =>
      refine Matches.error fun he => (calcDamage_avoids (f := .nullSink) (by decide) d mv).ne ?_
      rw [hc, he]
    | ok r =>
      obtain ⟨g, hg⟩ := calcDamage_duel d mv hc
      have hf : r.2.2.typeFactor mv = d.typeFactor mv := by
        rw [hg]
        rfl
      have hi : r.2.2.indices = d.indices := by
        rw [hg]
        rfl
      have hf' : (r.2.2.heard s o).typeFactor mv = d.typeFactor mv := hf
      dsimp only [bind_ok, map_ok]
      rw [hf, hf']
      by_cases h0 : d.typeFactor mv = 0
      · rw [if_pos h0, if_pos h0]
        exact ⟨⟨rfl, _, _, rfl⟩, hi, nofun⟩
      · rw [if_neg h0, if_neg h0]
        have hlands : d.Lands mv := fun _ => ⟨⟨r, hc⟩, h0⟩
        obtain ⟨hrep, hpl⟩ := hq hlands hm r hc
        have hpl' : r.2.2.Placid r.1 := by
          rw [hg]
          exact hpl
        refine (landHit_alike r.2.2 s o r.2.1 hrep hpl').bind fun d₁ d₂ _ h => ?_
        exact ⟨⟨rfl, h.1⟩, h.2.trans hi, fun _ => hlands⟩
  · rw [dealDamage_skip d hm, dealDamage_skip _ hm]
    exact ⟨⟨rfl, _, _, rfl⟩, rfl, fun _ h => absurd h hm⟩

theorem fixedDamage_indices {d₁ : Duel} (h : d.fixedDamage mv = .ok d₁) : d₁.indices = d.indices := by
  unfold fixedDamage at h
  split at h
  · cases h
    rfl
  · cases h
    rfl
  · obtain ⟨v, -, hv⟩ := bind_eq_ok.mp h
    cases hv
    rfl
  · cases h
    rfl
  · split_ifs at h <;> cases h <;> rfl
  · cases h
    rfl

/-- A quiet move leaves the same duel with a listener and without. -/
theorem applyMove_alike (d : Duel) (s : Bool) (o : Output) {mv : MoveData} (hq : d.Quiet mv) :
    Matches .nullSink Alike (d.applyMove mv) ((d.heard s o).applyMove mv) := by
  obtain ⟨hb, s₁, o₁, hd⟩ := beforeDamage_alike d s o mv
  have hi := beforeDamage_indices d mv
  unfold applyMove
  rw [hb, hd]
  by_cases hgo : (d.beforeDamage mv).1 = true
  · rw [if_pos hgo, if_pos hgo]
    refine (dealDamage_alike _ s₁ o₁ fun hl => (hq hgo hl).1).bind
      fun ⟨go, d₁⟩ r' _ ⟨⟨hg, s₂, o₂, h₂⟩, hi₁, him⟩ => ?_
    dsimp only at hg h₂ hi₁ him ⊢
    rw [hg, h₂]
    cases go with
    | false => exact ⟨_, _, rfl⟩
    | true =>
      refine (fixedDamage_alike d₁ s₂ o₂ mv).bind fun d₂ d₂' hf ⟨s₃, o₃, h₃⟩ => ?_
      subst h₃
      have hst : ∀ c ∈ mv.effect.stageChange, AtLimit (d₂.stageOf c) c.2.2 := fun c hc => by
        rw [stageOf_eq ((fixedDamage_indices hf).trans (hi₁.trans hi))]
        exact (hq hgo (him rfl)).2 c hc
      exact (secondary_alike d₂ s₃ o₃ mv hst).congr fun d s o => closing_alike d s o mv
  · rw [if_neg hgo, if_neg hgo]
    exact ⟨_, _, rfl⟩

end Duel
end MonsterMesh
