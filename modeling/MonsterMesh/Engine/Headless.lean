import MonsterMesh.Engine.Silent

/-! A turn played without a listener leaves the engine a turn with one does, if all its moves are quiet. -/
namespace MonsterMesh

open Fallible

namespace Duel

variable {d d' : Duel} {mv : MoveData} {r : Ready} {slot : UInt8}

/-! ### Up to the call of `applyMove` -/

theorem slotAt_silent {α : Type} (arr : Fin 4 → α) (slot : UInt8) :
    Avoids .nullSink (slotAt arr slot) fun _ => True := by
  unfold slotAt
  split
  · trivial
  · exact nofun

theorem setSlot_silent {α : Type} (arr : Fin 4 → α) (slot : UInt8) (v : α) :
    Avoids .nullSink (setSlot arr slot v) fun _ => True := by
  unfold setSlot
  split
  · trivial
  · exact nofun

theorem slotMove_silent (d : Duel) (slot : UInt8) : Avoids .nullSink (d.slotMove slot) fun _ => True := by
  unfold slotMove
  exact (slotAt_silent _ _).bind fun _ _ => trivial

theorem thrashLock_silent (d : Duel) (r : Ready) : Avoids .nullSink (d.thrashLock r) fun _ => True := by
  unfold thrashLock
  split
  · exact slotMove_silent _ _
  · trivial

theorem alikeWith_ite {α : Type} {c : Prop} [Decidable c] {p p' q q' : α × Duel} (hp : AlikeWith p p')
    (hq : AlikeWith q q') : AlikeWith (if c then p else q) (if c then p' else q') := by
  split
  · exact hp
  · exact hq

theorem AlikeWith.congr {α β : Type} {p p' : α × Duel} {f : Duel → β × Duel} (h : AlikeWith p p')
    (hf : ∀ d s o, AlikeWith (f d) (f (d.heard s o))) : AlikeWith (f p.2) (f p'.2) := by
  obtain ⟨-, s, o, hd⟩ := h
  rw [hd]
  exact hf p.2 s o

theorem wakeUp_alike (d : Duel) (s : Bool) (o : Output) : AlikeWith d.wakeUp (d.heard s o).wakeUp := by
  unfold wakeUp
  refine alikeWith_ite ⟨rfl, _, _, rfl⟩ (alikeWith_ite ?_ ⟨rfl, _, _, rfl⟩)
  exact alikeWith_ite ⟨rfl, _, _, rfl⟩ ⟨rfl, _, _, rfl⟩

theorem shakeOff_alike (d : Duel) (s : Bool) (o : Output) : AlikeWith d.shakeOff (d.heard s o).shakeOff := by
  have hr : AlikeWith (if d.user.paralyzed then d.percent 25 else (false, d))
      (if (d.heard s o).user.paralyzed then (d.heard s o).percent 25 else (false, d.heard s o)) :=
    alikeWith_ite ⟨rfl, _, _, rfl⟩ ⟨rfl, _, _, rfl⟩
  obtain ⟨h₁, s₁, o₁, h₂⟩ := hr
  unfold shakeOff
  dsimp only
  rw [h₁, h₂]
  exact alikeWith_ite ⟨rfl, _, _, rfl⟩ (alikeWith_ite ⟨rfl, _, _, rfl⟩ ⟨rfl, _, _, rfl⟩)

theorem heldBack_alike (d : Duel) (s : Bool) (o : Output) : AlikeWith d.heldBack (d.heard s o).heldBack := by
  unfold heldBack
  exact alikeWith_ite ⟨rfl, _, _, rfl⟩ (alikeWith_ite ⟨rfl, _, _, rfl⟩ ⟨rfl, _, _, rfl⟩)

theorem confusion_alike (d : Duel) (s : Bool) (o : Output) :
    Matches .nullSink AlikeWith d.confusion (d.heard s o).confusion := by
  unfold confusion
  refine Matches.branch (fun _ => ⟨rfl, _, _, rfl⟩) fun _ => ?_
  refine Matches.branch (fun _ => ⟨rfl, _, _, rfl⟩) fun _ => ?_
  refine Matches.after (confusionDamage_avoids (by decide) _) fun v _ => ?_
  exact ⟨rfl, _, _, rfl⟩

theorem preMove_alike (d : Duel) (s : Bool) (o : Output) :
    Matches .nullSink AlikeWith d.preMove (d.heard s o).preMove := by
  have hw := wakeUp_alike d s o
  have hs := hw.congr shakeOff_alike
  unfold preMove
  dsimp only
  rw [hw.1, hs.1]
  refine Matches.branch (fun _ => hw) fun _ => Matches.branch (fun _ => hs) fun _ => ?_
  obtain ⟨-, s₁, o₁, h⟩ := hs
  rw [h]
  refine (confusion_alike _ s₁ o₁).bind fun c c' _ hc => ?_
  rw [hc.1]
  exact alikeWith_ite (hc.congr heldBack_alike) hc

theorem bideTurn_alike (d : Duel) (s : Bool) (o : Output) : d.bideTurn.Alike (d.heard s o).bideTurn := by
  unfold bideTurn
  exact alike_ite (alike_ite ⟨_, _, rfl⟩ ⟨_, _, rfl⟩) ⟨_, _, rfl⟩

theorem releaseCharge_alike (d : Duel) (s : Bool) (o : Output) (r : Ready) :
    Matches .nullSink AlikeWith (d.releaseCharge r) ((d.heard s o).releaseCharge r) := by
  unfold releaseCharge
  refine Matches.branch (fun _ => ?_) fun _ => ⟨rfl, _, _, rfl⟩
  refine Matches.after (slotMove_silent _ _) fun v _ => ?_
  exact ⟨rfl, _, _, rfl⟩

theorem spendPp_alike (d : Duel) (s : Bool) (o : Output) (r : Ready) :
    Matches .nullSink Alike (d.spendPp r) ((d.heard s o).spendPp r) := by
  unfold spendPp
  split
  · exact ⟨_, _, rfl⟩
  · refine Matches.after (slotAt_silent _ _) fun v _ => ?_
    refine Matches.after (setSlot_silent _ _ _) fun w _ => ?_
    exact ⟨_, _, rfl⟩

theorem setUp_alike (d : Duel) (s : Bool) (o : Output) (r : Ready) :
    AlikeWith (d.setUp r) ((d.heard s o).setUp r) := by
  unfold setUp
  refine alikeWith_ite ⟨rfl, _, _, rfl⟩ (alikeWith_ite ⟨rfl, _, _, rfl⟩ ?_)
  exact alikeWith_ite ⟨rfl, _, _, rfl⟩ ⟨rfl, _, _, rfl⟩

theorem fire_alike (d : Duel) (s : Bool) (o : Output) (r : Ready) :
    Matches .nullSink AlikeWith (d.fire r) ((d.heard s o).fire r) := by
  unfold fire
  refine Matches.branch (fun _ => ⟨rfl, bideTurn_alike d s o⟩) fun _ => ?_
  refine Matches.branch (fun _ => ⟨rfl, _, _, rfl⟩) fun _ => ?_
  refine (spendPp_alike d s o r).bind fun d₁ d₁' _ ⟨s₁, o₁, h⟩ => ?_
  subst h
  exact setUp_alike (d₁.emitMove Gen1Text.use d₁.user.nickname r.mv.name) _ _ r

theorem slotTurn_alike (d : Duel) (s : Bool) (o : Output) (r : Ready) :
    Matches .nullSink AlikeWith (d.slotTurn r) ((d.heard s o).slotTurn r) := by
  unfold slotTurn
  refine (releaseCharge_alike d s o r).bind fun ⟨q, d₁⟩ p' _ ⟨hq, s₁, o₁, h₁⟩ => ?_
  obtain ⟨q', d₁'⟩ := p'
  dsimp only at hq h₁
  subst hq h₁
  cases q' with
  | none => exact ⟨rfl, _, _, rfl⟩
  | some r₁ =>
    refine Matches.after (thrashLock_silent _ _) fun v _ => ?_
    cases v with
    | none => exact ⟨rfl, _, _, rfl⟩
    | some r₂ => exact fire_alike d₁ s₁ o₁ r₂

theorem beginMove_alike (d : Duel) (s : Bool) (o : Output) (slot : UInt8) :
    Matches .nullSink AlikeWith (d.beginMove slot) ((d.heard s o).beginMove slot) := by
  have hc : (d.heard s o).chosenMove slot = d.chosenMove slot := rfl
  unfold beginMove
  rw [hc]
  cases d.chosenMove slot with
  | none => exact ⟨rfl, _, _, rfl⟩
  | some r =>
    refine (preMove_alike d s o).bind fun p p' _ ⟨hp, s₁, o₁, h₁⟩ => ?_
    rw [hp, h₁]
    refine Matches.branch (fun _ => ⟨rfl, _, _, rfl⟩) fun _ => ?_
    exact Matches.branch (fun _ => ⟨rfl, _, _, rfl⟩) fun _ => slotTurn_alike p.2 s₁ o₁ r

/-! ### After the call of `applyMove` -/

theorem daze_alike (d : Duel) (s : Bool) (o : Output) : d.daze.Alike (d.heard s o).daze := by
  unfold daze
  exact alike_ite ⟨_, _, rfl⟩ ⟨_, _, rfl⟩

theorem thrashTurn_alike (d : Duel) (s : Bool) (o : Output) (mv : MoveData) :
    (d.thrashTurn mv).Alike ((d.heard s o).thrashTurn mv) := by
  unfold thrashTurn
  exact alike_ite (alike_ite (daze_alike _ _ _) ⟨_, _, rfl⟩) ⟨_, _, rfl⟩

theorem counter_alike (d : Duel) (s : Bool) (o : Output) (mv : MoveData) :
    (d.counter mv).Alike ((d.heard s o).counter mv) := by
  unfold counter
  exact alike_ite (alike_ite ⟨_, _, rfl⟩ ⟨_, _, rfl⟩) ⟨_, _, rfl⟩

theorem substitute_alike (d : Duel) (s : Bool) (o : Output) (mv : MoveData) :
    (d.substitute mv).Alike ((d.heard s o).substitute mv) := by
  unfold substitute
  exact alike_ite (alike_ite ⟨_, _, rfl⟩ ⟨_, _, rfl⟩) ⟨_, _, rfl⟩

theorem disable_alike (d : Duel) (s : Bool) (o : Output) (mv : MoveData) :
    (d.disable mv).Alike ((d.heard s o).disable mv) := by
  unfold disable
  exact alike_ite (alike_ite ⟨_, _, rfl⟩ ⟨_, _, rfl⟩) ⟨_, _, rfl⟩

theorem afterMove_alike (d : Duel) (s : Bool) (o : Output) (mv : MoveData) :
    (d.afterMove mv).Alike ((d.heard s o).afterMove mv) := by
  have hcounter := (thrashTurn_alike d s o mv).congr fun d s o => counter_alike d s o mv
  have hsub := hcounter.congr fun d s o => substitute_alike d s o mv
  exact hsub.congr fun d s o => disable_alike d s o mv

theorem metronomeRoll_alike (d : Duel) (s : Bool) (o : Output) (mv : MoveData) :
    AlikeWith (d.metronomeRoll mv) ((d.heard s o).metronomeRoll mv) := by
  have hg : mdata (d.heard s o).gen (1 + ((d.heard s o).rand32.1 % 165).toUInt8) =
      mdata d.gen (1 + (d.rand32.1 % 165).toUInt8) := rfl
  unfold metronomeRoll
  refine alikeWith_ite ?_ ⟨rfl, _, _, rfl⟩
  rw [hg]
  cases mdata d.gen (1 + (d.rand32.1 % 165).toUInt8) with
  | none => exact ⟨rfl, _, _, rfl⟩
  | some picked => exact alikeWith_ite ⟨rfl, _, _, rfl⟩ ⟨rfl, _, _, rfl⟩

/-- Metronome leaves the same duel if the move it rolls is quiet. -/
theorem metronome_alike (d : Duel) (s : Bool) (o : Output) (mv : MoveData)
    (hq : ∀ picked d', d.metronomeRoll mv = (some picked, d') → d'.Quiet picked) :
    Matches .nullSink Alike (d.metronome mv) ((d.heard s o).metronome mv) := by
  obtain ⟨hr, s₁, o₁, h₁⟩ := metronomeRoll_alike d s o mv
  have hp : (d.heard s o).metronomeRoll mv = ((d.metronomeRoll mv).1, (d.metronomeRoll mv).2.heard s₁ o₁) :=
    Prod.ext hr h₁
  unfold metronome
  rw [hp]
  rcases hm : d.metronomeRoll mv with ⟨_ | picked, d'⟩
  · exact ⟨_, _, rfl⟩
  · exact applyMove_alike d' s₁ o₁ (hq picked d' hm)

theorem copyMove_alike (d : Duel) (s : Bool) (o : Output) (slot id : UInt8) :
    Matches .nullSink Alike (d.copyMove slot id) ((d.heard s o).copyMove slot id) := by
  unfold copyMove
  refine Matches.after (slotAt_silent _ _) fun v _ => ?_
  refine Matches.after (slotAt_silent _ _) fun v _ => ?_
  refine Matches.after (setSlot_silent _ _ _) fun v _ => ?_
  refine Matches.after (setSlot_silent _ _ _) fun v _ => ?_
  exact ⟨_, _, rfl⟩

theorem mimic_alike (d : Duel) (s : Bool) (o : Output) (r : Ready) :
    Matches .nullSink Alike (d.mimic r) ((d.heard s o).mimic r) := by
  have ht : (d.heard s o).targetLastMove = d.targetLastMove := rfl
  unfold mimic
  refine Matches.branch (fun _ => ?_) fun _ => ⟨_, _, rfl⟩
  rw [ht]
  cases d.targetLastMove with
  | none => exact ⟨_, _, rfl⟩
  | some id => exact copyMove_alike d s o r.slot id

theorem transform_alike (d : Duel) (s : Bool) (o : Output) (mv : MoveData) :
    (d.transform mv).Alike ((d.heard s o).transform mv) := by
  unfold transform
  exact alike_ite ⟨_, _, rfl⟩ ⟨_, _, rfl⟩

/-- A move leaves the same duel with a listener and without, if all that it applies is quiet. -/
theorem useMove_alike (d : Duel) (s : Bool) (o : Output) (slot : UInt8)
    (hq : ∀ c ∈ d.calls slot, c.2.Quiet c.1) :
    Matches .nullSink Alike (d.useMove slot) ((d.heard s o).useMove slot) := by
  unfold calls at hq
  unfold useMove
  refine (beginMove_alike d s o slot).bind fun ⟨q, d₁⟩ p' hb ⟨h₁, s₁, o₁, h₂⟩ => ?_
  obtain ⟨q', d₁'⟩ := p'
  dsimp only at h₁ h₂
  subst h₁ h₂
  cases q' with
  | none => exact ⟨_, _, rfl⟩
  | some r =>
    rw [hb] at hq
    dsimp only at hq
    refine (applyMove_alike d₁ s₁ o₁ (hq _ (.head _))).bind fun d₂ d₂' ha ⟨s₂, o₂, h₂⟩ => ?_
    subst h₂
    rw [ha] at hq
    obtain ⟨s₃, o₃, h₃⟩ := afterMove_alike d₂ s₂ o₂ r.mv
    have hmet : Matches .nullSink Alike ((d₂.afterMove r.mv).metronome r.mv)
        (((d₂.afterMove r.mv).heard s₃ o₃).metronome r.mv) := by
      refine metronome_alike _ s₃ o₃ r.mv fun picked d₃ hm => hq (picked, d₃) (.tail _ ?_)
      dsimp only
      rw [hm]
      exact .head _
    unfold endMove
    rw [h₃]
    refine hmet.bind fun d₄ d₄' _ ⟨s₅, o₅, h₅⟩ => ?_
    subst h₅
    refine (mimic_alike d₄ s₅ o₅ r).bind fun d₅ d₅' _ ⟨s₆, o₆, h₆⟩ => ?_
    subst h₆
    exact transform_alike d₅ s₆ o₆ r.mv

/-- A move without repeated hits and stage effects, on a target that does not rage, is quiet. -/
theorem quiet_of_plain (h : mv.effect ≠ .multiHit ∧ mv.effect ≠ .doubleHit ∧ mv.effect.stageChange = none ∧
    (d.beforeDamage mv).2.target.rageActive = false) : d.Quiet mv := by
  obtain ⟨hm, hd, hs, hr⟩ := h
  refine fun _ _ => ⟨fun _ r _ => ⟨?_, fun hrage => ?_⟩, fun c hc => ?_⟩
  · rintro (he | he)
    · exact hm he
    · exact hd he
  · rw [hr] at hrage
    cases hrage
  · rw [hs] at hc
    cases hc

end Duel

/-! ### The turn -/

namespace Engine

variable {e e' : Engine} {side : Side}

/-- The same engine, whatever was said. -/
def Same (r r' : Engine × Output) : Prop := r.1 = r'.1

theorem absorb_alike (e : Engine) (side : Side) {d d' : Duel} (h : d.Alike d') :
    e.absorb side d = e.absorb side d' := by
  obtain ⟨s, o, rfl⟩ := h
  rfl

theorem stepAction_same (e : Engine) (side : Side) (hq : ∀ c ∈ e.stepCalls side true, c.2.Quiet c.1) :
    Matches .nullSink Same (e.stepAction side true) (e.stepAction side false) := by
  unfold stepAction
  refine Matches.branch (fun _ => rfl) fun hon => Matches.branch (fun _ => ?_) fun _ => ?_
  · split <;> exact rfl
  · refine Matches.branch (fun hmove => ?_) fun _ => rfl
    rw [not_or, not_not] at hon
    unfold stepCalls at hq
    rw [if_pos ⟨hon.1, hon.2, hmove⟩] at hq
    exact (Duel.useMove_alike (e.duel side true) false .empty _ hq).map fun d d' h => absorb_alike e side h

theorem tick_same (m : BattlePoke) (active : Bool) (n : UInt16) (line : String) :
    (m.tick active n line true).1 = (m.tick active n line false).1 := by
  unfold BattlePoke.tick
  split <;> rfl

theorem residual_same (m : BattlePoke) : (m.residual true).1 = (m.residual false).1 := by
  unfold BattlePoke.residual
  simp only [tick_same]

theorem endOfTurn_same (p : BattleParty) : (p.endOfTurn true).1 = (p.endOfTurn false).1 := by
  unfold BattleParty.endOfTurn
  split
  · rfl
  · dsimp only
    rw [residual_same]

theorem autoReplaceIfFainted_same (e : Engine) (side : Side) :
    (e.autoReplaceIfFainted side true).1 = (e.autoReplaceIfFainted side false).1 ∧
      (e.autoReplaceIfFainted side true).2.1 = (e.autoReplaceIfFainted side false).2.1 := by
  unfold autoReplaceIfFainted
  split
  · exact ⟨rfl, rfl⟩
  · split <;> exact ⟨rfl, rfl⟩

theorem playTurn_same (e : Engine) (first : Side) (hq : ∀ c ∈ e.playCalls first true, c.2.Quiet c.1) :
    Matches .nullSink Same (e.playTurn first true) (e.playTurn first false) := by
  unfold playCalls at hq
  unfold playTurn
  refine (stepAction_same e first fun c hc => hq c (List.mem_append_left _ hc)).bind
    fun ⟨e₁, o₁⟩ r hs h₁ => ?_
  obtain ⟨e₁', o₁'⟩ := r
  have h₁ : e₁ = e₁' := h₁
  subst h₁
  rw [hs] at hq
  refine (stepAction_same e₁ first.other fun c hc => hq c (List.mem_append_right _ hc)).bind
    fun ⟨e₂, o₂⟩ r _ h₂ => ?_
  obtain ⟨e₂', o₂'⟩ := r
  have h₂ : e₂ = e₂' := h₂
  subst h₂
  show closeTurn _ = closeTurn _
  rw [endOfTurn_same, endOfTurn_same]

theorem executeTurn_same (e : Engine) (hq : ∀ c ∈ e.turnCalls true, c.2.Quiet c.1) :
    Matches .nullSink Same (e.executeTurn true) (e.executeTurn false) := by
  unfold turnCalls at hq
  unfold executeTurn
  refine Matches.branch (fun hr => ?_) fun _ => rfl
  rw [if_pos hr] at hq
  exact playTurn_same _ _ hq

/-- Who listens changes nothing but the lines heard, if the turn applies quiet moves only. -/
theorem listening_changes_nothing (e : Engine) (hq : ∀ c ∈ e.turnCalls true, c.2.Quiet c.1) :
    Prod.fst <$> e.executeTurn false = Prod.fst <$> e.executeTurn true ∧ e.executeTurn false ≠ .error .nullSink ∧
      ∀ side, (e.autoReplaceIfFainted side false).1 = (e.autoReplaceIfFainted side true).1 ∧
        (e.autoReplaceIfFainted side false).2.1 = (e.autoReplaceIfFainted side true).2.1 := by
  have hsame := executeTurn_same e hq
  refine ⟨hsame.map_eq.symm, hsame.ne, fun side => ?_⟩
  obtain ⟨ha, he⟩ := autoReplaceIfFainted_same e side
  exact ⟨ha.symm, he.symm⟩

/-- Two mons about to use their first moves. -/
def faceOff (move move' : UInt8) : Engine :=
  { (Engine.fresh.start (soloParty 0x99 move 0) (soloParty 0xB0 move' 0) 7 1).heal with
    pendAction := fun _ => 0
    pendIndex := fun _ => 0 }

/-- Tackle against Take Down. -/
theorem listening_changes_nothing_tackle : Prod.fst <$> (faceOff 33 36).executeTurn false =
    Prod.fst <$> (faceOff 33 36).executeTurn true := by
  have hplain : ∀ c ∈ (faceOff 33 36).turnCalls true, c.1.effect ≠ .multiHit ∧ c.1.effect ≠ .doubleHit ∧
      c.1.effect.stageChange = none ∧ (c.2.beforeDamage c.1).2.target.rageActive = false := by
    decide +kernel
  exact (listening_changes_nothing (faceOff 33 36) fun c hc => Duel.quiet_of_plain (hplain c hc)).1

/-- Unheard, Swords Dance raises nothing and Double Kick calls a sink that is not there. -/
theorem listening_matters : ¬ (Prod.fst <$> (faceOff 14 36).executeTurn false =
    Prod.fst <$> (faceOff 14 36).executeTurn true) ∧ (faceOff 24 36).executeTurn false = .error .nullSink := by
  refine ⟨fun h => ?_, ?_⟩
  · have hstage := congrArg (fun x => x.toOption.map fun e => (e.p .zero).activeMon.atkBoost) h
    exact absurd hstage (by decide +kernel)
  · have hnull : (fun _ => ()) <$> (faceOff 24 36).executeTurn false = .error .nullSink := by decide +kernel
    cases hturn : (faceOff 24 36).executeTurn false with
    | error fault =>
      rw [hturn] at hnull
      injection hnull with hfault
      rw [hfault]
    | ok r =>
      rw [hturn] at hnull
      cases hnull

end Engine
end MonsterMesh
