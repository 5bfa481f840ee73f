import MonsterMesh.Engine.Used

/-! Hit points over whole battles: they stay below the maximum, and a fainted mon stays fainted. -/
namespace MonsterMesh

open Fallible

/-! ### One move -/

/-- What a move keeps true of its user: a healing effect stops at the maximum. -/
structure Vital.Capped (v w : Vital) : Prop where
  maxHp : w.maxHp = v.maxHp
  hp : v.hp ≤ v.maxHp → w.hp ≤ w.maxHp

/-- What a move does to its target: it never gains HP. -/
structure Vital.Sunk (v w : Vital) : Prop where
  maxHp : w.maxHp = v.maxHp
  hp : w.hp ≤ v.hp

theorem Vital.Capped.refl (v : Vital) : v.Capped v := ⟨rfl, id⟩

theorem Vital.Capped.trans {u v w : Vital} (h₁ : u.Capped v) (h₂ : v.Capped w) : u.Capped w :=
  ⟨h₂.maxHp.trans h₁.maxHp, fun h => h₂.hp (h₁.hp h)⟩

theorem Vital.Sunk.refl (v : Vital) : v.Sunk v := ⟨rfl, UInt16.le_refl _⟩

theorem Vital.Sunk.trans {u v w : Vital} (h₁ : u.Sunk v) (h₂ : v.Sunk w) : u.Sunk w :=
  ⟨h₂.maxHp.trans h₁.maxHp, UInt16.le_trans h₂.hp h₁.hp⟩

theorem Vital.Sunk.capped {v w : Vital} (h : v.Sunk w) : v.Capped w :=
  ⟨h.maxHp, fun hv => h.maxHp ▸ UInt16.le_trans h.hp hv⟩

theorem Vital.Worn.sunk {v w : Vital} (h : v.Worn w) : v.Sunk w :=
  ⟨by rw [h.same], h.hp⟩

theorem Vital.Hit.sunk {dmg : UInt16} {v w : Vital} (h : v.Hit dmg w) : v.Sunk w :=
  ⟨by rw [h.same], h.hp⟩

theorem Vital.Slotted.sunk {v w : Vital} (h : v.Slotted w) : v.Sunk w := by
  refine ⟨by rw [h.same], ?_⟩
  have hp : w.hp = v.hp := by rw [h.same]
  exact hp ▸ UInt16.le_refl _

theorem Vital.Spent.capped {heals : Bool} {v w : Vital} (h : v.Spent heals w) : v.Capped w := by
  have hm : w.maxHp = v.maxHp := by rw [h.same]
  refine ⟨hm, fun hv => ?_⟩
  rw [hm]
  rcases h.hp with h' | ⟨_, h'⟩
  · exact UInt16.le_trans h' hv
  · exact h'

/-- The user is capped and the target sinks. -/
structure Vitals.Fair (v w : Vitals) : Prop where
  user : v.user.Capped w.user
  target : v.target.Sunk w.target

theorem Vitals.Fair.refl (v : Vitals) : v.Fair v := ⟨.refl _, .refl _⟩

theorem Vitals.Fair.trans {u v w : Vitals} (h₁ : u.Fair v) (h₂ : v.Fair w) : u.Fair w :=
  ⟨h₁.user.trans h₂.user, h₁.target.trans h₂.target⟩

theorem Vitals.Fair.of_user {v w : Vitals} {u : Vital} (h : w = { v with user := u })
    (hu : v.user.Capped u) : v.Fair w := by
  subst h
  exact ⟨hu, .refl _⟩

namespace Duel

variable (d : Duel) (mv : MoveData)

theorem applyMove_fair {d' : Duel} (h : d.applyMove mv = .ok d') (hf : ¬ d.FangUnderflow mv) :
    d.vitals.Fair d'.vitals := by
  obtain ⟨w, hw, ha⟩ := applyMove_cases d mv h hf
  have hafter : w.Fair d'.vitals := ⟨ha.user.capped, ha.target.sunk⟩
  rcases hw with rfl | ⟨_, _, dmg, _, _, _, hs⟩
  · exact hafter
  · exact Vitals.Fair.trans ⟨hs.user.capped, hs.target.sunk⟩ hafter

theorem Locked.fair {d d' : Duel} (h : Locked d d') : d.vitals.Fair d'.vitals :=
  .of_user h.rest h.slotted.sunk.capped

theorem Begun.fair {d d' : Duel} {o : Option Ready} (h : Begun d d' o) :
    d.vitals.Fair d'.vitals := by
  cases h with
  | struggle _ _ hv => exact hv ▸ .refl _
  | slot _ _ hl => exact hl.fair
  | idle hl => exact hl.fair
  | hurt hh =>
    obtain ⟨hw, n, _, hr⟩ := hh
    rw [hr]
    exact ⟨hw.sunk.capped, .refl _⟩
  | bide hl _ hb =>
    refine hl.fair.trans ?_
    rcases hb with ⟨ht, hr | hr⟩
    · exact ⟨hr ▸ ⟨rfl, id⟩, ht.sunk⟩
    · exact ⟨hr ▸ ⟨rfl, id⟩, ht.sunk⟩
  | store hl hv => exact hl.fair.trans (hv ▸ ⟨⟨rfl, id⟩, .refl _⟩)

theorem afterMove_fair : d.vitals.Fair (d.afterMove mv).vitals := by
  unfold afterMove
  obtain ⟨t, _, ht⟩ := thrashTurn_cases d mv
  obtain ⟨hs, hw⟩ := substitute_cases ((d.thrashTurn mv).counter mv) mv
  rw [disable_vitals]
  have h₁ : d.vitals.Fair (d.thrashTurn mv).vitals := ht ▸ ⟨⟨rfl, id⟩, .refl _⟩
  have h₂ : (d.thrashTurn mv).vitals.Fair ((d.thrashTurn mv).counter mv).vitals := by
    rcases counter_cases (d.thrashTurn mv) mv with h | ⟨hc, hr⟩
    · exact h ▸ .refl _
    · exact ⟨hr ▸ ⟨rfl, id⟩, hc.sunk⟩
  exact (h₁.trans h₂).trans (.of_user hs hw.sunk.capped)

theorem transform_fair : d.vitals.Fair (d.transform mv).vitals := by
  rcases transform_cases d mv with h | ⟨_, h⟩
  · exact h ▸ .refl _
  · exact .of_user h ⟨rfl, id⟩

theorem metronomeRoll_vitals : (d.metronomeRoll mv).2.vitals = d.vitals := by
  unfold metronomeRoll
  split_ifs
  · split
    · split_ifs <;> rfl
    · rfl
  · rfl

theorem metronome_fair {d' : Duel} (h : d.metronome mv = .ok d')
    (hf : ∀ picked d₁, d.metronomeRoll mv = (some picked, d₁) → ¬ d₁.FangUnderflow picked) :
    d.vitals.Fair d'.vitals := by
  have hr := metronomeRoll_vitals d mv
  unfold metronome at h
  cases hm : d.metronomeRoll mv with
  | mk o d₁ =>
    rw [hm] at h hr
    cases o with
    | none =>
      cases h
      exact hr ▸ .refl _
    | some picked => exact hr ▸ applyMove_fair d₁ picked h (hf picked d₁ hm)

/-- No call of `applyMove` in this move lets Super Fang underflow. -/
def NoFangUnderflow (slot : UInt8) : Prop := ∀ c ∈ d.calls slot, ¬ c.2.FangUnderflow c.1

theorem useMove_fair {slot : UInt8} {d' : Duel} (h : d.useMove slot = .ok d')
    (hf : d.NoFangUnderflow slot) : d.vitals.Fair d'.vitals := by
  unfold useMove at h
  unfold NoFangUnderflow calls at hf
  obtain ⟨⟨o, d₁⟩, hb, h⟩ := bind_eq_ok.mp h
  have hbegun := (beginMove_begun d hb).fair
  rw [hb] at hf
  cases o with
  | none =>
    cases h
    exact hbegun
  | some r =>
    obtain ⟨d₂, ha, h⟩ := bind_eq_ok.mp h
    obtain ⟨d₃, hm, h⟩ := bind_eq_ok.mp h
    obtain ⟨d₄, hi, h⟩ := bind_eq_ok.mp h
    cases h
    simp only [ha] at hf
    have happ := applyMove_fair d₁ r.mv ha (hf _ (List.mem_cons_self ..))
    have hmet := metronome_fair (d₂.afterMove r.mv) r.mv hm (by
      intro picked d₅ hr
      exact hf (picked, d₅) (by rw [hr]; simp))
    have hmim := mimic_vitals d₃ hi
    have htr := transform_fair d₄ r.mv
    rw [hmim] at htr
    exact (((hbegun.trans happ).trans (afterMove_fair d₂ r.mv)).trans hmet).trans htr

end Duel

/-! ### One call on the engine -/

/-- A mon keeps its maximum, stays below it, and does not come back from 0. -/
structure BattlePoke.Tame (m m' : BattlePoke) : Prop where
  maxHp : m'.maxHp = m.maxHp
  capped : m.hp ≤ m.maxHp → m'.hp ≤ m'.maxHp
  fainted : m.hp = 0 → m'.hp = 0

theorem BattlePoke.Tame.refl (m : BattlePoke) : m.Tame m := ⟨rfl, id, id⟩

theorem BattlePoke.Tame.trans {a b c : BattlePoke} (h₁ : a.Tame b) (h₂ : b.Tame c) : a.Tame c :=
  ⟨h₂.maxHp.trans h₁.maxHp, fun h => h₂.capped (h₁.capped h), fun h => h₂.fainted (h₁.fainted h)⟩

theorem BattlePoke.Tame.of_eq {m m' : BattlePoke} (h : m'.hp = m.hp) (hm : m'.maxHp = m.maxHp) :
    m.Tame m' :=
  ⟨hm, fun hc => by rw [h, hm]; exact hc, fun h₀ => h.trans h₀⟩

theorem Vital.Sunk.tame {m m' : BattlePoke} (h : m.vital.Sunk m'.vital) : m.Tame m' := by
  refine ⟨h.maxHp, h.capped.hp, fun h₀ => ?_⟩
  have hle : m'.hp ≤ m.hp := h.hp
  rw [h₀] at hle
  exact UInt16.le_zero_iff.mp hle

theorem Vital.Capped.tame {m m' : BattlePoke} (h : m.vital.Capped m'.vital) (h₀ : m.hp ≠ 0) :
    m.Tame m' :=
  ⟨h.maxHp, h.hp, fun h => absurd h h₀⟩

theorem clearVolatile_tame (m : BattlePoke) : m.Tame m.clearVolatile := by
  unfold BattlePoke.clearVolatile BattlePoke.unmimic BattlePoke.untransform
  dsimp only
  split_ifs <;> exact .of_eq rfl rfl

theorem tick_sunk (m : BattlePoke) (active : Bool) (n : UInt16) (line : String) (sink : Bool) :
    m.vital.Sunk (m.tick active n line sink).1.vital := by
  unfold BattlePoke.tick
  split_ifs
  · exact ⟨rfl, hurt_le m _⟩
  · exact .refl _

theorem residual_sunk (m : BattlePoke) (sink : Bool) :
    m.vital.Sunk (m.residual sink).1.vital :=
  ((tick_sunk m ..).trans (tick_sunk _ ..)).trans (tick_sunk _ ..)

/-- Every slot of the party is tame. -/
def BattleParty.Tame (p q : BattleParty) : Prop := ∀ i, (p.mons i).Tame (q.mons i)

theorem BattleParty.Tame.refl (p : BattleParty) : p.Tame p := fun _ => .refl _

theorem setActiveMon_tame {p : BattleParty} {m : BattlePoke} (h : p.activeMon.Tame m) :
    p.Tame (p.setActiveMon m) := by
  intro i
  unfold BattleParty.setActiveMon
  by_cases hi : i = p.active
  · subst hi
    dsimp only
    rw [Function.update_self]
    exact h
  · simpa [hi] using BattlePoke.Tame.refl _

theorem fielded_tame {p : BattleParty} {m : BattlePoke} (fx : FieldFx) (h : p.activeMon.Tame m) :
    p.Tame (p.fielded m fx) :=
  setActiveMon_tame h

theorem switchTo_tame (p : BattleParty) (i : Fin 6) : p.Tame (p.switchTo i) :=
  setActiveMon_tame (clearVolatile_tame _)

theorem endOfTurn_tame (p : BattleParty) (sink : Bool) : p.Tame (p.endOfTurn sink).1 := by
  unfold BattleParty.endOfTurn
  split_ifs
  · exact .refl p
  · exact setActiveMon_tame (residual_sunk _ _).tame

namespace Engine

variable (e : Engine) (s : Side) (sink : Bool)

/-- Both parties are tame. -/
def Tame (e e' : Engine) : Prop := ∀ s, (e.p s).Tame (e'.p s)

theorem Tame.refl : e.Tame e := fun _ => .refl _

theorem Tame.trans {e₁ e₂ e₃ : Engine} (h₁ : e₁.Tame e₂) (h₂ : e₂.Tame e₃) : e₁.Tame e₃ :=
  fun s i => (h₁ s i).trans (h₂ s i)

theorem setParty_tame {p : BattleParty} (h : (e.p s).Tame p) : e.Tame (e.setParty s p) := by
  intro t
  unfold setParty
  by_cases ht : t = s
  · subst ht
    simpa using h
  · simpa [ht] using BattleParty.Tame.refl _

theorem absorb_tame {d : Duel} (hu : (e.p s).activeMon.Tame d.user)
    (ht : (e.p s.other).activeMon.Tame d.target) : e.Tame (e.absorb s d) := by
  intro t
  rcases s.eq_or_eq_other t with rfl | rfl
  · simpa [absorb] using fielded_tame d.userFx hu
  · simpa [absorb] using fielded_tame d.targetFx ht

theorem stepAction_tame {r : Engine × Output} (h : e.stepAction s sink = .ok r)
    (hf : ∀ c ∈ e.stepCalls s sink, ¬ c.2.FangUnderflow c.1) : e.Tame r.1 := by
  unfold stepAction at h
  unfold stepCalls at hf
  split_ifs at h with h₀ h₁ h₂
  · cases h
    exact .refl e
  · split at h
    · cases h
      exact .refl e
    · cases h
      exact setParty_tame e s (switchTo_tame _ _)
  · obtain ⟨d, hd, rfl⟩ := map_eq_ok.mp h
    obtain ⟨hr, hp⟩ := not_or.mp h₀
    rw [if_pos ⟨not_not.mp hr, hp, h₂⟩] at hf
    have hfair := Duel.useMove_fair _ hd hf
    exact absorb_tame e s (hfair.user.tame hp) hfair.target.tame
  · cases h
    exact .refl e

theorem playTurn_tame {first : Side} {r : Engine × Output} (h : e.playTurn first sink = .ok r)
    (hf : ∀ c ∈ e.playCalls first sink, ¬ c.2.FangUnderflow c.1) : e.Tame r.1 := by
  unfold playTurn at h
  unfold playCalls at hf
  obtain ⟨⟨e₁, o₁⟩, h₁, h⟩ := bind_eq_ok.mp h
  obtain ⟨⟨e₂, o₂⟩, h₂, h⟩ := bind_eq_ok.mp h
  cases h
  rw [h₁] at hf
  have ht₁ := stepAction_tame e first sink h₁ fun c hc => hf c (List.mem_append_left _ hc)
  have ht₂ := stepAction_tame e₁ first.other sink h₂ fun c hc => hf c (List.mem_append_right _ hc)
  have ht₃ := setParty_tame e₂ first (endOfTurn_tame (e₂.p first) sink)
  have ht₄ := setParty_tame (e₂.applyEndOfTurn first sink).1 first.other
    (endOfTurn_tame ((e₂.applyEndOfTurn first sink).1.p first.other) sink)
  exact ((ht₁.trans ht₂).trans ht₃).trans ht₄

/-- No call of `applyMove` in this turn lets Super Fang underflow. -/
def NoFangUnderflow : Prop := ∀ c ∈ e.turnCalls sink, ¬ c.2.FangUnderflow c.1

theorem executeTurn_tame {r : Engine × Output} (h : e.executeTurn sink = .ok r)
    (hf : e.NoFangUnderflow sink) : e.Tame r.1 := by
  unfold executeTurn at h
  unfold NoFangUnderflow turnCalls at hf
  split_ifs at h with hr
  · rw [if_pos hr] at hf
    have ht := playTurn_tame _ sink h hf
    have hs : e.firstSide.2.p = e.p := by
      unfold firstSide pokeActsFirst
      dsimp only
      split_ifs <;> rfl
    unfold Tame at ht ⊢
    rwa [hs] at ht
  · cases h
    exact .refl e

theorem autoReplace_tame : e.Tame (e.autoReplaceIfFainted s sink).2.1 := by
  unfold autoReplaceIfFainted
  split_ifs
  · exact .refl e
  · split
    · exact setParty_tame e s (switchTo_tame _ _)
    · exact .refl e

/-! ### Whole battles -/

/-- The calls a driver makes on a started engine, with a sink. -/
inductive Call where
  | submitAction (side : Side) (actionType index : UInt8)
  | executeTurn
  | autoReplaceIfFainted (side : Side)
  | replaceOpponent (pty : Gen1Party)
  | forfeit (side : Side)

def call (e : Engine) : Call → Except Fault Engine
  | .submitAction side actionType index => .ok (e.submitAction side actionType index)
  | .executeTurn => Prod.fst <$> e.executeTurn true
  | .autoReplaceIfFainted side => .ok (e.autoReplaceIfFainted side true).2.1
  | .replaceOpponent pty => .ok (e.replaceOpponent pty)
  | .forfeit side => .ok (e.forfeit side true).1

/-- The condition on a call: a turn does not let Super Fang underflow. -/
def FangSafe (e : Engine) (c : Call) : Prop := c = .executeTurn → e.NoFangUnderflow true

/-- The call does not re-initialise side `s`. -/
def Keeps (s : Side) (c : Call) : Prop := s = .one → ∀ pty, c ≠ .replaceOpponent pty

theorem call_tame {c : Call} {e' : Engine} (h : e.call c = .ok e') (hf : e.FangSafe c)
    (hk : Keeps s c) : (e.p s).Tame (e'.p s) := by
  cases c with
  | submitAction side actionType index =>
    cases h
    exact .refl _
  | executeTurn =>
    obtain ⟨r, hr, rfl⟩ := map_eq_ok.mp h
    exact executeTurn_tame e true hr (hf rfl) s
  | autoReplaceIfFainted side =>
    cases h
    exact autoReplace_tame e side true s
  | replaceOpponent pty =>
    cases h
    cases s with
    | zero => exact .refl _
    | one => exact absurd rfl (hk rfl pty)
  | forfeit side =>
    cases h
    exact .refl _

/-- No mon of either side is above its maximum. -/
def Capped : Prop := ∀ s i, ((e.p s).mons i).hp ≤ ((e.p s).mons i).maxHp

theorem initSide_capped (pty : Gen1Party) (gen : UInt8) (i : Fin 6) :
    ((initSide pty gen).mons i).hp ≤ ((initSide pty gen).mons i).maxHp := by
  unfold initSide
  dsimp only
  split_ifs
  · exact startHp_le _ _
  · exact UInt16.le_refl _

theorem call_capped {c : Call} {e' : Engine} (h : e.call c = .ok e') (hf : e.FangSafe c)
    (hc : e.Capped) : e'.Capped := by
  intro s i
  by_cases hk : Keeps s c
  · exact (call_tame e s h hf hk i).capped (hc s i)
  · -- the call re-initialises side 1
    simp only [Keeps, not_forall, not_not] at hk
    obtain ⟨rfl, pty, rfl⟩ := hk
    cases h
    exact initSide_capped pty e.gen i

end Engine

/-- Both sides use their first move. -/
def oneTurn : List Engine.Call := [.submitAction .zero 0 0, .submitAction .one 0 0, .executeTurn]

theorem noFangUnderflow_of_effects {e : Engine} {sink : Bool}
    (h : (e.turnCalls sink).all (fun c => c.1.effect ≠ .superFang) = true) :
    e.NoFangUnderflow sink := by
  intro c hc hf
  obtain ⟨_, _, _, he, _⟩ := hf
  simpa [he] using List.all_eq_true.mp h c hc

end MonsterMesh
