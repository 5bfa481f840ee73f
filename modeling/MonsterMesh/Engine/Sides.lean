import Mathlib.Logic.Relation
import MonsterMesh.Engine.HitPoints
import MonsterMesh.Engine.Kit

/-! What each call does to a party: its mons move, hold their ground or leave the field. -/
namespace MonsterMesh

open Fallible Relation

/-- A call of `useMove`: who makes it, the duel it is entered in and the submitted slot. -/
structure MoveCall where
  side : Side
  duel : Duel
  slot : UInt8

namespace Engine

variable (e : Engine) (s : Side) (sink : Bool)

def stepMoves : List MoveCall :=
  if e.result = .ongoing ∧ (e.p s).activeMon.hp ≠ 0 ∧ e.pendAction s = 0 then
    [⟨s, e.duel s sink, e.pendIndex s⟩]
  else []

def playMoves (first : Side) : List MoveCall :=
  e.stepMoves first sink ++
    match e.stepAction first sink with
    | .ok (e, _) => e.stepMoves first.other sink
    | .error _ => []

/-- The calls of `useMove` in a turn. -/
def turnMoves : List MoveCall :=
  if e.ready then e.firstSide.2.playMoves sink e.firstSide.1 else []

/-- The calls of `useMove` in a call of the driver. -/
def callMoves : Call → List MoveCall
  | .executeTurn => e.turnMoves true
  | _ => []

end Engine

/-- One thing that happens to the party of side `s` in a call that makes the moves `moves`. -/
inductive PartyStep (moves : List MoveCall) (s : Side) (p : BattleParty) : BattleParty → Prop
  | hold (m : BattlePoke) (fx : FieldFx) (h : m.kit = p.activeMon.kit) :
      PartyStep moves s p (p.fielded m fx)
  | move (x : MoveCall) (hx : x ∈ moves) (hs : x.side = s) (hu : x.duel.user = p.activeMon)
      (m : BattlePoke) (fx : FieldFx) (h : x.duel.Reworked x.slot (x.duel.paidKit x.slot) m.kit) :
      PartyStep moves s p (p.fielded m fx)
  | switch (i : Fin 6) (hi : i.val < p.count.val) (hne : i ≠ p.active) :
      PartyStep moves s p (p.switchTo i)

/-- What happens to the party of side `s` over a call that makes the moves `moves`. -/
def PartySteps (moves : List MoveCall) (s : Side) : BattleParty → BattleParty → Prop :=
  ReflTransGen (PartyStep moves s)

theorem PartySteps.refl (moves : List MoveCall) (s : Side) (p : BattleParty) :
    PartySteps moves s p p := ReflTransGen.refl

theorem PartySteps.trans {moves : List MoveCall} {s : Side} {p q r : BattleParty}
    (h₁ : PartySteps moves s p q) (h₂ : PartySteps moves s q r) : PartySteps moves s p r :=
  ReflTransGen.trans h₁ h₂

theorem PartySteps.mono {moves moves' : List MoveCall} {s : Side} {p q : BattleParty}
    (h : PartySteps moves s p q) (hsub : ∀ x ∈ moves, x ∈ moves') : PartySteps moves' s p q := by
  refine ReflTransGen.mono (fun a b hab => ?_) _ _ h
  cases hab with
  | hold m fx h => exact .hold m fx h
  | move x hx hs hu m fx h => exact .move x (hsub x hx) hs hu m fx h
  | switch i hi hne => exact .switch i hi hne

/-- What every step keeps is kept by a call. -/
theorem PartySteps.invariant {moves : List MoveCall} {s : Side} {p q : BattleParty}
    {I : BattleParty → Prop} (h : PartySteps moves s p q)
    (hstep : ∀ p q, PartyStep moves s p q → I p → I q) (hp : I p) : I q := by
  induction h with
  | refl => exact hp
  | tail _ hs ih => exact hstep _ _ hs ih

/-! ### The calls, step by step -/

theorem residual_kit (m : BattlePoke) (sink : Bool) : (m.residual sink).1.kit = m.kit := by
  have ht : ∀ (m : BattlePoke) (active : Bool) (n : UInt16) (line : String),
      (m.tick active n line sink).1.kit = m.kit := by
    intro m active n line
    unfold BattlePoke.tick
    split_ifs <;> rfl
  unfold BattlePoke.residual
  dsimp only
  exact (ht _ _ _ _).trans ((ht _ _ _ _).trans (ht _ _ _ _))

theorem endOfTurn_steps (moves : List MoveCall) (s : Side) (p : BattleParty) (sink : Bool) :
    PartySteps moves s p (p.endOfTurn sink).1 := by
  unfold BattleParty.endOfTurn
  split_ifs
  · exact .refl ..
  · exact ReflTransGen.single (.hold _ _ (residual_kit _ _))

def Kit.unmimic (k : Kit) : Kit :=
  if h : k.mimicSlot.toNat < 4 then
    { k with
      moves := Function.update k.moves ⟨k.mimicSlot.toNat, h⟩ k.mimicOrigMove
      pp := Function.update k.pp ⟨k.mimicSlot.toNat, h⟩ k.mimicOrigPp
      mimicSlot := 0xFF, mimicOrigMove := 0, mimicOrigPp := 0 }
  else k

def Kit.untransform (k : Kit) : Kit :=
  if k.transformed then
    { k with
      species := k.origSpecies, type1 := k.origType1, type2 := k.origType2
      atk := k.origAtk, def' := k.origDef, spd := k.origSpd, spc := k.origSpc
      moves := k.origMoves, pp := k.origPp, transformed := false }
  else k

/-- The kit a mon leaves the field with. -/
theorem clearVolatile_kit (m : BattlePoke) : m.clearVolatile.kit = m.kit.unmimic.untransform := by
  have hu : ∀ m : BattlePoke, m.unmimic.kit = m.kit.unmimic := by
    intro m
    unfold BattlePoke.unmimic Kit.unmimic
    split_ifs with h h' h'
    · rfl
    · exact absurd h h'
    · exact absurd h' h
    · rfl
  have ht : ∀ m : BattlePoke, m.untransform.kit = m.kit.untransform := by
    intro m
    unfold BattlePoke.untransform Kit.untransform
    split_ifs with h h' h'
    · rfl
    · exact absurd h h'
    · exact absurd h' h
    · rfl
  unfold BattlePoke.clearVolatile
  rw [ht, hu]
  rfl

theorem switchTarget_cases {p : BattleParty} {idx : UInt8} {i : Fin 6}
    (h : p.switchTarget idx = some i) : i.val < p.count.val ∧ i ≠ p.active := by
  unfold BattleParty.switchTarget at h
  dsimp only at h
  split_ifs at h with hlt hbad
  cases h
  exact ⟨hlt, fun he => hbad (.inl he)⟩

theorem firstAlive_cases {p : BattleParty} {i : Fin 6} (h : p.firstAlive = some i) :
    i.val < p.count.val ∧ 0 < (p.mons i).hp := by
  have hm := List.mem_of_find?_eq_some h
  have hp := List.find?_some h
  unfold BattleParty.slots at hm
  exact ⟨by simpa using (List.mem_filter.mp hm).2, by simpa using hp⟩

namespace Engine

variable (e : Engine) (s : Side) (sink : Bool)

/-- The steps of both parties. -/
def Steps (moves : List MoveCall) (e e' : Engine) : Prop := ∀ s, PartySteps moves s (e.p s) (e'.p s)

theorem setParty_steps {moves : List MoveCall} {p : BattleParty}
    (h : PartySteps moves s (e.p s) p) : Steps moves e (e.setParty s p) := by
  intro t
  unfold setParty
  by_cases ht : t = s
  · subst ht
    simpa using h
  · simpa [ht] using PartySteps.refl ..

theorem absorb_steps {d : Duel} {slot : UInt8} (h : (e.duel s sink).useMove slot = .ok d) :
    Steps [⟨s, e.duel s sink, slot⟩] e (e.absorb s d) := by
  obtain ⟨k, hk, hd⟩ := Duel.useMove_kits _ h
  intro t
  rcases s.eq_or_eq_other t with rfl | rfl
  · have hu : d.user.kit = k := congrArg Kits.user hd
    have hp : (e.absorb t d).p t = (e.p t).fielded d.user d.userFx := by simp [absorb]
    rw [hp]
    refine ReflTransGen.single (.move _ (List.mem_singleton_self _) rfl rfl _ _ ?_)
    rw [hu]
    exact hk
  · have ht : d.target.kit = (e.p s.other).activeMon.kit := congrArg Kits.target hd
    have hp : (e.absorb s d).p s.other = (e.p s.other).fielded d.target d.targetFx := by
      simp [absorb]
    rw [hp]
    exact ReflTransGen.single (.hold _ _ ht)

theorem stepAction_steps {r : Engine × Output} (h : e.stepAction s sink = .ok r) :
    Steps (e.stepMoves s sink) e r.1 := by
  unfold stepAction at h
  unfold stepMoves
  split_ifs at h with h₀ h₁ h₂
  · cases h
    exact fun _ => .refl ..
  · split at h
    · cases h
      exact fun _ => .refl ..
    · rename_i i hi
      cases h
      obtain ⟨hlt, hne⟩ := switchTarget_cases hi
      exact setParty_steps e s (ReflTransGen.single (.switch i hlt hne))
  · obtain ⟨d, hd, rfl⟩ := map_eq_ok.mp h
    obtain ⟨hr, hp⟩ := not_or.mp h₀
    rw [if_pos ⟨not_not.mp hr, hp, h₂⟩]
    exact absorb_steps e s sink hd
  · cases h
    exact fun _ => .refl ..

theorem playTurn_steps {first : Side} {r : Engine × Output} (h : e.playTurn first sink = .ok r) :
    Steps (e.playMoves sink first) e r.1 := by
  unfold playTurn at h
  unfold playMoves
  obtain ⟨⟨e₁, o₁⟩, h₁, h⟩ := bind_eq_ok.mp h
  obtain ⟨⟨e₂, o₂⟩, h₂, h⟩ := bind_eq_ok.mp h
  cases h
  rw [h₁]
  dsimp only
  intro t
  have ht₁ := (stepAction_steps e first sink h₁ t).mono fun x hx => List.mem_append_left
    (e₁.stepMoves first.other sink) hx
  have ht₂ := (stepAction_steps e₁ first.other sink h₂ t).mono fun x hx =>
    List.mem_append_right (e.stepMoves first sink) hx
  have ht₃ := setParty_steps e₂ first (endOfTurn_steps
    (e.stepMoves first sink ++ e₁.stepMoves first.other sink) first (e₂.p first) sink) t
  have ht₄ := setParty_steps (e₂.applyEndOfTurn first sink).1 first.other (endOfTurn_steps
    (e.stepMoves first sink ++ e₁.stepMoves first.other sink) first.other
    ((e₂.applyEndOfTurn first sink).1.p first.other) sink) t
  exact ((ht₁.trans ht₂).trans ht₃).trans ht₄

theorem executeTurn_steps {r : Engine × Output} (h : e.executeTurn sink = .ok r) :
    Steps (e.turnMoves sink) e r.1 := by
  unfold executeTurn at h
  unfold turnMoves
  split_ifs at h with hr
  · rw [if_pos hr]
    have ht := playTurn_steps _ sink h
    have hs : e.firstSide.2.p = e.p := by
      unfold firstSide pokeActsFirst
      dsimp only
      split_ifs <;> rfl
    unfold Steps at ht ⊢
    rwa [hs] at ht
  · cases h
    exact fun _ => .refl ..

theorem autoReplace_steps (moves : List MoveCall) :
    Steps moves e (e.autoReplaceIfFainted s sink).2.1 := by
  unfold autoReplaceIfFainted
  split_ifs with hp
  · exact fun _ => .refl ..
  · split
    · rename_i i hi
      obtain ⟨hlt, halive⟩ := firstAlive_cases hi
      refine setParty_steps e s (ReflTransGen.single (.switch i hlt fun he => hp ?_))
      rw [he] at halive
      exact halive
    · exact fun _ => .refl ..

/-- Only a side that submitted a move makes one. -/
theorem turnMoves_side {x : MoveCall} (h : x ∈ e.turnMoves sink) : e.pendAction x.side = 0 := by
  have hstep : ∀ (e : Engine) (s : Side), x ∈ e.stepMoves s sink → e.pendAction x.side = 0 := by
    intro e s hx
    unfold stepMoves at hx
    split_ifs at hx with hc
    · cases List.mem_singleton.mp hx
      exact hc.2.2
    · cases hx
  have hfirst : e.firstSide.2.pendAction = e.pendAction := by
    unfold firstSide pokeActsFirst
    dsimp only
    split_ifs <;> rfl
  unfold turnMoves at h
  split_ifs at h
  · rw [← hfirst]
    unfold playMoves at h
    rcases List.mem_append.mp h with h | h
    · exact hstep _ _ h
    · split at h
      · rename_i e₁ o hs
        rw [← stepAction_pendAction _ _ _ hs]
        exact hstep _ _ h
      · cases h
  · cases h

/-- What a call does to a party it does not load. -/
theorem call_steps {c : Call} {e' : Engine} (h : e.call c = .ok e') (hk : Keeps s c) :
    PartySteps (e.callMoves c) s (e.p s) (e'.p s) := by
  cases c with
  | submitAction side actionType index =>
    cases h
    exact .refl ..
  | executeTurn =>
    obtain ⟨r, hr, rfl⟩ := map_eq_ok.mp h
    exact executeTurn_steps e true hr s
  | autoReplaceIfFainted side =>
    cases h
    exact autoReplace_steps e side true _ s
  | replaceOpponent pty =>
    cases h
    cases s with
    | zero => exact .refl ..
    | one => exact absurd rfl (hk rfl pty)
  | forfeit side =>
    cases h
    exact .refl ..

end Engine
end MonsterMesh
