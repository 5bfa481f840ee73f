import Mathlib.Logic.Function.Basic
import MonsterMesh.Engine.Turn
import MonsterMesh.Lib.Run

/-! Two engines that hold the same battle with the sides exchanged. -/
namespace MonsterMesh

open Fallible

@[simp] theorem Result.swap_swap (r : Result) : r.swap.swap = r := by cases r <;> rfl

@[simp] theorem Result.swap_eq_ongoing (r : Result) : r.swap = .ongoing ↔ r = .ongoing := by
  cases r <;> simp [Result.swap]

theorem update_other {α : Type} (f : Side → α) (s : Side) (v : α) (t : Side) :
    Function.update (fun t => f t.other) s v t = Function.update f s.other v t.other := by
  cases s <;> cases t <;> rfl

/-- The same battle seen from the other side. -/
def Engine.mirror (e : Engine) : Engine :=
  { e with
    p := fun s => e.p s.other
    pendAction := fun s => e.pendAction s.other
    pendIndex := fun s => e.pendIndex s.other
    result := e.result.swap }

namespace Engine

variable (e : Engine) (s : Side) (sink : Bool)

@[simp] theorem mirror_p : e.mirror.p s = e.p s.other := rfl

@[simp] theorem mirror_pendAction : e.mirror.pendAction s = e.pendAction s.other := rfl

@[simp] theorem mirror_pendIndex : e.mirror.pendIndex s = e.pendIndex s.other := rfl

@[simp] theorem mirror_result : e.mirror.result = e.result.swap := rfl

@[simp] theorem mirror_s : e.mirror.s = e.s := rfl

@[simp] theorem mirror_gen : e.mirror.gen = e.gen := rfl

@[simp] theorem mirror_turn : e.mirror.turn = e.turn := rfl

/-! ### One action and the ticks -/

theorem duel_mirror : e.mirror.duel s sink = e.duel s.other sink := by
  simp [duel]

theorem absorb_mirror (d : Duel) : e.mirror.absorb s d = (e.absorb s.other d).mirror := by
  simp only [absorb, mirror, Engine.mk.injEq, and_true]
  funext t
  rcases s.eq_or_eq_other t with rfl | rfl
  · simp
  · have h : s ≠ s.other := (Side.other_ne s).symm
    simp [h]

theorem setParty_mirror (p : BattleParty) :
    e.mirror.setParty s p = (e.setParty s.other p).mirror := by
  simp only [setParty, mirror, Engine.mk.injEq, and_true]
  funext t
  exact update_other e.p s p t

theorem stepAction_mirror :
    e.mirror.stepAction s sink =
      (fun r => (r.1.mirror, r.2)) <$> e.stepAction s.other sink := by
  unfold stepAction
  simp only [mirror_p, mirror_pendAction, mirror_pendIndex, mirror_result, duel_mirror, ne_eq,
    Result.swap_eq_ongoing]
  split_ifs with h₀ h₁ h₂
  · rfl
  · cases (e.p s.other).switchTarget (e.pendIndex s.other) with
    | none => rfl
    | some i => simp [setParty_mirror]
  · cases (e.duel s.other sink).useMove (e.pendIndex s.other) with
    | error f => rfl
    | ok d => simp [absorb_mirror]
  · rfl

theorem applyEndOfTurn_mirror :
    e.mirror.applyEndOfTurn s sink =
      ((e.applyEndOfTurn s.other sink).1.mirror, (e.applyEndOfTurn s.other sink).2) := by
  simp [applyEndOfTurn, setParty_mirror]

theorem outcome_mirror : e.mirror.outcome = e.outcome.swap := by
  simp only [outcome, mirror_p, Side.other, mirror_result]
  cases (e.p .zero).anyAlive <;> cases (e.p .one).anyAlive <;> rfl

theorem closeTurn_mirror : e.mirror.closeTurn = e.closeTurn.mirror := by
  have h := outcome_mirror e
  simp only [closeTurn, h]
  rfl

theorem playTurn_mirror :
    e.mirror.playTurn s sink = (fun r => (r.1.mirror, r.2)) <$> e.playTurn s.other sink := by
  simp only [playTurn, stepAction_mirror]
  cases e.stepAction s.other sink with
  | error f => rfl
  | ok r =>
    simp only [map_ok, bind_ok, stepAction_mirror]
    cases r.1.stepAction s.other.other sink with
    | error f => rfl
    | ok r' => simp [applyEndOfTurn_mirror, closeTurn_mirror]

/-! ### Turn order -/

theorem actionPriority_mirror : e.mirror.actionPriority s = e.actionPriority s.other := rfl

/-- Nothing but a coin tells which of the two actions runs first. -/
def tied : Prop :=
  e.actionPriority .zero = e.actionPriority .one ∧
    (e.p .zero).activeMon.turnSpeed = (e.p .one).activeMon.turnSpeed

instance : Decidable e.tied := inferInstanceAs (Decidable (_ ∧ _))

theorem firstSide_of_tied (h : e.tied) :
    e.firstSide = (if e.s.rand32.1 &&& 1 = 0 then .zero else .one, { e with s := e.s.rand32.2 }) := by
  obtain ⟨hp, hs⟩ := h
  simp [firstSide, pokeActsFirst, Side.other, hp, hs]

theorem tied_mirror : e.mirror.tied ↔ e.tied := by
  simp only [tied, actionPriority_mirror, mirror_p, Side.other]
  constructor <;> rintro ⟨h₀, h₁⟩ <;> exact ⟨h₀.symm, h₁.symm⟩

/-- The action of `s` runs before the other one without a coin. -/
def Outranks : Prop :=
  e.actionPriority s.other < e.actionPriority s ∨
    e.actionPriority s.other = e.actionPriority s ∧
      (e.p s.other).activeMon.turnSpeed < (e.p s).activeMon.turnSpeed

instance : Decidable (e.Outranks s) := inferInstanceAs (Decidable (_ ∨ _))

theorem outranks_one_iff (h : ¬ e.tied) : e.Outranks .one ↔ ¬ e.Outranks .zero := by
  simp only [tied, not_and] at h
  simp only [Outranks, Side.other]
  omega

theorem firstSide_of_not_tied (h : ¬ e.tied) :
    e.firstSide = (if e.Outranks .zero then .zero else .one, e) := by
  simp only [tied, not_and] at h
  unfold firstSide pokeActsFirst
  by_cases hp : e.actionPriority .zero = e.actionPriority .one
  · have hs := h hp
    simp only [Outranks, Side.other, hp, hs, ne_eq, not_true_eq_false, if_false,
      not_false_eq_true, if_true, lt_irrefl, true_and, false_or, Prod.mk.injEq, and_true]
    exact if_congr decide_eq_true_iff rfl rfl
  · simp only [Outranks, Side.other, hp, Ne.symm hp, ne_eq, not_false_eq_true, if_true,
      false_and, or_false, Prod.mk.injEq, and_true]
    exact if_congr decide_eq_true_iff rfl rfl

theorem firstSide_mirror (h : ¬ e.tied) :
    e.mirror.firstSide = (e.firstSide.1.other, e.firstSide.2.mirror) := by
  have hm : e.mirror.Outranks .zero ↔ e.Outranks .one := Iff.rfl
  rw [firstSide_of_not_tied e h, firstSide_of_not_tied _ (mt (tied_mirror e).mp h)]
  simp only [hm, outranks_one_iff e h]
  by_cases h₀ : e.Outranks .zero <;> simp [h₀, Side.other]

theorem firstSide_mirror_tied (h : e.tied) :
    e.mirror.firstSide = (e.firstSide.1, e.firstSide.2.mirror) := by
  rw [firstSide_of_tied e h, firstSide_of_tied _ ((tied_mirror e).mpr h)]
  rfl

/-! ### Actions that do not need an order -/

theorem mdata_priority {gen id : UInt8} {mv : MoveData} (h : mdata gen id = some mv) :
    mv.priority < 6 := by
  have h1 : gen1Moves.all (fun mv => mv.priority < 6) = true := by decide +kernel
  have h3 : gen3Moves.all (fun mv => mv.priority < 6) = true := by decide +kernel
  unfold mdata at h
  split at h
  · simpa using List.all_eq_true.mp h3 mv (List.mem_of_find?_eq_some h)
  · simpa using List.all_eq_true.mp h1 mv (List.mem_of_find?_eq_some h)

/-- A move never has the priority of a switch. -/
theorem actionPriority_lt (h : e.pendAction s = 0) : e.actionPriority s < 6 := by
  unfold actionPriority
  simp only [h, true_and]
  rw [if_neg (by decide)]
  split_ifs with hi
  · cases hm : mdata e.gen ((e.p s).activeMon.moves ⟨(e.pendIndex s).toNat, hi⟩) with
    | none => simp
    | some mv => simpa using mdata_priority hm
  · simp

/-- An action that is neither a switch nor a move changes nothing. -/
theorem stepAction_idle (h₁ : e.pendAction s ≠ 1) (h₀ : e.pendAction s ≠ 0) :
    e.stepAction s sink = .ok (e, .empty) := by
  simp [stepAction, h₁, h₀]

/-- What a switch, or an action that does nothing, does to its own side. -/
def switched : BattleParty :=
  if e.result ≠ .ongoing ∨ (e.p s).activeMon.hp = 0 ∨ e.pendAction s ≠ 1 then e.p s
  else match (e.p s).switchTarget (e.pendIndex s) with
    | none => e.p s
    | some i => (e.p s).switchTo i

theorem setParty_self : e.setParty s (e.p s) = e := by
  simp [setParty]

theorem stepAction_switch (h₀ : e.pendAction s ≠ 0) :
    ∃ out, e.stepAction s sink = .ok (e.setParty s (e.switched s), out) := by
  unfold stepAction switched
  by_cases hr : e.result ≠ .ongoing ∨ (e.p s).activeMon.hp = 0
  · refine ⟨.empty, ?_⟩
    rcases hr with hr | hr <;> simp [hr, setParty_self]
  · obtain ⟨hr, hp⟩ := not_or.mp hr
    by_cases h₁ : e.pendAction s = 1
    · cases ht : (e.p s).switchTarget (e.pendIndex s) with
      | none => exact ⟨.empty, by simp [hr, hp, h₁, setParty_self]⟩
      | some i => simp [hr, hp, h₁]
    · exact ⟨.empty, by simp [hr, hp, h₁, h₀, setParty_self]⟩

theorem setParty_comm (p q : BattleParty) :
    (e.setParty s p).setParty s.other q = (e.setParty s.other q).setParty s p := by
  simp [setParty, Function.update_comm (Side.other_ne s)]

theorem switched_setParty (p : BattleParty) :
    (e.setParty s p).switched s.other = e.switched s.other := by
  simp [switched, setParty]

/-- The engine after both actions, `s` acting first. -/
def bothActions : Except Fault Engine :=
  e.stepAction s sink >>= fun r => Prod.fst <$> r.1.stepAction s.other sink

theorem bothActions_switch (h₀ : ∀ s, e.pendAction s ≠ 0) :
    e.bothActions s sink =
      .ok ((e.setParty s (e.switched s)).setParty s.other (e.switched s.other)) := by
  obtain ⟨out, h₁⟩ := stepAction_switch e s sink (h₀ s)
  obtain ⟨out', h₂⟩ := stepAction_switch (e.setParty s (e.switched s)) s.other sink (h₀ s.other)
  simp [bothActions, h₁, h₂, switched_setParty]

theorem bothActions_idle (h₁ : e.pendAction s ≠ 1) (h₀ : e.pendAction s ≠ 0) :
    e.bothActions s sink = e.bothActions s.other sink := by
  simp only [bothActions, stepAction_idle e s sink h₁ h₀, bind_ok]
  cases h : e.stepAction s.other sink with
  | error f => rfl
  | ok r =>
    have hp := stepAction_pendAction e s.other sink h
    have hr := stepAction_idle r.1 s sink (hp ▸ h₁) (hp ▸ h₀)
    simp [hr]

/-- When a tie is not between two moves, the order of the actions does not matter. -/
theorem bothActions_comm (ht : e.tied) (hm : ¬ (e.pendAction .zero = 0 ∧ e.pendAction .one = 0)) :
    e.bothActions s sink = e.bothActions s.other sink := by
  -- a move is never tied with a switch, so a lone move faces an idle side
  have hidle : ∀ t, e.pendAction t = 0 → e.pendAction t.other ≠ 1 := by
    intro t h h₁
    have hlt := actionPriority_lt e t h
    have h6 : e.actionPriority t.other = 6 := by simp [actionPriority, h₁]
    have hp := ht.1
    cases t <;> simp only [Side.other] at h6 <;> omega
  by_cases hz : e.pendAction s = 0
  · have ho : e.pendAction s.other ≠ 0 := by
      intro ho
      cases s
      · exact hm ⟨hz, ho⟩
      · exact hm ⟨ho, hz⟩
    have h := bothActions_idle e s.other sink (hidle s hz) ho
    rw [Side.other_other] at h
    exact h.symm
  · by_cases ho : e.pendAction s.other = 0
    · have h₁ := hidle s.other ho
      rw [Side.other_other] at h₁
      exact bothActions_idle e s sink h₁ hz
    · have h₀ := (Side.forall_iff (P := fun t => e.pendAction t ≠ 0) s).mpr ⟨hz, ho⟩
      rw [bothActions_switch e s sink h₀, bothActions_switch e s.other sink h₀, Side.other_other,
        setParty_comm]

theorem applyEndOfTurn_comm :
    ((e.applyEndOfTurn s sink).1.applyEndOfTurn s.other sink).1 =
      ((e.applyEndOfTurn s.other sink).1.applyEndOfTurn s sink).1 := by
  have h₁ : s.other ≠ s := Side.other_ne s
  have h₂ : s ≠ s.other := Ne.symm h₁
  simp [applyEndOfTurn, setParty, Function.update_comm h₁, h₁, h₂]

theorem playTurn_state :
    Prod.fst <$> e.playTurn s sink =
      (fun e => ((e.applyEndOfTurn s sink).1.applyEndOfTurn s.other sink).1.closeTurn) <$>
        e.bothActions s sink := by
  unfold playTurn bothActions
  cases e.stepAction s sink with
  | error f => rfl
  | ok r =>
    simp only [bind_ok]
    cases r.1.stepAction s.other sink <;> rfl

theorem playTurn_comm (ht : e.tied) (hm : ¬ (e.pendAction .zero = 0 ∧ e.pendAction .one = 0)) :
    Prod.fst <$> e.playTurn s sink = Prod.fst <$> e.playTurn s.other sink := by
  rw [playTurn_state, playTurn_state, bothActions_comm e s sink ht hm, Side.other_other]
  simp only [applyEndOfTurn_comm]

/-! ### A whole turn -/

/-- The two actions are moves and only a coin orders them. -/
def MoveTie : Prop :=
  e.ready ∧ e.pendAction .zero = 0 ∧ e.pendAction .one = 0 ∧ e.tied

instance : Decidable e.MoveTie := inferInstanceAs (Decidable (_ ∧ _))

theorem ready_mirror : e.mirror.ready = e.ready := by
  simp only [ready, mirror_result, Result.swap_eq_ongoing, mirror_pendAction, Side.other,
    decide_eq_decide]
  tauto

theorem executeTurn_mirror (h : ¬ e.MoveTie) :
    Prod.fst <$> e.mirror.executeTurn sink =
      Engine.mirror <$> Prod.fst <$> e.executeTurn sink := by
  unfold executeTurn
  rw [ready_mirror]
  split_ifs with hr
  · by_cases ht : e.tied
    · rw [firstSide_mirror_tied e ht, playTurn_mirror]
      have hm : ¬ (e.pendAction .zero = 0 ∧ e.pendAction .one = 0) := by
        rintro ⟨h₀, h₁⟩
        exact h ⟨hr, h₀, h₁, ht⟩
      have hc := playTurn_comm { e with s := e.s.rand32.2 } e.firstSide.1 sink ht hm
      have hs : e.firstSide.2 = { e with s := e.s.rand32.2 } := by rw [firstSide_of_tied e ht]
      rw [hs, hc]
      cases Engine.playTurn { e with s := e.s.rand32.2 } e.firstSide.1.other sink <;> rfl
    · rw [firstSide_mirror e ht, playTurn_mirror, Side.other_other]
      cases e.firstSide.2.playTurn e.firstSide.1 sink <;> rfl
  · rfl

theorem autoReplace_mirror :
    (e.mirror.autoReplaceIfFainted s sink).2.1 =
      (e.autoReplaceIfFainted s.other sink).2.1.mirror := by
  unfold autoReplaceIfFainted
  rw [mirror_p]
  split_ifs with h
  · rfl
  · cases (e.p s.other).firstAlive with
    | none => rfl
    | some i => exact setParty_mirror e s _

/-- Replacing on both sides, `s` first. -/
def replaceBoth : Engine :=
  ((e.autoReplaceIfFainted s sink).2.1.autoReplaceIfFainted s.other sink).2.1

/-- The side after `autoReplaceIfFainted`. -/
def replaced : BattleParty :=
  if 0 < (e.p s).activeMon.hp then e.p s
  else match (e.p s).firstAlive with
    | some i => (e.p s).switchTo i
    | none => e.p s

theorem autoReplace_eq : (e.autoReplaceIfFainted s sink).2.1 = e.setParty s (e.replaced s) := by
  unfold autoReplaceIfFainted replaced
  split_ifs with h
  · exact (setParty_self e s).symm
  · cases (e.p s).firstAlive with
    | none => exact (setParty_self e s).symm
    | some i => rfl

theorem replaceBoth_comm : e.replaceBoth s sink = e.replaceBoth s.other sink := by
  have h : ∀ p, (e.setParty s p).replaced s.other = e.replaced s.other := by
    intro p
    simp [replaced, setParty]
  have h' : ∀ p, (e.setParty s.other p).replaced s = e.replaced s := by
    intro p
    simp [replaced, setParty, (Side.other_ne s).symm]
  simp only [replaceBoth, autoReplace_eq, h, Side.other_other, h', setParty_comm]

theorem replaceBoth_mirror :
    e.mirror.replaceBoth s sink = (e.replaceBoth s.other sink).mirror := by
  simp [replaceBoth, autoReplace_mirror]

/-- An action as the radios exchange it: type and index. -/
abbrev Action := UInt8 × UInt8

def submitBoth (a : Side → Action) : Engine :=
  (e.submitAction .zero (a .zero).1 (a .zero).2).submitAction .one (a .one).1 (a .one).2

/-- One networked turn: both actions are submitted, the turn runs, fainted mons are replaced. -/
def netTurn (a : Side → Action) : Except Fault Engine :=
  (fun r => r.1.replaceBoth .zero sink) <$> (e.submitBoth a).executeTurn sink

theorem submitBoth_mirror (a : Side → Action) :
    e.mirror.submitBoth (fun s => a s.other) = (e.submitBoth a).mirror := by
  simp only [submitBoth, submitAction, mirror, Engine.mk.injEq, true_and, and_true]
  constructor <;> funext t <;> cases t <;> rfl

theorem netTurn_mirror (a : Side → Action) (h : ¬ (e.submitBoth a).MoveTie) :
    e.mirror.netTurn sink (fun s => a s.other) = Engine.mirror <$> e.netTurn sink a := by
  have hx := executeTurn_mirror (e.submitBoth a) sink h
  rw [← submitBoth_mirror] at hx
  unfold netTurn
  revert hx
  cases (e.mirror.submitBoth fun s => a s.other).executeTurn sink <;>
    cases (e.submitBoth a).executeTurn sink <;> intro hx
  · simpa using hx
  · simp at hx
  · simp at hx
  · simp only [map_ok, Except.ok.injEq] at hx ⊢
    rw [hx, replaceBoth_mirror, replaceBoth_comm, Side.other_other]

/-! ### Whole battles -/

/-- What the two radios agree on: side `s` of one engine is side `1-s` of the other, field for
field, and the results are each other's. -/
structure MirrorImage (e e' : Engine) : Prop where
  party : ∀ s, e'.p s = e.p s.other
  rng : e'.s = e.s
  turn : e'.turn = e.turn
  result : e'.result = e.result.swap
  hash : e'.hashState = e.hashState

theorem hashState_mirror : e.mirror.hashState = e.hashState := by
  have h : ∀ a b c : UInt64, a ^^^ b ^^^ c = a ^^^ c ^^^ b := fun a b c => by
    rw [UInt64.xor_assoc, UInt64.xor_comm b c, ← UInt64.xor_assoc]
  simp only [hashState, mirror_p, mirror_s, mirror_turn, Side.other]
  rw [h]
  rfl

theorem mirrorImage_mirror : MirrorImage e e.mirror :=
  ⟨fun _ => rfl, rfl, rfl, rfl, hashState_mirror e⟩

/-- Up to the pending indices, which the first submitted actions overwrite, the two starts are
mirror images. -/
theorem start_mirror (e' : Engine) (A B : Gen1Party) (seed : UInt32) (gen : UInt8) :
    e'.start B A seed gen = { (e.start A B seed gen).mirror with pendIndex := e'.pendIndex } := by
  simp only [start, mirror, Result.swap, Engine.mk.injEq, and_true]
  funext t
  cases t <;> rfl

/-- Two runs agree when both end in mirror images, or both hit the same fault. -/
def Agree : Except Fault Engine → Except Fault Engine → Prop
  | .ok x, .ok y => MirrorImage x y
  | .error f, .error g => f = g
  | _, _ => False

theorem agree_map_mirror (x : Except Fault Engine) : Agree x (mirror <$> x) := by
  cases x with
  | error f => rfl
  | ok e => exact mirrorImage_mirror e

/-- The battle of the other radio: its own action is submitted on its own side 0. -/
def lockstep (as : List (Side → Action)) : Except Fault Engine :=
  play (fun e a => e.netTurn sink a) e as

/-- No turn of the battle is a tie between two moves. -/
def NoMoveTie (as : List (Side → Action)) : Prop :=
  Along (fun e a => e.netTurn sink a) (fun e a => ¬ (e.submitBoth a).MoveTie) e as

theorem noMoveTie_singleton {a : Side → Action} (h : ¬ (e.submitBoth a).MoveTie) :
    e.NoMoveTie sink [a] :=
  ⟨h, fun _ _ => trivial⟩

def swapActions (as : List (Side → Action)) : List (Side → Action) :=
  as.map (fun a s => a s.other)

theorem lockstep_mirror (as : List (Side → Action)) (h : e.NoMoveTie sink as) :
    e.mirror.lockstep sink (swapActions as) = mirror <$> e.lockstep sink as :=
  play_map (fun e a ha => netTurn_mirror e sink a ha) e as h

theorem submitBoth_pendIndex (x : Side → UInt8) (a : Side → Action) :
    ({ e with pendIndex := x } : Engine).submitBoth a = e.submitBoth a := by
  simp only [submitBoth, submitAction, Engine.mk.injEq, true_and, and_true]
  funext t
  cases t <;> rfl

end Engine

/-- A mon with one HP left and a move that never misses. -/
def duelist (species : UInt8) : Gen1Pokemon :=
  { Gen1Pokemon.zero with
    species := species, hp := 1, level := 5, moves := fun _ => 129, pp := fun _ => 20 }

def duelists (species : UInt8) : Gen1Party :=
  { count := 1, species := fun _ => species, mons := fun _ => duelist species
    nicknames := fun _ _ => 0x50 }

def bothSwift : Side → Engine.Action := fun _ => (0, 0)

theorem not_agree_self {x : Except Fault Engine}
    (h : x.toOption.map (·.result) = some .p2Win) : ¬ Engine.Agree x x := by
  intro ha
  cases x with
  | error f => simp [Except.toOption] at h
  | ok e =>
    have hw := ha.result
    simp only [Except.toOption, Option.map_some, Option.some.injEq] at h
    rw [h] at hw
    exact absurd hw (by decide)

end MonsterMesh
