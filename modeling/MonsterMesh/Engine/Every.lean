import MonsterMesh.Engine.Sides

/-! What every mon of a battle keeps, because each part of a turn keeps it. -/
namespace MonsterMesh

open Fallible

/-- `P` is kept by all that can happen to a mon in a battle of generation `g`. -/
structure Kept (g : UInt8) (P : BattlePoke → Prop) : Prop where
  loaded : ∀ src nick, P (initBattlePokeFromSave src nick g) ∧ P (initBattlePokeFromSave src nick g).heal
  empty : P .zero
  useMove : ∀ (d d' : Duel) (slot : UInt8), d.gen = g → P d.user → P d.target →
    d.useMove slot = .ok d' → P d'.user ∧ P d'.target
  clearVolatile : ∀ m, P m → P m.clearVolatile
  residual : ∀ m sink, P m → P (m.residual sink).1

/-- Every mon of a party, the empty slots included. -/
def BattleParty.Every (P : BattlePoke → Prop) (p : BattleParty) : Prop := ∀ i, P (p.mons i)

/-- Every mon of a battle of generation `g`. -/
structure Engine.Every (g : UInt8) (P : BattlePoke → Prop) (e : Engine) : Prop where
  gen : e.gen = g
  mons : ∀ s, (e.p s).Every P

variable {g : UInt8} {P : BattlePoke → Prop}

namespace BattleParty

variable {p : BattleParty}

theorem every_setActiveMon {m : BattlePoke} (h : p.Every P) (hm : P m) : (p.setActiveMon m).Every P := by
  intro i
  unfold setActiveMon
  dsimp only
  by_cases hi : i = p.active
  · subst hi
    rw [Function.update_self]
    exact hm
  · rw [Function.update_of_ne hi]
    exact h i

theorem every_fielded {m : BattlePoke} (fx : FieldFx) (h : p.Every P) (hm : P m) : (p.fielded m fx).Every P :=
  every_setActiveMon h hm

theorem every_endOfTurn (hk : Kept g P) (h : p.Every P) (sink : Bool) : (p.endOfTurn sink).1.Every P := by
  unfold endOfTurn
  split_ifs
  · exact h
  · exact every_setActiveMon h (hk.residual _ sink (h p.active))

theorem every_switchTo (hk : Kept g P) (h : p.Every P) (i : Fin 6) : (p.switchTo i).Every P :=
  every_setActiveMon h (hk.clearVolatile _ (h p.active))

theorem every_initSide (hk : Kept g P) (pty : Gen1Party) : (initSide pty g).Every P := by
  intro i
  unfold initSide
  dsimp only
  split_ifs
  · exact (hk.loaded _ _).1
  · exact hk.empty

theorem every_initSide_heal (hk : Kept g P) (pty : Gen1Party) : (initSide pty g).heal.Every P := by
  intro i
  unfold heal
  dsimp only
  split_ifs with hi
  · have hm : (initSide pty g).mons i = initBattlePokeFromSave (pty.mons i) (pty.nicknames i) g := if_pos hi
    rw [hm]
    exact (hk.loaded _ _).2
  · exact every_initSide hk pty i

end BattleParty

namespace Engine

variable {e : Engine} {s : Side} {sink : Bool}

/-- What is known of a duel. -/
def DuelOf (g : UInt8) (P : BattlePoke → Prop) (d : Duel) : Prop := d.gen = g ∧ P d.user ∧ P d.target

theorem Every.duel (h : e.Every g P) (s : Side) (sink : Bool) : DuelOf g P (e.duel s sink) :=
  ⟨h.gen, h.mons s _, h.mons s.other _⟩

theorem every_setParty {p : BattleParty} (h : e.Every g P) (hp : p.Every P) :
    (e.setParty s p).Every g P := by
  refine ⟨h.gen, fun t => ?_⟩
  unfold setParty
  by_cases ht : t = s
  · subst ht
    simpa using hp
  · simpa [ht] using h.mons t

theorem every_stepAction (hk : Kept g P) (h : e.Every g P) {r : Engine × Output}
    (hr : e.stepAction s sink = .ok r) : r.1.Every g P := by
  unfold stepAction at hr
  split_ifs at hr
  · cases hr
    exact h
  · split at hr
    · cases hr
      exact h
    · cases hr
      exact every_setParty h (BattleParty.every_switchTo hk (h.mons s) _)
  · obtain ⟨d, hd, rfl⟩ := map_eq_ok.mp hr
    obtain ⟨hgen, huser, htarget⟩ := h.duel s sink
    obtain ⟨huser', htarget'⟩ := hk.useMove _ _ _ hgen huser htarget hd
    refine ⟨h.gen, fun t => ?_⟩
    rcases s.eq_or_eq_other t with rfl | rfl
    · simpa [absorb] using BattleParty.every_fielded d.userFx (h.mons t) huser'
    · simpa [absorb] using BattleParty.every_fielded d.targetFx (h.mons s.other) htarget'
  · cases hr
    exact h

theorem every_stepMoves (h : e.Every g P) : ∀ x ∈ e.stepMoves s sink, DuelOf g P x.duel := by
  intro x hx
  unfold stepMoves at hx
  split_ifs at hx
  · rw [List.mem_singleton.mp hx]
    exact h.duel s sink
  · cases hx

theorem every_applyEndOfTurn (hk : Kept g P) (h : e.Every g P) : (e.applyEndOfTurn s sink).1.Every g P :=
  every_setParty h (BattleParty.every_endOfTurn hk (h.mons s) sink)

theorem every_firstSide (h : e.Every g P) : e.firstSide.2.Every g P := by
  unfold firstSide pokeActsFirst
  dsimp only
  split_ifs
  · exact h
  · exact h
  · exact ⟨h.gen, h.mons⟩

theorem every_playTurn (hk : Kept g P) (h : e.Every g P) {first : Side} {r : Engine × Output}
    (hr : e.playTurn first sink = .ok r) : r.1.Every g P := by
  unfold playTurn at hr
  obtain ⟨⟨e₁, o₁⟩, h₁, hr⟩ := bind_eq_ok.mp hr
  obtain ⟨⟨e₂, o₂⟩, h₂, hr⟩ := bind_eq_ok.mp hr
  cases hr
  have hsecond := every_stepAction hk (every_stepAction hk h h₁) h₂
  have hended : ((e₂.applyEndOfTurn first sink).1.applyEndOfTurn first.other sink).1.Every g P :=
    every_applyEndOfTurn hk (every_applyEndOfTurn hk hsecond)
  exact ⟨hended.gen, hended.mons⟩

theorem every_turnMoves (hk : Kept g P) (h : e.Every g P) : ∀ x ∈ e.turnMoves sink, DuelOf g P x.duel := by
  intro x hx
  unfold turnMoves at hx
  split_ifs at hx
  · have hfirst := every_firstSide h
    unfold playMoves at hx
    rcases List.mem_append.mp hx with hx | hx
    · exact every_stepMoves hfirst x hx
    · split at hx
      · rename_i e₁ o hr
        exact every_stepMoves (every_stepAction hk hfirst hr) x hx
      · cases hx
  · cases hx

/-- What each part keeps, a call keeps. -/
theorem every_call (hk : Kept g P) (h : e.Every g P) {c : Call} {e' : Engine} (hc : e.call c = .ok e') :
    e'.Every g P := by
  cases c with
  | submitAction side actionType index =>
    cases hc
    exact ⟨h.gen, h.mons⟩
  | executeTurn =>
    obtain ⟨r, hr, rfl⟩ := map_eq_ok.mp hc
    unfold executeTurn at hr
    split_ifs at hr
    · exact every_playTurn hk (every_firstSide h) hr
    · cases hr
      exact h
  | autoReplaceIfFainted side =>
    cases hc
    unfold autoReplaceIfFainted
    split_ifs
    · exact h
    · split
      · exact every_setParty h (BattleParty.every_switchTo hk (h.mons side) _)
      · exact h
  | replaceOpponent pty =>
    cases hc
    refine ⟨h.gen, fun t => ?_⟩
    have hinit : (initSide pty e.gen).Every P := h.gen.symm ▸ BattleParty.every_initSide hk pty
    cases t with
    | zero => exact h.mons .zero
    | one => exact hinit
  | forfeit side =>
    cases hc
    exact ⟨h.gen, h.mons⟩

theorem every_callMoves (hk : Kept g P) (h : e.Every g P) (c : Call) :
    ∀ x ∈ e.callMoves c, DuelOf g P x.duel := by
  cases c with
  | executeTurn => exact every_turnMoves hk h
  | submitAction side actionType index => exact fun x hx => absurd hx List.not_mem_nil
  | autoReplaceIfFainted side => exact fun x hx => absurd hx List.not_mem_nil
  | replaceOpponent pty => exact fun x hx => absurd hx List.not_mem_nil
  | forfeit side => exact fun x hx => absurd hx List.not_mem_nil

theorem every_start (hk : Kept g P) (e₀ : Engine) (p1 p2 : Gen1Party) (seed : UInt32) :
    (e₀.start p1 p2 seed g).Every g P := by
  refine ⟨rfl, fun s => ?_⟩
  cases s with
  | zero => exact BattleParty.every_initSide hk p1
  | one => exact BattleParty.every_initSide hk p2

/-- The heal before a battle between players. -/
theorem every_start_heal (hk : Kept g P) (e₀ : Engine) (p1 p2 : Gen1Party) (seed : UInt32) :
    (e₀.start p1 p2 seed g).heal.Every g P := by
  refine ⟨rfl, fun s => ?_⟩
  cases s with
  | zero => exact BattleParty.every_initSide_heal hk p1
  | one => exact BattleParty.every_initSide_heal hk p2

end Engine
end MonsterMesh
