import MonsterMesh.Engine.PowerPoints

/-! Leaving the field: a mon goes back to the bench as it came from it. -/
namespace MonsterMesh

open Fallible

/-- What a mon looks like and fights with. -/
structure Guise where
  (species type1 type2 : UInt8)
  (atk def' spd spc spaG3 spdG3 : UInt16)
  moves : Fin 4 → UInt8

def Kit.guise (k : Kit) : Guise :=
  { species := k.species, type1 := k.type1, type2 := k.type2
    atk := k.atk, def' := k.def', spd := k.spd, spc := k.spc, spaG3 := k.spaG3, spdG3 := k.spdG3
    moves := k.moves }

def BattlePoke.guise (m : BattlePoke) : Guise := m.kit.guise

/-- Every boost, lock and counter that `clearVolatile` clears is at its neutral value. -/
structure BattlePoke.Neutral (m : BattlePoke) : Prop where
  boosts : ∀ s, m.boost s = 0
  confuseTurns : m.confuseTurns = 0
  mustRecharge : m.mustRecharge = false
  thrashing : m.thrashing = false
  thrashTurns : m.thrashTurns = 0
  disabledSlot : m.disabledSlot = 0xFF
  disabledTurns : m.disabledTurns = 0
  flinched : m.flinched = false
  chargingSlot : m.chargingSlot = 0xFF
  trapTurns : m.trapTurns = 0
  thrashSlot : m.thrashSlot = 0xFF
  bideTurns : m.bideTurns = 0
  bideDamage : m.bideDamage = 0
  rageActive : m.rageActive = false
  substituteHp : m.substituteHp = 0
  lastDamageTaken : m.lastDamageTaken = 0
  mimicSlot : m.mimicSlot = 0xFF
  transformed : m.transformed = false

/-- Mimic's slot is one of the four, or the sentinel. -/
def Kit.Tidy (k : Kit) : Prop := k.mimicSlot = 0xFF ∨ k.mimicSlot.toNat < 4

theorem clearVolatile_neutral {m : BattlePoke} (h : m.kit.Tidy) : m.clearVolatile.Neutral := by
  have hs : m.mimicSlot.toNat < 4 ∨ m.mimicSlot = 0xFF := h.symm
  unfold BattlePoke.clearVolatile BattlePoke.unmimic BattlePoke.untransform
  dsimp only [BattlePoke.clearBoosts]
  split_ifs with hm ht ht
  · constructor <;> first | rfl | (intro s; cases s <;> rfl)
  · constructor <;> first | rfl | (intro s; cases s <;> rfl) | exact Bool.eq_false_iff.mpr ht
  · constructor <;> first
      | rfl | (intro s; cases s <;> rfl) | exact hs.resolve_left hm
  · constructor <;> first
      | rfl | (intro s; cases s <;> rfl) | exact hs.resolve_left hm
      | exact Bool.eq_false_iff.mpr ht

namespace Kit

variable {k : Kit}

/-- The look a mon gets back when it leaves the field. -/
def beneath (k : Kit) : Guise := k.unmimic.untransform.guise

theorem beneath_untouched (hs : k.mimicSlot = 0xFF) (ht : k.transformed = false) :
    k.beneath = k.guise := by
  unfold beneath unmimic
  rw [dif_neg (by rw [hs]; decide)]
  unfold untransform
  rw [ht, if_neg Bool.false_ne_true]

theorem beneath_transformed (ht : k.transformed = true) :
    k.beneath = { k.guise with
      species := k.origSpecies, type1 := k.origType1, type2 := k.origType2
      atk := k.origAtk, def' := k.origDef, spd := k.origSpd, spc := k.origSpc
      moves := k.origMoves } := by
  unfold beneath unmimic untransform
  split_ifs <;> rfl

theorem beneath_plain (ht : k.transformed = false) :
    k.beneath = { k.guise with moves := k.unmimic.moves } := by
  unfold beneath unmimic untransform
  split_ifs with hs h h
  · exact absurd (ht.symm.trans h) nofun
  · rfl
  · exact absurd (ht.symm.trans h) nofun
  · rfl

theorem spend_beneath (j : Fin 4) : (k.spend j).beneath = k.beneath := by
  cases ht : k.transformed with
  | true => exact (beneath_transformed (k := k.spend j) ht).trans (beneath_transformed ht).symm
  | false =>
    have hm : (k.spend j).unmimic.moves = k.unmimic.moves := by
      unfold unmimic spend
      dsimp only
      split_ifs <;> rfl
    rw [beneath_plain (k := k.spend j) ht, beneath_plain ht, hm]
    rfl

theorem retype_beneath {t : Kit}
    (h : k.transformed = false → t.type1 = k.type1 ∧ t.type2 = k.type2) :
    (k.retype t).beneath = k.beneath := by
  cases ht : k.transformed with
  | true => exact (beneath_transformed (k := k.retype t) ht).trans (beneath_transformed ht).symm
  | false =>
    obtain ⟨h₁, h₂⟩ := h ht
    have he : k.retype t = k := by
      unfold retype
      rw [h₁, h₂]
    rw [he]

theorem copy_beneath (j : Fin 4) (id : UInt8) (hs : k.mimicSlot = 0xFF) :
    (k.copy j id).beneath = k.beneath := by
  cases ht : k.transformed with
  | true => exact (beneath_transformed (k := k.copy j id) ht).trans (beneath_transformed ht).symm
  | false =>
    have hj : (UInt8.ofNat j.val).toNat = j.val := by
      have := j.isLt
      simp
      omega
    have hlt : (k.copy j id).mimicSlot.toNat < 4 := by
      have := j.isLt
      show (UInt8.ofNat j.val).toNat < 4
      omega
    have hfin : (⟨(k.copy j id).mimicSlot.toNat, hlt⟩ : Fin 4) = j := Fin.ext hj
    -- the slot gets back the move that was set aside
    have hm : (k.copy j id).unmimic.moves = k.moves := by
      unfold unmimic
      rw [dif_pos hlt, hfin]
      simp [copy]
    rw [beneath_plain (k := k.copy j id) ht, beneath_untouched hs ht, hm]
    rfl

theorem become_beneath (t : Kit) (ht : k.transformed = false) (hm : k.unmimic.moves = k.moves) :
    (k.become t).beneath = k.beneath := by
  rw [beneath_transformed (k := k.become t) rfl, beneath_plain ht, hm]
  rfl

end Kit

namespace Duel

variable (d : Duel) {slot : UInt8}

/-- The move loses something of the user's that nothing sets aside: Conversion changes the types of
a mon that is not transformed, or Transform covers a slot that still holds a copy of Mimic. -/
def Overwrites (slot : UInt8) : Prop :=
  d.user.transformed = false ∧
    (¬ (d.target.type1 = d.user.type1 ∧ d.target.type2 = d.user.type2) ∧
        (∃ c ∈ d.calls slot, c.2.Converts c.1) ∨
      d.user.unmimic.moves ≠ d.user.moves ∧
        ∃ mv, d.fires slot = some mv ∧ mv.effect = .transform)

theorem paidKit_cases : (d.paidKit slot) = d.user.kit ∨ ∃ j, d.paidKit slot = d.user.kit.spend j := by
  unfold paidKit
  cases d.spends slot with
  | none => exact .inl rfl
  | some j => exact .inr ⟨j, rfl⟩

theorem paidKit_beneath : (d.paidKit slot).beneath = d.user.kit.beneath := by
  rcases d.paidKit_cases with h | ⟨j, h⟩
  · rw [h]
  · rw [h, Kit.spend_beneath]

theorem reworked_beneath {k : Kit} (h : ¬ d.Overwrites slot)
    (hr : d.Reworked slot (d.paidKit slot) k) : k.beneath = d.user.kit.beneath := by
  have hpaid : (d.paidKit slot).beneath = d.user.kit.beneath := d.paidKit_beneath
  have hk : (d.paidKit slot).transformed = d.user.transformed ∧
      (d.paidKit slot).type1 = d.user.type1 ∧ (d.paidKit slot).type2 = d.user.type2 ∧
      (d.paidKit slot).moves = d.user.moves ∧
      (d.paidKit slot).unmimic.moves = d.user.unmimic.moves := by
    have hu : d.user.kit.unmimic.moves = d.user.unmimic.moves := by
      unfold Kit.unmimic BattlePoke.unmimic
      split_ifs with h₁ h₂ h₂
      · rfl
      · exact absurd h₁ h₂
      · exact absurd h₂ h₁
      · rfl
    rcases d.paidKit_cases with h | ⟨j, h⟩
    · rw [h]
      exact ⟨rfl, rfl, rfl, rfl, hu⟩
    · rw [h, ← hu]
      refine ⟨rfl, rfl, rfl, rfl, ?_⟩
      unfold Kit.unmimic Kit.spend
      dsimp only
      split_ifs <;> rfl
  obtain ⟨ht, h₁, h₂, hm, hu⟩ := hk
  cases hr with
  | same => exact hpaid
  | retype c hc hx =>
    refine (Kit.retype_beneath fun hf => ?_).trans hpaid
    by_contra hne
    rw [h₁, h₂] at hne
    exact h ⟨ht.symm.trans hf, .inl ⟨hne, c, hc, hx⟩⟩
  | copy j id mv hmv he hs => exact (Kit.copy_beneath j id hs).trans hpaid
  | become mv hmv he hf =>
    refine (Kit.become_beneath _ hf ?_).trans hpaid
    by_contra hne
    rw [hm, hu] at hne
    exact h ⟨ht.symm.trans hf, .inr ⟨hne, mv, hmv, he⟩⟩

theorem reworked_tidy {k : Kit} (h : d.user.kit.Tidy)
    (hr : d.Reworked slot (d.paidKit slot) k) : k.Tidy := by
  have hp : (d.paidKit slot).Tidy := by
    rcases d.paidKit_cases with he | ⟨j, he⟩
    · rw [he]
      exact h
    · rw [he]
      exact h
  cases hr with
  | same => exact hp
  | retype c hc hx => exact hp
  | copy j id mv hmv he hs =>
    right
    have := j.isLt
    show (UInt8.ofNat j.val).toNat < 4
    simp
    omega
  | become mv hmv he hf => exact hp

end Duel

/-! ### Parties -/

theorem fielded_mons (p : BattleParty) (m : BattlePoke) (fx : FieldFx) {i : Fin 6}
    (h : p.active ≠ i) : (p.fielded m fx).mons i = p.mons i :=
  Function.update_of_ne (Ne.symm h) ..

theorem fielded_self (p : BattleParty) (m : BattlePoke) (fx : FieldFx) :
    (p.fielded m fx).mons p.active = m :=
  Function.update_self ..

theorem switchTo_mons (p : BattleParty) (j : Fin 6) {i : Fin 6} (h : p.active ≠ i) :
    (p.switchTo j).mons i = p.mons i :=
  Function.update_of_ne (Ne.symm h) ..

theorem switchTo_self (p : BattleParty) (j : Fin 6) :
    (p.switchTo j).mons p.active = p.activeMon.clearVolatile :=
  Function.update_self ..

/-- Slot `i` is tidy, and neutral while it sits on the bench. -/
structure BattleParty.Rested (p : BattleParty) (i : Fin 6) : Prop where
  tidy : (p.mons i).kit.Tidy
  bench : p.active ≠ i → (p.mons i).Neutral

/-- Slot `i` is on the bench with the look `g`, or on the field and would leave with it. -/
structure BattleParty.Returns (p : BattleParty) (i : Fin 6) (g : Guise) : Prop where
  bench : p.active ≠ i → (p.mons i).guise = g
  field : p.active = i → (p.mons i).kit.beneath = g

namespace BattleParty

variable {p q : BattleParty} {i : Fin 6} {moves : List MoveCall} {s : Side}

theorem fielded_rested {m : BattlePoke} (fx : FieldFx) (h : p.Rested i)
    (hm : p.active = i → m.kit.Tidy) : (p.fielded m fx).Rested i := by
  by_cases hi : p.active = i
  · refine ⟨?_, fun hne => absurd hi hne⟩
    rw [← hi, fielded_self]
    exact hm hi
  · have he := fielded_mons p m fx hi
    exact ⟨he ▸ h.tidy, fun _ => he ▸ h.bench hi⟩

theorem switchTo_rested (j : Fin 6) (h : p.Rested i) : (p.switchTo j).Rested i := by
  by_cases hi : p.active = i
  · subst hi
    have hn := clearVolatile_neutral h.tidy
    have he := switchTo_self p j
    refine ⟨?_, fun _ => he ▸ hn⟩
    rw [he]
    exact .inl hn.mimicSlot
  · have he := switchTo_mons p j hi
    exact ⟨he ▸ h.tidy, fun _ => he ▸ h.bench hi⟩

theorem step_rested (hs : PartyStep moves s p q) (h : p.Rested i) : q.Rested i := by
  cases hs with
  | hold m fx hm =>
    refine fielded_rested fx h fun hi => ?_
    subst hi
    rw [hm]
    exact h.tidy
  | move x hx _ hu m fx hr =>
    refine fielded_rested fx h fun hi => ?_
    subst hi
    refine x.duel.reworked_tidy ?_ hr
    rw [hu]
    exact h.tidy
  | switch j _ _ => exact switchTo_rested j h

theorem fielded_returns {m : BattlePoke} {g : Guise} (fx : FieldFx) (h : p.Returns i g)
    (hm : m.kit.beneath = p.activeMon.kit.beneath) : (p.fielded m fx).Returns i g := by
  by_cases hi : p.active = i
  · refine ⟨fun hne => absurd hi hne, fun _ => ?_⟩
    have hg := h.field hi
    rw [← hi] at hg ⊢
    rw [fielded_self, hm]
    exact hg
  · refine ⟨fun _ => ?_, fun he => absurd he hi⟩
    rw [fielded_mons p m fx hi]
    exact h.bench hi

theorem switchTo_returns {g : Guise} {j : Fin 6} (hne : j ≠ p.active) (hr : p.Rested i)
    (h : p.Returns i g) : (p.switchTo j).Returns i g := by
  by_cases hi : p.active = i
  · subst hi
    refine ⟨fun _ => ?_, fun he => absurd he hne⟩
    rw [switchTo_self, BattlePoke.guise, clearVolatile_kit]
    exact h.field rfl
  · have he := switchTo_mons p j hi
    refine ⟨fun _ => he ▸ h.bench hi, fun _ => ?_⟩
    -- the mon that comes in is neutral, so its look is its own
    have hn := hr.bench hi
    rw [he, Kit.beneath_untouched hn.mimicSlot hn.transformed]
    exact h.bench hi

theorem step_returns {g : Guise} (hc : ∀ x ∈ moves, x.side = s → ¬ x.duel.Overwrites x.slot)
    (hs : PartyStep moves s p q) (hr : p.Rested i) (h : p.Returns i g) : q.Returns i g := by
  cases hs with
  | hold m fx hm => exact fielded_returns fx h (hm ▸ rfl)
  | move x hx hside hu m fx hw =>
    refine fielded_returns fx h ?_
    rw [x.duel.reworked_beneath (hc x hx hside) hw, hu]
  | switch j _ hne => exact switchTo_returns hne hr h

end BattleParty

namespace Engine

variable (e : Engine) (s : Side)

theorem initBattlePoke_neutral (src : Gen1Pokemon) (nick : Fin 11 → UInt8) (gen : UInt8) :
    (initBattlePokeFromSave src nick gen).Neutral := by
  unfold initBattlePokeFromSave
  dsimp only
  split_ifs <;> constructor <;> first | rfl | (intro s; cases s <;> rfl)

theorem initSide_neutral {pty : Gen1Party} {gen : UInt8} {i : Fin 6}
    (h : i.val < (initSide pty gen).count.val) : ((initSide pty gen).mons i).Neutral := by
  have hi : i.val < pty.size.val := h
  unfold initSide
  dsimp only
  rw [if_pos hi]
  exact initBattlePoke_neutral ..

theorem heal_neutral {m : BattlePoke} (h : m.Neutral) : m.heal.Neutral :=
  ⟨fun s => by cases s <;> [exact h.boosts .atk; exact h.boosts .def'; exact h.boosts .spd;
      exact h.boosts .spc; exact h.boosts .acc; exact h.boosts .eva],
    h.confuseTurns, h.mustRecharge, h.thrashing, h.thrashTurns, h.disabledSlot, h.disabledTurns,
    h.flinched, h.chargingSlot, h.trapTurns, h.thrashSlot, h.bideTurns, h.bideDamage,
    h.rageActive, h.substituteHp, h.lastDamageTaken, h.mimicSlot, h.transformed⟩

/-- A battle at its start, with its parties as they were saved or healed. -/
def Opened (e : Engine) : Prop :=
  ∃ (e₀ : Engine) (p1 p2 : Gen1Party) (seed : UInt32) (gen : UInt8),
    e = e₀.start p1 p2 seed gen ∨ e = (e₀.start p1 p2 seed gen).heal

variable {e} in
theorem Opened.neutral (h : e.Opened) {s : Side} {i : Fin 6}
    (hi : i.val < (e.p s).count.val) : ((e.p s).mons i).Neutral := by
  obtain ⟨e₀, p1, p2, seed, gen, rfl | rfl⟩ := h
  · cases s
    · exact initSide_neutral hi
    · exact initSide_neutral hi
  · have hh : (((e₀.start p1 p2 seed gen).heal.p s).mons i) =
        (((e₀.start p1 p2 seed gen).p s).mons i).heal := if_pos hi
    rw [hh]
    refine heal_neutral ?_
    cases s
    · exact initSide_neutral hi
    · exact initSide_neutral hi

theorem neutral_rested {p : BattleParty} {i : Fin 6} (h : (p.mons i).Neutral) : p.Rested i :=
  ⟨.inl h.mimicSlot, fun _ => h⟩

theorem neutral_returns {p : BattleParty} {i : Fin 6} (h : (p.mons i).Neutral) :
    p.Returns i (p.mons i).guise :=
  ⟨fun _ => rfl, fun _ => Kit.beneath_untouched h.mimicSlot h.transformed⟩

/-- Every mon of every party is rested. -/
def Rested : Prop := ∀ s i, i.val < (e.p s).count.val → (e.p s).Rested i

theorem steps_count {moves : List MoveCall} {s : Side} {p q : BattleParty}
    (h : PartySteps moves s p q) : q.count = p.count :=
  h.invariant (I := fun q => q.count = p.count)
    (fun _ _ hs hc => by cases hs <;> exact hc) rfl

variable {e} in
theorem call_rested {e' : Engine} {c : Call} (h : e.call c = .ok e') (hr : e.Rested) :
    e'.Rested := by
  intro s i hi
  by_cases hk : Keeps s c
  · have hs := call_steps e s h hk
    rw [steps_count hs] at hi
    exact hs.invariant (fun _ _ hst hp => BattleParty.step_rested hst hp) (hr s i hi)
  · simp only [Keeps, not_forall, not_not] at hk
    obtain ⟨rfl, pty, rfl⟩ := hk
    cases h
    exact neutral_rested (initSide_neutral hi)

/-- The condition on a call: side `s` keeps its party, and loses nothing that no backup holds. -/
def Restores (s : Side) (e : Engine) (c : Call) : Prop :=
  Keeps s c ∧ ∀ x ∈ e.callMoves c, x.side = s → ¬ x.duel.Overwrites x.slot

variable {e s} in
theorem call_returns {e' : Engine} {c : Call} {i : Fin 6} {g : Guise} (h : e.call c = .ok e')
    (hc : Restores s e c) (hr : (e.p s).Rested i) (hg : (e.p s).Returns i g) :
    (e'.p s).Rested i ∧ (e'.p s).Returns i g := by
  refine (call_steps e s h hc.1).invariant
    (I := fun p => p.Rested i ∧ p.Returns i g) (fun p q hst hp => ?_) ⟨hr, hg⟩
  exact ⟨BattleParty.step_rested hst hp.1, BattleParty.step_returns hc.2 hst hp.1 hp.2⟩

end Engine

/-- Side 0 leads a mon with the given move and has another behind it. -/
def pairBattle (move : UInt8) : Engine :=
  Engine.fresh.start { soloParty 0x99 move 0 with count := 2 } (soloParty 0x22 150 0) 7 3

/-- Side 0 uses its first move, then takes the mon back. -/
def moveThenRetreat : List Engine.Call :=
  exchanges [(0, 0)] ++ [.submitAction .zero 1 1, .submitAction .one 0 0, .executeTurn]

theorem restores_of_effects {e : Engine} {s : Side} {c : Engine.Call}
    (hc : ∀ pty, c ≠ .replaceOpponent pty)
    (h : (e.callMoves c).all (fun x => (x.duel.calls x.slot).all (fun c =>
      c.1.effect ≠ .conversion ∧ c.1.effect ≠ .transform)) = true) : Engine.Restores s e c := by
  refine ⟨fun _ => hc, fun x hx _ ho => ?_⟩
  have hcalls : ∀ c ∈ x.duel.calls x.slot,
      c.1.effect ≠ .conversion ∧ c.1.effect ≠ .transform := by
    intro c hc
    simpa using List.all_eq_true.mp (List.all_eq_true.mp h x hx) c hc
  rcases ho.2 with ⟨_, c, hc, hx⟩ | ⟨_, mv, hm, he⟩
  · exact (hcalls c hc).1 hx.1
  · unfold Duel.fires at hm
    split at hm
    · rename_i r d₁ hb
      cases hm
      exact (hcalls _ (Duel.calls_first _ hb)).2 he
    · cases hm

theorem retreat_keeps : ∀ c ∈ moveThenRetreat, ∀ pty, c ≠ Engine.Call.replaceOpponent pty := by
  intro c hc pty he
  rcases List.mem_append.mp hc with hc | hc
  · exact exchanges_keep _ c hc pty he
  · simp [he] at hc

theorem submitAction_restores (s : Side) (e : Engine) (t : Side) (actionType index : UInt8) :
    Engine.Restores s e (.submitAction t actionType index) :=
  ⟨fun _ => nofun, fun _ hx => absurd hx List.not_mem_nil⟩

theorem restores_of_switch {e : Engine} {s : Side} {c : Engine.Call}
    (hc : ∀ pty, c ≠ .replaceOpponent pty) (h : e.pendAction s ≠ 0) : Engine.Restores s e c := by
  refine ⟨fun _ => hc, fun x hx hs _ => h ?_⟩
  cases c with
  | executeTurn => exact hs ▸ Engine.turnMoves_side _ _ hx
  | _ => cases hx

end MonsterMesh
