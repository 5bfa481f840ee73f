import MonsterMesh.Engine.Fit
import MonsterMesh.Wire.PartyMin

/-! No undefined arithmetic in battles against a party from the radio. -/
namespace MonsterMesh

open Fallible

/-! ### Sides -/

/-- The active slot holds a mon, and every mon of the party is sound. -/
structure BattleParty.Loaded (g : UInt8) (p : BattleParty) : Prop where
  active : p.active.val < p.count.val
  mons : ∀ i : Fin 6, i.val < p.count.val → (p.mons i).vital.Sound g

/-- The side of a party with a count of 0. -/
structure BattleParty.Empty (p : BattleParty) : Prop where
  count : p.count.val = 0
  active : p.activeMon.vital = BattlePoke.zero.vital

namespace BattleParty

variable {g : UInt8} {p : BattleParty} {m : BattlePoke} {sink : Bool}

theorem Loaded.activeMon (h : p.Loaded g) : p.activeMon.vital.Sound g := h.mons _ h.active

theorem setActiveMon_loaded (h : p.Loaded g) (hm : m.vital.Sound g) :
    (p.setActiveMon m).Loaded g := by
  refine ⟨h.active, fun i hi => ?_⟩
  unfold setActiveMon
  dsimp only
  by_cases hx : i = p.active
  · subst hx
    rw [Function.update_self]
    exact hm
  · rw [Function.update_of_ne hx]
    exact h.mons i hi

theorem fielded_loaded (fx : FieldFx) (h : p.Loaded g) (hm : m.vital.Sound g) :
    (p.fielded m fx).Loaded g :=
  have hl := setActiveMon_loaded h hm
  ⟨hl.active, hl.mons⟩

theorem clearVolatile_sound (h : m.vital.Sound g) : m.clearVolatile.vital.Sound g := by
  have hs := h.stats
  have hbase : ∀ m₁ : BattlePoke, m₁.unmimic.vital = m₁.vital := by
    intro m₁
    unfold BattlePoke.unmimic
    split_ifs <;> rfl
  unfold BattlePoke.clearVolatile
  dsimp only
  generalize hm₁ : BattlePoke.unmimic _ = m₁
  have hv := (congrArg BattlePoke.vital hm₁).symm.trans (hbase _)
  have h₁ : m₁.vital.Sound g := by
    rw [hv]
    exact ⟨⟨hs.atk, hs.def', hs.spc, hs.spaG3, hs.spdG3, hs.orig⟩, ⟨.inl rfl, .inl rfl⟩, h.maxHp,
      h.hp, fun _ => ⟨UInt16.zero_le, fun h0 => absurd rfl h0⟩⟩
  unfold BattlePoke.untransform
  split_ifs with ht
  · obtain ⟨ha, hd, hc⟩ := h₁.stats.orig ht
    exact ⟨⟨ha, hd, hc, h₁.stats.spaG3, h₁.stats.spdG3, nofun⟩,
      ⟨h₁.lock.charging, h₁.lock.thrash⟩, h₁.maxHp, h₁.hp,
      fun hn => ⟨(h₁.tally hn).lastDamage, (h₁.tally hn).bide⟩⟩
  · exact h₁

theorem switchTo_loaded (h : p.Loaded g) {i : Fin 6} (hi : i.val < p.count.val) :
    (p.switchTo i).Loaded g :=
  have hl := setActiveMon_loaded h (clearVolatile_sound h.activeMon)
  ⟨hi, hl.mons⟩

theorem switchTarget_lt {idx : UInt8} {i : Fin 6} (h : p.switchTarget idx = some i) :
    i.val < p.count.val := by
  unfold switchTarget at h
  split_ifs at h with hx
  · dsimp only at h
    split_ifs at h
    cases h
    exact hx

theorem firstAlive_lt {i : Fin 6} (h : p.firstAlive = some i) : i.val < p.count.val := by
  have hm := List.mem_of_find?_eq_some h
  unfold slots at hm
  simpa using hm

theorem tick_worn (m : BattlePoke) (active : Bool) (n : UInt16) (line : String) :
    m.vital.Worn (m.tick active n line sink).1.vital := by
  unfold BattlePoke.tick
  split_ifs
  · exact worn_hurt m _
  · exact .refl _

theorem residual_worn (m : BattlePoke) : m.vital.Worn (m.residual sink).1.vital :=
  ((tick_worn m ..).trans (tick_worn _ ..)).trans (tick_worn _ ..)

theorem endOfTurn_loaded (h : p.Loaded g) : (p.endOfTurn sink).1.Loaded g := by
  unfold endOfTurn
  split_ifs
  · exact h
  · exact fielded_loaded _ h (h.activeMon.worn (residual_worn _))

theorem sinkLine_truncated (tmpl : String) (poke : CStr) :
    (sinkLine sink tmpl poke).truncated = false := rfl

theorem residual_truncated (m : BattlePoke) : (m.residual sink).2.truncated = false := by
  have ht : ∀ (m : BattlePoke) active n line, (m.tick active n line sink).2.truncated = false := by
    intro m active n line
    unfold BattlePoke.tick
    split_ifs <;> rfl
  unfold BattlePoke.residual
  simp only [Output.append_truncated, ht, Bool.or_false]

theorem endOfTurn_truncated (p : BattleParty) : (p.endOfTurn sink).2.truncated = false := by
  have hr : (p.activeMon.residual sink).2.truncated = false := residual_truncated p.activeMon
  unfold endOfTurn
  dsimp only
  split_ifs
  · rfl
  · rw [Output.append_truncated, hr]
    rfl
  · exact hr

theorem Empty.not_anyAlive (h : p.count.val = 0) : p.anyAlive = false := by
  unfold anyAlive slots
  simp [h]

end BattleParty

/-! ### One call -/

namespace Engine

variable {e : Engine} {s : Side}

/-- Both sides hold a loaded party. -/
def Loaded (e : Engine) : Prop := ∀ s, (e.p s).Loaded e.gen

theorem setParty_loaded {p : BattleParty} (h : e.Loaded) (hp : p.Loaded e.gen) :
    (e.setParty s p).Loaded := by
  intro t
  unfold setParty
  dsimp only
  by_cases ht : t = s
  · subst ht
    rw [Function.update_self]
    exact hp
  · rw [Function.update_of_ne ht]
    exact h t

theorem duel_fit (h : e.Loaded) (hp : (e.p s).activeMon.hp ≠ 0) :
    (e.duel s true).vitals.Fit e.gen true :=
  have hs := (h s).activeMon
  ⟨rfl, rfl, rfl, ⟨hs, hs.tally hp⟩, (h s.other).activeMon⟩

theorem absorb_loaded {d : Duel} (h : e.Loaded) (hd : Duel.Left e.gen true d.vitals) :
    (e.absorb s d).Loaded := by
  intro t
  rcases s.eq_or_eq_other t with rfl | rfl
  · simpa [absorb] using BattleParty.fielded_loaded d.userFx (h t) (hd.user rfl)
  · simpa [absorb] using BattleParty.fielded_loaded d.targetFx (h s.other) hd.target

/-- A step of a call that succeeds without losing bits. -/
def Sure (x : Except Fault (Engine × Output)) (P : Engine → Prop) : Prop :=
  ∃ r, x = .ok r ∧ r.2.truncated = false ∧ P r.1

/-- No call of `applyMove` in the action of a side is unsafe. -/
def StepSafe (e : Engine) (s : Side) : Prop := ∀ c ∈ e.stepCalls s true, c.2.ArithSafe c.1

theorem duel_moveSafe (hs : e.StepSafe s) (hr : e.result = .ongoing)
    (hp : (e.p s).activeMon.hp ≠ 0) (ha : e.pendAction s = 0) :
    (e.duel s true).MoveSafe (e.pendIndex s) := by
  unfold StepSafe stepCalls at hs
  rw [if_pos ⟨hr, hp, ha⟩] at hs
  exact hs

theorem stepAction_loaded (h : e.Loaded) (hs : e.StepSafe s) :
    Sure (e.stepAction s true) fun e' => e'.Loaded := by
  unfold stepAction
  split_ifs with h₀ h₁ h₂
  · exact ⟨_, rfl, rfl, h⟩
  · cases hi : (e.p s).switchTarget (e.pendIndex s) with
    | none => exact ⟨_, rfl, rfl, h⟩
    | some i =>
      exact ⟨_, rfl, rfl, setParty_loaded h
        (BattleParty.switchTo_loaded (h s) (BattleParty.switchTarget_lt hi))⟩
  · obtain ⟨hr, hp⟩ := not_or.mp h₀
    obtain ⟨d, hd, hl⟩ := Duel.useMove_left (duel_fit h hp)
      (duel_moveSafe hs (not_not.mp hr) hp h₂)
    exact ⟨_, map_eq_ok.mpr ⟨d, hd, rfl⟩, hl.intact, absorb_loaded h hl⟩
  · exact ⟨_, rfl, rfl, h⟩

theorem applyEndOfTurn_loaded (h : e.Loaded) (s : Side) : (e.applyEndOfTurn s true).1.Loaded :=
  setParty_loaded h (BattleParty.endOfTurn_loaded (h s))

/-- No call of `applyMove` in the turn is unsafe. -/
def PlaySafe (e : Engine) (first : Side) : Prop := ∀ c ∈ e.playCalls first true, c.2.ArithSafe c.1

theorem PlaySafe.first {first : Side} (h : e.PlaySafe first) : e.StepSafe first :=
  fun c hc => h c (List.mem_append_left _ hc)

theorem PlaySafe.second {first : Side} {r : Engine × Output} (h : e.PlaySafe first)
    (hr : e.stepAction first true = .ok r) : r.1.StepSafe first.other := by
  intro c hc
  refine h c (List.mem_append_right _ ?_)
  rw [hr]
  exact hc

/-- What the two actions leave, the ticks and the closing of the turn keep without a fault. -/
theorem playTurn_sure {first : Side} {P : Engine → Prop}
    (h : ∃ r₁, e.stepAction first true = .ok r₁ ∧ r₁.2.truncated = false ∧
      Sure (r₁.1.stepAction first.other true) P) :
    Sure (e.playTurn first true) fun e' => ∃ e₂, P e₂ ∧
      e' = ((e₂.applyEndOfTurn first true).1.applyEndOfTurn first.other true).1.closeTurn := by
  obtain ⟨r₁, h₁, ht₁, r₂, h₂, ht₂, hp⟩ := h
  refine ⟨_, bind_eq_ok.mpr ⟨r₁, h₁, bind_eq_ok.mpr ⟨r₂, h₂, rfl⟩⟩, ?_, r₂.1, hp, rfl⟩
  simp only [Output.append_truncated, ht₁, ht₂, BattleParty.endOfTurn_truncated, Bool.or_false]

theorem playTurn_loaded {first : Side} (h : e.Loaded) (hs : e.PlaySafe first) :
    Sure (e.playTurn first true) fun e' => e'.Loaded := by
  obtain ⟨r₁, h₁, ht₁, hl₁⟩ := stepAction_loaded h hs.first
  obtain ⟨r, hr, ht, e₂, hl₂, he⟩ :=
    playTurn_sure ⟨r₁, h₁, ht₁, stepAction_loaded hl₁ (hs.second h₁)⟩
  refine ⟨r, hr, ht, ?_⟩
  rw [he]
  exact applyEndOfTurn_loaded (applyEndOfTurn_loaded hl₂ first) first.other

/-! ### Against an empty party -/

/-- Side 0 holds a loaded party and side 1 none. -/
structure Alone (e : Engine) : Prop where
  zero : (e.p .zero).Loaded e.gen
  one : (e.p .one).Empty

theorem stepAction_empty (h : (e.p .one).Empty) :
    e.stepAction .one true = .ok (e, .empty) := by
  have h0 : (e.p .one).activeMon.hp = 0 := congrArg Vital.hp h.active
  exact if_pos (.inr h0)

theorem stepAction_alone (h : e.Alone) (hs : e.StepSafe .zero) :
    Sure (e.stepAction .zero true) fun e' => (e'.p .one).Empty := by
  unfold stepAction
  split_ifs with h₀ h₁ h₂
  · exact ⟨_, rfl, rfl, h.one⟩
  · cases (e.p .zero).switchTarget (e.pendIndex .zero) with
    | none => exact ⟨_, rfl, rfl, h.one⟩
    | some i => exact ⟨_, rfl, rfl, h.one⟩
  · obtain ⟨hr, hp⟩ := not_or.mp h₀
    have hsound := h.zero.activeMon
    have hf : (e.duel .zero true).vitals.Fit e.gen false :=
      ⟨rfl, rfl, rfl, ⟨hsound, hsound.tally hp⟩, h.one.active⟩
    obtain ⟨d, hd, hl⟩ := Duel.useMove_left hf (duel_moveSafe hs (not_not.mp hr) hp h₂)
    refine ⟨_, map_eq_ok.mpr ⟨d, hd, rfl⟩, hl.intact, h.one.count, ?_⟩
    have ha : ((e.absorb .zero d).p .one).activeMon = d.target := Function.update_self ..
    rw [ha]
    exact hl.target
  · exact ⟨_, rfl, rfl, h.one⟩

theorem applyEndOfTurn_count (s t : Side) :
    ((e.applyEndOfTurn s true).1.p t).count = (e.p t).count := by
  have hc : ∀ p : BattleParty, (p.endOfTurn true).1.count = p.count := by
    intro p
    unfold BattleParty.endOfTurn
    split_ifs <;> rfl
  unfold applyEndOfTurn setParty
  dsimp only
  by_cases ht : t = s
  · subst ht
    rw [Function.update_self]
    exact hc _
  · rw [Function.update_of_ne ht]

theorem closeTurn_ended (h : (e.p .one).count.val = 0) : e.closeTurn.result ≠ .ongoing := by
  show e.outcome ≠ _
  unfold outcome
  rw [BattleParty.Empty.not_anyAlive h]
  cases (e.p .zero).anyAlive <;> exact nofun

/-- The first turn against an empty party is the last. -/
theorem playTurn_alone {first : Side} (h : e.Alone) (hs : e.PlaySafe first) :
    Sure (e.playTurn first true) fun e' => e'.result ≠ .ongoing := by
  have hx : ∃ r₁, e.stepAction first true = .ok r₁ ∧ r₁.2.truncated = false ∧
      Sure (r₁.1.stepAction first.other true) fun e' => (e'.p .one).Empty := by
    cases first with
    | zero =>
      obtain ⟨r₁, h₁, ht₁, he₁⟩ := stepAction_alone h hs.first
      exact ⟨r₁, h₁, ht₁, _, stepAction_empty he₁, rfl, he₁⟩
    | one =>
      have h₁ := stepAction_empty h.one
      exact ⟨_, h₁, rfl, stepAction_alone h (hs.second h₁)⟩
  obtain ⟨r, hr, ht, e₂, he₂, he⟩ := playTurn_sure hx
  refine ⟨r, hr, ht, ?_⟩
  rw [he]
  apply closeTurn_ended
  rw [applyEndOfTurn_count, applyEndOfTurn_count]
  exact he₂.count

/-! ### Whole battles -/

/-- While the battle is on, side 0 holds a loaded party, and so does side 1 unless it has none. -/
def Stocked (e : Engine) : Prop := e.result = .ongoing → e.Loaded ∨ e.Alone

/-- No call of `applyMove` in this turn is unsafe. -/
def TurnSafe (e : Engine) : Prop := ∀ c ∈ e.turnCalls true, c.2.ArithSafe c.1

theorem firstSide_loaded (h : e.Loaded) : e.firstSide.2.Loaded := by
  unfold firstSide pokeActsFirst
  dsimp only
  split_ifs <;> exact h

theorem firstSide_alone (h : e.Alone) : e.firstSide.2.Alone := by
  unfold firstSide pokeActsFirst
  dsimp only
  split_ifs
  · exact h
  · exact h
  · exact ⟨h.zero, h.one⟩

theorem executeTurn_sure (h : e.Stocked) (hs : e.TurnSafe) :
    Sure (e.executeTurn true) Stocked := by
  unfold executeTurn
  unfold TurnSafe turnCalls at hs
  split_ifs at hs ⊢ with hr
  · have hon : e.result = .ongoing := by
      unfold ready at hr
      exact (of_decide_eq_true hr).1
    rcases h hon with hl | ha
    · obtain ⟨r, hr, ht, hl'⟩ := playTurn_loaded (firstSide_loaded hl) hs
      exact ⟨r, hr, ht, fun _ => .inl hl'⟩
    · obtain ⟨r, hr, ht, hn⟩ := playTurn_alone (firstSide_alone ha) hs
      exact ⟨r, hr, ht, fun h => absurd h hn⟩
  · exact ⟨_, rfl, rfl, h⟩

theorem autoReplace_stocked (h : e.Stocked) (s : Side) :
    (e.autoReplaceIfFainted s true).2.1.Stocked := by
  unfold autoReplaceIfFainted
  split_ifs
  · exact h
  · cases hi : (e.p s).firstAlive with
    | none => exact h
    | some i =>
      have hlt := BattleParty.firstAlive_lt hi
      intro hon
      rcases h hon with hl | ha
      · exact .inl (setParty_loaded hl (BattleParty.switchTo_loaded (hl s) hlt))
      · cases s with
        | zero => exact .inr ⟨BattleParty.switchTo_loaded ha.zero hlt, ha.one⟩
        | one => exact absurd hlt (by have := ha.one.count; omega)

/-- The condition on a call: no turn makes an unsafe call, and the opponent is not replaced. -/
def ArithSafe (e : Engine) (c : Call) : Prop :=
  (c = .executeTurn → e.TurnSafe) ∧ ∀ pty, c ≠ .replaceOpponent pty

theorem call_stocked {c : Call} {e' : Engine} (h : e.Stocked) (hc : e.ArithSafe c)
    (hs : e.call c = .ok e') : e'.Stocked := by
  cases c with
  | submitAction side actionType index =>
    cases hs
    intro hon
    rcases h hon with hl | ha
    · exact .inl hl
    · exact .inr ⟨ha.zero, ha.one⟩
  | executeTurn =>
    obtain ⟨r, hr, rfl⟩ := map_eq_ok.mp hs
    obtain ⟨r', hr', _, hst⟩ := executeTurn_sure h (hc.1 rfl)
    cases hr.symm.trans hr'
    exact hst
  | autoReplaceIfFainted side =>
    cases hs
    exact autoReplace_stocked h side
  | replaceOpponent pty => exact absurd rfl (hc.2 pty)
  | forfeit side =>
    cases hs
    intro hon
    cases side <;> cases hon

theorem init_heal_sound (src : Gen1Pokemon) (nick : Fin 11 → UInt8) (gen : UInt8) :
    (initBattlePokeFromSave src nick gen).heal.vital.Sound gen := by
  have h := init_sound src nick gen
  have hb : (initBattlePokeFromSave src nick gen).bideTurns = 0 := by
    unfold initBattlePokeFromSave
    split_ifs <;> rfl
  have hl : (initBattlePokeFromSave src nick gen).lastDamageTaken = 0 := by
    unfold initBattlePokeFromSave
    split_ifs <;> rfl
  refine ⟨⟨h.stats.atk, h.stats.def', h.stats.spc, h.stats.spaG3, h.stats.spdG3, h.stats.orig⟩,
    ⟨h.lock.charging, h.lock.thrash⟩, h.maxHp, UInt16.le_refl _, fun _ => ⟨?_, ?_⟩⟩
  · show (initBattlePokeFromSave src nick gen).lastDamageTaken ≤ _
    rw [hl]
    exact UInt16.zero_le
  · exact fun hn => absurd hb hn

theorem initSide_loaded {pty : Gen1Party} (gen : UInt8) (h : pty.size.val ≠ 0) :
    (initSide pty gen).Loaded gen ∧ (initSide pty gen).heal.Loaded gen := by
  have hm : ∀ i : Fin 6, i.val < pty.size.val → (initSide pty gen).mons i =
      initBattlePokeFromSave (pty.mons i) (pty.nicknames i) gen := fun i hi => if_pos hi
  refine ⟨⟨Nat.pos_of_ne_zero h, fun i hi => ?_⟩, ⟨Nat.pos_of_ne_zero h, fun i hi => ?_⟩⟩
  · rw [hm i hi]
    exact init_sound ..
  · have hx : (initSide pty gen).heal.mons i = ((initSide pty gen).mons i).heal := if_pos hi
    rw [hx, hm i hi]
    exact init_heal_sound ..

theorem initSide_empty {pty : Gen1Party} (gen : UInt8) (h : pty.size.val = 0) :
    (initSide pty gen).Empty ∧ (initSide pty gen).heal.Empty := by
  have hm : ∀ i, (initSide pty gen).mons i = .zero := fun i => if_neg (by omega)
  refine ⟨⟨h, by rw [BattleParty.activeMon, hm]⟩, ⟨h, ?_⟩⟩
  have hx : (initSide pty gen).heal.mons 0 = (initSide pty gen).mons 0 :=
    if_neg (by rw [show (initSide pty gen).count = pty.size from rfl]; omega)
  show ((initSide pty gen).heal.mons 0).vital = _
  rw [hx, hm]

/-- A battle against the party in a blob, healed as the accepting paths do or not. -/
def radioStart (e₀ : Engine) (mine : Gen1Party) (blob : List UInt8) (seed : UInt32) (gen : UInt8)
    (healed : Bool) : Engine :=
  if healed then (e₀.start mine (unpackPartyMinTb blob) seed gen).heal
  else e₀.start mine (unpackPartyMinTb blob) seed gen

theorem radioStart_stocked (e₀ : Engine) {mine : Gen1Party} (blob : List UInt8) (seed : UInt32)
    (gen : UInt8) (healed : Bool) (h : mine.size.val ≠ 0) :
    (e₀.radioStart mine blob seed gen healed).Stocked := by
  intro _
  have hz := initSide_loaded gen h
  by_cases ho : (unpackPartyMinTb blob).size.val = 0
  · right
    have he := initSide_empty gen ho
    cases healed with
    | true => exact ⟨hz.2, he.2⟩
    | false => exact ⟨hz.1, he.1⟩
  · left
    have hl := initSide_loaded gen ho
    intro s
    cases healed <;> cases s
    exacts [hz.1, hl.1, hz.2, hl.2]

end Engine

/-- Both sides have chosen their first move. -/
def bothChoose : List Engine.Call := [.submitAction .zero 0 0, .submitAction .one 0 0]

theorem turnSafe_of_plain {e : Engine} (h : (e.turnCalls true).all (fun c =>
    c.2.target.defenceStat c.2.gen c.1.type ≠ 0 && c.1.effect ≠ .psywave &&
      c.1.effect ≠ .superFang && c.2.target.bideTurns = 0) = true) : e.TurnSafe := by
  intro c hc
  have hx := List.all_eq_true.mp h c hc
  simp only [Bool.and_eq_true, decide_eq_true_eq] at hx
  obtain ⟨⟨⟨hd, hp⟩, hf⟩, hb⟩ := hx
  exact ⟨fun ha => hd ha.2.2, fun ha => hp ha.2.1, fun ha => hf ha.2.choose_spec.2.1,
    fun ha => ha.2.2.1 hb⟩

end MonsterMesh
