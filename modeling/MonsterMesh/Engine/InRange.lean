import MonsterMesh.Engine.Charge
import MonsterMesh.Engine.Indices

/-! Indices and stages over whole battles. -/
namespace MonsterMesh

open Fallible

/-! ### Every mon -/

theorem neutral_inRange {m : BattlePoke} (h : m.Neutral) (hl : Slotted m.lastMoveIdx) : m.indices.InRange where
  boost s := by
    have hs : m.indices.boost s = 0 := h.boosts s
    rw [hs]
    exact zero_inRange
  charging := .inr h.chargingSlot
  thrash := .inr h.thrashSlot
  disabled := .inr h.disabledSlot
  mimic := .inr h.mimicSlot
  lastMove := hl

theorem indices_untransform (m : BattlePoke) : m.untransform.indices = m.indices := by
  unfold BattlePoke.untransform
  split_ifs <;> rfl

theorem unmimic_inRange {m : BattlePoke} (h : m.indices.InRange) : m.unmimic.indices.InRange := by
  unfold BattlePoke.unmimic
  split_ifs
  · exact ⟨h.boost, h.charging, h.thrash, h.disabled, .inr rfl, h.lastMove⟩
  · exact h

theorem clearVolatile_inRange {m : BattlePoke} (h : m.indices.InRange) : m.clearVolatile.indices.InRange := by
  have hc := clearBoosts_inRange h
  unfold BattlePoke.clearVolatile
  rw [indices_untransform]
  exact unmimic_inRange ⟨hc.boost, .inr rfl, .inr rfl, .inr rfl, h.mimic, h.lastMove⟩

theorem residual_indices (m : BattlePoke) (sink : Bool) : (m.residual sink).1.indices = m.indices := by
  have ht : ∀ (m : BattlePoke) active n line, (m.tick active n line sink).1.indices = m.indices := by
    intro m active n line
    unfold BattlePoke.tick
    split_ifs <;> rfl
  unfold BattlePoke.residual
  exact (ht _ _ _ _).trans ((ht _ _ _ _).trans (ht _ _ _ _))

theorem inRange_kept (g : UInt8) : Kept g fun m => m.indices.InRange where
  loaded src nick := by
    have hn := Engine.initBattlePoke_neutral src nick g
    have hl : (initBattlePokeFromSave src nick g).lastMoveIdx = 0xFF := by
      unfold initBattlePokeFromSave
      dsimp only
      split_ifs <;> rfl
    exact ⟨neutral_inRange hn (.inr hl), neutral_inRange (Engine.heal_neutral hn) (.inr hl)⟩
  empty := ⟨fun s => by cases s <;> exact zero_inRange, .inl (by decide), .inl (by decide), .inl (by decide),
    .inl (by decide), .inl (by decide)⟩
  useMove d d' slot _ hu ht h := (Duel.useMove_avoids (d := d) ⟨hu, ht⟩ slot).result h
  clearVolatile _ h := clearVolatile_inRange h
  residual m sink h := by
    rw [residual_indices]
    exact h

/-! ### The mons on the field -/

def BattleParty.Fielded (p : BattleParty) : Prop := p.active.val < p.count.val

/-- A party that a battle can be started with. -/
def Gen1Party.Manned (pty : Gen1Party) : Prop := 1 ≤ pty.count.toNat ∧ pty.count.toNat ≤ 6

theorem initSide_fielded {pty : Gen1Party} (h : pty.Manned) (g : UInt8) : (initSide pty g).Fielded := by
  have hsize : 0 < min pty.count.toNat 6 := lt_min h.1 (by decide)
  exact hsize

namespace Engine

variable {e e' : Engine} {s : Side} {sink : Bool}

/-- Both sides have one of their mons on the field. -/
def Fielded (e : Engine) : Prop := ∀ s, (e.p s).Fielded

theorem fielded_setParty {p : BattleParty} (h : e.Fielded) (hp : p.Fielded) : (e.setParty s p).Fielded := by
  intro t
  unfold setParty
  by_cases ht : t = s
  · subst ht
    simpa using hp
  · simpa [ht] using h t

theorem fielded_switchTo {p : BattleParty} {i : Fin 6} (h : i.val < p.count.val) : (p.switchTo i).Fielded := h

/-- A switch goes to a member of the party. -/
theorem switchTarget_lt {p : BattleParty} {idx : UInt8} {i : Fin 6} (h : p.switchTarget idx = some i) :
    i.val < p.count.val := by
  unfold BattleParty.switchTarget at h
  split at h
  · rename_i hlt
    dsimp only at h
    split_ifs at h
    cases h
    exact hlt
  · cases h

theorem firstAlive_lt {p : BattleParty} {i : Fin 6} (h : p.firstAlive = some i) : i.val < p.count.val := by
  unfold BattleParty.firstAlive BattleParty.slots at h
  have hmem := List.mem_of_find?_eq_some h
  exact of_decide_eq_true (List.mem_filter.mp hmem).2

theorem fielded_stepAction (h : e.Fielded) {r : Engine × Output} (hr : e.stepAction s sink = .ok r) :
    r.1.Fielded := by
  unfold stepAction at hr
  split_ifs at hr
  · cases hr
    exact h
  · split at hr
    · cases hr
      exact h
    · rename_i i hi
      cases hr
      exact fielded_setParty h (fielded_switchTo (switchTarget_lt hi))
  · obtain ⟨d, -, rfl⟩ := map_eq_ok.mp hr
    intro t
    show BattleParty.Fielded (if t = s then _ else _)
    split_ifs <;> exact h t
  · cases hr
    exact h

theorem fielded_applyEndOfTurn (h : e.Fielded) : (e.applyEndOfTurn s sink).1.Fielded := by
  refine fielded_setParty h ?_
  unfold BattleParty.endOfTurn
  split_ifs <;> exact h s

theorem fielded_firstSide (h : e.Fielded) : e.firstSide.2.Fielded := by
  unfold firstSide pokeActsFirst
  dsimp only
  split_ifs <;> exact h

/-! ### Whole battles -/

/-- What holds in every state of a battle. -/
structure Sound (g : UInt8) (e : Engine) : Prop where
  every : e.Every g fun m => m.indices.InRange
  fielded : e.Fielded

theorem stepAction_avoids {g : UInt8} (h : e.Sound g) (s : Side) (sink : Bool) :
    Avoids .outOfBounds (e.stepAction s sink) fun r => r.1.Sound g := by
  refine .of_ok (fun r hr => ⟨every_stepAction (inRange_kept g) h.every hr, fielded_stepAction h.fielded hr⟩) ?_
  have hd := h.every.duel s sink
  have huse : Avoids .outOfBounds ((fun d => (e.absorb s d, d.out)) <$>
      (e.duel s sink).useMove (e.pendIndex s)) fun _ => True :=
    (Duel.useMove_avoids ⟨hd.2.1, hd.2.2⟩ _).map fun _ _ => trivial
  unfold stepAction
  split_ifs
  · exact nofun
  · split <;> exact nofun
  · exact huse.ne
  · exact nofun

theorem applyEndOfTurn_sound {g : UInt8} (h : e.Sound g) (s : Side) (sink : Bool) :
    (e.applyEndOfTurn s sink).1.Sound g :=
  ⟨every_applyEndOfTurn (inRange_kept g) h.every, fielded_applyEndOfTurn h.fielded⟩

theorem executeTurn_avoids {g : UInt8} (h : e.Sound g) (sink : Bool) :
    Avoids .outOfBounds (e.executeTurn sink) fun r => r.1.Sound g := by
  have hfirst : e.firstSide.2.Sound g := ⟨every_firstSide h.every, fielded_firstSide h.fielded⟩
  unfold executeTurn
  split_ifs
  · unfold playTurn
    refine (stepAction_avoids hfirst _ sink).bind fun ⟨e₁, o₁⟩ h₁ => ?_
    refine (stepAction_avoids h₁ _ sink).bind fun ⟨e₂, o₂⟩ h₂ => ?_
    have hend := applyEndOfTurn_sound (applyEndOfTurn_sound h₂ e.firstSide.1 sink) e.firstSide.1.other sink
    exact ⟨⟨hend.every.gen, hend.every.mons⟩, hend.fielded⟩
  · exact h

/-- The parties a call brings in can be fought with. -/
def Call.Manned : Call → Prop
  | .replaceOpponent pty => pty.Manned
  | _ => True

theorem call_avoids {g : UInt8} (h : e.Sound g) (c : Call) (hc : c.Manned) :
    Avoids .outOfBounds (e.call c) (Sound g) := by
  have hevery : ∀ {e'}, e.call c = .ok e' → e'.Every g fun m => m.indices.InRange :=
    fun hr => every_call (inRange_kept g) h.every hr
  cases c with
  | submitAction side actionType index => exact ⟨hevery rfl, h.fielded⟩
  | executeTurn => exact (executeTurn_avoids h true).map fun _ hr => hr
  | autoReplaceIfFainted side =>
    refine ⟨hevery rfl, ?_⟩
    unfold autoReplaceIfFainted
    split_ifs
    · exact h.fielded
    · split
      · rename_i i hi
        exact fielded_setParty h.fielded (fielded_switchTo (firstAlive_lt hi))
      · exact h.fielded
  | replaceOpponent pty =>
    refine ⟨hevery rfl, fun t => ?_⟩
    cases t with
    | zero => exact h.fielded .zero
    | one => exact initSide_fielded hc e.gen
  | forfeit side => exact ⟨hevery rfl, h.fielded⟩

theorem opening_sound (e₀ : Engine) {p1 p2 : Gen1Party} (seed : UInt32) (gen : UInt8) (healed : Bool)
    (h₁ : p1.Manned) (h₂ : p2.Manned) : (opening e₀ p1 p2 seed gen healed).Sound gen := by
  have hstart : (e₀.start p1 p2 seed gen).Fielded := fun s => by
    cases s with
    | zero => exact initSide_fielded h₁ gen
    | one => exact initSide_fielded h₂ gen
  unfold opening
  split_ifs
  · exact ⟨every_start_heal (inRange_kept gen) e₀ p1 p2 seed, hstart⟩
  · exact ⟨every_start (inRange_kept gen) e₀ p1 p2 seed, hstart⟩

/-! ### The computer's choice and the tables -/

/-- An action that names a slot or a member that is there. -/
def PickInRange (p : BattleParty) (a : UInt8 × UInt8) : Prop :=
  a.1 = 1 ∧ a.2.toNat < p.count.val ∨ a.1 = 0 ∧ (a.2.toNat < 4 ∨ a.2 = 0xFE)

theorem cpuPickAction_inRange (h : e.Fielded) (s : Side) : PickInRange (e.p s) (e.cpuPickAction s) := by
  unfold cpuPickAction
  split_ifs
  · left
    refine ⟨rfl, ?_⟩
    cases hf : (e.p s).firstAlive with
    | none =>
      have hs : 0 < (e.p s).count.val := Nat.zero_lt_of_lt (h s)
      exact hs
    | some i =>
      have hi := firstAlive_lt hf
      have hnat : ∀ i : Fin 6, (UInt8.ofNat i.val).toNat = i.val := by decide
      show (UInt8.ofNat i.val).toNat < _
      rw [hnat]
      exact hi
  · right
    refine ⟨rfl, ?_⟩
    have hslot : ∀ i : Fin 4, (UInt8.ofNat i.val).toNat < 4 := by decide
    dsimp only
    split
    · exact .inl (hslot _)
    · exact .inr rfl

/-- The guarded lookups of the tables hit an entry. -/
structure TablesInBounds : Prop where
  stage : ∀ stage : Int8, min (stage.toInt + 6).toNat 12 < 13
  gen1Chart : gen1Typechart.length = gen1TypeCount.toNat ∧
    ∀ row ∈ gen1Typechart, row.length = gen1TypeCount.toNat
  gen3Chart : gen3Typechart.length = gen3TypeCount.toNat ∧
    ∀ row ∈ gen3Typechart, row.length = gen3TypeCount.toNat
  special : gen3TypeIsSpecial.length = gen3TypeCount.toNat
  species : gen1BaseStatsTable.length = 152 ∧ gen3BaseStatsTable.length = 152

theorem tablesInBounds : TablesInBounds where
  stage _ := (Nat.min_le_right _ _).trans_lt (by decide)
  gen1Chart := by decide
  gen3Chart := by decide
  special := by decide
  species := by decide +kernel

/-- What a state of a battle promises: every index names something that is there. -/
structure IndicesInBounds (e : Engine) : Prop where
  active : ∀ s, (e.p s).active.val < (e.p s).count.val
  mons : ∀ s i, ((e.p s).mons i).indices.InRange
  pick : ∀ s, PickInRange (e.p s) (e.cpuPickAction s)

/-- No call of a battle leaves an array, and every state it reaches has its indices in range. -/
theorem indices_in_bounds (e₀ : Engine) (p1 p2 : Gen1Party) (seed : UInt32) (gen : UInt8) (healed : Bool)
    (cs : List Call) (h₁ : p1.Manned) (h₂ : p2.Manned) (hcs : ∀ c ∈ cs, c.Manned) :
    TablesInBounds ∧ play Engine.call (opening e₀ p1 p2 seed gen healed) cs ≠ .error .outOfBounds ∧
      ∀ e, play Engine.call (opening e₀ p1 p2 seed gen healed) cs = .ok e → e.IndicesInBounds := by
  have hplay : Avoids .outOfBounds (play Engine.call (opening e₀ p1 p2 seed gen healed) cs) (Sound gen) :=
    .play (fun e c h hc => call_avoids h c hc) (opening_sound e₀ seed gen healed h₁ h₂)
      (along_of_mem (fun _ c hc => hcs c hc) _)
  refine ⟨tablesInBounds, hplay.ne, fun e he => ?_⟩
  have hs := hplay.result he
  exact ⟨hs.fielded, fun s i => hs.every.mons s i, cpuPickAction_inRange hs.fielded⟩

theorem indices_in_bounds_skyAttack : TablesInBounds ∧
    play Engine.call (opening Engine.fresh (soloParty 0x99 143 0) (soloParty 0x22 150 0) 7 3 true)
      skyAttackTwice ≠ .error .outOfBounds ∧
    ∀ e, play Engine.call (opening Engine.fresh (soloParty 0x99 143 0) (soloParty 0x22 150 0) 7 3 true)
      skyAttackTwice = .ok e → e.IndicesInBounds :=
  indices_in_bounds Engine.fresh _ _ 7 3 true skyAttackTwice ⟨by decide, by decide⟩ ⟨by decide, by decide⟩
    fun c hc => by
      revert c hc
      unfold skyAttackTwice oneTurn
      simp [Call.Manned]

end Engine
end MonsterMesh
