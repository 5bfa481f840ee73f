import MonsterMesh.Engine.Sides

/-! PP over whole battles: a slot never shows more than was loaded, so no decrement wrapped. -/
namespace MonsterMesh

open Fallible

/-- Mimic in both move tables. -/
def mimicId : UInt8 := 102

theorem mimic_id {gen id : UInt8} {mv : MoveData} (h : mdata gen id = some mv)
    (he : mv.effect = .mimic) : id = mimicId := by
  have h₁ : ∀ mv ∈ gen1Moves, mv.effect = .mimic → mv.num = mimicId := by decide +kernel
  have h₃ : ∀ mv ∈ gen3Moves, mv.effect = .mimic → mv.num = mimicId := by decide +kernel
  unfold mdata gen3Move gen1Move at h
  split_ifs at h
  · have hn : mv.num = id := by simpa using List.find?_some h
    exact hn.symm.trans (h₃ mv (List.mem_of_find?_eq_some h) he)
  · have hn : mv.num = id := by simpa using List.find?_some h
    exact hn.symm.trans (h₁ mv (List.mem_of_find?_eq_some h) he)

theorem pred_le {pp : UInt8} (h : pp ≠ 0) : pp - 1 ≤ pp :=
  UInt8.sub_le (UInt8.le_iff_toNat_le.mpr (Nat.pos_of_ne_zero fun h₀ => h (UInt8.toNat_inj.mp h₀)))

/-- What slot `j` of the mon loaded as `m₀` may hold: its own move within the loaded PP, or, where
that move is Mimic, a copy within 5. -/
def BattlePoke.Stocks (m₀ : BattlePoke) (j : Fin 4) (id pp : UInt8) : Prop :=
  id = m₀.moves j ∧ pp ≤ m₀.pp j ∨ pp ≤ 5 ∧ m₀.moves j = mimicId

theorem BattlePoke.Stocks.spend {m₀ : BattlePoke} {j : Fin 4} {id pp : UInt8}
    (h : m₀.Stocks j id pp) (hp : pp ≠ 0) : m₀.Stocks j id (pp - 1) := by
  have hle := pred_le hp
  rcases h with ⟨hi, h⟩ | ⟨h, hm⟩
  · exact .inl ⟨hi, UInt8.le_trans hle h⟩
  · exact .inr ⟨UInt8.le_trans hle h, hm⟩

/-- The slots on show, and those set aside by Mimic and Transform, are all stocked. -/
structure Kit.Stocked (m₀ : BattlePoke) (k : Kit) : Prop where
  own : k.transformed = false → ∀ j, m₀.Stocks j (k.moves j) (k.pp j)
  mimicked : k.transformed = false →
    ∀ h : k.mimicSlot.toNat < 4, m₀.Stocks ⟨k.mimicSlot.toNat, h⟩ k.mimicOrigMove k.mimicOrigPp
  copied : k.transformed = true → ∀ j, k.pp j ≤ 5
  kept : k.transformed = true → ∀ j, m₀.Stocks j (k.origMoves j) (k.origPp j)

namespace Kit

variable {m₀ : BattlePoke} {k : Kit}

theorem spend_stocked (h : k.Stocked m₀) {j : Fin 4} (hp : k.pp j ≠ 0) :
    (k.spend j).Stocked m₀ := by
  refine ⟨fun ht i => ?_, h.mimicked, fun ht i => ?_, h.kept⟩
  · by_cases hi : i = j
    · subst hi
      simpa [spend] using (h.own ht i).spend hp
    · simpa [spend, hi] using h.own ht i
  · by_cases hi : i = j
    · subst hi
      simpa [spend] using UInt8.le_trans (pred_le hp) (h.copied ht i)
    · simpa [spend, hi] using h.copied ht i

theorem copy_stocked (h : k.Stocked m₀) {j : Fin 4} (id : UInt8) (hm : k.moves j = mimicId) :
    (k.copy j id).Stocked m₀ := by
  have hj : (UInt8.ofNat j.val).toNat = j.val := by
    have := j.isLt
    simp
    omega
  refine ⟨fun ht i => ?_, fun ht hs => ?_, fun ht i => ?_, h.kept⟩
  · by_cases hi : i = j
    · subst hi
      -- the slot held Mimic, so it was loaded with Mimic
      have hown : m₀.moves i = mimicId := by
        rcases h.own ht i with ⟨he, _⟩ | ⟨_, he⟩
        · exact he ▸ hm
        · exact he
      exact .inr ⟨by simp [copy], hown⟩
    · simpa [copy, hi] using h.own ht i
  · have he : (⟨(k.copy j id).mimicSlot.toNat, hs⟩ : Fin 4) = j := Fin.ext hj
    rw [he]
    exact h.own ht j
  · by_cases hi : i = j
    · subst hi
      simp [copy]
    · simpa [copy, hi] using h.copied ht i

theorem become_stocked (h : k.Stocked m₀) (hf : k.transformed = false) (t : Kit) :
    (k.become t).Stocked m₀ :=
  ⟨nofun, nofun, fun _ _ => UInt8.le_refl 5, fun _ => h.own hf⟩

theorem unmimic_stocked (h : k.Stocked m₀) (hf : k.transformed = false) :
    k.unmimic.Stocked m₀ := by
  unfold unmimic
  split_ifs with hs
  · refine ⟨fun ht i => ?_, fun _ h' => absurd h' (show ¬ (0xFF : UInt8).toNat < 4 by decide), fun ht => ?_, fun ht => ?_⟩
    · by_cases hi : i = ⟨k.mimicSlot.toNat, hs⟩
      · subst hi
        simpa using h.mimicked hf hs
      · simpa [hi] using h.own hf i
    · exact absurd (hf.symm.trans ht) nofun
    · exact absurd (hf.symm.trans ht) nofun
  · exact h

theorem leave_stocked (h : k.Stocked m₀) : k.unmimic.untransform.Stocked m₀ := by
  have ht : k.unmimic.transformed = k.transformed := by
    unfold unmimic
    split_ifs <;> rfl
  unfold untransform
  rw [ht]
  cases hf : k.transformed with
  | false =>
    rw [if_neg Bool.false_ne_true]
    exact unmimic_stocked h hf
  | true =>
    rw [if_pos rfl]
    have hm : k.unmimic.origMoves = k.origMoves ∧ k.unmimic.origPp = k.origPp ∧
        (k.unmimic.mimicSlot = 0xFF ∨ ¬ k.unmimic.mimicSlot.toNat < 4) := by
      unfold unmimic
      split_ifs with hs
      · exact ⟨rfl, rfl, .inl rfl⟩
      · exact ⟨rfl, rfl, .inr hs⟩
    obtain ⟨hmoves, hpp, hslot⟩ := hm
    refine ⟨fun _ j => ?_, fun _ hs => ?_, nofun, nofun⟩
    · have hj := h.kept hf j
      rw [← hmoves, ← hpp] at hj
      exact hj
    · rcases hslot with hslot | hslot
      · exact absurd hs (by rw [hslot]; decide)
      · exact absurd hs hslot

end Kit

namespace Duel

variable (d : Duel) {slot : UInt8}

/-- A slot forced by a charge or a thrash lock still has PP when it is spent. -/
def LockPaid (slot : UInt8) : Prop :=
  (d.user.chargingSlot ≠ 0xFF ∨ d.user.thrashSlot ≠ 0xFF) →
    ∀ j, d.spends slot = some j → d.user.pp j ≠ 0

/-- Without a lock the spent slot is the submitted one, whose PP was checked. -/
theorem spends_unlocked {j : Fin 4} (hc : d.user.chargingSlot = 0xFF)
    (ht : d.user.thrashSlot = 0xFF) (h : d.spends slot = some j) : d.user.pp j ≠ 0 := by
  unfold spends at h
  cases hr : d.chosenMove slot with
  | none => rw [hr] at h; cases h
  | some r =>
    rw [hr] at h
    cases hp : d.preMove with
    | error f => rw [hp] at h; cases h
    | ok p =>
      obtain ⟨go, d₁⟩ := p
      rw [hp] at h
      cases go with
      | false => cases h
      | true =>
        dsimp only at h
        split_ifs at h with hs
        obtain ⟨_, hlt, hpp⟩ := d.chosenMove_named hr (Bool.eq_false_iff.mpr hs)
        -- the status checks leave the locks alone
        have hv : d₁.user.vital = d.user.vital := by
          rcases preMove_cases d hp with he | ⟨hgo, _⟩
          · exact congrArg Vitals.user he
          · cases hgo
        have hc₁ : d₁.user.chargingSlot = 0xFF := (congrArg Vital.chargingSlot hv).trans hc
        have ht₁ : d₁.user.thrashSlot = 0xFF := (congrArg Vital.thrashSlot hv).trans ht
        unfold spentSlot releaseCharge thrashLock at h
        simp only [hc₁, ht₁, ne_eq, not_true_eq_false, if_false] at h
        split_ifs at h with hb
        cases h
        exact hpp

theorem spends_paid {j : Fin 4} (hl : d.LockPaid slot) (h : d.spends slot = some j) :
    d.user.pp j ≠ 0 := by
  by_cases hlock : d.user.chargingSlot ≠ 0xFF ∨ d.user.thrashSlot ≠ 0xFF
  · exact hl hlock j h
  · obtain ⟨hc, ht⟩ := not_or.mp hlock
    exact d.spends_unlocked (not_not.mp hc) (not_not.mp ht) h

theorem paidKit_stocked {m₀ : BattlePoke} (hl : d.LockPaid slot) (h : d.user.kit.Stocked m₀) :
    (d.paidKit slot).Stocked m₀ := by
  unfold paidKit
  cases hs : d.spends slot with
  | none => exact h
  | some j => exact Kit.spend_stocked h (d.spends_paid hl hs)

theorem paidKit_moves : (d.paidKit slot).moves = d.user.moves := by
  unfold paidKit
  cases d.spends slot <;> rfl

theorem reworked_stocked {m₀ : BattlePoke} {k k' : Kit} (hr : d.Reworked slot k k')
    (hm : k.moves = d.user.moves) (h : k.Stocked m₀) : k'.Stocked m₀ := by
  cases hr with
  | same => exact h
  | retype c hc hx => exact ⟨h.own, h.mimicked, h.copied, h.kept⟩
  | copy j id mv hmv he hs =>
    exact Kit.copy_stocked h id (by rw [hm]; exact mimic_id hmv he)
  | become mv hmv he hf => exact Kit.become_stocked h hf _

end Duel

/-- Every slot of the party is stocked from the loaded one. -/
def BattleParty.Stocked (p p₀ : BattleParty) : Prop := ∀ i, (p.mons i).kit.Stocked (p₀.mons i)

namespace BattleParty

variable {p₀ p q : BattleParty}

theorem setActiveMon_stocked {m : BattlePoke} (h : p.Stocked p₀)
    (hm : m.kit.Stocked (p₀.mons p.active)) : (p.setActiveMon m).Stocked p₀ := by
  intro i
  unfold setActiveMon
  dsimp only
  by_cases hi : i = p.active
  · subst hi
    rw [Function.update_self]
    exact hm
  · rw [Function.update_of_ne hi]
    exact h i

theorem step_stocked {moves : List MoveCall} {s : Side}
    (hl : ∀ x ∈ moves, x.duel.LockPaid x.slot) (hs : PartyStep moves s p q)
    (h : p.Stocked p₀) : q.Stocked p₀ := by
  cases hs with
  | hold m fx hm => exact setActiveMon_stocked h (hm ▸ h p.active)
  | move x hx _ hu m fx hr =>
    have hk : x.duel.user.kit.Stocked (p₀.mons p.active) := hu ▸ h p.active
    exact setActiveMon_stocked h
      (x.duel.reworked_stocked hr x.duel.paidKit_moves (x.duel.paidKit_stocked (hl x hx) hk))
  | switch i _ _ =>
    refine setActiveMon_stocked h ?_
    rw [clearVolatile_kit]
    exact Kit.leave_stocked (h p.active)

end BattleParty

namespace Engine

/-- The condition on a call: no party is loaded, and no lock forces a slot without PP. -/
def LocksPaid (e : Engine) (c : Call) : Prop :=
  (∀ pty, c ≠ .replaceOpponent pty) ∧ ∀ x ∈ e.callMoves c, x.duel.LockPaid x.slot

theorem call_pp_stocked {e₀ e e' : Engine} {c : Call} (h : e.call c = .ok e') (hl : e.LocksPaid c)
    (hs : ∀ s, (e.p s).Stocked (e₀.p s)) : ∀ s, (e'.p s).Stocked (e₀.p s) := by
  intro s
  exact (call_steps e s h fun _ => hl.1).invariant
    (fun _ _ hstep hp => BattleParty.step_stocked hl.2 hstep hp) (hs s)

theorem initBattlePoke_untouched (src : Gen1Pokemon) (nick : Fin 11 → UInt8) (gen : UInt8) :
    (initBattlePokeFromSave src nick gen).transformed = false ∧
      (initBattlePokeFromSave src nick gen).mimicSlot = 0xFF := by
  unfold initBattlePokeFromSave
  dsimp only
  split_ifs <;> exact ⟨rfl, rfl⟩

theorem untouched_stocked {m : BattlePoke} (ht : m.transformed = false) (hs : m.mimicSlot = 0xFF) :
    m.kit.Stocked m := by
  refine ⟨fun _ j => .inl ⟨rfl, UInt8.le_refl _⟩, fun _ h => ?_, fun h => ?_, fun h => ?_⟩
  · have hs' : m.kit.mimicSlot = 0xFF := hs
    exact absurd h (by rw [hs']; decide)
  · exact absurd (ht.symm.trans h) nofun
  · exact absurd (ht.symm.trans h) nofun

theorem initSide_stocked (pty : Gen1Party) (gen : UInt8) :
    (initSide pty gen).heal.Stocked (initSide pty gen).heal := by
  intro i
  unfold BattleParty.heal initSide
  dsimp only
  split_ifs
  · obtain ⟨ht, hs⟩ := initBattlePoke_untouched (pty.mons i) (pty.nicknames i) gen
    exact untouched_stocked ht hs
  · exact ⟨fun _ _ => .inl ⟨rfl, UInt8.le_refl _⟩, fun _ _ => .inl ⟨rfl, UInt8.le_refl _⟩,
      nofun, nofun⟩

theorem start_stocked (e₀ : Engine) (p1 p2 : Gen1Party) (seed : UInt32) (gen : UInt8) (s : Side) :
    ((e₀.start p1 p2 seed gen).heal.p s).Stocked ((e₀.start p1 p2 seed gen).heal.p s) := by
  cases s
  · exact initSide_stocked p1 gen
  · exact initSide_stocked p2 gen

end Engine

/-- The PP on show: a slot with its own move is within the PP it was loaded with, and one that
Mimic or Transform filled is within 5. -/
def BattlePoke.PpWithin (m m₀ : BattlePoke) : Prop :=
  ∀ j, m.moves j = m₀.moves j ∧ m.pp j ≤ m₀.pp j ∨
    m.pp j ≤ 5 ∧ (m.transformed = true ∨ m₀.moves j = mimicId)

theorem BattlePoke.PpWithin.le_five {m m₀ : BattlePoke} (h : m.PpWithin m₀) {j : Fin 4}
    (hp : m₀.pp j = 5) : m.pp j ≤ 5 := by
  rcases h j with ⟨_, hj⟩ | ⟨hj, _⟩
  · exact hp ▸ hj
  · exact hj

theorem stocked_within {m m₀ : BattlePoke} (h : m.kit.Stocked m₀) : m.PpWithin m₀ := by
  intro j
  cases hf : m.transformed with
  | false =>
    rcases h.own hf j with hj | ⟨hp, hm⟩
    · exact .inl hj
    · exact .inr ⟨hp, .inr hm⟩
  | true => exact .inr ⟨h.copied hf j, .inl rfl⟩

/-- In a battle of healed parties whose locks never force a slot without PP, no slot shows more
than it was loaded with, and no move is paid for from an empty slot. -/
theorem pp_never_wraps {e₀ e : Engine} {p1 p2 : Gen1Party} {seed : UInt32} {gen : UInt8}
    (h : Reach Engine.call Engine.LocksPaid (e₀.start p1 p2 seed gen).heal e) :
    (∀ s i, ((e.p s).mons i).PpWithin (((e₀.start p1 p2 seed gen).heal.p s).mons i)) ∧
      ∀ c, e.LocksPaid c → ∀ x ∈ e.callMoves c, ∀ j,
        x.duel.spends x.slot = some j → x.duel.user.pp j ≠ 0 := by
  have hs := h.invariant
    (P := fun e => ∀ s, (e.p s).Stocked ((e₀.start p1 p2 seed gen).heal.p s))
    (fun _ _ _ hi hc hst => Engine.call_pp_stocked hst hc hi) (Engine.start_stocked e₀ p1 p2 seed gen)
  exact ⟨fun s i => stocked_within (hs s i),
    fun c hc x hx j hj => x.duel.spends_paid (hc.2 x hx) hj⟩

/-- Both sides use a move, slot by slot. -/
def exchanges (slots : List (UInt8 × UInt8)) : List Engine.Call :=
  slots.flatMap fun t => [.submitAction .zero 0 t.1, .submitAction .one 0 t.2, .executeTurn]

theorem exchanges_keep (slots : List (UInt8 × UInt8)) :
    ∀ c ∈ exchanges slots, ∀ pty, c ≠ Engine.Call.replaceOpponent pty := by
  intro c hc pty he
  obtain ⟨t, _, ht⟩ := List.mem_flatMap.mp hc
  simp [he] at ht

theorem submitAction_paid (e : Engine) (s : Side) (actionType index : UInt8) :
    e.LocksPaid (.submitAction s actionType index) :=
  ⟨nofun, fun _ hx => absurd hx List.not_mem_nil⟩

theorem locksPaid_of_unlocked {e : Engine} {c : Engine.Call} (hc : ∀ pty, c ≠ .replaceOpponent pty)
    (h : (e.callMoves c).all (fun x => x.duel.user.chargingSlot = 0xFF ∧
      x.duel.user.thrashSlot = 0xFF) = true) : e.LocksPaid c := by
  refine ⟨hc, fun x hx hl => ?_⟩
  have hu : x.duel.user.chargingSlot = 0xFF ∧ x.duel.user.thrashSlot = 0xFF := by
    simpa using List.all_eq_true.mp h x hx
  rcases hl with hl | hl
  · exact absurd hu.1 hl
  · exact absurd hu.2 hl

/-- A run of one turn of Tackle against Splash. -/
theorem pp_never_wraps_tackle :
    ∃ e, play Engine.call
        (Engine.fresh.start (soloParty 0x99 33 0) (soloParty 0x22 150 0) 7 3).heal
        (exchanges [(0, 0)]) = .ok e ∧
      (∀ s i, ((e.p s).mons i).PpWithin (((Engine.fresh.start (soloParty 0x99 33 0)
        (soloParty 0x22 150 0) 7 3).heal.p s).mons i)) ∧
      ∀ c, e.LocksPaid c → ∀ x ∈ e.callMoves c, ∀ j,
        x.duel.spends x.slot = some j → x.duel.user.pp j ≠ 0 := by
  have hok : (play Engine.call
      (Engine.fresh.start (soloParty 0x99 33 0) (soloParty 0x22 150 0) 7 3).heal
      (exchanges [(0, 0)])).toOption.isSome = true := by decide +kernel
  cases hp : play Engine.call
      (Engine.fresh.start (soloParty 0x99 33 0) (soloParty 0x22 150 0) 7 3).heal
      (exchanges [(0, 0)]) with
  | error f => simp [hp, Except.toOption] at hok
  | ok e =>
    refine ⟨e, rfl, pp_never_wraps (Reach.of_play ?_ hp)⟩
    refine ⟨submitAction_paid .., fun t ht => ⟨submitAction_paid .., fun u hu =>
      ⟨?_, fun _ _ => trivial⟩⟩⟩
    cases ht
    cases hu
    exact locksPaid_of_unlocked (by rintro pty ⟨⟩) (by decide +kernel)

/-- A healed mon that knows Sky Attack in every slot, against one that splashes. -/
def skyAttack : Engine :=
  (Engine.fresh.start (soloParty 0x99 143 0) (soloParty 0x22 150 0) 7 3).heal

/-- The battle after `n` turns in which both sides used their first slot. -/
def glowing (n : Nat) : Engine :=
  { skyAttack with
    p := fun s => (skyAttack.p s).setActiveMon (match s with
      | .zero =>
        { (skyAttack.p s).activeMon with
          pp := Function.update (fun _ => 5) 0 (5 - UInt8.ofNat n)
          chargingSlot := 0, lastMoveIdx := 0 }
      | .one =>
        { (skyAttack.p s).activeMon with
          pp := Function.update (fun _ => 40) 0 (40 - UInt8.ofNat n), lastMoveIdx := 0 })
    turn := UInt16.ofNat n }

theorem glowing_first :
    (play Engine.call skyAttack (exchanges [(0, 0)])).toOption = some (glowing 1) := by
  decide +kernel

theorem glowing_next : ∀ n : Fin 5, 1 ≤ n.val →
    (play Engine.call (glowing n.val) (exchanges [(0, 0)])).toOption = some (glowing (n.val + 1)) := by
  decide +kernel

/-- Any other slot is forced back to the charged one. -/
theorem glowing_forced : (play Engine.call (glowing 5) (exchanges [(1, 0)])).toOption.map
    (fun e => ((e.p .zero).mons 0).pp 0) = some 255 := by
  decide +kernel

theorem reach_of_toOption {e e' : Engine} {as : List (UInt8 × UInt8)}
    (h : (play Engine.call e (exchanges as)).toOption = some e') :
    Reach Engine.call (fun _ c => ∀ pty, c ≠ .replaceOpponent pty) e e' := by
  obtain ⟨e₁, hp, rfl⟩ := exists_of_map (f := id) (by simpa using h)
  exact .of_play (along_of_mem (fun _ => exchanges_keep _) _) hp

theorem glowing_reached (n : Nat) (h : n < 5) :
    Reach Engine.call (fun _ c => ∀ pty, c ≠ .replaceOpponent pty) skyAttack
      (glowing (n + 1)) := by
  induction n with
  | zero => exact reach_of_toOption glowing_first
  | succ n ih =>
    exact (ih (by omega)).trans
      (reach_of_toOption (glowing_next ⟨n + 1, h⟩ (Nat.le_add_left ..)))

/-- Sky Attack spends its five PP while it charges; the sixth turn, submitted with another slot, is
forced back to it and takes the PP below 0. -/
theorem sky_attack_wraps_pp :
    ¬ ∀ e, Reach Engine.call (fun _ c => ∀ pty, c ≠ .replaceOpponent pty) skyAttack e →
      ∀ s i, ((e.p s).mons i).PpWithin ((skyAttack.p s).mons i) := by
  intro h
  obtain ⟨e, hp, hpp⟩ := exists_of_map glowing_forced
  have hr : Reach Engine.call (fun _ c => ∀ pty, c ≠ .replaceOpponent pty) (glowing 5) e :=
    .of_play (along_of_mem (fun _ => exchanges_keep _) _) hp
  have hr := (glowing_reached 4 (by decide)).trans hr
  have hfive : ((skyAttack.p .zero).mons 0).pp 0 = 5 := by decide +kernel
  have hle := (h e hr .zero 0).le_five hfive
  rw [hpp] at hle
  exact absurd hle (by decide)

end MonsterMesh
