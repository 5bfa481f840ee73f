import MonsterMesh.Engine.Banned
import MonsterMesh.Engine.SwitchOut

/-! How a disabled slot comes back: over whole battles, for any actions that are submitted. -/
namespace MonsterMesh

open Fallible

namespace Engine

variable {e e' : Engine} {s : Side} {j : Fin 6} {o : Output}

/-! ### One side's part of a turn -/

/-- The side has submitted a move, and its mon is there to use it. -/
def Moves (e : Engine) (s : Side) : Prop :=
  e.result = .ongoing ∧ (e.p s).activeMon.hp ≠ 0 ∧ e.pendAction s = 0

instance (e : Engine) (s : Side) : Decidable (e.Moves s) := inferInstanceAs (Decidable (_ ∧ _))

/-- The mon of the side acts: it gets to use a move. -/
def acts (e : Engine) (s : Side) : Bool := e.Moves s && (e.duel s true).acts (e.pendIndex s)

/-- The slot it is to use is the disabled one. -/
def serves (e : Engine) (s : Side) : Bool := e.Moves s && (e.duel s true).serves (e.pendIndex s)

/-- The mon of the side uses Disable. -/
def disables (e : Engine) (s : Side) : Bool := e.Moves s && (e.duel s true).disables (e.pendIndex s)

theorem acts_of_serves (h : e.serves s = true) : e.acts s = true := by
  unfold serves at h
  unfold acts
  rw [Bool.and_eq_true] at h ⊢
  exact ⟨h.1, Duel.serves_acts h.2⟩

theorem setParty_own (p : BattleParty) : (e.setParty s p).p s = p := by simp [setParty]

theorem setParty_foe (p : BattleParty) : (e.setParty s p).p s.other = e.p s.other := by
  cases s <;> rfl

theorem absorb_own (d : Duel) : (e.absorb s d).p s = (e.p s).fielded d.user d.userFx := by simp [absorb]

theorem absorb_foe (d : Duel) : (e.absorb s d).p s.other = (e.p s.other).fielded d.target d.targetFx := by
  cases s <;> rfl

/-- What a side's own part of a turn does to its party. -/
inductive OwnPart (e : Engine) (s : Side) (q : BattleParty) : Prop
  | idle (hm : ¬ e.Moves s) (h : q = e.p s)
  | moved (hm : e.Moves s) (d : Duel) (hd : (e.duel s true).useMove (e.pendIndex s) = .ok d)
      (h : q = (e.p s).fielded d.user d.userFx)
  | switched (i : Fin 6) (hi : i ≠ (e.p s).active) (hm : ¬ e.Moves s) (h : q = (e.p s).switchTo i)

theorem stepAction_own (h : e.stepAction s true = .ok (e', o)) : e.OwnPart s (e'.p s) := by
  unfold stepAction at h
  split_ifs at h with h₀ h₁ h₂
  · cases h
    exact .idle (fun hm => h₀.elim (fun h => h hm.1) hm.2.1) rfl
  · have hidle : ¬ e.Moves s := fun hm => absurd (h₁.symm.trans hm.2.2) (by decide)
    split at h
    · cases h
      exact .idle hidle rfl
    · rename_i i hi
      cases h
      exact .switched i (switchTarget_cases hi).2 hidle (setParty_own _)
  · obtain ⟨d, hd, h⟩ := map_eq_ok.mp h
    cases h
    obtain ⟨hr, hp⟩ := not_or.mp h₀
    exact .moved ⟨not_not.mp hr, hp, h₂⟩ d hd (absorb_own d)
  · cases h
    exact .idle (fun hm => h₂ hm.2.2) rfl

/-- What it does to the party of the other side. -/
inductive FoePart (e : Engine) (s : Side) (q : BattleParty) : Prop
  | idle (h : q = e.p s.other)
  | moved (hm : e.Moves s) (d : Duel) (hd : (e.duel s true).useMove (e.pendIndex s) = .ok d)
      (h : q = (e.p s.other).fielded d.target d.targetFx)

theorem stepAction_foe (h : e.stepAction s true = .ok (e', o)) : e.FoePart s (e'.p s.other) := by
  unfold stepAction at h
  split_ifs at h with h₀ h₁ h₂
  · cases h
    exact .idle rfl
  · split at h
    · cases h
      exact .idle rfl
    · cases h
      exact .idle (setParty_foe _)
  · obtain ⟨d, hd, h⟩ := map_eq_ok.mp h
    cases h
    obtain ⟨hr, hp⟩ := not_or.mp h₀
    exact .moved ⟨not_not.mp hr, hp, h₂⟩ d hd (absorb_foe d)
  · cases h
    exact .idle rfl

/-- The parts of a turn, each with the state it is played in. -/
def parts (e : Engine) : Call → List (Side × Engine)
  | .executeTurn =>
    if e.ready then
      (e.firstSide.1, e.firstSide.2) ::
        match e.firstSide.2.stepAction e.firstSide.1 true with
        | .ok (e', _) => [(e.firstSide.1.other, e')]
        | .error _ => []
    else []
  | _ => []

end Engine

/-! ### The watch on a mon -/

/-- The turns of mon `j` of side `s` since the watch began: those it acted in, those in which its slot was
the disabled one, and whether it has left the field. -/
structure Watch where
  engine : Engine
  (acted served : ℕ)
  left : Bool

namespace Watch

variable (s : Side) (j : Fin 6)

def mon (w : Watch) : BattlePoke := (w.engine.p s).mons j

/-- The mon is on the field. -/
def Out (e : Engine) : Prop := (e.p s).active = j

instance (e : Engine) : Decidable (Out s j e) := inferInstanceAs (Decidable (_ = _))

/-- After a part of side `x.1` in state `x.2` that left `e`. -/
def part (w : Watch) (x : Side × Engine) : Watch :=
  { w with
    acted := w.acted + if x.1 = s ∧ Out s j x.2 ∧ x.2.acts s then 1 else 0
    served := w.served + if x.1 = s ∧ Out s j x.2 ∧ x.2.serves s then 1 else 0 }

def step (w : Watch) (c : Engine.Call) : Except Fault Watch :=
  (fun e => { (w.engine.parts c).foldl (part s j) w with engine := e, left := w.left || !Out s j e }) <$>
    w.engine.call c

instance (c : Engine.Call) : Decidable (Engine.Keeps s c) :=
  match c with
  | .replaceOpponent pty => decidable_of_iff (s ≠ .one) ⟨fun h hs => absurd hs h, fun h hs => h hs pty rfl⟩
  | .submitAction .. | .executeTurn | .autoReplaceIfFainted _ | .forfeit _ => isTrue fun _ _ => nofun

/-- The mon stays in its party, and Disable does not hit it. -/
def Spared (w : Watch) (c : Engine.Call) : Prop :=
  Engine.Keeps s c ∧ ∀ x ∈ w.engine.parts c, x.1 = s.other → Out s j x.2 → x.2.disables s.other = false

instance (w : Watch) (c : Engine.Call) : Decidable (Spared s j w c) := inferInstanceAs (Decidable (_ ∧ _))

/-- In a call the mon enters with a slot disabled, that slot is the one it is to use when it acts. -/
def Serving (w : Watch) (c : Engine.Call) : Prop :=
  0 < (w.mon s j).disabledTurns →
    ∀ x ∈ w.engine.parts c, x.1 = s → Out s j x.2 → x.2.acts s = true → x.2.serves s = true

instance (w : Watch) (c : Engine.Call) : Decidable (Serving s j w c) :=
  inferInstanceAs (Decidable (_ → _))

variable {s : Side} {j : Fin 6} {t : ℕ} {e e' : Engine} {w w' : Watch} {o : Output}

/-- The term of a mon that was banned for `t` turns: what is left of it in state `e` and what was served make
up the whole. -/
structure Term (s : Side) (j : Fin 6) (t : ℕ) (e : Engine) (w : Watch) : Prop where
  acted : w.served ≤ w.acted
  left : ((e.p s).mons j).Usable ∨ Out s j e ∧ w.left = false ∧ 0 < ((e.p s).mons j).disabledTurns ∧
    ((e.p s).mons j).disabledTurns.toNat + w.served = t
  freed : Out s j e → w.left = false → ((e.p s).mons j).Usable → w.served = t

namespace Term

theorem same (h : Term s j t e w) (ha : (e'.p s).active = (e.p s).active)
    (hb : ((e'.p s).mons j).ban = ((e.p s).mons j).ban) : Term s j t e' w := by
  have hslot : ((e'.p s).mons j).disabledSlot = ((e.p s).mons j).disabledSlot := congrArg Prod.fst hb
  have hturns : ((e'.p s).mons j).disabledTurns = ((e.p s).mons j).disabledTurns := congrArg Prod.snd hb
  refine ⟨h.acted, ?_, ?_⟩
  · have hleft := h.left
    unfold Out BattlePoke.Usable at hleft ⊢
    rwa [ha, hslot, hturns]
  · have hfreed := h.freed
    unfold Out BattlePoke.Usable at hfreed ⊢
    rwa [ha, hslot, hturns]

/-- A mon that leaves the field is free; one that was away stays so. -/
theorem switch (h : Term s j t e w) (hout : w.left = false → Out s j e) {i : Fin 6}
    (hi : i ≠ (e.p s).active) (hp : e'.p s = (e.p s).switchTo i) : Term s j t e' w := by
  have hactive : (e'.p s).active = i := by rw [hp]; rfl
  have husable : ((e'.p s).mons j).Usable := by
    rw [hp]
    unfold BattleParty.switchTo BattleParty.setActiveMon
    dsimp only
    by_cases hj : j = (e.p s).active
    · subst hj
      rw [Function.update_self]
      exact clearVolatile_usable _
    · rw [Function.update_of_ne hj]
      exact h.left.resolve_right fun hx => hj hx.1.symm
  refine ⟨h.acted, .inl husable, fun ho hl => ?_⟩
  exact absurd (ho.symm.trans hactive) (fun hx => hi (hx ▸ (hout hl).symm))

/-- One more turn served. -/
theorem serve (h : Term s j t e w) (ho : Out s j e) (hn : 0 < ((e.p s).mons j).disabledTurns)
    (ha : (e'.p s).active = (e.p s).active)
    (hb : ((e'.p s).mons j).ban = serveTurn ((e.p s).mons j).ban) :
    Term s j t e' { w with acted := w.acted + 1, served := w.served + 1 } := by
  have hslot : ((e'.p s).mons j).disabledSlot =
      if ((e.p s).mons j).disabledTurns - 1 = 0 then 0xFF else ((e.p s).mons j).disabledSlot :=
    congrArg Prod.fst hb
  have hturns : ((e'.p s).mons j).disabledTurns = ((e.p s).mons j).disabledTurns - 1 := congrArg Prod.snd hb
  have hone : (1 : UInt8) ≤ ((e.p s).mons j).disabledTurns := by
    rw [UInt8.le_iff_toNat_le]
    rw [UInt8.lt_iff_toNat_lt] at hn
    exact hn
  have hnat : (((e.p s).mons j).disabledTurns - 1).toNat + 1 = ((e.p s).mons j).disabledTurns.toNat := by
    rw [UInt8.toNat_sub_of_le _ _ hone]
    rw [UInt8.le_iff_toNat_le] at hone
    have h₁ : (1 : UInt8).toNat = 1 := rfl
    omega
  have hbanned : ¬ ((e.p s).mons j).Usable := by
    rintro ⟨hz, -⟩
    rw [hz] at hn
    exact absurd hn (by decide)
  obtain ⟨-, hl, -, hsum⟩ := h.left.resolve_left hbanned
  have hserved := h.acted
  by_cases hz : ((e.p s).mons j).disabledTurns - 1 = 0
  · rw [hz] at hnat hturns
    rw [if_pos hz] at hslot
    have hend : w.served + 1 = t := by
      rw [← hnat] at hsum
      have h₀ : (0 : UInt8).toNat = 0 := rfl
      omega
    exact ⟨Nat.succ_le_succ hserved, .inl ⟨hturns, hslot⟩, fun _ _ _ => hend⟩
  · have hpos : 0 < ((e'.p s).mons j).disabledTurns := by
      rw [hturns]
      exact UInt8.pos_iff_ne_zero.mpr hz
    have hsum' : ((e'.p s).mons j).disabledTurns.toNat + (w.served + 1) = t := by
      rw [hturns]
      omega
    refine ⟨Nat.succ_le_succ hserved, .inr ⟨ha.trans ho, hl, hpos, hsum'⟩, fun _ _ hu => ?_⟩
    exact absurd (hturns.symm.trans hu.1) hz

/-- A turn that serves nothing. -/
theorem wait (h : Term s j t e w) (n : ℕ) : Term s j t e { w with acted := w.acted + n } :=
  ⟨h.acted.trans (Nat.le_add_right ..), h.left, h.freed⟩

end Term

theorem fielded_ban {p : BattleParty} {m : BattlePoke} {fx : FieldFx} :
    ((p.fielded m fx).mons j).ban = if j = p.active then m.ban else (p.mons j).ban := by
  unfold BattleParty.fielded BattleParty.setActiveMon
  dsimp only
  by_cases hj : j = p.active
  · subst hj
    rw [Function.update_self, if_pos rfl]
  · rw [Function.update_of_ne hj, if_neg hj]

theorem part_own (h : Term s j t e w) (hout : w.left = false → Out s j e)
    (hst : e.stepAction s true = .ok (e', o)) : Term s j t e' (part s j w (s, e)) := by
  have hidle (hm : ¬ e.Moves s) : part s j w (s, e) = w := by
    have ha : e.acts s = false := by
      unfold Engine.acts
      rw [decide_eq_false hm, Bool.false_and]
    have hs : e.serves s = false := by
      unfold Engine.serves
      rw [decide_eq_false hm, Bool.false_and]
    unfold part
    simp only [ha, hs, Bool.false_eq_true, and_false, if_false, Nat.add_zero]
  cases Engine.stepAction_own hst with
  | idle hm hp =>
    rw [hidle hm]
    exact h.same (congrArg BattleParty.active hp) (by rw [hp])
  | switched i hi hm hp =>
    rw [hidle hm]
    exact h.switch hout hi hp
  | moved hm d hd hp =>
    have hactive : (e'.p s).active = (e.p s).active := by rw [hp]; rfl
    have hban := (Duel.useMove_bans hd).1
    have hserves : e.serves s = (e.duel s true).serves (e.pendIndex s) := by
      unfold Engine.serves
      rw [decide_eq_true hm, Bool.true_and]
    rw [← hserves] at hban
    by_cases hs : Out s j e ∧ e.serves s = true
    · obtain ⟨ho, hs⟩ := hs
      have hcount : part s j w (s, e) = { w with acted := w.acted + 1, served := w.served + 1 } := by
        unfold part
        simp only [ho, hs, Engine.acts_of_serves hs, and_self, if_true]
      rw [hcount]
      rw [if_pos hs] at hban
      have ho' : j = (e.p s).active := ho.symm
      have hmon : (e.duel s true).user = (e.p s).mons j := congrArg (e.p s).mons ho
      refine h.serve ho ?_ hactive ?_
      · rw [← hmon]
        exact Duel.serves_banned (hserves ▸ hs)
      · rw [hp, fielded_ban, if_pos ho', hban, hmon]
    · have hcount : part s j w (s, e) = { w with acted := (part s j w (s, e)).acted } := by
        unfold part
        simp only [true_and, hs, if_false, Nat.add_zero]
      have hacted : (part s j w (s, e)).acted =
          w.acted + if Out s j e ∧ e.acts s = true then 1 else 0 := by
        unfold part
        simp only [true_and]
      rw [hcount, hacted]
      refine (h.same hactive ?_).wait _
      rw [hp, fielded_ban]
      split
      · rename_i hj
        have ho : Out s j e := hj.symm
        have hmon : (e.duel s true).user = (e.p s).mons j := congrArg (e.p s).mons ho
        rw [hban, if_neg fun hx => hs ⟨ho, hx⟩, hmon]
      · rfl

theorem other_ne : s.other ≠ s := by cases s <;> decide

theorem part_other (x : Engine) : part s j w (s.other, x) = w := by
  unfold part
  simp only [other_ne, false_and, if_false, Nat.add_zero]

theorem part_foe (h : Term s j t e w) (hd : Out s j e → e.disables s.other = false)
    (hst : e.stepAction s.other true = .ok (e', o)) : Term s j t e' w := by
  have hfoe := Engine.stepAction_foe hst
  rw [s.other_other] at hfoe
  cases hfoe with
  | idle hp =>
    rw [s.other_other] at hp
    exact h.same (congrArg BattleParty.active hp) (by rw [hp])
  | moved hm d hu hp =>
    rw [s.other_other] at hp
    refine h.same (by rw [hp]; rfl) ?_
    rw [hp, fielded_ban]
    split
    · rename_i hj
      have hdis : (e.duel s.other true).disables (e.pendIndex s.other) = false := by
        have hx := hd hj.symm
        unfold Engine.disables at hx
        rwa [decide_eq_true hm, Bool.true_and] at hx
      have hmon : (e.duel s.other true).target = (e.p s).mons j := by
        unfold Engine.duel
        dsimp only
        rw [s.other_other]
        exact congrArg (e.p s).mons hj.symm
      rw [(Duel.useMove_bans hu).2 hdis, hmon]
    · rfl

theorem foe_active (hst : e.stepAction s.other true = .ok (e', o)) : (e'.p s).active = (e.p s).active := by
  have hfoe := Engine.stepAction_foe hst
  rw [s.other_other] at hfoe
  cases hfoe with
  | idle hp =>
    rw [s.other_other] at hp
    rw [hp]
  | moved hm d hu hp =>
    rw [s.other_other] at hp
    rw [hp]
    rfl

theorem endOfTurn_same (side : Side) : ((e.applyEndOfTurn side true).1.p s).active = (e.p s).active ∧
    (((e.applyEndOfTurn side true).1.p s).mons j).ban = ((e.p s).mons j).ban := by
  unfold Engine.applyEndOfTurn Engine.setParty
  dsimp only
  by_cases hs : s = side
  · subst hs
    rw [Function.update_self]
    unfold BattleParty.endOfTurn
    split_ifs
    · exact ⟨rfl, rfl⟩
    · refine ⟨rfl, ?_⟩
      dsimp only
      rw [fielded_ban]
      split
      · rename_i hj
        rw [residual_ban, hj]
        rfl
      · rfl
  · rw [Function.update_of_ne hs]
    exact ⟨rfl, rfl⟩

theorem firstSide_p : e.firstSide.2.p = e.p := by
  unfold Engine.firstSide Engine.pokeActsFirst
  dsimp only
  split_ifs <;> rfl

/-- The two parts of a turn, in either order. -/
theorem turn_term {first : Side} {e₁ e₂ : Engine} {o₁ o₂ : Output} (h : Term s j t e w)
    (hout : w.left = false → Out s j e) (h₁ : e.stepAction first true = .ok (e₁, o₁))
    (h₂ : e₁.stepAction first.other true = .ok (e₂, o₂))
    (hd : ∀ x ∈ [(first, e), (first.other, e₁)], x.1 = s.other → Out s j x.2 → x.2.disables s.other = false) :
    Term s j t e₂ ([(first, e), (first.other, e₁)].foldl (part s j) w) := by
  simp only [List.foldl_cons, List.foldl_nil]
  rcases s.eq_or_eq_other first with hs | hs
  · subst hs
    rw [part_other]
    refine part_foe (part_own h hout h₁) (fun ho => ?_) h₂
    exact hd _ (.tail _ (.head _)) rfl ho
  · subst hs
    have hfoe := part_foe h (fun ho => hd _ (.head _) rfl ho) h₁
    have hout₁ : w.left = false → Out s j e₁ := fun hl => (foe_active h₁).trans (hout hl)
    rw [s.other_other] at h₂ ⊢
    rw [part_other]
    exact part_own hfoe hout₁ h₂

/-- What holds of the watch between the calls. -/
structure Sound (s : Side) (j : Fin 6) (t : ℕ) (w : Watch) : Prop where
  term : Term s j t w.engine w
  out : w.left = false → Out s j w.engine

/-- Whether the mon has left shows at the end of the call. -/
theorem Term.sound (h : Term s j t e w) : Sound s j t { w with engine := e, left := w.left || !Out s j e } where
  term := by
    refine ⟨h.acted, ?_, fun ho hl => h.freed ho (Bool.or_eq_false_iff.mp hl).1⟩
    obtain hu | ⟨ho, hl, hx⟩ := h.left
    · exact .inl hu
    · refine .inr ⟨ho, ?_, hx⟩
      dsimp only
      rw [hl, Bool.false_or, decide_eq_true ho]
      rfl
  out := fun hl => by simpa using (Bool.or_eq_false_iff.mp hl).2

theorem parts_left (l : List (Side × Engine)) : (l.foldl (part s j) w).left = w.left := by
  induction l generalizing w with
  | nil => rfl
  | cons x l ih => exact ih

theorem executeTurn_term {r : Engine × Output} (h : Term s j t e w) (hout : w.left = false → Out s j e)
    (hr : e.executeTurn true = .ok r)
    (hd : ∀ x ∈ e.parts .executeTurn, x.1 = s.other → Out s j x.2 → x.2.disables s.other = false) :
    Term s j t r.1 ((e.parts .executeTurn).foldl (part s j) w) := by
  unfold Engine.executeTurn at hr
  unfold Engine.parts at hd ⊢
  split_ifs at hr with hready
  · rw [if_pos hready] at hd ⊢
    unfold Engine.playTurn at hr
    obtain ⟨⟨e₁, o₁⟩, h₁, hr⟩ := bind_eq_ok.mp hr
    obtain ⟨⟨e₂, o₂⟩, h₂, hr⟩ := bind_eq_ok.mp hr
    cases hr
    rw [h₁] at hd ⊢
    have hfirst : Term s j t e.firstSide.2 w :=
      h.same (by rw [firstSide_p]) (by rw [firstSide_p])
    have hout' : w.left = false → Out s j e.firstSide.2 := by
      unfold Out
      rw [firstSide_p]
      exact hout
    have hplayed := turn_term hfirst hout' h₁ h₂ hd
    obtain ⟨ha₁, hb₁⟩ := endOfTurn_same (s := s) (j := j) (e := e₂) e.firstSide.1
    obtain ⟨ha₂, hb₂⟩ := endOfTurn_same (s := s) (j := j) (e := (e₂.applyEndOfTurn e.firstSide.1 true).1)
      e.firstSide.1.other
    exact (hplayed.same ha₁ hb₁).same ha₂ hb₂
  · cases hr
    rw [if_neg hready]
    exact h

theorem sound_step {c : Engine.Call} (h : Sound s j t w) (hc : w.Spared s j c) (hs : w.step s j c = .ok w') :
    Sound s j t w' := by
  obtain ⟨e', he, hs⟩ := map_eq_ok.mp hs
  subst hs
  have hterm : Term s j t e' ((w.engine.parts c).foldl (part s j) w) := by
    cases c with
    | submitAction side actionType index =>
      cases he
      exact h.term.same rfl rfl
    | forfeit side =>
      cases he
      exact h.term.same rfl rfl
    | executeTurn =>
      obtain ⟨r, hr, he⟩ := map_eq_ok.mp he
      subst he
      exact executeTurn_term h.term h.out hr hc.2
    | replaceOpponent pty =>
      cases he
      cases s with
      | zero => exact h.term.same rfl rfl
      | one => exact absurd rfl (hc.1 rfl pty)
    | autoReplaceIfFainted side =>
      cases he
      change Term s j t (w.engine.autoReplaceIfFainted side true).2.1 w
      unfold Engine.autoReplaceIfFainted
      split_ifs with hp
      · exact h.term
      · split
        · rename_i i hi
          by_cases hside : s = side
          · subst hside
            refine h.term.switch h.out (i := i) ?_ (Engine.setParty_own _)
            rintro rfl
            exact hp (firstAlive_cases hi).2
          · have hother : (w.engine.setParty side ((w.engine.p side).switchTo i)).p s = w.engine.p s :=
              Function.update_of_ne hside ..
            exact h.term.same (by rw [hother]) (by rw [hother])
        · exact h.term
  have hleft := parts_left (s := s) (j := j) (w := w) (w.engine.parts c)
  have hsound := hterm.sound
  rw [hleft] at hsound
  exact hsound

/-! ### Runs -/

theorem start_sound {e : Engine} (s : Side) (h : 0 < ((e.p s).activeMon).disabledTurns) :
    Sound s (e.p s).active (e.p s).activeMon.disabledTurns.toNat ⟨e, 0, 0, false⟩ where
  term := by
    refine ⟨Nat.le_refl _, .inr ⟨rfl, rfl, h, Nat.add_zero _⟩, fun _ _ hu => ?_⟩
    have hz : ((e.p s).activeMon).disabledTurns = 0 := hu.1
    rw [hz] at h
    exact absurd h (by decide)
  out := fun _ => rfl

/-- The slot is usable again exactly when the mon has left the field or served its term. -/
theorem Sound.usable_iff (h : Sound s j t w) : (w.mon s j).Usable ↔ w.left = true ∨ w.served = t := by
  constructor
  · intro hu
    cases hl : w.left with
    | true => exact .inl rfl
    | false => exact .inr (h.term.freed (h.out hl) hl hu)
  · intro hx
    obtain hu | ⟨-, hl, hn, hsum⟩ := h.term.left
    · exact hu
    · obtain hx | hx := hx
      · exact absurd (hl.symm.trans hx) Bool.false_ne_true
      · rw [UInt8.lt_iff_toNat_lt] at hn
        have h₀ : (0 : UInt8).toNat = 0 := rfl
        omega

theorem spared_run {w₀ : Watch} (h₀ : Sound s j t w₀) (hr : Reach (step s j) (Spared s j) w₀ w) :
    Sound s j t w :=
  hr.invariant (fun _ _ _ h hc hs => sound_step h hc hs) h₀

theorem parts_served_le (l : List (Side × Engine)) : w.served ≤ (l.foldl (part s j) w).served := by
  induction l generalizing w with
  | nil => exact Nat.le_refl _
  | cons x l ih =>
    have hone : w.served ≤ (part s j w x).served := Nat.le_add_right ..
    exact hone.trans ih

theorem parts_full {l : List (Side × Engine)} (h : w.acted = w.served)
    (hl : ∀ x ∈ l, x.1 = s → Out s j x.2 → x.2.acts s = true → x.2.serves s = true) :
    (l.foldl (part s j) w).acted = (l.foldl (part s j) w).served := by
  induction l generalizing w with
  | nil => exact h
  | cons x l ih =>
    refine ih ?_ fun y hy => hl y (.tail _ hy)
    have hiff : (x.1 = s ∧ Out s j x.2 ∧ x.2.acts s = true) ↔ (x.1 = s ∧ Out s j x.2 ∧ x.2.serves s = true) :=
      ⟨fun ⟨h₁, h₂, h₃⟩ => ⟨h₁, h₂, hl x (.head _) h₁ h₂ h₃⟩,
        fun ⟨h₁, h₂, h₃⟩ => ⟨h₁, h₂, Engine.acts_of_serves h₃⟩⟩
    unfold part
    simp only [hiff, h]

/-- As long as every turn the mon acts in is served, both counts are the same until it is free. -/
def Full (s : Side) (j : Fin 6) (w : Watch) : Prop := (w.mon s j).Usable ∨ w.acted = w.served

theorem full_step {c : Engine.Call} (h : Sound s j t w) (hf : Full s j w) (hc : w.Spared s j c)
    (hv : w.Serving s j c) (hs : w.step s j c = .ok w') : Full s j w' := by
  have hsound' := sound_step h hc hs
  obtain ⟨e', he, hs⟩ := map_eq_ok.mp hs
  subst hs
  by_cases hu : (w.mon s j).Usable
  · left
    rw [hsound'.usable_iff]
    have hle := parts_served_le (s := s) (j := j) (w := w) (w.engine.parts c)
    obtain hl | hn := h.usable_iff.mp hu
    · exact .inl (by dsimp only; rw [hl, Bool.true_or])
    · obtain hx | ⟨-, -, -, hsum⟩ := hsound'.term.left
      · exact (hsound'.usable_iff.mp hx)
      · refine .inr ?_
        dsimp only at hsum ⊢
        omega
  · right
    obtain ⟨-, -, hn, -⟩ := h.term.left.resolve_left hu
    exact parts_full (hf.resolve_left hu) (hv hn)

theorem full_run {w₀ : Watch} (h₀ : Sound s j t w₀) (hf₀ : Full s j w₀)
    (hr : Reach (step s j) (fun w c => w.Spared s j c ∧ w.Serving s j c) w₀ w) : Sound s j t w ∧ Full s j w :=
  hr.invariant (P := fun w => Sound s j t w ∧ Full s j w)
    (fun _ _ _ h hc hs => ⟨sound_step h.1 hc.1 hs, full_step h.1 h.2 hc.1 hc.2 hs⟩) ⟨h₀, hf₀⟩

end Watch

/-- A mon on the bench has no slot disabled, in every state of every battle. For the one on the field: from
any state in which it has, as long as Disable does not hit it once more, it is usable again exactly when the
mon has left or its served turns make up the term, and served are those turns only in which the slot it was to
use was the disabled one. If every turn it acts in is such a turn, it has at most that many to go. -/
theorem disable_wears_off {start e : Engine} (hstart : start.Opened)
    (he : Reach Engine.call (fun _ _ => True) start e) (s : Side) :
    (∀ j, j.val < (e.p s).count.val → (e.p s).active ≠ j → ((e.p s).mons j).Usable) ∧
    (0 < (e.p s).activeMon.disabledTurns → ∀ w,
      (Reach (Watch.step s (e.p s).active) (Watch.Spared s (e.p s).active) ⟨e, 0, 0, false⟩ w →
        w.served ≤ w.acted ∧ ((w.mon s (e.p s).active).Usable ↔
          w.left = true ∨ w.served = (e.p s).activeMon.disabledTurns.toNat)) ∧
      (Reach (Watch.step s (e.p s).active)
          (fun w c => w.Spared s (e.p s).active c ∧ w.Serving s (e.p s).active c) ⟨e, 0, 0, false⟩ w →
        w.left = true ∨ (e.p s).activeMon.disabledTurns.toNat ≤ w.acted → (w.mon s (e.p s).active).Usable)) := by
  refine ⟨fun j hj hout => ?_, fun hn w => ⟨fun hr => ?_, fun hr hx => ?_⟩⟩
  · have hrested : e.Rested := he.invariant (fun _ _ _ h _ hs => Engine.call_rested hs h)
      fun s i hi => Engine.neutral_rested (hstart.neutral hi)
    have hneutral := (hrested s j hj).2 hout
    exact ⟨hneutral.disabledTurns, hneutral.disabledSlot⟩
  · have hsound := Watch.spared_run (Watch.start_sound s hn) hr
    exact ⟨hsound.term.acted, hsound.usable_iff⟩
  · obtain ⟨hsound, hfull⟩ := Watch.full_run (Watch.start_sound s hn) (.inr rfl) hr
    obtain hu | hcounts := hfull
    · exact hu
    · obtain hu | ⟨-, hl, hleft, hsum⟩ := hsound.term.left
      · exact hu
      · rw [UInt8.lt_iff_toNat_lt] at hleft
        have h₀ : (0 : UInt8).toNat = 0 := rfl
        obtain hx | hle := hx
        · exact absurd (hl.symm.trans hx) Bool.false_ne_true
        · omega

/-! ### The actions that are submitted -/

/-- What the keys can submit for the mon on the field: a slot with PP left that is not disabled, Struggle when
no slot has any, another standing mon, or the flight. -/
def BattleParty.KeyChoice (p : BattleParty) (a : UInt8 × UInt8) : Prop :=
  a.1 = 0 ∧ (a.2 = 0xFE ∧ (¬ ∃ i, p.activeMon.moves i ≠ 0 ∧ 0 < p.activeMon.pp i) ∨
    ∃ i : Fin 4, a.2 = UInt8.ofNat i.val ∧ p.activeMon.moves i ≠ 0 ∧ p.activeMon.pp i ≠ 0 ∧
      ¬ (p.activeMon.disabledSlot = a.2 ∧ 0 < p.activeMon.disabledTurns)) ∨
  a.1 = 1 ∧ (∃ i : Fin 6, a.2 = UInt8.ofNat i.val ∧ 0 < (p.mons i).hp ∧ i ≠ p.active) ∨
  a.1 = 2

instance (p : BattleParty) (a : UInt8 × UInt8) : Decidable (p.KeyChoice a) :=
  inferInstanceAs (Decidable (_ ∨ _ ∨ _))

/-- What the call submits for the side is a choice of the keys or of the computer. -/
def Engine.Offers (e : Engine) (s : Side) : Call → Prop
  | .submitAction side x i => side = s → (e.p s).KeyChoice (x, i) ∨ (x, i) = e.cpuPickAction s
  | _ => True

instance (e : Engine) (s : Side) (c : Engine.Call) : Decidable (e.Offers s c) := by
  unfold Engine.Offers
  split <;> infer_instance

/-- A mon that knows Disable and Splash. -/
def disabler : Gen1Party :=
  { soloParty 0x99 150 0 with
    mons := fun i => { (soloParty 0x99 150 0).mons i with moves := fun k => if k.val = 0 then 50 else 150 } }

def faceDisabler : Engine := Engine.fresh.start (soloParty 0xB0 150 0) disabler 2 3

def firstTurn : List Engine.Call := [.submitAction .zero 0 0, .submitAction .one 0 0, .executeTurn]

/-- Slot 2 of the player is disabled for 4 turns. -/
def banned : Engine := ((play Engine.call faceDisabler firstTurn).toOption).getD faceDisabler

/-- Four turns against Splash. -/
def fourTurns (slot : UInt8) : List Engine.Call :=
  (List.replicate 4 [.submitAction .zero 0 slot, .submitAction .one 0 1, .executeTurn]).flatten

theorem play_banned : play Engine.call faceDisabler firstTurn = .ok banned := by
  obtain ⟨e, he, -⟩ := exists_of_map (x := play Engine.call faceDisabler firstTurn)
    (f := fun _ => ()) (b := ()) (by decide +kernel)
  unfold banned
  rw [he]
  rfl

theorem reach_banned : Reach Engine.call (fun _ _ => True) faceDisabler banned :=
  .of_play (along_of_decide (by decide +kernel)) play_banned

theorem banned_turns : (banned.p .zero).activeMon.disabledTurns = 4 := by decide +kernel

theorem disable_wears_off_fourTurns : ∃ w, play (Watch.step .zero (banned.p .zero).active) ⟨banned, 0, 0, false⟩
    (fourTurns 2) = .ok w ∧ w.acted = 4 ∧ (w.mon .zero (banned.p .zero).active).Usable := by
  obtain ⟨w, hw, hx⟩ := exists_of_map
    (x := play (Watch.step .zero (banned.p .zero).active) ⟨banned, 0, 0, false⟩ (fourTurns 2))
    (f := Watch.acted) (b := 4) (by decide +kernel)
  have hrun : Reach (Watch.step .zero (banned.p .zero).active)
      (fun w c => w.Spared .zero (banned.p .zero).active c ∧ w.Serving .zero (banned.p .zero).active c)
      ⟨banned, 0, 0, false⟩ w := .of_play (along_of_decide (by decide +kernel)) hw
  have hturns : (banned.p .zero).activeMon.disabledTurns.toNat ≤ w.acted := by
    rw [hx, banned_turns]
    decide
  have hopened : faceDisabler.Opened := ⟨Engine.fresh, _, _, 2, 3, .inl rfl⟩
  have hpos : 0 < (banned.p .zero).activeMon.disabledTurns := by
    rw [banned_turns]
    decide
  exact ⟨w, hw, hx, ((disable_wears_off hopened reach_banned .zero).2 hpos w).2 hrun (.inr hturns)⟩

/-- With the slots the keys offer, Disable does not wear off. -/
theorem disable_lasts : ¬ ∀ (start e : Engine) (s : Side) (w : Watch), start.Opened →
    Reach Engine.call (fun _ _ => True) start e → 0 < (e.p s).activeMon.disabledTurns →
    Reach (Watch.step s (e.p s).active) (fun w c => Engine.Keeps s c ∧ w.engine.Offers s c) ⟨e, 0, 0, false⟩ w →
    w.left = false → (e.p s).activeMon.disabledTurns.toNat ≤ w.acted → (w.mon s (e.p s).active).Usable := by
  intro h
  obtain ⟨w, hw, hx⟩ := exists_of_map
    (x := play (Watch.step .zero (banned.p .zero).active) ⟨banned, 0, 0, false⟩ (fourTurns 0))
    (f := fun w => (w.acted, w.left, (w.mon .zero (banned.p .zero).active).disabledTurns))
    (b := (4, false, 4)) (by decide +kernel)
  simp only [Prod.mk.injEq] at hx
  obtain ⟨hacted, hleft, hturns⟩ := hx
  have hrun : Reach (Watch.step .zero (banned.p .zero).active)
      (fun w c => Engine.Keeps .zero c ∧ w.engine.Offers .zero c) ⟨banned, 0, 0, false⟩ w :=
    .of_play (along_of_decide (by decide +kernel)) hw
  have husable := h faceDisabler banned .zero w ⟨Engine.fresh, _, _, 2, 3, .inl rfl⟩ reach_banned
    (by rw [banned_turns]; decide) hrun hleft (by rw [hacted, banned_turns]; decide)
  exact absurd (hturns.symm.trans husable.1) (by decide)

end MonsterMesh
