import MonsterMesh.Engine.Applied

/-! What `useMove` does to the vital signs around its calls of `applyMove`. -/
namespace MonsterMesh

open Fallible

theorem slotAt_eq_ok {α : Type} {arr : Fin 4 → α} {slot : UInt8} {v : α}
    (h : slotAt arr slot = .ok v) : slot.toNat < 4 := by
  unfold slotAt at h
  split_ifs at h with hs
  exact hs

/-- Two-turn moves and Thrash keep the slot they lock, a valid one. -/
structure Vital.Slotted (v w : Vital) : Prop where
  same : w = { v with chargingSlot := w.chargingSlot, thrashSlot := w.thrashSlot }
  charging : w.chargingSlot = 0xFF ∨ w.chargingSlot = v.chargingSlot ∨ w.chargingSlot.toNat < 4
  thrash : w.thrashSlot = 0xFF ∨ w.thrashSlot = v.thrashSlot ∨ w.thrashSlot.toNat < 4

theorem Vital.Slotted.refl (v : Vital) : v.Slotted v := ⟨rfl, .inr (.inl rfl), .inr (.inl rfl)⟩

theorem Vital.Slotted.trans {u v w : Vital} (h₁ : u.Slotted v) (h₂ : v.Slotted w) :
    u.Slotted w := by
  refine ⟨by rw [h₂.same, h₁.same], ?_, ?_⟩
  · rcases h₂.charging with h | h | h
    · exact .inl h
    · exact h ▸ h₁.charging
    · exact .inr (.inr h)
  · rcases h₂.thrash with h | h | h
    · exact .inl h
    · exact h ▸ h₁.thrash
    · exact .inr (.inr h)

/-- The stats a transformed mon takes over, and the ones it keeps for later. -/
def Vital.become (v t : Vital) : Vital :=
  { v with
    transformed := true
    origAtk := v.atk, origDef := v.def', origSpd := v.spd, origSpc := v.spc
    atk := t.atk, def' := t.def', spd := t.spd, spc := t.spc }

namespace Duel

variable (d : Duel) (mv : MoveData)

/-! ### Status checks -/

theorem wakeUp_vitals : d.wakeUp.2.vitals = d.vitals := by
  unfold wakeUp
  split_ifs <;> rfl

theorem shakeOff_vitals : d.shakeOff.2.vitals = d.vitals := by
  unfold shakeOff
  dsimp only
  split_ifs <;> rfl

theorem heldBack_vitals : d.heldBack.2.vitals = d.vitals := by
  unfold heldBack
  split_ifs <;> rfl

/-- The user hits itself for `n` in its confusion. -/
structure HurtItself (d d' : Duel) : Prop where
  worn : d.user.vital.Worn d'.user.vital
  rest : ∃ n, confusionDamage d.user = .ok n ∧ d'.vitals = { d.vitals with
    user := d'.user.vital, truncated := d.out.truncated || decide (65536 ≤ n) }

theorem confusion_cases {go : Bool} {d' : Duel} (h : d.confusion = .ok (go, d')) :
    d'.vitals = d.vitals ∨ go = false ∧ d.HurtItself d' := by
  unfold confusion at h
  split_ifs at h with h₀
  · cases h
    exact .inl rfl
  · dsimp only at h
    split_ifs at h with h₁
    · cases h
      exact .inl rfl
    · obtain ⟨n, hn, h⟩ := bind_eq_ok.mp h
      cases h
      exact .inr ⟨rfl, ⟨rfl, hurt_le _ _⟩, n, hn, rfl⟩

theorem confusionDamage_congr {m m' : BattlePoke} (h : m.vital = m'.vital) :
    confusionDamage m = confusionDamage m' := by
  have hl : m.level = m'.level := congrArg Vital.level h
  have ha : m.atk = m'.atk := congrArg Vital.atk h
  have hd : m.def' = m'.def' := congrArg Vital.def' h
  simp only [confusionDamage, hl, ha, hd]

theorem HurtItself.of_vitals {d d₁ d' : Duel} (hv : d₁.vitals = d.vitals)
    (h : d₁.HurtItself d') : d.HurtItself d' := by
  have hu : d₁.user.vital = d.user.vital := congrArg Vitals.user hv
  have ht : d₁.out.truncated = d.out.truncated := congrArg Vitals.truncated hv
  obtain ⟨hw, n, hn, hr⟩ := h
  exact ⟨hu ▸ hw, n, confusionDamage_congr hu ▸ hn, by rw [hr, hv, ht]⟩

theorem preMove_cases {go : Bool} {d' : Duel} (h : d.preMove = .ok (go, d')) :
    d'.vitals = d.vitals ∨ go = false ∧ d.HurtItself d' := by
  have hw := wakeUp_vitals d
  have hs := shakeOff_vitals d.wakeUp.2
  unfold preMove at h
  dsimp only at h
  split_ifs at h
  · cases hd : d.wakeUp with
    | mk b d₁ =>
      rw [hd] at h hw
      cases h
      exact .inl hw
  · cases hd : d.wakeUp.2.shakeOff with
    | mk b d₁ =>
      rw [hd] at h hs
      cases h
      exact .inl (hs.trans hw)
  · obtain ⟨⟨go', d₁⟩, hc, h⟩ := bind_eq_ok.mp h
    have hb := heldBack_vitals d₁
    rcases confusion_cases _ hc with he | ⟨rfl, hh⟩
    · left
      rw [← hw, ← hs, ← he]
      cases go' with
      | false => cases h; rfl
      | true =>
        simp only [if_true, pure_eq_ok, Except.ok.injEq] at h
        rw [h] at hb
        exact hb
    · cases h
      exact .inr ⟨rfl, hh.of_vitals (hs.trans hw)⟩

/-! ### Up to the call of `applyMove` -/

/-- A move that is not Struggle sits in a real slot and comes from the table. -/
structure FromSlot (gen : UInt8) (r : Ready) : Prop where
  struggle : r.struggle = false
  slot : r.slot.toNat < 4
  listed : ∃ id, mdata gen id = some r.mv

theorem chosenMove_cases {slot : UInt8} {r : Ready} (h : d.chosenMove slot = some r) :
    r.struggle = true ∧ mdata d.gen 165 = some r.mv ∨ FromSlot d.gen r := by
  unfold chosenMove at h
  split_ifs at h with h₀ h₁
  · obtain ⟨mv, hm, rfl⟩ := Option.map_eq_some_iff.mp h
    exact .inl ⟨rfl, hm⟩
  · split at h
    · cases h
    · cases h
  · split at h
    · cases h
    · rename_i mv hm
      cases h
      exact .inr ⟨rfl, h₁, _, hm⟩

theorem slotMove_cases {slot : UInt8} {o : Option Ready} (h : d.slotMove slot = .ok o) :
    slot.toNat < 4 ∧ ∀ r, o = some r → FromSlot d.gen r := by
  obtain ⟨id, hs, h⟩ := bind_eq_ok.mp h
  have hlt := slotAt_eq_ok hs
  cases h
  refine ⟨hlt, fun r hr => ?_⟩
  obtain ⟨mv, hm, rfl⟩ := Option.map_eq_some_iff.mp hr
  exact ⟨rfl, hlt, _, hm⟩

theorem releaseCharge_cases {r : Ready} {o : Option Ready} {d' : Duel} (hr : FromSlot d.gen r)
    (h : d.releaseCharge r = .ok (o, d')) :
    d'.vitals = { d.vitals with user := d'.user.vital } ∧ d.user.vital.Slotted d'.user.vital ∧
      ∀ r', o = some r' → FromSlot d.gen r' := by
  unfold releaseCharge at h
  split_ifs at h
  · obtain ⟨o', ho, h⟩ := bind_eq_ok.mp h
    cases h
    exact ⟨rfl, ⟨rfl, .inl rfl, .inr (.inl rfl)⟩, (slotMove_cases d ho).2⟩
  · cases h
    refine ⟨rfl, .refl _, fun r' he => ?_⟩
    cases he
    exact hr

theorem thrashLock_cases {r : Ready} {o : Option Ready} (hr : FromSlot d.gen r)
    (h : d.thrashLock r = .ok o) : ∀ r', o = some r' → FromSlot d.gen r' := by
  unfold thrashLock at h
  split_ifs at h
  · exact (slotMove_cases d h).2
  · cases h
    intro r' he
    cases he
    exact hr

theorem spendPp_vitals {r : Ready} {d' : Duel} (h : d.spendPp r = .ok d') :
    d'.vitals = d.vitals := by
  unfold spendPp at h
  split_ifs at h
  · cases h
    rfl
  · obtain ⟨_, _, h⟩ := bind_eq_ok.mp h
    obtain ⟨_, _, h⟩ := bind_eq_ok.mp h
    cases h
    rfl

/-- A turn of Bide: the counter runs, and the release empties the store. -/
structure BideTurn (v w : Vitals) : Prop where
  target : v.target.Worn w.target
  rest : w = { v with
      user := { v.user with bideTurns := v.user.bideTurns - 1 } } ∨
    w = { v with
      user := { v.user with bideTurns := 0, bideDamage := 0 }
      target := w.target
      truncated := v.truncated || decide (65536 ≤ v.user.bideDamage.toNat * 2) }

theorem bideTurn_cases : BideTurn d.vitals d.bideTurn.vitals := by
  unfold bideTurn
  dsimp only
  split_ifs with h₀ h₁
  · exact ⟨worn_hurt _ _, .inr (by rw [← show _ = (0 : UInt16) from h₀]; rfl)⟩
  · exact ⟨worn_hurt _ _, .inr (by rw [← show _ = (0 : UInt16) from h₀]; rfl)⟩
  · exact ⟨.refl _, .inl rfl⟩

/-- The first turns of Bide and of two-turn moves. -/
theorem setUp_cases {r : Ready} {o : Option Ready} {d' : Duel} (hr : FromSlot d.gen r)
    (h : d.setUp r = (o, d')) :
    d'.vitals = { d.vitals with user := d'.user.vital } ∧
      ((o = none ∨ o = some r) ∧ d.user.vital.Slotted d'.user.vital ∨
        o = none ∧ d'.user.vital = { d.user.vital with bideTurns := 2, bideDamage := 0 }) := by
  unfold setUp at h
  split_ifs at h
  · cases h
    exact ⟨rfl, .inl ⟨.inl rfl, rfl, .inr (.inr hr.slot), .inr (.inl rfl)⟩⟩
  · cases h
    exact ⟨rfl, .inr ⟨rfl, rfl⟩⟩
  · cases h
    exact ⟨rfl, .inl ⟨.inr rfl, rfl, .inr (.inl rfl), .inr (.inr hr.slot)⟩⟩
  · cases h
    exact ⟨rfl, .inl ⟨.inr rfl, .refl _⟩⟩

/-- The user has only moved its locks. -/
structure Locked (d d' : Duel) : Prop where
  slotted : d.user.vital.Slotted d'.user.vital
  rest : d'.vitals = { d.vitals with user := d'.user.vital }

theorem Locked.of_eq {d d' : Duel} (h : d'.vitals = d.vitals) : Locked d d' := by
  have hu : d'.user.vital = d.user.vital := congrArg Vitals.user h
  exact ⟨hu ▸ .refl _, by rw [h, hu]; rfl⟩

theorem Locked.trans {d d₁ d' : Duel} (h : Locked d d₁) (h' : Locked d₁ d') : Locked d d' :=
  ⟨h.slotted.trans h'.slotted, by rw [h'.rest, h.rest]⟩

theorem Locked.gen {d d' : Duel} (h : Locked d d') : d'.gen = d.gen := congrArg Vitals.gen h.rest

theorem Locked.bideTurns {d d' : Duel} (h : Locked d d') : d'.user.bideTurns = d.user.bideTurns :=
  congrArg Vital.bideTurns h.slotted.same

/-- Every way `useMove` gets to its call of `applyMove`, or returns before it. -/
inductive Begun (d d' : Duel) : Option Ready → Prop
  | struggle {r : Ready} (hm : mdata d.gen 165 = some r.mv) (hs : r.struggle = true)
      (hv : d'.vitals = d.vitals) : Begun d d' (some r)
  | slot {r : Ready} (hr : FromSlot d.gen r) (hb : d.user.bideTurns = 0) (hl : Locked d d') :
      Begun d d' (some r)
  | idle (hl : Locked d d') : Begun d d' none
  | hurt (h : d.HurtItself d') : Begun d d' none
  | bide {d₁ : Duel} (hl : Locked d d₁) (hb : d.user.bideTurns ≠ 0)
      (h : BideTurn d₁.vitals d'.vitals) : Begun d d' none
  | store {d₁ : Duel} (hl : Locked d d₁) (hv : d'.vitals = { d₁.vitals with
      user := { d₁.user.vital with bideTurns := 2, bideDamage := 0 } }) : Begun d d' none

theorem fire_begun {d d₁ d' : Duel} {r : Ready} {o : Option Ready} (hl : Locked d d₁)
    (hr : FromSlot d₁.gen r) (h : d₁.fire r = .ok (o, d')) : Begun d d' o := by
  unfold fire at h
  split_ifs at h with h₀ h₁
  · cases h
    refine .bide hl ?_ (bideTurn_cases d₁)
    rw [← hl.bideTurns]
    exact fun hz => absurd (hz ▸ h₀) (by simp)
  · cases h
    exact .idle (hl.trans (.of_eq rfl))
  · obtain ⟨d₂, hs, h⟩ := bind_eq_ok.mp h
    have hv₂ := spendPp_vitals d₁ hs
    have h₂ : Locked d (d₂.emitMove Gen1Text.use d₂.user.nickname r.mv.name) :=
      hl.trans (.of_eq hv₂)
    have hg : d₂.gen = d₁.gen := congrArg Vitals.gen hv₂
    obtain ⟨hv, hc⟩ := setUp_cases _ (hg ▸ hr) (Except.ok.inj h)
    rcases hc with ⟨ho, hu⟩ | ⟨rfl, hu⟩
    · have hl' : Locked d d' := h₂.trans ⟨hu, hv⟩
      rcases ho with rfl | rfl
      · exact .idle hl'
      · refine .slot (hl.gen ▸ hr) ?_ hl'
        rw [← hl.bideTurns]
        simpa using h₀
    · exact .store h₂ (hu ▸ hv)

theorem slotTurn_begun {d d₁ d' : Duel} {r : Ready} {o : Option Ready} (hl : Locked d d₁)
    (hr : FromSlot d₁.gen r) (h : d₁.slotTurn r = .ok (o, d')) : Begun d d' o := by
  unfold slotTurn at h
  obtain ⟨⟨o₁, d₂⟩, hc, h⟩ := bind_eq_ok.mp h
  obtain ⟨hv, hu, hf⟩ := releaseCharge_cases d₁ hr hc
  have hl₂ : Locked d d₂ := hl.trans ⟨hu, hv⟩
  cases o₁ with
  | none =>
    cases h
    exact .idle hl₂
  | some r₁ =>
    obtain ⟨o₂, ht, h⟩ := bind_eq_ok.mp h
    have hg : d₂.gen = d₁.gen := congrArg Vitals.gen hv
    have hf₂ := thrashLock_cases d₂ (hg ▸ hf r₁ rfl) ht
    cases o₂ with
    | none =>
      cases h
      exact .idle hl₂
    | some r₂ => exact fire_begun hl₂ (hf₂ r₂ rfl) h

theorem beginMove_begun {slot : UInt8} {o : Option Ready} {d' : Duel}
    (h : d.beginMove slot = .ok (o, d')) : Begun d d' o := by
  unfold beginMove at h
  cases hc : d.chosenMove slot with
  | none =>
    rw [hc] at h
    cases h
    exact .idle (.of_eq rfl)
  | some r =>
    rw [hc] at h
    obtain ⟨⟨go, d₁⟩, hp, h⟩ := bind_eq_ok.mp h
    rcases preMove_cases d hp with hv | ⟨rfl, hh⟩
    · have hl : Locked d d₁ := .of_eq hv
      split_ifs at h with h₀ h₁
      · cases h
        exact .idle hl
      · cases h
        rcases chosenMove_cases d hc with ⟨hs, hm⟩ | hf
        · exact .struggle hm hs hv
        · exact absurd h₁ (by simp [hf.struggle])
      · rcases chosenMove_cases d hc with ⟨hs, hm⟩ | hf
        · exact absurd hs h₁
        · exact slotTurn_begun hl (hl.gen ▸ hf) h
    · cases h
      exact .hurt hh

/-! ### After the call of `applyMove` -/

theorem daze_vitals : d.daze.vitals = d.vitals := by
  unfold daze
  split_ifs <;> rfl

theorem thrashTurn_cases : ∃ t, (t = d.user.thrashSlot ∨ t = 0xFF) ∧
    (d.thrashTurn mv).vitals = { d.vitals with user := { d.user.vital with thrashSlot := t } } := by
  unfold thrashTurn
  by_cases h : mv.effect = .thrash ∧ d.user.thrashSlot ≠ 0xFF
  · rw [if_pos h]
    generalize (if 0 < d.user.thrashTurns then d.user.thrashTurns - 1 else d.user.thrashTurns) = n
    dsimp only
    split_ifs
    · exact ⟨0xFF, .inr rfl, (daze_vitals _).trans rfl⟩
    · exact ⟨_, .inl rfl, rfl⟩
  · rw [if_neg h]
    exact ⟨_, .inl rfl, rfl⟩

/-- Counter pays the remembered damage back twice. -/
structure Countered (v w : Vitals) : Prop where
  target : v.target.Worn w.target
  rest : w = { v with
    user := { v.user with lastDamageTaken := 0 }
    target := w.target
    truncated := v.truncated || decide (65536 ≤ v.user.lastDamageTaken.toNat * 2) }

theorem counter_cases :
    (d.counter mv).vitals = d.vitals ∨ Countered d.vitals (d.counter mv).vitals := by
  unfold counter
  dsimp only
  split_ifs
  · exact .inr ⟨worn_hurt _ _, rfl⟩
  · exact .inr ⟨worn_hurt _ _, rfl⟩
  · exact .inl rfl

theorem substitute_cases :
    (d.substitute mv).vitals = { d.vitals with user := (d.substitute mv).user.vital } ∧
      d.user.vital.Worn (d.substitute mv).user.vital := by
  unfold substitute
  dsimp only
  split_ifs with h₀ h₁ h₂ h₃
  · refine ⟨rfl, rfl, ?_⟩
    exact UInt16.sub_le (UInt16.le_of_lt h₂)
  · exact ⟨rfl, .refl _⟩
  · refine ⟨rfl, rfl, ?_⟩
    exact UInt16.sub_le (UInt16.le_of_lt h₃)
  · exact ⟨rfl, .refl _⟩
  · exact ⟨rfl, .refl _⟩

theorem disable_vitals : (d.disable mv).vitals = d.vitals := by
  unfold disable
  dsimp only
  split_ifs <;> rfl

theorem mimic_vitals {r : Ready} {d' : Duel} (h : d.mimic r = .ok d') : d'.vitals = d.vitals := by
  unfold mimic at h
  split_ifs at h
  · split at h
    · obtain ⟨_, _, h⟩ := bind_eq_ok.mp h
      obtain ⟨_, _, h⟩ := bind_eq_ok.mp h
      obtain ⟨_, _, h⟩ := bind_eq_ok.mp h
      obtain ⟨_, _, h⟩ := bind_eq_ok.mp h
      cases h
      rfl
    · cases h
      rfl
  · cases h
    rfl

theorem transform_cases :
    (d.transform mv).vitals = d.vitals ∨ d.user.transformed = false ∧
      (d.transform mv).vitals = { d.vitals with user := d.user.vital.become d.target.vital } := by
  unfold transform
  split_ifs with h
  · exact .inr ⟨by simpa using h.2, rfl⟩
  · exact .inl rfl

end Duel
end MonsterMesh
