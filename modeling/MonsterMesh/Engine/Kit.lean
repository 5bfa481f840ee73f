import MonsterMesh.Engine.Used

/-! What a mon brings to the field (its identity, moves and PP, with the backups of Mimic and
Transform) and what each part of a move does to it. -/
namespace MonsterMesh

open Fallible

structure Kit where
  (species type1 type2 : UInt8)
  (atk def' spd spc spaG3 spdG3 : UInt16)
  (moves pp : Fin 4 → UInt8)
  (mimicSlot mimicOrigMove mimicOrigPp : UInt8)
  transformed : Bool
  (origSpecies origType1 origType2 : UInt8)
  (origAtk origDef origSpd origSpc : UInt16)
  (origMoves origPp : Fin 4 → UInt8)

def BattlePoke.kit (m : BattlePoke) : Kit :=
  { species := m.species, type1 := m.type1, type2 := m.type2
    atk := m.atk, def' := m.def', spd := m.spd, spc := m.spc, spaG3 := m.spaG3, spdG3 := m.spdG3
    moves := m.moves, pp := m.pp
    mimicSlot := m.mimicSlot, mimicOrigMove := m.mimicOrigMove, mimicOrigPp := m.mimicOrigPp
    transformed := m.transformed
    origSpecies := m.origSpecies, origType1 := m.origType1, origType2 := m.origType2
    origAtk := m.origAtk, origDef := m.origDef, origSpd := m.origSpd, origSpc := m.origSpc
    origMoves := m.origMoves, origPp := m.origPp }

/-- The kits of both mons in a duel. -/
structure Kits where
  gen : UInt8
  (user target : Kit)

def Duel.kits (d : Duel) : Kits := { gen := d.gen, user := d.user.kit, target := d.target.kit }

/-- The user takes over the target's kit, and keeps its own for later. -/
def Kit.become (k t : Kit) : Kit :=
  { k with
    transformed := true
    origSpecies := k.species, origType1 := k.type1, origType2 := k.type2
    origAtk := k.atk, origDef := k.def', origSpd := k.spd, origSpc := k.spc
    origMoves := k.moves, origPp := k.pp
    species := t.species, type1 := t.type1, type2 := t.type2
    atk := t.atk, def' := t.def', spd := t.spd, spc := t.spc
    moves := t.moves, pp := fun _ => 5 }

/-- Conversion: the target's types. -/
def Kit.retype (k t : Kit) : Kit := { k with type1 := t.type1, type2 := t.type2 }

/-- One PP of slot `j` is gone. -/
def Kit.spend (k : Kit) (j : Fin 4) : Kit := { k with pp := Function.update k.pp j (k.pp j - 1) }

/-- Slot `j` holds the move `id` with 5 PP, its own move set aside. -/
def Kit.copy (k : Kit) (j : Fin 4) (id : UInt8) : Kit :=
  { k with
    mimicSlot := UInt8.ofNat j.val, mimicOrigMove := k.moves j, mimicOrigPp := k.pp j
    moves := Function.update k.moves j id, pp := Function.update k.pp j 5 }

@[simp] theorem kit_setBoost (m : BattlePoke) (s : Stage) (v : Int8) :
    (m.setBoost s v).kit = m.kit := by
  cases s <;> rfl

@[simp] theorem kit_hurtTimes (m : BattlePoke) (dmg : UInt16) (n : Nat) :
    (m.hurtTimes dmg n).kit = m.kit := by
  induction n generalizing m with
  | zero => rfl
  | succ n ih =>
    simp only [BattlePoke.hurtTimes]
    split
    · rfl
    · rw [ih]
      rfl

namespace Duel

variable (d : Duel) (mv : MoveData)

@[simp] theorem emit_kits (text : String) (name : CStr) : (d.emit text name).kits = d.kits := rfl

theorem setUser_kits {m : BattlePoke} (h : m.kit = d.user.kit) : (d.setUser m).kits = d.kits :=
  congrArg (fun k => ({ d.kits with user := k } : Kits)) h

theorem setTarget_kits {m : BattlePoke} (h : m.kit = d.target.kit) :
    (d.setTarget m).kits = d.kits :=
  congrArg (fun k => ({ d.kits with target := k } : Kits)) h

/-! ### `applyMove` -/

@[simp] theorem userStat_kits (s : Stage) (up : Bool) : (d.userStat s up).kits = d.kits := by
  unfold userStat
  split
  · cases s <;> rfl
  · rfl

@[simp] theorem targetStat_kits (s : Stage) (up : Bool) : (d.targetStat s up).kits = d.kits := by
  unfold targetStat
  split
  · cases s <;> rfl
  · rfl

theorem hitCheck_kits : (d.hitCheck mv).2.kits = d.kits := by
  unfold hitCheck rollHit
  dsimp only
  split_ifs <;> rfl

theorem beforeDamage_kits : (d.beforeDamage mv).2.kits = d.kits := by
  rw [← hitCheck_kits d mv]
  unfold beforeDamage
  dsimp only
  split_ifs <;> rfl

theorem userAfterHit_kits (dmg : UInt16) : (d.userAfterHit mv dmg).kits = d.kits := by
  unfold userAfterHit
  split <;> rfl

theorem targetAfterHit_kits : (d.targetAfterHit mv).kits = d.kits := by
  unfold targetAfterHit
  split
  · dsimp only
    split_ifs <;> rfl
  · split_ifs <;> rfl
  · rfl

theorem recordHit_kits (dmg : UInt16) : (d.recordHit dmg).kits = d.kits := by
  unfold recordHit
  dsimp only
  split_ifs
  · exact targetStat_kits ..
  · rfl
  · exact targetStat_kits ..
  · rfl

theorem landHit_kits {dmg : UInt16} {crit : Bool} {d' : Duel}
    (h : d.landHit mv dmg crit = .ok d') : d'.kits = d.kits := by
  unfold landHit at h
  obtain ⟨d₁, hs, h⟩ := bind_eq_ok.mp h
  cases h
  obtain ⟨o, hs⟩ := sayHits_eq hs
  obtain ⟨g, hg⟩ := hitCount_snd d mv
  have hk : ∀ m, (d.setTarget m).kits = { d.kits with target := m.kit } := fun _ => rfl
  have h₁ : d₁.kits = (d.setTarget (d.target.hurtTimes dmg (d.hitCount mv).1)).kits := by
    rw [hs, hg]
    split_ifs <;> rfl
  rw [recordHit_kits, targetAfterHit_kits, userAfterHit_kits, h₁, hk, kit_hurtTimes]
  rfl

theorem dealDamage_kits {b : Bool} {d' : Duel} (h : d.dealDamage mv = .ok (b, d')) :
    d'.kits = d.kits := by
  unfold dealDamage at h
  split_ifs at h with h₀
  · cases h
    rfl
  · obtain ⟨⟨dmg, crit, d₁⟩, hc, h⟩ := bind_eq_ok.mp h
    obtain ⟨g, hg⟩ := calcDamage_duel d mv hc
    dsimp only at h hg
    split_ifs at h with h₁
    · cases h
      rw [hg]
      rfl
    · obtain ⟨d₂, hs, h⟩ := bind_eq_ok.mp h
      cases h
      rw [landHit_kits d₁ mv hs, hg]
      rfl

theorem fixedDamage_kits {d' : Duel} (h : d.fixedDamage mv = .ok d') : d'.kits = d.kits := by
  unfold fixedDamage at h
  split at h
  · cases h
    rfl
  · cases h
    rfl
  · obtain ⟨v, _, h⟩ := bind_eq_ok.mp h
    cases h
    rfl
  · cases h
    rfl
  · split_ifs at h <;> cases h <;> rfl
  · cases h
    rfl

theorem inflict_kits (st : UInt8) (text : String) : (d.inflict mv st text).kits = d.kits := by
  unfold inflict roll
  dsimp only
  split_ifs <;> rfl

theorem inflictSleep_kits : (d.inflictSleep mv).kits = d.kits := by
  unfold inflictSleep roll
  dsimp only
  split_ifs <;> rfl

theorem inflictConfusion_kits : (d.inflictConfusion mv).kits = d.kits := by
  unfold inflictConfusion roll
  dsimp only
  split_ifs <;> rfl

/-- Conversion is the one effect of the switch that reaches the kit. -/
theorem secondary_kits : (d.secondary mv).kits =
    if mv.effect = .conversion then { d.kits with user := d.user.kit.retype d.target.kit }
    else d.kits := by
  unfold secondary
  cases mv.effect
  case statusPsn => exact inflict_kits ..
  case statusBrn => exact inflict_kits ..
  case statusPar => exact inflict_kits ..
  case statusFrz => exact inflict_kits ..
  case statusSlp => exact inflictSleep_kits ..
  case statusConfuse => exact inflictConfusion_kits ..
  case conversion => rfl
  case healHalf =>
    dsimp only
    split_ifs <;> first | rfl | contradiction
  case hyperBeam =>
    dsimp only
    split_ifs <;> first | rfl | contradiction
  all_goals first
    | exact userStat_kits ..
    | exact targetStat_kits ..
    | rfl

theorem closing_kits : (d.closing mv).kits = d.kits := by
  unfold closing
  dsimp only
  split_ifs <;> rfl

/-- Conversion passed the checks in front of the damage block. -/
def Converts : Prop := mv.effect = .conversion ∧ (d.beforeDamage mv).1 = true

theorem applyMove_kits {d' : Duel} (h : d.applyMove mv = .ok d') :
    d'.kits = d.kits ∨
      d.Converts mv ∧ d'.kits = { d.kits with user := d.user.kit.retype d.target.kit } := by
  have hb := beforeDamage_kits d mv
  unfold applyMove at h
  split at h
  · rename_i hreach
    obtain ⟨⟨goOn, d₁⟩, hd, h⟩ := bind_eq_ok.mp h
    have h₁ := (dealDamage_kits _ mv hd).trans hb
    cases goOn with
    | false =>
      cases h
      exact .inl h₁
    | true =>
      obtain ⟨d₂, hx, h⟩ := bind_eq_ok.mp h
      cases h
      have h₂ := (fixedDamage_kits d₁ mv hx).trans h₁
      have hu : d₂.user.kit = d.user.kit := congrArg Kits.user h₂
      have ht : d₂.target.kit = d.target.kit := congrArg Kits.target h₂
      rw [closing_kits, secondary_kits, h₂, hu, ht]
      split_ifs with hc
      · exact .inr ⟨⟨hc, hreach⟩, rfl⟩
      · exact .inl rfl
  · cases h
    exact .inl hb

/-! ### Up to the call of `applyMove` -/

theorem wakeUp_kits : d.wakeUp.2.kits = d.kits := by
  unfold wakeUp
  split_ifs <;> rfl

theorem shakeOff_kits : d.shakeOff.2.kits = d.kits := by
  unfold shakeOff
  dsimp only
  split_ifs <;> rfl

theorem heldBack_kits : d.heldBack.2.kits = d.kits := by
  unfold heldBack
  split_ifs <;> rfl

theorem confusion_kits {go : Bool} {d' : Duel} (h : d.confusion = .ok (go, d')) :
    d'.kits = d.kits := by
  unfold confusion at h
  split_ifs at h with h₀
  · cases h
    rfl
  · dsimp only at h
    split_ifs at h with h₁
    · cases h
      rfl
    · obtain ⟨n, _, h⟩ := bind_eq_ok.mp h
      cases h
      rfl

theorem preMove_kits {go : Bool} {d' : Duel} (h : d.preMove = .ok (go, d')) :
    d'.kits = d.kits := by
  have hw := wakeUp_kits d
  have hs := shakeOff_kits d.wakeUp.2
  unfold preMove at h
  dsimp only at h
  split_ifs at h
  · rw [Except.ok.inj h] at hw
    exact hw
  · rw [Except.ok.inj h] at hs
    exact hs.trans hw
  · obtain ⟨⟨go', d₁⟩, hc, h⟩ := bind_eq_ok.mp h
    have hk := ((confusion_kits _ hc).trans hs).trans hw
    have hb := heldBack_kits d₁
    cases go' with
    | false =>
      cases h
      exact hk
    | true =>
      simp only [if_true, pure_eq_ok, Except.ok.injEq] at h
      rw [h] at hb
      exact hb.trans hk

theorem bideTurn_kits : d.bideTurn.kits = d.kits := by
  have hstore : (d.setUser { d.user with bideTurns := d.user.bideTurns - 1 }).kits = d.kits :=
    d.setUser_kits rfl
  unfold bideTurn
  dsimp only
  split_ifs
  · rw [emit_kits, emit_kits]
    exact (setTarget_kits _ rfl).trans ((setUser_kits _ rfl).trans hstore)
  · rw [emit_kits]
    exact (setTarget_kits _ rfl).trans ((setUser_kits _ rfl).trans hstore)
  · rw [emit_kits]
    exact hstore

theorem setUp_kits {r : Ready} : (d.setUp r).2.kits = d.kits := by
  unfold setUp
  split_ifs <;> rfl

theorem releaseCharge_kits {r : Ready} {o : Option Ready} {d' : Duel}
    (h : d.releaseCharge r = .ok (o, d')) : d'.kits = d.kits := by
  unfold releaseCharge at h
  split_ifs at h
  · obtain ⟨o', _, h⟩ := bind_eq_ok.mp h
    cases h
    rfl
  · cases h
    rfl

/-- The move about to be applied is the one its slot names. -/
def Named (d : Duel) (r : Ready) : Prop :=
  ∃ h : r.slot.toNat < 4, mdata d.gen (d.user.moves ⟨r.slot.toNat, h⟩) = some r.mv

theorem Named.of_kits {d d' : Duel} {r : Ready} (h : d.Named r) (hk : d'.kits = d.kits) :
    d'.Named r := by
  have hg : d'.gen = d.gen := congrArg Kits.gen hk
  have hm : d'.user.moves = d.user.moves := congrArg (fun k => k.user.moves) hk
  unfold Named
  rw [hg, hm]
  exact h

theorem slotMove_named {slot : UInt8} {r : Ready} (h : d.slotMove slot = .ok (some r)) :
    d.Named r ∧ r.slot = slot ∧ r.struggle = false := by
  obtain ⟨id, hs, h⟩ := bind_eq_ok.mp h
  have hlt := slotAt_eq_ok hs
  obtain ⟨mv, hm, rfl⟩ := Option.map_eq_some_iff.mp (Except.ok.inj h)
  unfold slotAt at hs
  rw [dif_pos hlt] at hs
  cases hs
  exact ⟨⟨hlt, hm⟩, rfl, rfl⟩

theorem chosenMove_named {slot : UInt8} {r : Ready} (h : d.chosenMove slot = some r)
    (hs : r.struggle = false) :
    d.Named r ∧ ∃ h : r.slot.toNat < 4, d.user.pp ⟨r.slot.toNat, h⟩ ≠ 0 := by
  unfold chosenMove at h
  split_ifs at h with h₀ h₁ hp
  · obtain ⟨mv, _, rfl⟩ := Option.map_eq_some_iff.mp h
    cases hs
  · split at h <;> cases h
  · split at h
    · cases h
    · rename_i mv hm
      cases h
      exact ⟨⟨h₁, hm⟩, h₁, hp⟩

/-- The slot whose PP `useMove` spends, once the status checks are passed. -/
def spentSlot (d : Duel) (r : Ready) : Option (Fin 4) :=
  match d.releaseCharge r with
  | .ok (some r, d) =>
    match d.thrashLock r with
    | .ok (some r) =>
      if 0 < d.user.bideTurns ∨ d.user.disabledSlot = r.slot ∧ 0 < d.user.disabledTurns then none
      else if h : r.slot.toNat < 4 then some ⟨r.slot.toNat, h⟩ else none
    | _ => none
  | _ => none

/-- The slot whose PP `useMove` spends, if it gets that far. -/
def spends (d : Duel) (moveSlot : UInt8) : Option (Fin 4) :=
  match d.chosenMove moveSlot, d.preMove with
  | some r, .ok (true, d) => if r.struggle then none else d.spentSlot r
  | _, _ => none

/-- The user's kit once the PP is paid. -/
def paidKit (d : Duel) (moveSlot : UInt8) : Kit :=
  match d.spends moveSlot with
  | some j => d.user.kit.spend j
  | none => d.user.kit

theorem spendPp_kits {r : Ready} {d' : Duel} (hs : r.struggle = false) (hr : r.slot.toNat < 4)
    (h : d.spendPp r = .ok d') :
    d'.kits = { d.kits with user := d.user.kit.spend ⟨r.slot.toNat, hr⟩ } := by
  unfold spendPp slotAt setSlot at h
  simp only [hs, dif_pos hr, bind_ok, Bool.false_eq_true, if_false] at h
  cases h
  rfl

theorem fire_kits {r : Ready} {o : Option Ready} {d' : Duel} (hs : r.struggle = false)
    (hr : r.slot.toNat < 4) (h : d.fire r = .ok (o, d')) :
    d'.kits = { d.kits with user :=
      if 0 < d.user.bideTurns ∨ d.user.disabledSlot = r.slot ∧ 0 < d.user.disabledTurns
      then d.user.kit else d.user.kit.spend ⟨r.slot.toNat, hr⟩ } := by
  unfold fire at h
  by_cases hb : 0 < d.user.bideTurns
  · rw [if_pos hb] at h
    cases h
    rw [if_pos (.inl hb), bideTurn_kits]
    rfl
  · rw [if_neg hb] at h
    by_cases hd : d.user.disabledSlot = r.slot ∧ 0 < d.user.disabledTurns
    · rw [if_pos hd] at h
      cases h
      rw [if_pos (.inr hd)]
      rfl
    · rw [if_neg hd] at h
      obtain ⟨d₁, hp, h⟩ := bind_eq_ok.mp h
      have h' := setUp_kits (d₁.emitMove Gen1Text.use d₁.user.nickname r.mv.name) (r := r)
      rw [Except.ok.inj h] at h'
      rw [if_neg (not_or.mpr ⟨hb, hd⟩), ← spendPp_kits d hs hr hp]
      exact h'

theorem fire_ready {r r' : Ready} {d' : Duel} (h : d.fire r = .ok (some r', d')) : r' = r := by
  unfold fire at h
  split_ifs at h
  · cases h
  · cases h
  · obtain ⟨d₁, _, h⟩ := bind_eq_ok.mp h
    replace h := Except.ok.inj h
    unfold setUp at h
    split_ifs at h <;> cases h <;> rfl

/-- The locks of a turn: the move that fires sits in a real slot and is named by it. -/
theorem locks_named {r r₁ r₂ : Ready} {d₁ : Duel} (hn : d.Named r)
    (hs : r.struggle = false) (hr : d.releaseCharge r = .ok (some r₁, d₁))
    (ht : d₁.thrashLock r₁ = .ok (some r₂)) :
    d₁.Named r₂ ∧ r₂.struggle = false := by
  have h₁ : d₁.Named r₁ ∧ r₁.struggle = false := by
    have hk := releaseCharge_kits d hr
    unfold releaseCharge at hr
    split_ifs at hr
    · obtain ⟨o, ho, hr⟩ := bind_eq_ok.mp hr
      cases hr
      have hm := slotMove_named d ho
      exact ⟨hm.1.of_kits hk, hm.2.2⟩
    · cases hr
      exact ⟨hn, hs⟩
  unfold thrashLock at ht
  split_ifs at ht
  · have hm := slotMove_named d₁ ht
    exact ⟨hm.1, hm.2.2⟩
  · cases ht
    exact h₁

theorem slotTurn_kits {r : Ready} {o : Option Ready} {d' : Duel} (hn : d.Named r)
    (hs : r.struggle = false) (h : d.slotTurn r = .ok (o, d')) :
    (d'.kits = { d.kits with user := match d.spentSlot r with
      | some j => d.user.kit.spend j
      | none => d.user.kit }) ∧ ∀ r', o = some r' → d.Named r' := by
  unfold slotTurn at h
  unfold spentSlot
  obtain ⟨⟨o₁, d₁⟩, hc, h⟩ := bind_eq_ok.mp h
  have hk := releaseCharge_kits d hc
  have hu : d₁.user.kit = d.user.kit := congrArg Kits.user hk
  rw [hc]
  cases o₁ with
  | none =>
    cases h
    exact ⟨hk, nofun⟩
  | some r₁ =>
    obtain ⟨o₂, ht, h⟩ := bind_eq_ok.mp h
    dsimp only
    rw [ht]
    cases o₂ with
    | none =>
      cases h
      exact ⟨hk, nofun⟩
    | some r₂ =>
      obtain ⟨hn₂, hs₂⟩ := locks_named d hn hs hc ht
      obtain ⟨hlt, _⟩ := id hn₂
      refine ⟨?_, fun r' ho => ?_⟩
      · rw [fire_kits d₁ hs₂ hlt h, hk, hu]
        dsimp only
        split_ifs <;> rfl
      · subst ho
        rw [fire_ready d₁ h]
        exact hn₂.of_kits hk.symm

theorem beginMove_kits {slot : UInt8} {o : Option Ready} {d' : Duel}
    (h : d.beginMove slot = .ok (o, d')) : d'.kits = { d.kits with user := d.paidKit slot } := by
  unfold beginMove at h
  unfold paidKit spends
  cases hc : d.chosenMove slot with
  | none =>
    rw [hc] at h
    cases h
    rfl
  | some r =>
    rw [hc] at h
    obtain ⟨⟨go, d₁⟩, hp, h⟩ := bind_eq_ok.mp h
    have hk := preMove_kits d hp
    have hu : d₁.user.kit = d.user.kit := congrArg Kits.user hk
    rw [hp]
    cases go with
    | false =>
      cases h
      exact hk
    | true =>
      simp only [Bool.not_true, Bool.false_eq_true, if_false] at h
      dsimp only
      split_ifs at h ⊢ with hs
      · cases h
        exact hk
      · have hs' : r.struggle = false := Bool.eq_false_iff.mpr hs
        have hn := (chosenMove_named d hc hs').1
        rw [(slotTurn_kits d₁ (hn.of_kits hk) hs' h).1, hk, hu]

theorem beginMove_named {slot : UInt8} {r : Ready} {d' : Duel}
    (h : d.beginMove slot = .ok (some r, d')) (hr : r.slot.toNat < 4) : d.Named r := by
  unfold beginMove at h
  cases hc : d.chosenMove slot with
  | none =>
    rw [hc] at h
    cases h
  | some r₀ =>
    rw [hc] at h
    obtain ⟨⟨go, d₁⟩, hp, h⟩ := bind_eq_ok.mp h
    have hk := preMove_kits d hp
    split_ifs at h with h₀ h₁
    · cases h
    · cases h
      -- Struggle comes from the sentinel slot, which is none of the four
      unfold chosenMove at hc
      split_ifs at hc with hz
      · obtain ⟨mv, _, rfl⟩ := Option.map_eq_some_iff.mp hc
        rw [hz] at hr
        exact absurd hr (show ¬ (0xFE : UInt8).toNat < 4 by decide)
      · split at hc <;> cases hc
      · split at hc
        · cases hc
        · cases hc
          cases h₁
    · have hs' : r₀.struggle = false := Bool.eq_false_iff.mpr h₁
      have hn := (chosenMove_named d hc hs').1
      exact ((slotTurn_kits d₁ (hn.of_kits hk) hs' h).2 r rfl).of_kits hk.symm

/-! ### After the call of `applyMove` -/

theorem daze_kits : d.daze.kits = d.kits := by
  unfold daze
  split_ifs <;> rfl

theorem thrashTurn_kits : (d.thrashTurn mv).kits = d.kits := by
  unfold thrashTurn
  by_cases h : mv.effect = .thrash ∧ d.user.thrashSlot ≠ 0xFF
  · rw [if_pos h]
    generalize (if 0 < d.user.thrashTurns then d.user.thrashTurns - 1 else d.user.thrashTurns) = n
    dsimp only
    split_ifs
    · exact daze_kits _
    · rfl
  · rw [if_neg h]

theorem afterMove_kits : (d.afterMove mv).kits = d.kits := by
  have hd : ∀ d : Duel, (d.disable mv).kits = d.kits := by
    intro d
    unfold disable
    dsimp only
    split_ifs <;> rfl
  have hs : ∀ d : Duel, (d.substitute mv).kits = d.kits := by
    intro d
    unfold substitute
    dsimp only
    split_ifs <;> rfl
  have hc : ∀ d : Duel, (d.counter mv).kits = d.kits := by
    intro d
    unfold counter
    dsimp only
    split_ifs <;> rfl
  rw [afterMove, hd, hs, hc, thrashTurn_kits]

theorem metronomeRoll_kits : (d.metronomeRoll mv).2.kits = d.kits := by
  unfold metronomeRoll
  split_ifs
  · split
    · split_ifs <;> rfl
    · rfl
  · rfl

theorem metronome_kits {d' : Duel} (h : d.metronome mv = .ok d') :
    d'.kits = d.kits ∨ mv.effect = .metronome ∧ ∃ picked d₁,
      d.metronomeRoll mv = (some picked, d₁) ∧ d₁.Converts picked ∧
        d'.kits = { d.kits with user := d.user.kit.retype d.target.kit } := by
  have hk := metronomeRoll_kits d mv
  have he : ∀ picked d₁, d.metronomeRoll mv = (some picked, d₁) → mv.effect = .metronome := by
    intro picked d₁ hm
    by_contra hn
    rw [metronomeRoll, if_neg hn] at hm
    cases hm
  unfold metronome at h
  cases hm : d.metronomeRoll mv with
  | mk o d₁ =>
    rw [hm] at h hk
    cases o with
    | none =>
      cases h
      exact .inl hk
    | some picked =>
      have hu : d₁.user.kit = d.user.kit := congrArg Kits.user hk
      have ht : d₁.target.kit = d.target.kit := congrArg Kits.target hk
      rcases applyMove_kits d₁ picked h with hs | ⟨hc, hs⟩
      · exact .inl (hs.trans hk)
      · exact .inr ⟨he _ _ hm, picked, d₁, rfl, hc, by rw [hs, hk, hu, ht]⟩

theorem mimic_kits {r : Ready} {d' : Duel} (h : d.mimic r = .ok d') :
    d'.kits = d.kits ∨ r.mv.effect = .mimic ∧ d.user.mimicSlot = 0xFF ∧
      ∃ (hr : r.slot.toNat < 4) (id : UInt8),
        d'.kits = { d.kits with user := d.user.kit.copy ⟨r.slot.toNat, hr⟩ id } := by
  unfold mimic at h
  split_ifs at h with hm
  · split at h
    · rename_i id _
      obtain ⟨m, h₁, h⟩ := bind_eq_ok.mp h
      have hr := slotAt_eq_ok h₁
      obtain ⟨p, h₂, h⟩ := bind_eq_ok.mp h
      obtain ⟨ms, h₃, h⟩ := bind_eq_ok.mp h
      obtain ⟨ps, h₄, h⟩ := bind_eq_ok.mp h
      unfold slotAt at h₁ h₂
      unfold setSlot at h₃ h₄
      rw [dif_pos hr] at h₁ h₂ h₃ h₄
      cases h₁
      cases h₂
      cases h₃
      cases h₄
      cases h
      refine .inr ⟨hm.1, hm.2, hr, id, ?_⟩
      unfold Kit.copy
      rw [UInt8.ofNat_toNat]
      rfl
    · cases h
      exact .inl rfl
  · cases h
    exact .inl rfl

theorem transform_kits :
    (d.transform mv).kits = d.kits ∨ mv.effect = .transform ∧ d.user.transformed = false ∧
      (d.transform mv).kits = { d.kits with user := d.user.kit.become d.target.kit } := by
  unfold transform
  split_ifs with h
  · exact .inr ⟨h.1, by simpa using h.2, rfl⟩
  · exact .inl rfl

/-! ### The whole of `useMove` -/

/-- The move a call of `useMove` gets to apply. -/
def fires (d : Duel) (moveSlot : UInt8) : Option MoveData :=
  match d.beginMove moveSlot with
  | .ok (some r, _) => some r.mv
  | _ => none

/-- What becomes of the kit of a user that has paid for its move. -/
inductive Reworked (d : Duel) (moveSlot : UInt8) (k : Kit) : Kit → Prop
  | same : Reworked d moveSlot k k
  | retype (c : MoveData × Duel) (hc : c ∈ d.calls moveSlot) (h : c.2.Converts c.1) :
      Reworked d moveSlot k (k.retype d.target.kit)
  | copy (j : Fin 4) (id : UInt8) (mv : MoveData) (hm : mdata d.gen (d.user.moves j) = some mv)
      (he : mv.effect = .mimic) (hs : k.mimicSlot = 0xFF) : Reworked d moveSlot k (k.copy j id)
  | become (mv : MoveData) (hm : d.fires moveSlot = some mv) (he : mv.effect = .transform)
      (ht : k.transformed = false) : Reworked d moveSlot k (k.become d.target.kit)

theorem calls_first {slot : UInt8} {r : Ready} {d₁ : Duel}
    (hb : d.beginMove slot = .ok (some r, d₁)) : (r.mv, d₁) ∈ d.calls slot := by
  unfold calls
  rw [hb]
  exact List.mem_cons_self ..

theorem calls_rolled {slot : UInt8} {r : Ready} {d₁ d₂ d₃ : Duel} {picked : MoveData}
    (hb : d.beginMove slot = .ok (some r, d₁)) (ha : d₁.applyMove r.mv = .ok d₂)
    (hm : (d₂.afterMove r.mv).metronomeRoll r.mv = (some picked, d₃)) :
    (picked, d₃) ∈ d.calls slot := by
  unfold calls
  rw [hb]
  dsimp only
  rw [ha]
  dsimp only
  rw [hm]
  exact List.mem_cons_of_mem _ (List.mem_cons_self ..)

/-- One of Metronome, Mimic and Transform at most reaches the kit after `applyMove`. -/
theorem endMove_kits {r : Ready} {d' : Duel} (h : d.endMove r = .ok d') :
    d'.kits = d.kits ∨
    (r.mv.effect = .metronome ∧ ∃ picked d₁,
      (d.afterMove r.mv).metronomeRoll r.mv = (some picked, d₁) ∧ d₁.Converts picked ∧
        d'.kits = { d.kits with user := d.user.kit.retype d.target.kit }) ∨
    (r.mv.effect = .mimic ∧ d.user.mimicSlot = 0xFF ∧ ∃ (hr : r.slot.toNat < 4) (id : UInt8),
      d'.kits = { d.kits with user := d.user.kit.copy ⟨r.slot.toNat, hr⟩ id }) ∨
    (r.mv.effect = .transform ∧ d.user.transformed = false ∧
      d'.kits = { d.kits with user := d.user.kit.become d.target.kit }) := by
  unfold endMove at h
  obtain ⟨d₁, hm, h⟩ := bind_eq_ok.mp h
  obtain ⟨d₂, hi, h⟩ := bind_eq_ok.mp h
  cases h
  have hk := afterMove_kits d r.mv
  have hu : (d.afterMove r.mv).user.kit = d.user.kit := congrArg Kits.user hk
  have ht : (d.afterMove r.mv).target.kit = d.target.kit := congrArg Kits.target hk
  rcases metronome_kits _ r.mv hm with h₁ | ⟨heff, picked, d₃, hroll, hc, h₁⟩
  · have h₁ := h₁.trans hk
    have hu₁ : d₁.user.kit = d.user.kit := congrArg Kits.user h₁
    rcases mimic_kits d₁ hi with h₂ | ⟨heff, hs, hr, id, h₂⟩
    · have h₂ := h₂.trans h₁
      have hu₂ : d₂.user.kit = d.user.kit := congrArg Kits.user h₂
      have ht₂ : d₂.target.kit = d.target.kit := congrArg Kits.target h₂
      rcases transform_kits d₂ r.mv with h₃ | ⟨heff, hf, h₃⟩
      · exact .inl (h₃.trans h₂)
      · have hf₀ : d.user.transformed = false := (congrArg Kit.transformed hu₂).symm.trans hf
        exact .inr (.inr (.inr ⟨heff, hf₀, by rw [h₃, h₂, hu₂, ht₂]⟩))
    · have hs₀ : d.user.mimicSlot = 0xFF := (congrArg Kit.mimicSlot hu₁).symm.trans hs
      rcases transform_kits d₂ r.mv with h₃ | ⟨heff', _, _⟩
      · exact .inr (.inr (.inl ⟨heff, hs₀, hr, id, by rw [h₃, h₂, h₁, hu₁]⟩))
      · exact absurd (heff.symm.trans heff') (by decide)
  · rcases mimic_kits d₁ hi with h₂ | ⟨heff', _⟩
    · rcases transform_kits d₂ r.mv with h₃ | ⟨heff', _, _⟩
      · exact .inr (.inl ⟨heff, picked, d₃, hroll, hc, by rw [h₃, h₂, h₁, hk, hu, ht]⟩)
      · exact absurd (heff.symm.trans heff') (by decide)
    · exact absurd (heff.symm.trans heff') (by decide)

/-- `useMove` pays, then does at most one thing to the user's kit, and nothing to the target's. -/
theorem useMove_kits {slot : UInt8} {d' : Duel} (h : d.useMove slot = .ok d') :
    ∃ k, d.Reworked slot (d.paidKit slot) k ∧ d'.kits = { d.kits with user := k } := by
  unfold useMove at h
  obtain ⟨⟨o, d₁⟩, hb, h⟩ := bind_eq_ok.mp h
  have h₁ := beginMove_kits d hb
  have hu : d₁.user.kit = d.paidKit slot := congrArg Kits.user h₁
  have ht : d₁.target.kit = d.target.kit := congrArg Kits.target h₁
  cases o with
  | none =>
    cases h
    exact ⟨_, .same, h₁⟩
  | some r =>
    obtain ⟨d₂, ha, h⟩ := bind_eq_ok.mp h
    have hfires : d.fires slot = some r.mv := by
      unfold fires
      rw [hb]
    rcases applyMove_kits d₁ r.mv ha with h₂ | ⟨hc, h₂⟩
    · have h₂ := h₂.trans h₁
      have hu₂ : d₂.user.kit = d.paidKit slot := congrArg Kits.user h₂
      have ht₂ : d₂.target.kit = d.target.kit := congrArg Kits.target h₂
      rcases endMove_kits d₂ h with h₃ | ⟨_, picked, d₃, hroll, hc, h₃⟩ |
        ⟨heff, hs, hr, id, h₃⟩ | ⟨heff, hf, h₃⟩
      · exact ⟨_, .same, h₃.trans h₂⟩
      · exact ⟨_, .retype _ (calls_rolled d hb ha hroll) hc, by rw [h₃, h₂, hu₂, ht₂]⟩
      · obtain ⟨_, hm⟩ := beginMove_named d hb hr
        have hs' : (d.paidKit slot).mimicSlot = 0xFF := (congrArg Kit.mimicSlot hu₂).symm.trans hs
        exact ⟨_, .copy _ id r.mv hm heff hs', by rw [h₃, h₂, hu₂]⟩
      · have hf' : (d.paidKit slot).transformed = false :=
          (congrArg Kit.transformed hu₂).symm.trans hf
        exact ⟨_, .become r.mv hfires heff hf', by rw [h₃, h₂, hu₂, ht₂]⟩
    · -- the move was Conversion itself, so nothing follows
      have heff := hc.1
      have hne : ∀ {e : MoveEffect}, r.mv.effect = e → e ≠ .conversion → False :=
        fun he hx => hx (he.symm.trans heff)
      rcases endMove_kits d₂ h with h₃ | ⟨he, _⟩ | ⟨he, _⟩ | ⟨he, _⟩
      · exact ⟨_, .retype _ (calls_first d hb) hc, by rw [h₃, h₂, h₁, hu, ht]⟩
      · exact (hne he (by decide)).elim
      · exact (hne he (by decide)).elim
      · exact (hne he (by decide)).elim

end Duel
end MonsterMesh
