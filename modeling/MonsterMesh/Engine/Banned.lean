import MonsterMesh.Engine.Every

/-! The disabled slot of a mon, and what each part of a move does to it. -/
namespace MonsterMesh

open Fallible

/-- The disabled slot, and the turns it stays disabled. -/
def BattlePoke.ban (m : BattlePoke) : UInt8 × UInt8 := (m.disabledSlot, m.disabledTurns)

/-- No slot is disabled. -/
def BattlePoke.Usable (m : BattlePoke) : Prop := m.disabledTurns = 0 ∧ m.disabledSlot = 0xFF

instance (m : BattlePoke) : Decidable m.Usable := inferInstanceAs (Decidable (_ ∧ _))

theorem usable_iff {m : BattlePoke} : m.Usable ↔ m.ban = (0xFF, 0) := by
  unfold BattlePoke.Usable BattlePoke.ban
  rw [Prod.mk.injEq, and_comm]

/-- A turn served. -/
def serveTurn (ban : UInt8 × UInt8) : UInt8 × UInt8 := (if ban.2 - 1 = 0 then 0xFF else ban.1, ban.2 - 1)

/-- The bans of both mons in a duel. -/
def Duel.bans (d : Duel) : (UInt8 × UInt8) × (UInt8 × UInt8) := (d.user.ban, d.target.ban)

theorem ban_setBoost (m : BattlePoke) (s : Stage) (v : Int8) : (m.setBoost s v).ban = m.ban := by
  cases s <;> rfl

theorem ban_hurtTimes (m : BattlePoke) (dmg : UInt16) (n : ℕ) : (m.hurtTimes dmg n).ban = m.ban := by
  induction n generalizing m with
  | zero => rfl
  | succ n ih =>
    unfold BattlePoke.hurtTimes
    split
    · rfl
    · exact ih _

namespace Duel

variable {d d' : Duel} {mv : MoveData} {r : Ready} {o : Option Ready} {slot : UInt8}

/-! ### `applyMove` -/

theorem userStat_bans (d : Duel) (s : Stage) (up : Bool) : (d.userStat s up).bans = d.bans := by
  unfold userStat
  split
  · exact congrArg (·, d.target.ban) (ban_setBoost ..)
  · rfl

theorem targetStat_bans (d : Duel) (s : Stage) (up : Bool) : (d.targetStat s up).bans = d.bans := by
  unfold targetStat
  split
  · exact congrArg (d.user.ban, ·) (ban_setBoost ..)
  · rfl

theorem hitCheck_bans (d : Duel) (mv : MoveData) : (d.hitCheck mv).2.bans = d.bans := by
  unfold hitCheck rollHit
  dsimp only
  split_ifs <;> rfl

theorem beforeDamage_bans (d : Duel) (mv : MoveData) : (d.beforeDamage mv).2.bans = d.bans := by
  rw [← hitCheck_bans d mv]
  unfold beforeDamage
  dsimp only
  split_ifs <;> rfl

theorem userAfterHit_bans (d : Duel) (mv : MoveData) (dmg : UInt16) :
    (d.userAfterHit mv dmg).bans = d.bans := by
  unfold userAfterHit
  split <;> rfl

theorem targetAfterHit_bans (d : Duel) (mv : MoveData) : (d.targetAfterHit mv).bans = d.bans := by
  unfold targetAfterHit
  split
  · dsimp only
    split_ifs <;> rfl
  · split_ifs <;> rfl
  · rfl

theorem storeBide_bans (d : Duel) (dmg : UInt16) : (if d.target.bideTurns ≠ 0 then
    (d.narrow (d.target.bideDamage.toNat + dmg.toNat)).2.setTarget
      { d.target with bideDamage := (d.narrow (d.target.bideDamage.toNat + dmg.toNat)).1 }
    else d).bans = d.bans := by
  split_ifs <;> rfl

theorem recordHit_bans (d : Duel) (dmg : UInt16) : (d.recordHit dmg).bans = d.bans := by
  have hb := storeBide_bans d dmg
  unfold recordHit
  dsimp only
  generalize (if d.target.bideTurns ≠ 0 then
    (d.narrow (d.target.bideDamage.toNat + dmg.toNat)).2.setTarget
      { d.target with bideDamage := (d.narrow (d.target.bideDamage.toNat + dmg.toNat)).1 }
    else d) = d₁ at hb ⊢
  split_ifs
  · exact (targetStat_bans _ .atk true).trans hb
  · exact hb

theorem landHit_bans {dmg : UInt16} {crit : Bool} (h : d.landHit mv dmg crit = .ok d') : d'.bans = d.bans := by
  obtain ⟨g, hg⟩ := hitCount_snd d mv
  unfold landHit at h
  dsimp only at h
  obtain ⟨d₁, hd, h⟩ := bind_eq_ok.mp h
  cases h
  obtain ⟨o, ho⟩ := sayHits_eq hd
  have hk : d₁.bans = (d.user.ban, (d.target.hurtTimes dmg (d.hitCount mv).1).ban) := by
    rw [ho, hg]
    split_ifs <;> rfl
  rw [ban_hurtTimes] at hk
  exact (recordHit_bans _ dmg).trans ((targetAfterHit_bans _ mv).trans ((userAfterHit_bans d₁ mv dmg).trans hk))

theorem dealDamage_bans {goOn : Bool} (h : d.dealDamage mv = .ok (goOn, d')) : d'.bans = d.bans := by
  unfold dealDamage at h
  split at h
  · cases h
    rfl
  · obtain ⟨⟨dmg, crit, d₁⟩, hd, h⟩ := bind_eq_ok.mp h
    obtain ⟨g, hg⟩ := calcDamage_duel d mv hd
    dsimp only at hg h
    subst hg
    split at h
    · cases h
      rfl
    · obtain ⟨d₂, hl, h⟩ := bind_eq_ok.mp h
      cases h
      exact (landHit_bans hl).trans rfl

theorem fixedDamage_bans (h : d.fixedDamage mv = .ok d') : d'.bans = d.bans := by
  unfold fixedDamage at h
  split at h
  · cases h
    rfl
  · cases h
    rfl
  · obtain ⟨v, _, h⟩ := bind_eq_ok.mp h
    cases h
    rfl
  · cases h
    rfl
  · split_ifs at h <;> cases h <;> rfl
  · cases h
    rfl

theorem inflict_bans (d : Duel) (mv : MoveData) (status : UInt8) (text : String) :
    (d.inflict mv status text).bans = d.bans := by
  unfold inflict roll
  dsimp only
  split_ifs <;> rfl

theorem inflictSleep_bans (d : Duel) (mv : MoveData) : (d.inflictSleep mv).bans = d.bans := by
  unfold inflictSleep roll
  dsimp only
  split_ifs <;> rfl

theorem inflictConfusion_bans (d : Duel) (mv : MoveData) : (d.inflictConfusion mv).bans = d.bans := by
  unfold inflictConfusion roll
  dsimp only
  split_ifs <;> rfl

theorem secondary_bans (d : Duel) (mv : MoveData) : (d.secondary mv).bans = d.bans := by
  unfold secondary
  cases mv.effect
  case statusPsn => exact inflict_bans ..
  case statusBrn => exact inflict_bans ..
  case statusPar => exact inflict_bans ..
  case statusFrz => exact inflict_bans ..
  case statusSlp => exact inflictSleep_bans ..
  case statusConfuse => exact inflictConfusion_bans ..
  case healHalf =>
    dsimp only
    split_ifs <;> rfl
  case hyperBeam =>
    dsimp only
    split_ifs <;> rfl
  all_goals first
    | exact userStat_bans ..
    | exact targetStat_bans ..
    | rfl

theorem closing_bans (d : Duel) (mv : MoveData) : (d.closing mv).bans = d.bans := by
  unfold closing
  dsimp only
  split_ifs <;> rfl

theorem applyMove_bans (h : d.applyMove mv = .ok d') : d'.bans = d.bans := by
  have hb := beforeDamage_bans d mv
  unfold applyMove at h
  split at h
  · obtain ⟨⟨goOn, d₁⟩, hd, h⟩ := bind_eq_ok.mp h
    have h₁ : d₁.bans = d.bans := (dealDamage_bans hd).trans hb
    cases goOn with
    | false =>
      cases h
      exact h₁
    | true =>
      obtain ⟨d₂, hx, h⟩ := bind_eq_ok.mp h
      cases h
      rw [closing_bans, secondary_bans, fixedDamage_bans hx, h₁]
  · cases h
    exact hb

/-! ### Up to the move the user is left with -/

theorem wakeUp_bans (d : Duel) : d.wakeUp.2.bans = d.bans := by
  unfold wakeUp
  split_ifs <;> rfl

theorem shakeOff_bans (d : Duel) : d.shakeOff.2.bans = d.bans := by
  unfold shakeOff
  dsimp only
  split_ifs <;> rfl

theorem heldBack_bans (d : Duel) : d.heldBack.2.bans = d.bans := by
  unfold heldBack
  split_ifs <;> rfl

theorem confusion_bans {x : Bool × Duel} (h : d.confusion = .ok x) : x.2.bans = d.bans := by
  unfold confusion at h
  split at h
  · cases h
    rfl
  · dsimp only at h
    split at h
    · cases h
      rfl
    · obtain ⟨n, -, h⟩ := bind_eq_ok.mp h
      cases h
      rfl

theorem preMove_bans {x : Bool × Duel} (h : d.preMove = .ok x) : x.2.bans = d.bans := by
  have hw := wakeUp_bans d
  have hs : d.wakeUp.2.shakeOff.2.bans = d.bans := (shakeOff_bans _).trans hw
  unfold preMove at h
  dsimp only at h
  split at h
  · cases h
    exact hw
  · split at h
    · cases h
      exact hs
    · obtain ⟨c, hc, h⟩ := bind_eq_ok.mp h
      have hconfused : c.2.bans = d.bans := (confusion_bans hc).trans hs
      cases h
      split
      · exact (heldBack_bans c.2).trans hconfused
      · exact hconfused

/-- The move behind the locks of a charge and a thrash. -/
def locked (d : Duel) (r : Ready) : Except Fault (Option Ready × Duel) := do
  match ← d.releaseCharge r with
  | (none, d) => return (none, d)
  | (some r, d) => return (← d.thrashLock r, d)

/-- The move the user is left with, when nothing keeps it from using one. -/
def taken (d : Duel) (moveSlot : UInt8) : Option (Ready × Duel) :=
  match d.chosenMove moveSlot, d.preMove with
  | some r, .ok (true, d₁) =>
    if r.struggle then some (r, d₁)
    else
      match d₁.locked r with
      | .ok (some r, d₂) => some (r, d₂)
      | _ => none
  | _, _ => none

/-- The user gets to use a move. -/
def acts (d : Duel) (moveSlot : UInt8) : Bool := (d.taken moveSlot).isSome

/-- The slot it is left with is the disabled one. -/
def serves (d : Duel) (moveSlot : UInt8) : Bool :=
  match d.taken moveSlot with
  | some (r, d) =>
    !r.struggle && d.user.bideTurns = 0 && d.user.disabledSlot = r.slot && 0 < d.user.disabledTurns
  | none => false

/-- The user uses Disable. -/
def disables (d : Duel) (moveSlot : UInt8) : Bool :=
  match d.beginMove moveSlot with
  | .ok (some r, _) => r.mv.effect = .disable
  | _ => false

theorem serves_acts (h : d.serves slot = true) : d.acts slot = true := by
  unfold serves at h
  unfold acts
  cases ht : d.taken slot with
  | some x => rfl
  | none =>
    rw [ht] at h
    cases h

theorem slotTurn_eq (d : Duel) (r : Ready) : d.slotTurn r = d.locked r >>= fun x =>
    match x with
    | (none, d) => .ok (none, d)
    | (some r, d) => d.fire r := by
  unfold slotTurn locked
  cases d.releaseCharge r with
  | error f => rfl
  | ok x =>
    obtain ⟨_ | r', d'⟩ := x
    · rfl
    · simp only [bind_ok]
      cases d'.thrashLock r' with
      | error f => rfl
      | ok o => cases o <;> rfl

theorem locked_bans {x : Option Ready × Duel} (h : d.locked r = .ok x) : x.2.bans = d.bans := by
  unfold locked at h
  obtain ⟨⟨o, d₁⟩, hr, h⟩ := bind_eq_ok.mp h
  have hreleased : d₁.bans = d.bans := by
    unfold releaseCharge at hr
    split_ifs at hr
    · obtain ⟨o', -, hr⟩ := bind_eq_ok.mp hr
      cases hr
      rfl
    · cases hr
      rfl
  cases o with
  | none =>
    cases h
    exact hreleased
  | some r' =>
    obtain ⟨o', -, h⟩ := bind_eq_ok.mp h
    cases h
    exact hreleased

theorem slotMove_struggle (h : d.slotMove slot = .ok (some r)) : r.struggle = false := by
  obtain ⟨id, -, h⟩ := bind_eq_ok.mp h
  obtain ⟨mv, -, rfl⟩ := Option.map_eq_some_iff.mp (Except.ok.inj h)
  rfl

/-- The locks never lead to Struggle. -/
theorem locked_struggle {r' : Ready} (hs : r.struggle = false) (h : d.locked r = .ok (some r', d')) :
    r'.struggle = false := by
  unfold locked at h
  obtain ⟨⟨o, d₁⟩, hr, h⟩ := bind_eq_ok.mp h
  cases o with
  | none => cases h
  | some r₁ =>
    have h₁ : r₁.struggle = false := by
      unfold releaseCharge at hr
      split_ifs at hr
      · obtain ⟨o', ho, hr⟩ := bind_eq_ok.mp hr
        cases hr
        exact slotMove_struggle ho
      · cases hr
        exact hs
    obtain ⟨o', ho, h⟩ := bind_eq_ok.mp h
    cases h
    unfold thrashLock at ho
    split_ifs at ho
    · exact slotMove_struggle ho
    · cases ho
      exact h₁

/-! ### The move itself -/

theorem bideTurn_bans (d : Duel) : d.bideTurn.bans = d.bans := by
  unfold bideTurn
  dsimp only
  split_ifs <;> rfl

theorem spendPp_bans (h : d.spendPp r = .ok d') : d'.bans = d.bans := by
  unfold spendPp at h
  split_ifs at h
  · cases h
    rfl
  · obtain ⟨_, _, h⟩ := bind_eq_ok.mp h
    obtain ⟨_, _, h⟩ := bind_eq_ok.mp h
    cases h
    rfl

theorem setUp_bans (d : Duel) (r : Ready) : (d.setUp r).2.bans = d.bans := by
  unfold setUp
  split_ifs <;> rfl

/-- The disabled slot, stopped before it fires. -/
def Stopped (d : Duel) (r : Ready) : Prop :=
  d.user.bideTurns = 0 ∧ d.user.disabledSlot = r.slot ∧ 0 < d.user.disabledTurns

theorem fire_served (hs : d.Stopped r) (h : d.fire r = .ok (o, d')) :
    d'.bans = (serveTurn d.user.ban, d.target.ban) := by
  unfold fire at h
  rw [if_neg (by rw [hs.1]; decide), if_pos hs.2] at h
  cases h
  rfl

theorem fire_bans (hs : ¬ d.Stopped r) (h : d.fire r = .ok (o, d')) : d'.bans = d.bans := by
  unfold fire at h
  split_ifs at h with hb hd
  · cases h
    exact bideTurn_bans d
  · exact absurd ⟨by simpa using hb, hd⟩ hs
  · obtain ⟨d₁, hp, h⟩ := bind_eq_ok.mp h
    replace h := Except.ok.inj h
    have hset : ((d₁.emitMove Gen1Text.use d₁.user.nickname r.mv.name).setUp r).2 = d' := by rw [h]
    have hspent : d₁.bans = d.bans := spendPp_bans hp
    rw [← hset, setUp_bans]
    exact hspent

theorem taken_bans (h : d.taken slot = some (r, d')) : d'.bans = d.bans := by
  unfold taken at h
  cases hc : d.chosenMove slot with
  | none =>
    rw [hc] at h
    cases h
  | some r₀ =>
    cases hp : d.preMove with
    | error f =>
      rw [hc, hp] at h
      cases h
    | ok x =>
      obtain ⟨go, d₁⟩ := x
      rw [hc, hp] at h
      cases go with
      | false => cases h
      | true =>
        have hpre : d₁.bans = d.bans := preMove_bans hp
        dsimp only at h
        split at h
        · cases h
          exact hpre
        · split at h
          · rename_i r₁ d₂ hl
            cases h
            exact (locked_bans hl).trans hpre
          · cases h

/-- A turn is served of a ban that still runs. -/
theorem serves_banned (h : d.serves slot = true) : 0 < d.user.disabledTurns := by
  unfold serves at h
  cases ht : d.taken slot with
  | none =>
    rw [ht] at h
    cases h
  | some x =>
    obtain ⟨r, d₁⟩ := x
    rw [ht] at h
    simp only [Bool.and_eq_true, decide_eq_true_eq] at h
    have hturns : d₁.user.disabledTurns = d.user.disabledTurns :=
      congrArg (fun b => b.1.2) (taken_bans ht)
    rw [← hturns]
    exact h.2

theorem serves_none (h : d.taken slot = none) : d.serves slot = false := by
  unfold serves
  rw [h]

theorem serves_struggle (hs : r.struggle = true) (h : d.taken slot = some (r, d')) : d.serves slot = false := by
  unfold serves
  rw [h]
  dsimp only
  rw [hs]
  rfl

theorem serves_iff (hs : r.struggle = false) (h : d.taken slot = some (r, d')) :
    d.serves slot = true ↔ d'.Stopped r := by
  unfold serves
  rw [h]
  simp [hs, Stopped, and_assoc]

theorem beginMove_bans (h : d.beginMove slot = .ok (o, d')) :
    d'.bans = if d.serves slot then (serveTurn d.user.ban, d.target.ban) else d.bans := by
  unfold beginMove at h
  cases hc : d.chosenMove slot with
  | none =>
    rw [hc] at h
    cases h
    rw [serves_none (by unfold taken; rw [hc])]
    rfl
  | some r =>
    rw [hc] at h
    obtain ⟨⟨go, d₁⟩, hp, h⟩ := bind_eq_ok.mp h
    have hpre : d₁.bans = d.bans := preMove_bans hp
    cases go with
    | false =>
      cases h
      rw [serves_none (by unfold taken; rw [hc, hp])]
      exact hpre
    | true =>
      have htaken : d.taken slot = if r.struggle then some (r, d₁) else
          match d₁.locked r with
          | .ok (some r, d₂) => some (r, d₂)
          | _ => none := by
        unfold taken
        rw [hc, hp]
      rw [if_neg (by simp)] at h
      cases hs : r.struggle with
      | true =>
        rw [if_pos hs] at h htaken
        cases h
        rw [serves_struggle hs htaken]
        exact hpre
      | false =>
        rw [if_neg (by simp [hs]), slotTurn_eq] at h
        rw [if_neg (by simp [hs])] at htaken
        obtain ⟨⟨o₁, d₂⟩, hl, h⟩ := bind_eq_ok.mp h
        rw [hl] at htaken
        have hlocked : d₂.bans = d.bans := (locked_bans hl).trans hpre
        cases o₁ with
        | none =>
          cases h
          rw [serves_none htaken]
          exact hlocked
        | some r₁ =>
          have hiff := serves_iff (locked_struggle hs hl) htaken
          by_cases hstop : d₂.Stopped r₁
          · rw [if_pos (hiff.mpr hstop), fire_served hstop h]
            exact congrArg (fun b => (serveTurn b.1, b.2)) hlocked
          · rw [if_neg (mt hiff.mp hstop), fire_bans hstop h]
            exact hlocked

/-! ### After the call of `applyMove` -/

theorem daze_bans (d : Duel) : d.daze.bans = d.bans := by
  unfold daze
  split_ifs <;> rfl

theorem thrashTurn_bans (d : Duel) (mv : MoveData) : (d.thrashTurn mv).bans = d.bans := by
  unfold thrashTurn
  split
  · generalize (if 0 < d.user.thrashTurns then d.user.thrashTurns - 1 else d.user.thrashTurns) = n
    dsimp only
    split
    · exact (daze_bans _).trans rfl
    · rfl
  · rfl

theorem counter_bans (d : Duel) (mv : MoveData) : (d.counter mv).bans = d.bans := by
  unfold counter
  dsimp only
  split_ifs <;> rfl

theorem substitute_bans (d : Duel) (mv : MoveData) : (d.substitute mv).bans = d.bans := by
  unfold substitute
  dsimp only
  split_ifs <;> rfl

theorem disable_ban (d : Duel) (mv : MoveData) : (d.disable mv).user.ban = d.user.ban := by
  unfold disable
  dsimp only
  split_ifs <;> rfl

/-- Before Disable, what follows a move leaves the bans alone. -/
theorem substituted_bans (d : Duel) (mv : MoveData) :
    (((d.thrashTurn mv).counter mv).substitute mv).bans = d.bans := by
  rw [substitute_bans, counter_bans, thrashTurn_bans]

theorem afterMove_ban (d : Duel) (mv : MoveData) : (d.afterMove mv).user.ban = d.user.ban :=
  (disable_ban _ mv).trans (congrArg Prod.fst (substituted_bans d mv))

theorem afterMove_bans (hd : mv.effect ≠ .disable) : (d.afterMove mv).bans = d.bans := by
  unfold afterMove disable
  rw [if_neg hd]
  exact substituted_bans d mv

theorem metronomeRoll_bans (d : Duel) (mv : MoveData) : (d.metronomeRoll mv).2.bans = d.bans := by
  unfold metronomeRoll
  split_ifs
  · split
    · split_ifs <;> rfl
    · rfl
  · rfl

theorem metronome_bans (h : d.metronome mv = .ok d') : d'.bans = d.bans := by
  have hroll := metronomeRoll_bans d mv
  unfold metronome at h
  rcases hm : d.metronomeRoll mv with ⟨_ | picked, d₁⟩
  · rw [hm] at h hroll
    cases h
    exact hroll
  · rw [hm] at h hroll
    exact (applyMove_bans h).trans hroll

theorem mimic_bans (h : d.mimic r = .ok d') : d'.bans = d.bans := by
  unfold mimic at h
  split at h
  · split at h
    · unfold copyMove at h
      obtain ⟨_, _, h⟩ := bind_eq_ok.mp h
      obtain ⟨_, _, h⟩ := bind_eq_ok.mp h
      obtain ⟨_, _, h⟩ := bind_eq_ok.mp h
      obtain ⟨_, _, h⟩ := bind_eq_ok.mp h
      cases h
      rfl
    · cases h
      rfl
  · cases h
    rfl

theorem transform_bans (d : Duel) (mv : MoveData) : (d.transform mv).bans = d.bans := by
  unfold transform
  dsimp only
  split_ifs <;> rfl

theorem endMove_bans (h : d.endMove r = .ok d') : d'.bans = (d.afterMove r.mv).bans := by
  unfold endMove at h
  obtain ⟨d₁, hm, h⟩ := bind_eq_ok.mp h
  obtain ⟨d₂, hi, h⟩ := bind_eq_ok.mp h
  cases h
  rw [transform_bans, mimic_bans hi, metronome_bans hm]

/-- A whole move: the user may serve a turn of its ban, and Disable may set the target's. -/
theorem useMove_bans (h : d.useMove slot = .ok d') :
    d'.user.ban = (if d.serves slot then serveTurn d.user.ban else d.user.ban) ∧
      (d.disables slot = false → d'.target.ban = d.target.ban) := by
  unfold useMove at h
  obtain ⟨⟨o, d₁⟩, hb, h⟩ := bind_eq_ok.mp h
  have hbegun := beginMove_bans hb
  have huser : d₁.user.ban = if d.serves slot then serveTurn d.user.ban else d.user.ban := by
    refine (congrArg Prod.fst hbegun).trans ?_
    split <;> rfl
  have htarget : d₁.target.ban = d.target.ban := by
    refine (congrArg Prod.snd hbegun).trans ?_
    split <;> rfl
  cases o with
  | none =>
    cases h
    exact ⟨huser, fun _ => htarget⟩
  | some r =>
    obtain ⟨d₂, ha, h⟩ := bind_eq_ok.mp h
    have happlied : d₂.bans = d₁.bans := applyMove_bans ha
    have hend : d'.bans = (d₂.afterMove r.mv).bans := endMove_bans h
    constructor
    · have hafter : d'.user.ban = d₂.user.ban := (congrArg Prod.fst hend).trans (afterMove_ban d₂ r.mv)
      exact hafter.trans ((congrArg Prod.fst happlied).trans huser)
    · intro hd
      unfold disables at hd
      rw [hb] at hd
      have hkept := afterMove_bans (d := d₂) (of_decide_eq_false hd)
      exact (congrArg Prod.snd (hend.trans (hkept.trans happlied))).trans htarget

end Duel

/-! ### The rest of a turn -/

theorem clearVolatile_usable (m : BattlePoke) : m.clearVolatile.Usable := by
  unfold BattlePoke.clearVolatile BattlePoke.unmimic BattlePoke.untransform
  dsimp only
  split_ifs <;> exact ⟨rfl, rfl⟩

theorem residual_ban (m : BattlePoke) (sink : Bool) : (m.residual sink).1.ban = m.ban := by
  have htick : ∀ (m : BattlePoke) active n line, (m.tick active n line sink).1.ban = m.ban := by
    intro m active n line
    unfold BattlePoke.tick
    split_ifs <;> rfl
  unfold BattlePoke.residual
  exact (htick ..).trans ((htick ..).trans (htick ..))

end MonsterMesh
