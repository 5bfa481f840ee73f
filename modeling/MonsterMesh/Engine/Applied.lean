import MonsterMesh.Engine.Turn
import MonsterMesh.Lib.Run

/-! The fields that hit points, damage records and stats depend on, and what each part of a move
does to them. Everything else a move writes is invisible here. -/
namespace MonsterMesh

structure Vital where
  level : UInt8
  (hp maxHp : UInt16)
  (atk def' spd spc spaG3 spdG3 : UInt16)
  (bideTurns bideDamage lastDamageTaken : UInt16)
  (chargingSlot thrashSlot : UInt8)
  transformed : Bool
  (origAtk origDef origSpd origSpc : UInt16)

def BattlePoke.vital (m : BattlePoke) : Vital :=
  { level := m.level, hp := m.hp, maxHp := m.maxHp
    atk := m.atk, def' := m.def', spd := m.spd, spc := m.spc, spaG3 := m.spaG3, spdG3 := m.spdG3
    bideTurns := m.bideTurns, bideDamage := m.bideDamage, lastDamageTaken := m.lastDamageTaken
    chargingSlot := m.chargingSlot, thrashSlot := m.thrashSlot
    transformed := m.transformed
    origAtk := m.origAtk, origDef := m.origDef, origSpd := m.origSpd, origSpc := m.origSpc }

/-- The vital signs of a duel. -/
structure Vitals where
  (gen : UInt8)
  (sink truncated : Bool)
  (user target : Vital)

def Duel.vitals (d : Duel) : Vitals :=
  { gen := d.gen, sink := d.sink, truncated := d.out.truncated
    user := d.user.vital, target := d.target.vital }

@[simp] theorem vital_setBoost (m : BattlePoke) (s : Stage) (v : Int8) :
    (m.setBoost s v).vital = m.vital := by
  cases s <;> rfl

@[simp] theorem vital_clearBoosts (m : BattlePoke) : m.clearBoosts.vital = m.vital := rfl

theorem hurt_le (m : BattlePoke) (d : UInt16) : (m.hurt d).hp ≤ m.hp := by
  simp only [BattlePoke.hurt]
  split
  · simp
  · rename_i h
    rw [UInt16.not_le] at h
    rw [UInt16.le_iff_toNat_le, UInt16.toNat_sub_of_le _ _ (UInt16.le_of_lt h)]
    omega

/-- A mon a hit leaves standing has lost all of the damage. -/
theorem hurt_add_le (m : BattlePoke) (d : UInt16) (h : (m.hurt d).hp ≠ 0) :
    (m.hurt d).hp.toNat + d.toNat ≤ m.hp.toNat := by
  simp only [BattlePoke.hurt] at h ⊢
  split at h
  · exact absurd rfl h
  · rename_i hlt
    rw [UInt16.not_le] at hlt
    rw [if_neg (by simpa using hlt), UInt16.toNat_sub_of_le _ _ (UInt16.le_of_lt hlt)]
    have := UInt16.lt_iff_toNat_lt.mp hlt
    omega

theorem restore_le (m : BattlePoke) (h : UInt16) : (m.restore h).hp ≤ m.maxHp := by
  simp only [BattlePoke.restore]
  split
  · simp
  · rename_i hlt
    simpa using hlt

theorem vital_hurt (m : BattlePoke) (d : UInt16) :
    (m.hurt d).vital = { m.vital with hp := (m.hurt d).hp } := rfl

theorem vital_restore (m : BattlePoke) (h : UInt16) :
    (m.restore h).vital = { m.vital with hp := (m.restore h).hp } := rfl

theorem vital_hurtTimes (m : BattlePoke) (dmg : UInt16) (n : Nat) :
    (m.hurtTimes dmg n).vital = { m.vital with hp := (m.hurtTimes dmg n).hp } := by
  induction n generalizing m with
  | zero => rfl
  | succ n ih =>
    simp only [BattlePoke.hurtTimes]
    split
    · rfl
    · rw [ih, vital_hurt]

theorem hurtTimes_le (m : BattlePoke) (dmg : UInt16) (n : Nat) :
    (m.hurtTimes dmg n).hp ≤ m.hp := by
  induction n generalizing m with
  | zero => simp [BattlePoke.hurtTimes]
  | succ n ih =>
    simp only [BattlePoke.hurtTimes]
    split
    · exact hurt_le m dmg
    · exact UInt16.le_trans (ih _) (hurt_le m dmg)

theorem hurtTimes_add_le (m : BattlePoke) (dmg : UInt16) {n : Nat} (hn : 0 < n)
    (h : (m.hurtTimes dmg n).hp ≠ 0) :
    (m.hurtTimes dmg n).hp.toNat + dmg.toNat ≤ m.hp.toNat := by
  obtain ⟨k, rfl⟩ : ∃ k, n = k + 1 := ⟨n - 1, by omega⟩
  simp only [BattlePoke.hurtTimes] at h ⊢
  split
  · rename_i hz
    rw [if_pos hz] at h
    exact absurd hz h
  · rename_i hz
    have h₁ := hurt_add_le m dmg hz
    have h₂ := UInt16.le_iff_toNat_le.mp (hurtTimes_le (m.hurt dmg) dmg k)
    omega

namespace Duel

variable (d : Duel) (m : BattlePoke)

/-! ### The primitives -/

@[simp] theorem emit_user (t : String) (p : CStr) : (d.emit t p).user = d.user := rfl

@[simp] theorem emit_target (t : String) (p : CStr) : (d.emit t p).target = d.target := rfl

@[simp] theorem emit_vitals (t : String) (p : CStr) : (d.emit t p).vitals = d.vitals := rfl

theorem narrow_vitals (v : Nat) :
    (d.narrow v).2.vitals =
      { d.vitals with truncated := d.vitals.truncated || decide (65536 ≤ v) } := rfl

theorem setUser_vitals : (d.setUser m).vitals = { d.vitals with user := m.vital } := rfl

theorem setTarget_vitals : (d.setTarget m).vitals = { d.vitals with target := m.vital } := rfl

@[simp] theorem userStat_vitals (s : Stage) (up : Bool) : (d.userStat s up).vitals = d.vitals := by
  unfold userStat
  split
  · cases s <;> rfl
  · rfl

@[simp] theorem targetStat_vitals (s : Stage) (up : Bool) :
    (d.targetStat s up).vitals = d.vitals := by
  unfold targetStat
  split
  · cases s <;> rfl
  · rfl

@[simp] theorem rollHit_vitals (mv : MoveData) : (d.rollHit mv).2.vitals = d.vitals := by
  unfold rollHit; split <;> rfl

@[simp] theorem rollCrit_vitals : d.rollCrit.2.vitals = d.vitals := rfl

end Duel
end MonsterMesh

/-! What `applyMove` can do to the vital signs of both mons, once for all effects. -/
namespace MonsterMesh

open Fallible

/-- Effects that give HP back to the user. -/
def MoveEffect.heals : MoveEffect → Bool
  | .drainHp | .dreamEater | .rest | .healHalf => true
  | _ => false

/-- The damage of the move is computed by `calcDamage`. -/
def MoveData.Damages (mv : MoveData) : Prop := ¬ (mv.power = 0 ∨ mv.effect.ownDamage = true)

/-- The user keeps everything but its HP, which only a healing effect raises. -/
structure Vital.Spent (heals : Bool) (v w : Vital) : Prop where
  same : w = { v with hp := w.hp }
  hp : w.hp ≤ v.hp ∨ heals = true ∧ w.hp ≤ v.maxHp

/-- A hit of `dmg` on the target. -/
structure Vital.Hit (dmg : UInt16) (v w : Vital) : Prop where
  same : w = { v with
    hp := w.hp
    bideDamage := if v.bideTurns ≠ 0 then v.bideDamage + dmg else v.bideDamage
    lastDamageTaken := dmg }
  hp : w.hp ≤ v.hp
  standing : w.hp ≠ 0 → w.hp.toNat + dmg.toNat ≤ v.hp.toNat

/-- HP is all that changes, and it does not rise. -/
structure Vital.Worn (v w : Vital) : Prop where
  same : w = { v with hp := w.hp }
  hp : w.hp ≤ v.hp

/-- The records of a hit: Bide stores it, Counter remembers it. -/
def Vitals.record (v : Vitals) (dmg : UInt16) : Vitals :=
  { v with
    target := { v.target with
      bideDamage := if v.target.bideTurns ≠ 0 then v.target.bideDamage + dmg
        else v.target.bideDamage
      lastDamageTaken := dmg }
    truncated := v.truncated ||
      (v.target.bideTurns ≠ 0 && 65536 ≤ v.target.bideDamage.toNat + dmg.toNat) }

/-- What follows the damage block: the user spends or regains HP, the target loses some. -/
structure Vitals.After (heals : Bool) (v w : Vitals) : Prop where
  user : v.user.Spent heals w.user
  target : v.target.Worn w.target
  rest : w = { v with user := w.user, target := w.target }

/-- A hit of `dmg` lands in a duel. -/
structure Vitals.Struck (heals : Bool) (dmg : UInt16) (v w : Vitals) : Prop where
  user : v.user.Spent heals w.user
  target : v.target.Hit dmg w.target
  rest : w = { v with
    user := w.user, target := w.target
    truncated := v.truncated ||
      (v.target.bideTurns ≠ 0 && 65536 ≤ v.target.bideDamage.toNat + dmg.toNat) }

theorem Vital.Spent.refl (heals : Bool) (v : Vital) : v.Spent heals v :=
  ⟨rfl, .inl (UInt16.le_refl _)⟩

theorem Vital.Worn.refl (v : Vital) : v.Worn v := ⟨rfl, UInt16.le_refl _⟩

theorem Vital.Spent.trans {heals : Bool} {u v w : Vital} (h₁ : u.Spent heals v)
    (h₂ : v.Spent heals w) : u.Spent heals w := by
  have hm : v.maxHp = u.maxHp := by rw [h₁.same]
  refine ⟨by rw [h₂.same, h₁.same], ?_⟩
  rcases h₂.hp with h | ⟨hh, h⟩
  · rcases h₁.hp with h' | ⟨hh, h'⟩
    · exact .inl (UInt16.le_trans h h')
    · exact .inr ⟨hh, UInt16.le_trans h h'⟩
  · exact .inr ⟨hh, hm ▸ h⟩

theorem Vital.Worn.spent {v w : Vital} (h : v.Worn w) (heals : Bool) : v.Spent heals w :=
  ⟨h.same, .inl h.hp⟩

theorem Vital.Worn.trans {u v w : Vital} (h₁ : u.Worn v) (h₂ : v.Worn w) : u.Worn w :=
  ⟨by rw [h₂.same, h₁.same], UInt16.le_trans h₂.hp h₁.hp⟩

theorem worn_hurt (m : BattlePoke) (d : UInt16) : m.vital.Worn (m.hurt d).vital :=
  ⟨rfl, hurt_le m d⟩

theorem spent_restore (m : BattlePoke) (h : UInt16) : m.vital.Spent true (m.restore h).vital :=
  ⟨rfl, .inr ⟨rfl, restore_le m h⟩⟩

namespace Duel

variable (d : Duel) (mv : MoveData)

/-! ### Before and after the damage -/

theorem hitCheck_vitals : (d.hitCheck mv).2.vitals = d.vitals := by
  unfold hitCheck
  dsimp only
  split_ifs
  · rfl
  · rfl
  · exact rollHit_vitals d mv
  · exact rollHit_vitals d mv

theorem beforeDamage_vitals : (d.beforeDamage mv).2.vitals = d.vitals := by
  rw [← hitCheck_vitals d mv]
  unfold beforeDamage
  dsimp only
  split_ifs <;> rfl

theorem hitCount_snd : ∃ g, (d.hitCount mv).2 = { d with rng := g } := by
  unfold hitCount
  split_ifs
  · exact ⟨_, rfl⟩
  · exact ⟨d.rng, rfl⟩
  · exact ⟨d.rng, rfl⟩

theorem hitCount_pos : 0 < (d.hitCount mv).1 := by
  unfold hitCount
  dsimp only
  split_ifs <;> simp

theorem targetAfterHit_vitals : (d.targetAfterHit mv).vitals = d.vitals := by
  unfold targetAfterHit
  split
  · dsimp only
    split_ifs <;> rfl
  · split_ifs <;> rfl
  · rfl

theorem inflict_vitals (st : UInt8) (text : String) : (d.inflict mv st text).vitals = d.vitals := by
  unfold inflict roll
  dsimp only
  split_ifs <;> rfl

theorem inflictSleep_vitals : (d.inflictSleep mv).vitals = d.vitals := by
  unfold inflictSleep roll
  dsimp only
  split_ifs <;> rfl

theorem inflictConfusion_vitals : (d.inflictConfusion mv).vitals = d.vitals := by
  unfold inflictConfusion roll
  dsimp only
  split_ifs <;> rfl

theorem closing_vitals : (d.closing mv).vitals = d.vitals := by
  unfold closing
  dsimp only
  split_ifs <;> rfl

/-- The switch over secondary effects leaves the target alone and costs the user no HP. -/
theorem secondary_vitals :
    ∃ v, (d.secondary mv).vitals = { d.vitals with user := v } ∧
      d.user.vital.Spent mv.effect.heals v := by
  unfold secondary
  cases mv.effect
  case statusPsn => exact ⟨_, inflict_vitals .., .refl _ _⟩
  case statusBrn => exact ⟨_, inflict_vitals .., .refl _ _⟩
  case statusPar => exact ⟨_, inflict_vitals .., .refl _ _⟩
  case statusFrz => exact ⟨_, inflict_vitals .., .refl _ _⟩
  case statusSlp => exact ⟨_, inflictSleep_vitals .., .refl _ _⟩
  case statusConfuse => exact ⟨_, inflictConfusion_vitals .., .refl _ _⟩
  case rest =>
    exact ⟨{ d.user.vital with hp := d.user.maxHp }, rfl, rfl, .inr ⟨rfl, UInt16.le_refl _⟩⟩
  case healHalf =>
    dsimp only
    split_ifs
    · exact ⟨_, rfl, spent_restore _ _⟩
    · exact ⟨_, rfl, spent_restore _ _⟩
    · exact ⟨_, rfl, .refl _ _⟩
  case hyperBeam =>
    dsimp only
    split_ifs <;> exact ⟨_, rfl, .refl _ _⟩
  all_goals first
    | exact ⟨_, userStat_vitals .., .refl _ _⟩
    | exact ⟨_, targetStat_vitals .., .refl _ _⟩
    | exact ⟨_, rfl, .refl _ _⟩

/-! ### The damage block -/

theorem userAfterHit_vitals (dmg : UInt16) :
    ∃ v, (d.userAfterHit mv dmg).vitals = { d.vitals with user := v } ∧
      d.user.vital.Spent mv.effect.heals v := by
  unfold userAfterHit
  cases mv.effect
  case recoil => exact ⟨_, rfl, (worn_hurt _ _).spent _⟩
  case drainHp => exact ⟨_, rfl, spent_restore _ _⟩
  case dreamEater => exact ⟨_, rfl, spent_restore _ _⟩
  case explode => exact ⟨{ d.user.vital with hp := 0 }, rfl, rfl, .inl (UInt16.zero_le)⟩
  all_goals exact ⟨_, rfl, .refl _ _⟩

theorem recordHit_vitals (dmg : UInt16) : (d.recordHit dmg).vitals = d.vitals.record dmg := by
  have hn : UInt16.ofNat (d.target.bideDamage.toNat + dmg.toNat) = d.target.bideDamage + dmg := by
    rw [UInt16.ofNat_add, UInt16.ofNat_toNat, UInt16.ofNat_toNat]
  unfold recordHit Vitals.record
  by_cases hb : d.target.bideTurns = 0
  · have hv : d.vitals.target.bideTurns = 0 := hb
    simp only [hb, hv, ne_eq, not_true_eq_false, if_false, decide_false, Bool.false_and,
      Bool.or_false]
    split_ifs
    · exact targetStat_vitals ..
    · rfl
  · have hv : ¬ d.vitals.target.bideTurns = 0 := hb
    simp only [hb, hv, if_true, ne_eq, not_false_eq_true, decide_true, Bool.true_and]
    split_ifs
    · rw [targetStat_vitals]
      simp only [narrow, hn]
      rfl
    · simp only [narrow, hn]
      rfl

theorem varyDamage_duel {dmg : Nat} {r : UInt16 × Duel} (h : d.varyDamage dmg = .ok r) :
    ∃ g, r.2 = { d with rng := g } := by
  unfold varyDamage at h
  split at h
  · cases h; exact ⟨d.rng, rfl⟩
  · obtain ⟨_, _, h⟩ := bind_eq_ok.mp h
    cases h; exact ⟨_, rfl⟩

theorem calcDamage_duel {r : UInt16 × Bool × Duel} (h : d.calcDamage mv = .ok r) :
    ∃ g, r.2.2 = { d with rng := g } := by
  unfold calcDamage at h
  split at h
  · cases h; exact ⟨d.rng, rfl⟩
  · obtain ⟨_, _, h⟩ := bind_eq_ok.mp h
    obtain ⟨_, _, h⟩ := bind_eq_ok.mp h
    obtain ⟨r', hv, h⟩ := bind_eq_ok.mp h
    cases h
    obtain ⟨g, hg⟩ := varyDamage_duel _ hv
    exact ⟨g, hg⟩

theorem sayHits_eq {d d' : Duel} {hits : Nat} (h : d.sayHits hits = .ok d') :
    ∃ o, d' = { d with out := { d.out with lines := o } } := by
  unfold sayHits at h
  split_ifs at h <;> cases h <;> exact ⟨_, rfl⟩

theorem landHit_struck {dmg : UInt16} {crit : Bool} {d' : Duel}
    (h : d.landHit mv dmg crit = .ok d') : d.vitals.Struck mv.effect.heals dmg d'.vitals := by
  unfold landHit at h
  obtain ⟨d₁, hs, h⟩ := bind_eq_ok.mp h
  cases h
  obtain ⟨o, hs⟩ := sayHits_eq hs
  obtain ⟨g, hg⟩ := hitCount_snd d mv
  have hpos := hitCount_pos d mv
  -- the duel after the hits and their messages
  have h₁ : d₁.vitals = { d.vitals with target := { d.target.vital with
      hp := (d.target.hurtTimes dmg (d.hitCount mv).1).hp } } := by
    rw [← vital_hurtTimes, hs, hg]
    split_ifs <;> rfl
  obtain ⟨v, hv, hu⟩ := userAfterHit_vitals d₁ mv dmg
  have hu₁ : d₁.user.vital = d.user.vital := congrArg Vitals.user h₁
  rw [recordHit_vitals, targetAfterHit_vitals, hv, h₁]
  rw [hu₁] at hu
  exact ⟨hu, ⟨rfl, hurtTimes_le _ _ _, hurtTimes_add_le _ _ hpos⟩, rfl⟩

theorem dealDamage_cases {b : Bool} {d' : Duel} (h : d.dealDamage mv = .ok (b, d')) :
    d'.vitals = d.vitals ∨
      b = true ∧ mv.Damages ∧ ∃ dmg crit d₁, d.calcDamage mv = .ok (dmg, crit, d₁) ∧
        d.vitals.Struck mv.effect.heals dmg d'.vitals := by
  unfold dealDamage at h
  split_ifs at h with h₀
  · cases h; exact .inl rfl
  · obtain ⟨⟨dmg, crit, d₁⟩, hc, h⟩ := bind_eq_ok.mp h
    obtain ⟨g, hg⟩ := calcDamage_duel d mv hc
    dsimp only at h hg
    split_ifs at h with h₁
    · cases h
      rw [hg]
      exact .inl rfl
    · obtain ⟨d₂, hs, h⟩ := bind_eq_ok.mp h
      cases h
      refine .inr ⟨rfl, h₀, dmg, crit, d₁, hc, ?_⟩
      have hl := landHit_struck d₁ mv hs
      rw [hg] at hl
      exact hl

/-! ### Fixed damage -/

/-- `target.hp -= d` of Super Fang takes the difference below 0. -/
def fangsEmpty (d : Duel) (mv : MoveData) : Prop := mv.effect = .superFang ∧ d.target.hp = 0

theorem fang_le (hp : UInt16) (h : hp ≠ 0) : hp - (if hp / 2 = 0 then 1 else hp / 2) ≤ hp := by
  have hpos : 0 < hp.toNat := Nat.pos_of_ne_zero (fun h0 => h (UInt16.toNat_inj.mp h0))
  have hle : (if hp / 2 = 0 then 1 else hp / 2) ≤ hp := by
    rw [UInt16.le_iff_toNat_le]
    split_ifs
    · exact hpos
    · rw [UInt16.toNat_div]
      exact Nat.div_le_self _ _
  rw [UInt16.le_iff_toNat_le, UInt16.toNat_sub_of_le _ _ hle]
  exact Nat.sub_le _ _

theorem modulo_eq_ok {a b v : Nat} (h : modulo a b = .ok v) : b ≠ 0 ∧ v = a % b := by
  unfold modulo at h
  split_ifs at h with hb
  cases h
  exact ⟨hb, rfl⟩

/-- The range of Psywave fits 16 bits at every level. -/
theorem psywave_fits {a v : Nat} {level : UInt8} (h : modulo a (level.toNat * 3 / 2) = .ok v) :
    1 + v < 65536 := by
  obtain ⟨hb, rfl⟩ := modulo_eq_ok h
  have hl := level.toNat_lt
  have hm := Nat.mod_lt a (Nat.pos_of_ne_zero hb)
  omega

theorem fixedDamage_cases {d' : Duel} (h : d.fixedDamage mv = .ok d') (hf : ¬ d.fangsEmpty mv) :
    d'.vitals = { d.vitals with target := d'.target.vital } ∧
      d.target.vital.Worn d'.target.vital := by
  simp only [fangsEmpty, not_and] at hf
  unfold fixedDamage at h
  revert h hf
  cases mv.effect
  case fixedDmg =>
    intro h _
    cases h
    exact ⟨rfl, worn_hurt _ _⟩
  case levelDmg =>
    intro h _
    cases h
    exact ⟨rfl, worn_hurt _ _⟩
  case psywave =>
    intro h _
    obtain ⟨v, hv, h⟩ := bind_eq_ok.mp h
    cases h
    refine ⟨?_, worn_hurt _ _⟩
    have hf : ¬ 65536 ≤ 1 + v := Nat.not_le.mpr (psywave_fits hv)
    rw [setTarget_vitals, narrow_vitals, decide_eq_false hf, Bool.or_false]
    rfl
  case superFang =>
    intro h hf
    cases h
    exact ⟨rfl, rfl, fang_le _ (hf rfl)⟩
  case ohko =>
    intro h _
    dsimp only at h
    split_ifs at h
    · cases h
      exact ⟨rfl, .refl _⟩
    · cases h
      exact ⟨rfl, rfl, UInt16.zero_le⟩
  all_goals
    intro h _
    cases h
    exact ⟨rfl, .refl _⟩

/-! ### The whole of `applyMove` -/

/-- Super Fang reaches its halving with the target at 0 HP. -/
def FangUnderflow : Prop :=
  (d.beforeDamage mv).1 = true ∧
    ∃ d₁, (d.beforeDamage mv).2.dealDamage mv = .ok (true, d₁) ∧ d₁.fangsEmpty mv

theorem applyMove_cases {d' : Duel} (h : d.applyMove mv = .ok d') (hf : ¬ d.FangUnderflow mv) :
    ∃ w, (w = d.vitals ∨ (d.beforeDamage mv).1 = true ∧ mv.Damages ∧ ∃ dmg crit d₁,
        (d.beforeDamage mv).2.calcDamage mv = .ok (dmg, crit, d₁) ∧
          d.vitals.Struck mv.effect.heals dmg w) ∧
      w.After mv.effect.heals d'.vitals := by
  have hb := beforeDamage_vitals d mv
  have hrefl : ∀ w : Vitals, w.After mv.effect.heals w := fun w => ⟨.refl _ _, .refl _, rfl⟩
  unfold applyMove at h
  split at h
  · rename_i hreach
    obtain ⟨⟨goOn, d₁⟩, hd, h⟩ := bind_eq_ok.mp h
    refine ⟨d₁.vitals, ?_, ?_⟩
    · rcases dealDamage_cases _ mv hd with he | ⟨_, hm, dmg, crit, d₂, hc, hs⟩
      · exact .inl (he.trans hb)
      · exact .inr ⟨hreach, hm, dmg, crit, d₂, hc, hb ▸ hs⟩
    · cases goOn with
      | false =>
        cases h
        exact hrefl _
      | true =>
        obtain ⟨d₂, hx, h⟩ := bind_eq_ok.mp h
        cases h
        have hne : ¬ d₁.fangsEmpty mv := fun he => hf ⟨hreach, d₁, hd, he⟩
        obtain ⟨hv, hw⟩ := fixedDamage_cases d₁ mv hx hne
        obtain ⟨u, hsec, hu⟩ := secondary_vitals d₂ mv
        have hu₂ : d₂.user.vital = d₁.user.vital := congrArg Vitals.user hv
        rw [closing_vitals, hsec]
        rw [hu₂] at hu
        refine ⟨hu, hw, ?_⟩
        rw [hv]
  · cases h
    exact ⟨d.vitals, .inl rfl, hb ▸ hrefl _⟩

end Duel
end MonsterMesh
