import Mathlib.Data.Nat.Basic
import Mathlib.Order.Lattice
import MonsterMesh.Lib.Walk
import MonsterMesh.Pet.Effects

/-! The ends of the pet's activities, of its steps and of the game. -/
namespace MonsterMesh.Pet

open Walk

variable {c : Moment} {s s' s'' : Pet} {n k l : ℕ} {m : UInt32}

/-! ### Counted steps -/

/-- `k` steps were counted and converted. -/
structure Counted (s s' : Pet) (k : ℕ) : Prop where
  steps : s'.status.steps = s.status.steps + k
  stepsToConvert : s'.stepsToConvert = (s.stepsToConvert + k) % stepsPerWatt
  watts : s'.status.watts = s.status.watts + ((s.stepsToConvert + k) / stepsPerWatt : ℕ)

/-- How many of `n` steps are counted. -/
def counts (s : Pet) (n : ℕ) : ℕ := min n (99999 - s.status.steps)

/-- The watts of `n` steps fit into their 32 bits. -/
def affords (s : Pet) (n : ℕ) : Prop :=
  s.status.watts + ((s.stepsToConvert + counts s n) / stepsPerWatt : ℕ) < 2 ^ 31

instance (s : Pet) (n : ℕ) : Decidable (affords s n) := by unfold affords; infer_instance

/-- What is kept of a pet. -/
structure WellKept (s : Pet) : Prop where
  friendship : Friendly s.status
  watts : 0 ≤ s.status.watts
  stepsToConvert : s.stepsToConvert < stepsPerWatt
  settled : Settled s

theorem Counted.refl (h : s.stepsToConvert < stepsPerWatt) : Counted s s 0 := by
  refine ⟨rfl, (Nat.mod_eq_of_lt h).symm, ?_⟩
  rw [Nat.add_zero, Nat.div_eq_of_lt h]
  exact (Int.add_zero _).symm

theorem Counted.trans (h : Counted s s' k) (h' : Counted s' s'' l) : Counted s s'' (k + l) := by
  obtain ⟨hsteps, hconvert, hwatts⟩ := h
  obtain ⟨hsteps', hconvert', hwatts'⟩ := h'
  unfold stepsPerWatt at *
  rw [hconvert] at hconvert' hwatts'
  refine ⟨by omega, ?_, ?_⟩
  · change _ = _ % 20
    omega
  · change _ = _ + ((_ / 20 : ℕ) : ℤ)
    omega

theorem wrap32_eq {x : ℤ} (h0 : 0 ≤ x) (h : x < 2 ^ 31) : wrap32 x = x := by
  unfold wrap32
  rw [Int.bmod_eq_of_le (by omega) (by omega)]

/-- An unlocked tier changes the friendship and the animation. -/
theorem unlockTiers_eq (c : Moment) (s : Pet) :
    ∃ (f : ℤ) (tier1 tier2 : Bool) (a : AnimPlayer), unlockTiers c s = { s with
        status.friendshipLevel := f, status.todayReach150 := tier1, status.todayReach300 := tier2, anim := a } ∧
      (Friendly s.status → -2000 ≤ f ∧ f ≤ 4000) := by
  have hfirst : ∃ (f : ℤ) (tier1 : Bool) (a : AnimPlayer),
      (if !s.status.todayReach150 ∧ stepsUnlock1 ≤ s.status.totalSteps then
        updateFriendship c { s with status.todayReach150 := true } 200 else s) = { s with
          status.friendshipLevel := f, status.todayReach150 := tier1, anim := a } ∧
        (Friendly s.status → -2000 ≤ f ∧ f ≤ 4000) := by
    split
    · obtain ⟨f, a, heq, hrange, -⟩ := updateFriendship_eq c { s with status.todayReach150 := true } 200
      exact ⟨f, true, a, heq, fun _ => hrange⟩
    · exact ⟨s.status.friendshipLevel, s.status.todayReach150, s.anim, rfl, id⟩
  obtain ⟨f, tier1, a, heq, hrange⟩ := hfirst
  unfold unlockTiers
  rw [heq]
  dsimp only
  split
  · obtain ⟨f', a', heq', hrange', -⟩ := updateFriendship_eq c { s with
      status.friendshipLevel := f, status.todayReach150 := tier1, status.todayReach300 := true, anim := a } 300
    exact ⟨f', tier1, true, a', heq', fun _ => hrange'⟩
  · exact ⟨f, tier1, s.status.todayReach300, a, rfl, hrange⟩

/-- The state of the pet after a step that brings it to `totalSteps` and `consecutiveSteps`. -/
def steppedState (s : Pet) : GameState :=
  if !s.status.reachEnd ∧ stepsGoal ≤ (s.status.totalSteps + 1) % 2 ^ 32 then .gameComplete
  else if consecutiveToWalk ≤ (s.consecutiveSteps + 1) % 2 ^ 32 ∧ !s.isWalking then .walking
  else s.gameState

/-- What one step does, if it is counted at all. -/
structure Stepped (s s' : Pet) : Prop where
  steps : s'.status.steps = s.status.steps + 1
  totalSteps : s'.status.totalSteps = (s.status.totalSteps + 1) % 2 ^ 32
  consecutiveSteps : s'.consecutiveSteps = (s.consecutiveSteps + 1) % 2 ^ 32
  stepsToConvert : s'.stepsToConvert = (countStep s).stepsToConvert
  watts : s'.status.watts = (countStep s).status.watts
  friendship : Friendly s.status → Friendly s'.status
  gameState : s'.gameState = steppedState s
  reachEnd : s.status.reachEnd = true → s'.status.reachEnd = true
  settled : Settled s → Settled s'

theorem countStep_eq (s : Pet) : ∃ (w : ℤ) (m : ℕ), countStep s = { s with
    status.steps := s.status.steps + 1, status.totalSteps := (s.status.totalSteps + 1) % 2 ^ 32,
    status.watts := w, consecutiveSteps := (s.consecutiveSteps + 1) % 2 ^ 32, stepsToConvert := m } := by
  unfold countStep
  dsimp only
  split
  · exact ⟨_, _, rfl⟩
  · exact ⟨_, _, rfl⟩

theorem processStepCore_stepped (hs : s.status.steps < 99999) : Stepped s (processStepCore c s) := by
  obtain ⟨w, m, hcount⟩ := countStep_eq s
  obtain ⟨f, tier1, tier2, a, heq, hrange⟩ := unlockTiers_eq c (countStep s)
  rw [hcount] at heq hrange
  unfold processStepCore
  rw [if_neg (Nat.not_le.mpr hs), hcount, heq]
  dsimp only
  have hw : w = (countStep s).status.watts := by rw [hcount]
  have hm : m = (countStep s).stepsToConvert := by rw [hcount]
  by_cases hgoal : !s.status.reachEnd ∧ stepsGoal ≤ (s.status.totalSteps + 1) % 2 ^ 32
  · rw [if_pos hgoal]
    have hstate : steppedState s = .gameComplete := if_pos hgoal
    refine ⟨rfl, rfl, rfl, hm, hw, hrange, hstate.symm, fun _ => rfl, fun _ => ⟨fun hr => ?_, fun _ => rfl⟩⟩
    cases hr
  · rw [if_neg hgoal]
    by_cases hwalk : consecutiveToWalk ≤ (s.consecutiveSteps + 1) % 2 ^ 32 ∧ !s.isWalking
    · rw [if_pos hwalk]
      have hstate : steppedState s = .walking := (if_neg hgoal).trans (if_pos hwalk)
      exact ⟨rfl, rfl, rfl, hm, hw, hrange, hstate.symm, id, fun _ => settled_of_other rfl⟩
    · rw [if_neg hwalk]
      have hstate : steppedState s = s.gameState := (if_neg hgoal).trans (if_neg hwalk)
      exact ⟨rfl, rfl, rfl, hm, hw, hrange, hstate.symm, id, id⟩

/-- A step is converted with those before it. -/
theorem countStep_counted (hs : s.stepsToConvert < stepsPerWatt) (hwatts : 0 ≤ s.status.watts)
    (hfit : s.status.watts + ((s.stepsToConvert + 1) / stepsPerWatt : ℕ) < 2 ^ 31) :
    (countStep s).stepsToConvert = (s.stepsToConvert + 1) % stepsPerWatt ∧
      (countStep s).status.watts = s.status.watts + ((s.stepsToConvert + 1) / stepsPerWatt : ℕ) := by
  unfold stepsPerWatt at hs hfit
  have hsmall : (s.stepsToConvert + 1) % 2 ^ 32 = s.stepsToConvert + 1 := Nat.mod_eq_of_lt (by omega)
  unfold countStep stepsPerWatt
  dsimp only
  rw [hsmall]
  split
  · rename_i hfull
    have hexact : s.stepsToConvert + 1 = 20 := by omega
    rw [hexact] at hfit ⊢
    exact ⟨rfl, wrap32_eq (by omega) hfit⟩
  · rename_i hfull
    have hless : s.stepsToConvert + 1 < 20 := by omega
    rw [Nat.mod_eq_of_lt hless, Nat.div_eq_of_lt hless]
    exact ⟨rfl, (Int.add_zero _).symm⟩

theorem Stepped.counted (h : Stepped s s') (hkept : WellKept s)
    (hfit : s.status.watts + ((s.stepsToConvert + 1) / stepsPerWatt : ℕ) < 2 ^ 31) : Counted s s' 1 := by
  obtain ⟨hconvert, hwatts⟩ := countStep_counted hkept.stepsToConvert hkept.watts hfit
  exact ⟨h.steps, h.stepsToConvert.trans hconvert, h.watts.trans hwatts⟩

/-- What was counted of a well kept pet leaves it so. -/
theorem Counted.kept (h : Counted s s' k) (hkept : WellKept s) (hf : Friendly s.status → Friendly s'.status)
    (hs : Settled s → Settled s') : WellKept s' := by
  refine ⟨hf hkept.friendship, ?_, ?_, hs hkept.settled⟩
  · rw [h.watts]
    exact Int.add_nonneg hkept.watts (Int.natCast_nonneg _)
  · rw [h.stepsToConvert]
    exact Nat.mod_lt _ (Nat.succ_pos 19)

/-- A step more than what can be counted is not counted. -/
theorem processStepCore_full (hs : 99999 ≤ s.status.steps) : processStepCore c s = s := if_pos hs

theorem affords_step (hs : s.status.steps < 99999) (h : affords s (n + 1)) :
    s.status.watts + ((s.stepsToConvert + 1) / stepsPerWatt : ℕ) < 2 ^ 31 := by
  unfold affords counts stepsPerWatt at h
  unfold stepsPerWatt
  omega

/-- A step is counted or not. -/
theorem processStepCore_kept (hkept : WellKept s) (hfit : affords s 1) :
    ∃ k, Counted s (processStepCore c s) k ∧ WellKept (processStepCore c s) := by
  by_cases hs : 99999 ≤ s.status.steps
  · rw [processStepCore_full hs]
    exact ⟨0, .refl hkept.stepsToConvert, hkept⟩
  · have hstepped : Stepped s (processStepCore c s) := processStepCore_stepped (Nat.not_le.mp hs)
    have hone := hstepped.counted hkept (affords_step (Nat.not_le.mp hs) hfit)
    exact ⟨1, hone, hone.kept hkept hstepped.friendship hstepped.settled⟩

theorem affords_rest (hs : s.status.steps < 99999) (h : affords s (n + 1)) (hc : Counted s s' 1) :
    affords s' n := by
  obtain ⟨hsteps, hconvert, hwatts⟩ := hc
  unfold affords counts stepsPerWatt at *
  omega

/-- The steps of a batch are counted one by one. -/
theorem processSteps_counted (hkept : WellKept s) (hfit : affords s n) :
    ∃ k, Counted s (processSteps c n s) k ∧ WellKept (processSteps c n s) := by
  induction n generalizing s with
  | zero => exact ⟨0, .refl hkept.stepsToConvert, hkept⟩
  | succ n ih =>
    unfold processSteps
    dsimp only
    by_cases hs : 99999 ≤ s.status.steps
    · rw [processStepCore_full hs]
      split
      · exact ⟨0, .refl hkept.stepsToConvert, hkept⟩
      · refine ih hkept ?_
        unfold affords counts at hfit ⊢
        rw [Nat.sub_eq_zero_of_le hs, Nat.min_zero] at hfit ⊢
        exact hfit
    · have hstepped : Stepped s (processStepCore c s) := processStepCore_stepped (Nat.not_le.mp hs)
      have hone := hstepped.counted hkept (affords_step (Nat.not_le.mp hs) hfit)
      have hnext := hone.kept hkept hstepped.friendship hstepped.settled
      split
      · exact ⟨1, hone, hnext⟩
      · obtain ⟨k, hrest, hkept'⟩ := ih hnext (affords_rest (Nat.not_le.mp hs) hfit hone)
        exact ⟨1 + k, hone.trans hrest, hkept'⟩

/-! ### End states -/

/-- The next `n` steps neither complete a streak nor reach the goal. -/
def lasts (s : Pet) (n : ℕ) : Prop :=
  (s.gameState = .ranAway → counts s n = 0 ∨ s.consecutiveSteps + counts s n < consecutiveToWalk ∧
    (s.status.reachEnd = true ∨ s.status.totalSteps + counts s n < stepsGoal)) ∧
  (s.gameState = .gameComplete → counts s n = 0 ∨ s.isWalking = true ∨
    s.consecutiveSteps + 1 < consecutiveToWalk)

instance (s : Pet) (n : ℕ) : Decidable (lasts s n) := by unfold lasts; infer_instance

theorem steppedState_ranAway (hg : s.gameState = .ranAway) (hc : s.consecutiveSteps + 1 < consecutiveToWalk)
    (hr : s.status.reachEnd = true ∨ s.status.totalSteps + 1 < stepsGoal) : steppedState s = .ranAway := by
  unfold steppedState consecutiveToWalk stepsGoal at *
  rw [if_neg, if_neg, hg]
  · omega
  · rintro ⟨hn, hgoal⟩
    rcases hr with hr | hr
    · rw [hr] at hn
      cases hn
    · omega

theorem processSteps_ranAway (hg : s.gameState = .ranAway) (hl : lasts s n) :
    (processSteps c n s).gameState = .ranAway := by
  induction n generalizing s with
  | zero => exact hg
  | succ n ih =>
    unfold processSteps
    dsimp only
    by_cases hs : 99999 ≤ s.status.steps
    · rw [processStepCore_full hs, hg, if_neg (by decide)]
      refine ih hg ⟨fun _ => .inl ?_, fun hc => ?_⟩
      · unfold counts
        rw [Nat.sub_eq_zero_of_le hs, Nat.min_zero]
      · rw [hg] at hc
        cases hc
    · have hstepped : Stepped s (processStepCore c s) := processStepCore_stepped (Nat.not_le.mp hs)
      have hcounts : counts s (n + 1) = counts (processStepCore c s) n + 1 := by
        unfold counts
        rw [hstepped.steps]
        omega
      obtain ⟨hc, hr⟩ := (hl.1 hg).resolve_left (by omega)
      have hnext : (processStepCore c s).gameState = .ranAway := by
        rw [hstepped.gameState]
        exact steppedState_ranAway hg (by omega) (hr.imp_right fun h => by omega)
      rw [hnext, if_neg (by decide)]
      unfold consecutiveToWalk at hc
      unfold stepsGoal at hr
      refine ih hnext ⟨fun _ => .inr ⟨?_, ?_⟩, fun hc => ?_⟩
      · rw [hstepped.consecutiveSteps]
        unfold consecutiveToWalk
        omega
      · rcases hr with hr | hr
        · exact .inl (hstepped.reachEnd hr)
        · refine .inr ?_
          rw [hstepped.totalSteps]
          unfold stepsGoal
          omega
      · rw [hnext] at hc
        cases hc

theorem processStepCore_complete (hg : s.gameState = .gameComplete) (hr : s.status.reachEnd = true)
    (hl : lasts s (n + 1)) : (processStepCore c s).gameState = .gameComplete := by
  by_cases hs : 99999 ≤ s.status.steps
  · rw [processStepCore_full hs, hg]
  · have hstepped : Stepped s (processStepCore c s) := processStepCore_stepped (Nat.not_le.mp hs)
    have hcounts : counts s (n + 1) ≠ 0 := by
      unfold counts
      omega
    rw [hstepped.gameState]
    unfold steppedState
    rw [if_neg, if_neg, hg]
    · rintro ⟨hc, hn⟩
      rcases (hl.2 hg).resolve_left hcounts with hw | hw
      · rw [hw] at hn
        cases hn
      · unfold consecutiveToWalk at hc hw
        omega
    · rintro ⟨hn, -⟩
      rw [hr] at hn
      cases hn

/-- No batch of steps leaves an end state. -/
theorem processSteps_final (hs : Settled s) (hfinal : isFinal s.gameState = true) (hl : lasts s n) :
    (processSteps c n s).gameState = s.gameState := by
  rcases Bool.or_eq_true_iff.mp hfinal with hg | hg
  · have hg := of_decide_eq_true hg
    rw [hg]
    exact processSteps_ranAway hg hl
  · have hg := of_decide_eq_true hg
    cases n with
    | zero => rfl
    | succ n =>
      have hnext := processStepCore_complete (c := c) hg (hs.2 hg) hl
      unfold processSteps
      dsimp only
      rw [if_pos hnext, hnext, hg]

/-! ### Events -/

/-- A pet that was tended without a step is kept well. -/
theorem Tended.kept (h : Tended c s s') (hkept : WellKept s) (hs : Settled s') : WellKept s' := by
  refine ⟨h.friendship hkept.friendship, ?_, ?_, hs⟩
  · rw [h.watts]
    exact hkept.watts
  · rw [h.stepsToConvert]
    exact hkept.stepsToConvert

theorem gameAddSteps_eq (hcount : m ≠ 0) :
    ∃ (t u : UInt32) (b : Bool), gameAddSteps c s m =
      processSteps c m.toNat { s with lastActivityMs := t, screenOn := b, lastStepMs := u } := by
  unfold gameAddSteps
  rw [if_neg hcount]
  dsimp only
  split
  · exact ⟨_, _, _, rfl⟩
  · exact ⟨_, _, _, rfl⟩

/-- What a batch of steps does to a pet. -/
theorem gameAddSteps_kept (hkept : WellKept s) (hfit : affords s m.toNat) :
    ∃ k, Counted s (gameAddSteps c s m) k ∧ WellKept (gameAddSteps c s m) := by
  by_cases hm : m = 0
  · have heq : gameAddSteps c s m = s := if_pos hm
    rw [heq]
    exact ⟨0, .refl hkept.stepsToConvert, hkept⟩
  · obtain ⟨t, u, b, heq⟩ := gameAddSteps_eq (c := c) (s := s) hm
    rw [heq]
    obtain ⟨k, hcounted, hk⟩ := processSteps_counted (c := c) (n := m.toNat)
      (s := { s with lastActivityMs := t, screenOn := b, lastStepMs := u })
      ⟨hkept.friendship, hkept.watts, hkept.stepsToConvert, hkept.settled⟩ hfit
    exact ⟨k, ⟨hcounted.steps, hcounted.stepsToConvert, hcounted.watts⟩, hk⟩

theorem gameAddSteps_final (hs : Settled s) (hfinal : isFinal s.gameState = true) (hl : lasts s m.toNat) :
    (gameAddSteps c s m).gameState = s.gameState := by
  by_cases hm : m = 0
  · have heq : gameAddSteps c s m = s := if_pos hm
    rw [heq]
  · obtain ⟨t, u, b, heq⟩ := gameAddSteps_eq (c := c) (s := s) hm
    rw [heq]
    exact processSteps_final (s := { s with lastActivityMs := t, screenOn := b, lastStepMs := u }) hs hfinal hl

/-- A message to a pet that is awake ends its walk or not, and is a step. -/
theorem gameOnMeshMessage_awake (hg : s.gameState ≠ .sleeping) :
    ∃ a : AnimPlayer, gameOnMeshMessage c s = processStepCore c { stopWalking c { s with
      lastActivityMs := c.millis, screenOn := true, anim := a } with lastStepMs := c.millis } := by
  unfold gameOnMeshMessage
  rw [if_neg hg]
  dsimp only
  split
  · exact ⟨_, rfl⟩
  · exact ⟨_, rfl⟩

theorem enterIdle_status : (enterIdle c s).status = s.status := by
  obtain ⟨a, heq, -⟩ := enterIdle_eq c s
  rw [heq]

theorem stopWalking_status : (stopWalking c s).status = s.status := by
  unfold stopWalking
  split
  · exact enterIdle_status
  · rfl

/-- A message to a sleeping pet is no step. -/
theorem gameOnMeshMessage_asleep (hg : s.gameState = .sleeping) :
    Tended c s (gameOnMeshMessage c s) ∧ (gameOnMeshMessage c s).status.steps = s.status.steps ∧
      Settled (gameOnMeshMessage c s) := by
  unfold gameOnMeshMessage
  rw [if_pos hg]
  dsimp only
  split
  · obtain ⟨f, a, heq, hrange, hanim⟩ := updateFriendship_eq c { s with
      lastActivityMs := c.millis, screenOn := true
      consecutiveSteps := (s.consecutiveSteps + 1) % 2 ^ 32 } (-200)
    refine ⟨Tended.trans ?_ enterIdle_tended, ?_, enterIdle_settled⟩
    · rw [heq]
      exact ⟨rfl, rfl, rfl, rfl, fun _ => hrange, hanim, id⟩
    · rw [enterIdle_status, heq]
  · refine ⟨⟨rfl, rfl, rfl, rfl, id, .inl rfl, id⟩, rfl, settled_of_other ?_⟩
    change (isStill s.gameState || decide (s.gameState = .gameComplete)) = false
    rw [hg]
    rfl

/-- What a message does to a pet. -/
theorem gameOnMeshMessage_kept (hkept : WellKept s) (hfit : s.gameState = .sleeping ∨ affords s 1) :
    ∃ k, Counted s (gameOnMeshMessage c s) k ∧ WellKept (gameOnMeshMessage c s) := by
  by_cases hg : s.gameState = .sleeping
  · obtain ⟨htended, hsteps, hsettled⟩ := gameOnMeshMessage_asleep (c := c) hg
    have hmod := Nat.mod_eq_of_lt hkept.stepsToConvert
    refine ⟨0, ⟨hsteps, ?_, ?_⟩, htended.kept hkept hsettled⟩
    · rw [htended.stepsToConvert, Nat.add_zero, hmod]
    · rw [htended.watts, Nat.add_zero, Nat.div_eq_of_lt hkept.stepsToConvert]
      exact (Int.add_zero _).symm
  · obtain ⟨a, heq⟩ := gameOnMeshMessage_awake (c := c) hg
    generalize hu : { s with lastActivityMs := c.millis, screenOn := true, anim := a } = u at heq
    have hfit : affords s 1 := hfit.resolve_left hg
    have hku : WellKept u := by
      rw [← hu]
      exact ⟨hkept.friendship, hkept.watts, hkept.stepsToConvert, hkept.settled⟩
    have hkw : WellKept { stopWalking c u with lastStepMs := c.millis } := by
      have hk := stopWalking_tended.kept hku (stopWalking_settled (c := c) hku.settled)
      exact ⟨hk.friendship, hk.watts, hk.stepsToConvert, hk.settled⟩
    have hstatus : (stopWalking c u).status = s.status := by
      rw [stopWalking_status, ← hu]
    have hconvert : (stopWalking c u).stepsToConvert = s.stepsToConvert := by
      rw [stopWalking_tended.stepsToConvert, ← hu]
    rw [heq]
    generalize hw : { stopWalking c u with lastStepMs := c.millis } = w at hkw ⊢
    have hws : w.status = s.status := by
      rw [← hw]
      exact hstatus
    have hwc : w.stepsToConvert = s.stepsToConvert := by
      rw [← hw]
      exact hconvert
    have hfit' : affords w 1 := by
      unfold affords counts
      rw [hws, hwc]
      exact hfit
    obtain ⟨k, hk, hkept'⟩ := processStepCore_kept (c := c) hkw hfit'
    refine ⟨k, ⟨?_, ?_, ?_⟩, hkept'⟩
    · rw [hk.steps, hws]
    · rw [hk.stepsToConvert, hwc]
    · rw [hk.watts, hws, hwc]

theorem processStepCore_final (hs : Settled s) (hfinal : isFinal s.gameState = true) (hl : lasts s 1) :
    (processStepCore c s).gameState = s.gameState := by
  have hone := processSteps_final (c := c) hs hfinal hl
  unfold processSteps processSteps at hone
  dsimp only at hone
  rw [ite_self] at hone
  exact hone

/-- A walk that ends begins a new streak. -/
theorem stopWalking_lasts (hs : Settled s) (hfinal : isFinal s.gameState = true) (hstay : ¬ strays c s)
    (hl : lasts s 1) : lasts (stopWalking c s) 1 := by
  have hg := stopWalking_final hs hfinal hstay
  by_cases hstop : stopped c s = true
  · have hwalk : s.isWalking = true := (Bool.and_eq_true_iff.mp hstop).1
    refine ⟨fun hr => ?_, fun _ => .inr (.inr ?_)⟩
    · rw [hs.1 (by rw [hg.symm.trans hr]; rfl)] at hwalk
      cases hwalk
    · obtain ⟨a, heq, -⟩ := enterIdle_eq c s
      unfold stopWalking
      rw [if_pos hstop, heq]
      exact (by decide : 0 + 1 < consecutiveToWalk)
  · have heq : stopWalking c s = s := if_neg hstop
    rw [heq]
    exact hl

/-- No message leaves an end state. -/
theorem gameOnMeshMessage_final (hs : Settled s) (hfinal : isFinal s.gameState = true) (hstay : ¬ strays c s)
    (hl : lasts s 1) : (gameOnMeshMessage c s).gameState = s.gameState := by
  have hawake : s.gameState ≠ .sleeping := by
    intro he
    rw [he] at hfinal
    exact absurd hfinal Bool.false_ne_true
  obtain ⟨a, heq⟩ := gameOnMeshMessage_awake (c := c) hawake
  rw [heq]
  have hstop := stopWalking_final (c := c) (s := { s with
    lastActivityMs := c.millis, screenOn := true, anim := a }) hs hfinal hstay
  refine Eq.trans (processStepCore_final (s := { stopWalking c { s with
    lastActivityMs := c.millis, screenOn := true, anim := a } with lastStepMs := c.millis }) ?_ ?_ ?_) hstop
  · exact stopWalking_settled hs
  · change isFinal (stopWalking c _).gameState = true
    rw [hstop]
    exact hfinal
  · exact stopWalking_lasts hs hfinal hstay hl

/-! ### Buttons -/

/-- A gift spends its watts or none. -/
theorem giveGift_cases (c : Moment) (s : Pet) (w : ℤ) :
    (∃ t, giveGift c s w = { s with giftPowUntil := t }) ∨
      (0 < giftWatts s w ∧ giftWatts s w ≤ s.status.watts) ∧
        ∃ (f : ℤ) (a : AnimPlayer) (t : UInt32), giveGift c s w = { s with
          status.watts := s.status.watts - giftWatts s w, status.friendshipLevel := f, anim := a
          giftPowUntil := t } ∧ -2000 ≤ f ∧ f ≤ 4000 := by
  unfold giveGift
  dsimp only
  split
  · exact .inl ⟨_, rfl⟩
  · obtain ⟨f, a, heq, hrange, -⟩ := updateFriendship_eq c
      { s with status.watts := s.status.watts - giftWatts s w } (wrap32 (giftWatts s w * 20))
    refine .inr ⟨by omega, f, a, c.millis + 600, ?_, hrange⟩
    rw [heq]

/-- A gift was chosen from the menu and paid for. -/
def Spent (s s' : Pet) : Prop :=
  s.gameState = .giftMenu ∧ ∃ opt ∈ giftOptions[s.giftMenuCursor]?, 0 < giftWatts s opt.watts ∧
    giftWatts s opt.watts ≤ s.status.watts ∧ s'.status.watts = s.status.watts - giftWatts s opt.watts

/-- What a button does to a pet. -/
structure Pressed (s s' : Pet) : Prop where
  stepsToConvert : s'.stepsToConvert = s.stepsToConvert
  watts : s'.status.watts = s.status.watts ∨ Spent s s'
  friendship : Friendly s.status → Friendly s'.status
  settled : Settled s → Settled s'

theorem Pressed.kept (h : Pressed s s') (hkept : WellKept s) : WellKept s' := by
  refine ⟨h.friendship hkept.friendship, ?_, ?_, h.settled hkept.settled⟩
  · rcases h.watts with hw | ⟨-, opt, -, -, hle, hw⟩
    · rw [hw]
      exact hkept.watts
    · omega
  · rw [h.stepsToConvert]
    exact hkept.stepsToConvert

theorem Pressed.of_tended (h : Tended c s s') (hs : Settled s → Settled s') : Pressed s s' :=
  ⟨h.stepsToConvert, .inl h.watts, h.friendship, hs⟩

theorem gameOnShortPress_pressed : Pressed s (gameOnShortPress c s) := by
  unfold gameOnShortPress
  dsimp only
  split
  · exact ⟨rfl, .inl rfl, id, id⟩
  · split
    · exact ⟨rfl, .inl rfl, id, id⟩
    · exact ⟨rfl, .inl rfl, id, fun _ => settled_of_other rfl⟩
    · exact ⟨rfl, .inl rfl, id, fun _ => settled_of_other rfl⟩
    · exact ⟨rfl, .inl rfl, id, id⟩

theorem gameOnShortPress_watts : (gameOnShortPress c s).status.watts = s.status.watts := by
  unfold gameOnShortPress
  dsimp only
  split
  · rfl
  · split <;> rfl

theorem gameOnLongPress_pressed : Pressed s (gameOnLongPress c s) := by
  have hidle : Pressed s (enterIdle c { s with screenOn := true, lastActivityMs := c.millis }) := by
    have htended : Tended c s { s with screenOn := true, lastActivityMs := c.millis } :=
      ⟨rfl, rfl, rfl, rfl, id, .inl rfl, id⟩
    exact .of_tended (htended.trans enterIdle_tended) fun _ => enterIdle_settled
  unfold gameOnLongPress
  dsimp only
  split
  · exact ⟨rfl, .inl rfl, id, id⟩
  · split
    · rename_i hg
      split
      · rename_i opt hopt
        unfold chooseGift
        split
        · rcases giveGift_cases c { s with screenOn := true, lastActivityMs := c.millis } opt.watts with
            ⟨t, heq⟩ | ⟨⟨hpos, hle⟩, f, a, t, heq, hrange⟩
          · rw [heq]
            exact ⟨rfl, .inl rfl, id, id⟩
          · rw [heq]
            refine ⟨rfl, .inr ⟨hg, opt, hopt, hpos, hle, rfl⟩, fun _ => hrange, id⟩
        · split
          · exact ⟨rfl, .inl rfl, id, fun _ => settled_of_other rfl⟩
          · split
            · exact ⟨rfl, .inl rfl, id, fun _ => settled_of_other rfl⟩
            · exact hidle
      · exact ⟨rfl, .inl rfl, id, id⟩
    · exact hidle
    · exact hidle
    · exact ⟨rfl, .inl rfl, id, fun _ => settled_of_other rfl⟩

/-! ### Updates -/

theorem updated_final (hs : Settled s) (hfinal : isFinal s.gameState = true) (hstay : ¬ strays c s) :
    (updated c s).gameState = s.gameState := by
  have htick := tick_final hs hfinal hstay
  rcases updated_cases c s with ⟨a, heq⟩ | ⟨a, heq⟩
  · rw [heq]
    exact htick
  · rw [heq]
    -- the first tick has looked at the walk, so the second one does not
    have hwalk : ¬ strays c { tick c s with anim := a } := fun hc =>
      Bool.eq_false_iff.mp tick_stopped hc.2.1
    refine (tick_final (s := { tick c s with anim := a }) (tick_settled hs) ?_ hwalk).trans htick
    change isFinal (tick c s).gameState = true
    rw [htick]
    exact hfinal

/-- An update never leaves an activity. -/
theorem updated_activity (hs : Settled s) (hg : isActivity s.gameState = true) :
    (updated c s).gameState = s.gameState := by
  have htick : (tick c s).gameState = s.gameState := tick_activity hs hg
  rcases updated_cases c s with ⟨a, heq⟩ | ⟨a, heq⟩
  · rw [heq]
    exact htick
  · rw [heq]
    refine (tick_activity (s := { tick c s with anim := a }) (tick_settled hs) ?_).trans htick
    change isActivity (tick c s).gameState = true
    rw [htick]
    exact hg

/-- The walk of a happy pet ended, or its time is over, and no activity begins instead. -/
def calms (c : Moment) (s : Pet) : Prop :=
  (stopped c s = true ∨ happyOver c s = true) ∧
    ¬ (minuteOver c s = true ∧ activityHour c s ∧ friendshipRanAway < s.status.friendshipLevel ∧
      s.status.reachEnd = false)

instance (c : Moment) (s : Pet) : Decidable (calms c s) := by unfold calms; infer_instance

instance (c : Moment) (s : Pet) : Decidable (strays c s) := by unfold strays; infer_instance

/-- A happy pet that calms is idle before the minute is looked at. -/
theorem tick_calms (hg : s.gameState = .happy) (hc : stopped c s = true ∨ happyOver c s = true) :
    ∃ (b : Bool) (t : UInt32), tick c s =
      everyMinute c (enterIdle c { s with screenOn := b, happyEndAt := t }) := by
  obtain ⟨b, hscreen⟩ := screenTimeout_eq c s
  have hnot {g : GameState} (hne : GameState.happy ≠ g) : ({ s with screenOn := b } : Pet).gameState ≠ g := by
    change s.gameState ≠ g
    rw [hg]
    exact hne
  unfold tick
  rw [hscreen, leaveStarting_other (hnot (by decide))]
  by_cases hstop : stopped c s = true
  · have hidle : stopWalking c { s with screenOn := b } = enterIdle c { s with screenOn := b } := if_pos hstop
    have hne {g : GameState} (hn : isIdle g = false) : (enterIdle c { s with screenOn := b }).gameState ≠ g := by
      intro he
      rw [← he, enterIdle_gameState, idleState_idle] at hn
      cases hn
    rw [hidle, endFlash_other (hne rfl), endHappy_other (hne rfl)]
    exact ⟨b, s.happyEndAt, rfl⟩
  · have hwalk : stopWalking c { s with screenOn := b } = { s with screenOn := b } := if_neg hstop
    have hend : endHappy c { s with screenOn := b } = enterIdle c { s with screenOn := b, happyEndAt := 0 } :=
      if_pos ⟨hg, hc.resolve_left hstop⟩
    rw [hwalk, endFlash_other (hnot (by decide)), hend]
    exact ⟨b, 0, rfl⟩

theorem updated_calms (hg : s.gameState = .happy) (hc : calms c s) : isIdle (updated c s).gameState = true := by
  obtain ⟨b, t, htick⟩ := tick_calms hg hc.1
  obtain ⟨a, hidle, ha⟩ := enterIdle_eq c { s with screenOn := b, happyEndAt := t }
  have hfresh : (tick c s).anim.lastFrameMs = c.millis := by
    rw [htick]
    exact everyMinute_tended.fresh enterIdle_fresh
  rw [updated_fresh hfresh, htick]
  have hstate : (enterIdle c { s with screenOn := b, happyEndAt := t }).gameState = idleState c s :=
    enterIdle_gameState
  rcases everyMinute_gameState (c := c) (s := enterIdle c { s with screenOn := b, happyEndAt := t }) with
    heq | ⟨hmin, hstand, hhour, -⟩
  · rw [heq, hstate]
    exact idleState_idle
  · rw [hstate] at hstand
    rw [hidle] at hmin hhour
    unfold idleState at hstand
    split at hstand
    · cases hstand
    · rename_i hfriend
      split at hstand
      · cases hstand
      · rename_i hreach
        exact absurd ⟨hmin, hhour, not_le.mp hfriend, Bool.eq_false_iff.mpr hreach⟩ hc.2

/-! ### Runs -/

/-- The last frame of a sequence that is shown once was shown for its delay. -/
def due (c : Moment) (s : Pet) : Bool :=
  !s.anim.looping && s.anim.seq.count - 1 ≤ s.anim.frameIdx && s.anim.seq.delayMs ≤ c.millis - s.anim.lastFrameMs

/-- Watts are earned with steps and spent on gifts. -/
def Paid (s : Pet) : Event → Pet → Prop
  | .message _, s' | .addSteps _ _, s' => ∃ k, Counted s s' k
  | .longPress _, s' => s'.stepsToConvert = s.stepsToConvert ∧ (s'.status.watts = s.status.watts ∨ Spent s s')
  | .update _, s' | .shortPress _, s' =>
    s'.stepsToConvert = s.stepsToConvert ∧ s'.status.watts = s.status.watts

def Event.isButton : Event → Bool
  | .shortPress _ | .longPress _ => true
  | _ => false

/-- What an event should do to a pet. -/
structure Sound (s : Pet) (e : Event) : Prop where
  leaves : ∀ c, e = .update c → due c s = true → isActivity s.gameState = true ∨ s.gameState = .happy →
    isIdle (step s e).gameState = true
  final : isFinal s.gameState = true → e.isButton = false → (step s e).gameState = s.gameState
  returns : ∀ c, e = .update c → ∀ n, 2 ≤ n → gameUpdate c n s = some (step s e)
  friendship : Friendly (step s e).status
  watts : 0 ≤ (step s e).status.watts
  paid : Paid s e (step s e)

/-- The branches that are missing or go too far are not taken. -/
def spares (s : Pet) : Event → Prop
  | .update c => ¬ strays c s ∧
      (due c s = true → isActivity s.gameState = false ∧ (s.gameState = .happy → calms c s))
  | .message c => ¬ strays c s ∧ lasts s 1 ∧ (s.gameState = .sleeping ∨ affords s 1)
  | .addSteps _ m => lasts s m.toNat ∧ affords s m.toNat
  | .shortPress _ | .longPress _ => True

instance (s : Pet) : ∀ e : Event, Decidable (spares s e)
  | .update _ | .message _ | .addSteps _ _ | .shortPress _ | .longPress _ => by
    unfold spares
    infer_instance

theorem updated_kept (hkept : WellKept s) : WellKept (updated c s) :=
  updated_keeps (fun _ _ h => ⟨h.friendship, h.watts, h.stepsToConvert, h.settled⟩)
    (fun _ h => tick_tended.kept h (tick_settled h.settled)) hkept

theorem updated_unpaid :
    (updated c s).stepsToConvert = s.stepsToConvert ∧ (updated c s).status.watts = s.status.watts :=
  updated_keeps (P := fun u => u.stepsToConvert = s.stepsToConvert ∧ u.status.watts = s.status.watts)
    (fun _ _ h => h) (fun _ h => ⟨tick_tended.stepsToConvert.trans h.1, tick_tended.watts.trans h.2⟩) ⟨rfl, rfl⟩

theorem step_kept {e : Event} (hkept : WellKept s) (he : spares s e) : WellKept (step s e) := by
  cases e with
  | update c => exact updated_kept hkept
  | message c => exact (gameOnMeshMessage_kept hkept he.2.2).choose_spec.2
  | addSteps c m => exact (gameAddSteps_kept hkept he.2).choose_spec.2
  | shortPress c => exact gameOnShortPress_pressed.kept hkept
  | longPress c => exact gameOnLongPress_pressed.kept hkept

theorem step_paid {e : Event} (hkept : WellKept s) (he : spares s e) : Paid s e (step s e) := by
  cases e with
  | update c => exact updated_unpaid
  | message c => exact (gameOnMeshMessage_kept hkept he.2.2).imp fun k h => h.1
  | addSteps c m => exact (gameAddSteps_kept hkept he.2).imp fun k h => h.1
  | shortPress c => exact ⟨gameOnShortPress_pressed.stepsToConvert, gameOnShortPress_watts⟩
  | longPress c => exact ⟨gameOnLongPress_pressed.stepsToConvert, gameOnLongPress_pressed.watts⟩

theorem step_final {e : Event} (hkept : WellKept s) (he : spares s e) (hfinal : isFinal s.gameState = true)
    (hb : e.isButton = false) : (step s e).gameState = s.gameState := by
  cases e with
  | update c => exact updated_final hkept.settled hfinal he.1
  | message c => exact gameOnMeshMessage_final hkept.settled hfinal he.1 he.2.1
  | addSteps c m => exact gameAddSteps_final hkept.settled hfinal he.1
  | shortPress c => exact absurd hb Bool.true_eq_false.mp
  | longPress c => exact absurd hb Bool.true_eq_false.mp

theorem step_sound {e : Event} (hkept : WellKept s) (he : spares s e) : Sound s e where
  leaves := by
    rintro c rfl hdue hstate
    obtain ⟨hactive, hhappy⟩ := he.2 hdue
    have hg := hstate.resolve_left (Bool.eq_false_iff.mp hactive)
    exact updated_calms hg (hhappy hg)
  final := step_final hkept he
  returns := by
    rintro c rfl n hn
    exact gameUpdate_returns n hn
  friendship := (step_kept hkept he).friendship
  watts := (step_kept hkept he).watts
  paid := step_paid hkept he

/-- A status that the game may have saved. -/
def Saved (saved : PikaStatus) : Prop := Friendly saved ∧ 0 ≤ saved.watts

/-- In a run that spares the missing branches, every event does to the pet what it should. -/
theorem pet_sound {saved : PikaStatus} {es : List Event} (hsaved : Saved saved)
    (h : Along step spares (gameInit c saved) es) : Along step Sound (gameInit c saved) es :=
  h.trade (P := WellKept) (fun _ _ hk he => step_kept hk he) (fun _ _ hk he => step_sound hk he)
    ⟨hsaved.1, hsaved.2, Nat.succ_pos 19, settled_of_other rfl⟩

/-- What `pika_set_defaults` sets. -/
def defaults : PikaStatus := ⟨0, 0, 50, 0, false, false, false⟩

def atTen (millis : UInt32) : Moment := ⟨millis, 10, (Fin.last 2).rev, false⟩

theorem pet_sound_gift :
    Along step Sound (gameInit (atTen 0) defaults)
      [.update (atTen 500), .update (atTen 1000), .message (atTen 1500), .longPress (atTen 2000),
        .longPress (atTen 2500), .update (atTen 3100), .update (atTen 3600), .update (atTen 5600)] :=
  pet_sound (by unfold Saved Friendly; decide) (by decide +kernel)

/-- The pet eats at ten o'clock, and when it has eaten it goes on. -/
theorem eating_neverEnds :
    ¬ ∀ (c : Moment) (saved : PikaStatus) (es : List Event), Saved saved →
      Along step Sound (gameInit c saved) es := by
  intro hall
  have hrun := hall (atTen 0) defaults ([.update (atTen 500), .update (atTen 1000), .update (atTen 61001),
    .update (atTen 61501), .update (atTen 62001), .update (atTen 62501)] ++ [.update (atTen 63001)])
    (by unfold Saved Friendly; decide)
  have hsound := (along_concat.mp hrun).2
  have hidle := hsound.leaves (atTen 63001) rfl (by decide +kernel) (by decide +kernel)
  revert hidle
  decide +kernel

end MonsterMesh.Pet
