import Mathlib.Tactic.Common
import MonsterMesh.Pet.Game

/-! What the functions of the pet change. -/
namespace MonsterMesh.Pet

variable {c : Moment} {s s' s'' : Pet}

/-- The friendship is in its range. -/
def Friendly (status : PikaStatus) : Prop := -2000 ≤ status.friendshipLevel ∧ status.friendshipLevel ≤ 4000

/-- The states that are left by a button only. -/
def isFinal (g : GameState) : Bool := g = .ranAway || g = .gameComplete

/-- The states of the scheduled activities. -/
def isActivity (g : GameState) : Bool := g = .eating || g = .licking || g = .bath || g = .watchTV

/-- The states in which no walk goes on. -/
def isStill (g : GameState) : Bool := g = .ranAway || g = .stand || isActivity g

/-- A still pet does not walk, and the game is complete only at the end. -/
def Settled (s : Pet) : Prop :=
  (isStill s.gameState = true → s.isWalking = false) ∧
    (s.gameState = .gameComplete → s.status.reachEnd = true)

/-- No steps are counted, and an animation starts now if it starts at all. -/
structure Tended (c : Moment) (s s' : Pet) : Prop where
  watts : s'.status.watts = s.status.watts
  stepsToConvert : s'.stepsToConvert = s.stepsToConvert
  lastStepMs : s'.lastStepMs = s.lastStepMs
  reachEnd : s'.status.reachEnd = s.status.reachEnd
  friendship : Friendly s.status → Friendly s'.status
  anim : s'.anim = s.anim ∨ s'.anim.lastFrameMs = c.millis
  isWalking : s'.isWalking = true → s.isWalking = true

namespace Tended

theorem refl : Tended c s s := ⟨rfl, rfl, rfl, rfl, id, .inl rfl, id⟩

theorem trans (h : Tended c s s') (h' : Tended c s' s'') : Tended c s s'' where
  watts := h'.watts.trans h.watts
  stepsToConvert := h'.stepsToConvert.trans h.stepsToConvert
  lastStepMs := h'.lastStepMs.trans h.lastStepMs
  reachEnd := h'.reachEnd.trans h.reachEnd
  friendship hf := h'.friendship (h.friendship hf)
  anim := by
    rcases h'.anim with heq | hnow
    · rw [heq]
      exact h.anim
    · exact .inr hnow
  isWalking hw := h.isWalking (h'.isWalking hw)

theorem fresh (h : Tended c s s') (hs : s.anim.lastFrameMs = c.millis) : s'.anim.lastFrameMs = c.millis := by
  rcases h.anim with heq | hnow
  · rw [heq]
    exact hs
  · exact hnow

end Tended

/-! ### Friendship -/

theorem constrain_range (x : ℤ) : -2000 ≤ constrain x (-2000) 4000 ∧ constrain x (-2000) 4000 ≤ 4000 := by
  unfold constrain
  split
  · omega
  · split <;> omega

/-- A change of the friendship starts an animation or none. -/
theorem updateFriendship_eq (c : Moment) (s : Pet) (delta : ℤ) :
    ∃ (f : ℤ) (a : AnimPlayer), updateFriendship c s delta = { s with status.friendshipLevel := f, anim := a } ∧
      (-2000 ≤ f ∧ f ≤ 4000) ∧ (a = s.anim ∨ a.lastFrameMs = c.millis) := by
  have hrange := constrain_range (wrap32 (s.status.friendshipLevel + delta))
  unfold updateFriendship
  split
  · exact ⟨_, _, rfl, hrange, .inl rfl⟩
  · split
    · exact ⟨_, _, rfl, hrange, .inr rfl⟩
    · split
      · exact ⟨_, _, rfl, hrange, .inr rfl⟩
      · exact ⟨_, _, rfl, hrange, .inr rfl⟩

theorem updateFriendship_tended (delta : ℤ) : Tended c s (updateFriendship c s delta) := by
  obtain ⟨f, a, heq, hrange, hanim⟩ := updateFriendship_eq c s delta
  rw [heq]
  exact ⟨rfl, rfl, rfl, rfl, fun _ => hrange, hanim, id⟩

theorem updateFriendship_gameState (delta : ℤ) : (updateFriendship c s delta).gameState = s.gameState := by
  obtain ⟨f, a, heq, -⟩ := updateFriendship_eq c s delta
  rw [heq]

theorem updateFriendship_isWalking (delta : ℤ) : (updateFriendship c s delta).isWalking = s.isWalking := by
  obtain ⟨f, a, heq, -⟩ := updateFriendship_eq c s delta
  rw [heq]

/-! ### Idle states -/

/-- The idle state that the pet goes to. -/
def idleState (c : Moment) (s : Pet) : GameState :=
  if s.status.friendshipLevel ≤ friendshipRanAway then .ranAway
  else if s.status.reachEnd then .gameComplete
  else if gameIsSleepTime c then .sleeping
  else .stand

def isIdle (g : GameState) : Bool := g = .stand || g = .sleeping || g = .ranAway || g = .gameComplete

theorem idleState_idle : isIdle (idleState c s) = true := by
  unfold idleState
  split
  · rfl
  · split
    · rfl
    · split <;> rfl

theorem enterIdle_eq (c : Moment) (s : Pet) :
    ∃ a : AnimPlayer, enterIdle c s =
        { s with isWalking := false, consecutiveSteps := 0, gameState := idleState c s, anim := a } ∧
      a.lastFrameMs = c.millis := by
  unfold enterIdle idleState
  dsimp only
  split
  · exact ⟨_, rfl, rfl⟩
  · split
    · exact ⟨_, rfl, rfl⟩
    · split
      · exact ⟨_, rfl, rfl⟩
      · split
        · exact ⟨_, rfl, rfl⟩
        · split
          · exact ⟨_, rfl, rfl⟩
          · split
            · exact ⟨_, rfl, rfl⟩
            · exact ⟨_, rfl, rfl⟩

theorem enterIdle_tended : Tended c s (enterIdle c s) := by
  obtain ⟨a, heq, ha⟩ := enterIdle_eq c s
  rw [heq]
  exact ⟨rfl, rfl, rfl, rfl, id, .inr ha, fun hw => absurd hw Bool.false_ne_true⟩

theorem enterIdle_fresh : (enterIdle c s).anim.lastFrameMs = c.millis := by
  obtain ⟨a, heq, ha⟩ := enterIdle_eq c s
  rw [heq]
  exact ha

theorem enterIdle_gameState : (enterIdle c s).gameState = idleState c s := by
  obtain ⟨a, heq, -⟩ := enterIdle_eq c s
  rw [heq]

theorem enterIdle_isWalking : (enterIdle c s).isWalking = false := by
  obtain ⟨a, heq, -⟩ := enterIdle_eq c s
  rw [heq]

theorem enterIdle_settled : Settled (enterIdle c s) := by
  refine ⟨fun _ => enterIdle_isWalking, fun hg => ?_⟩
  rw [enterIdle_gameState] at hg
  rw [enterIdle_tended.reachEnd]
  unfold idleState at hg
  split at hg
  · cases hg
  · split at hg
    · assumption
    · split at hg <;> cases hg

/-! ### Activities -/

/-- The hours at which an activity starts. -/
def activityHour (c : Moment) (s : Pet) : Prop :=
  ((c.hour = 10 ∨ c.hour = 12 ∨ c.hour = 18) ∧ s.cooldownEat < c.millis) ∨
    (c.hour = 15 ∧ s.cooldownBath < c.millis) ∨ c.hour = 18 ∨ c.hour = 19

instance (c : Moment) (s : Pet) : Decidable (activityHour c s) := by unfold activityHour; infer_instance

/-- An activity starts while the pet stands, and at its hour. -/
theorem checkScheduledActivities_cases (c : Moment) (s : Pet) :
    checkScheduledActivities c s = s ∨
      s.gameState = .stand ∧ activityHour c s ∧ isActivity (checkScheduledActivities c s).gameState = true := by
  unfold checkScheduledActivities
  split
  · exact .inl rfl
  · rename_i hstand
    have hstand := not_not.mp hstand
    split
    · rename_i hh
      refine .inr ⟨hstand, .inl hh, ?_⟩
      rw [updateFriendship_gameState]
      rfl
    · split
      · rename_i hh
        exact .inr ⟨hstand, .inr (.inl hh), rfl⟩
      · split
        · rename_i hh
          refine .inr ⟨hstand, .inr (.inr (.inr hh.1)), ?_⟩
          rw [updateFriendship_gameState]
          rfl
        · split
          · rename_i hh
            exact .inr ⟨hstand, .inr (.inr hh), rfl⟩
          · exact .inl rfl

theorem checkScheduledActivities_tended : Tended c s (checkScheduledActivities c s) := by
  unfold checkScheduledActivities
  split
  · exact .refl
  · split
    · refine Tended.trans ?_ (updateFriendship_tended 50)
      exact ⟨rfl, rfl, rfl, rfl, id, .inr rfl, id⟩
    · split
      · exact ⟨rfl, rfl, rfl, rfl, id, .inr rfl, id⟩
      · split
        · refine Tended.trans ?_ (updateFriendship_tended 30)
          exact ⟨rfl, rfl, rfl, rfl, id, .inr rfl, id⟩
        · split
          · exact ⟨rfl, rfl, rfl, rfl, id, .inr rfl, id⟩
          · exact .refl

/-! ### The parts of an update -/

theorem screenTimeout_eq (c : Moment) (s : Pet) : ∃ b, screenTimeout c s = { s with screenOn := b } := by
  unfold screenTimeout
  split
  · exact ⟨false, rfl⟩
  · exact ⟨s.screenOn, rfl⟩

theorem screenTimeout_tended : Tended c s (screenTimeout c s) := by
  obtain ⟨b, heq⟩ := screenTimeout_eq c s
  rw [heq]
  exact ⟨rfl, rfl, rfl, rfl, id, .inl rfl, id⟩

theorem leaveStarting_tended : Tended c s (leaveStarting c s) := by
  unfold leaveStarting
  split
  · exact enterIdle_tended
  · exact .refl

theorem stopWalking_tended : Tended c s (stopWalking c s) := by
  unfold stopWalking
  split
  · exact enterIdle_tended
  · exact .refl

theorem endFlash_tended : Tended c s (endFlash c s) := by
  unfold endFlash
  split
  · exact ⟨rfl, rfl, rfl, rfl, id, .inl rfl, id⟩
  · exact .refl

theorem endHappy_tended : Tended c s (endHappy c s) := by
  unfold endHappy
  split
  · refine Tended.trans ?_ enterIdle_tended
    exact ⟨rfl, rfl, rfl, rfl, id, .inl rfl, id⟩
  · exact .refl

theorem resetDay_tended : Tended c s (resetDay c s) := by
  unfold resetDay
  split <;> exact ⟨rfl, rfl, rfl, rfl, id, .inl rfl, id⟩

theorem resetDay_gameState : (resetDay c s).gameState = s.gameState := by
  unfold resetDay
  split <;> rfl

theorem decay_tended : Tended c s (decay c s) := by
  have hcount : Tended c s { s with decayHours := (s.decayHours + 1) % 2 ^ 32 } :=
    ⟨rfl, rfl, rfl, rfl, id, .inl rfl, id⟩
  unfold decay
  dsimp only
  split
  · have hless := hcount.trans (updateFriendship_tended (-10))
    exact ⟨hless.watts, hless.stepsToConvert, hless.lastStepMs, hless.reachEnd, hless.friendship, hless.anim,
      hless.isWalking⟩
  · exact hcount

theorem decay_gameState : (decay c s).gameState = s.gameState := by
  unfold decay
  dsimp only
  split
  · exact updateFriendship_gameState (-10)
  · rfl

theorem everyMinute_tended : Tended c s (everyMinute c s) := by
  unfold everyMinute
  split
  · refine Tended.trans ?_ (checkScheduledActivities_tended.trans (resetDay_tended.trans decay_tended))
    exact ⟨rfl, rfl, rfl, rfl, id, .inl rfl, id⟩
  · exact .refl

/-- A minute starts an activity or leaves the state alone. -/
theorem everyMinute_gameState :
    (everyMinute c s).gameState = s.gameState ∨ minuteOver c s = true ∧ s.gameState = .stand ∧
      activityHour c s ∧ isActivity (everyMinute c s).gameState = true := by
  unfold everyMinute
  split
  · rename_i hover
    rw [decay_gameState, resetDay_gameState]
    rcases checkScheduledActivities_cases c { s with lastMinuteCheck := c.millis } with heq | ⟨hs, hh, ha⟩
    · rw [heq]
      exact .inl rfl
    · exact .inr ⟨hover, hs, hh, ha⟩
  · exact .inl rfl

theorem tick_tended : Tended c s (tick c s) :=
  screenTimeout_tended.trans (leaveStarting_tended.trans (stopWalking_tended.trans
    (endFlash_tended.trans (endHappy_tended.trans everyMinute_tended))))

/-- After the second without steps was looked at, it is over. -/
theorem tick_stopped : stopped c (tick c s) = false := by
  have hstop : stopped c (stopWalking c (leaveStarting c (screenTimeout c s))) = false := by
    unfold stopWalking
    split
    · unfold stopped
      rw [enterIdle_isWalking, Bool.false_and]
    · rename_i hn
      exact Bool.eq_false_iff.mpr hn
  have hrest : Tended c (stopWalking c (leaveStarting c (screenTimeout c s))) (tick c s) :=
    endFlash_tended.trans (endHappy_tended.trans everyMinute_tended)
  refine Bool.eq_false_iff.mpr fun hs => Bool.eq_false_iff.mp hstop ?_
  unfold stopped at hs ⊢
  rw [Bool.and_eq_true] at hs ⊢
  rw [hrest.lastStepMs] at hs
  exact ⟨hrest.isWalking hs.1, hs.2⟩

/-! ### What stays settled -/

theorem settled_of_eq (hs : Settled s) (hg : s'.gameState = s.gameState) (h : Tended c s s') : Settled s' := by
  refine ⟨fun hr => Bool.eq_false_iff.mpr fun hw => ?_, fun hc => ?_⟩
  · rw [hg] at hr
    exact Bool.eq_false_iff.mp (hs.1 hr) (h.isWalking hw)
  · exact h.reachEnd.trans (hs.2 (hg.symm.trans hc))

theorem settled_of_other (hg : (isStill s.gameState || s.gameState = .gameComplete) = false) : Settled s := by
  obtain ⟨hstill, hcomplete⟩ := Bool.or_eq_false_iff.mp hg
  exact ⟨fun hs => absurd hs (Bool.eq_false_iff.mp hstill), fun hc => absurd hc (of_decide_eq_false hcomplete)⟩

theorem activity_ne_complete {g : GameState} (h : isActivity g = true) : g ≠ .gameComplete := by
  rintro rfl
  cases h

theorem screenTimeout_gameState : (screenTimeout c s).gameState = s.gameState := by
  obtain ⟨b, heq⟩ := screenTimeout_eq c s
  rw [heq]

theorem screenTimeout_settled (hs : Settled s) : Settled (screenTimeout c s) :=
  settled_of_eq hs screenTimeout_gameState screenTimeout_tended

theorem leaveStarting_settled (hs : Settled s) : Settled (leaveStarting c s) := by
  unfold leaveStarting
  split
  · exact enterIdle_settled
  · exact hs

theorem stopWalking_settled (hs : Settled s) : Settled (stopWalking c s) := by
  unfold stopWalking
  split
  · exact enterIdle_settled
  · exact hs

theorem endFlash_settled (hs : Settled s) : Settled (endFlash c s) := by
  unfold endFlash
  split
  · exact settled_of_other rfl
  · exact hs

theorem endHappy_settled (hs : Settled s) : Settled (endHappy c s) := by
  unfold endHappy
  split
  · exact enterIdle_settled
  · exact hs

theorem everyMinute_settled (hs : Settled s) : Settled (everyMinute c s) := by
  rcases everyMinute_gameState (c := c) (s := s) with hg | ⟨-, hstand, -, ha⟩
  · exact settled_of_eq hs hg everyMinute_tended
  · have hstill : s.isWalking = false := hs.1 (by rw [hstand]; rfl)
    refine ⟨fun _ => Bool.eq_false_iff.mpr fun hw => ?_, fun hc => absurd hc (activity_ne_complete ha)⟩
    exact Bool.eq_false_iff.mp hstill (everyMinute_tended.isWalking hw)

theorem tick_settled (hs : Settled s) : Settled (tick c s) :=
  everyMinute_settled (endHappy_settled (endFlash_settled (stopWalking_settled (leaveStarting_settled
    (screenTimeout_settled hs)))))

/-! ### End states -/

/-- The pet that walks on in the final screen runs away when it stops. -/
def strays (c : Moment) (s : Pet) : Prop :=
  s.gameState = .gameComplete ∧ stopped c s = true ∧ s.status.friendshipLevel ≤ friendshipRanAway

theorem leaveStarting_other (hg : s.gameState ≠ .starting) : leaveStarting c s = s := if_neg fun hc => hg hc.1

theorem endFlash_other (hg : s.gameState ≠ .giftMenu) : endFlash c s = s := if_neg fun hc => hg hc.1

theorem endHappy_other (hg : s.gameState ≠ .happy) : endHappy c s = s := if_neg fun hc => hg hc.1

theorem everyMinute_other (hg : s.gameState ≠ .stand) : (everyMinute c s).gameState = s.gameState :=
  everyMinute_gameState.resolve_right fun hc => hg hc.2.1

theorem stopWalking_final (hs : Settled s) (hfinal : isFinal s.gameState = true) (hstay : ¬ strays c s) :
    (stopWalking c s).gameState = s.gameState := by
  unfold stopWalking
  by_cases hstop : stopped c s = true
  · have hwalk : s.isWalking = true := (Bool.and_eq_true_iff.mp hstop).1
    have hcomplete : s.gameState = .gameComplete := by
      rcases Bool.or_eq_true_iff.mp hfinal with hr | hc
      · have hstill : isStill s.gameState = true := by rw [of_decide_eq_true hr]; rfl
        exact absurd hwalk (Bool.eq_false_iff.mp (hs.1 hstill))
      · exact of_decide_eq_true hc
    rw [if_pos hstop, enterIdle_gameState]
    unfold idleState
    rw [if_neg fun hf => hstay ⟨hcomplete, hstop, hf⟩, if_pos (hs.2 hcomplete), hcomplete]
  · rw [if_neg hstop]

/-- The states that a timer may leave. -/
def isTimed (g : GameState) : Bool := g = .starting || g = .stand || g = .giftMenu || g = .happy

/-- Another state is left when a walk stops, or not at all. -/
theorem tick_untimed (hg : isTimed s.gameState = false)
    (hstop : ∀ b, (stopWalking c { s with screenOn := b }).gameState = s.gameState) :
    (tick c s).gameState = s.gameState := by
  have hne {g : GameState} (ht : isTimed g = true) : s.gameState ≠ g := by
    intro he
    rw [he, ht] at hg
    exact Bool.false_ne_true hg.symm
  obtain ⟨b, hscreen⟩ := screenTimeout_eq c s
  unfold tick
  rw [hscreen, leaveStarting_other (s := { s with screenOn := b }) (hne rfl),
    endFlash_other (by rw [hstop]; exact hne rfl), endHappy_other (by rw [hstop]; exact hne rfl),
    everyMinute_other (by rw [hstop]; exact hne rfl), hstop]

/-- No timer leaves an end state. -/
theorem tick_final (hs : Settled s) (hfinal : isFinal s.gameState = true) (hstay : ¬ strays c s) :
    (tick c s).gameState = s.gameState := by
  refine tick_untimed ?_ fun b => stopWalking_final (s := { s with screenOn := b }) hs hfinal hstay
  revert hfinal
  cases s.gameState <;> decide

/-- No timer leaves an activity either. -/
theorem tick_activity (hs : Settled s) (hg : isActivity s.gameState = true) :
    (tick c s).gameState = s.gameState := by
  refine tick_untimed ?_ fun b => ?_
  · revert hg
    cases s.gameState <;> decide
  · have hwalk : s.isWalking = false := hs.1 (by unfold isStill; rw [hg, Bool.or_true])
    have hstop : ¬ stopped c { s with screenOn := b } = true := by
      unfold stopped
      rw [hwalk, Bool.false_and]
      exact Bool.false_ne_true
    unfold stopWalking
    rw [if_neg hstop]

/-! ### The update and the animation -/

theorem delayMs_pos (seq : Anims) : ¬ seq.delayMs ≤ 0 := by cases seq <;> decide

theorem advanceAnim_fresh {update : Pet → Option Pet} (h : s.anim.lastFrameMs = c.millis) :
    advanceAnim c s update = some s := by
  refine if_pos ?_
  rw [h, UInt32.sub_self]
  exact UInt32.not_le.mp (delayMs_pos s.anim.seq)

/-- An update ends with a frame, or with an update that ends so. -/
theorem gameUpdate_cases (c : Moment) (s : Pet) :
    (∃ a, ∀ n, gameUpdate c (n + 2) s = some { tick c s with anim := a }) ∨
      ∃ a, ∀ n, gameUpdate c (n + 2) s = some (tick c { tick c s with anim := a }) := by
  have hadvance (n : ℕ) : gameUpdate c (n + 2) s = advanceAnim c (tick c s) (gameUpdate c (n + 1)) := rfl
  unfold advanceAnim at hadvance
  by_cases hearly : c.millis - (tick c s).anim.lastFrameMs < (tick c s).anim.seq.delayMs
  · refine .inl ⟨(tick c s).anim, fun n => ?_⟩
    rw [hadvance, if_pos hearly]
  · by_cases hlast : (tick c s).anim.seq.count ≤ ((tick c s).anim.frameIdx + 1) % 256
    · by_cases hloop : (tick c s).anim.looping = true
      · refine .inl ⟨{ (tick c s).anim with lastFrameMs := c.millis, frameIdx := 0 }, fun n => ?_⟩
        rw [hadvance, if_neg hearly, if_pos hlast, if_pos hloop]
      · refine .inr ⟨{ (tick c s).anim with
          lastFrameMs := c.millis, frameIdx := (tick c s).anim.seq.count - 1 }, fun n => ?_⟩
        rw [hadvance, if_neg hearly, if_pos hlast, if_neg hloop]
        exact advanceAnim_fresh (tick_tended.fresh rfl)
    · refine .inl ⟨{ (tick c s).anim with
        lastFrameMs := c.millis, frameIdx := ((tick c s).anim.frameIdx + 1) % 256 }, fun n => ?_⟩
      rw [hadvance, if_neg hearly, if_neg hlast]

/-- The calls end. -/
theorem gameUpdate_returns (n : ℕ) (hn : 2 ≤ n) : gameUpdate c n s = some (updated c s) := by
  obtain ⟨m, rfl⟩ := Nat.exists_eq_add_of_le' hn
  unfold updated
  rcases gameUpdate_cases c s with ⟨a, h⟩ | ⟨a, h⟩
  · rw [h m, h 0]
    rfl
  · rw [h m, h 0]
    rfl

theorem updated_cases (c : Moment) (s : Pet) :
    (∃ a, updated c s = { tick c s with anim := a }) ∨ ∃ a, updated c s = tick c { tick c s with anim := a } := by
  unfold updated
  rcases gameUpdate_cases c s with ⟨a, h⟩ | ⟨a, h⟩
  · exact .inl ⟨a, by rw [h 0]; rfl⟩
  · exact .inr ⟨a, by rw [h 0]; rfl⟩

theorem updated_fresh (h : (tick c s).anim.lastFrameMs = c.millis) : updated c s = tick c s := by
  unfold updated
  change (advanceAnim c (tick c s) (gameUpdate c 1)).getD s = _
  rw [advanceAnim_fresh h]
  rfl

/-- What an update does to all but the animation, one or two ticks do. -/
theorem updated_keeps {P : Pet → Prop} (hanim : ∀ s a, P s → P { s with anim := a })
    (htick : ∀ s, P s → P (tick c s)) (hs : P s) : P (updated c s) := by
  rcases updated_cases c s with ⟨a, heq⟩ | ⟨a, heq⟩
  · rw [heq]
    exact hanim _ a (htick s hs)
  · rw [heq]
    exact htick _ (hanim _ a (htick s hs))

end MonsterMesh.Pet
