import MonsterMesh.Pet.Tally

/-! The days of a pet: its steps and its bonuses since the last midnight. -/
namespace MonsterMesh.Pet

open Walk

variable {c : Moment} {s : Pet} {n : ℕ} {count : UInt32}

def hourMs : ℕ := 3600000
def dayMs : ℕ := 24 * hourMs

/-! ### What a call does to the counters -/

/-- The pet whose steps a batch counts: it notices them unless it is quiet. -/
def noticing (c : Moment) (s : Pet) : Pet :=
  if !(gameIsSleepTime c || s.gameState = .sleeping) then
    { s with lastActivityMs := c.millis, screenOn := true, lastStepMs := c.millis }
  else s

/-- The pet that a message makes a step. -/
def greeted (c : Moment) (s : Pet) : Pet :=
  let s := { s with lastActivityMs := c.millis, screenOn := true }
  let s := if s.gameState = .stand ∧ s.consecutiveSteps = 0 then gamePlayAnim c s .standBasicLook false else s
  { stopWalking c s with lastStepMs := c.millis }

inductive DayCall where
  | update | message
  | addSteps (count : UInt32)
deriving DecidableEq

namespace DayCall

def event (c : Moment) : DayCall → Event
  | update => .update c
  | message => .message c
  | addSteps count => .addSteps c count

/-- The pets that the call hands a step to. -/
def handed (c : Moment) (s : Pet) : DayCall → List Pet
  | update => []
  | message => if s.gameState = .sleeping then [] else walked c 1 (greeted c s)
  | addSteps count => walked c count.toNat (noticing c s)

/-- The call is an update that begins a new day for the pet. -/
def resets (c : Moment) (s : Pet) (call : DayCall) : Prop :=
  call = update ∧ minuteOver c s = true ∧ c.hour = 0 ∧ s.lastCheckedHour = 23

instance (call : DayCall) : Decidable (call.resets c s) := by
  unfold resets
  infer_instance

end DayCall

theorem noticing_tally : (noticing c s).tally = s.tally := by
  unfold noticing
  split_ifs <;> rfl

theorem enterIdle_tally : (enterIdle c s).tally = s.tally := by
  obtain ⟨a, heq, -⟩ := enterIdle_eq c s
  rw [heq]
  rfl

theorem stopWalking_tally : (stopWalking c s).tally = s.tally := by
  unfold stopWalking
  split_ifs
  · exact enterIdle_tally
  · rfl

theorem greeted_tally : (greeted c s).tally = s.tally := by
  unfold greeted
  change (stopWalking c _).tally = _
  rw [stopWalking_tally]
  dsimp only
  split_ifs <;> rfl

theorem addSteps_walked (c : Moment) (s : Pet) (count : UInt32) :
    (gameAddSteps c s count).tally = (processSteps c count.toNat (noticing c s)).tally := by
  unfold gameAddSteps
  split_ifs with h
  · rw [h]
    exact noticing_tally.symm
  · rfl

theorem message_walked (hg : s.gameState ≠ .sleeping) :
    (gameOnMeshMessage c s).tally = (processSteps c 1 (greeted c s)).tally := by
  have hone : ∀ p, processSteps c 1 p = processStepCore c p := by
    intro p
    unfold processSteps processSteps
    exact ite_self _
  rw [hone]
  unfold gameOnMeshMessage
  rw [if_neg hg]
  rfl

theorem message_asleep (hg : s.gameState = .sleeping) : (gameOnMeshMessage c s).tally = s.tally := by
  unfold gameOnMeshMessage
  rw [if_pos hg]
  dsimp only
  split_ifs
  · rw [enterIdle_tally, updateFriendship_tally]
    rfl
  · rfl

/-! ### Updates -/

/-- The look at the clock. -/
def Tally.look (y : Tally) (c : Moment) : Tally :=
  if c.millis - y.lastMinuteCheck > 60000 then
    if c.hour = 0 ∧ y.lastCheckedHour = 23 then
      { y with
        steps := 0, todayReach150 := false, todayReach300 := false
        lastMinuteCheck := c.millis, lastCheckedHour := c.hour }
    else { y with lastMinuteCheck := c.millis, lastCheckedHour := c.hour }
  else y

theorem checkScheduledActivities_tally : (checkScheduledActivities c s).tally = s.tally := by
  unfold checkScheduledActivities
  split_ifs <;> rfl

theorem resetDay_tally : (resetDay c s).tally =
    if c.hour = 0 ∧ s.tally.lastCheckedHour = 23 then { s.tally with
      steps := 0, todayReach150 := false, todayReach300 := false, lastCheckedHour := c.hour }
    else { s.tally with lastCheckedHour := c.hour } := by
  unfold resetDay
  by_cases h : c.hour = 0 ∧ s.lastCheckedHour = 23
  · rw [if_pos h, if_pos (show c.hour = 0 ∧ s.tally.lastCheckedHour = 23 from h)]
    rfl
  · rw [if_neg h, if_neg (show ¬(c.hour = 0 ∧ s.tally.lastCheckedHour = 23) from h)]
    rfl

theorem decay_tally : (decay c s).tally = s.tally := by
  unfold decay
  dsimp only
  split_ifs
  · exact updateFriendship_tally _
  · rfl

theorem everyMinute_tally : (everyMinute c s).tally = s.tally.look c := by
  unfold everyMinute minuteOver Tally.look
  by_cases hover : c.millis - s.lastMinuteCheck > 60000
  · rw [if_pos (decide_eq_true hover), decay_tally, resetDay_tally, checkScheduledActivities_tally,
      if_pos (show c.millis - s.tally.lastMinuteCheck > 60000 from hover)]
    rfl
  · rw [if_neg (by rwa [decide_eq_true_eq]), if_neg (show ¬ c.millis - s.tally.lastMinuteCheck > 60000 from hover)]

theorem tick_tally : (tick c s).tally = s.tally.look c := by
  have hscreen : ∀ u, (screenTimeout c u).tally = u.tally := by
    intro u
    unfold screenTimeout
    split_ifs <;> rfl
  have hstart : ∀ u, (leaveStarting c u).tally = u.tally := by
    intro u
    unfold leaveStarting
    split_ifs
    · exact enterIdle_tally
    · rfl
  have hflash : ∀ u, (endFlash c u).tally = u.tally := by
    intro u
    unfold endFlash
    split_ifs <;> rfl
  have hhappy : ∀ u, (endHappy c u).tally = u.tally := by
    intro u
    unfold endHappy
    split_ifs
    · exact enterIdle_tally
    · rfl
  rw [tick, everyMinute_tally, hhappy, hflash, stopWalking_tally, hstart, hscreen]

theorem look_again (y : Tally) : (y.look c).look c = y.look c := by
  have hsame : ∀ z : Tally, z.lastMinuteCheck = c.millis → z.look c = z := by
    intro z hz
    refine if_neg ?_
    rw [hz, UInt32.sub_self]
    decide
  by_cases hover : c.millis - y.lastMinuteCheck > 60000
  · refine hsame _ ?_
    unfold Tally.look
    rw [if_pos hover]
    split_ifs <;> rfl
  · have hstay : y.look c = y := if_neg hover
    rw [hstay, hstay]

/-- An update looks at the clock once. -/
theorem updated_tally : (updated c s).tally = s.tally.look c := by
  rcases updated_cases c s with ⟨a, heq⟩ | ⟨a, heq⟩
  · rw [heq]
    exact tick_tally
  · rw [heq, tick_tally]
    change (tick c s).tally.look c = _
    rw [tick_tally, look_again]

/-- A call that is no update is a batch of steps, for the counters. -/
theorem call_walked (c : Moment) (s : Pet) (call : DayCall) (h : call ≠ .update) :
    ∃ (n : ℕ) (p : Pet), p.tally = s.tally ∧ call.handed c s = walked c n p ∧
      (step s (call.event c)).tally = (processSteps c n p).tally := by
  cases call with
  | update => exact absurd rfl h
  | message =>
    by_cases hg : s.gameState = .sleeping
    · exact ⟨0, s, rfl, if_pos hg, message_asleep hg⟩
    · exact ⟨1, greeted c s, greeted_tally, if_neg hg, message_walked hg⟩
  | addSteps count => exact ⟨count.toNat, noticing c s, noticing_tally, rfl, addSteps_walked c s count⟩

/-! ### Days -/

/-- A pet with the local time, the steps handed to it since midnight, and the bonuses it was granted since then, each
with the number of the step that earned it. -/
structure Day where
  pet : Pet
  (now uptime counted : ℕ)
  paid : List (Tier × ℕ)

/-- A call that comes `wait` milliseconds after the one before. -/
structure DayStep where
  wait : ℕ
  pose : Fin 3
  coin : Bool
  call : DayCall

namespace Day

variable (d : Day) (x : DayStep)

def moment : Moment where
  millis := UInt32.ofNat (d.uptime + x.wait)
  hour := (d.now + x.wait) / hourMs % 24
  pose := x.pose
  coin := x.coin

/-- A midnight has passed since the call before. -/
def midnight : Prop := d.now / dayMs < (d.now + x.wait) / dayMs

instance : Decidable (d.midnight x) := inferInstanceAs (Decidable (_ < _))

/-- The steps and the bonuses since the last midnight, when the call comes. -/
def today : ℕ × List (Tier × ℕ) := if d.midnight x then (0, []) else (d.counted, d.paid)

def handed : List Pet := x.call.handed (d.moment x) d.pet

def step : Day where
  pet := d.pet.step (x.call.event (d.moment x))
  now := d.now + x.wait
  uptime := d.uptime + x.wait
  counted := (d.today x).1 + (d.handed x).length
  paid := (d.today x).2 ++ earnings (d.today x).1 (d.handed x)

/-- The bonuses are granted once a day at most, and for enough steps of the day; the steps are those of the day. -/
structure Daily : Prop where
  once : ∀ t, (d.paid.map Prod.fst).count t ≤ 1
  earned : ∀ p ∈ d.paid, p.1.threshold ≤ p.2
  steps : d.pet.status.steps = min d.counted 99999

/-- The pet's day begins at midnight: it is reset at the first call after it, and at no other time, unless there is
nothing to reset. -/
def OnTime : Prop :=
  if d.midnight x then d.pet.status.steps = 0 ∨ x.call.resets (d.moment x) d.pet ∨ 99999 ≤ (d.handed x).length
  else x.call.resets (d.moment x) d.pet → d.pet.status.steps = 0

/-- No step takes the steps of the pet's life to a threshold that those of the day have not reached, while the bonus
is still to be had. -/
def Deserved : Prop :=
  ∀ t : Tier, t.reached d.pet.tally = false → ∀ j < (d.handed x).length, d.pet.status.steps + j < 99999 →
    t.threshold ≤ (d.pet.status.totalSteps + j + 1) % 2 ^ 32 → t.threshold ≤ (d.today x).1 + j + 1

def Kept : Prop := d.OnTime x ∧ d.Deserved x

/-- What a day that went well has: its bonuses are marked. -/
structure Ledger : Prop where
  daily : d.Daily
  marked : ∀ p ∈ d.paid, p.1.reached d.pet.tally = true
  numbered : ∀ p ∈ d.paid, p.2 ≤ d.counted

end Day

variable {d : Day} {x : DayStep} {xs : List DayStep}

namespace Day

/-- Nothing was granted on a day without steps. -/
theorem Ledger.none (h : d.Ledger) (hzero : d.counted = 0) : d.paid = [] := by
  rw [List.eq_nil_iff_forall_not_mem]
  intro p hp
  have hle := h.daily.earned p hp
  have hnum := h.numbered p hp
  have hpos : 0 < p.1.threshold := by cases p.1 <;> decide
  omega

theorem Ledger.today (h : d.Ledger) : (∀ p ∈ (d.today x).2, p ∈ d.paid ∧ p.2 ≤ (d.today x).1) ∧
    (∀ t, ((d.today x).2.map Prod.fst).count t ≤ 1) := by
  unfold Day.today
  split_ifs
  · exact ⟨fun p hp => absurd hp List.not_mem_nil, fun t => Nat.zero_le 1⟩
  · exact ⟨fun p hp => ⟨hp, h.numbered p hp⟩, h.daily.once⟩

theorem ledger_nil {e : Day} (hpaid : e.paid = []) (hsteps : e.pet.status.steps = min e.counted 99999) : e.Ledger := by
  refine ⟨⟨fun t => ?_, fun p hp => ?_, hsteps⟩, fun p hp => ?_, fun p hp => ?_⟩
  · rw [hpaid]
    exact Nat.zero_le 1
  all_goals
    rw [hpaid] at hp
    cases hp

/-- What an update does to the day. -/
theorem step_update (hx : x.call = .update) : (d.step x).pet.tally = d.pet.tally.look (d.moment x) ∧
    d.handed x = [] ∧ (d.step x).counted = (d.today x).1 ∧ (d.step x).paid = (d.today x).2 := by
  have hnone : d.handed x = [] := by rw [handed, hx, DayCall.handed]
  refine ⟨?_, hnone, ?_, ?_⟩
  · unfold Day.step
    rw [hx]
    exact updated_tally
  · rw [Day.step, hnone, List.length_nil, Nat.add_zero]
  · rw [Day.step, hnone, earnings, List.append_nil]

theorem look_resets (h : x.call.resets (d.moment x) d.pet) : (d.pet.tally.look (d.moment x)).steps = 0 := by
  obtain ⟨-, hover, hclock⟩ := h
  have hover : (d.moment x).millis - d.pet.tally.lastMinuteCheck > 60000 := of_decide_eq_true hover
  have hclock : (d.moment x).hour = 0 ∧ d.pet.tally.lastCheckedHour = 23 := hclock
  unfold Tally.look
  rw [if_pos hover, if_pos hclock]

theorem look_stays (hx : x.call = .update) (h : ¬ x.call.resets (d.moment x) d.pet) :
    (d.pet.tally.look (d.moment x)).steps = d.pet.status.steps ∧
      ∀ t, Tier.reached t (d.pet.tally.look (d.moment x)) = Tier.reached t d.pet.tally := by
  unfold Tally.look
  by_cases hover : (d.moment x).millis - d.pet.tally.lastMinuteCheck > 60000
  · have hclock : ¬((d.moment x).hour = 0 ∧ d.pet.tally.lastCheckedHour = 23) :=
      fun hclock => h ⟨hx, decide_eq_true hover, hclock⟩
    rw [if_pos hover, if_neg hclock]
    exact ⟨rfl, fun t => by cases t <;> rfl⟩
  · rw [if_neg hover]
    exact ⟨rfl, fun t => rfl⟩

theorem update_ledger (h : d.Ledger) (hx : x.call = .update) :
    ((d.step x).Daily → d.Kept x) ∧ (d.Kept x → (d.step x).Ledger) := by
  obtain ⟨htally, hnone, hcounted, hpaid⟩ := step_update (d := d) hx
  have hsteps' : (d.step x).pet.status.steps = (d.pet.tally.look (d.moment x)).steps := congrArg Tally.steps htally
  have hdeserved : d.Deserved x := by
    intro t _ j hj
    rw [hnone] at hj
    exact absurd hj (Nat.not_lt_zero j)
  have hold := h.daily.steps
  unfold Kept OnTime
  rw [hnone]
  unfold Day.today at hcounted hpaid
  by_cases hreset : x.call.resets (d.moment x) d.pet
  · have hzero := hsteps'.trans (look_resets hreset)
    by_cases hnew : d.midnight x
    · rw [if_pos hnew] at hcounted hpaid ⊢
      refine ⟨fun _ => ⟨.inr (.inl hreset), hdeserved⟩, fun _ => ledger_nil hpaid ?_⟩
      rw [hzero, hcounted]
      rfl
    · rw [if_neg hnew] at hcounted hpaid ⊢
      refine ⟨fun hd => ⟨fun _ => ?_, hdeserved⟩, fun hk => ?_⟩
      · have hnow := hd.steps
        rw [hzero, hcounted] at hnow
        omega
      · have hs := hk.1 hreset
        have hnothing : d.counted = 0 := by omega
        refine ledger_nil (hpaid.trans (h.none hnothing)) ?_
        rw [hzero, hcounted, hnothing]
        rfl
  · obtain ⟨hsame, hflags⟩ := look_stays hx hreset
    have hkeep := hsteps'.trans hsame
    by_cases hnew : d.midnight x
    · rw [if_pos hnew] at hcounted hpaid ⊢
      refine ⟨fun hd => ⟨.inl ?_, hdeserved⟩, fun hk => ledger_nil hpaid ?_⟩
      · have hnow := hd.steps
        rw [hkeep, hcounted] at hnow
        exact hnow
      · rcases hk.1 with hs | hs | hs
        · rw [hkeep, hcounted, hs]
          rfl
        · exact absurd hs hreset
        · exact absurd hs (by rw [List.length_nil]; decide)
    · rw [if_neg hnew] at hcounted hpaid ⊢
      refine ⟨fun _ => ⟨fun hr => absurd hr hreset, hdeserved⟩, fun _ => ⟨⟨?_, ?_, ?_⟩, ?_, ?_⟩⟩
      · rw [hpaid]
        exact h.daily.once
      · rw [hpaid]
        exact h.daily.earned
      · rw [hkeep, hcounted, hold]
      · rw [hpaid]
        intro p hp
        rw [htally, hflags]
        exact h.marked p hp
      · rw [hpaid, hcounted]
        exact h.numbered

theorem batch_ledger (h : d.Ledger) (hx : x.call ≠ .update) :
    ((d.step x).Daily → d.Kept x) ∧ (d.Kept x → (d.step x).Ledger) := by
  obtain ⟨n, p, hp, hhanded, htally⟩ := call_walked (d.moment x) d.pet x.call hx
  change d.handed x = _ at hhanded
  change (d.step x).pet.tally = _ at htally
  have hpsteps : p.status.steps = d.pet.status.steps := congrArg Tally.steps hp
  have hptotal : p.status.totalSteps = d.pet.status.totalSteps := congrArg Tally.totalSteps hp
  have hcap : d.pet.status.steps ≤ 99999 := by
    rw [h.daily.steps]
    exact Nat.min_le_right _ _
  have hsteps : (d.step x).pet.status.steps = min (d.pet.status.steps + (d.handed x).length) 99999 := by
    have hrun := processSteps_steps (c := d.moment x) n p (by omega)
    rw [← hhanded, hpsteps] at hrun
    exact (congrArg Tally.steps htally).trans hrun
  have hcounted : (d.step x).counted = (d.today x).1 + (d.handed x).length := rfl
  have hpaid : (d.step x).paid = (d.today x).2 ++ earnings (d.today x).1 (d.handed x) := rfl
  have hreset : ¬ x.call.resets (d.moment x) d.pet := fun hr => hx hr.1
  have hdue : ∀ q ∈ earnings (d.today x).1 (d.handed x), q.1.reached d.pet.tally = false ∧
      ∃ j < (d.handed x).length, d.pet.status.steps + j < 99999 ∧
        q.1.threshold ≤ (d.pet.status.totalSteps + j + 1) % 2 ^ 32 ∧ q.2 = (d.today x).1 + j + 1 := by
    have hall := earnings_due (c := d.moment x) n (d.today x).1 p
    rw [← hhanded, hp, hpsteps, hptotal] at hall
    exact hall
  have hontime : d.OnTime x ↔ (d.step x).pet.status.steps = min (d.step x).counted 99999 := by
    rw [hsteps, hcounted]
    unfold OnTime Day.today
    have hold := h.daily.steps
    split_ifs with hnew
    · constructor
      · rintro (hs | hs | hs)
        · rw [hs]
        · exact absurd hs hreset
        · omega
      · intro he
        by_cases hs : d.pet.status.steps = 0
        · exact .inl hs
        · refine .inr (.inr ?_)
          dsimp only at he
          omega
    · refine ⟨fun _ => ?_, fun _ hr => absurd hr hreset⟩
      dsimp only
      omega
  have hdeserved : d.Deserved x ↔ ∀ q ∈ earnings (d.today x).1 (d.handed x), q.1.threshold ≤ q.2 := by
    constructor
    · intro hd q hq
      obtain ⟨hr, j, hj, hlt, hthr, hnum⟩ := hdue q hq
      rw [hnum]
      exact hd q.1 hr j hj hlt hthr
    · intro hall t hr j hj hlt hthr
      have hmem := earnings_granted (c := d.moment x) (t := t) (j := j) n (d.today x).1 p
        (by rw [hp]; exact hr) (by rw [← hhanded]; exact hj) (by rw [hpsteps]; exact hlt) (by rw [hptotal]; exact hthr)
      rw [← hhanded] at hmem
      obtain ⟨i, hi, hmem⟩ := hmem
      have hle := hall _ hmem
      dsimp only at hle
      omega
  refine ⟨fun hd => ⟨hontime.mpr hd.steps, hdeserved.mpr fun q hq => hd.earned q ?_⟩, fun hk => ?_⟩
  · rw [hpaid]
    exact List.mem_append_right _ hq
  · have hmarks : ∀ t : Tier, t.reached (d.step x).pet.tally =
        (t.reached d.pet.tally || t ∈ (earnings (d.today x).1 (d.handed x)).map Prod.fst) := by
      intro t
      have hrun := (earnings_once (c := d.moment x) t n (d.today x).1 p).2
      rw [← hhanded, hp] at hrun
      rw [htally]
      exact hrun
    obtain ⟨htoday, honce⟩ := h.today (x := x)
    refine ⟨⟨fun t => ?_, fun q hq => ?_, hontime.mp hk.1⟩, fun q hq => ?_, fun q hq => ?_⟩
    · have hcount := (earnings_once (c := d.moment x) t n (d.today x).1 p).1
      rw [← hhanded, hp] at hcount
      rw [hpaid, List.map_append, List.count_append]
      by_cases hr : t.reached d.pet.tally = true
      · rw [if_pos hr] at hcount
        have hle := honce t
        omega
      · rw [if_neg hr] at hcount
        have hzero : ((d.today x).2.map Prod.fst).count t = 0 := by
          refine List.count_eq_zero_of_not_mem fun hm => ?_
          obtain ⟨q, hq, rfl⟩ := List.mem_map.mp hm
          exact hr (h.marked q (htoday q hq).1)
        omega
    · rw [hpaid] at hq
      rcases List.mem_append.mp hq with hq | hq
      · exact h.daily.earned q (htoday q hq).1
      · exact hdeserved.mp hk.2 q hq
    · rw [hpaid] at hq
      rw [hmarks, Bool.or_eq_true, decide_eq_true_eq]
      rcases List.mem_append.mp hq with hq | hq
      · exact .inl (h.marked q (htoday q hq).1)
      · exact .inr (List.mem_map_of_mem hq)
    · rw [hpaid] at hq
      rw [hcounted]
      rcases List.mem_append.mp hq with hq | hq
      · have hle := (htoday q hq).2
        omega
      · obtain ⟨-, j, hj, -, -, hnum⟩ := hdue q hq
        omega

theorem step_ledger (d : Day) (x : DayStep) (h : d.Ledger) :
    ((d.step x).Daily → d.Kept x) ∧ (d.Kept x → (d.step x).Ledger) := by
  by_cases hx : x.call = .update
  · exact update_ledger h hx
  · exact batch_ledger h hx

/-- A pet that comes up, with no steps on its day. -/
def start (now uptime : ℕ) (saved : PikaStatus) : Day where
  pet := gameInit ⟨UInt32.ofNat uptime, now / hourMs % 24, ⟨0, Nat.zero_lt_succ 2⟩, false⟩
    { saved with steps := 0, todayReach150 := false, todayReach300 := false }
  now := now
  uptime := uptime
  counted := 0
  paid := []

/-- All days go well just if every call keeps the day: it is reset at midnight, and no bonus comes from the steps of
other days. -/
theorem daily_iff (now uptime : ℕ) (saved : PikaStatus) (xs : List DayStep) :
    (∀ n, (run step (start now uptime saved) (xs.take n)).Daily) ↔ Along step Kept (start now uptime saved) xs :=
  (along_iff_of (P := Ledger) (fun _ h => h.daily) step_ledger (ledger_nil rfl rfl)).symm

/-- An update comes at least once a minute, `gap` milliseconds after the last one. -/
def Attended : ℕ → List DayStep → Prop
  | _, [] => True
  | gap, x :: xs => gap + x.wait ≤ 60000 ∧ Attended (if x.call = .update then 0 else gap + x.wait) xs

/-- A step of a pet that has walked enough in its life, but not today. -/
theorem lifetime_unlocks : ¬ ∀ (now uptime : ℕ) (saved : PikaStatus) (xs : List DayStep), Attended 0 xs →
    ∀ n, (run step (start now uptime saved) (xs.take n)).Daily := by
  intro hall
  have hday := hall (10 * hourMs) 1000 ⟨0, 15000, 50, 0, false, false, false⟩ [⟨500, 0, false, .message⟩]
    ⟨by decide, trivial⟩ 1
  exact absurd (hday.earned (.first, 1) (by decide +kernel)) (by decide)

/-! ### Midnights of a pet that is attended to -/

/-- The last look at the clock was made `ago` milliseconds before now. -/
structure Looked (d : Day) (ago : ℕ) : Prop where
  up : ago ≤ d.uptime
  past : ago ≤ d.now
  lastMinuteCheck : d.pet.lastMinuteCheck = UInt32.ofNat (d.uptime - ago)
  lastCheckedHour : d.pet.lastCheckedHour = ((d.now - ago) / hourMs % 24 : ℕ)

/-- The clock was looked at in time, when the last update is `gap` milliseconds old. -/
def Watched (gap : ℕ) (d : Day) : Prop := ∃ ago ≤ 60000 + gap, d.Looked ago

variable {gap ago : ℕ}

theorem processSteps_clock (c : Moment) (n : ℕ) (s : Pet) :
    (processSteps c n s).lastMinuteCheck = s.lastMinuteCheck ∧
      (processSteps c n s).lastCheckedHour = s.lastCheckedHour := by
  refine walked_induction c (P := fun s _ s' =>
    s'.lastMinuteCheck = s.lastMinuteCheck ∧ s'.lastCheckedHour = s.lastCheckedHour) (fun _ => ⟨rfl, rfl⟩) ?_ n s
  intro s ss s' ih
  by_cases hfull : 99999 ≤ s.status.steps
  · rwa [processStepCore_full hfull] at ih
  · have htally := processStepCore_tally (c := c) (Nat.lt_of_not_le hfull)
    have hminute : (processStepCore c s).lastMinuteCheck = s.lastMinuteCheck := congrArg Tally.lastMinuteCheck htally
    have hhour : (processStepCore c s).lastCheckedHour = s.lastCheckedHour := congrArg Tally.lastCheckedHour htally
    exact ⟨ih.1.trans hminute, ih.2.trans hhour⟩

/-- The milliseconds since the last look, as the pet computes them. -/
theorem Looked.since (h : d.Looked ago) (hsmall : ago + x.wait < 2 ^ 32) :
    ((d.moment x).millis - d.pet.lastMinuteCheck).toNat = ago + x.wait := by
  have hup := h.up
  have hmillis : (d.moment x).millis = UInt32.ofNat (d.uptime - ago) + UInt32.ofNat (ago + x.wait) := by
    rw [← UInt32.ofNat_add]
    exact congrArg UInt32.ofNat (by omega)
  rw [hmillis, h.lastMinuteCheck, UInt32.add_comm, UInt32.add_sub_cancel, UInt32.toNat_ofNat']
  exact Nat.mod_eq_of_lt hsmall

theorem Looked.over (h : d.Looked ago) (hsmall : ago + x.wait < 2 ^ 32) :
    minuteOver (d.moment x) d.pet = true ↔ 60000 < ago + x.wait := by
  unfold minuteOver
  rw [decide_eq_true_eq, gt_iff_lt, UInt32.lt_iff_toNat_lt, h.since hsmall]
  rfl

/-- Until the next look, the last one only gets older. -/
theorem Looked.ages (h : d.Looked ago) (hclock : (d.step x).pet.lastMinuteCheck = d.pet.lastMinuteCheck ∧
    (d.step x).pet.lastCheckedHour = d.pet.lastCheckedHour) : (d.step x).Looked (ago + x.wait) where
  up := Nat.add_le_add_right h.up x.wait
  past := Nat.add_le_add_right h.past x.wait
  lastMinuteCheck := by
    rw [hclock.1, h.lastMinuteCheck]
    exact congrArg UInt32.ofNat (Nat.add_sub_add_right ..).symm
  lastCheckedHour := by
    have hnow : (d.step x).now - (ago + x.wait) = d.now - ago := Nat.add_sub_add_right ..
    rw [hclock.2, h.lastCheckedHour, hnow]

theorem watched_step (h : d.Watched gap) (hgap : gap + x.wait ≤ 60000) :
    (d.step x).Watched (if x.call = .update then 0 else gap + x.wait) := by
  obtain ⟨ago, hago, hlooked⟩ := h
  have hsmall : ago + x.wait < 2 ^ 32 := by omega
  by_cases hx : x.call = .update
  · rw [if_pos hx]
    have htally := (step_update (d := d) hx).1
    by_cases hover : minuteOver (d.moment x) d.pet = true
    · have hgt : (d.moment x).millis - d.pet.tally.lastMinuteCheck > 60000 := of_decide_eq_true hover
      have hlook : (d.pet.tally.look (d.moment x)).lastMinuteCheck = (d.moment x).millis ∧
          (d.pet.tally.look (d.moment x)).lastCheckedHour = (d.moment x).hour := by
        unfold Tally.look
        rw [if_pos hgt]
        split_ifs <;> exact ⟨rfl, rfl⟩
      rw [← htally] at hlook
      exact ⟨0, Nat.zero_le _, Nat.zero_le _, Nat.zero_le _, hlook.1, hlook.2⟩
    · have hstay : d.pet.tally.look (d.moment x) = d.pet.tally := if_neg fun hgt => hover (decide_eq_true hgt)
      rw [hstay] at htally
      have hle := mt (hlooked.over hsmall).mpr hover
      exact ⟨ago + x.wait, by omega,
        hlooked.ages ⟨congrArg Tally.lastMinuteCheck htally, congrArg Tally.lastCheckedHour htally⟩⟩
  · rw [if_neg hx]
    obtain ⟨n, p, hp, -, htally⟩ := call_walked (d.moment x) d.pet x.call hx
    obtain ⟨hminute, hhour⟩ := processSteps_clock (d.moment x) n p
    refine ⟨ago + x.wait, by omega, hlooked.ages ⟨?_, ?_⟩⟩
    · exact (congrArg Tally.lastMinuteCheck htally).trans (hminute.trans (congrArg Tally.lastMinuteCheck hp))
    · exact (congrArg Tally.lastCheckedHour htally).trans (hhour.trans (congrArg Tally.lastCheckedHour hp))

/-- Of a pet that is attended to, the look at the clock that comes first after midnight is the one that resets it. -/
theorem midnight_resets (hw : d.Watched gap) (hxs : Attended gap (xs ++ [x])) (hnew : (run step d xs).midnight x)
    (hx : x.call = .update) (hover : minuteOver ((run step d xs).moment x) (run step d xs).pet = true) :
    x.call.resets ((run step d xs).moment x) (run step d xs).pet := by
  induction xs generalizing d gap with
  | nil =>
    obtain ⟨hgap, -⟩ := hxs
    obtain ⟨ago, hago, hlooked⟩ := hw
    have hpast := hlooked.past
    change d.now / dayMs < (d.now + x.wait) / dayMs at hnew
    unfold dayMs hourMs at hnew
    refine ⟨hx, hover, ?_, ?_⟩
    · change (d.now + x.wait) / hourMs % 24 = 0
      unfold hourMs
      omega
    · change d.pet.lastCheckedHour = 23
      rw [hlooked.lastCheckedHour]
      have hhour : (d.now - ago) / hourMs % 24 = 23 := by
        unfold hourMs
        omega
      rw [hhour]
      rfl
  | cons y xs ih => exact ih (watched_step hw hxs.1) hxs.2 hnew hover

end Day

end MonsterMesh.Pet
