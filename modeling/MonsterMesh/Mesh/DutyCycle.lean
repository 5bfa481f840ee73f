import Mathlib.Algebra.Order.Field.Rat
import Mathlib.Data.Rat.Defs
import Mathlib.Tactic.Linarith
import Mathlib.Tactic.Ring
import MonsterMesh.Lib.Periods
import MonsterMesh.Lib.Walk

/-! The airtime that a device used, and when it may send again. -/
namespace MonsterMesh

open Walk

inductive ReportTypes where
  | txLog | rxLog | rxAllLog
deriving DecidableEq

/-- `CHANNEL_UTILIZATION_PERIODS` -/
def channelUtilizationPeriods : ℕ := 6

def minutesInHour : ℕ := 60

def secondsPerPeriod : ℕ := 3600

def periodsToLog : ℕ := 8

/-- `AirTime` with the two global arrays beside it. A counter is exact. -/
structure AirTime where
  (channelUtilization utilizationTX : ℕ → ℕ)
  firstTime : Bool
  (lastUtilPeriod lastUtilPeriodTX : ℕ)
  secSinceBoot : UInt32
  (periodTX periodRX periodRXAll : ℕ → ℕ)
  lastPeriodIndex : ℕ
  (airPeriodTx airPeriodRx : ℕ → ℕ)

namespace AirTime

variable (s : AirTime)

def boot : AirTime :=
  ⟨fun _ => 0, fun _ => 0, true, 0, 0, 0, fun _ => 0, fun _ => 0, fun _ => 0, 0, fun _ => 0, fun _ => 0⟩

def getPeriodUtilMinute : ℕ := Periods.place 10 channelUtilizationPeriods s.secSinceBoot.toNat

def getPeriodUtilHour : ℕ := Periods.place 60 minutesInHour s.secSinceBoot.toNat

def currentPeriodIndex : ℕ := Periods.place secondsPerPeriod periodsToLog s.secSinceBoot.toNat

/-- `a[i] += amount` -/
def plus (a : ℕ → ℕ) (i amount : ℕ) : ℕ → ℕ := Function.update a i (a i + amount)

def logAirtime (reportType : ReportTypes) (airtimeMs : UInt32) : AirTime :=
  let amount := airtimeMs.toNat
  let s := match reportType with
    | .txLog => { s with
        periodTX := plus s.periodTX 0 amount, airPeriodTx := plus s.airPeriodTx 0 amount
        utilizationTX := plus s.utilizationTX s.getPeriodUtilHour amount }
    | .rxLog => { s with periodRX := plus s.periodRX 0 amount, airPeriodRx := plus s.airPeriodRx 0 amount }
    | .rxAllLog => { s with periodRXAll := plus s.periodRXAll 0 amount }
  { s with channelUtilization := plus s.channelUtilization s.getPeriodUtilMinute amount }

/-- The periods move up by one. -/
def rotated (a : ℕ → ℕ) (i : ℕ) : ℕ := if i = 0 then 0 else if i < periodsToLog then a (i - 1) else a i

def airtimeRotatePeriod : AirTime :=
  if s.lastPeriodIndex ≠ s.currentPeriodIndex then
    { s with
      periodTX := rotated s.periodTX, periodRX := rotated s.periodRX, periodRXAll := rotated s.periodRXAll
      airPeriodTx := fun i => if i < periodsToLog then rotated s.periodTX i else s.airPeriodTx i
      airPeriodRx := fun i => if i < periodsToLog then rotated s.periodRX i else s.airPeriodRx i
      lastPeriodIndex := s.currentPeriodIndex }
  else s

def runOnce : AirTime :=
  let s := { s with secSinceBoot := s.secSinceBoot + 1 }
  if s.firstTime then
    { s with
      utilizationTX := fun _ => 0, channelUtilization := fun _ => 0, periodTX := fun _ => 0
      periodRX := fun _ => 0, periodRXAll := fun _ => 0, firstTime := false
      lastUtilPeriod := s.getPeriodUtilMinute }
  else
    let s := s.airtimeRotatePeriod
    let s := if s.lastUtilPeriod ≠ s.getPeriodUtilMinute then
        { s with
          lastUtilPeriod := s.getPeriodUtilMinute
          channelUtilization := Function.update s.channelUtilization s.getPeriodUtilMinute 0 }
      else s
    if s.lastUtilPeriodTX ≠ s.getPeriodUtilHour then
      { s with
        lastUtilPeriodTX := s.getPeriodUtilHour
        utilizationTX := Function.update s.utilizationTX s.getPeriodUtilHour 0 }
    else s

/-- The sum that `channelUtilizationPercent` is made of. -/
def channelUtilizationSum : ℕ := (Periods.mk s.channelUtilization s.lastUtilPeriod).total channelUtilizationPeriods

def utilizationTXSum : ℕ := (Periods.mk s.utilizationTX s.lastUtilPeriodTX).total minutesInHour

/-- `MS_IN_HOUR` -/
def msInHour : ℕ := 3600000

def utilizationTXPercent : ℚ := s.utilizationTXSum / msInHour * 100

/-- The loop of `getSilentMinutes`, with the counters below `i` still to be walked. -/
def silentFrom (dutyCycle : ℚ) : ℕ → ℚ → ℕ
  | 0, _ => minutesInHour
  | i + 1, newTxPercent =>
    if newTxPercent - s.utilizationTX i / (msInHour / 100 : ℕ) < dutyCycle then minutesInHour - 1 - i
    else silentFrom dutyCycle i (newTxPercent - s.utilizationTX i / (msInHour / 100 : ℕ))

def getSilentMinutes (txPercent dutyCycle : ℚ) : ℕ := s.silentFrom dutyCycle minutesInHour txPercent

end AirTime
end MonsterMesh

/-! Airtime over a sliding window, and the minutes of silence that are asked for. -/
namespace MonsterMesh

open Walk

/-- A device with the seconds that went by and the airtime that was logged in each of them: for
transmissions, and for all. -/
structure Airwaves where
  air : AirTime
  seconds : ℕ
  (tx all : List (ℕ × ℕ))

namespace Airwaves

inductive Event where
  | runOnce
  | logAirtime (reportType : ReportTypes) (airtimeMs : UInt32)
  | getSilentMinutes (dutyCycle : ℚ)

variable (w : Airwaves)

/-- After the first run. -/
def start : Airwaves := ⟨AirTime.boot.runOnce, 1, [], []⟩

def step : Event → Airwaves
  | .runOnce => { w with air := w.air.runOnce, seconds := w.seconds + 1 }
  | .logAirtime reportType airtimeMs =>
    { w with
      air := w.air.logAirtime reportType airtimeMs
      tx := if reportType = .txLog then w.tx ++ [(w.seconds, airtimeMs.toNat)] else w.tx
      all := w.all ++ [(w.seconds, airtimeMs.toNat)] }
  | .getSilentMinutes _ => w

/-! ### What is said -/

/-- The sums are those of the current minute and the 59 before it, and of the current ten seconds and the
five periods before them. -/
structure Windows : Prop where
  tx : w.air.utilizationTXSum = Periods.amount w.tx fun s => w.seconds / 60 < s / 60 + 60
  all : w.air.channelUtilizationSum = Periods.amount w.all fun s => w.seconds / 10 < s / 10 + 6

def Event.isTx : Event → Bool
  | .logAirtime .txLog _ => true
  | _ => false

def Event.isRunOnce : Event → Bool
  | .runOnce => true
  | _ => false

/-- The minutes of silence are enough. -/
def Advises (dutyCycle : ℚ) : Prop :=
  w.air.getSilentMinutes w.air.utilizationTXPercent dutyCycle < 60 → ∀ es : List Event,
    (∀ e ∈ es, e.isTx = false) →
    es.countP Event.isRunOnce = 60 * w.air.getSilentMinutes w.air.utilizationTXPercent dutyCycle →
    (run step w es).air.utilizationTXPercent < dutyCycle

def Sound (e : Event) : Prop :=
  (w.step e).Windows ∧ match e with
    | .getSilentMinutes dutyCycle => w.Advises dutyCycle
    | _ => True

/-- What the last `k` counters hold, in the unit of the window. -/
def heldAtEnd (k : ℕ) : ℕ := ∑ j ∈ Finset.range k, w.air.utilizationTX (59 - j)

/-- What the counters hold that are the next `k` to be cleared. -/
def nextToClear (k : ℕ) : ℕ := Periods.coming 60 60 w.seconds k ⟨w.air.utilizationTX, w.air.lastUtilPeriodTX⟩

/-- The airtime, in milliseconds, that is too much for a duty cycle. -/
def excess (dutyCycle : ℚ) : ℚ := w.air.utilizationTXSum - dutyCycle * 36000

/-- The clock does not wrap around, and not within an hour where that is looked into. -/
def InClock : Event → Prop
  | .runOnce => w.seconds + 1 < 2 ^ 32
  | .logAirtime _ _ => True
  | .getSilentMinutes _ => w.seconds + 3600 < 2 ^ 32

/-- Where the `k` counters at the end of the ring, and no fewer, hold more than the excess, so do the
`k - 1` counters that are cleared next. -/
def InOrder : Event → Prop
  | .getSilentMinutes dutyCycle => ∀ k, 0 < k → k ≤ 60 → w.excess dutyCycle < w.heldAtEnd k →
      (∀ k', 0 < k' → k' < k → ¬ w.excess dutyCycle < w.heldAtEnd k') →
      w.excess dutyCycle < w.nextToClear (k - 1)
  | _ => True

def Meets (e : Event) : Prop := w.InClock e ∧ w.InOrder e

/-! ### The windows -/

variable {w} {e : Event}

/-- The clock and both rings. -/
structure Tracked (w : Airwaves) : Prop where
  clock : w.air.secSinceBoot.toNat = w.seconds
  begun : w.air.firstTime = false
  tx : Periods.Tracks 60 60 w.seconds w.tx ⟨w.air.utilizationTX, w.air.lastUtilPeriodTX⟩
  all : Periods.Tracks 10 6 w.seconds w.all ⟨w.air.channelUtilization, w.air.lastUtilPeriod⟩

theorem Tracked.windows (h : w.Tracked) : w.Windows :=
  ⟨h.tx.total_eq (by decide), h.all.total_eq (by decide)⟩

theorem start_tracked : start.Tracked :=
  ⟨rfl, rfl, Periods.tracks_zero (by decide), Periods.tracks_zero (by decide)⟩

/-- What a run of the thread does to the rings. -/
theorem runOnce_rings (s : AirTime) (hs : s.firstTime = false) :
    s.runOnce.secSinceBoot = s.secSinceBoot + 1 ∧ s.runOnce.firstTime = false ∧
      Periods.mk s.runOnce.utilizationTX s.runOnce.lastUtilPeriodTX =
        Periods.turn 60 60 (s.secSinceBoot + 1).toNat ⟨s.utilizationTX, s.lastUtilPeriodTX⟩ ∧
      Periods.mk s.runOnce.channelUtilization s.runOnce.lastUtilPeriod =
        Periods.turn 10 6 (s.secSinceBoot + 1).toNat ⟨s.channelUtilization, s.lastUtilPeriod⟩ := by
  obtain ⟨s', hs', hsec, hfirst, htx, hlast, hall, hlast'⟩ : ∃ s' : AirTime,
      s' = ({ s with secSinceBoot := s.secSinceBoot + 1 } : AirTime).airtimeRotatePeriod ∧
      s'.secSinceBoot = s.secSinceBoot + 1 ∧ s'.firstTime = false ∧
      s'.utilizationTX = s.utilizationTX ∧ s'.lastUtilPeriodTX = s.lastUtilPeriodTX ∧
      s'.channelUtilization = s.channelUtilization ∧ s'.lastUtilPeriod = s.lastUtilPeriod := by
    refine ⟨_, rfl, ?_⟩
    unfold AirTime.airtimeRotatePeriod
    split_ifs
    · exact ⟨rfl, hs, rfl, rfl, rfl, rfl⟩
    · exact ⟨rfl, hs, rfl, rfl, rfl, rfl⟩
  unfold AirTime.runOnce
  dsimp only
  rw [if_neg (by rw [hs]; decide), ← hs']
  unfold AirTime.getPeriodUtilMinute AirTime.getPeriodUtilHour Periods.turn
  unfold channelUtilizationPeriods minutesInHour
  rw [← hsec, ← htx, ← hlast, ← hall, ← hlast']
  by_cases hm : s'.lastUtilPeriod ≠ Periods.place 10 6 s'.secSinceBoot.toNat
  · rw [if_pos hm, if_pos hm]
    dsimp only
    split_ifs
    · exact ⟨rfl, hfirst, rfl, rfl⟩
    · exact ⟨rfl, hfirst, rfl, rfl⟩
  · rw [if_neg hm, if_neg hm]
    split_ifs
    · exact ⟨rfl, hfirst, rfl, rfl⟩
    · exact ⟨rfl, hfirst, rfl, rfl⟩

theorem runOnce_tracked (h : w.Tracked) (hc : w.seconds + 1 < 2 ^ 32) : (w.step .runOnce).Tracked := by
  obtain ⟨hsec, hfirst, htx, hall⟩ := runOnce_rings w.air h.begun
  have hnow : (w.air.secSinceBoot + 1).toNat = w.seconds + 1 := by
    rw [UInt32.toNat_add, h.clock]
    exact Nat.mod_eq_of_lt hc
  rw [hnow] at htx hall
  refine ⟨?_, hfirst, ?_, ?_⟩
  · exact (congrArg UInt32.toNat hsec).trans hnow
  · change Periods.Tracks 60 60 (w.seconds + 1) w.tx
      ⟨w.air.runOnce.utilizationTX, w.air.runOnce.lastUtilPeriodTX⟩
    rw [htx]
    exact h.tx.turn (by decide)
  · change Periods.Tracks 10 6 (w.seconds + 1) w.all
      ⟨w.air.runOnce.channelUtilization, w.air.runOnce.lastUtilPeriod⟩
    rw [hall]
    exact h.all.turn (by decide)

/-- What a logged airtime does to the rings. -/
theorem logAirtime_rings (s : AirTime) (reportType : ReportTypes) (airtimeMs : UInt32) :
    Periods.mk (s.logAirtime reportType airtimeMs).utilizationTX
          (s.logAirtime reportType airtimeMs).lastUtilPeriodTX =
        (if reportType = .txLog then
          Periods.add 60 60 s.secSinceBoot.toNat airtimeMs.toNat ⟨s.utilizationTX, s.lastUtilPeriodTX⟩
        else ⟨s.utilizationTX, s.lastUtilPeriodTX⟩) ∧
      Periods.mk (s.logAirtime reportType airtimeMs).channelUtilization
          (s.logAirtime reportType airtimeMs).lastUtilPeriod =
        Periods.add 10 6 s.secSinceBoot.toNat airtimeMs.toNat ⟨s.channelUtilization, s.lastUtilPeriod⟩ := by
  cases reportType with
  | txLog => exact ⟨rfl, rfl⟩
  | rxLog => exact ⟨rfl, rfl⟩
  | rxAllLog => exact ⟨rfl, rfl⟩

theorem logAirtime_tracked (h : w.Tracked) (reportType : ReportTypes) (airtimeMs : UInt32) :
    (w.step (.logAirtime reportType airtimeMs)).Tracked := by
  obtain ⟨htx, hall⟩ := logAirtime_rings w.air reportType airtimeMs
  rw [h.clock] at htx hall
  refine ⟨?_, ?_, ?_, ?_⟩
  · cases reportType with
    | txLog => exact h.clock
    | rxLog => exact h.clock
    | rxAllLog => exact h.clock
  · cases reportType with
    | txLog => exact h.begun
    | rxLog => exact h.begun
    | rxAllLog => exact h.begun
  · unfold step
    dsimp only
    rw [htx]
    split_ifs
    · exact h.tx.add (by decide) _
    · exact h.tx
  · unfold step
    dsimp only
    rw [hall]
    exact h.all.add (by decide) _

theorem step_tracked (h : w.Tracked) (hc : w.InClock e) : (w.step e).Tracked := by
  cases e with
  | runOnce => exact runOnce_tracked h hc
  | logAirtime reportType airtimeMs => exact logAirtime_tracked h reportType airtimeMs
  | getSilentMinutes dutyCycle => exact h

/-! ### What the minutes of silence are -/

variable {dutyCycle : ℚ} {k m : ℕ} {es : List Event}

/-- An amount that leaves the window is enough where it is more than the excess. -/
theorem below_iff (sum gone : ℕ) (dutyCycle : ℚ) :
    (sum / AirTime.msInHour * 100 : ℚ) - gone / 36000 < dutyCycle ↔ sum - dutyCycle * 36000 < gone := by
  unfold AirTime.msInHour
  constructor
  · intro h
    push_cast at h
    linarith
  · intro h
    push_cast
    linarith

theorem percent_lt_iff : w.air.utilizationTXPercent < dutyCycle ↔ w.excess dutyCycle < 0 := by
  have h := below_iff w.air.utilizationTXSum 0 dutyCycle
  rw [Nat.cast_zero, zero_div, sub_zero] at h
  exact h

theorem heldAtEnd_succ (w : Airwaves) (k : ℕ) :
    w.heldAtEnd (k + 1) = w.heldAtEnd k + w.air.utilizationTX (59 - k) :=
  Finset.sum_range_succ _ _

/-- The loop ends at the first `k` with more than the excess in the last `k` counters. -/
theorem silentFrom_cases (w : Airwaves) (dutyCycle : ℚ) {i : ℕ} (hi : i ≤ 60) :
    (∀ k, 60 - i < k → k ≤ 60 → ¬ w.excess dutyCycle < w.heldAtEnd k) ∧
        w.air.silentFrom dutyCycle i (w.air.utilizationTXPercent - w.heldAtEnd (60 - i) / 36000) = 60 ∨
      ∃ k, 60 - i < k ∧ k ≤ 60 ∧ w.excess dutyCycle < w.heldAtEnd k ∧
        (∀ k', 60 - i < k' → k' < k → ¬ w.excess dutyCycle < w.heldAtEnd k') ∧
        w.air.silentFrom dutyCycle i (w.air.utilizationTXPercent - w.heldAtEnd (60 - i) / 36000) = k - 1 := by
  induction i with
  | zero => exact Or.inl ⟨fun k h hk => absurd hk (by omega), rfl⟩
  | succ i ih =>
    have hnext : w.air.utilizationTXPercent - w.heldAtEnd (60 - (i + 1)) / 36000 -
        w.air.utilizationTX i / (AirTime.msInHour / 100 : ℕ) =
          w.air.utilizationTXPercent - w.heldAtEnd (60 - i) / 36000 := by
      have hheld := heldAtEnd_succ w (60 - (i + 1))
      rw [show 60 - (i + 1) + 1 = 60 - i by omega, show 59 - (60 - (i + 1)) = i by omega] at hheld
      rw [hheld, show AirTime.msInHour / 100 = 36000 from rfl]
      push_cast
      ring
    unfold AirTime.silentFrom
    rw [hnext]
    have hiff : w.air.utilizationTXPercent - w.heldAtEnd (60 - i) / 36000 < dutyCycle ↔
        w.excess dutyCycle < w.heldAtEnd (60 - i) := below_iff ..
    by_cases hlt : w.air.utilizationTXPercent - w.heldAtEnd (60 - i) / 36000 < dutyCycle
    · rw [if_pos hlt]
      refine Or.inr ⟨60 - i, by omega, by omega, hiff.mp hlt, fun k' h h' => absurd h' (by omega), ?_⟩
      unfold minutesInHour
      omega
    · rw [if_neg hlt]
      have hnot : ∀ k, 60 - (i + 1) < k → ¬ 60 - i < k → ¬ w.excess dutyCycle < w.heldAtEnd k := by
        intro k h h'
        rw [show k = 60 - i by omega]
        exact fun hc => hlt (hiff.mpr hc)
      rcases ih (by omega) with ⟨hall, he⟩ | ⟨k, hk, hk', hk'', hall, he⟩
      · refine Or.inl ⟨fun k h hk => ?_, he⟩
        by_cases h' : 60 - i < k
        · exact hall k h' hk
        · exact hnot k h h'
      · refine Or.inr ⟨k, by omega, hk', hk'', fun k' h hlt' => ?_, he⟩
        by_cases h' : 60 - i < k'
        · exact hall k' h' hlt'
        · exact hnot k' h h'

theorem getSilentMinutes_cases (w : Airwaves) (dutyCycle : ℚ) :
    (∀ k, 0 < k → k ≤ 60 → ¬ w.excess dutyCycle < w.heldAtEnd k) ∧
        w.air.getSilentMinutes w.air.utilizationTXPercent dutyCycle = 60 ∨
      ∃ k, 0 < k ∧ k ≤ 60 ∧ w.excess dutyCycle < w.heldAtEnd k ∧
        (∀ k', 0 < k' → k' < k → ¬ w.excess dutyCycle < w.heldAtEnd k') ∧
        w.air.getSilentMinutes w.air.utilizationTXPercent dutyCycle = k - 1 := by
  have hnone : w.air.utilizationTXPercent - w.heldAtEnd (60 - 60) / 36000 = w.air.utilizationTXPercent := by
    rw [show w.heldAtEnd (60 - 60) = 0 from rfl, Nat.cast_zero, zero_div, sub_zero]
  have h := silentFrom_cases w dutyCycle (le_refl 60)
  rw [hnone] at h
  exact h

/-- The minutes are right where the counters that are cleared meanwhile hold more than the excess. -/
theorem inOrder_iff (w : Airwaves) (dutyCycle : ℚ) : w.InOrder (.getSilentMinutes dutyCycle) ↔
    (w.air.getSilentMinutes w.air.utilizationTXPercent dutyCycle < 60 → w.excess dutyCycle <
      w.nextToClear (w.air.getSilentMinutes w.air.utilizationTXPercent dutyCycle)) := by
  rcases getSilentMinutes_cases w dutyCycle with ⟨hall, he⟩ | ⟨k, hk, hk', hk'', hall, he⟩
  · rw [he]
    exact ⟨fun _ h => absurd h (by omega), fun _ k h h' hc => absurd hc (hall k h h')⟩
  · rw [he]
    constructor
    · intro h _
      exact h k hk hk' hk'' hall
    · intro h j hj hj' hj'' hfirst
      rcases Nat.lt_trichotomy j k with hlt | heq | hgt
      · exact absurd hj'' (hall j hj hlt)
      · subst heq
        exact h (by omega)
      · exact absurd hk'' (hfirst k hk hgt)

/-! ### Silence -/

theorem step_silent (he : e.isTx = false) : (w.step e).tx = w.tx ∧
    (w.step e).seconds = w.seconds + [e].countP Event.isRunOnce := by
  cases e with
  | runOnce => exact ⟨rfl, rfl⟩
  | logAirtime reportType airtimeMs =>
    cases reportType with
    | txLog => cases he
    | rxLog => exact ⟨rfl, rfl⟩
    | rxAllLog => exact ⟨rfl, rfl⟩
  | getSilentMinutes dutyCycle => exact ⟨rfl, rfl⟩

/-- A clock that counts on does so along a silent run. -/
theorem silent_run (h : w.Tracked) (hes : ∀ e ∈ es, e.isTx = false)
    (hc : w.seconds + es.countP Event.isRunOnce < 2 ^ 32) :
    (run step w es).Tracked ∧ (run step w es).tx = w.tx ∧
      (run step w es).seconds = w.seconds + es.countP Event.isRunOnce := by
  induction es generalizing w with
  | nil => exact ⟨h, rfl, rfl⟩
  | cons e es ih =>
    obtain ⟨he, hrest⟩ := List.forall_mem_cons.mp hes
    obtain ⟨htx, hseconds⟩ := step_silent (w := w) he
    have hcount : ([e] ++ es).countP Event.isRunOnce =
        [e].countP Event.isRunOnce + es.countP Event.isRunOnce := List.countP_append
    rw [List.singleton_append] at hcount
    have htracked : (w.step e).Tracked := by
      cases e with
      | runOnce => exact runOnce_tracked h (by simp [Event.isRunOnce] at hcount; omega)
      | logAirtime reportType airtimeMs => exact logAirtime_tracked h reportType airtimeMs
      | getSilentMinutes dutyCycle => exact h
    obtain ⟨hrun, htx', hseconds'⟩ := ih htracked hrest (by omega)
    refine ⟨hrun, htx'.trans htx, ?_⟩
    rw [run_cons, hseconds', hseconds, hcount, Nat.add_assoc]

/-- After `m` minutes without a transmission the window has lost the `m` counters that were next. -/
theorem silent_sum (h : w.Tracked) (hm : m ≤ 60) (hes : ∀ e ∈ es, e.isTx = false)
    (hcount : es.countP Event.isRunOnce = 60 * m) (hc : w.seconds + 3600 < 2 ^ 32) :
    w.air.utilizationTXSum = w.nextToClear m + (run step w es).air.utilizationTXSum := by
  obtain ⟨hrun, htx, hseconds⟩ := silent_run h hes (by omega)
  have hsum := h.tx.total_coming hm (by decide)
  have hlater := hrun.windows.tx
  rw [htx, hseconds, hcount, Nat.add_mul_div_left _ _ (by decide)] at hlater
  rw [hlater]
  exact hsum

theorem advises_iff (h : w.Tracked) (hc : w.seconds + 3600 < 2 ^ 32) :
    w.Advises dutyCycle ↔ w.InOrder (.getSilentMinutes dutyCycle) := by
  rw [inOrder_iff]
  unfold Advises
  have hafter : ∀ m < 60, ∀ es : List Event, (∀ e ∈ es, e.isTx = false) →
      es.countP Event.isRunOnce = 60 * m →
      ((run step w es).air.utilizationTXPercent < dutyCycle ↔ w.excess dutyCycle < w.nextToClear m) := by
    intro m hm es hes hcount
    have hsum := silent_sum h (Nat.le_of_lt hm) hes hcount hc
    rw [percent_lt_iff]
    unfold excess
    rw [hsum]
    push_cast
    constructor
    · intro hlt
      linarith
    · intro hlt
      linarith
  constructor
  · intro hadvises hm
    let silence := List.replicate (60 * w.air.getSilentMinutes w.air.utilizationTXPercent dutyCycle) Event.runOnce
    have hsilent : ∀ e ∈ silence, e.isTx = false := by
      intro e he
      rw [List.eq_of_mem_replicate he]
      rfl
    have hcount : silence.countP Event.isRunOnce =
        60 * w.air.getSilentMinutes w.air.utilizationTXPercent dutyCycle := by
      rw [List.countP_replicate, if_pos (show Event.isRunOnce .runOnce = true from rfl)]
    exact (hafter _ hm silence hsilent hcount).mp (hadvises hm silence hsilent hcount)
  · intro horder hm es hes hcount
    exact (hafter _ hm es hes hcount).mpr (horder hm)

theorem sound_step (h : w.Tracked) (hc : w.InClock e) : w.Sound e ↔ w.InOrder e := by
  have hwindows := (step_tracked h hc).windows
  cases e with
  | runOnce => exact ⟨fun _ => trivial, fun _ => ⟨hwindows, trivial⟩⟩
  | logAirtime reportType airtimeMs => exact ⟨fun _ => trivial, fun _ => ⟨hwindows, trivial⟩⟩
  | getSilentMinutes dutyCycle =>
    exact ⟨fun hs => (advises_iff h hc).mp hs.2, fun ho => ⟨hwindows, (advises_iff h hc).mpr ho⟩⟩

theorem meets_run (h : w.Tracked) (hc : Along step InClock w es) (hs : Along step Sound w es) :
    Along step Meets w es := by
  induction es generalizing w with
  | nil => trivial
  | cons e es ih => exact ⟨⟨hc.1, (sound_step h hc.1).mp hs.1⟩, ih (step_tracked h hc.1) hc.2 hs.2⟩

/-- The windows hold and the advice is enough along each run where the counters at the end of the ring
stand for those that are cleared next; where the clock does not wrap around, along no other. -/
theorem duty_sound_iff (es : List Event) : (Along step Meets start es → Along step Sound start es) ∧
    (Along step InClock start es → Along step Sound start es → Along step Meets start es) := by
  constructor
  · exact Along.trade (fun w e h hc => step_tracked h hc.1)
      (fun w e h hc => (sound_step h hc.1).mpr hc.2) start_tracked
  · exact meets_run start_tracked

/-- Forty seconds are sent in the first minute, and the one counter that holds them is the last to be
looked at: 59 minutes are said, and the hour is not over by then. -/
theorem firstMinute_early : ¬ Along step Sound start [.logAirtime .txLog 40000, .getSilentMinutes 1] := by
  rintro ⟨-, hs, -⟩
  have htracked := step_tracked (e := .logAirtime .txLog 40000) start_tracked trivial
  have hclock : (start.step (.logAirtime .txLog 40000)).InClock (.getSilentMinutes 1) :=
    show 1 + 3600 < 2 ^ 32 by decide
  have horder := (sound_step htracked hclock).mp hs
  have hexcess : (start.step (.logAirtime .txLog 40000)).excess 1 = 4000 := by
    unfold excess
    rw [show (start.step (.logAirtime .txLog 40000)).air.utilizationTXSum = 40000 by decide +kernel]
    norm_num
  have hnone : ∀ k < 60, (start.step (.logAirtime .txLog 40000)).heldAtEnd k = 0 := by decide +kernel
  have hlast : (start.step (.logAirtime .txLog 40000)).heldAtEnd 60 = 40000 := by decide +kernel
  have hclear : (start.step (.logAirtime .txLog 40000)).nextToClear 59 = 0 := by decide +kernel
  have hlost := horder 60 (by decide) (le_refl _) (by rw [hexcess, hlast]; norm_num) fun k _ hk => by
    rw [hexcess, hnone k hk]
    norm_num
  rw [hexcess, hclear] at hlost
  norm_num at hlost

end Airwaves
end MonsterMesh
