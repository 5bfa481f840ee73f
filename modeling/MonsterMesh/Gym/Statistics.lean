import MonsterMesh.Gym.Effects
import MonsterMesh.Lib.Walk

/-! The records of a gym against what was reported to it. -/
namespace MonsterMesh

open Gauntlet

/-! ### What was reported -/

/-- The results handled so far, by node. -/
structure GymTally where
  results : ℕ
  (promotions losses ended : UInt32 → ℕ)

/-- One more at one node. -/
def countAt (count : UInt32 → ℕ) (node : UInt32) (b : Bool) : UInt32 → ℕ :=
  fun x => count x + if x = node ∧ b = true then 1 else 0

def GymTally.book (t : GymTally) (node : UInt32) (won promoted : Bool) : GymTally where
  results := t.results + 1
  promotions := countAt t.promotions node promoted
  losses := countAt t.losses node !won
  ended := countAt t.ended node (promoted || !won)

/-- A gym with the tally of its results beside it. -/
structure TalliedGym where
  gym : Gauntlet
  tally : GymTally

namespace TalliedGym

def step (w : TalliedGym) (x : GymEnv × GymEvent) : TalliedGym where
  gym := w.gym.step x.1 x.2
  tally :=
    match x.2.result with
    | none => w.tally
    | some (fromId, won) =>
      w.tally.book (x.1.getFrom fromId) won (w.gym.promotes x.1 fromId won)

/-- A device at its first boot. -/
def fresh (env : GymEnv) : TalliedGym := ⟨(blank env).boot env, ⟨0, fun _ => 0, fun _ => 0, fun _ => 0⟩⟩

/-- The result of the step, if it brings one, ends a challenge. -/
def EndsChallenge (w : TalliedGym) (x : GymEnv × GymEvent) : Prop :=
  ∃ fromId won, x.2.result = some (fromId, won) ∧ (won = false ∨ w.gym.promotes x.1 fromId won = true)

/-- Every result was counted once. -/
structure Right (w : TalliedGym) : Prop where
  titles : ∀ x, (w.gym.record x).gymTitles.toNat = w.tally.promotions x
  wins : ∀ x, (w.gym.record x).totalWins.toNat = w.tally.promotions x
  losses : ∀ x, (w.gym.record x).totalLosses.toNat = w.tally.losses x
  challenges : ∀ x, (w.gym.record x).totalChallenges.toNat = w.tally.ended x
  battles : w.gym.state.totalBattles.toNat = w.tally.results

/-! ### What is counted -/

/-- What a record holds: a promotion twice where the node reports it itself, no loss ever. Here `p`
counts the promotions the node sent under its own number, `q` those of the local client, `z` those of
a device without a number, `l` the losses the node sent under its own number. -/
structure Counts (w : TalliedGym) (x : UInt32) (p q z l : ℕ) : Prop where
  titles : (w.gym.record x).gymTitles = UInt8.ofNat (2 * p + q)
  wins : (w.gym.record x).totalWins = UInt32.ofNat (2 * p + q)
  losses : (w.gym.record x).totalLosses = 0
  challenges : (w.gym.record x).totalChallenges = UInt32.ofNat (p + l)
  promotions : w.tally.promotions x = p + q + z
  lost : l ≤ w.tally.losses x
  ended : w.tally.ended x = p + q + z + w.tally.losses x

/-- The counts move with the record and the tally. -/
theorem Counts.next {w w' : TalliedGym} {x : UInt32} {p q z l : ℕ} (hc : w.Counts x p q z l)
    (dp dq dz dl dL : ℕ)
    (ht : (w'.gym.record x).gymTitles = (w.gym.record x).gymTitles + UInt8.ofNat (2 * dp + dq))
    (hw : (w'.gym.record x).totalWins = (w.gym.record x).totalWins + UInt32.ofNat (2 * dp + dq))
    (hl : (w'.gym.record x).totalLosses = (w.gym.record x).totalLosses)
    (hch : (w'.gym.record x).totalChallenges =
      (w.gym.record x).totalChallenges + UInt32.ofNat (dp + dl))
    (hp : w'.tally.promotions x = w.tally.promotions x + (dp + dq + dz))
    (hL : w'.tally.losses x = w.tally.losses x + dL) (hle : dl ≤ dL)
    (he : w'.tally.ended x = w.tally.ended x + (dp + dq + dz + dL)) :
    w'.Counts x (p + dp) (q + dq) (z + dz) (l + dl) where
  titles := by
    rw [ht, hc.titles, ← UInt8.ofNat_add]
    congr 1
    omega
  wins := by
    rw [hw, hc.wins, ← UInt32.ofNat_add]
    congr 1
    omega
  losses := hl.trans hc.losses
  challenges := by
    rw [hch, hc.challenges, ← UInt32.ofNat_add]
    congr 1
    omega
  promotions := by
    have := hc.promotions
    omega
  lost := by
    have := hc.lost
    omega
  ended := by
    have := hc.ended
    omega

structure Booked (w : TalliedGym) : Prop where
  saved : w.gym.flash = some w.gym.state
  battles : w.gym.state.totalBattles = UInt32.ofNat w.tally.results
  counts : ∀ x, ∃ p q z l, w.Counts x p q z l

variable {w : TalliedGym} {env : GymEnv} {e : GymEvent} {fromId : UInt32} {won : Bool}

theorem booked_fresh (env : GymEnv) : (fresh env).Booked := by
  have hboot := boot_tended { blank env with flash := some (.defaults env) } env rfl
  refine ⟨hboot.saved rfl, hboot.battles, fun x => ⟨0, 0, 0, 0, ?_⟩⟩
  have hrecord : (fresh env).gym.record x = .zero :=
    congrArg (fun ps : UInt32 → Option GauntletProfile => (ps x).getD .zero) hboot.profiles
  exact ⟨by rw [hrecord]; rfl, by rw [hrecord]; rfl, by rw [hrecord]; rfl, by rw [hrecord]; rfl, rfl,
    Nat.zero_le _, rfl⟩

/-- A step that brings no result. -/
theorem booked_quiet (hw : w.Booked) (h : e.result = none) : (w.step (env, e)).Booked := by
  have ht := step_tended env hw.saved h
  have htally : (w.step (env, e)).tally = w.tally := by
    unfold step
    dsimp only
    rw [h]
  refine ⟨ht.saved hw.saved, ?_, fun x => ?_⟩
  · rw [htally]
    exact ht.battles.trans hw.battles
  · obtain ⟨p, q, z, l, hc⟩ := hw.counts x
    have hrecord : (w.step (env, e)).gym.record x = w.gym.record x :=
      congrArg (fun ps : UInt32 → Option GauntletProfile => (ps x).getD .zero) ht.profiles
    exact ⟨p, q, z, l, by rw [hrecord]; exact hc.titles, by rw [hrecord]; exact hc.wins,
      by rw [hrecord]; exact hc.losses, by rw [hrecord]; exact hc.challenges,
      by rw [htally]; exact hc.promotions, by rw [htally]; exact hc.lost,
      by rw [htally]; exact hc.ended⟩

/-- A win below the leader changes no record. -/
theorem record_advance {outcome : UInt8} {rest : List UInt8} (ho : outcome = 1)
    (hi : w.gym.trainerOf env fromId < 4) (x : UInt32) :
    (w.gym.handleResult env fromId (outcome :: rest)).record x = w.gym.record x := by
  rw [handleResult_advance ho hi]
  rfl

theorem record_end {outcome : UInt8} {rest : List UInt8}
    (hi : ¬(outcome = 1 ∧ w.gym.trainerOf env fromId < 4)) (x : UInt32) :
    (w.gym.handleResult env fromId (outcome :: rest)).record x =
      (w.gym.endChallenge env fromId outcome (resultName env fromId rest)).record x := by
  rw [handleResult_end hi]
  rfl

variable (w env fromId) in
/-- A loss counts as a challenge of its sender, and as nothing else. -/
theorem record_loss {outcome : UInt8} (name : CStr) (ho : outcome ≠ 1) (x : UInt32) :
    let r := (w.gym.endChallenge env fromId outcome name).record x
    r.gymTitles = (w.gym.record x).gymTitles ∧ r.totalWins = (w.gym.record x).totalWins ∧
      r.totalLosses = (w.gym.record x).totalLosses ∧
      r.totalChallenges =
        (w.gym.record x).totalChallenges + if fromId ≠ 0 ∧ x = fromId then 1 else 0 := by
  unfold endChallenge
  rw [if_neg ho]
  by_cases h : fromId ≠ 0 ∧ x = fromId
  · obtain ⟨hf, rfl⟩ := h
    rw [if_pos ⟨hf, rfl⟩]
    have hr := profileUpdate_record w.gym env name [] true false false 0 hf
    simpa using hr
  · rw [if_neg h, profileUpdate_record_ne]
    · simp
    · rw [not_and_or, not_not] at h
      exact h

variable (w env fromId) in
/-- A promotion is written by the promotion and again by the result behind it. -/
theorem record_win (name : CStr) (x : UInt32) :
    let r := (w.gym.endChallenge env fromId 1 name).record x
    let twice : Bool := fromId ≠ 0 ∧ x = fromId
    let once : Bool := fromId = 0 ∧ env.self ≠ 0 ∧ x = env.self
    r.gymTitles = (w.gym.record x).gymTitles + (if twice then 2 else if once then 1 else 0) ∧
      r.totalWins = (w.gym.record x).totalWins + (if twice then 2 else if once then 1 else 0) ∧
      r.totalLosses = (w.gym.record x).totalLosses ∧
      r.totalChallenges = (w.gym.record x).totalChallenges + (if twice then 1 else 0) := by
  unfold endChallenge promoteToLeader
  rw [if_pos rfl]
  dsimp only
  generalize hparty : gauntletFormatParty _ 64 = csv
  generalize hg : ({ w.gym with state := _ } : Gauntlet) = g₁
  have hg₁ (x : UInt32) : g₁.record x = w.gym.record x := by
    rw [← hg]
    rfl
  generalize hn : env.getFrom fromId = n
  generalize env.shortName n = short
  have hsave (g : Gauntlet) : (g.save.profileUpdate env fromId name csv true false 0 true true).record
      x = (g.profileUpdate env fromId name csv true false 0 true true).record x := by
    obtain ⟨ps, hp⟩ := profileUpdate_rest env fromId name csv true false 0 true true
    rw [hp, hp]
    rfl
  rw [hsave]
  unfold GymEnv.getFrom at hn
  by_cases hf : fromId = 0
  · rw [if_pos hf] at hn
    rw [profileUpdate_record_ne (.inl hf)]
    by_cases hx : n ≠ 0 ∧ x = n
    · obtain ⟨hn₀, rfl⟩ := hx
      have hr := profileUpdate_record g₁ env short csv false true true 0 hn₀
      rw [hg₁] at hr
      simpa [hf, hn, hn₀] using hr
    · rw [profileUpdate_record_ne (by rw [not_and_or, not_not] at hx; exact hx), hg₁, hn]
      simp [hf, hx]
  · rw [if_neg hf] at hn
    subst hn
    by_cases hx : x = fromId
    · subst hx
      have hr := profileUpdate_record g₁ env short csv false true true 0 hf
      have hr' := profileUpdate_record (g₁.profileUpdate env x short csv false false 0 true true)
        env name csv true true true 0 hf
      obtain ⟨h₁, h₂, h₃, h₄⟩ := hr
      obtain ⟨h₁', h₂', h₃', h₄'⟩ := hr'
      rw [h₁, hg₁] at h₁'
      rw [h₂, hg₁] at h₂'
      rw [h₃, hg₁] at h₃'
      rw [h₄, hg₁] at h₄'
      refine ⟨?_, ?_, h₃', ?_⟩
      · rw [h₁', if_pos rfl, UInt8.add_assoc, if_pos (by simp [hf])]
        rfl
      · rw [h₂', if_pos rfl, UInt32.add_assoc, if_pos (by simp [hf])]
        rfl
      · rw [h₄']
        simp [hf]
    · rw [profileUpdate_record_ne (.inr hx), profileUpdate_record_ne (.inr hx), hg₁]
      simp [hf, hx]

variable (w env e) in
/-- What a step with a result hands on. -/
theorem step_book (h : e.result = some (fromId, won)) : ∃ outcome rest,
    won = decide (outcome = 1) ∧
    (w.step (env, e)).gym = w.gym.handleResult env fromId (outcome :: rest) ∧
    (w.step (env, e)).tally =
      w.tally.book (env.getFrom fromId) won (w.gym.promotes env fromId won) := by
  obtain ⟨outcome, rest, hwon, hstep⟩ := step_result w.gym env h
  refine ⟨outcome, rest, hwon, hstep, ?_⟩
  unfold step
  dsimp only
  rw [h]

/-- A step with a result: a challenge goes on, is lost, or is won. -/
theorem booked_result (hw : w.Booked) (h : e.result = some (fromId, won)) :
    (w.step (env, e)).Booked := by
  obtain ⟨outcome, rest, hwon, hgym, htally⟩ := step_book w env e h
  have hcount (s : GauntletState) (hs : s.totalBattles = w.gym.state.totalBattles) :
      s.totalBattles + 1 = UInt32.ofNat (w.step (env, e)).tally.results := by
    rw [htally, hs, hw.battles]
    exact (UInt32.ofNat_add _ 1).symm
  by_cases hi : outcome = 1 ∧ w.gym.trainerOf env fromId < 4
  · -- the ladder goes up, and only the battle is counted
    have hno : w.gym.promotes env fromId won = false ∧ won = true := by
      rw [hwon]
      exact ⟨by simp [promotes, hi.2], decide_eq_true hi.1⟩
    have hrecord (x : UInt32) : (w.step (env, e)).gym.record x = w.gym.record x := by
      rw [hgym]
      exact record_advance hi.1 hi.2 x
    rw [handleResult_advance hi.1 hi.2] at hgym
    refine ⟨by rw [hgym]; rfl, by rw [hgym]; exact hcount _ rfl, fun x => ?_⟩
    obtain ⟨p, q, z, l, hc⟩ := hw.counts x
    refine ⟨p + 0, q + 0, z + 0, l + 0, hc.next 0 0 0 0 0 ?_ ?_ ?_ ?_ ?_ ?_ le_rfl ?_⟩
    · rw [hrecord]; simp
    · rw [hrecord]; simp
    · rw [hrecord]
    · rw [hrecord]; simp
    · rw [htally, hno.1]; simp [GymTally.book, countAt]
    · rw [htally, hno.2]; simp [GymTally.book, countAt]
    · rw [htally, hno.1, hno.2]; simp [GymTally.book, countAt]
  have hrecord (x : UInt32) : (w.step (env, e)).gym.record x =
      (w.gym.endChallenge env fromId outcome (resultName env fromId rest)).record x := by
    rw [hgym]
    exact record_end hi x
  rw [handleResult_end hi] at hgym
  refine ⟨by rw [hgym]; rfl, by rw [hgym]; exact hcount _ (endChallenge_battles _ _), fun x => ?_⟩
  obtain ⟨p, q, z, l, hc⟩ := hw.counts x
  by_cases ho : outcome = 1
  · have hyes : w.gym.promotes env fromId won = true ∧ won = true := by
      rw [hwon]
      exact ⟨by simpa [promotes, ho] using fun h => hi ⟨ho, h⟩, decide_eq_true ho⟩
    obtain ⟨h₁, h₂, h₃, h₄⟩ := record_win w env fromId
      (resultName env fromId rest) x
    subst ho
    rw [← hrecord] at h₁ h₂ h₃ h₄
    rw [hyes.1, hyes.2] at htally
    unfold GymEnv.getFrom at htally
    by_cases hf : fromId = 0
    · rw [if_pos hf] at htally
      by_cases hx : x = env.self
      · subst hx
        by_cases hs : env.self = 0
        · rw [hs] at hc h₁ h₂ h₃ h₄ htally ⊢
          refine ⟨_, _, _, _, hc.next 0 0 1 0 0 ?_ ?_ h₃ ?_ ?_ ?_ le_rfl ?_⟩
          all_goals simp [h₁, h₂, h₄, htally, GymTally.book, countAt, hf]
        · refine ⟨_, _, _, _, hc.next 0 1 0 0 0 ?_ ?_ h₃ ?_ ?_ ?_ le_rfl ?_⟩
          all_goals simp [h₁, h₂, h₄, htally, GymTally.book, countAt, hf, hs]
      · refine ⟨_, _, _, _, hc.next 0 0 0 0 0 ?_ ?_ h₃ ?_ ?_ ?_ le_rfl ?_⟩
        all_goals simp [h₁, h₂, h₄, htally, GymTally.book, countAt, hf, hx]
    · rw [if_neg hf] at htally
      by_cases hx : x = fromId
      · subst hx
        refine ⟨_, _, _, _, hc.next 1 0 0 0 0 ?_ ?_ h₃ ?_ ?_ ?_ le_rfl ?_⟩
        all_goals simp [h₁, h₂, h₄, htally, GymTally.book, countAt, hf]
      · refine ⟨_, _, _, _, hc.next 0 0 0 0 0 ?_ ?_ h₃ ?_ ?_ ?_ le_rfl ?_⟩
        all_goals simp [h₁, h₂, h₄, htally, GymTally.book, countAt, hf, hx]
  · have hno : w.gym.promotes env fromId won = false ∧ won = false := by
      rw [hwon]
      exact ⟨by simp [promotes, ho], decide_eq_false ho⟩
    obtain ⟨h₁, h₂, h₃, h₄⟩ := record_loss w env fromId
      (resultName env fromId rest) ho x
    rw [← hrecord] at h₁ h₂ h₃ h₄
    rw [hno.1, hno.2] at htally
    unfold GymEnv.getFrom at htally
    by_cases hf : fromId = 0
    · rw [if_pos hf] at htally
      by_cases hx : x = env.self
      · subst hx
        refine ⟨_, _, _, _, hc.next 0 0 0 0 1 ?_ ?_ h₃ ?_ ?_ ?_ (Nat.zero_le 1) ?_⟩
        all_goals simp [h₁, h₂, h₄, htally, GymTally.book, countAt, hf]
      · refine ⟨_, _, _, _, hc.next 0 0 0 0 0 ?_ ?_ h₃ ?_ ?_ ?_ le_rfl ?_⟩
        all_goals simp [h₁, h₂, h₄, htally, GymTally.book, countAt, hf, hx]
    · rw [if_neg hf] at htally
      by_cases hx : x = fromId
      · subst hx
        refine ⟨_, _, _, _, hc.next 0 0 0 1 1 ?_ ?_ h₃ ?_ ?_ ?_ le_rfl ?_⟩
        all_goals simp [h₁, h₂, h₄, htally, GymTally.book, countAt, hf]
      · refine ⟨_, _, _, _, hc.next 0 0 0 0 0 ?_ ?_ h₃ ?_ ?_ ?_ le_rfl ?_⟩
        all_goals simp [h₁, h₂, h₄, htally, GymTally.book, countAt, hf, hx]

theorem booked_step (hw : w.Booked) (x : GymEnv × GymEvent) : (w.step x).Booked := by
  obtain ⟨env, e⟩ := x
  cases h : e.result with
  | none => exact booked_quiet hw h
  | some r => exact booked_result hw h

/-- The records are right just when there was nothing to record. -/
theorem Booked.right_iff (hw : w.Booked) :
    w.Right ↔ (∀ x, w.tally.ended x = 0) ∧ w.tally.results < 2 ^ 32 := by
  constructor
  · intro hr
    refine ⟨fun x => ?_, ?_⟩
    · obtain ⟨p, q, z, l, hc⟩ := hw.counts x
      have ht := hr.titles x
      have hl := hr.losses x
      have hch := hr.challenges x
      rw [hc.titles, UInt8.toNat_ofNat', hc.promotions] at ht
      rw [hc.losses] at hl
      rw [hc.challenges, UInt32.toNat_ofNat', hc.ended] at hch
      have hlost := hc.lost
      have hended := hc.ended
      change 0 = _ at hl
      omega
    · have hb := hr.battles
      rw [hw.battles, UInt32.toNat_ofNat'] at hb
      omega
  · rintro ⟨hzero, hlt⟩
    have hcounts (x : UInt32) : w.Counts x 0 0 0 0 ∧ w.tally.losses x = 0 := by
      obtain ⟨p, q, z, l, hc⟩ := hw.counts x
      have hx := hzero x
      rw [hc.ended] at hx
      have hlost := hc.lost
      obtain rfl : p = 0 := by omega
      obtain rfl : q = 0 := by omega
      obtain rfl : z = 0 := by omega
      obtain rfl : l = 0 := by omega
      exact ⟨hc, by omega⟩
    refine ⟨fun x => ?_, fun x => ?_, fun x => ?_, fun x => ?_, ?_⟩
    · rw [(hcounts x).1.titles, (hcounts x).1.promotions]
      rfl
    · rw [(hcounts x).1.wins, (hcounts x).1.promotions]
      rfl
    · rw [(hcounts x).1.losses, (hcounts x).2]
      rfl
    · rw [(hcounts x).1.challenges, hzero x]
      rfl
    · rw [hw.battles, UInt32.toNat_ofNat']
      omega

/-! ### Runs -/

/-- The counts of ended challenges only grow, and do so where one ends. -/
theorem ended_step (x : GymEnv × GymEvent) :
    (∀ n, (w.step x).tally.ended n = 0) ↔ (∀ n, w.tally.ended n = 0) ∧ ¬w.EndsChallenge x := by
  obtain ⟨env, e⟩ := x
  unfold EndsChallenge
  cases h : e.result with
  | none =>
    have htally : (w.step (env, e)).tally = w.tally := by
      unfold step
      dsimp only
      rw [h]
    rw [htally]
    exact ⟨fun hz => ⟨hz, nofun⟩, fun hz => hz.1⟩
  | some r =>
    obtain ⟨fromId, won⟩ := r
    obtain ⟨_, _, -, -, htally⟩ := step_book w env e h
    rw [htally]
    constructor
    · intro hz
      refine ⟨fun n => ?_, ?_⟩
      · have hn := hz n
        change w.tally.ended n + _ = 0 at hn
        omega
      · rintro ⟨f, b, hr, hend⟩
        cases hr
        have hn := hz (env.getFrom fromId)
        change _ + (if _ then 1 else 0) = 0 at hn
        rw [if_pos] at hn
        · omega
        · rcases hend with rfl | hp
          · exact ⟨rfl, Bool.or_true _⟩
          · rw [hp]
            exact ⟨rfl, rfl⟩
    · rintro ⟨hz, hend⟩ n
      change w.tally.ended n + (if _ then 1 else 0) = 0
      rw [hz n, if_neg]
      rintro ⟨-, hb⟩
      refine hend ⟨fromId, won, rfl, ?_⟩
      rcases Bool.or_eq_true_iff.mp hb with hp | hl
      · exact .inr hp
      · exact .inl (by simpa using hl)

theorem ended_run (l : List (GymEnv × GymEvent)) :
    (∀ n, (Walk.run step w l).tally.ended n = 0) ↔
      (∀ n, w.tally.ended n = 0) ∧ Walk.Along step (fun w x => ¬w.EndsChallenge x) w l := by
  induction l generalizing w with
  | nil => exact ⟨fun h => ⟨h, trivial⟩, fun h => h.1⟩
  | cons x l ih =>
    rw [Walk.run_cons, ih, ended_step, and_assoc]
    rfl

/-- The statistics of a gym are right just when no challenge has ended and its counter of battles has
not come round. -/
theorem statistics_right_iff (env : GymEnv) (l : List (GymEnv × GymEvent)) :
    (Walk.run step (fresh env) l).Right ↔
      Walk.Along step (fun w x => ¬w.EndsChallenge x) (fresh env) l ∧
        (Walk.run step (fresh env) l).tally.results < 2 ^ 32 := by
  have hbooked : (Walk.run step (fresh env) l).Booked :=
    Walk.run_keeps (fun w x hw => booked_step hw x) (booked_fresh env)
  rw [hbooked.right_iff, ended_run]
  exact ⟨fun h => ⟨h.1.2, h.2⟩, fun h => ⟨⟨fun _ => rfl, h.1⟩, h.2⟩⟩

/-- A gym where node 7 reports a loss: no loss is on record. -/
theorem loss_not_counted : ¬(Walk.run step (fresh (.plain 0))
    [(.plain 1000, .battle 7 ⟨bbsFightResult, 0, 0, [0, 0]⟩ .zero)]).Right := fun h =>
  absurd (h.losses 7) (by decide)

end TalliedGym
end MonsterMesh
