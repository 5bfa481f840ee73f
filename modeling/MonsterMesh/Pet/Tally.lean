import MonsterMesh.Pet.Ends

/-! The counters of a day, the bonuses for its steps, and what a batch of steps does to them. -/
namespace MonsterMesh.Pet

variable {c : Moment} {s s' : Pet} {n k j : ℕ}

/-- The steps of the day and of the pet's life, the bonuses of the day, and the last look at the clock. -/
structure Tally where
  (steps totalSteps : ℕ)
  (todayReach150 todayReach300 : Bool)
  lastMinuteCheck : UInt32
  lastCheckedHour : ℤ

def tally (s : Pet) : Tally where
  steps := s.status.steps
  totalSteps := s.status.totalSteps
  todayReach150 := s.status.todayReach150
  todayReach300 := s.status.todayReach300
  lastMinuteCheck := s.lastMinuteCheck
  lastCheckedHour := s.lastCheckedHour

/-! ### Bonuses -/

inductive Tier where
  | first | second
deriving DecidableEq

namespace Tier

def threshold : Tier → ℕ
  | first => stepsUnlock1
  | second => stepsUnlock2

def bonus : Tier → ℤ
  | first => 200
  | second => 300

/-- The bonus was granted today. -/
def reached (t : Tier) (y : Tally) : Bool :=
  match t with
  | first => y.todayReach150
  | second => y.todayReach300

def mark (t : Tier) (s : Pet) : Pet :=
  match t with
  | first => { s with status.todayReach150 := true }
  | second => { s with status.todayReach300 := true }

/-- The bonus is due. -/
def due (t : Tier) (s : Pet) : Bool := !t.reached s.tally && t.threshold ≤ s.status.totalSteps

def grant (c : Moment) (t : Tier) (s : Pet) : Pet :=
  if t.due s then updateFriendship c (t.mark s) t.bonus else s

end Tier

/-- The tiers are two grants of a bonus. -/
theorem unlockTiers_grant : unlockTiers c s = Tier.second.grant c (Tier.first.grant c s) := by
  unfold unlockTiers Tier.grant Tier.due
  simp only [Bool.and_eq_true, Bool.not_eq_true', decide_eq_true_eq]
  rfl

/-- The bonuses that a step earns, if it is counted. -/
def bonuses (s : Pet) : List Tier :=
  if 99999 ≤ s.status.steps then [] else [Tier.first, .second].filter fun t => t.due (countStep s)

def Tally.stepped (y : Tally) (ts : List Tier) : Tally :=
  { y with
    steps := y.steps + 1
    totalSteps := (y.totalSteps + 1) % 2 ^ 32
    todayReach150 := y.todayReach150 || Tier.first ∈ ts
    todayReach300 := y.todayReach300 || Tier.second ∈ ts }

theorem updateFriendship_tally (delta : ℤ) : (updateFriendship c s delta).tally = s.tally := by
  obtain ⟨f, a, heq, -⟩ := updateFriendship_eq c s delta
  rw [heq]
  rfl

theorem grant_tally (t : Tier) : (t.grant c s).tally = if t.due s then (t.mark s).tally else s.tally := by
  unfold Tier.grant
  split_ifs
  · exact updateFriendship_tally _
  · rfl

theorem unlockTiers_tally : (unlockTiers c s).tally = { s.tally with
    todayReach150 := s.status.todayReach150 || Tier.first.due s
    todayReach300 := s.status.todayReach300 || Tier.second.due s } := by
  have hsecond : Tier.second.due (Tier.first.grant c s) = Tier.second.due s := by
    have htally : (Tier.first.grant c s).tally.totalSteps = s.status.totalSteps ∧
        (Tier.first.grant c s).tally.todayReach300 = s.status.todayReach300 := by
      rw [grant_tally]
      split_ifs <;> exact ⟨rfl, rfl⟩
    change (!(Tier.first.grant c s).tally.todayReach300 && decide (_ ≤ (Tier.first.grant c s).tally.totalSteps)) = _
    rw [htally.1, htally.2]
    rfl
  have hfirst : (Tier.first.grant c s).tally =
      { s.tally with todayReach150 := s.status.todayReach150 || Tier.first.due s } := by
    rw [grant_tally]
    split_ifs with h
    · rw [h, Bool.or_true]
      rfl
    · rw [Bool.eq_false_iff.mpr h, Bool.or_false]
      rfl
  rw [unlockTiers_grant, grant_tally, hsecond]
  split_ifs with h
  · rw [h, Bool.or_true]
    change { (Tier.first.grant c s).tally with todayReach300 := true } = _
    rw [hfirst]
  · rw [Bool.eq_false_iff.mpr h, Bool.or_false, hfirst]
    rfl

theorem mem_bonuses (hs : s.status.steps < 99999) (t : Tier) : t ∈ bonuses s ↔ t.due (countStep s) = true := by
  unfold bonuses
  rw [if_neg (Nat.not_le.mpr hs), List.mem_filter]
  cases t <;> simp

/-- A step that is counted. -/
theorem processStepCore_tally (hs : s.status.steps < 99999) :
    (processStepCore c s).tally = s.tally.stepped (bonuses s) := by
  have hcount : (countStep s).tally = { s.tally with
      steps := s.status.steps + 1, totalSteps := (s.status.totalSteps + 1) % 2 ^ 32 } := by
    obtain ⟨w, m, heq⟩ := countStep_eq s
    rw [heq]
    rfl
  have hunlock : (unlockTiers c (countStep s)).tally = s.tally.stepped (bonuses s) := by
    have hflags : (countStep s).status.todayReach150 = s.status.todayReach150 ∧
        (countStep s).status.todayReach300 = s.status.todayReach300 :=
      ⟨congrArg Tally.todayReach150 hcount, congrArg Tally.todayReach300 hcount⟩
    have hmem : ∀ t, decide (t ∈ bonuses s) = t.due (countStep s) := fun t =>
      Bool.eq_iff_iff.mpr (decide_eq_true_iff.trans (mem_bonuses hs t))
    rw [unlockTiers_tally, hcount, hflags.1, hflags.2]
    unfold Tally.stepped
    rw [hmem, hmem]
    rfl
  unfold processStepCore
  rw [if_neg (Nat.not_le.mpr hs)]
  dsimp only
  rw [← hunlock]
  split_ifs <;> rfl

theorem stepped_reached (t : Tier) (y : Tally) (ts : List Tier) :
    t.reached (y.stepped ts) = (t.reached y || t ∈ ts) := by cases t <;> rfl

theorem due_step (t : Tier) : t.due (countStep s) =
    (!t.reached s.tally && t.threshold ≤ (s.status.totalSteps + 1) % 2 ^ 32) := by
  obtain ⟨w, m, heq⟩ := countStep_eq s
  rw [heq]
  cases t <;> rfl

theorem bonuses_nodup (s : Pet) : (bonuses s).Nodup := by
  unfold bonuses
  split_ifs
  · exact List.nodup_nil
  · exact List.Pairwise.filter _ (by decide)

/-! ### Batches -/

/-- The pets that a batch of steps is handed to, one step each. -/
def walked (c : Moment) : ℕ → Pet → List Pet
  | 0, _ => []
  | n + 1, s =>
    let s' := processStepCore c s
    s :: if s'.gameState = .gameComplete then [] else walked c n s'

/-- The bonuses of the steps, each with the number of the step that earns it, after `k` steps. -/
def earnings : ℕ → List Pet → List (Tier × ℕ)
  | _, [] => []
  | k, s :: ss => (bonuses s).map (·, k + 1) ++ earnings (k + 1) ss

/-- The steps of a batch after the first. -/
theorem walked_cons (c : Moment) (n : ℕ) (s : Pet) : ∃ m, walked c (n + 1) s = s :: walked c m (processStepCore c s) ∧
    processSteps c (n + 1) s = processSteps c m (processStepCore c s) := by
  by_cases h : (processStepCore c s).gameState = .gameComplete
  · refine ⟨0, ?_, ?_⟩
    · exact congrArg (s :: ·) (if_pos h)
    · exact if_pos h
  · refine ⟨n, ?_, ?_⟩
    · exact congrArg (s :: ·) (if_neg h)
    · exact if_neg h

theorem walked_induction (c : Moment) {P : Pet → List Pet → Pet → Prop} (hnil : ∀ s, P s [] s)
    (hcons : ∀ s ss s', P (processStepCore c s) ss s' → P s (s :: ss) s') (n : ℕ) (s : Pet) :
    P s (walked c n s) (processSteps c n s) := by
  induction hm : (walked c n s).length using Nat.strong_induction_on generalizing n s with
  | _ l ih =>
    cases n with
    | zero => exact hnil s
    | succ n =>
      obtain ⟨m, hwalked, hsteps⟩ := walked_cons c n s
      rw [hwalked, hsteps]
      refine hcons _ _ _ (ih _ ?_ m _ rfl)
      rw [← hm, hwalked, List.length_cons]
      omega

theorem processSteps_steps (n : ℕ) (s : Pet) (hs : s.status.steps ≤ 99999) :
    (processSteps c n s).status.steps = min (s.status.steps + (walked c n s).length) 99999 := by
  refine walked_induction c (P := fun s ss s' => s.status.steps ≤ 99999 →
    s'.status.steps = min (s.status.steps + ss.length) 99999) ?_ ?_ n s hs
  · intro s hs
    rw [List.length_nil, Nat.add_zero, Nat.min_eq_left hs]
  · intro s ss s' ih hs
    rw [List.length_cons]
    by_cases hfull : 99999 ≤ s.status.steps
    · rw [processStepCore_full hfull] at ih
      rw [ih hs]
      omega
    · have hstep := congrArg Tally.steps (processStepCore_tally (c := c) (Nat.lt_of_not_le hfull))
      change (processStepCore c s).status.steps = s.status.steps + 1 at hstep
      rw [ih (by omega), hstep]
      omega

/-- A bonus of a batch was not granted before, and is due at its step. -/
theorem earnings_due (n k : ℕ) (s : Pet) : ∀ p ∈ earnings k (walked c n s), p.1.reached s.tally = false ∧
    ∃ j < (walked c n s).length, s.status.steps + j < 99999 ∧
      p.1.threshold ≤ (s.status.totalSteps + j + 1) % 2 ^ 32 ∧ p.2 = k + j + 1 := by
  refine walked_induction c (P := fun s ss _ => ∀ k, ∀ p ∈ earnings k ss, p.1.reached s.tally = false ∧
    ∃ j < ss.length, s.status.steps + j < 99999 ∧
      p.1.threshold ≤ (s.status.totalSteps + j + 1) % 2 ^ 32 ∧ p.2 = k + j + 1) ?_ ?_ n s k
  · intro s k p hp
    cases hp
  · intro s ss s' ih k p hp
    unfold earnings at hp
    by_cases hfull : 99999 ≤ s.status.steps
    · rw [bonuses, if_pos hfull, List.map_nil, List.nil_append] at hp
      obtain ⟨-, j, -, hj, -⟩ := ih (k + 1) p hp
      rw [processStepCore_full hfull] at hj
      omega
    · have hlt := Nat.lt_of_not_le hfull
      have htally := processStepCore_tally (c := c) hlt
      rcases List.mem_append.mp hp with hp | hp
      · obtain ⟨t, ht, rfl⟩ := List.mem_map.mp hp
        have hdue := (mem_bonuses hlt t).mp ht
        rw [due_step, Bool.and_eq_true, Bool.not_eq_true', decide_eq_true_eq] at hdue
        exact ⟨hdue.1, 0, Nat.succ_pos _, hlt, hdue.2, rfl⟩
      · obtain ⟨hreached, j, hj, hcap, hthr, hnum⟩ := ih (k + 1) p hp
        rw [htally, stepped_reached, Bool.or_eq_false_iff] at hreached
        have hsteps : (processStepCore c s).status.steps = s.status.steps + 1 := congrArg Tally.steps htally
        have htotal : (processStepCore c s).status.totalSteps = (s.status.totalSteps + 1) % 2 ^ 32 :=
          congrArg Tally.totalSteps htally
        rw [hsteps] at hcap
        rw [htotal, Nat.add_assoc, Nat.mod_add_mod] at hthr
        refine ⟨hreached.1, j + 1, Nat.succ_lt_succ hj, by omega, ?_, by omega⟩
        rwa [show s.status.totalSteps + (j + 1) + 1 = s.status.totalSteps + 1 + (j + 1) by omega]

/-- A bonus that falls due at a step of the batch is granted at this step or at an earlier one. -/
theorem earnings_granted {t : Tier} (n k : ℕ) (s : Pet) (hreached : t.reached s.tally = false)
    (hj : j < (walked c n s).length) (hcap : s.status.steps + j < 99999)
    (hthr : t.threshold ≤ (s.status.totalSteps + j + 1) % 2 ^ 32) :
    ∃ i ≤ j, (t, k + i + 1) ∈ earnings k (walked c n s) := by
  refine walked_induction c (P := fun s ss _ => ∀ j k, t.reached s.tally = false → j < ss.length →
    s.status.steps + j < 99999 → t.threshold ≤ (s.status.totalSteps + j + 1) % 2 ^ 32 →
    ∃ i ≤ j, (t, k + i + 1) ∈ earnings k ss) ?_ ?_ n s j k hreached hj hcap hthr
  · intro s j k _ hj
    exact absurd hj (Nat.not_lt_zero j)
  · intro s ss s' ih j k hreached hj hcap hthr
    have hlt : s.status.steps < 99999 := by omega
    have htally := processStepCore_tally (c := c) hlt
    by_cases hnow : t ∈ bonuses s
    · exact ⟨0, Nat.zero_le j, List.mem_append_left _ (List.mem_map.mpr ⟨t, hnow, rfl⟩)⟩
    · have hnot : ¬ t.threshold ≤ (s.status.totalSteps + 1) % 2 ^ 32 := by
        intro hle
        rw [mem_bonuses hlt, due_step, hreached, decide_eq_true hle] at hnow
        exact hnow rfl
      cases j with
      | zero => exact absurd hthr hnot
      | succ j =>
        have hsteps : (processStepCore c s).status.steps = s.status.steps + 1 := congrArg Tally.steps htally
        have htotal : (processStepCore c s).status.totalSteps = (s.status.totalSteps + 1) % 2 ^ 32 :=
          congrArg Tally.totalSteps htally
        obtain ⟨i, hi, hmem⟩ := ih j (k + 1)
          (by rw [htally, stepped_reached, hreached, decide_eq_false hnow]; rfl)
          (Nat.lt_of_succ_lt_succ hj) (by omega) (by
            rw [htotal, Nat.add_assoc, Nat.mod_add_mod]
            rwa [show s.status.totalSteps + 1 + (j + 1) = s.status.totalSteps + (j + 1) + 1 by omega])
        refine ⟨i + 1, Nat.succ_le_succ hi, List.mem_append_right _ ?_⟩
        rwa [show k + (i + 1) + 1 = k + 1 + i + 1 by omega]

/-- A batch grants a bonus once at most, and marks it. -/
theorem earnings_once (t : Tier) (n k : ℕ) (s : Pet) :
    ((earnings k (walked c n s)).map Prod.fst).count t ≤ (if t.reached s.tally then 0 else 1) ∧
    t.reached (processSteps c n s).tally =
      (t.reached s.tally || t ∈ (earnings k (walked c n s)).map Prod.fst) := by
  refine walked_induction c (P := fun s ss s' => ∀ k,
    ((earnings k ss).map Prod.fst).count t ≤ (if t.reached s.tally then 0 else 1) ∧
    t.reached s'.tally = (t.reached s.tally || t ∈ (earnings k ss).map Prod.fst)) ?_ ?_ n s k
  · intro s k
    refine ⟨Nat.zero_le _, ?_⟩
    rw [earnings, List.map_nil, decide_eq_false List.not_mem_nil, Bool.or_false]
  · intro s ss s' ih k
    obtain ⟨hcount, hmark⟩ := ih (k + 1)
    have hfst : (earnings k (s :: ss)).map Prod.fst = bonuses s ++ (earnings (k + 1) ss).map Prod.fst := by
      rw [earnings, List.map_append, List.map_map]
      exact congrArg (· ++ _) (List.map_id _)
    rw [hfst, List.count_append, hmark]
    by_cases hfull : 99999 ≤ s.status.steps
    · rw [processStepCore_full hfull] at hcount ⊢
      have hnone : bonuses s = [] := if_pos hfull
      rw [hnone, List.count_nil, Nat.zero_add, List.nil_append]
      exact ⟨hcount, rfl⟩
    · have hlt := Nat.lt_of_not_le hfull
      rw [processStepCore_tally hlt, stepped_reached] at hcount ⊢
      have hnow : t.reached s.tally = true → (bonuses s).count t = 0 := by
        intro hr
        refine List.count_eq_zero_of_not_mem fun hm => ?_
        rw [mem_bonuses hlt, due_step, hr] at hm
        cases hm
      have hone := List.nodup_iff_count.mp (bonuses_nodup s) t
      have hzero : t ∉ bonuses s → (bonuses s).count t = 0 := List.count_eq_zero_of_not_mem
      constructor
      · by_cases hr : t.reached s.tally = true
        · rw [hr] at hcount ⊢
          rw [hnow hr, Nat.zero_add]
          exact hcount
        · rw [Bool.eq_false_iff.mpr hr] at hcount ⊢
          by_cases hm : t ∈ bonuses s
          · rw [decide_eq_true hm] at hcount
            change _ ≤ 0 at hcount
            change _ ≤ 1
            omega
          · rw [decide_eq_false hm] at hcount
            rw [hzero hm, Nat.zero_add]
            exact hcount
      · simp only [List.mem_append, Bool.decide_or, Bool.or_assoc]

end MonsterMesh.Pet
