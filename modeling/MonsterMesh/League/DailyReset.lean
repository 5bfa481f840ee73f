import MonsterMesh.League.State

/-! The daily reset: once for each 9:00 boundary, as far as a 32-bit time reaches. -/
namespace MonsterMesh

/-- 9:00 local time. -/
def NineLocal (tz t : ℤ) : Prop := 86400 ∣ t + tz * 3600 - 9 * 3600

/-- The first 9:00 after a time. -/
def nextNine (tz now : ℤ) : ℤ := now + 86400 - (now + tz * 3600 - 9 * 3600) % 86400

theorem nextNine_spec (tz now : ℤ) :
    NineLocal tz (nextNine tz now) ∧ now < nextNine tz now ∧ nextNine tz now ≤ now + 86400 := by
  unfold NineLocal nextNine
  omega

theorem nextNine_unique {tz now t : ℤ} (ht : NineLocal tz t) (h₁ : now < t) (h₂ : t ≤ now + 86400) :
    t = nextNine tz now := by
  unfold NineLocal at ht
  unfold nextNine
  omega

/-! ### The step -/

/-- The shifted division of the source rounds down on either side of zero. -/
theorem tdiv_shifted (x : ℤ) : (if x < 0 then x - (86400 - 1) else x).tdiv 86400 = x / 86400 := by
  have hsign : Int.sign 86400 = 1 := rfl
  rw [Int.tdiv_eq_ediv]
  split_ifs <;> omega

namespace LordSave

variable (s : LordSave) (tz : ℤ) (now : ℕ)

/-- The stored boundary is the first one after the call, cut to 32 bits. -/
theorem dailyReset_eq (h : 0 < now) : s.lordApplyDailyReset now tz =
    if s.nextResetEpoch = 0 ∨ s.nextResetEpoch ≤ now then
      { s with exploreRunsToday := 0, nextResetEpoch := (nextNine tz now % 2 ^ 32).toNat }
    else s := by
  unfold lordApplyDailyReset
  dsimp only
  rw [if_neg h.ne', tdiv_shifted]
  have hnine : ((now : ℤ) + tz * 3600 - 9 * 3600) / 86400 * 86400 + 9 * 3600 + 86400 - tz * 3600 =
      nextNine tz now := by
    unfold nextNine
    omega
  rw [hnine]

end LordSave

/-! ### Runs of calls -/

/-- The runs explored since the last call, and the time of this one. -/
structure Visit where
  (runs now : ℕ)

/-- The save, and the time of the last call. -/
structure Calendar where
  save : LordSave
  last : Option ℕ

namespace Calendar

variable {tz : ℤ} {c : Calendar} {v : Visit} {visits : List Visit}

def fresh : Calendar := { save := lordInitDefaults, last := none }

def visit (tz : ℤ) (c : Calendar) (v : Visit) : Calendar :=
  { save := { c.save with exploreRunsToday := v.runs }.lordApplyDailyReset v.now tz, last := some v.now }

/-- No call came before, or a 9:00 lies after the last one and not after this one. -/
def Crossed (tz : ℤ) (last : Option ℕ) (now : ℕ) : Prop :=
  ∀ prev ∈ last, ∃ b, NineLocal tz b ∧ (prev : ℤ) < b ∧ b ≤ now

/-- The call resets the runs exactly where a 9:00 was crossed, and the next 9:00 is stored. -/
structure OnTime (tz : ℤ) (c : Calendar) (v : Visit) : Prop where
  reset : Crossed tz c.last v.now → (c.visit tz v).save.exploreRunsToday = 0
  kept : ¬ Crossed tz c.last v.now → (c.visit tz v).save.exploreRunsToday = v.runs
  next : v.now < (c.visit tz v).save.nextResetEpoch ∧
    (c.visit tz v).save.nextResetEpoch ≤ v.now + 86400
  nine : NineLocal tz (c.visit tz v).save.nextResetEpoch

/-- What is stored between two calls. -/
structure Armed (tz : ℤ) (c : Calendar) : Prop where
  none : c.last = none → c.save.nextResetEpoch = 0
  some : ∀ prev ∈ c.last, (c.save.nextResetEpoch : ℤ) = nextNine tz prev

theorem visit_save (tz : ℤ) (c : Calendar) (h : 0 < v.now) : (c.visit tz v).save =
    if c.save.nextResetEpoch = 0 ∨ c.save.nextResetEpoch ≤ v.now then
      { c.save with exploreRunsToday := 0, nextResetEpoch := (nextNine tz v.now % 2 ^ 32).toNat }
    else { c.save with exploreRunsToday := v.runs } := by
  unfold visit
  rw [LordSave.dailyReset_eq _ _ _ h]

theorem visit_next_lt (tz : ℤ) (h : 0 < v.now) (hs : c.save.nextResetEpoch < 2 ^ 32) :
    (c.visit tz v).save.nextResetEpoch < 2 ^ 32 := by
  rw [visit_save tz c h]
  split_ifs
  · dsimp only
    omega
  · exact hs

/-- While the boundary after the last call is stored, a call resets where a 9:00 was crossed. -/
theorem crossed_iff (ha : c.Armed tz) :
    Crossed tz c.last v.now ↔ c.save.nextResetEpoch = 0 ∨ c.save.nextResetEpoch ≤ v.now := by
  unfold Crossed
  cases hc : c.last with
  | none => exact ⟨fun _ => .inl (ha.none hc), fun _ => nofun⟩
  | some prev =>
    have hstored := ha.some prev hc
    obtain ⟨hnine, hlt, hle⟩ := nextNine_spec tz prev
    constructor
    · intro h
      obtain ⟨b, hb, hpb, hbn⟩ := h prev rfl
      right
      have hfirst : nextNine tz prev ≤ b := by
        unfold NineLocal at hnine hb
        unfold nextNine at hnine ⊢
        omega
      omega
    · intro h p hp
      cases hp
      exact ⟨nextNine tz prev, hnine, hlt, by omega⟩

theorem visit_onTime (ha : c.Armed tz) (hlast : ∀ prev ∈ c.last, prev ≤ v.now) (h : 0 < v.now)
    (hfit : nextNine tz v.now < 2 ^ 32) : c.OnTime tz v ∧ (c.visit tz v).Armed tz := by
  have hiff := crossed_iff (v := v) ha
  have hsave := visit_save tz c h
  obtain ⟨hnine, hlt, hle⟩ := nextNine_spec tz v.now
  have hstored : ((c.visit tz v).save.nextResetEpoch : ℤ) = nextNine tz v.now := by
    rw [hsave]
    split_ifs with hr
    · dsimp only
      omega
    · -- the boundary after the last call is also the one after this call
      dsimp only
      cases hc : c.last with
      | none => exact absurd (.inl (ha.none hc)) hr
      | some prev =>
        have hprev := ha.some prev hc
        have hle' := hlast prev hc
        obtain ⟨hn, _, hb⟩ := nextNine_spec tz prev
        rw [← hprev] at hn hb
        exact nextNine_unique hn (by omega) (by omega)
  refine ⟨⟨fun hc => ?_, fun hc => ?_, ?_, ?_⟩, nofun, fun prev hp => ?_⟩
  · rw [hsave, if_pos (hiff.mp hc)]
  · rw [hsave, if_neg fun hr => hc (hiff.mpr hr)]
  · omega
  · rwa [hstored]
  · cases hp
    exact hstored

/-- The boundary that a call stores fits 32 bits where it is the right one. -/
theorem OnTime.fits (h : c.OnTime tz v) (hpos : 0 < v.now) (hs : c.save.nextResetEpoch < 2 ^ 32) :
    nextNine tz v.now < 2 ^ 32 := by
  have hlt := visit_next_lt tz hpos hs
  obtain ⟨h₁, h₂⟩ := h.next
  rw [← nextNine_unique h.nine (by omega) (by omega)]
  omega

theorem along_of_fits (ha : c.Armed tz) (hpos : ∀ v ∈ visits, 0 < v.now)
    (hlast : ∀ v ∈ visits, ∀ prev ∈ c.last, prev ≤ v.now)
    (hsorted : visits.Pairwise fun v w => v.now ≤ w.now)
    (hfit : ∀ v ∈ visits, nextNine tz v.now < 2 ^ 32) : Walk.Along (visit tz) (OnTime tz) c visits := by
  induction visits generalizing c with
  | nil => trivial
  | cons v visits ih =>
    obtain ⟨hv, hrest⟩ := List.pairwise_cons.mp hsorted
    have hmem : v ∈ v :: visits := List.mem_cons_self ..
    obtain ⟨hon, harmed⟩ := visit_onTime ha (hlast v hmem) (hpos v hmem) (hfit v hmem)
    refine ⟨hon, ih harmed ?_ ?_ hrest ?_⟩
    · exact fun w hw => hpos w (List.mem_cons_of_mem v hw)
    · intro w hw prev hp
      cases hp
      exact hv w hw
    · exact fun w hw => hfit w (List.mem_cons_of_mem v hw)

theorem fits_of_along (hs : c.save.nextResetEpoch < 2 ^ 32) (hpos : ∀ v ∈ visits, 0 < v.now)
    (h : Walk.Along (visit tz) (OnTime tz) c visits) : ∀ v ∈ visits, nextNine tz v.now < 2 ^ 32 := by
  induction visits generalizing c with
  | nil => exact nofun
  | cons v visits ih =>
    have hv := hpos v (List.mem_cons_self ..)
    have hrest := ih (visit_next_lt tz hv hs) (fun w hw => hpos w (List.mem_cons_of_mem v hw)) h.2
    exact List.forall_mem_cons.mpr ⟨h.1.fits hv hs, hrest⟩

/-- From a fresh save, every call is on time exactly where no boundary passes 32 bits. -/
theorem daily_reset_iff (tz : ℤ) (visits : List Visit) (hpos : ∀ v ∈ visits, 0 < v.now)
    (hsorted : visits.Pairwise fun v w => v.now ≤ w.now) :
    Walk.Along (visit tz) (OnTime tz) fresh visits ↔ ∀ v ∈ visits, nextNine tz v.now < 2 ^ 32 := by
  have harmed : fresh.Armed tz := ⟨fun _ => rfl, nofun⟩
  exact ⟨fits_of_along (by decide) hpos, along_of_fits harmed hpos (fun _ _ => nofun) hsorted⟩

theorem daily_reset_two_days : Walk.Along (visit (-4)) (OnTime (-4)) fresh [⟨3, 1⟩, ⟨2, 90000⟩] :=
  (daily_reset_iff (-4) _ (by decide) (by decide)).mpr (by decide)

/-- On the last day of a 32-bit clock the next boundary is stored as a time long past. -/
theorem last_day_not_onTime : ¬ Walk.Along (visit (-4)) (OnTime (-4)) fresh [⟨0, 4294967295⟩] := fun h => by
  have hlt := h.1.next.1
  revert hlt
  decide +kernel

end Calendar
end MonsterMesh
