import MonsterMesh.Daycare.Granting

/-! What the daycare has granted over a run, and how often it says so. -/
namespace MonsterMesh

namespace DaycareHome

variable {h h' : DaycareHome} {e : HomeEvent} {now : Instant} {pick : Option (ℕ × Meeting)}
  {o : DaycareOutcome} {a : DaycareAchievement}

/-- The flags the next check-in would go on with. -/
def recalled (h : DaycareHome) : UInt64 := if h.loads then h.stored.achievementFlags else 0

/-- What has been granted: by the daycare that runs, else by the one in flash. -/
def Owns (h : DaycareHome) (a : DaycareAchievement) : Prop :=
  hasAchievement (if h.node.active then h.record.achievementFlags else h.recalled) a = true

/-- No event throws away a running daycare with achievements that are not in flash. -/
def Saved (h : DaycareHome) : HomeEvent → Prop
  | .init | .checkIn _ _ | .restart =>
    h.node.active = true →
      ∀ a, hasAchievement h.record.achievementFlags a = true → hasAchievement h.recalled a = true
  | _ => True

/-! ### What a step does to the flags -/

/-- Nothing that matters here is touched. -/
structure Quiet (h h' : DaycareHome) : Prop where
  active : h'.node.active = h.node.active
  magic : h'.node.state.magic = h.node.state.magic
  flash : h'.node.flash = h.node.flash
  flags : h'.record.achievementFlags = h.record.achievementFlags
  stored : h'.stored = h.stored
  reported : h'.reported = h.reported

/-- A running daycare grants what it reports. -/
structure Grew (h h' : DaycareHome) : Prop where
  active : h'.node.active = h.node.active
  magic : h'.node.state.magic = h.node.state.magic
  news : ∃ l, h'.reported = h.reported ++ l ∧ l.Nodup ∧
    (∀ a ∈ l, hasAchievement h.record.achievementFlags a = false) ∧
    ∀ a, hasAchievement h'.record.achievementFlags a = true ↔
      a ∈ l ∨ hasAchievement h.record.achievementFlags a = true

theorem Quiet.grew (hq : Quiet h h') : Grew h h' :=
  ⟨hq.active, hq.magic, [], by rw [hq.reported, List.append_nil], List.nodup_nil,
    fun _ ha => absurd ha List.not_mem_nil, fun a => by rw [hq.flags]; simp⟩

theorem Quiet.grew_trans {h₁ h₂ h₃ : DaycareHome} (hq : Quiet h₁ h₂) (hg : Grew h₂ h₃) : Grew h₁ h₃ := by
  obtain ⟨l, hr, hl⟩ := hg.news
  rw [hq.flags] at hl
  exact ⟨hg.active.trans hq.active, hg.magic.trans hq.magic, l, by rw [hr, hq.reported], hl⟩

/-- Saving or stamping changes neither the flags nor the reports. -/
theorem Grew.then {h₁ h₂ h₃ : DaycareHome} (hg : Grew h₁ h₂) (ha : h₃.node.active = h₂.node.active)
    (hm : h₃.node.state.magic = h₂.node.state.magic)
    (hf : h₃.record.achievementFlags = h₂.record.achievementFlags) (hr : h₃.reported = h₂.reported) :
    Grew h₁ h₃ := by
  obtain ⟨l, hrep, hl⟩ := hg.news
  rw [← hf] at hl
  exact ⟨ha.trans hg.active, hm.trans hg.magic, l, by rw [hr, hrep], hl⟩

theorem quiet_happen : Quiet h (h.happen pick o) := by
  obtain ⟨r, hr⟩ := DaycareNode.cycle_eq h.node pick
  have hflags : (h.happen pick o).record.achievementFlags = h.record.achievementFlags := by
    unfold happen DaycareRecord.updateEventCounters DaycareRecord.award
    dsimp only
    split_ifs <;> rfl
  unfold happen at hflags ⊢
  rw [hr]
  exact ⟨rfl, rfl, rfl, hflags, rfl, rfl⟩

theorem grew_check : Grew h h.check := by
  refine ⟨rfl, rfl, h.view.news h.node.neighbors.count h.node.now newAchs, rfl, ?_, ?_, ?_⟩
  · rw [DaycareView.news_eq]
    exact (Quota.nodup_due).sublist (List.take_sublist _ _)
  · intro a ha
    rw [DaycareView.news_eq] at ha
    exact Bool.eq_false_iff.mpr (DaycareView.mem_due.mp (List.mem_of_mem_take ha)).2
  · intro a
    exact DaycareView.granted_after (v := h.view)

theorem grew_cycle : Grew h (h.runEventCycle pick o) := quiet_happen.grew_trans grew_check

theorem grew_tick : Grew h (h.tick now pick o) := by
  have hrefl : Quiet h h := ⟨rfl, rfl, rfl, rfl, rfl, rfl⟩
  have hdecay : Quiet h { h with node := h.node.decayIfDue now } := by
    unfold DaycareNode.decayIfDue
    split_ifs <;> exact ⟨rfl, rfl, rfl, rfl, rfl, rfl⟩
  have hcycle : ∀ k : DaycareHome, Grew k (k.cycleIfDue now pick o) := by
    intro k
    unfold cycleIfDue
    split_ifs
    · exact grew_cycle.then rfl rfl rfl rfl
    · exact Quiet.grew ⟨rfl, rfl, rfl, rfl, rfl, rfl⟩
  unfold tick
  split_ifs
  · exact hrefl.grew
  · have hg := hdecay.grew_trans (hcycle { h with node := h.node.decayIfDue now })
    dsimp only
    unfold saveIfDue
    split_ifs
    · exact hg.then rfl rfl rfl rfl
    · exact hg.then rfl rfl rfl rfl

theorem grew_force : Grew h (h.forceEvent pick o) := by
  unfold forceEvent
  split_ifs
  · exact grew_cycle.then rfl rfl rfl rfl
  · exact Quiet.grew ⟨rfl, rfl, rfl, rfl, rfl, rfl⟩

theorem quiet_received {b : DaycareBeacon} {m : Meeting} {evt : DaycareEvent} :
    Quiet h (h.received b m evt) := by
  have hnode : (h.node.handleReceived b m).active = h.node.active ∧
      (h.node.handleReceived b m).state.magic = h.node.state.magic ∧
      (h.node.handleReceived b m).flash = h.node.flash := by
    unfold DaycareNode.handleReceived DaycareNode.triggerArrivalEvent
    dsimp only
    split_ifs <;> exact ⟨rfl, rfl, rfl⟩
  refine ⟨hnode.1, hnode.2.1, hnode.2.2, ?_, rfl, rfl⟩
  unfold received DaycareRecord.award
  dsimp only
  split_ifs <;> rfl

theorem quiet_weather {w : DaycareWeatherType} : Quiet h (h.step (.weather w)) := by
  refine ⟨rfl, rfl, rfl, ?_, rfl, rfl⟩
  change (h.record.updateWeatherCounters _ w).achievementFlags = _
  cases w <;> rfl

/-- What a step does: it is quiet, a running daycare grows or stops, or the flags are read back. -/
inductive Kind (h : DaycareHome) (e : HomeEvent) (h' : DaycareHome) : Prop
  | quiet (hs : Saved h e) (hq : Quiet h h')
  | grew (hs : Saved h e) (ha : h.node.active = true) (hg : Grew h h')
  | stopped (hs : Saved h e) (ha : h.node.active = true) (ha' : h'.node.active = false)
    (hf : h.node.state.magic = daycareMagic → h'.recalled = h.record.achievementFlags)
    (hr : h'.reported = h.reported)
  | reread (hs : Saved h e ↔ (h.node.active = true →
      ∀ a, hasAchievement h.record.achievementFlags a = true → hasAchievement h.recalled a = true))
    (hf : (if h'.node.active then h'.record.achievementFlags else h'.recalled) = h.recalled)
    (hm : h'.node.active = true → h'.node.state.magic = daycareMagic) (hr : h'.reported = h.reported)

theorem checkIn_magic (d : DaycareNode) (count : UInt8) :
    (d.checkIn count).active = true ∧ (d.checkIn count).state.magic = daycareMagic := by
  unfold DaycareNode.checkIn
  rcases d.flash with _ | st
  · exact ⟨rfl, rfl⟩
  · dsimp only
    split_ifs with hm
    · exact ⟨rfl, hm⟩
    · exact ⟨rfl, rfl⟩

theorem step_kind (h : DaycareHome) (e : HomeEvent) : Kind h e (h.step e) := by
  have hrefl : Quiet h h := ⟨rfl, rfl, rfl, rfl, rfl, rfl⟩
  cases e with
  | wait ms => exact .quiet trivial ⟨rfl, rfl, rfl, rfl, rfl, rfl⟩
  | beacon b m evt => exact .quiet trivial quiet_received
  | weather w => exact .quiet trivial quiet_weather
  | tick lag pick o =>
    by_cases ha : h.node.active = true
    · exact .grew trivial ha grew_tick
    · have hs : h.step (.tick lag pick o) = h := if_pos (.inl (Bool.eq_false_iff.mpr ha))
      rw [hs]
      exact .quiet trivial hrefl
  | force pick o =>
    by_cases ha : h.node.active = true
    · exact .grew trivial ha grew_force
    · have hs : h.step (.force pick o) = h := if_neg ha
      rw [hs]
      exact .quiet trivial hrefl
  | init => exact .reread Iff.rfl rfl (fun ha => absurd ha Bool.false_ne_true) rfl
  | checkIn count info =>
    obtain ⟨ha, hm⟩ := checkIn_magic h.node count
    refine .reread Iff.rfl ?_ (fun _ => hm) rfl
    have hflags : (h.checkIn count info).record.achievementFlags = h.recalled := by
      unfold checkIn recalled
      dsimp only [DaycareRecord.checkIn]
      split_ifs <;> rfl
    change (if (h.node.checkIn count).active = true then (h.checkIn count info).record.achievementFlags
      else _) = _
    rw [if_pos ha, hflags]
  | checkOut =>
    by_cases ha : h.node.active = true
    · have hs : h.step .checkOut = { h.saveState with node := h.node.checkOut } := if_pos ha
      rw [hs]
      refine .stopped trivial ha rfl (fun hm => ?_) rfl
      exact if_pos (decide_eq_true hm)
    · have hs : h.step .checkOut = h := if_neg ha
      rw [hs]
      exact .quiet trivial hrefl
  | restart => exact .reread Iff.rfl rfl (fun ha => absurd ha Bool.false_ne_true) rfl

/-! ### Runs -/

/-- A running daycare has a state that can be read back. -/
def Armed (h : DaycareHome) : Prop := h.node.active = true → h.node.state.magic = daycareMagic

theorem armed_step (hm : h.Armed) : (h.step e).Armed := by
  cases step_kind h e with
  | quiet _ hq => exact fun ha => hq.magic.trans (hm (hq.active ▸ ha))
  | grew _ ha hg => exact fun _ => hg.magic.trans (hm ha)
  | stopped _ _ ha' _ _ => exact fun ha => absurd (ha.symm.trans ha') (by decide)
  | reread _ _ hm' _ => exact hm'

theorem quiet_owns (hq : Quiet h h') : h'.Owns a ↔ h.Owns a := by
  have hl : h'.loads = h.loads := congrArg (Option.any _) hq.flash
  unfold Owns recalled
  rw [hq.active, hq.flags, hq.stored, hl]

/-- Achievements are only lost where a running daycare is read back from an older state. -/
theorem owns_step_iff (hm : h.Armed) : (∀ a, h.Owns a → (h.step e).Owns a) ↔ Saved h e := by
  cases step_kind h e with
  | quiet hs hq => exact ⟨fun _ => hs, fun _ a ha => (quiet_owns hq).mpr ha⟩
  | grew hs ha hg =>
    obtain ⟨l, -, -, -, hiff⟩ := hg.news
    refine ⟨fun _ => hs, fun _ a hown => ?_⟩
    unfold Owns at hown ⊢
    rw [if_pos ha] at hown
    rw [if_pos (hg.active.trans ha)]
    exact (hiff a).mpr (.inr hown)
  | stopped hs ha ha' hf _ =>
    refine ⟨fun _ => hs, fun _ a hown => ?_⟩
    unfold Owns at hown ⊢
    rw [if_pos ha] at hown
    rwa [if_neg (by rw [ha']; exact Bool.false_ne_true), hf (hm ha)]
  | reread hs hf _ _ =>
    unfold Owns
    rw [hs, hf]
    constructor
    · intro hall ha a hown
      exact hall a (by rwa [if_pos ha])
    · intro hall a hown
      by_cases ha : h.node.active = true
      · rw [if_pos ha] at hown
        exact hall ha a hown
      · rwa [if_neg ha] at hown

/-- What was reported was reported once, and is still granted. -/
structure Honest (h : DaycareHome) : Prop where
  armed : h.Armed
  once : h.reported.Nodup
  owned : ∀ a ∈ h.reported, h.Owns a

theorem honest_step (hh : h.Honest) (hs : Saved h e) : (h.step e).Honest := by
  have hkeep := (owns_step_iff (e := e) hh.armed).mpr hs
  have hsame : (h.step e).reported = h.reported → (h.step e).Honest := fun hr =>
    ⟨armed_step hh.armed, hr ▸ hh.once, fun a ha => hkeep a (hh.owned a (hr ▸ ha))⟩
  cases step_kind h e with
  | quiet _ hq => exact hsame hq.reported
  | grew _ ha hg =>
    obtain ⟨l, hr, hnd, hnew, hiff⟩ := hg.news
    refine ⟨armed_step hh.armed, ?_, fun a hmem => ?_⟩
    · rw [hr]
      refine List.nodup_append.mpr ⟨hh.once, hnd, ?_⟩
      rintro a hold b hb rfl
      have hown := hh.owned a hold
      unfold Owns at hown
      rw [if_pos ha, hnew a hb] at hown
      exact absurd hown (by decide)
    · rw [hr, List.mem_append] at hmem
      rcases hmem with hmem | hmem
      · exact hkeep a (hh.owned a hmem)
      · unfold Owns
        rw [if_pos (hg.active.trans ha)]
        exact (hiff a).mpr (.inl hmem)
  | stopped _ _ _ _ hr => exact hsame hr
  | reread _ _ _ hr => exact hsame hr

theorem armed_start (num : UInt32) : (start num).Armed := fun ha => absurd ha Bool.false_ne_true

theorem honest_start (num : UInt32) : (start num).Honest :=
  ⟨armed_start num, List.nodup_nil, fun _ ha => absurd ha List.not_mem_nil⟩

open DaycareAchievement in
/-- What holds at a call is granted there or holds at the next, but for the reunion that found no room
and the neighbours that left; with calls enough it is granted. Over a run nothing granted is lost
exactly as long as no running daycare is read back from an older state, and then nothing is reported
twice. -/
theorem achievements_kept_iff (num : UInt32) (es : List HomeEvent) :
    (∀ (v : DaycareView) (nc nc' n : ℕ) (now now' : Instant),
      (∀ a, v.Holds nc now a → (v.after nc now n).Granted a ∨ (v.after nc now n).Holds nc' now' a) ↔
        (v.Squeezed nc now n theLonelyOne → v.Again now now') ∧
          (v.Squeezed nc now n neighborhood → 5 ≤ nc') ∧
          (v.Squeezed nc now n community → 10 ≤ nc')) ∧
      (∀ (v : DaycareView) (nc n : ℕ) (now : Instant) (ts : List Instant) (a : DaycareAchievement),
        0 < n → 35 ≤ ts.length → (a = theLonelyOne → ¬v.Squeezed nc now n theLonelyOne) →
          v.Holds nc now a → (v.calls nc n (now :: ts)).Granted a) ∧
      (Walk.Along step (fun h e => ∀ a, h.Owns a → (h.step e).Owns a) (start num) es ↔
        Walk.Along step Saved (start num) es) ∧
      (Walk.Along step Saved (start num) es → (Walk.run step (start num) es).reported.Nodup) := by
  refine ⟨fun _ _ _ _ _ _ => DaycareView.left_for_next_iff,
    fun _ _ _ _ _ _ hn hts hs ha => DaycareView.granted_at_last hn hts hs ha, ⟨fun h => ?_, fun h => ?_⟩,
    fun h => ?_⟩
  · exact Walk.Along.trade (fun _ _ hm _ => armed_step hm) (fun _ _ hm => (owns_step_iff hm).mp)
      (armed_start num) h
  · exact Walk.Along.trade (fun _ _ hm _ => armed_step hm) (fun _ _ hm => (owns_step_iff hm).mpr)
      (armed_start num) h
  · exact (Walk.run_invariant (fun _ _ => honest_step) (honest_start num) h).once

/-- A state in which a friend comes back after a week in the hour that earns five other achievements. -/
def reunion : DaycareView :=
  { partyCount := 1
    relationships := ⟨fun _ => ⟨2, 0, 16, 61, 0, 0, ⟨0, 3600000⟩, 7⟩, 1⟩
    record := { DaycareRecord.init with pokemon := fun _ => { DaycareResident.zero with totalHours := 1000 } } }

/-- The reunion is used up without being granted. -/
theorem reunion_lost :
    ¬∀ a, reunion.Holds 1 ⟨0, 3600000⟩ a →
      (reunion.after 1 ⟨0, 3600000⟩ 4).Granted a ∨ (reunion.after 1 ⟨0, 3600000⟩ 4).Holds 1 ⟨0, 3900000⟩ a := by
  intro h
  have hh : reunion.Holds 1 ⟨0, 3600000⟩ .theLonelyOne := by
    unfold DaycareView.Holds
    decide +kernel
  rcases h .theLonelyOne hh with hg | hn
  · exact absurd hg (by unfold DaycareView.Granted; decide +kernel)
  · exact absurd hn (by unfold DaycareView.Holds; decide +kernel)

end DaycareHome
end MonsterMesh
