import MonsterMesh.Gym.Parity

/-! Whether what an admin configures is what the gym then serves. -/
namespace MonsterMesh

open Gauntlet

/-- What an admin configures, by the way it comes in. -/
inductive Setting
  | slide (gymIdx : UInt8) (m : Fin 5) (level : UInt8)
  | gym (gymIdx level : UInt8)
  | set (gymIdx : UInt8) (m : Fin 5) (level : UInt8)

/-- The gym whose trainers it takes. -/
def Setting.source : Setting → UInt8
  | .slide gymIdx _ _ => gymIdx
  | .gym gymIdx _ => gymIdx
  | .set gymIdx _ _ => gymIdx

/-- The level it gives a slot, if it is about that slot. -/
def Setting.level : Setting → Fin 5 → Option UInt8
  | .slide _ m level, i => if i = m then some level else none
  | .gym gymIdx level, i => some (memberLevel gymIdx i level)
  | .set _ m level, i => if i = m then some level else none

/-- Between `s` and `s'` the slots it is about come to serve its trainers at its levels, by either
protocol, and the others serve what they did. -/
def Setting.Served (st : Setting) (s s' : GauntletState) : Prop :=
  ∀ (c : LadderRun) (out : Gen1Party) (i : Fin 5), c.bulkActive = true →
    match st.level i with
    | some level =>
      s'.bulkLineup c i = slotLineup (st.source, UInt8.ofNat i.val) level ∧
        s'.requestLineup out i = slotLineup (st.source, UInt8.ofNat i.val) level
    | none => s'.bulkLineup c i = s.bulkLineup c i ∧ s'.requestLineup out i = s.requestLineup out i

/-- What a setting needs to be served. The slide needs a gym that is filled; `admin set`, which sets no
slot, one whose slot has the trainer already, and no level that it wipes; a leader can go back to its own
level only where the auto-fill gave it none. -/
def Setting.Honoured (s : GauntletState) : Setting → Prop
  | .slide _ _ _ => s.autoEnabled = true
  | .gym _ _ => True
  | .set gymIdx m level => s.autoEnabled = true ∧ s.autoSlots m = (gymIdx, UInt8.ofNat m.val) ∧
    (m = 4 → level = 0 → s.autoLeaderLevel = 0 ∨ s.autoLeaderLevel = slotBoss (gymIdx, 4)) ∧
    (s.gymPresetIdx = gymIdx ∨ ∀ i, i ≠ m → slotLevel (s.autoSlots i) (s.slotScale i) =
      slotLevel (s.autoSlots i) (if i = 4 then s.autoLeaderLevel else 0))

/-- The gym accepts a setting that the event brings. -/
inductive Gauntlet.Accepts (g : Gauntlet) (env : GymEnv) : GymEvent → Setting → Prop
  | slide {gymIdx memberIdx level : UInt8} {m : Fin 5} (hg : gymIdx < gauntletGymCount)
      (hm : m.val = memberIdx.toNat) (hl : level ≤ 100) :
      Accepts g env (.menuApply gymIdx memberIdx level) (.slide gymIdx m level)
  | gym {fromId : UInt32} {payload : List UInt8} {args : CStr} {gymIdx level : UInt8}
      (hc : textCommand payload = some (.admin (.gym args)))
      (hargs : gymArgs args = .ok (gymIdx, level))
      (hreply : (g.handleText env fromId payload).1 = some (.gymSet gymIdx level)) :
      Accepts g env (.text fromId payload) (.gym gymIdx level)
  | set {fromId : UInt32} {payload : List UInt8} {args : CStr} {gymIdx level : UInt8} {m : Fin 5}
      (hc : textCommand payload = some (.admin (.set args)))
      (hargs : setArgs args = .ok (gymIdx, m, level))
      (hreply : (g.handleText env fromId payload).1 = some (.memberSet gymIdx m)) :
      Accepts g env (.text fromId payload) (.set gymIdx m level)

namespace GauntletState

variable {s s' : GauntletState} {env : GymEnv} {gymIdx level : UInt8} {m i : Fin 5}

/-! ### Sound gyms -/

/-- A gym whose slots name trainers and whose levels are levels. -/
structure Sound (s : GauntletState) : Prop where
  named : ∀ i, Named (s.autoSlots i)
  levels : ∀ i, (s.memberLevels i).toNat ≤ 100
  leaderLevel : s.autoLeaderLevel.toNat ≤ 100

theorem Sound.scale (hs : s.Sound) (i : Fin 5) : (s.slotScale i).toNat ≤ 100 := by
  rw [slotScale_eq]
  split
  · exact hs.leaderLevel
  · exact hs.levels i

/-- The levels and trainers stay with the fields they are in. -/
theorem Sound.congr (hs : s.Sound) (hslots : s'.autoSlots = s.autoSlots)
    (hlevels : s'.memberLevels = s.memberLevels) (hleader : s'.autoLeaderLevel = s.autoLeaderLevel) :
    s'.Sound :=
  ⟨by rw [hslots]; exact hs.named, by rw [hlevels]; exact hs.levels,
    by rw [hleader]; exact hs.leaderLevel⟩

theorem SameServed.sound (h : SameServed s s') (hs : s.Sound) : s'.Sound :=
  hs.congr h.slots h.levels h.leaderLevel

theorem canonBoss_range (hg : gymIdx < gauntletGymCount) (m : Fin 5) :
    1 ≤ (canonBoss gymIdx m).toNat ∧ (canonBoss gymIdx m).toNat ≤ 100 := by
  have hall : ∀ gym : Fin 8, ∀ t, 1 ≤ (canonBoss (UInt8.ofNat gym.val) t).toNat ∧
      (canonBoss (UInt8.ofNat gym.val) t).toNat ≤ 100 := by decide +kernel
  have h := hall ⟨gymIdx.toNat, UInt8.lt_iff_toNat_lt.mp hg⟩ m
  rwa [UInt8.ofNat_toNat] at h

theorem leaderOverride_le (rolls : ℕ → ℕ) : (leaderOverride rolls).toNat ≤ 100 := by
  have hboss : (chosenLeader rolls).2.2.toNat ≤ 100 := by
    unfold chosenLeader
    dsimp only
    generalize UInt8.ofNat (rolls 4 % 13) = pickL
    split
    · rename_i h
      exact (canonBoss_range h gauntletGymLeaderIdx).2
    · dsimp only
      cases he : elitePool[(pickL - 8).toNat]? with
      | none => decide
      | some e =>
        exact (by decide : ∀ e ∈ elitePool, e.bossLevel.toNat ≤ 100) e (List.mem_of_getElem? he)
  unfold leaderOverride
  dsimp only
  split
  · rename_i h
    have hlt := UInt8.lt_iff_toNat_lt.mp h.2
    omega
  · decide

theorem autoFill_sound (hn : ∀ i, Named (s.autoSlots i)) (hl : ∀ i, (s.memberLevels i).toNat ≤ 100) :
    (s.autoFill env).Sound :=
  ⟨(autoFill_inStep hn).1.named, hl, leaderOverride_le _⟩

variable (s env gymIdx level m) in
theorem applied_slots (tr : GymPresetTrainer) :
    (s.applied env tr gymIdx m level).autoEnabled = true ∧
    (s.applied env tr gymIdx m level).autoSlots =
      Function.update s.autoSlots m (gymIdx, UInt8.ofNat m.val) ∧
    (s.applied env tr gymIdx m level).memberLevels = Function.update s.memberLevels m level ∧
    (m = 4 → (s.applied env tr gymIdx m level).autoLeaderLevel = 0 ∧
      (s.applied env tr gymIdx m level).leader.nodeNum = npcLeader) ∧
    (m ≠ 4 → (s.applied env tr gymIdx m level).autoLeaderLevel = s.autoLeaderLevel ∧
      (s.applied env tr gymIdx m level).leader = s.leader) := by
  unfold applied
  dsimp only
  split
  · rename_i hm
    exact ⟨rfl, rfl, rfl, fun _ => ⟨rfl, rfl⟩, fun hne => absurd hm hne⟩
  · rename_i hm
    exact ⟨rfl, rfl, rfl, fun h => absurd h hm, fun _ => ⟨rfl, rfl⟩⟩

theorem applied_sound {tr : GymPresetTrainer} (htr : presetTrainer gymIdx m = some tr)
    (hl : level.toNat ≤ 100) (hs : s.Sound) : (s.applied env tr gymIdx m level).Sound := by
  obtain ⟨-, hslots, hlevels, hleader, hrest⟩ := applied_slots s env gymIdx level m tr
  refine ⟨fun i => ?_, fun i => ?_, ?_⟩
  · rw [hslots]
    by_cases hi : i = m
    · rw [hi, Function.update_self]
      exact presetTrainer_named htr
    · rw [Function.update_of_ne hi]
      exact hs.named i
  · rw [hlevels]
    by_cases hi : i = m
    · rw [hi, Function.update_self]
      exact hl
    · rw [Function.update_of_ne hi]
      exact hs.levels i
  · by_cases hm : m = 4
    · rw [(hleader hm).1]
      decide
    · rw [(hrest hm).1]
      exact hs.leaderLevel

variable (s env gymIdx level m) in
theorem wizardSet_slots (p : GymPreset) :
    (s.wizardSet env p gymIdx m level).autoEnabled = s.autoEnabled ∧
    (s.wizardSet env p gymIdx m level).autoSlots = s.autoSlots ∧
    (s.wizardSet env p gymIdx m level).memberLevels = Function.update
      (if s.gymPresetIdx = gymIdx then s.memberLevels else fun _ => 0) m level ∧
    (s.wizardSet env p gymIdx m level).autoLeaderLevel = s.autoLeaderLevel ∧
    (m = 4 → (s.wizardSet env p gymIdx m level).leader.nodeNum = npcLeader) ∧
    (m ≠ 4 → (s.wizardSet env p gymIdx m level).leader = s.leader) := by
  have hadopted : (s.adopted p gymIdx).autoEnabled = s.autoEnabled ∧
      (s.adopted p gymIdx).autoSlots = s.autoSlots ∧
      (s.adopted p gymIdx).memberLevels =
        (if s.gymPresetIdx = gymIdx then s.memberLevels else fun _ => 0) ∧
      (s.adopted p gymIdx).autoLeaderLevel = s.autoLeaderLevel ∧
      (s.adopted p gymIdx).leader = s.leader := by
    unfold adopted
    by_cases hg : s.gymPresetIdx = gymIdx
    · rw [if_neg fun hne => hne hg, if_pos hg]
      exact ⟨rfl, rfl, rfl, rfl, rfl⟩
    · rw [if_pos hg, if_neg hg]
      exact ⟨rfl, rfl, rfl, rfl, rfl⟩
  obtain ⟨henabled, hslots, hlevels, hleader, hl⟩ := hadopted
  unfold wizardSet
  dsimp only
  split
  · rename_i hm
    exact ⟨henabled, hslots, by rw [hlevels], hleader, fun _ => rfl, fun hne => absurd hm hne⟩
  · rename_i hm
    exact ⟨henabled, hslots, by rw [hlevels], hleader, fun h => absurd h hm, fun _ => hl⟩

theorem wizardSet_sound {p : GymPreset} (hl : level.toNat ≤ 100) (hs : s.Sound) :
    (s.wizardSet env p gymIdx m level).Sound := by
  obtain ⟨-, hslots, hlevels, hleader, -⟩ := wizardSet_slots s env gymIdx level m p
  refine ⟨by rw [hslots]; exact hs.named, fun i => ?_, by rw [hleader]; exact hs.leaderLevel⟩
  rw [hlevels]
  by_cases hi : i = m
  · rw [hi, Function.update_self]
    exact hl
  · rw [Function.update_of_ne hi]
    split
    · exact hs.levels i
    · exact (by decide : (0 : UInt8).toNat ≤ 100)

/-! ### What a member's setting leads to -/

/-- A slot that is set to a trainer of its own place, at a level of its own. -/
structure Member (s : GauntletState) (gymIdx : UInt8) (i : Fin 5) (level : UInt8) : Prop where
  enabled : s.autoEnabled = true
  slot : s.autoSlots i = (gymIdx, UInt8.ofNat i.val)
  level : s.memberLevels i = level
  leader : i = 4 → s.autoLeaderLevel = 0 ∧ s.leader.nodeNum = npcLeader

theorem Member.congr (h : s.Member gymIdx i level) (hsame : SameServed s s') :
    s'.Member gymIdx i level :=
  ⟨hsame.enabled.trans h.enabled, (congrFun hsame.slots i).trans h.slot,
    (congrFun hsame.levels i).trans h.level, fun hi => by
      rw [hsame.leaderLevel, hsame.leader]
      exact h.leader hi⟩

theorem Member.scale (h : s.Member gymIdx i level) : s.slotScale i = level := by
  rw [slotScale_eq]
  split
  · rename_i hi
    rw [(h.leader hi.1).1, ← h.level, hi.2]
  · exact h.level

/-- Where no player leads, and below the leader, a request is answered with the slot's mons. -/
theorem Staffed.requestLineup_eq (hs : s.Staffed) (hi : i = 4 → ¬s.PlayerLeads) (out : Gen1Party) :
    s.requestLineup out i = slotLineup (s.autoSlots i) (s.slotScale i) := by
  by_cases h : i = 4
  · subst h
    rw [hs.requestLineup_leader, if_neg (hi rfl)]
  · exact hs.requestLineup_grunt h out

theorem Member.served (h : s.Member gymIdx i level) (hs : s.Staffed) {c : LadderRun}
    (hc : c.bulkActive = true) (out : Gen1Party) :
    s.bulkLineup c i = slotLineup (gymIdx, UInt8.ofNat i.val) level ∧
      s.requestLineup out i = slotLineup (gymIdx, UInt8.ofNat i.val) level := by
  rw [hs.bulkLineup_eq hc, hs.requestLineup_eq fun hi hp => hp.2 (h.leader hi).2, h.slot, h.scale]
  exact ⟨rfl, rfl⟩

variable (s env gymIdx level m) in
theorem applied_member (tr : GymPresetTrainer) :
    (s.applied env tr gymIdx m level).Member gymIdx m level := by
  obtain ⟨henabled, hslots, hlevels, hleader, -⟩ := applied_slots s env gymIdx level m tr
  exact ⟨henabled, by rw [hslots, Function.update_self], by rw [hlevels, Function.update_self], hleader⟩

theorem Member.applied {l : UInt8} (h : s.Member gymIdx i l) (hi : i ≠ m) (tr : GymPresetTrainer) :
    (s.applied env tr gymIdx m level).Member gymIdx i l := by
  obtain ⟨henabled, hslots, hlevels, -, hrest⟩ := applied_slots s env gymIdx level m tr
  refine ⟨henabled, ?_, ?_, fun h4 => ?_⟩
  · rw [hslots, Function.update_of_ne hi]
    exact h.slot
  · rw [hlevels, Function.update_of_ne hi]
    exact h.level
  · have hm : m ≠ 4 := fun hm => hi (h4.trans hm.symm)
    rw [(hrest hm).1, (hrest hm).2]
    exact h.leader h4

/-- What is served for a slot depends on its mons and, for the last, the leader. -/
theorem Staffed.same_lineup (hs : s.Staffed) (hs' : s'.Staffed)
    (hlineup : slotLineup (s'.autoSlots i) (s'.slotScale i) = slotLineup (s.autoSlots i) (s.slotScale i))
    (hl : i = 4 → s'.leader = s.leader) {c : LadderRun} (hc : c.bulkActive = true) (out : Gen1Party) :
    s'.bulkLineup c i = s.bulkLineup c i ∧ s'.requestLineup out i = s.requestLineup out i := by
  rw [hs'.bulkLineup_eq hc, hs.bulkLineup_eq hc, hlineup]
  refine ⟨rfl, ?_⟩
  by_cases hi : i = 4
  · subst hi
    have hleads : s'.PlayerLeads ↔ s.PlayerLeads := by
      unfold PlayerLeads
      rw [hl rfl]
    rw [hs'.requestLineup_leader, hs.requestLineup_leader, hlineup, hl rfl]
    by_cases hp : s.PlayerLeads
    · rw [if_pos hp, if_pos (hleads.mpr hp)]
    · rw [if_neg hp, if_neg fun h => hp (hleads.mp h)]
  · rw [hs'.requestLineup_grunt hi, hs.requestLineup_grunt hi, hlineup]

theorem slotLineup_ne_nil {slot : UInt8 × UInt8} (h : Named slot) (scale : UInt8) :
    slotLineup slot scale ≠ [] := by
  obtain ⟨_, -, -, hne, -⟩ := autoLookup_lineup h scale
  exact fun hnil => hne (List.map_eq_nil_iff.mp hnil)

/-- The slide configures a gym that is filled. -/
theorem slide_served_iff {tr : GymPresetTrainer} (htr : presetTrainer gymIdx m = some tr)
    (hl : level.toNat ≤ 100) (hs : s.Sound) (hsame : SameServed (s.applied env tr gymIdx m level) s') :
    (Setting.slide gymIdx m level).Served s s' ↔ s.autoEnabled = true := by
  have hmember := (applied_member s env gymIdx level m tr).congr hsame
  have hstaffed : s'.Staffed :=
    ⟨hmember.enabled, (hsame.sound (applied_sound htr hl hs)).named⟩
  obtain ⟨-, hslots, hlevels, -, hrest⟩ := applied_slots s env gymIdx level m tr
  constructor
  · intro h
    by_contra hoff
    obtain ⟨i, hi⟩ : ∃ i : Fin 5, i ≠ m := exists_ne m
    have hbulk := (h { LadderRun.idle with bulkActive := true } .zero i rfl)
    unfold Setting.level at hbulk
    dsimp only at hbulk
    rw [if_neg hi] at hbulk
    have hnil := hbulk.1
    rw [hstaffed.bulkLineup_eq rfl, unfilled_bulk (Bool.not_eq_true _ ▸ hoff) rfl] at hnil
    exact slotLineup_ne_nil (hstaffed.named i) _ hnil
  · intro hon c out i hc
    unfold Setting.level
    dsimp only
    by_cases hi : i = m
    · subst hi
      rw [if_pos rfl]
      exact hmember.served hstaffed hc out
    · rw [if_neg hi]
      have hslot : s'.autoSlots i = s.autoSlots i := by
        rw [hsame.slots, hslots, Function.update_of_ne hi]
      have hlevel : s'.memberLevels i = s.memberLevels i := by
        rw [hsame.levels, hlevels, Function.update_of_ne hi]
      have hm (h4 : i = 4) : m ≠ 4 := fun hm => hi (h4.trans hm.symm)
      have hscale : s'.slotScale i = s.slotScale i := slotScale_congr i hlevel fun h4 => by
        rw [hsame.leaderLevel, (hrest (hm h4)).1]
      exact Staffed.same_lineup ⟨hon, hs.named⟩ hstaffed (by rw [hslot, hscale])
        (fun h4 => by rw [hsame.leader, (hrest (hm h4)).2]) hc out

theorem wizardSet_scale (p : GymPreset) : (s.wizardSet env p gymIdx m level).slotScale i =
    if i = m then (if i = 4 ∧ level = 0 then s.autoLeaderLevel else level)
    else if s.gymPresetIdx = gymIdx then s.slotScale i
    else if i = 4 then s.autoLeaderLevel else 0 := by
  obtain ⟨-, -, hlevels, hleader, -⟩ := wizardSet_slots s env gymIdx level m p
  rw [slotScale_eq, hlevels, hleader]
  by_cases hi : i = m
  · subst hi
    rw [if_pos rfl, Function.update_self]
    rfl
  · rw [if_neg hi, Function.update_of_ne hi]
    by_cases hg : s.gymPresetIdx = gymIdx
    · rw [if_pos hg, if_pos hg, slotScale_eq]
    · rw [if_neg hg, if_neg hg]
      by_cases h4 : i = 4
      · rw [if_pos h4, if_pos ⟨h4, rfl⟩]
      · rw [if_neg h4, if_neg fun h => h4 h.1]

theorem SameServed.scale (h : SameServed s s') (i : Fin 5) : s'.slotScale i = s.slotScale i :=
  slotScale_congr i (congrFun h.levels i) fun _ => h.leaderLevel

/-- `admin set` brings about what it sets exactly where the slots and levels leave it to. -/
theorem set_served_iff {p : GymPreset} (hn : Named (gymIdx, UInt8.ofNat m.val))
    (hl : level.toNat ≤ 100) (hs : s.Sound)
    (hsame : SameServed (s.wizardSet env p gymIdx m level) s') :
    (Setting.set gymIdx m level).Served s s' ↔ (Setting.set gymIdx m level).Honoured s := by
  obtain ⟨henabled, hslots, -, -, hnpc, hrest⟩ := wizardSet_slots s env gymIdx level m p
  have hsound : s'.Sound := hsame.sound (wizardSet_sound hl hs)
  have hon : s'.autoEnabled = s.autoEnabled := hsame.enabled.trans henabled
  have hslot (i : Fin 5) : s'.autoSlots i = s.autoSlots i := congrFun (hsame.slots.trans hslots) i
  have hscale (i : Fin 5) : s'.slotScale i =
      if i = m then (if i = 4 ∧ level = 0 then s.autoLeaderLevel else level)
      else if s.gymPresetIdx = gymIdx then s.slotScale i
      else if i = 4 then s.autoLeaderLevel else 0 := (hsame.scale i).trans (wizardSet_scale p)
  constructor
  · intro h
    have hbulk (i : Fin 5) := h { LadderRun.idle with bulkActive := true } .zero i rfl
    have hself := (hbulk m)
    unfold Setting.level at hself
    dsimp only at hself
    rw [if_pos rfl] at hself
    replace hself := hself.1
    have hfilled : s.autoEnabled = true := by
      by_contra hoff
      rw [unfilled_bulk (hon.trans (Bool.not_eq_true _ ▸ hoff)) rfl] at hself
      exact slotLineup_ne_nil hn level hself.symm
    have hstaffed : s.Staffed := ⟨hfilled, hs.named⟩
    have hstaffed' : s'.Staffed := ⟨hon.trans hfilled, hsound.named⟩
    rw [hstaffed'.bulkLineup_eq rfl, hslot m] at hself
    have hplace : s.autoSlots m = (gymIdx, UInt8.ofNat m.val) := slot_of_lineup (hs.named m) hn hself
    refine ⟨hfilled, hplace, fun hm h0 => ?_, ?_⟩
    · rw [hplace] at hself
      have hlevel := slotLevel_of_lineup hn (hsound.scale m) hl hself
      rw [hscale m, if_pos rfl, if_pos ⟨hm, h0⟩, h0] at hlevel
      subst hm
      by_cases ha : s.autoLeaderLevel = 0
      · exact .inl ha
      · unfold slotLevel at hlevel
        rw [if_neg ha, if_pos rfl] at hlevel
        exact .inr hlevel
    · by_cases hg : s.gymPresetIdx = gymIdx
      · exact .inl hg
      · refine .inr fun i hi => ?_
        have hother := hbulk i
        unfold Setting.level at hother
        dsimp only at hother
        rw [if_neg hi] at hother
        replace hother := hother.1
        rw [hstaffed'.bulkLineup_eq rfl, hstaffed.bulkLineup_eq rfl, hslot i] at hother
        have hlevel := slotLevel_of_lineup (hs.named i) (hsound.scale i) (hs.scale i) hother
        rw [hscale i, if_neg hi, if_neg hg] at hlevel
        exact hlevel.symm
  · rintro ⟨hfilled, hplace, hstock, hkept⟩ c out i hc
    have hstaffed : s.Staffed := ⟨hfilled, hs.named⟩
    have hstaffed' : s'.Staffed := ⟨hon.trans hfilled, hsound.named⟩
    unfold Setting.level
    dsimp only
    by_cases hi : i = m
    · subst hi
      rw [if_pos rfl]
      dsimp only
      have hlineup : slotLineup (s'.autoSlots i) (s'.slotScale i) =
          slotLineup (gymIdx, UInt8.ofNat i.val) level := by
        rw [hslot i, hplace, hscale i, if_pos rfl]
        refine slotLineup_level hn ?_
        split
        · rename_i h4
          obtain ⟨h4, h0⟩ := h4
          subst h4 h0
          unfold slotLevel
          rcases hstock rfl rfl with ha | ha
          · rw [ha]
          · rw [if_pos rfl, ha]
            exact ite_self _
        · rfl
      have hfree (h4 : i = 4) : ¬s'.PlayerLeads := fun hp =>
        hp.2 (by rw [hsame.leader]; exact hnpc h4)
      rw [hstaffed'.bulkLineup_eq hc, hstaffed'.requestLineup_eq hfree]
      exact ⟨hlineup, hlineup⟩
    · rw [if_neg hi]
      dsimp only
      have hm (h4 : i = 4) : m ≠ 4 := fun hm => hi (h4.trans hm.symm)
      have hlineup : slotLineup (s'.autoSlots i) (s'.slotScale i) =
          slotLineup (s.autoSlots i) (s.slotScale i) := by
        rw [hslot i, hscale i, if_neg hi]
        split
        · rfl
        · rename_i hg
          exact (slotLineup_level (hs.named i) (hkept.resolve_left hg i hi)).symm
      exact hstaffed.same_lineup hstaffed' hlineup
        (fun h4 => by rw [hsame.leader, hrest (hm h4)]) hc out

end GauntletState

/-! ### What can be typed -/

theorem typedLevel_le {text : CStr} {level : UInt8} (h : typedLevel text = .ok level) :
    level.toNat ≤ 100 := by
  unfold typedLevel at h
  split at h
  · cases h
    decide
  · split at h
    · cases h
    · cases h
      rw [UInt8.toNat_ofNat']
      omega

theorem typedGym_lt {text : CStr} {gymIdx : UInt8} (h : typedGym text = .ok gymIdx) :
    gymIdx < gauntletGymCount := by
  unfold typedGym at h
  split at h
  · cases h
  · split at h
    · cases h
    · cases h
      refine UInt8.lt_iff_toNat_lt.mpr ?_
      rw [UInt8.toNat_ofNat']
      change _ < 8
      omega

theorem gymArgs_ok {args : CStr} {gymIdx level : UInt8} (h : gymArgs args = .ok (gymIdx, level)) :
    gymIdx < gauntletGymCount ∧ level.toNat ≤ 100 := by
  unfold gymArgs at h
  obtain ⟨g, hg, h⟩ := Fallible.bind_eq_ok.mp h
  dsimp only at h
  split at h
  · cases h
    exact ⟨typedGym_lt hg, by decide⟩
  · obtain ⟨l, hl, h⟩ := Fallible.bind_eq_ok.mp h
    cases h
    exact ⟨typedGym_lt hg, typedLevel_le hl⟩

theorem setArgs_ok {args : CStr} {gymIdx level : UInt8} {m : Fin 5}
    (h : setArgs args = .ok (gymIdx, m, level)) : gymIdx < gauntletGymCount ∧ level.toNat ≤ 100 := by
  unfold setArgs at h
  obtain ⟨g, hg, h⟩ := Fallible.bind_eq_ok.mp h
  obtain ⟨k, hk, h⟩ := Fallible.bind_eq_ok.mp h
  dsimp only at h
  split at h
  · cases h
  · obtain ⟨l, hl, h⟩ := Fallible.bind_eq_ok.mp h
    cases h
    exact ⟨typedGym_lt hg, typedLevel_le hl⟩

/-! ### What the events do to the state -/

namespace Gauntlet

open GauntletState

variable {g : Gauntlet} {env : GymEnv} {fromId : UInt32} {payload : List UInt8} {args : CStr}
  {gymIdx level : UInt8} {m : Fin 5}

theorem handleText_gymSet (hc : textCommand payload = some (.admin (.gym args)))
    (hargs : gymArgs args = .ok (gymIdx, level))
    (hreply : (g.handleText env fromId payload).1 = some (.gymSet gymIdx level)) :
    ∃ s, (g.handleText env fromId payload).2 =
      ({ g with sessions := s } : Gauntlet).adminGym env gymIdx level := by
  obtain ⟨s, h | ⟨c, hc', h⟩⟩ := handleText_dispatch g env fromId payload
  · rw [h] at hreply
    cases hreply
  · rw [hc] at hc'
    cases hc'
    rw [h] at hreply ⊢
    unfold adminDispatch at hreply ⊢
    dsimp only at hreply ⊢
    split at hreply
    · rename_i ha
      refine ⟨s, ?_⟩
      rw [if_pos ha]
      unfold ownedCommand
      dsimp only
      rw [hargs]
    · cases hreply

theorem handleText_memberSet (hc : textCommand payload = some (.admin (.set args)))
    (hargs : setArgs args = .ok (gymIdx, m, level))
    (hreply : (g.handleText env fromId payload).1 = some (.memberSet gymIdx m)) :
    ∃ s, (g.handleText env fromId payload).2 =
      ({ g with sessions := s } : Gauntlet).adminSet env gymIdx m level := by
  obtain ⟨s, h | ⟨c, hc', h⟩⟩ := handleText_dispatch g env fromId payload
  · rw [h] at hreply
    cases hreply
  · rw [hc] at hc'
    cases hc'
    rw [h] at hreply ⊢
    refine ⟨s, ?_⟩
    unfold adminDispatch at hreply ⊢
    dsimp only at hreply ⊢
    rcases isAdminAuthorized_cases { g with sessions := s } env fromId with
      he | ⟨hs, ha, he⟩ | ⟨hs, hn, hu, ht, he⟩
    · rw [he] at hreply
      cases hreply
    · rw [he]
      dsimp only
      rw [if_neg (by decide), if_neg fun h => h.1 ha]
      unfold ownedCommand
      dsimp only
      rw [hargs]
    · rw [he] at hreply
      dsimp only at hreply
      rw [if_neg (by decide), if_pos ⟨by rw [hn]; exact hs.symm, rfl⟩] at hreply
      cases hreply

theorem gymAdminApply_eq {tr : GymPresetTrainer} (htr : presetTrainer gymIdx m = some tr)
    (hl : level ≤ 100) {memberIdx : UInt8} (hm : m.val = memberIdx.toNat) :
    g.gymAdminApply env gymIdx memberIdx level = g.commit env (·.applied env tr gymIdx m level) := by
  have hfin : ∀ h : memberIdx.toNat < 5, (⟨memberIdx.toNat, h⟩ : Fin 5) = m := fun _ => Fin.ext hm.symm
  have hlt : memberIdx.toNat < 5 := hm ▸ m.isLt
  unfold gymAdminApply
  rw [dif_pos ⟨hlt, hl⟩, hfin hlt, htr]

theorem presetTrainer_of_lt (hg : gymIdx < gauntletGymCount) (m : Fin 5) :
    ∃ tr, presetTrainer gymIdx m = some tr := by
  have hm : (UInt8.ofNat m.val).toNat = m.val := by
    rw [UInt8.toNat_ofNat']
    omega
  obtain ⟨tr, htr, -⟩ := presetTrainer_some (UInt8.lt_iff_toNat_lt.mp hg)
    (show (UInt8.ofNat m.val).toNat < 5 by omega)
  rw [hm] at htr
  exact ⟨tr, htr⟩

theorem memberLevel_le (hg : gymIdx < gauntletGymCount) (m : Fin 5) (level : UInt8) :
    (memberLevel gymIdx m level).toNat ≤ 100 := by
  unfold memberLevel
  dsimp only
  split
  · decide
  · exact (scaledLevel_range _ _ (canonBoss_range hg m)).2

variable (g env) in
theorem same_commit (f : GauntletState → GauntletState) : SameServed (f g.state) (g.commit env f).state :=
  ⟨rfl, rfl, rfl, rfl, rfl⟩

variable (g env level) in
/-- After `admin gym` every slot is set. -/
theorem adminGym_members (hg : gymIdx < gauntletGymCount) (hs : g.state.Sound) :
    (g.adminGym env gymIdx level).state.Sound ∧
      ∀ i, (g.adminGym env gymIdx level).state.Member gymIdx i (memberLevel gymIdx i level) := by
  have hfold (l : List (Fin 5)) (g : Gauntlet) (hs : g.state.Sound) :
      let g' := l.foldl (fun g m => g.gymAdminApply env gymIdx (UInt8.ofNat m.val)
        (memberLevel gymIdx m level)) g
      g'.state.Sound ∧ ∀ i, (i ∈ l ∨ g.state.Member gymIdx i (memberLevel gymIdx i level)) →
        g'.state.Member gymIdx i (memberLevel gymIdx i level) := by
    induction l generalizing g with
    | nil => exact ⟨hs, fun i hi => hi.resolve_left List.not_mem_nil⟩
    | cons m l ih =>
      obtain ⟨tr, htr⟩ := presetTrainer_of_lt hg m
      have hle := memberLevel_le hg m level
      have happly : g.gymAdminApply env gymIdx (UInt8.ofNat m.val) (memberLevel gymIdx m level) =
          g.commit env (·.applied env tr gymIdx m (memberLevel gymIdx m level)) :=
        gymAdminApply_eq htr (UInt8.le_iff_toNat_le.mpr hle) (by rw [UInt8.toNat_ofNat']; omega)
      have hsame := same_commit g env
        (·.applied env tr gymIdx m (memberLevel gymIdx m level))
      rw [List.foldl_cons, happly]
      obtain ⟨hsound, hmembers⟩ := ih _ (hsame.sound (applied_sound htr hle hs))
      refine ⟨hsound, fun i hi => ?_⟩
      by_cases him : i = m
      · subst him
        exact hmembers i (.inr ((applied_member _ _ _ _ _ tr).congr hsame))
      · rcases hi with hi | hi
        · exact hmembers i (.inl ((List.mem_cons.mp hi).resolve_left him))
        · exact hmembers i (.inr ((hi.applied him tr).congr hsame))
  obtain ⟨hsound, hmembers⟩ := hfold (List.finRange 5) g hs
  exact ⟨hsound, fun i => hmembers i (.inl (List.mem_finRange i))⟩

/-! ### Sound runs -/

/-- A sound gym whose flash is up to date. -/
structure Kept (g : Gauntlet) : Prop where
  sound : g.state.Sound
  saved : g.flash = some g.state

theorem kept_commit {f : GauntletState → GauntletState} (h : (f g.state).Sound) :
    (g.commit env f).Kept :=
  ⟨(same_commit _ _ f).sound h, rfl⟩

theorem kept_apply (hg : g.Kept) (gymIdx memberIdx level : UInt8) :
    (g.gymAdminApply env gymIdx memberIdx level).Kept := by
  rcases gymAdminApply_cases g env gymIdx memberIdx level with
    h | ⟨m, tr, -, hl, htr, h⟩
  · rw [h]
    exact hg
  · rw [h]
    exact kept_commit (applied_sound htr (UInt8.le_iff_toNat_le.mp hl) hg.sound)

theorem kept_reset (hs : g.state.Sound) : (g.gymAdminResetAndOpenWindow env).Kept := by
  have hfill : ((g.commit env (·.wiped)).autoSetup env).Kept :=
    kept_commit (autoFill_sound hs.named fun _ => (by decide : (0 : UInt8).toNat ≤ 100))
  exact ⟨hfill.sound, hfill.saved⟩

theorem kept_text (hg : g.Kept) : (g.handleText env fromId payload).2.Kept := by
  obtain ⟨s, h | ⟨c, r, hc, hr, h⟩⟩ := handleText_cases g env fromId payload
  · rw [h]
    exact ⟨hg.sound, hg.saved⟩
  · rw [h]
    have hg' : ({ g with sessions := s } : Gauntlet).Kept := ⟨hg.sound, hg.saved⟩
    cases hr with
    | idle => exact hg'
    | claim =>
      have hcommit : (({ g with sessions := s } : Gauntlet).commit env
          ({ · with adminNodeNum := fromId })).Kept := kept_commit (hg.sound.congr rfl rfl rfl)
      exact ⟨hcommit.sound, hcommit.saved⟩
    | reset => exact kept_reset hg.sound
    | name _ gymName =>
      dsimp only
      exact kept_commit (hg.sound.congr rfl rfl rfl)
    | badge _ gymBadge =>
      dsimp only
      exact kept_commit (hg.sound.congr rfl rfl rfl)
    | gym _ gymIdx level =>
      exact adminGym_induction (P := Kept) gymIdx level (fun _ _ hg => kept_apply hg _ _ _) hg'
    | set hs ha gymIdx m newLvl hargs =>
      rcases adminSet_cases { g with sessions := s } env gymIdx m newLvl with
        h | ⟨p, -, h⟩
      · dsimp only
        rw [h]
        exact hg'
      · dsimp only
        rw [h]
        exact kept_commit (wizardSet_sound (setArgs_ok hargs).2 hg.sound)

theorem kept_result {e : GymEvent} {won : Bool} (hg : g.Kept) (h : e.result = some (fromId, won)) :
    (g.step env e).Kept := by
  obtain ⟨outcome, rest, -, hstep⟩ := step_result g env h
  rw [hstep]
  by_cases hi : outcome = 1 ∧ g.trainerOf env fromId < 4
  · rw [handleResult_advance hi.1 hi.2]
    exact ⟨hg.sound.congr rfl rfl rfl, rfl⟩
  · rw [handleResult_end hi]
    refine ⟨Sound.congr (s := (g.endChallenge env fromId outcome _).state) ?_ rfl rfl rfl, rfl⟩
    by_cases ho : outcome = 1
    · subst ho
      rw [endChallenge_won_state, promoteToLeader_state]
      exact hg.sound.congr rfl rfl rfl
    · rw [endChallenge_lost_state _ ho]
      exact hg.sound

theorem kept_boot (h : ∀ s, g.flash = some s → s.Sound) : (g.boot env).Kept := by
  have hsound : (g.flash.getD (.defaults env)).Sound := by
    cases hf : g.flash with
    | none =>
      exact ⟨fun _ => (by decide : Named (0, 0)), fun _ => (by decide : (0 : UInt8).toNat ≤ 100),
        (by decide : (0 : UInt8).toNat ≤ 100)⟩
    | some s => exact h s hf
  unfold boot
  dsimp only
  split
  · exact kept_commit (autoFill_sound hsound.named hsound.levels)
  · exact ⟨hsound, rfl⟩

theorem kept_step (hg : g.Kept) (e : GymEvent) : (g.step env e).Kept := by
  cases hr : e.result with
  | some r => exact kept_result hg hr
  | none =>
    cases e with
    | battle fromId p out =>
      change (g.handleBattlePacket env fromId p out).2.Kept
      rcases battle_quiet g env hr with h | h <;> rw [h]
      · exact hg
      · exact ⟨hg.sound, hg.saved⟩
    | text fromId payload => exact kept_text hg
    | menuApply gymIdx memberIdx level => exact kept_apply hg _ _ _
    | menuReset => exact kept_reset hg.sound
    | sweep =>
      change (g.expireSessions env).Kept
      unfold expireSessions
      split
      · exact hg
      · exact ⟨hg.sound, hg.saved⟩
    | reboot =>
      refine kept_boot fun s hs => ?_
      rw [hg.saved] at hs
      cases hs
      exact hg.sound

/-- From a boot on a stored gym that is sound, or on none, a gym is sound; and what an admin configures
there is then served, by either protocol and leaving the other slots alone, exactly where the setting is
honoured. -/
theorem setting_served (g : Gauntlet) (env : GymEnv) (l : List (GymEnv × GymEvent)) (e : GymEvent)
    (st : Setting) :
    ((∀ s, g.flash = some s → s.Sound) → (Walk.run next (g.boot env) l).state.Sound) ∧
    (g.state.Sound → g.Accepts env e st →
      (st.Served g.state (g.step env e).state ↔ st.Honoured g.state)) := by
  constructor
  · intro h
    have hkept : (Walk.run next (g.boot env) l).Kept :=
      Walk.run_keeps (fun _ x hg => kept_step hg x.2) (kept_boot h)
    exact hkept.sound
  · intro hs h
    cases h with
    | @slide gymIdx memberIdx level m hg hm hl =>
      obtain ⟨tr, htr⟩ := presetTrainer_of_lt hg m
      change Setting.Served _ _ (g.gymAdminApply env gymIdx memberIdx level).state ↔ _
      rw [gymAdminApply_eq htr hl hm]
      exact slide_served_iff htr (UInt8.le_iff_toNat_le.mp hl) hs
        (same_commit g env (·.applied env tr gymIdx m level))
    | @gym fromId payload args gymIdx level hc hargs hreply =>
      obtain ⟨s, he⟩ := handleText_gymSet hc hargs hreply
      change Setting.Served _ _ (g.handleText env fromId payload).2.state ↔ _
      rw [he]
      obtain ⟨hsound, hmembers⟩ := adminGym_members { g with sessions := s } env level (gymArgs_ok hargs).1 hs
      refine ⟨fun _ => trivial, fun _ c out i hc => ?_⟩
      exact (hmembers i).served ⟨(hmembers i).enabled, hsound.named⟩ hc out
    | @set fromId payload args gymIdx level m hc hargs hreply =>
      obtain ⟨s, he⟩ := handleText_memberSet hc hargs hreply
      obtain ⟨hg, hl⟩ := setArgs_ok hargs
      obtain ⟨tr, htr⟩ := presetTrainer_of_lt hg m
      obtain ⟨p, hp, -⟩ := gauntletGymPreset_some (UInt8.lt_iff_toNat_lt.mp hg)
      change Setting.Served _ _ (g.handleText env fromId payload).2.state ↔ _
      rw [he]
      unfold adminSet
      rw [hp]
      exact set_served_iff (presetTrainer_named htr) hl hs
        (same_commit { g with sessions := s } env (·.wizardSet env p gymIdx m level))

/-- On a gym's first boot the slide puts Giovanni at level 60 at the top. -/
theorem setting_served_giovanni : (Setting.slide 7 4 60).Served
    ((blank (.plain 0)).boot (.plain 0)).state
    (((blank (.plain 0)).boot (.plain 0)).step (.plain 1000) (.menuApply 7 4 60)).state := by
  have hsound := (setting_served (blank (.plain 0)) (.plain 0) [] (.menuApply 7 4 60)
    (.slide 7 4 60)).1 fun s hs => by cases hs
  refine ((setting_served _ _ [] _ (.slide 7 4 60)).2 hsound (.slide ?_ ?_ ?_)).mpr ?_
  · decide
  · decide
  · decide
  · change ((blank (.plain 0)).boot (.plain 0)).state.autoEnabled = true
    decide +kernel

/-- The admin sets the first trainer of gym 3 to level 50; the first slot has the one it had. -/
theorem set_not_served :
    let g := Walk.run next ((blank (.plain 0)).boot (.plain 0)) [(.plain 1000, .text 9 (cstr "admin set"))]
    g.Accepts (.plain 2000) (.text 9 (cstr "admin set 3 1 50")) (.set 2 0 50) ∧
      ¬(Setting.set 2 0 50).Served g.state
        (g.step (.plain 2000) (.text 9 (cstr "admin set 3 1 50"))).state := by
  intro g
  have hc : textCommand (cstr "admin set 3 1 50") = some (.admin (.set (cstr "3 1 50"))) := by decide
  refine ⟨.set hc (by decide) (by decide +kernel), fun h => ?_⟩
  have hkinds := congrArg (List.map (·.1)) (h { LadderRun.idle with bulkActive := true } .zero 0 rfl).1
  exact absurd hkinds (by decide +kernel)

end Gauntlet
end MonsterMesh
