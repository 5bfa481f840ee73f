import MonsterMesh.Gym.Served
import MonsterMesh.Lib.Walk

/-! Both protocols of a gym against each other, over any run of the device. -/
namespace MonsterMesh

open Gauntlet

/-! ### The picks of an auto-fill -/

theorem mem_swapRemove {pool : List GruntRef} {pick : ℕ} {x : GruntRef} (h : x ∈ swapRemove pool pick) :
    x ∈ pool := by
  unfold swapRemove at h
  split at h
  · exact h
  · rename_i last hl
    rcases List.mem_or_eq_of_mem_set (List.mem_of_mem_dropLast h) with h | rfl
    · exact h
    · exact List.mem_of_getLast? hl

theorem mem_pickGrunts {rolls : ℕ → ℕ} {k n : ℕ} {pool : List GruntRef} {x : GruntRef}
    (h : x ∈ pickGrunts rolls k n pool) : x ∈ pool := by
  induction n generalizing k pool with
  | zero => cases h
  | succ n ih =>
    unfold pickGrunts at h
    dsimp only at h
    split at h
    · cases h
    · rename_i ref href
      rcases List.mem_cons.mp h with rfl | h
      · exact List.mem_of_getElem? href
      · exact mem_swapRemove (ih h)

theorem exchangeRound_perm (x : GruntRef) (l : List GruntRef) :
    ((exchangeRound x l).1 :: (exchangeRound x l).2).Perm (x :: l) := by
  induction l generalizing x with
  | nil => exact List.Perm.refl _
  | cons y l ih =>
    unfold exchangeRound
    split
    · dsimp only
      exact (List.Perm.swap _ _ _).trans ((ih y).cons x)
    · dsimp only
      exact (List.Perm.swap _ _ _).trans (((ih x).cons y).trans (List.Perm.swap _ _ _))

theorem exchangeSort_perm (n : ℕ) (l : List GruntRef) : (exchangeSort n l).Perm l := by
  induction n generalizing l with
  | zero => exact List.Perm.refl _
  | succ n ih =>
    cases l with
    | nil => exact List.Perm.refl _
    | cons x l => exact ((ih _).cons _).trans (exchangeRound_perm x l)

theorem gruntPool_named : ∀ ref ∈ gruntPool, Named (ref.gym, ref.trainer) := by decide +kernel

theorem chosenGrunts_named {rolls : ℕ → ℕ} {ref : GruntRef} (h : ref ∈ chosenGrunts rolls) :
    Named (ref.gym, ref.trainer) :=
  gruntPool_named ref (mem_pickGrunts ((exchangeSort_perm _ _).mem_iff.mp h))

theorem chosenLeader_named (rolls : ℕ → ℕ) :
    Named ((chosenLeader rolls).1, (chosenLeader rolls).2.1) := by
  have hpick : (UInt8.ofNat (rolls 4 % 13)).toNat < 13 := by
    rw [UInt8.toNat_ofNat']
    omega
  unfold chosenLeader
  generalize UInt8.ofNat (rolls 4 % 13) = pickL at hpick
  dsimp only
  split
  · rename_i h
    have hlt := UInt8.lt_iff_toNat_lt.mp h
    change pickL.toNat < 8 at hlt
    exact ⟨by dsimp only; omega, (by decide : (4 : UInt8).toNat < 5)⟩
  · rename_i h
    have hge : 8 ≤ pickL.toNat := Nat.le_of_not_lt fun hlt => h (UInt8.lt_iff_toNat_lt.mpr hlt)
    refine ⟨by dsimp only; decide, ?_⟩
    dsimp only
    rw [UInt8.toNat_sub_of_le _ _ (UInt8.le_iff_toNat_le.mpr (show (8 : UInt8).toNat ≤ _ from hge))]
    change pickL.toNat - 8 < 5
    omega

/-! ### What keeps the two protocols together -/

namespace GauntletState

variable {s s' : GauntletState} {env : GymEnv}

/-- A gym whose two protocols agree, by the state it is in. -/
def InStep (s : GauntletState) : Prop := s.Staffed ∧ s.Settled

theorem slotScale_congr (i : Fin 5) (hl : s'.memberLevels i = s.memberLevels i)
    (ha : i = 4 → s'.autoLeaderLevel = s.autoLeaderLevel) : s'.slotScale i = s.slotScale i := by
  rw [slotScale_eq, slotScale_eq, hl]
  by_cases hi : i = 4
  · rw [ha hi]
  · rw [if_neg fun h => hi h.1, if_neg fun h => hi h.1]

theorem slotScale_stock (h : s.memberLevels 4 = 0) : s.slotScale 4 = s.autoLeaderLevel := by
  rw [slotScale_eq, if_pos ⟨rfl, h⟩]

/-- What is settled stays so while the leader, its slot and its level stay. -/
theorem Settled.congr (hs : s.Settled) (hl : s'.leader = s.leader)
    (hslot : s'.autoSlots 4 = s.autoSlots 4) (hscale : s'.slotScale 4 = s.slotScale 4) :
    s'.Settled := by
  intro hp
  rw [hl, hslot, hscale]
  refine hs ?_
  unfold PlayerLeads at hp
  rwa [hl] at hp

theorem SameServed.inStep (h : SameServed s s') (hs : s.InStep) : s'.InStep :=
  ⟨⟨h.enabled.trans hs.1.enabled, by rw [h.slots]; exact hs.1.named⟩,
    hs.2.congr h.leader (by rw [h.slots])
      (slotScale_congr 4 (by rw [h.levels]) fun _ => h.leaderLevel)⟩

/-- With a stand-in for a leader there is nothing to settle. -/
theorem settled_of_npc (h : s.leader.nodeNum = npcLeader) : s.Settled := fun hp => absurd h hp.2

theorem autoFill_inStep (h : ∀ i, Named (s.autoSlots i)) : (s.autoFill env).InStep := by
  refine ⟨⟨rfl, fun i => ?_⟩, settled_of_npc rfl⟩
  unfold autoFill
  dsimp only
  split
  · exact chosenLeader_named _
  · cases hc : (chosenGrunts env.rolls)[i.val]? with
    | none => exact h i
    | some ref => exact chosenGrunts_named (List.mem_of_getElem? hc)

theorem presetTrainer_named {gymIdx : UInt8} {m : Fin 5} {tr : GymPresetTrainer}
    (htr : presetTrainer gymIdx m = some tr) : Named (gymIdx, UInt8.ofNat m.val) := by
  unfold presetTrainer at htr
  obtain ⟨p, hp, -⟩ := Option.bind_eq_some_iff.mp htr
  have hlt := (List.getElem?_eq_some_iff.mp hp).1
  change gymIdx.toNat < 8 at hlt
  refine ⟨by dsimp only; omega, ?_⟩
  dsimp only
  rw [UInt8.toNat_ofNat']
  omega

theorem applied_inStep {tr : GymPresetTrainer} {gymIdx level : UInt8} {m : Fin 5}
    (htr : presetTrainer gymIdx m = some tr) (hs : s.InStep) :
    (s.applied env tr gymIdx m level).InStep := by
  have hslots (i : Fin 5) :
      Named (Function.update s.autoSlots m (gymIdx, UInt8.ofNat m.val) i) := by
    by_cases hi : i = m
    · rw [hi, Function.update_self]
      exact presetTrainer_named htr
    · rw [Function.update_of_ne hi]
      exact hs.1.named i
  unfold applied
  dsimp only
  split
  · exact ⟨⟨rfl, hslots⟩, settled_of_npc rfl⟩
  · rename_i hm
    have hm : 4 ≠ m := fun h => hm h.symm
    exact ⟨⟨rfl, hslots⟩, hs.2.congr rfl (Function.update_of_ne hm _ _)
      (slotScale_congr 4 (Function.update_of_ne hm _ _) fun _ => rfl)⟩

/-- `admin set` for a trainer below the leader, in a gym whose preset it changes, while a player leads
and the leader's slot has another level than it has without one of its own. -/
def Unsettles (s : GauntletState) (gymIdx : UInt8) (m : Fin 5) : Prop :=
  m ≠ 4 ∧ s.gymPresetIdx ≠ gymIdx ∧ s.PlayerLeads ∧
    slotLevel (s.autoSlots 4) (s.slotScale 4) ≠ slotLevel (s.autoSlots 4) s.autoLeaderLevel

theorem wizardSet_inStep {p : GymPreset} {gymIdx level : UInt8} {m : Fin 5} (hs : s.InStep)
    (hu : ¬s.Unsettles gymIdx m) : (s.wizardSet env p gymIdx m level).InStep := by
  have hadopted : (s.adopted p gymIdx).autoEnabled = s.autoEnabled ∧
      (s.adopted p gymIdx).autoSlots = s.autoSlots := by
    unfold adopted
    split <;> exact ⟨rfl, rfl⟩
  unfold wizardSet
  dsimp only
  split
  · exact ⟨⟨hadopted.1.trans hs.1.enabled, fun i => by rw [hadopted.2]; exact hs.1.named i⟩,
      settled_of_npc rfl⟩
  · rename_i hm
    have hm : (4 : Fin 5) ≠ m := fun h => hm h.symm
    have hstaffed : ∀ i, Named ((s.adopted p gymIdx).autoSlots i) := fun i => by
      rw [hadopted.2]
      exact hs.1.named i
    refine ⟨⟨hadopted.1.trans hs.1.enabled, hstaffed⟩, ?_⟩
    unfold adopted
    by_cases hg : s.gymPresetIdx ≠ gymIdx
    · rw [if_pos hg]
      intro hp
      have hsame : slotLineup (s.autoSlots 4) (s.slotScale 4) =
          slotLineup (s.autoSlots 4) s.autoLeaderLevel := by
        refine slotLineup_level (hs.1.named 4) ?_
        by_contra hne
        exact hu ⟨hm.symm, hg, hp, hne⟩
      rw [slotScale_stock (Function.update_of_ne hm _ _)]
      exact (hs.2 hp).trans hsame
    · rw [if_neg hg]
      exact hs.2.congr rfl rfl (slotScale_congr 4 (Function.update_of_ne hm _ _) fun _ => rfl)

end GauntletState

/-! ### Runs -/

namespace Gauntlet

open GauntletState

variable {g : Gauntlet} {env : GymEnv} {e : GymEvent}

/-- A gym in step whose flash is up to date. -/
structure Even (g : Gauntlet) : Prop where
  inStep : g.state.InStep
  saved : g.flash = some g.state

theorem even_commit {f : GauntletState → GauntletState} (h : (f g.state).InStep) :
    (g.commit env f).Even := by
  have hsame : SameServed (f g.state) (g.commit env f).state := ⟨rfl, rfl, rfl, rfl, rfl⟩
  exact ⟨hsame.inStep h, rfl⟩

theorem even_renamed {f : GauntletState → GauntletState} (hg : g.Even)
    (hsame : SameServed g.state (f g.state)) : (g.commit env f).Even :=
  even_commit (hsame.inStep hg.inStep)

theorem even_reset (h : ∀ i, Named (g.state.autoSlots i)) :
    (g.gymAdminResetAndOpenWindow env).Even := by
  have hfill : ((g.commit env (·.wiped)).autoSetup env).Even := even_commit (autoFill_inStep h)
  exact ⟨hfill.inStep, hfill.saved⟩

theorem even_apply (hg : g.Even) (gymIdx memberIdx level : UInt8) :
    (g.gymAdminApply env gymIdx memberIdx level).Even := by
  rcases gymAdminApply_cases g env gymIdx memberIdx level with
    h | ⟨m, tr, -, -, htr, h⟩
  · rw [h]
    exact hg
  · rw [h]
    exact even_commit (applied_inStep htr hg.inStep)

/-- An `admin set` that takes the mons of the leader's slot from under a leading player. -/
def Unsettles (g : Gauntlet) (x : GymEnv × GymEvent) : Prop :=
  ∃ fromId payload args gymIdx m newLvl, x.2 = .text fromId payload ∧
    textCommand payload = some (.admin (.set args)) ∧ setArgs args = .ok (gymIdx, m, newLvl) ∧
    g.state.adminNodeNum = fromId ∧ fromId ≠ 0 ∧ g.state.Unsettles gymIdx m

theorem settled_of_silent {x : GymEnv × GymEvent} (h : ∀ fromId payload, x.2 ≠ .text fromId payload) :
    ¬g.Unsettles x := by
  rintro ⟨fromId, payload, _, _, _, _, htext, -⟩
  exact h fromId payload htext

theorem even_text (hg : g.Even) {fromId : UInt32} {payload : List UInt8}
    (hu : ¬g.Unsettles (env, .text fromId payload)) : (g.handleText env fromId payload).2.Even := by
  obtain ⟨s, h | ⟨c, r, hc, hr, h⟩⟩ := handleText_cases g env fromId payload
  · rw [h]
    exact ⟨hg.inStep, hg.saved⟩
  · rw [h]
    have hg' : ({ g with sessions := s } : Gauntlet).Even := ⟨hg.inStep, hg.saved⟩
    cases hr with
    | idle => exact hg'
    | claim =>
      have hcommit : (({ g with sessions := s } : Gauntlet).commit env
          ({ · with adminNodeNum := fromId })).Even :=
        even_renamed hg' ⟨rfl, rfl, rfl, rfl, rfl⟩
      exact ⟨hcommit.inStep, hcommit.saved⟩
    | reset => exact even_reset hg.inStep.1.named
    | name _ gymName =>
      dsimp only
      exact even_renamed hg' ⟨rfl, rfl, rfl, rfl, rfl⟩
    | badge _ gymBadge =>
      dsimp only
      exact even_renamed hg' ⟨rfl, rfl, rfl, rfl, rfl⟩
    | gym _ gymIdx level =>
      exact adminGym_induction (P := Even) gymIdx level (fun _ _ hg => even_apply hg _ _ _) hg'
    | set hs ha gymIdx m newLvl hargs =>
      rcases adminSet_cases { g with sessions := s } env gymIdx m newLvl with
        h | ⟨p, -, h⟩
      · dsimp only
        rw [h]
        exact hg'
      · dsimp only
        rw [h]
        exact even_commit (wizardSet_inStep hg.inStep fun hset =>
          hu ⟨fromId, payload, _, gymIdx, m, newLvl, rfl, hc, hargs, ha, hs, hset⟩)

/-- A promotion takes over the mons that were served for the leader. -/
theorem promoted_inStep (hs : g.state.InStep) (fromId : UInt32) :
    (g.promoteToLeader env fromId (g.state.buildGymBattleParty .zero)).state.InStep := by
  rw [promoteToLeader_state]
  refine ⟨⟨hs.1.enabled, hs.1.named⟩, fun _ => ?_⟩
  have hserved : (g.state.buildGymBattleParty .zero).lineup =
      if g.state.PlayerLeads then g.state.leader.party.lineup
      else slotLineup (g.state.autoSlots 4) (g.state.slotScale 4) := hs.1.requestLineup_leader .zero
  refine hserved.trans ?_
  split
  · rename_i hp
    exact hs.2 hp
  · rfl

theorem even_result {fromId : UInt32} {won : Bool} (hg : g.Even)
    (h : e.result = some (fromId, won)) : (g.step env e).Even := by
  obtain ⟨outcome, rest, -, hstep⟩ := step_result g env h
  rw [hstep]
  by_cases hi : outcome = 1 ∧ g.trainerOf env fromId < 4
  · rw [handleResult_advance hi.1 hi.2]
    have hsame : SameServed g.state { g.state with totalBattles := g.state.totalBattles + 1 } :=
      ⟨rfl, rfl, rfl, rfl, rfl⟩
    exact ⟨hsame.inStep hg.inStep, rfl⟩
  · rw [handleResult_end hi]
    refine ⟨SameServed.inStep (s := (g.endChallenge env fromId outcome _).state)
      ⟨rfl, rfl, rfl, rfl, rfl⟩ ?_, rfl⟩
    by_cases ho : outcome = 1
    · subst ho
      rw [endChallenge_won_state]
      exact promoted_inStep hg.inStep fromId
    · rw [endChallenge_lost_state _ ho]
      exact hg.inStep

theorem even_boot (hg : g.flash = some g.state) (h : g.state.InStep) : (g.boot env).Even := by
  unfold boot
  rw [hg]
  dsimp only [Option.getD_some]
  rw [if_neg fun hc => by rw [h.1.enabled] at hc; exact absurd hc.2.2 (by decide)]
  exact ⟨h, rfl⟩

theorem even_first_boot (env : GymEnv) : ((blank env).boot env).Even := by
  have hfill : ∀ g : Gauntlet, g.state = .defaults env → (g.autoSetup env).Even := fun g hg =>
    even_commit (autoFill_inStep fun i => by
      rw [hg]
      exact (by decide : Named (0, 0)))
  exact hfill { blank env with
    adminClaimUntilMs := env.millis + adminClaimWindowMs
    flash := some (.defaults env) } rfl

theorem even_step (hg : g.Even) (hu : ¬g.Unsettles (env, e)) : (g.step env e).Even := by
  cases hr : e.result with
  | some r => exact even_result hg hr
  | none =>
    cases e with
    | battle fromId p out =>
      change (g.handleBattlePacket env fromId p out).2.Even
      rcases battle_quiet g env hr with h | h <;> rw [h]
      · exact hg
      · exact ⟨hg.inStep, hg.saved⟩
    | text fromId payload => exact even_text hg hu
    | menuApply gymIdx memberIdx level => exact even_apply hg _ _ _
    | menuReset => exact even_reset hg.inStep.1.named
    | sweep =>
      change (g.expireSessions env).Even
      unfold expireSessions
      split
      · exact hg
      · exact ⟨hg.inStep, hg.saved⟩
    | reboot => exact even_boot hg.saved hg.inStep

/-- One event of a run. -/
def next (g : Gauntlet) (x : GymEnv × GymEvent) : Gauntlet := g.step x.1 x.2

/-- From its first boot on a gym serves the same mons by both protocols, while no `admin set` unsettles
it; a gym that is not filled never does, but for a player who leads without mons. -/
theorem protocols_agree (env : GymEnv) (l : List (GymEnv × GymEvent)) (s : GauntletState) :
    (Walk.Along next (fun g x => ¬g.Unsettles x) ((blank env).boot env) l →
      (Walk.run next ((blank env).boot env) l).state.Agrees) ∧
    (s.autoEnabled = false → (s.Agrees ↔ s.PlayerLeads ∧ s.leader.party.count = 0)) := by
  constructor
  · intro h
    have heven : (Walk.run next ((blank env).boot env) l).Even :=
      Walk.run_invariant (fun _ _ hg hu => even_step hg hu) (even_first_boot env) h
    exact heven.inStep.1.agrees heven.inStep.2
  · intro h
    exact unfilled_agrees_iff h

/-- Giovanni's slot is raised to level 60 and node 7 wins through the ladder. -/
def takenOver : List (GymEnv × GymEvent) :=
  (.plain 2000, .menuApply 7 4 60) ::
    List.replicate 5 (.plain 3000, .battle 7 ⟨bbsFightResult, 0, 0, [1, 0]⟩ .zero)

theorem protocols_agree_takenOver :
    (Walk.run next ((blank (.plain 0)).boot (.plain 0)) takenOver).state.Agrees :=
  (protocols_agree _ _ (blank (.plain 0)).state).1 ⟨settled_of_silent nofun, settled_of_silent nofun, settled_of_silent nofun,
    settled_of_silent nofun, settled_of_silent nofun, settled_of_silent nofun, trivial⟩

/-- The admin sets the first trainer of another gym, and the leader's slot goes back to level 50. -/
theorem set_parts_protocols : ¬(Walk.run next ((blank (.plain 0)).boot (.plain 0))
    ((.plain 1000, .text 9 (cstr "admin set")) ::
      (takenOver ++ [(.plain 4000, .text 9 (cstr "admin set 1 1 10"))]))).state.Agrees := by
  intro h
  have hlevels := congrArg (List.map (·.2.1))
    (h { LadderRun.idle with bulkActive := true } .zero 4 rfl)
  exact absurd hlevels (by decide +kernel)

end Gauntlet
end MonsterMesh
