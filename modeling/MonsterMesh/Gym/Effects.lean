import MonsterMesh.Gym.Admin

/-! What each event can do to a gym, said once. -/
namespace MonsterMesh

open Text

namespace Gauntlet

variable {g : Gauntlet} {env : GymEnv} {f : GauntletState → GauntletState} {sender fromId : UInt32}

/-! ### A commit -/

@[simp] theorem commit_state : (g.commit env f).state = { f g.state with lastUpdate := env.time } := rfl

@[simp] theorem commit_flash : (g.commit env f).flash = some (g.commit env f).state := rfl

@[simp] theorem commit_ladders : (g.commit env f).ladders = g.ladders := rfl

@[simp] theorem commit_profiles : (g.commit env f).profiles = g.profiles := rfl

@[simp] theorem commit_sessions : (g.commit env f).sessions = g.sessions := rfl

@[simp] theorem commit_until : (g.commit env f).adminClaimUntilMs = g.adminClaimUntilMs := rfl

/-! ### Text messages -/

/-- What an admin command does to a gym, with its reply. -/
inductive Administered (g : Gauntlet) (env : GymEnv) (sender : UInt32) :
    AdminCommand → AdminReply × Gauntlet → Prop
  | idle {c : AdminCommand} {r : AdminReply} (h : r ≠ .dropped) : Administered g env sender c (r, g)
  | claim {args : CStr} (hs : sender ≠ 0) (hn : g.state.adminNodeNum = 0)
      (hu : g.adminClaimUntilMs ≠ 0) (ht : env.millis < g.adminClaimUntilMs) :
      Administered g env sender (.set args) (.claimed,
        { g.commit env ({ · with adminNodeNum := sender }) with adminClaimUntilMs := 0 })
  | reset (ha : g.state.adminNodeNum = sender) :
      Administered g env sender .reset (.dropped, g.gymAdminResetAndOpenWindow env)
  | name {text : CStr} (ha : g.state.adminNodeNum = sender) (gymName : CStr) :
      Administered g env sender (.name text)
        (.renamed gymName, g.commit env ({ · with gymName := gymName }))
  | badge {text : CStr} (ha : g.state.adminNodeNum = sender) (gymBadge : CStr) :
      Administered g env sender (.badge text)
        (.badgeSet gymBadge, g.commit env ({ · with gymBadge := gymBadge }))
  | gym {args : CStr} (ha : g.state.adminNodeNum = sender) (gymIdx level : UInt8)
      (hargs : gymArgs args = .ok (gymIdx, level)) :
      Administered g env sender (.gym args) (.gymSet gymIdx level, g.adminGym env gymIdx level)
  | set {args : CStr} (hs : sender ≠ 0) (ha : g.state.adminNodeNum = sender) (gymIdx : UInt8)
      (m : Fin 5) (newLvl : UInt8) (hargs : setArgs args = .ok (gymIdx, m, newLvl)) :
      Administered g env sender (.set args) (.memberSet gymIdx m, g.adminSet env gymIdx m newLvl)

variable (g env sender) in
theorem isAdminAuthorized_cases :
    g.isAdminAuthorized env sender = (false, g) ∨
    (sender ≠ 0 ∧ g.state.adminNodeNum = sender ∧ g.isAdminAuthorized env sender = (true, g)) ∨
    (sender ≠ 0 ∧ g.state.adminNodeNum = 0 ∧ g.adminClaimUntilMs ≠ 0 ∧
      env.millis < g.adminClaimUntilMs ∧ g.isAdminAuthorized env sender =
        (true, { g.commit env ({ · with adminNodeNum := sender }) with adminClaimUntilMs := 0 })) := by
  unfold isAdminAuthorized
  split
  · exact .inl rfl
  · rename_i hs
    split
    · rename_i ha
      exact .inr (.inl ⟨hs, ha, rfl⟩)
    · split
      · rename_i h
        exact .inr (.inr ⟨hs, h.1, h.2.1, h.2.2, rfl⟩)
      · exact .inl rfl

/-- The admin's commands; the wizard is only for a node that can be one. -/
theorem ownedCommand_effect (c : AdminCommand) (ha : g.state.adminNodeNum = sender)
    (hs : sender ≠ 0 ∨ ∀ args, c ≠ .set args) : Administered g env sender c (g.ownedCommand env c) := by
  cases c with
  | help => exact .idle nofun
  | usage => exact .idle nofun
  | reset => exact .reset ha
  | name text =>
    unfold ownedCommand
    dsimp only
    split
    · exact .idle nofun
    · exact .name ha _
  | badge text =>
    unfold ownedCommand
    dsimp only
    split
    · exact .idle nofun
    · exact .badge ha _
  | gym args =>
    unfold ownedCommand
    dsimp only
    split
    · exact .idle nofun
    · rename_i he
      exact .gym ha _ _ he
  | set args =>
    have hs : sender ≠ 0 := hs.resolve_right fun h => h args rfl
    unfold ownedCommand
    dsimp only
    split
    · exact .idle nofun
    · rename_i he
      exact .set hs ha _ _ _ he

theorem adminDispatch_effect (c : AdminCommand) :
    Administered g env sender c (g.adminDispatch env sender c) := by
  have howned (c : AdminCommand) (hc : ∀ args, c ≠ .set args) : Administered g env sender c
      (if g.state.adminNodeNum = sender then g.ownedCommand env c else (.onlyAdmin, g)) := by
    split
    · rename_i ha
      exact ownedCommand_effect c ha (.inr hc)
    · exact .idle nofun
  cases c with
  | help => exact .idle nofun
  | usage => exact .idle nofun
  | reset => exact howned _ nofun
  | name text => exact howned _ nofun
  | badge text => exact howned _ nofun
  | gym args => exact howned _ nofun
  | set args =>
    unfold adminDispatch
    rcases isAdminAuthorized_cases g env sender with
      he | ⟨hs, ha, he⟩ | ⟨hs, hn, hu, ht, he⟩
    · rw [he]
      exact .idle nofun
    · rw [he]
      dsimp only
      rw [if_neg (by simp), if_neg fun h => h.1 ha]
      exact ownedCommand_effect _ ha (.inl hs)
    · rw [he]
      dsimp only
      rw [if_neg (by simp), if_pos ⟨hn ▸ hs.symm, rfl⟩]
      exact .claim hs hn hu ht

variable (g env fromId) in
/-- A message that is dispatched is answered; any other only touches the sessions. -/
theorem handleText_dispatch (payload : List UInt8) : ∃ s,
    g.handleText env fromId payload = (none, { g with sessions := s }) ∨
    ∃ c, textCommand payload = some (.admin c) ∧ g.handleText env fromId payload =
      (some (({ g with sessions := s } : Gauntlet).adminDispatch env fromId c).1,
        (({ g with sessions := s } : Gauntlet).adminDispatch env fromId c).2) := by
  have hsession (n : UInt32) : ∃ s, (g.getOrCreateSession n).2 = { g with sessions := s } := by
    unfold getOrCreateSession
    dsimp only
    split
    · exact ⟨g.sessions, rfl⟩
    · split
      · exact ⟨g.sessions, rfl⟩
      · split
        · exact ⟨g.sessions, rfl⟩
        · exact ⟨_, rfl⟩
  obtain ⟨s, hs⟩ := hsession (env.getFrom fromId)
  unfold handleText
  split
  · exact ⟨g.sessions, .inl rfl⟩
  · split
    · rename_i g' he
      rw [he] at hs
      dsimp only at hs
      subst hs
      exact ⟨s, .inl rfl⟩
    · rename_i i g' he
      rw [he] at hs
      dsimp only at hs
      subst hs
      dsimp only
      split
      · rename_i c hc
        exact ⟨_, .inr ⟨c, hc, rfl⟩⟩
      · exact ⟨_, .inl rfl⟩

variable (g env fromId) in
/-- A text message touches the sessions, and may be an admin command. -/
theorem handleText_cases (payload : List UInt8) : ∃ s,
    g.handleText env fromId payload = (none, { g with sessions := s }) ∨
    ∃ c r, textCommand payload = some (.admin c) ∧
      Administered { g with sessions := s } env fromId c r ∧
      g.handleText env fromId payload = (some r.1, r.2) := by
  obtain ⟨s, h | ⟨c, hc, h⟩⟩ := handleText_dispatch g env fromId payload
  · exact ⟨s, .inl h⟩
  · exact ⟨s, .inr ⟨c, _, hc, adminDispatch_effect _, h⟩⟩

/-! ### What administration leaves alone -/

/-- The records of the players and the count of the battles; and what was saved still is. -/
structure Tended (g g' : Gauntlet) : Prop where
  profiles : g'.profiles = g.profiles
  battles : g'.state.totalBattles = g.state.totalBattles
  saved : g.flash = some g.state → g'.flash = some g'.state

theorem Tended.rfl : Tended g g := ⟨Eq.refl _, Eq.refl _, id⟩

theorem Tended.trans {g₁ g₂ g₃ : Gauntlet} (h : Tended g₁ g₂) (h' : Tended g₂ g₃) : Tended g₁ g₃ :=
  ⟨h'.profiles.trans h.profiles, h'.battles.trans h.battles, fun hs => h'.saved (h.saved hs)⟩

theorem tended_commit (h : ∀ s, (f s).totalBattles = s.totalBattles) : Tended g (g.commit env f) :=
  ⟨by rfl, h g.state, fun _ => by rfl⟩

theorem tended_reset : Tended g (g.gymAdminResetAndOpenWindow env) := by
  have hwipe : Tended g (g.commit env (·.wiped)) := tended_commit fun _ => by rfl
  have hfill : Tended (g.commit env (·.wiped)) ((g.commit env (·.wiped)).autoSetup env) :=
    tended_commit fun _ => by rfl
  exact hwipe.trans ⟨hfill.profiles, hfill.battles, hfill.saved⟩

theorem applied_rest {s : GauntletState} {tr : GymPresetTrainer} {gymIdx level : UInt8} {m : Fin 5} :
    (s.applied env tr gymIdx m level).totalBattles = s.totalBattles ∧
      (s.applied env tr gymIdx m level).adminNodeNum = s.adminNodeNum := by
  unfold GauntletState.applied
  dsimp only
  split <;> exact ⟨by rfl, by rfl⟩

theorem wizardSet_rest {s : GauntletState} {p : GymPreset} {gymIdx level : UInt8} {m : Fin 5} :
    (s.wizardSet env p gymIdx m level).totalBattles = s.totalBattles ∧
      (s.wizardSet env p gymIdx m level).adminNodeNum = s.adminNodeNum := by
  have hadopted : (s.adopted p gymIdx).totalBattles = s.totalBattles ∧
      (s.adopted p gymIdx).adminNodeNum = s.adminNodeNum := by
    unfold GauntletState.adopted
    split <;> exact ⟨by rfl, by rfl⟩
  unfold GauntletState.wizardSet
  dsimp only
  split <;> exact hadopted

variable (g env) in
theorem gymAdminApply_cases (gymIdx memberIdx level : UInt8) :
    g.gymAdminApply env gymIdx memberIdx level = g ∨
    ∃ (m : Fin 5) (tr : GymPresetTrainer), m.val = memberIdx.toNat ∧ level ≤ 100 ∧
      presetTrainer gymIdx m = some tr ∧ g.gymAdminApply env gymIdx memberIdx level =
        g.commit env (·.applied env tr gymIdx m level) := by
  unfold gymAdminApply
  split
  · rename_i h
    split
    · exact .inl rfl
    · rename_i tr htr
      exact .inr ⟨_, tr, rfl, h.2, htr, rfl⟩
  · exact .inl rfl

theorem tended_apply (gymIdx memberIdx level : UInt8) :
    Tended g (g.gymAdminApply env gymIdx memberIdx level) := by
  rcases gymAdminApply_cases g env gymIdx memberIdx level with
    h | ⟨m, tr, -, -, -, h⟩
  · rw [h]
    exact .rfl
  · rw [h]
    exact tended_commit fun _ => applied_rest.1

variable (g env) in
theorem adminSet_cases (gymIdx : UInt8) (m : Fin 5) (level : UInt8) :
    g.adminSet env gymIdx m level = g ∨
    ∃ p, gauntletGymPreset gymIdx = some p ∧
      g.adminSet env gymIdx m level = g.commit env (·.wizardSet env p gymIdx m level) := by
  unfold adminSet
  split
  · exact .inl rfl
  · rename_i p hp
    exact .inr ⟨p, hp, rfl⟩

/-- What holds of a gym and is kept by configuring one member is kept by configuring all. -/
theorem adminGym_induction {P : Gauntlet → Prop} (gymIdx level : UInt8)
    (h : ∀ g m, P g → P (g.gymAdminApply env gymIdx (UInt8.ofNat (m : Fin 5).val)
      (memberLevel gymIdx m level))) (hg : P g) : P (g.adminGym env gymIdx level) := by
  unfold adminGym
  generalize List.finRange 5 = l
  induction l generalizing g with
  | nil => exact hg
  | cons m l ih => exact ih (h g m hg)

theorem Administered.tended {c : AdminCommand} {r : AdminReply × Gauntlet}
    (h : Administered g env sender c r) : Tended g r.2 := by
  cases h with
  | idle => exact .rfl
  | claim =>
    have hc : Tended g (g.commit env ({ · with adminNodeNum := sender })) :=
      tended_commit fun _ => by rfl
    exact ⟨hc.profiles, hc.battles, hc.saved⟩
  | reset => exact tended_reset
  | name =>
    dsimp only
    exact tended_commit fun _ => by rfl
  | badge =>
    dsimp only
    exact tended_commit fun _ => by rfl
  | gym ha gymIdx level =>
    exact adminGym_induction (P := Tended g) gymIdx level
      (fun g' m hg => hg.trans (tended_apply _ _ _)) .rfl
  | set _ _ gymIdx m newLvl =>
    rcases adminSet_cases g env gymIdx m newLvl with h | ⟨p, -, h⟩
    · rw [h]
      exact .rfl
    · rw [h]
      exact tended_commit fun _ => wizardSet_rest.1

theorem handleText_tended (payload : List UInt8) : Tended g (g.handleText env fromId payload).2 := by
  obtain ⟨s, h | ⟨c, r, -, hr, h⟩⟩ := handleText_cases g env fromId payload
  · rw [h]
    exact ⟨rfl, rfl, id⟩
  · rw [h]
    exact ⟨hr.tended.profiles, hr.tended.battles, hr.tended.saved⟩

variable (g env) in
theorem boot_tended (h : g.flash = some g.state) : Tended g (g.boot env) := by
  unfold boot
  rw [h]
  dsimp only [Option.getD_some]
  split
  · exact ⟨by rfl, by rfl, fun _ => by rfl⟩
  · exact ⟨by rfl, by rfl, fun _ => by rfl⟩

/-! ### Results -/

variable (g env fromId)

/-- The trainer a result of the node is about. -/
def trainerOf : UInt8 :=
  let r := g.lookupOrInsertLadder env fromId
  (r.1.map fun i => (r.2.ladders i).ladderIdx).getD 4

/-- The ladders once the node's own is moved to `ladderIdx`. -/
def movedLadders (ladderIdx : UInt8) : Fin 8 → GauntletLadderProgress :=
  let r := g.lookupOrInsertLadder env fromId
  (r.2.touchLadder env r.1 ladderIdx).ladders

/-- A win of a challenger whose ladder has reached the leader. -/
def promotes (won : Bool) : Bool := won && !(g.trainerOf env fromId < 4)

variable {g env fromId}

variable (g env fromId) in
theorem lookupOrInsertLadder_rest : ∃ p l, g.lookupOrInsertLadder env fromId =
    (p, { g with ladders := l }) := by
  unfold lookupOrInsertLadder
  split
  · exact ⟨_, _, rfl⟩
  · split
    · exact ⟨_, _, rfl⟩
    · exact ⟨_, _, rfl⟩

theorem touchLadder_rest (p : Option (Fin 8)) (idx : UInt8) :
    g.touchLadder env p idx = { g with ladders := (g.touchLadder env p idx).ladders } := by
  cases p <;> rfl

/-- An update of a profile reads and writes the profiles only. -/
theorem profileUpdate_rest (env : GymEnv) (n : UInt32) (name csv : CStr) (a b : Bool) (r : UInt8)
    (c d : Bool) : ∃ ps : (UInt32 → Option GauntletProfile) → UInt32 → Option GauntletProfile,
      ∀ g : Gauntlet, g.profileUpdate env n name csv a b r c d =
        { g with profiles := ps g.profiles } := by
  refine ⟨fun ps => (({ blank env with profiles := ps } : Gauntlet).profileUpdate env n name csv a b r
    c d).profiles, fun g => ?_⟩
  unfold profileUpdate
  split <;> rfl

theorem endChallenge_ladders (l : Fin 8 → GauntletLadderProgress) (outcome : UInt8) (name : CStr) :
    ({ g with ladders := l } : Gauntlet).endChallenge env fromId outcome name =
      { g.endChallenge env fromId outcome name with ladders := l } := by
  unfold endChallenge promoteToLeader
  split
  · dsimp only
    obtain ⟨ps, hp⟩ := profileUpdate_rest env (env.getFrom fromId) (env.shortName (env.getFrom fromId))
      (gauntletFormatParty (g.state.buildGymBattleParty .zero) 64) false false 0 true true
    obtain ⟨ps', hp'⟩ := profileUpdate_rest env fromId name
      (gauntletFormatParty (g.state.buildGymBattleParty .zero) 64) true false 0 true true
    rw [hp, hp, hp', hp']
    rfl
  · obtain ⟨ps, hp⟩ := profileUpdate_rest env fromId name [] true false 0 false false
    rw [hp, hp]

/-- A win below the leader: the ladder goes up, the battle is counted. -/
theorem handleResult_advance {outcome : UInt8} {rest : List UInt8} (ho : outcome = 1)
    (hi : g.trainerOf env fromId < 4) :
    g.handleResult env fromId (outcome :: rest) =
      ({ g with
        ladders := g.movedLadders env fromId (g.trainerOf env fromId + 1)
        state := { g.state with totalBattles := g.state.totalBattles + 1 } } : Gauntlet).save := by
  obtain ⟨p, l, hl⟩ := lookupOrInsertLadder_rest g env fromId
  unfold trainerOf at hi
  unfold handleResult movedLadders trainerOf
  rw [hl] at hi ⊢
  dsimp only at hi ⊢
  rw [if_pos ⟨ho, hi⟩, touchLadder_rest]

/-- A result that ends the challenge: the ladder goes back to the start, battle and challenge are
counted. -/
theorem handleResult_end {outcome : UInt8} {rest : List UInt8}
    (hi : ¬(outcome = 1 ∧ g.trainerOf env fromId < 4)) :
    g.handleResult env fromId (outcome :: rest) =
      let e := g.endChallenge env fromId outcome (resultName env fromId rest)
      ({ e with
        ladders := g.movedLadders env fromId 0
        state := { e.state with
          totalBattles := e.state.totalBattles + 1
          totalChallenges := e.state.totalChallenges + 1 } } : Gauntlet).save := by
  obtain ⟨p, l, hl⟩ := lookupOrInsertLadder_rest g env fromId
  unfold trainerOf at hi
  unfold handleResult movedLadders
  rw [hl] at hi ⊢
  dsimp only at hi ⊢
  rw [if_neg hi, touchLadder_rest, endChallenge_ladders]
  cases p <;> rfl

theorem profileUpdate_state (n : UInt32) (name csv : CStr) (a b : Bool) (r : UInt8) (c d : Bool) :
    (g.profileUpdate env n name csv a b r c d).state = g.state := by
  obtain ⟨ps, hp⟩ := profileUpdate_rest env n name csv a b r c d
  rw [hp]

theorem promoteToLeader_state (party : Gen1Party) : (g.promoteToLeader env fromId party).state =
    { g.state with
      prevLeaders :=
        if g.state.leader.nodeNum ≠ 0 then
          (g.state.leader :: g.state.prevLeaders).take gauntletPrevMax
        else g.state.prevLeaders
      leader := ⟨env.getFrom fromId, (env.shortName (env.getFrom fromId)).take (gauntletNameMax - 1),
        party, env.time⟩
      rosterSize := 0
      lastUpdate := env.time } := by
  unfold promoteToLeader
  exact profileUpdate_state ..

theorem endChallenge_won_state (name : CStr) : (g.endChallenge env fromId 1 name).state =
    (g.promoteToLeader env fromId (g.state.buildGymBattleParty .zero)).state := by
  unfold endChallenge
  rw [if_pos rfl]
  exact profileUpdate_state ..

theorem endChallenge_lost_state {outcome : UInt8} (name : CStr) (h : outcome ≠ 1) :
    (g.endChallenge env fromId outcome name).state = g.state := by
  unfold endChallenge
  rw [if_neg h]
  exact profileUpdate_state ..

theorem endChallenge_battles (outcome : UInt8) (name : CStr) :
    (g.endChallenge env fromId outcome name).state.totalBattles = g.state.totalBattles := by
  by_cases h : outcome = 1
  · subst h
    rw [endChallenge_won_state, promoteToLeader_state]
  · rw [endChallenge_lost_state name h]

theorem endChallenge_until (outcome : UInt8) (name : CStr) :
    (g.endChallenge env fromId outcome name).adminClaimUntilMs = g.adminClaimUntilMs := by
  have hupdate (g : Gauntlet) (n : UInt32) (name csv : CStr) (a b : Bool) (r : UInt8) (c d : Bool) :
      (g.profileUpdate env n name csv a b r c d).adminClaimUntilMs = g.adminClaimUntilMs := by
    obtain ⟨ps, hp⟩ := profileUpdate_rest env n name csv a b r c d
    rw [hp]
  unfold endChallenge promoteToLeader
  split
  · rw [hupdate]
    exact hupdate ..
  · exact hupdate ..

/-! ### Records -/

/-- The record of a node, all zero for one without. -/
def record (g : Gauntlet) (x : UInt32) : GauntletProfile := (g.profiles x).getD .zero

variable {n x : UInt32} {name csv : CStr} {started ranked became reached : Bool} {rank : UInt8}

theorem profileUpdate_record_ne (h : n = 0 ∨ x ≠ n) :
    (g.profileUpdate env n name csv started ranked rank became reached).record x = g.record x := by
  unfold profileUpdate
  split
  · rfl
  · rename_i hn
    unfold record
    dsimp only
    rw [Function.update_of_ne (h.resolve_left hn)]

variable (g env name csv started rank became reached) in
theorem profileUpdate_record (h : n ≠ 0) :
    let r := (g.profileUpdate env n name csv started false rank became reached).record n
    r.gymTitles = (g.record n).gymTitles + (if became then 1 else 0) ∧
      r.totalWins = (g.record n).totalWins + (if became then 1 else 0) ∧
      r.totalLosses = (g.record n).totalLosses ∧
      r.totalChallenges = (g.record n).totalChallenges + (if started then 1 else 0) := by
  unfold profileUpdate
  rw [if_neg h]
  unfold record
  dsimp only
  rw [Function.update_self]
  cases started <;> cases became <;> simp

end Gauntlet

/-! ### Battle packets -/

/-- A fight result: who sent it, and whether it is a win. -/
def GymEvent.result : GymEvent → Option (UInt32 × Bool)
  | .battle fromId p _ =>
    if p.type = bbsFightResult then p.payload.head?.map fun outcome => (fromId, outcome = 1) else none
  | _ => none

namespace Gauntlet

variable {g : Gauntlet} {env : GymEnv} {fromId : UInt32} {e : GymEvent} {won : Bool}

variable (g env) in
/-- A result is handled as such. -/
theorem step_result (h : e.result = some (fromId, won)) :
    ∃ outcome rest, won = decide (outcome = 1) ∧
      g.step env e = g.handleResult env fromId (outcome :: rest) := by
  cases e with
  | battle from' p out =>
    unfold GymEvent.result at h
    dsimp only at h
    split at h
    · rename_i ht
      obtain ⟨outcome, ho, he⟩ := Option.map_eq_some_iff.mp h
      cases he
      obtain ⟨rest, hp⟩ := List.head?_eq_some_iff.mp ho
      refine ⟨outcome, rest, rfl, ?_⟩
      change (g.handleBattlePacket env fromId p out).2 = _
      unfold handleBattlePacket
      rw [ht, hp, if_neg (by decide), if_neg (by decide), if_neg (by decide), if_pos rfl]
    · cases h
  | text => cases h
  | menuApply => cases h
  | menuReset => cases h
  | sweep => cases h
  | reboot => cases h

theorem handleRequest_gym (session : UInt16) (out : Gen1Party) :
    (g.handleRequest env fromId session out).2 =
      { g with ladders := g.movedLadders env fromId (g.trainerOf env fromId) } := by
  obtain ⟨p, l, hl⟩ := lookupOrInsertLadder_rest g env fromId
  unfold handleRequest movedLadders trainerOf
  rw [hl]
  dsimp only
  rw [touchLadder_rest]

variable (g env) in
/-- A battle packet without a result changes nothing, or refreshes the entry of its sender. -/
theorem battle_quiet {p : Packet} {out : Gen1Party}
    (h : (GymEvent.battle fromId p out).result = none) :
    (g.handleBattlePacket env fromId p out).2 = g ∨
      (g.handleBattlePacket env fromId p out).2 =
        { g with ladders := g.movedLadders env fromId (g.trainerOf env fromId) } := by
  unfold handleBattlePacket
  split
  · exact .inl rfl
  · split
    · exact .inr (handleRequest_gym _ _)
    · split
      · exact .inl rfl
      · split
        · rename_i ht
          unfold GymEvent.result at h
          dsimp only at h
          rw [if_pos ht, Option.map_eq_none_iff, List.head?_eq_none_iff] at h
          rw [h]
          exact .inl rfl
        · exact .inl rfl

variable (env) in
/-- Whatever brings no result leaves the records and the count of the battles alone. -/
theorem step_tended (hs : g.flash = some g.state) (h : e.result = none) : Tended g (g.step env e) := by
  cases e with
  | battle from' p out =>
    change Tended g (g.handleBattlePacket env from' p out).2
    rcases battle_quiet g env h with hq | hq <;> rw [hq]
    · exact .rfl
    · exact ⟨rfl, rfl, id⟩
  | text from' payload => exact handleText_tended payload
  | menuApply => exact tended_apply _ _ _
  | menuReset => exact tended_reset
  | sweep =>
    change Tended g (g.expireSessions env)
    unfold expireSessions
    split <;> exact ⟨rfl, rfl, id⟩
  | reboot => exact boot_tended _ _ hs

variable (g env) in
/-- A result moves the ladder of its sender up, or back to the start. -/
theorem result_ladders (h : e.result = some (fromId, won)) : (g.step env e).ladders =
    g.movedLadders env fromId
      (if won && !g.promotes env fromId won then g.trainerOf env fromId + 1 else 0) := by
  obtain ⟨outcome, rest, hw, hs⟩ := step_result g env h
  rw [hs, hw]
  by_cases hi : outcome = 1 ∧ g.trainerOf env fromId < 4
  · rw [handleResult_advance hi.1 hi.2, if_pos (by simp [promotes, hi.1, hi.2])]
    rfl
  · rw [handleResult_end hi, if_neg]
    · rfl
    · intro hc
      simp [promotes] at hc
      exact hi ⟨hc.1, hc.2.resolve_left fun hn => hn hc.1⟩

variable (g env) in
/-- Only a result that promotes its sender changes the leader. -/
theorem result_leader (h : e.result = some (fromId, won))
    (hl : (g.step env e).state.leader ≠ g.state.leader) :
    g.promotes env fromId won = true ∧
      (g.step env e).state.leader.nodeNum = env.getFrom fromId := by
  obtain ⟨outcome, rest, hw, hs⟩ := step_result g env h
  rw [hs] at hl ⊢
  by_cases hi : outcome = 1 ∧ g.trainerOf env fromId < 4
  · rw [handleResult_advance hi.1 hi.2] at hl
    exact absurd rfl hl
  · by_cases ho : outcome = 1
    · subst ho
      refine ⟨?_, ?_⟩
      · rw [hw]
        simpa [promotes] using fun h => hi ⟨rfl, h⟩
      · rw [handleResult_end hi]
        change (endChallenge _ _ _ _ _).state.leader.nodeNum = _
        rw [endChallenge_won_state, promoteToLeader_state]
    · rw [handleResult_end hi] at hl
      change (endChallenge _ _ _ _ _).state.leader ≠ _ at hl
      rw [endChallenge_lost_state _ ho] at hl
      exact absurd rfl hl

end Gauntlet
end MonsterMesh
