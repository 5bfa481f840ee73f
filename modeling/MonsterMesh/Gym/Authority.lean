import MonsterMesh.Gym.Effects
import MonsterMesh.Lib.Walk

/-! Who may administer a gym by text message, over any run of the device. -/
namespace MonsterMesh

open Gauntlet

/-- What an administrator decides about a gym. -/
structure GymSettings where
  (gymName gymBadge : CStr)
  leader : GauntletTrainer
  gymPresetIdx : UInt8
  memberLevels : Fin 5 → UInt8
  adminNodeNum : UInt32
  autoEnabled : Bool
  autoSlots : Fin 5 → UInt8 × UInt8
  autoLeaderLevel : UInt8

def GauntletState.settings (s : GauntletState) : GymSettings :=
  ⟨s.gymName, s.gymBadge, s.leader, s.gymPresetIdx, s.memberLevels, s.adminNodeNum, s.autoEnabled,
    s.autoSlots, s.autoLeaderLevel⟩

/-- The commands that ask whether their sender is the admin, and for nothing else. -/
def AdminCommand.ForAdmin : AdminCommand → Prop
  | .reset | .name _ | .badge _ | .gym _ => True
  | .help | .usage | .set _ => False

/-- A gym with the time of the last reset, or boot without an admin, since it is on. -/
structure OpenedGym where
  gym : Gauntlet
  opened : Option ℕ

namespace OpenedGym

def step (w : OpenedGym) (x : GymEnv × GymEvent) : OpenedGym where
  gym := w.gym.step x.1 x.2
  opened :=
    match x.2 with
    | .reboot => if (w.gym.boot x.1).state.adminNodeNum = 0 then some x.1.now else none
    | .menuReset => some x.1.now
    | .text fromId payload =>
      match (w.gym.handleText x.1 fromId payload).1 with
      | some .dropped => some x.1.now
      | _ => w.opened
    | _ => w.opened

/-- A device that has just booted. -/
def booted (env : GymEnv) (g : Gauntlet) : OpenedGym := (⟨g, none⟩ : OpenedGym).step (env, .reboot)

/-- An `admin set` while there is no admin, within the window of a boot or a reset. -/
def Claims (w : OpenedGym) (env : GymEnv) (payload : List UInt8) : Prop :=
  (∃ args, textCommand payload = some (.admin (.set args))) ∧ w.gym.state.adminNodeNum = 0 ∧
    ∃ t, w.opened = some t ∧ env.now < t + adminClaimWindowMs.toNat

/-- A text message changes the settings for the admin alone, or as a claim; and only a claim makes an
admin. -/
def Lawful (w : OpenedGym) (x : GymEnv × GymEvent) : Prop :=
  ∀ fromId payload, x.2 = .text fromId payload →
    ((w.step x).gym.state.settings ≠ w.gym.state.settings →
      (w.gym.state.adminNodeNum ≠ 0 ∧ fromId = w.gym.state.adminNodeNum) ∨ w.Claims x.1 payload) ∧
    ((w.step x).gym.state.adminNodeNum ≠ w.gym.state.adminNodeNum →
      (w.step x).gym.state.adminNodeNum ≠ 0 → w.Claims x.1 payload)

/-- While there is no admin: no administration by node 0, and no `admin set` after the end of the
window at a time that the 32-bit counter shows as one before it. -/
def Guarded (w : OpenedGym) (x : GymEnv × GymEvent) : Prop :=
  ∀ fromId payload c, x.2 = .text fromId payload → textCommand payload = some (.admin c) →
    w.gym.state.adminNodeNum = 0 →
    (fromId = 0 → ¬c.ForAdmin) ∧
      ∀ args t, c = .set args → w.opened = some t → t + adminClaimWindowMs.toNat ≤ x.1.now →
        ¬x.1.now % 2 ^ 32 < (t + adminClaimWindowMs.toNat) % 2 ^ 32

/-! ### The window -/

/-- The deadline belongs to the last opening, if a claim has not taken it. -/
def Timed (w : OpenedGym) : Prop := w.gym.adminClaimUntilMs = 0 ∨
  ∃ t, w.opened = some t ∧ w.gym.adminClaimUntilMs = UInt32.ofNat (t + adminClaimWindowMs.toNat)

variable {w : OpenedGym} {env : GymEnv} {g : Gauntlet} {sender : UInt32}

theorem deadline_eq : env.millis + adminClaimWindowMs =
    UInt32.ofNat (env.now + adminClaimWindowMs.toNat) := by
  rw [UInt32.ofNat_add, UInt32.ofNat_toNat]
  rfl

theorem timed_reboot (w : OpenedGym) (env : GymEnv) : (w.step (env, .reboot)).Timed := by
  have hboot : (w.gym.boot env).adminClaimUntilMs =
      if (w.gym.boot env).state.adminNodeNum = 0 then env.millis + adminClaimWindowMs else 0 := by
    unfold boot
    dsimp only
    split <;> rfl
  unfold Timed step
  dsimp only
  change (w.gym.boot env).adminClaimUntilMs = 0 ∨ ∃ t, _ ∧ (w.gym.boot env).adminClaimUntilMs = _
  rw [hboot]
  split
  · exact .inr ⟨env.now, rfl, deadline_eq⟩
  · exact .inl rfl

/-- The administration of members keeps admin and deadline. -/
theorem apply_rest (gymIdx memberIdx level : UInt8) :
    (g.gymAdminApply env gymIdx memberIdx level).adminClaimUntilMs = g.adminClaimUntilMs ∧
      (g.gymAdminApply env gymIdx memberIdx level).state.adminNodeNum = g.state.adminNodeNum := by
  rcases gymAdminApply_cases g env gymIdx memberIdx level with
    h | ⟨m, tr, -, -, -, h⟩
  · rw [h]
    exact ⟨rfl, rfl⟩
  · rw [h]
    exact ⟨rfl, applied_rest.2⟩

theorem adminGym_rest (gymIdx level : UInt8) :
    (g.adminGym env gymIdx level).adminClaimUntilMs = g.adminClaimUntilMs ∧
      (g.adminGym env gymIdx level).state.adminNodeNum = g.state.adminNodeNum :=
  adminGym_induction (P := fun g' => g'.adminClaimUntilMs = g.adminClaimUntilMs ∧
      g'.state.adminNodeNum = g.state.adminNodeNum) gymIdx level
    (fun _ _ hg => ⟨(apply_rest _ _ _).1.trans hg.1, (apply_rest _ _ _).2.trans hg.2⟩) ⟨rfl, rfl⟩

theorem adminSet_rest (gymIdx : UInt8) (m : Fin 5) (level : UInt8) :
    (g.adminSet env gymIdx m level).adminClaimUntilMs = g.adminClaimUntilMs ∧
      (g.adminSet env gymIdx m level).state.adminNodeNum = g.state.adminNodeNum := by
  rcases adminSet_cases g env gymIdx m level with h | ⟨p, -, h⟩
  · rw [h]
    exact ⟨rfl, rfl⟩
  · rw [h]
    exact ⟨rfl, wizardSet_rest.2⟩

/-- A result touches neither the deadline nor the admin. -/
theorem battle_until (fromId : UInt32) (p : Packet) (out : Gen1Party) :
    (g.handleBattlePacket env fromId p out).2.adminClaimUntilMs = g.adminClaimUntilMs := by
  cases hr : (GymEvent.battle fromId p out).result with
  | none =>
    rcases battle_quiet g env hr with h | h <;> rw [h]
  | some r =>
    obtain ⟨f, won⟩ := r
    obtain ⟨outcome, rest, -, hs⟩ := step_result g env hr
    change (g.step env (.battle fromId p out)).adminClaimUntilMs = _
    rw [hs]
    by_cases hi : outcome = 1 ∧ g.trainerOf env f < 4
    · rw [handleResult_advance hi.1 hi.2]
      rfl
    · rw [handleResult_end hi]
      exact endChallenge_until _ _

/-- A deadline that is kept, or dropped. -/
theorem Timed.keep {w' : OpenedGym} (hw : w.Timed) (ho : w'.opened = w.opened)
    (hu : w'.gym.adminClaimUntilMs = w.gym.adminClaimUntilMs ∨ w'.gym.adminClaimUntilMs = 0) :
    w'.Timed := by
  rcases hu with hu | hu
  · unfold Timed
    rw [ho, hu]
    exact hw
  · exact .inl hu

theorem timed_text (hw : w.Timed) (fromId : UInt32) (payload : List UInt8) :
    (w.step (env, .text fromId payload)).Timed := by
  obtain ⟨s, h | ⟨c, r, -, hr, h⟩⟩ :=
    handleText_cases w.gym env fromId payload
  · have hstep : w.step (env, .text fromId payload) = ⟨{ w.gym with sessions := s }, w.opened⟩ := by
      unfold step Gauntlet.step
      dsimp only
      rw [h]
    rw [hstep]
    exact hw.keep rfl (.inl rfl)
  · obtain ⟨o, hstep, hnow, hkept⟩ : ∃ o, w.step (env, .text fromId payload) = ⟨r.2, o⟩ ∧
        (r.1 = .dropped → o = some env.now) ∧ (r.1 ≠ .dropped → o = w.opened) := by
      have hgym : (w.step (env, .text fromId payload)).gym = r.2 := congrArg Prod.snd h
      refine ⟨(w.step (env, .text fromId payload)).opened, by rw [← hgym], ?_⟩
      unfold step
      dsimp only
      rw [h]
      cases r.1 <;> simp
    rw [hstep]
    cases hr with
    | idle hd => exact hw.keep (hkept hd) (.inl rfl)
    | claim => exact .inl rfl
    | reset => exact .inr ⟨env.now, hnow rfl, deadline_eq⟩
    | name => exact hw.keep (hkept (by simp)) (.inl rfl)
    | badge => exact hw.keep (hkept (by simp)) (.inl rfl)
    | gym _ gymIdx level =>
      refine hw.keep (hkept (by simp)) (.inl ?_)
      exact (adminGym_rest (g := { w.gym with sessions := s }) gymIdx level).1
    | set _ _ gymIdx m newLvl =>
      refine hw.keep (hkept (by simp)) (.inl ?_)
      exact (adminSet_rest (g := { w.gym with sessions := s }) gymIdx m newLvl).1

theorem timed_step (hw : w.Timed) (x : GymEnv × GymEvent) : (w.step x).Timed := by
  obtain ⟨env, e⟩ := x
  cases e with
  | battle fromId p out => exact hw.keep rfl (.inl (battle_until fromId p out))
  | text fromId payload => exact timed_text hw fromId payload
  | menuApply gymIdx memberIdx level => exact hw.keep rfl (.inl (apply_rest _ _ _).1)
  | menuReset => exact .inr ⟨env.now, rfl, deadline_eq⟩
  | sweep =>
    refine hw.keep rfl (.inl ?_)
    change (w.gym.expireSessions env).adminClaimUntilMs = _
    unfold expireSessions
    split <;> rfl
  | reboot => exact timed_reboot w env

/-! ### Who may -/

/-- An open window is one that the clock has not left, unless the counter has come round. -/
theorem claims_of_open {fromId : UInt32} {payload : List UInt8} {args : CStr} (hw : w.Timed)
    (hg : w.Guarded (env, .text fromId payload))
    (hc : textCommand payload = some (.admin (.set args))) (hn : w.gym.state.adminNodeNum = 0)
    (hu : w.gym.adminClaimUntilMs ≠ 0) (ht : env.millis < w.gym.adminClaimUntilMs) :
    w.Claims env payload := by
  obtain ⟨t, ho, hd⟩ := hw.resolve_left hu
  refine ⟨⟨args, hc⟩, hn, t, ho, ?_⟩
  by_contra hlate
  refine (hg fromId payload _ rfl hc hn).2 args t rfl ho (Nat.le_of_not_lt hlate) ?_
  rw [hd, UInt32.lt_iff_toNat_lt] at ht
  unfold GymEnv.millis at ht
  rwa [UInt32.toNat_ofNat', UInt32.toNat_ofNat'] at ht

theorem lawful_of_guarded (hw : w.Timed) {x : GymEnv × GymEvent} (hg : w.Guarded x) : w.Lawful x := by
  obtain ⟨env, e⟩ := x
  rintro fromId payload rfl
  obtain ⟨s, h | ⟨c, r, hc, hr, h⟩⟩ :=
    handleText_cases w.gym env fromId payload
  · have hstate : (w.step (env, .text fromId payload)).gym.state = w.gym.state := by
      change (w.gym.handleText env fromId payload).2.state = _
      rw [h]
    rw [hstate]
    exact ⟨fun hne => absurd rfl hne, fun hne => absurd rfl hne⟩
  · have hstate : (w.step (env, .text fromId payload)).gym.state = r.2.state := by
      change (w.gym.handleText env fromId payload).2.state = _
      rw [h]
    rw [hstate]
    have hadmin (ha : w.gym.state.adminNodeNum = fromId) (hf : c.ForAdmin ∨ fromId ≠ 0) :
        w.gym.state.adminNodeNum ≠ 0 ∧ fromId = w.gym.state.adminNodeNum := by
      refine ⟨fun hz => ?_, ha.symm⟩
      rcases hf with hf | hf
      · exact (hg fromId payload c rfl hc hz).1 (ha ▸ hz) hf
      · exact hf (ha ▸ hz)
    cases hr with
    | idle => exact ⟨fun hne => absurd rfl hne, fun hne => absurd rfl hne⟩
    | claim hs hn hu ht =>
      have hclaims := claims_of_open hw hg hc hn hu ht
      exact ⟨fun _ => .inr hclaims, fun _ _ => hclaims⟩
    | reset ha => exact ⟨fun _ => .inl (hadmin ha (.inl trivial)), fun _ hne => absurd rfl hne⟩
    | name ha => exact ⟨fun _ => .inl (hadmin ha (.inl trivial)), fun hne => absurd rfl hne⟩
    | badge ha => exact ⟨fun _ => .inl (hadmin ha (.inl trivial)), fun hne => absurd rfl hne⟩
    | gym ha gymIdx level =>
      exact ⟨fun _ => .inl (hadmin ha (.inl trivial)), fun hne => absurd (adminGym_rest _ _).2 hne⟩
    | set hs ha gymIdx m newLvl =>
      exact ⟨fun _ => .inl (hadmin ha (.inr hs)), fun hne => absurd (adminSet_rest _ _ _).2 hne⟩

/-- In a run whose steps are guarded, every message is lawful. -/
theorem administration_lawful (env : GymEnv) (g : Gauntlet) (l : List (GymEnv × GymEvent))
    (h : Walk.Along step Guarded (booted env g) l) : Walk.Along step Lawful (booted env g) l :=
  h.trade (fun w x hw _ => timed_step (w := w) hw x) (fun _ _ hw hg => lawful_of_guarded hw hg)
    (timed_reboot _ env)

/-- Node 7 claims a gym a second after its boot, and names it. -/
theorem administration_lawful_claim :
    Walk.Along step Lawful (booted (.plain 0) (blank (.plain 0)))
      [(.plain 1000, .text 7 (cstr "admin set")), (.plain 2000, .text 7 (cstr "admin name Rock"))] := by
  have hwindow : adminClaimWindowMs.toNat = 120000 := rfl
  refine administration_lawful _ _ _ ⟨?_, ?_, trivial⟩
  · rintro _ _ c ⟨⟩ - -
    refine ⟨fun h => absurd h (by decide), fun args t _ _ hlate => ?_⟩
    change t + _ ≤ 1000 at hlate
    omega
  · rintro _ _ c ⟨⟩ - hn
    exact absurd hn (by decide +kernel)

/-- No one has claimed the gym; 2 ^ 32 ms after the boot node 7 still can. -/
theorem window_reopened : ¬Walk.Along step Lawful (booted (.plain 0) (blank (.plain 0)))
    [(.plain (2 ^ 32 + 1000), .text 7 (cstr "admin set"))] := by
  intro h
  have hlaw := (h.1 7 (cstr "admin set") rfl).2 (by decide +kernel) (by decide +kernel)
  obtain ⟨-, -, t, ht, hnow⟩ := hlaw
  have ht₀ : (0 : ℕ) = t := Option.some.inj ((by decide +kernel :
    (booted (.plain 0) (blank (.plain 0))).opened = some 0).symm.trans ht)
  rw [← ht₀] at hnow
  exact absurd hnow (by decide)

end OpenedGym
end MonsterMesh
