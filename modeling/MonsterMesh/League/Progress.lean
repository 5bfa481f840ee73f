import MonsterMesh.League.State

/-! The league's progress stays well formed, and nothing earned is lost, whatever the order of battles. -/
namespace MonsterMesh

/-- The badge byte with the first `k` badges: 2 ^ k - 1. -/
def badgeByte (k : Fin 9) : UInt8 := UInt8.ofNat (2 ^ k.val - 1)

namespace LordSave

structure WellFormed (s : LordSave) : Prop where
  badges : ∃ k, s.badges = badgeByte k
  gyms : ∀ g, s.gymProgress g ≤ 5
  gymTiers : ∀ g, s.gymTierCleared g ≤ s.ngPlusTier
  tier : s.ngPlusTier ≤ 5
  e4Tier : s.e4TierCleared ≤ s.ngPlusTier
  e4 : s.e4Progress ≤ 4
  champion : s.leagueCleared = true → s.badges = 0xFF

/-- What is earned in `s` is held in `s'`. -/
structure Kept (s s' : LordSave) : Prop where
  badges : ∀ g, s.lordHasBadge g = true → s'.lordHasBadge g = true
  gymTiers : ∀ g, s.gymTierCleared g ≤ s'.gymTierCleared g
  tier : s.ngPlusTier ≤ s'.ngPlusTier
  e4Tier : s.e4TierCleared ≤ s'.e4TierCleared
  cleared : s.leagueCleared = true → s'.leagueCleared = true

/-- The same badges, tiers and flag. -/
structure Agrees (s s' : LordSave) : Prop where
  badges : s.badges = s'.badges
  gymTiers : s.gymTierCleared = s'.gymTierCleared
  tier : s.ngPlusTier = s'.ngPlusTier
  e4Tier : s.e4TierCleared = s'.e4TierCleared
  cleared : s.leagueCleared = s'.leagueCleared

variable {s s' s'' : LordSave} {g : Fin 8} {k : Fin 9}

theorem Kept.refl : s.Kept s := ⟨fun _ => id, fun _ => le_rfl, le_rfl, le_rfl, id⟩

theorem Kept.trans (h : s.Kept s') (h' : s'.Kept s'') : s.Kept s'' :=
  ⟨fun g hg => h'.badges g (h.badges g hg), fun g => (h.gymTiers g).trans (h'.gymTiers g),
    h.tier.trans h'.tier, h.e4Tier.trans h'.e4Tier, fun hc => h'.cleared (h.cleared hc)⟩

theorem Agrees.hasBadge (h : s.Agrees s') (g : Fin 8) : s.lordHasBadge g = s'.lordHasBadge g := by
  unfold lordHasBadge
  rw [h.badges]

theorem Agrees.kept (h : s.Agrees s') : s.Kept s' := by
  refine ⟨fun g hg => ?_, fun g => ?_, h.tier.le, h.e4Tier.le, fun hc => ?_⟩
  · rwa [← h.hasBadge g]
  · rw [h.gymTiers]
  · rwa [← h.cleared]

theorem Agrees.symm (h : s.Agrees s') : s'.Agrees s :=
  ⟨h.badges.symm, h.gymTiers.symm, h.tier.symm, h.e4Tier.symm, h.cleared.symm⟩

theorem dailyReset_cases (s : LordSave) (now : ℕ) (tz : ℤ) : s.lordApplyDailyReset now tz = s ∨
    ∃ n, s.lordApplyDailyReset now tz = { s with exploreRunsToday := 0, nextResetEpoch := n } := by
  unfold lordApplyDailyReset
  dsimp only
  by_cases h0 : now = 0
  · exact .inl (if_pos h0)
  · rw [if_neg h0]
    by_cases hd : s.nextResetEpoch = 0 ∨ s.nextResetEpoch ≤ now
    · exact .inr ⟨_, if_pos hd⟩
    · exact .inl (if_neg hd)

theorem hasBadge_of (h : s.badges = badgeByte k) : s.lordHasBadge g = decide (g.val < k.val) := by
  have hall : ∀ (k : Fin 9) (g : Fin 8), (badgeByte k &&& gymMask g != 0) = decide (g.val < k.val) := by
    decide
  unfold lordHasBadge
  rw [h, hall]

theorem unlocked_iff : s.lordGymUnlocked g = true ↔ ∀ i < g, s.lordHasBadge i = true := by
  unfold lordGymUnlocked
  rw [List.all_eq_true]
  constructor
  · intro h i hi
    have hor := h i (List.mem_finRange i)
    rw [Bool.or_eq_true, decide_eq_true_eq] at hor
    exact hor.resolve_left (not_le.mpr hi)
  · intro h i _
    rw [Bool.or_eq_true, decide_eq_true_eq]
    rcases lt_or_ge i g with hi | hi
    · exact .inr (h i hi)
    · exact .inl hi

/-- The first gyms up to the number of badges are open. -/
theorem le_of_unlocked (h : s.badges = badgeByte k) (hg : s.lordGymUnlocked g = true) :
    g.val ≤ k.val := by
  by_contra hlt
  have hk : k.val < 8 := by omega
  have hbadge := unlocked_iff.mp hg ⟨k.val, hk⟩ (Fin.mk_lt_of_lt_val (by omega))
  rw [hasBadge_of h, decide_eq_true_eq] at hbadge
  exact absurd hbadge (lt_irrefl _)

theorem Kept.unlocked (h : s.Kept s') (hg : s.lordGymUnlocked g = true) :
    s'.lordGymUnlocked g = true :=
  unlocked_iff.mpr fun i hi => h.badges i (unlocked_iff.mp hg i hi)

theorem WellFormed.full_iff (h : s.WellFormed) : s.badges = 0xFF ↔ ∀ g, s.lordHasBadge g = true := by
  obtain ⟨k, hk⟩ := h.badges
  constructor
  · intro hfull g
    have hall : ∀ g : Fin 8, ((0xFF : UInt8) &&& gymMask g != 0) = true := by decide
    unfold lordHasBadge
    rw [hfull, hall]
  · intro hall
    have h7 := hall 7
    rw [hasBadge_of hk, decide_eq_true_eq] at h7
    have hk8 : k = 8 := Fin.ext (by have := k.isLt; change k.val = 8; change 7 < k.val at h7; omega)
    rw [hk, hk8]
    decide

theorem Kept.full (h : s.Kept s') (hs : s.WellFormed) (hs' : s'.WellFormed) (hf : s.badges = 0xFF) :
    s'.badges = 0xFF :=
  hs'.full_iff.mpr fun g => h.badges g (hs.full_iff.mp hf g)

theorem wellFormed_default : lordInitDefaults.WellFormed :=
  ⟨⟨0, by decide⟩, fun _ => Nat.zero_le _, fun _ => le_rfl, Nat.zero_le _, le_rfl, Nat.zero_le _, by simp [lordInitDefaults]⟩

/-! ### The award of a badge and of the championship -/

theorem cleared_badges (h : s.badges = badgeByte k) (hg : s.lordGymUnlocked g = true) :
    ∃ k', k ≤ k' ∧ (s.lordOnGymCleared g).badges = badgeByte k' := by
  have hall : ∀ (k : Fin 9) (g : Fin 8), g.val ≤ k.val →
      ∃ k', k ≤ k' ∧ badgeByte k ||| gymMask g = badgeByte k' := by decide
  obtain ⟨k', hle, hk'⟩ := hall k g (le_of_unlocked h hg)
  exact ⟨k', hle, by rw [← hk', ← h]; rfl⟩

theorem hasBadge_mono {k' : Fin 9} (h : s.badges = badgeByte k) (h' : s'.badges = badgeByte k')
    (hle : k ≤ k') (hg : s.lordHasBadge g = true) : s'.lordHasBadge g = true := by
  rw [hasBadge_of h, decide_eq_true_eq] at hg
  rw [hasBadge_of h', decide_eq_true_eq]
  exact lt_of_lt_of_le hg hle

end LordSave

open LordSave

namespace Terminal

variable {t : Terminal} {g : Fin 8} {i : Fin 5} {won : Bool}

/-- Progress and its copy are well formed and hold the same awards. -/
structure Sound (t : Terminal) : Prop where
  lord : t.lord.WellFormed
  saved : t.saved.WellFormed
  agrees : t.saved.Agrees t.lord

/-- The terminal `t'` is sound and has lost nothing of `t`. -/
def Advances (t t' : Terminal) : Prop := t'.Sound ∧ t.lord.Kept t'.lord

theorem Sound.advances (h : t.Sound) : t.Advances t := ⟨h, .refl⟩

theorem advances_lordSave {l : LordSave} (hl : l.WellFormed) (hk : t.lord.Kept l) :
    t.Advances (t.lordSave l) := ⟨⟨hl, hl, ⟨rfl, rfl, rfl, rfl, rfl⟩⟩, hk⟩

theorem Sound.progress (h : t.Sound) {p : Fin 8 → ℕ} (hp : ∀ g, p g ≤ 5) :
    t.Advances (t.lordSave { t.lord with gymProgress := p }) :=
  advances_lordSave { h.lord with gyms := hp } ⟨fun _ => id, fun _ => le_rfl, le_rfl, le_rfl, id⟩

theorem update_le {p : Fin 8 → ℕ} (hp : ∀ g, p g ≤ 5) {n : ℕ} (hn : n ≤ 5) (g' : Fin 8) :
    Function.update p g n g' ≤ 5 := by
  rcases eq_or_ne g' g with rfl | hne
  · rwa [Function.update_self]
  · rw [Function.update_of_ne hne]
    exact hp g'

theorem Sound.badge (h : t.Sound) (hg : t.lord.lordGymUnlocked g = true) :
    t.Advances (t.lordSave { t.lord.lordOnGymCleared g with
      gymTierCleared := Function.update t.lord.gymTierCleared g t.lord.ngPlusTier }) := by
  obtain ⟨k, hk⟩ := h.lord.badges
  obtain ⟨k', hle, hk'⟩ := cleared_badges hk hg
  have hmono : ∀ g', t.lord.lordHasBadge g' = true → (t.lord.lordOnGymCleared g).lordHasBadge g' = true :=
    fun _ => hasBadge_mono hk hk' hle
  apply advances_lordSave
  · refine ⟨⟨k', hk'⟩, update_le h.lord.gyms le_rfl, fun g' => ?_, h.lord.tier, h.lord.e4Tier, h.lord.e4,
      fun hc => ?_⟩
    · change Function.update t.lord.gymTierCleared g _ g' ≤ t.lord.ngPlusTier
      rcases eq_or_ne g' g with rfl | hne
      · rw [Function.update_self]
      · rw [Function.update_of_ne hne]
        exact h.lord.gymTiers g'
    · have hfull : t.lord.badges = 0xFF := h.lord.champion hc
      change t.lord.badges ||| gymMask g = 0xFF
      have hall : ∀ g : Fin 8, (0xFF : UInt8) ||| gymMask g = 0xFF := by decide
      rw [hfull, hall]
  · refine ⟨hmono, fun g' => ?_, le_rfl, le_rfl, id⟩
    change _ ≤ Function.update t.lord.gymTierCleared g _ g'
    rcases eq_or_ne g' g with rfl | hne
    · rw [Function.update_self]
      exact h.lord.gymTiers g'
    · rw [Function.update_of_ne hne]

theorem Sound.gymEnded (h : t.Sound) (hg : t.lord.lordGymUnlocked g = true) :
    t.Advances (t.onGymBattleEnded g i won) := by
  have hi := i.isLt
  unfold onGymBattleEnded
  split
  · split
    · exact h.progress (update_le h.lord.gyms (by omega))
    · exact h.advances
  · split
    · refine h.progress fun g' => ?_
      split
      · exact update_le h.lord.gyms (by omega) g'
      · exact h.lord.gyms g'
    · exact h.badge hg

theorem Sound.e4Ended (h : t.Sound) (hf : t.lord.badges = 0xFF) :
    t.Advances (t.onE4BattleEnded i won) := by
  unfold onE4BattleEnded
  split
  · exact advances_lordSave h.lord .refl
  · split
    case isTrue hi =>
      refine advances_lordSave { h.lord with e4 := ?_ }
        ⟨fun _ => id, fun _ => le_rfl, le_rfl, le_rfl, id⟩
      have he := h.lord.e4
      dsimp only
      split <;> omega
    case isFalse =>
      have hle : t.lord.ngPlusTier ≤
          if t.lord.ngPlusTier < 5 then t.lord.ngPlusTier + 1 else t.lord.ngPlusTier := by
        split <;> omega
      have hcap : (if t.lord.ngPlusTier < 5 then t.lord.ngPlusTier + 1 else t.lord.ngPlusTier) ≤ 5 := by
        have := h.lord.tier
        split <;> omega
      apply advances_lordSave
      · exact ⟨h.lord.badges, fun _ => Nat.zero_le _, fun g => (h.lord.gymTiers g).trans hle, hcap, hle,
          Nat.zero_le _, fun _ => hf⟩
      · exact ⟨fun _ => id, fun _ => le_rfl, hle, h.lord.e4Tier, fun _ => rfl⟩

theorem Sound.exploreEnded (h : t.Sound) {lvl : ℕ} : t.Advances (t.onExploreBattleEnded lvl won) := by
  unfold onExploreBattleEnded
  split
  · exact advances_lordSave { h.lord with } ⟨fun _ => id, fun _ => le_rfl, le_rfl, le_rfl, id⟩
  · exact advances_lordSave h.lord .refl

/-! ### What a line asks for -/

/-- Lines keep what is earned and ask for fights that are open. -/
structure Lawful (t : Terminal) (r : Terminal × Option FightRequest) : Prop where
  advances : t.Advances r.1
  rematch : ∀ g, r.1.pendingRematchGym = some g → t.lord.lordGymUnlocked g = true
  gym : ∀ g i, r.2 = some (.gym g i) → t.lord.lordGymUnlocked g = true
  e4 : ∀ m, r.2 = some (.e4 m) → t.lord.badges = 0xFF

theorem Sound.quiet (h : t.Sound) (hp : t.pendingRematchGym = none) : t.Lawful (t, none) :=
  ⟨h.advances, by rw [hp]; simp, by simp, by simp⟩

theorem Sound.progressOnly (h : t.Sound) {p : Fin 8 → ℕ} (hp : ∀ g, p g ≤ 5) :
    t.Advances { t with lord := { t.lord with gymProgress := p } } :=
  ⟨⟨{ h.lord with gyms := hp }, h.saved, { h.agrees with }⟩,
    fun _ => id, fun _ => le_rfl, le_rfl, le_rfl, id⟩

theorem lawful_e4 (h : t.Sound) (hp : t.pendingRematchGym = none) : t.Lawful t.gymFightE4 := by
  unfold gymFightE4
  split
  · exact h.quiet hp
  · split
    · exact h.quiet hp
    case isFalse hb =>
      have hf : t.lord.badges = 0xFF := not_not.mp hb
      have hlow : ¬(t.lord.leagueCleared = true ∧ 5 ≤ t.lord.e4Progress) := by
        have := h.lord.e4
        omega
      rw [if_neg hlow]
      exact ⟨h.advances, by rw [hp]; simp, by simp, fun _ _ => hf⟩

theorem lawful_gym (h : t.Sound) (hp : t.pendingRematchGym = none) (g : Fin 8) :
    t.Lawful (t.gymFightGym g) := by
  unfold gymFightGym
  split
  · exact h.quiet hp
  split
  · exact h.quiet hp
  case isFalse hl =>
    have hu : t.lord.lordGymUnlocked g = true := by simpa using hl
    split
    · split
      · refine ⟨h.progressOnly (update_le h.lord.gyms (Nat.zero_le _)), by rw [hp]; simp, ?_, by simp⟩
        intro g' i hg
        cases hg
        exact hu
      · refine ⟨⟨⟨h.lord, h.saved, h.agrees⟩, .refl⟩, ?_, by simp, by simp⟩
        intro g' hg
        cases hg
        exact hu
    · refine ⟨h.advances, by rw [hp]; simp, ?_, by simp⟩
      intro g' i hg
      cases hg
      exact hu

theorem lawful_gymFight (h : t.Sound) (hp : t.pendingRematchGym = none) (n : ℕ) :
    t.Lawful (t.gymFight n) := by
  unfold gymFight
  split
  · split
    · exact lawful_gym h hp _
    · split
      · exact lawful_e4 h hp
      · exact h.quiet hp
  · split
    · exact lawful_gym h hp _
    · split
      · exact lawful_e4 h hp
      · exact h.quiet hp

theorem lawful_line (h : t.Sound)
    (hr : ∀ g, t.pendingRematchGym = some g → t.lord.lordGymUnlocked g = true) (l : Line) :
    t.Lawful (t.executeLine l) := by
  unfold executeLine
  cases hp : t.pendingRematchGym with
  | some g =>
    refine ⟨⟨⟨h.lord, h.saved, h.agrees⟩, .refl⟩, by simp [rematch], ?_, ?_⟩
    · intro g' i hg
      unfold rematch at hg
      dsimp only at hg
      split at hg <;> cases hg
      exact hr g hp
    · intro m hm
      unfold rematch at hm
      dsimp only at hm
      split at hm <;> cases hm
  | none =>
    cases l with
    | gymFight n => exact lawful_gymFight h hp n
    | explore =>
      refine ⟨h.advances, by rw [hp]; simp, ?_, ?_⟩ <;> dsimp only <;> split <;> simp
    | fight =>
      refine ⟨h.advances, by rw [hp]; simp, ?_, ?_⟩ <;> dsimp only <;> split <;> simp
    | other yes => exact h.quiet hp

theorem Sound.report (h : t.Sound) {e : StagedEnd}
    (hg : ∀ g i won, e = .gym g i won → t.lord.lordGymUnlocked g = true)
    (he : ∀ m won, e = .e4 m won → t.lord.badges = 0xFF) : t.Advances (League.report t e) := by
  cases e with
  | gym g i won => exact h.gymEnded (hg g i won rfl)
  | explore lvl won => exact h.exploreEnded
  | e4 m won => exact h.e4Ended (he m won rfl)
  | fight => exact h.advances

end Terminal

namespace League

variable {s s' : League} {g : Fin 8}

/-- A fight with this gym is asked for, on, over or waits for an answer. -/
def ForGym (s : League) (g : Fin 8) : Prop :=
  s.terminal.pendingRematchGym = some g ∨ s.gymBattle = some g ∨ s.activeGymBattle = some g ∨
    ∃ i won, s.staged = some (.gym g i won)

/-- The same for the Elite Four. -/
def ForE4 (s : League) : Prop :=
  (∃ m, s.e4Member = some m) ∨ (∃ m, s.activeE4Member = some m) ∨ ∃ m won, s.staged = some (.e4 m won)

/-- Progress is sound and what is fought for is open. -/
structure Gated (s : League) : Prop where
  sound : s.terminal.Sound
  gyms : ∀ g, s.ForGym g → s.terminal.lord.lordGymUnlocked g = true
  e4 : s.ForE4 → s.terminal.lord.badges = 0xFF

/-- `s'` is gated and has lost nothing of `s`. -/
def Leads (s s' : League) : Prop := s'.Gated ∧ s.terminal.lord.Kept s'.terminal.lord

theorem Gated.leads (h : s.Gated) (ha : s.terminal.Advances s'.terminal)
    (hg : ∀ g, s'.ForGym g → s.ForGym g ∨ s.terminal.lord.lordGymUnlocked g = true)
    (he : s'.ForE4 → s.ForE4 ∨ s.terminal.lord.badges = 0xFF) : s.Leads s' := by
  obtain ⟨hsound, hkept⟩ := ha
  refine ⟨⟨hsound, fun g hs => hkept.unlocked ?_, fun hs => hkept.full h.sound.lord hsound.lord ?_⟩, hkept⟩
  · exact (hg g hs).elim (h.gyms g) id
  · exact (he hs).elim h.e4 id

theorem Leads.trans {s'' : League} (h : s.Leads s') (h' : s'.Leads s'') : s.Leads s'' :=
  ⟨h'.1, h.2.trans h'.2⟩

theorem gated_booted {l : LordSave} (hl : l.WellFormed) : (booted l).Gated := by
  refine ⟨⟨hl, hl, ⟨rfl, rfl, rfl, rfl, rfl⟩⟩, ?_, ?_⟩
  · rintro g (h | h | h | ⟨i, won, h⟩) <;> cases h
  · rintro (⟨m, h⟩ | ⟨m, h⟩ | ⟨m, won, h⟩) <;> cases h

theorem leads_line (h : s.Gated) (l : Line) : s.Leads (s.executeLine l) := by
  have hlaw := Terminal.lawful_line h.sound (fun g hg => h.gyms g (.inl hg)) l
  unfold executeLine
  rcases hr : s.terminal.executeLine l with ⟨t, req⟩
  rw [hr] at hlaw
  obtain ⟨ha, hrematch, hgym, he4⟩ := hlaw
  dsimp only at ha hrematch hgym he4 ⊢
  cases req with
  | none =>
    refine h.leads ha ?_ fun he => .inl he
    rintro g (hg | hg)
    · exact .inr (hrematch g hg)
    · exact .inl (.inr hg)
  | some r =>
    cases r with
    | gym g' i =>
      refine h.leads ha ?_ fun he => .inl he
      rintro g (hg | hg | hg)
      · exact .inr (hrematch g hg)
      · cases hg
        exact .inr (hgym g' i rfl)
      · exact .inl (.inr (.inr hg))
    | e4 m =>
      refine h.leads ha ?_ fun _ => .inr (he4 m rfl)
      rintro g (hg | hg)
      · exact .inr (hrematch g hg)
      · exact .inl (.inr hg)
    | explore r =>
      refine h.leads ha ?_ fun he => .inl he
      rintro g (hg | hg)
      · exact .inr (hrematch g hg)
      · exact .inl (.inr hg)
    | fight =>
      refine h.leads ha ?_ fun he => .inl he
      rintro g (hg | hg)
      · exact .inr (hrematch g hg)
      · exact .inl (.inr hg)

theorem activate_cases (s : League) (lvl : ℕ) :
    (∃ m, s.e4Member = some m ∧ s.activate lvl = { s with activeE4Member := some m }) ∨
    s.activate lvl = { s with activeExplore := some lvl } ∨
    (∃ g, s.gymBattle = some g ∧
      s.activate lvl = { s with activeGymBattle := some g, activeGymTrainer := s.gymTrainer }) ∨
    s.activate lvl = s := by
  unfold activate
  rcases he : s.e4Member with _ | m
  · rcases hx : s.exploreRoute with _ | r
    · rcases hg : s.gymBattle with _ | g
      · exact .inr (.inr (.inr rfl))
      · exact .inr (.inr (.inl ⟨g, rfl, rfl⟩))
    · exact .inr (.inl rfl)
  · exact .inl ⟨m, rfl, rfl⟩

theorem leads_activate (h : s.Gated) (lvl : ℕ) : s.Leads (s.activate lvl) := by
  rcases activate_cases s lvl with ⟨m, hm, ha⟩ | ha | ⟨g, hg, ha⟩ | ha <;> rw [ha]
  · exact h.leads h.sound.advances (fun _ => .inl) fun _ => .inl (.inl ⟨m, hm⟩)
  · exact h.leads h.sound.advances (fun _ => .inl) .inl
  · refine h.leads h.sound.advances ?_ .inl
    rintro g' (hg' | hg' | hg' | hg')
    · exact .inl (.inl hg')
    · exact .inl (.inr (.inl hg'))
    · cases hg'
      exact .inl (.inr (.inl hg))
    · exact .inl (.inr (.inr (.inr hg')))
  · exact ⟨h, .refl⟩

theorem leads_start (h : s.Gated) (lvl : ℕ) : s.Leads (s.start lvl) := by
  unfold start
  split
  · obtain ⟨hgated, hkept⟩ := leads_activate h lvl
    refine Leads.trans ⟨hgated, hkept⟩ (hgated.leads hgated.sound.advances ?_ ?_)
    · rintro g (hg | hg | hg)
      · exact .inl (.inl hg)
      · cases hg
      · exact .inl (.inr (.inr hg))
    · rintro (⟨m, hm⟩ | hm)
      · cases hm
      · exact .inl (.inr hm)
  · exact ⟨h, .refl⟩

/-- What is over was on, and stays what it was for. -/
theorem leads_close (h : s.Gated) {e : Option StagedEnd}
    (hg : ∀ g i won, e = some (.gym g i won) → s.terminal.lord.lordGymUnlocked g = true)
    (he : ∀ m won, e = some (.e4 m won) → s.terminal.lord.badges = 0xFF) : s.Leads (s.close e) := by
  refine h.leads h.sound.advances ?_ ?_
  · rintro g (hg' | hg' | hg' | ⟨i, won, hst⟩)
    · exact .inl (.inl hg')
    · exact .inl (.inr (.inl hg'))
    · exact .inl (.inr (.inr (.inl hg')))
    · change (e <|> s.staged <|> some .fight) = some (.gym g i won) at hst
      rcases e with _ | e
      · rcases hs : s.staged with _ | e'
        · rw [hs] at hst
          cases hst
        · rw [hs] at hst
          exact .inl (.inr (.inr (.inr ⟨i, won, hs.trans hst⟩)))
      · exact .inr (hg g i won hst)
  · rintro (he' | he' | ⟨m, won, hst⟩)
    · exact .inl (.inl he')
    · exact .inl (.inr (.inl he'))
    · change (e <|> s.staged <|> some .fight) = some (.e4 m won) at hst
      rcases e with _ | e
      · rcases hs : s.staged with _ | e'
        · rw [hs] at hst
          cases hst
        · rw [hs] at hst
          exact .inl (.inr (.inr ⟨m, won, hs.trans hst⟩))
      · exact .inr (he m won hst)

theorem leads_gymEnded (h : s.Gated) {won : Bool} (ha : s.activeGymBattle = some g) :
    s.Leads (s.gymEnded g won) := by
  unfold gymEnded
  split
  · exact h.leads h.sound.advances (fun _ => .inl) .inl
  · have hoff : s.Leads { s with activeGymBattle := none } := by
      refine h.leads h.sound.advances ?_ .inl
      rintro g' (hg | hg | hg | hg)
      · exact .inl (.inl hg)
      · exact .inl (.inr (.inl hg))
      · cases hg
      · exact .inl (.inr (.inr (.inr hg)))
    refine hoff.trans (leads_close hoff.1 ?_ nofun)
    intro g' i w hg
    cases hg
    exact h.gyms g (.inr (.inr (.inl ha)))

theorem leads_e4Ended (h : s.Gated) {m : Fin 5} {won : Bool} (ha : s.activeE4Member = some m) :
    s.Leads (s.e4Ended m won) := by
  have hfull : s.terminal.lord.badges = 0xFF := h.e4 (.inr (.inl ⟨m, ha⟩))
  unfold e4Ended
  split
  · exact h.leads h.sound.advances (fun _ => .inl) fun _ => .inr hfull
  · have hoff : s.Leads { s with activeE4Member := none } := by
      refine h.leads h.sound.advances (fun _ => .inl) ?_
      rintro (he | ⟨m', he⟩ | he)
      · exact .inl (.inl he)
      · cases he
      · exact .inl (.inr (.inr he))
    exact hoff.trans (leads_close hoff.1 nofun fun _ _ _ => hfull)

theorem leads_ended (h : s.Gated) (won : Bool) (bbs : BbsBranch) : s.Leads (s.ended won bbs) := by
  unfold ended
  split
  · exact ⟨h, .refl⟩
  rcases hg : s.activeGymBattle with _ | g
  · rcases hx : s.activeExplore with _ | lvl
    · cases bbs with
      | keeps => exact ⟨h, .refl⟩
      | ends => exact leads_close h nofun nofun
      | off =>
        rcases he : s.activeE4Member with _ | m
        · exact leads_close h nofun nofun
        · exact leads_e4Ended h he
    · have hoff : s.Leads { s with activeGymBattle := none, activeExplore := none } := by
        rw [← hg]
        exact h.leads h.sound.advances (fun _ => .inl) .inl
      exact hoff.trans (leads_close hoff.1 (by simp) (by simp))
  · exact leads_gymEnded h hg

theorem leads_consume (h : s.Gated) : s.Leads s.consume := by
  unfold consume
  rcases hs : s.staged with _ | e
  · exact ⟨h, .refl⟩
  · have hadv : s.terminal.Advances (report s.terminal e) := by
      refine h.sound.report ?_ ?_
      · rintro g i won rfl
        exact h.gyms g (.inr (.inr (.inr ⟨i, won, hs⟩)))
      · rintro m won rfl
        exact h.e4 (.inr (.inr ⟨m, won, hs⟩))
    have hsame : (report s.terminal e).pendingRematchGym = s.terminal.pendingRematchGym :=
      (report_rest _ e).2
    refine h.leads hadv ?_ ?_
    · rintro g (hg | hg | hg | ⟨i, won, hg⟩)
      · exact .inl (.inl (hsame.symm.trans hg))
      · exact .inl (.inr (.inl hg))
      · exact .inl (.inr (.inr (.inl hg)))
      · cases hg
    · rintro (he | he | ⟨m, won, he⟩)
      · exact .inl (.inl he)
      · exact .inl (.inr (.inl he))
      · cases he

theorem leads_opened (h : s.Gated) (epoch : ℕ) : s.Leads (s.step (.opened epoch)) := by
  have hadv : s.terminal.Advances
      { s.terminal with lord := s.terminal.lord.lordApplyDailyReset epoch (-4) } := by
    rcases dailyReset_cases s.terminal.lord epoch (-4) with he | ⟨n, he⟩ <;> rw [he]
    · exact h.sound.advances
    · exact ⟨⟨{ h.sound.lord with }, h.sound.saved, { h.sound.agrees with }⟩,
        fun _ => id, fun _ => le_rfl, le_rfl, le_rfl, id⟩
  exact h.leads hadv (fun _ => .inl) .inl

theorem leads_step (h : s.Gated) (e : LeagueEvent) : s.Leads (s.step e) := by
  cases e with
  | party loaded =>
    exact h.leads ⟨⟨h.sound.lord, h.sound.saved, h.sound.agrees⟩, .refl⟩ (fun _ => .inl) .inl
  | line l => exact leads_line h l
  | start lvl => exact leads_start h lvl
  | ended won bbs => exact leads_ended h won bbs
  | consume => exact leads_consume h
  | opened epoch => exact leads_opened h epoch
  | others active => exact h.leads h.sound.advances (fun _ => .inl) .inl
  | reboot => exact ⟨gated_booted h.sound.saved, h.sound.agrees.symm.kept⟩

theorem leads_run (h : s.Gated) (es : List LeagueEvent) : s.Leads (Walk.run step s es) :=
  Walk.run_keeps (P := s.Leads) (fun _ e hs => hs.trans (leads_step hs.1 e)) ⟨h, .refl⟩

/-- Whatever is typed, fought, won, lost and rebooted: progress is well formed in memory and on flash, and
no badge, tier or flag is lost again. -/
theorem progress_wellFormed (es es' : List LeagueEvent) :
    (Walk.run step fresh es).terminal.lord.WellFormed ∧
      (Walk.run step fresh es).terminal.saved.WellFormed ∧
      (Walk.run step fresh es).terminal.lord.Kept (Walk.run step fresh (es ++ es')).terminal.lord := by
  have hrun : (Walk.run step fresh es).Gated := (leads_run (gated_booted wellFormed_default) es).1
  refine ⟨hrun.sound.lord, hrun.sound.saved, ?_⟩
  rw [Walk.run_append]
  exact (leads_run hrun es').2

end League

end MonsterMesh
