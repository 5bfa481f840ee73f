import MonsterMesh.League.State

/-! Where a lost gauntlet is taken up again. -/
namespace MonsterMesh

/-- The gauntlets of the league. -/
inductive Challenge where
  | gym (gymIdx : Fin 8)
  | plateau
deriving DecidableEq, Repr

namespace Challenge

/-- Its number in `gym fight`. -/
def number : Challenge → ℕ
  | .gym g => g.val + 1
  | .plateau => 9

def stored (l : LordSave) : Challenge → ℕ
  | .gym g => l.gymProgress g
  | .plateau => l.e4Progress

/-- A gym that is unlocked and whose badge is not held, or the Plateau with all badges. -/
def Open (l : LordSave) : Challenge → Prop
  | .gym g => l.lordGymUnlocked g = true ∧ l.lordHasBadge g = false
  | .plateau => l.badges = 0xFF

instance (l : LordSave) : ∀ c : Challenge, Decidable (c.Open l)
  | .gym _ => inferInstanceAs (Decidable (_ ∧ _))
  | .plateau => inferInstanceAs (Decidable (_ = _))

def request : Challenge → Fin 5 → FightRequest
  | .gym g => .gym g
  | .plateau => .e4

def ending : Challenge → Fin 5 → Bool → StagedEnd
  | .gym g => .gym g
  | .plateau => .e4

/-- The line is typed and the battle comes up. -/
def enter (c : Challenge) (wildLevel : ℕ) : List LeagueEvent :=
  [.line (.gymFight c.number), .start wildLevel]

/-- So many opponents are beaten and the next one wins. -/
def attempt (c : Challenge) (wildLevel wins : ℕ) : List LeagueEvent :=
  c.enter wildLevel ++ List.replicate wins (.ended true .off) ++ [.ended false .off, .consume]

/-- What a loss leaves stored. -/
def afterLoss (c : Challenge) (l : LordSave) (i : Fin 5) : ℕ :=
  match c with
  | .gym g => max (l.gymProgress g) i.val
  | .plateau => l.e4Progress

end Challenge

namespace League

/-- Whom the player fights. -/
def opponent (s : League) : Option (Challenge × Fin 5) :=
  if s.textBattleActive = false then none
  else match s.activeGymBattle, s.activeExplore with
    | some g, _ => some (.gym g, s.activeGymTrainer)
    | none, none => s.activeE4Member.map fun m => (.plateau, m)
    | none, some _ => none

/-- A party is loaded; nothing is asked for, left over or to be answered. -/
structure Clear (s : League) : Prop where
  party : s.terminal.partyLoaded = true
  rematch : s.terminal.pendingRematchGym = none
  start : s.textBattleStartReq = false
  gym : s.gymBattle = none
  route : s.exploreRoute = none
  e4 : s.e4Member = none
  explore : s.activeExplore = none
  staged : s.staged = none

/-- And nothing is fought. -/
structure Idle (s : League) : Prop extends Clear s where
  active : s.textBattleActive = false
  activeGym : s.activeGymBattle = none
  activeE4 : s.activeE4Member = none

variable {s : League} {c : Challenge} {i : Fin 5} {lvl : ℕ}

def Fights (s : League) (c : Challenge) (i : Fin 5) : Prop :=
  s.Clear ∧ s.textBattleActive = true ∧
    match c with
    | .gym g => s.activeGymBattle = some g ∧ s.activeGymTrainer = i ∧ s.activeE4Member = none
    | .plateau => s.activeGymBattle = none ∧ s.activeE4Member = some i

theorem Fights.opponent (h : s.Fights c i) : s.opponent = some (c, i) := by
  obtain ⟨hclear, hactive, hon⟩ := h
  unfold League.opponent
  rw [if_neg (by simp [hactive]), hclear.explore]
  cases c with
  | gym g =>
    obtain ⟨hg, rfl, -⟩ := hon
    rw [hg]
  | plateau =>
    obtain ⟨hg, hm⟩ := hon
    rw [hg, hm]
    rfl

theorem enter_request (h : s.Idle) (ho : c.Open s.terminal.lord) (hp : c.stored s.terminal.lord ≤ 4) :
    s.terminal.executeLine (.gymFight c.number) =
      (s.terminal, some (c.request (startIdx (c.stored s.terminal.lord)))) := by
  unfold Terminal.executeLine
  rw [h.rematch]
  dsimp only
  unfold Terminal.gymFight
  cases c with
  | gym g =>
    have hg := g.isLt
    rw [if_neg (show Challenge.number (.gym g) ≠ 0 from Nat.succ_ne_zero _),
      dif_pos (show Challenge.number (.gym g) ≤ 8 from hg)]
    change s.terminal.gymFightGym g = _
    unfold Terminal.gymFightGym
    rw [if_neg (by simp [h.party]), if_neg (by simp [ho.1]), if_neg (by simp [ho.2])]
    rfl
  | plateau =>
    change s.terminal.gymFightE4 = _
    have hlow : ¬(s.terminal.lord.leagueCleared = true ∧ 5 ≤ s.terminal.lord.e4Progress) := by
      change s.terminal.lord.e4Progress ≤ 4 at hp
      omega
    unfold Terminal.gymFightE4
    rw [if_neg (by simp [h.party]), if_neg (not_not.mpr (show s.terminal.lord.badges = 0xFF from ho)),
      if_neg hlow]
    rfl

theorem activate_gym {g : Fin 8} (he : s.e4Member = none) (hx : s.exploreRoute = none)
    (hg : s.gymBattle = some g) : s.activate lvl =
      { s with activeGymBattle := some g, activeGymTrainer := s.gymTrainer } := by
  unfold activate
  simp only [he, hx, hg]

/-- The slots are given back once the battle is up. -/
def launched (s : League) : League :=
  { s with
    textBattleStartReq := false, gymBattle := none, exploreRoute := none, e4Member := none
    textBattleActive := true }

theorem start_of (hreq : s.textBattleStartReq = true) (hactive : s.textBattleActive = false) :
    s.start lvl = (s.activate lvl).launched := if_pos ⟨hreq, hactive⟩

/-- From rest the gauntlet begins at the stored opponent. -/
theorem enter_fights (h : s.Idle) (ho : c.Open s.terminal.lord) (hp : c.stored s.terminal.lord ≤ 4)
    (lvl : ℕ) :
    (Walk.run step s (c.enter lvl)).Fights c (startIdx (c.stored s.terminal.lord)) ∧
      (Walk.run step s (c.enter lvl)).terminal = s.terminal := by
  have hreq := enter_request h ho hp
  have hline : s.executeLine (.gymFight c.number) =
      s.request (c.request (startIdx (c.stored s.terminal.lord))) := by
    unfold executeLine
    rw [hreq]
  change ((s.executeLine (.gymFight c.number)).start lvl).Fights c _ ∧
    ((s.executeLine (.gymFight c.number)).start lvl).terminal = _
  rw [hline, start_of (s := s.request _) (by cases c <;> rfl) (by cases c <;> exact h.active)]
  cases c with
  | gym g =>
    have hact : (s.request (Challenge.request (.gym g)
        (startIdx (Challenge.stored s.terminal.lord (.gym g))))).activate lvl = _ :=
      activate_gym h.e4 h.route rfl
    rw [hact]
    exact ⟨⟨⟨h.party, h.rematch, rfl, rfl, rfl, rfl, h.explore, h.staged⟩, rfl, rfl, rfl, h.activeE4⟩, rfl⟩
  | plateau =>
    exact ⟨⟨⟨h.party, h.rematch, rfl, rfl, rfl, rfl, h.explore, h.staged⟩, rfl, h.activeGym, rfl⟩, rfl⟩

theorem ended_gym {g : Fin 8} {won : Bool} {bbs : BbsBranch} (hactive : s.textBattleActive = true)
    (hg : s.activeGymBattle = some g) : s.ended won bbs = s.gymEnded g won := by
  unfold ended
  rw [if_neg (by simp [hactive])]
  simp only [hg]

theorem ended_e4 {m : Fin 5} {won : Bool} (hactive : s.textBattleActive = true)
    (hg : s.activeGymBattle = none) (hx : s.activeExplore = none) (hm : s.activeE4Member = some m) :
    s.ended won .off = s.e4Ended m won := by
  unfold ended
  rw [if_neg (by simp [hactive])]
  simp only [hg, hx, hm]

/-- A win chains to the next opponent. -/
theorem win_fights (h : s.Fights c i) (hi : i.val < 4) :
    (s.step (.ended true .off)).Fights c ⟨i.val + 1, by omega⟩ ∧
      (s.step (.ended true .off)).terminal = s.terminal := by
  obtain ⟨hclear, hactive, hon⟩ := h
  change (s.ended true .off).Fights c _ ∧ (s.ended true .off).terminal = _
  cases c with
  | gym g =>
    obtain ⟨hg, rfl, he⟩ := hon
    rw [ended_gym hactive hg]
    unfold gymEnded
    rw [dif_pos ⟨rfl, hi⟩]
    exact ⟨⟨{ hclear with }, hactive, hg, rfl, he⟩, rfl⟩
  | plateau =>
    obtain ⟨hg, hm⟩ := hon
    rw [ended_e4 hactive hg hclear.explore hm]
    unfold e4Ended
    rw [dif_pos ⟨rfl, hi⟩]
    exact ⟨⟨{ hclear with }, hactive, hg, rfl⟩, rfl⟩

theorem wins_fight {n : ℕ} (h : s.Fights c i) (hn : i.val + n < 5) :
    (Walk.run step s (List.replicate n (.ended true .off))).Fights c ⟨i.val + n, hn⟩ ∧
      (Walk.run step s (List.replicate n (.ended true .off))).terminal = s.terminal := by
  induction n with
  | zero => exact ⟨h, rfl⟩
  | succ n ih =>
    obtain ⟨hf, ht⟩ := ih (by omega)
    obtain ⟨hf', ht'⟩ := win_fights hf (show i.val + n < 4 by omega)
    rw [List.replicate_succ', Walk.run_concat]
    exact ⟨hf', ht'.trans ht⟩

/-- A loss is reported, and the device is at rest again. -/
theorem loss_idle (h : s.Fights c i) :
    (Walk.run step s [.ended false .off, .consume]).Idle ∧
      (Walk.run step s [.ended false .off, .consume]).terminal =
        report s.terminal (c.ending i false) := by
  obtain ⟨hclear, hactive, hon⟩ := h
  change (s.ended false .off).consume.Idle ∧ (s.ended false .off).consume.terminal = _
  cases c with
  | gym g =>
    obtain ⟨hg, rfl, he⟩ := hon
    rw [ended_gym hactive hg]
    unfold gymEnded
    rw [dif_neg (by simp)]
    have hsame := report_rest s.terminal (.gym g s.activeGymTrainer false)
    exact ⟨⟨⟨hsame.1.trans hclear.party, hsame.2.trans hclear.rematch, hclear.start, hclear.gym,
      hclear.route, hclear.e4, hclear.explore, rfl⟩, rfl, rfl, he⟩, rfl⟩
  | plateau =>
    obtain ⟨hg, hm⟩ := hon
    rw [ended_e4 hactive hg hclear.explore hm]
    unfold e4Ended
    rw [dif_neg (by simp)]
    exact ⟨⟨⟨hclear.party, hclear.rematch, hclear.start, hclear.gym, hclear.route, hclear.e4,
      hclear.explore, rfl⟩, rfl, hg, rfl⟩, rfl⟩

theorem loss_stored (t : Terminal) (c : Challenge) (i : Fin 5) :
    c.stored (report t (c.ending i false)).lord = c.afterLoss t.lord i ∧
      (c.Open t.lord → c.Open (report t (c.ending i false)).lord) := by
  cases c with
  | gym g =>
    change (t.onGymBattleEnded g i false).lord.gymProgress g = max _ _ ∧
      (_ → Challenge.Open (t.onGymBattleEnded g i false).lord _)
    unfold Terminal.onGymBattleEnded
    rw [if_pos rfl]
    split
    case isTrue hi =>
      refine ⟨?_, id⟩
      change Function.update t.lord.gymProgress g i.val g = _
      rw [Function.update_self]
      omega
    case isFalse hi =>
      refine ⟨?_, id⟩
      omega
  | plateau => exact ⟨rfl, id⟩

theorem afterLoss_eq_iff {l : LordSave} {k : Fin 5} (hk : c.stored l ≤ k.val) :
    c.afterLoss l k = k.val ↔ c ≠ .plateau ∨ k.val = c.stored l := by
  cases c with
  | gym g =>
    refine iff_of_true ?_ (.inl nofun)
    exact Nat.max_eq_right hk
  | plateau =>
    change l.e4Progress = k.val ↔ _ ∨ k.val = l.e4Progress
    constructor
    · exact fun h => .inr h.symm
    · rintro (h | h)
      · exact absurd rfl h
      · exact h.symm

/-- The device has stored `k`, and begins there when it is asked for the gauntlet again. -/
def ResumesAt (s : League) (c : Challenge) (k : Fin 5) : Prop :=
  c.stored s.terminal.lord = k.val ∧ ∀ lvl, (Walk.run step s (c.enter lvl)).opponent = some (c, k)

/-- From rest, the opponents from the stored one to `k` are fought one after the other; when `k` wins, it is
where the gauntlet is resumed, but for the Plateau only if `k` was the first. -/
theorem resumes_iff (hidle : s.Idle) (hopen : c.Open s.terminal.lord) (k : Fin 5)
    (hk : c.stored s.terminal.lord ≤ k.val) (lvl : ℕ) :
    (∀ n (hn : c.stored s.terminal.lord + n ≤ k.val),
      (Walk.run step s (c.enter lvl ++ List.replicate n (.ended true .off))).opponent =
        some (c, ⟨c.stored s.terminal.lord + n, by omega⟩)) ∧
    ((Walk.run step s (c.attempt lvl (k.val - c.stored s.terminal.lord))).ResumesAt c k ↔
      c ≠ .plateau ∨ k.val = c.stored s.terminal.lord) := by
  have hk4 := k.isLt
  obtain ⟨hf, ht⟩ := enter_fights hidle hopen (by omega) lvl
  have hstart : (startIdx (c.stored s.terminal.lord)).val = c.stored s.terminal.lord :=
    Nat.min_eq_left (by omega)
  have hwins : ∀ n (hn : c.stored s.terminal.lord + n ≤ k.val),
      (Walk.run step s (c.enter lvl ++ List.replicate n (.ended true .off))).Fights c
        ⟨c.stored s.terminal.lord + n, by omega⟩ ∧
      (Walk.run step s (c.enter lvl ++ List.replicate n (.ended true .off))).terminal = s.terminal := by
    intro n hn
    obtain ⟨hw, hwt⟩ := wins_fight (n := n) hf (by omega)
    rw [Walk.run_append]
    refine ⟨?_, hwt.trans ht⟩
    convert hw using 2
    rw [hstart]
  refine ⟨fun n hn => (hwins n hn).1.opponent, ?_⟩
  obtain ⟨hw, hwt⟩ := hwins (k.val - c.stored s.terminal.lord) (by omega)
  have hlast : (⟨c.stored s.terminal.lord + (k.val - c.stored s.terminal.lord), by omega⟩ : Fin 5) = k :=
    Fin.ext (by change c.stored s.terminal.lord + _ = _; omega)
  rw [hlast] at hw
  obtain ⟨hrest, hend⟩ := loss_idle hw
  rw [hwt] at hend
  rw [← Walk.run_append] at hrest hend
  obtain ⟨hstored, hstays⟩ := loss_stored s.terminal c k
  have hback : (Walk.run step s (c.attempt lvl (k.val - c.stored s.terminal.lord))).Idle := hrest
  have hlord : (Walk.run step s (c.attempt lvl (k.val - c.stored s.terminal.lord))).terminal =
      report s.terminal (c.ending k false) := hend
  rw [← hlord] at hstored hstays
  have hkept : c.afterLoss s.terminal.lord k = k.val ↔ c ≠ .plateau ∨ k.val = c.stored s.terminal.lord :=
    afterLoss_eq_iff hk
  constructor
  · intro hres
    exact hkept.mp (hstored.symm.trans hres.1)
  · intro hcond
    have hsame := hstored.trans (hkept.mpr hcond)
    refine ⟨hsame, fun lvl' => ?_⟩
    have hagain := (enter_fights hback (hstays hopen) (by omega) lvl').1.opponent
    rw [hagain, hsame]
    exact congrArg (fun i => some (c, i)) (Fin.ext (Nat.min_eq_left (by omega)))

/-- A party is loaded on a new device. -/
theorem idle_party : (Walk.run step fresh [.party true]).Idle :=
  ⟨⟨rfl, rfl, rfl, rfl, rfl, rfl, rfl, rfl⟩, rfl, rfl, rfl⟩

theorem resumes_iff_brock :
    (∀ n (hn : Challenge.stored (Walk.run step fresh [.party true]).terminal.lord (.gym 0) + n ≤ 2),
      (Walk.run step (Walk.run step fresh [.party true])
        (Challenge.enter (.gym 0) 0 ++ List.replicate n (.ended true .off))).opponent =
          some (.gym 0, ⟨Challenge.stored (Walk.run step fresh [.party true]).terminal.lord (.gym 0) + n,
            by omega⟩)) ∧
    ((Walk.run step (Walk.run step fresh [.party true]) (Challenge.attempt (.gym 0) 0 2)).ResumesAt
      (.gym 0) 2 ↔ Challenge.gym 0 ≠ .plateau ∨ 2 = 0) :=
  resumes_iff idle_party (by decide) 2 (by decide) 0

/-- A party, and one gym after the other without a loss. -/
def eightBadges : List LeagueEvent :=
  .party true :: (List.finRange 8).flatMap fun g =>
    Challenge.enter (.gym g) 0 ++ List.replicate 5 (.ended true .off) ++ [.consume]

theorem idle_eightBadges : (Walk.run step fresh eightBadges).Idle := by
  refine ⟨⟨?_, ?_, ?_, ?_, ?_, ?_, ?_, ?_⟩, ?_, ?_, ?_⟩ <;> decide +kernel

/-- The first of the Elite Four is beaten, the second wins: the Plateau begins with the first again. -/
theorem plateau_restarts : ¬ ∀ (es : List LeagueEvent) (c : Challenge) (k : Fin 5) (lvl : ℕ),
    (Walk.run step fresh es).Idle → c.Open (Walk.run step fresh es).terminal.lord →
      c.stored (Walk.run step fresh es).terminal.lord ≤ k.val →
        (Walk.run step (Walk.run step fresh es)
          (c.attempt lvl (k.val - c.stored (Walk.run step fresh es).terminal.lord))).ResumesAt c k := by
  intro h
  have hopen : Challenge.plateau.Open (Walk.run step fresh eightBadges).terminal.lord := by decide +kernel
  have hstored : Challenge.plateau.stored (Walk.run step fresh eightBadges).terminal.lord = 0 := by
    decide +kernel
  have hres := h eightBadges .plateau 1 0 idle_eightBadges hopen (by rw [hstored]; exact Nat.zero_le _)
  rw [hstored] at hres
  have hlost : Challenge.plateau.stored (Walk.run step (Walk.run step fresh eightBadges)
      (Challenge.attempt .plateau 0 ((1 : Fin 5).val - 0))).terminal.lord = 0 := by decide +kernel
  have hone := hres.1
  rw [hlost] at hone
  cases hone

end League

end MonsterMesh
