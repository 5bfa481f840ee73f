import MonsterMesh.Battle.Cases
import MonsterMesh.Engine.Disable

/-! What the keys of a device submit for its mon: only what the menus offer. -/
namespace MonsterMesh

open Fallible

namespace TextBattle

variable {t t' u : TextBattle} {env : Env} {c : UInt8}

/-- A key of the menus changes the screen, or submits an action that the menus offer. -/
inductive Chooses (t : TextBattle) (env : Env) (t' : TextBattle) : Prop
  | shown (h : t.Shows t')
  | chosen (u : TextBattle) (a : UInt8 × UInt8) (hu : t.Shows u) (ha : (t.engine.p .zero).KeyChoice a)
      (h : t' = u.submitOwn env a.1 a.2)

theorem Shows.engine (h : t.Shows u) : u.engine = t.engine := (congrArg (fun t : TextBattle => t.engine) h :)

theorem keySwitch_chooses (h : t.keySwitch env c = .ok t') : t.Chooses env t' := by
  unfold keySwitch at h
  dsimp only at h
  split_ifs at h with h₁ h₂ h₃ h₄ h₅ h₆
  · obtain ⟨i, _, rfl⟩ := map_eq_ok.mp h
    exact .shown rfl
  · obtain ⟨i, _, rfl⟩ := map_eq_ok.mp h
    exact .shown rfl
  · obtain ⟨i, _, rfl⟩ := map_eq_ok.mp h
    exact .shown rfl
  · obtain ⟨i, _, rfl⟩ := map_eq_ok.mp h
    exact .shown rfl
  · cases h
    exact .chosen t (1, _) rfl (.inr (.inl ⟨rfl, t.switchCursor, rfl, h₆⟩)) rfl
  · cases h
    exact .shown rfl
  · cases h
    exact .shown rfl
  · cases h
    exact .shown rfl

theorem chooseMove_chooses (hu : t.Shows u) : t.Chooses env (u.chooseMove env) := by
  have hshown (l : String) : t.Shows (u.appendLog l) := by
    rw [hu]
    rfl
  unfold chooseMove
  dsimp only
  rw [hu.engine]
  split_ifs with hwait hany hempty hdisabled
  · exact .shown (hshown _)
  · exact .shown hu
  · exact .shown (hshown _)
  · obtain ⟨hmove, hpp⟩ := not_or.mp hempty
    exact .chosen u (0, _) hu (.inl ⟨rfl, .inr ⟨u.cursor, rfl, hmove, hpp, hdisabled⟩⟩) rfl
  · exact .chosen u (0, _) hu (.inl ⟨rfl, .inl ⟨rfl, hany⟩⟩) rfl

theorem keyAction_chooses : t.Chooses env (t.keyAction env c) := by
  unfold keyAction openSwitch
  dsimp only
  split_ifs
  · exact chooseMove_chooses rfl
  · exact .shown rfl
  · exact .shown rfl
  · exact .shown rfl
  · exact .shown rfl
  · exact chooseMove_chooses rfl
  · exact .shown rfl
  · exact .shown rfl
  · exact .shown rfl

/-- In the menus no key submits the disabled slot. -/
theorem menu_chooses (hp : t.phase = .waitAction ∨ t.phase = .waitSwitch) (hc : c ≠ 27)
    (h : t.handleKey env c = .ok t') : t.mode = .off ∧ t' = t ∨ t.Chooses env t' := by
  have hphase : t.phase ≠ .finished ∧ t.phase ≠ .waitChallengeOverlay ∧
      ¬ (t.phase = .waitRemote ∨ t.phase = .animating ∨ t.phase = .waitPeerReady) ∧ t.phase ≠ .waitFlee := by
    rcases hp with hp | hp <;> rw [hp] <;> decide
  unfold handleKey at h
  by_cases hm : t.mode = .off
  · rw [if_pos hm] at h
    cases h
    exact .inl ⟨hm, rfl⟩
  rw [if_neg hm, if_neg hphase.1, if_neg hphase.2.1, if_neg hc, if_neg hphase.2.2.1, if_neg hphase.2.2.2] at h
  right
  split_ifs at h
  · cases h
    exact .shown rfl
  · exact keySwitch_chooses h
  · cases h
    exact keyAction_chooses
  · cases h
    exact .shown rfl

end TextBattle
end MonsterMesh
