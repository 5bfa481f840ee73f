import MonsterMesh.Battle.Device

/-! What the calls around a turn leave of the engine: all but its parties. -/
namespace MonsterMesh

open Fallible

/-- An engine without its parties. -/
def Engine.bare (e : Engine) : Engine := { e with p := fun _ => .zero }

theorem Engine.result_of_bare {a b : Engine} (h : a.bare = b.bare) : a.result = b.result :=
  (congrArg Engine.result h :)

theorem Engine.turn_of_bare {a b : Engine} (h : a.bare = b.bare) : a.turn = b.turn :=
  (congrArg Engine.turn h :)

theorem Engine.autoReplaceIfFainted_bare (e : Engine) (side : Side) (sink : Bool) :
    (e.autoReplaceIfFainted side sink).2.1.bare = e.bare := by
  unfold autoReplaceIfFainted
  split_ifs
  · rfl
  · split <;> rfl

namespace Scene

variable {s : Scene}

@[simp] theorem engineLog_engine (lines : List CStr) : (s.engineLog lines).engine = s.engine := rfl

@[simp] theorem appendLog_engine (line : CStr) : (s.appendLog line).engine = s.engine := rfl

@[simp] theorem setParty_bare (side : Side) (p : BattleParty) :
    (s.setParty side p).engine.bare = s.engine.bare := rfl

@[simp] theorem trackActive_engine : s.trackActive.engine = s.engine := by
  unfold trackActive
  dsimp only
  split <;> rfl

@[simp] theorem autoReplace_bare (side : Side) :
    (s.autoReplace side).engine.bare = s.engine.bare :=
  s.engine.autoReplaceIfFainted_bare side true

@[simp] theorem handleFaints_bare : s.handleFaints.engine.bare = s.engine.bare := by
  unfold handleFaints
  dsimp only
  split_ifs <;> simp only [autoReplace_bare]

@[simp] theorem inBattleLevelUp_bare (slot : Fin 6) :
    (s.inBattleLevelUp slot).engine.bare = s.engine.bare := by
  unfold inBattleLevelUp
  dsimp only
  split <;> rfl

@[simp] theorem levelUps_bare (slot : Fin 6) (fuel : Nat) :
    (s.levelUps slot fuel).engine.bare = s.engine.bare := by
  induction fuel generalizing s with
  | zero => rfl
  | succ n ih =>
    unfold levelUps
    dsimp only
    split
    · rfl
    · rw [ih, inBattleLevelUp_bare]

@[simp] theorem creditSlot_bare (mask : UInt8) (xp : UInt32) (slot : Fin 6) :
    (s.creditSlot mask xp slot).engine.bare = s.engine.bare := by
  unfold creditSlot
  split
  · rfl
  · rw [levelUps_bare]

theorem foldl_bare {α : Type} (f : Scene → α → Scene)
    (hf : ∀ s a, (f s a).engine.bare = s.engine.bare) (as : List α) :
    (as.foldl f s).engine.bare = s.engine.bare := by
  induction as generalizing s with
  | nil => rfl
  | cons a as ih => exact ih.trans (hf s a)

@[simp] theorem creditFaint_bare (foe : BattlePoke) (mult : UInt32) :
    (s.creditFaint foe mult).engine.bare = s.engine.bare := by
  unfold creditFaint
  exact foldl_bare _ (fun s slot => creditSlot_bare _ _ slot) _

@[simp] theorem creditFaints_bare (pre : Fin 6 → UInt16) (mult : UInt32) :
    (s.creditFaints pre mult).engine.bare = s.engine.bare := by
  refine foldl_bare _ (fun s i => ?_) _
  dsimp only
  split
  · exact creditFaint_bare _ _
  · rfl

end Scene

namespace TextBattle

theorem showOutcome_engine (s : Scene) : (showOutcome s).engine = s.engine := by
  unfold showOutcome
  split <;> rfl

/-- A turn played out is a turn of the engine, up to its parties. -/
theorem playOut_bare {s s' : Scene} (h : playOut s = .ok s') :
    ∃ r, s.engine.executeTurn true = .ok r ∧ s'.engine.bare = r.1.bare := by
  obtain ⟨r, hr, h⟩ := bind_eq_ok.mp h
  cases h
  refine ⟨r, hr, ?_⟩
  rw [Scene.creditFaints_bare, Scene.handleFaints_bare, Scene.engineLog_engine]

end TextBattle
end MonsterMesh
