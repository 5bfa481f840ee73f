import MonsterMesh.Battle.Decode
import MonsterMesh.Lib.Run

/-! What decoding can touch: the two parties, the log and the recorded win. -/
namespace MonsterMesh

open Fallible Bytes

namespace Scene

variable {α β : Type} {P : Scene → Prop} {s s₀ : Scene}

/-- Every scene a decoder stops with, early or not, satisfies `P`. -/
def Ends (P : Scene → Prop) (scene : α → Scene) : Except Scene α → Prop
  | .ok a => P (scene a)
  | .error s => P s

theorem Ends.ok {a : α} {scene : α → Scene} (h : P (scene a)) : Ends P scene (.ok a) := h

theorem Ends.scan {rest : List UInt8} (h : P s) :
    Ends P Prod.fst (.ok (s, rest) : Scan) := h

theorem Ends.error {scene : α → Scene} (h : P s) : Ends P scene (.error s) := h

theorem Ends.bind {x : Except Scene α} {f : α → Except Scene β} {sa : α → Scene} {sb : β → Scene}
    (hx : Ends P sa x) (hf : ∀ a, P (sa a) → Ends P sb (f a)) : Ends P sb (x >>= f) := by
  cases x with
  | ok a => exact hf a hx
  | error s => exact hx

theorem sectionIf_ends {f : Scene → List UInt8 → Scan} (hf : ∀ s rest, P s → Ends P Prod.fst (f s rest))
    (hs : P s) (flags flag : UInt16) (rest : List UInt8) :
    Ends P Prod.fst (s.sectionIf flags flag f rest) := by
  unfold sectionIf
  split
  · exact hf s rest hs
  · exact .ok hs

/-- `P` is kept by the writes of every section but RESULT. -/
structure Draws (P : Scene → Prop) : Prop where
  party : ∀ s side f, P s → P (s.onParty side f)
  line : ∀ s l, P s → P (s.appendLog l)

/-- `P` is kept by the three writes of the decoder. -/
structure Redraws (P : Scene → Prop) : Prop extends Draws P where
  won : ∀ s, P s → P { s with playerWon := true }

namespace Draws

variable (hP : Draws P)
include hP

theorem applyHp (rest : List UInt8) (hs : P s) : Ends P Prod.fst (s.applyHp rest) := by
  unfold Scene.applyHp
  split
  · exact .scan (hP.party _ _ _ (hP.party _ _ _ hs))
  · exact .error hs

theorem applyPp (rest : List UInt8) (hs : P s) : Ends P Prod.fst (s.applyPp rest) := by
  unfold Scene.applyPp
  split
  · exact .scan (hP.party _ _ _ hs)
  · exact .error hs

theorem applySwitch (rest : List UInt8) (hs : P s) : Ends P Prod.fst (s.applySwitch rest) := by
  unfold Scene.applySwitch
  split
  · exact .scan (hP.party _ _ _ (hP.party _ _ _ hs))
  · exact .error hs

theorem applyStatus (rest : List UInt8) (hs : P s) : Ends P Prod.fst (s.applyStatus rest) := by
  unfold Scene.applyStatus
  split
  · exact .scan (hP.party _ _ _ (hP.party _ _ _ hs))
  · exact .error hs

theorem readLines (n : Nat) (rest : List UInt8) (hs : P s) : P (Scene.readLines n s rest).1 := by
  induction n generalizing s rest with
  | zero => exact hs
  | succ n ih =>
    cases rest with
    | nil => exact hs
    | cons len rest =>
      unfold Scene.readLines
      split
      · exact hs
      · exact ih _ (hP.line _ _ hs)

theorem applyLog (rest : List UInt8) (hs : P s) : Ends P Prod.fst (s.applyLog rest) := by
  unfold Scene.applyLog
  split
  · exact .ok (hP.readLines _ _ hs)
  · exact .error hs

theorem readBench (n i : Nat) (rest : List UInt8) (hs : P s) :
    Ends P Prod.fst (Scene.readBench n i s rest) := by
  induction n generalizing i s rest with
  | zero => exact hs
  | succ n ih =>
    unfold Scene.readBench
    split
    · contradiction
    · rename_i hn
      cases hn
      exact ih _ _ (hP.party _ _ _ hs)
    · exact .error hs

theorem readSide (side : Side) (n i : Nat) (rest : List UInt8) (hs : P s) :
    Ends P Prod.fst (Scene.readSide side n i s rest) := by
  induction n generalizing i s rest with
  | zero => exact hs
  | succ n ih =>
    unfold Scene.readSide
    split
    · contradiction
    · rename_i hn
      cases hn
      exact ih _ _ (hP.party _ _ _ hs)
    · exact .error hs

theorem applyMyBench (rest : List UInt8) (hs : P s) : Ends P Prod.fst (s.applyMyBench rest) := by
  unfold Scene.applyMyBench
  split
  · exact hP.readBench _ _ _ hs
  · exact .error hs

theorem applyBoosts (rest : List UInt8) (hs : P s) : Ends P Prod.fst (s.applyBoosts rest) := by
  unfold Scene.applyBoosts
  split
  · exact .scan (hP.party _ _ _ hs)
  · exact .error hs

theorem applyFoeBench (rest : List UInt8) (hs : P s) : Ends P Prod.fst (s.applyFoeBench rest) := by
  unfold Scene.applyFoeBench
  split
  · exact hP.readSide _ _ _ _ hs
  · exact .error hs

theorem applyBench (rest : List UInt8) (hs : P s) : Ends P Prod.fst (s.applyBench rest) := by
  refine (hP.applyMyBench rest hs).bind fun a ha => ?_
  refine (hP.applyBoosts a.2 ha).bind fun b hb => ?_
  exact hP.applyFoeBench b.2 hb

theorem applyFxSide (side : Side) (rest : List UInt8) (hs : P s) :
    Ends P Prod.fst (s.applyFxSide side rest) := by
  unfold Scene.applyFxSide
  split
  · exact .scan (hP.party _ _ _ hs)
  · exact .error hs

theorem applyCounters (rest : List UInt8) (hs : P s) : Ends P Prod.fst (s.applyCounters rest) := by
  unfold Scene.applyCounters
  split
  · exact .scan (hP.party _ _ _ hs)
  · exact .error hs

theorem applyFx (rest : List UInt8) (hs : P s) : Ends P Prod.fst (s.applyFx rest) := by
  refine (hP.applyFxSide .zero rest hs).bind fun a ha => ?_
  refine (hP.applyFxSide .one a.2 ha).bind fun b hb => ?_
  exact hP.applyCounters b.2 hb

theorem readSnapshot (side : Side) (rest : List UInt8) (hs : P s) :
    Ends P Prod.fst (s.readSnapshot side rest) := by
  unfold Scene.readSnapshot
  split
  · exact hP.readSide _ _ _ _ (hP.party _ _ _ hs)
  · exact hs

theorem applySnapshot (rest : List UInt8) (hs : P s) :
    Ends P Prod.fst (s.applySnapshot rest) := by
  refine (hP.readSnapshot .zero rest hs).bind fun a ha => ?_
  refine (hP.readSnapshot .one a.2 ha).bind fun b hb => ?_
  obtain ⟨s, rest⟩ := b
  dsimp only
  split
  · exact .scan (hP.party _ _ _ hb)
  · exact .scan hb

end Draws

namespace Redraws

variable (hP : Redraws P)
include hP

theorem showResult (r : UInt8) (hs : P s) : P (s.showResult r) := by
  unfold Scene.showResult
  split_ifs
  · exact hP.won _ (hP.line _ _ hs)
  · exact hP.line _ _ hs
  · exact hP.line _ _ hs
  · exact hP.line _ _ hs
  · exact hs

theorem applyResult (flags : UInt16) (rest : List UInt8) (hs : P s) :
    Ends P (fun r => r.2.1) (s.applyResult flags rest) := by
  unfold Scene.applyResult
  split
  · split
    · exact hP.showResult _ hs
    · exact hs
  · exact hs

theorem applySections (flags : UInt16) (rest : List UInt8) (hs : P s) :
    Ends P Prod.fst (s.applySections flags rest) := by
  refine (sectionIf_ends (fun s rest => hP.applyHp rest) hs _ _ _).bind fun a ha => ?_
  refine (sectionIf_ends (fun s rest => hP.applyPp rest) ha _ _ _).bind fun b hb => ?_
  refine (sectionIf_ends (fun s rest => hP.applySwitch rest) hb _ _ _).bind fun c hc => ?_
  refine (sectionIf_ends (fun s rest => hP.applyStatus rest) hc _ _ _).bind fun d hd => ?_
  refine (hP.applyResult flags d.2 hd).bind fun e he => ?_
  refine (sectionIf_ends (fun s rest => hP.applyLog rest) he _ _ _).bind fun f hf => ?_
  refine (sectionIf_ends (fun s rest => hP.applyBench rest) hf _ _ _).bind fun g hg => ?_
  exact (sectionIf_ends (fun s rest => hP.applyFx rest) hg _ _ _).bind fun _ hk => hk

end Redraws

/-- Nothing of the engine but its parties, and nothing of the experience, differs. -/
def Redrawn (s₀ s : Scene) : Prop := s.engine = { s₀.engine with p := s.engine.p } ∧ s.xp = s₀.xp

theorem redraws_redrawn (s₀ : Scene) : Redraws (Redrawn s₀) where
  party := by
    rintro s side f ⟨he, hx⟩
    refine ⟨?_, hx⟩
    unfold onParty setParty Engine.setParty
    rw [he]
  line := fun _ _ h => h
  won := fun _ h => h

theorem Redrawn.refl (s : Scene) : s.Redrawn s := ⟨rfl, rfl⟩

theorem Redrawn.result (h : s₀.Redrawn s) : s.engine.result = s₀.engine.result := by rw [h.1]

/-- However an UPDATE is cut or damaged, only the board is redrawn. -/
theorem applySections_redrawn (s : Scene) (flags : UInt16) (rest : List UInt8) :
    Ends s.Redrawn Prod.fst (s.applySections flags rest) :=
  (redraws_redrawn s).applySections flags rest (Redrawn.refl s)

theorem applySnapshot_redrawn (s : Scene) (rest : List UInt8) :
    Ends s.Redrawn Prod.fst (s.applySnapshot rest) :=
  (redraws_redrawn s).applySnapshot rest (Redrawn.refl s)

end Scene
end MonsterMesh
