import MonsterMesh.Gym.Effects

/-! The ring of ladders: what a packet of one node does to its own entry and to the others. -/
namespace MonsterMesh

namespace Gauntlet

variable {g : Gauntlet} {env : GymEnv} {fromId x : UInt32} {i j : Fin 8}

/-- A node with an entry in the ring. -/
def Enrolled (g : Gauntlet) (x : UInt32) : Prop := ∃ i, (g.ladders i).nodeNum = x

instance (g : Gauntlet) (x : UInt32) : Decidable (g.Enrolled x) := Fintype.decidableExistsFintype

/-- No node has two entries, and none is past the leader. -/
structure WellLaddered (g : Gauntlet) : Prop where
  distinct : ∀ i j, (g.ladders i).nodeNum ≠ 0 → (g.ladders i).nodeNum = (g.ladders j).nodeNum → i = j
  low : ∀ i, (g.ladders i).ladderIdx.toNat ≤ 4

/-! ### Lookup -/

/-- Where a packet of a node finds or makes its entry: slot `i` of the ring `L`, at trainer `idx`. -/
inductive Placed (g : Gauntlet) (env : GymEnv) (fromId : UInt32) :
    Fin 8 → (Fin 8 → GauntletLadderProgress) → UInt8 → Prop
  | found {i : Fin 8} (h : (g.ladders i).nodeNum = fromId) :
      Placed g env fromId i g.ladders (g.ladders i).ladderIdx
  | inserted {i : Fin 8} (h : ¬g.Enrolled fromId)
      (hi : ((g.expireLadders env).ladders i).nodeNum = 0 ∨
        ∀ j, ((g.expireLadders env).ladders j).nodeNum ≠ 0) :
      Placed g env fromId i (g.expireLadders env).ladders 0

theorem lookupLadder_cases (h : fromId ≠ 0) :
    (∃ i, g.lookupLadder fromId = some i ∧ (g.ladders i).nodeNum = fromId) ∨
      (g.lookupLadder fromId = none ∧ ¬g.Enrolled fromId) := by
  unfold lookupLadder
  rw [if_neg h]
  cases hf : (List.finRange 8).find? fun i => (g.ladders i).nodeNum = fromId with
  | some i => exact .inl ⟨i, rfl, by simpa using List.find?_some hf⟩
  | none =>
    refine .inr ⟨rfl, fun ⟨i, hi⟩ => ?_⟩
    have hnone := List.find?_eq_none.mp hf i (List.mem_finRange i)
    exact hnone (decide_eq_true hi)

variable (g env) in
/-- A packet of a node writes its entry, and no other. -/
theorem placed (h : fromId ≠ 0) : ∃ i L, Placed g env fromId i L (g.trainerOf env fromId) ∧
    ∀ idx, g.movedLadders env fromId idx = Function.update L i ⟨fromId, idx, env.millis⟩ := by
  rcases lookupLadder_cases (g := g) h with ⟨i, hl, hi⟩ | ⟨hl, hi⟩
  · have hr : g.lookupOrInsertLadder env fromId = (some i, g) := by
      unfold lookupOrInsertLadder
      rw [if_neg h, hl]
    have ht : g.trainerOf env fromId = (g.ladders i).ladderIdx := by
      unfold trainerOf
      rw [hr]
      rfl
    refine ⟨i, g.ladders, ht ▸ .found hi, fun idx => ?_⟩
    unfold movedLadders
    rw [hr, ← hi]
    rfl
  · generalize hs : (((List.finRange 8).find? fun i =>
      ((g.expireLadders env).ladders i).nodeNum = 0).getD (g.expireLadders env).oldestLadder) = i
    have hr : g.lookupOrInsertLadder env fromId =
        (some i, (g.expireLadders env).setLadder i ⟨fromId, 0, env.millis⟩) := by
      unfold lookupOrInsertLadder
      rw [if_neg h, hl, ← hs]
    have ht : g.trainerOf env fromId = 0 := by
      unfold trainerOf
      rw [hr]
      simp [setLadder]
    refine ⟨i, (g.expireLadders env).ladders, ht ▸ .inserted hi ?_, fun idx => ?_⟩
    · cases hf : (List.finRange 8).find? fun i => ((g.expireLadders env).ladders i).nodeNum = 0 with
      | some k =>
        rw [hf, Option.getD_some] at hs
        exact .inl (hs ▸ by simpa using List.find?_some hf)
      | none => exact .inr fun j hj =>
          List.find?_eq_none.mp hf j (List.mem_finRange j) (decide_eq_true hj)
    · unfold movedLadders
      rw [hr]
      unfold touchLadder setLadder
      dsimp only
      rw [Function.update_self, Function.update_idem]

/-- Node 0 has no entry: its packets leave the ring alone, and count as of the leader's challenger. -/
theorem placed_zero : g.trainerOf env 0 = 4 ∧ ∀ idx, g.movedLadders env 0 idx = g.ladders := by
  have hr : g.lookupOrInsertLadder env 0 = (none, g) := by
    unfold lookupOrInsertLadder
    rw [if_pos rfl]
  refine ⟨?_, fun idx => ?_⟩
  · unfold trainerOf
    rw [hr]
    rfl
  · unfold movedLadders
    rw [hr]
    rfl

variable (g env) in
/-- A ring after expiry: an entry is as before, or empty. -/
theorem expire_cases (j : Fin 8) : (g.expireLadders env).ladders j = g.ladders j ∨
    ((g.ladders j).nodeNum ≠ 0 ∧ ladderIdleMs < env.millis - (g.ladders j).lastSeenMs ∧
      ((g.expireLadders env).ladders j).nodeNum = 0 ∧
      ((g.expireLadders env).ladders j).ladderIdx = 0) := by
  unfold expireLadders
  dsimp only
  split
  · exact .inl rfl
  · rename_i h
    split
    · rename_i ht
      exact .inr ⟨h, ht, rfl, rfl⟩
    · exact .inl rfl

namespace Placed

variable {L : Fin 8 → GauntletLadderProgress} {idx : UInt8}

/-- An entry of another node that is there afterwards was there before. -/
theorem other (h : Placed g env fromId i L idx) (hj : (L j).nodeNum ≠ 0) : L j = g.ladders j := by
  cases h with
  | found => rfl
  | inserted =>
    rcases expire_cases g env j with he | ⟨-, -, he, -⟩
    · exact he
    · exact absurd he hj

/-- The node has no entry but its own slot. -/
theorem alone (h : Placed g env fromId i L idx) (hg : g.WellLaddered) (hf : fromId ≠ 0)
    (hj : (L j).nodeNum = fromId) : j = i := by
  have hsame := h.other (hj ▸ hf)
  rw [hsame] at hj
  cases h with
  | found h => exact hg.distinct j i (hj ▸ hf) (hj.trans h.symm)
  | inserted h => exact absurd ⟨j, hj⟩ h

theorem low (h : Placed g env fromId i L idx) (hg : g.WellLaddered) (k : Fin 8) :
    (L k).ladderIdx.toNat ≤ 4 := by
  cases h with
  | found => exact hg.low k
  | inserted =>
    rcases expire_cases g env k with he | ⟨-, -, -, he⟩
    · rw [he]
      exact hg.low k
    · rw [he]
      decide

theorem idx_low (h : Placed g env fromId i L idx) (hg : g.WellLaddered) : idx.toNat ≤ 4 := by
  cases h with
  | found => exact hg.low _
  | inserted => decide

/-- The ring stays in order when the node's entry is written. -/
theorem wellLaddered {g' : Gauntlet} {k : UInt8} {t : UInt32} (h : Placed g env fromId i L idx)
    (hg : g.WellLaddered) (hf : fromId ≠ 0) (hk : k.toNat ≤ 4)
    (hg' : g'.ladders = Function.update L i ⟨fromId, k, t⟩) : g'.WellLaddered := by
  refine ⟨fun a b ha hab => ?_, fun a => ?_⟩
  · rw [hg'] at ha hab
    by_cases hai : a = i <;> by_cases hbi : b = i
    · rw [hai, hbi]
    · subst hai
      rw [Function.update_self, Function.update_of_ne hbi] at hab
      exact absurd (h.alone hg hf hab.symm) hbi
    · subst hbi
      rw [Function.update_self, Function.update_of_ne hai] at hab
      exact absurd (h.alone hg hf hab) hai
    · rw [Function.update_of_ne hai] at ha
      rw [Function.update_of_ne hai, Function.update_of_ne hbi] at hab
      have hb : (L b).nodeNum ≠ 0 := hab ▸ ha
      rw [h.other hb, h.other ha] at hab
      rw [h.other ha] at ha
      exact hg.distinct a b ha hab
  · rw [hg']
    by_cases hai : a = i
    · rw [hai, Function.update_self]
      exact hk
    · rw [Function.update_of_ne hai]
      exact h.low hg a

end Placed
end Gauntlet
end MonsterMesh
