import MonsterMesh.Dungeon.Effects

/-! A state packet of the host makes the guest's copy what the host has. -/
namespace MonsterMesh

open Bytes Chunks DungeonTrainer DungeonRun Fallible

namespace DungeonTrainer

variable {t u : DungeonTrainer} {s : Fin 6}

theorem has_flags {f : Fin 6 → Bool} {l : List (Fin 6)} {m : UInt8} (j : Fin 6) :
    has (l.foldl (fun a k => if f k then a else a ||| (1 <<< UInt8.ofNat k.val)) m) j.val =
      (has m j.val || l.any fun k => !f k && decide (j = k)) := by
  induction l generalizing m with
  | nil => simp
  | cons k l ih =>
    have hk : (UInt8.ofNat k.val).toNat = k.val := by
      rw [UInt8.toNat_ofNat']
      omega
    rw [List.foldl_cons, ih, List.any_cons]
    cases f k with
    | true => simp
    | false =>
      rw [if_neg (by decide), has_set (by omega), hk]
      simp [Fin.ext_iff, Bool.or_assoc]

/-- The last byte of an entry has the bits of the slots that have not fainted. -/
theorem has_alive (k : Fin 6) : has ((t.entry s).getD 9 0) k.val = !t.slotFainted k := by
  have hget : (t.entry s).getD 9 0 = (List.finRange 6).foldl
      (fun a k => if t.slotFainted k then a else a ||| (1 <<< UInt8.ofNat k.val)) 0 := rfl
  rw [hget, has_flags, has_zero, Bool.false_or]
  cases hf : t.slotFainted k with
  | true =>
    rw [Bool.not_true, List.any_eq_false]
    intro j _
    by_cases hj : k = j
    · subst hj
      simp [hf]
    · simp [hj]
  | false =>
    rw [Bool.not_false, List.any_eq_true]
    exact ⟨k, List.mem_finRange k, by simp [hf]⟩

/-- What an entry hands over. -/
structure SameMember (u t : DungeonTrainer) : Prop where
  nodeId : u.nodeId = t.nodeId
  activeSlot : u.activeSlot = t.activeSlot
  hp : ∃ s, t.slot = .ok s ∧ u.slot = .ok s ∧ u.slotHp s = t.slotHp s
  fainted : u.slotFainted = t.slotFainted

theorem same_copied (h : t.InSlot) : (u.copied (t.entry ⟨_, h⟩) ⟨_, h⟩).SameMember t := by
  have hslot : (u.copied (t.entry ⟨_, h⟩) ⟨_, h⟩).InSlot := h
  refine ⟨ofBe32_be32 _, rfl, ⟨⟨_, h⟩, slot_ok h, slot_ok hslot, ?_⟩, funext fun k => ?_⟩
  · change Function.update u.slotHp _ (ofBe16 _ _) _ = _
    rw [Function.update_self]
    exact ofBe16_be16 _
  · change (!has ((t.entry _).getD 9 0) k.val) = _
    rw [has_alive, Bool.not_not]

theorem copied_copied (e : List UInt8) : (t.copied e s).copied e s = t.copied e s := by
  unfold copied
  dsimp only
  rw [Function.update_idem]

end DungeonTrainer

namespace DungeonGame

variable {g guest : DungeonGame} {payload : List UInt8}

/-- The state with a packet taken over. -/
def mirrored (g : DungeonGame) (payload : List UInt8)
    (hslots : ∀ i, Present payload i → ((entryAt payload i).getD 8 0).toNat < 6) : DungeonGame :=
  { g with
    run := { g.run with
      currentFloor := { g.run.currentFloor with depth := payload.getD 1 0 }
      phase := payload.getD 0 0
      partySize := claimedSize payload
      party := fun i => copiedMember payload hslots i (g.run.party i) }
    dirty := true }

theorem handleState_ok (ha : guest.active = true) (hn : guest.isHost = false)
    (hlen : dungeonStateHdrSize ≤ payload.length)
    (hslots : ∀ i, Present payload i → ((entryAt payload i).getD 8 0).toNat < 6) :
    guest.handleState payload = .ok (guest.mirrored payload hslots) := by
  unfold handleState
  rw [if_neg (not_or.mpr ⟨by simp [ha], not_or.mpr ⟨by simp [hn], not_lt.mpr hlen⟩⟩),
    copies_party hslots]
  rfl

theorem mirrored_mirrored (hslots : ∀ i, Present payload i → ((entryAt payload i).getD 8 0).toNat < 6) :
    (g.mirrored payload hslots).mirrored payload hslots = g.mirrored payload hslots := by
  have hparty : ∀ i t, copiedMember payload hslots i (copiedMember payload hslots i t) =
      copiedMember payload hslots i t := by
    intro i t
    unfold copiedMember
    split
    · rw [copied_copied]
    · rfl
  unfold mirrored
  dsimp only
  simp only [hparty]

/-! ### The payload of the host -/

/-- The payload of the host's state packet. -/
def statePayload (g : DungeonGame) (h : ∀ i, (g.run.party i).InSlot) : List UInt8 :=
  [g.run.phase, g.run.currentFloor.depth, UInt8.ofNat g.run.partySize.val] ++
    g.run.members.flatMap fun i => (g.run.party i).entry ⟨_, h i⟩

variable (h : ∀ i, (g.run.party i).InSlot)

theorem members_eq (r : DungeonRun) : r.members = (List.finRange 5).take r.partySize.val := by
  have hall : ∀ n : Fin 6, ((List.finRange 5).filter fun i => decide (i.val < n.val)) =
      (List.finRange 5).take n.val := by decide
  exact hall r.partySize

theorem members_length (r : DungeonRun) : r.members.length = r.partySize.val := by
  have hle : r.partySize.val ≤ 5 := Nat.le_of_lt_succ r.partySize.isLt
  rw [members_eq, List.length_take, List.length_finRange]
  omega

theorem statePayload_length :
    (g.statePayload h).length = dungeonStateHdrSize + g.run.partySize.val * dungeonStateSlotSize := by
  unfold statePayload
  rw [List.length_append, length_flatMap_block (n := dungeonStateSlotSize) fun _ => rfl, members_length]
  rfl

theorem claimedSize_statePayload : claimedSize (g.statePayload h) = g.run.partySize := by
  have hle : g.run.partySize.val ≤ 5 := Nat.le_of_lt_succ g.run.partySize.isLt
  refine Fin.ext ?_
  change min (UInt8.ofNat g.run.partySize.val).toNat 5 = _
  rw [UInt8.toNat_ofNat']
  omega

theorem present_statePayload {i : Fin 5} : Present (g.statePayload h) i ↔ i.val < g.run.partySize.val := by
  unfold Present
  rw [claimedSize_statePayload, statePayload_length]
  unfold dungeonStateSlotSize
  omega

/-- Each member's entry stands in its place. -/
theorem entryAt_statePayload {i : Fin 5} (hi : i.val < g.run.partySize.val) :
    entryAt (g.statePayload h) i = (g.run.party i).entry ⟨_, h i⟩ := by
  have hlen : i.val < g.run.members.length := by rwa [members_length]
  have hget : g.run.members[i.val] = i := by
    simp only [members_eq, List.getElem_take, List.getElem_finRange]
    rfl
  have hdrop : ∀ (k : ℕ) (a b c : UInt8) (l : List UInt8),
      ([a, b, c] ++ l).drop (dungeonStateHdrSize + k) = l.drop k := by
    intro k a b c l
    rw [Nat.add_comm]
    rfl
  have hblock : ∀ a, ((fun i => (g.run.party i).entry ⟨_, h i⟩) a).length = dungeonStateSlotSize :=
    fun _ => rfl
  unfold entryAt statePayload
  rw [hdrop, take_drop_flatMap_block hblock _ hlen]
  simp only [hget]

/-- The guest has what the host has. -/
structure Mirrors (guest g : DungeonGame) : Prop where
  phase : guest.run.phase = g.run.phase
  depth : guest.run.currentFloor.depth = g.run.currentFloor.depth
  size : guest.run.partySize = g.run.partySize
  members : ∀ i, i.val < g.run.partySize.val → (guest.run.party i).SameMember (g.run.party i)

theorem slots_statePayload (i : Fin 5) (hp : Present (g.statePayload h) i) :
    ((entryAt (g.statePayload h) i).getD 8 0).toNat < 6 := by
  rw [entryAt_statePayload h ((present_statePayload h).mp hp)]
  exact h i

theorem mirrors_mirrored : (guest.mirrored (g.statePayload h) (slots_statePayload h)).Mirrors g := by
  refine ⟨rfl, rfl, claimedSize_statePayload h, fun i hi => ?_⟩
  have hp : Present (g.statePayload h) i := (present_statePayload h).mpr hi
  change (copiedMember (g.statePayload h) (slots_statePayload h) i (guest.run.party i)).SameMember _
  unfold copiedMember
  rw [dif_pos hp]
  simp only [entryAt_statePayload h hi]
  exact same_copied (h i)

/-- The packet that a host sends fits, makes any guest's copy what the host has, and does so once. -/
theorem state_replicated {myId : UInt32} (hr : Reach step (fun _ _ => True) (fresh myId) g)
    (guest : DungeonGame) (ha : guest.active = true) (hn : guest.isHost = false) :
    ∃ payload guest', g.sendState = .ok (dungeonState, payload) ∧
      payload.length ≤ battlelinkMaxPayload ∧ guest.handleState payload = .ok guest' ∧
      guest'.Mirrors g ∧ guest'.handleState payload = .ok guest' := by
  have hs := (slotted_reach hr).slots
  have hlen := statePayload_length hs
  have hsize : g.run.partySize.val ≤ 5 := Nat.le_of_lt_succ g.run.partySize.isLt
  refine ⟨g.statePayload hs, guest.mirrored _ (slots_statePayload hs), sendState_eq hs, ?_,
    handleState_ok ha hn ?_ (slots_statePayload hs), mirrors_mirrored hs, ?_⟩
  · rw [hlen]
    unfold dungeonStateHdrSize dungeonStateSlotSize battlelinkMaxPayload
    omega
  · rw [hlen]
    exact Nat.le_add_right _ _
  · have hagain : (guest.mirrored (g.statePayload hs) (slots_statePayload hs)).active = true := ha
    rw [handleState_ok hagain hn (hlen ▸ Nat.le_add_right _ _) (slots_statePayload hs), mirrored_mirrored]

theorem state_replicated_lobby : ∃ payload guest', (fresh 1).becomeHost.sendState =
      .ok (dungeonState, payload) ∧ payload.length ≤ battlelinkMaxPayload ∧
      { fresh 2 with active := true }.handleState payload = .ok guest' ∧
      guest'.Mirrors (fresh 1).becomeHost ∧ guest'.handleState payload = .ok guest' :=
  state_replicated (.tail (.command (cstr "host") []) .refl trivial (step_host _ _)) { fresh 2 with active := true } rfl rfl

end DungeonGame

end MonsterMesh
