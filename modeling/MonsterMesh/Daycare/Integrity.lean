import MonsterMesh.Daycare.CheckOut

/-! What a check-out promises about the save, and the one thing it does not look at. -/
namespace MonsterMesh

open DaycareSavPatcher Image

variable {st : DaycareState} {s t : Image} {i : ℕ}

/-! ### The checksum -/

theorem fixChecksum_valid (s : Image) :
    fixChecksum s savChecksumOffset = checksum (fixChecksum s) := by
  have hsum : checksum (fixChecksum s) = checksum s := by
    unfold checksum
    rw [sum_congr fun x hx => fixChecksum_off s x ?_]
    unfold Within savChecksumStart savChecksumEnd at hx
    unfold savChecksumOffset
    omega
  rw [hsum]
  exact write_byte _

/-- Whatever was taught, the last write of a check-out is the checksum. -/
theorem checkOut_checksum (h : st.creditedSlots ≠ []) :
    st.checkOut s savChecksumOffset = checksum (st.checkOut s) := by
  rw [DaycareState.checkOut_eq h]
  dsimp only
  split_ifs with ht
  · exact fixChecksum_valid _
  · rw [DaycareState.taught_idle (Bool.eq_false_iff.mpr ht)]
    exact fixChecksum_valid _

/-! ### Moves -/

/-- The PP of a move without PP Ups. -/
def movePp (mv : UInt8) : UInt8 := ((gen1Move mv).map (·.pp)).getD 0

theorem gen1Moves_pp : ∀ m ∈ gen1Moves, m.pp ≤ 40 := by decide +kernel

theorem movePp_le (mv : UInt8) : movePp mv ≤ 40 := by
  unfold movePp
  cases h : gen1Move mv with
  | none => exact UInt8.le_iff_toNat_le.mpr (Nat.zero_le _)
  | some m => exact gen1Moves_pp m (List.mem_of_find?_eq_some h)

theorem basePp_eq (mv : UInt8) : basePp mv = movePp mv := by
  have hle := movePp_le mv
  unfold basePp
  split_ifs with h
  · subst h
    rfl
  · change (if 63 < movePp mv then 63 else movePp mv) = movePp mv
    rw [if_neg]
    grind

/-- Slot `k` of record `i` has its move and PP as they were, or a new move with its base PP and no
PP Ups. -/
def MoveSettled (s t : Image) (i k : ℕ) : Prop :=
  t (pkm i + pkmMoves + k) = s (pkm i + pkmMoves + k) ∧
      t (pkm i + pkmPp + k) = s (pkm i + pkmPp + k) ∨
    t (pkm i + pkmPp + k) = movePp (t (pkm i + pkmMoves + k)) ∧ t (pkm i + pkmPp + k) < 64

theorem moveSlot_field {k : ℕ} (hk : k < 4) :
    MoveField i (pkm i + pkmMoves + k) ∧ MoveField i (pkm i + pkmPp + k) := by
  unfold MoveField Within
  omega

theorem MoveSettled.of_same {u : Image} {k : ℕ}
    (hm : u (pkm i + pkmMoves + k) = t (pkm i + pkmMoves + k))
    (hp : u (pkm i + pkmPp + k) = t (pkm i + pkmPp + k)) (h : MoveSettled s t i k) :
    MoveSettled s u i k := by
  unfold MoveSettled at *
  rwa [hm, hp]

theorem MoveSettled.off {R : ℕ → Prop} {u : Image} {k : ℕ} (hk : k < 4) (h : MoveSettled s t i k)
    (hoff : SameOff R t u) (hd : ∀ x, MoveField i x → ¬ R x) : MoveSettled s u i k :=
  h.of_same (hoff _ (hd _ (moveSlot_field hk).1)) (hoff _ (hd _ (moveSlot_field hk).2))

theorem setMove_settled {j k slot : ℕ} {mv : UInt8} (hk : k < 4) (h : MoveSettled s t i k) :
    MoveSettled s (setMove t j slot mv) i k := by
  by_cases hj : j = i
  · subst hj
    unfold setMove
    split_ifs with hrange
    · exact h
    · by_cases hs : slot = k
      · subst hs
        have hmove : ∀ b, ((t.write (pkm j + pkmMoves + slot) [mv]).write
            (pkm j + pkmPp + slot) [b]) (pkm j + pkmMoves + slot) = mv := by
          intro b
          rw [write_off (by unfold Within pkmMoves pkmPp; simp), write_byte]
        refine .inr ⟨?_, ?_⟩
        · rw [hmove, write_byte, basePp_eq]
        · rw [write_byte, basePp_eq]
          exact UInt8.lt_of_le_of_lt (movePp_le mv) (by decide)
      · refine h.of_same ?_ ?_
        · rw [write_off, write_off] <;> unfold Within pkmMoves <;>
            simp only [List.length_singleton]
          · omega
          · unfold pkmPp
            omega
        · rw [write_off, write_off] <;> unfold Within pkmPp <;>
            simp only [List.length_singleton]
          · unfold pkmMoves
            omega
          · omega
  · exact h.off hk (setMove_off t j slot mv) fun x hx hm =>
      record_disjoint (Ne.symm hj) hx.record hm.record

theorem checkOut_settled (hi : i < 6) {k : ℕ} (hk : k < 4) :
    MoveSettled s (st.checkOut s) i k := by
  refine DaycareState.checkOut_keeps (P := fun t => MoveSettled s t i k) ?_ ?_ ?_
    (.inl ⟨rfl, rfl⟩)
  · intro t j _ dex xp h
    refine h.off hk (patchPokemon_off t j dex xp) fun x hx hp => ?_
    by_cases hj : i = j
    · exact hx.not_patchField (hj ▸ hp)
    · exact record_disjoint hj hx.record hp.record
  · exact fun t j _ slot mv h => setMove_settled hk h
  · intro t h
    refine h.off hk (fixChecksum_off t) fun x hx he => ?_
    have := record_lt_checksum hi hx.record
    omega

/-! ### Integrity -/

/-- The slots whose record a check-out writes. -/
def DaycareState.patchedSlots (st : DaycareState) : List ℕ :=
  st.creditedSlots.filter fun i => IsSpecies (st.pokemon i).speciesDex

theorem mem_patchedSlots :
    i ∈ st.patchedSlots ↔ i ∈ st.creditedSlots ∧ IsSpecies (st.pokemon i).speciesDex := by
  unfold DaycareState.patchedSlots
  rw [List.mem_filter, decide_eq_true_eq]

/-- What is promised of the save that a check-out of `st` makes of `s`. -/
structure Integrity (st : DaycareState) (s : Image) : Prop where
  idle : st.creditedSlots = [] → st.checkOut s = s
  checksum : st.creditedSlots ≠ [] →
    st.checkOut s 0x3523 = ~~~ (st.checkOut s).sum 0x2598 (0x3523 - 0x2598)
  frame : SameOff st.EarnedByte s (st.checkOut s)
  hp : ∀ i ∈ st.patchedSlots, 1 ≤ (st.checkOut s).read16 (pkm i + pkmCurrentHp) ∧
    (st.checkOut s).read16 (pkm i + pkmCurrentHp) ≤ (st.checkOut s).read16 (pkm i + pkmMaxHp)
  moves : ∀ i ∈ st.creditedSlots, ∀ k < 4, MoveSettled s (st.checkOut s) i k
  species : ∀ i ∈ st.patchedSlots,
    internalToDex (s (pkm i + pkmSpecies)) = (st.pokemon i).speciesDex

theorem checkOut_hp (h : i ∈ st.patchedSlots) :
    1 ≤ (st.checkOut s).read16 (pkm i + pkmCurrentHp) ∧
      (st.checkOut s).read16 (pkm i + pkmCurrentHp) ≤
        (st.checkOut s).read16 (pkm i + pkmMaxHp) := by
  obtain ⟨hi, hdex⟩ := mem_patchedSlots.mp h
  obtain ⟨u, _, hend⟩ := DaycareState.checkOut_patched (s := s) hi
  have hcur : ∀ x, Within (pkm i + pkmCurrentHp) 2 x → PatchField i x :=
    fun x hx => .inr (.inr (.inr (.inl hx)))
  have hmax : ∀ x, Within (pkm i + pkmMaxHp) 2 x → PatchField i x :=
    fun x hx => .inr (.inr (.inr (.inr ⟨hx.1, Nat.lt_of_lt_of_le hx.2 (by omega)⟩)))
  rw [hend.read16 hcur, hend.read16 hmax]
  exact hp_patchPokemon (creditedSlots_lt hi) hdex

/-- Ten points earned by a Pikachu in the first slot. -/
def pikachuOwed : DaycareState :=
  { magic := daycareMagic
    pokemon := Function.update (fun _ => .zero) 0 ⟨25, 5, 125, 10, 0⟩
    partyCount := 1 }

/-- A save whose first slot holds a Bulbasaur. -/
def bulbasaurSave : Image := soloSave 0x99 5 135

end MonsterMesh
