import MonsterMesh.Daycare.CheckOut

/-! The moves a mon knows across a check-out: none goes unless a new one comes. -/
namespace MonsterMesh

open DaycareSavPatcher Image

variable {s t u : Image} {i k slot : ℕ} {mv : UInt8} {st : DaycareState}

/-- The mon of slot `i` knows a move. -/
def Knows (s : Image) (i : ℕ) (mv : UInt8) : Prop :=
  mv ≠ 0 ∧ ∃ k < 4, s (pkm i + pkmMoves + k) = mv

/-- The known moves have become fewer: none is new, and one is gone. -/
def MovesLowered (s t : Image) (i : ℕ) : Prop :=
  (∀ mv, Knows t i mv → Knows s i mv) ∧ ∃ mv, Knows s i mv ∧ ¬ Knows t i mv

theorem not_lowered_of_kept (h : ∀ mv, Knows s i mv → Knows t i mv) : ¬ MovesLowered s t i :=
  fun ⟨_, mv, hs, ht⟩ => ht (h mv hs)

theorem not_lowered_of_new (ht : Knows t i mv) (hs : ¬ Knows s i mv) : ¬ MovesLowered s t i :=
  fun ⟨h, _⟩ => hs (h mv ht)

/-- The moves are read from the record alone. -/
theorem knows_congr (h : SameOn (MoveField i) s t) (mv : UInt8) : Knows t i mv ↔ Knows s i mv := by
  have hsame : ∀ k < 4, t (pkm i + pkmMoves + k) = s (pkm i + pkmMoves + k) := by
    intro k hk
    refine h _ (.inl ?_)
    unfold Within
    omega
  refine and_congr_right fun _ => exists_congr fun k => and_congr_right fun hk => ?_
  rw [hsame k hk]

/-! ### Learning -/

theorem setMove_move (hi : i < 6) (hs : slot < 4) :
    setMove s i slot mv (pkm i + pkmMoves + slot) = mv := by
  unfold setMove
  rw [if_neg (by omega), write_off (by unfold Within pkmMoves pkmPp; simp), write_byte]

theorem setMove_other (hk : k < 4) (hne : k ≠ slot) :
    setMove s i slot mv (pkm i + pkmMoves + k) = s (pkm i + pkmMoves + k) := by
  unfold setMove
  split_ifs
  · rfl
  · rw [write_off, write_off] <;> unfold Within pkmMoves <;> simp only [List.length_singleton]
    · omega
    · unfold pkmPp
      omega

/-- A move into an empty slot costs no other. -/
theorem setMove_empty (h0 : s (pkm i + pkmMoves + slot) = 0) {mv' : UInt8} (h : Knows s i mv') :
    Knows (setMove s i slot mv) i mv' := by
  obtain ⟨hne, k, hk, hm⟩ := h
  have hslot : k ≠ slot := fun he => hne (hm ▸ he ▸ h0)
  exact ⟨hne, k, hk, (setMove_other hk hslot).trans hm⟩

/-- What learning keeps, from the image `u`: the moves known there, and that what is pending is
new. -/
structure Learnt (u : Image) (i : ℕ) (l : Learning) : Prop where
  kept : ∀ mv, Knows u i mv → Knows l.image i mv
  new : ∀ mv ∈ l.pending, mv ≠ 0 ∧ ¬ Knows u i mv

theorem learnMove_learnt {l : Learning} (h : Learnt u i l) (hmv : mv ≠ 0) :
    Learnt u i (learnMove i l mv) := by
  unfold learnMove
  dsimp only
  split
  · exact h
  · rename_i hknown
    split
    · rename_i slot hslot
      have h0 := List.find?_some hslot
      exact ⟨fun mv' hm => setMove_empty (of_decide_eq_true h0) (h.kept mv' hm), h.new⟩
    · refine ⟨h.kept, fun mv' hm => ?_⟩
      have hnew : mv ≠ 0 ∧ ¬ Knows u i mv := by
        refine ⟨hmv, fun hu => hknown ?_⟩
        obtain ⟨_, k, hk, he⟩ := h.kept mv hu
        exact List.any_eq_true.mpr ⟨k, List.mem_range.mpr hk, decide_eq_true he⟩
      dsimp only at hm
      split_ifs at hm
      · rcases List.mem_append.mp hm with hm | hm
        · exact h.new mv' hm
        · exact List.mem_singleton.mp hm ▸ hnew
      · exact h.new mv' hm

theorem gen1Learnsets_ne_zero : ∀ l ∈ gen1Learnsets, ∀ e ∈ l, e.moveId ≠ 0 := by decide +kernel

theorem learnedBetween_ne_zero {dex fromLevel toLevel : UInt8} {n : ℕ}
    (h : mv ∈ gen1MovesLearnedBetween dex fromLevel toLevel n) : mv ≠ 0 := by
  unfold gen1MovesLearnedBetween at h
  split_ifs at h
  · cases h
  · obtain ⟨e, he, rfl⟩ := List.mem_map.mp (List.mem_of_mem_take h)
    have he := List.mem_of_mem_filter he
    rw [List.getD_eq_getElem?_getD] at he
    cases hl : gen1Learnsets[dex.toNat]? with
    | none =>
      rw [hl] at he
      cases he
    | some l =>
      rw [hl] at he
      exact gen1Learnsets_ne_zero l (List.mem_of_getElem? hl) e he

theorem learnMoves_learnt (u : Image) (i : ℕ) (dex fromLevel toLevel : UInt8) :
    Learnt u i (learnMoves u i dex fromLevel toLevel) := by
  have hstart : Learnt u i ⟨u, [], []⟩ := ⟨fun _ h => h, fun _ h => absurd h List.not_mem_nil⟩
  unfold learnMoves
  split_ifs
  · exact hstart
  · exact List.foldlRecOn _ _ hstart fun l hl mv hmv =>
      learnMove_learnt hl (learnedBetween_ne_zero hmv)

/-! ### Making room -/

theorem weakestMoveSlot_lt (s : Image) (i : ℕ) : weakestMoveSlot s i < 4 := by
  unfold weakestMoveSlot
  refine List.foldlRecOn (motive := fun best : ℕ × ℤ => best.1 < 4) _ _ (by decide)
    fun best h k hk => ?_
  dsimp only
  split_ifs
  · exact List.mem_range.mp hk
  · exact h

/-- The last of the pending moves is known in the end. -/
theorem pending_known (hi : i < 6) (mvs : List UInt8) (h0 : mv ≠ 0) (s : Image) :
    Knows ((mvs ++ [mv]).foldl (fun s mv => setMove s i (weakestMoveSlot s i) mv) s) i mv := by
  rw [List.foldl_append]
  exact ⟨h0, weakestMoveSlot _ i, weakestMoveSlot_lt _ i, setMove_move hi (weakestMoveSlot_lt _ i)⟩

theorem teach_not_lowered (hi : i < 6) (u : Image) (dex oldLevel : UInt8) :
    ¬ MovesLowered u (teach u i dex oldLevel).1 i := by
  have hl := learnMoves_learnt u i dex oldLevel (u (pkm i + pkmLevelParty))
  unfold teach
  dsimp only
  rcases List.eq_nil_or_concat' (learnMoves u i dex oldLevel (u (pkm i + pkmLevelParty))).pending
    with hp | ⟨mvs, mv, hp⟩
  · rw [hp]
    exact not_lowered_of_kept hl.kept
  · obtain ⟨h0, hnew⟩ := hl.new mv (hp ▸ List.mem_append_right mvs (List.mem_singleton.mpr rfl))
    rw [hp]
    exact not_lowered_of_new (pending_known hi mvs h0 _) hnew

/-! ### A whole check-out -/

theorem lowered_congr {s' t' : Image} (hs : ∀ mv, Knows s' i mv ↔ Knows s i mv)
    (ht : ∀ mv, Knows t' i mv ↔ Knows t i mv) : MovesLowered s' t' i ↔ MovesLowered s t i := by
  unfold MovesLowered
  simp only [hs, ht]

theorem taught_fst (st : DaycareState) (s u : Image) :
    (st.taught s u).1 = st.creditedSlots.foldl (fun b i =>
      (teach b i (st.pokemon i).speciesDex (s (pkm i + pkmLevelParty))).1) u :=
  (List.foldl_hom Prod.fst fun _ _ => rfl).symm

theorem teach_off (s : Image) (i : ℕ) (dex oldLevel : UInt8) :
    SameOff (MoveField i) s (teach s i dex oldLevel).1 :=
  teach_keeps (P := SameOff (MoveField i) s) (fun u k mv hu => hu.trans (setMove_off u i k mv))
    (.refl _ s) dex oldLevel

theorem patched_moves (st : DaycareState) (s : Image) (i : ℕ) :
    SameOn (MoveField i) s (st.patched s) := by
  unfold DaycareState.patched
  refine List.foldlRecOn (motive := SameOn (MoveField i) s) _ _ (.refl _ s) fun u hu j _ => ?_
  refine hu.trans ((patchPokemon_off u j _ _).sameOn fun x hx hp => ?_)
  by_cases hj : i = j
  · exact hx.not_patchField (hj ▸ hp)
  · exact record_disjoint hj hx.record hp.record

theorem fixChecksum_record (hi : i < 6) (s : Image) : SameOn (Record i) s (fixChecksum s) :=
  (fixChecksum_off s).sameOn fun _ hx he => Nat.ne_of_lt (record_lt_checksum hi hx) he

/-- No party slot's moves become fewer in a check-out. -/
theorem checkOut_not_lowered (hi : i < 6) (st : DaycareState) (s : Image) :
    ¬ MovesLowered s (st.checkOut s) i := by
  have hmove : ∀ {u v}, SameOn (Record i) u v → SameOn (MoveField i) u v :=
    fun h x hx => h x hx.record
  by_cases hc : i ∈ st.creditedSlots
  · obtain ⟨v, hv, hend⟩ := foldl_sameOn
      (f := fun b i => (teach b i (st.pokemon i).speciesDex (s (pkm i + pkmLevelParty))).1)
      (fun u j => (teach_off u j _ _).mono fun _ hx => hx.record) (creditedSlots_nodup st)
      (fun i _ j _ x => record_disjoint) hc (fixChecksum (st.patched s))
    rw [← taught_fst] at hend
    have hstart : SameOn (MoveField i) s v :=
      (patched_moves st s i).trans (hmove ((fixChecksum_record hi _).trans hv))
    have hfinal : SameOn (Record i) (st.taught s (fixChecksum (st.patched s))).1
        (st.checkOut s) := by
      rw [DaycareState.checkOut_eq (List.ne_nil_of_mem hc)]
      dsimp only
      split_ifs
      · exact fixChecksum_record hi _
      · exact .refl _ _
    rw [← lowered_congr (knows_congr hstart) fun mv => (knows_congr (hmove (hend.trans hfinal)) mv).symm]
    exact teach_not_lowered hi v _ _
  · exact not_lowered_of_kept fun mv hs =>
      (knows_congr (hmove (DaycareState.checkOut_record_kept hi hc)) mv).mpr hs

end MonsterMesh
