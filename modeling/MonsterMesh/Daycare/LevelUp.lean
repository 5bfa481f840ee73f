import MonsterMesh.Daycare.Integrity
import MonsterMesh.Daycare.Moves
import MonsterMesh.Lib.Replacing

/-! The moves that come with new levels: each is known, learned, or makes room for a later one. -/
namespace MonsterMesh

open DaycareSavPatcher Image Replacing

variable {s : Image} {i slot : ℕ} {mv dex fromLevel toLevel : UInt8} {l : Learning} {seen : List UInt8}

/-! ### The four places -/

/-- A place for a move: the move and its PP. -/
abbrev MoveCell := UInt8 × UInt8

/-- A move with its base PP and no PP Ups. -/
def freshCell (mv : UInt8) : MoveCell := (mv, basePp mv)

def moveCells (s : Image) (i : ℕ) (k : Fin 4) : MoveCell :=
  (s (pkm i + pkmMoves + k.val), s (pkm i + pkmPp + k.val))

/-- The place with the lower score so far. -/
def weaker (f : Fin 4 → MoveCell) (best : Fin 4 × ℤ) (k : Fin 4) : Fin 4 × ℤ :=
  if moveScore (f k).1 < best.2 then (k, moveScore (f k).1) else best

/-- `weakestMoveSlot` of the four places. -/
def weakest (f : Fin 4 → MoveCell) : Fin 4 := ((List.finRange 4).foldl (weaker f) (0, 1000)).1

theorem weakestMoveSlot_eq (s : Image) (i : ℕ) : weakestMoveSlot s i = (weakest (moveCells s i)).val := by
  have hrange : List.range 4 = (List.finRange 4).map Fin.val := by decide
  have hfold : (List.finRange 4).foldl (fun (best : ℕ × ℤ) (k : Fin 4) =>
      if moveScore (s (pkm i + pkmMoves + k.val)) < best.2 then
        (k.val, moveScore (s (pkm i + pkmMoves + k.val))) else best) (0, 1000) =
      Prod.map Fin.val id ((List.finRange 4).foldl (weaker (moveCells s i)) (0, 1000)) := by
    change List.foldl _ (Prod.map Fin.val id ((0 : Fin 4), (1000 : ℤ))) _ = _
    refine List.foldl_hom (Prod.map Fin.val id) fun best k => ?_
    unfold weaker
    rw [apply_ite (Prod.map Fin.val id)]
    rfl
  unfold weakestMoveSlot weakest
  rw [hrange, List.foldl_map]
  exact congrArg Prod.fst hfold

theorem setMove_pp_other {k : ℕ} (hk : k < 4) (hne : k ≠ slot) :
    setMove s i slot mv (pkm i + pkmPp + k) = s (pkm i + pkmPp + k) := by
  unfold setMove
  split_ifs
  · rfl
  · rw [write_off, write_off] <;> unfold Within pkmPp <;> simp only [List.length_singleton]
    · unfold pkmMoves
      omega
    · omega

/-- Writing a move changes one place. -/
theorem moveCells_setMove (hi : i < 6) (k : Fin 4) :
    moveCells (setMove s i k.val mv) i = Function.update (moveCells s i) k (freshCell mv) := by
  funext j
  by_cases hj : j = k
  · subst hj
    rw [Function.update_self]
    refine Prod.ext (setMove_move hi j.isLt) ?_
    unfold setMove moveCells
    dsimp only
    rw [if_neg (by omega)]
    exact write_byte _
  · have hne : j.val ≠ k.val := fun he => hj (Fin.ext he)
    rw [Function.update_of_ne hj]
    exact Prod.ext (setMove_other j.isLt hne) (setMove_pp_other j.isLt hne)

/-- Check-out's handling of a pending move: it takes the place of the weakest. -/
def replaceWeakest (i : ℕ) (s : Image) (mv : UInt8) : Image := setMove s i (weakestMoveSlot s i) mv

namespace DaycareSavPatcher.Learning

/-- The image after the pending moves, in order. -/
def settle (i : ℕ) (l : Learning) : Image := l.pending.foldl (replaceWeakest i) l.image

/-- The move in slot `k` was the weakest when a pending one was written. -/
def Replaced (i : ℕ) (l : Learning) (k : ℕ) : Prop :=
  ∃ ps mv qs, l.pending = ps ++ mv :: qs ∧ weakestMoveSlot (ps.foldl (replaceWeakest i) l.image) i = k

/-- The pending `mv'` was written where `mv` was. -/
def GaveWay (i : ℕ) (l : Learning) (mv mv' : UInt8) : Prop :=
  ∃ ps qs, l.pending = ps ++ mv' :: qs ∧
    (ps.foldl (replaceWeakest i) l.image)
      (pkm i + pkmMoves + weakestMoveSlot (ps.foldl (replaceWeakest i) l.image) i) = mv

end DaycareSavPatcher.Learning

theorem teach_eq (s : Image) (i : ℕ) (dex oldLevel : UInt8) :
    (teach s i dex oldLevel).1 = (learnMoves s i dex oldLevel (s (pkm i + pkmLevelParty))).settle i := rfl

theorem moveCells_replaced (hi : i < 6) (s : Image) (mvs : List UInt8) :
    moveCells (mvs.foldl (replaceWeakest i) s) i = offers weakest (moveCells s i) (mvs.map freshCell) := by
  unfold offers
  rw [List.foldl_map]
  refine (List.foldl_hom (fun s => moveCells s i) fun s mv => ?_).symm
  unfold replaceWeakest
  rw [weakestMoveSlot_eq, moveCells_setMove hi]
  rfl

/-! ### Learning -/

/-- A move is in one of the places. -/
def Has (f : Fin 4 → MoveCell) (mv : UInt8) : Prop := ∃ k, (f k).1 = mv

/-- No move is known twice. -/
def DistinctMoves (s : Image) (i : ℕ) : Prop := Distinct Prod.fst 0 (moveCells s i)

instance (s : Image) (i : ℕ) : Decidable (DistinctMoves s i) :=
  inferInstanceAs (Decidable (∀ j k, (moveCells s i j).1 = (moveCells s i k).1 → (moveCells s i j).1 ≠ 0 → j = k))

theorem moveCells_has_iff : Has (moveCells s i) mv ↔
    (List.range 4).any (fun k => s (pkm i + pkmMoves + k) = mv) = true := by
  rw [List.any_eq_true]
  constructor
  · rintro ⟨k, hk⟩
    exact ⟨k.val, List.mem_range.mpr k.isLt, decide_eq_true hk⟩
  · rintro ⟨k, hk, he⟩
    exact ⟨⟨k, List.mem_range.mp hk⟩, of_decide_eq_true he⟩

theorem knows_iff : Knows s i mv ↔ mv ≠ 0 ∧ Has (moveCells s i) mv := by
  refine and_congr_right fun _ => ⟨?_, ?_⟩
  · rintro ⟨k, hk, he⟩
    exact ⟨⟨k, hk⟩, he⟩
  · rintro ⟨k, he⟩
    exact ⟨k.val, k.isLt, he⟩

/-- What one move gained does: nothing if it is known; else it goes into an empty place, or waits. -/
theorem learnMove_spec (hi : i < 6) (l : Learning) (mv : UInt8) :
    Has (moveCells l.image i) mv ∧ learnMove i l mv = l ∨
      ¬ Has (moveCells l.image i) mv ∧
        ((∃ k, (moveCells l.image i k).1 = 0 ∧
          moveCells (learnMove i l mv).image i = Function.update (moveCells l.image i) k (freshCell mv) ∧
          (learnMove i l mv).learned = (if l.learned.length < 8 then l.learned ++ [mv] else l.learned) ∧
          (learnMove i l mv).pending = l.pending) ∨
        ((∀ k, (moveCells l.image i k).1 ≠ 0) ∧ learnMove i l mv =
          { l with pending := if l.pending.length < 8 then l.pending ++ [mv] else l.pending })) := by
  unfold learnMove
  dsimp only
  by_cases hk : (List.range 4).any (fun k => l.image (pkm i + pkmMoves + k) = mv) = true
  · rw [if_pos hk]
    exact .inl ⟨moveCells_has_iff.mpr hk, rfl⟩
  · rw [if_neg hk]
    refine .inr ⟨fun h => hk (moveCells_has_iff.mp h), ?_⟩
    split
    · rename_i empty hempty
      have hlt : empty < 4 := List.mem_range.mp (List.mem_of_find?_eq_some hempty)
      have h0 := List.find?_some hempty
      exact .inl ⟨⟨empty, hlt⟩, of_decide_eq_true h0, moveCells_setMove hi ⟨empty, hlt⟩, rfl, rfl⟩
    · rename_i hnone
      refine .inr ⟨fun k hk => ?_, rfl⟩
      exact List.find?_eq_none.mp hnone k.val (List.mem_range.mpr k.isLt) (decide_eq_true hk)

/-- What holds while the moves `seen` of a mon with the places `f₀` are learned. -/
structure Taught (f₀ f : Fin 4 → MoveCell) (seen learned pending : List UInt8) : Prop where
  offered : ∀ m ∈ seen, Has f₀ m ∨ m ∈ learned ++ pending
  order : (learned ++ pending).Sublist seen
  new : ∀ m ∈ learned ++ pending, ¬ Has f₀ m
  got : ∀ m ∈ learned, Has f m
  waiting : ∀ m ∈ pending, ¬ Has f m
  full : pending ≠ [] → ∀ k, (f k).1 ≠ 0
  cells : ∀ k, f k = f₀ k ∨ (f₀ k).1 = 0 ∧ ∃ m ∈ learned, f k = freshCell m
  distinct : Distinct Prod.fst 0 f

namespace Taught

variable {f₀ f : Fin 4 → MoveCell} {learned pending : List UInt8}

theorem start (h : Distinct Prod.fst 0 f₀) : Taught f₀ f₀ [] [] [] :=
  { offered := nofun, order := .slnil, new := nofun, got := nofun, waiting := nofun
    full := fun h => absurd rfl h, cells := fun _ => .inl rfl, distinct := h }

/-- A move that is not known now was not known at the start either. -/
theorem new_of_unknown (h : Taught f₀ f seen learned pending) (hmv : mv ≠ 0) (hn : ¬ Has f mv) :
    ¬ Has f₀ mv := by
  rintro ⟨k, hk⟩
  rcases h.cells k with he | ⟨h0, -⟩
  · exact hn ⟨k, he ▸ hk⟩
  · exact hmv (hk ▸ h0)

theorem known (h : Taught f₀ f seen learned pending) (hk : Has f mv) :
    Taught f₀ f (seen ++ [mv]) learned pending := by
  refine { h with offered := fun m hm => ?_, order := h.order.trans (List.sublist_append_left ..) }
  rcases List.mem_append.mp hm with hm | hm
  · exact h.offered m hm
  · obtain rfl := List.mem_singleton.mp hm
    obtain ⟨k, hk⟩ := hk
    rcases h.cells k with he | ⟨-, m', hm', he⟩
    · exact .inl ⟨k, he ▸ hk⟩
    · have hmm : m' = m := by
        rw [he] at hk
        exact hk
      exact .inr (List.mem_append_left _ (hmm ▸ hm'))

theorem offered_append (h : Taught f₀ f seen learned pending) {learned' pending' : List UInt8}
    (hsub : ∀ m ∈ learned ++ pending, m ∈ learned' ++ pending') (hmv : mv ∈ learned' ++ pending') :
    ∀ m ∈ seen ++ [mv], Has f₀ m ∨ m ∈ learned' ++ pending' := by
  intro m hm
  rcases List.mem_append.mp hm with hm | hm
  · exact (h.offered m hm).imp id (hsub m)
  · obtain rfl := List.mem_singleton.mp hm
    exact .inr hmv

/-- A new move goes into an empty place: nothing was waiting for one. -/
theorem placed (h : Taught f₀ f seen learned pending) (hmv : mv ≠ 0) (hseen : ∀ m ∈ seen, m ≠ 0)
    (hn : ¬ Has f mv) {k : Fin 4} (h0 : (f k).1 = 0) :
    Taught f₀ (Function.update f k (freshCell mv)) (seen ++ [mv]) (learned ++ [mv]) pending := by
  have hp : pending = [] := by
    by_contra hne
    exact h.full hne k h0
  subst hp
  have hnew := h.new_of_unknown hmv hn
  have hold : ∀ m ≠ 0, Has f m → Has (Function.update f k (freshCell mv)) m := by
    rintro m hm ⟨j, rfl⟩
    refine ⟨j, ?_⟩
    rw [Function.update_of_ne]
    rintro rfl
    exact hm h0
  refine ⟨h.offered_append ?_ ?_, ?_, ?_, ?_, nofun, fun hne => absurd rfl hne, ?_, ?_⟩
  · intro m hm
    simp only [List.append_nil] at hm ⊢
    exact List.mem_append_left _ hm
  · simp
  · have horder := h.order
    rw [List.append_nil] at horder ⊢
    exact horder.append (.refl _)
  · intro m hm
    rw [List.append_nil] at hm
    rcases List.mem_append.mp hm with hm | hm
    · exact h.new m (by rwa [List.append_nil])
    · exact List.mem_singleton.mp hm ▸ hnew
  · intro m hm
    rcases List.mem_append.mp hm with hm | hm
    · exact hold m (hseen m (h.order.subset (by rwa [List.append_nil]))) (h.got m hm)
    · exact ⟨k, by rw [Function.update_self, List.mem_singleton.mp hm]; rfl⟩
  · intro j
    by_cases hj : j = k
    · subst hj
      rw [Function.update_self]
      rcases h.cells j with he | ⟨hz, -⟩
      · exact .inr ⟨he ▸ h0, mv, List.mem_append_right _ (.head _), rfl⟩
      · exact .inr ⟨hz, mv, List.mem_append_right _ (.head _), rfl⟩
    · rw [Function.update_of_ne hj]
      exact (h.cells j).imp id fun ⟨hz, m, hm, he⟩ => ⟨hz, m, List.mem_append_left _ hm, he⟩
  · exact h.distinct.update k fun j he => hn ⟨j, he⟩

/-- A new move waits when all places are taken. -/
theorem waits (h : Taught f₀ f seen learned pending) (hmv : mv ≠ 0) (hn : ¬ Has f mv)
    (hfull : ∀ k, (f k).1 ≠ 0) :
    Taught f₀ f (seen ++ [mv]) learned (pending ++ [mv]) := by
  refine
    { h with
      offered := h.offered_append ?_ ?_
      order := ?_
      new := ?_
      waiting := ?_
      full := fun _ => hfull }
  · intro m hm
    rw [← List.append_assoc]
    exact List.mem_append_left _ hm
  · rw [← List.append_assoc]
    exact List.mem_append_right _ (.head _)
  · rw [← List.append_assoc]
    exact h.order.append (.refl _)
  · intro m hm
    rw [← List.append_assoc] at hm
    rcases List.mem_append.mp hm with hm | hm
    · exact h.new m hm
    · exact List.mem_singleton.mp hm ▸ h.new_of_unknown hmv hn
  · intro m hm
    rcases List.mem_append.mp hm with hm | hm
    · exact h.waiting m hm
    · exact List.mem_singleton.mp hm ▸ hn

end Taught

/-- The lists of eight are long enough for fewer than eight moves before this one. -/
theorem taught_step (hi : i < 6) {f₀ : Fin 4 → MoveCell}
    (h : Taught f₀ (moveCells l.image i) seen l.learned l.pending) (hmv : mv ≠ 0)
    (hseen : ∀ m ∈ seen, m ≠ 0) (hlen : seen.length < 8) :
    Taught f₀ (moveCells (learnMove i l mv).image i) (seen ++ [mv]) (learnMove i l mv).learned
      (learnMove i l mv).pending := by
  have hsum : l.learned.length + l.pending.length ≤ seen.length := by
    rw [← List.length_append]
    exact h.order.length_le
  rcases learnMove_spec hi l mv with ⟨hk, he⟩ | ⟨hn, ⟨k, h0, hcells, hl, hp⟩ | ⟨hfull, he⟩⟩
  · rw [he]
    exact h.known hk
  · rw [if_pos (by omega)] at hl
    rw [hcells, hl, hp]
    exact h.placed hmv hseen hn h0
  · rw [if_pos (by omega)] at he
    rw [he]
    exact h.waits hmv hn hfull

theorem taught_run (hi : i < 6) (hd : DistinctMoves s i) (mvs : List UInt8) (hmvs : ∀ m ∈ mvs, m ≠ 0)
    (hlen : mvs.length ≤ 8) :
    Taught (moveCells s i) (moveCells (mvs.foldl (learnMove i) ⟨s, [], []⟩).image i) mvs
      (mvs.foldl (learnMove i) ⟨s, [], []⟩).learned (mvs.foldl (learnMove i) ⟨s, [], []⟩).pending := by
  induction mvs using List.reverseRecOn with
  | nil => exact .start hd
  | append_singleton mvs mv ih =>
    rw [List.length_append, List.length_singleton] at hlen
    have hmvs' : ∀ m ∈ mvs, m ≠ 0 := fun m hm => hmvs m (List.mem_append_left _ hm)
    rw [List.foldl_append]
    exact taught_step hi (ih hmvs' (by omega)) (hmvs mv (List.mem_append_right _ (.head _))) hmvs' (by omega)

/-! ### Replacing -/

theorem map_fst_freshCell (mvs : List UInt8) : (mvs.map freshCell).map Prod.fst = mvs := by
  rw [List.map_map]
  exact List.map_id mvs

theorem gaveWay_of_madeRoom (hi : i < 6) {a b : MoveCell}
    (h : MadeRoom weakest (moveCells l.image i) (l.pending.map freshCell) a b) : l.GaveWay i a.1 b.1 := by
  obtain ⟨bs, cs, hsplit, hm⟩ := h
  obtain ⟨ps, rest, hp, rfl, hrest⟩ := List.map_eq_append_iff.mp hsplit
  obtain ⟨mv, qs, rfl, rfl, rfl⟩ := List.map_eq_cons_iff.mp hrest
  refine ⟨ps, qs, hp, ?_⟩
  rw [← moveCells_replaced hi] at hm
  rw [weakestMoveSlot_eq]
  exact congrArg Prod.fst hm

theorem replaced_of_taken (hi : i < 6) {k : Fin 4}
    (h : Taken weakest (moveCells l.image i) (l.pending.map freshCell) k) : l.Replaced i k.val := by
  obtain ⟨bs, b, cs, hsplit, hk⟩ := h
  obtain ⟨ps, rest, hp, rfl, hrest⟩ := List.map_eq_append_iff.mp hsplit
  obtain ⟨mv, qs, rfl, rfl, rfl⟩ := List.map_eq_cons_iff.mp hrest
  refine ⟨ps, mv, qs, hp, ?_⟩
  rw [← moveCells_replaced hi] at hk
  rw [weakestMoveSlot_eq, hk]

/-! ### The moves of a species -/

/-- The moves a species learns from `fromLevel` (exclusive) to `toLevel`, in the order it learns them. -/
def levelUpMoves (dex fromLevel toLevel : UInt8) : List UInt8 :=
  ((gen1Learnsets.getD dex.toNat []).filter (fun e => fromLevel < e.level ∧ e.level ≤ toLevel)).map (·.moveId)

theorem gen1Learnsets_rows : ∀ row ∈ gen1Learnsets, row.length ≤ 8 ∧ (row.map (·.moveId)).Nodup ∧
    ∀ e ∈ row, e.moveId ≠ 0 ∧ (gen1Move e.moveId).isSome = true := by
  decide +kernel

theorem learnset_row (dex : UInt8) : (gen1Learnsets.getD dex.toNat []).length ≤ 8 ∧
    ((gen1Learnsets.getD dex.toNat []).map (·.moveId)).Nodup ∧
    ∀ e ∈ gen1Learnsets.getD dex.toNat [], e.moveId ≠ 0 ∧ (gen1Move e.moveId).isSome = true := by
  rw [List.getD_eq_getElem?_getD]
  cases h : gen1Learnsets[dex.toNat]? with
  | none => exact ⟨Nat.zero_le _, List.nodup_nil, nofun⟩
  | some row => exact gen1Learnsets_rows row (List.mem_of_getElem? h)

theorem levelUpMoves_length (dex fromLevel toLevel : UInt8) :
    (levelUpMoves dex fromLevel toLevel).length ≤ 8 := by
  unfold levelUpMoves
  rw [List.length_map]
  exact (List.length_filter_le ..).trans (learnset_row dex).1

theorem levelUpMoves_nodup (dex fromLevel toLevel : UInt8) : (levelUpMoves dex fromLevel toLevel).Nodup :=
  (learnset_row dex).2.1.sublist (List.filter_sublist.map _)

theorem levelUpMoves_valid (h : mv ∈ levelUpMoves dex fromLevel toLevel) :
    mv ≠ 0 ∧ ∃ m, gen1Move mv = some m := by
  obtain ⟨e, he, rfl⟩ := List.mem_map.mp h
  obtain ⟨h0, hsome⟩ := (learnset_row dex).2.2 e (List.mem_of_mem_filter he)
  exact ⟨h0, Option.isSome_iff_exists.mp hsome⟩

/-- The sixteen places for the moves gained are enough. -/
theorem movesLearnedBetween_eq (hdex : IsSpecies dex) :
    gen1MovesLearnedBetween dex fromLevel toLevel 16 = levelUpMoves dex fromLevel toLevel := by
  unfold gen1MovesLearnedBetween
  rw [if_neg hdex]
  exact List.take_of_length_le ((levelUpMoves_length dex fromLevel toLevel).trans (by decide))

/-! ### A mon that grew -/

/-- What check-out makes of a mon's moves: `s` before, `l` with what was learned, `t` after what was pending. -/
structure LevelledUp (i : ℕ) (gained : List UInt8) (s : Image) (l : Learning) (t : Image) : Prop where
  distinct : DistinctMoves t i
  changed : ∀ k, moveCells t i k = moveCells s i k ∨
    (moveCells t i k).1 ∈ gained ∧ ∃ m, gen1Move (moveCells t i k).1 = some m ∧ (moveCells t i k).2 = m.pp
  settled : ∀ mv ∈ gained, Knows s i mv ∨ Knows t i mv ∨ ∃ mv', [mv, mv'].Sublist gained ∧ l.GaveWay i mv mv'
  offered : ∀ mv ∈ gained, Knows s i mv ∨ mv ∈ l.learned ∨ mv ∈ l.pending
  kept : ∀ k : Fin 4, ¬ l.Replaced i k.val → moveCells t i k = moveCells s i k ∨
    (moveCells s i k).1 = 0 ∧ (moveCells t i k).1 ∈ l.learned
  others : SameOff (MoveField i) s t

theorem settle_off (s : Image) (i : ℕ) (dex fromLevel toLevel : UInt8) :
    SameOff (MoveField i) s ((learnMoves s i dex fromLevel toLevel).settle i) := by
  have hset : ∀ u k mv, SameOff (MoveField i) s u → SameOff (MoveField i) s (setMove u i k mv) :=
    fun u k mv hu => hu.trans (setMove_off u i k mv)
  exact List.foldlRecOn _ _ (learnMoves_keeps hset (.refl _ s) dex fromLevel toLevel)
    fun u hu mv _ => hset u _ mv hu

theorem freshCell_valid (h : mv ∈ levelUpMoves dex fromLevel toLevel) :
    ∃ m, gen1Move (freshCell mv).1 = some m ∧ (freshCell mv).2 = m.pp := by
  obtain ⟨-, m, hm⟩ := levelUpMoves_valid h
  refine ⟨m, hm, ?_⟩
  show basePp mv = m.pp
  rw [basePp_eq]
  unfold movePp
  rw [hm]
  rfl

section

variable {gained : List UInt8} (h : Taught (moveCells s i) (moveCells l.image i) gained l.learned l.pending)
  (hi : i < 6)

include h hi

theorem settle_distinct (hnodup : gained.Nodup) : DistinctMoves (l.settle i) i := by
  unfold DistinctMoves Learning.settle
  rw [moveCells_replaced hi]
  refine distinct_offers h.distinct (fun a ha k he => ?_) ?_
  · obtain ⟨m, hm, rfl⟩ := List.mem_map.mp ha
    exact h.waiting m hm ⟨k, he⟩
  · rw [map_fst_freshCell]
    exact hnodup.sublist ((List.sublist_append_right ..).trans h.order)

theorem settle_changed (k : Fin 4) : moveCells (l.settle i) i k = moveCells s i k ∨
    ∃ m ∈ gained, moveCells (l.settle i) i k = freshCell m := by
  unfold Learning.settle
  rw [moveCells_replaced hi]
  rcases offers_mem weakest (moveCells l.image i) (l.pending.map freshCell) k with he | he
  · rw [he]
    exact (h.cells k).imp id fun ⟨_, m, hm, hf⟩ => ⟨m, h.order.subset (List.mem_append_left _ hm), hf⟩
  · obtain ⟨m, hm, hf⟩ := List.mem_map.mp he
    exact .inr ⟨m, h.order.subset (List.mem_append_right _ hm), hf.symm⟩

theorem settle_kept {k : Fin 4} (hk : ¬ l.Replaced i k.val) : moveCells (l.settle i) i k = moveCells s i k ∨
    (moveCells s i k).1 = 0 ∧ (moveCells (l.settle i) i k).1 ∈ l.learned := by
  unfold Learning.settle
  rw [moveCells_replaced hi, offers_of_not_taken fun ht => hk (replaced_of_taken hi ht)]
  refine (h.cells k).imp id fun ⟨h0, m, hm, hf⟩ => ⟨h0, ?_⟩
  rw [hf]
  exact hm

/-- What was learned stays or makes room for what comes later. -/
theorem settle_settled (hmv : mv ∈ gained) (h0 : mv ≠ 0) :
    Knows s i mv ∨ Knows (l.settle i) i mv ∨ ∃ mv', [mv, mv'].Sublist gained ∧ l.GaveWay i mv mv' := by
  have hcells := moveCells_replaced hi l.image l.pending
  have hend : ∀ a : MoveCell, a.1 = mv →
      (∃ k, offers weakest (moveCells l.image i) (l.pending.map freshCell) k = a) → Knows (l.settle i) i mv := by
    rintro a ha ⟨k, hk⟩
    refine knows_iff.mpr ⟨h0, k, ?_⟩
    unfold Learning.settle
    rw [hcells, hk, ha]
  rcases h.offered mv hmv with hhas | hmem
  · exact .inl (knows_iff.mpr ⟨h0, hhas⟩)
  · right
    rcases List.mem_append.mp hmem with hm | hm
    · obtain ⟨k, hk⟩ := h.got mv hm
      rcases stays_or_makes_room weakest (l.pending.map freshCell) ⟨k, rfl⟩ with hs | ⟨b, hb, hroom⟩
      · exact .inl (hend _ hk hs)
      · obtain ⟨mv', hm', rfl⟩ := List.mem_map.mp hb
        refine .inr ⟨mv', ?_, hk ▸ gaveWay_of_madeRoom hi hroom⟩
        exact ((List.singleton_sublist.mpr hm).append (List.singleton_sublist.mpr hm')).trans h.order
    · rcases offered_stays_or_makes_room weakest (moveCells l.image i)
        (List.mem_map_of_mem (f := freshCell) hm) with hs | ⟨b, hsub, hroom⟩
      · exact .inl (hend _ rfl hs)
      · have hfst := hsub.map Prod.fst
        rw [map_fst_freshCell] at hfst
        exact .inr ⟨b.1, (hfst.trans (List.sublist_append_right ..)).trans h.order,
          gaveWay_of_madeRoom hi hroom⟩

end

/-- Level-up moves are neither lost nor learned twice. -/
theorem level_up_moves (hi : i < 6) (hdex : IsSpecies dex) (hlevel : fromLevel < toLevel)
    (hd : DistinctMoves s i) :
    LevelledUp i (levelUpMoves dex fromLevel toLevel) s (learnMoves s i dex fromLevel toLevel)
      ((learnMoves s i dex fromLevel toLevel).settle i) := by
  have hvalid : ∀ m ∈ levelUpMoves dex fromLevel toLevel, m ≠ 0 := fun m hm => (levelUpMoves_valid hm).1
  have hl : learnMoves s i dex fromLevel toLevel =
      (levelUpMoves dex fromLevel toLevel).foldl (learnMove i) ⟨s, [], []⟩ := by
    unfold learnMoves
    rw [if_neg (not_or.mpr ⟨by omega, not_or.mpr ⟨not_not.mpr hdex, UInt8.not_le.mpr hlevel⟩⟩),
      movesLearnedBetween_eq hdex]
  have hrun := taught_run hi hd (levelUpMoves dex fromLevel toLevel) hvalid (levelUpMoves_length ..)
  rw [← hl] at hrun
  refine
    { distinct := settle_distinct hrun hi (levelUpMoves_nodup ..)
      changed := fun k => (settle_changed hrun hi k).imp id ?_
      settled := fun mv hmv => settle_settled hrun hi hmv (hvalid mv hmv)
      offered := fun mv hmv =>
        (hrun.offered mv hmv).imp (fun h => knows_iff.mpr ⟨hvalid mv hmv, h⟩) List.mem_append.mp
      kept := fun k => settle_kept hrun hi
      others := settle_off s i dex fromLevel toLevel }
  rintro ⟨m, hm, hf⟩
  rw [hf]
  exact ⟨hm, freshCell_valid hm⟩

/-- A Pikachu that grows from level 5 to 43 fills its four places and replaces its weakest move once. -/
theorem level_up_moves_pikachu :
    LevelledUp 0 (levelUpMoves 25 5 43) (soloSave 0x54 5 125) (learnMoves (soloSave 0x54 5 125) 0 25 5 43)
      ((learnMoves (soloSave 0x54 5 125) 0 25 5 43).settle 0) :=
  level_up_moves (by decide) (by decide) (by decide) (by decide +kernel)

end MonsterMesh
