import MonsterMesh.Daycare.State
import MonsterMesh.Save.Frames

/-! What a check-out does to the save: the slots it credits, and the bytes it may change. -/
namespace MonsterMesh

open DaycareSavPatcher Image

variable {st : DaycareState} {s : Image} {i : ℕ}

/-! ### Teaching a slot -/

theorem teach_keeps {P : Image → Prop} (hset : ∀ s k mv, P s → P (setMove s i k mv)) (hs : P s)
    (dex oldLevel : UInt8) : P (teach s i dex oldLevel).1 := by
  unfold teach
  exact List.foldlRecOn _ _ (learnMoves_keeps hset hs dex oldLevel _)
    fun s hs mv _ => hset s _ mv hs

theorem teach_idle {dex oldLevel : UInt8} (h : (teach s i dex oldLevel).2 = false) :
    (teach s i dex oldLevel).1 = s := by
  unfold teach at *
  simp only [Bool.or_eq_false_iff, Bool.not_eq_false', List.isEmpty_iff] at h
  obtain ⟨h₀, h₁⟩ := h
  dsimp only
  rw [h₁]
  exact learnMoves_idle h₀ h₁

/-! ### The two passes over the credited slots -/

theorem mem_creditedSlots :
    i ∈ st.creditedSlots ↔
      (i < st.partyCount.toNat ∧ i < 6) ∧ 0 < (st.pokemon i).totalXpGained := by
  unfold DaycareState.creditedSlots
  rw [List.mem_filter, List.mem_range, Nat.lt_min, decide_eq_true_eq]

theorem creditedSlots_lt (h : i ∈ st.creditedSlots) : i < 6 := (mem_creditedSlots.mp h).1.2

theorem creditedSlots_nodup (st : DaycareState) : st.creditedSlots.Nodup :=
  List.nodup_range.filter _

namespace DaycareState

/-- The experience of every credited slot added. -/
def patched (st : DaycareState) (s : Image) : Image :=
  st.creditedSlots.foldl
    (fun s i => patchPokemon s i (st.pokemon i).speciesDex (st.pokemon i).totalXpGained) s

/-- One slot of the second pass; the old levels are those of `s`. -/
def teachSlot (st : DaycareState) (s : Image) (r : Image × Bool) (i : ℕ) : Image × Bool :=
  let t := teach r.1 i (st.pokemon i).speciesDex (s (pkm i + pkmLevelParty))
  (t.1, r.2 || t.2)

/-- The second pass, from the image `u` of the first. -/
def taught (st : DaycareState) (s u : Image) : Image × Bool :=
  st.creditedSlots.foldl (st.teachSlot s) (u, false)

theorem checkOut_nil (h : st.creditedSlots = []) : st.checkOut s = s := by
  have hslots : (List.range (min st.partyCount.toNat 6)).filter
      (fun i => 0 < (st.pokemon i).totalXpGained) = [] := h
  unfold checkOut checkout
  rw [h, hslots]
  rfl

theorem checkOut_eq (h : st.creditedSlots ≠ []) :
    st.checkOut s =
      let r := st.taught s (fixChecksum (st.patched s))
      if r.2 then fixChecksum r.1 else r.1 := by
  have hslots : (List.range (min st.partyCount.toNat 6)).filter
      (fun i => 0 < (st.pokemon i).totalXpGained) ≠ [] := h
  unfold checkOut checkout
  dsimp only
  rw [if_neg hslots]
  rfl

theorem taught_keeps {P : Image → Prop}
    (hset : ∀ s, ∀ i ∈ st.creditedSlots, ∀ k mv, P s → P (setMove s i k mv)) {u : Image}
    (hu : P u) : P (st.taught s u).1 := by
  unfold taught
  refine List.foldlRecOn (motive := fun r : Image × Bool => P r.1) _ _ hu fun r hr i hi => ?_
  exact teach_keeps (fun s => hset s i hi) hr ..

/-- A pass that teaches nothing writes nothing. -/
theorem taught_idle {u : Image} (h : (st.taught s u).2 = false) : (st.taught s u).1 = u := by
  have hall : ∀ (l : List ℕ) (r : Image × Bool), (l.foldl (st.teachSlot s) r).2 = false →
      r.2 = false ∧ (l.foldl (st.teachSlot s) r).1 = r.1 := by
    intro l
    induction l with
    | nil => exact fun r hr => ⟨hr, rfl⟩
    | cons i l ih =>
      intro r hr
      obtain ⟨hflag, himage⟩ := ih _ hr
      obtain ⟨hr₀, ht⟩ := Bool.or_eq_false_iff.mp hflag
      exact ⟨hr₀, himage.trans (teach_idle ht)⟩
  exact (hall _ _ h).2

theorem checkOut_keeps_taught {P : Image → Prop}
    (hset : ∀ s, ∀ i ∈ st.creditedSlots, ∀ k mv, P s → P (setMove s i k mv))
    (hfix : ∀ s, P s → P (fixChecksum s)) (hne : st.creditedSlots ≠ []) (hp : P (st.patched s)) :
    P (st.checkOut s) := by
  have ht := taught_keeps (s := s) hset (hfix _ hp)
  rw [checkOut_eq hne]
  dsimp only
  split_ifs
  · exact hfix _ ht
  · exact ht

/-- A property kept by every write of a check-out is kept by the check-out. -/
theorem checkOut_keeps {P : Image → Prop}
    (hpatch : ∀ s, ∀ i ∈ st.creditedSlots,
      ∀ dex xp, P s → P (patchPokemon s i dex xp))
    (hset : ∀ s, ∀ i ∈ st.creditedSlots, ∀ k mv, P s → P (setMove s i k mv))
    (hfix : ∀ s, P s → P (fixChecksum s)) (hs : P s) : P (st.checkOut s) := by
  by_cases hne : st.creditedSlots = []
  · rw [checkOut_nil hne]
    exact hs
  · refine checkOut_keeps_taught hset hfix hne ?_
    unfold patched
    exact List.foldlRecOn _ _ hs fun s hs i hi => hpatch s i hi _ _ hs

/-! ### What a record holds afterwards -/

/-- The bytes of the credited slots that a check-out writes, and the checksum. -/
def EarnedByte (st : DaycareState) (x : ℕ) : Prop :=
  x = savChecksumOffset ∨ ∃ i ∈ st.creditedSlots, PatchField i x ∨ MoveField i x

theorem checkOut_off (st : DaycareState) (s : Image) :
    SameOff st.EarnedByte s (st.checkOut s) := by
  refine checkOut_keeps (P := SameOff st.EarnedByte s) ?_ ?_ ?_ (.refl _ s)
  · intro u i hi dex xp hu
    exact hu.trans ((patchPokemon_off u i dex xp).mono fun x hx => .inr ⟨i, hi, .inl hx⟩)
  · intro u i hi k mv hu
    exact hu.trans ((setMove_off u i k mv).mono fun x hx => .inr ⟨i, hi, .inr hx⟩)
  · intro u hu
    exact hu.trans ((fixChecksum_off u).mono fun x hx => .inl hx)

/-- The record of a slot that earned nothing stays. -/
theorem checkOut_record_kept (hi : i < 6) (h : i ∉ st.creditedSlots) :
    SameOn (Record i) s (st.checkOut s) := by
  refine (checkOut_off st s).sameOn fun x hx => ?_
  rintro (rfl | ⟨j, hj, hf⟩)
  · exact Nat.lt_irrefl _ (record_lt_checksum hi hx)
  · have hne : i ≠ j := fun he => h (he ▸ hj)
    exact record_disjoint hne hx (hf.elim PatchField.record MoveField.record)

/-- In a credited record the fields of the patch are those the patch left. -/
theorem checkOut_patched (h : i ∈ st.creditedSlots) :
    ∃ u, SameOn (Record i) s u ∧
      SameOn (PatchField i)
        (patchPokemon u i (st.pokemon i).speciesDex (st.pokemon i).totalXpGained)
        (st.checkOut s) := by
  have hoff : ∀ s i, SameOff (Record i) s
      (patchPokemon s i (st.pokemon i).speciesDex (st.pokemon i).totalXpGained) :=
    fun s i => (patchPokemon_off s i _ _).mono fun x => PatchField.record
  obtain ⟨u, hu, hend⟩ := foldl_sameOn hoff (creditedSlots_nodup st)
    (fun i _ j _ x => record_disjoint) h s
  refine ⟨u, hu, ?_⟩
  refine checkOut_keeps_taught ?_ ?_ (List.ne_nil_of_mem h) fun x hx => hend x hx.record
  · intro v j _ k mv hv
    refine hv.trans ((setMove_off v j k mv).sameOn fun x hx hm => ?_)
    by_cases he : i = j
    · exact hm.not_patchField (he ▸ hx)
    · exact record_disjoint he hx.record hm.record
  · intro v hv
    refine hv.trans ((fixChecksum_off v).sameOn fun x hx he => ?_)
    have := record_lt_checksum (creditedSlots_lt h) hx.record
    omega

/-- The experience after a check-out. -/
theorem checkOut_exp (hi : i < 6) :
    (st.checkOut s).read24 (pkm i + pkmExp) =
      if i ∈ st.creditedSlots ∧ IsSpecies (st.pokemon i).speciesDex then
        creditedExp (st.pokemon i).speciesDex (s.read24 (pkm i + pkmExp))
          (st.pokemon i).totalXpGained
      else s.read24 (pkm i + pkmExp) := by
  by_cases h : i ∈ st.creditedSlots
  · obtain ⟨u, hu, hend⟩ := checkOut_patched (s := s) h
    have hread : u.read24 (pkm i + pkmExp) = s.read24 (pkm i + pkmExp) :=
      hu.read24 fun x hx => (within_exp x hx).record
    rw [hend.read24 within_exp]
    by_cases hdex : IsSpecies (st.pokemon i).speciesDex
    · rw [if_pos ⟨h, hdex⟩, read24_patchPokemon hi hdex, hread]
    · rw [if_neg (not_and_of_not_right _ hdex), patchPokemon_skip (.inr hdex), hread]
  · rw [if_neg (not_and_of_not_left _ h)]
    exact (checkOut_record_kept hi h).read24 fun x hx => (within_exp x hx).record

/-- The level after a check-out. -/
theorem checkOut_level (hi : i < 6) :
    st.checkOut s (pkm i + pkmLevelParty) =
      if i ∈ st.creditedSlots ∧ IsSpecies (st.pokemon i).speciesDex then
        UInt8.ofNat (levelForExp (st.pokemon i).speciesDex
          (creditedExp (st.pokemon i).speciesDex (s.read24 (pkm i + pkmExp))
            (st.pokemon i).totalXpGained))
      else s (pkm i + pkmLevelParty) := by
  have hfield : PatchField i (pkm i + pkmLevelParty) :=
    .inr (.inr (.inl ⟨Nat.le_refl _, Nat.lt_succ_self _⟩))
  by_cases h : i ∈ st.creditedSlots
  · obtain ⟨u, hu, hend⟩ := checkOut_patched (s := s) h
    have hread : u.read24 (pkm i + pkmExp) = s.read24 (pkm i + pkmExp) :=
      hu.read24 fun x hx => (within_exp x hx).record
    rw [hend _ hfield]
    by_cases hdex : IsSpecies (st.pokemon i).speciesDex
    · rw [if_pos ⟨h, hdex⟩, levels_patchPokemon hi hdex (.inr rfl), hread]
    · rw [if_neg (not_and_of_not_right _ hdex), patchPokemon_skip (.inr hdex), hu _ hfield.record]
  · rw [if_neg (not_and_of_not_left _ h)]
    exact checkOut_record_kept hi h _ hfield.record

end DaycareState
end MonsterMesh
