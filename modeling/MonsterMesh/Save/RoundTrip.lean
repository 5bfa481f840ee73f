import MonsterMesh.Save.WriteBack

/-! A party loaded, credited and written back: which bytes of the save it changes. -/
namespace MonsterMesh

open DaycareSavPatcher Image

variable {s : Image} {i k x : ℕ}

/-! ### Loading and crediting one mon -/

theorem healMon_at (m : Image) (hk : ¬ KeptByte k) : healMon m k = m k := by
  unfold KeptByte Within at hk
  unfold healMon
  rw [write_off, write_off, write_off]
  · rw [length_read]
    unfold Within
    omega
  · unfold Within
    simp only [List.length_singleton]
    omega
  · rw [List.length_map, length_read]
    unfold Within
    omega

/-- EXP and the two level bytes, as offsets in a record. -/
def GrowthByte (k : ℕ) : Prop :=
  Within pkmExp 3 k ∨ k = pkmLevelPc ∨ k = pkmLevelParty

theorem creditMon_off (m : Image) (add : UInt32) : SameOff GrowthByte m (creditMon m add) := by
  have hone : ∀ a x, Within a 1 x → x = a := by
    intro a x hx
    unfold Within at hx
    omega
  unfold creditMon
  dsimp only
  split_ifs
  · exact .refl _ m
  · exact ((write24_sameOff _ fun x hx => .inl hx).trans
      (write_sameOff _ fun x hx => .inr (.inr (hone _ x hx)))).trans
      (write_sameOff _ fun x hx => .inr (.inl (hone _ x hx)))
  · exact write24_sameOff _ fun x hx => .inl hx

theorem creditMon_zero (m : Image) : creditMon m 0 = m := if_pos rfl

/-! ### Crediting a party any number of times -/

namespace PartyBlock

variable {p : PartyBlock}

/-- All the credits of a list, in order. -/
def creditAll (p : PartyBlock) (xps : List (ℕ → UInt32)) : PartyBlock :=
  xps.foldl creditBattleXpPerSlot p

/-- Slot `i` received XP. -/
def Received (xps : List (ℕ → UInt32)) (i : ℕ) : Prop := ∃ xp ∈ xps, xp i ≠ 0

theorem creditAll_kept (p : PartyBlock) (xps : List (ℕ → UInt32)) :
    (p.creditAll xps).count = p.count ∧ (p.creditAll xps).species = p.species ∧
      (p.creditAll xps).otNames = p.otNames ∧ (p.creditAll xps).nicknames = p.nicknames :=
  List.foldlRecOn
    (motive := fun q : PartyBlock => q.count = p.count ∧ q.species = p.species ∧ q.otNames = p.otNames ∧
      q.nicknames = p.nicknames) xps _ ⟨rfl, rfl, rfl, rfl⟩ fun _ h _ _ => h

theorem creditAll_slots (p : PartyBlock) (xps : List (ℕ → UInt32)) :
    (p.creditAll xps).slots = p.slots := by
  unfold slots
  rw [(p.creditAll_kept xps).1]

theorem credit_mon (p : PartyBlock) (xp : ℕ → UInt32) (i : ℕ) :
    SameOff GrowthByte (p.mons i) ((p.creditBattleXpPerSlot xp).mons i) := by
  change SameOff _ _ (if i < p.count.toNat ∧ i < 6 then creditMon (p.mons i) (xp i) else p.mons i)
  split_ifs
  · exact creditMon_off _ _
  · exact .refl _ _

theorem creditAll_mon (p : PartyBlock) (xps : List (ℕ → UInt32)) (i : ℕ) :
    SameOff GrowthByte (p.mons i) ((p.creditAll xps).mons i) :=
  List.foldlRecOn (motive := fun q : PartyBlock => SameOff GrowthByte (p.mons i) (q.mons i)) xps _
    (.refl _ _) fun q h xp _ => h.trans (q.credit_mon xp i)

theorem creditAll_idle {xps : List (ℕ → UInt32)} (h : ¬ Received xps i) (p : PartyBlock) :
    (p.creditAll xps).mons i = p.mons i := by
  refine List.foldlRecOn (motive := fun q : PartyBlock => q.mons i = p.mons i) xps _ rfl
    fun q hq xp hxp => ?_
  have hz : xp i = 0 := not_not.mp fun hne => h ⟨xp, hxp, hne⟩
  change (if i < q.count.toNat ∧ i < 6 then creditMon (q.mons i) (xp i) else q.mons i) = _
  rw [hz, creditMon_zero, ite_self]
  exact hq

end PartyBlock

/-! ### The loaded party -/

theorem loadParty_slots (s : Image) : (loadParty s).slots = min (s savPartyCount).toNat 6 := by
  have hle : min (s savPartyCount).toNat 6 ≤ 6 := Nat.min_le_right ..
  unfold PartyBlock.slots loadParty
  dsimp only
  rw [UInt8.toNat_ofNat']
  omega

theorem loadParty_mon (hi : i < (loadParty s).slots) (hk : k < savPokemonSize)
    (hkept : ¬ KeptByte k) : (loadParty s).mons i k = s (pkm i + k) := by
  rw [loadParty_slots] at hi
  unfold loadParty
  dsimp only
  rw [if_pos hi, healMon_at _ hkept, if_pos hk]

theorem loadParty_plain {a n j : ℕ} (hi : i < (loadParty s).slots) (h : PlainField a n)
    (hj : j < n) : (loadParty s).mons i (a + j) = s (pkm i + a + j) := by
  obtain ⟨hk, hkept⟩ := h.at hj
  rw [Nat.add_assoc, loadParty_mon hi hk hkept]

theorem loadParty_nickname (hi : i < (loadParty s).slots) :
    (loadParty s).nicknames i = loadName fun k => s (nickname i + k) := by
  rw [loadParty_slots] at hi
  exact if_pos hi

/-! ### The frame of a round trip -/

/-- A loaded party credited and written back to the save it was loaded from. -/
def writeBack (s : Image) (xps : List (ℕ → UInt32)) : Image :=
  writeParty s ((loadParty s).creditAll xps)

/-- The bytes a round trip is meant to change. -/
def CreditedByte (s : Image) (xps : List (ℕ → UInt32)) (x : ℕ) : Prop :=
  x = savChecksumOffset ∨
    ∃ i < min (s savPartyCount).toNat 6, PartyBlock.Received xps i ∧
      ∃ k, GrowthByte k ∧ x = pkm i + k

/-- The names hold what a load keeps of them: no OT name at all, and nothing after the terminator of
a nickname. -/
def NamesBare (s : Image) : Prop :=
  ∀ i < min (s savPartyCount).toNat 6, ∀ k < savNameSize,
    s (otName i + k) = 0 ∧
      ((∃ j < k, s (nickname i + j) = savTerminator) → s (nickname i + k) = 0)

theorem loadName_eq_iff {n : Image} (hk : k < savNameSize) :
    loadName n k = n k ↔ ((∃ j < k, n j = savTerminator) → n k = 0) := by
  unfold loadName
  by_cases h : ∃ j < k, n j = savTerminator
  · rw [if_neg fun hn => by obtain ⟨j, hj, he⟩ := h; exact hn.2 j hj he]
    exact ⟨fun h0 _ => h0.symm, fun h0 => (h0 h).symm⟩
  · rw [if_pos ⟨hk, fun j hj he => h ⟨j, hj, he⟩⟩]
    exact ⟨fun _ hex => absurd hex h, fun _ => rfl⟩

theorem growthByte_lt (h : GrowthByte k) : k < savPokemonSize := by
  unfold GrowthByte Within pkmExp pkmLevelPc pkmLevelParty at h
  unfold savPokemonSize
  omega

theorem name_not_credited {xps : List (ℕ → UInt32)} (hi : i < 6) (hx : NameBytes i x) :
    ¬ CreditedByte s xps x := by
  rintro (rfl | ⟨j, hj, _, k, hk, rfl⟩)
  · exact Nat.lt_irrefl _ (nameBytes_lt_checksum hi hx)
  · have hk' := growthByte_lt hk
    exact nameBytes_not_record hi (by omega) hx ⟨Nat.le_add_right _ k, by omega⟩

theorem writeBack_record {xps : List (ℕ → UInt32)} (hi : i < (loadParty s).slots)
    (hk : k < savPokemonSize) (hx : ¬ (PartyBlock.Received xps i ∧ GrowthByte k)) :
    writeBack s xps (pkm i + k) = s (pkm i + k) := by
  unfold writeBack
  rw [writeParty_record (by rwa [PartyBlock.creditAll_slots]) hk]
  split_ifs with hkept
  · rfl
  · rw [← loadParty_mon hi hk hkept]
    by_cases hr : PartyBlock.Received xps i
    · exact (loadParty s).creditAll_mon xps i k fun hg => hx ⟨hr, hg⟩
    · exact congrFun (PartyBlock.creditAll_idle hr _) k

theorem writeBack_otName {xps : List (ℕ → UInt32)} (hi : i < (loadParty s).slots)
    (hk : k < savNameSize) : writeBack s xps (otName i + k) = 0 := by
  unfold writeBack
  rw [writeParty_otName (by rwa [PartyBlock.creditAll_slots]) hk,
    ((loadParty s).creditAll_kept xps).2.2.1]
  rfl

theorem writeBack_nickname {xps : List (ℕ → UInt32)} (hi : i < (loadParty s).slots)
    (hk : k < savNameSize) :
    writeBack s xps (nickname i + k) = loadName (fun k => s (nickname i + k)) k := by
  unfold writeBack
  rw [writeParty_nickname (by rwa [PartyBlock.creditAll_slots]) hk,
    ((loadParty s).creditAll_kept xps).2.2.2, loadParty_nickname hi]

theorem writeBack_head {xps : List (ℕ → UInt32)} (hc : (s savPartyCount).toNat ≤ 6)
    (hx : HeadBytes x) : writeBack s xps x = s x := by
  obtain ⟨_, hspecies, _⟩ := (loadParty s).creditAll_kept xps
  unfold writeBack
  rcases hx with rfl | hx
  · rw [writeParty_count, PartyBlock.creditAll_slots, loadParty_slots, Nat.min_eq_left hc,
      UInt8.ofNat_toNat]
  · obtain ⟨k, rfl⟩ := Nat.exists_eq_add_of_le hx.1
    have hk : k < 7 := Nat.lt_of_add_lt_add_left hx.2
    rw [writeParty_species hk, hspecies]
    exact if_pos hk

/-- What a round trip changes in a save is the credited EXP and levels and the checksum, exactly
when the names of the party hold nothing a load would not keep. -/
theorem writeBack_frame (s : Image) (hc : (s savPartyCount).toNat ≤ 6)
    (xps : List (ℕ → UInt32)) :
    SameOff (CreditedByte s xps) s (writeBack s xps) ↔ NamesBare s := by
  have hslots := loadParty_slots s
  constructor
  · intro h i hi k hk
    have hi6 : i < 6 := by omega
    have hot : NameBytes i (otName i + k) := .inl ⟨Nat.le_add_right _ k, by omega⟩
    have hnick : NameBytes i (nickname i + k) := .inr ⟨Nat.le_add_right _ k, by omega⟩
    refine ⟨?_, ?_⟩
    · rw [← h _ (name_not_credited hi6 hot)]
      exact writeBack_otName (hslots ▸ hi) hk
    · refine (loadName_eq_iff (n := fun k => s (nickname i + k)) hk).mp ?_
      rw [← writeBack_nickname (hslots ▸ hi) hk]
      exact h _ (name_not_credited hi6 hnick)
  · intro h x hx
    by_cases hp : PartyByte ((loadParty s).creditAll xps).slots x
    · rw [PartyBlock.creditAll_slots, hslots] at hp
      rcases hp with hsum | hhead | ⟨i, hi, hrec | hot | hnick⟩
      · exact absurd (.inl hsum) hx
      · exact writeBack_head hc hhead
      · obtain ⟨k, rfl⟩ := Nat.exists_eq_add_of_le hrec.1
        have hk : k < savPokemonSize := Nat.lt_of_add_lt_add_left hrec.2
        exact writeBack_record (hslots ▸ hi) hk
          fun hr => hx (.inr ⟨i, hi, hr.1, k, hr.2, rfl⟩)
      · obtain ⟨k, rfl⟩ := Nat.exists_eq_add_of_le hot.1
        have hk : k < savNameSize := Nat.lt_of_add_lt_add_left hot.2
        rw [writeBack_otName (hslots ▸ hi) hk, (h i hi k hk).1]
      · obtain ⟨k, rfl⟩ := Nat.exists_eq_add_of_le hnick.1
        have hk : k < savNameSize := Nat.lt_of_add_lt_add_left hnick.2
        rw [writeBack_nickname (hslots ▸ hi) hk]
        exact (loadName_eq_iff (n := fun k => s (nickname i + k)) hk).mpr (h i hi k hk).2
    · exact writeParty_off s _ x hp

theorem writeBack_frame_pikachu :
    SameOff (CreditedByte (soloSave 0x54 5 125) [fun _ => 10]) (soloSave 0x54 5 125)
      (writeBack (soloSave 0x54 5 125) [fun _ => 10]) := by
  refine (writeBack_frame (soloSave 0x54 5 125) (by decide) _).mpr ?_
  unfold NamesBare
  decide +kernel

/-- A party mon whose trainer is RED. -/
def redSave : Image := (soloSave 0x54 5 125).write savOtNames [0x91, 0x84, 0x83, 0x50]

/-- Without any credit the trainer's name is gone from the save. -/
theorem writeBack_wipes_otName :
    ¬ SameOff (CreditedByte redSave []) redSave (writeBack redSave []) := by
  intro h
  have hname : NameBytes 0 (otName 0 + 0) := .inl (by decide)
  have hsame := h _ (name_not_credited (by decide) hname)
  rw [writeBack_otName (by decide) (by decide)] at hsame
  exact absurd hsame (by decide)

end MonsterMesh
