import MonsterMesh.Save.Frames
import MonsterMesh.Save.Patcher

/-! The party the terminal battles with: read from the save on the card, credited in memory, and
written back. -/
namespace MonsterMesh

open DaycareSavPatcher

/-- `Gen1Party` as its bytes: the species list, the 44-byte records, and the two name tables. -/
structure PartyBlock where
  count : UInt8
  species : Image
  mons : ℕ → Image
  (otNames nicknames : ℕ → Image)

def otName (i : ℕ) : ℕ := savOtNames + i * savNameSize

def nickname (i : ℕ) : ℕ := savNicknames + i * savNameSize

def savTerminator : UInt8 := 0x50

/-! ### Loading -/

/-- The PP a move is healed to; 25 for one that is not in the table. -/
def healedPp (mv : UInt8) : UInt8 :=
  match gen1Move mv with
  | some md => md.pp
  | none => if mv = 0 then 0 else 25

/-- Full HP, no status, full PP. -/
def healMon (m : Image) : Image :=
  ((m.write pkmCurrentHp (m.read pkmMaxHp 2)).write pkmStatus [0]).write pkmPp
    ((m.read pkmMoves 4).map healedPp)

/-- A name is copied up to its terminator; the rest of the buffer stays zero. -/
def loadName (nick : Image) : Image :=
  fun k => if k < savNameSize ∧ ∀ j < k, nick j ≠ savTerminator then nick k else 0

/-- `loadPartyFromSavOnSd`: the OT names are not read. -/
def loadParty (s : Image) : PartyBlock :=
  let count := min (s savPartyCount).toNat 6
  { count := UInt8.ofNat count
    species := fun k => if k < 7 then s (savSpeciesList + k) else 0
    mons := fun i =>
      if i < count then healMon fun k => if k < savPokemonSize then s (pkm i + k) else 0
      else fun _ => 0
    otNames := fun _ _ => 0
    nicknames := fun i => if i < count then loadName fun k => s (nickname i + k) else fun _ => 0 }

/-! ### Crediting -/

/-- The largest level whose cube is within the experience. -/
def levelFromExpMediumFast (exp : ℕ) : ℕ := climb (fun lvl => lvl * lvl * lvl) exp 99 1

/-- The 32-bit sum, capped at a million. -/
def battleExp (exp : ℕ) (add : UInt32) : ℕ := min ((exp + add.toNat) % 4294967296) 1000000

/-- One mon credited; the level only rises. -/
def creditMon (m : Image) (add : UInt32) : Image :=
  if add = 0 then m
  else
    let newExp := battleExp (m.read24 pkmExp) add
    let newLevel := levelFromExpMediumFast newExp
    let m := m.write24 pkmExp newExp
    if (m pkmLevelParty).toNat < newLevel then
      (m.write pkmLevelParty [UInt8.ofNat newLevel]).write pkmLevelPc [UInt8.ofNat newLevel]
    else m

/-- `creditBattleXpPerSlot` of a loaded party. -/
def PartyBlock.creditBattleXpPerSlot (p : PartyBlock) (xp : ℕ → UInt32) : PartyBlock :=
  { p with mons := fun i =>
      if i < p.count.toNat ∧ i < 6 then creditMon (p.mons i) (xp i) else p.mons i }

/-! ### Writing back -/

/-- HP, status and PP of a record put back as `orig` has them. -/
def restoreMon (orig b : Image) (i : ℕ) : Image :=
  ((b.write (pkm i + pkmCurrentHp) (orig.read (pkm i + pkmCurrentHp) 2)).write
    (pkm i + pkmStatus) (orig.read (pkm i + pkmStatus) 1)).write
    (pkm i + pkmPp) (orig.read (pkm i + pkmPp) 4)

def copyMon (p : PartyBlock) (b : Image) (i : ℕ) : Image :=
  b.write (pkm i) ((p.mons i).read 0 savPokemonSize)

def copyNames (p : PartyBlock) (b : Image) (i : ℕ) : Image :=
  (b.write (otName i) ((p.otNames i).read 0 savNameSize)).write (nickname i)
    ((p.nicknames i).read 0 savNameSize)

/-- `writePartyToSavOnSd` -/
def writeParty (s : Image) (p : PartyBlock) : Image :=
  let count := min p.count.toNat 6
  let buf := s.write savPartyCount [UInt8.ofNat count]
  let buf := buf.write savSpeciesList (p.species.read 0 7)
  let mons := (List.range count).foldl (copyMon p) buf
  let mons := (List.range count).foldl (restoreMon buf) mons
  fixChecksum ((List.range count).foldl (copyNames p) mons)

end MonsterMesh

/-! What a write-back leaves of a save: every region of the party block, and the rest. -/
namespace MonsterMesh

open DaycareSavPatcher Image

variable {s t : Image} {p : PartyBlock} {i j k x : ℕ}

/-- The slots a write-back covers. -/
def PartyBlock.slots (p : PartyBlock) : ℕ := min p.count.toNat 6

theorem slots_le (p : PartyBlock) : p.slots ≤ 6 := Nat.min_le_right ..

/-! ### Regions -/

def NameBytes (i x : ℕ) : Prop := Within (otName i) savNameSize x ∨ Within (nickname i) savNameSize x

/-- Count and species list. -/
def HeadBytes (x : ℕ) : Prop := x = savPartyCount ∨ Within savSpeciesList 7 x

theorem nameBytes_disjoint (hi : i < 6) (hj : j < 6) (hne : i ≠ j) (h : NameBytes i x) :
    ¬ NameBytes j x := by
  unfold NameBytes Within otName nickname savOtNames savNicknames savNameSize at *
  omega

theorem nameBytes_not_record (hi : i < 6) (hj : j < 6) (h : NameBytes i x) : ¬ Record j x := by
  unfold NameBytes Record Within otName nickname pkm savOtNames savNicknames savNameSize
    savPokemonData savPokemonSize at *
  omega

theorem nameBytes_lt_checksum (hi : i < 6) (h : NameBytes i x) : x < savChecksumOffset := by
  unfold NameBytes Within otName nickname savOtNames savNicknames savNameSize at h
  unfold savChecksumOffset
  omega

theorem headBytes_lt (h : HeadBytes x) : x < savPokemonData := by
  unfold HeadBytes Within savPartyCount savSpeciesList at h
  unfold savPokemonData
  omega

theorem record_not_head (h : Record i x) : ¬ HeadBytes x := by
  intro hh
  have := headBytes_lt hh
  unfold Record Within pkm at h
  omega

theorem nameBytes_not_head (h : NameBytes i x) : ¬ HeadBytes x := by
  intro hh
  have := headBytes_lt hh
  unfold NameBytes Within otName nickname savOtNames savNicknames at h
  unfold savPokemonData at this
  omega

/-! ### One slot -/

theorem copyMon_off (p : PartyBlock) (b : Image) (i : ℕ) : SameOff (Record i) b (copyMon p b i) :=
  write_sameOff _ fun x hx => by rwa [length_read] at hx

theorem copyMon_at (hk : k < savPokemonSize) (b : Image) :
    copyMon p b i (pkm i + k) = p.mons i k := by
  unfold copyMon
  rw [write_at (by rwa [length_read]), getD_read hk, Nat.zero_add]

/-- The bytes of a record that a write-back leaves as they are. -/
def KeptByte (k : ℕ) : Prop :=
  Within pkmCurrentHp 2 k ∨ k = pkmStatus ∨ Within pkmPp 4 k

instance (k : ℕ) : Decidable (KeptByte k) := inferInstanceAs (Decidable (_ ∨ _))

theorem restoreMon_off (orig b : Image) (i : ℕ) : SameOff (Record i) b (restoreMon orig b i) := by
  unfold restoreMon
  refine ((write_sameOff _ ?_).trans (write_sameOff _ ?_)).trans (write_sameOff _ ?_) <;>
    rw [length_read] <;> exact field_record (by decide)

theorem restoreMon_at (orig b : Image) (i k : ℕ) :
    restoreMon orig b i (pkm i + k) =
      if KeptByte k then orig (pkm i + k) else b (pkm i + k) := by
  have hin : ∀ a n, Within (pkm i + a) n (pkm i + k) ↔ Within a n k := by
    intro a n
    unfold Within
    omega
  have hone : Within pkmStatus 1 k ↔ k = pkmStatus := by
    unfold Within
    omega
  unfold restoreMon KeptByte
  simp only [write_read, hin, hone]
  grind

theorem copyNames_off (p : PartyBlock) (b : Image) (i : ℕ) :
    SameOff (NameBytes i) b (copyNames p b i) := by
  unfold copyNames
  refine (write_sameOff _ ?_).trans (write_sameOff _ ?_) <;> rw [length_read]
  · exact fun x hx => .inl hx
  · exact fun x hx => .inr hx

theorem copyNames_otName (hk : k < savNameSize) (b : Image) :
    copyNames p b i (otName i + k) = p.otNames i k := by
  have haway : ¬ Within (nickname i) ((p.nicknames i).read 0 savNameSize).length (otName i + k) := by
    rw [length_read]
    unfold Within nickname otName savNicknames savOtNames savNameSize at *
    omega
  unfold copyNames
  rw [write_off haway, write_at (by rwa [length_read]), getD_read hk, Nat.zero_add]

theorem copyNames_nickname (hk : k < savNameSize) (b : Image) :
    copyNames p b i (nickname i + k) = p.nicknames i k := by
  unfold copyNames
  rw [write_at (by rwa [length_read]), getD_read hk, Nat.zero_add]

/-! ### All of them -/

namespace PartyBlock

/-- Count and species list written. -/
def headed (p : PartyBlock) (s : Image) : Image :=
  (s.write savPartyCount [UInt8.ofNat p.slots]).write savSpeciesList (p.species.read 0 7)

def copied (p : PartyBlock) (s : Image) : Image := (List.range p.slots).foldl (copyMon p) (p.headed s)

def restored (p : PartyBlock) (s : Image) : Image :=
  (List.range p.slots).foldl (restoreMon (p.headed s)) (p.copied s)

def named (p : PartyBlock) (s : Image) : Image :=
  (List.range p.slots).foldl (copyNames p) (p.restored s)

end PartyBlock

theorem writeParty_eq (s : Image) (p : PartyBlock) : writeParty s p = fixChecksum (p.named s) := rfl

theorem headed_off (p : PartyBlock) (s : Image) : SameOff HeadBytes s (p.headed s) := by
  unfold PartyBlock.headed
  refine (write_sameOff _ fun x hx => ?_).trans (write_sameOff _ fun x hx => ?_)
  · unfold Within at hx
    simp only [List.length_singleton] at hx
    exact .inl (by omega)
  · rw [length_read] at hx
    exact .inr hx

theorem copied_off (p : PartyBlock) (s : Image) :
    SameOff (fun x => ∃ i < p.slots, Record i x) (p.headed s) (p.copied s) :=
  foldl_sameOff (fun b i hi => (copyMon_off p b i).mono fun _ hx => ⟨i, List.mem_range.mp hi, hx⟩) _

theorem restored_off (p : PartyBlock) (s : Image) :
    SameOff (fun x => ∃ i < p.slots, Record i x) (p.copied s) (p.restored s) :=
  foldl_sameOff
    (fun b i hi => (restoreMon_off _ b i).mono fun _ hx => ⟨i, List.mem_range.mp hi, hx⟩) _

theorem named_off (p : PartyBlock) (s : Image) :
    SameOff (fun x => ∃ i < p.slots, NameBytes i x) (p.restored s) (p.named s) :=
  foldl_sameOff
    (fun b i hi => (copyNames_off p b i).mono fun _ hx => ⟨i, List.mem_range.mp hi, hx⟩) _

/-- The bytes a write-back of `n` slots may write. -/
def PartyByte (n x : ℕ) : Prop :=
  x = savChecksumOffset ∨ HeadBytes x ∨ ∃ i < n, Record i x ∨ NameBytes i x

theorem writeParty_off (s : Image) (p : PartyBlock) :
    SameOff (PartyByte p.slots) s (writeParty s p) := by
  rw [writeParty_eq]
  exact (((((headed_off p s).mono fun x hx => .inr (.inl hx)).trans
    ((copied_off p s).mono fun x ⟨i, hi, hx⟩ => .inr (.inr ⟨i, hi, .inl hx⟩))).trans
    ((restored_off p s).mono fun x ⟨i, hi, hx⟩ => .inr (.inr ⟨i, hi, .inl hx⟩))).trans
    ((named_off p s).mono fun x ⟨i, hi, hx⟩ => .inr (.inr ⟨i, hi, .inr hx⟩))).trans
    ((fixChecksum_off _).mono fun x hx => .inl hx)

/-- A record after a write-back: the party's bytes, but for HP, status and PP. -/
theorem writeParty_record (hi : i < p.slots) (hk : k < savPokemonSize) :
    writeParty s p (pkm i + k) = if KeptByte k then s (pkm i + k) else p.mons i k := by
  have hi6 : i < 6 := Nat.lt_of_lt_of_le hi (slots_le p)
  have hin : Record i (pkm i + k) := ⟨Nat.le_add_right _ k, by omega⟩
  have hmem := List.mem_range.mpr hi
  have hhead : p.headed s (pkm i + k) = s (pkm i + k) := headed_off p s _ (record_not_head hin)
  obtain ⟨u, _, hcopied⟩ := foldl_sameOn (copyMon_off p) List.nodup_range
    (fun i _ j _ x => record_disjoint) hmem (p.headed s)
  obtain ⟨v, hv, hrestored⟩ := foldl_sameOn (restoreMon_off (p.headed s)) List.nodup_range
    (fun i _ j _ x => record_disjoint) hmem (p.copied s)
  have hcopy : p.copied s (pkm i + k) = p.mons i k := (hcopied _ hin).trans (copyMon_at hk u)
  have hrestore : p.restored s (pkm i + k) =
      if KeptByte k then s (pkm i + k) else p.mons i k := by
    rw [← hcopy, ← hv _ hin, ← hhead, ← restoreMon_at]
    exact hrestored _ hin
  rw [writeParty_eq, fixChecksum_off _ _ (Nat.ne_of_lt (record_lt_checksum hi6 hin)), named_off,
    hrestore]
  rintro ⟨j, hj, hname⟩
  exact nameBytes_not_record (Nat.lt_of_lt_of_le hj (slots_le p)) hi6 hname hin

/-- A field of a record that is neither HP, status nor PP. -/
def PlainField (a n : ℕ) : Prop :=
  pkmLevelPc ≤ a ∧ a + n ≤ pkmStatus ∨ pkmStatus < a ∧ a + n ≤ pkmPp ∨
    pkmLevelParty ≤ a ∧ a + n ≤ savPokemonSize

instance (a n : ℕ) : Decidable (PlainField a n) := inferInstanceAs (Decidable (_ ∨ _))

theorem PlainField.at {a n j : ℕ} (h : PlainField a n) (hj : j < n) :
    a + j < savPokemonSize ∧ ¬ KeptByte (a + j) := by
  unfold PlainField at h
  unfold KeptByte Within
  unfold pkmLevelPc pkmStatus pkmPp pkmLevelParty savPokemonSize at *
  unfold pkmCurrentHp
  omega

theorem writeParty_plain {a n : ℕ} (hi : i < p.slots) (h : PlainField a n) (hj : j < n) :
    writeParty s p (pkm i + a + j) = p.mons i (a + j) := by
  obtain ⟨hk, hkept⟩ := h.at hj
  rw [Nat.add_assoc, writeParty_record hi hk, if_neg hkept]

theorem writeParty_name (hi : i < p.slots) (hx : NameBytes i x) :
    ∃ u, writeParty s p x = copyNames p u i x := by
  have hi6 : i < 6 := Nat.lt_of_lt_of_le hi (slots_le p)
  have hlt : ∀ j ∈ List.range p.slots, j < 6 :=
    fun j hj => Nat.lt_of_lt_of_le (List.mem_range.mp hj) (slots_le p)
  obtain ⟨u, _, hnamed⟩ := foldl_sameOn (copyNames_off p) List.nodup_range
    (fun i hi j hj x hne => nameBytes_disjoint (hlt i hi) (hlt j hj) hne) (List.mem_range.mpr hi)
    (p.restored s)
  refine ⟨u, ?_⟩
  rw [writeParty_eq, fixChecksum_off _ _ (Nat.ne_of_lt (nameBytes_lt_checksum hi6 hx))]
  exact hnamed x hx

theorem writeParty_otName (hi : i < p.slots) (hk : k < savNameSize) :
    writeParty s p (otName i + k) = p.otNames i k := by
  obtain ⟨u, hu⟩ := writeParty_name (s := s) hi (.inl ⟨Nat.le_add_right _ k, by omega⟩)
  rw [hu, copyNames_otName hk]

theorem writeParty_nickname (hi : i < p.slots) (hk : k < savNameSize) :
    writeParty s p (nickname i + k) = p.nicknames i k := by
  obtain ⟨u, hu⟩ := writeParty_name (s := s) hi (.inr ⟨Nat.le_add_right _ k, by omega⟩)
  rw [hu, copyNames_nickname hk]

theorem writeParty_head (hx : HeadBytes x) : writeParty s p x = p.headed s x := by
  have hlt := headBytes_lt hx
  have hc : x ≠ savChecksumOffset := by
    unfold savPokemonData at hlt
    unfold savChecksumOffset
    omega
  have hrec : ¬ ∃ i < p.slots, Record i x := fun ⟨i, _, h⟩ => record_not_head h hx
  rw [writeParty_eq, fixChecksum_off _ _ hc,
    named_off p s x fun ⟨i, _, h⟩ => nameBytes_not_head h hx, restored_off p s x hrec,
    copied_off p s x hrec]

theorem writeParty_count (s : Image) (p : PartyBlock) :
    writeParty s p savPartyCount = UInt8.ofNat p.slots := by
  have hoff : ¬ Within savSpeciesList (p.species.read 0 7).length savPartyCount := by
    rw [length_read]
    decide
  rw [writeParty_head (.inl rfl)]
  unfold PartyBlock.headed
  rw [write_off hoff, write_byte]

theorem writeParty_species (hk : k < 7) : writeParty s p (savSpeciesList + k) = p.species k := by
  rw [writeParty_head (.inr ⟨Nat.le_add_right _ k, by omega⟩)]
  unfold PartyBlock.headed
  rw [write_at (by rwa [length_read]), getD_read hk, Nat.zero_add]

end MonsterMesh
