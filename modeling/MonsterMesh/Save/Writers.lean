import MonsterMesh.Daycare.Credit
import MonsterMesh.Daycare.Integrity
import MonsterMesh.Daycare.Moves
import MonsterMesh.Save.Curves

/-! The two writers of one save file: the daycare, which reads the file before it writes, and the
terminal, which writes the party it loaded some time ago. -/
namespace MonsterMesh

open DaycareSavPatcher Image Fallible

/-! ### Steps -/

/-- The file, the terminal's party if it has one, and whether a flush has credited a slot since that
party was loaded. -/
structure SaveFile where
  save : Image
  party : Option PartyBlock
  stale : Bool

inductive WriterStep where
  | flush (st : DaycareState)
  | load
  | credit (xp : ℕ → UInt32)
  | writeBack

namespace SaveFile

def start (save : Image) : SaveFile := { save, party := none, stale := false }

def step (f : SaveFile) : WriterStep → Except Empty SaveFile
  | .flush st => .ok { f with
      save := st.checkOut f.save, stale := f.stale || !st.creditedSlots.isEmpty }
  | .load => .ok { f with
      party := if 0 < readPartyCount f.save then some (loadParty f.save) else none
      stale := false }
  | .credit xp => .ok { f with party := f.party.map (·.creditBattleXpPerSlot xp) }
  | .writeBack => .ok { f with save := f.party.elim f.save (writeParty f.save) }

/-- Each writer is careful with its own slots, and the terminal writes no party back that was loaded
before the daycare's last credit. -/
def Careful (f : SaveFile) : WriterStep → Prop
  | .flush st => ∀ i < readPartyCount f.save, i ∈ st.creditedSlots →
      IsSpecies (st.pokemon i).speciesDex →
        partyExp f.save i + (st.pokemon i).totalXpGained.toNat < 4294967296 ∧
        partyExp f.save i ≤ expForLevel (st.pokemon i).speciesDex 100 ∧
        (f.save (pkm i + pkmLevelParty)).toNat ≤
          levelForExp (st.pokemon i).speciesDex (partyExp f.save i)
  | .load => True
  | .credit xp => ∀ p, f.party = some p → ∀ i < p.slots, xp i ≠ 0 →
      (p.mons i).read24 pkmExp + (xp i).toNat < 4294967296 ∧ (p.mons i).read24 pkmExp ≤ 1000000
  | .writeBack => f.stale = false

/-- From one file to the next no party slot has lost EXP, a level or a move. -/
structure NoLoss (s t : Image) : Prop where
  count : readPartyCount t = readPartyCount s
  exp : ∀ i < readPartyCount s, partyExp s i ≤ partyExp t i
  level : ∀ i < readPartyCount s, s (pkm i + pkmLevelParty) ≤ t (pkm i + pkmLevelParty)
  moves : ∀ i < readPartyCount s, ¬ MovesLowered s t i

variable {f g : SaveFile} {s : Image} {p : PartyBlock} {i : ℕ}

theorem NoLoss.refl (s : Image) : NoLoss s s :=
  ⟨rfl, fun _ _ => Nat.le_refl _, fun _ _ => UInt8.le_refl _,
    fun _ _ => not_lowered_of_kept fun _ h => h⟩

/-! ### The daycare -/

theorem noLoss_flush {st : DaycareState} (hc : f.Careful (.flush st)) :
    NoLoss f.save (st.checkOut f.save) := by
  have hlt : ∀ i < readPartyCount f.save, i < 6 :=
    fun i hi => Nat.lt_of_lt_of_le hi (readPartyCount_le f.save)
  refine ⟨checkOut_count st f.save, fun i hi => ?_, fun i hi => ?_,
    fun i hi => checkOut_not_lowered (hlt i hi) st f.save⟩
  · have hexp : partyExp (st.checkOut f.save) i = _ := DaycareState.checkOut_exp (hlt i hi)
    rw [hexp]
    split_ifs with h
    · obtain ⟨hwrap, hcap, _⟩ := hc i hi h.1 h.2
      exact le_creditedExp hwrap hcap
    · exact Nat.le_refl _
  · rw [DaycareState.checkOut_level (hlt i hi)]
    split_ifs with h
    · obtain ⟨hwrap, hcap, hlevel⟩ := hc i hi h.1 h.2
      have hup : levelForExp (st.pokemon i).speciesDex (partyExp f.save i) ≤
          levelForExp (st.pokemon i).speciesDex (creditedExp (st.pokemon i).speciesDex
            (f.save.read24 (pkm i + pkmExp)) (st.pokemon i).totalXpGained) :=
        levelForExp_mono (le_creditedExp hwrap hcap)
      have hle := levelForExp_le (st.pokemon i).speciesDex
        (creditedExp (st.pokemon i).speciesDex (f.save.read24 (pkm i + pkmExp))
          (st.pokemon i).totalXpGained)
      rw [UInt8.le_iff_toNat_le, UInt8.toNat_ofNat']
      omega
    · exact UInt8.le_refl _

/-! ### The terminal -/

/-- The terminal's party is that of the file, with what it has gained since. -/
structure Follows (s : Image) (p : PartyBlock) : Prop where
  slots : p.slots = readPartyCount s
  exp : ∀ i < p.slots, partyExp s i ≤ (p.mons i).read24 pkmExp
  level : ∀ i < p.slots, s (pkm i + pkmLevelParty) ≤ p.mons i pkmLevelParty
  moves : ∀ i < p.slots, ∀ k < 4, p.mons i (pkmMoves + k) = s (pkm i + pkmMoves + k)

theorem follows_load (s : Image) : Follows s (loadParty s) := by
  refine ⟨loadParty_slots s, fun i hi => ?_, fun i hi => ?_, fun i hi k hk => ?_⟩
  · have hload : ((loadParty s).mons i).read24 pkmExp = s.read24 (pkm i + pkmExp) :=
      read24_shift fun j hj => loadParty_plain hi (show PlainField pkmExp 3 by decide) hj
    exact Nat.le_of_eq hload.symm
  · have hload := loadParty_plain hi (show PlainField pkmLevelParty 1 by decide) (j := 0) (by decide)
    rw [Nat.add_zero, Nat.add_zero] at hload
    rw [hload]
    exact UInt8.le_refl _
  · exact loadParty_plain hi (show PlainField pkmMoves 4 by decide) hk

theorem follows_credit {xp : ℕ → UInt32} (h : Follows s p)
    (hc : ∀ i < p.slots, xp i ≠ 0 → (p.mons i).read24 pkmExp + (xp i).toNat < 4294967296 ∧
      (p.mons i).read24 pkmExp ≤ 1000000) : Follows s (p.creditBattleXpPerSlot xp) := by
  have hmon : ∀ i < p.slots,
      (p.creditBattleXpPerSlot xp).mons i = creditMon (p.mons i) (xp i) :=
    fun i hi => if_pos (Nat.lt_min.mp hi)
  refine ⟨h.slots, fun i hi => ?_, fun i hi => ?_, fun i hi k hk => ?_⟩
  · rw [hmon i hi]
    by_cases h0 : xp i = 0
    · rw [h0, creditMon_zero]
      exact h.exp i hi
    · obtain ⟨hwrap, hmax⟩ := hc i hi h0
      rw [creditMon_exp h0, battleExp_eq hwrap]
      exact Nat.le_trans (h.exp i hi) (Nat.le_min.mpr ⟨Nat.le_add_right .., hmax⟩)
  · rw [hmon i hi]
    by_cases h0 : xp i = 0
    · rw [h0, creditMon_zero]
      exact h.level i hi
    · refine UInt8.le_trans (h.level i hi) (UInt8.le_iff_toNat_le.mpr ?_)
      rw [creditMon_level h0]
      exact Nat.le_max_left ..
  · rw [hmon i hi, ← h.moves i hi k hk]
    refine creditMon_off _ _ _ ?_
    unfold GrowthByte Within pkmExp pkmLevelPc pkmLevelParty pkmMoves
    omega

theorem writeParty_slots (s : Image) (p : PartyBlock) : readPartyCount (writeParty s p) = p.slots := by
  have hle := slots_le p
  unfold readPartyCount
  rw [writeParty_count, UInt8.toNat_ofNat']
  omega

theorem written_exp (hi : i < p.slots) :
    partyExp (writeParty s p) i = (p.mons i).read24 pkmExp :=
  read24_shift fun _ hj => writeParty_plain hi (show PlainField pkmExp 3 by decide) hj

theorem written_level (hi : i < p.slots) :
    writeParty s p (pkm i + pkmLevelParty) = p.mons i pkmLevelParty :=
  writeParty_plain hi (show PlainField pkmLevelParty 1 by decide) (j := 0) (by decide)

theorem written_move (hi : i < p.slots) {k : ℕ} (hk : k < 4) :
    writeParty s p (pkm i + pkmMoves + k) = p.mons i (pkmMoves + k) :=
  writeParty_plain hi (show PlainField pkmMoves 4 by decide) hk

theorem noLoss_writeParty (h : Follows s p) : NoLoss s (writeParty s p) := by
  refine ⟨(writeParty_slots s p).trans h.slots, fun i hi => ?_, fun i hi => ?_, fun i hi => ?_⟩ <;>
    rw [← h.slots] at hi
  · rw [written_exp hi]
    exact h.exp i hi
  · rw [written_level hi]
    exact h.level i hi
  · refine not_lowered_of_kept fun mv ⟨hne, k, hk, hm⟩ => ⟨hne, k, hk, ?_⟩
    rw [written_move hi hk, h.moves i hi k hk, hm]

theorem follows_written (s : Image) (p : PartyBlock) : Follows (writeParty s p) p := by
  refine ⟨(writeParty_slots s p).symm, fun i hi => ?_, fun i hi => ?_, fun i hi k hk => ?_⟩
  · rw [written_exp hi]
  · rw [written_level hi]
    exact UInt8.le_refl _
  · exact (written_move hi hk).symm

/-! ### Both -/

/-- A party that is not stale follows the file. -/
def Synced (f : SaveFile) : Prop := f.stale = false → ∀ p, f.party = some p → Follows f.save p

theorem synced_step {c : WriterStep} (h : f.Synced) (hc : f.Careful c) (hs : f.step c = .ok g) :
    g.Synced := by
  cases c with
  | flush st =>
    cases hs
    intro hstale p hp
    obtain ⟨hold, hidle⟩ := Bool.or_eq_false_iff.mp hstale
    have hnil : st.creditedSlots = [] := by simpa using hidle
    dsimp only
    rw [DaycareState.checkOut_nil hnil]
    exact h hold p hp
  | load =>
    cases hs
    intro _ p hp
    dsimp only at hp
    split_ifs at hp
    cases hp
    exact follows_load f.save
  | credit xp =>
    cases hs
    intro hstale p hp
    obtain ⟨q, hq, rfl⟩ := Option.map_eq_some_iff.mp hp
    exact follows_credit (h hstale q hq) (hc q hq)
  | writeBack =>
    cases hs
    intro hstale p hp
    dsimp only at hp ⊢
    rw [hp]
    exact follows_written f.save p

theorem noLoss_step {c : WriterStep} (h : f.Synced) (hc : f.Careful c) (hs : f.step c = .ok g) :
    NoLoss f.save g.save := by
  cases c with
  | flush st =>
    cases hs
    exact noLoss_flush hc
  | load =>
    cases hs
    exact .refl _
  | credit xp =>
    cases hs
    exact .refl _
  | writeBack =>
    cases hs
    dsimp only
    cases hp : f.party with
    | none => exact .refl _
    | some p => exact noLoss_writeParty (h hc p hp)

/-- When no party loaded before a credit of the daycare is written back after it, no step of either
writer loses anything, and EXP only grows over any run. -/
theorem writers_lose_nothing {save : Image} (h : Reach step Careful (start save) f) :
    (∀ c, f.Careful c → ∀ g, f.step c = .ok g → NoLoss f.save g.save) ∧
      ∀ g, Reach step Careful f g →
        ∀ i < readPartyCount f.save, partyExp f.save i ≤ partyExp g.save i := by
  have hsync : f.Synced :=
    h.invariant (fun _ _ _ hi hc hs => synced_step hi hc hs) fun _ p hp => nomatch hp
  refine ⟨fun c hc g hs => noLoss_step hsync hc hs, fun g hg => ?_⟩
  have hrun := hg.relates (P := Synced)
    (R := fun f g => readPartyCount g.save = readPartyCount f.save ∧
      ∀ i < readPartyCount f.save, partyExp f.save i ≤ partyExp g.save i)
    (fun _ => ⟨rfl, fun _ _ => Nat.le_refl _⟩)
    (fun _ _ _ h₁ h₂ => ⟨h₂.1.trans h₁.1,
      fun i hi => Nat.le_trans (h₁.2 i hi) (h₂.2 i (h₁.1.symm ▸ hi))⟩)
    (fun _ _ _ hi hc hs => synced_step hi hc hs)
    (fun _ _ _ hi hc hs => ⟨(noLoss_step hi hc hs).count, (noLoss_step hi hc hs).exp⟩) hsync
  exact hrun.2

/-- The file of a party of one, loaded and credited. -/
def afterBattle : SaveFile :=
  { save := soloSave 0x54 5 125
    party := some ((loadParty (soloSave 0x54 5 125)).creditBattleXpPerSlot fun _ => 10)
    stale := false }

theorem afterBattle_reach : Reach step Careful (start (soloSave 0x54 5 125)) afterBattle := by
  refine .tail (.credit fun _ => 10) (.tail .load .refl trivial rfl) ?_ rfl
  intro p hp i hi
  cases hp
  obtain rfl : i = 0 := Nat.lt_one_iff.mp hi
  decide +kernel

theorem writers_lose_nothing_pikachu :
    NoLoss afterBattle.save (writeParty afterBattle.save
      ((loadParty (soloSave 0x54 5 125)).creditBattleXpPerSlot fun _ => 10)) :=
  (writers_lose_nothing afterBattle_reach).1 .writeBack rfl _ rfl

/-- A party loaded before a flush takes the daycare's ten points back out of the file. -/
theorem stale_party_loses_daycare_xp :
    ∃ f g, play step (start (soloSave 0x54 5 125)) [.load, .flush pikachuOwed] = .ok f ∧
      f.step .writeBack = .ok g ∧ ¬ NoLoss f.save g.save := by
  refine ⟨_, _, rfl, rfl, fun h => ?_⟩
  have hexp := h.exp 0 (by decide +kernel)
  exact absurd hexp (by decide +kernel)

end SaveFile
end MonsterMesh
