import MonsterMesh.Daycare.CheckOut
import MonsterMesh.Daycare.State
import MonsterMesh.Lib.Run

/-! The experience owed to a party, over stays of any length: earned in events, kept in flash, paid
into the save at check-out. -/
namespace MonsterMesh

open DaycareSavPatcher Image Fallible

/-! ### The party of a save -/

/-- The species number of party slot `i`. -/
def partyDex (s : Image) (i : ℕ) : UInt8 := internalToDex (s (pkm i + pkmSpecies))

def partyExp (s : Image) (i : ℕ) : ℕ := s.read24 (pkm i + pkmExp)

variable {d : PokemonDaycare} {st : DaycareState} {s : Image} {i : ℕ}

theorem readPartyCount_le (s : Image) : readPartyCount s ≤ 6 := Nat.min_le_right ..

theorem checkOut_count (st : DaycareState) (s : Image) :
    readPartyCount (st.checkOut s) = readPartyCount s := by
  have hoff : ¬ st.EarnedByte savPartyCount := by
    rintro (h | ⟨i, _, h⟩)
    · exact absurd h (by decide)
    · have hr : Record i savPartyCount := h.elim PatchField.record MoveField.record
      unfold Record Within pkm savPokemonData savPartyCount at hr
      omega
  unfold readPartyCount
  rw [DaycareState.checkOut_off st s _ hoff]

theorem checkOut_dex (hi : i < 6) : partyDex (st.checkOut s) i = partyDex s i := by
  have hr : Record i (pkm i + pkmSpecies) := by
    unfold Record Within pkmSpecies savPokemonSize
    omega
  have hoff : ¬ st.EarnedByte (pkm i + pkmSpecies) := by
    rintro (h | ⟨j, _, h⟩)
    · exact absurd (record_lt_checksum hi hr) (by omega)
    · by_cases hj : i = j
      · subst hj
        unfold PatchField MoveField StatField Within pkmSpecies pkmExp pkmLevelPc pkmLevelParty
          pkmCurrentHp pkmMaxHp pkmMoves pkmPp at h
        omega
      · exact record_disjoint hj hr (h.elim PatchField.record MoveField.record)
  unfold partyDex
  rw [DaycareState.checkOut_off st s _ hoff]

/-! ### Stays -/

/-- A daycare with the save it serves, and the XP each slot has been awarded. -/
structure Stay where
  daycare : PokemonDaycare
  sram : Image
  awarded : ℕ → ℕ

inductive StayCall where
  | checkIn
  | event (k : EventKind) (evt : DaycareEvent)
  | saveState
  | restart
  | checkOut
deriving DecidableEq

namespace Stay

def start (flash : Option DaycareState) (sram : Image) : Stay :=
  { daycare := .boot flash, sram, awarded := fun _ => 0 }

def step (s : Stay) : StayCall → Except Empty Stay
  | .checkIn => .ok { s with daycare := s.daycare.checkIn s.sram }
  | .event k evt => .ok { s with
      daycare := s.daycare.event k evt
      awarded := fun i => s.awarded i + s.daycare.amount k evt i }
  | .saveState => .ok { s with daycare := s.daycare.saveState }
  | .restart => .ok { s with daycare := .boot s.daycare.flash }
  | .checkOut => .ok { s with
      daycare := (s.daycare.checkOut s.sram).1, sram := (s.daycare.checkOut s.sram).2 }

/-- The XP slot `i` holds in memory. -/
def held (s : Stay) (i : ℕ) : UInt32 := (s.daycare.state.pokemon i).totalXpGained

/-- The XP slot `i` has in flash. -/
def kept (s : Stay) (i : ℕ) : UInt32 := (s.daycare.reloaded.pokemon i).totalXpGained

/-- The party is in memory: it has checked in since the last restart. -/
def Held (s : Stay) : Prop := s.daycare.state.partyCount.toNat = readPartyCount s.sram

instance (s : Stay) : Decidable s.Held := inferInstanceAs (Decidable (_ = _))

/-- The slots pay in what they were awarded, up to level 100's experience. -/
def Settled (s₀ : Image) (s : Stay) : Prop :=
  ∀ i < readPartyCount s.sram,
    partyExp s.sram i = min (partyExp s₀ i + s.awarded i) (expForLevel (partyDex s.sram i) 100)

/-- Slot `i` can be paid: the save has not been credited yet or is at its cap, and the 32-bit sum
does not wrap. -/
def Payable (s₀ : Image) (s : Stay) (i : ℕ) : Prop :=
  (partyExp s.sram i = partyExp s₀ i ∨
      partyExp s.sram i = expForLevel (partyDex s.sram i) 100) ∧
    partyExp s.sram i + (s.held i).toNat < 4294967296 ∧
    (s.held i = 0 ∨ ¬ IsSpecies (partyDex s.sram i) →
      partyExp s.sram i ≤ expForLevel (partyDex s.sram i) 100)

/-- Nothing that was awarded is forgotten on the way, and nothing is paid a second time. -/
def Careful (s₀ : Image) (s : Stay) : StayCall → Prop
  | .checkIn | .restart => s.Held → ∀ i < readPartyCount s.sram, s.kept i = s.held i
  | .event k evt => ∀ i < readPartyCount s.sram,
      (s.held i).toNat + s.daycare.amount k evt i < 4294967296
  | .saveState => s.Held ∨ ∀ i < readPartyCount s.sram, s.kept i = 0
  | .checkOut => (s.Held ∨ ∀ i < readPartyCount s.sram, s.kept i = 0) ∧
      ∀ i < readPartyCount s.sram, s.Payable s₀ i

/-! ### The ledger -/

/-- What was awarded is in memory, or in flash while memory is blank; and the save never runs
ahead of it. -/
structure Ledger (s₀ : Image) (s : Stay) : Prop where
  blank : ¬ s.Held → s.daycare.state = (PokemonDaycare.boot none).state
  magic : s.Held → 0 < readPartyCount s.sram → s.daycare.state.magic = daycareMagic
  stored : ∀ i < readPartyCount s.sram,
    (s.daycare.reloaded.pokemon i).speciesDex = partyDex s.sram i ∨ s.kept i = 0
  species : s.Held → ∀ i < readPartyCount s.sram,
    (s.daycare.state.pokemon i).speciesDex = partyDex s.sram i
  owed : s.Held → ∀ i < readPartyCount s.sram, (s.held i).toNat = s.awarded i
  away : ¬ s.Held → ∀ i < readPartyCount s.sram, (s.kept i).toNat = s.awarded i
  exp : ∀ i < readPartyCount s.sram, partyExp s.sram i ≤ partyExp s₀ i + s.awarded i

variable {s₀ : Image} {s t : Stay}

theorem ledger_start {flash : Option DaycareState}
    (h : ∀ i, (start flash s₀).kept i = 0) : Ledger s₀ (start flash s₀) where
  blank _ := rfl
  magic hh hc := by
    have h0 : (0 : ℕ) = readPartyCount s₀ := hh
    exact absurd h0 (Nat.ne_of_lt hc)
  stored i _ := .inr (h i)
  species hh i hi := by
    have h0 : (0 : ℕ) = readPartyCount s₀ := hh
    exact absurd (h0 ▸ hi) (Nat.not_lt_zero i)
  owed _ _ _ := rfl
  away _ i _ := by rw [h i]; rfl
  exp i _ := Nat.le_add_right ..

theorem reloaded_saved (hm : st.magic = daycareMagic) (d : PokemonDaycare) :
    { d with flash := some st }.reloaded = st :=
  if_pos hm

theorem checkIn_slot (d : PokemonDaycare) (sram : Image) (hi : i < readPartyCount sram) :
    (d.checkIn sram).state.pokemon i =
      (d.reloaded.pokemon i).checkIn (readPartySlot sram i) := by
  change (if i < readPartyCount sram then _ else _) = _
  rw [if_pos hi]

theorem checkIn_held (s : Stay) : { s with daycare := s.daycare.checkIn s.sram }.Held := by
  have hle := readPartyCount_le s.sram
  change (UInt8.ofNat (readPartyCount s.sram)).toNat = readPartyCount s.sram
  simp
  omega

theorem ledger_checkIn (h : Ledger s₀ s) (hc : s.Careful s₀ .checkIn) :
    Ledger s₀ { s with daycare := s.daycare.checkIn s.sram } := by
  have hheld := checkIn_held s
  have hslot := fun i hi => checkIn_slot s.daycare s.sram (i := i) hi
  have hkept : ∀ i < readPartyCount s.sram, (s.kept i).toNat = s.awarded i := by
    intro i hi
    by_cases hh : s.Held
    · rw [hc hh i hi]
      exact h.owed hh i hi
    · exact h.away hh i hi
  refine ⟨fun hh => absurd hheld hh, fun _ _ => ?_, h.stored, fun _ i hi => ?_, fun _ i hi => ?_,
    fun hh => absurd hheld hh, h.exp⟩
  · change s.daycare.reloaded.magic = daycareMagic
    unfold PokemonDaycare.reloaded
    split
    · split_ifs with hm
      · exact hm
      · rfl
    · rfl
  · rw [hslot i hi]
    unfold DaycarePokemonState.checkIn
    dsimp only
    split_ifs with hd
    · rfl
    · exact not_not.mp hd
  · unfold held
    rw [hslot i hi, ← hkept i hi]
    unfold DaycarePokemonState.checkIn
    dsimp only
    split_ifs with hd
    · have hz : s.kept i = 0 := (h.stored i hi).resolve_left hd
      rw [hz]
      rfl
    · rfl

/-- With a slot in the party, the daycare is either blank or holds the party. -/
theorem amount_blank (h : Ledger s₀ s) (hh : ¬ s.Held) (k : EventKind) (evt : DaycareEvent) (i : ℕ) :
    s.daycare.amount k evt i = 0 := by
  refine if_neg fun hit => ?_
  have hlt := hit.2.2.1
  rw [h.blank hh] at hlt
  exact absurd hlt (by simp [PokemonDaycare.boot])

theorem ledger_event {k : EventKind} {evt : DaycareEvent} (h : Ledger s₀ s)
    (hc : s.Careful s₀ (.event k evt)) :
    Ledger s₀ { s with
      daycare := s.daycare.event k evt
      awarded := fun i => s.awarded i + s.daycare.amount k evt i } := by
  obtain ⟨hflash, _, hcount, hmagic⟩ := s.daycare.event_kept k evt
  have hheld : ∀ {u}, { s with daycare := s.daycare.event k evt, awarded := u }.Held ↔ s.Held := by
    intro u
    unfold Held
    rw [hcount]
  have hre : (s.daycare.event k evt).reloaded = s.daycare.reloaded := by
    unfold PokemonDaycare.reloaded
    rw [hflash]
  have hslot := s.daycare.event_slot k evt
  refine ⟨fun hh => ?_, fun hh hp => ?_, ?_, fun hh i hi => ?_, fun hh i hi => ?_, fun hh i hi => ?_,
    fun i hi => ?_⟩
  · have hb := h.blank (mt hheld.mpr hh)
    change (s.daycare.event k evt).state = _
    rw [PokemonDaycare.event_eq]
    unfold DaycareState.award
    rw [if_neg (c := _ ∧ _) fun hx => absurd (hb ▸ hx.2) (by simp [PokemonDaycare.boot])]
    split_ifs <;> exact hb
  · exact hmagic.trans (h.magic (hheld.mp hh) hp)
  · unfold kept
    rw [hre]
    exact h.stored
  · change ((s.daycare.event k evt).state.pokemon i).speciesDex = _
    rw [hslot]
    split_ifs
    · exact (k.run_species ..).trans (h.species (hheld.mp hh) i hi)
    · exact h.species (hheld.mp hh) i hi
  · have hwrap := hc i hi
    have howed := h.owed (hheld.mp hh) i hi
    unfold held at *
    unfold PokemonDaycare.amount at *
    change ((s.daycare.event k evt).state.pokemon i).totalXpGained.toNat = _
    rw [hslot]
    dsimp only
    split_ifs at hwrap ⊢
    · rw [k.run_xp, ← howed, UInt32.toNat_add, UInt16.toNat_toUInt32]
      exact Nat.mod_eq_of_lt hwrap
    · exact howed
  · have hh' := mt hheld.mpr hh
    unfold kept
    dsimp only
    rw [hre, amount_blank h hh']
    exact h.away hh' i hi
  · exact Nat.le_trans (h.exp i hi) (by dsimp only; omega)

/-- Storing the state keeps the ledger, when memory holds the party or nothing is owed. -/
theorem ledger_save (h : Ledger s₀ s)
    (hc : s.Held ∨ ∀ i < readPartyCount s.sram, s.kept i = 0) :
    Ledger s₀ { s with daycare := s.daycare.saveState } := by
  by_cases hh : s.Held
  · by_cases hp : 0 < readPartyCount s.sram
    · have hre : s.daycare.saveState.reloaded = s.daycare.state :=
        reloaded_saved (h.magic hh hp) s.daycare
      refine ⟨fun hn => absurd hh hn, h.magic, fun i hi => ?_, h.species, h.owed,
        fun hn => absurd hh hn, h.exp⟩
      dsimp only
      rw [hre]
      exact .inl (h.species hh i hi)
    · have hnil : ∀ i, ¬ i < readPartyCount s.sram := fun i hi => hp (Nat.zero_lt_of_lt hi)
      exact ⟨fun hn => absurd hh hn, h.magic, fun i hi => absurd hi (hnil i), h.species, h.owed,
        fun hn => absurd hh hn, h.exp⟩
  · have hnone := hc.resolve_left hh
    have hre : s.daycare.saveState.reloaded = .init := by
      have hb := h.blank hh
      unfold PokemonDaycare.saveState PokemonDaycare.reloaded
      rw [hb]
      rfl
    have hzero : ∀ i, { s with daycare := s.daycare.saveState }.kept i = 0 := by
      intro i
      unfold kept
      rw [hre]
      rfl
    refine ⟨h.blank, h.magic, fun i _ => .inr (hzero i), h.species, h.owed, fun _ i hi => ?_, h.exp⟩
    have haway := h.away hh i hi
    rw [hnone i hi] at haway
    rw [hzero i]
    exact haway

theorem ledger_restart (h : Ledger s₀ s) (hc : s.Careful s₀ .restart) :
    Ledger s₀ { s with daycare := .boot s.daycare.flash } := by
  refine ⟨fun _ => rfl, fun hh hp => ?_, h.stored, fun hh i hi => ?_, fun hh i hi => ?_,
    fun _ i hi => ?_, h.exp⟩
  · exact absurd hh (Nat.ne_of_lt hp)
  · exact absurd hh (Nat.ne_of_lt (Nat.zero_lt_of_lt hi))
  · exact absurd hh (Nat.ne_of_lt (Nat.zero_lt_of_lt hi))
  · change (s.kept i).toNat = _
    by_cases hh : s.Held
    · rw [hc hh i hi]
      exact h.owed hh i hi
    · exact h.away hh i hi

/-! ### Paying out -/

theorem held_blank (h : Ledger s₀ s) (hh : ¬ s.Held) (i : ℕ) : s.held i = 0 := by
  unfold held
  rw [h.blank hh]
  rfl

/-- At a check-out memory holds exactly what was awarded. -/
theorem held_at_checkOut (h : Ledger s₀ s) (hc : s.Careful s₀ .checkOut)
    (hi : i < readPartyCount s.sram) : (s.held i).toNat = s.awarded i := by
  by_cases hh : s.Held
  · exact h.owed hh i hi
  · have haway := h.away hh i hi
    rw [hc.1.resolve_left hh i hi] at haway
    rw [held_blank h hh]
    exact haway

/-- A payable slot with XP is one the check-out credits, as the species the save names. -/
theorem credited_iff (h : Ledger s₀ s) (hi : i < readPartyCount s.sram) :
    i ∈ s.daycare.state.creditedSlots ∧ IsSpecies (s.daycare.state.pokemon i).speciesDex ↔
      0 < s.held i ∧ IsSpecies (partyDex s.sram i) := by
  by_cases hh : s.Held
  · have hcount : s.daycare.state.partyCount.toNat = readPartyCount s.sram := hh
    have hle := readPartyCount_le s.sram
    rw [mem_creditedSlots, h.species hh i hi, hcount]
    exact and_congr_left' ⟨fun hx => hx.2, fun hx => ⟨⟨hi, by omega⟩, hx⟩⟩
  · have hb := h.blank hh
    have hno : i ∉ s.daycare.state.creditedSlots := by
      rw [hb]
      simp [mem_creditedSlots, PokemonDaycare.boot]
    have hz : ¬ 0 < s.held i := held_blank h hh i ▸ UInt32.lt_irrefl 0
    exact ⟨fun hx => absurd hx.1 hno, fun hx => absurd hx.1 hz⟩

theorem exp_at_checkOut (h : Ledger s₀ s) (hc : s.Careful s₀ .checkOut)
    (hi : i < readPartyCount s.sram) :
    partyExp (s.daycare.checkOut s.sram).2 i =
      min (partyExp s₀ i + s.awarded i) (expForLevel (partyDex s.sram i) 100) := by
  obtain ⟨hfirst, hwrap, hcap⟩ := hc.2 i hi
  have howed := held_at_checkOut h hc hi
  have hexp := h.exp i hi
  have hle := readPartyCount_le s.sram
  have hend : partyExp (s.daycare.checkOut s.sram).2 i = _ :=
    DaycareState.checkOut_exp (s := s.sram) (i := i) (by omega)
  rw [hend]
  simp only [credited_iff h hi]
  by_cases hx : 0 < s.held i ∧ IsSpecies (partyDex s.sram i)
  · have hdex : (s.daycare.state.pokemon i).speciesDex = partyDex s.sram i := by
      by_cases hh : s.Held
      · exact h.species hh i hi
      · exact absurd hx.1 (held_blank h hh i ▸ UInt32.lt_irrefl 0)
    have hsum : creditedExp (partyDex s.sram i) (partyExp s.sram i) (s.held i) =
        min (partyExp s.sram i + (s.held i).toNat) (expForLevel (partyDex s.sram i) 100) :=
      creditedExp_eq hwrap
    rw [if_pos hx, hdex]
    refine hsum.trans ?_
    omega
  · have hidle : s.held i = 0 ∨ ¬ IsSpecies (partyDex s.sram i) := by
      by_cases h0 : s.held i = 0
      · exact .inl h0
      · exact .inr fun hd => hx ⟨UInt32.pos_iff_ne_zero.mpr h0, hd⟩
    have hbelow := hcap hidle
    rw [if_neg hx]
    change partyExp s.sram i = _
    rcases hidle with h0 | hd
    · rw [h0, UInt32.toNat_zero] at howed
      omega
    · have h0 : expForLevel (partyDex s.sram i) 100 = 0 := if_pos (.inl hd)
      omega

theorem ledger_checkOut (h : Ledger s₀ s) (hc : s.Careful s₀ .checkOut) :
    Ledger s₀ { s with
      daycare := (s.daycare.checkOut s.sram).1, sram := (s.daycare.checkOut s.sram).2 } := by
  have hsave := ledger_save h hc.1
  have hcount : readPartyCount (s.daycare.checkOut s.sram).2 = readPartyCount s.sram :=
    checkOut_count ..
  have hheld : ∀ {d}, { s with daycare := d, sram := (s.daycare.checkOut s.sram).2 }.Held ↔
      { s with daycare := d }.Held := by
    intro d
    unfold Held
    dsimp only
    rw [hcount]
  have hdex : ∀ i < readPartyCount s.sram,
      partyDex (s.daycare.checkOut s.sram).2 i = partyDex s.sram i :=
    fun i hi => checkOut_dex (Nat.lt_of_lt_of_le hi (readPartyCount_le s.sram))
  refine ⟨fun hh => hsave.blank (mt hheld.mpr hh), fun hh hp => hsave.magic (hheld.mp hh) ?_,
    fun i hi => ?_, fun hh i hi => ?_, fun hh i hi => hsave.owed (hheld.mp hh) i ?_,
    fun hh i hi => hsave.away (mt hheld.mpr hh) i ?_, fun i hi => ?_⟩ <;>
    dsimp only at * <;> rw [hcount] at *
  · exact hp
  · rw [hdex i hi]
    exact hsave.stored i hi
  · rw [hdex i hi]
    exact hsave.species (hheld.mp hh) i hi
  · exact hi
  · exact hi
  · rw [exp_at_checkOut h hc hi]
    exact Nat.min_le_left ..

/-! ### Runs -/

theorem ledger_step {c : StayCall} (h : Ledger s₀ s) (hc : s.Careful s₀ c)
    (hs : s.step c = .ok t) : Ledger s₀ t := by
  cases c with
  | checkIn =>
    cases hs
    exact ledger_checkIn h hc
  | event k evt =>
    cases hs
    exact ledger_event h hc
  | saveState =>
    cases hs
    exact ledger_save h hc
  | restart =>
    cases hs
    exact ledger_restart h hc
  | checkOut =>
    cases hs
    exact ledger_checkOut h hc

/-- Over any stay in which nothing awarded is forgotten and nothing is paid twice, a check-out
leaves every slot with what it came with and what it was awarded, up to level 100's experience. -/
theorem credited_once {flash : Option DaycareState} (hf : ∀ i, (start flash s₀).kept i = 0)
    (h : Reach step (Careful s₀) (start flash s₀) s) (hc : s.Careful s₀ .checkOut)
    (hs : s.step .checkOut = .ok t) : t.Settled s₀ := by
  have hl := h.invariant (fun _ _ _ hi hc hst => ledger_step hi hc hst) (ledger_start hf)
  cases hs
  intro i hi
  have hi' : i < readPartyCount s.sram := checkOut_count .. ▸ hi
  have hdex : partyDex (s.daycare.checkOut s.sram).2 i = partyDex s.sram i :=
    checkOut_dex (Nat.lt_of_lt_of_le hi' (readPartyCount_le s.sram))
  dsimp only
  rw [hdex]
  exact exp_at_checkOut hl hc hi'

/-- A save with one Pikachu at level 5. -/
def pikachuSave : Image := soloSave 0x54 5 125

/-- Pikachu after one event of ten points. -/
def earned : Stay :=
  { daycare := (PokemonDaycare.checkIn (.boot none) pikachuSave).event .hourly ⟨10, 0⟩
    sram := pikachuSave
    awarded := fun i =>
      0 + (PokemonDaycare.checkIn (.boot none) pikachuSave).amount .hourly ⟨10, 0⟩ i }

theorem earned_reach : Reach step (Careful pikachuSave) (start none pikachuSave) earned := by
  have hin : (start none pikachuSave).Careful pikachuSave .checkIn :=
    fun hh => absurd hh (by decide)
  refine .tail (.event .hourly ⟨10, 0⟩) (.tail .checkIn .refl hin rfl) ?_ rfl
  intro i hi
  obtain rfl : i = 0 := Nat.lt_one_iff.mp hi
  decide +kernel

theorem earned_careful : earned.Careful pikachuSave .checkOut := by
  refine ⟨.inl (by decide +kernel), fun i hi => ?_⟩
  obtain rfl : i = 0 := Nat.lt_one_iff.mp hi
  unfold Payable
  decide +kernel

theorem credited_once_pikachu :
    Settled pikachuSave { earned with
      daycare := (earned.daycare.checkOut earned.sram).1
      sram := (earned.daycare.checkOut earned.sram).2 } :=
  @credited_once _ _ _ none (fun _ => rfl) earned_reach earned_careful rfl

/-- The next check-out pays the same ten points again. -/
theorem second_checkOut_pays_again :
    ∃ t, play step (start none pikachuSave)
        [.checkIn, .event .hourly ⟨10, 0⟩, .checkOut, .checkOut] = .ok t ∧
      ¬ t.Settled pikachuSave := by
  have hrun : (play step (start none pikachuSave)
      [.checkIn, .event .hourly ⟨10, 0⟩, .checkOut, .checkOut]).toOption.map
        (fun t => (readPartyCount t.sram, partyExp t.sram 0, t.awarded 0, partyDex t.sram 0)) =
      some (1, 145, 10, 25) := by
    decide +kernel
  obtain ⟨t, ht, hobs⟩ := exists_of_map hrun
  obtain ⟨hcount, hexp, hawarded, hdex⟩ := by simpa only [Prod.mk.injEq] using hobs
  refine ⟨t, ht, fun h => ?_⟩
  have h0 := h 0 (by rw [hcount]; decide)
  rw [hexp, hawarded, hdex] at h0
  exact absurd h0 (by decide +kernel)

end Stay
end MonsterMesh
