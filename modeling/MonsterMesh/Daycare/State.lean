import MonsterMesh.Save.Patcher

/-! The daycare: what it keeps for each party slot, its events, and the save it reads and writes. -/
namespace MonsterMesh

open DaycareSavPatcher

structure DaycarePokemonState where
  (speciesDex savLevel : UInt8)
  (savExp totalXpGained : UInt32)
  totalLevelsGained : UInt16
deriving DecidableEq

def DaycarePokemonState.zero : DaycarePokemonState := ⟨0, 0, 0, 0, 0⟩

structure DaycareState where
  magic : UInt32
  pokemon : ℕ → DaycarePokemonState
  partyCount : UInt8

def daycareMagic : UInt32 := 0xDACA0001

/-- What the event generator decides that reaches the counters. -/
structure DaycareEvent where
  xp : UInt16
  targetSpeciesIdx : UInt8
deriving DecidableEq

/-- The daycare object with the state file it keeps in flash. -/
structure PokemonDaycare where
  state : DaycareState
  active : Bool
  flash : Option DaycareState

/-- What the daycare reads of a party slot. -/
structure DaycarePartyInfo where
  (dexNum level : UInt8)
  totalExp : ℕ
deriving DecidableEq

/-- `readParty`: the count, clipped to six, and the slots. -/
def readPartyCount (s : Image) : ℕ := min (s savPartyCount).toNat 6

def readPartySlot (s : Image) (i : ℕ) : DaycarePartyInfo :=
  { dexNum := internalToDex (s (pkm i + pkmSpecies))
    level := s (pkm i + pkmLevelParty)
    totalExp := s.read24 (pkm i + pkmExp) }

namespace DaycarePokemonState

/-- The state of a slot at check-in: counters are kept while the species stays the same. -/
def checkIn (p : DaycarePokemonState) (info : DaycarePartyInfo) : DaycarePokemonState :=
  let p := if p.speciesDex ≠ info.dexNum then { zero with speciesDex := info.dexNum } else p
  { p with savLevel := info.level, savExp := UInt32.ofNat info.totalExp }

/-- The experience the daycare believes the mon to have. -/
def total (p : DaycarePokemonState) : UInt32 := p.savExp + p.totalXpGained

/-- The level advertised in beacons. -/
def beaconLevel (p : DaycarePokemonState) : UInt8 := p.savLevel + p.totalLevelsGained.toUInt8

/-- The level a total corresponds to, in a byte. -/
def newLevel (p : DaycarePokemonState) : UInt8 :=
  UInt8.ofNat (min (levelForExp p.speciesDex p.total.toNat) 100)

/-- `totalLevelsGained = newLevel - savLevel` -/
def setLevel (p : DaycarePokemonState) : DaycarePokemonState :=
  { p with totalLevelsGained := p.newLevel.toUInt16 - p.savLevel.toUInt16 }

/-- The XP of an hourly event: 200 at most, and never past level 100's total. -/
def eventXp (p : DaycarePokemonState) (xp : UInt16) : UInt16 :=
  let xpToAdd := if 200 < xp then 200 else xp
  let maxExp := UInt32.ofNat (expForLevel p.speciesDex 100)
  if maxExp < p.total + xpToAdd.toUInt32 then
    if maxExp ≤ p.total then 0 else (maxExp - p.total).toUInt16
  else xpToAdd

/-- The XP of an arrival event: 200 at most. -/
def arrivalXp (xp : UInt16) : UInt16 := if 200 < xp then 200 else xp

def credit (p : DaycarePokemonState) (xpToAdd : UInt16) : DaycarePokemonState :=
  { p with totalXpGained := p.totalXpGained + xpToAdd.toUInt32 }

def runEvent (p : DaycarePokemonState) (xp : UInt16) : DaycarePokemonState :=
  let p := p.credit (p.eventXp xp)
  let oldLevel := p.savLevel + p.totalLevelsGained.toUInt8
  if oldLevel < p.newLevel then p.setLevel else p

/-- The comparison is made in `int`, not in a byte. -/
def runArrival (p : DaycarePokemonState) (xp : UInt16) : DaycarePokemonState :=
  let p := p.credit (arrivalXp xp)
  if p.savLevel.toNat + p.totalLevelsGained.toNat < p.newLevel.toNat then p.setLevel else p

end DaycarePokemonState

namespace DaycareState

def init : DaycareState :=
  { magic := daycareMagic, pokemon := fun _ => .zero, partyCount := 0 }

/-- A party of `count` slots checks in. -/
def checkIn (st : DaycareState) (count : ℕ) (info : ℕ → DaycarePartyInfo) : DaycareState :=
  { st with
    partyCount := UInt8.ofNat count
    pokemon := fun i => if i < count then (st.pokemon i).checkIn (info i) else st.pokemon i }

/-- An event credits its target, if it is a slot of the party. -/
def award (st : DaycareState) (evt : DaycareEvent)
    (run : DaycarePokemonState → UInt16 → DaycarePokemonState) : DaycareState :=
  if 0 < evt.xp ∧ evt.targetSpeciesIdx < st.partyCount then
    let i := evt.targetSpeciesIdx.toNat
    { st with pokemon := Function.update st.pokemon i (run (st.pokemon i) evt.xp) }
  else st

/-- The slots a check-out visits. -/
def creditedSlots (st : DaycareState) : List ℕ :=
  (List.range (min st.partyCount.toNat 6)).filter (fun i => 0 < (st.pokemon i).totalXpGained)

end DaycareState

/-- The moves that come with the levels of one slot, the weakest making room; whether any came. -/
def teach (s : Image) (i : ℕ) (dex oldLevel : UInt8) : Image × Bool :=
  let l := learnMoves s i dex oldLevel (s (pkm i + pkmLevelParty))
  (l.pending.foldl (fun s mv => setMove s i (weakestMoveSlot s i) mv) l.image,
    !l.learned.isEmpty || !l.pending.isEmpty)

/-- The save a check-out leaves. -/
def DaycareState.checkOut (st : DaycareState) (s : Image) : Image :=
  let patched := (checkout s (fun i => (st.pokemon i).speciesDex)
    (fun i => (st.pokemon i).totalXpGained) st.partyCount.toNat).1
  let taught := st.creditedSlots.foldl (fun (r : Image × Bool) i =>
    let t := teach r.1 i (st.pokemon i).speciesDex (s (pkm i + pkmLevelParty))
    (t.1, r.2 || t.2)) (patched, false)
  if taught.2 then fixChecksum taught.1 else taught.1

namespace PokemonDaycare

/-- A daycare that has not been started. -/
def boot (flash : Option DaycareState) : PokemonDaycare :=
  { state := ⟨0, fun _ => .zero, 0⟩, active := false, flash }

def saveState (d : PokemonDaycare) : PokemonDaycare := { d with flash := some d.state }

/-- The state a check-in starts from: the one in flash, or a fresh one. -/
def reloaded (d : PokemonDaycare) : DaycareState :=
  match d.flash with
  | some st => if st.magic = daycareMagic then st else .init
  | none => .init

def checkInParty (d : PokemonDaycare) (count : ℕ) (info : ℕ → DaycarePartyInfo) :
    PokemonDaycare :=
  { d with state := d.reloaded.checkIn count info, active := true }

/-- `checkIn` from the save. -/
def checkIn (d : PokemonDaycare) (sram : Image) : PokemonDaycare :=
  d.checkInParty (readPartyCount sram) (readPartySlot sram)

/-- `checkIn` from a list of species and levels; the experience is the least of the level. -/
def checkInLevels (d : PokemonDaycare) (species levels : ℕ → UInt8) (count : UInt8) :
    PokemonDaycare :=
  d.checkInParty (min count.toNat 6)
    (fun i => ⟨species i, levels i, expForLevel (species i) (levels i).toNat⟩)

/-- An event cycle; only an active daycare has one. -/
def runEventCycle (d : PokemonDaycare) (evt : DaycareEvent) : PokemonDaycare :=
  if d.active then { d with state := d.state.award evt DaycarePokemonState.runEvent } else d

def triggerArrivalEvent (d : PokemonDaycare) (evt : DaycareEvent) : PokemonDaycare :=
  if d.active then { d with state := d.state.award evt DaycarePokemonState.runArrival } else d

/-- `checkOut`: the daycare stops, the save is patched, the state is stored. -/
def checkOut (d : PokemonDaycare) (sram : Image) : PokemonDaycare × Image :=
  ({ d with active := false }.saveState, d.state.checkOut sram)

end PokemonDaycare
end MonsterMesh

/-! The two kinds of daycare event: what each does to the slot it reaches, and what it awards. -/
namespace MonsterMesh

theorem DaycarePokemonState.setLevel_xp (p : DaycarePokemonState) :
    p.setLevel.totalXpGained = p.totalXpGained :=
  rfl

theorem DaycarePokemonState.runEvent_cases (p : DaycarePokemonState) (xp : UInt16) :
    p.runEvent xp = p.credit (p.eventXp xp) ∨ p.runEvent xp = (p.credit (p.eventXp xp)).setLevel := by
  unfold runEvent
  dsimp only
  split_ifs
  · exact .inr rfl
  · exact .inl rfl

theorem DaycarePokemonState.runArrival_cases (p : DaycarePokemonState) (xp : UInt16) :
    p.runArrival xp = p.credit (arrivalXp xp) ∨
      p.runArrival xp = (p.credit (arrivalXp xp)).setLevel := by
  unfold runArrival
  dsimp only
  split_ifs
  · exact .inr rfl
  · exact .inl rfl

/-- The two kinds of event, by what they do to a slot and what they award. -/
inductive EventKind where
  | hourly | arrival
deriving DecidableEq

namespace EventKind

def run : EventKind → DaycarePokemonState → UInt16 → DaycarePokemonState
  | hourly => DaycarePokemonState.runEvent
  | arrival => DaycarePokemonState.runArrival

def xp : EventKind → DaycarePokemonState → UInt16 → UInt16
  | hourly => DaycarePokemonState.eventXp
  | arrival => fun _ => DaycarePokemonState.arrivalXp

theorem run_cases (k : EventKind) (p : DaycarePokemonState) (xp : UInt16) :
    k.run p xp = p.credit (k.xp p xp) ∨ k.run p xp = (p.credit (k.xp p xp)).setLevel := by
  cases k with
  | hourly => exact p.runEvent_cases xp
  | arrival => exact p.runArrival_cases xp

theorem run_xp (k : EventKind) (p : DaycarePokemonState) (xp : UInt16) :
    (k.run p xp).totalXpGained = p.totalXpGained + (k.xp p xp).toUInt32 := by
  rcases k.run_cases p xp with h | h <;> rw [h] <;> rfl

theorem run_species (k : EventKind) (p : DaycarePokemonState) (xp : UInt16) :
    (k.run p xp).speciesDex = p.speciesDex := by
  rcases k.run_cases p xp with h | h <;> rw [h] <;> rfl

end EventKind

/-- An event of either kind. -/
def PokemonDaycare.event (d : PokemonDaycare) (k : EventKind) (evt : DaycareEvent) :
    PokemonDaycare :=
  match k with
  | .hourly => d.runEventCycle evt
  | .arrival => d.triggerArrivalEvent evt

theorem PokemonDaycare.event_eq (d : PokemonDaycare) (k : EventKind) (evt : DaycareEvent) :
    d.event k evt = if d.active then { d with state := d.state.award evt k.run } else d := by
  cases k <;> rfl

/-- Whether an event reaches slot `i`. -/
def PokemonDaycare.Hit (d : PokemonDaycare) (evt : DaycareEvent) (i : ℕ) : Prop :=
  d.active ∧ 0 < evt.xp ∧ evt.targetSpeciesIdx < d.state.partyCount ∧ i = evt.targetSpeciesIdx.toNat

instance (d : PokemonDaycare) (evt : DaycareEvent) (i : ℕ) : Decidable (d.Hit evt i) :=
  inferInstanceAs (Decidable (_ ∧ _))

/-- The XP an event awards to slot `i`. -/
def PokemonDaycare.amount (d : PokemonDaycare) (k : EventKind) (evt : DaycareEvent) (i : ℕ) : ℕ :=
  if d.Hit evt i then (k.xp (d.state.pokemon i) evt.xp).toNat else 0

theorem PokemonDaycare.event_slot (d : PokemonDaycare) (k : EventKind) (evt : DaycareEvent)
    (i : ℕ) :
    (d.event k evt).state.pokemon i =
      if d.Hit evt i then k.run (d.state.pokemon i) evt.xp else d.state.pokemon i := by
  rw [event_eq]
  unfold Hit DaycareState.award
  by_cases ha : d.active
  · by_cases hx : 0 < evt.xp ∧ evt.targetSpeciesIdx < d.state.partyCount
    · by_cases hi : i = evt.targetSpeciesIdx.toNat
      · subst hi
        simp [ha, hx]
      · simp [ha, hx, hi]
    · simp only [ha, if_true, if_neg hx]
      rw [if_neg fun h => hx ⟨h.2.1, h.2.2.1⟩]
  · simp [ha]

theorem PokemonDaycare.event_kept (d : PokemonDaycare) (k : EventKind) (evt : DaycareEvent) :
    (d.event k evt).flash = d.flash ∧ (d.event k evt).active = d.active ∧
      (d.event k evt).state.partyCount = d.state.partyCount ∧
      (d.event k evt).state.magic = d.state.magic := by
  rw [event_eq]
  unfold DaycareState.award
  split_ifs <;> exact ⟨rfl, rfl, rfl, rfl⟩

end MonsterMesh
