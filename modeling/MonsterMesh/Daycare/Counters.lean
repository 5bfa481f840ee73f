import MonsterMesh.Daycare.EventGen
import MonsterMesh.Lib.Walk

/-! What the daycare counts of its events, beside how many there were. -/
namespace MonsterMesh.DaycareEventGen

open Text Draw

variable {d : DaycareData} {s : Scene} {b : Daybook} {g : Generated} {c : Counter} {i : ℕ} {o : DaycareOutcome}
  {r : DaycareRecord} {p : DaycareResident}

/-! ### Words -/

/-- The words that a counter goes by. -/
def Counter.words : Counter → List Str
  | .dream => ["dream", "Dream", "slept", "sleep"].map lit
  | .explore => ["discover", "explore", "found", "trail", "dug up", "investigated"].map lit
  | .escape => ["escape", "Escape", "broke free", "ran off"].map lit
  | .splash => ["Splash"].map lit

/-- One of them stands in the text. -/
def Counter.worded (c : Counter) (message : Str) : Bool := c.words.any fun word => contains message word

/-- What the generator and the words of an event decide. -/
def Generated.outcome (g : Generated) : DaycareOutcome where
  evt := g.evt
  dreamt := g.counted = some .dream
  explored := g.counted = some .explore
  escaped := g.counted = some .escape
  splashed := g.counted = some .splash
  dreamText := Counter.dream.worded g.message
  exploreText := Counter.explore.worded g.message
  escapeText := Counter.escape.worded g.message
  splashText := Counter.splash.worded g.message

/-! ### The daycare -/

namespace Daybook

def generate (d : DaycareData) (s : Scene) (b : Daybook) : Generated × Daybook :=
  let r := ((draw d s b).run (rngSeed (s.now.millis ^^^ b.totalEvents * 2654435761))).1
  (r.1, { b with
    relationships := r.2
    record := b.record.generated r.1.outcome
    totalEvents := b.totalEvents + 1 })

def addHour (b : Daybook) : Daybook := { b with record := b.record.addHour b.partyCount.toNat }

/-- The event of a cycle. -/
def event (d : DaycareData) (s : Scene) (b : Daybook) : Generated := (b.addHour.generate d s).1

def runEventCycle (d : DaycareData) (s : Scene) (b : Daybook) : Daybook :=
  let r := b.addHour.generate d s
  let record := r.2.record.award b.partyCount r.1.evt .hourly
  { r.2 with
    record := record.updateEventCounters b.partyCount r.1.outcome
    totalEvents := r.2.totalEvents + 1 }

/-- A newcomer with a party meets ours. -/
def Meets (b : Daybook) (newcomer : DaycareBeacon) : Prop := b.partyCount ≠ 0 ∧ newcomer.partyCount ≠ 0

instance (b : Daybook) (newcomer : DaycareBeacon) : Decidable (b.Meets newcomer) :=
  inferInstanceAs (Decidable (_ ∧ _))

/-- The generator of arrivals decides the meeting and the event. -/
def triggerArrivalEvent (b : Daybook) (now : Instant) (newcomer : DaycareBeacon) (m : Meeting) (evt : DaycareEvent) :
    Daybook :=
  if b.Meets newcomer then
    { b with
      relationships := b.relationships.meet now newcomer.nodeId m
      record := b.record.award b.partyCount evt .arrival
      totalEvents := b.totalEvents + 1 }
  else b

/-- A party that takes the place of the last one. -/
def checkIn (b : Daybook) (count : UInt8) (info : ℕ → DaycarePartyInfo) (nickname : ℕ → Str) : Daybook :=
  { b with
    partyCount := count
    nickname := fun i => if i < count.toNat then nickname i else b.nickname i
    record := b.record.checkIn count.toNat info }

end Daybook

end MonsterMesh.DaycareEventGen

namespace MonsterMesh

open DaycareEventGen

/-! ### Counters -/

/-- The counter of a mon. -/
def DaycareResident.count (p : DaycareResident) : Counter → ℕ
  | .dream => p.dreamCount.toNat
  | .explore => p.exploreCount.toNat
  | .escape => p.escapeCount.toNat
  | .splash => p.splashCount.toNat

/-- Some of the counters move. -/
def DaycareResident.bump (p : DaycareResident) (moved : Counter → Bool) : DaycareResident :=
  { p with
    dreamCount := if moved .dream then p.dreamCount + 1 else p.dreamCount
    exploreCount := if moved .explore then p.exploreCount + 1 else p.exploreCount
    escapeCount := if moved .escape then p.escapeCount + 1 else p.escapeCount
    splashCount := if moved .splash then p.splashCount + 1 else p.splashCount }

namespace DaycareEventGen

variable {d : DaycareData} {s : Scene} {b : Daybook} {g : Generated} {c : Counter} {i j : ℕ}
  {r : DaycareRecord} {p : DaycareResident} {n : UInt8} {moved : Counter → Bool}

/-- How many events it can count. -/
def Counter.width : Counter → ℕ
  | .escape => 2 ^ 8
  | _ => 2 ^ 16

theorem count_lt : p.count c < c.width := by
  cases c with
  | dream => exact p.dreamCount.toNat_lt
  | explore => exact p.exploreCount.toNat_lt
  | escape => exact p.escapeCount.toNat_lt
  | splash => exact p.splashCount.toNat_lt

theorem word_succ (x : UInt16) (moved : Bool) :
    (if moved = true then x + 1 else x).toNat = if moved = true then (x.toNat + 1) % 2 ^ 16 else x.toNat := by
  cases moved
  · rfl
  · exact UInt16.toNat_add x 1

theorem byte_succ (x : UInt8) (moved : Bool) :
    (if moved = true then x + 1 else x).toNat = if moved = true then (x.toNat + 1) % 2 ^ 8 else x.toNat := by
  cases moved
  · rfl
  · exact UInt8.toNat_add x 1

theorem bump_count : (p.bump moved).count c = if moved c = true then (p.count c + 1) % c.width else p.count c := by
  cases c with
  | dream => exact word_succ p.dreamCount (moved .dream)
  | explore => exact word_succ p.exploreCount (moved .explore)
  | escape => exact byte_succ p.escapeCount (moved .escape)
  | splash => exact word_succ p.splashCount (moved .splash)

theorem setPokemon_count {f : DaycareResident → DaycareResident} :
    ((r.setPokemon j f).pokemon i).count c = if i = j then (f (r.pokemon i)).count c else (r.pokemon i).count c := by
  unfold DaycareRecord.setPokemon
  dsimp only
  by_cases hi : i = j
  · rw [if_pos hi, hi, Function.update_self]
  · rw [if_neg hi, Function.update_of_ne hi]

theorem setPokemon_species {f : DaycareResident → DaycareResident} (hf : ∀ p, (f p).speciesDex = p.speciesDex) :
    ((r.setPokemon j f).pokemon i).speciesDex = (r.pokemon i).speciesDex := by
  unfold DaycareRecord.setPokemon
  dsimp only
  by_cases hi : i = j
  · rw [hi, Function.update_self, hf]
  · rw [Function.update_of_ne hi]

/-! ### What each part of a cycle does to them -/

/-- The generator moves the counter. -/
def Generated.moves (g : Generated) (c : Counter) : Bool := g.counted = some c

/-- The words of the event move the counter, if the mon is of the species. -/
def Generated.mentions (g : Generated) (dex : UInt8) (c : Counter) : Bool :=
  c.worded g.message && (c ≠ .splash || dex = 129)

theorem generated_eq : r.generated g.outcome = r.setPokemon g.evt.targetSpeciesIdx.toNat fun p => p.bump g.moves :=
  rfl

theorem updateEventCounters_eq : r.updateEventCounters n g.outcome =
    if n ≤ g.evt.targetSpeciesIdx then r
    else r.setPokemon g.evt.targetSpeciesIdx.toNat fun p => p.bump (g.mentions p.speciesDex) := by
  unfold DaycareRecord.updateEventCounters
  have hbump : (fun p : DaycareResident => { p with
      dreamCount := if g.outcome.dreamText then p.dreamCount + 1 else p.dreamCount
      exploreCount := if g.outcome.exploreText then p.exploreCount + 1 else p.exploreCount
      escapeCount := if g.outcome.escapeText then p.escapeCount + 1 else p.escapeCount
      splashCount := if p.speciesDex = 129 ∧ g.outcome.splashText then p.splashCount + 1 else p.splashCount }) =
      fun p => p.bump (g.mentions p.speciesDex) := by
    funext p
    unfold DaycareResident.bump Generated.mentions Generated.outcome
    simp [and_comm]
  rw [hbump]
  rfl

theorem addHour_count : ((r.addHour n.toNat).pokemon i).count c = (r.pokemon i).count c := by
  unfold DaycareRecord.addHour
  dsimp only
  split_ifs <;> cases c <;> rfl

theorem addHour_species : ((r.addHour n.toNat).pokemon i).speciesDex = (r.pokemon i).speciesDex := by
  unfold DaycareRecord.addHour
  dsimp only
  split_ifs <;> rfl

theorem award_count {evt : DaycareEvent} {k : EventKind} :
    ((r.award n evt k).pokemon i).count c = (r.pokemon i).count c := by
  unfold DaycareRecord.award
  split_ifs
  · rw [setPokemon_count]
    split_ifs
    · cases c <;> rfl
    · rfl
  · rfl

theorem award_species {evt : DaycareEvent} {k : EventKind} :
    ((r.award n evt k).pokemon i).speciesDex = (r.pokemon i).speciesDex := by
  unfold DaycareRecord.award
  split_ifs
  · exact setPokemon_species fun p => k.run_species p.toDaycarePokemonState evt.xp
  · rfl

end DaycareEventGen
end MonsterMesh
