import MonsterMesh.Daycare.Places
import MonsterMesh.Daycare.State
import MonsterMesh.Lib.Quota

/-! The daycare with all it counts, and the achievements it grants. -/
namespace MonsterMesh

/-! ### Achievements -/

inductive DaycareAchievement where
  | firstDay | settledIn | daycareVeteran | lifetimeResident | oldTimer
  | firstFriend | goodFriends | bestFriendsForever | socialButterfly | beloved
  | firstRival | heatedRivalry | archNemesis | friendlyRival | fightClub | unstoppableForce | respect
  | firstLevelUp | daycareGraduate | daycareScholar
  | explorer | dreamer | escapeArtist | fullMoon | splashChampion | theLonelyOne
  | stormChaser | snowbound | weathered | lightningRod | fogWalker
  | welcomeCommittee | meshElder | neighborhood | community
deriving DecidableEq

/-- `1ULL << ach` -/
def DaycareAchievement.bit (a : DaycareAchievement) : UInt64 := 1 <<< UInt64.ofNat a.ctorIdx

def hasAchievement (flags : UInt64) (a : DaycareAchievement) : Bool := flags &&& a.bit != 0

def addAchievement (flags : UInt64) (a : DaycareAchievement) : UInt64 := flags ||| a.bit

/-! ### What is counted -/

structure DaycareResident extends DaycarePokemonState where
  totalHours : UInt32
  escapeCount : UInt8
  (dreamCount exploreCount splashCount : UInt16)

def DaycareResident.zero : DaycareResident := ⟨.zero, 0, 0, 0, 0, 0⟩

/-- The part of the daycare state about its own mons, the weather and the achievements. -/
structure DaycareRecord where
  pokemon : ℕ → DaycareResident
  achievementFlags : UInt64
  (weatherTypesSeen thunderstormCount snowCount fogCount lightningAbsorbs uniqueTrainersGreeted : UInt8)
  totalSparWins : UInt16

def DaycareRecord.init : DaycareRecord := ⟨fun _ => .zero, 0, 0, 0, 0, 0, 0, 0, 0⟩

/-- What `checkAchievements` reads of the state. -/
structure DaycareView where
  partyCount : UInt8
  relationships : RelationshipTable
  record : DaycareRecord

/-- The species of the daycare table with type Ghost. -/
def ghostTypes : List UInt8 := [92, 93, 94]

/-- The species of the daycare table with type Electric. -/
def electricTypes : List UInt8 := [25, 26, 81, 82, 100, 101, 125, 135, 145]

def friendTierAcquaintance : UInt8 := 21
def friendTierFriend : UInt8 := 61
def friendTierBestFriend : UInt8 := 201
def rivalTierCompetitor : UInt8 := 16
def rivalTierRival : UInt8 := 51
def rivalTierFierce : UInt8 := 121
def rivalTierArch : UInt8 := 201

/-! ### `checkAchievements` -/

open DaycareAchievement

def offered (p : Prop) [Decidable p] (a : DaycareAchievement) : List DaycareAchievement :=
  if p then [a] else []

def timeOffers (p : DaycareResident) : List DaycareAchievement :=
  offered (24 ≤ p.totalHours) firstDay ++ offered (100 ≤ p.totalHours) settledIn ++
    offered (1000 ≤ p.totalHours) daycareVeteran ++ offered (10000 ≤ p.totalHours) lifetimeResident ++
    offered (50000 ≤ p.totalHours) oldTimer

def friendOffers (r : DaycareRelationship) : List DaycareAchievement :=
  offered (friendTierAcquaintance ≤ r.friendship) firstFriend ++
    offered (friendTierFriend ≤ r.friendship) goodFriends ++
    offered (friendTierBestFriend ≤ r.friendship) bestFriendsForever ++
    offered (friendTierBestFriend ≤ r.friendship ∧ rivalTierArch ≤ r.rivalry) friendlyRival ++
    offered (rivalTierRival ≤ r.rivalry ∧ friendTierBestFriend ≤ r.friendship) respect

def rivalOffers (r : DaycareRelationship) : List DaycareAchievement :=
  offered (rivalTierCompetitor ≤ r.rivalry) firstRival ++
    offered (rivalTierFierce ≤ r.rivalry) heatedRivalry ++
    offered (rivalTierArch ≤ r.rivalry) archNemesis

def levelOffers (p : DaycareResident) : List DaycareAchievement :=
  offered (1 ≤ p.totalLevelsGained) firstLevelUp ++ offered (10 ≤ p.totalLevelsGained) daycareGraduate ++
    offered (25 ≤ p.totalLevelsGained) daycareScholar

def countOffers (p : DaycareResident) : List DaycareAchievement :=
  offered (50 ≤ p.exploreCount) explorer ++ offered (20 ≤ p.dreamCount) dreamer ++
    offered (1 ≤ p.escapeCount) escapeArtist ++
    offered (p.speciesDex = 129 ∧ 100 ≤ p.splashCount) splashChampion

/-- A friend missed for a week, seen in the last two minutes. -/
def DaycareRelationship.Reunited (r : DaycareRelationship) (now : Instant) : Prop :=
  7 ≤ r.daysMissing ∧ friendTierFriend ≤ r.friendship ∧ now.millis - r.lastSeen.millis < 120000

instance (r : DaycareRelationship) (now : Instant) : Decidable (r.Reunited now) :=
  inferInstanceAs (Decidable (_ ∧ _))

namespace DaycareView

variable (v : DaycareView)

def party : List DaycareResident := (List.range v.partyCount.toNat).map v.record.pokemon

def pairs : List DaycareRelationship := v.relationships.entries

/-- The calls of `grant` before the reunions are looked at. -/
def earlyOffers : List DaycareAchievement :=
  v.party.flatMap timeOffers ++ v.pairs.flatMap friendOffers ++
    offered (10 ≤ v.pairs.countP fun r => friendTierFriend ≤ r.friendship) socialButterfly ++
    offered (5 ≤ v.pairs.countP fun r => friendTierBestFriend ≤ r.friendship) beloved ++
    v.pairs.flatMap rivalOffers ++
    offered (5 ≤ v.pairs.countP fun r => rivalTierCompetitor ≤ r.rivalry) fightClub ++
    offered (50 ≤ v.record.totalSparWins) unstoppableForce ++
    v.party.flatMap levelOffers ++ v.party.flatMap countOffers

def lonelyOffers (now : Instant) : List DaycareAchievement :=
  v.pairs.flatMap fun r => offered (r.Reunited now) theLonelyOne

/-- The calls of `grant` after them. -/
def lateOffers (neighborCount : ℕ) : List DaycareAchievement :=
  offered (10 ≤ v.record.thunderstormCount) stormChaser ++
    offered (10 ≤ v.record.snowCount) snowbound ++
    offered (10 ≤ v.record.fogCount ∧ v.party.any fun p => p.speciesDex ∈ ghostTypes) fogWalker ++
    offered (5 ≤ v.record.lightningAbsorbs ∧ v.party.any fun p => p.speciesDex ∈ electricTypes)
      lightningRod ++
    offered (v.record.weatherTypesSeen &&& 0xFE = 0xFE) weathered ++
    offered (5 ≤ v.record.uniqueTrainersGreeted) welcomeCommittee ++
    offered (25 ≤ v.record.uniqueTrainersGreeted) meshElder ++
    offered (5 ≤ neighborCount) neighborhood ++ offered (10 ≤ neighborCount) community

/-- All calls of `grant`, in order. -/
def offers (neighborCount : ℕ) (now : Instant) : List DaycareAchievement :=
  v.earlyOffers ++ v.lonelyOffers now ++ v.lateOffers neighborCount

/-- The condition of an achievement. -/
def Holds (neighborCount : ℕ) (now : Instant) (a : DaycareAchievement) : Prop :=
  a ∈ v.offers neighborCount now

def Granted (a : DaycareAchievement) : Prop := hasAchievement v.record.achievementFlags a = true

/-- A reunion is used up by being looked at. -/
def settle (now : Instant) : RelationshipTable :=
  v.relationships.each fun r => if r.Reunited now then { r with daysMissing := 0 } else r

/-- At most `maxNew` achievements are granted in a call. -/
def checkAchievements (neighborCount : ℕ) (now : Instant) (maxNew : ℕ) :
    DaycareView × List DaycareAchievement :=
  let r := Quota.offerAll hasAchievement addAchievement maxNew v.record.achievementFlags
    (v.offers neighborCount now)
  ({ v with
      relationships := v.settle now
      record := { v.record with achievementFlags := r.1 } }, r.2)

end DaycareView

/-! ### The daycare -/

namespace DaycareResident

variable (p : DaycareResident)

/-- Counters are kept while the species stays the same. -/
def checkIn (info : DaycarePartyInfo) : DaycareResident :=
  { (if p.speciesDex ≠ info.dexNum then zero else p) with
    toDaycarePokemonState := p.toDaycarePokemonState.checkIn info }

end DaycareResident

inductive DaycareWeatherType where
  | none | clear | rain | snow | thunderstorm | fog | windy | hot | cold
deriving DecidableEq

/-- What the event generator and the text of its event decide. -/
structure DaycareOutcome where
  evt : DaycareEvent
  (dreamt explored escaped splashed dreamText exploreText escapeText splashText : Bool)

namespace DaycareRecord

variable (r : DaycareRecord)

def setPokemon (i : ℕ) (f : DaycareResident → DaycareResident) : DaycareRecord :=
  { r with pokemon := Function.update r.pokemon i (f (r.pokemon i)) }

def checkIn (count : ℕ) (info : ℕ → DaycarePartyInfo) : DaycareRecord :=
  { r with pokemon := fun i => if i < count then (r.pokemon i).checkIn (info i) else r.pokemon i }

/-- An hour passes for the party. -/
def addHour (count : ℕ) : DaycareRecord :=
  { r with
    pokemon := fun i =>
      if i < count then { r.pokemon i with totalHours := (r.pokemon i).totalHours + 1 }
      else r.pokemon i }

/-- The counters the generator moves itself. -/
def generated (o : DaycareOutcome) : DaycareRecord :=
  r.setPokemon o.evt.targetSpeciesIdx.toNat fun p =>
    { p with
      dreamCount := if o.dreamt then p.dreamCount + 1 else p.dreamCount
      exploreCount := if o.explored then p.exploreCount + 1 else p.exploreCount
      escapeCount := if o.escaped then p.escapeCount + 1 else p.escapeCount
      splashCount := if o.splashed then p.splashCount + 1 else p.splashCount }

def award (partyCount : UInt8) (evt : DaycareEvent) (k : EventKind) : DaycareRecord :=
  if 0 < evt.xp ∧ evt.targetSpeciesIdx < partyCount then
    r.setPokemon evt.targetSpeciesIdx.toNat fun p =>
      { p with toDaycarePokemonState := k.run p.toDaycarePokemonState evt.xp }
  else r

/-- The counters that go by the words of the event. -/
def updateEventCounters (partyCount : UInt8) (o : DaycareOutcome) : DaycareRecord :=
  if partyCount ≤ o.evt.targetSpeciesIdx then r
  else
    r.setPokemon o.evt.targetSpeciesIdx.toNat fun p =>
      { p with
        dreamCount := if o.dreamText then p.dreamCount + 1 else p.dreamCount
        exploreCount := if o.exploreText then p.exploreCount + 1 else p.exploreCount
        escapeCount := if o.escapeText then p.escapeCount + 1 else p.escapeCount
        splashCount := if p.speciesDex = 129 ∧ o.splashText then p.splashCount + 1 else p.splashCount }

def updateWeatherCounters (partyCount : UInt8) (w : DaycareWeatherType) : DaycareRecord :=
  if w = .none then r
  else
    let r := { r with weatherTypesSeen := r.weatherTypesSeen ||| UInt8.ofNat (1 <<< w.ctorIdx) }
    match w with
    | .thunderstorm =>
      { r with
        thunderstormCount := r.thunderstormCount + 1
        lightningAbsorbs := r.lightningAbsorbs + UInt8.ofNat
          ((List.range partyCount.toNat).countP fun i => (r.pokemon i).speciesDex ∈ electricTypes) }
    | .snow | .cold => { r with snowCount := r.snowCount + 1 }
    | .fog => { r with fogCount := r.fogCount + 1 }
    | _ => r

end DaycareRecord

/-- `stored` is what flash holds beside `node.flash`; `reported` lists what was announced as new. -/
structure DaycareHome where
  node : DaycareNode
  record : DaycareRecord
  stored : DaycareRecord
  reported : List DaycareAchievement

/-- The room for new achievements in an event cycle. -/
def newAchs : ℕ := 4

namespace DaycareHome

variable (h : DaycareHome)

def start (nodeNum : UInt32) : DaycareHome :=
  { node := .start nodeNum 0 none, record := .init, stored := .init, reported := [] }

def view : DaycareView := ⟨h.node.state.partyCount, h.node.state.relationships, h.record⟩

/-- The cycle up to the check. -/
def happen (pick : Option (ℕ × Meeting)) (o : DaycareOutcome) : DaycareHome :=
  let count := h.node.state.partyCount
  { h with
    node := h.node.runEventCycle pick
    record := (((h.record.addHour count.toNat).generated o).award count o.evt .hourly).updateEventCounters
      count o }

def check : DaycareHome :=
  let r := h.view.checkAchievements h.node.neighbors.count h.node.now newAchs
  { h with
    node := { h.node with state := { h.node.state with relationships := r.1.relationships } }
    record := r.1.record
    reported := h.reported ++ r.2 }

def runEventCycle (pick : Option (ℕ × Meeting)) (o : DaycareOutcome) : DaycareHome :=
  (h.happen pick o).check

def saveState : DaycareHome := { h with node := h.node.saveState, stored := h.record }

def received (b : DaycareBeacon) (m : Meeting) (evt : DaycareEvent) : DaycareHome :=
  let node := h.node.handleReceived b m
  let new := b.nodeId ≠ h.node.nodeNum ∧ isKnownNode h.node.state.knownNodes b.nodeId = false
  let record :=
    if new then { h.record with uniqueTrainersGreeted := h.record.uniqueTrainersGreeted + 1 } else h.record
  let arrived :=
    h.node.arrivals ≠ node.arrivals ∧ node.active ∧ node.state.partyCount ≠ 0 ∧ b.partyCount ≠ 0
  { h with
    node
    record := if arrived then record.award node.state.partyCount evt .arrival else record }

/-- `loadState` finds a state to go on with. -/
def loads : Bool := h.node.flash.any fun st => st.magic = daycareMagic

def init : DaycareHome := { h with node := h.node.init, record := .init }

def checkIn (count : UInt8) (info : ℕ → DaycarePartyInfo) : DaycareHome :=
  { h with
    node := h.node.checkIn count
    record := (if h.loads then h.stored else .init).checkIn count.toNat info }

def cycleIfDue (now : Instant) (pick : Option (ℕ × Meeting)) (o : DaycareOutcome) : DaycareHome :=
  if eventIntervalMs ≤ now.millis - h.node.state.lastEventMs then
    let h := h.runEventCycle pick o
    { h with node := { h.node with state := { h.node.state with lastEventMs := now.millis } } }
  else h

def saveIfDue (now : Instant) : DaycareHome :=
  if saveIntervalMs ≤ now.millis - h.node.lastSaveMs then
    let h := h.saveState
    { h with node := { h.node with lastSaveMs := now.millis } }
  else h

def tick (now : Instant) (pick : Option (ℕ × Meeting)) (o : DaycareOutcome) : DaycareHome :=
  if h.node.active = false ∨ h.node.state.partyCount = 0 then h
  else
    let h := { h with node := h.node.decayIfDue now }
    let h := h.cycleIfDue now pick o
    let h := { h with node := h.node.expire now }
    h.saveIfDue now

def forceEvent (pick : Option (ℕ × Meeting)) (o : DaycareOutcome) : DaycareHome :=
  if h.node.active then
    let h := h.runEventCycle pick o
    { h with node := { h.node with state := { h.node.state with lastEventMs := h.node.now.millis } } }
  else h

end DaycareHome

inductive HomeEvent where
  | wait (ms : ℕ)
  | beacon (b : DaycareBeacon) (m : Meeting) (evt : DaycareEvent)
  | weather (w : DaycareWeatherType)
  | tick (lag : ℕ) (pick : Option (ℕ × Meeting)) (o : DaycareOutcome)
  | force (pick : Option (ℕ × Meeting)) (o : DaycareOutcome)
  | init
  | checkIn (count : UInt8) (info : ℕ → DaycarePartyInfo)
  | checkOut
  | restart

/-- The module checks out an active daycare only. -/
def DaycareHome.step (h : DaycareHome) : HomeEvent → DaycareHome
  | .wait ms => { h with node := h.node.step (.wait ms) }
  | .beacon b m evt => h.received b m evt
  | .weather w => { h with record := h.record.updateWeatherCounters h.node.state.partyCount w }
  | .tick lag pick o => h.tick (h.node.taken lag) pick o
  | .force pick o => h.forceEvent pick o
  | .init => h.init
  | .checkIn count info => h.checkIn count info
  | .checkOut => if h.node.active then { h.saveState with node := h.node.checkOut } else h
  | .restart => { h with node := h.node.step .restart, record := .init }

end MonsterMesh
