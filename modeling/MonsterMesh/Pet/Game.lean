import Mathlib.Algebra.Group.Int.Defs
import Mathlib.Algebra.Group.Nat.Defs
import Mathlib.Data.Int.Init

/-! A pet on the screen of a node, whose steps are the packets of the mesh. -/
namespace MonsterMesh

/-- `enum GameState` -/
inductive GameState where
  | starting | stand | sleeping | eating | walking | bath | licking | watchTV | happy | heartSmiles
  | backflip | clockMenu | statusMenu | giftMenu | ranAway | gameComplete
deriving DecidableEq

/-- The sequences that the game plays. -/
inductive Anims where
  | standBasicIdle | standBasicLook | standLike | standLove | standMad | sleepFront | sleepSide | sleepBack
  | walkCycle1 | eatingToast | eatingNomnom | happy1 | happy2 | heartSmiles | licking | bath | watchTV
  | pokeball | ranAway | finalScreen
deriving DecidableEq

namespace Anims

/-- How many frames a sequence has. -/
def count : Anims → ℕ
  | happy1 | bath => 4
  | happy2 | heartSmiles => 3
  | licking | watchTV | pokeball => 2
  | _ => 1

def animFrameMs : UInt32 := 500
def sleepFrameMs : UInt32 := 1200

def delayMs : Anims → UInt32
  | sleepFront | sleepSide | sleepBack => sleepFrameMs
  | _ => animFrameMs

end Anims

structure PikaStatus where
  (steps totalSteps : ℕ)
  (watts friendshipLevel : ℤ)
  (todayReach150 todayReach300 reachEnd : Bool)
deriving DecidableEq

structure AnimPlayer where
  seq : Anims
  frameIdx : ℕ
  lastFrameMs : UInt32
  looping : Bool
deriving DecidableEq

/-- The pet with the variables that its functions keep. -/
structure Pet where
  status : PikaStatus
  gameState : GameState
  anim : AnimPlayer
  screenOn : Bool
  (lastStepMs lastActivityMs : UInt32)
  consecutiveSteps : ℕ
  isWalking : Bool
  (cooldownEat cooldownBath : UInt32)
  stepsToConvert : ℕ
  giftMenuCursor : ℕ
  (giftPowUntil happyEndAt : UInt32)
  lastMinuteCheck : UInt32
  lastCheckedHour : ℤ
  decayHours : ℕ
deriving DecidableEq

/-- What a call sees of the clock and of the dice. -/
structure Moment where
  millis : UInt32
  hour : ℕ
  pose : Fin 3
  coin : Bool

namespace Pet

def friendshipRanAway : ℤ := -1500
def friendshipMad : ℤ := -500
def friendshipLikes : ℤ := 1500
def friendshipLoves : ℤ := 3000
def sleepHour : ℕ := 20
def wakeHour : ℕ := 8
def stepsPerWatt : ℕ := 20
def consecutiveToWalk : ℕ := 20
def stepsUnlock1 : ℕ := 15000
def stepsUnlock2 : ℕ := 30000
def stepsGoal : ℕ := 100000
def screenTimeoutMs : UInt32 := 60000

/-- A value of 32 bits with its sign. -/
def wrap32 (x : ℤ) : ℤ := x.bmod (2 ^ 32)

variable (c : Moment) (s : Pet)

def gameIsSleepTime : Bool := sleepHour ≤ c.hour || c.hour < wakeHour

def gamePlayAnim (seq : Anims) (loop : Bool) : Pet :=
  { s with anim := { seq := seq, frameIdx := 0, lastFrameMs := c.millis, looping := loop } }

def constrain (x a b : ℤ) : ℤ := if x < a then a else if b < x then b else x

def updateFriendship (delta : ℤ) : Pet :=
  let s := { s with status.friendshipLevel := constrain (wrap32 (s.status.friendshipLevel + delta)) (-2000) 4000 }
  if delta ≤ 0 then s
  else if 500 ≤ delta then gamePlayAnim c s .heartSmiles false
  else if 200 ≤ delta then gamePlayAnim c s .happy2 false
  else gamePlayAnim c s .happy1 false

def poses : Fin 3 → Anims
  | 0 => .sleepFront
  | 1 => .sleepSide
  | 2 => .sleepBack

def enterIdle : Pet :=
  let s := { s with isWalking := false, consecutiveSteps := 0 }
  if s.status.friendshipLevel ≤ friendshipRanAway then
    gamePlayAnim c { s with gameState := .ranAway } .ranAway true
  else if s.status.reachEnd then gamePlayAnim c { s with gameState := .gameComplete } .finalScreen true
  else if gameIsSleepTime c then gamePlayAnim c { s with gameState := .sleeping } (poses c.pose) true
  else
    let s := { s with gameState := .stand }
    if friendshipLoves ≤ s.status.friendshipLevel then gamePlayAnim c s .standLove true
    else if friendshipLikes ≤ s.status.friendshipLevel then gamePlayAnim c s .standLike true
    else if s.status.friendshipLevel ≤ friendshipMad then gamePlayAnim c s .standMad true
    else gamePlayAnim c s .standBasicIdle true

def checkScheduledActivities : Pet :=
  if s.gameState ≠ .stand then s
  else if (c.hour = 10 ∨ c.hour = 12 ∨ c.hour = 18) ∧ s.cooldownEat < c.millis then
    let chopsticks := s.status.todayReach300 && c.coin
    let s := gamePlayAnim c { s with gameState := .eating } (if chopsticks then .eatingNomnom else .eatingToast) false
    updateFriendship c { s with cooldownEat := c.millis + 3600000 } 50
  else if c.hour = 15 ∧ s.cooldownBath < c.millis then
    { gamePlayAnim c { s with gameState := .licking } .licking false with cooldownBath := c.millis + 3600000 }
  else if c.hour = 19 ∧ s.cooldownBath < c.millis then
    let s := gamePlayAnim c { s with gameState := .bath } .bath false
    updateFriendship c { s with cooldownBath := c.millis + 3600000 } 30
  else if c.hour = 18 ∨ c.hour = 19 then gamePlayAnim c { s with gameState := .watchTV } .watchTV false
  else s

/-! ### Steps -/

/-- A step is counted, and some are converted to a watt. -/
def countStep : Pet :=
  let s := { s with
    status.steps := s.status.steps + 1
    status.totalSteps := (s.status.totalSteps + 1) % 2 ^ 32
    consecutiveSteps := (s.consecutiveSteps + 1) % 2 ^ 32
    stepsToConvert := (s.stepsToConvert + 1) % 2 ^ 32 }
  if stepsPerWatt ≤ s.stepsToConvert then
    { s with status.watts := wrap32 (s.status.watts + 1), stepsToConvert := 0 }
  else s

def unlockTiers : Pet :=
  let s := if !s.status.todayReach150 ∧ stepsUnlock1 ≤ s.status.totalSteps then
    updateFriendship c { s with status.todayReach150 := true } 200 else s
  if !s.status.todayReach300 ∧ stepsUnlock2 ≤ s.status.totalSteps then
    updateFriendship c { s with status.todayReach300 := true } 300 else s

def processStepCore : Pet :=
  if 99999 ≤ s.status.steps then s
  else
    let s := unlockTiers c (countStep s)
    if !s.status.reachEnd ∧ stepsGoal ≤ s.status.totalSteps then
      gamePlayAnim c { s with status.reachEnd := true, gameState := .gameComplete } .finalScreen true
    else if consecutiveToWalk ≤ s.consecutiveSteps ∧ !s.isWalking then
      gamePlayAnim c { s with isWalking := true, gameState := .walking } .walkCycle1 true
    else s

/-- The loop over the steps of a batch. -/
def processSteps : ℕ → Pet → Pet
  | 0, s => s
  | n + 1, s =>
    let s := processStepCore c s
    if s.gameState = .gameComplete then s else processSteps n s

def gameAddSteps (count : UInt32) : Pet :=
  if count = 0 then s
  else
    let quiet := gameIsSleepTime c || s.gameState = .sleeping
    let s := if !quiet then { s with lastActivityMs := c.millis, screenOn := true, lastStepMs := c.millis } else s
    processSteps c count.toNat s

/-- No step for a second. -/
def stopped : Bool := s.isWalking && c.millis - s.lastStepMs > 1000

def stopWalking : Pet := if stopped c s then enterIdle c s else s

def gameOnMeshMessage : Pet :=
  let s := { s with lastActivityMs := c.millis, screenOn := true }
  if s.gameState = .sleeping then
    let s := { s with consecutiveSteps := (s.consecutiveSteps + 1) % 2 ^ 32 }
    if 15 ≤ s.consecutiveSteps then enterIdle c (updateFriendship c s (-200)) else s
  else
    let s := if s.gameState = .stand ∧ s.consecutiveSteps = 0 then gamePlayAnim c s .standBasicLook false else s
    processStepCore c { stopWalking c s with lastStepMs := c.millis }

/-! ### Buttons -/

structure GiftOption where
  label : String
  watts : ℤ

def giftOptions : List GiftOption :=
  [⟨"10W", 10⟩, ⟨"50W", 50⟩, ⟨"100W", 100⟩, ⟨"200W", 200⟩, ⟨"500W", 500⟩, ⟨"All", -1⟩, ⟨"Clock", 0⟩,
    ⟨"Status", 0⟩, ⟨"Back", 0⟩]

/-- What an option spends. -/
def giftWatts (wattAmount : ℤ) : ℤ := if wattAmount < 0 then s.status.watts else wattAmount

def giveGift (wattAmount : ℤ) : Pet :=
  let wattAmount := giftWatts s wattAmount
  if wattAmount ≤ 0 ∨ s.status.watts < wattAmount then { s with giftPowUntil := c.millis + 400 }
  else
    let s := updateFriendship c { s with status.watts := s.status.watts - wattAmount } (wrap32 (wattAmount * 20))
    { s with giftPowUntil := c.millis + 600 }

/-- The flash after a gift. -/
def flashing : Bool := s.giftPowUntil ≠ 0 && c.millis < s.giftPowUntil

def gameOnShortPress : Pet :=
  let s := { s with screenOn := true, lastActivityMs := c.millis }
  if flashing c s then s
  else match s.gameState with
    | .giftMenu => { s with giftMenuCursor := (s.giftMenuCursor + 1) % giftOptions.length }
    | .clockMenu => { s with gameState := .statusMenu }
    | .statusMenu => { s with giftMenuCursor := 0, gameState := .giftMenu }
    | _ => s

def chooseGift (opt : GiftOption) : Pet :=
  if opt.watts ≠ 0 then giveGift c s opt.watts
  else if opt.label = "Clock" then { s with gameState := .clockMenu }
  else if opt.label = "Status" then { s with gameState := .statusMenu }
  else enterIdle c s

def gameOnLongPress : Pet :=
  let s := { s with screenOn := true, lastActivityMs := c.millis }
  if flashing c s then s
  else match s.gameState with
    | .giftMenu => match giftOptions[s.giftMenuCursor]? with
      | some opt => chooseGift c s opt
      | none => s
    | .clockMenu | .statusMenu => enterIdle c s
    | _ => { s with giftMenuCursor := 0, gameState := .giftMenu }

/-! ### Updates -/

/-- The game as it starts with a saved status. -/
def gameInit (saved : PikaStatus) : Pet :=
  { status := saved, gameState := .starting
    anim := { seq := .pokeball, frameIdx := 0, lastFrameMs := c.millis, looping := false }
    screenOn := true, lastStepMs := 0, lastActivityMs := c.millis, consecutiveSteps := 0, isWalking := false
    cooldownEat := 0, cooldownBath := 0, stepsToConvert := 0, giftMenuCursor := 0, giftPowUntil := 0
    happyEndAt := 0, lastMinuteCheck := 0, lastCheckedHour := -1, decayHours := 0 }

def screenTimeout : Pet :=
  if s.screenOn ∧ c.millis - s.lastActivityMs > screenTimeoutMs then { s with screenOn := false } else s

def leaveStarting : Pet :=
  if s.gameState = .starting ∧ s.anim.seq.count - 1 ≤ s.anim.frameIdx then enterIdle c s else s

def endFlash : Pet :=
  if s.gameState = .giftMenu ∧ s.giftPowUntil ≠ 0 ∧ s.giftPowUntil ≤ c.millis then
    { s with giftPowUntil := 0, gameState := .happy, happyEndAt := c.millis + 2500 }
  else s

/-- The pet has been happy for long enough. -/
def happyOver : Bool := s.happyEndAt ≠ 0 && s.happyEndAt ≤ c.millis

def endHappy : Pet :=
  if s.gameState = .happy ∧ happyOver c s then enterIdle c { s with happyEndAt := 0 } else s

/-- A new minute began. -/
def minuteOver : Bool := c.millis - s.lastMinuteCheck > 60000

def resetDay : Pet :=
  let s := if c.hour = 0 ∧ s.lastCheckedHour = 23 then
    { s with status.steps := 0, status.todayReach150 := false, status.todayReach300 := false } else s
  { s with lastCheckedHour := c.hour }

def decay : Pet :=
  let s := { s with decayHours := (s.decayHours + 1) % 2 ^ 32 }
  if 6 ≤ s.decayHours then { updateFriendship c s (-10) with decayHours := 0 } else s

def everyMinute : Pet :=
  if minuteOver c s then decay c (resetDay c (checkScheduledActivities c { s with lastMinuteCheck := c.millis }))
  else s

/-- `game_update` up to the animation. -/
def tick : Pet :=
  everyMinute c (endHappy c (endFlash c (stopWalking c (leaveStarting c (screenTimeout c s)))))

/-- The next frame, and the update at the end of a sequence. -/
def advanceAnim (update : Pet → Option Pet) : Option Pet :=
  if c.millis - s.anim.lastFrameMs < s.anim.seq.delayMs then some s
  else
    let s := { s with anim.lastFrameMs := c.millis, anim.frameIdx := (s.anim.frameIdx + 1) % 256 }
    if s.anim.seq.count ≤ s.anim.frameIdx then
      if s.anim.looping then some { s with anim.frameIdx := 0 }
      else update { s with anim.frameIdx := s.anim.seq.count - 1 }
    else some s

/-- `game_update` with `advance_anim`, which call each other. -/
def gameUpdate : ℕ → Pet → Option Pet
  | 0, _ => none
  | n + 1, s => advanceAnim c (tick c s) (gameUpdate n)

/-- An update that calls itself once at most. -/
def updated : Pet := (gameUpdate c 2 s).getD s

inductive Event where
  | update (c : Moment)
  | message (c : Moment)
  | addSteps (c : Moment) (count : UInt32)
  | shortPress (c : Moment)
  | longPress (c : Moment)

def step : Event → Pet
  | .update c => updated c s
  | .message c => gameOnMeshMessage c s
  | .addSteps c count => gameAddSteps c s count
  | .shortPress c => gameOnShortPress c s
  | .longPress c => gameOnLongPress c s

end Pet
end MonsterMesh
