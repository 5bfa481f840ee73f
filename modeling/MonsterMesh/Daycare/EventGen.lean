import MonsterMesh.Daycare.Achievements
import MonsterMesh.Lib.Text

/-! What the events of the daycare are worded with. -/
namespace MonsterMesh.DaycareEventGen

open Text

def actionsMove : List Str :=
  ["practiced %s", "tried %s", "showed off %s", "failed at %s", "perfected %s", "accidentally used %s",
    "experimented with %s", "drilled %s"].map lit

def actionsSocial : List Str :=
  ["played with", "chased", "wrestled", "raced", "shared a berry with", "hid from", "startled", "groomed",
    "napped beside", "sparred with"].map lit

def actionsExplore : List Str :=
  ["discovered", "investigated", "dug up", "stumbled upon", "followed a trail to", "sniffed out",
    "climbed up to"].map lit

def actionsRest : List Str :=
  ["napped", "dozed off", "curled up", "sprawled out", "settled down", "found a cozy spot"].map lit

def targetsMove : List Str :=
  ["on a tree stump", "on a boulder", "on a leaf pile", "on the ground", "on thin air",
    "on a passing Pidgey", "on its own shadow", "on the pond surface", "on a fallen log", "on a dirt mound"].map lit

def targetsFound : List Str :=
  ["a shiny pebble", "an old berry", "a weird mushroom", "a lost coin", "a feather", "a smooth stone",
    "a buried bone", "a pretty flower", "a strange seed", "a piece of driftwood", "a sparkling crystal",
    "a round acorn"].map lit

def locations : List Str :=
  ["by the pond", "in the meadow", "near the big oak", "on the hilltop", "in the tall grass",
    "under the berry tree", "behind the rocks", "along the stream", "at the edge of the clearing",
    "in a sunny patch", "in the shade", "by the fence", "near the den", "on a warm rock", "under the stars"].map lit

def dreamTemplates : List Str :=
  ["Your %s dreamed about evolving.", "Your %s had a peaceful dream about a sunny field.",
    "Your %s dreamed about running through a thunderstorm.",
    "Your %s dreamed about an endless buffet. It smiled in its sleep.",
    "Your %s dreamed about flying over a waterfall.",
    "Your %s dreamed about all the things it could become.",
    "Your %s dreamed about the shadows. It seemed happy.",
    "Your %s had a dream about its trainer. Its tail wagged in its sleep.",
    "Your %s dreamed about swimming in an ocean of stars.",
    "Your %s had a restless dream. It muttered in its sleep.",
    "Your %s dreamed about winning a great battle.",
    "Your %s dreamed about a warm campfire and good friends.",
    "Your %s twitched in its sleep. Chasing something in a dream.",
    "Your %s dreamed about discovering a hidden cave.",
    "Your %s had a nightmare but then something comforted it in the dream."].map lit

/-- Dreams of a level to come. -/
def foreshadowDreams : List Str :=
  ["Your %s's body glowed faintly in its dream. Something is changing.",
    "Your %s dreamed about being stronger. It might be close to a breakthrough.",
    "Your %s dreamed it could do things it couldn't before."].map lit

def visitorWelcomeTemplates : List Str :=
  ["A new trainer arrived! Your %s ran over to say hello.",
    "Your %s is curious about the new Pokemon in the daycare!", "Your %s perked up — new friends!",
    "A new trainer joined the mesh! Your %s sniffed the air excitedly.",
    "Your %s noticed unfamiliar Pokemon and went to investigate."].map lit

def escapeFlying : List Str :=
  ["Your %s flew over the fence and explored the hills. It came back at sunset.",
    "Your %s soared above the daycare for a while. It came back looking refreshed."].map lit

def escapeDigger : List Str :=
  ["Your %s tunneled under the fence. It came back covered in mud and looking proud.",
    "Your %s dug an escape tunnel but came back before anyone noticed."].map lit

def escapeGhost : List Str :=
  ["Your %s phased through the wall and scared some wild Rattata outside. It came back laughing.",
    "Your %s slipped into the shadows and disappeared for an hour. It came back grinning."].map lit

def escapeWater : List Str :=
  ["Your %s followed the stream past the boundary. It floated back an hour later.",
    "Your %s swam downstream and explored. It came back smelling like the river."].map lit

def escapeSmall : List Str :=
  ["Your %s squeezed through a gap in the fence. It came back with a leaf in its fur.",
    "Your %s found a hole in the fence and went on an adventure. It came back safe."].map lit

def mischiefTemplates : List Str :=
  ["Your %s stole a berry from the pile and hid it.",
    "Your %s startled a sleeping Pokemon and ran away giggling.",
    "Your %s knocked over a pile of rocks just to see what would happen.",
    "Your %s pretended to be asleep and then jumped out at someone.",
    "Your %s dug a hole in the path. Someone's going to trip.",
    "Your %s hid someone's favorite napping spot."].map lit

def rainBoost : List Str :=
  ["Your %s is having the time of its life splashing in puddles.",
    "Your %s spread its leaves wide to catch the rain.", "Your %s danced in the downpour."].map lit

def rainPen : List Str :=
  ["Your %s is huddled under a rock, keeping dry. It looks miserable.",
    "Your %s is staying away from the puddles. Smart.",
    "Your %s found shelter and refuses to come out until the rain stops."].map lit

def tsBoot : List Str :=
  ["Your %s ran to the highest hill and absorbed a bolt of lightning! It's vibrating with energy!",
    "Your %s is crackling with electricity from the storm!"].map lit

def tsPen : List Str :=
  ["Your %s is grounded by the storm. It's pacing impatiently.",
    "Your %s dove for cover when the lightning started."].map lit

def sunBoost : List Str :=
  ["Your %s basked in the sun. Its energy is radiating.",
    "Your %s photosynthesized all morning. It looks healthier.", "Your %s loves this heat!"].map lit

def sunPen : List Str :=
  ["Your %s is desperately staying in the shade.",
    "Your %s made a small cold patch to lie on. It's suffering."].map lit

def snowBoost : List Str :=
  ["Your %s is singing in the snowfall! It hasn't been this happy in weeks.",
    "Your %s built an ice sculpture. It's beautiful.", "Your %s is thriving in the cold!"].map lit

def snowPen : List Str :=
  ["Your %s is huddled for warmth. Its energy is low.", "Your %s found a sheltered spot and went dormant."].map lit

def windBoost : List Str :=
  ["Your %s soared higher than ever on the updrafts!", "Your %s rode the wind currents with joy!"].map lit

def windPen : List Str :=
  ["Your %s got blown off a branch.", "Your %s is struggling against the wind."].map lit

def fogBoost : List Str :=
  ["Your %s is THRIVING in the fog. It scared four Pokemon before breakfast.",
    "Your %s disappeared into the fog. It's probably fine."].map lit

def fogPen : List Str :=
  ["Your %s is sticking very close to the den. It can't see anything.",
    "Your %s bumped into three things in the fog."].map lit

structure FlatTemplate where
  speciesDex : UInt8
  message : String
  hasXp : Bool
  xp : UInt8

/-- Moments that only one species has. -/
def flatTemplates : List FlatTemplate :=
  [⟨143, "Your Snorlax slept for 14 hours. It briefly woke up, ate everything, and went back to sleep.", false, 0⟩,
    ⟨143, "Your Snorlax is blocking the path again. Nobody can get through.", false, 0⟩,
    ⟨143, "Your Snorlax yawned so hard it created a small breeze.", false, 0⟩,
    ⟨25, "Your Pikachu refused to go in its Poke Ball again. It's sitting on Snorlax.", false, 0⟩,
    ⟨25, "Your Pikachu found a bottle of ketchup. It won't share.", false, 0⟩,
    ⟨25, "Your Pikachu thunderbolted a tree stump. Just because.", true, 15⟩,
    ⟨129, "Your Magikarp used Splash. Nothing happened. Magikarp used Splash again.", false, 0⟩,
    ⟨129, "Your Magikarp flopped around for a while. It's trying its best.", false, 0⟩,
    ⟨129, "Your Magikarp splashed with incredible determination.", true, 5⟩,
    ⟨39, "Your Jigglypuff gave a concert. Everyone fell asleep. Everyone has marker on their face.", false, 0⟩,
    ⟨39, "Your Jigglypuff sang to the clouds. They didn't fall asleep. Finally, an appreciative audience.", false, 0⟩,
    ⟨54, "Your Psyduck stared at a wall for 3 hours. Then accidentally Psychic'd Geodude into the air.", true, 20⟩,
    ⟨54, "Your Psyduck's headache got worse. Then it got better. Nobody knows why.", false, 0⟩,
    ⟨6, "Your Charizard ignored everyone. Except Dragonite — it challenged Dragonite to a fight.", true, 20⟩,
    ⟨6, "Your Charizard perched on the highest rock and surveyed everything below.", false, 0⟩,
    ⟨94, "Your Gengar hid in someone's shadow and scared them. Then it laughed for 20 minutes.", true, 10⟩,
    ⟨94, "Your Gengar tried to be scary but everyone was used to it by now. It looked disappointed.", false, 0⟩,
    ⟨104, "Your Cubone was alone by the pond. It stared at the moon for a long time.", false, 0⟩,
    ⟨104, "Your Cubone found a stick and pretended it was a bone club. It practiced swinging.", true, 10⟩,
    ⟨122, "Your Mr. Mime built an invisible wall across the path. Three Pokemon walked into it.", false, 0⟩,
    ⟨122, "Your Mr. Mime mimed a battle. It was surprisingly intense.", true, 15⟩,
    ⟨89, "Your Muk tried to hug someone. They ran. Muk doesn't understand why.", false, 0⟩,
    ⟨89, "Your Muk oozed into a comfortable puddle shape. It seems content.", false, 0⟩,
    ⟨133, "Your Eevee can't decide what to do. It started three activities and finished none.", false, 0⟩,
    ⟨133, "Your Eevee sat with everyone in the daycare today. One at a time.", true, 10⟩,
    ⟨1, "Your Bulbasaur tended to a wilting flower. It perked right up.", true, 10⟩,
    ⟨1, "Your Bulbasaur settled a fight between two other Pokemon. Natural peacekeeper.", true, 15⟩,
    ⟨7, "Your Squirtle organized a water gun fight. It won.", true, 15⟩,
    ⟨7, "Your Squirtle put on sunglasses it found somewhere. It looks cool.", false, 0⟩,
    ⟨4, "Your Charmander is guarding its tail flame from the wind. Brave little guy.", false, 0⟩,
    ⟨4, "Your Charmander practiced Ember until the tree stump caught fire. Oops.", true, 15⟩,
    ⟨150, "Your Mewtwo sat alone on the hilltop. It was thinking about the nature of existence.", false, 0⟩,
    ⟨150, "Your Mewtwo levitated every rock in the clearing. Just to see if it could.", true, 25⟩,
    ⟨79, "Your Slowpoke realized something funny from three days ago. It laughed.", false, 0⟩,
    ⟨79, "Your Slowpoke stared at the pond for 6 hours. It blinked once.", false, 0⟩,
    ⟨132, "Your Ditto transformed into a rock. Nobody noticed for hours.", false, 0⟩,
    ⟨132, "Your Ditto copied someone's appearance. There was briefly a lot of confusion.", false, 0⟩,
    ⟨149, "Your Dragonite gave smaller Pokemon rides on its back. Everyone had a great time.", true, 15⟩,
    ⟨149, "Your Dragonite delivered a berry to every Pokemon in the daycare. Mail carrier instincts.", true, 10⟩,
    ⟨131, "Your Lapras sang across the pond. The other Pokemon stopped to listen.", true, 10⟩,
    ⟨131, "Your Lapras gave a swimming lesson. Only the Water types passed.", true, 15⟩,
    ⟨57, "Your Primeape punched a tree. The tree lost.", true, 15⟩,
    ⟨57, "Your Primeape got angry at a cloud. It's still angry.", false, 0⟩,
    ⟨130, "Your Gyarados surfaced in the pond and everyone backed away slowly.", false, 0⟩,
    ⟨130, "Your Gyarados roared and the ripples reached the far shore.", true, 20⟩,
    ⟨93, "Your Haunter licked someone. They're paralyzed but it's wearing off.", false, 0⟩,
    ⟨93, "Your Haunter made funny faces until someone laughed. Mission accomplished.", true, 10⟩,
    ⟨63, "Your Abra teleported in its sleep. It's now napping in a tree.", false, 0⟩,
    ⟨63, "Your Abra woke up for 30 seconds. Then teleported back to its napping spot.", false, 0⟩,
    ⟨68, "Your Machamp set up an obstacle course for the other Pokemon.", true, 15⟩,
    ⟨68, "Your Machamp carried a boulder just to prove it could.", true, 10⟩,
    ⟨113, "Your Chansey bandaged a scraped knee on another Pokemon. Nurse on duty.", true, 10⟩,
    ⟨113, "Your Chansey offered its egg to someone who looked hungry.", false, 0⟩,
    ⟨109, "Your Koffing floated around happily. It doesn't know why the others keep their distance.", false, 0⟩,
    ⟨109, "Your Koffing sat with Muk. They had a lovely time. Nobody else joined.", false, 0⟩]

end MonsterMesh.DaycareEventGen

/-! The generator of daycare events: what happens to whom, how it is worded, and what is counted. -/
namespace MonsterMesh.DaycareEventGen

open Text

/-! ### Draws -/

/-- A computation that draws random numbers. -/
abbrev Draw := StateM UInt32

def rngSeed (s : UInt32) : UInt32 := if s ≠ 0 then s else 1

/-- xorshift32 -/
def rngNext : Draw UInt32 := modifyGet fun (s : UInt32) =>
  let s := s ^^^ (s <<< 13)
  let s := s ^^^ (s >>> 17)
  let s := s ^^^ (s <<< 5)
  (s, s)

def rngRange (max : UInt8) : Draw UInt8 := do
  if max = 0 then return 0
  return ((← rngNext) % max.toUInt32).toUInt8

def rngChance (percentChance : UInt8) : Draw Bool := do
  return (← rngNext) % 100 < percentChance.toUInt32

/-- `cond && rngChance(..)` -/
def chanceIf (cond : Prop) [Decidable cond] (percentChance : UInt8) : Draw Bool :=
  if cond then rngChance percentChance else pure false

def pick (pool : List Str) : Draw Str := do
  return (pool[(← rngRange (UInt8.ofNat pool.length)).toNat]?).getD []

/-! ### Texts -/

/-- `snprintf` with `%s` and `%d`, before it is cut. -/
def format : Str → List Str → Str
  | c :: t :: fmt, arg :: args =>
    if c = 37 ∧ (t = 115 ∨ t = 100) then arg ++ format fmt args else c :: format (t :: fmt) (arg :: args)
  | fmt, _ => fmt

/-- What `snprintf` leaves in a buffer of `n` bytes. -/
def formatted (n : ℕ) (fmt : Str) (args : List Str) : Str := (format fmt args).take (n - 1)

/-- The text gets a tag at its end if there is room. -/
def append (n : ℕ) (text tag : Str) : Str := if text.length + tag.length < n then text ++ tag else text

def xpTag (text : Str) (xp : UInt16) : Str :=
  append 200 text (formatted 20 (lit " (+%d XP)") [decimal xp.toNat])

/-! ### Tables -/

structure DaycareSpecies where
  (type1 type2 : UInt8)
  moves : List UInt8

/-- The tables that a script makes of a species database: names, profiles and moves by their numbers. -/
structure DaycareData where
  speciesNames : UInt8 → Str
  getSpecies : UInt8 → Option DaycareSpecies
  moveNames : UInt8 → Str

def speciesCount : UInt8 := 151
def moveCount : UInt8 := 165

structure TypeBehavior where
  (social combat explore rest mischief : UInt8)

def daycareTypeBehaviors : List TypeBehavior :=
  [⟨200, 80, 120, 180, 60⟩, ⟨120, 255, 80, 60, 40⟩, ⟨140, 100, 200, 100, 80⟩, ⟨60, 100, 100, 120, 200⟩,
    ⟨80, 120, 180, 160, 40⟩, ⟨60, 140, 120, 200, 20⟩, ⟨100, 100, 180, 120, 80⟩, ⟨40, 100, 120, 80, 255⟩,
    ⟨100, 200, 120, 140, 100⟩, ⟨160, 100, 180, 120, 80⟩, ⟨160, 60, 140, 200, 40⟩, ⟨120, 140, 160, 60, 200⟩,
    ⟨80, 100, 100, 160, 120⟩, ⟨100, 80, 120, 180, 60⟩, ⟨60, 200, 140, 100, 60⟩]

def weatherTypeMultiplier100 (weather : DaycareWeatherType) (t : UInt8) : UInt8 :=
  match weather with
  | .rain => if t = 9 ∨ t = 10 then 150 else if t = 8 ∨ t = 5 ∨ t = 4 ∨ t = 11 then 75 else 100
  | .thunderstorm => if t = 11 then 200 else if t = 2 ∨ t = 9 then 75 else 100
  | .clear => if t = 8 ∨ t = 10 then 150 else if t = 13 then 75 else 100
  | .hot => if t = 8 ∨ t = 10 then 150 else if t = 13 ∨ t = 6 then 75 else 100
  | .snow | .cold => if t = 13 then 150 else if t = 8 ∨ t = 10 ∨ t = 6 then 75 else 100
  | .windy => if t = 2 ∨ t = 14 then 150 else if t = 6 ∨ t = 3 then 75 else 100
  | .fog => if t = 7 then 150 else if t = 2 ∨ t = 0 then 75 else 100
  | .none => 100

def friendshipXpMultiplier100 (friendship : UInt8) : ℕ :=
  if 201 ≤ friendship then 200 else if 121 ≤ friendship then 150 else if 61 ≤ friendship then 125
  else if 21 ≤ friendship then 110 else 100

def rivalryXpBonus (rivalry : UInt8) : ℕ :=
  if 201 ≤ rivalry then 30 else if 121 ≤ rivalry then 20 else if 51 ≤ rivalry then 10
  else if 16 ≤ rivalry then 5 else 0

def calcXp (baseXp friendship rivalry weatherMult100 : UInt8) (isMentor : Bool) : UInt16 :=
  let xp := baseXp.toNat * friendshipXpMultiplier100 friendship / 100
  let xp := (xp + rivalryXpBonus rivalry) * weatherMult100.toNat / 100
  let xp := if isMentor then xp * 150 / 100 else xp
  UInt16.ofNat (min xp 200)

/-! ### What the generator reads and writes -/

/-- The part of the daycare state that events read and count in. -/
structure Daybook where
  partyCount : UInt8
  nickname : ℕ → Str
  record : DaycareRecord
  relationships : RelationshipTable
  totalEvents : UInt32

/-- What an event happens under. -/
structure Scene where
  now : Instant
  neighbors : List DaycareNeighborPokemon
  weather : DaycareWeatherType
  isNight : Bool
  newNodeId : UInt32

/-- The counters of a mon. -/
inductive Counter where
  | dream | explore | escape | splash
deriving DecidableEq

inductive DaycareEventCategory where
  | social | combat | explore | rest | mischief
deriving DecidableEq

/-- Where an event comes from. -/
inductive Origin where
  | visitor | dream | escape | weather | quiet
  | flat (dex : UInt8)
  | composed (cat : DaycareEventCategory)
deriving DecidableEq

/-- An event, the counter that the generator moves for it, if any, and where it comes from. -/
structure Generated where
  evt : DaycareEvent
  message : Str
  counted : Option Counter
  origin : Origin

variable (d : DaycareData) (s : Scene) (b : Daybook)

def isEeveeFamily (dex : UInt8) : Bool := 133 ≤ dex && dex ≤ 136

def hasTypeAffinity (dex1 dex2 : UInt8) : Bool :=
  (isEeveeFamily dex1 && isEeveeFamily dex2) ||
    match d.getSpecies dex1, d.getSpecies dex2 with
    | some sp1, some sp2 =>
      sp1.type1 = sp2.type1 || sp1.type1 = sp2.type2 || sp1.type2 = sp2.type1 || sp1.type2 = sp2.type2
    | _, _ => false

def speciesName (dex : UInt8) : Str :=
  if 1 ≤ dex ∧ dex ≤ speciesCount then d.speciesNames dex else lit "Pokemon"

/-- `getDisplayName(localParty[idx])` -/
def localName (idx : UInt8) : Str :=
  let species := speciesName d (b.record.pokemon idx.toNat).speciesDex
  let nickname := b.nickname idx.toNat
  if nickname ≠ [] then formatted 48 (lit "%s, %s") [species, nickname] else formatted 48 (lit "%s") [species]

def fmtTrainerTag (shortName gameName : Str) : Str :=
  if gameName ≠ [] then formatted 14 (lit "%s-%s") [shortName, gameName] else formatted 14 (lit "%s") [shortName]

def fmtNeighborName (n : DaycareNeighborPokemon) : Str :=
  let tag := fmtTrainerTag n.shortName n.gameName
  let species := speciesName d n.speciesDex
  if n.nickname ≠ [] then formatted 48 (lit "%s's %s, %s") [tag, species, n.nickname]
  else formatted 48 (lit "%s's %s") [tag, species]

/-- Neighbors that share a type come up three times as often. -/
def pickNeighbor (localDex : UInt8) (neighbors : List DaycareNeighborPokemon) : Draw ℕ := do
  if neighbors.length ≤ 1 then return 0
  let weights := neighbors.map fun n => if hasTypeAffinity d localDex n.speciesDex then 3 else 1
  let roll := (← rngNext).toNat % weights.foldl (· + ·) 0
  let below (i : ℕ) : Bool := roll < (weights.take (i + 1)).foldl (· + ·) 0
  return ((List.range weights.length).find? below).getD 0

def pickPokemon : Draw UInt8 := rngRange b.partyCount

/-! ### Events of one kind -/

def generateVisitor : Draw Generated := do
  let idx ← pickPokemon b
  let msg ← pick visitorWelcomeTemplates
  return ⟨⟨0, idx⟩, formatted 200 msg [localName d b idx], none, .visitor⟩

def generateDream : Draw Generated := do
  let idx ← pickPokemon b
  let foreshadow ← chanceIf (0 < (b.record.pokemon idx.toNat).totalXpGained) 20
  let msg ← pick (if foreshadow then foreshadowDreams else dreamTemplates)
  return ⟨⟨0, idx⟩, formatted 200 msg [localName d b idx], some .dream, .dream⟩

def escapeTemplates (sp : DaycareSpecies) : List Str :=
  if sp.type1 = 2 ∨ sp.type2 = 2 then escapeFlying
  else if sp.type1 = 4 ∨ sp.type2 = 4 then escapeDigger
  else if sp.type1 = 7 ∨ sp.type2 = 7 then escapeGhost
  else if sp.type1 = 9 ∨ sp.type2 = 9 then escapeWater
  else escapeSmall

def escapeTemplate (dex : UInt8) : Draw Str :=
  match d.getSpecies dex with
  | some sp => pick (escapeTemplates sp)
  | none => pure (escapeSmall.headD [])

def tryEscape : Draw (Option Generated) := do
  if !(← rngChance 1) then return none
  let idx ← pickPokemon b
  let msg ← escapeTemplate d (b.record.pokemon idx.toNat).speciesDex
  return some ⟨⟨0, idx⟩, formatted 200 msg [localName d b idx], some .escape, .escape⟩

/-- The texts of a weather: for who likes it, for who does not, for the others; and what it is worth to the first. -/
structure WeatherTexts where
  (boost pen : List Str)
  neutral : Str
  baseXp : UInt8

def weatherTexts : DaycareWeatherType → WeatherTexts
  | .rain => ⟨rainBoost, rainPen, lit "Your %s watched the rain from under a tree.", 20⟩
  | .thunderstorm => ⟨tsBoot, tsPen, lit "Your %s watched the lightning from a safe distance.", 30⟩
  | .clear | .hot => ⟨sunBoost, sunPen, lit "Your %s enjoyed the sunny weather.", 20⟩
  | .snow | .cold => ⟨snowBoost, snowPen, lit "Your %s watched the snow fall.", 25⟩
  | .windy => ⟨windBoost, windPen, lit "Your %s braced against the wind.", 25⟩
  | .fog => ⟨fogBoost, fogPen, lit "Your %s peered into the fog cautiously.", 20⟩
  | .none => ⟨[], [], lit "Your %s watched the weather change.", 0⟩

/-- What the weather is to a species: more than 100 is good. -/
def weatherMult (dex : UInt8) : UInt8 :=
  match d.getSpecies dex with
  | some sp => weatherTypeMultiplier100 s.weather sp.type1
  | none => 100

def weatherTemplate (texts : WeatherTexts) (mult : UInt8) : Draw Str :=
  if 100 < mult then pick texts.boost else if mult < 100 then pick texts.pen else pure texts.neutral

def generateWeatherEvent : Draw Generated := do
  let idx ← pickPokemon b
  let mult := weatherMult d s (b.record.pokemon idx.toNat).speciesDex
  let texts := weatherTexts s.weather
  let msg := formatted 200 (← weatherTemplate texts mult) [localName d b idx]
  if 100 < mult then
    let xp := calcXp texts.baseXp 0 0 mult false
    return ⟨⟨xp, idx⟩, xpTag msg xp, none, .weather⟩
  return ⟨⟨0, idx⟩, msg, none, .weather⟩

def flatXp (tmpl : FlatTemplate) : Draw UInt8 := do
  if tmpl.hasXp then return tmpl.xp
  if ← rngChance 50 then return 5 + (← rngRange 8)
  return 0

/-- A moment of one species, three times in ten. -/
def tryFlatTemplate : Draw (Option Generated) := do
  if !(← rngChance 30) then return none
  let idx ← pickPokemon b
  let dex := (b.record.pokemon idx.toNat).speciesDex
  let matching := (flatTemplates.filter fun t => t.speciesDex = dex).take 16
  let some tmpl := matching[(← rngRange (UInt8.ofNat matching.length)).toNat]? | return none
  let msg := lit tmpl.message
  let msg := if contains msg (lit "%s") then formatted 200 msg [localName d b idx] else msg.take 199
  let xp := (← flatXp tmpl).toUInt16
  return some ⟨⟨xp, idx⟩, if 0 < xp then xpTag msg xp else msg, if dex = 129 then some .splash else none,
    .flat dex⟩

/-! ### Composed events -/

/-- What one category makes of an event. -/
structure Composed where
  msg : Str
  giveXp : Bool
  (baseXp friendship rivalry : UInt8)
  isMentor : Bool
  counted : Option Counter
  relationships : RelationshipTable

/-- The category that a roll falls on, by the weights of the type. -/
def rollCategory (tb : TypeBehavior) (neighborCount : ℕ) : Draw DaycareEventCategory := do
  let socialW := if 0 < neighborCount then tb.social.toNat * 3 else 0
  let totalWeight := socialW + tb.combat.toNat + tb.explore.toNat + tb.rest.toNat + tb.mischief.toNat
  let roll := (← rngNext).toNat % totalWeight
  if roll < socialW ∧ 0 < neighborCount then return .social
  if roll < socialW + tb.combat.toNat then return .combat
  if roll < socialW + tb.combat.toNat + tb.explore.toNat then return .explore
  if roll < socialW + tb.combat.toNat + tb.explore.toNat + tb.rest.toNat then return .rest
  return .mischief

def combatText (sp : DaycareSpecies) (name loc : Str) : Draw Str := do
  if sp.moves = [] then return formatted 200 (lit "Your %s trained %s") [name, loc]
  let moveId := (sp.moves[(← rngRange (UInt8.ofNat sp.moves.length)).toNat]?).getD 0
  let moveName := if 0 < moveId ∧ moveId ≤ moveCount then d.moveNames moveId else lit "a move"
  let actionFmt ← pick actionsMove
  let target ← pick targetsMove
  return formatted 200 (lit "Your %s %s %s %s") [name, formatted 64 actionFmt [moveName], target, loc]

def composeCombat (sp : DaycareSpecies) (name loc : Str) (giveXp : Bool) : Draw Composed := do
  let msg ← combatText d sp name loc
  let baseXp := 10 + (← rngRange 11)
  return ⟨msg, giveXp, baseXp, 0, 0, false, none, b.relationships⟩

/-- What is new between two mons, at the end of the text. -/
def tierTag (old new : DaycareRelationship) : Str :=
  let dF := new.friendship - old.friendship
  let dR := new.rivalry - old.rivalry
  let shown (n : UInt8) := decimal n.toNat
  if 0 < dF ∧ 0 < dR then
    formatted 60 (lit " [Friendship %d +%d, Rivalry %d +%d]")
      [shown new.friendship, shown dF, shown new.rivalry, shown dR]
  else if 0 < dF then formatted 60 (lit " [Friendship %d +%d]") [shown new.friendship, shown dF]
  else if 0 < dR then formatted 60 (lit " [Rivalry %d +%d]") [shown new.rivalry, shown dR]
  else []

def composeSocial (idx : UInt8) (name loc : Str) (giveXp : Bool) : Draw Composed := do
  let p := b.record.pokemon idx.toNat
  let neighbor := (s.neighbors[← pickNeighbor d p.speciesDex s.neighbors]?).getD .zero
  let action ← pick actionsSocial
  let msg := formatted 200 (lit "Your %s %s %s %s") [name, action, fmtNeighborName d neighbor, loc]
  let (pairs, i) := b.relationships.getOrCreateRelationship s.now (neighbor.nodeId, idx, neighbor.speciesDex)
  let affinity := hasTypeAffinity d p.speciesDex neighbor.speciesDex
  let isMentor := affinity && 10 ≤ (p.totalHours.toBitVec.toInt - neighbor.level.toNat).natAbs
  let spar := action ∈ ["sparred with", "raced", "wrestled"].map lit
  let m : Meeting :=
    { localIdx := idx
      remoteDex := neighbor.speciesDex
      friendship := if isMentor then 10 else if affinity then 7 else 3
      rivalry := if spar then 5 else 0
      spar }
  let rel := pairs.slot i
  let msg := append 200 msg (tierTag rel (rel.meet s.now m))
  let baseXp := 15 + (← rngRange 16)
  return ⟨msg, giveXp, baseXp, rel.friendship, rel.rivalry, isMentor, none,
    b.relationships.meet s.now neighbor.nodeId m⟩

def composeExplore (name loc : Str) (giveXp : Bool) : Draw Composed := do
  let action ← pick actionsExplore
  let found ← pick targetsFound
  let baseXp := 10 + (← rngRange 16)
  return ⟨formatted 200 (lit "Your %s %s %s %s") [name, action, found, loc], giveXp, baseXp, 0, 0, false,
    some .explore, b.relationships⟩

def composeRest (name loc : Str) : Draw Composed := do
  let action ← pick actionsRest
  return ⟨formatted 200 (lit "Your %s %s %s") [name, action, loc], false, 0, 0, 0, false, none, b.relationships⟩

def composeMischief (name : Str) : Draw Composed := do
  let msg ← pick mischiefTemplates
  return ⟨formatted 200 msg [name], false, 0, 0, 0, false, none, b.relationships⟩

def composeAs (cat : DaycareEventCategory) (sp : DaycareSpecies) (idx : UInt8) (name loc : Str) (giveXp : Bool) :
    Draw Composed :=
  match cat with
  | .social => composeSocial d s b idx name loc giveXp
  | .combat => composeCombat d b sp name loc giveXp
  | .explore => composeExplore b name loc giveXp
  | .rest => composeRest b name loc
  | .mischief => composeMischief b name

def compose (sp : DaycareSpecies) (idx : UInt8) : Draw (DaycareEventCategory × Composed) := do
  let name := localName d b idx
  let tb := (daycareTypeBehaviors[sp.type1.toNat]?).getD ⟨0, 0, 0, 0, 0⟩
  let cat ← rollCategory tb s.neighbors.length
  let giveXp ← rngChance 67
  let loc ← pick locations
  return (cat, ← composeAs d s b cat sp idx name loc giveXp)

def generateCompositional : Draw (Generated × RelationshipTable) := do
  let idx ← pickPokemon b
  match d.getSpecies (b.record.pokemon idx.toNat).speciesDex with
  | none => return (⟨⟨0, idx⟩, lit "Your Pokemon had a quiet day.", none, .quiet⟩, b.relationships)
  | some sp =>
    let (cat, c) ← compose d s b sp idx
    let weatherMult := weatherTypeMultiplier100 s.weather sp.type1
    if c.giveXp ∧ 0 < c.baseXp then
      let xp := calcXp c.baseXp c.friendship c.rivalry weatherMult c.isMentor
      return (⟨⟨xp, idx⟩, xpTag c.msg xp, c.counted, .composed cat⟩, c.relationships)
    return (⟨⟨0, idx⟩, c.msg, c.counted, .composed cat⟩, c.relationships)

/-! ### The generator -/

def weatherChance : DaycareWeatherType → UInt8
  | .windy => 20
  | .thunderstorm => 50
  | .snow => 40
  | .fog => 30
  | .cold => 20
  | .rain => 25
  | _ => 10

/-- The event that comes, and the pairs after it. -/
def draw : Draw (Generated × RelationshipTable) := do
  if s.newNodeId ≠ 0 then return (← generateVisitor d b, b.relationships)
  if ← chanceIf s.isNight 50 then return (← generateDream d b, b.relationships)
  if let some g ← tryEscape d b then return (g, b.relationships)
  if ← chanceIf (s.weather ≠ .none) (weatherChance s.weather) then return (← generateWeatherEvent d s b, b.relationships)
  if let some g ← tryFlatTemplate d b then return (g, b.relationships)
  generateCompositional d s b

/-! ### What is counted -/

/-- The counter of the events that come from there. -/
def Origin.counter : Origin → Option Counter
  | .dream => some .dream
  | .escape => some .escape
  | .flat dex => if dex = 129 then some .splash else none
  | .composed .explore => some .explore
  | _ => none

/-- Whatever numbers are drawn, the result is so. -/
def Draw.Gives {α : Type} (m : Draw α) (P : α → Prop) : Prop := ∀ rng, P (m.run rng).1

namespace Draw

variable {α β : Type} {m : Draw α} {f : α → Draw β} {P : α → Prop} {Q : β → Prop}

theorem gives_pure {a : α} (h : P a) : Gives (pure a) P := fun _ => h

theorem gives_bind (hm : Gives m P) (hf : ∀ a, P a → Gives (f a) Q) : Gives (m >>= f) Q :=
  fun rng => hf _ (hm rng) _

theorem gives_any (hf : ∀ a, Gives (f a) Q) : Gives (m >>= f) Q := fun _ => hf _ _

theorem Gives.mono {P' : α → Prop} (hm : Gives m P) (h : ∀ a, P a → P' a) : Gives m P' := fun rng => h _ (hm rng)

theorem gives_ite {c : Prop} [Decidable c] {m' : Draw α} (h : c → Gives m P) (h' : ¬c → Gives m' P) :
    Gives (if c then m else m') P := by
  split_ifs with hc
  · exact h hc
  · exact h' hc

end Draw

open Draw

variable {d s b}

theorem visitor_spec : Gives (generateVisitor d b) fun g => g.origin = .visitor ∧ g.counted = none :=
  gives_any fun _ => gives_any fun _ => gives_pure ⟨rfl, rfl⟩

theorem dream_spec : Gives (generateDream d b) fun g => g.origin = .dream ∧ g.counted = some .dream :=
  gives_any fun _ => gives_any fun _ => gives_any fun _ => gives_pure ⟨rfl, rfl⟩

theorem escape_spec : Gives (tryEscape d b) fun g => ∀ g' ∈ g, g'.origin = .escape ∧ g'.counted = some .escape := by
  unfold tryEscape
  refine gives_any fun chance => gives_ite (fun _ => gives_pure (by simp)) fun _ => ?_
  refine gives_any fun idx => gives_any fun msg => gives_pure fun g hg => ?_
  rw [← Option.some.inj hg]
  exact ⟨rfl, rfl⟩

theorem weather_spec : Gives (generateWeatherEvent d s b) fun g => g.origin = .weather ∧ g.counted = none := by
  unfold generateWeatherEvent
  refine gives_any fun idx => gives_any fun msg => gives_ite (fun _ => ?_) fun _ => ?_
  · exact gives_pure ⟨rfl, rfl⟩
  · exact gives_pure ⟨rfl, rfl⟩

theorem flat_spec : Gives (tryFlatTemplate d b) fun g => ∀ g' ∈ g, ∃ dex, g'.origin = .flat dex ∧
    g'.counted = if dex = 129 then some .splash else none := by
  unfold tryFlatTemplate
  refine gives_any fun chance => gives_ite (fun _ => gives_pure (by simp)) fun _ => ?_
  refine gives_any fun idx => gives_any fun k => ?_
  dsimp only
  split
  · refine gives_any fun xp => gives_pure fun g hg => ?_
    rw [← Option.some.inj hg]
    exact ⟨_, rfl, rfl⟩
  · exact gives_pure (by simp)

theorem compose_spec {sp : DaycareSpecies} {idx : UInt8} :
    Gives (compose d s b sp idx) fun c => c.2.counted = if c.1 = .explore then some .explore else none := by
  unfold compose
  refine gives_any fun cat => gives_any fun giveXp => gives_any fun loc => ?_
  refine gives_bind (P := fun c => c.counted = if cat = .explore then some .explore else none) ?_ fun c hc =>
    gives_pure hc
  unfold composeAs
  cases cat with
  | social => exact gives_any fun ni => gives_any fun action => gives_any fun baseXp => gives_pure rfl
  | combat => exact gives_any fun msg => gives_any fun baseXp => gives_pure rfl
  | explore => exact gives_any fun action => gives_any fun found => gives_any fun baseXp => gives_pure rfl
  | rest => exact gives_any fun action => gives_pure rfl
  | mischief => exact gives_any fun msg => gives_pure rfl

theorem compositional_spec : Gives (generateCompositional d s b) fun r =>
    (r.1.origin = .quiet ∧ r.1.counted = none) ∨ ∃ cat, r.1.origin = .composed cat ∧
      r.1.counted = if cat = .explore then some .explore else none := by
  unfold generateCompositional
  refine gives_any fun idx => ?_
  split
  · exact gives_pure (.inl ⟨rfl, rfl⟩)
  · refine gives_bind compose_spec fun c hc => gives_ite (fun _ => gives_pure ?_) fun _ => gives_pure ?_
    · exact .inr ⟨c.1, rfl, hc⟩
    · exact .inr ⟨c.1, rfl, hc⟩

/-- What the generators of all kinds have in common, an event has. -/
theorem draw_gives {P : Generated → Prop} (hvisitor : Gives (generateVisitor d b) P) (hdream : Gives (generateDream d b) P)
    (hescape : Gives (tryEscape d b) fun g => ∀ g' ∈ g, P g') (hweather : Gives (generateWeatherEvent d s b) P)
    (hflat : Gives (tryFlatTemplate d b) fun g => ∀ g' ∈ g, P g')
    (hcomposed : Gives (generateCompositional d s b) fun r => P r.1) : Gives (draw d s b) fun r => P r.1 := by
  unfold draw
  refine gives_ite (fun _ => gives_bind hvisitor fun g hg => gives_pure hg) fun _ => ?_
  refine gives_any fun night => gives_ite (fun _ => gives_bind hdream fun g hg => gives_pure hg) fun _ => ?_
  refine gives_bind hescape fun g hg => ?_
  cases g with
  | some g => exact gives_pure (hg g rfl)
  | none =>
    refine gives_any fun stormy => gives_ite (fun _ => gives_bind hweather fun g hg => gives_pure hg) fun _ => ?_
    refine gives_bind hflat fun g hg => ?_
    cases g with
    | some g => exact gives_pure (hg g rfl)
    | none => exact hcomposed

/-- The generator moves the counter that goes with the event. -/
def Generated.Counts (g : Generated) : Prop := g.counted = g.origin.counter

theorem draw_counts : Gives (draw d s b) fun r => r.1.Counts := by
  refine draw_gives ?_ ?_ ?_ ?_ ?_ ?_
  · exact visitor_spec.mono fun g h => by rw [Generated.Counts, h.1, h.2]; rfl
  · exact dream_spec.mono fun g h => by rw [Generated.Counts, h.1, h.2]; rfl
  · exact escape_spec.mono fun g h g' hg => by rw [Generated.Counts, (h g' hg).1, (h g' hg).2]; rfl
  · exact weather_spec.mono fun g h => by rw [Generated.Counts, h.1, h.2]; rfl
  · refine flat_spec.mono fun g h g' hg => ?_
    obtain ⟨dex, horigin, hcounted⟩ := h g' hg
    rw [Generated.Counts, horigin, hcounted]
    rfl
  · refine compositional_spec.mono fun r h => ?_
    rcases h with ⟨horigin, hcounted⟩ | ⟨cat, horigin, hcounted⟩
    · rw [Generated.Counts, horigin, hcounted]
      rfl
    · rw [Generated.Counts, horigin, hcounted]
      cases cat <;> rfl

end MonsterMesh.DaycareEventGen
