import Mathlib.Data.Fin.Basic

/-! Move tables of both mechanics generations. The move ids are those stored in a save. -/
namespace MonsterMesh

/-- Effect categories, in the order of the enumeration in the move table. -/
inductive MoveEffect where
  | none | statusPsn | statusBrn | statusPar | statusSlp | statusFrz | statusConfuse | boostAtk
  | boostDef | boostSpd | boostSpc | boostAcc | boostEva | dropAtk | dropDef | dropSpd | dropSpc
  | dropAcc | dropEva | drainHp | recoil | ohko | multiHit | doubleHit | fixedDmg | levelDmg
  | psywave | superFang | counter | chargeTurn | recharge | hyperBeam | rage | mimic | metronome
  | transform | substitute | rest | disable | mist | lightScreen | reflect | focusEnergy | haze
  | bide | thrash | trapping | flinch | swiftNevermiss | dreamEater | explode | payDay
  | conversion | substituteDamage | healHalf
deriving DecidableEq, Repr

structure MoveData where
  num : UInt8
  name : String
  type : UInt8
  power : UInt8
  accuracy : UInt8
  pp : UInt8
  priority : Int
  effect : MoveEffect
  effectChance : UInt8
deriving DecidableEq, Repr

def gen1Moves : List MoveData := [
  ⟨1, "Pound", 0, 40, 100, 35, 0, .none, 0⟩,
  ⟨2, "Karate Chop", 0, 50, 100, 25, 0, .none, 0⟩,
  ⟨3, "Double Slap", 0, 15, 85, 10, 0, .multiHit, 0⟩,
  ⟨4, "Comet Punch", 0, 18, 85, 15, 0, .multiHit, 0⟩,
  ⟨5, "Mega Punch", 0, 80, 85, 20, 0, .none, 0⟩,
  ⟨6, "Pay Day", 0, 40, 100, 20, 0, .payDay, 0⟩,
  ⟨7, "Fire Punch", 9, 75, 100, 15, 0, .statusBrn, 10⟩,
  ⟨8, "Ice Punch", 14, 75, 100, 15, 0, .statusFrz, 10⟩,
  ⟨9, "Thunder Punch", 12, 75, 100, 15, 0, .statusPar, 10⟩,
  ⟨10, "Scratch", 0, 40, 100, 35, 0, .none, 0⟩,
  ⟨11, "Vise Grip", 0, 55, 100, 30, 0, .none, 0⟩,
  ⟨12, "Guillotine", 0, 0, 30, 5, 0, .ohko, 0⟩,
  ⟨13, "Razor Wind", 0, 80, 100, 10, 0, .chargeTurn, 0⟩,
  ⟨14, "Swords Dance", 0, 0, 0, 20, 0, .boostAtk, 0⟩,
  ⟨15, "Cut", 0, 50, 95, 30, 0, .none, 0⟩,
  ⟨16, "Gust", 0, 40, 100, 35, 0, .none, 0⟩,
  ⟨17, "Wing Attack", 2, 35, 100, 35, 0, .none, 0⟩,
  ⟨18, "Whirlwind", 0, 0, 85, 20, 0, .none, 0⟩,
  ⟨19, "Fly", 2, 90, 95, 15, 0, .chargeTurn, 0⟩,
  ⟨20, "Bind", 0, 15, 85, 20, 0, .trapping, 0⟩,
  ⟨21, "Slam", 0, 80, 75, 20, 0, .none, 0⟩,
  ⟨22, "Vine Whip", 11, 45, 100, 25, 0, .none, 0⟩,
  ⟨23, "Stomp", 0, 65, 100, 20, 0, .flinch, 30⟩,
  ⟨24, "Double Kick", 1, 30, 100, 30, 0, .doubleHit, 0⟩,
  ⟨25, "Mega Kick", 0, 120, 75, 5, 0, .none, 0⟩,
  ⟨26, "Jump Kick", 1, 100, 95, 10, 0, .none, 0⟩,
  ⟨27, "Rolling Kick", 1, 60, 85, 15, 0, .flinch, 30⟩,
  ⟨28, "Sand Attack", 0, 0, 100, 15, 0, .dropAcc, 0⟩,
  ⟨29, "Headbutt", 0, 70, 100, 15, 0, .flinch, 30⟩,
  ⟨30, "Horn Attack", 0, 65, 100, 25, 0, .none, 0⟩,
  ⟨31, "Fury Attack", 0, 15, 85, 20, 0, .multiHit, 0⟩,
  ⟨32, "Horn Drill", 0, 0, 30, 5, 0, .ohko, 0⟩,
  ⟨33, "Tackle", 0, 40, 100, 35, 0, .none, 0⟩,
  ⟨34, "Body Slam", 0, 85, 100, 15, 0, .statusPar, 30⟩,
  ⟨35, "Wrap", 0, 15, 85, 20, 0, .trapping, 0⟩,
  ⟨36, "Take Down", 0, 90, 85, 20, 0, .recoil, 0⟩,
  ⟨37, "Thrash", 0, 120, 100, 10, 0, .thrash, 0⟩,
  ⟨38, "Double-Edge", 0, 100, 100, 15, 0, .recoil, 0⟩,
  ⟨39, "Tail Whip", 0, 0, 100, 30, 0, .dropDef, 0⟩,
  ⟨40, "Poison Sting", 3, 15, 100, 35, 0, .statusPsn, 30⟩,
  ⟨41, "Twineedle", 7, 25, 100, 20, 0, .none, 20⟩,
  ⟨42, "Pin Missile", 7, 25, 95, 20, 0, .multiHit, 0⟩,
  ⟨43, "Leer", 0, 0, 100, 30, 0, .dropDef, 0⟩,
  ⟨44, "Bite", 0, 60, 100, 25, 0, .flinch, 30⟩,
  ⟨45, "Growl", 0, 0, 100, 40, 0, .dropAtk, 0⟩,
  ⟨46, "Roar", 0, 0, 0, 20, 0, .none, 0⟩,
  ⟨47, "Sing", 0, 0, 55, 15, 0, .statusSlp, 0⟩,
  ⟨48, "Supersonic", 0, 0, 55, 20, 0, .statusConfuse, 0⟩,
  ⟨49, "Sonic Boom", 0, 1, 90, 20, 0, .fixedDmg, 0⟩,
  ⟨50, "Disable", 0, 0, 100, 20, 0, .disable, 0⟩,
  ⟨51, "Acid", 3, 40, 100, 30, 0, .none, 10⟩,
  ⟨52, "Ember", 9, 40, 100, 25, 0, .statusBrn, 10⟩,
  ⟨53, "Flamethrower", 9, 90, 100, 15, 0, .statusBrn, 10⟩,
  ⟨54, "Mist", 14, 0, 0, 30, 0, .mist, 0⟩,
  ⟨55, "Water Gun", 10, 40, 100, 25, 0, .none, 0⟩,
  ⟨56, "Hydro Pump", 10, 110, 80, 5, 0, .none, 0⟩,
  ⟨57, "Surf", 10, 90, 100, 15, 0, .none, 0⟩,
  ⟨58, "Ice Beam", 14, 90, 100, 10, 0, .statusFrz, 10⟩,
  ⟨59, "Blizzard", 14, 110, 90, 5, 0, .statusFrz, 10⟩,
  ⟨60, "Psybeam", 13, 65, 100, 20, 0, .statusConfuse, 10⟩,
  ⟨61, "Bubble Beam", 10, 65, 100, 20, 0, .none, 10⟩,
  ⟨62, "Aurora Beam", 14, 65, 100, 20, 0, .none, 10⟩,
  ⟨63, "Hyper Beam", 0, 150, 90, 5, 0, .hyperBeam, 0⟩,
  ⟨64, "Peck", 2, 35, 100, 35, 0, .none, 0⟩,
  ⟨65, "Drill Peck", 2, 80, 100, 20, 0, .none, 0⟩,
  ⟨66, "Submission", 1, 80, 80, 20, 0, .recoil, 0⟩,
  ⟨67, "Low Kick", 1, 0, 100, 20, 0, .flinch, 0⟩,
  ⟨68, "Counter", 1, 1, 100, 20, -5, .counter, 0⟩,
  ⟨69, "Seismic Toss", 1, 1, 100, 20, 0, .levelDmg, 0⟩,
  ⟨70, "Strength", 0, 80, 100, 15, 0, .none, 0⟩,
  ⟨71, "Absorb", 11, 20, 100, 25, 0, .drainHp, 0⟩,
  ⟨72, "Mega Drain", 11, 40, 100, 15, 0, .drainHp, 0⟩,
  ⟨73, "Leech Seed", 11, 0, 90, 10, 0, .drainHp, 0⟩,
  ⟨74, "Growth", 0, 0, 0, 20, 0, .boostSpc, 0⟩,
  ⟨75, "Razor Leaf", 11, 55, 95, 25, 0, .none, 0⟩,
  ⟨76, "Solar Beam", 11, 120, 100, 10, 0, .chargeTurn, 0⟩,
  ⟨77, "Poison Powder", 3, 0, 75, 35, 0, .statusPsn, 0⟩,
  ⟨78, "Stun Spore", 11, 0, 75, 30, 0, .statusPar, 0⟩,
  ⟨79, "Sleep Powder", 11, 0, 75, 15, 0, .statusSlp, 0⟩,
  ⟨80, "Petal Dance", 11, 120, 100, 10, 0, .thrash, 0⟩,
  ⟨81, "String Shot", 7, 0, 95, 40, 0, .dropSpd, 0⟩,
  ⟨82, "Dragon Rage", 15, 1, 100, 10, 0, .fixedDmg, 0⟩,
  ⟨83, "Fire Spin", 9, 15, 70, 15, 0, .trapping, 0⟩,
  ⟨84, "Thunder Shock", 12, 40, 100, 30, 0, .statusPar, 10⟩,
  ⟨85, "Thunderbolt", 12, 90, 100, 15, 0, .statusPar, 10⟩,
  ⟨86, "Thunder Wave", 12, 0, 90, 20, 0, .statusPar, 0⟩,
  ⟨87, "Thunder", 12, 110, 70, 10, 0, .statusPar, 30⟩,
  ⟨88, "Rock Throw", 5, 50, 65, 15, 0, .none, 0⟩,
  ⟨89, "Earthquake", 4, 100, 100, 10, 0, .none, 0⟩,
  ⟨90, "Fissure", 4, 0, 30, 5, 0, .ohko, 0⟩,
  ⟨91, "Dig", 4, 100, 100, 10, 0, .chargeTurn, 0⟩,
  ⟨92, "Toxic", 3, 0, 90, 10, 0, .statusPsn, 0⟩,
  ⟨93, "Confusion", 13, 50, 100, 25, 0, .statusConfuse, 10⟩,
  ⟨94, "Psychic", 13, 90, 100, 10, 0, .none, 10⟩,
  ⟨95, "Hypnosis", 13, 0, 60, 20, 0, .statusSlp, 0⟩,
  ⟨96, "Meditate", 13, 0, 0, 40, 0, .boostAtk, 0⟩,
  ⟨97, "Agility", 13, 0, 0, 30, 0, .boostSpd, 0⟩,
  ⟨98, "Quick Attack", 0, 40, 100, 30, 1, .none, 0⟩,
  ⟨99, "Rage", 0, 20, 100, 20, 0, .rage, 0⟩,
  ⟨100, "Teleport", 13, 0, 0, 20, -6, .none, 0⟩,
  ⟨101, "Night Shade", 8, 1, 100, 15, 0, .levelDmg, 0⟩,
  ⟨102, "Mimic", 0, 0, 0, 10, 0, .mimic, 0⟩,
  ⟨103, "Screech", 0, 0, 85, 40, 0, .dropDef, 0⟩,
  ⟨104, "Double Team", 0, 0, 0, 15, 0, .boostEva, 0⟩,
  ⟨105, "Recover", 0, 0, 0, 5, 0, .healHalf, 0⟩,
  ⟨106, "Harden", 0, 0, 0, 30, 0, .boostDef, 0⟩,
  ⟨107, "Minimize", 0, 0, 0, 10, 0, .boostEva, 0⟩,
  ⟨108, "Smokescreen", 0, 0, 100, 20, 0, .dropAcc, 0⟩,
  ⟨109, "Confuse Ray", 8, 0, 100, 10, 0, .statusConfuse, 0⟩,
  ⟨110, "Withdraw", 10, 0, 0, 40, 0, .boostDef, 0⟩,
  ⟨111, "Defense Curl", 0, 0, 0, 40, 0, .boostDef, 0⟩,
  ⟨112, "Barrier", 13, 0, 0, 20, 0, .boostDef, 0⟩,
  ⟨113, "Light Screen", 13, 0, 0, 30, 0, .lightScreen, 0⟩,
  ⟨114, "Haze", 14, 0, 0, 30, 0, .haze, 0⟩,
  ⟨115, "Reflect", 13, 0, 0, 20, 0, .reflect, 0⟩,
  ⟨116, "Focus Energy", 0, 0, 0, 30, 0, .focusEnergy, 0⟩,
  ⟨117, "Bide", 0, 0, 0, 10, 1, .bide, 0⟩,
  ⟨118, "Metronome", 0, 0, 0, 10, 0, .metronome, 0⟩,
  ⟨119, "Mirror Move", 2, 0, 0, 20, 0, .none, 0⟩,
  ⟨120, "Self-Destruct", 0, 130, 100, 5, 0, .explode, 0⟩,
  ⟨121, "Egg Bomb", 0, 100, 75, 10, 0, .none, 0⟩,
  ⟨122, "Lick", 8, 30, 100, 30, 0, .statusPar, 30⟩,
  ⟨123, "Smog", 3, 30, 70, 20, 0, .statusPsn, 40⟩,
  ⟨124, "Sludge", 3, 65, 100, 20, 0, .statusPsn, 30⟩,
  ⟨125, "Bone Club", 4, 65, 85, 20, 0, .none, 10⟩,
  ⟨126, "Fire Blast", 9, 110, 85, 5, 0, .statusBrn, 10⟩,
  ⟨127, "Waterfall", 10, 80, 100, 15, 0, .none, 20⟩,
  ⟨128, "Clamp", 10, 35, 75, 10, 0, .trapping, 0⟩,
  ⟨129, "Swift", 0, 60, 0, 20, 0, .swiftNevermiss, 0⟩,
  ⟨130, "Skull Bash", 0, 130, 100, 10, 0, .chargeTurn, 0⟩,
  ⟨131, "Spike Cannon", 0, 20, 100, 15, 0, .multiHit, 0⟩,
  ⟨132, "Constrict", 0, 10, 100, 35, 0, .none, 10⟩,
  ⟨133, "Amnesia", 13, 0, 0, 20, 0, .boostSpc, 0⟩,
  ⟨134, "Kinesis", 13, 0, 80, 15, 0, .dropAcc, 0⟩,
  ⟨135, "Soft-Boiled", 0, 0, 0, 5, 0, .healHalf, 0⟩,
  ⟨136, "High Jump Kick", 1, 130, 90, 10, 0, .none, 0⟩,
  ⟨137, "Glare", 0, 0, 100, 30, 0, .statusPar, 0⟩,
  ⟨138, "Dream Eater", 13, 100, 100, 15, 0, .dreamEater, 0⟩,
  ⟨139, "Poison Gas", 3, 0, 90, 40, 0, .statusPsn, 0⟩,
  ⟨140, "Barrage", 0, 15, 85, 20, 0, .multiHit, 0⟩,
  ⟨141, "Leech Life", 7, 80, 100, 10, 0, .drainHp, 0⟩,
  ⟨142, "Lovely Kiss", 0, 0, 75, 10, 0, .statusSlp, 0⟩,
  ⟨143, "Sky Attack", 2, 140, 90, 5, 0, .chargeTurn, 30⟩,
  ⟨144, "Transform", 0, 0, 0, 10, 0, .transform, 0⟩,
  ⟨145, "Bubble", 10, 40, 100, 30, 0, .none, 10⟩,
  ⟨146, "Dizzy Punch", 0, 70, 100, 10, 0, .none, 20⟩,
  ⟨147, "Spore", 11, 0, 100, 15, 0, .statusSlp, 0⟩,
  ⟨148, "Flash", 0, 0, 100, 20, 0, .dropAcc, 0⟩,
  ⟨149, "Psywave", 13, 1, 100, 15, 0, .psywave, 0⟩,
  ⟨150, "Splash", 0, 0, 0, 40, 0, .none, 0⟩,
  ⟨151, "Acid Armor", 3, 0, 0, 20, 0, .boostDef, 0⟩,
  ⟨152, "Crabhammer", 10, 100, 90, 10, 0, .none, 0⟩,
  ⟨153, "Explosion", 0, 170, 100, 5, 0, .explode, 0⟩,
  ⟨154, "Fury Swipes", 0, 18, 80, 15, 0, .multiHit, 0⟩,
  ⟨155, "Bonemerang", 4, 50, 90, 10, 0, .doubleHit, 0⟩,
  ⟨156, "Rest", 13, 0, 0, 5, 0, .rest, 0⟩,
  ⟨157, "Rock Slide", 5, 75, 90, 10, 0, .none, 30⟩,
  ⟨158, "Hyper Fang", 0, 80, 90, 15, 0, .flinch, 10⟩,
  ⟨159, "Sharpen", 0, 0, 0, 30, 0, .boostAtk, 0⟩,
  ⟨160, "Conversion", 0, 0, 0, 30, 0, .conversion, 0⟩,
  ⟨161, "Tri Attack", 0, 80, 100, 10, 0, .none, 20⟩,
  ⟨162, "Super Fang", 0, 1, 90, 10, 0, .superFang, 0⟩,
  ⟨163, "Slash", 0, 70, 100, 20, 0, .none, 0⟩,
  ⟨164, "Substitute", 0, 0, 0, 10, 0, .substitute, 0⟩,
  ⟨165, "Struggle", 0, 50, 0, 10, 0, .recoil, 0⟩]

/-- Move typings, powers and accuracies of the later generations; the effects, base PP and
priorities are those of `gen1Moves`. -/
def gen3Moves : List MoveData := [
  ⟨1, "Pound", 0, 40, 100, 35, 0, .none, 0⟩,
  ⟨2, "Karate Chop", 1, 50, 100, 25, 0, .none, 0⟩,
  ⟨3, "Double Slap", 0, 15, 85, 10, 0, .multiHit, 0⟩,
  ⟨4, "Comet Punch", 0, 18, 85, 15, 0, .multiHit, 0⟩,
  ⟨5, "Mega Punch", 0, 80, 85, 20, 0, .none, 0⟩,
  ⟨6, "Pay Day", 0, 40, 100, 20, 0, .payDay, 0⟩,
  ⟨7, "Fire Punch", 9, 75, 100, 15, 0, .statusBrn, 10⟩,
  ⟨8, "Ice Punch", 14, 75, 100, 15, 0, .statusFrz, 10⟩,
  ⟨9, "Thunder Punch", 12, 75, 100, 15, 0, .statusPar, 10⟩,
  ⟨10, "Scratch", 0, 40, 100, 35, 0, .none, 0⟩,
  ⟨11, "Vise Grip", 0, 55, 100, 30, 0, .none, 0⟩,
  ⟨12, "Guillotine", 0, 0, 30, 5, 0, .ohko, 0⟩,
  ⟨13, "Razor Wind", 0, 80, 100, 10, 0, .chargeTurn, 0⟩,
  ⟨14, "Swords Dance", 0, 0, 0, 20, 0, .boostAtk, 0⟩,
  ⟨15, "Cut", 0, 50, 95, 30, 0, .none, 0⟩,
  ⟨16, "Gust", 2, 40, 100, 35, 0, .none, 0⟩,
  ⟨17, "Wing Attack", 2, 60, 100, 35, 0, .none, 0⟩,
  ⟨18, "Whirlwind", 0, 0, 0, 20, 0, .none, 0⟩,
  ⟨19, "Fly", 2, 90, 95, 15, 0, .chargeTurn, 0⟩,
  ⟨20, "Bind", 0, 15, 85, 20, 0, .trapping, 0⟩,
  ⟨21, "Slam", 0, 80, 75, 20, 0, .none, 0⟩,
  ⟨22, "Vine Whip", 11, 45, 100, 25, 0, .none, 0⟩,
  ⟨23, "Stomp", 0, 65, 100, 20, 0, .flinch, 30⟩,
  ⟨24, "Double Kick", 1, 30, 100, 30, 0, .doubleHit, 0⟩,
  ⟨25, "Mega Kick", 0, 120, 75, 5, 0, .none, 0⟩,
  ⟨26, "Jump Kick", 1, 100, 95, 10, 0, .none, 0⟩,
  ⟨27, "Rolling Kick", 1, 60, 85, 15, 0, .flinch, 30⟩,
  ⟨28, "Sand Attack", 4, 0, 100, 15, 0, .dropAcc, 0⟩,
  ⟨29, "Headbutt", 0, 70, 100, 15, 0, .flinch, 30⟩,
  ⟨30, "Horn Attack", 0, 65, 100, 25, 0, .none, 0⟩,
  ⟨31, "Fury Attack", 0, 15, 85, 20, 0, .multiHit, 0⟩,
  ⟨32, "Horn Drill", 0, 0, 30, 5, 0, .ohko, 0⟩,
  ⟨33, "Tackle", 0, 40, 100, 35, 0, .none, 0⟩,
  ⟨34, "Body Slam", 0, 85, 100, 15, 0, .statusPar, 30⟩,
  ⟨35, "Wrap", 0, 15, 90, 20, 0, .trapping, 0⟩,
  ⟨36, "Take Down", 0, 90, 85, 20, 0, .recoil, 0⟩,
  ⟨37, "Thrash", 0, 120, 100, 10, 0, .thrash, 0⟩,
  ⟨38, "Double-Edge", 0, 120, 100, 15, 0, .recoil, 0⟩,
  ⟨39, "Tail Whip", 0, 0, 100, 30, 0, .dropDef, 0⟩,
  ⟨40, "Poison Sting", 3, 15, 100, 35, 0, .statusPsn, 30⟩,
  ⟨41, "Twineedle", 7, 25, 100, 20, 0, .none, 20⟩,
  ⟨42, "Pin Missile", 7, 25, 95, 20, 0, .multiHit, 0⟩,
  ⟨43, "Leer", 0, 0, 100, 30, 0, .dropDef, 0⟩,
  ⟨44, "Bite", 16, 60, 100, 25, 0, .flinch, 30⟩,
  ⟨45, "Growl", 0, 0, 100, 40, 0, .dropAtk, 0⟩,
  ⟨46, "Roar", 0, 0, 0, 20, 0, .none, 0⟩,
  ⟨47, "Sing", 0, 0, 55, 15, 0, .statusSlp, 0⟩,
  ⟨48, "Supersonic", 0, 0, 55, 20, 0, .statusConfuse, 0⟩,
  ⟨49, "Sonic Boom", 0, 0, 90, 20, 0, .fixedDmg, 0⟩,
  ⟨50, "Disable", 0, 0, 100, 20, 0, .disable, 0⟩,
  ⟨51, "Acid", 3, 40, 100, 30, 0, .none, 10⟩,
  ⟨52, "Ember", 9, 40, 100, 25, 0, .statusBrn, 10⟩,
  ⟨53, "Flamethrower", 9, 90, 100, 15, 0, .statusBrn, 10⟩,
  ⟨54, "Mist", 14, 0, 0, 30, 0, .mist, 0⟩,
  ⟨55, "Water Gun", 10, 40, 100, 25, 0, .none, 0⟩,
  ⟨56, "Hydro Pump", 10, 110, 80, 5, 0, .none, 0⟩,
  ⟨57, "Surf", 10, 90, 100, 15, 0, .none, 0⟩,
  ⟨58, "Ice Beam", 14, 90, 100, 10, 0, .statusFrz, 10⟩,
  ⟨59, "Blizzard", 14, 110, 70, 5, 0, .statusFrz, 10⟩,
  ⟨60, "Psybeam", 13, 65, 100, 20, 0, .statusConfuse, 10⟩,
  ⟨61, "Bubble Beam", 10, 65, 100, 20, 0, .none, 10⟩,
  ⟨62, "Aurora Beam", 14, 65, 100, 20, 0, .none, 10⟩,
  ⟨63, "Hyper Beam", 0, 150, 90, 5, 0, .hyperBeam, 0⟩,
  ⟨64, "Peck", 2, 35, 100, 35, 0, .none, 0⟩,
  ⟨65, "Drill Peck", 2, 80, 100, 20, 0, .none, 0⟩,
  ⟨66, "Submission", 1, 80, 80, 20, 0, .recoil, 0⟩,
  ⟨67, "Low Kick", 1, 0, 100, 20, 0, .flinch, 0⟩,
  ⟨68, "Counter", 1, 0, 100, 20, -5, .counter, 0⟩,
  ⟨69, "Seismic Toss", 1, 0, 100, 20, 0, .levelDmg, 0⟩,
  ⟨70, "Strength", 0, 80, 100, 15, 0, .none, 0⟩,
  ⟨71, "Absorb", 11, 20, 100, 25, 0, .drainHp, 0⟩,
  ⟨72, "Mega Drain", 11, 40, 100, 15, 0, .drainHp, 0⟩,
  ⟨73, "Leech Seed", 11, 0, 90, 10, 0, .drainHp, 0⟩,
  ⟨74, "Growth", 0, 0, 0, 20, 0, .boostSpc, 0⟩,
  ⟨75, "Razor Leaf", 11, 55, 95, 25, 0, .none, 0⟩,
  ⟨76, "Solar Beam", 11, 120, 100, 10, 0, .chargeTurn, 0⟩,
  ⟨77, "Poison Powder", 3, 0, 75, 35, 0, .statusPsn, 0⟩,
  ⟨78, "Stun Spore", 11, 0, 75, 30, 0, .statusPar, 0⟩,
  ⟨79, "Sleep Powder", 11, 0, 75, 15, 0, .statusSlp, 0⟩,
  ⟨80, "Petal Dance", 11, 120, 100, 10, 0, .thrash, 0⟩,
  ⟨81, "String Shot", 7, 0, 95, 40, 0, .dropSpd, 0⟩,
  ⟨82, "Dragon Rage", 15, 0, 100, 10, 0, .fixedDmg, 0⟩,
  ⟨83, "Fire Spin", 9, 35, 85, 15, 0, .trapping, 0⟩,
  ⟨84, "Thunder Shock", 12, 40, 100, 30, 0, .statusPar, 10⟩,
  ⟨85, "Thunderbolt", 12, 90, 100, 15, 0, .statusPar, 10⟩,
  ⟨86, "Thunder Wave", 12, 0, 90, 20, 0, .statusPar, 0⟩,
  ⟨87, "Thunder", 12, 110, 70, 10, 0, .statusPar, 30⟩,
  ⟨88, "Rock Throw", 5, 50, 90, 15, 0, .none, 0⟩,
  ⟨89, "Earthquake", 4, 100, 100, 10, 0, .none, 0⟩,
  ⟨90, "Fissure", 4, 0, 30, 5, 0, .ohko, 0⟩,
  ⟨91, "Dig", 4, 80, 100, 10, 0, .chargeTurn, 0⟩,
  ⟨92, "Toxic", 3, 0, 90, 10, 0, .statusPsn, 0⟩,
  ⟨93, "Confusion", 13, 50, 100, 25, 0, .statusConfuse, 10⟩,
  ⟨94, "Psychic", 13, 90, 100, 10, 0, .none, 10⟩,
  ⟨95, "Hypnosis", 13, 0, 60, 20, 0, .statusSlp, 0⟩,
  ⟨96, "Meditate", 13, 0, 0, 40, 0, .boostAtk, 0⟩,
  ⟨97, "Agility", 13, 0, 0, 30, 0, .boostSpd, 0⟩,
  ⟨98, "Quick Attack", 0, 40, 100, 30, 1, .none, 0⟩,
  ⟨99, "Rage", 0, 20, 100, 20, 0, .rage, 0⟩,
  ⟨100, "Teleport", 13, 0, 0, 20, -6, .none, 0⟩,
  ⟨101, "Night Shade", 8, 0, 100, 15, 0, .levelDmg, 0⟩,
  ⟨102, "Mimic", 0, 0, 0, 10, 0, .mimic, 0⟩,
  ⟨103, "Screech", 0, 0, 85, 40, 0, .dropDef, 0⟩,
  ⟨104, "Double Team", 0, 0, 0, 15, 0, .boostEva, 0⟩,
  ⟨105, "Recover", 0, 0, 0, 5, 0, .healHalf, 0⟩,
  ⟨106, "Harden", 0, 0, 0, 30, 0, .boostDef, 0⟩,
  ⟨107, "Minimize", 0, 0, 0, 10, 0, .boostEva, 0⟩,
  ⟨108, "Smokescreen", 0, 0, 100, 20, 0, .dropAcc, 0⟩,
  ⟨109, "Confuse Ray", 8, 0, 100, 10, 0, .statusConfuse, 0⟩,
  ⟨110, "Withdraw", 10, 0, 0, 40, 0, .boostDef, 0⟩,
  ⟨111, "Defense Curl", 0, 0, 0, 40, 0, .boostDef, 0⟩,
  ⟨112, "Barrier", 13, 0, 0, 20, 0, .boostDef, 0⟩,
  ⟨113, "Light Screen", 13, 0, 0, 30, 0, .lightScreen, 0⟩,
  ⟨114, "Haze", 14, 0, 0, 30, 0, .haze, 0⟩,
  ⟨115, "Reflect", 13, 0, 0, 20, 0, .reflect, 0⟩,
  ⟨116, "Focus Energy", 0, 0, 0, 30, 0, .focusEnergy, 0⟩,
  ⟨117, "Bide", 0, 0, 0, 10, 1, .bide, 0⟩,
  ⟨118, "Metronome", 0, 0, 0, 10, 0, .metronome, 0⟩,
  ⟨119, "Mirror Move", 2, 0, 0, 20, 0, .none, 0⟩,
  ⟨120, "Self-Destruct", 0, 200, 100, 5, 0, .explode, 0⟩,
  ⟨121, "Egg Bomb", 0, 100, 75, 10, 0, .none, 0⟩,
  ⟨122, "Lick", 8, 30, 100, 30, 0, .statusPar, 30⟩,
  ⟨123, "Smog", 3, 30, 70, 20, 0, .statusPsn, 40⟩,
  ⟨124, "Sludge", 3, 65, 100, 20, 0, .statusPsn, 30⟩,
  ⟨125, "Bone Club", 4, 65, 85, 20, 0, .none, 10⟩,
  ⟨126, "Fire Blast", 9, 110, 85, 5, 0, .statusBrn, 10⟩,
  ⟨127, "Waterfall", 10, 80, 100, 15, 0, .none, 20⟩,
  ⟨128, "Clamp", 10, 35, 85, 10, 0, .trapping, 0⟩,
  ⟨129, "Swift", 0, 60, 0, 20, 0, .swiftNevermiss, 0⟩,
  ⟨130, "Skull Bash", 0, 130, 100, 10, 0, .chargeTurn, 0⟩,
  ⟨131, "Spike Cannon", 0, 20, 100, 15, 0, .multiHit, 0⟩,
  ⟨132, "Constrict", 0, 10, 100, 35, 0, .none, 10⟩,
  ⟨133, "Amnesia", 13, 0, 0, 20, 0, .boostSpc, 0⟩,
  ⟨134, "Kinesis", 13, 0, 80, 15, 0, .dropAcc, 0⟩,
  ⟨135, "Soft-Boiled", 0, 0, 0, 5, 0, .healHalf, 0⟩,
  ⟨136, "High Jump Kick", 1, 130, 90, 10, 0, .none, 0⟩,
  ⟨137, "Glare", 0, 0, 100, 30, 0, .statusPar, 0⟩,
  ⟨138, "Dream Eater", 13, 100, 100, 15, 0, .dreamEater, 0⟩,
  ⟨139, "Poison Gas", 3, 0, 90, 40, 0, .statusPsn, 0⟩,
  ⟨140, "Barrage", 0, 15, 85, 20, 0, .multiHit, 0⟩,
  ⟨141, "Leech Life", 7, 80, 100, 10, 0, .drainHp, 0⟩,
  ⟨142, "Lovely Kiss", 0, 0, 75, 10, 0, .statusSlp, 0⟩,
  ⟨143, "Sky Attack", 2, 140, 90, 5, 0, .chargeTurn, 30⟩,
  ⟨144, "Transform", 0, 0, 0, 10, 0, .transform, 0⟩,
  ⟨145, "Bubble", 10, 40, 100, 30, 0, .none, 10⟩,
  ⟨146, "Dizzy Punch", 0, 70, 100, 10, 0, .none, 20⟩,
  ⟨147, "Spore", 11, 0, 100, 15, 0, .statusSlp, 0⟩,
  ⟨148, "Flash", 0, 0, 100, 20, 0, .dropAcc, 0⟩,
  ⟨149, "Psywave", 13, 0, 100, 15, 0, .psywave, 0⟩,
  ⟨150, "Splash", 0, 0, 0, 40, 0, .none, 0⟩,
  ⟨151, "Acid Armor", 3, 0, 0, 20, 0, .boostDef, 0⟩,
  ⟨152, "Crabhammer", 10, 100, 90, 10, 0, .none, 0⟩,
  ⟨153, "Explosion", 0, 250, 100, 5, 0, .explode, 0⟩,
  ⟨154, "Fury Swipes", 0, 18, 80, 15, 0, .multiHit, 0⟩,
  ⟨155, "Bonemerang", 4, 50, 90, 10, 0, .doubleHit, 0⟩,
  ⟨156, "Rest", 13, 0, 0, 5, 0, .rest, 0⟩,
  ⟨157, "Rock Slide", 5, 75, 90, 10, 0, .none, 30⟩,
  ⟨158, "Hyper Fang", 0, 80, 90, 15, 0, .flinch, 10⟩,
  ⟨159, "Sharpen", 0, 0, 0, 30, 0, .boostAtk, 0⟩,
  ⟨160, "Conversion", 0, 0, 0, 30, 0, .conversion, 0⟩,
  ⟨161, "Tri Attack", 0, 80, 100, 10, 0, .none, 20⟩,
  ⟨162, "Super Fang", 0, 0, 90, 10, 0, .superFang, 0⟩,
  ⟨163, "Slash", 0, 70, 100, 20, 0, .none, 0⟩,
  ⟨164, "Substitute", 0, 0, 0, 10, 0, .substitute, 0⟩,
  ⟨165, "Struggle", 0, 50, 0, 10, 0, .recoil, 0⟩]

def gen1Move (num : UInt8) : Option MoveData := gen1Moves.find? (·.num == num)

def gen3Move (num : UInt8) : Option MoveData := gen3Moves.find? (·.num == num)

end MonsterMesh
