import Mathlib.Data.Fin.Basic

/-! Species tables: base stats of both generations, the internal and Pokedex numberings, names. -/
namespace MonsterMesh

/-! The lengths of the fixed arrays, named so that a slot literal is one term in every module. -/

instance (priority := 1100) moveCount_neZero : @NeZero Nat Zero.ofOfNat0 4 := Nat.instNeZeroSucc

instance (priority := 1100) lineupCount_neZero : @NeZero Nat Zero.ofOfNat0 5 := Nat.instNeZeroSucc

instance (priority := 1100) partyCount_neZero : @NeZero Nat Zero.ofOfNat0 6 := Nat.instNeZeroSucc

instance (priority := 1100) partyCount_succ_neZero : @NeZero Nat Zero.ofOfNat0 7 := Nat.instNeZeroSucc

structure Gen1BaseStats where
  (hp atk def' spd spc : UInt8)
  (type1 type2 : UInt8)
deriving DecidableEq, Repr

/-- Special is split into `spa` (attack) and `spd` (defence); `spe` is Speed. -/
structure Gen3BaseStats where
  (hp atk def' spa spd spe : UInt8)
  (type1 type2 : UInt8)
deriving DecidableEq, Repr

def gen1BaseStatsTable : List Gen1BaseStats := [
  ⟨0, 0, 0, 0, 0, 0, 0⟩, ⟨45, 49, 49, 45, 65, 11, 3⟩, ⟨60, 62, 63, 60, 80, 11, 3⟩,
  ⟨80, 82, 83, 80, 100, 11, 3⟩, ⟨39, 52, 43, 65, 50, 9, 9⟩, ⟨58, 64, 58, 80, 65, 9, 9⟩,
  ⟨78, 84, 78, 100, 109, 9, 2⟩, ⟨44, 48, 65, 43, 50, 10, 10⟩, ⟨59, 63, 80, 58, 65, 10, 10⟩,
  ⟨79, 83, 100, 78, 85, 10, 10⟩, ⟨45, 30, 35, 45, 20, 7, 7⟩, ⟨50, 20, 55, 30, 25, 7, 7⟩,
  ⟨60, 45, 50, 70, 90, 7, 2⟩, ⟨40, 35, 30, 50, 20, 7, 3⟩, ⟨45, 25, 50, 35, 25, 7, 3⟩,
  ⟨65, 150, 40, 145, 15, 7, 3⟩, ⟨40, 45, 40, 56, 35, 0, 2⟩, ⟨63, 60, 55, 71, 50, 0, 2⟩,
  ⟨83, 80, 80, 121, 135, 0, 2⟩, ⟨30, 56, 35, 72, 25, 0, 0⟩, ⟨75, 71, 70, 77, 40, 0, 0⟩,
  ⟨40, 60, 30, 70, 31, 0, 2⟩, ⟨65, 90, 65, 100, 61, 0, 2⟩, ⟨35, 60, 44, 55, 40, 3, 3⟩,
  ⟨60, 85, 69, 80, 65, 3, 3⟩, ⟨35, 55, 40, 90, 50, 12, 12⟩, ⟨60, 100, 55, 130, 160, 12, 12⟩,
  ⟨50, 75, 90, 40, 10, 14, 0⟩, ⟨75, 100, 120, 65, 25, 14, 0⟩, ⟨55, 47, 52, 41, 40, 3, 3⟩,
  ⟨70, 62, 67, 56, 55, 3, 3⟩, ⟨90, 82, 87, 76, 75, 3, 4⟩, ⟨46, 57, 40, 50, 40, 3, 3⟩,
  ⟨61, 72, 57, 65, 55, 3, 3⟩, ⟨81, 92, 77, 85, 75, 3, 4⟩, ⟨70, 45, 48, 35, 60, 0, 0⟩,
  ⟨95, 80, 93, 70, 135, 0, 2⟩, ⟨38, 41, 40, 65, 50, 14, 14⟩, ⟨73, 67, 75, 109, 81, 14, 0⟩,
  ⟨115, 45, 20, 20, 25, 0, 0⟩, ⟨140, 70, 45, 45, 50, 0, 0⟩, ⟨40, 45, 35, 55, 40, 3, 2⟩,
  ⟨75, 80, 70, 90, 75, 3, 2⟩, ⟨45, 50, 55, 30, 75, 11, 3⟩, ⟨60, 65, 70, 40, 85, 11, 3⟩,
  ⟨75, 80, 85, 50, 100, 11, 3⟩, ⟨35, 70, 55, 25, 55, 7, 11⟩, ⟨60, 95, 80, 30, 80, 7, 11⟩,
  ⟨60, 55, 50, 45, 40, 7, 3⟩, ⟨70, 65, 60, 90, 90, 7, 3⟩, ⟨10, 55, 30, 90, 35, 4, 0⟩,
  ⟨35, 100, 60, 110, 50, 4, 0⟩, ⟨40, 45, 35, 90, 40, 0, 0⟩, ⟨65, 60, 60, 115, 75, 0, 0⟩,
  ⟨50, 52, 48, 55, 50, 10, 10⟩, ⟨80, 82, 78, 85, 80, 10, 10⟩, ⟨40, 80, 35, 70, 35, 1, 1⟩,
  ⟨65, 105, 60, 95, 60, 1, 1⟩, ⟨60, 75, 45, 55, 65, 9, 5⟩, ⟨95, 115, 80, 90, 95, 9, 5⟩,
  ⟨40, 50, 40, 90, 40, 10, 10⟩, ⟨65, 65, 65, 90, 50, 10, 10⟩, ⟨90, 85, 95, 70, 70, 10, 1⟩,
  ⟨25, 20, 15, 90, 105, 13, 13⟩, ⟨40, 35, 30, 105, 120, 13, 13⟩, ⟨55, 50, 65, 150, 175, 13, 13⟩,
  ⟨70, 80, 50, 35, 35, 1, 1⟩, ⟨80, 100, 70, 45, 50, 1, 1⟩, ⟨90, 130, 80, 55, 65, 1, 1⟩,
  ⟨50, 75, 35, 40, 70, 11, 3⟩, ⟨65, 90, 50, 55, 85, 11, 3⟩, ⟨80, 125, 85, 70, 135, 11, 3⟩,
  ⟨40, 40, 35, 70, 100, 10, 3⟩, ⟨80, 70, 65, 100, 120, 10, 3⟩, ⟨40, 80, 100, 20, 30, 5, 12⟩,
  ⟨55, 95, 115, 35, 45, 5, 12⟩, ⟨80, 120, 130, 45, 55, 5, 12⟩, ⟨50, 85, 55, 90, 65, 13, 13⟩,
  ⟨65, 100, 70, 105, 80, 13, 0⟩, ⟨90, 65, 65, 15, 40, 13, 13⟩, ⟨95, 100, 95, 30, 100, 3, 13⟩,
  ⟨25, 35, 70, 45, 95, 12, 12⟩, ⟨50, 60, 95, 70, 120, 12, 12⟩, ⟨52, 95, 55, 55, 58, 1, 1⟩,
  ⟨35, 85, 45, 75, 35, 0, 2⟩, ⟨60, 110, 70, 100, 60, 0, 2⟩, ⟨65, 45, 55, 45, 70, 10, 10⟩,
  ⟨90, 70, 80, 70, 95, 10, 14⟩, ⟨80, 80, 50, 25, 40, 3, 0⟩, ⟨105, 105, 75, 50, 65, 3, 0⟩,
  ⟨30, 65, 100, 40, 45, 10, 10⟩, ⟨50, 95, 180, 70, 85, 10, 14⟩, ⟨30, 35, 30, 80, 100, 8, 3⟩,
  ⟨45, 50, 45, 95, 115, 8, 3⟩, ⟨60, 65, 60, 110, 130, 8, 3⟩, ⟨35, 45, 160, 70, 30, 5, 4⟩,
  ⟨60, 48, 45, 42, 90, 13, 13⟩, ⟨85, 73, 70, 67, 115, 13, 13⟩, ⟨30, 105, 90, 50, 25, 10, 10⟩,
  ⟨55, 130, 115, 75, 50, 10, 10⟩, ⟨40, 30, 50, 100, 55, 12, 11⟩, ⟨60, 50, 70, 150, 80, 12, 11⟩,
  ⟨60, 40, 80, 40, 60, 11, 13⟩, ⟨95, 105, 85, 45, 125, 11, 15⟩, ⟨50, 50, 95, 35, 40, 4, 4⟩,
  ⟨60, 80, 110, 45, 50, 9, 8⟩, ⟨50, 120, 53, 87, 35, 1, 1⟩, ⟨50, 105, 79, 76, 35, 1, 1⟩,
  ⟨90, 55, 75, 30, 60, 0, 0⟩, ⟨40, 65, 95, 35, 60, 3, 3⟩, ⟨65, 90, 120, 60, 85, 3, 0⟩,
  ⟨80, 85, 95, 25, 30, 4, 5⟩, ⟨105, 130, 120, 40, 45, 4, 5⟩, ⟨250, 5, 5, 50, 105, 0, 0⟩,
  ⟨65, 55, 115, 60, 100, 11, 11⟩, ⟨105, 125, 100, 100, 60, 0, 0⟩, ⟨30, 40, 70, 60, 70, 10, 10⟩,
  ⟨55, 65, 95, 85, 95, 10, 10⟩, ⟨45, 67, 60, 63, 50, 10, 10⟩, ⟨80, 92, 65, 68, 80, 10, 10⟩,
  ⟨30, 45, 55, 85, 70, 10, 10⟩, ⟨60, 100, 105, 120, 130, 10, 13⟩, ⟨50, 65, 65, 100, 90, 14, 13⟩,
  ⟨70, 110, 80, 105, 55, 7, 2⟩, ⟨65, 50, 35, 95, 95, 14, 13⟩, ⟨65, 83, 57, 105, 85, 12, 12⟩,
  ⟨65, 95, 57, 93, 85, 9, 9⟩, ⟨65, 155, 120, 105, 65, 7, 2⟩, ⟨75, 110, 105, 100, 30, 1, 10⟩,
  ⟨20, 10, 55, 80, 20, 10, 10⟩, ⟨95, 155, 109, 81, 70, 10, 0⟩, ⟨130, 85, 80, 60, 85, 10, 14⟩,
  ⟨48, 48, 48, 48, 48, 0, 0⟩, ⟨55, 55, 50, 55, 45, 0, 0⟩, ⟨130, 65, 60, 65, 110, 10, 10⟩,
  ⟨65, 65, 60, 130, 110, 12, 12⟩, ⟨65, 130, 60, 65, 110, 9, 9⟩, ⟨65, 60, 70, 40, 75, 0, 0⟩,
  ⟨35, 40, 100, 35, 90, 5, 10⟩, ⟨70, 60, 125, 55, 115, 5, 10⟩, ⟨30, 80, 90, 55, 45, 5, 10⟩,
  ⟨60, 115, 105, 80, 70, 5, 10⟩, ⟨80, 135, 85, 150, 70, 5, 2⟩, ⟨160, 110, 65, 30, 65, 0, 0⟩,
  ⟨90, 85, 85, 95, 125, 13, 2⟩, ⟨90, 125, 90, 100, 85, 1, 2⟩, ⟨90, 85, 90, 90, 100, 0, 2⟩,
  ⟨41, 64, 45, 50, 50, 15, 15⟩, ⟨61, 84, 65, 70, 70, 15, 15⟩, ⟨91, 124, 115, 100, 145, 15, 2⟩,
  ⟨106, 150, 70, 140, 194, 13, 13⟩, ⟨100, 100, 100, 100, 100, 13, 13⟩]

def gen3BaseStatsTable : List Gen3BaseStats := [
  ⟨0, 0, 0, 0, 0, 0, 0, 0⟩, ⟨45, 49, 49, 65, 65, 45, 11, 3⟩, ⟨60, 62, 63, 80, 80, 60, 11, 3⟩,
  ⟨80, 82, 83, 100, 100, 80, 11, 3⟩, ⟨39, 52, 43, 60, 50, 65, 9, 9⟩,
  ⟨58, 64, 58, 80, 65, 80, 9, 9⟩, ⟨78, 84, 78, 109, 85, 100, 9, 2⟩,
  ⟨44, 48, 65, 50, 64, 43, 10, 10⟩, ⟨59, 63, 80, 65, 80, 58, 10, 10⟩,
  ⟨79, 83, 100, 85, 105, 78, 10, 10⟩, ⟨45, 30, 35, 20, 20, 45, 7, 7⟩,
  ⟨50, 20, 55, 25, 25, 30, 7, 7⟩, ⟨60, 45, 50, 90, 80, 70, 7, 2⟩, ⟨40, 35, 30, 20, 20, 50, 7, 3⟩,
  ⟨45, 25, 50, 25, 25, 35, 7, 3⟩, ⟨65, 90, 40, 45, 80, 75, 7, 3⟩, ⟨40, 45, 40, 35, 35, 56, 0, 2⟩,
  ⟨63, 60, 55, 50, 50, 71, 0, 2⟩, ⟨83, 80, 75, 70, 70, 101, 0, 2⟩, ⟨30, 56, 35, 25, 35, 72, 0, 0⟩,
  ⟨55, 81, 60, 50, 70, 97, 0, 0⟩, ⟨40, 60, 30, 31, 31, 70, 0, 2⟩, ⟨65, 90, 65, 61, 61, 100, 0, 2⟩,
  ⟨35, 60, 44, 40, 54, 55, 3, 3⟩, ⟨60, 95, 69, 65, 79, 80, 3, 3⟩,
  ⟨35, 55, 40, 50, 50, 90, 12, 12⟩, ⟨60, 90, 55, 90, 80, 110, 12, 12⟩,
  ⟨50, 75, 85, 20, 30, 40, 4, 4⟩, ⟨75, 100, 110, 45, 55, 65, 4, 4⟩,
  ⟨55, 47, 52, 40, 40, 41, 3, 3⟩, ⟨70, 62, 67, 55, 55, 56, 3, 3⟩, ⟨90, 92, 87, 75, 85, 76, 3, 4⟩,
  ⟨46, 57, 40, 40, 40, 50, 3, 3⟩, ⟨61, 72, 57, 55, 55, 65, 3, 3⟩, ⟨81, 102, 77, 85, 75, 85, 3, 4⟩,
  ⟨70, 45, 48, 60, 65, 35, 0, 0⟩, ⟨95, 70, 73, 95, 90, 60, 0, 0⟩, ⟨38, 41, 40, 50, 65, 65, 9, 9⟩,
  ⟨73, 76, 75, 81, 100, 100, 9, 9⟩, ⟨115, 45, 20, 45, 25, 20, 0, 0⟩,
  ⟨140, 70, 45, 85, 50, 45, 0, 0⟩, ⟨40, 45, 35, 30, 40, 55, 3, 2⟩, ⟨75, 80, 70, 65, 75, 90, 3, 2⟩,
  ⟨45, 50, 55, 75, 65, 30, 11, 3⟩, ⟨60, 65, 70, 85, 75, 40, 11, 3⟩,
  ⟨75, 80, 85, 110, 90, 50, 11, 3⟩, ⟨35, 70, 55, 45, 55, 25, 7, 11⟩,
  ⟨60, 95, 80, 60, 80, 30, 7, 11⟩, ⟨60, 55, 50, 40, 55, 45, 7, 3⟩, ⟨70, 65, 60, 90, 75, 90, 7, 3⟩,
  ⟨10, 55, 25, 35, 45, 95, 4, 4⟩, ⟨35, 100, 50, 50, 70, 120, 4, 4⟩,
  ⟨40, 45, 35, 40, 40, 90, 0, 0⟩, ⟨65, 70, 60, 65, 65, 115, 0, 0⟩,
  ⟨50, 52, 48, 65, 50, 55, 10, 10⟩, ⟨80, 82, 78, 95, 80, 85, 10, 10⟩,
  ⟨40, 80, 35, 35, 45, 70, 1, 1⟩, ⟨65, 105, 60, 60, 70, 95, 1, 1⟩, ⟨55, 70, 45, 70, 50, 60, 9, 9⟩,
  ⟨90, 110, 80, 100, 80, 95, 9, 9⟩, ⟨40, 50, 40, 40, 40, 90, 10, 10⟩,
  ⟨65, 65, 65, 50, 50, 90, 10, 10⟩, ⟨90, 95, 95, 70, 90, 70, 10, 1⟩,
  ⟨25, 20, 15, 105, 55, 90, 13, 13⟩, ⟨40, 35, 30, 120, 70, 105, 13, 13⟩,
  ⟨55, 50, 45, 135, 95, 120, 13, 13⟩, ⟨70, 80, 50, 35, 35, 35, 1, 1⟩,
  ⟨80, 100, 70, 50, 60, 45, 1, 1⟩, ⟨90, 130, 80, 65, 85, 55, 1, 1⟩,
  ⟨50, 75, 35, 70, 30, 40, 11, 3⟩, ⟨65, 90, 50, 85, 45, 55, 11, 3⟩,
  ⟨80, 105, 65, 100, 70, 70, 11, 3⟩, ⟨40, 40, 35, 50, 100, 70, 10, 3⟩,
  ⟨80, 70, 65, 80, 120, 100, 10, 3⟩, ⟨40, 80, 100, 30, 30, 20, 5, 4⟩,
  ⟨55, 95, 115, 45, 45, 35, 5, 4⟩, ⟨80, 120, 130, 55, 65, 45, 5, 4⟩,
  ⟨50, 85, 55, 65, 65, 90, 9, 9⟩, ⟨65, 100, 70, 80, 80, 105, 9, 9⟩,
  ⟨90, 65, 65, 40, 40, 15, 10, 13⟩, ⟨95, 75, 110, 100, 80, 30, 10, 13⟩,
  ⟨25, 35, 70, 95, 55, 45, 12, 17⟩, ⟨50, 60, 95, 120, 70, 70, 12, 17⟩,
  ⟨52, 90, 55, 58, 62, 60, 0, 2⟩, ⟨35, 85, 45, 35, 35, 75, 0, 2⟩,
  ⟨60, 110, 70, 60, 60, 110, 0, 2⟩, ⟨65, 45, 55, 45, 70, 45, 10, 10⟩,
  ⟨90, 70, 80, 70, 95, 70, 10, 14⟩, ⟨80, 80, 50, 40, 50, 25, 3, 3⟩,
  ⟨105, 105, 75, 65, 100, 50, 3, 3⟩, ⟨30, 65, 100, 45, 25, 40, 10, 10⟩,
  ⟨50, 95, 180, 85, 45, 70, 10, 14⟩, ⟨30, 35, 30, 100, 35, 80, 8, 3⟩,
  ⟨45, 50, 45, 115, 55, 95, 8, 3⟩, ⟨60, 65, 60, 130, 75, 110, 8, 3⟩,
  ⟨35, 45, 160, 30, 45, 70, 5, 4⟩, ⟨60, 48, 45, 43, 90, 42, 13, 13⟩,
  ⟨85, 73, 70, 73, 115, 67, 13, 13⟩, ⟨30, 105, 90, 25, 25, 50, 10, 10⟩,
  ⟨55, 130, 115, 50, 50, 75, 10, 10⟩, ⟨40, 30, 50, 55, 55, 100, 12, 12⟩,
  ⟨60, 50, 70, 80, 80, 150, 12, 12⟩, ⟨60, 40, 80, 60, 45, 40, 11, 13⟩,
  ⟨95, 95, 85, 125, 75, 55, 11, 13⟩, ⟨50, 50, 95, 40, 50, 35, 4, 4⟩,
  ⟨60, 80, 110, 50, 80, 45, 4, 4⟩, ⟨50, 120, 53, 35, 110, 87, 1, 1⟩,
  ⟨50, 105, 79, 35, 110, 76, 1, 1⟩, ⟨90, 55, 75, 60, 75, 30, 0, 0⟩,
  ⟨40, 65, 95, 60, 45, 35, 3, 3⟩, ⟨65, 90, 120, 85, 70, 60, 3, 3⟩, ⟨80, 85, 95, 30, 30, 25, 4, 5⟩,
  ⟨105, 130, 120, 45, 45, 40, 4, 5⟩, ⟨250, 5, 5, 35, 105, 50, 0, 0⟩,
  ⟨65, 55, 115, 100, 40, 60, 11, 11⟩, ⟨105, 95, 80, 40, 80, 90, 0, 0⟩,
  ⟨30, 40, 70, 70, 25, 60, 10, 10⟩, ⟨55, 65, 95, 95, 45, 85, 10, 10⟩,
  ⟨45, 67, 60, 35, 50, 63, 10, 10⟩, ⟨80, 92, 65, 65, 80, 68, 10, 10⟩,
  ⟨30, 45, 55, 70, 55, 85, 10, 10⟩, ⟨60, 75, 85, 100, 85, 115, 10, 13⟩,
  ⟨40, 45, 65, 100, 120, 90, 13, 13⟩, ⟨70, 110, 80, 55, 80, 105, 7, 2⟩,
  ⟨65, 50, 35, 115, 95, 95, 14, 13⟩, ⟨65, 83, 57, 95, 85, 105, 12, 12⟩,
  ⟨65, 95, 57, 100, 85, 93, 9, 9⟩, ⟨65, 125, 100, 55, 70, 85, 7, 7⟩,
  ⟨75, 100, 95, 40, 70, 110, 0, 0⟩, ⟨20, 10, 55, 15, 20, 80, 10, 10⟩,
  ⟨95, 125, 79, 60, 100, 81, 10, 2⟩, ⟨130, 85, 80, 85, 95, 60, 10, 14⟩,
  ⟨48, 48, 48, 48, 48, 48, 0, 0⟩, ⟨55, 55, 50, 45, 65, 55, 0, 0⟩,
  ⟨130, 65, 60, 110, 95, 65, 10, 10⟩, ⟨65, 65, 60, 110, 95, 130, 12, 12⟩,
  ⟨65, 130, 60, 95, 110, 65, 9, 9⟩, ⟨65, 60, 70, 85, 75, 40, 0, 0⟩,
  ⟨35, 40, 100, 90, 55, 35, 5, 10⟩, ⟨70, 60, 125, 115, 70, 55, 5, 10⟩,
  ⟨30, 80, 90, 55, 45, 55, 5, 10⟩, ⟨60, 115, 105, 65, 70, 80, 5, 10⟩,
  ⟨80, 105, 65, 60, 75, 130, 5, 2⟩, ⟨160, 110, 65, 65, 110, 30, 0, 0⟩,
  ⟨90, 85, 100, 95, 125, 85, 14, 2⟩, ⟨90, 90, 85, 125, 90, 100, 12, 2⟩,
  ⟨90, 100, 90, 125, 85, 90, 9, 2⟩, ⟨41, 64, 45, 50, 50, 50, 15, 15⟩,
  ⟨61, 84, 65, 70, 70, 70, 15, 15⟩, ⟨91, 134, 95, 100, 100, 80, 15, 2⟩,
  ⟨106, 110, 90, 154, 90, 130, 13, 13⟩, ⟨100, 100, 100, 100, 100, 100, 13, 13⟩]

/-- A save stores the internal index; every table above is indexed by Pokedex number. -/
def internalToDexTable : List UInt8 := [
  0, 112, 115, 32, 35, 21, 100, 34, 80, 2, 103, 108, 102, 88, 94, 29, 31, 104, 111, 131, 59, 151,
  130, 90, 72, 92, 123, 120, 9, 127, 114, 0, 0, 58, 95, 22, 16, 79, 64, 75, 113, 67, 122, 106,
  107, 24, 47, 54, 96, 76, 0, 126, 0, 125, 82, 109, 0, 56, 86, 50, 128, 0, 0, 0, 83, 48, 149, 0,
  0, 0, 84, 60, 124, 146, 144, 145, 132, 52, 98, 0, 0, 0, 37, 38, 25, 26, 0, 0, 147, 148, 140,
  141, 116, 117, 0, 0, 27, 28, 138, 139, 39, 40, 133, 136, 135, 134, 66, 41, 23, 46, 61, 62, 13,
  14, 15, 0, 85, 57, 51, 49, 87, 0, 0, 10, 11, 12, 68, 0, 55, 97, 42, 150, 143, 129, 0, 0, 89, 0,
  99, 91, 0, 101, 36, 110, 53, 105, 0, 93, 63, 65, 17, 18, 121, 1, 3, 73, 0, 118, 119, 0, 0, 0, 0,
  77, 78, 19, 20, 33, 30, 74, 137, 142, 0, 81, 0, 0, 4, 7, 5, 8, 6, 0, 0, 0, 0, 43, 44, 45, 69,
  70, 71, 0, 0, 0, 0, 0, 0, 0, 0, 0, 0, 0, 0, 0, 0, 0, 0, 0, 0, 0, 0, 0, 0, 0, 0, 0, 0, 0, 0, 0,
  0, 0, 0, 0, 0, 0, 0, 0, 0, 0, 0, 0, 0, 0, 0, 0, 0, 0, 0, 0, 0, 0, 0, 0, 0, 0, 0, 0, 0, 0, 0, 0,
  0, 0, 0, 0]

def dexToInternalTable : List UInt8 := [
  0, 153, 9, 154, 176, 178, 180, 177, 179, 28, 123, 124, 125, 112, 113, 114, 36, 150, 151, 165,
  166, 5, 35, 108, 45, 84, 85, 96, 97, 15, 168, 16, 3, 167, 7, 4, 142, 82, 83, 100, 101, 107, 130,
  185, 186, 187, 109, 46, 65, 119, 59, 118, 77, 144, 47, 128, 57, 117, 33, 20, 71, 110, 111, 148,
  38, 149, 106, 41, 126, 188, 189, 190, 24, 155, 169, 39, 49, 163, 164, 37, 8, 173, 54, 64, 70,
  116, 58, 120, 13, 136, 23, 139, 25, 147, 14, 34, 48, 129, 78, 138, 6, 141, 12, 10, 17, 145, 43,
  44, 11, 55, 143, 18, 1, 40, 30, 2, 92, 93, 157, 158, 27, 152, 42, 26, 72, 53, 51, 29, 60, 133,
  22, 19, 76, 102, 105, 104, 103, 170, 98, 99, 90, 91, 171, 132, 74, 75, 73, 88, 89, 66, 131, 21]

/-- Names by internal index, `0x00` to `0xBE`. -/
def speciesNames : List String := [
  "???", "RHYDON", "KANGASKHAN", "NIDORAN M", "CLEFAIRY", "SPEAROW", "VOLTORB", "NIDOKING",
  "SLOWBRO", "IVYSAUR", "EXEGGUTOR", "LICKITUNG", "EXEGGCUTE", "GRIMER", "GENGAR", "NIDORAN F",
  "NIDOQUEEN", "CUBONE", "RHYHORN", "LAPRAS", "ARCANINE", "MEW", "GYARADOS", "SHELLDER",
  "TENTACOOL", "GASTLY", "SCYTHER", "STARYU", "BLASTOISE", "PINSIR", "TANGELA", "???", "???",
  "GROWLITHE", "ONIX", "FEAROW", "PIDGEY", "SLOWPOKE", "KADABRA", "GRAVELER", "CHANSEY",
  "MACHOKE", "MR. MIME", "HITMONLEE", "HITMONCHAN", "ARBOK", "PARASECT", "PSYDUCK", "DROWZEE",
  "GOLEM", "???", "MAGMAR", "???", "ELECTABUZZ", "MAGNETON", "KOFFING", "???", "MANKEY", "SEEL",
  "DIGLETT", "TAUROS", "???", "???", "???", "FARFETCH'D", "VENONAT", "DRAGONITE", "???", "???",
  "???", "DODUO", "POLIWAG", "JYNX", "MOLTRES", "ARTICUNO", "ZAPDOS", "DITTO", "MEOWTH", "KRABBY",
  "???", "???", "???", "VULPIX", "NINETALES", "PIKACHU", "RAICHU", "???", "???", "DRATINI",
  "DRAGONAIR", "KABUTO", "KABUTOPS", "HORSEA", "SEADRA", "???", "???", "SANDSHREW", "SANDSLASH",
  "OMANYTE", "OMASTAR", "JIGGLYPUFF", "WIGGLYTUFF", "EEVEE", "FLAREON", "JOLTEON", "VAPOREON",
  "MACHOP", "ZUBAT", "EKANS", "PARAS", "POLIWHIRL", "POLIWRATH", "WEEDLE", "KAKUNA", "BEEDRILL",
  "???", "DODRIO", "PRIMEAPE", "DUGTRIO", "VENOMOTH", "DEWGONG", "???", "???", "CATERPIE",
  "METAPOD", "BUTTERFREE", "MACHAMP", "???", "GOLDUCK", "HYPNO", "GOLBAT", "MEWTWO", "SNORLAX",
  "MAGIKARP", "???", "???", "MUK", "???", "KINGLER", "CLOYSTER", "???", "ELECTRODE", "CLEFABLE",
  "WEEZING", "PERSIAN", "MAROWAK", "???", "HAUNTER", "ABRA", "ALAKAZAM", "PIDGEOTTO", "PIDGEOT",
  "STARMIE", "BULBASAUR", "VENUSAUR", "TENTACRUEL", "???", "GOLDEEN", "SEAKING", "???", "???",
  "???", "???", "PONYTA", "RAPIDASH", "RATTATA", "RATICATE", "NIDORINO", "NIDORINA", "GEODUDE",
  "PORYGON", "AERODACTYL", "???", "MAGNEMITE", "???", "???", "CHARMANDER", "SQUIRTLE",
  "CHARMELEON", "WARTORTLE", "CHARIZARD", "???", "???", "???", "???", "ODDISH", "GLOOM",
  "VILEPLUME", "BELLSPROUT", "WEEPINBELL", "VICTREEBEL"]

def internalToDex (internal : UInt8) : UInt8 := internalToDexTable.getD internal.toNat 0

def dexToInternal (dex : UInt8) : UInt8 := dexToInternalTable.getD dex.toNat 0

/-- Lookups outside the 152 entries use the placeholder entry 0, as the source's guard does. -/
def gen1BaseStats (dex : UInt8) : Gen1BaseStats :=
  gen1BaseStatsTable.getD dex.toNat ⟨0, 0, 0, 0, 0, 0, 0⟩

def gen3BaseStats (dex : UInt8) : Gen3BaseStats :=
  gen3BaseStatsTable.getD dex.toNat ⟨0, 0, 0, 0, 0, 0, 0, 0⟩

def gen1SpeciesName (internal : UInt8) : String := speciesNames.getD internal.toNat "???"

end MonsterMesh

/-! Type charts. An entry is 0 (immune), 1 (half), 2 (neutral) or 4 (double). -/
namespace MonsterMesh

def gen1TypeCount : UInt8 := 16

def gen3TypeCount : UInt8 := 18

/-- Rows are attacking types, columns defending types. -/
def gen1Typechart : List (List UInt8) := [
  [2, 2, 2, 2, 2, 1, 2, 2, 0, 2, 2, 2, 2, 2, 2, 2],
  [4, 2, 1, 1, 2, 4, 2, 1, 0, 2, 2, 2, 2, 1, 4, 2],
  [2, 4, 2, 2, 2, 1, 2, 4, 2, 2, 2, 4, 1, 2, 2, 2],
  [2, 2, 2, 1, 1, 1, 2, 4, 1, 2, 2, 4, 2, 2, 2, 2],
  [2, 2, 0, 4, 2, 4, 2, 1, 2, 4, 2, 1, 4, 2, 2, 2],
  [2, 1, 4, 2, 1, 2, 2, 4, 2, 4, 2, 2, 2, 2, 4, 2],
  [2, 2, 2, 2, 2, 2, 2, 2, 2, 2, 2, 2, 2, 2, 2, 2],
  [2, 1, 1, 4, 2, 2, 2, 2, 1, 1, 2, 4, 2, 4, 2, 2],
  [0, 2, 2, 2, 2, 2, 2, 2, 4, 2, 2, 2, 2, 0, 2, 2],
  [2, 2, 2, 2, 2, 1, 2, 4, 2, 1, 1, 4, 2, 2, 4, 1],
  [2, 2, 2, 2, 4, 4, 2, 2, 2, 4, 1, 1, 2, 2, 2, 1],
  [2, 2, 1, 1, 4, 4, 2, 1, 2, 1, 4, 1, 2, 2, 2, 1],
  [2, 2, 4, 2, 0, 2, 2, 2, 2, 2, 4, 1, 1, 2, 2, 1],
  [2, 4, 2, 4, 2, 2, 2, 2, 2, 2, 2, 2, 2, 1, 2, 2],
  [2, 2, 4, 2, 4, 2, 2, 2, 2, 2, 1, 4, 2, 2, 1, 4],
  [2, 2, 2, 2, 2, 2, 2, 2, 2, 2, 2, 2, 2, 2, 2, 4]]

def gen3Typechart : List (List UInt8) := [
  [2, 2, 2, 2, 2, 1, 2, 2, 0, 2, 2, 2, 2, 2, 2, 2, 2, 1],
  [4, 2, 1, 1, 2, 4, 2, 1, 0, 2, 2, 2, 2, 1, 4, 2, 4, 4],
  [2, 4, 2, 2, 2, 1, 2, 4, 2, 2, 2, 4, 1, 2, 2, 2, 2, 1],
  [2, 2, 2, 1, 1, 1, 2, 2, 1, 2, 2, 4, 2, 2, 2, 2, 2, 0],
  [2, 2, 0, 4, 2, 4, 2, 1, 2, 4, 2, 1, 4, 2, 2, 2, 2, 4],
  [2, 1, 4, 2, 1, 2, 2, 4, 2, 4, 2, 2, 2, 2, 4, 2, 2, 1],
  [2, 2, 2, 2, 2, 2, 2, 2, 2, 2, 2, 2, 2, 2, 2, 2, 2, 2],
  [2, 1, 1, 1, 2, 2, 2, 2, 1, 1, 2, 4, 2, 4, 2, 2, 4, 1],
  [0, 2, 2, 2, 2, 2, 2, 2, 4, 2, 2, 2, 2, 4, 2, 2, 1, 2],
  [2, 2, 2, 2, 2, 1, 2, 4, 2, 1, 1, 4, 2, 2, 4, 1, 2, 4],
  [2, 2, 2, 2, 4, 4, 2, 2, 2, 4, 1, 1, 2, 2, 2, 1, 2, 2],
  [2, 2, 1, 1, 4, 4, 2, 1, 2, 1, 4, 1, 2, 2, 2, 1, 2, 1],
  [2, 2, 4, 2, 0, 2, 2, 2, 2, 2, 4, 1, 1, 2, 2, 1, 2, 2],
  [2, 4, 2, 4, 2, 2, 2, 2, 2, 2, 2, 2, 2, 1, 2, 2, 0, 1],
  [2, 2, 4, 2, 4, 2, 2, 2, 2, 1, 1, 4, 2, 2, 1, 4, 2, 1],
  [2, 2, 2, 2, 2, 2, 2, 2, 2, 2, 2, 2, 2, 2, 2, 4, 2, 1],
  [2, 1, 2, 2, 2, 2, 2, 2, 4, 2, 2, 2, 2, 4, 2, 2, 1, 2],
  [2, 2, 2, 2, 2, 4, 2, 2, 2, 1, 1, 2, 1, 2, 4, 2, 2, 1]]

/-- Physical or special is decided by the attacking type. -/
def gen3TypeIsSpecial : List Bool :=
  [false, false, false, false, false, false, false, false, false, true, true, true, true, true, true, true, true, false]

def chartEntry (chart : List (List UInt8)) (atkType defType : UInt8) : UInt8 :=
  (chart.getD atkType.toNat []).getD defType.toNat 2

end MonsterMesh
