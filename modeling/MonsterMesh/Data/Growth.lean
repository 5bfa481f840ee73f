import MonsterMesh.Data.Moves

/-! Tables of the save patcher: growth rates, base stats and level-up moves by Pokedex number. -/
namespace MonsterMesh

inductive GrowthRate where
  | mediumFast | fast | mediumSlow | slow
deriving DecidableEq, Repr

/-- The growth rates, as the numbers of the source's enumeration; entry 0 is unused. -/
def speciesGrowthRateTable : List UInt8 := [
  0, 2, 2, 2, 2, 2, 2, 2, 2, 2, 0, 0, 0, 0, 0, 0, 2, 2, 2, 0, 0, 0, 0, 0, 0, 0, 0, 0, 0, 2, 2, 2,
  2, 2, 2, 1, 1, 0, 0, 1, 1, 0, 0, 2, 2, 2, 0, 0, 0, 0, 0, 0, 0, 0, 0, 0, 0, 0, 3, 3, 2, 2, 2, 2,
  2, 2, 2, 2, 2, 2, 2, 2, 3, 3, 2, 2, 2, 0, 0, 0, 0, 0, 0, 0, 0, 0, 0, 0, 0, 0, 3, 3, 2, 2, 2, 0,
  0, 0, 0, 0, 0, 0, 3, 3, 0, 0, 0, 0, 0, 0, 0, 3, 3, 1, 0, 0, 0, 0, 0, 0, 3, 3, 0, 0, 0, 0, 0, 3,
  3, 3, 3, 3, 0, 0, 0, 0, 0, 0, 0, 0, 0, 0, 3, 3, 3, 3, 3, 3, 3, 3, 3, 2]

def speciesGrowthRate (dex : UInt8) : GrowthRate :=
  match speciesGrowthRateTable.getD dex.toNat 0 with
  | 1 => .fast
  | 2 => .mediumSlow
  | 3 => .slow
  | _ => .mediumFast

structure BaseStats where
  (hp atk def' spd spc : UInt8)
deriving DecidableEq, Repr

def speciesBaseStatsTable : List BaseStats := [
  ⟨0, 0, 0, 0, 0⟩, ⟨45, 49, 49, 45, 65⟩, ⟨60, 62, 63, 60, 80⟩, ⟨80, 82, 83, 80, 100⟩,
  ⟨39, 52, 43, 65, 50⟩, ⟨58, 64, 58, 80, 65⟩, ⟨78, 84, 78, 100, 85⟩, ⟨44, 48, 65, 43, 50⟩,
  ⟨59, 63, 80, 58, 65⟩, ⟨79, 83, 100, 78, 85⟩, ⟨45, 30, 35, 45, 20⟩, ⟨50, 20, 55, 30, 25⟩,
  ⟨60, 45, 50, 70, 80⟩, ⟨40, 35, 30, 50, 20⟩, ⟨45, 25, 50, 35, 25⟩, ⟨65, 80, 40, 75, 45⟩,
  ⟨40, 45, 40, 56, 35⟩, ⟨63, 60, 55, 71, 50⟩, ⟨83, 80, 75, 91, 70⟩, ⟨30, 56, 35, 72, 25⟩,
  ⟨55, 81, 60, 97, 50⟩, ⟨40, 60, 30, 70, 31⟩, ⟨65, 90, 65, 100, 61⟩, ⟨35, 60, 44, 55, 40⟩,
  ⟨60, 85, 69, 80, 65⟩, ⟨35, 55, 30, 90, 50⟩, ⟨60, 90, 55, 100, 90⟩, ⟨50, 75, 85, 40, 30⟩,
  ⟨75, 100, 110, 65, 55⟩, ⟨55, 47, 52, 41, 40⟩, ⟨70, 62, 67, 56, 55⟩, ⟨90, 82, 87, 76, 75⟩,
  ⟨46, 57, 40, 50, 40⟩, ⟨61, 72, 57, 65, 55⟩, ⟨81, 92, 77, 85, 75⟩, ⟨70, 45, 48, 35, 60⟩,
  ⟨95, 70, 73, 60, 85⟩, ⟨38, 41, 40, 65, 65⟩, ⟨73, 76, 75, 100, 100⟩, ⟨115, 45, 20, 20, 25⟩,
  ⟨140, 70, 45, 45, 50⟩, ⟨40, 45, 35, 55, 40⟩, ⟨75, 80, 70, 90, 75⟩, ⟨45, 50, 55, 30, 75⟩,
  ⟨60, 65, 70, 40, 85⟩, ⟨75, 80, 85, 50, 100⟩, ⟨35, 70, 55, 25, 55⟩, ⟨60, 95, 80, 30, 80⟩,
  ⟨60, 55, 50, 45, 40⟩, ⟨70, 65, 60, 90, 90⟩, ⟨10, 55, 25, 95, 45⟩, ⟨35, 80, 50, 120, 70⟩,
  ⟨40, 45, 35, 90, 40⟩, ⟨65, 70, 60, 115, 65⟩, ⟨50, 52, 48, 55, 50⟩, ⟨80, 82, 78, 85, 80⟩,
  ⟨40, 80, 35, 70, 35⟩, ⟨65, 105, 60, 95, 60⟩, ⟨55, 70, 45, 60, 50⟩, ⟨90, 110, 80, 95, 80⟩,
  ⟨40, 50, 40, 90, 40⟩, ⟨65, 65, 65, 90, 50⟩, ⟨90, 85, 95, 70, 70⟩, ⟨25, 20, 15, 90, 105⟩,
  ⟨40, 35, 30, 105, 120⟩, ⟨55, 50, 45, 120, 135⟩, ⟨70, 80, 50, 35, 35⟩, ⟨80, 100, 70, 45, 50⟩,
  ⟨90, 130, 80, 55, 65⟩, ⟨50, 75, 35, 40, 70⟩, ⟨65, 90, 50, 55, 85⟩, ⟨80, 105, 65, 70, 100⟩,
  ⟨40, 40, 35, 70, 100⟩, ⟨80, 70, 65, 100, 120⟩, ⟨40, 80, 100, 20, 30⟩, ⟨55, 95, 115, 35, 45⟩,
  ⟨80, 110, 130, 45, 55⟩, ⟨50, 85, 55, 90, 65⟩, ⟨65, 100, 70, 105, 80⟩, ⟨90, 65, 65, 15, 40⟩,
  ⟨95, 75, 110, 30, 80⟩, ⟨25, 35, 70, 45, 95⟩, ⟨50, 60, 95, 70, 120⟩, ⟨52, 65, 55, 60, 58⟩,
  ⟨35, 85, 45, 75, 35⟩, ⟨60, 110, 70, 100, 60⟩, ⟨65, 45, 55, 45, 70⟩, ⟨90, 70, 80, 70, 95⟩,
  ⟨80, 80, 50, 25, 40⟩, ⟨105, 105, 75, 50, 65⟩, ⟨30, 65, 100, 40, 45⟩, ⟨50, 95, 180, 70, 85⟩,
  ⟨30, 35, 30, 80, 100⟩, ⟨45, 50, 45, 95, 115⟩, ⟨60, 65, 60, 110, 130⟩, ⟨35, 45, 160, 70, 30⟩,
  ⟨60, 48, 45, 42, 90⟩, ⟨85, 73, 70, 67, 115⟩, ⟨30, 105, 90, 50, 25⟩, ⟨55, 130, 115, 75, 50⟩,
  ⟨40, 30, 50, 100, 55⟩, ⟨60, 50, 70, 140, 80⟩, ⟨60, 40, 80, 40, 60⟩, ⟨95, 95, 85, 55, 125⟩,
  ⟨50, 50, 95, 35, 40⟩, ⟨60, 80, 110, 45, 50⟩, ⟨50, 120, 53, 87, 35⟩, ⟨50, 105, 79, 76, 35⟩,
  ⟨90, 55, 75, 30, 60⟩, ⟨40, 65, 95, 35, 60⟩, ⟨65, 90, 120, 60, 85⟩, ⟨80, 85, 95, 25, 30⟩,
  ⟨105, 130, 120, 40, 45⟩, ⟨250, 5, 5, 50, 105⟩, ⟨65, 55, 115, 60, 100⟩, ⟨105, 95, 80, 90, 40⟩,
  ⟨30, 40, 70, 60, 70⟩, ⟨55, 65, 95, 85, 95⟩, ⟨45, 67, 60, 63, 50⟩, ⟨80, 92, 65, 68, 80⟩,
  ⟨30, 45, 55, 85, 70⟩, ⟨60, 75, 85, 115, 100⟩, ⟨40, 45, 65, 90, 100⟩, ⟨70, 110, 80, 105, 55⟩,
  ⟨65, 50, 35, 95, 95⟩, ⟨65, 83, 57, 105, 85⟩, ⟨65, 95, 57, 93, 85⟩, ⟨65, 125, 100, 85, 55⟩,
  ⟨75, 100, 95, 110, 70⟩, ⟨20, 10, 55, 80, 20⟩, ⟨95, 125, 79, 81, 100⟩, ⟨130, 85, 80, 60, 95⟩,
  ⟨48, 48, 48, 48, 48⟩, ⟨55, 55, 50, 55, 65⟩, ⟨130, 65, 60, 65, 110⟩, ⟨65, 65, 60, 130, 110⟩,
  ⟨65, 130, 60, 65, 110⟩, ⟨65, 60, 70, 40, 75⟩, ⟨35, 40, 100, 35, 90⟩, ⟨70, 60, 125, 55, 115⟩,
  ⟨30, 80, 90, 55, 45⟩, ⟨60, 115, 105, 80, 70⟩, ⟨80, 105, 65, 130, 60⟩, ⟨160, 110, 65, 30, 65⟩,
  ⟨90, 85, 100, 85, 125⟩, ⟨90, 90, 85, 100, 125⟩, ⟨90, 100, 90, 90, 125⟩, ⟨41, 64, 45, 50, 50⟩,
  ⟨61, 84, 65, 70, 70⟩, ⟨91, 134, 95, 80, 100⟩, ⟨106, 110, 90, 130, 154⟩, ⟨100, 100, 100, 100, 100⟩]

def speciesBaseStats (dex : UInt8) : BaseStats :=
  speciesBaseStatsTable.getD dex.toNat ⟨0, 0, 0, 0, 0⟩

/-- A level-up move of a species. -/
structure Gen1LearnEntry where
  (level moveId : UInt8)
deriving DecidableEq, Repr

/-- The level-up moves, a row for each Pokedex number. -/
def gen1Learnsets : List (List Gen1LearnEntry) := [
  [],
  [⟨7, 73⟩, ⟨13, 22⟩, ⟨20, 77⟩, ⟨27, 75⟩, ⟨34, 74⟩, ⟨41, 79⟩, ⟨48, 76⟩],
  [⟨7, 73⟩, ⟨13, 22⟩, ⟨22, 77⟩, ⟨30, 75⟩, ⟨38, 74⟩, ⟨46, 79⟩, ⟨54, 76⟩],
  [⟨7, 73⟩, ⟨13, 22⟩, ⟨22, 77⟩, ⟨30, 75⟩, ⟨43, 74⟩, ⟨55, 79⟩, ⟨65, 76⟩],
  [⟨9, 52⟩, ⟨15, 43⟩, ⟨22, 99⟩, ⟨30, 163⟩, ⟨38, 53⟩, ⟨46, 83⟩],
  [⟨9, 52⟩, ⟨15, 43⟩, ⟨24, 99⟩, ⟨33, 163⟩, ⟨42, 53⟩, ⟨56, 83⟩],
  [⟨9, 52⟩, ⟨15, 43⟩, ⟨24, 99⟩, ⟨36, 163⟩, ⟨46, 53⟩, ⟨55, 83⟩],
  [⟨8, 145⟩, ⟨15, 55⟩, ⟨22, 44⟩, ⟨28, 110⟩, ⟨35, 130⟩, ⟨42, 56⟩],
  [⟨8, 145⟩, ⟨15, 55⟩, ⟨24, 44⟩, ⟨31, 110⟩, ⟨39, 130⟩, ⟨47, 56⟩],
  [⟨8, 145⟩, ⟨15, 55⟩, ⟨24, 44⟩, ⟨31, 110⟩, ⟨42, 130⟩, ⟨52, 56⟩],
  [],
  [],
  [⟨12, 93⟩, ⟨15, 77⟩, ⟨16, 78⟩, ⟨17, 79⟩, ⟨21, 48⟩, ⟨26, 18⟩, ⟨32, 60⟩],
  [],
  [],
  [⟨12, 31⟩, ⟨16, 116⟩, ⟨20, 41⟩, ⟨25, 99⟩, ⟨30, 42⟩, ⟨35, 97⟩],
  [⟨5, 28⟩, ⟨12, 98⟩, ⟨19, 18⟩, ⟨28, 17⟩, ⟨36, 97⟩, ⟨44, 119⟩],
  [⟨5, 28⟩, ⟨12, 98⟩, ⟨21, 18⟩, ⟨31, 17⟩, ⟨40, 97⟩, ⟨49, 119⟩],
  [⟨5, 28⟩, ⟨12, 98⟩, ⟨21, 18⟩, ⟨31, 17⟩, ⟨44, 97⟩, ⟨54, 119⟩],
  [⟨7, 98⟩, ⟨14, 158⟩, ⟨23, 116⟩, ⟨34, 162⟩],
  [⟨7, 98⟩, ⟨14, 158⟩, ⟨27, 116⟩, ⟨41, 162⟩],
  [⟨9, 43⟩, ⟨15, 31⟩, ⟨22, 119⟩, ⟨29, 65⟩, ⟨36, 97⟩],
  [⟨9, 43⟩, ⟨15, 31⟩, ⟨25, 119⟩, ⟨34, 65⟩, ⟨43, 97⟩],
  [⟨10, 40⟩, ⟨17, 44⟩, ⟨24, 137⟩, ⟨31, 103⟩, ⟨38, 51⟩],
  [⟨10, 40⟩, ⟨17, 44⟩, ⟨27, 137⟩, ⟨36, 103⟩, ⟨47, 51⟩],
  [⟨9, 86⟩, ⟨16, 98⟩, ⟨26, 129⟩, ⟨33, 97⟩, ⟨43, 87⟩],
  [],
  [⟨10, 28⟩, ⟨17, 163⟩, ⟨24, 40⟩, ⟨31, 129⟩, ⟨38, 154⟩],
  [⟨10, 28⟩, ⟨17, 163⟩, ⟨27, 40⟩, ⟨36, 129⟩, ⟨47, 154⟩],
  [⟨8, 10⟩, ⟨14, 40⟩, ⟨21, 39⟩, ⟨29, 44⟩, ⟨36, 154⟩, ⟨43, 24⟩],
  [⟨8, 10⟩, ⟨14, 40⟩, ⟨23, 39⟩, ⟨32, 44⟩, ⟨41, 154⟩, ⟨50, 24⟩],
  [⟨8, 10⟩, ⟨14, 40⟩, ⟨23, 34⟩],
  [⟨8, 30⟩, ⟨14, 40⟩, ⟨21, 116⟩, ⟨29, 31⟩, ⟨36, 32⟩, ⟨43, 24⟩],
  [⟨8, 30⟩, ⟨14, 40⟩, ⟨23, 116⟩, ⟨32, 31⟩, ⟨41, 32⟩, ⟨50, 24⟩],
  [⟨8, 30⟩, ⟨14, 40⟩, ⟨23, 37⟩],
  [⟨13, 47⟩, ⟨18, 3⟩, ⟨24, 107⟩, ⟨31, 118⟩, ⟨39, 111⟩, ⟨48, 113⟩],
  [],
  [⟨16, 98⟩, ⟨21, 46⟩, ⟨28, 109⟩, ⟨35, 53⟩, ⟨42, 83⟩],
  [],
  [⟨9, 1⟩, ⟨14, 50⟩, ⟨19, 111⟩, ⟨24, 3⟩, ⟨29, 156⟩, ⟨34, 34⟩, ⟨39, 38⟩],
  [],
  [⟨10, 48⟩, ⟨15, 44⟩, ⟨21, 109⟩, ⟨28, 17⟩, ⟨36, 114⟩],
  [⟨10, 48⟩, ⟨15, 44⟩, ⟨21, 109⟩, ⟨32, 17⟩, ⟨43, 114⟩],
  [⟨15, 77⟩, ⟨17, 78⟩, ⟨19, 79⟩, ⟨24, 51⟩, ⟨33, 80⟩, ⟨46, 76⟩],
  [⟨15, 77⟩, ⟨17, 78⟩, ⟨19, 79⟩, ⟨28, 51⟩, ⟨38, 80⟩, ⟨52, 76⟩],
  [⟨15, 77⟩, ⟨17, 78⟩, ⟨19, 79⟩],
  [⟨13, 78⟩, ⟨20, 141⟩, ⟨27, 147⟩, ⟨34, 163⟩, ⟨41, 74⟩],
  [⟨13, 78⟩, ⟨20, 141⟩, ⟨30, 147⟩, ⟨39, 163⟩, ⟨48, 74⟩],
  [⟨24, 77⟩, ⟨27, 141⟩, ⟨30, 78⟩, ⟨35, 60⟩, ⟨38, 79⟩, ⟨43, 94⟩],
  [⟨24, 77⟩, ⟨27, 141⟩, ⟨30, 78⟩, ⟨38, 60⟩, ⟨43, 79⟩, ⟨50, 94⟩],
  [⟨15, 45⟩, ⟨19, 91⟩, ⟨24, 28⟩, ⟨31, 163⟩, ⟨40, 89⟩],
  [⟨15, 45⟩, ⟨19, 91⟩, ⟨24, 28⟩, ⟨35, 163⟩, ⟨47, 89⟩],
  [⟨12, 44⟩, ⟨17, 6⟩, ⟨24, 103⟩, ⟨33, 154⟩, ⟨44, 163⟩],
  [⟨12, 44⟩, ⟨17, 6⟩, ⟨24, 103⟩, ⟨37, 154⟩, ⟨51, 163⟩],
  [⟨28, 39⟩, ⟨31, 50⟩, ⟨36, 93⟩, ⟨43, 154⟩, ⟨52, 56⟩],
  [⟨28, 39⟩, ⟨31, 50⟩, ⟨39, 93⟩, ⟨48, 154⟩, ⟨59, 56⟩],
  [⟨15, 2⟩, ⟨21, 154⟩, ⟨27, 116⟩, ⟨33, 69⟩, ⟨39, 37⟩],
  [⟨15, 2⟩, ⟨21, 154⟩, ⟨27, 116⟩, ⟨37, 69⟩, ⟨46, 37⟩],
  [⟨18, 52⟩, ⟨23, 43⟩, ⟨30, 36⟩, ⟨39, 97⟩, ⟨50, 53⟩],
  [],
  [⟨16, 95⟩, ⟨19, 55⟩, ⟨25, 3⟩, ⟨31, 34⟩, ⟨38, 133⟩, ⟨45, 56⟩],
  [⟨16, 95⟩, ⟨19, 55⟩, ⟨26, 3⟩, ⟨33, 34⟩, ⟨41, 133⟩, ⟨49, 56⟩],
  [⟨16, 95⟩, ⟨19, 55⟩],
  [],
  [⟨16, 93⟩, ⟨20, 50⟩, ⟨27, 60⟩, ⟨31, 105⟩, ⟨38, 94⟩, ⟨42, 115⟩],
  [⟨16, 93⟩, ⟨20, 50⟩, ⟨27, 60⟩, ⟨31, 105⟩, ⟨38, 94⟩, ⟨42, 115⟩],
  [⟨20, 67⟩, ⟨25, 43⟩, ⟨32, 116⟩, ⟨39, 69⟩, ⟨46, 66⟩],
  [⟨20, 67⟩, ⟨25, 43⟩, ⟨36, 116⟩, ⟨44, 69⟩, ⟨52, 66⟩],
  [⟨20, 67⟩, ⟨25, 43⟩, ⟨36, 116⟩, ⟨44, 69⟩, ⟨52, 66⟩],
  [⟨13, 35⟩, ⟨15, 77⟩, ⟨18, 79⟩, ⟨21, 78⟩, ⟨26, 51⟩, ⟨33, 75⟩, ⟨42, 21⟩],
  [⟨13, 35⟩, ⟨15, 77⟩, ⟨18, 79⟩, ⟨23, 78⟩, ⟨29, 51⟩, ⟨38, 75⟩, ⟨49, 21⟩],
  [⟨13, 35⟩, ⟨15, 77⟩, ⟨18, 79⟩],
  [⟨7, 48⟩, ⟨13, 35⟩, ⟨18, 40⟩, ⟨22, 55⟩, ⟨27, 132⟩, ⟨33, 112⟩, ⟨40, 103⟩, ⟨48, 56⟩],
  [⟨7, 48⟩, ⟨13, 35⟩, ⟨18, 40⟩, ⟨22, 55⟩, ⟨27, 132⟩, ⟨35, 112⟩, ⟨43, 103⟩, ⟨50, 56⟩],
  [⟨11, 111⟩, ⟨16, 88⟩, ⟨21, 120⟩, ⟨26, 106⟩, ⟨31, 89⟩, ⟨36, 153⟩],
  [⟨11, 111⟩, ⟨16, 88⟩, ⟨21, 120⟩, ⟨29, 106⟩, ⟨36, 89⟩, ⟨43, 153⟩],
  [⟨11, 111⟩, ⟨16, 88⟩, ⟨21, 120⟩, ⟨29, 106⟩, ⟨36, 89⟩, ⟨43, 153⟩],
  [⟨30, 39⟩, ⟨32, 23⟩, ⟨35, 45⟩, ⟨39, 83⟩, ⟨43, 36⟩, ⟨48, 97⟩],
  [⟨30, 39⟩, ⟨32, 23⟩, ⟨35, 45⟩, ⟨39, 83⟩, ⟨47, 36⟩, ⟨55, 97⟩],
  [⟨18, 50⟩, ⟨22, 29⟩, ⟨27, 45⟩, ⟨33, 55⟩, ⟨40, 133⟩, ⟨48, 94⟩],
  [⟨18, 50⟩, ⟨22, 29⟩, ⟨27, 45⟩, ⟨33, 55⟩, ⟨37, 110⟩, ⟨44, 133⟩, ⟨55, 94⟩],
  [⟨21, 49⟩, ⟨25, 84⟩, ⟨29, 48⟩, ⟨35, 86⟩, ⟨41, 129⟩, ⟨47, 103⟩],
  [⟨21, 49⟩, ⟨25, 84⟩, ⟨29, 48⟩, ⟨38, 86⟩, ⟨46, 129⟩, ⟨54, 103⟩],
  [⟨7, 43⟩, ⟨15, 31⟩, ⟨23, 14⟩, ⟨31, 97⟩, ⟨39, 163⟩],
  [⟨20, 45⟩, ⟨24, 31⟩, ⟨30, 65⟩, ⟨36, 99⟩, ⟨40, 161⟩, ⟨44, 97⟩],
  [⟨20, 45⟩, ⟨24, 31⟩, ⟨30, 65⟩, ⟨39, 99⟩, ⟨45, 161⟩, ⟨51, 97⟩],
  [⟨30, 45⟩, ⟨35, 62⟩, ⟨40, 156⟩, ⟨45, 36⟩, ⟨50, 58⟩],
  [⟨30, 45⟩, ⟨35, 62⟩, ⟨44, 156⟩, ⟨50, 36⟩, ⟨56, 58⟩],
  [⟨30, 139⟩, ⟨33, 107⟩, ⟨37, 124⟩, ⟨42, 106⟩, ⟨48, 103⟩, ⟨55, 151⟩],
  [⟨30, 139⟩, ⟨33, 107⟩, ⟨37, 124⟩, ⟨45, 106⟩, ⟨53, 103⟩, ⟨60, 151⟩],
  [⟨18, 48⟩, ⟨23, 128⟩, ⟨30, 62⟩, ⟨39, 43⟩, ⟨50, 58⟩],
  [⟨50, 131⟩],
  [⟨27, 95⟩, ⟨35, 138⟩],
  [⟨29, 95⟩, ⟨38, 138⟩],
  [⟨29, 95⟩, ⟨38, 138⟩],
  [⟨15, 20⟩, ⟨19, 88⟩, ⟨25, 99⟩, ⟨33, 21⟩, ⟨43, 106⟩],
  [⟨12, 50⟩, ⟨17, 93⟩, ⟨24, 29⟩, ⟨29, 139⟩, ⟨32, 94⟩, ⟨37, 96⟩],
  [⟨12, 50⟩, ⟨17, 93⟩, ⟨24, 29⟩, ⟨33, 139⟩, ⟨37, 94⟩, ⟨43, 96⟩],
  [⟨20, 11⟩, ⟨25, 12⟩, ⟨30, 23⟩, ⟨35, 152⟩, ⟨40, 106⟩],
  [⟨20, 11⟩, ⟨25, 12⟩, ⟨34, 23⟩, ⟨42, 152⟩, ⟨49, 106⟩],
  [⟨17, 49⟩, ⟨22, 120⟩, ⟨29, 113⟩, ⟨36, 129⟩, ⟨43, 153⟩],
  [⟨17, 49⟩, ⟨22, 120⟩, ⟨29, 113⟩, ⟨40, 129⟩, ⟨50, 153⟩],
  [⟨25, 115⟩, ⟨28, 73⟩, ⟨32, 78⟩, ⟨37, 77⟩, ⟨42, 76⟩, ⟨48, 79⟩],
  [⟨28, 23⟩],
  [⟨25, 43⟩, ⟨31, 116⟩, ⟨38, 37⟩, ⟨43, 155⟩, ⟨46, 99⟩],
  [⟨25, 43⟩, ⟨33, 116⟩, ⟨41, 37⟩, ⟨48, 155⟩, ⟨55, 99⟩],
  [⟨33, 27⟩, ⟨38, 26⟩, ⟨43, 116⟩, ⟨48, 136⟩, ⟨53, 25⟩],
  [⟨33, 7⟩, ⟨38, 8⟩, ⟨43, 9⟩, ⟨48, 5⟩, ⟨53, 68⟩],
  [⟨7, 23⟩, ⟨15, 50⟩, ⟨23, 111⟩, ⟨31, 21⟩, ⟨39, 103⟩],
  [⟨32, 124⟩, ⟨37, 108⟩, ⟨40, 120⟩, ⟨45, 114⟩, ⟨48, 153⟩],
  [⟨32, 124⟩, ⟨39, 108⟩, ⟨43, 120⟩, ⟨49, 114⟩, ⟨53, 153⟩],
  [⟨30, 23⟩, ⟨35, 39⟩, ⟨40, 31⟩, ⟨45, 32⟩, ⟨50, 43⟩, ⟨55, 36⟩],
  [⟨30, 23⟩, ⟨35, 39⟩, ⟨40, 31⟩, ⟨48, 32⟩, ⟨55, 43⟩, ⟨64, 36⟩],
  [⟨24, 47⟩, ⟨30, 45⟩, ⟨38, 107⟩, ⟨44, 111⟩, ⟨48, 113⟩, ⟨54, 38⟩],
  [⟨29, 71⟩, ⟨32, 77⟩, ⟨36, 78⟩, ⟨39, 79⟩, ⟨45, 21⟩, ⟨49, 74⟩],
  [⟨26, 44⟩, ⟨31, 39⟩, ⟨36, 5⟩, ⟨41, 43⟩, ⟨46, 146⟩],
  [⟨19, 108⟩, ⟨24, 43⟩, ⟨30, 55⟩, ⟨37, 97⟩, ⟨45, 56⟩],
  [⟨19, 108⟩, ⟨24, 43⟩, ⟨30, 55⟩, ⟨41, 97⟩, ⟨52, 56⟩],
  [⟨19, 48⟩, ⟨24, 30⟩, ⟨30, 31⟩, ⟨37, 127⟩, ⟨45, 32⟩, ⟨54, 97⟩],
  [⟨19, 48⟩, ⟨24, 30⟩, ⟨30, 31⟩, ⟨39, 127⟩, ⟨48, 32⟩, ⟨54, 97⟩],
  [⟨17, 55⟩, ⟨22, 106⟩, ⟨27, 105⟩, ⟨32, 129⟩, ⟨37, 107⟩, ⟨42, 113⟩, ⟨47, 56⟩],
  [],
  [⟨15, 93⟩, ⟨23, 113⟩, ⟨31, 3⟩, ⟨39, 96⟩, ⟨47, 164⟩],
  [⟨17, 43⟩, ⟨20, 116⟩, ⟨24, 104⟩, ⟨29, 163⟩, ⟨35, 14⟩, ⟨42, 97⟩],
  [⟨18, 122⟩, ⟨23, 3⟩, ⟨31, 8⟩, ⟨39, 34⟩, ⟨47, 37⟩, ⟨58, 59⟩],
  [⟨34, 84⟩, ⟨37, 103⟩, ⟨42, 9⟩, ⟨49, 113⟩, ⟨54, 87⟩],
  [⟨36, 43⟩, ⟨39, 109⟩, ⟨43, 7⟩, ⟨48, 108⟩, ⟨52, 123⟩, ⟨55, 53⟩],
  [⟨25, 69⟩, ⟨30, 12⟩, ⟨36, 116⟩, ⟨43, 106⟩, ⟨49, 163⟩, ⟨54, 14⟩],
  [⟨21, 23⟩, ⟨28, 39⟩, ⟨35, 43⟩, ⟨44, 99⟩, ⟨51, 36⟩],
  [⟨15, 33⟩],
  [⟨20, 44⟩, ⟨25, 82⟩, ⟨32, 43⟩, ⟨41, 56⟩, ⟨52, 63⟩],
  [⟨16, 47⟩, ⟨20, 54⟩, ⟨25, 34⟩, ⟨31, 109⟩, ⟨38, 58⟩, ⟨46, 56⟩],
  [],
  [⟨27, 98⟩, ⟨31, 39⟩, ⟨37, 44⟩, ⟨45, 36⟩],
  [⟨27, 98⟩, ⟨31, 55⟩, ⟨37, 39⟩, ⟨40, 44⟩, ⟨42, 151⟩, ⟨44, 114⟩, ⟨48, 54⟩, ⟨54, 56⟩],
  [⟨27, 98⟩, ⟨31, 84⟩, ⟨37, 39⟩, ⟨40, 86⟩, ⟨42, 24⟩, ⟨44, 97⟩, ⟨48, 42⟩, ⟨54, 87⟩],
  [⟨27, 98⟩, ⟨31, 52⟩, ⟨37, 39⟩, ⟨40, 44⟩, ⟨42, 43⟩, ⟨44, 83⟩, ⟨48, 99⟩, ⟨54, 53⟩],
  [⟨23, 60⟩, ⟨28, 105⟩, ⟨35, 97⟩, ⟨42, 161⟩],
  [⟨34, 30⟩, ⟨39, 43⟩, ⟨46, 131⟩, ⟨53, 56⟩],
  [⟨34, 30⟩, ⟨39, 43⟩, ⟨44, 131⟩, ⟨49, 56⟩],
  [⟨34, 71⟩, ⟨39, 163⟩, ⟨44, 43⟩, ⟨49, 56⟩],
  [⟨34, 71⟩, ⟨39, 163⟩, ⟨46, 43⟩, ⟨53, 56⟩],
  [⟨33, 48⟩, ⟨38, 44⟩, ⟨45, 36⟩, ⟨54, 63⟩],
  [⟨35, 34⟩, ⟨41, 106⟩, ⟨48, 38⟩, ⟨56, 63⟩],
  [⟨51, 59⟩, ⟨55, 97⟩, ⟨60, 54⟩],
  [⟨51, 87⟩, ⟨55, 97⟩, ⟨60, 113⟩],
  [⟨51, 43⟩, ⟨55, 97⟩, ⟨60, 143⟩],
  [⟨10, 86⟩, ⟨20, 97⟩, ⟨30, 21⟩, ⟨40, 82⟩, ⟨50, 63⟩],
  [⟨10, 86⟩, ⟨20, 97⟩, ⟨35, 21⟩, ⟨45, 82⟩, ⟨55, 63⟩],
  [⟨10, 86⟩, ⟨20, 97⟩, ⟨35, 21⟩, ⟨45, 82⟩, ⟨60, 63⟩],
  [⟨63, 112⟩, ⟨66, 94⟩, ⟨70, 105⟩, ⟨75, 54⟩, ⟨81, 133⟩],
  [⟨10, 144⟩, ⟨20, 5⟩, ⟨30, 118⟩, ⟨40, 94⟩]]

/-- Moves learned when growing from `fromLevel` (exclusive) to `toLevel` (inclusive), `maxOut` at
most. -/
def gen1MovesLearnedBetween (dex fromLevel toLevel : UInt8) (maxOut : ℕ) : List UInt8 :=
  if dex = 0 ∨ 151 < dex then []
  else
    (((gen1Learnsets.getD dex.toNat []).filter
      (fun e => fromLevel < e.level ∧ e.level ≤ toLevel)).map (·.moveId)).take maxOut

end MonsterMesh
