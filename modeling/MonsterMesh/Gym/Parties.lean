import Mathlib.Data.Fin.VecNotation
import MonsterMesh.Data.Species
import MonsterMesh.Engine.State
import MonsterMesh.Lib.Text

/-! The trainers a gym can serve: eight Kanto gyms of five, the elite pool, the default moves. -/
namespace MonsterMesh

structure GymPresetMon where
  (dex level : UInt8)
  moves : Fin 4 → UInt8

structure GymPresetTrainer where
  name : String
  party : List GymPresetMon

/-- Four grunts, and the leader last. -/
structure GymPreset where
  (name leaderName badgeName : String)
  trainers : List GymPresetTrainer

def gauntletGyms : List GymPreset := [
  ⟨"Pewter", "Brock", "Boulder",
    [⟨"Camper Liam", [⟨74, 10, ![33, 111, 0, 0]⟩]⟩,
     ⟨"Lass Crissy", [⟨16, 9, ![16, 98, 0, 0]⟩, ⟨19, 9, ![33, 45, 0, 0]⟩]⟩,
     ⟨"Youngster Ben", [⟨27, 11, ![10, 28, 0, 0]⟩]⟩,
     ⟨"Hiker Marcos", [⟨74, 11, ![88, 33, 0, 0]⟩, ⟨95, 12, ![88, 20, 0, 0]⟩]⟩,
     ⟨"Brock", [⟨74, 12, ![33, 111, 88, 0]⟩, ⟨95, 14, ![33, 20, 88, 43]⟩]⟩]⟩,
  ⟨"Cerulean", "Misty", "Cascade",
    [⟨"Swimmer Luis", [⟨120, 16, ![33, 55, 0, 0]⟩]⟩,
     ⟨"Trainer Diana", [⟨54, 19, ![10, 39, 55, 0]⟩]⟩,
     ⟨"Lass Haley", [⟨118, 17, ![64, 39, 0, 0]⟩, ⟨72, 18, ![40, 51, 0, 0]⟩]⟩,
     ⟨"Swimmer Parker", [⟨86, 20, ![44, 45, 62, 0]⟩]⟩,
     ⟨"Misty", [⟨120, 18, ![33, 55, 0, 0]⟩, ⟨121, 21, ![33, 55, 61, 50]⟩]⟩]⟩,
  ⟨"Vermilion", "Lt. Surge", "Thunder",
    [⟨"Gentleman Tucker", [⟨25, 20, ![84, 28, 98, 0]⟩]⟩,
     ⟨"Rocker Luca", [⟨100, 21, ![33, 103, 84, 0]⟩]⟩,
     ⟨"Sailor Dwayne", [⟨81, 20, ![33, 48, 84, 0]⟩, ⟨82, 22, ![33, 84, 49, 0]⟩]⟩,
     ⟨"Engineer Baily", [⟨100, 23, ![33, 84, 103, 0]⟩, ⟨125, 23, ![98, 85, 50, 0]⟩]⟩,
     ⟨"Lt. Surge", [⟨100, 21, ![84, 103, 153, 0]⟩, ⟨26, 24, ![85, 28, 86, 98]⟩,
        ⟨25, 21, ![98, 84, 45, 0]⟩]⟩]⟩,
  ⟨"Celadon", "Erika", "Rainbow",
    [⟨"Lass Michelle", [⟨43, 24, ![71, 78, 51, 0]⟩]⟩,
     ⟨"Beauty Lola", [⟨69, 24, ![22, 74, 0, 0]⟩]⟩,
     ⟨"Picnicker Tanya", [⟨102, 26, ![79, 77, 71, 0]⟩, ⟨44, 25, ![78, 51, 0, 0]⟩]⟩,
     ⟨"Trainer Miranda", [⟨70, 26, ![22, 77, 79, 0]⟩]⟩,
     ⟨"Erika", [⟨114, 29, ![22, 20, 75, 0]⟩, ⟨71, 29, ![77, 79, 22, 72]⟩,
        ⟨45, 29, ![78, 79, 80, 72]⟩]⟩]⟩,
  ⟨"Fuchsia", "Koga", "Soul",
    [⟨"Juggler Nate", [⟨41, 31, ![44, 103, 109, 0]⟩, ⟨41, 31, ![44, 48, 0, 0]⟩]⟩,
     ⟨"Tamer Edgar", [⟨48, 32, ![48, 50, 93, 0]⟩]⟩,
     ⟨"Juggler Kirk", [⟨88, 33, ![106, 51, 124, 0]⟩, ⟨89, 33, ![124, 106, 34, 0]⟩]⟩,
     ⟨"Ninja Shin", [⟨42, 34, ![44, 48, 100, 0]⟩]⟩,
     ⟨"Koga", [⟨109, 37, ![123, 108, 0, 0]⟩, ⟨89, 39, ![139, 51, 34, 106]⟩,
        ⟨109, 37, ![139, 123, 108, 0]⟩, ⟨110, 43, ![124, 123, 139, 108]⟩]⟩]⟩,
  ⟨"Saffron", "Sabrina", "Marsh",
    [⟨"Medium Martha", [⟨96, 34, ![95, 50, 93, 0]⟩, ⟨97, 34, ![95, 50, 93, 0]⟩]⟩,
     ⟨"Channeler Abigail", [⟨64, 38, ![93, 50, 105, 0]⟩]⟩,
     ⟨"Medium Grace", [⟨122, 39, ![50, 93, 113, 115]⟩]⟩,
     ⟨"Psychic Rodney", [⟨96, 36, ![95, 93, 138, 0]⟩, ⟨96, 36, ![95, 93, 138, 0]⟩]⟩,
     ⟨"Sabrina", [⟨64, 38, ![93, 50, 115, 105]⟩, ⟨122, 37, ![93, 113, 115, 0]⟩,
        ⟨49, 38, ![48, 78, 60, 0]⟩, ⟨65, 43, ![94, 105, 115, 93]⟩]⟩]⟩,
  ⟨"Cinnabar", "Blaine", "Volcano",
    [⟨"Burglar Derek", [⟨77, 34, ![52, 45, 39, 0]⟩, ⟨126, 38, ![108, 52, 98, 0]⟩]⟩,
     ⟨"Super Nerd Sam", [⟨58, 40, ![52, 43, 36, 0]⟩]⟩,
     ⟨"Burglar Ramon", [⟨78, 41, ![52, 39, 23, 83]⟩]⟩,
     ⟨"Super Nerd Zac", [⟨37, 42, ![52, 45, 98, 46]⟩, ⟨38, 42, ![52, 46, 98, 53]⟩]⟩,
     ⟨"Blaine", [⟨58, 42, ![52, 43, 36, 46]⟩, ⟨126, 40, ![52, 83, 109, 34]⟩,
        ⟨78, 42, ![52, 23, 83, 36]⟩, ⟨59, 47, ![52, 46, 36, 53]⟩]⟩]⟩,
  ⟨"Viridian", "Giovanni", "Earth",
    [⟨"Tough Guy Nick", [⟨24, 37, ![40, 43, 35, 0]⟩]⟩,
     ⟨"Cooltrainer Leo", [⟨111, 42, ![88, 43, 34, 0]⟩]⟩,
     ⟨"Tough Guy Shane", [⟨50, 41, ![10, 28, 91, 0]⟩, ⟨51, 42, ![10, 28, 91, 89]⟩]⟩,
     ⟨"Cooltrainer Gwen", [⟨34, 45, ![40, 30, 31, 0]⟩]⟩,
     ⟨"Giovanni", [⟨111, 45, ![88, 34, 31, 43]⟩, ⟨51, 42, ![28, 91, 89, 163]⟩,
        ⟨31, 44, ![40, 89, 34, 43]⟩, ⟨112, 50, ![89, 23, 43, 88]⟩,
        ⟨34, 45, ![40, 31, 89, 30]⟩]⟩]⟩]

def gauntletGymCount : UInt8 := 8

def gauntletGymLeaderIdx : Fin 5 := 4

def gauntletGymPreset (idx : UInt8) : Option GymPreset := gauntletGyms[idx.toNat]?

/-- A trainer of the elite pool: pairs of dex number and level, and the level of the strongest. -/
structure ElitePoolEntry where
  name : String
  party : List (UInt8 × UInt8)
  bossLevel : UInt8

def elitePool : List ElitePoolEntry := [
  ⟨"Lorelei", [(87, 52), (91, 53), (80, 54), (124, 56), (91, 54), (131, 56)], 56⟩,
  ⟨"Bruno", [(95, 53), (107, 55), (106, 55), (95, 56), (68, 58)], 58⟩,
  ⟨"Agatha", [(94, 56), (42, 56), (93, 55), (24, 56), (94, 60)], 60⟩,
  ⟨"Lance", [(130, 58), (148, 56), (142, 60), (149, 56), (149, 60), (6, 60)], 60⟩,
  ⟨"Gary", [(18, 61), (65, 59), (112, 61), (103, 61), (59, 63), (6, 65)], 65⟩]

/-- `DEFAULT_MOVES`, by primary type. -/
def defaultMoves : List (Fin 4 → UInt8) := [
  ![33, 34, 98, 63], ![2, 67, 66, 69], ![17, 64, 65, 19], ![40, 124, 123, 51],
  ![89, 91, 28, 31], ![88, 157, 89, 33], ![17, 64, 65, 19], ![42, 41, 141, 33],
  ![122, 109, 101, 95], ![52, 53, 126, 7], ![55, 57, 56, 145], ![22, 75, 76, 79],
  ![84, 85, 87, 86], ![93, 94, 95, 60], ![58, 59, 62, 8], ![82, 63, 21, 33]]

/-- `E4_TABLE`: the elite four, six entries each, dex number 0 where there are fewer. -/
def e4Table : List (List (UInt8 × UInt8)) := [
  [(87, 52), (91, 53), (80, 54), (124, 56), (91, 54), (131, 56)],
  [(95, 53), (107, 55), (106, 55), (95, 56), (68, 58), (0, 0)],
  [(94, 56), (42, 56), (93, 55), (24, 56), (94, 60), (0, 0)],
  [(130, 58), (148, 56), (142, 60), (149, 56), (149, 60), (6, 60)]]

end MonsterMesh

/-! The parties a gym builds: from its rosters, from the elite pool, from a line of text. -/
namespace MonsterMesh

open Text

/-- `gen1ComputeStat` -/
def gen1ComputeStat (base level : UInt8) (isHp : Bool) : UInt16 :=
  let v := (base.toNat + 8) * 2 * level.toNat / 100
  UInt16.ofNat (if isHp then v + level.toNat + 10 else v + 5)

def Gen1Party.zero : Gen1Party := ⟨0, fun _ => 0, fun _ => .zero, fun _ _ => 0⟩

/-- A name in a zeroed field of eleven bytes. -/
def nameField (nick : String) (k : Fin 11) : UInt8 := ((cstr nick).take 10).getD k.val 0

def gauntletDefaultPp : UInt8 := 25

/-- What is known of a mon before it is built. -/
structure MonSpec where
  (dex level : UInt8)
  moves : Fin 4 → UInt8
  nick : String

/-- The record `writeMonByDex` builds; 0x88 are the DVs its stats are computed with. -/
def MonSpec.mon (m : MonSpec) : Gen1Pokemon :=
  { Gen1Pokemon.zero with
    species := dexToInternal m.dex, boxLevel := m.level, level := m.level
    hp := gen1ComputeStat (gen1BaseStats m.dex).hp m.level true
    dvs0 := 0x88, dvs1 := 0x88
    moves := m.moves
    pp := fun s => if m.moves s ≠ 0 then gauntletDefaultPp else 0 }

def writeMonByDex (out : Gen1Party) (slot : ℕ) (m : MonSpec) : Gen1Party :=
  if m.dex = 0 ∨ 151 < m.dex ∨ m.level = 0 then out
  else
    { out with
      species := fun i => if i.val = slot then dexToInternal m.dex else out.species i
      mons := fun i => if i.val = slot then m.mon else out.mons i
      nicknames := fun i => if i.val = slot then nameField m.nick else out.nicknames i }

/-- One round of the building loops: a mon of no species is passed over, and six are enough. -/
def addMon (s : Gen1Party × ℕ) (m : MonSpec) : Gen1Party × ℕ :=
  if 6 ≤ s.2 ∨ m.dex = 0 then s else (writeMonByDex s.1 s.2 m, s.2 + 1)

def fillParty (l : List MonSpec) : Gen1Party :=
  let r := l.foldl addMon (.zero, 0)
  { r.1 with count := UInt8.ofNat r.2 }

def pickDefaultMoves (dex : UInt8) : Fin 4 → UInt8 :=
  if dex = 0 ∨ 151 < dex then defaultMoves.getD 0 fun _ => 0
  else
    let type1 := (gen1BaseStats dex).type1
    defaultMoves.getD (if 16 ≤ type1 then 0 else type1.toNat) fun _ => 0

/-! ### Levels -/

/-- The level of the strongest mon. -/
def bossLevel (party : List GymPresetMon) : UInt8 :=
  party.foldl (fun b m => if b < m.level then m.level else b) 0

/-- A level moved by as much as the boss is, within 1 and 100; 0 leaves it. -/
def scaledLevel (overrideBossLvl canonicalBossLvl level : UInt8) : UInt8 :=
  if 0 < overrideBossLvl then
    let lvl : ℤ := overrideBossLvl.toNat + (level.toNat - canonicalBossLvl.toNat : ℤ)
    UInt8.ofNat (if lvl < 1 then 1 else if 100 < lvl then 100 else lvl.toNat)
  else level

def GymPresetMon.presetMoves (m : GymPresetMon) : Fin 4 → UInt8 :=
  if m.moves 0 ≠ 0 ∨ m.moves 1 ≠ 0 ∨ m.moves 2 ≠ 0 ∨ m.moves 3 ≠ 0 then m.moves
  else pickDefaultMoves m.dex

/-! ### The three builders -/

def gauntletBuildPresetTrainerParty (gymIdx trainerIdx overrideBossLvl : UInt8) : Gen1Party :=
  match (gauntletGymPreset gymIdx).bind (·.trainers[trainerIdx.toNat]?) with
  | none => .zero
  | some tr =>
    let canonicalBossLvl := if bossLevel tr.party = 0 then 1 else bossLevel tr.party
    fillParty (tr.party.map fun m =>
      ⟨m.dex, scaledLevel overrideBossLvl canonicalBossLvl m.level, m.presetMoves, "FOE"⟩)

def gauntletBuildE4Party (slot : ℕ) : Gen1Party :=
  match e4Table[slot]? with
  | none => .zero
  | some party => fillParty (party.map fun m => ⟨m.1, m.2, pickDefaultMoves m.1, "FOE"⟩)

/-- The first dex number whose name starts with the text, or 0. -/
def lookupDexByName (name : Str) : UInt8 :=
  let want := (name.take 11).map toUpper
  if want = [] then 0
  else
    match ((List.range 151).map (· + 1)).find? fun dex =>
      want.isPrefixOf (cstr (gen1SpeciesName (dexToInternal (UInt8.ofNat dex)))) with
    | some dex => UInt8.ofNat dex
    | none => 0

def clampLevel (lv : ℤ) : UInt8 := UInt8.ofNat (if lv < 1 then 1 else if 100 < lv then 100 else lv.toNat)

/-- One word of a party line, `name`, `name:level` or `dex:level`. -/
def parseMon (word : Str) : MonSpec :=
  let token := ((skipBlanks word).reverse.dropWhile fun c =>
    c = 32 || c = 13 || c = 10 || c = 9).reverse
  let name := token.takeWhile (· ≠ 58)
  let level : UInt8 :=
    match token.dropWhile (· ≠ 58) with
    | [] => 50
    | _ :: rest => clampLevel (atoi rest)
  let n := atoi name
  let dex : UInt8 := if name.all isDigit ∧ name ≠ [] ∧ 1 ≤ n ∧ n ≤ 151 then UInt8.ofNat n.toNat else 0
  let dex := if token = [] then 0 else if dex ≠ 0 then dex else lookupDexByName name
  ⟨dex, level, pickDefaultMoves dex, gen1SpeciesName (dexToInternal dex)⟩

def partyDelim (c : UInt8) : Bool := c = 44 || c = 59 || c = 47

def gauntletParseParty (csv : Str) : Gen1Party :=
  fillParty ((words partyDelim (csv.take 139)).map parseMon)

/-- The names of a party, in a field of `maxLen` bytes. -/
def gauntletFormatParty (party : Gen1Party) (maxLen : ℕ) : CStr :=
  ((List.finRange 7).filter (·.val < party.count.toNat)).foldl (fun out i =>
    if maxLen ≤ out.length + 2 then out
    else
      let out := if out = [] then out else out ++ [44]
      out ++ (cstr (gen1SpeciesName (party.species i))).take (maxLen - out.length - 1)) []

/-! ### The auto-fill slots -/

/-- The elite party as a line of text, `dex:level` a mon. -/
def eliteCsv (e : ElitePoolEntry) (scaleToBoss : UInt8) : Str :=
  e.party.foldl (fun csv m =>
    if 108 ≤ csv.length then csv
    else
      csv ++ (if csv = [] then [] else [44]) ++ decimal m.1.toNat ++ 58 ::
        decimal (scaledLevel scaleToBoss e.bossLevel m.2).toNat) []

structure AutoTrainer where
  name : String
  bossLevel : UInt8
  party : Gen1Party

/-- The trainer of a pair of source and index, or nothing for a pair that names none. -/
def autoLookupTrainer (source trainer scaleToBoss : UInt8) : Option AutoTrainer :=
  if source < gauntletGymCount then
    ((gauntletGymPreset source).bind (·.trainers[trainer.toNat]?)).map fun tr =>
      ⟨tr.name, bossLevel tr.party, gauntletBuildPresetTrainerParty source trainer scaleToBoss⟩
  else if source = 8 then
    elitePool[trainer.toNat]?.map fun e =>
      ⟨e.name, e.bossLevel, gauntletParseParty (eliteCsv e scaleToBoss)⟩
  else none

/-! ### What a built party holds -/

/-- Species, level and moves of a mon. -/
def Gen1Pokemon.entry (m : Gen1Pokemon) : UInt8 × UInt8 × (Fin 4 → UInt8) :=
  (m.species, m.level, m.moves)

/-- The mons of a party. -/
def Gen1Party.lineup (p : Gen1Party) : List (UInt8 × UInt8 × (Fin 4 → UInt8)) :=
  List.ofFn fun i : Fin (min p.count.toNat 6) => (p.mons (i.castLE (Nat.min_le_right ..))).entry

def MonSpec.entry (m : MonSpec) : UInt8 × UInt8 × (Fin 4 → UInt8) :=
  (dexToInternal m.dex, m.level, m.moves)

/-- A spec that `writeMonByDex` takes. -/
def MonSpec.Proper (m : MonSpec) : Prop := m.dex ≠ 0 ∧ m.dex ≤ 151 ∧ m.level ≠ 0

/-- The building loop after it has taken `l`. -/
structure Filled (s : Gen1Party × ℕ) (l : List MonSpec) : Prop where
  count : s.2 = l.length
  mons : ∀ (i : Fin 6) (m : MonSpec), l[i.val]? = some m → s.1.mons i = m.mon

theorem writeMonByDex_mons {m : MonSpec} (h : m.Proper) (out : Gen1Party) (slot : ℕ) (i : Fin 6) :
    (writeMonByDex out slot m).mons i = if i.val = slot then m.mon else out.mons i := by
  obtain ⟨h₁, h₂, h₃⟩ := h
  unfold writeMonByDex
  rw [if_neg]
  rintro (h | h | h)
  · exact h₁ h
  · exact absurd h₂ (UInt8.not_le.mpr h)
  · exact h₃ h

theorem filled_add {s : Gen1Party × ℕ} {l : List MonSpec} {m : MonSpec} (hs : Filled s l)
    (hm : m.Proper) (hl : l.length < 6) : Filled (addMon s m) (l ++ [m]) := by
  have hstep : addMon s m = (writeMonByDex s.1 s.2 m, s.2 + 1) := by
    refine if_neg ?_
    rintro (h | h)
    · rw [hs.count] at h
      omega
    · exact hm.1 h
  rw [hstep]
  refine ⟨?_, fun i x hx => ?_⟩
  · rw [hs.count, List.length_append, List.length_singleton]
  · rw [writeMonByDex_mons hm, hs.count]
    by_cases hi : i.val = l.length
    · rw [if_pos hi]
      rw [hi, List.getElem?_concat_length] at hx
      rw [Option.some.inj hx]
    · rw [if_neg hi]
      refine hs.mons i x ?_
      rwa [List.getElem?_append_left] at hx
      have hlt := (List.getElem?_eq_some_iff.mp hx).1
      rw [List.length_append, List.length_singleton] at hlt
      omega

theorem filled_fold {l : List MonSpec} {s : Gen1Party × ℕ} {k : List MonSpec} (hs : Filled s k)
    (hl : ∀ m ∈ l, m.Proper) (hk : k.length + l.length ≤ 6) :
    Filled (l.foldl addMon s) (k ++ l) := by
  induction l generalizing s k with
  | nil => simpa using hs
  | cons m l ih =>
    have hlen : k.length + l.length + 1 ≤ 6 := hk
    have hnext := filled_add hs (hl m (List.mem_cons_self ..)) (by omega)
    have hrest := ih hnext (fun x hx => hl x (List.mem_cons_of_mem m hx)) (by simp; omega)
    rwa [List.append_assoc, List.singleton_append] at hrest

/-- Up to six proper specs make a party of just these mons. -/
theorem fillParty_lineup {l : List MonSpec} (hl : ∀ m ∈ l, m.Proper) (hk : l.length ≤ 6) :
    (fillParty l).lineup = l.map MonSpec.entry := by
  have hf : Filled (l.foldl addMon (.zero, 0)) ([] ++ l) :=
    filled_fold ⟨rfl, nofun⟩ hl (by simpa using hk)
  rw [List.nil_append] at hf
  have hcount : (fillParty l).count.toNat = l.length := by
    unfold fillParty
    dsimp only
    rw [hf.count, UInt8.toNat_ofNat']
    omega
  have hmon (i : Fin 6) (hi : i.val < l.length) : (fillParty l).mons i = (l[i.val]).mon :=
    hf.mons i _ (List.getElem?_eq_getElem hi)
  have hlen : (fillParty l).lineup.length = l.length := by
    rw [Gen1Party.lineup, List.length_ofFn, hcount]
    omega
  refine List.ext_getElem (by rw [hlen, List.length_map]) fun j hj _ => ?_
  rw [hlen] at hj
  have hj := hmon ⟨j, by omega⟩ hj
  simp only [Gen1Party.lineup, List.getElem_ofFn, List.getElem_map]
  exact congrArg Gen1Pokemon.entry hj

/-! ### The elite line, read back -/

variable {dex level scale : UInt8}

/-- The word of a mon in the elite line. -/
def monWord (dex level : UInt8) : Str := decimal dex.toNat ++ 58 :: decimal level.toNat

theorem mem_monWord {c : UInt8} (h : c ∈ monWord dex level) : isDigit c = true ∨ c = 58 := by
  rcases List.mem_append.mp h with h | h
  · exact .inl (isDigit_of_decimal h)
  · rcases List.mem_cons.mp h with h | h
    · exact .inr h
    · exact .inl (isDigit_of_decimal h)

variable (dex level) in
theorem monWord_length : (monWord dex level).length ≤ 7 := by
  have hdex := decimal_length (n := dex.toNat) (k := 3) (by omega) (by have := dex.toNat_lt; omega)
  have hlvl := decimal_length (n := level.toNat) (k := 3) (by omega)
    (by have := level.toNat_lt; omega)
  unfold monWord
  rw [List.length_append, List.length_cons]
  omega

theorem monWord_ne_nil : monWord dex level ≠ [] := by
  unfold monWord
  exact List.append_ne_nil_of_right_ne_nil _ (List.cons_ne_nil _ _)

theorem partyDelim_monWord {c : UInt8} (h : c ∈ monWord dex level) : partyDelim c = false := by
  unfold partyDelim
  rcases mem_monWord h with h | rfl
  · have hc := isDigit_iff.mp h
    have hne (x : UInt8) (hx : x.toNat < 48) : c ≠ x := by
      rintro rfl
      omega
    simp [hne 44 (by decide), hne 47 (by decide)]
    rintro rfl
    exact absurd hc.2 (by decide)
  · rfl

/-- A word of a species and a level is read as just these. -/
theorem parseMon_monWord (hdex : 1 ≤ dex.toNat ∧ dex.toNat ≤ 151)
    (hlvl : 1 ≤ level.toNat ∧ level.toNat ≤ 100) :
    parseMon (monWord dex level) =
      ⟨dex, level, pickDefaultMoves dex, gen1SpeciesName (dexToInternal dex)⟩ := by
  have hplain (p : UInt8 → Bool) (hd : ∀ c, isDigit c = true → p c = false) (h₅₈ : p 58 = false) :
      ∀ c ∈ monWord dex level, p c = false := by
    intro c hc
    rcases mem_monWord hc with h | rfl
    · exact hd c h
    · exact h₅₈
  have hdigit {c x : UInt8} (hc : isDigit c = true) (hx : x.toNat < 48 ∨ 57 < x.toNat) : c ≠ x := by
    rintro rfl
    have hc := isDigit_iff.mp hc
    omega
  have hblank : skipBlanks (monWord dex level) = monWord dex level := by
    refine dropWhile_of_none (hplain isBlank (fun c h => ?_) rfl)
    unfold isBlank
    simp [hdigit h (x := 32) (by decide), hdigit h (x := 9) (by decide)]
  have htrim : ((monWord dex level).reverse.dropWhile fun c =>
      c = 32 || c = 13 || c = 10 || c = 9).reverse = monWord dex level := by
    rw [dropWhile_of_none, List.reverse_reverse]
    intro c hc
    refine hplain (fun c => c = 32 || c = 13 || c = 10 || c = 9) (fun c h => ?_) rfl c
      (List.mem_reverse.mp hc)
    simp [hdigit h (x := 32) (by decide), hdigit h (x := 13) (by decide),
      hdigit h (x := 10) (by decide), hdigit h (x := 9) (by decide)]
  obtain ⟨hname, hrest⟩ := takeWhile_word (s := decimal dex.toNat) (r := decimal level.toNat)
    (p := (· ≠ 58)) (d := 58) (fun c hc => decide_eq_true (hdigit (isDigit_of_decimal hc) (by decide)))
    rfl
  have hdexNum : atoi (decimal dex.toNat) = dex.toNat := by
    simpa using atoi_decimal (n := dex.toNat) (r := []) nofun
  have hlvlNum : atoi (decimal level.toNat) = level.toNat := by
    simpa using atoi_decimal (n := level.toNat) (r := []) nofun
  have hall : (decimal dex.toNat).all isDigit = true :=
    List.all_eq_true.mpr fun c hc => isDigit_of_decimal hc
  have hdexNe : dex ≠ 0 := by
    rintro rfl
    exact absurd hdex.1 (by decide)
  have hclamp : clampLevel (level.toNat : ℤ) = level := by
    unfold clampLevel
    rw [if_neg (by omega), if_neg (by omega), Int.toNat_natCast, UInt8.ofNat_toNat]
  have hread : (if (decimal dex.toNat).all isDigit = true ∧ decimal dex.toNat ≠ [] ∧
      (1 : ℤ) ≤ dex.toNat ∧ (dex.toNat : ℤ) ≤ 151 then UInt8.ofNat (dex.toNat : ℤ).toNat else 0) =
        dex := by
    rw [if_pos ⟨hall, decimal_ne_nil, by omega, by omega⟩, Int.toNat_natCast, UInt8.ofNat_toNat]
  unfold parseMon
  rw [hblank]
  dsimp only
  rw [htrim, if_neg monWord_ne_nil]
  unfold monWord
  rw [hname, hrest]
  dsimp only
  rw [hdexNum, hlvlNum, hclamp, hread, if_pos hdexNe]

variable (scale) in
/-- The elite line is the words of its mons, joined by commas. -/
theorem eliteCsv_eq {e : ElitePoolEntry} {m : UInt8 × UInt8} {l : List (UInt8 × UInt8)}
    (he : e.party = m :: l) (hl : l.length ≤ 5) :
    eliteCsv e scale = monWord m.1 (scaledLevel scale e.bossLevel m.2) ++
      (l.map fun x => monWord x.1 (scaledLevel scale e.bossLevel x.2)).flatMap (44 :: ·) := by
  have hfold (l : List (UInt8 × UInt8)) (csv : Str) (hne : csv ≠ [])
      (hlen : csv.length + 8 * l.length ≤ 108) :
      l.foldl (fun csv m =>
        if 108 ≤ csv.length then csv
        else
          csv ++ (if csv = [] then [] else [44]) ++ decimal m.1.toNat ++ 58 ::
            decimal (scaledLevel scale e.bossLevel m.2).toNat) csv =
        csv ++ (l.map fun x => monWord x.1 (scaledLevel scale e.bossLevel x.2)).flatMap (44 :: ·) := by
    induction l generalizing csv with
    | nil => simp
    | cons x l ih =>
      rw [List.length_cons] at hlen
      have hword := monWord_length x.1 (scaledLevel scale e.bossLevel x.2)
      have hnext : csv ++ [44] ++ decimal x.1.toNat ++ 58 ::
          decimal (scaledLevel scale e.bossLevel x.2).toNat =
            csv ++ 44 :: monWord x.1 (scaledLevel scale e.bossLevel x.2) := by
        simp [monWord]
      rw [List.foldl_cons, if_neg (by omega), if_neg hne, hnext, ih]
      · simp
      · exact List.append_ne_nil_of_left_ne_nil hne _
      · rw [List.length_append, List.length_cons]
        omega
  unfold eliteCsv
  rw [he, List.foldl_cons, if_neg (by simp), if_pos rfl, List.append_nil, List.nil_append]
  refine hfold l _ monWord_ne_nil ?_
  have hword := monWord_length m.1 (scaledLevel scale e.bossLevel m.2)
  unfold monWord at hword
  omega

variable (scale) in
theorem scaledLevel_range (canon : UInt8) (h : 1 ≤ level.toNat ∧ level.toNat ≤ 100) :
    1 ≤ (scaledLevel scale canon level).toNat ∧ (scaledLevel scale canon level).toNat ≤ 100 := by
  unfold scaledLevel
  dsimp only
  split_ifs with h₀ h₁ h₂
  · decide
  · decide
  · rw [UInt8.toNat_ofNat']
    omega
  · exact h

/-- A roster entry that names a mon and a level. -/
def Known (m : UInt8 × UInt8) : Prop := 1 ≤ m.1.toNat ∧ m.1.toNat ≤ 151 ∧ 1 ≤ m.2.toNat ∧ m.2.toNat ≤ 100

instance (m : UInt8 × UInt8) : Decidable (Known m) := inferInstanceAs (Decidable (_ ∧ _))

/-- The elite party that is built from its line is the one the pool lists. -/
theorem parse_eliteCsv {e : ElitePoolEntry} (hne : e.party ≠ []) (hlen : e.party.length ≤ 6)
    (hknown : ∀ m ∈ e.party, Known m) :
    (gauntletParseParty (eliteCsv e scale)).lineup = e.party.map fun m =>
      (dexToInternal m.1, scaledLevel scale e.bossLevel m.2, pickDefaultMoves m.1) := by
  obtain ⟨m, l, he⟩ := List.exists_cons_of_ne_nil hne
  rw [he, List.length_cons] at hlen
  rw [he] at hknown
  have hcsv := eliteCsv_eq scale he (by omega)
  have hrest (l : List (UInt8 × UInt8)) : ((l.map fun x =>
      monWord x.1 (scaledLevel scale e.bossLevel x.2)).flatMap (44 :: ·)).length ≤ 8 * l.length := by
    induction l with
    | nil => exact Nat.zero_le _
    | cons x l ih =>
      have hword := monWord_length x.1 (scaledLevel scale e.bossLevel x.2)
      rw [List.map_cons, List.flatMap_cons, List.length_append, List.length_cons, List.length_cons]
      omega
  have hshort : (eliteCsv e scale).length ≤ 139 := by
    have hword := monWord_length m.1 (scaledLevel scale e.bossLevel m.2)
    have hrest := hrest l
    rw [hcsv, List.length_append]
    omega
  have hwords : words partyDelim (eliteCsv e scale) =
      (m :: l).map fun x => monWord x.1 (scaledLevel scale e.bossLevel x.2) := by
    rw [hcsv, words_joined rfl monWord_ne_nil fun c hc => partyDelim_monWord hc]
    · rfl
    · intro w hw
      obtain ⟨x, _, rfl⟩ := List.mem_map.mp hw
      exact ⟨monWord_ne_nil, fun c hc => partyDelim_monWord hc⟩
  unfold gauntletParseParty
  rw [List.take_of_length_le hshort, hwords, List.map_map, fillParty_lineup, List.map_map, he]
  · refine List.map_congr_left fun x hx => ?_
    obtain ⟨h₁, h₂, h₃⟩ := hknown x hx
    have hparse := parseMon_monWord ⟨h₁, h₂⟩ (scaledLevel_range scale e.bossLevel h₃)
    simp only [Function.comp_apply, hparse, MonSpec.entry]
  · intro y hy
    obtain ⟨x, hx, rfl⟩ := List.mem_map.mp hy
    obtain ⟨h₁, h₂, h₃⟩ := hknown x hx
    have hlvl := scaledLevel_range scale e.bossLevel h₃
    rw [Function.comp_apply, parseMon_monWord ⟨h₁, h₂⟩ hlvl]
    refine ⟨fun h => ?_, UInt8.le_iff_toNat_le.mpr h₂, fun h => ?_⟩
    · rw [show x.1 = 0 from h] at h₁
      exact absurd h₁ (by decide)
    · rw [show scaledLevel scale e.bossLevel x.2 = 0 from h] at hlvl
      exact absurd hlvl.1 (by decide)
  · simpa using hlen

end MonsterMesh
