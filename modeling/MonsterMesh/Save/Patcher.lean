import MonsterMesh.Data.Growth
import MonsterMesh.Data.Species
import MonsterMesh.Lib.Climb
import MonsterMesh.Lib.Image

/-! The patcher of the Game Boy save: experience, levels, stats and moves of the party, and the
checksum. A save is its 32 KB image; every address used below is inside it. -/
namespace MonsterMesh

namespace DaycareSavPatcher

/-! ### Layout -/

def savPartyCount : ℕ := 0x2F2C
def savSpeciesList : ℕ := 0x2F2D
def savPokemonData : ℕ := 0x2F34
def savOtNames : ℕ := 0x303C
def savNicknames : ℕ := 0x307E
def savChecksumOffset : ℕ := 0x3523
def savChecksumStart : ℕ := 0x2598
def savChecksumEnd : ℕ := 0x3522
def savPokemonSize : ℕ := 44
def savNameSize : ℕ := 11

def pkmSpecies : ℕ := 0x00
def pkmCurrentHp : ℕ := 0x01
def pkmLevelPc : ℕ := 0x03
def pkmStatus : ℕ := 0x04
def pkmMoves : ℕ := 0x08
def pkmExp : ℕ := 0x0E
def pkmHpEv : ℕ := 0x11
def pkmAtkEv : ℕ := 0x13
def pkmDefEv : ℕ := 0x15
def pkmSpdEv : ℕ := 0x17
def pkmSpcEv : ℕ := 0x19
def pkmDvs : ℕ := 0x1B
def pkmPp : ℕ := 0x1D
def pkmLevelParty : ℕ := 0x21
def pkmMaxHp : ℕ := 0x22
def pkmAttack : ℕ := 0x24
def pkmDefense : ℕ := 0x26
def pkmSpeed : ℕ := 0x28
def pkmSpecial : ℕ := 0x2A

/-- The record of party slot `i`. -/
def pkm (i : ℕ) : ℕ := savPokemonData + i * savPokemonSize

/-! ### Experience -/

/-- Whether a Pokedex number names a species. -/
def IsSpecies (dex : UInt8) : Prop := ¬ (dex = 0 ∨ 151 < dex)

instance (dex : UInt8) : Decidable (IsSpecies dex) := inferInstanceAs (Decidable (¬ _))

/-- The total experience of a level on the species' growth curve. -/
def expForLevel (dex : UInt8) (level : ℕ) : ℕ :=
  if ¬ IsSpecies dex ∨ level ≤ 1 then 0
  else
    let n3 := level * level * level
    match speciesGrowthRate dex with
    | .fast => 4 * n3 / 5
    | .mediumFast => n3
    | .mediumSlow =>
      ((6 * n3 / 5 : ℕ) - (15 * level * level : ℕ) + (100 * level : ℕ) - 140 : ℤ).toNat
    | .slow => 5 * n3 / 4

/-- The level a total experience corresponds to: the scan from level 2 stops at the first level
that needs more. -/
def levelForExp (dex : UInt8) (totalExp : ℕ) : ℕ :=
  if IsSpecies dex then climb (expForLevel dex) totalExp 99 1 else 1

/-! ### Stats -/

/-- The loop of `isqrt16`; `x` falls in every round, so `x` rounds are enough. -/
def isqrtLoop (n : ℕ) : ℕ → ℕ → ℕ → ℕ
  | 0, x, _ => x
  | fuel + 1, x, y => if y < x then isqrtLoop n fuel y ((y + n / y) / 2) else x

def isqrt16 (n : ℕ) : ℕ := if n = 0 then 0 else isqrtLoop n n n ((n + 1) / 2)

/-- A quarter of the square root of the stat experience, rounded up. -/
def evBonus (statExp : ℕ) : ℕ :=
  let sqrtExp := isqrt16 statExp
  (if sqrtExp * sqrtExp < statExp then sqrtExp + 1 else sqrtExp) / 4

def calcStatHP (base : UInt8) (dv statExp level : ℕ) : ℕ :=
  ((base.toNat + dv) * 2 + evBonus statExp) * level / 100 + level + 10

def calcStat (base : UInt8) (dv statExp level : ℕ) : ℕ :=
  ((base.toNat + dv) * 2 + evBonus statExp) * level / 100 + 5

/-- The four stored DVs and the HP DV made of their low bits. -/
structure Dvs where
  (hp atk def' spd spc : ℕ)

def dvs (s : Image) (p : ℕ) : Dvs :=
  let atk := (s (p + pkmDvs)).toNat / 16
  let def' := (s (p + pkmDvs)).toNat % 16
  let spd := (s (p + pkmDvs + 1)).toNat / 16
  let spc := (s (p + pkmDvs + 1)).toNat % 16
  { hp := atk % 2 * 8 + def' % 2 * 4 + spd % 2 * 2 + spc % 2, atk, def', spd, spc }

/-- The five stats of a record for a species and a level. No value passes 16 bits up to level 100,
the highest the patcher asks for. -/
structure Stats where
  (maxHp attack defense speed special : ℕ)
deriving DecidableEq

def statsFor (s : Image) (p : ℕ) (dex : UInt8) (level : ℕ) : Stats :=
  let base := speciesBaseStats dex
  let dv := dvs s p
  { maxHp := calcStatHP base.hp dv.hp (s.read16 (p + pkmHpEv)) level
    attack := calcStat base.atk dv.atk (s.read16 (p + pkmAtkEv)) level
    defense := calcStat base.def' dv.def' (s.read16 (p + pkmDefEv)) level
    speed := calcStat base.spd dv.spd (s.read16 (p + pkmSpdEv)) level
    special := calcStat base.spc dv.spc (s.read16 (p + pkmSpcEv)) level }

/-- The current HP in proportion to the new maximum; the product is cut to 16 bits. -/
def scaledHp (oldCurHp oldMaxHp maxHp : ℕ) : ℕ :=
  if 0 < oldMaxHp ∧ 0 < oldCurHp then
    let hp := oldCurHp * maxHp / oldMaxHp % 65536
    let hp := if hp = 0 then 1 else hp
    if maxHp < hp then maxHp else hp
  else maxHp

/-- The stats of a record written back, the maximum HP last among the HP fields. -/
def writeStats (s : Image) (p curHp : ℕ) (st : Stats) : Image :=
  (((((s.write16 (p + pkmCurrentHp) curHp).write16 (p + pkmMaxHp) st.maxHp).write16
    (p + pkmAttack) st.attack).write16 (p + pkmDefense) st.defense).write16
    (p + pkmSpeed) st.speed).write16 (p + pkmSpecial) st.special

def recalcStats (s : Image) (p : ℕ) (dex : UInt8) (level : ℕ) : Image :=
  if IsSpecies dex then
    let st := statsFor s p dex level
    writeStats s p
      (scaledHp (s.read16 (p + pkmCurrentHp)) (s.read16 (p + pkmMaxHp)) st.maxHp) st
  else s

/-! ### Patching a slot -/

/-- The experience after a credit: a 32-bit sum, capped at the species' level 100. -/
def creditedExp (dex : UInt8) (exp : ℕ) (xpGained : UInt32) : ℕ :=
  min ((exp + xpGained.toNat) % 4294967296) (expForLevel dex 100)

def patchPokemon (s : Image) (i : ℕ) (dex : UInt8) (xpGained : UInt32) : Image :=
  if 6 ≤ i ∨ ¬ IsSpecies dex then s
  else
    let p := pkm i
    let newExp := creditedExp dex (s.read24 (p + pkmExp)) xpGained
    let newLevel := min (levelForExp dex newExp) 100
    let s := s.write24 (p + pkmExp) newExp
    let s := s.write (p + pkmLevelPc) [UInt8.ofNat newLevel]
    let s := s.write (p + pkmLevelParty) [UInt8.ofNat newLevel]
    recalcStats s p dex newLevel

/-! ### Learning moves -/

/-- The base PP of a move, in the low six bits. -/
def basePp (moveId : UInt8) : UInt8 :=
  if moveId = 0 then 0
  else
    let pp := ((gen1Move moveId).map (·.pp)).getD 0
    if 63 < pp then 63 else pp

def setMove (s : Image) (i slot : ℕ) (moveId : UInt8) : Image :=
  if 6 ≤ i ∨ 4 ≤ slot then s
  else (s.write (pkm i + pkmMoves + slot) [moveId]).write (pkm i + pkmPp + slot) [basePp moveId]

/-- The image while moves are learned, with the moves that found a slot and those that did not. -/
structure Learning where
  image : Image
  (learned pending : List UInt8)

/-- One move gained: skipped if known, put into the first empty slot, or left pending. -/
def learnMove (i : ℕ) (l : Learning) (mv : UInt8) : Learning :=
  let slots := List.range 4
  if slots.any (fun k => l.image (pkm i + pkmMoves + k) = mv) then l
  else
    match slots.find? (fun k => l.image (pkm i + pkmMoves + k) = 0) with
    | some empty =>
      { l with
        image := setMove l.image i empty mv
        learned := if l.learned.length < 8 then l.learned ++ [mv] else l.learned }
    | none =>
      { l with pending := if l.pending.length < 8 then l.pending ++ [mv] else l.pending }

def learnMoves (s : Image) (i : ℕ) (dex fromLevel toLevel : UInt8) : Learning :=
  if 6 ≤ i ∨ ¬ IsSpecies dex ∨ toLevel ≤ fromLevel then ⟨s, [], []⟩
  else (gen1MovesLearnedBetween dex fromLevel toLevel 16).foldl (learnMove i) ⟨s, [], []⟩

/-- The rank of a move when one has to go; an empty slot always goes first. -/
def moveScore (mv : UInt8) : ℤ :=
  if mv = 0 then -1
  else
    let score := ((gen1Move mv).map (·.power.toNat)).getD 0
    if score = 0 then 35 else score

/-- The first of the four slots with the lowest score. -/
def weakestMoveSlot (s : Image) (i : ℕ) : ℕ :=
  ((List.range 4).foldl (fun (best : ℕ × ℤ) k =>
    let score := moveScore (s (pkm i + pkmMoves + k))
    if score < best.2 then (k, score) else best) (0, 1000)).1

/-! ### The checksum -/

/-- The complement of the sum of the main data. -/
def checksum (s : Image) : UInt8 :=
  ~~~ s.sum savChecksumStart (savChecksumEnd + 1 - savChecksumStart)

def fixChecksum (s : Image) : Image := s.write savChecksumOffset [checksum s]

/-! ### Check-out -/

/-- Patches the slots with experience, then the checksum if there was one. -/
def checkout (s : Image) (dexNums : ℕ → UInt8) (xpGained : ℕ → UInt32) (partyCount : ℕ) :
    Image × Bool :=
  let slots := (List.range (min partyCount 6)).filter (fun i => 0 < xpGained i)
  let s := slots.foldl (fun s i => patchPokemon s i (dexNums i) (xpGained i)) s
  if slots = [] then (s, false) else (fixChecksum s, true)

/-- A save with a party of one and nothing else. -/
def soloSave (species level : UInt8) (exp : ℕ) : Image :=
  (((Image.write (fun _ => 0) savPartyCount [1]).write (pkm 0 + pkmSpecies) [species]).write24
    (pkm 0 + pkmExp) exp).write (pkm 0 + pkmLevelParty) [level]

end DaycareSavPatcher
end MonsterMesh
