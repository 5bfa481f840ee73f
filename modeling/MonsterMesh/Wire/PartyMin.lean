import Mathlib.Data.Fintype.Basic
import Mathlib.Data.List.FinRange
import Mathlib.Tactic.FinCases
import MonsterMesh.Engine.State
import MonsterMesh.Lib.Bytes

/-! The minimal party of the challenge and accept packets: 18 bytes a mon, without names, current
HP, PP or status. -/
namespace MonsterMesh

open Bytes

def tbPartyMinBytes : Nat := 109

/-- The 18 bytes of one mon. -/
def packMonMin (m : Gen1Pokemon) : List UInt8 :=
  [m.species, if m.level ≠ 0 then m.level else m.boxLevel, m.dvs0, m.dvs1] ++
    be16 m.hpExp ++ be16 m.atkExp ++ be16 m.defExp ++ be16 m.spdExp ++ be16 m.spcExp ++
    [m.moves 0, m.moves 1, m.moves 2, m.moves 3]

def packPartyMinTb (src : Gen1Party) : List UInt8 :=
  src.count :: (List.finRange 6).flatMap fun i => packMonMin (src.mons i)

/-- The mon in the 18 bytes from `at'`. PP comes from the table, everything else starts at 0. -/
def unpackMonMin (input : List UInt8) (at' : Nat) : Gen1Pokemon :=
  let p (k : Nat) : UInt8 := input.getD (at' + k) 0
  let moves (k : Fin 4) : UInt8 := p (14 + k.val)
  { Gen1Pokemon.zero with
    species := p 0, level := p 1, boxLevel := p 1, dvs0 := p 2, dvs1 := p 3
    hpExp := ofBe16 (p 4) (p 5), atkExp := ofBe16 (p 6) (p 7), defExp := ofBe16 (p 8) (p 9)
    spdExp := ofBe16 (p 10) (p 11), spcExp := ofBe16 (p 12) (p 13)
    moves := moves
    pp := fun k => ((gen1Move (moves k)).map (·.pp)).getD 0 }

def unpackPartyMinTb (input : List UInt8) : Gen1Party :=
  let count := if 6 < input.getD 0 0 then 6 else input.getD 0 0
  let mons (i : Fin 6) : Gen1Pokemon := unpackMonMin input (1 + i.val * 18)
  { count := count
    species := fun i => if h : i.val < count.toNat ∧ i.val < 6 then (mons ⟨i.val, h.2⟩).species else 0xFF
    mons := mons
    nicknames := fun _ _ => 0 }

@[simp] theorem packMonMin_length (m : Gen1Pokemon) : (packMonMin m).length = 18 := rfl

@[simp] theorem packPartyMinTb_length (p : Gen1Party) :
    (packPartyMinTb p).length = tbPartyMinBytes := rfl

/-- What the wire keeps of a mon. -/
def Gen1Pokemon.min (m : Gen1Pokemon) : Gen1Pokemon :=
  { m with
    hp := 0, status := 0
    level := if m.level ≠ 0 then m.level else m.boxLevel
    boxLevel := if m.level ≠ 0 then m.level else m.boxLevel
    pp := fun k => ((gen1Move (m.moves k)).map (·.pp)).getD 0 }

theorem unpackMonMin_of_bytes {input : List UInt8} {at' : Nat} {m : Gen1Pokemon}
    (h : ∀ k < 18, input.getD (at' + k) 0 = (packMonMin m).getD k 0) :
    unpackMonMin input at' = m.min := by
  have hm : ∀ k : Fin 4, (packMonMin m).getD (14 + k.val) 0 = m.moves k := by
    intro k
    fin_cases k <;> rfl
  have hk : ∀ k : Fin 4, 14 + k.val < 18 := fun k => by omega
  simp only [unpackMonMin, h _ (show 0 < 18 by omega), h _ (show 1 < 18 by omega),
    h _ (show 2 < 18 by omega), h _ (show 3 < 18 by omega), h _ (show 4 < 18 by omega),
    h _ (show 5 < 18 by omega), h _ (show 6 < 18 by omega), h _ (show 7 < 18 by omega),
    h _ (show 8 < 18 by omega), h _ (show 9 < 18 by omega), h _ (show 10 < 18 by omega),
    h _ (show 11 < 18 by omega), h _ (show 12 < 18 by omega), h _ (show 13 < 18 by omega),
    h _ (hk _), hm]
  have h1 := ofBe16_be16 m.hpExp
  have h2 := ofBe16_be16 m.atkExp
  have h3 := ofBe16_be16 m.defExp
  have h4 := ofBe16_be16 m.spdExp
  have h5 := ofBe16_be16 m.spcExp
  simp only [packMonMin, be16, List.cons_append, List.nil_append, List.getD_cons_zero,
    List.getD_cons_succ, h1, h2, h3, h4, h5]
  rfl

theorem unpack_pack_mon (p : Gen1Party) (i : Fin 6) :
    (unpackPartyMinTb (packPartyMinTb p)).mons i = (p.mons i).min := by
  apply unpackMonMin_of_bytes
  intro k hk
  have hb := getD_flatMap_block (fun i => packMonMin_length (p.mons i)) 0 hk (List.finRange 6)
    (i := i.val) (by simp)
  rw [List.getElem_finRange] at hb
  have hi : (packMonMin (p.mons i)).getD k 0 =
      ((List.finRange 6).flatMap fun i => packMonMin (p.mons i)).getD (i.val * 18 + k) 0 := hb.symm
  rw [hi, packPartyMinTb, show 1 + i.val * 18 + k = (i.val * 18 + k) + 1 by omega,
    List.getD_cons_succ]

theorem unpack_pack_size (p : Gen1Party) : (unpackPartyMinTb (packPartyMinTb p)).size = p.size := by
  have h : (packPartyMinTb p).getD 0 0 = p.count := rfl
  simp only [Gen1Party.size, unpackPartyMinTb, h, Fin.mk.injEq]
  split_ifs with hc
  · have := UInt8.lt_iff_toNat_lt.mp hc
    simp at this ⊢
    omega
  · rfl

/-! ### The sides both parties start with -/

/-- The mon without its name. -/
def BattlePoke.unnamed (m : BattlePoke) : BattlePoke := { m with nickname := [] }

def BattleParty.unnamed (p : BattleParty) : BattleParty :=
  { p with mons := fun i => (p.mons i).unnamed }

/-- Once healed, a mon depends on its save record only through what the wire keeps. -/
theorem heal_init_min (m : Gen1Pokemon) (nick nick' : Fin 11 → UInt8) (gen : UInt8) :
    (initBattlePokeFromSave m.min nick gen).heal.unnamed =
      (initBattlePokeFromSave m nick' gen).heal.unnamed := by
  have hl : (if m.min.level ≠ 0 then m.min.level else m.min.boxLevel) =
      if m.level ≠ 0 then m.level else m.boxLevel := by
    exact ite_self _
  unfold initBattlePokeFromSave
  rw [hl]
  by_cases hg : 3 ≤ gen
  · simp only [hg, if_true]
    rfl
  · simp only [hg, if_false]
    rfl

end MonsterMesh
