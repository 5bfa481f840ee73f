import MonsterMesh.Battle.Decode
import MonsterMesh.Engine.Mirror
import MonsterMesh.Lib.Reading

/-! The sections of an UPDATE: each is read from exactly the bytes written for it. -/
namespace MonsterMesh

open Bytes Reading

/-! ### The slots of a side -/

namespace BattleParty

variable {p : BattleParty}

theorem slots_positions (p : BattleParty) :
    p.slots.length = p.count.val ∧ p.slots.map Fin.val = List.range' 0 p.slots.length := by
  have hall : ∀ n : Fin 7, ((List.finRange 6).filter fun i => i.val < n.val).length = n.val ∧
      (((List.finRange 6).filter fun i => i.val < n.val).map Fin.val =
        List.range' 0 ((List.finRange 6).filter fun i => i.val < n.val).length) := by
    decide
  exact hall p.count

theorem mem_slots {i : Fin 6} : i ∈ p.slots ↔ i.val < p.count.val := by
  unfold slots
  rw [List.mem_filter]
  simp

/-- The count byte of a side names all its slots. -/
theorem slots_counted (p : BattleParty) : min (UInt8.ofNat p.count.val).toNat 6 = p.slots.length := by
  have hcount := p.count.isLt
  rw [p.slots_positions.1, UInt8.toNat_ofNat']
  omega

end BattleParty

/-! ### The bytes of each section -/

/-- A mon as its owner's bench shows it. -/
def BattlePoke.benchBytes (m : BattlePoke) : List UInt8 := be16 m.hp ++ m.status :: List.ofFn m.pp

/-- A mon as the other side's bench shows it. -/
def BattlePoke.standingBytes (m : BattlePoke) : List UInt8 := be16 m.hp ++ [m.status]

theorem flagBits_bit (b₀ b₁ b₂ b₃ b₄ b₅ : Bool) :
    bit (flagBits [b₀, b₁, b₂, b₃, b₄, b₅]) 0 = b₀ ∧ bit (flagBits [b₀, b₁, b₂, b₃, b₄, b₅]) 1 = b₁ ∧
      bit (flagBits [b₀, b₁, b₂, b₃, b₄, b₅]) 2 = b₂ ∧ bit (flagBits [b₀, b₁, b₂, b₃, b₄, b₅]) 3 = b₃ ∧
      bit (flagBits [b₀, b₁, b₂, b₃, b₄, b₅]) 4 = b₄ := by
  revert b₀ b₁ b₂ b₃ b₄ b₅
  decide

theorem flagBits_field (b₀ b₁ b₂ b₃ : Bool) :
    bit (flagBits [b₀, b₁, b₂, b₃]) 0 = b₀ ∧ bit (flagBits [b₀, b₁, b₂, b₃]) 1 = b₁ ∧
      bit (flagBits [b₀, b₁, b₂, b₃]) 2 = b₂ ∧ bit (flagBits [b₀, b₁, b₂, b₃]) 3 = b₃ := by
  revert b₀ b₁ b₂ b₃
  decide

theorem ofFn_pp (pp : Fin 4 → UInt8) : List.ofFn pp = [pp 0, pp 1, pp 2, pp 3] := rfl

theorem ppOf_self (pp : Fin 4 → UInt8) : ppOf (pp 0) (pp 1) (pp 2) (pp 3) = pp := by
  funext i
  revert i
  rw [Fin.forall_fin_succ, Fin.forall_fin_succ, Fin.forall_fin_succ, Fin.forall_fin_one]
  exact ⟨rfl, rfl, rfl, rfl⟩

/-! ### What each section tells -/

namespace BattlePoke

/-- HP, status and PP of `m'`. -/
def setBench (m' m : BattlePoke) : BattlePoke := { m with hp := m'.hp, status := m'.status, pp := m'.pp }

def setStanding (m' m : BattlePoke) : BattlePoke := { m with hp := m'.hp, status := m'.status }

def setStages (m' m : BattlePoke) : BattlePoke :=
  { m with
    atkBoost := m'.atkBoost, defBoost := m'.defBoost, spdBoost := m'.spdBoost
    spcBoost := m'.spcBoost, accBoost := m'.accBoost, evaBoost := m'.evaBoost }

def setEffects (m' m : BattlePoke) : BattlePoke :=
  { m with
    sleepTurns := m'.sleepTurns, confuseTurns := m'.confuseTurns, substituteHp := m'.substituteHp
    mustRecharge := m'.mustRecharge, flinched := m'.flinched, thrashing := m'.thrashing
    rageActive := m'.rageActive, transformed := m'.transformed }

def setHold (m' m : BattlePoke) : BattlePoke :=
  { m with disabledSlot := m'.disabledSlot, disabledTurns := m'.disabledTurns, trapTurns := m'.trapTurns }

end BattlePoke

namespace BattleParty

/-- The slot of `q` on the field, where `p` has it. -/
def follow (q p : BattleParty) : BattleParty :=
  if q.active.val < p.count.val then { p with active := q.active } else p

def showFx (q p : BattleParty) : BattleParty :=
  { p.setActiveMon (q.activeMon.setEffects p.activeMon) with toFieldFx := q.toFieldFx }

/-- Every mon of `q`, on the slot of `p` it is in. -/
def showAll (q : BattleParty) (f : BattlePoke → BattlePoke → BattlePoke) (p : BattleParty) : BattleParty :=
  q.slots.foldl (fun p i => p.onSlot i.val (f (q.mons i))) p

theorem activate_follow (q p : BattleParty) : p.activate (UInt8.ofNat q.active.val) = q.follow p := by
  have hactive := q.active.isLt
  have hnat : (UInt8.ofNat q.active.val).toNat = q.active.val := by
    rw [UInt8.toNat_ofNat']
    omega
  unfold activate follow
  split
  · rename_i h
    rw [if_pos (hnat ▸ h)]
    congr 1
    exact Fin.ext hnat
  · rename_i h
    rw [if_neg (hnat ▸ h)]

end BattleParty

namespace Scene

variable (mine foe q : BattleParty)

/-! ### The sections in turn -/

def tellHp (s : Scene) : Scene :=
  (s.onParty .zero (·.onActive fun m => { m with hp := mine.activeMon.hp })).onParty .one
    (·.onActive fun m => { m with hp := foe.activeMon.hp })

def tellPp (s : Scene) : Scene := s.onParty .zero (·.onActive fun m => { m with pp := mine.activeMon.pp })

def tellSwitch (s : Scene) : Scene := (s.onParty .zero mine.follow).onParty .one foe.follow

def tellStatus (s : Scene) : Scene :=
  (s.onParty .zero (·.onActive fun m => { m with status := mine.activeMon.status })).onParty .one
    (·.onActive fun m => { m with status := foe.activeMon.status })

/-- The lines an UPDATE carries, as the client's ring shows them. -/
def tellLines (lines : List CStr) (s : Scene) : Scene := lines.foldl (fun s l => s.appendLog (l.take 40)) s

def tellBench (s : Scene) : Scene :=
  ((s.onParty .zero (mine.showAll BattlePoke.setBench)).onParty .zero
    (·.onActive mine.activeMon.setStages)).onParty .one (foe.showAll BattlePoke.setStanding)

def tellFx (s : Scene) : Scene :=
  ((s.onParty .zero mine.showFx).onParty .one foe.showFx).onParty .zero (·.onActive mine.activeMon.setHold)

theorem applyHp_reads :
    Reads applyHp (be16 mine.activeMon.hp ++ be16 foe.activeMon.hp) (tellHp mine foe) := by
  intro s rest
  change Except.ok _ = Except.ok _
  rw [ofBe16_be16, ofBe16_be16]
  rfl

theorem applyPp_reads : Reads applyPp (List.ofFn mine.activeMon.pp) (tellPp mine) := by
  intro s rest
  rw [ofFn_pp]
  change Except.ok _ = Except.ok _
  rw [ppOf_self]
  rfl

theorem applySwitch_reads :
    Reads applySwitch [UInt8.ofNat mine.active.val, UInt8.ofNat foe.active.val] (tellSwitch mine foe) := by
  intro s rest
  change Except.ok _ = Except.ok _
  simp only [BattleParty.activate_follow]
  rfl

theorem applyStatus_reads :
    Reads applyStatus [mine.activeMon.status, foe.activeMon.status] (tellStatus mine foe) :=
  fun _ _ => rfl

/-! ### The LOG section -/

theorem fitLines_short {w : ℕ} {ls : List CStr} {l : CStr} (h : l ∈ fitLines w ls) : l.length ≤ 100 := by
  induction ls generalizing w with
  | nil => exact absurd h List.not_mem_nil
  | cons a ls ih =>
    unfold fitLines at h
    split at h
    · exact absurd h List.not_mem_nil
    · rcases List.mem_cons.mp h with rfl | h
      · omega
      · exact ih h

theorem fitLines_length (w : ℕ) (ls : List CStr) : (fitLines w ls).length ≤ ls.length := by
  induction ls generalizing w with
  | nil => exact le_refl _
  | cons a ls ih =>
    unfold fitLines
    split
    · exact Nat.zero_le _
    · exact Nat.succ_le_succ (ih _)

/-- The lines end below the reserve. -/
theorem fitLines_fits {w : ℕ} (hw : w ≤ 101) (ls : List CStr) :
    w + ((fitLines w ls).flatMap fun l => UInt8.ofNat l.length :: l).length ≤ 101 := by
  induction ls generalizing w with
  | nil => exact hw
  | cons a ls ih =>
    unfold fitLines
    split
    · exact hw
    · rename_i hfit
      have h := ih (Nat.not_lt.mp hfit)
      rw [List.flatMap_cons, List.length_append, List.length_cons]
      omega

theorem readLines_reads {lines : List CStr} (h : ∀ l ∈ lines, l.length ≤ 100) (s : Scene) (rest : List UInt8) :
    readLines lines.length s ((lines.flatMap fun l => UInt8.ofNat l.length :: l) ++ rest) =
      (s.tellLines lines, rest) := by
  induction lines generalizing s with
  | nil => rfl
  | cons l ls ih =>
    have hl := h l (List.mem_cons_self ..)
    have hnat : (UInt8.ofNat l.length).toNat = l.length := by
      rw [UInt8.toNat_ofNat']
      omega
    rw [List.flatMap_cons, List.append_assoc, List.cons_append, List.length_cons, readLines, hnat, if_neg,
      List.take_left, List.drop_left, ih fun l hl => h l (List.mem_cons_of_mem _ hl)]
    · rfl
    · rw [List.length_append]
      omega

theorem applyLog_reads {w : ℕ} {lines : List CStr} (h : lines.length ≤ 6) :
    Reads applyLog (logBytes w lines) (tellLines (fitLines (w + 1) lines)) := by
  intro s rest
  have hlen := fitLines_length (w + 1) lines
  have hnat : (UInt8.ofNat (fitLines (w + 1) lines).length).toNat = (fitLines (w + 1) lines).length := by
    rw [UInt8.toNat_ofNat']
    omega
  change Except.ok (readLines _ s (_ ++ rest)) = _
  rw [hnat, readLines_reads fun l hl => fitLines_short hl]

/-! ### The BENCH section -/

theorem readBench_reads (q : BattleParty) :
    Reads (readBench q.slots.length 0) (q.slots.flatMap fun i => (q.mons i).benchBytes) fun s =>
      q.slots.foldl (fun s i => s.onParty .zero (·.onSlot i.val (q.mons i).setBench)) s := by
  refine reads_records (f := readBench) (k := Fin.val) (w := fun i => (q.mons i).benchBytes)
    (g := fun i s => s.onParty .zero (·.onSlot i.val (q.mons i).setBench)) ?_ ?_ _ _ q.slots_positions.2
  · intro i s rest
    rfl
  · intro n i s rest
    have hput : ∀ m : BattlePoke, ({ m.setHpStatus ((q.mons i).hp >>> 8).toUInt8 (q.mons i).hp.toUInt8
        (q.mons i).status with
          pp := ppOf ((q.mons i).pp 0) ((q.mons i).pp 1) ((q.mons i).pp 2) ((q.mons i).pp 3) } : BattlePoke) =
        (q.mons i).setBench m := by
      intro m
      unfold BattlePoke.setHpStatus
      rw [ofBe16_be16, ppOf_self]
      rfl
    exact congrArg (fun f => readBench n (i.val + 1) (s.onParty .zero (·.onSlot i.val f)) rest) (funext hput)

theorem readSide_reads (side : Side) (q : BattleParty) :
    Reads (readSide side q.slots.length 0) (q.slots.flatMap fun i => (q.mons i).standingBytes) fun s =>
      q.slots.foldl (fun s i => s.onParty side (·.onSlot i.val (q.mons i).setStanding)) s := by
  refine reads_records (f := readSide side) (k := Fin.val) (w := fun i => (q.mons i).standingBytes)
    (g := fun i s => s.onParty side (·.onSlot i.val (q.mons i).setStanding)) ?_ ?_ _ _ q.slots_positions.2
  · intro i s rest
    rfl
  · intro n i s rest
    have hput : ∀ m : BattlePoke, m.setHpStatus ((q.mons i).hp >>> 8).toUInt8 (q.mons i).hp.toUInt8
        (q.mons i).status = (q.mons i).setStanding m := by
      intro m
      unfold BattlePoke.setHpStatus
      rw [ofBe16_be16]
      rfl
    exact congrArg (fun f => readSide side n (i.val + 1) (s.onParty side (·.onSlot i.val f)) rest) (funext hput)

theorem onParty_onParty (side : Side) (f g : BattleParty → BattleParty) (s : Scene) :
    (s.onParty side f).onParty side g = s.onParty side (g ∘ f) := by
  unfold onParty setParty Engine.setParty
  simp only [Function.update_self, Function.update_idem, Function.comp_apply]

theorem foldl_onParty {α : Type} (side : Side) (f : α → BattleParty → BattleParty) (l : List α) (s : Scene) :
    l.foldl (fun s a => s.onParty side (f a)) s = s.onParty side fun p => l.foldl (fun p a => f a p) p := by
  induction l generalizing s with
  | nil =>
    unfold onParty setParty
    rw [List.foldl_nil]
    dsimp only [List.foldl_nil]
    rw [Engine.setParty_self]
  | cons a l ih =>
    rw [List.foldl_cons, ih, onParty_onParty]
    rfl

theorem applyMyBench_reads :
    Reads applyMyBench (UInt8.ofNat mine.count.val :: mine.slots.flatMap fun i => (mine.mons i).benchBytes)
      fun s => s.onParty .zero (mine.showAll BattlePoke.setBench) := by
  intro s rest
  have h := readBench_reads mine s rest
  rw [← mine.slots_counted] at h
  exact h.trans (congrArg (fun s => Except.ok (s, rest))
    (foldl_onParty .zero (fun i p => p.onSlot i.val (mine.mons i).setBench) mine.slots s))

theorem applyBoosts_reads :
    Reads applyBoosts mine.activeMon.boostBytes fun s =>
      s.onParty .zero (·.onActive mine.activeMon.setStages) := by
  intro s rest
  change Except.ok _ = Except.ok _
  have hput : ∀ m : BattlePoke, m.setBoosts mine.activeMon.atkBoost.toUInt8 mine.activeMon.defBoost.toUInt8
      mine.activeMon.spdBoost.toUInt8 mine.activeMon.spcBoost.toUInt8 mine.activeMon.accBoost.toUInt8
      mine.activeMon.evaBoost.toUInt8 = mine.activeMon.setStages m := fun _ => rfl
  exact congrArg (fun f => Except.ok (s.onParty .zero (·.onActive f), rest)) (funext hput)

theorem applyFoeBench_reads :
    Reads applyFoeBench (UInt8.ofNat foe.count.val :: foe.slots.flatMap fun i => (foe.mons i).standingBytes)
      fun s => s.onParty .one (foe.showAll BattlePoke.setStanding) := by
  intro s rest
  have h := readSide_reads .one foe s rest
  rw [← foe.slots_counted] at h
  exact h.trans (congrArg (fun s => Except.ok (s, rest))
    (foldl_onParty .one (fun i p => p.onSlot i.val (foe.mons i).setStanding) foe.slots s))

theorem applyBench_reads : Reads applyBench (benchBytes mine foe) (tellBench mine foe) := by
  have h := (applyMyBench_reads mine).after ((applyBoosts_reads mine).after (applyFoeBench_reads foe))
  rw [← List.append_assoc] at h
  exact h

/-! ### The FX section -/

theorem applyFxSide_reads (side : Side) :
    Reads (applyFxSide · side) q.fxBytes fun s => s.onParty side q.showFx := by
  intro s rest
  change Except.ok _ = Except.ok _
  have hshow : ∀ p : BattleParty, p.setFx q.activeMon.sleepTurns q.activeMon.confuseTurns
      (q.activeMon.substituteHp >>> 8).toUInt8 q.activeMon.substituteHp.toUInt8
      (flagBits [q.activeMon.mustRecharge, q.activeMon.flinched, q.activeMon.thrashing, q.activeMon.rageActive,
        q.activeMon.transformed, decide (q.activeMon.chargingSlot ≠ 0xFF)])
      (flagBits [q.reflect, q.lightScreen, q.mist, q.focused]) q.reflectTurns q.lightScreenTurns =
        q.showFx p := by
    intro p
    obtain ⟨h₀, h₁, h₂, h₃, h₄⟩ := flagBits_bit q.activeMon.mustRecharge q.activeMon.flinched
      q.activeMon.thrashing q.activeMon.rageActive q.activeMon.transformed
      (decide (q.activeMon.chargingSlot ≠ 0xFF))
    obtain ⟨f₀, f₁, f₂, f₃⟩ := flagBits_field q.reflect q.lightScreen q.mist q.focused
    unfold BattleParty.setFx
    rw [h₀, h₁, h₂, h₃, h₄, f₀, f₁, f₂, f₃, ofBe16_be16]
    rfl
  exact congrArg (fun f => Except.ok (s.onParty side f, rest)) (funext hshow)

theorem applyCounters_reads :
    Reads applyCounters
      [mine.activeMon.disabledSlot, mine.activeMon.disabledTurns, mine.activeMon.trapTurns]
      fun s => s.onParty .zero (·.onActive mine.activeMon.setHold) :=
  fun _ _ => rfl

theorem applyFx_reads : Reads applyFx (fxBytes mine foe) (tellFx mine foe) := by
  have h := (applyFxSide_reads mine .zero).after ((applyFxSide_reads foe .one).after
    (applyCounters_reads mine))
  rw [← List.append_assoc] at h
  exact h

end Scene
end MonsterMesh
