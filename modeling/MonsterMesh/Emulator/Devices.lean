import Mathlib.Tactic.SplitIfs
import MonsterMesh.Emulator.Accesses

/-! What a round of the clock changes: the registers it counts in, and the interrupts it can raise. -/
namespace MonsterMesh.PeanutGb

theorem and_or_eq_zero {a b c : UInt8} : c &&& (a ||| b) = 0 ↔ c &&& a = 0 ∧ c &&& b = 0 := by
  rw [← UInt8.or_eq_zero_iff, ← UInt8.toBitVec_inj, ← UInt8.toBitVec_inj]
  simp [BitVec.and_or_distrib_left]

theorem or_and {a b c : UInt8} : (a ||| b) &&& c = a &&& c ||| b &&& c := by
  rw [← UInt8.toBitVec_inj]
  simp [BitVec.and_or_distrib_right]

theorem or_and_eq_zero {a b c : UInt8} : (a ||| b) &&& c = 0 ↔ a &&& c = 0 ∧ b &&& c = 0 := by
  rw [UInt8.and_comm, and_or_eq_zero, UInt8.and_comm c a, UInt8.and_comm c b]

theorem and_eq_zero_of_subset {a b c : UInt8} (h : a &&& b = a) (hb : b &&& c = 0) : a &&& c = 0 := by
  rw [← h, UInt8.and_assoc, hb]
  exact UInt8.and_zero

theorem subset_or {a b c : UInt8} (ha : a &&& c = a) (hb : b &&& c = b) : (a ||| b) &&& c = a ||| b := by
  rw [← UInt8.toBitVec_inj] at *
  simp only [UInt8.toBitVec_and, UInt8.toBitVec_or] at *
  rw [BitVec.and_or_distrib_right, ha, hb]

namespace Gb

variable {α : Type} {g g' g'' : Gb α} {cycles n : ℕ} {b c : UInt8} {js : List ℕ}

/-- But for the registers `js`, their counters and the time within a line, nothing is changed. -/
structure Apart (js : List ℕ) (g g' : Gb α) : Prop where
  io : ∀ j ∉ js, g'.io j = g.io j
  cart : g'.cart = g.cart
  save : g'.saveRam = g.saveRam
  bank : g'.selectedRomBank = g.selectedRomBank
  off : g'.lcdOffCount = g.lcdOffCount
  serial : ioSc ∉ js → g'.serialCount = g.serialCount
  tima : ioTima ∉ js → g'.timaCount = g.timaCount

structure Only (js : List ℕ) (g g' : Gb α) : Prop extends Apart js g g' where
  frame : g'.gbFrame = g.gbFrame
  count : g'.lcdCount = g.lcdCount

theorem Apart.refl : Apart js g g := ⟨fun _ _ => rfl, rfl, rfl, rfl, rfl, fun _ => rfl, fun _ => rfl⟩

theorem Apart.trans (h : Apart js g g') (h' : Apart js g' g'') : Apart js g g'' :=
  ⟨fun j hj => (h'.io j hj).trans (h.io j hj), h'.cart.trans h.cart, h'.save.trans h.save, h'.bank.trans h.bank, h'.off.trans h.off,
    fun hj => (h'.serial hj).trans (h.serial hj), fun hj => (h'.tima hj).trans (h.tima hj)⟩

theorem Apart.mono {ks : List ℕ} (h : Apart js g g') (hjs : js ⊆ ks) : Apart ks g g' :=
  ⟨fun j hj => h.io j fun hm => hj (hjs hm), h.cart, h.save, h.bank, h.off, fun hj => h.serial fun hm => hj (hjs hm),
    fun hj => h.tima fun hm => hj (hjs hm)⟩

theorem apart_setIo {i : ℕ} (hi : i ∈ js) : Apart js g (g.setIo i b) :=
  ⟨fun j hj => (io_setIo j).trans (if_neg fun h => hj (by rwa [h])), rfl, rfl, rfl, rfl, fun _ => rfl, fun _ => rfl⟩

theorem Only.refl : Only js g g := ⟨.refl, rfl, rfl⟩

theorem Only.trans (h : Only js g g') (h' : Only js g' g'') : Only js g g'' :=
  ⟨h.toApart.trans h'.toApart, h'.frame.trans h.frame, h'.count.trans h.count⟩

theorem Only.mono {ks : List ℕ} (h : Only js g g') (hjs : js ⊆ ks) : Only ks g g' :=
  ⟨h.toApart.mono hjs, h.frame, h.count⟩

theorem only_setIo {i : ℕ} (hi : i ∈ js) : Only js g (g.setIo i b) := ⟨apart_setIo hi, rfl, rfl⟩

/-- Interrupts of `b` may have been raised, and nothing is lowered. -/
def Raises (b : UInt8) (g g' : Gb α) : Prop := ∃ c, c &&& b = c ∧ g'.io ioIf = g.io ioIf ||| c

theorem Raises.same (h : g'.io ioIf = g.io ioIf) : Raises b g g' :=
  ⟨0, UInt8.zero_and, by rw [h, UInt8.or_zero]⟩

theorem Raises.trans (h : Raises b g g') (h' : Raises b g' g'') : Raises b g g'' := by
  obtain ⟨c, hc, h⟩ := h
  obtain ⟨c', hc', h'⟩ := h'
  exact ⟨c ||| c', subset_or hc hc', by rw [h', h, UInt8.or_assoc]⟩

theorem Raises.mono (h : Raises b g g') (hb : b &&& c = b) : Raises c g g' := by
  obtain ⟨d, hd, h⟩ := h
  exact ⟨d, by rw [← hd, UInt8.and_assoc, hb], h⟩

theorem raises_raise (hc : c &&& b = c) : Raises b g (g.raise c) := ⟨c, hc, (io_setIo _).trans (if_pos rfl)⟩

/-- What is raised stays so. -/
theorem Raises.kept (h : Raises b g g') (hc : g.io ioIf &&& c ≠ 0) : g'.io ioIf &&& c ≠ 0 := by
  obtain ⟨d, -, h⟩ := h
  rw [h]
  exact fun hz => hc (or_and_eq_zero.mp hz).1

theorem or_raised {a : UInt8} (hc : c ≠ 0) : (a ||| c) &&& c ≠ 0 := by
  intro hz
  have := (or_and_eq_zero.mp hz).2
  rw [UInt8.and_self] at this
  exact hc this

theorem raise_raised (hc : c ≠ 0) : (g.raise c).io ioIf &&& c ≠ 0 := by
  rw [raise, io_setIo, if_pos rfl]
  exact or_raised hc

/-! ### The devices -/

/-- The registers that the devices count in. -/
def deviceRegisters : List ℕ := [ioDiv, ioSb, ioSc, ioIf, ioTima]

/-- The interrupts that a state of the machine can raise as time passes. -/
def sources (g : Gb α) : UInt8 :=
  (if g.lcdEnabled then vblankIntr else 0) |||
  (if g.lcdEnabled ∧ (g.io ioStat &&& 0x38 ≠ 0 ∨ g.io ioStat &&& 0x40 ≠ 0 ∧ g.io ioLyc < lcdVertLines) then lcdcIntr
    else 0) |||
  (if g.io ioTac &&& 0x4 ≠ 0 then timerIntr else 0) |||
  (if g.io ioSc &&& 0x80 ≠ 0 ∧ g.io ioSc &&& 0x01 ≠ 0 then serialIntr else 0)

theorem timer_source (h : g.io ioTac &&& 0x4 ≠ 0) : timerIntr &&& g.sources = timerIntr := by
  rw [sources, if_pos h]
  split_ifs <;> decide

theorem serial_source (h : g.io ioSc &&& 0x80 ≠ 0) (h' : g.io ioSc &&& 0x01 ≠ 0) :
    serialIntr &&& g.sources = serialIntr := by
  rw [sources, if_pos (c := g.io ioSc &&& 0x80 ≠ 0 ∧ g.io ioSc &&& 0x01 ≠ 0) ⟨h, h'⟩]
  split_ifs <;> decide

theorem divTick_only : Only [ioDiv] g (g.divTick cycles) :=
  ⟨⟨(apart_setIo (List.mem_singleton_self ioDiv)).io, rfl, rfl, rfl, rfl, fun _ => rfl, fun _ => rfl⟩, rfl, rfl⟩

theorem rtcSecond_only : Only js g g.rtcSecond := by
  unfold rtcSecond
  simp only
  split_ifs
  all_goals exact ⟨⟨fun _ _ => rfl, rfl, rfl, rfl, rfl, fun _ => rfl, fun _ => rfl⟩, rfl, rfl⟩

theorem iterate_only {f : Gb α → Gb α} (hf : ∀ g, Only js g (f g)) : Only js g (f^[n] g) := by
  induction n with
  | zero => exact .refl
  | succ n ih =>
    rw [Function.iterate_succ_apply']
    exact ih.trans (hf _)

theorem rtcTick_only : Only js g (g.rtcTick cycles) := by
  unfold rtcTick
  split_ifs
  · have h : Only js g (Gb.rtcSecond^[(g.rtcCount + cycles) / rtcCycles] g) := iterate_only fun _ => rtcSecond_only
    exact ⟨⟨h.io, h.cart, h.save, h.bank, h.off, h.serial, h.tima⟩, h.frame, h.count⟩
  · exact .refl

theorem raise_only (hi : ioIf ∈ js) : Only js g (g.raise b) := only_setIo hi

/-- The serial port: a transfer with the own clock completes, or nothing is seen but the time it has taken. -/
theorem serialTick_cases :
    Only [ioSb, ioSc, ioIf] g (g.serialTick cycles) ∧
    ((g.io ioSc &&& 0x80 ≠ 0 ∧ g.io ioSc &&& 0x01 ≠ 0 ∧ (g.serialTick cycles).io ioSc &&& 0x80 = 0 ∧
        (g.serialTick cycles).io ioIf = g.io ioIf ||| serialIntr) ∨
      (g.serialTick cycles).io ioIf = g.io ioIf ∧ (g.serialTick cycles).io ioSc = g.io ioSc ∧
        (g.io ioSc &&& 0x80 ≠ 0 → g.io ioSc &&& 0x01 ≠ 0 →
          (g.serialTick cycles).serialCount = g.serialCount + cycles ∧ g.serialCount + cycles < serialCycles)) := by
  have hcount : ∀ k, Only [ioSb, ioSc, ioIf] g { g with serialCount := k } := fun _ =>
    ⟨⟨fun _ _ => rfl, rfl, rfl, rfl, rfl, fun h => absurd (by decide) h, fun _ => rfl⟩, rfl, rfl⟩
  unfold serialTick
  split
  case isTrue h => exact ⟨.refl, .inr ⟨rfl, rfl, fun h' => absurd h h'⟩⟩
  case isFalse h =>
  split
  case isTrue hc => exact ⟨hcount _, .inr ⟨rfl, rfl, fun _ _ => ⟨rfl, hc⟩⟩⟩
  case isFalse hc =>
  dsimp only
  split
  case isTrue h1 =>
    have hsc : ∀ x : UInt8, x &&& 0x01 &&& 0x80 = 0 := fun x => by
      rw [UInt8.and_assoc]
      exact UInt8.and_zero
    refine ⟨((hcount 0).trans (only_setIo (i := ioSb) (by decide))).trans
      ((only_setIo (by decide)).trans (raise_only (by decide))), .inl ⟨h, h1, ?_, ?_⟩⟩
    · simp [raise, hsc, show ioSc ≠ ioIf by decide]
    · simp only [raise, io_setIo, if_pos, show ioIf ≠ ioSc by decide, show ioIf ≠ ioSb by decide, if_false]
      rfl
  case isFalse h1 => exact ⟨hcount 0, .inr ⟨rfl, rfl, fun _ h' => absurd h' h1⟩⟩

theorem tacCycles_pos (x : UInt8) : 0 < tacCycles x := by
  unfold tacCycles
  split <;> omega

theorem timaStep_only : Only [ioIf, ioTima] g g.timaStep := by
  unfold timaStep
  split_ifs
  · exact (raise_only (by decide)).trans (only_setIo (by decide))
  · exact only_setIo (by decide)

theorem timaStep_raises : Raises timerIntr g g.timaStep := by
  unfold timaStep
  split_ifs
  · exact (raises_raise (by decide)).trans (.same ((io_setIo _).trans (if_neg (by decide))))
  · exact .same ((io_setIo _).trans (if_neg (by decide)))

theorem timaStep_counts :
    g.timaStep.io ioIf &&& timerIntr ≠ 0 ∨ g.timaStep.io ioIf = g.io ioIf ∧
      (g.timaStep.io ioTima).toNat = (g.io ioTima).toNat + 1 := by
  unfold timaStep
  split_ifs with h
  · refine .inl ?_
    have := raise_raised (g := g) (c := timerIntr) (by decide)
    simpa [show ioIf ≠ ioTima by decide] using this
  · refine .inr ⟨(io_setIo _).trans (if_neg (by decide)), ?_⟩
    rw [io_setIo, if_pos rfl, UInt8.toNat_add]
    have h1 : (1 : UInt8).toNat = 1 := rfl
    have hlt := (g.io ioTima).toNat_lt
    have : (g.io ioTima).toNat + 1 ≠ 256 := fun he => h (by
      rw [← UInt8.toNat_inj, UInt8.toNat_add, h1, he]
      rfl)
    omega

theorem timaSteps_raises (n : ℕ) : Raises timerIntr g (timaStep^[n] g) := by
  induction n with
  | zero => exact .same rfl
  | succ n ih =>
    rw [Function.iterate_succ_apply']
    exact ih.trans timaStep_raises

theorem timaSteps_count (n : ℕ) :
    (timaStep^[n] g).io ioIf &&& timerIntr ≠ 0 ∨ ((timaStep^[n] g).io ioTima).toNat = (g.io ioTima).toNat + n := by
  induction n with
  | zero => exact .inr rfl
  | succ n ih =>
    rw [Function.iterate_succ_apply']
    obtain ih | ih := ih
    · exact .inl (timaStep_raises.kept ih)
    · exact timaStep_counts.imp id fun h => by rw [h.2, ih, Nat.add_assoc]

/-- The timer is off, or it is raised, or it has counted all the cycles. -/
theorem timaTick_cases :
    Only [ioIf, ioTima] g (g.timaTick cycles) ∧
    (g.io ioTac &&& 0x4 = 0 ∧ (g.timaTick cycles).io ioIf = g.io ioIf ∨
      g.io ioTac &&& 0x4 ≠ 0 ∧ Raises timerIntr g (g.timaTick cycles) ∧
        (g.timaTick cycles).timaCount < tacCycles (g.io ioTac &&& 0x3) ∧
        ((g.timaTick cycles).io ioIf &&& timerIntr ≠ 0 ∨
          ((g.timaTick cycles).io ioTima).toNat * tacCycles (g.io ioTac &&& 0x3) + (g.timaTick cycles).timaCount =
            (g.io ioTima).toNat * tacCycles (g.io ioTac &&& 0x3) + g.timaCount + cycles)) := by
  unfold timaTick
  split
  case isTrue h => exact ⟨.refl, .inl ⟨h, rfl⟩⟩
  case isFalse h =>
  dsimp only
  set period := tacCycles (g.io ioTac &&& 0x3)
  set k := (g.timaCount + cycles) / period with hk
  have ho := iterate_only (n := k) (g := g) fun _ => timaStep_only
  refine ⟨⟨⟨ho.io, ho.cart, ho.save, ho.bank, ho.off, ho.serial, fun h => absurd (by decide) h⟩, ho.frame, ho.count⟩, .inr
    ⟨h, timaSteps_raises k, Nat.mod_lt _ (tacCycles_pos _), (timaSteps_count k).imp id fun hn => ?_⟩⟩
  show ((timaStep^[k] g).io ioTima).toNat * period + (g.timaCount + cycles) % period = _
  rw [hn, Nat.add_mul, Nat.add_assoc, Nat.mul_comm k, Nat.div_add_mod, Nat.add_assoc]

/-- What all the devices do in a round. -/
structure Counted (cycles : ℕ) (g g' : Gb α) : Prop where
  only : Only deviceRegisters g g'
  raises : Raises g.sources g g'
  transfer : g'.io ioSc &&& 0x80 ≠ 0 → g'.io ioSc = g.io ioSc
  serial : g.io ioSc &&& 0x80 ≠ 0 → g.io ioSc &&& 0x01 ≠ 0 → g'.io ioIf &&& serialIntr ≠ 0 ∨
    g'.io ioSc = g.io ioSc ∧ g'.serialCount = g.serialCount + cycles ∧ g'.serialCount < serialCycles
  timer : g.io ioTac &&& 0x4 ≠ 0 → g'.io ioIf &&& timerIntr ≠ 0 ∨
    g'.timaCount < tacCycles (g.io ioTac &&& 0x3) ∧
      (g'.io ioTima).toNat * tacCycles (g.io ioTac &&& 0x3) + g'.timaCount =
        (g.io ioTima).toNat * tacCycles (g.io ioTac &&& 0x3) + g.timaCount + cycles

theorem devices_counted : Counted cycles g (g.devices cycles) := by
  set g₂ := (g.divTick cycles).rtcTick cycles
  set g₃ := g₂.serialTick cycles
  have h₂ : Only [ioDiv] g g₂ := divTick_only.trans rtcTick_only
  obtain ⟨h₃, hs⟩ := @serialTick_cases α g₂ cycles
  obtain ⟨h₄, ht⟩ := @timaTick_cases α g₃ cycles
  have hsc₂ : g₂.io ioSc = g.io ioSc := h₂.io _ (by decide)
  have hif₂ : g₂.io ioIf = g.io ioIf := h₂.io _ (by decide)
  have hsc₄ : (g₃.timaTick cycles).io ioSc = g₃.io ioSc := h₄.io _ (by decide)
  have htac : g₃.io ioTac = g.io ioTac := (h₃.io _ (by decide)).trans (h₂.io _ (by decide))
  have htima : g₃.io ioTima = g.io ioTima := (h₃.io _ (by decide)).trans (h₂.io _ (by decide))
  have hcount : g₃.timaCount = g.timaCount := (h₃.tima (by decide)).trans (h₂.tima (by decide))
  rw [hsc₂, hif₂, h₂.serial (by decide)] at hs
  rw [htac, htima, hcount] at ht
  have hr₃ : Raises g.sources g g₃ := by
    obtain ⟨h80, h01, -, hif⟩ | ⟨hif, -⟩ := hs
    · exact ⟨serialIntr, serial_source h80 h01, hif⟩
    · exact .same hif
  have hr₄ : Raises g.sources g₃ (g₃.timaTick cycles) := by
    obtain ⟨-, hif⟩ | ⟨h4, hr, -⟩ := ht
    · exact .same hif
    · exact hr.mono (timer_source h4)
  rw [show g.devices cycles = g₃.timaTick cycles from rfl]
  refine ⟨(h₂.mono (by decide)).trans ((h₃.mono (by decide)).trans (h₄.mono (by decide))), hr₃.trans hr₄, ?_, ?_, ?_⟩
  · intro h
    rw [hsc₄] at h ⊢
    obtain ⟨-, -, hz, -⟩ | ⟨-, hsc, -⟩ := hs
    · exact absurd hz h
    · exact hsc
  · intro h80 h01
    obtain ⟨-, -, -, hif⟩ | ⟨-, hsc, hn⟩ := hs
    · refine .inl (hr₄.kept ?_)
      rw [hif]
      exact or_raised (by decide)
    · obtain ⟨hn, hlt⟩ := hn h80 h01
      have hn₄ := (h₄.serial (by decide)).trans hn
      exact .inr ⟨hsc₄.trans hsc, hn₄, by rw [hn₄]; exact hlt⟩
  · intro h4
    obtain ⟨hz, -⟩ | ⟨-, -, hlt, hn⟩ := ht
    · exact absurd hz h4
    · exact hn.imp id fun hn => ⟨hlt, hn⟩

theorem devices_only : Only deviceRegisters g (g.devices cycles) := devices_counted.only

end Gb
end MonsterMesh.PeanutGb
