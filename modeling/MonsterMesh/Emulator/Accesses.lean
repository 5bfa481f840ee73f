import Mathlib.Tactic.SplitIfs
import MonsterMesh.Emulator.Machine

/-! What one access of the bus can change and how it can fail. -/
namespace MonsterMesh.PeanutGb

/-- The part of the save memory that the cartridge has. -/
def Cart.Saves (cart : Cart) (j : ℕ) : Prop :=
  cart.cartRam = true ∧ j < Gb.saveRamSize ∧
    j < if cart.mbc = 2 then 0x200 else cart.numRamBanks.toNat * Gb.cramBankSize

namespace Gb

open Interaction

variable {α : Type} {apu : Apu α} {g g' g'' : Gb α} {addr : UInt16} {val : UInt8} {r : Region} {i : ℕ}

@[simp] theorem io_setIo (j : ℕ) : (g.setIo i val).io j = if j = i then val else g.io j := by
  simp [io, setIo]

@[simp] theorem setIo_cart : (g.setIo i val).cart = g.cart := rfl

@[simp] theorem setIo_gbFrame : (g.setIo i val).gbFrame = g.gbFrame := rfl

@[simp] theorem setIo_bank : (g.setIo i val).selectedRomBank = g.selectedRomBank := rfl

@[simp] theorem setIo_lcdCount : (g.setIo i val).lcdCount = g.lcdCount := rfl

@[simp] theorem setIo_lcdOffCount : (g.setIo i val).lcdOffCount = g.lcdOffCount := rfl

/-- What holds between two instructions of every run. -/
structure WellFormed (g : Gb α) : Prop where
  boot : g.io ioBoot ≠ 0
  line : g.io ioLy < lcdVertLines
  bank : g.selectedRomBank ≤ g.cart.numRomBanksMask
  count : g.lcdCount < lcdLineCycles
  off : g.lcdOffCount < 2 ^ 32

/-- What the accesses of a program leave; switching the screen off counts its time as time that it was off. -/
structure Kept (g g' : Gb α) : Prop where
  cart : g'.cart = g.cart
  save : ∀ j, ¬g.cart.Saves j → g'.saveRam j = g.saveRam j
  frame : g'.gbFrame = g.gbFrame
  boot : g.io ioBoot ≠ 0 → g'.io ioBoot ≠ 0
  bank : g.selectedRomBank ≤ g.cart.numRomBanksMask → g'.selectedRomBank ≤ g'.cart.numRomBanksMask
  screen : (g'.io ioLy = g.io ioLy ∧ g'.lcdCount = g.lcdCount ∧ g'.lcdOffCount = g.lcdOffCount) ∨
    g'.io ioLy = 0 ∧ g'.lcdCount = 0 ∧ g'.lcdOffCount = (g.lcdOffCount + g.lcdCount) % 2 ^ 32

theorem Kept.refl : Kept g g := ⟨rfl, fun _ _ => rfl, rfl, id, id, .inl ⟨rfl, rfl, rfl⟩⟩

theorem Kept.trans (h : Kept g g') (h' : Kept g' g'') : Kept g g'' where
  cart := h'.cart.trans h.cart
  save j hj := (h'.save j (by rwa [h.cart])).trans (h.save j hj)
  frame := h'.frame.trans h.frame
  boot := h'.boot ∘ h.boot
  bank := h'.bank ∘ h.bank
  screen := by
    obtain ⟨l, c, o⟩ | ⟨l, c, o⟩ := h'.screen <;> rw [l, c, o]
    · exact h.screen
    · obtain ⟨-, c, o⟩ | ⟨-, c, o⟩ := h.screen <;> rw [c, o]
      · exact .inr ⟨rfl, rfl, rfl⟩
      · exact .inr ⟨rfl, rfl, by omega⟩

theorem WellFormed.kept (hg : g.WellFormed) (h : Kept g g') : g'.WellFormed where
  boot := h.boot hg.boot
  line := by
    obtain ⟨l, -⟩ | ⟨l, -⟩ := h.screen <;> rw [l]
    · exact hg.line
    · decide
  bank := h.bank hg.bank
  count := by
    obtain ⟨-, c, -⟩ | ⟨-, c, -⟩ := h.screen <;> rw [c]
    · exact hg.count
    · decide
  off := by
    obtain ⟨-, -, o⟩ | ⟨-, -, o⟩ := h.screen <;> rw [o]
    · exact hg.off
    · exact Nat.mod_lt _ (by decide)

/-- The access that no array has: a register of the clock of an MBC3 past the last. -/
def RtcFault (cart : Cart) : GbFault → Prop
  | .outside .rtcLatched j | .outside .rtcReal j => cart.mbc = 3 ∧ 5 ≤ j
  | _ => False

/-- A state with other memory and registers of the cartridge. -/
theorem kept_of (hc : g'.cart = g.cart) (hsave : g'.saveRam = g.saveRam) (hf : g'.gbFrame = g.gbFrame) (hb : g'.io ioBoot = g.io ioBoot)
    (hs : g'.selectedRomBank = g.selectedRomBank) (hl : g'.io ioLy = g.io ioLy) (hn : g'.lcdCount = g.lcdCount)
    (ho : g'.lcdOffCount = g.lcdOffCount) : Kept g g' :=
  ⟨hc, fun j _ => by rw [hsave], hf, by rw [hb]; exact id, by rw [hs, hc]; exact id, .inl ⟨hl, hn, ho⟩⟩

theorem kept_setIo (hi : i ≠ ioBoot) (hl : i ≠ ioLy) : Kept g (g.setIo i val) :=
  kept_of rfl rfl rfl (by simp [hi.symm]) rfl (by simp [hl.symm]) rfl rfl

/-- No array holds the registers that matter, but the upper half of the page of devices can be written at will. -/
theorem set_ends {F : GbFault → Prop} (hi : i < r.size) (hr : r = .hramIo → 0x80 ≤ i) :
    Ends F (Kept g) (g.set r i val) := by
  rw [set, if_pos hi]
  have hne : ∀ j < 0x80, ¬(Region.hramIo = r ∧ j = i) := by
    rintro j hj ⟨h, rfl⟩
    have := hr h.symm
    omega
  refine .returns (kept_of rfl rfl rfl (if_neg (hne _ ?_)) rfl (if_neg (hne _ ?_)) rfl rfl) <;> decide

theorem get_ends {F : GbFault → Prop} (hi : i < r.size) : Ends F (fun _ => True) (g.get r i) := by
  rw [get, if_pos hi]
  exact .returns trivial

theorem readCartRam_ends : Ends (RtcFault g.cart) (fun _ => True) (g.readCartRam i) := by
  unfold readCartRam
  split_ifs with hm
  · unfold get
    split_ifs with hi
    · exact .returns trivial
    · exact .fails ⟨hm.1, not_lt.mp hi⟩
  all_goals exact .returns trivial

theorem read_ends (hb : g.io ioBoot ≠ 0) : Ends (RtcFault g.cart) (fun _ => True) (g.read apu addr) := by
  have ha := addr.toNat_lt
  unfold read
  simp only
  split_ifs with h0 hboot h8 hv hc hw he ho hx hs
  · exact absurd hboot.1 hb
  · exact .returns trivial
  · exact .returns trivial
  · exact get_ends (by simp only [Region.size]; omega)
  · exact readCartRam_ends
  · exact get_ends (by simp only [Region.size]; omega)
  · exact get_ends (by simp only [Region.size]; omega)
  · exact get_ends (by simp only [Region.size]; omega)
  · exact .returns trivial
  · exact .returns trivial
  · exact get_ends (by simp only [Region.size]; omega)

theorem and_le (a b : UInt16) : a &&& b ≤ b := by
  rw [UInt16.le_iff_toNat_le, UInt16.toNat_and]
  exact Nat.and_le_right

theorem kept_maskRomBank (bank : UInt16) : Kept g (g.maskRomBank bank) where
  cart := rfl
  save _ _ := rfl
  frame := rfl
  boot := id
  bank _ := and_le _ _
  screen := .inl ⟨rfl, rfl, rfl⟩

theorem kept_enable (b : Bool) : Kept g { g with enableCartRam := b } := kept_of rfl rfl rfl rfl rfl rfl rfl rfl

theorem kept_ramBank (b : UInt8) : Kept g { g with cartRamBank := b } := kept_of rfl rfl rfl rfl rfl rfl rfl rfl

theorem kept_writeRomBank : Kept g (g.writeRomBank i val) := by
  unfold writeRomBank
  simp only
  split_ifs
  all_goals first | exact .refl | exact kept_enable _ | exact kept_maskRomBank _

theorem kept_writeRamBank : Kept g (g.writeRamBank val) := by
  unfold writeRamBank
  split
  · exact (kept_ramBank _).trans (kept_maskRomBank _)
  split
  · exact kept_ramBank _
  split
  · exact kept_ramBank _
  · exact .refl

theorem kept_writeMode : Kept g (g.writeMode val) := by
  unfold writeMode
  simp only
  split_ifs
  all_goals exact kept_of rfl rfl rfl rfl rfl rfl rfl rfl

theorem kept_cartRamWrite (hr : g.cart.cartRam = true)
    (hi : i < if g.cart.mbc = 2 then 0x200 else g.cart.numRamBanks.toNat * cramBankSize) :
    Kept g (g.cartRamWrite i val) := by
  unfold cartRamWrite
  split_ifs with hlt
  · refine ⟨rfl, fun j hj => if_neg fun h => hj ?_, rfl, id, id, .inl ⟨rfl, rfl, rfl⟩⟩
    rw [h]
    exact ⟨hr, hlt, hi⟩
  · exact .refl

/-- The banks that are selected and the first one, where there is any, are parts of the save memory. -/
theorem ramAddr_lt {banked : Bool} (hm : g.cart.mbc ≠ 2) (hb : banked = true → g.cartRamBank < g.cart.numRamBanks)
    (hz : g.cart.numRamBanks ≠ 0) (hi : 0xA000 ≤ i ∧ i < 0xC000) :
    g.ramAddr banked i < if g.cart.mbc = 2 then 0x200 else g.cart.numRamBanks.toNat * cramBankSize := by
  rw [if_neg hm, ramAddr]
  have hpos : 0 < g.cart.numRamBanks.toNat :=
    Nat.pos_of_ne_zero fun h => hz (UInt8.toNat_inj.mp h)
  cases banked with
  | false =>
    simp only [cramBankSize, Bool.false_eq_true, if_false]
    omega
  | true =>
    have := UInt8.lt_iff_toNat_lt.mp (hb rfl)
    simp only [cramBankSize, if_true]
    omega

theorem writeCartRam_ends (hi : 0xA000 ≤ i ∧ i < 0xC000) :
    Ends (RtcFault g.cart) (Kept g) (g.writeCartRam i val) := by
  unfold writeCartRam
  split_ifs with hm he h2 hb hz
  · by_cases hi : (g.cartRamBank - 0x08).toNat < Region.size .rtcReal
    · exact set_ends hi (by rintro ⟨⟩)
    · rw [set, if_neg hi]
      exact .fails ⟨hm.1, not_lt.mp hi⟩
  · simp only [Bool.and_eq_true] at he
    exact .returns (kept_cartRamWrite he.1 (by rw [if_pos h2]; exact Nat.mod_lt _ (by decide)))
  · simp only [Bool.and_eq_true] at he
    refine .returns (kept_cartRamWrite he.1 (ramAddr_lt h2 (fun _ => hb.2) (fun h0 => ?_) hi))
    have := UInt8.lt_iff_toNat_lt.mp hb.2
    rw [h0] at this
    exact absurd this (Nat.not_lt_zero _)
  · simp only [Bool.and_eq_true] at he
    exact .returns (kept_cartRamWrite he.1 (ramAddr_lt h2 (fun h => nomatch h) hz hi))
  all_goals exact .returns .refl

theorem kept_writeLcdc : Kept g (g.writeLcdc val) := by
  have h : Kept g (g.setIo ioLcdc val) := kept_setIo (by decide) (by decide)
  unfold writeLcdc
  simp only
  split_ifs
  · exact h.trans (kept_of rfl rfl rfl rfl rfl rfl rfl rfl)
  · have hne : ioBoot ≠ ioLy ∧ ioBoot ≠ ioStat ∧ ioBoot ≠ ioLcdc := by decide
    refine ⟨rfl, fun _ _ => rfl, rfl, fun hb => ?_, id, .inr ⟨?_, rfl, rfl⟩⟩
    · show (((g.setIo ioLcdc val).setIo ioStat ((g.setIo ioLcdc val).io ioStat &&& 0xFC)).setIo ioLy 0).io ioBoot ≠ 0
      simpa [hne] using hb
    · show (((g.setIo ioLcdc val).setIo ioStat ((g.setIo ioLcdc val).io ioStat &&& 0xFC)).setIo ioLy 0).io ioLy = 0
      simp
  · exact h

theorem dmaByte_ends (hb : g.io ioBoot ≠ 0) (hi : i < oamSize) :
    Ends (RtcFault g.cart) (Kept g) (dmaByte apu val g i) :=
  (read_ends hb).bind fun _ _ => set_ends hi (by rintro ⟨⟩)

theorem dma_ends (l : List ℕ) (hb : g.io ioBoot ≠ 0) (hl : ∀ i ∈ l, i < oamSize) :
    Ends (RtcFault g.cart) (Kept g) (l.foldlM (dmaByte apu val) g) := by
  induction l generalizing g with
  | nil => exact .returns .refl
  | cons i l ih =>
    rw [List.foldlM_cons]
    refine (dmaByte_ends hb (hl i (by simp))).bind fun g' h => ?_
    have := ih (h.boot hb) fun j hj => hl j (by simp [hj])
    rw [h.cart] at this
    exact this.mono (fun _ he => he) fun _ h' => h.trans h'

theorem plainRegisters_ne : ∀ i ∈ plainRegisters, i ≠ ioBoot ∧ i ≠ ioLy := by decide

theorem writeIo_ends (hb : g.io ioBoot ≠ 0) : Ends (RtcFault g.cart) (Kept g) (g.writeIo apu i val) := by
  unfold writeIo
  split_ifs with h0 h1 h2 h3 h4 h5 h6 h7
  · exact .returns (kept_setIo (by decide) (by decide))
  · exact .returns (kept_setIo (by decide) (by decide))
  · exact .returns (kept_setIo (by decide) (by decide))
  · exact .returns kept_writeLcdc
  · exact .returns (kept_setIo (by decide) (by decide))
  · have h : Kept g (g.setIo ioDma val) := kept_setIo (by decide) (by decide)
    exact (dma_ends _ (h.boot hb) fun i hi => List.mem_range.mp hi).mono (fun _ he => he) fun _ h' => h.trans h'
  · refine .returns ⟨rfl, fun _ _ => rfl, rfl, fun _ => ?_, id, .inl ⟨?_, rfl, rfl⟩⟩
    · simp
    · exact (io_setIo _).trans (if_neg (by decide))
  · obtain ⟨h, h'⟩ := plainRegisters_ne i h7
    exact .returns (kept_setIo h h')
  · exact .returns .refl

theorem write_ends (hb : g.io ioBoot ≠ 0) : Ends (RtcFault g.cart) (Kept g) (g.write apu addr val) := by
  unfold write
  extract_lets i
  have hi : i < 2 ^ 16 := addr.toNat_lt
  refine .ite (fun _ => .returns kept_writeRomBank) fun _ => ?_
  refine .ite (fun _ => .returns kept_writeRamBank) fun _ => ?_
  refine .ite (fun _ => .returns kept_writeMode) fun _ => ?_
  refine .ite (fun _ => set_ends (by simp only [Region.size]; omega) (by rintro ⟨⟩)) fun _ => ?_
  refine .ite (fun _ => writeCartRam_ends (by omega)) fun _ => ?_
  refine .ite (fun _ => set_ends (by simp only [Region.size]; omega) (by rintro ⟨⟩)) fun _ => ?_
  refine .ite (fun _ => set_ends (by simp only [Region.size]; omega) (by rintro ⟨⟩)) fun _ => ?_
  refine .ite (fun _ => set_ends (by simp only [Region.size]; omega) (by rintro ⟨⟩)) fun _ => ?_
  refine .ite (fun _ => .returns .refl) fun _ => ?_
  refine .ite (fun _ => set_ends (by simp only [Region.size]; omega) (fun _ => by omega)) fun _ => ?_
  refine .ite (fun _ => .returns (kept_of rfl rfl rfl rfl rfl rfl rfl rfl)) fun _ => ?_
  exact writeIo_ends hb

end Gb
end MonsterMesh.PeanutGb
