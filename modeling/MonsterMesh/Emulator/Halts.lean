import MonsterMesh.Emulator.Screen
import MonsterMesh.Lib.Rounds

/-! The processor halted: when the loop at the end of an instruction comes to an end. -/
namespace MonsterMesh.PeanutGb

theorem subset_left {a b c : UInt8} (h : a &&& b = a) : a &&& (b ||| c) = a := by
  rw [← UInt8.toBitVec_inj] at *
  simp only [UInt8.toBitVec_and, UInt8.toBitVec_or] at *
  rw [BitVec.and_or_distrib_left, h]
  ext i
  simp +contextual

/-- A bit is set or it is not. -/
theorem bit_cases (x : UInt8) {b : UInt8} (hb : b ∈ ([1, 2, 4, 8] : List UInt8)) : x &&& b = 0 ∨ x &&& b = b := by
  have h : ∀ n < 256, ∀ b ∈ ([1, 2, 4, 8] : List UInt8), UInt8.ofNat n &&& b = 0 ∨ UInt8.ofNat n &&& b = b := by
    decide +kernel
  have := h x.toNat x.toNat_lt b hb
  rwa [UInt8.ofNat_toNat] at this

namespace Gb

variable {α : Type} {g g₀ g₁ : Gb α} {s t : Tick α} {cycles fuel : ℕ} {b k : UInt8} {halt : Bool}

theorem pending_of (hb : b ∈ ([1, 2, 4, 8] : List UInt8)) (hie : g.io ioIe &&& b ≠ 0) (hif : g.io ioIf &&& b ≠ 0) :
    g.pending ≠ 0 := by
  intro hz
  have hie := (bit_cases (g.io ioIe) hb).resolve_left hie
  apply hif
  rw [← hie, ← UInt8.and_assoc, show g.io ioIf &&& g.io ioIe = 0 from hz]
  exact UInt8.zero_and

/-! ### One round -/

def tickRegisters : List ℕ := deviceRegisters ++ screenRegisters

structure Ticked (cycles : ℕ) (halt : Bool) (g : Gb α) (t : Tick α) : Prop where
  io : ∀ j ∉ tickRegisters, t.gb.io j = g.io j
  cart : t.gb.cart = g.cart
  save : t.gb.saveRam = g.saveRam
  bank : t.gb.selectedRomBank = g.selectedRomBank
  stat : t.gb.io ioStat &&& 0x78 = g.io ioStat &&& 0x78
  raises : Raises g.sources g t.gb
  pos : 0 < cycles → 0 < t.cycles
  le : t.cycles ≤ max cycles hblankDuration
  transfer : t.gb.io ioSc &&& 0x80 ≠ 0 → t.gb.io ioSc = g.io ioSc
  serial : g.io ioSc &&& 0x80 ≠ 0 → g.io ioSc &&& 0x01 ≠ 0 → t.gb.io ioIf &&& serialIntr ≠ 0 ∨
    t.gb.io ioSc = g.io ioSc ∧ t.gb.serialCount = g.serialCount + cycles ∧ t.gb.serialCount < serialCycles
  timer : g.io ioTac &&& 0x4 ≠ 0 → t.gb.io ioIf &&& timerIntr ≠ 0 ∨
    t.gb.timaCount < tacCycles (g.io ioTac &&& 0x3) ∧
      (t.gb.io ioTima).toNat * tacCycles (g.io ioTac &&& 0x3) + t.gb.timaCount =
        (g.io ioTima).toNat * tacCycles (g.io ioTac &&& 0x3) + g.timaCount + cycles
  off : ¬g.lcdEnabled → t.gb.io ioLy = g.io ioLy ∧ t.gb.lcdCount = g.lcdCount ∧ t.leave = false ∧
    t.gb.lcdOffCount < 2 ^ 32 ∧ (t.gb.gbFrame = true ∨ t.gb.gbFrame = g.gbFrame ∧
      t.gb.lcdOffCount = (g.lcdOffCount + cycles) % 2 ^ 32 ∧ t.gb.lcdOffCount < lcdFrameCycles)
  on : g.lcdEnabled → t.gb.lcdOffCount = g.lcdOffCount ∧ (WithinLine cycles g t ∨ NewLine cycles halt g t)

theorem Only.within (h : Only deviceRegisters g g₁) (hw : WithinLine cycles g₁ t) : WithinLine cycles g t :=
  ⟨hw.ly.trans (h.io _ (by decide)), by rw [hw.count, h.count], by have := hw.lt; rwa [h.count] at this,
    hw.frame.trans h.frame, hw.leave⟩

theorem Only.newLine (h : Only deviceRegisters g g₁) (hn : NewLine cycles halt g₁ t) : NewLine cycles halt g t := by
  have hstat : g₁.io ioStat = g.io ioStat := h.io _ (by decide)
  obtain ⟨h1, h2, h3, h4, h5, h6, h7⟩ := hn
  rw [h.count] at h1 h3
  rw [h.io ioLy (by decide)] at h2
  rw [h.io ioLyc (by decide), hstat] at h4
  rw [hstat, h.io ioIe (by decide)] at h5
  rw [h.frame] at h6
  rw [hstat] at h7
  exact ⟨h1, h2, h3, h4, h5, h6, h7⟩

theorem Only.lcdEnabled (h : Only deviceRegisters g g₁) : g₁.lcdEnabled = g.lcdEnabled := by
  rw [Gb.lcdEnabled, h.io _ (by decide), Gb.lcdEnabled]

/-- No source is switched on by a round, and only the serial port can switch itself off. -/
theorem sources_subset (hio : ∀ j ∉ tickRegisters, g₁.io j = g.io j)
    (hstat : g₁.io ioStat &&& 0x78 = g.io ioStat &&& 0x78)
    (hsc : g₁.io ioSc &&& 0x80 ≠ 0 → g₁.io ioSc = g.io ioSc) : g₁.sources &&& g.sources = g₁.sources := by
  have hw : ∀ {m : UInt8}, m &&& 0x78 = m → g₁.io ioStat &&& m = g.io ioStat &&& m := by
    intro m hm
    rw [← hm, UInt8.and_comm m, ← UInt8.and_assoc, hstat, UInt8.and_assoc]
  rw [sources, sources, lcdEnabled, lcdEnabled, hio ioLcdc (by decide), hio ioLyc (by decide), hio ioTac (by decide),
    hw (m := 0x38) (by decide), hw (m := 0x40) (by decide)]
  by_cases h : g₁.io ioSc &&& 0x80 ≠ 0
  · rw [hsc h]
    exact UInt8.and_self
  · rw [if_neg (c := g₁.io ioSc &&& 0x80 ≠ 0 ∧ _) fun h' => h h'.1]
    rw [UInt8.or_zero]
    exact subset_left UInt8.and_self

theorem Counted.subset (h : Counted cycles g g₁) : g₁.sources &&& g.sources = g₁.sources :=
  sources_subset (fun j hj => h.only.io j fun hm => hj (List.mem_append_left _ hm))
    (by rw [h.only.io _ (by decide)]) h.transfer

theorem blankTick_off (h : ¬g.lcdEnabled) (hd : Counted cycles g g₁) :
    Ticked cycles halt g ⟨g₁.blankTick cycles, cycles, false⟩ := by
  have hb : ∃ n f, g₁.blankTick cycles = { g₁ with lcdOffCount := n, gbFrame := f } ∧ n < 2 ^ 32 ∧ (f = true ∨
      f = g₁.gbFrame ∧ n = (g₁.lcdOffCount + cycles) % 2 ^ 32 ∧ n < lcdFrameCycles) := by
    unfold blankTick
    dsimp only
    split
    case isTrue => exact ⟨_, _, rfl, (Nat.sub_le _ _).trans_lt (Nat.mod_lt _ (by decide)), .inl rfl⟩
    case isFalse hn => exact ⟨_, _, rfl, Nat.mod_lt _ (by decide), .inr ⟨rfl, rfl, not_le.mp hn⟩⟩
  obtain ⟨n, f, hb, hlt, hn⟩ := hb
  rw [hb]
  refine ⟨fun j hj => hd.only.io j fun hm => hj (List.mem_append_left _ hm), hd.only.cart, hd.only.save, hd.only.bank,
    congrArg (· &&& 0x78) (hd.only.io _ (by decide)), hd.raises, fun h => h, Nat.le_max_left _ _, hd.transfer,
    hd.serial, hd.timer, fun _ => ⟨hd.only.io _ (by decide), hd.only.count, rfl, hlt, ?_⟩, fun h' => absurd h' h⟩
  rw [← hd.only.frame, ← hd.only.off]
  exact hn

theorem screenTick_on (h : g.lcdEnabled) (hly : g.io ioLy < lcdVertLines) (hd : Counted cycles g g₁) :
    Ticked cycles halt g (g₁.screenTick cycles halt) := by
  have hon : g₁.lcdEnabled := by rw [hd.only.lcdEnabled]; exact h
  have hs : Scanned cycles halt g₁ (g₁.screenTick cycles halt) :=
    screenTick_scanned hon (by rwa [hd.only.io _ (by decide)])
  generalize g₁.screenTick cycles halt = t at hs ⊢
  obtain ⟨hr, hpos, hle, hline⟩ := hs
  have hsc : t.gb.io ioSc = g₁.io ioSc := hr.io _ (by decide)
  refine ⟨fun j hj => ?_, hr.cart.trans hd.only.cart, hr.save.trans hd.only.save, hr.bank.trans hd.only.bank, ?_,
    hd.raises.trans (hr.raises.mono hd.subset), hpos, hle, fun h80 => ?_, fun h80 h01 => ?_, fun h4 => ?_,
    fun h' => absurd h h', fun _ => ⟨hr.off.trans hd.only.off, hline.imp hd.only.within hd.only.newLine⟩⟩
  · rw [hr.io j fun hm => hj (List.mem_append_right _ hm), hd.only.io j fun hm => hj (List.mem_append_left _ hm)]
  · rw [hr.stat, hd.only.io _ (by decide)]
  · rw [hsc] at h80 ⊢
    exact hd.transfer h80
  · rw [hsc, hr.serial (by decide)]
    exact (hd.serial h80 h01).imp hr.raises.kept id
  · rw [hr.io ioTima (by decide), hr.tima (by decide)]
    exact (hd.timer h4).imp hr.raises.kept id

theorem tick_ticked (hly : g.io ioLy < lcdVertLines) : Ticked cycles halt g (g.tick cycles halt) := by
  have hd : Counted cycles g (g.devices cycles) := devices_counted
  unfold tick
  dsimp only
  split
  case isTrue hon => exact screenTick_on (by rwa [hd.only.lcdEnabled] at hon) hly hd
  case isFalse hoff => exact blankTick_off (by rwa [hd.only.lcdEnabled] at hoff) hd

theorem Ticked.line (h : Ticked cycles halt g t) (hly : g.io ioLy < lcdVertLines) :
    t.gb.io ioLy < lcdVertLines := by
  by_cases hon : g.lcdEnabled
  · obtain ⟨-, hw | hn⟩ := h.on hon
    · rwa [hw.ly]
    · rw [hn.ly]
      exact following_lt hly
  · rwa [(h.off hon).1]

theorem Ticked.lcdEnabled (h : Ticked cycles halt g t) : t.gb.lcdEnabled = g.lcdEnabled := by
  rw [Gb.lcdEnabled, h.io _ (by decide), Gb.lcdEnabled]

/-- The loop is left on its own only for a halt that no interrupt can end. -/
theorem Ticked.leave (h : Ticked cycles halt g t) (hl : t.leave = true) : g.lcdEnabled ∧ g.io ioIe = 0 := by
  by_cases hon : g.lcdEnabled
  · refine ⟨hon, ?_⟩
    obtain ⟨-, hw | hn⟩ := h.on hon
    · simp [hw.leave] at hl
    · by_cases hv : t.gb.io ioLy = lcdHeight
      · rw [(hn.vblank hv).2.2.2] at hl
        simp only [Bool.and_eq_true, decide_eq_true_eq] at hl
        exact hl.2
      · simp [(hn.other hv).2] at hl
  · simp [(h.off hon).2.2.1] at hl

/-! ### The loop -/

/-- A round of the loop of a halted processor. -/
def round (t : Tick α) : Tick α := t.gb.tick t.cycles true

def goesOn (t : Tick α) : Bool := !t.leave && t.gb.pending = 0

theorem pass_eq : pass true fuel cycles g = (Rounds.loop round goesOn fuel ⟨g, cycles, false⟩).map Tick.gb := by
  have h : ∀ (fuel : ℕ) (s : Tick α),
      pass true fuel s.cycles s.gb = (Rounds.loop round goesOn fuel s).map Tick.gb := by
    intro fuel
    induction fuel with
    | zero => exact fun _ => rfl
    | succ fuel ih =>
      intro s
      rw [pass, Rounds.loop]
      simp only [Bool.and_true]
      rw [apply_ite (Option.map Tick.gb), ← ih]
      rfl
  exact h fuel ⟨g, cycles, false⟩

/-- Something will end a halt: an interrupt that is pending already or whose source is at work, or, where no
interrupt is enabled, the end of the picture. -/
def Wakes (g : Gb α) : Prop := g.pending ≠ 0 ∨ g.sources &&& g.io ioIe ≠ 0 ∨ g.lcdEnabled ∧ g.io ioIe = 0

/-- What a halt leaves alone. -/
structure Running (g₀ : Gb α) (s : Tick α) : Prop where
  io : ∀ j ∉ tickRegisters, s.gb.io j = g₀.io j
  stat : s.gb.io ioStat &&& 0x78 = g₀.io ioStat &&& 0x78
  line : s.gb.io ioLy < lcdVertLines
  pos : 0 < s.cycles

theorem round_ticked (h : Running g₀ s) : Ticked s.cycles true s.gb (round s) := tick_ticked h.line

theorem round_running (h : Running g₀ s) : Running g₀ (round s) := by
  have ht := round_ticked h
  exact ⟨fun j hj => (ht.io j hj).trans (h.io j hj), ht.stat.trans h.stat, ht.line h.line, ht.pos h.pos⟩

theorem Running.lcdEnabled (h : Running g₀ s) : s.gb.lcdEnabled = g₀.lcdEnabled := by
  rw [Gb.lcdEnabled, h.io _ (by decide), Gb.lcdEnabled]

theorem Running.wanted {m : UInt8} (h : Running g₀ s) (hm : m &&& 0x78 = m) :
    s.gb.io ioStat &&& m = g₀.io ioStat &&& m := by
  rw [← hm, UInt8.and_comm m, ← UInt8.and_assoc, h.stat, UInt8.and_assoc]

theorem goesOn_iff : goesOn t = true ↔ t.leave = false ∧ t.gb.pending = 0 := by
  simp [goesOn]

/-- Where nothing wakes the processor, nothing does after a round. -/
theorem round_sleeps (hly : s.gb.io ioLy < lcdVertLines) (h : ¬s.gb.Wakes) :
    goesOn (round s) = true ∧ ¬(round s).gb.Wakes := by
  have ht : Ticked s.cycles true s.gb (round s) := tick_ticked hly
  simp only [Wakes, not_or, ne_eq, not_not, not_and] at h
  obtain ⟨hp, hs, hoff⟩ := h
  have hie : (round s).gb.io ioIe = s.gb.io ioIe := ht.io _ (by decide)
  have hsub := sources_subset ht.io ht.stat ht.transfer
  have hp' : (round s).gb.pending = 0 := by
    obtain ⟨c, hc, hif⟩ := ht.raises
    rw [pending, hie, hif, or_and_eq_zero]
    exact ⟨hp, and_eq_zero_of_subset hc hs⟩
  refine ⟨goesOn_iff.mpr ⟨?_, hp'⟩, ?_⟩
  · by_contra hl
    obtain ⟨hon, hz⟩ := ht.leave (by simpa using hl)
    exact hoff hon hz
  · simp only [Wakes, not_or, ne_eq, not_not, not_and, hie, ht.lcdEnabled]
    exact ⟨hp', and_eq_zero_of_subset hsub hs, hoff⟩

theorem sleeps_on (hly : g.io ioLy < lcdVertLines) (h : ¬g.Wakes) : ¬Rounds.Stops round goesOn ⟨g, cycles, false⟩ :=
  Rounds.not_stops (fun s : Tick α => s.gb.io ioLy < lcdVertLines ∧ ¬s.gb.Wakes)
    (fun s hs => by
      obtain ⟨hg, hw⟩ := round_sleeps hs.1 hs.2
      have ht : Ticked s.cycles true s.gb (round s) := tick_ticked hs.1
      exact ⟨hg, ht.line hs.1, hw⟩) ⟨hly, h⟩

/-! ### What ends a halt -/

theorem goesOn_clear (hb : b ∈ ([1, 2, 4, 8] : List UInt8)) (hie : t.gb.io ioIe &&& b ≠ 0) (h : goesOn t = true) :
    t.gb.io ioIf &&& b = 0 := by
  by_contra hif
  exact pending_of hb hie hif (goesOn_iff.mp h).2

theorem stops_pending (hly : g.io ioLy < lcdVertLines) (h : g.pending ≠ 0) :
    Rounds.Stops round goesOn ⟨g, cycles, false⟩ := by
  rw [Rounds.stops_iff]
  intro hg
  have ht : Ticked cycles true g (round ⟨g, cycles, false⟩) := tick_ticked hly
  have hp := (goesOn_iff.mp hg).2
  rw [pending, ht.io ioIe (by decide)] at hp
  exact absurd hp (ht.raises.kept h)

theorem stops_counted (htac : g₀.io ioTac &&& 0x4 ≠ 0) (hie : g₀.io ioIe &&& timerIntr ≠ 0) (hs : Running g₀ s)
    (hcount : s.gb.timaCount < tacCycles (g₀.io ioTac &&& 0x3)) : Rounds.Stops round goesOn s := by
  generalize hperiod : tacCycles (g₀.io ioTac &&& 0x3) = period at hcount
  refine Rounds.stops_of_rank (fun s => Running g₀ s ∧ s.gb.timaCount < period)
    (fun s => 256 * period - ((s.gb.io ioTima).toNat * period + s.gb.timaCount)) (fun s hs hg => ?_) ⟨hs, hcount⟩
  obtain ⟨hr, hle⟩ := hs
  have hr' := round_running hr
  have hclear := goesOn_clear (b := timerIntr) (by decide) (by rwa [hr'.io ioIe (by decide)]) hg
  have htac' := hr.io ioTac (by decide)
  obtain h | ⟨hlt, heq⟩ := (round_ticked hr).timer (by rwa [htac'])
  · exact absurd hclear h
  · rw [htac', hperiod] at hlt heq
    have hmax : ((round s).gb.io ioTima).toNat ≤ 255 := Nat.le_of_lt_succ (UInt8.toNat_lt _)
    have := Nat.mul_le_mul_right period hmax
    have hpos := hr.pos
    exact ⟨⟨hr', hlt⟩, by omega⟩

theorem stops_timer (htac : g₀.io ioTac &&& 0x4 ≠ 0) (hie : g₀.io ioIe &&& timerIntr ≠ 0) (hs : Running g₀ s) :
    Rounds.Stops round goesOn s := by
  rw [Rounds.stops_iff]
  intro hg
  have hs' := round_running hs
  have hclear := goesOn_clear (b := timerIntr) (by decide) (by rwa [hs'.io ioIe (by decide)]) hg
  have htac' := hs.io ioTac (by decide)
  obtain h | ⟨hlt, -⟩ := (round_ticked hs).timer (by rwa [htac'])
  · exact absurd hclear h
  · exact stops_counted htac hie hs' (by rwa [htac'] at hlt)

theorem stops_serial (h80 : s.gb.io ioSc &&& 0x80 ≠ 0) (h01 : s.gb.io ioSc &&& 0x01 ≠ 0)
    (hie : g₀.io ioIe &&& serialIntr ≠ 0) (hs : Running g₀ s) : Rounds.Stops round goesOn s := by
  refine Rounds.stops_of_rank
    (fun s => Running g₀ s ∧ s.gb.io ioSc &&& 0x80 ≠ 0 ∧ s.gb.io ioSc &&& 0x01 ≠ 0)
    (fun s => serialCycles - s.gb.serialCount) (fun s hs hg => ?_) ⟨hs, h80, h01⟩
  obtain ⟨hr, h80, h01⟩ := hs
  have hr' := round_running hr
  have hclear := goesOn_clear (b := serialIntr) (by decide) (by rwa [hr'.io ioIe (by decide)]) hg
  obtain h | ⟨hsc, heq, hlt⟩ := (round_ticked hr).serial h80 h01
  · exact absurd hclear h
  · have hpos := hr.pos
    rw [hsc]
    exact ⟨⟨hr', h80, h01⟩, by omega⟩

/-- The lines from one to another, the last one not counted. -/
def linesTo (k ly : UInt8) : ℕ := (153 + k.toNat - ly.toNat) % 154

theorem linesTo_following {ly : UInt8} (hly : ly < lcdVertLines) (hk : k < lcdVertLines) (hne : following ly ≠ k) :
    linesTo k (following ly) < linesTo k ly := by
  have h154 : lcdVertLines.toNat = 154 := rfl
  have h1 : (1 : UInt8).toNat = 1 := rfl
  have h0 : (0 : UInt8).toNat = 0 := rfl
  rw [UInt8.lt_iff_toNat_lt, h154] at hly hk
  have hf : (following ly).toNat = if ly.toNat = 153 then 0 else ly.toNat + 1 := by
    have hs : (ly + 1).toNat = ly.toNat + 1 := by rw [UInt8.toNat_add, h1]; omega
    unfold following
    by_cases h : ly + 1 = lcdVertLines
    · rw [if_pos h, if_pos (by rw [h, h154] at hs; omega), h0]
    · rw [if_neg h, if_neg fun h' => h (UInt8.toNat_inj.mp (by rw [hs, h154, h']))]
      exact hs
  have hne' : (following ly).toNat ≠ k.toNat := fun h => hne (UInt8.toNat_inj.mp h)
  unfold linesTo
  rw [hf] at hne' ⊢
  split_ifs at hne' ⊢ <;> omega

/-- A halt with the screen on comes to every line, if it lasts. -/
theorem stops_at_line (hk : k < lcdVertLines) (hon : g₀.lcdEnabled)
    (h : ∀ s, Running g₀ s → NewLine s.cycles true s.gb (round s) → (round s).gb.io ioLy = k → goesOn (round s) = true →
      Rounds.Stops round goesOn (round s)) (hs : Running g₀ s) : Rounds.Stops round goesOn s := by
  induction hr : linesTo k (s.gb.io ioLy) * 457 + (456 - s.gb.lcdCount) using Nat.strong_induction_on generalizing s with
  | _ r ih =>
    subst hr
    rw [Rounds.stops_iff]
    intro hg
    obtain ⟨-, hw | hn⟩ := (round_ticked hs).on (by rw [hs.lcdEnabled]; exact hon)
    · refine ih _ ?_ (round_running hs) rfl
      have hlt : s.gb.lcdCount + s.cycles < 456 := hw.lt
      have hpos := hs.pos
      rw [hw.ly, hw.count]
      omega
    · by_cases hline : (round s).gb.io ioLy = k
      · exact h s hs hn hline hg
      · refine ih _ ?_ (round_running hs) rfl
        have := linesTo_following hs.line hk (by rwa [hn.ly] at hline)
        rw [hn.ly]
        omega

theorem stops_vblank (hon : g₀.lcdEnabled)
    (h : g₀.io ioIe = 0 ∨ g₀.io ioIe &&& vblankIntr ≠ 0 ∨ g₀.io ioIe &&& lcdcIntr ≠ 0 ∧ g₀.io ioStat &&& 0x10 ≠ 0)
    (hs : Running g₀ s) : Rounds.Stops round goesOn s := by
  refine stops_at_line (k := lcdHeight) (by decide) hon (fun s hs hn hline hg => ?_) hs
  have hr := round_running hs
  obtain ⟨-, hv, hl, hleave⟩ := hn.vblank hline
  obtain hz | hz | ⟨hz, hw⟩ := h
  · rw [hs.io ioIe (by decide), hz] at hleave
    simp [goesOn, hleave] at hg
  · exact absurd (goesOn_clear (by decide) (by rwa [hr.io ioIe (by decide)]) hg) hv
  · refine absurd (goesOn_clear (by decide) (by rwa [hr.io ioIe (by decide)]) hg) (hl ?_)
    rwa [hs.wanted (by decide)]

theorem stops_line (hon : g₀.lcdEnabled) (hie : g₀.io ioIe &&& lcdcIntr ≠ 0) (hw : g₀.io ioStat &&& 0x40 ≠ 0)
    (hk : g₀.io ioLyc < lcdVertLines) (hs : Running g₀ s) : Rounds.Stops round goesOn s := by
  refine stops_at_line hk hon (fun s hs hn hline hg => ?_) hs
  have hr := round_running hs
  refine absurd (goesOn_clear (by decide) (by rwa [hr.io ioIe (by decide)]) hg) (hn.awaited ?_ ?_)
  · rw [hline, hs.io ioLyc (by decide)]
  · rwa [hs.wanted (by decide)]

theorem stops_scan (hon : g₀.lcdEnabled) (hie : g₀.io ioIe &&& lcdcIntr ≠ 0) (hw : g₀.io ioStat &&& 0x20 ≠ 0)
    (hs : Running g₀ s) : Rounds.Stops round goesOn s := by
  refine stops_at_line (k := 0) (by decide) hon (fun s hs hn hline hg => ?_) hs
  have hr := round_running hs
  refine absurd (goesOn_clear (by decide) (by rwa [hr.io ioIe (by decide)]) hg)
    ((hn.visible (by rw [hline]; decide)).2.2.2 ?_)
  rwa [hs.wanted (by decide)]

theorem round_on (hon : s.gb.lcdEnabled) : round s = (s.gb.devices s.cycles).screenTick s.cycles true := by
  rw [round, tick]
  exact if_pos (by rwa [devices_only.lcdEnabled])

/-- The times at which a halt looks at a line that is drawn. -/
theorem stops_drawn (hon : g₀.lcdEnabled) (hie : g₀.io ioIe &&& lcdcIntr ≠ 0) (hw : g₀.io ioStat &&& 0x08 ≠ 0)
    (hs : Running g₀ s) (hm : s.gb.statMode = 2) (hn : s.gb.lcdCount = 0) (hc : s.cycles = oamScanDuration) :
    Rounds.Stops round goesOn s := by
  have hmode : ∀ s : Tick α, (s.gb.devices s.cycles).statMode = s.gb.statMode ∧
      (s.gb.devices s.cycles).lcdCount = s.gb.lcdCount := fun s =>
    ⟨congrArg (· &&& 3) (devices_only.io _ (by decide)), devices_only.count⟩
  -- at 80 cycles the line is drawn, at 172 nothing happens, and at 264 the drawing is over
  obtain ⟨hm₀, hn₀⟩ := hmode s
  have h₁ := (round_on (by rw [hs.lcdEnabled]; exact hon)).trans (screenTick_draw (hm₀.trans hm)
    (by rw [hn₀, hn, hc]; decide) (by rw [hn₀, hn, hc]; decide))
  have hs₁ := round_running hs
  have hmode₁ : (round s).gb.statMode = 3 := by rw [h₁]; exact setMode_statMode (by decide)
  have hcount₁ : (round s).gb.lcdCount = 80 ∧ (round s).cycles = 92 := by
    rw [h₁, hn₀, hn, hc]
    exact ⟨by show (s.gb.devices _).lcdCount + _ = 80; rw [← hc, hn₀, hn, hc]; rfl, rfl⟩
  obtain ⟨hm₁, hn₁⟩ := hmode (round s)
  have h₂ := (round_on (by rw [hs₁.lcdEnabled]; exact hon)).trans (screenTick_wait (hm₁.trans hmode₁)
    (by rw [hn₁, hcount₁.1, hcount₁.2]; decide))
  have hs₂ := round_running hs₁
  have hmode₂ : (round (round s)).gb.statMode = 3 := by rw [h₂]; exact hm₁.trans hmode₁
  have hcount₂ : (round (round s)).gb.lcdCount = 172 ∧ (round (round s)).cycles = 92 := by
    rw [h₂]
    exact ⟨by show ((round s).gb.devices _).lcdCount + _ = 172; rw [hn₁, hcount₁.1, hcount₁.2], hcount₁.2⟩
  obtain ⟨hm₂, hn₂⟩ := hmode (round (round s))
  have hs₃ := round_running hs₂
  have hif : (round (round (round s))).gb.io ioIf &&& lcdcIntr ≠ 0 := by
    rw [round_on (s := round (round s)) (by rw [hs₂.lcdEnabled]; exact hon)]
    refine screenTick_hblank (hm₂.trans hmode₂) (by rw [hn₂, hcount₂.1, hcount₂.2]; decide)
      (by rw [hn₂, hcount₂.1, hcount₂.2]; decide) ?_
    rwa [devices_only.io _ (by decide), hs₂.wanted (by decide)]
  refine Rounds.stops_iff.mpr fun _ => Rounds.stops_iff.mpr fun _ => Rounds.stops_iff.mpr fun hg => ?_
  exact absurd (goesOn_clear (by decide) (by rwa [hs₃.io ioIe (by decide)]) hg) hif

theorem stops_hblank (hon : g₀.lcdEnabled) (hie : g₀.io ioIe &&& lcdcIntr ≠ 0) (hw : g₀.io ioStat &&& 0x08 ≠ 0)
    (hs : Running g₀ s) : Rounds.Stops round goesOn s :=
  stops_at_line (k := 0) (by decide) hon (fun s hs hn hline _ => by
    obtain ⟨hcount, hcycles, hm, -⟩ := hn.visible (by rw [hline]; decide)
    exact stops_drawn hon hie hw (round_running hs) hm hcount hcycles) hs

theorem stops_lcdc (hon : g₀.lcdEnabled) (hie : g₀.io ioIe &&& lcdcIntr ≠ 0)
    (hw : g₀.io ioStat &&& 0x38 ≠ 0 ∨ g₀.io ioStat &&& 0x40 ≠ 0 ∧ g₀.io ioLyc < lcdVertLines) (hs : Running g₀ s) :
    Rounds.Stops round goesOn s := by
  obtain hw | ⟨hw, hk⟩ := hw
  · have hsplit : (0x38 : UInt8) = 0x10 ||| (0x20 ||| 0x08) := rfl
    rw [hsplit, ne_eq, and_or_eq_zero, and_or_eq_zero] at hw
    by_cases h1 : g₀.io ioStat &&& 0x10 = 0
    · by_cases h2 : g₀.io ioStat &&& 0x20 = 0
      · exact stops_hblank hon hie (fun h3 => hw ⟨h1, h2, h3⟩) hs
      · exact stops_scan hon hie h2 hs
    · exact stops_vblank hon (.inr (.inr ⟨hie, h1⟩)) hs
  · exact stops_line hon hie hw hk hs

theorem sources_cases (h : g.sources &&& b ≠ 0) :
    g.lcdEnabled ∧ b &&& vblankIntr ≠ 0 ∨
    (g.lcdEnabled ∧ (g.io ioStat &&& 0x38 ≠ 0 ∨ g.io ioStat &&& 0x40 ≠ 0 ∧ g.io ioLyc < lcdVertLines)) ∧
      b &&& lcdcIntr ≠ 0 ∨
    g.io ioTac &&& 0x4 ≠ 0 ∧ b &&& timerIntr ≠ 0 ∨
    (g.io ioSc &&& 0x80 ≠ 0 ∧ g.io ioSc &&& 0x01 ≠ 0) ∧ b &&& serialIntr ≠ 0 := by
  have hite : ∀ (p : Prop) [Decidable p] (c : UInt8), ¬(p ∧ b &&& c ≠ 0) → (if p then c else 0) &&& b = 0 := by
    intro p _ c hn
    by_cases hp : p
    · rw [if_pos hp, UInt8.and_comm]
      by_contra hc
      exact hn ⟨hp, hc⟩
    · rw [if_neg hp]
      exact UInt8.zero_and
  by_contra hn
  simp only [not_or] at hn
  obtain ⟨h1, h2, h3, h4⟩ := hn
  apply h
  rw [sources, or_and_eq_zero, or_and_eq_zero, or_and_eq_zero]
  exact ⟨⟨⟨hite _ _ h1, hite _ _ h2⟩, hite _ _ h3⟩, hite _ _ h4⟩

/-- A halt ends where something wakes the processor. -/
theorem wakes_stops (hly : g.io ioLy < lcdVertLines) (hc : 0 < cycles) (h : g.Wakes) :
    Rounds.Stops round goesOn ⟨g, cycles, false⟩ := by
  have hs : Running g ⟨g, cycles, false⟩ := ⟨fun _ _ => rfl, rfl, hly, hc⟩
  obtain hp | hsrc | ⟨hon, hz⟩ := h
  · exact stops_pending hly hp
  · obtain ⟨hon, hb⟩ | ⟨⟨hon, hw⟩, hb⟩ | ⟨htac, hb⟩ | ⟨⟨h80, h01⟩, hb⟩ := sources_cases hsrc
    · exact stops_vblank hon (.inr (.inl hb)) hs
    · exact stops_lcdc hon hb hw hs
    · exact stops_timer htac hb hs
    · exact stops_serial h80 h01 hb hs
  · exact stops_vblank hon (.inl hz) hs

theorem stops_iff_wakes (hly : g.io ioLy < lcdVertLines) (hc : 0 < cycles) :
    (∃ fuel, (pass true fuel cycles g).isSome) ↔ g.Wakes := by
  have h : (∃ fuel, (pass true fuel cycles g).isSome) ↔ Rounds.Stops round goesOn ⟨g, cycles, false⟩ :=
    exists_congr fun fuel => by rw [pass_eq, Option.isSome_map]
  rw [h]
  constructor
  · intro hstop
    by_contra hw
    exact sleeps_on hly hw hstop
  · exact wakes_stops hly hc

end Gb
end MonsterMesh.PeanutGb
