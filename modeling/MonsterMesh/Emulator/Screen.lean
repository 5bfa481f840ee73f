import MonsterMesh.Emulator.Devices

/-! The lines of the screen: what a round of the clock does to them. -/
namespace MonsterMesh.PeanutGb.Gb

variable {α : Type} {g g' g'' : Gb α} {cycles : ℕ} {b c k : UInt8} {halt : Bool}

/-- The registers of the screen. -/
def screenRegisters : List ℕ := [ioLy, ioStat, ioIf]

structure Redrawn (b : UInt8) (g g' : Gb α) : Prop extends Apart screenRegisters g g' where
  /-- The bits that say which interrupts are wanted. -/
  stat : g'.io ioStat &&& 0x78 = g.io ioStat &&& 0x78
  raises : Raises b g g'

theorem Redrawn.refl : Redrawn b g g := ⟨.refl, rfl, .same rfl⟩

theorem Redrawn.trans (h : Redrawn b g g') (h' : Redrawn b g' g'') : Redrawn b g g'' :=
  ⟨h.toApart.trans h'.toApart, h'.stat.trans h.stat, h.raises.trans h'.raises⟩

/-- What is wanted is asked of any of the bits together. -/
theorem Redrawn.wanted (h : Redrawn b g g') (hm : k &&& 0x78 = k) :
    g'.io ioStat &&& k = g.io ioStat &&& k := by
  rw [← hm, UInt8.and_comm k, ← UInt8.and_assoc, h.stat, UInt8.and_assoc]

theorem redrawn_setLy : Redrawn b g (g.setIo ioLy c) :=
  ⟨apart_setIo (by decide), congrArg (· &&& 0x78) ((io_setIo _).trans (if_neg (by decide))),
    .same ((io_setIo _).trans (if_neg (by decide)))⟩

theorem redrawn_setStat (h : c &&& 0x78 = g.io ioStat &&& 0x78) : Redrawn b g (g.setIo ioStat c) :=
  ⟨apart_setIo (by decide), by rw [io_setIo, if_pos rfl, h], .same ((io_setIo _).trans (if_neg (by decide)))⟩

theorem redrawn_raise (h : c &&& b = c) : Redrawn b g (g.raise c) :=
  ⟨apart_setIo (by decide), congrArg (· &&& 0x78) ((io_setIo _).trans (if_neg (by decide))), raises_raise h⟩

theorem redrawn_statIntr (h : g.io ioStat &&& k ≠ 0 → lcdcIntr &&& b = lcdcIntr) :
    Redrawn b g (g.statIntr k) := by
  unfold statIntr
  split
  case isTrue hm => exact redrawn_raise (h hm)
  case isFalse => exact .refl

theorem redrawn_setMode {k : UInt8} (hm : k &&& 0x78 = 0) : Redrawn b g (g.setMode k) := by
  refine redrawn_setStat ?_
  rw [or_and, hm, UInt8.or_zero, UInt8.and_assoc]
  rfl

theorem statIntr_io {j : ℕ} (hj : j ≠ ioIf) : (g.statIntr k).io j = g.io j := by
  unfold statIntr
  split
  · exact (io_setIo _).trans (if_neg hj)
  · rfl

theorem setMode_io {j : ℕ} {k : UInt8} (hj : j ≠ ioStat) : (g.setMode k).io j = g.io j :=
  (io_setIo _).trans (if_neg hj)

theorem raise_io {j : ℕ} (hj : j ≠ ioIf) : (g.raise c).io j = g.io j := (io_setIo _).trans (if_neg hj)

theorem statIntr_raised (h : g.io ioStat &&& k ≠ 0) : (g.statIntr k).io ioIf &&& lcdcIntr ≠ 0 := by
  rw [statIntr, if_pos h]
  exact raise_raised (by decide)

theorem statIntr_fields : (g.statIntr k).lcdCount = g.lcdCount ∧ (g.statIntr k).gbFrame = g.gbFrame := by
  unfold statIntr
  split <;> exact ⟨rfl, rfl⟩

theorem setMode_statMode {k : UInt8} (hm : k &&& 3 = k) : (g.setMode k).statMode = k := by
  have : (g.setMode k).statMode = (g.io ioStat &&& 0xFC ||| k) &&& 3 :=
    congrArg (· &&& 3) ((io_setIo _).trans (if_pos rfl))
  rw [this, or_and, hm, UInt8.and_assoc, show (0xFC : UInt8) &&& 3 = 0 from rfl, UInt8.and_zero]
  exact UInt8.zero_or

/-! ### A new line -/

/-- The number of the line that follows. -/
def following (ly : UInt8) : UInt8 := if ly + 1 = lcdVertLines then 0 else ly + 1

theorem following_lt {ly : UInt8} (h : ly < lcdVertLines) : following ly < lcdVertLines := by
  unfold following
  split
  · decide
  · have hne : ¬(ly + 1).toNat = 154 := fun h' => ‹¬ly + 1 = lcdVertLines› (UInt8.toNat_inj.mp h')
    rw [UInt8.lt_iff_toNat_lt] at h ⊢
    have h1 : (1 : UInt8).toNat = 1 := rfl
    have h154 : lcdVertLines.toNat = 154 := rfl
    rw [UInt8.toNat_add] at hne ⊢
    omega

theorem lcdc_source (hon : g.lcdEnabled)
    (h : g.io ioStat &&& 0x38 ≠ 0 ∨ g.io ioStat &&& 0x40 ≠ 0 ∧ g.io ioLyc < lcdVertLines) :
    lcdcIntr &&& g.sources = lcdcIntr := by
  rw [sources, if_pos hon, if_pos ⟨hon, h⟩]
  split_ifs <;> decide

theorem vblank_source (hon : g.lcdEnabled) : vblankIntr &&& g.sources = vblankIntr := by
  rw [sources, if_pos hon]
  split_ifs <;> decide

theorem wanted_of {x : UInt8} (hm : k &&& 0x38 = k) (h : x &&& k ≠ 0) : x &&& 0x38 ≠ 0 := by
  intro hz
  apply h
  rw [← hm, UInt8.and_comm k, ← UInt8.and_assoc, hz]
  exact UInt8.zero_and

theorem countLine_ly : g.countLine.io ioLy = following (g.io ioLy) := by
  simp only [countLine, io, setIo, following, and_self, if_true]

theorem countLine_io {j : ℕ} (hj : j ≠ ioLy) : g.countLine.io j = g.io j := by
  simp only [countLine, io, setIo, hj, and_false, if_false]

theorem countLine_redrawn : Redrawn b g g.countLine where
  io j hj := countLine_io fun h => hj (h ▸ by decide)
  cart := rfl
  save := rfl
  bank := rfl
  off := rfl
  serial _ := rfl
  tima _ := rfl
  stat := by rw [countLine_io (by decide)]
  raises := .same (countLine_io (by decide))

/-- The line that is waited for may have come. -/
theorem compareLine_redrawn (h : g.io ioLy = g.io ioLyc → g.io ioStat &&& 0x40 ≠ 0 → lcdcIntr &&& b = lcdcIntr) :
    Redrawn b g g.compareLine := by
  unfold compareLine
  split
  case isTrue hl =>
    have h4 : (g.io ioStat ||| 0x04) &&& 0x78 = g.io ioStat &&& 0x78 := by
      rw [or_and]
      exact UInt8.or_zero
    have hs := redrawn_setStat (b := b) h4
    refine hs.trans (redrawn_statIntr fun hm => h hl ?_)
    rwa [hs.wanted (by decide)] at hm
  case isFalse =>
    refine redrawn_setStat ?_
    rw [UInt8.and_assoc]
    rfl

theorem compareLine_io {j : ℕ} (hs : j ≠ ioStat) (hi : j ≠ ioIf) : g.compareLine.io j = g.io j := by
  unfold compareLine
  split
  · exact (statIntr_io hi).trans ((io_setIo _).trans (if_neg hs))
  · exact (io_setIo _).trans (if_neg hs)

theorem compareLine_fields : g.compareLine.lcdCount = g.lcdCount ∧ g.compareLine.gbFrame = g.gbFrame := by
  unfold compareLine
  split
  · exact statIntr_fields
  · exact ⟨rfl, rfl⟩

theorem compareLine_raised (hl : g.io ioLy = g.io ioLyc) (hw : g.io ioStat &&& 0x40 ≠ 0) :
    g.compareLine.io ioIf &&& lcdcIntr ≠ 0 := by
  rw [compareLine, if_pos hl]
  refine statIntr_raised ?_
  rw [io_setIo, if_pos rfl]
  exact fun hz => hw (or_and_eq_zero.mp hz).1

theorem nextLine_ly : g.nextLine.io ioLy = following (g.io ioLy) :=
  (compareLine_io (by decide) (by decide)).trans countLine_ly

theorem nextLine_redrawn (hon : g.lcdEnabled) (hly : g.io ioLy < lcdVertLines) : Redrawn g.sources g g.nextLine := by
  refine countLine_redrawn.trans (compareLine_redrawn fun hl hw => lcdc_source hon (.inr ⟨?_, ?_⟩))
  · rwa [countLine_io (by decide)] at hw
  · rw [countLine_ly, countLine_io (by decide)] at hl
    rw [← hl]
    exact following_lt hly

theorem nextLine_raised (hl : following (g.io ioLy) = g.io ioLyc) (hw : g.io ioStat &&& 0x40 ≠ 0) :
    g.nextLine.io ioIf &&& lcdcIntr ≠ 0 := by
  refine compareLine_raised ?_ ?_
  · rw [countLine_ly, countLine_io (by decide), hl]
  · rwa [countLine_io (by decide)]

theorem nextLine_fields :
    g.nextLine.lcdCount = g.lcdCount - lcdLineCycles ∧ g.nextLine.gbFrame = g.gbFrame := by
  obtain ⟨hc, hf⟩ := compareLine_fields (g := g.countLine)
  exact ⟨hc, hf⟩

theorem redrawn_vblank (hv : vblankIntr &&& b = vblankIntr)
    (h : g.io ioStat &&& 0x10 ≠ 0 → lcdcIntr &&& b = lcdcIntr) : Redrawn b g g.enterVblank := by
  have h₁ : Redrawn b g ((g.setMode 1).raise vblankIntr) := (redrawn_setMode (by decide)).trans (redrawn_raise hv)
  have h₂ := h₁.trans (redrawn_statIntr (k := 0x10) fun hm => h (by rwa [h₁.wanted (by decide)] at hm))
  exact ⟨⟨h₂.io, h₂.cart, h₂.save, h₂.bank, h₂.off, h₂.serial, h₂.tima⟩, h₂.stat, h₂.raises⟩

theorem vblank_raised : g.enterVblank.io ioIf &&& vblankIntr ≠ 0 := by
  have h : Raises lcdcIntr ((g.setMode 1).raise vblankIntr) (((g.setMode 1).raise vblankIntr).statIntr 0x10) := by
    unfold statIntr
    split
    · exact raises_raise (by decide)
    · exact .same rfl
  exact h.kept (raise_raised (by decide))

theorem vblank_lcdc (hw : g.io ioStat &&& 0x10 ≠ 0) : g.enterVblank.io ioIf &&& lcdcIntr ≠ 0 := by
  have h : Redrawn vblankIntr g ((g.setMode 1).raise vblankIntr) :=
    (redrawn_setMode (by decide)).trans (redrawn_raise (by decide))
  exact statIntr_raised (g := (g.setMode 1).raise vblankIntr) (by rwa [h.wanted (by decide)])

theorem vblank_fields : g.enterVblank.lcdCount = g.lcdCount ∧ g.enterVblank.io ioLy = g.io ioLy := by
  refine ⟨(statIntr_fields (g := (g.setMode 1).raise vblankIntr)).1, ?_⟩
  exact ((statIntr_io (g := (g.setMode 1).raise vblankIntr) (by decide)).trans (raise_io (by decide))).trans
    (setMode_io (by decide))

/-- What happens at the start of a line that is seen. -/
def beginLine (g : Gb α) : Gb α := { g.setMode 2 with lcdCount := 0 }.statIntr 0x20

theorem statIntr_statMode : (g.statIntr k).statMode = g.statMode := by
  rw [statMode, statIntr_io (by decide), statMode]

theorem scan_redrawn : Redrawn b g { g.setMode 2 with lcdCount := 0 } :=
  have h := redrawn_setMode (g := g) (b := b) (k := 2) (by decide)
  ⟨⟨h.io, h.cart, h.save, h.bank, h.off, h.serial, h.tima⟩, h.stat, h.raises⟩

theorem beginLine_redrawn (h : g.io ioStat &&& 0x20 ≠ 0 → lcdcIntr &&& b = lcdcIntr) : Redrawn b g g.beginLine :=
  (scan_redrawn (b := b)).trans (redrawn_statIntr fun hm => h (by rwa [scan_redrawn.wanted (b := b) (by decide)] at hm))

theorem beginLine_raised (h : g.io ioStat &&& 0x20 ≠ 0) : g.beginLine.io ioIf &&& lcdcIntr ≠ 0 :=
  statIntr_raised (by rwa [scan_redrawn.wanted (b := 0) (by decide)])

theorem beginLine_spec : g.beginLine.lcdCount = 0 ∧ g.beginLine.gbFrame = g.gbFrame ∧
    g.beginLine.io ioLy = g.io ioLy ∧ g.beginLine.statMode = 2 :=
  ⟨statIntr_fields.1, statIntr_fields.2,
    (statIntr_io (by decide)).trans (setMode_io (g := g) (j := ioLy) (k := 2) (by decide)),
    statIntr_statMode.trans (setMode_statMode (g := g) (by decide))⟩

/-- A line has begun. -/
structure NewLine (cycles : ℕ) (halt : Bool) (g : Gb α) (t : Tick α) : Prop where
  due : lcdLineCycles ≤ g.lcdCount + cycles
  ly : t.gb.io ioLy = following (g.io ioLy)
  count : t.gb.lcdCount ≤ g.lcdCount + cycles - lcdLineCycles
  awaited : t.gb.io ioLy = g.io ioLyc → g.io ioStat &&& 0x40 ≠ 0 → t.gb.io ioIf &&& lcdcIntr ≠ 0
  vblank : t.gb.io ioLy = lcdHeight → t.gb.gbFrame = true ∧ t.gb.io ioIf &&& vblankIntr ≠ 0 ∧
    (g.io ioStat &&& 0x10 ≠ 0 → t.gb.io ioIf &&& lcdcIntr ≠ 0) ∧ t.leave = (halt && g.io ioIe = 0)
  other : t.gb.io ioLy ≠ lcdHeight → t.gb.gbFrame = g.gbFrame ∧ t.leave = false
  visible : t.gb.io ioLy < lcdHeight → t.gb.lcdCount = 0 ∧ t.cycles = oamScanDuration ∧ t.gb.statMode = 2 ∧
    (g.io ioStat &&& 0x20 ≠ 0 → t.gb.io ioIf &&& lcdcIntr ≠ 0)

/-- A round within a line. -/
structure WithinLine (cycles : ℕ) (g : Gb α) (t : Tick α) : Prop where
  ly : t.gb.io ioLy = g.io ioLy
  count : t.gb.lcdCount = g.lcdCount + cycles
  lt : g.lcdCount + cycles < lcdLineCycles
  frame : t.gb.gbFrame = g.gbFrame
  leave : t.leave = false

structure Scanned (cycles : ℕ) (halt : Bool) (g : Gb α) (t : Tick α) : Prop where
  redrawn : Redrawn g.sources g t.gb
  pos : 0 < cycles → 0 < t.cycles
  le : t.cycles ≤ max cycles hblankDuration
  line : WithinLine cycles g t ∨ NewLine cycles halt g t

/-- The time of the line, counted on. -/
def advance (g : Gb α) (cycles : ℕ) : Gb α := { g with lcdCount := g.lcdCount + cycles }

theorem advance_redrawn : Redrawn b g (g.advance cycles) :=
  ⟨⟨fun _ _ => rfl, rfl, rfl, rfl, rfl, fun _ => rfl, fun _ => rfl⟩, rfl, .same rfl⟩

theorem advance_sources : (g.advance cycles).sources = g.sources := rfl

theorem lineTick_scanned (hon : g.lcdEnabled) (hly : g.io ioLy < lcdVertLines)
    (hdue : lcdLineCycles ≤ g.lcdCount + cycles) :
    Scanned cycles halt g ((g.advance cycles).lineTick cycles halt) := by
  set n := (g.advance cycles).nextLine with hn
  have hr : Redrawn g.sources g n := by
    have h := nextLine_redrawn (g := g.advance cycles) hon hly
    rw [advance_sources] at h
    exact advance_redrawn.trans h
  have hl : n.io ioLy = following (g.io ioLy) := nextLine_ly
  obtain ⟨hcount, hframe⟩ := nextLine_fields (g := g.advance cycles)
  rw [← hn] at hcount hframe
  have haw : n.io ioLy = g.io ioLyc → g.io ioStat &&& 0x40 ≠ 0 → n.io ioIf &&& lcdcIntr ≠ 0 := fun h hw =>
    nextLine_raised (g := g.advance cycles) (hl.symm.trans h) hw
  have hle : n.lcdCount ≤ g.lcdCount + cycles - lcdLineCycles := hcount.le
  unfold lineTick
  dsimp only
  rw [← hn]
  split
  case isTrue hv =>
    have hv' : Redrawn g.sources n n.enterVblank := redrawn_vblank (vblank_source hon) fun hm =>
      lcdc_source hon (.inl (wanted_of (k := 0x10) (by decide) (by rwa [hr.wanted (by decide)] at hm)))
    obtain ⟨hc, hy⟩ := vblank_fields (g := n)
    refine ⟨hr.trans hv', fun h => h, Nat.le_max_left _ _, .inr ⟨hdue, hy.trans hl, hc.le.trans hle, fun h hw => ?_,
      fun _ => ⟨rfl, vblank_raised, fun hw => vblank_lcdc (by rwa [hr.wanted (by decide)]), ?_⟩, fun h => ?_,
      fun h => ?_⟩⟩
    · exact hv'.raises.kept (haw (hy.symm.trans h) hw)
    · rw [hr.io ioIe (by decide)]
    · exact absurd (hy.trans hv) h
    · rw [hy, hv] at h
      exact absurd h (by decide)
  case isFalse hv =>
  split
  case isTrue hlt =>
    have hb : Redrawn g.sources n n.beginLine := beginLine_redrawn fun hm =>
      lcdc_source hon (.inl (wanted_of (k := 0x20) (by decide) (by rwa [hr.wanted (by decide)] at hm)))
    obtain ⟨hc, hf, hy, hmode⟩ := beginLine_spec (g := n)
    refine ⟨hr.trans hb, fun _ => (show 0 < oamScanDuration by decide),
      (show oamScanDuration ≤ hblankDuration by decide).trans (Nat.le_max_right _ _),
      .inr ⟨hdue, hy.trans hl, hc.le.trans (Nat.zero_le _), fun h hw => ?_, fun h => ?_, fun _ => ⟨hf.trans hframe, rfl⟩,
        fun _ => ⟨hc, rfl, hmode, fun h => beginLine_raised (by rwa [hr.wanted (by decide)])⟩⟩⟩
    · exact hb.raises.kept (haw (hy.symm.trans h) hw)
    · exact absurd (hy.symm.trans h) hv
  case isFalse hlt =>
    exact ⟨hr, fun h => h, Nat.le_max_left _ _, .inr ⟨hdue, hl, hle, haw, fun h => absurd h hv, fun _ => ⟨hframe, rfl⟩,
      fun h => absurd h hlt⟩⟩

theorem screenTick_scanned (hon : g.lcdEnabled) (hly : g.io ioLy < lcdVertLines) :
    Scanned cycles halt g (g.screenTick cycles halt) := by
  set a := g.advance cycles with ha
  have hr : Redrawn g.sources g a := advance_redrawn
  show Scanned cycles halt g (if lcdLineCycles ≤ a.lcdCount then a.lineTick cycles halt else _)
  split
  case isTrue hd => exact lineTick_scanned hon hly hd
  case isFalse hd =>
  have hlt : g.lcdCount + cycles < lcdLineCycles := not_le.mp hd
  split
  case isTrue h3 =>
    have hm := hr.trans (redrawn_setMode (g := a) (k := 0) (by decide))
    have hs : Redrawn g.sources (a.setMode 0) ((a.setMode 0).statIntr 0x08) := redrawn_statIntr fun h => lcdc_source hon
      (.inl (wanted_of (k := 0x08) (by decide) (by rwa [hm.wanted (by decide)] at h)))
    obtain ⟨hc, hf⟩ := statIntr_fields (g := a.setMode 0) (k := 0x08)
    refine ⟨hm.trans hs, fun hp => ?_, ?_, .inl ⟨?_, hc, hlt, hf, rfl⟩⟩
    · dsimp only
      split <;> omega
    · dsimp only
      split
      · exact (Nat.sub_le _ _).trans (Nat.le_max_right _ _)
      · exact Nat.le_max_left _ _
    · exact (statIntr_io (by decide)).trans (setMode_io (g := a) (by decide))
  case isFalse h3 =>
  split
  case isTrue h2 =>
    refine ⟨hr.trans (redrawn_setMode (by decide)), fun hp => ?_, ?_, .inl ⟨setMode_io (g := a) (by decide), rfl, hlt, rfl,
      rfl⟩⟩
    · dsimp only
      split <;> omega
    · dsimp only
      split
      · exact ((Nat.sub_le _ _).trans (by decide)).trans (Nat.le_max_right _ _)
      · exact Nat.le_max_left _ _
  case isFalse h2 => exact ⟨hr, fun h => h, Nat.le_max_left _ _, .inl ⟨rfl, rfl, hlt, rfl, rfl⟩⟩

/-! ### The modes within a line -/

theorem screenTick_eq : g.screenTick cycles halt =
    if lcdLineCycles ≤ g.lcdCount + cycles then (g.advance cycles).lineTick cycles halt
    else if g.statMode = 3 ∧ lcdDrawEnd ≤ g.lcdCount + cycles then
      ⟨((g.advance cycles).setMode 0).statIntr 0x08,
        if g.lcdCount + cycles < hblankDuration then hblankDuration - (g.lcdCount + cycles) else cycles, false⟩
    else if g.statMode = 2 ∧ oamScanDuration ≤ g.lcdCount + cycles then
      ⟨(g.advance cycles).setMode 3,
        if g.lcdCount + cycles < lcdDrawDuration then lcdDrawDuration - (g.lcdCount + cycles) else cycles, false⟩
    else ⟨g.advance cycles, cycles, false⟩ := rfl

theorem screenTick_draw (hm : g.statMode = 2) (hn : oamScanDuration ≤ g.lcdCount + cycles)
    (hlt : g.lcdCount + cycles < lcdDrawDuration) : g.screenTick cycles halt =
      ⟨(g.advance cycles).setMode 3, lcdDrawDuration - (g.lcdCount + cycles), false⟩ := by
  have h456 : ¬lcdLineCycles ≤ g.lcdCount + cycles := not_le.mpr (hlt.trans (by decide))
  have h3 : ¬(g.statMode = 3 ∧ lcdDrawEnd ≤ g.lcdCount + cycles) := by
    rw [hm]
    exact fun h => absurd h.1 (by decide)
  rw [screenTick_eq, if_neg h456, if_neg h3, if_pos ⟨hm, hn⟩, if_pos hlt]

theorem screenTick_wait (hm : g.statMode = 3) (hlt : g.lcdCount + cycles < lcdDrawEnd) :
    g.screenTick cycles halt = ⟨g.advance cycles, cycles, false⟩ := by
  have h456 : ¬lcdLineCycles ≤ g.lcdCount + cycles := not_le.mpr (hlt.trans (by decide))
  have h2 : ¬(g.statMode = 2 ∧ oamScanDuration ≤ g.lcdCount + cycles) := by
    rw [hm]
    exact fun h => absurd h.1 (by decide)
  rw [screenTick_eq, if_neg h456, if_neg fun h => not_le.mpr hlt h.2, if_neg h2]

theorem screenTick_hblank (hm : g.statMode = 3) (hn : lcdDrawEnd ≤ g.lcdCount + cycles)
    (hlt : g.lcdCount + cycles < lcdLineCycles) (hw : g.io ioStat &&& 0x08 ≠ 0) :
    (g.screenTick cycles halt).gb.io ioIf &&& lcdcIntr ≠ 0 := by
  rw [screenTick_eq, if_neg (not_le.mpr hlt), if_pos ⟨hm, hn⟩]
  refine statIntr_raised (g := (g.advance cycles).setMode 0) ?_
  rwa [(redrawn_setMode (b := 0) (g := g.advance cycles) (k := 0) (by decide)).wanted (by decide)]

end MonsterMesh.PeanutGb.Gb
