import MonsterMesh.Emulator.Cycles
import MonsterMesh.Emulator.Halts

/-! Whole frames: what holds at their end, and when they end. -/
namespace MonsterMesh.PeanutGb

open Interaction

namespace Gb

variable {α : Type} {g g' g₁ : Gb α} {s t : Tick α} {cycles fuel : ℕ} {halt : Bool}

/-! ### The time left of a frame -/

/-- The time left for a screen that is off, of which `n` cycles have passed; the count may begin anew once. -/
def blankLeft (n : ℕ) : ℕ := if n < 70224 then 70224 - n else 70225

theorem blankLeft_lt {n c d : ℕ} (hpos : 0 < c) (hc : c ≤ 2147483647) (hd : d < 456)
    (hlt : ((n + d) % 2 ^ 32 + c) % 2 ^ 32 < 70224) :
    blankLeft (((n + d) % 2 ^ 32 + c) % 2 ^ 32) < blankLeft n := by
  unfold blankLeft
  rw [if_pos hlt]
  split_ifs <;> omega

/-- The time left to the end of the picture. -/
def lineRank (g : Gb α) : ℕ := linesTo lcdHeight (g.io ioLy) * 457 + (456 - g.lcdCount)

/-- First the time that the screen is off counts, then whether it is, and last the lines. -/
def rank (g : Gb α) : ℕ := (2 * blankLeft g.lcdOffCount + if g.lcdEnabled then 0 else 1) * 70378 + g.lineRank

theorem lineRank_lt : g.lineRank < 70378 := by
  have h : linesTo lcdHeight (g.io ioLy) < 154 := Nat.mod_lt _ (by decide)
  unfold lineRank
  omega

/-- The screen is on, but it was off in between. -/
def Flickered (g g' : Gb α) : Prop := g'.lcdEnabled ∧ ¬(g'.io ioLy = g.io ioLy ∧ g'.lcdCount = g.lcdCount)

theorem Kept.off_add (h : Kept g g') (hg : g.WellFormed) :
    ∃ d < 456, g'.lcdOffCount = (g.lcdOffCount + d) % 2 ^ 32 := by
  obtain ⟨-, -, ho⟩ | ⟨-, -, ho⟩ := h.screen
  · exact ⟨0, by omega, by rw [ho]; exact (Nat.mod_eq_of_lt hg.off).symm⟩
  · exact ⟨g.lcdCount, hg.count, ho⟩

theorem Kept.same (h : Kept g g') (hg : g.WellFormed) (hf : ¬Flickered g g') (hon : g'.lcdEnabled) :
    g'.lineRank = g.lineRank ∧ g'.lcdOffCount = g.lcdOffCount := by
  obtain ⟨hl, hc⟩ := not_not.mp fun h => hf ⟨hon, h⟩
  refine ⟨by rw [lineRank, hl, hc, lineRank], ?_⟩
  obtain ⟨-, -, ho⟩ | ⟨-, hz, ho⟩ := h.screen
  · exact ho
  · rw [ho, ← hc, hz]
    exact Nat.mod_eq_of_lt hg.off

/-- What a round needs of the state it begins with, and leaves. -/
structure Sound (g : Gb α) (cycles : ℕ) : Prop extends WellFormed g where
  pos : 0 < cycles
  le : cycles ≤ 2147483647
  screen : g.lcdEnabled → cycles ≤ 456

theorem Ticked.sound (h : Ticked cycles halt g t) (hs : Sound g cycles) : Sound t.gb t.cycles where
  boot := by rw [h.io ioBoot (by decide)]; exact hs.boot
  line := h.line hs.line
  bank := by rw [h.bank, h.cart]; exact hs.bank
  count := by
    have hcount := hs.count
    by_cases hon : g.lcdEnabled
    · have hc := hs.screen hon
      obtain ⟨-, hw | hn⟩ := h.on hon
      · rw [hw.count]; exact hw.lt
      · have := hn.count
        simp only [lcdLineCycles] at *
        omega
    · rw [(h.off hon).2.1]
      exact hcount
  off := by
    by_cases hon : g.lcdEnabled
    · rw [(h.on hon).1]; exact hs.off
    · exact (h.off hon).2.2.2.1
  pos := h.pos hs.pos
  le := by
    have := h.le
    have := hs.le
    simp only [hblankDuration] at *
    omega
  screen hon := by
    have := h.le
    have := hs.screen (by rwa [h.lcdEnabled] at hon)
    simp only [hblankDuration] at *
    omega

theorem linesTo_height {ly : UInt8} (hly : ly < lcdVertLines) (hne : following ly ≠ lcdHeight) :
    linesTo lcdHeight (following ly) < linesTo lcdHeight ly := linesTo_following hly (by decide) hne

theorem rank_lt_on (hon : g'.lcdEnabled) (hoff : g'.lcdOffCount = g.lcdOffCount) (hl : g'.lineRank < g.lineRank) :
    g'.rank < g.rank := by
  rw [rank, rank, if_pos hon, hoff]
  omega

theorem rank_lt_off (hoff : blankLeft g'.lcdOffCount < blankLeft g.lcdOffCount) : g'.rank < g.rank := by
  have := g'.lineRank_lt
  have h1 : (if g'.lcdEnabled then 0 else 1) ≤ 1 := by split <;> omega
  rw [rank, rank]
  omega

/-- A round brings the end of the frame closer. -/
theorem Ticked.rank_lt (h : Ticked cycles halt g₁ t) (hs : Sound g₁ cycles)
    (hoff : ∃ d < 456, g₁.lcdOffCount = (g.lcdOffCount + d) % 2 ^ 32)
    (hline : g₁.lcdEnabled → g₁.lineRank = g.lineRank ∧ g₁.lcdOffCount = g.lcdOffCount) :
    t.gb.gbFrame = true ∨ t.gb.gbFrame = g₁.gbFrame ∧ t.gb.rank < g.rank := by
  by_cases hon : g₁.lcdEnabled
  · have hont : t.gb.lcdEnabled := by rw [h.lcdEnabled]; exact hon
    obtain ⟨hl, ho₁⟩ := hline hon
    obtain ⟨ho, hw | hn⟩ := h.on hon
    · refine .inr ⟨hw.frame, rank_lt_on hont (ho.trans ho₁) ?_⟩
      rw [← hl]
      have hlt : g₁.lcdCount + cycles < 456 := hw.lt
      have hpos := hs.pos
      rw [lineRank, hw.ly, hw.count, lineRank]
      omega
    · by_cases hv : t.gb.io ioLy = lcdHeight
      · exact .inl (hn.vblank hv).1
      · refine .inr ⟨(hn.other hv).1, rank_lt_on hont (ho.trans ho₁) ?_⟩
        rw [← hl]
        have := linesTo_height hs.line (by rwa [hn.ly] at hv)
        rw [lineRank, hn.ly, lineRank]
        omega
  · obtain ⟨-, -, -, -, hf | ⟨hf, ho, hn⟩⟩ := h.off hon
    · exact .inl hf
    · refine .inr ⟨hf, rank_lt_off ?_⟩
      obtain ⟨d, hd, hd'⟩ := hoff
      rw [ho, hd'] at hn ⊢
      exact blankLeft_lt hs.pos hs.le hd hn

theorem Ticked.frame (h : Ticked cycles halt g t) (hg : g.gbFrame = true) : t.gb.gbFrame = true := by
  by_cases hon : g.lcdEnabled
  · obtain ⟨-, hw | hn⟩ := h.on hon
    · rw [hw.frame, hg]
    · by_cases hv : t.gb.io ioLy = lcdHeight
      · exact (hn.vblank hv).1
      · rw [(hn.other hv).1, hg]
  · obtain ⟨-, -, -, -, hf | ⟨hf, -⟩⟩ := h.off hon
    · exact hf
    · rw [hf, hg]

/-- What the loop at the end of an instruction leaves. -/
structure Passed (g g' : Gb α) : Prop where
  wellFormed : g'.WellFormed
  cart : g'.cart = g.cart
  closer : g'.gbFrame = true ∨ g'.rank < g.rank

theorem Passed.round (h : Passed g g₁) (hs : Sound g₁ cycles) (ht : Ticked cycles halt g₁ t) : Passed g t.gb := by
  refine ⟨(ht.sound hs).toWellFormed, ht.cart.trans h.cart, ?_⟩
  obtain hf | hlt := h.closer
  · exact .inl (ht.frame hf)
  · obtain hf | ⟨-, hr⟩ := ht.rank_lt (g := g₁) hs (Kept.refl.off_add hs.toWellFormed) fun _ => ⟨rfl, rfl⟩
    · exact .inl hf
    · exact .inr (hr.trans hlt)

theorem pass_passed (h : Passed g g₁) (hs : Sound g₁ cycles) (hp : pass halt fuel cycles g₁ = some g') :
    Passed g g' := by
  induction fuel generalizing g₁ cycles with
  | zero => simp [pass] at hp
  | succ fuel ih =>
    have ht : Ticked cycles halt g₁ (g₁.tick cycles halt) := tick_ticked hs.line
    have hround := h.round hs ht
    rw [pass] at hp
    split at hp
    · exact ih hround (ht.sound hs) hp
    · exact Option.some.inj hp ▸ hround

/-- An instruction and the time it takes, where it does not switch the screen off and on. -/
theorem pass_closer (hg : g.WellFormed) (hk : Kept g g₁) (hs : Sound g₁ cycles) (hf : ¬Flickered g g₁)
    (hp : pass halt fuel cycles g₁ = some g') : Passed g g' := by
  cases fuel with
  | zero => simp [pass] at hp
  | succ fuel =>
    have ht : Ticked cycles halt g₁ (g₁.tick cycles halt) := tick_ticked hs.line
    have hround : Passed g (g₁.tick cycles halt).gb :=
      ⟨(ht.sound hs).toWellFormed, ht.cart.trans hk.cart,
        (ht.rank_lt hs (hk.off_add hg) (hk.same hg hf)).imp id fun h => h.2⟩
    rw [pass] at hp
    split at hp
    · exact pass_passed hround (ht.sound hs) hp
    · exact Option.some.inj hp ▸ hround

/-- The same without a look at the time. -/
theorem pass_wellFormed (hs : Sound g cycles) (hp : pass halt fuel cycles g = some g') :
    g'.WellFormed ∧ g'.cart = g.cart ∧ g'.saveRam = g.saveRam := by
  induction fuel generalizing g cycles with
  | zero => simp [pass] at hp
  | succ fuel ih =>
    have ht : Ticked cycles halt g (g.tick cycles halt) := tick_ticked hs.line
    rw [pass] at hp
    split at hp
    · obtain ⟨hw, hc, hv⟩ := ih (ht.sound hs) hp
      exact ⟨hw, hc.trans ht.cart, hv.trans ht.save⟩
    · exact Option.some.inj hp ▸ ⟨(ht.sound hs).toWellFormed, ht.cart, ht.save⟩

theorem pass_mono {fuel' : ℕ} (hle : fuel ≤ fuel') (hp : pass halt fuel cycles g = some g') :
    pass halt fuel' cycles g = some g' := by
  induction fuel generalizing fuel' g cycles with
  | zero => simp [pass] at hp
  | succ fuel ih =>
    obtain ⟨fuel', rfl⟩ : ∃ n, fuel' = n + 1 := ⟨fuel' - 1, by omega⟩
    rw [pass] at hp ⊢
    split at hp
    case isTrue h => rw [if_pos h]; exact ih (by omega) hp
    case isFalse h => rw [if_neg h]; exact hp

/-- A processor that does not halt passes its time at once. -/
theorem pass_running : pass false (fuel + 1) cycles g = some (g.tick cycles false).gb := by
  rw [pass]
  simp

end Gb

namespace Machine

open Gb

variable {α : Type} {apu : Apu α} {m m' : Machine α} {fuel steps : ℕ}

/-! ### What holds after any number of frames -/

theorem Executed.sound {g : Gb α} {r : ℕ × Machine α} (h : Executed g r) (hg : g.WellFormed) : Sound r.2.gb r.1 :=
  ⟨hg.kept h.kept, h.pos, h.le, h.line⟩

/-- What a run keeps of the state it begins with. -/
structure Stays (m m' : Machine α) : Prop where
  wellFormed : m'.gb.WellFormed
  cart : m'.gb.cart = m.gb.cart
  save : ∀ j, ¬m.gb.cart.Saves j → m'.gb.saveRam j = m.gb.saveRam j

theorem Stays.refl (hg : m.gb.WellFormed) : Stays m m := ⟨hg, rfl, fun _ _ => rfl⟩

theorem Stays.trans {m'' : Machine α} (h : Stays m m') (h' : Stays m' m'') : Stays m m'' :=
  ⟨h'.wellFormed, h'.cart.trans h.cart, fun j hj => (h'.save j (by rwa [h.cart])).trans (h.save j hj)⟩

/-- The end of a run that has come to one. -/
abbrev Comes (m : Machine α) (r : Option (Machine α)) : Prop := ∀ m', r = some m' → Stays m m'

theorem comes_none : Comes m none := fun _ h => nomatch h

theorem comes_some (h : Stays m m') : Comes m (some m') := fun _ hm => Option.some.inj hm ▸ h

theorem stepCpu_ends (hg : m.gb.WellFormed) : Ends (CpuFault m.gb.cart) (Comes m) (m.stepCpu apu fuel) := by
  refine (instruction_ends hg).bind fun r hr => .returns fun m' hm' => ?_
  obtain ⟨g, hp, rfl⟩ := Option.map_eq_some_iff.mp hm'
  obtain ⟨hw, hc, hv⟩ := pass_wellFormed (hr.sound hg) hp
  exact ⟨hw, hc.trans hr.kept.cart, fun j hj => (congrFun hv j).trans (hr.kept.save j hj)⟩

/-- What follows on a step or a frame. -/
theorem comes_bind {x : Except GbFault (Option (Machine α))} {f : Machine α → Except GbFault (Option (Machine α))}
    (hx : Ends (CpuFault m.gb.cart) (Comes m) x)
    (hf : ∀ m', Stays m m' → Ends (CpuFault m'.gb.cart) (Comes m') (f m')) :
    Ends (CpuFault m.gb.cart) (Comes m) (x >>= fun r => match r with
      | none => .ok none
      | some m => f m) := by
  refine hx.bind fun r hr => ?_
  cases r with
  | none => exact .returns comes_none
  | some m₁ =>
    have hs := hr m₁ rfl
    have := hf m₁ hs
    rw [hs.cart] at this
    exact this.mono (fun _ he => he) fun _ h m' hm' => hs.trans (h m' hm')

theorem frames_zero : frames apu fuel 0 m = if m.gb.gbFrame then .ok (some m) else .ok none := by
  rw [frames]

theorem frames_succ (h : m.gb.gbFrame = false) : frames apu fuel (steps + 1) m =
    m.stepCpu apu fuel >>= fun r => match r with
      | none => .ok none
      | some m => frames apu fuel steps m := by
  rw [frames]
  simp only [h]
  rfl

theorem frames_done (h : m.gb.gbFrame = true) : frames apu fuel steps m = .ok (some m) := by
  cases steps <;> rw [frames, if_pos h]

theorem frames_ends (hg : m.gb.WellFormed) : Ends (CpuFault m.gb.cart) (Comes m) (frames apu fuel steps m) := by
  induction steps generalizing m with
  | zero =>
    rw [frames_zero]
    split
    · exact .returns (comes_some (.refl hg))
    · exact .returns comes_none
  | succ steps ih =>
    by_cases hf : m.gb.gbFrame
    · rw [frames_done hf]
      exact .returns (comes_some (.refl hg))
    · rw [frames_succ (by simpa using hf)]
      exact comes_bind (stepCpu_ends hg) fun m' h => ih h.wellFormed

theorem runFrameWith_ends (hg : m.gb.WellFormed) (joypadState : UInt8) :
    Ends (CpuFault m.gb.cart) (Comes m) (runFrameWith apu joypadState fuel steps m) :=
  (frames_ends (m := ⟨m.cpu, { m.gb with joypad := ~~~joypadState, gbFrame := false }⟩)
    ⟨hg.boot, hg.line, hg.bank, hg.count, hg.off⟩).mono (fun _ he => he) fun _ h m' hm' =>
      ⟨(h m' hm').wellFormed, (h m' hm').cart, (h m' hm').save⟩

theorem session_ends (hg : m.gb.WellFormed) (joypads : List UInt8) :
    Ends (CpuFault m.gb.cart) (Comes m) (session apu fuel steps joypads m) := by
  induction joypads generalizing m with
  | nil => exact .returns (comes_some (.refl hg))
  | cons joypadState rest ih => exact comes_bind (runFrameWith_ends hg joypadState) fun m' h => ih h.wellFormed

theorem startRegisters_io (g : Gb α) (l : List (ℕ × UInt8)) :
    let g' := l.foldl (fun g r => g.setIo r.1 r.2) g
    g'.cart = g.cart ∧ g'.saveRam = g.saveRam ∧ g'.selectedRomBank = g.selectedRomBank ∧ g'.lcdCount = g.lcdCount ∧
      g'.lcdOffCount = g.lcdOffCount := by
  induction l generalizing g with
  | nil => exact ⟨rfl, rfl, rfl, rfl, rfl⟩
  | cons r l ih => exact ih (g.setIo r.1 r.2)

theorem reset_wellFormed {cart : Cart} (hc : 1 ≤ cart.numRomBanksMask) (saveRam : ℕ → UInt8) (audio : α) :
    (reset apu cart saveRam audio).gb.WellFormed := by
  obtain ⟨hcart, -, hbank, hcount, hoff⟩ :=
    startRegisters_io (Gb.fresh cart saveRam (apu.audioWrite audio 0xFF26 0xF1)) startRegisters
  have hgb : (reset apu cart saveRam audio).gb = startRegisters.foldl (fun g r => g.setIo r.1 r.2)
    (Gb.fresh cart saveRam (apu.audioWrite audio 0xFF26 0xF1)) := rfl
  rw [hgb]
  refine ⟨?_, ?_, ?_, ?_, ?_⟩
  · simp [startRegisters, ioBoot]
  · simp [startRegisters, ioLy, lcdVertLines]
  · rw [hbank, hcart]
    exact hc
  · rw [hcount]
    exact (by decide : 0 < lcdLineCycles)
  · rw [hoff]
    exact (by decide : 0 < 2 ^ 32)

theorem reset_saveRam (cart : Cart) (saveRam : ℕ → UInt8) (audio : α) :
    (reset apu cart saveRam audio).gb.saveRam = saveRam :=
  (startRegisters_io (Gb.fresh cart saveRam (apu.audioWrite audio 0xFF26 0xF1)) startRegisters).2.1

theorem romBankTable_ge : ∀ x ∈ Cart.romBankTable, 1 ≤ x - 1 := by simp [Cart.romBankTable]

theorem cart_init_banks {rom : ℕ → UInt8} {cart : Cart} (h : Cart.init rom = .ok cart) :
    1 ≤ cart.numRomBanksMask := by
  unfold Cart.init at h
  split at h
  · simp at h
  split at h
  · simp at h
  split at h
  · simp at h
  split at h
  case h_1 romBanks ramBanks hrom hram =>
    obtain rfl := Except.ok.inj h
    exact romBankTable_ge romBanks (List.mem_of_getElem? hrom)
  case h_2 => simp at h

theorem init_wellFormed {rom saveRam : ℕ → UInt8} {audio : α} (h : init apu rom saveRam audio = .ok m) :
    m.gb.WellFormed ∧ m.gb.saveRam = saveRam := by
  obtain ⟨cart, hc, hm⟩ := Fallible.bind_eq_ok.mp h
  obtain rfl := Except.ok.inj hm
  exact ⟨reset_wellFormed (cart_init_banks hc) saveRam audio, reset_saveRam cart saveRam audio⟩

/-! ### What can go on without end -/

/-- One instruction of a frame that is not at its end. -/
def Follows (apu : Apu α) (m m' : Machine α) : Prop :=
  m.gb.gbFrame = false ∧ ∃ fuel, m.stepCpu apu fuel = .ok (some m')

/-- The machine comes to a `HALT` that nothing can end. -/
def Hangs (apu : Apu α) (m : Machine α) : Prop :=
  m.gb.gbFrame = false ∧ ∃ r, m.instruction apu = .ok r ∧ r.2.cpu.halt = true ∧ ¬r.2.gb.Wakes

/-- An instruction switches the screen off and on again. -/
def Flickers (apu : Apu α) (m : Machine α) : Prop :=
  m.gb.gbFrame = false ∧ ∃ r, m.instruction apu = .ok r ∧ Flickered m.gb r.2.gb

abbrev Reaches (apu : Apu α) (m m' : Machine α) : Prop := Relation.ReflTransGen (Follows apu) m m'

theorem stepCpu_eq {r : ℕ × Machine α} (h : m.instruction apu = .ok r) : m.stepCpu apu fuel =
    .ok ((r.2.gb.pass r.2.cpu.halt fuel r.1).map fun g => { r.2 with gb := g }) := by
  rw [stepCpu, h]
  rfl

theorem stepCpu_some (h : m.stepCpu apu fuel = .ok (some m')) : ∃ r g, m.instruction apu = .ok r ∧
    r.2.gb.pass r.2.cpu.halt fuel r.1 = some g ∧ m' = { r.2 with gb := g } := by
  obtain ⟨r, hr, h⟩ := Fallible.bind_eq_ok.mp h
  obtain ⟨g, hg, rfl⟩ := Option.map_eq_some_iff.mp (Except.ok.inj h)
  exact ⟨r, g, hr, hg, rfl⟩

theorem stepCpu_mono {fuel' : ℕ} (hle : fuel ≤ fuel') (h : m.stepCpu apu fuel ≠ .ok none) :
    m.stepCpu apu fuel' = m.stepCpu apu fuel := by
  cases hi : m.instruction apu with
  | error e => rw [stepCpu, stepCpu, hi]; rfl
  | ok r =>
    rw [stepCpu_eq hi] at h ⊢
    rw [stepCpu_eq hi]
    cases hp : r.2.gb.pass r.2.cpu.halt fuel r.1 with
    | none => simp [hp] at h
    | some g => rw [pass_mono hle hp]

theorem frames_mono {fuel' steps' : ℕ} (hf : fuel ≤ fuel') (hs : steps ≤ steps')
    (h : frames apu fuel steps m ≠ .ok none) : frames apu fuel' steps' m = frames apu fuel steps m := by
  induction steps generalizing m steps' with
  | zero =>
    rw [frames_zero] at h
    split at h
    case isTrue hm => rw [frames_done hm, frames_done hm]
    case isFalse => simp at h
  | succ steps ih =>
    by_cases hm : m.gb.gbFrame
    · rw [frames_done hm, frames_done hm]
    · obtain ⟨n, rfl⟩ : ∃ n, steps' = n + 1 := ⟨steps' - 1, by omega⟩
      rw [frames_succ (by simpa using hm)] at h ⊢
      rw [frames_succ (by simpa using hm)]
      have hne : m.stepCpu apu fuel ≠ .ok none := fun h0 => h (by rw [h0]; rfl)
      rw [stepCpu_mono hf hne]
      cases hstep : m.stepCpu apu fuel with
      | error e => rfl
      | ok r =>
        cases r with
        | none => exact absurd hstep hne
        | some m₁ =>
          rw [hstep] at h
          exact ih (by omega) h

/-- Time enough for a step and time enough for the rest. -/
theorem frames_step {fuel' : ℕ} (h : m.stepCpu apu fuel = .ok (some m')) (hm : m.gb.gbFrame = false)
    (hr : frames apu fuel' steps m' ≠ .ok none) : ∃ k, frames apu k (steps + 1) m ≠ .ok none := by
  refine ⟨max fuel fuel', ?_⟩
  rw [frames_succ hm, stepCpu_mono (Nat.le_max_left _ _) (by rw [h]; simp), h, Fallible.bind_ok]
  show frames apu (max fuel fuel') steps m' ≠ _
  rw [frames_mono (Nat.le_max_right _ _) le_rfl hr]
  exact hr

theorem frames_fault {e : GbFault} (hm : m.gb.gbFrame = false) (h : m.instruction apu = .error e) :
    frames apu fuel 1 m ≠ .ok none := by
  rw [frames_succ hm, stepCpu, h]
  exact fun h => nomatch h

/-- An instruction that does not hang comes to its end. -/
theorem stepCpu_returns (hg : m.gb.WellFormed) {r : ℕ × Machine α} (hr : m.instruction apu = .ok r)
    (h : r.2.cpu.halt = true → r.2.gb.Wakes) : ∃ fuel m', m.stepCpu apu fuel = .ok (some m') := by
  have hx : Executed m.gb r := (instruction_ends hg).ok hr
  cases hh : r.2.cpu.halt with
  | false => exact ⟨1, { r.2 with gb := (r.2.gb.tick r.1 false).gb }, by rw [stepCpu_eq hr, hh, pass_running]; rfl⟩
  | true =>
    obtain ⟨fuel, hp⟩ := (stops_iff_wakes (hg.kept hx.kept).line hx.pos).mpr (h hh)
    obtain ⟨g, hp⟩ := Option.isSome_iff_exists.mp hp
    exact ⟨fuel, { r.2 with gb := g }, by rw [stepCpu_eq hr, hh, hp]; rfl⟩

theorem stepCpu_passed (hg : m.gb.WellFormed) (hf : ¬Flickers apu m) (hm : m.gb.gbFrame = false)
    (h : m.stepCpu apu fuel = .ok (some m')) : Passed m.gb m'.gb := by
  obtain ⟨r, g, hr, hp, rfl⟩ := stepCpu_some h
  have hx : Executed m.gb r := (instruction_ends hg).ok hr
  exact pass_closer hg hx.kept (hx.sound hg) (fun hfl => hf ⟨hm, r, hr, hfl⟩) hp

/-- A frame in which the screen does not flicker comes to its end, or it hangs. -/
theorem frames_end (hg : m.gb.WellFormed) (hfl : ∀ m', Reaches apu m m' → ¬Flickers apu m')
    (hh : ∀ m', Reaches apu m m' → ¬Hangs apu m') : ∃ fuel steps, frames apu fuel steps m ≠ .ok none := by
  induction hr : m.gb.rank using Nat.strong_induction_on generalizing m with
  | _ n ih =>
    subst hr
    by_cases hm : m.gb.gbFrame
    · exact ⟨0, 0, by rw [frames_done hm]; simp⟩
    have hm : m.gb.gbFrame = false := by simpa using hm
    cases hi : m.instruction apu with
    | error e => exact ⟨0, 1, frames_fault hm hi⟩
    | ok r =>
      obtain ⟨fuel, m₁, hstep⟩ := stepCpu_returns hg hi fun hhalt => by
        by_contra hw
        exact hh m .refl ⟨hm, r, hi, hhalt, hw⟩
      have hp := stepCpu_passed hg (hfl m .refl) hm hstep
      have hfirst : Follows apu m m₁ := ⟨hm, fuel, hstep⟩
      obtain ⟨fuel', steps, hrest⟩ : ∃ fuel steps, frames apu fuel steps m₁ ≠ .ok none := by
        obtain hf | hlt := hp.closer
        · exact ⟨0, 0, by rw [frames_done hf]; simp⟩
        · exact ih _ hlt hp.wellFormed (fun m' h => hfl m' (.head hfirst h)) (fun m' h => hh m' (.head hfirst h)) rfl
      obtain ⟨k, hk⟩ := frames_step hstep hm hrest
      exact ⟨k, steps + 1, hk⟩

theorem hangs_on (hg : m.gb.WellFormed) (h : Hangs apu m) : frames apu fuel steps m = .ok none := by
  obtain ⟨hm, r, hr, hhalt, hw⟩ := h
  have hx : Executed m.gb r := (instruction_ends hg).ok hr
  have hnone : r.2.gb.pass r.2.cpu.halt fuel r.1 = none := by
    rw [hhalt, Option.eq_none_iff_forall_not_mem]
    exact fun g hp => hw ((stops_iff_wakes (hg.kept hx.kept).line hx.pos).mp ⟨fuel, by rw [hp]; rfl⟩)
  cases steps with
  | zero => rw [frames_zero, hm]; rfl
  | succ steps => rw [frames_succ hm, stepCpu_eq hr, hnone]; rfl

/-- A frame that comes to a machine that hangs never ends. -/
theorem reaches_hangs (hg : m.gb.WellFormed) (hr : Reaches apu m m') (h : Hangs apu m') :
    frames apu fuel steps m = .ok none := by
  induction hr using Relation.ReflTransGen.head_induction_on generalizing steps with
  | refl => exact hangs_on hg h
  | @head m m₁ hs _ ih =>
    obtain ⟨hm, fuel', hstep⟩ := hs
    have hg₁ := ((stepCpu_ends hg).ok hstep m₁ rfl).wellFormed
    cases steps with
    | zero => rw [frames_zero, hm]; rfl
    | succ steps =>
      rw [frames_succ hm]
      by_cases hn : m.stepCpu apu fuel = .ok none
      · rw [hn]; rfl
      · have he : m.stepCpu apu fuel = .ok (some m₁) := by
          rw [← hstep, ← stepCpu_mono (Nat.le_max_left fuel fuel') hn,
            stepCpu_mono (Nat.le_max_right fuel fuel') (by rw [hstep]; simp)]
        rw [he]
        exact ih hg₁

end Machine
end MonsterMesh.PeanutGb
