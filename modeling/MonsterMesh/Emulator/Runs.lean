import MonsterMesh.Emulator.Frames

/-! What every game can count on: how it can fail, when a halt ends and when a frame does. -/
namespace MonsterMesh.PeanutGb.Machine

open Interaction Gb

variable {α : Type} {apu : Apu α} {rom saveRam : ℕ → UInt8} {audio : α} {m : Machine α}

/-- A sound chip that is silent. -/
def silent : Apu Unit := ⟨fun _ _ => 0xFF, fun a _ _ => a⟩

/-- A game whose first opcode is none. -/
def brokenRom (i : ℕ) : UInt8 := if i = 0x0100 then 0xD3 else if i = 0x014D then 0xE7 else 0

/-- After an instruction that halts, `__gb_step_cpu` returns exactly where something wakes the processor. -/
theorem halt_returns_iff {r : ℕ × Machine α} (hg : m.gb.WellFormed) (h : m.instruction apu = .ok r)
    (hh : r.2.cpu.halt = true) :
    (∃ fuel m', m.stepCpu apu fuel = .ok (some m')) ↔
      r.2.gb.pending ≠ 0 ∨ r.2.gb.sources &&& r.2.gb.io ioIe ≠ 0 ∨ r.2.gb.lcdEnabled ∧ r.2.gb.io ioIe = 0 := by
  have hx : Executed m.gb r := (instruction_ends hg).ok h
  constructor
  · rintro ⟨fuel, m', hstep⟩
    obtain ⟨r', g, hr', hp, -⟩ := stepCpu_some hstep
    obtain rfl := Except.ok.inj (h.symm.trans hr')
    rw [hh] at hp
    exact (stops_iff_wakes (hg.kept hx.kept).line hx.pos).mp ⟨fuel, by rw [hp]; rfl⟩
  · exact fun hw => stepCpu_returns hg h fun _ => hw

/-- A game on a cartridge with 8 KiB of memory. -/
def savingRom (i : ℕ) : UInt8 := if i = 0x0147 then 3 else if i = 0x0149 then 2 else if i = 0x014D then 0xE2 else 0

/-- A game that halts at once, with no interrupt enabled. -/
def haltRom (i : ℕ) : UInt8 := if i = 0x0100 then 0x76 else 0

def halting : Machine Unit := reset silent ⟨haltRom, 0, false, 1, 0, false⟩ (fun _ => 0xFF) ()

theorem halting_returns : ∃ fuel m', halting.stepCpu silent fuel = .ok (some m') :=
  (halt_returns_iff (r := (456, { halting with cpu := { halting.cpu with pc := 0x0101, halt := true } }))
    (reset_wellFormed (by decide) _ _) rfl rfl).mpr (.inr (.inr ⟨rfl, rfl⟩))

/-- A frame in which no instruction switches the screen off and on comes to its end, with or without a fault, exactly
where it comes to no `HALT` that nothing ends. -/
theorem frame_returns_iff (hg : m.gb.WellFormed)
    (hf : ∀ m', Reaches apu { m with gb := { m.gb with gbFrame := false } } m' → ¬Flickers apu m') :
    (∃ fuel steps, m.runFrame apu fuel steps ≠ .ok none) ↔
      ∀ m', Reaches apu { m with gb := { m.gb with gbFrame := false } } m' → ¬Hangs apu m' := by
  have hg' : { m.gb with gbFrame := false }.WellFormed := ⟨hg.boot, hg.line, hg.bank, hg.count, hg.off⟩
  constructor
  · rintro ⟨fuel, steps, h⟩ m' hr hh
    exact h (reaches_hangs hg' hr hh)
  · exact frames_end hg' hf

/-- A game before the last instruction of a frame, which is no operation. -/
def ending : Machine Unit :=
  let m := reset silent ⟨fun _ => 0, 0, false, 1, 0, false⟩ (fun _ => 0xFF) ()
  { m with gb := { m.gb.setIo ioLy 143 with lcdCount := 452 } }

theorem nop_cycles : Instr.opCycles.getD 0 0 = 4 := by decide +kernel

theorem ending_executes :
    ending.instruction silent = .ok (4, { ending with cpu := { ending.cpu with pc := 0x0101 } }) := by
  have hfetch : ending.run silent Instr.imm = .ok (0, { ending with cpu := { ending.cpu with pc := 0x0101 } }) := rfl
  have hdecode : Instr.decode 0 = some .nop := rfl
  show ending.execute silent = _
  rw [execute, hfetch, Fallible.bind_ok, hdecode]
  dsimp only
  rw [if_neg (by decide), show (0 : UInt8).toNat = 0 from rfl, nop_cycles]
  rfl

theorem ending_instruction {r : ℕ × Machine Unit} (h : ending.instruction silent = .ok r) :
    r = (4, { ending with cpu := { ending.cpu with pc := 0x0101 } }) :=
  Except.ok.inj (h.symm.trans ending_executes)

theorem ending_step {fuel : ℕ} {m' : Machine Unit} (h : ending.stepCpu silent fuel = .ok (some m')) :
    m'.gb.gbFrame = true := by
  obtain ⟨r, g, hr, hp, rfl⟩ := stepCpu_some h
  obtain rfl := ending_instruction hr
  cases fuel with
  | zero => simp [Gb.pass] at hp
  | succ fuel => exact Option.some.inj (pass_running.symm.trans hp) ▸ rfl

theorem ending_reaches {m' : Machine Unit} (h : Reaches silent ending m') : m' = ending ∨ m'.gb.gbFrame = true := by
  induction h with
  | refl => exact .inl rfl
  | tail _ hs ih =>
    obtain ⟨hf, fuel, hs⟩ := hs
    obtain rfl | hf' := ih
    · exact .inr (ending_step hs)
    · simp [hf] at hf'

theorem ending_returns : ∃ fuel steps, ending.runFrame silent fuel steps ≠ .ok none := by
  refine (frame_returns_iff ⟨by decide, by decide, by decide, by decide, by decide⟩ fun m' hr hfl => ?_).mpr
    fun m' hr hh => ?_
  · obtain ⟨hf, r, hi, -, hne⟩ := hfl
    obtain rfl | hf' := ending_reaches hr
    · obtain rfl := ending_instruction hi
      exact hne ⟨rfl, rfl⟩
    · simp [hf] at hf'
  · obtain ⟨hf, r, hi, hhalt, -⟩ := hh
    obtain rfl | hf' := ending_reaches hr
    · obtain rfl := ending_instruction hi
      exact absurd hhalt (by decide)
    · simp [hf] at hf'

end MonsterMesh.PeanutGb.Machine
