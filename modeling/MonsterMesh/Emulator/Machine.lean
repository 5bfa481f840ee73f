import MonsterMesh.Emulator.Clock
import MonsterMesh.Emulator.Instructions

/-! The whole emulator: interrupts, one instruction at a time, and frames. -/
namespace MonsterMesh.PeanutGb

open Fallible

structure Machine (α : Type) where
  cpu : Cpu
  gb : Gb α

namespace Gb

variable {α : Type} (g : Gb α)

/-- `IF & IE` -/
def pending : UInt8 := g.io ioIf &&& g.io ioIe

/-- What is left of the present mode of the screen. -/
def modeCycles : ℤ :=
  (if g.statMode = 0 then hblankDuration else if g.statMode = 2 then lcdDrawDuration
    else if g.statMode = 3 then hblankDuration else lcdLineCycles : ℕ) - g.lcdCount

/-- The cycles that `HALT` passes at first. -/
def haltCycles : ℕ :=
  let n : ℤ := 2147483647
  let n := if g.io ioSc &&& 0x80 ≠ 0 then min n (serialCycles - g.serialCount) else n
  let n := if g.io ioTac &&& 0x4 ≠ 0 then min n (tacCycles (g.io ioTac &&& 0x3) - g.timaCount) else n
  let n := if g.lcdEnabled then min n g.modeCycles else n
  if n ≤ 0 then 4 else n.toNat

/-- The loop at the end of `__gb_step_cpu`, for at most `fuel` rounds. -/
def pass (halt : Bool) : ℕ → ℕ → Gb α → Option (Gb α)
  | 0, _, _ => none
  | fuel + 1, cycles, g =>
    let t := g.tick cycles halt
    if !t.leave && halt && t.gb.pending = 0 then pass halt fuel t.cycles t.gb else some t.gb

/-- What the cartridge, the sound and the screen have at the start of `gb_reset`. -/
def fresh (cart : Cart) (saveRam : ℕ → UInt8) (audio : α) : Gb α where
  cart := cart
  mem := fun _ _ => 0
  saveRam := saveRam
  audio := audio
  selectedRomBank := 1
  cartRamBank := 0
  enableCartRam := false
  cartModeSelect := 0
  joypad := 0xFF
  lcdBlank := false
  gbFrame := false
  lcdCount := 0
  lcdOffCount := 0
  divCount := 0
  timaCount := 0
  serialCount := 0
  rtcCount := 0

end Gb

namespace Machine

variable {α : Type} (apu : Apu α) (m : Machine α)

/-- The bus as the memory of the instructions. -/
def bus : Interaction.Memory GbFault UInt16 UInt8 (Gb α) := ⟨fun g i => g.read apu i, fun g i b => g.write apu i b⟩

def run {β : Type} (p : Instr.Exec β) : Except GbFault (β × Machine α) := do
  let r ← (p.run m.cpu).run (bus apu) m.gb
  return (r.1.1, ⟨r.1.2, r.2⟩)

/-- The interrupts and their handlers, the first of them first. -/
def vectors : List (UInt8 × UInt16) := [(0x01, 0x0040), (0x02, 0x0048), (0x04, 0x0050), (0x08, 0x0058), (0x10, 0x0060)]

def handler : Machine α :=
  match vectors.find? fun v => m.gb.pending &&& v.1 ≠ 0 with
  | some v => ⟨{ m.cpu with pc := v.2 }, m.gb.setIo Gb.ioIf (m.gb.io Gb.ioIf ^^^ v.1)⟩
  | none => m

/-- The handling of interrupts; which one it is, is looked up after the pushes. -/
def interrupt : Except GbFault (Machine α) :=
  if m.cpu.halt ∨ m.cpu.ime ∧ m.gb.pending &&& 0x1F ≠ 0 then
    if m.cpu.ime then do
      let r ← { m with cpu := { m.cpu with halt := false, ime := false } }.run apu Instr.pushPc
      return r.2.handler
    else .ok { m with cpu := { m.cpu with halt := false } }
  else .ok m

/-- One instruction and its cycles; `HALT` has its own count of them. -/
def execute : Except GbFault (ℕ × Machine α) := do
  let r ← m.run apu Instr.imm
  match Instr.decode r.1 with
  | none => .error (.invalidOpcode (r.2.cpu.pc - 1))
  | some i => r.2.run apu (i.exec (if i = .halt then r.2.gb.haltCycles else Instr.opCycles.getD r.1.toNat 0))

/-- `__gb_step_cpu` up to its loop. -/
def instruction : Except GbFault (ℕ × Machine α) := do
  let m ← m.interrupt apu
  m.execute apu

/-- `__gb_step_cpu`, with at most `fuel` rounds of its loop. -/
def stepCpu (fuel : ℕ) : Except GbFault (Option (Machine α)) := do
  let r ← m.instruction apu
  return (r.2.gb.pass r.2.cpu.halt fuel r.1).map fun g => { r.2 with gb := g }

/-- The loop of `gb_run_frame`, for at most `steps` rounds. -/
def frames (fuel : ℕ) : ℕ → Machine α → Except GbFault (Option (Machine α))
  | steps, m =>
    if m.gb.gbFrame then .ok (some m)
    else match steps with
      | 0 => .ok none
      | steps + 1 => do
        match ← m.stepCpu apu fuel with
        | none => return none
        | some m => frames fuel steps m

/-- `gb_run_frame` -/
def runFrame (fuel steps : ℕ) : Except GbFault (Option (Machine α)) :=
  frames apu fuel steps { m with gb := { m.gb with gbFrame := false } }

end Machine

namespace Cart

/-! ### Start -/

inductive InitError where
  | cartridgeUnsupported
  | invalidChecksum
  /-- The header names a size that the tables do not have. -/
  | outsideTable
deriving DecidableEq, Repr

def cartMbc : List ℤ :=
  [0, 1, 1, 1, -1, 2, 2, -1, 0, 0, -1, 0, 0, 0, -1, 3, 3, 3, 3, 3, -1, -1, -1, -1, -1, 5, 5, 5, 5, 5, 5, -1]

def cartRamTable : List ℕ :=
  [0, 0, 1, 1, 0, 1, 1, 0, 1, 1, 0, 0, 0, 0, 0, 0, 1, 0, 1, 1, 0, 0, 0, 0, 0, 0, 1, 1, 0, 0, 0, 0]

/-- `num_rom_banks_mask`, before the one is taken off. -/
def romBankTable : List UInt16 := [2, 4, 8, 16, 32, 64, 128, 256, 512]

def ramBankTable : List UInt8 := [0, 1, 1, 4, 16, 8]

def headerChecksum (rom : ℕ → UInt8) : UInt8 :=
  (List.range' 0x0134 0x19).foldl (fun x i => x - rom i - 1) 0

/-- `gb_init` up to `gb_reset`. -/
def init (rom : ℕ → UInt8) : Except InitError Cart :=
  if headerChecksum rom ≠ rom 0x014D then .error .invalidChecksum
  else
    match cartMbc[(rom 0x0147).toNat]? with
    | none => .error .cartridgeUnsupported
    | some mbc =>
      if mbc = -1 then .error .cartridgeUnsupported
      else
        match romBankTable[(rom 0x0148).toNat]?, ramBankTable[(rom 0x0149).toNat]? with
        | some romBanks, some ramBanks =>
          let hasRam := cartRamTable.getD (rom 0x0147).toNat 0 ≠ 0 && ramBanks ≠ 0
          let ramBanks := if hasRam then ramBanks else 0
          .ok ⟨rom, mbc.toNat, hasRam, romBanks - 1, ramBanks, mbc = 3 && (128 < romBanks - 1 || 4 < ramBanks)⟩
        | _, _ => .error .outsideTable

end Cart

namespace Machine

variable {α : Type} (apu : Apu α) (cart : Cart)

/-- The registers of the devices after `gb_reset`. -/
def startRegisters : List (ℕ × UInt8) :=
  [(0x04, 0xAB), (0x40, 0x91), (0x41, 0x85), (0x50, 0x01), (0x00, 0xCF), (0x01, 0x00), (0x02, 0x7E), (0x05, 0x00),
    (0x06, 0x00), (0x07, 0xF8), (0x42, 0x00), (0x43, 0x00), (0x44, 0x00), (0x45, 0x00), (0x47, 0xFC), (0x48, 0xFF),
    (0x49, 0xFF), (0x4A, 0x00), (0x4B, 0x00), (0xFF, 0x00), (0x0F, 0xE1)]

/-- `gb_reset`, with no boot ROM to run. -/
def reset (saveRam : ℕ → UInt8) (audio : α) : Machine α where
  cpu :=
    let chk : Bool := cart.rom 0x014D ≠ 0
    { a := 0x01, f := ⟨true, false, chk, chk⟩, b := 0x00, c := 0x13, d := 0x00, e := 0xD8, h := 0x01, l := 0x4D,
      sp := 0xFFFE, pc := 0x0100, ime := true, halt := false }
  gb := startRegisters.foldl (fun g r => g.setIo r.1 r.2)
    (Gb.fresh cart saveRam (apu.audioWrite audio 0xFF26 0xF1))

/-- `gb_init` for a game, with the save memory that was loaded. -/
def init (rom saveRam : ℕ → UInt8) (audio : α) : Except Cart.InitError (Machine α) := do
  let cart ← Cart.init rom
  return reset apu cart saveRam audio

/-- `MonsterMeshEmulator::runFrame` -/
def runFrameWith (joypadState : UInt8) (fuel steps : ℕ) (m : Machine α) : Except GbFault (Option (Machine α)) :=
  { m with gb := { m.gb with joypad := ~~~joypadState } }.runFrame apu fuel steps

/-- A game: one frame after another, each with the buttons that are held. -/
def session (fuel steps : ℕ) : List UInt8 → Machine α → Except GbFault (Option (Machine α))
  | [], m => .ok (some m)
  | joypadState :: rest, m => do
    match ← runFrameWith apu joypadState fuel steps m with
    | none => return none
    | some m => session fuel steps rest m

end Machine
end MonsterMesh.PeanutGb
