import Mathlib.Logic.Function.Iterate
import MonsterMesh.Emulator.Bus

/-! Time passing: the divider, the clock of the cartridge, the serial port, the timer and the lines of the screen. -/
namespace MonsterMesh.PeanutGb.Gb

variable {α : Type} (g : Gb α) (cycles : ℕ)

def divCycles : ℕ := 256
def serialCycles : ℕ := 4096
def rtcCycles : ℕ := 4194304
def lcdLineCycles : ℕ := 456
def lcdVertLines : UInt8 := 154
def lcdHeight : UInt8 := 144
def lcdFrameCycles : ℕ := 70224
/-- `LCD_MODE2_OAM_SCAN_DURATION` -/
def oamScanDuration : ℕ := 80
/-- `LCD_MODE3_LCD_DRAW_MIN_DURATION` -/
def lcdDrawDuration : ℕ := 172
/-- `LCD_MODE3_LCD_DRAW_END` -/
def lcdDrawEnd : ℕ := 252
/-- `LCD_MODE0_HBLANK_MAX_DRUATION` -/
def hblankDuration : ℕ := 204

def vblankIntr : UInt8 := 0x01
def lcdcIntr : UInt8 := 0x02
def timerIntr : UInt8 := 0x04
def serialIntr : UInt8 := 0x08

/-- `gb->hram_io[IO_IF] |= intr` -/
def raise (intr : UInt8) : Gb α := g.setIo ioIf (g.io ioIf ||| intr)

/-- One round of the loop that counts the divider up for each 256 cycles. -/
def divTick : Gb α :=
  let n := g.divCount + cycles
  { g.setIo ioDiv (g.io ioDiv + UInt8.ofNat (n / divCycles)) with divCount := n % divCycles }

def setRtc (reg : ℕ) (val : UInt8) : Gb α :=
  { g with mem := fun r j => if r = .rtcReal ∧ j = reg then val else g.mem r j }

def rtc (reg : ℕ) : UInt8 := g.mem .rtcReal reg

/-- One second: the registers sec, min, hour, yday and high, with the roll-overs of values that are out of range. -/
def rtcSecond : Gb α :=
  if g.rtc 0 = 63 then g.setRtc 0 0
  else if g.rtc 0 + 1 ≠ 60 then g.setRtc 0 (g.rtc 0 + 1)
  else
    let g := g.setRtc 0 0
    if g.rtc 1 = 63 then g.setRtc 1 0
    else if g.rtc 1 + 1 ≠ 60 then g.setRtc 1 (g.rtc 1 + 1)
    else
      let g := g.setRtc 1 0
      if g.rtc 2 = 31 then g.setRtc 2 0
      else if g.rtc 2 + 1 ≠ 24 then g.setRtc 2 (g.rtc 2 + 1)
      else
        let g := (g.setRtc 2 0).setRtc 3 (g.rtc 3 + 1)
        if g.rtc 3 ≠ 0 then g
        else g.setRtc 4 ((if g.rtc 4 &&& 1 ≠ 0 then g.rtc 4 ||| 0x80 else g.rtc 4) ^^^ 1)

def rtcTick : Gb α :=
  if g.cart.mbc = 3 ∧ g.rtc 4 &&& 0x40 = 0 then
    let n := g.rtcCount + cycles
    { Nat.iterate rtcSecond (n / rtcCycles) g with rtcCount := n % rtcCycles }
  else g

/-- `pm_serialRx` never receives anything. -/
def serialTick : Gb α :=
  if g.io ioSc &&& 0x80 = 0 then g
  else if g.serialCount + cycles < serialCycles then { g with serialCount := g.serialCount + cycles }
  else
    let g := { g with serialCount := 0 }
    if g.io ioSc &&& 0x01 ≠ 0 then ((g.setIo ioSb 0xFF).setIo ioSc (g.io ioSc &&& 0x01)).raise serialIntr else g

/-- `TAC_CYCLES` -/
def tacCycles : UInt8 → ℕ
  | 0 => 1024
  | 1 => 16
  | 2 => 64
  | _ => 256

/-- The timer counts up; where it overflows it starts again at its modulo. -/
def timaStep : Gb α :=
  if g.io ioTima + 1 = 0 then (g.raise timerIntr).setIo ioTima (g.io ioTma)
  else g.setIo ioTima (g.io ioTima + 1)

def timaTick : Gb α :=
  if g.io ioTac &&& 0x4 = 0 then g
  else
    let n := g.timaCount + cycles
    let period := tacCycles (g.io ioTac &&& 0x3)
    { Nat.iterate timaStep (n / period) g with timaCount := n % period }

/-- Everything but the screen. -/
def devices : Gb α := (((g.divTick cycles).rtcTick cycles).serialTick cycles).timaTick cycles

def statMode : UInt8 := g.io ioStat &&& 0x03

def setMode (mode : UInt8) : Gb α := g.setIo ioStat (g.io ioStat &&& 0xFC ||| mode)

/-- `if(gb->hram_io[IO_STAT] & mask) gb->hram_io[IO_IF] |= LCDC_INTR` -/
def statIntr (mask : UInt8) : Gb α := if g.io ioStat &&& mask ≠ 0 then g.raise lcdcIntr else g

/-- `LY` counts up, and starts again after the last line. -/
def countLine : Gb α :=
  let ly := g.io ioLy + 1
  { g.setIo ioLy (if ly = lcdVertLines then 0 else ly) with lcdCount := g.lcdCount - lcdLineCycles }

/-- The line is compared with the one that is waited for. -/
def compareLine : Gb α :=
  if g.io ioLy = g.io ioLyc then (g.setIo ioStat (g.io ioStat ||| 0x04)).statIntr 0x40
  else g.setIo ioStat (g.io ioStat &&& 0xFB)

def nextLine : Gb α := g.countLine.compareLine

def enterVblank : Gb α :=
  { ((g.setMode 1).raise vblankIntr).statIntr 0x10 with gbFrame := true, lcdBlank := false }

/-- What a round of the clock leaves: the cycles of the next round, should the processor be halted, and whether the
loop is left because nothing could end the halt. -/
structure Tick (α : Type) where
  gb : Gb α
  cycles : ℕ
  leave : Bool

/-- A line begins. -/
def lineTick (halt : Bool) : Tick α :=
  let g := g.nextLine
  if g.io ioLy = lcdHeight then ⟨g.enterVblank, cycles, halt && g.io ioIe = 0⟩
  else if g.io ioLy < lcdHeight then
    ⟨{ g.setMode 2 with lcdCount := 0 }.statIntr 0x20, oamScanDuration, false⟩
  else ⟨g, cycles, false⟩

/-- Time passes with the screen on: a new line, or a new mode within the line. -/
def screenTick (halt : Bool) : Tick α :=
  let g := { g with lcdCount := g.lcdCount + cycles }
  if lcdLineCycles ≤ g.lcdCount then g.lineTick cycles halt
  else if g.statMode = 3 ∧ lcdDrawEnd ≤ g.lcdCount then
    ⟨(g.setMode 0).statIntr 0x08, if g.lcdCount < hblankDuration then hblankDuration - g.lcdCount else cycles, false⟩
  else if g.statMode = 2 ∧ oamScanDuration ≤ g.lcdCount then
    ⟨g.setMode 3, if g.lcdCount < lcdDrawDuration then lcdDrawDuration - g.lcdCount else cycles, false⟩
  else ⟨g, cycles, false⟩

/-- With the screen off only its time is kept. -/
def blankTick : Gb α :=
  let n := (g.lcdOffCount + cycles) % 2 ^ 32
  if lcdFrameCycles ≤ n then { g with lcdOffCount := n - lcdFrameCycles, gbFrame := true }
  else { g with lcdOffCount := n }

/-- One round of the loop at the end of `__gb_step_cpu`. -/
def tick (halt : Bool) : Tick α :=
  let g := g.devices cycles
  if g.lcdEnabled then g.screenTick cycles halt else ⟨g.blankTick cycles, cycles, false⟩

end MonsterMesh.PeanutGb.Gb
