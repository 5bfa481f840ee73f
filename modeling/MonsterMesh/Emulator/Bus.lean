import Mathlib.Algebra.Group.Nat.Defs
import MonsterMesh.Lib.Run

/-! What the processor of the emulated Game Boy sees: the cartridge behind its bank registers, the memories and the
registers of the devices. -/
namespace MonsterMesh.PeanutGb

open Fallible

/-- The arrays of the emulator that an address selects from. -/
inductive Region where
  | vram | wram | oam | hramIo | rtcLatched | rtcReal
deriving DecidableEq, Repr

def Region.size : Region → ℕ
  | .vram | .wram => 0x2000
  | .oam => 0xA0
  | .hramIo => 0x100
  | .rtcLatched | .rtcReal => 5

inductive GbFault where
  /-- An index that its array does not have. -/
  | outside (region : Region) (index : ℕ)
  /-- There is no boot ROM to call. -/
  | bootrom
  | invalidOpcode (addr : UInt16)
deriving DecidableEq, Repr

/-- What `gb_init` reads off the header. -/
structure Cart where
  rom : ℕ → UInt8
  mbc : ℕ
  cartRam : Bool
  numRomBanksMask : UInt16
  numRamBanks : UInt8
  cartIsMbc3O : Bool

/-- The sound chip. -/
structure Apu (α : Type) where
  audioRead : α → UInt16 → UInt8
  audioWrite : α → UInt16 → UInt8 → α

structure Gb (α : Type) where
  cart : Cart
  mem : Region → ℕ → UInt8
  /-- `cartRam_`, which is saved -/
  saveRam : ℕ → UInt8
  audio : α
  selectedRomBank : UInt16
  cartRamBank : UInt8
  enableCartRam : Bool
  cartModeSelect : UInt8
  joypad : UInt8
  lcdBlank : Bool
  gbFrame : Bool
  (lcdCount lcdOffCount divCount timaCount serialCount rtcCount : ℕ)

namespace Gb

variable {α : Type} (apu : Apu α) (g : Gb α)

def romBankSize : ℕ := 0x4000

def cramBankSize : ℕ := 0x2000

/-- `sizeof(cartRam_)` -/
def saveRamSize : ℕ := 0x8000

def oamSize : ℕ := 0xA0

/-- The bits of `hram_io` at an address of the page. -/
def io (i : ℕ) : UInt8 := g.mem .hramIo i

def setIo (i : ℕ) (val : UInt8) : Gb α :=
  { g with mem := fun r j => if r = .hramIo ∧ j = i then val else g.mem r j }

def ioJoyp : ℕ := 0x00
def ioSb : ℕ := 0x01
def ioSc : ℕ := 0x02
def ioDiv : ℕ := 0x04
def ioTima : ℕ := 0x05
def ioTma : ℕ := 0x06
def ioTac : ℕ := 0x07
def ioIf : ℕ := 0x0F
def ioLcdc : ℕ := 0x40
def ioStat : ℕ := 0x41
def ioLy : ℕ := 0x44
def ioLyc : ℕ := 0x45
def ioDma : ℕ := 0x46
def ioBoot : ℕ := 0x50
def ioIe : ℕ := 0xFF

/-- An element of an array. -/
def get (r : Region) (i : ℕ) : Except GbFault UInt8 :=
  if i < r.size then .ok (g.mem r i) else .error (.outside r i)

def set (r : Region) (i : ℕ) (val : UInt8) : Except GbFault (Gb α) :=
  if i < r.size then .ok { g with mem := fun r' j => if r' = r ∧ j = i then val else g.mem r' j }
  else .error (.outside r i)

/-- `pm_cartRamRead` -/
def cartRamRead (i : ℕ) : UInt8 := if saveRamSize ≤ i then 0xFF else g.saveRam i

/-- `pm_cartRamWrite` -/
def cartRamWrite (i : ℕ) (val : UInt8) : Gb α :=
  if i < saveRamSize then { g with saveRam := fun j => if j = i then val else g.saveRam j } else g

/-- The place in the save memory of an address, where the cartridge is no MBC2. -/
def ramAddr (banked : Bool) (i : ℕ) : ℕ := i - 0xA000 + if banked then g.cartRamBank.toNat * cramBankSize else 0

/-- The bank that is seen from `4000` on. -/
def romBank : UInt16 :=
  if g.cart.mbc = 1 ∧ g.cartModeSelect ≠ 0 then g.selectedRomBank &&& 0x1F else g.selectedRomBank

def readCartRam (i : ℕ) : Except GbFault UInt8 :=
  if g.cart.mbc = 3 ∧ 0x08 ≤ g.cartRamBank then g.get .rtcLatched (g.cartRamBank - 0x08).toNat
  else if g.cart.cartRam && g.enableCartRam then
    if g.cart.mbc = 2 then .ok (g.cartRamRead (i % 0x200))
    else
      .ok (g.cartRamRead
        (g.ramAddr ((g.cartModeSelect ≠ 0 || g.cart.mbc ≠ 1) && g.cartRamBank < g.cart.numRamBanks) i))
  else .ok 0xFF

/-- `__gb_read` -/
def read (addr : UInt16) : Except GbFault UInt8 :=
  let i := addr.toNat
  if i < 0x4000 then
    if g.io ioBoot = 0 ∧ i < 0x100 then .error .bootrom else .ok (g.cart.rom i)
  else if i < 0x8000 then .ok (g.cart.rom (i + g.romBank.toNat * romBankSize - romBankSize))
  else if i < 0xA000 then g.get .vram (i - 0x8000)
  else if i < 0xC000 then g.readCartRam i
  else if i < 0xE000 then g.get .wram (i - 0xC000)
  else if i < 0xFE00 then g.get .wram (i - 0xE000)
  else if i < 0xFEA0 then g.get .oam (i - 0xFE00)
  else if i < 0xFF00 then .ok 0xFF
  else if 0xFF10 ≤ i ∧ i ≤ 0xFF3F then .ok (apu.audioRead g.audio addr)
  else g.get .hramIo (i - 0xFF00)

/-- The last thing that each of the registers for the bank does. -/
def maskRomBank (bank : UInt16) : Gb α := { g with selectedRomBank := bank &&& g.cart.numRomBanksMask }

/-- `val & 0x0F` is the key that opens the save memory. -/
def opens (val : UInt8) : Bool := val &&& 0x0F = 0x0A

/-- A write to `0000` up to `3FFF`; there are cases that fall through to the next one. -/
def writeRomBank (i : ℕ) (val : UInt8) : Gb α :=
  let wide : UInt16 := val.toUInt16
  if i < 0x2000 ∧ 0 < g.cart.mbc ∧ g.cart.mbc ≠ 2 then
    if g.cart.cartRam then { g with enableCartRam := opens val } else g
  else if i < 0x3000 ∧ g.cart.mbc = 5 then g.maskRomBank (g.selectedRomBank &&& 0x100 ||| wide)
  else if g.cart.mbc = 1 then
    let bank := wide &&& 0x1F ||| g.selectedRomBank &&& 0x60
    g.maskRomBank (if bank &&& 0x1F = 0 then bank + 1 else bank)
  else if g.cart.mbc = 2 then
    if i / 0x100 % 2 = 1 then g.maskRomBank (if wide &&& 0x0F = 0 then 1 else wide &&& 0x0F)
    else { g with enableCartRam := opens val }
  else if g.cart.mbc = 3 then
    let bank := if g.cart.cartIsMbc3O then wide else wide &&& 0x7F
    g.maskRomBank (if bank = 0 then 1 else bank)
  else if g.cart.mbc = 5 then g.maskRomBank ((wide &&& 0x01) <<< 8 ||| g.selectedRomBank &&& 0xFF)
  else g.maskRomBank g.selectedRomBank

/-- A write to `4000` up to `5FFF`. -/
def writeRamBank (val : UInt8) : Gb α :=
  if g.cart.mbc = 1 then
    { g with cartRamBank := val &&& 3 }.maskRomBank ((val &&& 3).toUInt16 <<< 5 ||| g.selectedRomBank &&& 0x1F)
  else if g.cart.mbc = 3 then
    { g with cartRamBank := if !g.cart.cartIsMbc3O && val < 0x8 then val &&& 0x3 else val }
  else if g.cart.mbc = 5 then { g with cartRamBank := val &&& 0x0F }
  else g

/-- A write to `6000` up to `7FFF`. -/
def writeMode (val : UInt8) : Gb α :=
  let mode := val &&& 1
  let g' := if g.cart.mbc = 3 ∧ mode ≠ 0 ∧ g.cartModeSelect = 0 then
    { g with mem := fun r j => if r = .rtcLatched then g.mem .rtcReal j else g.mem r j } else g
  { g' with cartModeSelect := mode }

def rtcRegMask : ℕ → UInt8
  | 0 => 0x3F
  | 1 => 0x3F
  | 2 => 0x1F
  | 3 => 0xFF
  | _ => 0xC1

def writeCartRam (i : ℕ) (val : UInt8) : Except GbFault (Gb α) :=
  if g.cart.mbc = 3 ∧ 0x08 ≤ g.cartRamBank then
    g.set .rtcReal (g.cartRamBank - 0x08).toNat (val &&& rtcRegMask (g.cartRamBank - 0x08).toNat)
  else if g.cart.cartRam && g.enableCartRam then
    if g.cart.mbc = 2 then .ok (g.cartRamWrite (i % 0x200) (val &&& 0x0F ||| 0xF0))
    else if (g.cart.mbc = 1 ∧ g.cartModeSelect ≠ 0 ∨ g.cart.mbc ≠ 1) ∧ g.cartRamBank < g.cart.numRamBanks then
      .ok (g.cartRamWrite (g.ramAddr true i) val)
    else if g.cart.numRamBanks ≠ 0 then .ok (g.cartRamWrite (g.ramAddr false i) val)
    else .ok g
  else .ok g

def lcdEnabled : Bool := g.io ioLcdc &&& 0x80 ≠ 0

def writeLcdc (val : UInt8) : Gb α :=
  let g' := g.setIo ioLcdc val
  if !g.lcdEnabled && val &&& 0x80 ≠ 0 then { g' with lcdBlank := true }
  else if g.lcdEnabled && val &&& 0x80 = 0 then
    { (g'.setIo ioStat (g'.io ioStat &&& 0xFC)).setIo ioLy 0 with
      lcdOffCount := (g.lcdOffCount + g.lcdCount) % 2 ^ 32, lcdCount := 0 }
  else g'

def writeJoyp (val : UInt8) : Gb α :=
  g.setIo ioJoyp (if val &&& 0x10 = 0 then val ||| g.joypad >>> 4 else val ||| g.joypad &&& 0x0F)

/-- One byte of the transfer to the table of sprites. -/
def dmaByte (val : UInt8) (g : Gb α) (i : ℕ) : Except GbFault (Gb α) := do
  let b ← g.read apu (UInt16.ofNat (val.toNat * 0x100 + i))
  g.set .oam i b

def writeDma (val : UInt8) : Except GbFault (Gb α) :=
  (List.range oamSize).foldlM (dmaByte apu val) (g.setIo ioDma val)

/-- The registers that just take what is written; the palettes among them are copied for drawing. -/
def plainRegisters : List ℕ := [0x01, 0x02, 0x05, 0x06, 0x07, 0x42, 0x43, 0x45, 0x47, 0x48, 0x49, 0x4A, 0x4B, 0xFF]

/-- A write to a register of the page of devices. -/
def writeIo (i : ℕ) (val : UInt8) : Except GbFault (Gb α) :=
  if i = ioJoyp then .ok (g.writeJoyp val)
  else if i = ioDiv then .ok (g.setIo ioDiv 0)
  else if i = ioIf then .ok (g.setIo ioIf (val ||| 0xE0))
  else if i = ioLcdc then .ok (g.writeLcdc val)
  else if i = ioStat then .ok (g.setIo ioStat (val &&& 0xF8 ||| g.io ioStat &&& 0x03 ||| 0x80))
  else if i = ioDma then g.writeDma apu val
  else if i = ioBoot then .ok (g.setIo ioBoot 1)
  else if i ∈ plainRegisters then .ok (g.setIo i val)
  else .ok g

/-- `__gb_write` -/
def write (addr : UInt16) (val : UInt8) : Except GbFault (Gb α) :=
  let i := addr.toNat
  if i < 0x4000 then .ok (g.writeRomBank i val)
  else if i < 0x6000 then .ok (g.writeRamBank val)
  else if i < 0x8000 then .ok (g.writeMode val)
  else if i < 0xA000 then g.set .vram (i - 0x8000) val
  else if i < 0xC000 then g.writeCartRam i val
  else if i < 0xE000 then g.set .wram (i - 0xC000) val
  else if i < 0xFE00 then g.set .wram (i - 0xE000) val
  else if i < 0xFEA0 then g.set .oam (i - 0xFE00) val
  else if i < 0xFF00 then .ok g
  else if 0xFF80 ≤ i ∧ i < 0xFFFF then g.set .hramIo (i - 0xFF00) val
  else if 0xFF10 ≤ i ∧ i ≤ 0xFF3F then .ok { g with audio := apu.audioWrite g.audio addr val }
  else g.writeIo apu (i - 0xFF00) val

end Gb
end MonsterMesh.PeanutGb
