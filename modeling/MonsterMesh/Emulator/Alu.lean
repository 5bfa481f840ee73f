import Mathlib.Data.Nat.Basic
import MonsterMesh.Lib.Bytes

/-! The registers of the processor and its arithmetic. -/
namespace MonsterMesh.PeanutGb

/-- The flags that are used; the other four bits are never seen. -/
structure Flags where
  (z n h c : Bool)
deriving DecidableEq, Repr

structure Cpu where
  a : UInt8
  f : Flags
  (b c d e h l : UInt8)
  (sp pc : UInt16)
  /-- `gb_ime` -/
  ime : Bool
  /-- `gb_halt` -/
  halt : Bool
deriving DecidableEq, Repr

inductive Reg8 where
  | b | c | d | e | h | l | a
deriving DecidableEq, Repr

inductive Reg16 where
  | bc | de | hl | sp
deriving DecidableEq, Repr

namespace Cpu

variable (r : Cpu)

def get8 : Reg8 → UInt8
  | .b => r.b
  | .c => r.c
  | .d => r.d
  | .e => r.e
  | .h => r.h
  | .l => r.l
  | .a => r.a

def set8 (x : Reg8) (val : UInt8) : Cpu :=
  match x with
  | .b => { r with b := val }
  | .c => { r with c := val }
  | .d => { r with d := val }
  | .e => { r with e := val }
  | .h => { r with h := val }
  | .l => { r with l := val }
  | .a => { r with a := val }

def get16 : Reg16 → UInt16
  | .bc => Bytes.ofBe16 r.b r.c
  | .de => Bytes.ofBe16 r.d r.e
  | .hl => Bytes.ofBe16 r.h r.l
  | .sp => r.sp

def hi (val : UInt16) : UInt8 := (val >>> 8).toUInt8

def lo (val : UInt16) : UInt8 := val.toUInt8

def set16 (x : Reg16) (val : UInt16) : Cpu :=
  match x with
  | .bc => { r with b := hi val, c := lo val }
  | .de => { r with d := hi val, e := lo val }
  | .hl => { r with h := hi val, l := lo val }
  | .sp => { r with sp := val }

def hl : UInt16 := r.get16 .hl

end Cpu

namespace Alu

def bit (b : Bool) : ℕ := if b then 1 else 0

/-- `((a ^ r ^ temp) & 0x10) > 0` -/
def half (a r temp : UInt8) : Bool := (a ^^^ r ^^^ temp) &&& 0x10 ≠ 0

/-- `PGB_INSTR_ADC_R8` with `__builtin_add_overflow`. -/
def adcR8 (cpu : Cpu) (r : UInt8) (cin : Bool) : Cpu :=
  let sum := cpu.a.toNat + (r.toNat + bit cin)
  let temp := UInt8.ofNat sum
  { cpu with f := ⟨temp = 0, false, half cpu.a r temp, 0xFF < sum⟩, a := temp }

/-- The same macro for compilers that lack it. -/
def adcR8Portable (cpu : Cpu) (r : UInt8) (cin : Bool) : Cpu :=
  let temp : UInt16 := UInt16.ofNat (cpu.a.toNat + r.toNat + bit cin)
  { cpu with f := ⟨temp &&& 0xFF = 0, false, half cpu.a r temp.toUInt8, temp &&& 0xFF00 ≠ 0⟩, a := temp.toUInt8 }

/-- What `PGB_INSTR_SBC_R8` and `PGB_INSTR_CP_R8` compute with `__builtin_sub_overflow`. -/
def difference (a r : UInt8) (cin : Bool) : UInt8 × Flags :=
  let diff : ℤ := a.toNat - (r.toNat + bit cin : ℕ)
  let temp := UInt8.ofInt diff
  (temp, ⟨temp = 0, true, half a r temp, diff < 0⟩)

def sbcR8 (cpu : Cpu) (r : UInt8) (cin : Bool) : Cpu :=
  { cpu with a := (difference cpu.a r cin).1, f := (difference cpu.a r cin).2 }

def cpR8 (cpu : Cpu) (r : UInt8) : Cpu := { cpu with f := (difference cpu.a r false).2 }

/-- The same for compilers that lack it, and the body of `SUB imm`. -/
def sbcR8Portable (cpu : Cpu) (r : UInt8) (cin : Bool) : Cpu :=
  let temp : UInt16 := cpu.a.toUInt16 - UInt16.ofNat (r.toNat + bit cin)
  { cpu with f := ⟨temp &&& 0xFF = 0, true, half cpu.a r temp.toUInt8, temp &&& 0xFF00 ≠ 0⟩, a := temp.toUInt8 }

def andR8 (cpu : Cpu) (r : UInt8) : Cpu :=
  { cpu with a := cpu.a &&& r, f := ⟨cpu.a &&& r = 0, false, true, false⟩ }

def xorR8 (cpu : Cpu) (r : UInt8) : Cpu :=
  { cpu with a := cpu.a ^^^ r, f := ⟨cpu.a ^^^ r = 0, false, false, false⟩ }

def orR8 (cpu : Cpu) (r : UInt8) : Cpu :=
  { cpu with a := cpu.a ||| r, f := ⟨cpu.a ||| r = 0, false, false, false⟩ }

/-- `PGB_INSTR_INC_R8`: the new value and the flags; the carry stays. -/
def incR8 (f : Flags) (r : UInt8) : UInt8 × Flags :=
  (r + 1, { f with h := (r + 1) &&& 0x0F = 0, n := false, z := r + 1 = 0 })

def decR8 (f : Flags) (r : UInt8) : UInt8 × Flags :=
  (r - 1, { f with h := (r - 1) &&& 0x0F = 0x0F, n := true, z := r - 1 = 0 })

/-- `SUB A` has a body of its own. -/
def subA (cpu : Cpu) : Cpu := { cpu with a := 0, f := ⟨true, true, false, false⟩ }

def sbcA (cpu : Cpu) : Cpu :=
  { cpu with a := if cpu.f.c then 0xFF else 0, f := ⟨!cpu.f.c, true, cpu.f.c, cpu.f.c⟩ }

def cpA (cpu : Cpu) : Cpu := { cpu with f := ⟨true, true, false, false⟩ }

/-- `ADD HL, BC` and `ADD HL, DE`. -/
def addHl (cpu : Cpu) (x : Reg16) : Cpu :=
  let temp := cpu.hl.toNat + (cpu.get16 x).toNat
  { cpu.set16 .hl (UInt16.ofNat temp) with
    f := { cpu.f with
      n := false
      h := (temp ^^^ cpu.hl.toNat ^^^ (cpu.get16 x).toNat) &&& 0x1000 ≠ 0
      c := 0xFFFF < temp } }

def addHlHl (cpu : Cpu) : Cpu :=
  let temp := cpu.hl <<< 1
  { cpu.set16 .hl temp with
    f := { cpu.f with c := cpu.hl &&& 0x8000 ≠ 0, n := false, h := temp &&& 0x1000 ≠ 0 } }

def addHlSp (cpu : Cpu) : Cpu :=
  let temp := cpu.hl.toNat + cpu.sp.toNat
  { cpu.set16 .hl (UInt16.ofNat temp) with
    f := { cpu.f with
      n := false
      h := (cpu.hl.toNat % 0x1000 + cpu.sp.toNat % 0x1000) &&& 0x1000 ≠ 0
      c := temp &&& 0x10000 ≠ 0 } }

/-- A byte as a signed offset to an address. -/
def offset (val : UInt8) : UInt16 := if val < 0x80 then val.toUInt16 else val.toUInt16 ||| 0xFF00

/-- The flags of `ADD SP, imm` and `LD HL, SP+imm`. -/
def offsetFlags (sp : UInt16) (val : UInt8) : Flags :=
  ⟨false, false, 0xF < sp.toNat % 0x10 + val.toNat % 0x10, 0xFF < sp.toNat % 0x100 + val.toNat⟩

def daa (cpu : Cpu) : Cpu :=
  let a : ℤ := cpu.a.toNat
  let a : ℤ := if cpu.f.n then
      let a := if cpu.f.h then (a - 0x06) % 0x100 else a
      if cpu.f.c then a - 0x60 else a
    else
      let a := if cpu.f.h || 9 < a % 0x10 then a + 0x06 else a
      if cpu.f.c || 0x9F < a then a + 0x60 else a
  let val := UInt8.ofInt a
  { cpu with a := val, f := { cpu.f with c := cpu.f.c || a / 0x100 % 2 = 1, z := val = 0, h := false } }

/-- `RLCA`, `RRCA`, `RLA` and `RRA` clear the zero flag. -/
def rlca (cpu : Cpu) : Cpu :=
  let val := cpu.a <<< 1 ||| cpu.a >>> 7
  { cpu with a := val, f := ⟨false, false, false, val &&& 0x01 ≠ 0⟩ }

def rrca (cpu : Cpu) : Cpu :=
  { cpu with a := cpu.a >>> 1 ||| cpu.a <<< 7, f := ⟨false, false, false, cpu.a &&& 0x01 ≠ 0⟩ }

def rla (cpu : Cpu) : Cpu :=
  { cpu with a := cpu.a <<< 1 ||| UInt8.ofNat (bit cpu.f.c), f := ⟨false, false, false, cpu.a >>> 7 ≠ 0⟩ }

def rra (cpu : Cpu) : Cpu :=
  { cpu with a := cpu.a >>> 1 ||| UInt8.ofNat (bit cpu.f.c) <<< 7, f := ⟨false, false, false, cpu.a &&& 0x1 ≠ 0⟩ }

/-- The first quarter of `__gb_execute_cb`: the value shifted or rotated, and the flags. -/
def shift (cbop : ℕ) (c : Bool) (val : UInt8) : UInt8 × Flags :=
  let carry := UInt8.ofNat (bit c)
  let r : UInt8 × Bool := match cbop / 8 % 8 with
    | 0 => (val <<< 1 ||| val >>> 7, val >>> 7 ≠ 0)
    | 1 => (val >>> 1 ||| val <<< 7, val &&& 0x01 ≠ 0)
    | 2 => (val <<< 1 ||| carry, val >>> 7 ≠ 0)
    | 3 => (val >>> 1 ||| carry <<< 7, val &&& 0x01 ≠ 0)
    | 4 => (val <<< 1, val >>> 7 ≠ 0)
    | 5 => (val >>> 1 ||| val &&& (0x80 : UInt8), val &&& 0x01 ≠ 0)
    | 6 => (val >>> 4 &&& (0x0F : UInt8) ||| val <<< 4 &&& (0xF0 : UInt8), false)
    | _ => (val >>> 1, val &&& 0x01 ≠ 0)
  (r.1, ⟨r.1 = 0, false, false, r.2⟩)

end Alu
end MonsterMesh.PeanutGb
