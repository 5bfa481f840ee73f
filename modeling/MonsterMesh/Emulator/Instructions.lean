import MonsterMesh.Emulator.Alu
import MonsterMesh.Lib.Interaction

/-! The instructions: how an opcode is taken apart, and what each does to registers and memory. -/
namespace MonsterMesh.PeanutGb

/-- A register, or the byte that `HL` points to. -/
inductive Operand where
  | reg (x : Reg8)
  | atHl
deriving DecidableEq, Repr

inductive Cond where
  | nz | z | nc | c
deriving DecidableEq, Repr

inductive AluOp where
  | add | adc | sub | sbc | and | xor | or | cp
deriving DecidableEq, Repr

inductive Instr where
  /-- `NOP`, and `STOP` which does nothing here. -/
  | nop
  | ldImm16 (x : Reg16)
  | ldAtA (x : Reg16)
  | ldAAt (x : Reg16)
  | inc16 (x : Reg16)
  | dec16 (x : Reg16)
  | inc (x : Operand)
  | dec (x : Operand)
  | ldImm (x : Operand)
  | rlca | rrca | rla | rra
  | ldAtImmSp
  | addHl (x : Reg16)
  | jr
  | jrIf (cc : Cond)
  | ldiHlA | lddHlA | ldiAHl | lddAHl
  | daa | cpl | scf | ccf
  | ld (x : Reg8) (y : Operand)
  | ldHl (y : Reg8)
  | halt
  | alu (op : AluOp) (y : Operand)
  | aluImm (op : AluOp)
  | retIf (cc : Cond)
  | ret | reti
  | pop (x : Reg16)
  | popAf
  | push (x : Reg16)
  | pushAf
  | jpIf (cc : Cond)
  | jp | jpHl
  | callIf (cc : Cond)
  | call
  | rst (addr : UInt16)
  | cb
  | ldhImmA | ldhAImm | ldCA | ldAC
  | addSp | ldHlSp | ldSpHl
  | ldAtImmA | ldAAtImm
  | di | ei
deriving DecidableEq, Repr

namespace Instr

/-! ### Decoding -/

def operand : ℕ → Operand
  | 0 => .reg .b
  | 1 => .reg .c
  | 2 => .reg .d
  | 3 => .reg .e
  | 4 => .reg .h
  | 5 => .reg .l
  | 6 => .atHl
  | _ => .reg .a

def pair : ℕ → Reg16
  | 0 => .bc
  | 1 => .de
  | 2 => .hl
  | _ => .sp

def cond : ℕ → Cond
  | 0 => .nz
  | 1 => .z
  | 2 => .nc
  | _ => .c

def aluOp : ℕ → AluOp
  | 0 => .add
  | 1 => .adc
  | 2 => .sub
  | 3 => .sbc
  | 4 => .and
  | 5 => .xor
  | 6 => .or
  | _ => .cp

/-- The opcodes up to `3F`, by the octal digits `y` and `z`. -/
def decodeLow (y : ℕ) : ℕ → Instr
  | 0 =>
    match y with
    | 0 | 2 => .nop
    | 1 => .ldAtImmSp
    | 3 => .jr
    | y => .jrIf (cond (y - 4))
  | 1 => if y % 2 = 0 then .ldImm16 (pair (y / 2)) else .addHl (pair (y / 2))
  | 2 =>
    match y with
    | 0 => .ldAtA .bc
    | 1 => .ldAAt .bc
    | 2 => .ldAtA .de
    | 3 => .ldAAt .de
    | 4 => .ldiHlA
    | 5 => .ldiAHl
    | 6 => .lddHlA
    | _ => .lddAHl
  | 3 => if y % 2 = 0 then .inc16 (pair (y / 2)) else .dec16 (pair (y / 2))
  | 4 => .inc (operand y)
  | 5 => .dec (operand y)
  | 6 => .ldImm (operand y)
  | _ =>
    match y with
    | 0 => .rlca
    | 1 => .rrca
    | 2 => .rla
    | 3 => .rra
    | 4 => .daa
    | 5 => .cpl
    | 6 => .scf
    | _ => .ccf

/-- The loads between registers and `HALT` in their midst. -/
def decodeLd (y z : ℕ) : Instr :=
  match operand y, operand z with
  | .reg x, src => .ld x src
  | .atHl, .reg x => .ldHl x
  | .atHl, .atHl => .halt

/-- The opcodes from `C0` on; eleven of them are none. -/
def decodeHigh (y : ℕ) : ℕ → Option Instr
  | 0 =>
    match y with
    | 4 => some .ldhImmA
    | 5 => some .addSp
    | 6 => some .ldhAImm
    | 7 => some .ldHlSp
    | y => some (.retIf (cond y))
  | 1 =>
    match y with
    | 0 => some (.pop .bc)
    | 1 => some .ret
    | 2 => some (.pop .de)
    | 3 => some .reti
    | 4 => some (.pop .hl)
    | 5 => some .jpHl
    | 6 => some .popAf
    | _ => some .ldSpHl
  | 2 =>
    match y with
    | 4 => some .ldCA
    | 5 => some .ldAtImmA
    | 6 => some .ldAC
    | 7 => some .ldAAtImm
    | y => some (.jpIf (cond y))
  | 3 =>
    match y with
    | 0 => some .jp
    | 1 => some .cb
    | 6 => some .di
    | 7 => some .ei
    | _ => none
  | 4 => if y < 4 then some (.callIf (cond y)) else none
  | 5 =>
    match y with
    | 0 => some (.push .bc)
    | 1 => some .call
    | 2 => some (.push .de)
    | 4 => some (.push .hl)
    | 6 => some .pushAf
    | _ => none
  | 6 => some (.aluImm (aluOp y))
  | _ => some (.rst (UInt16.ofNat (8 * y)))

def decode (opcode : UInt8) : Option Instr :=
  let op := opcode.toNat
  match op / 64 with
  | 0 => some (decodeLow (op / 8 % 8) (op % 8))
  | 1 => some (decodeLd (op / 8 % 8) (op % 8))
  | 2 => some (.alu (aluOp (op / 8 % 8)) (operand (op % 8)))
  | _ => decodeHigh (op / 8 % 8) (op % 8)

def opCycles : Array ℕ := #[
  4, 12, 8, 8, 4, 4, 8, 4, 20, 8, 8, 8, 4, 4, 8, 4,
  4, 12, 8, 8, 4, 4, 8, 4, 12, 8, 8, 8, 4, 4, 8, 4,
  8, 12, 8, 8, 4, 4, 8, 4, 8, 8, 8, 8, 4, 4, 8, 4,
  8, 12, 8, 8, 12, 12, 12, 4, 8, 8, 8, 8, 4, 4, 8, 4,
  4, 4, 4, 4, 4, 4, 8, 4, 4, 4, 4, 4, 4, 4, 8, 4,
  4, 4, 4, 4, 4, 4, 8, 4, 4, 4, 4, 4, 4, 4, 8, 4,
  4, 4, 4, 4, 4, 4, 8, 4, 4, 4, 4, 4, 4, 4, 8, 4,
  8, 8, 8, 8, 8, 8, 4, 8, 4, 4, 4, 4, 4, 4, 8, 4,
  4, 4, 4, 4, 4, 4, 8, 4, 4, 4, 4, 4, 4, 4, 8, 4,
  4, 4, 4, 4, 4, 4, 8, 4, 4, 4, 4, 4, 4, 4, 8, 4,
  4, 4, 4, 4, 4, 4, 8, 4, 4, 4, 4, 4, 4, 4, 8, 4,
  4, 4, 4, 4, 4, 4, 8, 4, 4, 4, 4, 4, 4, 4, 8, 4,
  8, 12, 12, 16, 12, 16, 8, 16, 8, 16, 12, 8, 12, 24, 8, 16,
  8, 12, 12, 0, 12, 16, 8, 16, 8, 16, 12, 0, 12, 0, 8, 16,
  12, 12, 8, 0, 0, 16, 8, 16, 16, 4, 16, 0, 0, 0, 8, 16,
  12, 12, 8, 4, 0, 16, 8, 16, 12, 8, 16, 4, 0, 0, 8, 16]

/-! ### Execution -/

/-- Registers at hand, memory to be asked. -/
abbrev Exec := StateT Cpu (Interaction UInt16 UInt8)

def readMem (addr : UInt16) : Exec UInt8 := StateT.lift (Interaction.load addr)

def writeMem (addr : UInt16) (val : UInt8) : Exec Unit := StateT.lift (Interaction.store addr val)

/-- `__gb_read(gb, gb->cpu_reg.pc.reg++)` -/
def imm : Exec UInt8 := do
  let r ← get
  set { r with pc := r.pc + 1 }
  readMem r.pc

/-- Two bytes, the low one first. -/
def imm16 : Exec UInt16 := do
  let l ← imm
  let h ← imm
  return Bytes.ofBe16 h l

def pushByte (val : UInt8) : Exec Unit := do
  let r ← get
  set { r with sp := r.sp - 1 }
  writeMem (r.sp - 1) val

def popByte : Exec UInt8 := do
  let r ← get
  set { r with sp := r.sp + 1 }
  readMem r.sp

def push16 (hi lo : UInt8) : Exec Unit := do
  pushByte hi
  pushByte lo

def pop16 : Exec UInt16 := do
  let l ← popByte
  let h ← popByte
  return Bytes.ofBe16 h l

def pushPc : Exec Unit := do
  let r ← get
  push16 (Cpu.hi r.pc) (Cpu.lo r.pc)

def jump (addr : UInt16) : Exec Unit := modify fun r => { r with pc := addr }

def readOperand : Operand → Exec UInt8
  | .reg x => do return (← get).get8 x
  | .atHl => do readMem (← get).hl

def writeOperand (val : UInt8) : Operand → Exec Unit
  | .reg x => modify fun r => r.set8 x val
  | .atHl => do writeMem (← get).hl val

def holds (f : Flags) : Cond → Bool
  | .nz => !f.z
  | .z => f.z
  | .nc => !f.c
  | .c => f.c

/-- An operation on the accumulator. -/
def arith (op : AluOp) (val : UInt8) (r : Cpu) : Cpu :=
  match op with
  | .add => Alu.adcR8 r val false
  | .adc => Alu.adcR8 r val r.f.c
  | .sub => Alu.sbcR8 r val false
  | .sbc => Alu.sbcR8 r val r.f.c
  | .and => Alu.andR8 r val
  | .xor => Alu.xorR8 r val
  | .or => Alu.orR8 r val
  | .cp => Alu.cpR8 r val

/-- `SUB A`, `SBC A, A` and `CP A` are written out. -/
def arithReg (op : AluOp) (y : Operand) (val : UInt8) (r : Cpu) : Cpu :=
  match op, y with
  | .sub, .reg .a => Alu.subA r
  | .sbc, .reg .a => Alu.sbcA r
  | .cp, .reg .a => Alu.cpA r
  | op, _ => arith op val r

/-- So is `SUB imm`. -/
def arithImm (op : AluOp) (val : UInt8) (r : Cpu) : Cpu :=
  match op with
  | .sub => Alu.sbcR8Portable r val false
  | op => arith op val r

def flagByte (f : Flags) : UInt8 :=
  UInt8.ofNat (Alu.bit f.z * 0x80 + Alu.bit f.n * 0x40 + Alu.bit f.h * 0x20 + Alu.bit f.c * 0x10)

def flagsOf (val : UInt8) : Flags :=
  ⟨val &&& 0x80 ≠ 0, val &&& 0x40 ≠ 0, val &&& 0x20 ≠ 0, val &&& 0x10 ≠ 0⟩

/-- `__gb_execute_cb`, with the cycles it takes. -/
def executeCb : Exec ℕ := do
  let cbop := (← imm).toNat
  let x := operand (cbop % 8)
  let b := cbop / 8 % 8
  let val ← readOperand x
  match cbop / 64 with
  | 0 => do
    let r := Alu.shift cbop (← get).f.c val
    modify fun cpu => { cpu with f := r.2 }
    writeOperand r.1 x
  | 1 => modify fun cpu => { cpu with f := { cpu.f with z := val.toNat / 2 ^ b % 2 = 0, n := false, h := true } }
  | 2 => writeOperand (val &&& UInt8.ofNat (0xFE * 2 ^ b + 0xFF / 2 ^ (8 - b))) x
  | _ => writeOperand (val ||| UInt8.ofNat (2 ^ b)) x
  return if x = .atHl then (if cbop / 64 = 1 then 12 else 16) else 8

/-- One instruction; `cycles` are those of the table. -/
def exec (cycles : ℕ) : Instr → Exec ℕ
  | .nop => return cycles
  | .ldImm16 x => do
    let val ← imm16
    modify fun r => r.set16 x val
    return cycles
  | .ldAtA x => do
    let r ← get
    writeMem (r.get16 x) r.a
    return cycles
  | .ldAAt x => do
    let val ← readMem ((← get).get16 x)
    modify fun r => { r with a := val }
    return cycles
  | .inc16 x => do
    modify fun r => r.set16 x (r.get16 x + 1)
    return cycles
  | .dec16 x => do
    modify fun r => r.set16 x (r.get16 x - 1)
    return cycles
  | .inc x => do
    let val ← readOperand x
    let res := Alu.incR8 (← get).f val
    modify fun r => { r with f := res.2 }
    writeOperand res.1 x
    return cycles
  | .dec x => do
    let val ← readOperand x
    let res := Alu.decR8 (← get).f val
    modify fun r => { r with f := res.2 }
    writeOperand res.1 x
    return cycles
  | .ldImm x => do
    let val ← imm
    writeOperand val x
    return cycles
  | .rlca => do
    modify Alu.rlca
    return cycles
  | .rrca => do
    modify Alu.rrca
    return cycles
  | .rla => do
    modify Alu.rla
    return cycles
  | .rra => do
    modify Alu.rra
    return cycles
  | .ldAtImmSp => do
    let addr ← imm16
    let sp := (← get).sp
    writeMem addr (Cpu.lo sp)
    writeMem (addr + 1) (Cpu.hi sp)
    return cycles
  | .addHl x => do
    modify fun r =>
      match x with
      | .hl => Alu.addHlHl r
      | .sp => Alu.addHlSp r
      | x => Alu.addHl r x
    return cycles
  | .jr => do
    let val ← imm
    modify fun r => { r with pc := r.pc + Alu.offset val }
    return cycles
  | .jrIf cc => do
    if holds (← get).f cc then
      let val ← imm
      modify fun r => { r with pc := r.pc + Alu.offset val }
      return cycles + 4
    else
      modify fun r => { r with pc := r.pc + 1 }
      return cycles
  | .ldiHlA => do
    let r ← get
    writeMem r.hl r.a
    modify fun r => r.set16 .hl (r.hl + 1)
    return cycles
  | .lddHlA => do
    let r ← get
    writeMem r.hl r.a
    modify fun r => r.set16 .hl (r.hl - 1)
    return cycles
  | .ldiAHl => do
    let val ← readMem (← get).hl
    modify fun r => { r.set16 .hl (r.hl + 1) with a := val }
    return cycles
  | .lddAHl => do
    let val ← readMem (← get).hl
    modify fun r => { r.set16 .hl (r.hl - 1) with a := val }
    return cycles
  | .daa => do
    modify Alu.daa
    return cycles
  | .cpl => do
    modify fun r => { r with a := ~~~r.a, f := { r.f with n := true, h := true } }
    return cycles
  | .scf => do
    modify fun r => { r with f := { r.f with n := false, h := false, c := true } }
    return cycles
  | .ccf => do
    modify fun r => { r with f := { r.f with n := false, h := false, c := !r.f.c } }
    return cycles
  | .ld x y => do
    let val ← readOperand y
    modify fun r => r.set8 x val
    return cycles
  | .ldHl y => do
    let r ← get
    writeMem r.hl (r.get8 y)
    return cycles
  | .halt => do
    modify fun r => { r with halt := true }
    return cycles
  | .alu op y => do
    let val ← readOperand y
    modify (arithReg op y val)
    return cycles
  | .aluImm op => do
    let val ← imm
    modify (arithImm op val)
    return cycles
  | .retIf cc => do
    if holds (← get).f cc then
      jump (← pop16)
      return cycles + 12
    else return cycles
  | .ret => do
    jump (← pop16)
    return cycles
  | .reti => do
    jump (← pop16)
    modify fun r => { r with ime := true }
    return cycles
  | .pop x => do
    let val ← pop16
    modify fun r => r.set16 x val
    return cycles
  | .popAf => do
    let val ← pop16
    modify fun r => { r with a := Cpu.hi val, f := flagsOf (Cpu.lo val) }
    return cycles
  | .push x => do
    let val := (← get).get16 x
    push16 (Cpu.hi val) (Cpu.lo val)
    return cycles
  | .pushAf => do
    let r ← get
    push16 r.a (flagByte r.f)
    return cycles
  | .jpIf cc => do
    if holds (← get).f cc then
      jump (← imm16)
      return cycles + 4
    else
      modify fun r => { r with pc := r.pc + 2 }
      return cycles
  | .jp => do
    jump (← imm16)
    return cycles
  | .jpHl => do
    modify fun r => { r with pc := r.hl }
    return cycles
  | .callIf cc => do
    if holds (← get).f cc then
      let addr ← imm16
      pushPc
      jump addr
      return cycles + 12
    else
      modify fun r => { r with pc := r.pc + 2 }
      return cycles
  | .call => do
    let addr ← imm16
    pushPc
    jump addr
    return cycles
  | .rst addr => do
    pushPc
    jump addr
    return cycles
  | .cb => executeCb
  | .ldhImmA => do
    let val ← imm
    writeMem (0xFF00 ||| val.toUInt16) (← get).a
    return cycles
  | .ldhAImm => do
    let val ← imm
    let res ← readMem (0xFF00 ||| val.toUInt16)
    modify fun r => { r with a := res }
    return cycles
  | .ldCA => do
    let r ← get
    writeMem (0xFF00 ||| r.c.toUInt16) r.a
    return cycles
  | .ldAC => do
    let val ← readMem (0xFF00 ||| (← get).c.toUInt16)
    modify fun r => { r with a := val }
    return cycles
  | .addSp => do
    let val ← imm
    modify fun r => { r with f := Alu.offsetFlags r.sp val, sp := r.sp + Alu.offset val }
    return cycles
  | .ldHlSp => do
    let val ← imm
    modify fun r => { r.set16 .hl (r.sp + Alu.offset val) with f := Alu.offsetFlags r.sp val }
    return cycles
  | .ldSpHl => do
    modify fun r => { r with sp := r.hl }
    return cycles
  | .ldAtImmA => do
    let addr ← imm16
    writeMem addr (← get).a
    return cycles
  | .ldAAtImm => do
    let val ← readMem (← imm16)
    modify fun r => { r with a := val }
    return cycles
  | .di => do
    modify fun r => { r with ime := false }
    return cycles
  | .ei => do
    modify fun r => { r with ime := true }
    return cycles

end Instr
end MonsterMesh.PeanutGb
