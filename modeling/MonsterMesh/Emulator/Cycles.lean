import MonsterMesh.Emulator.Accesses

/-! What every instruction does to the clock: it takes some cycles and but for `HALT` it does not halt. -/
namespace MonsterMesh.PeanutGb

open Interaction

@[simp] theorem Cpu.set8_halt (r : Cpu) (x : Reg8) (val : UInt8) : (r.set8 x val).halt = r.halt := by
  cases x <;> rfl

@[simp] theorem Cpu.set16_halt (r : Cpu) (x : Reg16) (val : UInt16) : (r.set16 x val).halt = r.halt := by
  cases x <;> rfl

namespace Instr

variable {β γ : Type} {cpu r : Cpu} {addr : UInt16} {val : UInt8} {op : AluOp} {x : Operand} {n : ℕ}

/-! ### Running the instructions on registers only -/

@[simp] theorem run_pure {b : β} : (pure b : Exec β).run cpu = pure (b, cpu) := rfl

@[simp] theorem run_bind {p : Exec β} {f : β → Exec γ} :
    (p >>= f).run cpu = p.run cpu >>= fun r => (f r.1).run r.2 := rfl

@[simp] theorem run_get : (get : Exec Cpu).run cpu = pure (cpu, cpu) := rfl

@[simp] theorem run_set : (set r : Exec Unit).run cpu = pure ((), r) := rfl

@[simp] theorem run_modify {f : Cpu → Cpu} : (modify f : Exec Unit).run cpu = pure ((), f cpu) := rfl

@[simp] theorem always_readMem {Q : UInt8 × Cpu → Prop} :
    ((readMem addr).run cpu).Always Q ↔ ∀ b, Q (b, cpu) := Iff.rfl

@[simp] theorem always_writeMem {Q : Unit × Cpu → Prop} :
    ((writeMem addr val).run cpu).Always Q ↔ Q ((), cpu) := Iff.rfl

@[simp] theorem always_imm {Q : UInt8 × Cpu → Prop} :
    (imm.run cpu).Always Q ↔ ∀ b, Q (b, { cpu with pc := cpu.pc + 1 }) := by
  simp [imm]

theorem always_readOperand {Q : UInt8 × Cpu → Prop} (h : ∀ b, Q (b, cpu)) :
    ((readOperand x).run cpu).Always Q := by
  cases x with
  | reg x => simpa [readOperand] using h _
  | atHl => simpa [readOperand] using h

theorem always_writeOperand {Q : Unit × Cpu → Prop} (h : ∀ r : Cpu, r.halt = cpu.halt → Q ((), r)) :
    ((writeOperand val x).run cpu).Always Q := by
  cases x with
  | reg x => simpa [writeOperand] using h _ (Cpu.set8_halt _ _ _)
  | atHl => simpa [writeOperand] using h cpu rfl

/-! ### Halting -/

@[simp] theorem arith_halt : (arith op val cpu).halt = cpu.halt := by
  cases op <;> rfl

@[simp] theorem arithReg_halt : (arithReg op x val cpu).halt = cpu.halt := by
  unfold arithReg
  split <;> first | rfl | exact arith_halt

@[simp] theorem arithImm_halt : (arithImm op val cpu).halt = cpu.halt := by
  unfold arithImm
  split <;> first | rfl | exact arith_halt

theorem addHl_halt (x : Reg16) :
    (match x with
      | .hl => Alu.addHlHl cpu
      | .sp => Alu.addHlSp cpu
      | x => Alu.addHl cpu x : Cpu).halt = cpu.halt := by
  cases x <;> rfl

/-- How an instruction can end, where the table has `n` cycles for it. -/
def Outcome (n : ℕ) (i : Instr) (r : ℕ × Cpu) : Prop :=
  (n ≤ r.1 ∨ 8 ≤ r.1) ∧ r.1 ≤ n + 16 ∧ (r.2.halt = true → i = .halt ∧ r.1 = n)

theorem outcome_of {i : Instr} (h : cpu.halt = false) {k : ℕ} (hk : k ≤ 16) : Outcome n i (n + k, cpu) :=
  ⟨.inl (Nat.le_add_right n k), Nat.add_le_add_left hk n, fun ht => by simp [h] at ht⟩

theorem executeCb_outcome (h : cpu.halt = false) : (executeCb.run cpu).Always (Outcome n .cb) := by
  have hx : ∀ (x : Operand) (b : ℕ), let k := if x = .atHl then (if b = 1 then 12 else 16) else 8
      8 ≤ k ∧ k ≤ 16 := by
    intro x b
    dsimp only
    split_ifs <;> omega
  have hend : ∀ (r : Cpu) (x : Operand) (b : ℕ), r.halt = false →
      Outcome n .cb (if x = .atHl then (if b = 1 then 12 else 16) else 8, r) := fun r x b hr =>
    ⟨.inr (hx x b).1, by have := (hx x b).2; dsimp only at this ⊢; omega, fun ht => by simp [hr] at ht⟩
  simp only [executeCb, run_bind, always_bind, always_imm]
  intro cbop
  refine always_readOperand fun val => ?_
  split <;> simp only [run_bind, run_get, run_modify, run_pure, always_bind, always_pure]
  · exact always_writeOperand fun r hr => hend r _ _ (hr.trans h)
  · exact hend _ _ _ h
  · exact always_writeOperand fun r hr => hend r _ _ (hr.trans h)
  · exact always_writeOperand fun r hr => hend r _ _ (hr.trans h)

theorem exec_outcome (i : Instr) (h : cpu.halt = false) : ((exec n i).run cpu).Always (Outcome n i) := by
  cases i with
  | inc x | dec x =>
    simp only [exec, run_bind, always_bind, run_get, run_modify, run_pure, always_pure]
    refine always_readOperand fun val => always_writeOperand fun r hr => ?_
    exact outcome_of (k := 0) (hr.trans h) (by omega)
  | ldImm x =>
    simp only [exec, run_bind, always_bind, always_imm, run_pure, always_pure]
    exact fun _ => always_writeOperand fun r hr => outcome_of (k := 0) (hr.trans h) (by omega)
  | ld x y =>
    simp only [exec, run_bind, always_bind, run_modify, run_pure, always_pure]
    exact always_readOperand fun _ => outcome_of (k := 0) (by simpa using h) (by omega)
  | alu op y =>
    simp only [exec, run_bind, always_bind, run_modify, run_pure, always_pure]
    exact always_readOperand fun _ => outcome_of (k := 0) (by simpa using h) (by omega)
  | addHl x =>
    simp only [exec, run_bind, run_modify, run_pure, always_bind, always_pure]
    exact outcome_of (k := 0) ((addHl_halt x).trans h) (by omega)
  | jrIf cc | retIf cc | jpIf cc | callIf cc =>
    simp only [exec, run_bind, run_get, always_bind, always_pure]
    split <;> simp [Outcome, h, imm16, pop16, popByte, pushPc, push16, pushByte, jump]
  | cb => exact executeCb_outcome h
  | rlca | rrca | rla | rra | daa =>
    simp only [exec, run_bind, run_modify, run_pure, always_bind, always_pure]
    exact outcome_of (k := 0) h (by omega)
  | aluImm op => simp [exec, Outcome, h]
  | _ => simp [exec, Outcome, h, imm16, pop16, popByte, pushPc, push16, pushByte, jump]

/-- The table has no cycles for the eleven opcodes that are none. -/
theorem opCycles_some {opcode : UInt8} (h : (decode opcode).isSome) :
    4 ≤ opCycles.getD opcode.toNat 0 ∧ opCycles.getD opcode.toNat 0 ≤ 24 := by
  have hall : ∀ n < 256, (decode (UInt8.ofNat n)).isSome → 4 ≤ opCycles.getD n 0 ∧ opCycles.getD n 0 ≤ 24 := by
    decide +kernel
  have := hall opcode.toNat opcode.toNat_lt
  rw [UInt8.ofNat_toNat] at this
  exact this h

end Instr

namespace Gb

variable {α : Type} {g : Gb α}

theorem haltCycles_pos : 0 < g.haltCycles := by
  unfold haltCycles
  extract_lets n n₁ n₂ n₃
  split <;> omega

theorem haltCycles_le : g.haltCycles ≤ 2147483647 := by
  unfold haltCycles
  extract_lets n n₁ n₂ n₃
  have h₁ : n₁ ≤ n := by grind
  have h₂ : n₂ ≤ n₁ := by grind
  have h₃ : n₃ ≤ n₂ := by grind
  split <;> omega

theorem modeCycles_le : g.modeCycles ≤ 456 := by
  simp only [modeCycles, hblankDuration, lcdDrawDuration, lcdLineCycles]
  split_ifs <;> omega

/-- With the screen on a halt is looked at again by the end of the line. -/
theorem haltCycles_on (h : g.lcdEnabled) : g.haltCycles ≤ 456 := by
  have hm := g.modeCycles_le
  unfold haltCycles
  extract_lets n n₁ n₂ n₃
  have h₃ : n₃ ≤ g.modeCycles := by grind
  split <;> omega

end Gb

namespace Machine

variable {α β : Type} {apu : Apu α} {m : Machine α}

open Gb

/-- A program changes the bus by its accesses only. -/
theorem run_ends (p : Instr.Exec β) (hg : m.gb.WellFormed) :
    Ends (RtcFault m.gb.cart) (fun r => Gb.Kept m.gb r.2.gb) (m.run apu p) := by
  have hread : ∀ g i, Gb.Kept m.gb g → Ends (RtcFault m.gb.cart) (fun _ => True) ((bus apu).read g i) := by
    intro g i h
    have : Ends (RtcFault g.cart) (fun _ => True) ((bus apu).read g i) := read_ends (h.boot hg.boot)
    rwa [h.cart] at this
  have hwrite : ∀ g i b, Gb.Kept m.gb g → Ends (RtcFault m.gb.cart) (Gb.Kept m.gb) ((bus apu).write g i b) := by
    intro g i b h
    have : Ends (RtcFault g.cart) (Gb.Kept g) ((bus apu).write g i b) := write_ends (h.boot hg.boot)
    rw [h.cart] at this
    exact this.mono (fun _ he => he) fun _ h' => h.trans h'
  exact (Interaction.run_ends hread hwrite (p.run m.cpu) m.gb .refl).bind fun r h => .returns h

theorem run_result {p : Instr.Exec β} {Q : β × Cpu → Prop} {r : β × Machine α} (h : m.run apu p = .ok r)
    (hp : (p.run m.cpu).Always Q) : Q (r.1, r.2.cpu) := by
  obtain ⟨s, hs, h⟩ := Fallible.bind_eq_ok.mp h
  obtain rfl := Except.ok.inj h
  exact hp.result hs

theorem fetch_keeps {r : UInt8 × Machine α} (h : m.run apu Instr.imm = .ok r) :
    r.2.gb = m.gb ∧ r.2.cpu = { m.cpu with pc := m.cpu.pc + 1 } := by
  obtain ⟨s, hs, h⟩ := Fallible.bind_eq_ok.mp h
  obtain rfl := Except.ok.inj h
  obtain ⟨b, -, hs⟩ := Fallible.bind_eq_ok.mp hs
  obtain rfl := Except.ok.inj hs
  exact ⟨rfl, rfl⟩

theorem halt_keeps {n : ℕ} {r : ℕ × Machine α} (h : m.run apu (Instr.halt.exec n) = .ok r) :
    r = (n, { m with cpu := { m.cpu with halt := true } }) :=
  (Except.ok.inj h).symm

/-- What can go wrong in an instruction. -/
def CpuFault (cart : Cart) (e : GbFault) : Prop := RtcFault cart e ∨ ∃ addr, e = .invalidOpcode addr

/-- What is left for the loop at the end of an instruction. -/
structure Executed (g : Gb α) (r : ℕ × Machine α) : Prop where
  kept : Gb.Kept g r.2.gb
  pos : 0 < r.1
  le : r.1 ≤ 2147483647
  line : r.2.gb.lcdEnabled → r.1 ≤ 456

theorem exec_ends {i : Instr} {n : ℕ} (hg : m.gb.WellFormed) (hh : m.cpu.halt = false)
    (hhalt : i = .halt → n = m.gb.haltCycles) (hn : i ≠ .halt → 4 ≤ n ∧ n ≤ 24) :
    Ends (CpuFault m.gb.cart) (Executed m.gb) (m.run apu (i.exec n)) := by
  cases he : m.run apu (i.exec n) with
  | error e => exact .fails (.inl ((run_ends (i.exec n) hg).error he))
  | ok r =>
    refine .returns ?_
    by_cases hi : i = .halt
    · subst hi
      obtain rfl := halt_keeps he
      obtain rfl := hhalt rfl
      exact ⟨.refl, haltCycles_pos, haltCycles_le, haltCycles_on⟩
    · obtain ⟨hlo, hhi, -⟩ := run_result he (Instr.exec_outcome i hh)
      obtain ⟨h4, h24⟩ := hn hi
      simp only at hlo hhi
      exact ⟨(run_ends (i.exec n) hg).ok he, by omega, by omega, fun _ => by omega⟩

theorem execute_ends (hg : m.gb.WellFormed) (hh : m.cpu.halt = false) :
    Ends (CpuFault m.gb.cart) (Executed m.gb) (m.execute apu) := by
  unfold execute
  cases hf : m.run apu Instr.imm with
  | error e => exact .fails (.inl ((run_ends Instr.imm hg).error hf))
  | ok r =>
    obtain ⟨hgb, hcpu⟩ := fetch_keeps hf
    rw [Fallible.bind_ok]
    cases hd : Instr.decode r.1 with
    | none => exact .fails (.inr ⟨_, rfl⟩)
    | some i =>
      have hn := Instr.opCycles_some (show (Instr.decode r.1).isSome by rw [hd]; rfl)
      have : Ends (CpuFault r.2.gb.cart) (Executed r.2.gb)
          (r.2.run apu (i.exec (if i = .halt then r.2.gb.haltCycles else Instr.opCycles.getD r.1.toNat 0))) :=
        exec_ends (by rwa [hgb]) (by rw [hcpu]; exact hh) (fun hi => if_pos hi) fun hi => by rwa [if_neg hi]
      rw [← hgb]
      exact this

theorem handler_keeps : Gb.Kept m.gb m.handler.gb ∧ m.handler.cpu.halt = m.cpu.halt := by
  unfold handler
  split
  · exact ⟨kept_setIo (by decide) (by decide), rfl⟩
  · exact ⟨.refl, rfl⟩

theorem pushPc_halt {cpu : Cpu} : (Instr.pushPc.run cpu).Always fun r => r.2.halt = cpu.halt := by
  simp [Instr.pushPc, Instr.push16, Instr.pushByte]

theorem interrupt_ends (hg : m.gb.WellFormed) :
    Ends (RtcFault m.gb.cart) (fun m' => Gb.Kept m.gb m'.gb ∧ m'.cpu.halt = false) (m.interrupt apu) := by
  unfold interrupt
  split_ifs with h hi
  · set m₁ : Machine α := { m with cpu := { m.cpu with halt := false, ime := false } } with hm₁
    cases hp : m₁.run apu Instr.pushPc with
    | error e => exact .fails ((run_ends (m := m₁) Instr.pushPc hg).error hp)
    | ok r =>
      have hk := (run_ends (m := m₁) Instr.pushPc hg).ok hp
      have hr := run_result hp pushPc_halt
      obtain ⟨hk', hh⟩ := handler_keeps (m := r.2)
      exact .returns ⟨hk.trans hk', hh.trans hr⟩
  · exact .returns ⟨.refl, rfl⟩
  · refine .returns ⟨.refl, ?_⟩
    by_contra hne
    exact h (.inl (by simpa using hne))

theorem instruction_ends (hg : m.gb.WellFormed) : Ends (CpuFault m.gb.cart) (Executed m.gb) (m.instruction apu) := by
  refine ((interrupt_ends hg).mono (fun _ he => Or.inl he) fun _ h => h).bind ?_
  rintro m' ⟨hk, hh⟩
  have : Ends (CpuFault m'.gb.cart) (Executed m'.gb) (m'.execute apu) := execute_ends (hg.kept hk) hh
  rw [hk.cart] at this
  exact this.mono (fun _ he => he) fun _ h => ⟨hk.trans h.kept, h.pos, h.le, h.line⟩

end Machine
end MonsterMesh.PeanutGb
