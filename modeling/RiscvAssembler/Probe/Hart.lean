import RiscvAssembler.Probe.Stub

/-!
# Running a probe stub

A hart that executes the few instructions of a probe stub. Reads of control and status registers
may trap; a trap at a fault point is resumed as its handler does, and any other trap stops the hart.
-/

namespace RiscvAssembler

/-- The value of each control and status register, or none when reading it traps. -/
abbrev CsrFile :=
  BitVec 32 → Option (BitVec 64)

/-- What a machine does with the vector registers. -/
inductive VectorUnit
  /-- Every read traps. -/
  | absent
  /-- Only the read of the vector register length traps. -/
  | noVlenb
  | present (vlenb : BitVec 64)
  deriving DecidableEq

def VectorUnit.csrs : VectorUnit → CsrFile
  | absent, _ => none
  | noVlenb, csr => if csr = Csr.vlenb then none else some 0#64
  | present vlenb, csr => if csr = Csr.vlenb then some vlenb else some 0#64

structure Hart where
  pc : BitVec 64
  regs : Reg → BitVec 64

/-- What comes of one instruction. -/
inductive HartStep
  | next (h : Hart)
  | trap
  | returned
  /-- The hart does not know the instruction, or there is none. -/
  | stuck

namespace Hart

/-- Writes a register; `x0` stays zero. -/
def write (h : Hart) (rd : Reg) (value : BitVec 64) : Hart :=
  if rd = .zero then h else { h with regs := fun r => if r = rd then value else h.regs r }

def advance (h : Hart) : Hart :=
  { h with pc := h.pc + 4#64 }

def rdOf (w : BitVec 32) : Reg :=
  ⟨w.extractLsb' 7 5⟩

def rs1Of (w : BitVec 32) : Reg :=
  ⟨w.extractLsb' 15 5⟩

/-- Executes one instruction: addition of an immediate, a read of a control and status register, or
the return. -/
def execute (h : Hart) (csrs : CsrFile) (w : BitVec 32) : HartStep :=
  if slice w 6 0 = Opcode.opImm ∧ slice w 14 12 = ImmOp.addi.row.funct3 then
    .next (h.write (rdOf w) (h.regs (rs1Of w) + (w.extractLsb' 20 12).signExtend 64)).advance
  else if slice w 6 0 = Opcode.system ∧ slice w 14 12 = CsrOp.set.row.funct3 ∧ rs1Of w = .zero then
    match csrs (slice w 31 20) with
    | some value => .next (h.write (rdOf w) value).advance
    | none => .trap
  else if slice w 6 0 = Opcode.jalr ∧ rdOf w = .zero ∧ rs1Of w = .ra ∧ slice w 31 20 = 0#32 then
    .returned
  else
    .stuck

/-- Executes the instruction at the program counter, in code loaded at `entry`. -/
def step (h : Hart) (csrs : CsrFile) (code : CodeBuffer) (entry : BitVec 64) : HartStep :=
  match code.readWord (h.pc - entry).toNat with
  | .ok w => h.execute csrs w
  | .error _ => .stuck

end Hart

/-- The result of a stub and the addresses that trapped, in order. -/
structure Execution where
  final : Hart
  traps : List (BitVec 64)

namespace Execution

def result (e : Execution) : BitVec 64 :=
  e.final.regs .a0

/-- Runs until the return. None when the hart stops before, or is not done after `fuel`
instructions. -/
def run? (csrs : CsrFile) (code : CodeBuffer) (entry : BitVec 64) (points : FaultPoints) :
    Nat → Hart → List (BitVec 64) → Option Execution
  | 0, _, _ => none
  | fuel + 1, h, traps =>
    match h.step csrs code entry with
    | .next h => run? csrs code entry points fuel h traps
    | .trap =>
      match points.resumePc h.pc with
      | some pc =>
        run? csrs code entry points fuel { h.write .a0 0#64 with pc } (traps ++ [h.pc])
      | none => none
    | .returned => some ⟨h, traps⟩
    | .stuck => none

/-- Runs a stub loaded at `entry`. Each instruction is taken at most once, so its length in bytes
bounds their number. -/
def ofStub? (csrs : CsrFile) (stub : ProbeStub) (entry : BitVec 64) (regs : Reg → BitVec 64) :
    Option Execution :=
  run? csrs stub.buffer entry (stub.points.relocate entry) stub.buffer.offset ⟨entry, regs⟩ []

end Execution

end RiscvAssembler
