import RiscvAssembler.Format

/-!
# Integer operations

The integer, memory, control, system and atomic operations by format, each with its fixed bits.
-/

namespace RiscvAssembler

/-- Operations on two registers. -/
inductive RegOp
  | add | sub | sll | slt | sltu | xor | srl | sra | or | and
  | addw | subw | sllw | srlw | sraw
  | mul | mulh | mulhsu | mulhu | div | divu | rem | remu
  | mulw | divw | divuw | remw | remuw
  | addUw | rol | rolw | ror | rorw
  deriving DecidableEq

def RegOp.row : RegOp → RType
  | add => ⟨Opcode.op, 0b000#32, 0b0000000#32⟩
  | sub => ⟨Opcode.op, 0b000#32, 0b0100000#32⟩
  | sll => ⟨Opcode.op, 0b001#32, 0b0000000#32⟩
  | slt => ⟨Opcode.op, 0b010#32, 0b0000000#32⟩
  | sltu => ⟨Opcode.op, 0b011#32, 0b0000000#32⟩
  | xor => ⟨Opcode.op, 0b100#32, 0b0000000#32⟩
  | srl => ⟨Opcode.op, 0b101#32, 0b0000000#32⟩
  | sra => ⟨Opcode.op, 0b101#32, 0b0100000#32⟩
  | or => ⟨Opcode.op, 0b110#32, 0b0000000#32⟩
  | and => ⟨Opcode.op, 0b111#32, 0b0000000#32⟩
  | addw => ⟨Opcode.op32, 0b000#32, 0b0000000#32⟩
  | subw => ⟨Opcode.op32, 0b000#32, 0b0100000#32⟩
  | sllw => ⟨Opcode.op32, 0b001#32, 0b0000000#32⟩
  | srlw => ⟨Opcode.op32, 0b101#32, 0b0000000#32⟩
  | sraw => ⟨Opcode.op32, 0b101#32, 0b0100000#32⟩
  | mul => ⟨Opcode.op, 0b000#32, 0b0000001#32⟩
  | mulh => ⟨Opcode.op, 0b001#32, 0b0000001#32⟩
  | mulhsu => ⟨Opcode.op, 0b010#32, 0b0000001#32⟩
  | mulhu => ⟨Opcode.op, 0b011#32, 0b0000001#32⟩
  | div => ⟨Opcode.op, 0b100#32, 0b0000001#32⟩
  | divu => ⟨Opcode.op, 0b101#32, 0b0000001#32⟩
  | rem => ⟨Opcode.op, 0b110#32, 0b0000001#32⟩
  | remu => ⟨Opcode.op, 0b111#32, 0b0000001#32⟩
  | mulw => ⟨Opcode.op32, 0b000#32, 0b0000001#32⟩
  | divw => ⟨Opcode.op32, 0b100#32, 0b0000001#32⟩
  | divuw => ⟨Opcode.op32, 0b101#32, 0b0000001#32⟩
  | remw => ⟨Opcode.op32, 0b110#32, 0b0000001#32⟩
  | remuw => ⟨Opcode.op32, 0b111#32, 0b0000001#32⟩
  | addUw => ⟨Opcode.op32, 0b000#32, 0b0000100#32⟩
  | rol => ⟨Opcode.op, 0b001#32, 0b0110000#32⟩
  | rolw => ⟨Opcode.op32, 0b001#32, 0b0110000#32⟩
  | ror => ⟨Opcode.op, 0b101#32, 0b0110000#32⟩
  | rorw => ⟨Opcode.op32, 0b101#32, 0b0110000#32⟩

/-- Operations on a register and an immediate. -/
inductive ImmOp
  | addi | slti | sltiu | xori | ori | andi | addiw
  deriving DecidableEq

def ImmOp.row : ImmOp → IType
  | addi => ⟨Opcode.opImm, 0b000#32⟩
  | slti => ⟨Opcode.opImm, 0b010#32⟩
  | sltiu => ⟨Opcode.opImm, 0b011#32⟩
  | xori => ⟨Opcode.opImm, 0b100#32⟩
  | ori => ⟨Opcode.opImm, 0b110#32⟩
  | andi => ⟨Opcode.opImm, 0b111#32⟩
  | addiw => ⟨Opcode.opImm32, 0b000#32⟩

/-- Shifts by an immediate. -/
inductive ShiftOp
  | slli | srli | srai | rori | slliw | srliw | sraiw | roriw
  deriving DecidableEq

def ShiftOp.row : ShiftOp → ShiftType
  | slli => ⟨Opcode.opImm, 0b001#32, 0b000000#32, 6#32⟩
  | srli => ⟨Opcode.opImm, 0b101#32, 0b000000#32, 6#32⟩
  | srai => ⟨Opcode.opImm, 0b101#32, 0b010000#32, 6#32⟩
  | rori => ⟨Opcode.opImm, 0b101#32, 0b011000#32, 6#32⟩
  | slliw => ⟨Opcode.opImm32, 0b001#32, 0b0000000#32, 5#32⟩
  | srliw => ⟨Opcode.opImm32, 0b101#32, 0b0000000#32, 5#32⟩
  | sraiw => ⟨Opcode.opImm32, 0b101#32, 0b0100000#32, 5#32⟩
  | roriw => ⟨Opcode.opImm32, 0b101#32, 0b0110000#32, 5#32⟩

/-- Sign and zero extensions. -/
inductive ExtendOp
  | sextB | sextH | zextH
  deriving DecidableEq

def ExtendOp.row : ExtendOp → UnaryType
  | sextB => ⟨Opcode.opImm, 0b001#32, 0b011000000100#32⟩
  | sextH => ⟨Opcode.opImm, 0b001#32, 0b011000000101#32⟩
  | zextH => ⟨Opcode.op32, 0b100#32, 0b000010000000#32⟩

/-- Operations on an upper immediate. -/
inductive UpperOp
  | lui | auipc
  deriving DecidableEq

def UpperOp.row : UpperOp → UType
  | lui => ⟨Opcode.lui⟩
  | auipc => ⟨Opcode.auipc⟩

inductive LoadOp
  | lb | lh | lw | ld | lbu | lhu | lwu
  deriving DecidableEq

def LoadOp.row : LoadOp → IType
  | lb => ⟨Opcode.load, 0b000#32⟩
  | lh => ⟨Opcode.load, 0b001#32⟩
  | lw => ⟨Opcode.load, 0b010#32⟩
  | ld => ⟨Opcode.load, 0b011#32⟩
  | lbu => ⟨Opcode.load, 0b100#32⟩
  | lhu => ⟨Opcode.load, 0b101#32⟩
  | lwu => ⟨Opcode.load, 0b110#32⟩

inductive StoreOp
  | sb | sh | sw | sd
  deriving DecidableEq

def StoreOp.row : StoreOp → SType
  | sb => ⟨Opcode.store, 0b000#32⟩
  | sh => ⟨Opcode.store, 0b001#32⟩
  | sw => ⟨Opcode.store, 0b010#32⟩
  | sd => ⟨Opcode.store, 0b011#32⟩

/-- Comparisons of conditional branches. -/
inductive Condition
  | eq | ne | lt | ge | ltu | geu
  deriving DecidableEq

def Condition.row : Condition → BType
  | eq => ⟨0b000#32⟩
  | ne => ⟨0b001#32⟩
  | lt => ⟨0b100#32⟩
  | ge => ⟨0b101#32⟩
  | ltu => ⟨0b110#32⟩
  | geu => ⟨0b111#32⟩

/-- What happens to a control and status register: write, set bits or clear bits. -/
inductive CsrOp
  | write | set | clear
  deriving DecidableEq

def CsrOp.row : CsrOp → CsrType
  | write => ⟨0b001#32⟩
  | set => ⟨0b010#32⟩
  | clear => ⟨0b011#32⟩

def CsrOp.immediateRow : CsrOp → CsrType
  | write => ⟨0b101#32⟩
  | set => ⟨0b110#32⟩
  | clear => ⟨0b111#32⟩

/-- Operand size of an atomic operation: 32 or 64 bits. -/
inductive AmoSize
  | word | doubleword
  deriving DecidableEq

def AmoSize.encoding : AmoSize → BitVec 32
  | word => 0b010#32
  | doubleword => 0b011#32

/-- Atomic operations with a source register. -/
inductive AmoOp
  | sc | swap | add | xor | and | or | min | max | minu | maxu
  deriving DecidableEq

def AmoOp.funct5 : AmoOp → BitVec 32
  | sc => 0b00011#32
  | swap => 0b00001#32
  | add => 0b00000#32
  | xor => 0b00100#32
  | and => 0b01100#32
  | or => 0b01000#32
  | min => 0b10000#32
  | max => 0b10100#32
  | minu => 0b11000#32
  | maxu => 0b11100#32

def AmoOp.row (op : AmoOp) (size : AmoSize) : AmoType :=
  ⟨op.funct5, size.encoding⟩

/-- The load-reserved operation, which has no source register. -/
def AmoSize.loadReserved (size : AmoSize) : AmoType :=
  ⟨0b00010#32, size.encoding⟩

end RiscvAssembler
