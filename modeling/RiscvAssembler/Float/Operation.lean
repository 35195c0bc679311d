import RiscvAssembler.Format

/-!
# Floating-point operations

Every operation exists in single and in double precision; the format is part of the fixed bits.
-/

namespace RiscvAssembler

inductive FloatFormat
  | single | double
  deriving DecidableEq

namespace FloatFormat

def encoding : FloatFormat → BitVec 32
  | single => 0b00#32
  | double => 0b01#32

/-- The seven function bits: the operation above the format. -/
def funct7 (fmt : FloatFormat) (funct5 : BitVec 32) : BitVec 32 :=
  funct5 <<< 2 ||| fmt.encoding

/-- The width field of loads and stores. -/
def width : FloatFormat → BitVec 32
  | single => 0b010#32
  | double => 0b011#32

def loadRow (fmt : FloatFormat) : IType :=
  ⟨Opcode.loadFloat, fmt.width⟩

def storeRow (fmt : FloatFormat) : SType :=
  ⟨Opcode.storeFloat, fmt.width⟩

def sqrtRow (fmt : FloatFormat) : FloatType :=
  ⟨fmt.funct7 0b01011#32, none, some 0b00000#32⟩

/-- Conversion to `fmt` from the other format. -/
def convertRow (fmt : FloatFormat) : FloatType :=
  ⟨fmt.funct7 0b01000#32, none, some (match fmt with | single => 0b00001#32 | double => 0b00000#32)⟩

/-- Move of the bit pattern to an integer register. -/
def moveToIntRow (fmt : FloatFormat) : FloatType :=
  ⟨fmt.funct7 0b11100#32, some 0b000#32, some 0b00000#32⟩

def classifyRow (fmt : FloatFormat) : FloatType :=
  ⟨fmt.funct7 0b11100#32, some 0b001#32, some 0b00000#32⟩

/-- Move of a bit pattern from an integer register. -/
def moveFromIntRow (fmt : FloatFormat) : FloatType :=
  ⟨fmt.funct7 0b11110#32, some 0b000#32, some 0b00000#32⟩

end FloatFormat

/-- Rounded operations on two sources. -/
inductive FloatArithOp
  | add | sub | mul | div
  deriving DecidableEq

def FloatArithOp.row (fmt : FloatFormat) : FloatArithOp → FloatType
  | add => ⟨fmt.funct7 0b00000#32, none, none⟩
  | sub => ⟨fmt.funct7 0b00001#32, none, none⟩
  | mul => ⟨fmt.funct7 0b00010#32, none, none⟩
  | div => ⟨fmt.funct7 0b00011#32, none, none⟩

/-- Exact operations on two sources: sign injection, minimum and maximum. -/
inductive FloatSelectOp
  | sgnj | sgnjn | sgnjx | min | max
  deriving DecidableEq

def FloatSelectOp.row (fmt : FloatFormat) : FloatSelectOp → FloatType
  | sgnj => ⟨fmt.funct7 0b00100#32, some 0b000#32, none⟩
  | sgnjn => ⟨fmt.funct7 0b00100#32, some 0b001#32, none⟩
  | sgnjx => ⟨fmt.funct7 0b00100#32, some 0b010#32, none⟩
  | min => ⟨fmt.funct7 0b00101#32, some 0b000#32, none⟩
  | max => ⟨fmt.funct7 0b00101#32, some 0b001#32, none⟩

inductive FloatCompareOp
  | eq | lt | le
  deriving DecidableEq

def FloatCompareOp.row (fmt : FloatFormat) : FloatCompareOp → FloatType
  | eq => ⟨fmt.funct7 0b10100#32, some 0b010#32, none⟩
  | lt => ⟨fmt.funct7 0b10100#32, some 0b001#32, none⟩
  | le => ⟨fmt.funct7 0b10100#32, some 0b000#32, none⟩

/-- Integer side of a conversion: 32 or 64 bits, signed or unsigned. -/
inductive IntFormat
  | w | wu | l | lu
  deriving DecidableEq

namespace IntFormat

def encoding : IntFormat → BitVec 32
  | w => 0b00000#32
  | wu => 0b00001#32
  | l => 0b00010#32
  | lu => 0b00011#32

def fromFloatRow (i : IntFormat) (fmt : FloatFormat) : FloatType :=
  ⟨fmt.funct7 0b11000#32, none, some i.encoding⟩

def toFloatRow (i : IntFormat) (fmt : FloatFormat) : FloatType :=
  ⟨fmt.funct7 0b11010#32, none, some i.encoding⟩

end IntFormat

inductive FusedOp
  | madd | msub | nmsub | nmadd
  deriving DecidableEq

def FusedOp.row (fmt : FloatFormat) : FusedOp → R4Type
  | madd => ⟨Opcode.madd, fmt.encoding⟩
  | msub => ⟨Opcode.msub, fmt.encoding⟩
  | nmsub => ⟨Opcode.nmsub, fmt.encoding⟩
  | nmadd => ⟨Opcode.nmadd, fmt.encoding⟩

end RiscvAssembler
