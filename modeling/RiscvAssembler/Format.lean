import RiscvAssembler.Displacement
import RiscvAssembler.Opcode

/-!
# Canonical instruction formats

One record per format holds the bits that are fixed for an instruction. Its encoder places the
operands around them, refuses an operand that its field cannot hold, and leaves every bit that no
field names clear.
-/

namespace RiscvAssembler

inductive RoundingMode
  | rne
  | rtz
  | rdn
  | rup
  | rmm
  | dyn
  deriving DecidableEq

def RoundingMode.encoding : RoundingMode → BitVec 32
  | rne => 0b000#32
  | rtz => 0b001#32
  | rdn => 0b010#32
  | rup => 0b011#32
  | rmm => 0b100#32
  | dyn => 0b111#32

/-- Memory ordering of an atomic instruction. -/
structure MemoryOrder where
  acquire : Bool
  release : Bool
  deriving DecidableEq

/-- A one-bit field. -/
def bitOf (b : Bool) : BitVec 32 :=
  if b then 1#32 else 0#32

/-- Register and register. -/
structure RType where
  opcode : BitVec 32
  funct3 : BitVec 32
  funct7 : BitVec 32

def RType.encode (t : RType) (rd rs1 rs2 : BitVec 32) : Except Fault (BitVec 32) :=
  pack [⟨6, 0, t.opcode⟩, ⟨14, 12, t.funct3⟩, ⟨11, 7, rd⟩, ⟨19, 15, rs1⟩, ⟨24, 20, rs2⟩,
    ⟨31, 25, t.funct7⟩]

/-- Register and signed 12-bit immediate. -/
structure IType where
  opcode : BitVec 32
  funct3 : BitVec 32

def IType.encode (t : IType) (rd rs1 imm : BitVec 32) : Except Fault (BitVec 32) := do
  require (Immediate.fitsSigned (imm.signExtend 64) 12 0) (.outOfRange .immediate imm.toInt)
  pack [⟨6, 0, t.opcode⟩, ⟨14, 12, t.funct3⟩, ⟨11, 7, rd⟩, ⟨19, 15, rs1⟩, ⟨31, 20, slice imm 11 0⟩]

/-- One register, with the immediate field fixed. -/
structure UnaryType where
  opcode : BitVec 32
  funct3 : BitVec 32
  funct12 : BitVec 32

def UnaryType.encode (t : UnaryType) (rd rs1 : BitVec 32) : Except Fault (BitVec 32) :=
  pack [⟨6, 0, t.opcode⟩, ⟨14, 12, t.funct3⟩, ⟨11, 7, rd⟩, ⟨19, 15, rs1⟩, ⟨31, 20, t.funct12⟩]

/-- Shift by an immediate of `shamtBits` bits, with `funct` above it. -/
structure ShiftType where
  opcode : BitVec 32
  funct3 : BitVec 32
  funct : BitVec 32
  shamtBits : BitVec 32

def ShiftType.encode (t : ShiftType) (rd rs1 shamt : BitVec 32) : Except Fault (BitVec 32) := do
  let bits := t.shamtBits.toNat
  require (shamt ≤ rightBits bits) (.shiftTooFar shamt t.shamtBits)
  let w ← pack [⟨6, 0, t.opcode⟩, ⟨14, 12, t.funct3⟩, ⟨11, 7, rd⟩, ⟨19, 15, rs1⟩]
  let w ← Word.patch w (← Checked.add 32 19 bits) 20 shamt
  Word.patch w 31 (← Checked.add 32 20 bits) t.funct

/-- Store. -/
structure SType where
  opcode : BitVec 32
  funct3 : BitVec 32

def SType.encode (t : SType) (rs2 rs1 offset : BitVec 32) : Except Fault (BitVec 32) := do
  require (Immediate.fitsSigned (offset.signExtend 64) 12 0) (.outOfRange .storeOffset offset.toInt)
  pack [⟨6, 0, t.opcode⟩, ⟨14, 12, t.funct3⟩, ⟨11, 7, slice offset 4 0⟩, ⟨19, 15, rs1⟩,
    ⟨24, 20, rs2⟩, ⟨31, 25, slice offset 11 5⟩]

/-- Conditional branch. -/
structure BType where
  funct3 : BitVec 32

def BType.encode (t : BType) (rs1 rs2 offset : BitVec 32) : Except Fault (BitVec 32) := do
  let w ← pack [⟨6, 0, Opcode.branch⟩, ⟨14, 12, t.funct3⟩, ⟨19, 15, rs1⟩, ⟨24, 20, rs2⟩]
  Displacement.patchBranch w offset

/-- Upper immediate: the operand has its low 12 bits clear. -/
structure UType where
  opcode : BitVec 32

def UType.encode (t : UType) (rd imm : BitVec 32) : Except Fault (BitVec 32) := do
  require (slice imm 11 0 = 0#32) (.upperLowBits imm)
  pack [⟨6, 0, t.opcode⟩, ⟨11, 7, rd⟩, ⟨31, 12, slice imm 31 12⟩]

/-- Jump and link. -/
def JType.encode (rd offset : BitVec 32) : Except Fault (BitVec 32) := do
  let w ← pack [⟨6, 0, Opcode.jal⟩, ⟨11, 7, rd⟩]
  Displacement.patchJump w offset

/-- Access to a control and status register, from a register or a five-bit immediate. -/
structure CsrType where
  funct3 : BitVec 32

def CsrType.encode (t : CsrType) (rd csr source : BitVec 32) : Except Fault (BitVec 32) := do
  require (csr ≤ rightBits 12) (.csrOutOfRange csr)
  pack [⟨6, 0, Opcode.system⟩, ⟨14, 12, t.funct3⟩, ⟨11, 7, rd⟩, ⟨19, 15, source⟩, ⟨31, 20, csr⟩]

/-- Whether a csr instruction can carry the immediate. -/
def CsrType.fitsImmediate (imm : BitVec 32) : Bool :=
  Immediate.fitsUnsigned (imm.setWidth 64) 5 0

/-- Atomic memory operation. -/
structure AmoType where
  funct5 : BitVec 32
  funct3 : BitVec 32

def AmoType.encode (t : AmoType) (rd rs1 rs2 : BitVec 32) (order : MemoryOrder) :
    Except Fault (BitVec 32) :=
  pack [⟨6, 0, Opcode.amo⟩, ⟨14, 12, t.funct3⟩, ⟨11, 7, rd⟩, ⟨19, 15, rs1⟩, ⟨24, 20, rs2⟩,
    ⟨25, 25, bitOf order.release⟩, ⟨26, 26, bitOf order.acquire⟩, ⟨31, 27, t.funct5⟩]

/-- Floating-point operation. Without a fixed `funct3` the field carries the rounding mode; a fixed
`rs2` selects an operation of one source. -/
structure FloatType where
  funct7 : BitVec 32
  funct3 : Option (BitVec 32)
  rs2 : Option (BitVec 32)

def FloatType.encode (t : FloatType) (rd rs1 rs2 : BitVec 32) (rm : RoundingMode) :
    Except Fault (BitVec 32) :=
  pack [⟨6, 0, Opcode.opFloat⟩, ⟨14, 12, t.funct3.getD rm.encoding⟩, ⟨11, 7, rd⟩, ⟨19, 15, rs1⟩,
    ⟨24, 20, t.rs2.getD rs2⟩, ⟨31, 25, t.funct7⟩]

/-- Fused multiply and add, the format with four registers. -/
structure R4Type where
  opcode : BitVec 32
  fmt : BitVec 32

def R4Type.encode (t : R4Type) (rd rs1 rs2 rs3 : BitVec 32) (rm : RoundingMode) :
    Except Fault (BitVec 32) :=
  pack [⟨6, 0, t.opcode⟩, ⟨14, 12, rm.encoding⟩, ⟨11, 7, rd⟩, ⟨19, 15, rs1⟩, ⟨24, 20, rs2⟩,
    ⟨26, 25, t.fmt⟩, ⟨31, 27, rs3⟩]

/-- Fence between two four-bit sets of input, output, read and write. -/
def Fence.encode (pred succ : BitVec 32) : Except Fault (BitVec 32) :=
  pack [⟨6, 0, Opcode.miscMem⟩, ⟨14, 12, 0b000#32⟩, ⟨23, 20, succ⟩, ⟨27, 24, pred⟩]

end RiscvAssembler
