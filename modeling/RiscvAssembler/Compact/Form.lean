import RiscvAssembler.Displacement
import RiscvAssembler.Register

/-!
# Compact instructions

The 16-bit forms with their operands and their words. A form is refused when an operand is outside
what the form can name: `x0` or `sp` where it stands for another instruction, a register outside
8 to 15 in a three-bit field, a reserved zero, or an immediate that does not fit.
-/

namespace RiscvAssembler

/-- Operations on two registers in three-bit fields. -/
inductive CompactArithOp
  | sub | xor | or | and | subw | addw
  deriving DecidableEq

namespace CompactArithOp

def funct6 : CompactArithOp → BitVec 32
  | sub | xor | or | and => 0b100011#32
  | subw | addw => 0b100111#32

def funct2 : CompactArithOp → BitVec 32
  | sub | subw => 0b00#32
  | xor | addw => 0b01#32
  | or => 0b10#32
  | and => 0b11#32

end CompactArithOp

inductive CompactForm
  | addi (rd : Reg) (imm : BitVec 32)
  | addiw (rd : Reg) (imm : BitVec 32)
  | li (rd : Reg) (imm : BitVec 32)
  | addi16sp (imm : BitVec 32)
  | addi4spn (rd : Reg) (uimm : BitVec 32)
  | slli (rd : Reg) (shamt : BitVec 32)
  | srli (rd : Reg) (shamt : BitVec 32)
  | srai (rd : Reg) (shamt : BitVec 32)
  | andi (rd : Reg) (imm : BitVec 32)
  | arith (op : CompactArithOp) (rd rs2 : Reg)
  | mv (rd rs2 : Reg)
  | add (rd rs2 : Reg)
  | lui (rd : Reg) (imm : BitVec 32)
  | jr (rs1 : Reg)
  | jalr (rs1 : Reg)
  | j (offset : BitVec 32)
  | beqz (rs1 : Reg) (offset : BitVec 32)
  | bnez (rs1 : Reg) (offset : BitVec 32)
  | ebreak
  | ld (rd rs1 : Reg) (uimm : BitVec 32)
  | sd (rs2 rs1 : Reg) (uimm : BitVec 32)
  | lw (rd rs1 : Reg) (uimm : BitVec 32)
  | sw (rs2 rs1 : Reg) (uimm : BitVec 32)
  | fld (rd : FReg) (rs1 : Reg) (uimm : BitVec 32)
  | fsd (rs2 : FReg) (rs1 : Reg) (uimm : BitVec 32)
  | ldsp (rd : Reg) (uimm : BitVec 32)
  | sdsp (rs2 : Reg) (uimm : BitVec 32)
  | lwsp (rd : Reg) (uimm : BitVec 32)
  | swsp (rs2 : Reg) (uimm : BitVec 32)
  | fldsp (rd : FReg) (uimm : BitVec 32)
  | fsdsp (rs2 : FReg) (uimm : BitVec 32)
  deriving DecidableEq

namespace CompactForm

variable {c : RegisterClass}

/-- The compact no-operation. -/
def nopWord : BitVec 16 :=
  0x0001#16

/-- The quadrant in the low two bits and the function in the high three. -/
def base (funct3 quadrant : BitVec 32) : List Field :=
  [⟨1, 0, quadrant⟩, ⟨15, 13, funct3⟩]

/-- A six-bit immediate with its sign bit apart. -/
def splitImmediate (imm : BitVec 32) : List Field :=
  [⟨6, 2, slice imm 4 0⟩, ⟨12, 12, slice imm 5 5⟩]

def checkSigned (operand : RangedOperand) (imm : BitVec 32) (bits alignBits : Nat) :
    Except Fault Unit :=
  require (Immediate.fitsSigned (imm.signExtend 64) bits alignBits) (.outOfRange operand imm.toInt)

def checkUnsigned (operand : RangedOperand) (uimm : BitVec 32) (bits alignBits : Nat) :
    Except Fault Unit :=
  require (Immediate.fitsUnsigned (uimm.setWidth 64) bits alignBits)
    (.outOfRange operand uimm.toNat)

def checkShift (operand : RangedOperand) (shamt : BitVec 32) : Except Fault Unit :=
  require (1 ≤ shamt.toNat ∧ shamt.toNat < 64) (.outOfRange operand shamt.toNat)

/-- A register and a signed immediate. -/
def encodeSigned (funct3 : BitVec 32) (rd : Reg) (imm : BitVec 32) : Except Fault (BitVec 16) := do
  checkSigned .compactImmediate imm 6 0
  pack (base funct3 0b01#32 ++ [⟨11, 7, rd.encoding⟩] ++ splitImmediate imm)

/-- A register in a three-bit field and an immediate. -/
def encodeNarrow (funct2 : BitVec 32) (rd : Reg) (imm : BitVec 32) : Except Fault (BitVec 16) := do
  let r ← rd.compactEncoding
  pack (base 0b100#32 0b01#32 ++ [⟨9, 7, r⟩, ⟨11, 10, funct2⟩] ++ splitImmediate imm)

/-- Two registers. -/
def encodePair (funct4 : BitVec 32) (rd rs2 : Reg) : Except Fault (BitVec 16) :=
  pack [⟨1, 0, 0b10#32⟩, ⟨6, 2, rs2.encoding⟩, ⟨11, 7, rd.encoding⟩, ⟨15, 12, funct4⟩]

def encodeBranch (funct3 : BitVec 32) (rs1 : Reg) (offset : BitVec 32) :
    Except Fault (BitVec 16) := do
  let r ← rs1.compactEncoding
  let w ← pack (base funct3 0b01#32 ++ [⟨9, 7, r⟩])
  Displacement.patchCompactBranch w offset

/-- Load or store of a doubleword at a base register. -/
def encodeDoubleword (funct3 : BitVec 32) (data : Register c) (rs1 : Reg) (uimm : BitVec 32) :
    Except Fault (BitVec 16) := do
  checkUnsigned .compactDoublewordOffset uimm 5 3
  let d ← data.compactEncoding
  let r ← rs1.compactEncoding
  pack (base funct3 0b00#32 ++ [⟨4, 2, d⟩, ⟨6, 5, slice uimm 7 6⟩, ⟨9, 7, r⟩,
    ⟨12, 10, slice uimm 5 3⟩])

/-- Load or store of a word at a base register. -/
def encodeWord (funct3 : BitVec 32) (data rs1 : Reg) (uimm : BitVec 32) :
    Except Fault (BitVec 16) := do
  checkUnsigned .compactWordOffset uimm 5 2
  let d ← data.compactEncoding
  let r ← rs1.compactEncoding
  pack (base funct3 0b00#32 ++ [⟨4, 2, d⟩, ⟨5, 5, slice uimm 6 6⟩, ⟨6, 6, slice uimm 2 2⟩,
    ⟨9, 7, r⟩, ⟨12, 10, slice uimm 5 3⟩])

/-- Load of a doubleword at the stack pointer. -/
def encodeStackLoad (funct3 : BitVec 32) (rd : Register c) (uimm : BitVec 32) :
    Except Fault (BitVec 16) := do
  checkUnsigned .compactStackDoublewordOffset uimm 6 3
  pack (base funct3 0b10#32 ++ [⟨4, 2, slice uimm 8 6⟩, ⟨6, 5, slice uimm 4 3⟩,
    ⟨11, 7, rd.encoding⟩, ⟨12, 12, slice uimm 5 5⟩])

/-- Store of a doubleword at the stack pointer. -/
def encodeStackStore (funct3 : BitVec 32) (rs2 : Register c) (uimm : BitVec 32) :
    Except Fault (BitVec 16) := do
  checkUnsigned .compactStackDoublewordOffset uimm 6 3
  pack (base funct3 0b10#32 ++ [⟨6, 2, rs2.encoding⟩, ⟨9, 7, slice uimm 8 6⟩,
    ⟨12, 10, slice uimm 5 3⟩])

def encode : CompactForm → Except Fault (BitVec 16)
  | .addi rd imm => do
    require (rd ≠ .zero) (.zeroDestination "c.addi")
    require (imm ≠ 0#32) .compactAddiZero
    encodeSigned 0b000#32 rd imm
  | .addiw rd imm => do
    require (rd ≠ .zero) (.zeroDestination "c.addiw")
    encodeSigned 0b001#32 rd imm
  | .li rd imm => do
    require (rd ≠ .zero) (.zeroDestination "c.li")
    encodeSigned 0b010#32 rd imm
  | .addi16sp imm => do
    require (imm ≠ 0#32 ∧ Immediate.fitsSigned (imm.signExtend 64) 6 4) (.compactAddi16sp imm.toInt)
    pack (base 0b011#32 0b01#32 ++ [⟨2, 2, slice imm 5 5⟩, ⟨4, 3, slice imm 8 7⟩,
      ⟨5, 5, slice imm 6 6⟩, ⟨6, 6, slice imm 4 4⟩, ⟨11, 7, Reg.sp.encoding⟩,
      ⟨12, 12, slice imm 9 9⟩])
  | .addi4spn rd uimm => do
    require (uimm ≠ 0#32 ∧ Immediate.fitsUnsigned (uimm.setWidth 64) 8 2)
      (.compactAddi4spn uimm.toNat)
    let r ← rd.compactEncoding
    pack (base 0b000#32 0b00#32 ++ [⟨4, 2, r⟩, ⟨5, 5, slice uimm 3 3⟩, ⟨6, 6, slice uimm 2 2⟩,
      ⟨10, 7, slice uimm 9 6⟩, ⟨12, 11, slice uimm 5 4⟩])
  | .slli rd shamt => do
    require (rd ≠ .zero) (.zeroDestination "c.slli")
    checkShift .compactSlli shamt
    pack (base 0b000#32 0b10#32 ++ [⟨11, 7, rd.encoding⟩] ++ splitImmediate shamt)
  | .srli rd shamt => do
    checkShift .compactSrli shamt
    encodeNarrow 0b00#32 rd shamt
  | .srai rd shamt => do
    checkShift .compactSrai shamt
    encodeNarrow 0b01#32 rd shamt
  | .andi rd imm => do
    checkSigned .compactAndi imm 6 0
    encodeNarrow 0b10#32 rd imm
  | .arith op rd rs2 => do
    let source ← rs2.compactEncoding
    let dest ← rd.compactEncoding
    pack [⟨1, 0, 0b01#32⟩, ⟨4, 2, source⟩, ⟨6, 5, op.funct2⟩, ⟨9, 7, dest⟩, ⟨15, 10, op.funct6⟩]
  | .mv rd rs2 => do
    require (rd ≠ .zero ∧ rs2 ≠ .zero) (.zeroOperand "c.mv")
    encodePair 0b1000#32 rd rs2
  | .add rd rs2 => do
    require (rd ≠ .zero ∧ rs2 ≠ .zero) (.zeroOperand "c.add")
    encodePair 0b1001#32 rd rs2
  | .lui rd imm => do
    require (rd ≠ .zero ∧ rd ≠ .sp) .compactLuiDestination
    require (imm ≠ 0#32 ∧ slice imm 11 0 = 0#32 ∧ Immediate.fitsSigned (imm.signExtend 64) 18 0)
      (.compactLuiImmediate imm)
    pack (base 0b011#32 0b01#32 ++ [⟨6, 2, slice imm 16 12⟩, ⟨11, 7, rd.encoding⟩,
      ⟨12, 12, slice imm 17 17⟩])
  | .jr rs1 => do
    require (rs1 ≠ .zero) (.zeroSource "c.jr")
    encodePair 0b1000#32 rs1 .zero
  | .jalr rs1 => do
    require (rs1 ≠ .zero) (.zeroSource "c.jalr")
    encodePair 0b1001#32 rs1 .zero
  | .j offset => do
    let w ← pack (base 0b101#32 0b01#32)
    Displacement.patchCompactJump w offset
  | .beqz rs1 offset => encodeBranch 0b110#32 rs1 offset
  | .bnez rs1 offset => encodeBranch 0b111#32 rs1 offset
  | .ebreak => .ok 0x9002#16
  | .ld rd rs1 uimm => encodeDoubleword 0b011#32 rd rs1 uimm
  | .sd rs2 rs1 uimm => encodeDoubleword 0b111#32 rs2 rs1 uimm
  | .lw rd rs1 uimm => encodeWord 0b010#32 rd rs1 uimm
  | .sw rs2 rs1 uimm => encodeWord 0b110#32 rs2 rs1 uimm
  | .fld rd rs1 uimm => encodeDoubleword 0b001#32 rd rs1 uimm
  | .fsd rs2 rs1 uimm => encodeDoubleword 0b101#32 rs2 rs1 uimm
  | .ldsp rd uimm => do
    require (rd ≠ .zero) (.zeroDestination "c.ldsp")
    encodeStackLoad 0b011#32 rd uimm
  | .sdsp rs2 uimm => encodeStackStore 0b111#32 rs2 uimm
  | .lwsp rd uimm => do
    require (rd ≠ .zero) (.zeroDestination "c.lwsp")
    checkUnsigned .compactLwsp uimm 6 2
    pack (base 0b010#32 0b10#32 ++ [⟨3, 2, slice uimm 7 6⟩, ⟨6, 4, slice uimm 4 2⟩,
      ⟨11, 7, rd.encoding⟩, ⟨12, 12, slice uimm 5 5⟩])
  | .swsp rs2 uimm => do
    checkUnsigned .compactSwsp uimm 6 2
    pack (base 0b110#32 0b10#32 ++ [⟨6, 2, rs2.encoding⟩, ⟨8, 7, slice uimm 7 6⟩,
      ⟨12, 9, slice uimm 5 2⟩])
  | .fldsp rd uimm => encodeStackLoad 0b001#32 rd uimm
  | .fsdsp rs2 uimm => encodeStackStore 0b101#32 rs2 uimm

end CompactForm

end RiscvAssembler
