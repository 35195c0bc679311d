import RiscvAssembler.Vector.Format

/-!
# Vector operations

The arithmetic operations by the operands they take. Each is fixed by six function bits and the
category of its operands.
-/

namespace RiscvAssembler

/-! ## Operand categories -/

namespace VectorCategory

def opivv : BitVec 32 := 0b000#32
def opfvv : BitVec 32 := 0b001#32
def opmvv : BitVec 32 := 0b010#32
def opivi : BitVec 32 := 0b011#32
def opivx : BitVec 32 := 0b100#32
def opfvf : BitVec 32 := 0b101#32
def opmvx : BitVec 32 := 0b110#32
def opcfg : BitVec 32 := 0b111#32

end VectorCategory

structure VectorRow where
  funct6 : BitVec 32
  funct3 : BitVec 32

/-- Operations on two vectors. -/
inductive VVOp
  | add | sub | minu | min | maxu | max | and | or | xor | rgather | mseq | msne | msltu | mslt
  | msleu | msle | saddu | sadd | ssubu | ssub | sll | smul | srl | sra | nsrl | nsra
  | mul | mulh | mulhu | mulhsu | divu | div | remu | rem | waddu | wadd | wmulu | wmul | redsum
  | redand | redor | redxor | redminu | redmin | redmaxu | redmax
  | macc | nmsac | madd | nmsub
  | fadd | fsub | fmin | fmax | fsgnj | fsgnjn | fsgnjx | mfeq | mfle | mflt | mfne | fdiv
  | fmul | fredusum | fredosum | fredmin | fredmax
  | fmacc | fnmacc | fmsac | fnmsac | fmadd | fnmadd | fmsub | fnmsub
  deriving DecidableEq

def VVOp.row : VVOp → VectorRow
  | add => ⟨0b000000#32, VectorCategory.opivv⟩
  | sub => ⟨0b000010#32, VectorCategory.opivv⟩
  | minu => ⟨0b000100#32, VectorCategory.opivv⟩
  | min => ⟨0b000101#32, VectorCategory.opivv⟩
  | maxu => ⟨0b000110#32, VectorCategory.opivv⟩
  | max => ⟨0b000111#32, VectorCategory.opivv⟩
  | and => ⟨0b001001#32, VectorCategory.opivv⟩
  | or => ⟨0b001010#32, VectorCategory.opivv⟩
  | xor => ⟨0b001011#32, VectorCategory.opivv⟩
  | rgather => ⟨0b001100#32, VectorCategory.opivv⟩
  | mseq => ⟨0b011000#32, VectorCategory.opivv⟩
  | msne => ⟨0b011001#32, VectorCategory.opivv⟩
  | msltu => ⟨0b011010#32, VectorCategory.opivv⟩
  | mslt => ⟨0b011011#32, VectorCategory.opivv⟩
  | msleu => ⟨0b011100#32, VectorCategory.opivv⟩
  | msle => ⟨0b011101#32, VectorCategory.opivv⟩
  | saddu => ⟨0b100000#32, VectorCategory.opivv⟩
  | sadd => ⟨0b100001#32, VectorCategory.opivv⟩
  | ssubu => ⟨0b100010#32, VectorCategory.opivv⟩
  | ssub => ⟨0b100011#32, VectorCategory.opivv⟩
  | sll => ⟨0b100101#32, VectorCategory.opivv⟩
  | smul => ⟨0b100111#32, VectorCategory.opivv⟩
  | srl => ⟨0b101000#32, VectorCategory.opivv⟩
  | sra => ⟨0b101001#32, VectorCategory.opivv⟩
  | nsrl => ⟨0b101100#32, VectorCategory.opivv⟩
  | nsra => ⟨0b101101#32, VectorCategory.opivv⟩
  | mul => ⟨0b100101#32, VectorCategory.opmvv⟩
  | mulh => ⟨0b100111#32, VectorCategory.opmvv⟩
  | mulhu => ⟨0b100100#32, VectorCategory.opmvv⟩
  | mulhsu => ⟨0b100110#32, VectorCategory.opmvv⟩
  | divu => ⟨0b100000#32, VectorCategory.opmvv⟩
  | div => ⟨0b100001#32, VectorCategory.opmvv⟩
  | remu => ⟨0b100010#32, VectorCategory.opmvv⟩
  | rem => ⟨0b100011#32, VectorCategory.opmvv⟩
  | waddu => ⟨0b110000#32, VectorCategory.opmvv⟩
  | wadd => ⟨0b110001#32, VectorCategory.opmvv⟩
  | wmulu => ⟨0b111000#32, VectorCategory.opmvv⟩
  | wmul => ⟨0b111011#32, VectorCategory.opmvv⟩
  | redsum => ⟨0b000000#32, VectorCategory.opmvv⟩
  | redand => ⟨0b000001#32, VectorCategory.opmvv⟩
  | redor => ⟨0b000010#32, VectorCategory.opmvv⟩
  | redxor => ⟨0b000011#32, VectorCategory.opmvv⟩
  | redminu => ⟨0b000100#32, VectorCategory.opmvv⟩
  | redmin => ⟨0b000101#32, VectorCategory.opmvv⟩
  | redmaxu => ⟨0b000110#32, VectorCategory.opmvv⟩
  | redmax => ⟨0b000111#32, VectorCategory.opmvv⟩
  | macc => ⟨0b101101#32, VectorCategory.opmvv⟩
  | nmsac => ⟨0b101111#32, VectorCategory.opmvv⟩
  | madd => ⟨0b101001#32, VectorCategory.opmvv⟩
  | nmsub => ⟨0b101011#32, VectorCategory.opmvv⟩
  | fadd => ⟨0b000000#32, VectorCategory.opfvv⟩
  | fsub => ⟨0b000010#32, VectorCategory.opfvv⟩
  | fmin => ⟨0b000100#32, VectorCategory.opfvv⟩
  | fmax => ⟨0b000110#32, VectorCategory.opfvv⟩
  | fsgnj => ⟨0b001000#32, VectorCategory.opfvv⟩
  | fsgnjn => ⟨0b001001#32, VectorCategory.opfvv⟩
  | fsgnjx => ⟨0b001010#32, VectorCategory.opfvv⟩
  | mfeq => ⟨0b011000#32, VectorCategory.opfvv⟩
  | mfle => ⟨0b011001#32, VectorCategory.opfvv⟩
  | mflt => ⟨0b011011#32, VectorCategory.opfvv⟩
  | mfne => ⟨0b011100#32, VectorCategory.opfvv⟩
  | fdiv => ⟨0b100000#32, VectorCategory.opfvv⟩
  | fmul => ⟨0b100100#32, VectorCategory.opfvv⟩
  | fredusum => ⟨0b000001#32, VectorCategory.opfvv⟩
  | fredosum => ⟨0b000011#32, VectorCategory.opfvv⟩
  | fredmin => ⟨0b000101#32, VectorCategory.opfvv⟩
  | fredmax => ⟨0b000111#32, VectorCategory.opfvv⟩
  | fmacc => ⟨0b101100#32, VectorCategory.opfvv⟩
  | fnmacc => ⟨0b101101#32, VectorCategory.opfvv⟩
  | fmsac => ⟨0b101110#32, VectorCategory.opfvv⟩
  | fnmsac => ⟨0b101111#32, VectorCategory.opfvv⟩
  | fmadd => ⟨0b101000#32, VectorCategory.opfvv⟩
  | fnmadd => ⟨0b101001#32, VectorCategory.opfvv⟩
  | fmsub => ⟨0b101010#32, VectorCategory.opfvv⟩
  | fnmsub => ⟨0b101011#32, VectorCategory.opfvv⟩

/-- Operations on a vector and an integer register. -/
inductive VXOp
  | add | sub | rsub | minu | min | maxu | max | and | or | xor | rgather | slideup | slidedown
  | mseq | msne | msltu | mslt | msleu | msle | msgtu | msgt | sll | srl | sra | nsrl | nsra
  | slide1up | slide1down | mul | mulh | mulhu | mulhsu | divu | div | remu | rem
  | macc | nmsac | madd | nmsub
  deriving DecidableEq

def VXOp.row : VXOp → VectorRow
  | add => ⟨0b000000#32, VectorCategory.opivx⟩
  | sub => ⟨0b000010#32, VectorCategory.opivx⟩
  | rsub => ⟨0b000011#32, VectorCategory.opivx⟩
  | minu => ⟨0b000100#32, VectorCategory.opivx⟩
  | min => ⟨0b000101#32, VectorCategory.opivx⟩
  | maxu => ⟨0b000110#32, VectorCategory.opivx⟩
  | max => ⟨0b000111#32, VectorCategory.opivx⟩
  | and => ⟨0b001001#32, VectorCategory.opivx⟩
  | or => ⟨0b001010#32, VectorCategory.opivx⟩
  | xor => ⟨0b001011#32, VectorCategory.opivx⟩
  | rgather => ⟨0b001100#32, VectorCategory.opivx⟩
  | slideup => ⟨0b001110#32, VectorCategory.opivx⟩
  | slidedown => ⟨0b001111#32, VectorCategory.opivx⟩
  | mseq => ⟨0b011000#32, VectorCategory.opivx⟩
  | msne => ⟨0b011001#32, VectorCategory.opivx⟩
  | msltu => ⟨0b011010#32, VectorCategory.opivx⟩
  | mslt => ⟨0b011011#32, VectorCategory.opivx⟩
  | msleu => ⟨0b011100#32, VectorCategory.opivx⟩
  | msle => ⟨0b011101#32, VectorCategory.opivx⟩
  | msgtu => ⟨0b011110#32, VectorCategory.opivx⟩
  | msgt => ⟨0b011111#32, VectorCategory.opivx⟩
  | sll => ⟨0b100101#32, VectorCategory.opivx⟩
  | srl => ⟨0b101000#32, VectorCategory.opivx⟩
  | sra => ⟨0b101001#32, VectorCategory.opivx⟩
  | nsrl => ⟨0b101100#32, VectorCategory.opivx⟩
  | nsra => ⟨0b101101#32, VectorCategory.opivx⟩
  | slide1up => ⟨0b001110#32, VectorCategory.opmvx⟩
  | slide1down => ⟨0b001111#32, VectorCategory.opmvx⟩
  | mul => ⟨0b100101#32, VectorCategory.opmvx⟩
  | mulh => ⟨0b100111#32, VectorCategory.opmvx⟩
  | mulhu => ⟨0b100100#32, VectorCategory.opmvx⟩
  | mulhsu => ⟨0b100110#32, VectorCategory.opmvx⟩
  | divu => ⟨0b100000#32, VectorCategory.opmvx⟩
  | div => ⟨0b100001#32, VectorCategory.opmvx⟩
  | remu => ⟨0b100010#32, VectorCategory.opmvx⟩
  | rem => ⟨0b100011#32, VectorCategory.opmvx⟩
  | macc => ⟨0b101101#32, VectorCategory.opmvx⟩
  | nmsac => ⟨0b101111#32, VectorCategory.opmvx⟩
  | madd => ⟨0b101001#32, VectorCategory.opmvx⟩
  | nmsub => ⟨0b101011#32, VectorCategory.opmvx⟩

/-- Operations on a vector and a floating-point register. -/
inductive VFOp
  | fadd | fsub | fmin | fmax | fsgnj | fsgnjn | fsgnjx | fslide1up | fslide1down | mfeq | mfle
  | mflt | mfne | mfgt | mfge | fdiv | frdiv | fmul | frsub
  | fmacc | fnmacc | fmsac | fnmsac | fmadd | fnmadd | fmsub | fnmsub
  deriving DecidableEq

def VFOp.row : VFOp → VectorRow
  | fadd => ⟨0b000000#32, VectorCategory.opfvf⟩
  | fsub => ⟨0b000010#32, VectorCategory.opfvf⟩
  | fmin => ⟨0b000100#32, VectorCategory.opfvf⟩
  | fmax => ⟨0b000110#32, VectorCategory.opfvf⟩
  | fsgnj => ⟨0b001000#32, VectorCategory.opfvf⟩
  | fsgnjn => ⟨0b001001#32, VectorCategory.opfvf⟩
  | fsgnjx => ⟨0b001010#32, VectorCategory.opfvf⟩
  | fslide1up => ⟨0b001110#32, VectorCategory.opfvf⟩
  | fslide1down => ⟨0b001111#32, VectorCategory.opfvf⟩
  | mfeq => ⟨0b011000#32, VectorCategory.opfvf⟩
  | mfle => ⟨0b011001#32, VectorCategory.opfvf⟩
  | mflt => ⟨0b011011#32, VectorCategory.opfvf⟩
  | mfne => ⟨0b011100#32, VectorCategory.opfvf⟩
  | mfgt => ⟨0b011101#32, VectorCategory.opfvf⟩
  | mfge => ⟨0b011111#32, VectorCategory.opfvf⟩
  | fdiv => ⟨0b100000#32, VectorCategory.opfvf⟩
  | frdiv => ⟨0b100001#32, VectorCategory.opfvf⟩
  | fmul => ⟨0b100100#32, VectorCategory.opfvf⟩
  | frsub => ⟨0b100111#32, VectorCategory.opfvf⟩
  | fmacc => ⟨0b101100#32, VectorCategory.opfvf⟩
  | fnmacc => ⟨0b101101#32, VectorCategory.opfvf⟩
  | fmsac => ⟨0b101110#32, VectorCategory.opfvf⟩
  | fnmsac => ⟨0b101111#32, VectorCategory.opfvf⟩
  | fmadd => ⟨0b101000#32, VectorCategory.opfvf⟩
  | fnmadd => ⟨0b101001#32, VectorCategory.opfvf⟩
  | fmsub => ⟨0b101010#32, VectorCategory.opfvf⟩
  | fnmsub => ⟨0b101011#32, VectorCategory.opfvf⟩

/-- Operations on a vector and a signed immediate. -/
inductive VIOp
  | add | rsub | and | or | xor | mseq | msne | msleu | msle | msgtu | msgt
  deriving DecidableEq

def VIOp.row : VIOp → VectorRow
  | add => ⟨0b000000#32, VectorCategory.opivi⟩
  | rsub => ⟨0b000011#32, VectorCategory.opivi⟩
  | and => ⟨0b001001#32, VectorCategory.opivi⟩
  | or => ⟨0b001010#32, VectorCategory.opivi⟩
  | xor => ⟨0b001011#32, VectorCategory.opivi⟩
  | mseq => ⟨0b011000#32, VectorCategory.opivi⟩
  | msne => ⟨0b011001#32, VectorCategory.opivi⟩
  | msleu => ⟨0b011100#32, VectorCategory.opivi⟩
  | msle => ⟨0b011101#32, VectorCategory.opivi⟩
  | msgtu => ⟨0b011110#32, VectorCategory.opivi⟩
  | msgt => ⟨0b011111#32, VectorCategory.opivi⟩

/-- Operations on a vector and an unsigned immediate. -/
inductive VUOp
  | rgather | slideup | slidedown | sll | srl | sra | nsrl | nsra
  deriving DecidableEq

def VUOp.row : VUOp → VectorRow
  | rgather => ⟨0b001100#32, VectorCategory.opivi⟩
  | slideup => ⟨0b001110#32, VectorCategory.opivi⟩
  | slidedown => ⟨0b001111#32, VectorCategory.opivi⟩
  | sll => ⟨0b100101#32, VectorCategory.opivi⟩
  | srl => ⟨0b101000#32, VectorCategory.opivi⟩
  | sra => ⟨0b101001#32, VectorCategory.opivi⟩
  | nsrl => ⟨0b101100#32, VectorCategory.opivi⟩
  | nsra => ⟨0b101101#32, VectorCategory.opivi⟩

/-- Operations on one vector, told apart by the first source field. -/
inductive VUnaryOp
  | zextVf8 | sextVf8 | zextVf4 | sextVf4 | zextVf2 | sextVf2 | msbf | msof | msif | iota
  | fcvtXuF | fcvtXF | fcvtFXu | fcvtFX | fcvtRtzXuF | fcvtRtzXF | fwcvtFF | fncvtFF | fsqrt
  | fclass
  deriving DecidableEq

def VUnaryOp.row : VUnaryOp → VectorRow
  | zextVf8 => ⟨0b010010#32, VectorCategory.opmvv⟩
  | sextVf8 => ⟨0b010010#32, VectorCategory.opmvv⟩
  | zextVf4 => ⟨0b010010#32, VectorCategory.opmvv⟩
  | sextVf4 => ⟨0b010010#32, VectorCategory.opmvv⟩
  | zextVf2 => ⟨0b010010#32, VectorCategory.opmvv⟩
  | sextVf2 => ⟨0b010010#32, VectorCategory.opmvv⟩
  | msbf => ⟨0b010100#32, VectorCategory.opmvv⟩
  | msof => ⟨0b010100#32, VectorCategory.opmvv⟩
  | msif => ⟨0b010100#32, VectorCategory.opmvv⟩
  | iota => ⟨0b010100#32, VectorCategory.opmvv⟩
  | fcvtXuF => ⟨0b010010#32, VectorCategory.opfvv⟩
  | fcvtXF => ⟨0b010010#32, VectorCategory.opfvv⟩
  | fcvtFXu => ⟨0b010010#32, VectorCategory.opfvv⟩
  | fcvtFX => ⟨0b010010#32, VectorCategory.opfvv⟩
  | fcvtRtzXuF => ⟨0b010010#32, VectorCategory.opfvv⟩
  | fcvtRtzXF => ⟨0b010010#32, VectorCategory.opfvv⟩
  | fwcvtFF => ⟨0b010010#32, VectorCategory.opfvv⟩
  | fncvtFF => ⟨0b010010#32, VectorCategory.opfvv⟩
  | fsqrt => ⟨0b010011#32, VectorCategory.opfvv⟩
  | fclass => ⟨0b010011#32, VectorCategory.opfvv⟩

def VUnaryOp.selector : VUnaryOp → BitVec 32
  | zextVf8 => 0b00010#32
  | sextVf8 => 0b00011#32
  | zextVf4 => 0b00100#32
  | sextVf4 => 0b00101#32
  | zextVf2 => 0b00110#32
  | sextVf2 => 0b00111#32
  | msbf => 0b00001#32
  | msof => 0b00010#32
  | msif => 0b00011#32
  | iota => 0b10000#32
  | fcvtXuF => 0b00000#32
  | fcvtXF => 0b00001#32
  | fcvtFXu => 0b00010#32
  | fcvtFX => 0b00011#32
  | fcvtRtzXuF => 0b00110#32
  | fcvtRtzXF => 0b00111#32
  | fwcvtFF => 0b01100#32
  | fncvtFF => 0b10100#32
  | fsqrt => 0b00000#32
  | fclass => 0b10000#32

/-- Operations on mask registers, which never run under a mask. -/
inductive VMaskOp
  | mandn | mand | mor | mxor | morn | mnand | mnor | mxnor | compress
  deriving DecidableEq

def VMaskOp.row : VMaskOp → VectorRow
  | mandn => ⟨0b011000#32, VectorCategory.opmvv⟩
  | mand => ⟨0b011001#32, VectorCategory.opmvv⟩
  | mor => ⟨0b011010#32, VectorCategory.opmvv⟩
  | mxor => ⟨0b011011#32, VectorCategory.opmvv⟩
  | morn => ⟨0b011100#32, VectorCategory.opmvv⟩
  | mnand => ⟨0b011101#32, VectorCategory.opmvv⟩
  | mnor => ⟨0b011110#32, VectorCategory.opmvv⟩
  | mxnor => ⟨0b011111#32, VectorCategory.opmvv⟩
  | compress => ⟨0b010111#32, VectorCategory.opmvv⟩

/-- Operations that reduce a mask to an integer. -/
inductive MaskScanOp
  | popcount | first
  deriving DecidableEq

def MaskScanOp.selector : MaskScanOp → BitVec 32
  | popcount => 0b10000#32
  | first => 0b10001#32

/-- Register counts of whole-register moves and loads. -/
inductive GroupSize
  | one | two | four | eight
  deriving DecidableEq

def GroupSize.number : GroupSize → Nat
  | one => 1
  | two => 2
  | four => 4
  | eight => 8

/-- Unit-stride accesses. -/
inductive UnitOp
  | load | loadFaultFirst | store
  deriving DecidableEq

/-- Direction of a memory access. -/
inductive Direction
  | load | store
  deriving DecidableEq

def Direction.opcode : Direction → BitVec 32
  | load => Opcode.loadFloat
  | store => Opcode.storeFloat

def UnitOp.direction : UnitOp → Direction
  | load | loadFaultFirst => .load
  | store => .store

def UnitOp.selector : UnitOp → BitVec 32
  | load | store => 0b00000#32
  | loadFaultFirst => 0b10000#32

/-! ## Addressing modes -/

namespace AddressingMode

def unitStride : BitVec 32 := 0b00#32
def indexedUnordered : BitVec 32 := 0b01#32
def strided : BitVec 32 := 0b10#32
def indexedOrdered : BitVec 32 := 0b11#32

end AddressingMode

end RiscvAssembler
