import RiscvAssembler.ReferenceKind
import RiscvAssembler.RegisterClass
import RiscvAssembler.Text.Hex

/-!
# Faults

Every way in which a request to the encoders, the code buffer or a label can be refused, and the
wording of each refusal.
-/

namespace RiscvAssembler

/-- The machine operations whose result may leave the range of its type. -/
inductive Arithmetic
  | add
  | subtract
  | shiftLeft
  | shiftRight
  deriving DecidableEq

/-- Operands whose value is reported in decimal when it is out of range. -/
inductive RangedOperand
  | immediate
  | storeOffset
  | branchOffset
  | jumpOffset
  | csrImmediate
  | vectorImmediate
  | compactImmediate
  | compactAndi
  | compactSlli
  | compactSrli
  | compactSrai
  | compactJumpOffset
  | compactBranchOffset
  | compactDoublewordOffset
  | compactWordOffset
  | compactStackDoublewordOffset
  | compactLwsp
  | compactSwsp
  deriving DecidableEq

inductive Fault
  | overflow (op : Arithmetic)
  | invertedRange (msb lsb : Nat)
  | bitOutsideWord (bit width : Nat)
  | fieldTooBig (value : BitVec 32) (msb lsb : Nat)
  | alignmentNotPowerOfTwo
  | noSuchRegister (c : RegisterClass) (number : Nat)
  | noCompressedEncoding (c : RegisterClass) (number : Nat)
  | outOfRange (operand : RangedOperand) (value : Int)
  | shiftTooFar (amount : BitVec 32) (bits : BitVec 32)
  | upperLowBits (imm : BitVec 32)
  | csrOutOfRange (csr : BitVec 32)
  | fieldCount (count : Nat)
  | segmentTooLong (fields first : Nat)
  | misalignedGroup (register count : Nat)
  | wholeGroup (count : Nat)
  | vtypeNotZero
  | zeroDestination (mnemonic : String)
  | zeroSource (mnemonic : String)
  | zeroOperand (mnemonic : String)
  | compactAddiZero
  | compactAddi16sp (imm : Int)
  | compactAddi4spn (imm : Nat)
  | compactLuiDestination
  | compactLuiImmediate (imm : BitVec 32)
  | bufferFull
  | patchOutside
  | readOutside (width : Nat)
  | addressOutside
  | unreachable (kind : ReferenceKind) (offset : Nat) (displacement : Int)
  | alreadyBound (id offset : Nat)
  | referenceAfterBind (id : Nat)
  deriving DecidableEq

def Arithmetic.gerund : Arithmetic → String
  | add => "add"
  | subtract => "subtract"
  | shiftLeft => "shift left"
  | shiftRight => "shift right"

def RangedOperand.describe : RangedOperand → String
  | immediate => "I-type immediate"
  | storeOffset => "S-type offset"
  | branchOffset => "branch offset"
  | jumpOffset => "jump offset"
  | csrImmediate => "csr immediate"
  | vectorImmediate => "vector immediate"
  | compactImmediate => "compact immediate"
  | compactAndi => "c.andi: immediate"
  | compactSlli => "c.slli: shift amount"
  | compactSrli => "c.srli: shift amount"
  | compactSrai => "c.srai: shift amount"
  | compactJumpOffset => "compact jump offset"
  | compactBranchOffset => "compact branch offset"
  | compactDoublewordOffset => "compact doubleword offset"
  | compactWordOffset => "compact word offset"
  | compactStackDoublewordOffset => "compact stack doubleword offset"
  | compactLwsp => "c.lwsp: offset"
  | compactSwsp => "c.swsp: offset"

namespace Fault

open Text

def message : Fault → String
  | overflow op => s!"attempt to {op.gerund} with overflow"
  | invertedRange msb lsb => s!"bit range msb {msb} < lsb {lsb}"
  | bitOutsideWord bit width => s!"bit {bit} outside {width}-bit instruction word"
  | fieldTooBig value msb lsb =>
    s!"field too big for insn: {hex value.toNat} does not fit in bits [{msb}:{lsb}]"
  | alignmentNotPowerOfTwo => "alignment must be a power of two"
  | noSuchRegister c number => s!"invalid {c.typeName} encoding {number}"
  | noCompressedEncoding c number => s!"{c.name} register {number} has no compressed encoding"
  | outOfRange operand value => s!"{operand.describe} {value} out of range"
  | shiftTooFar amount bits => s!"shift amount {amount.toNat} exceeds {bits.toNat} bits"
  | upperLowBits imm => s!"upper immediate {hex imm.toNat} has low bits set"
  | csrOutOfRange csr => s!"csr {hex csr.toNat} out of range"
  | fieldCount count => s!"segment field count {count} not in 1..=8"
  | segmentTooLong fields first =>
    s!"segment of {fields} fields starting at v{first} runs past v31"
  | misalignedGroup register count =>
    s!"v{register} is not aligned to a group of {count} registers"
  | wholeGroup count => s!"whole-register group of {count} registers"
  | vtypeNotZero => "the other bits in vtype shall be zero when vill is set"
  | zeroDestination mnemonic => s!"{mnemonic}: rd must not be x0"
  | zeroSource mnemonic => s!"{mnemonic}: rs1 must not be x0"
  | zeroOperand mnemonic => s!"{mnemonic}: x0 operand"
  | compactAddiZero => "c.addi: zero immediate is reserved"
  | compactAddi16sp imm => s!"c.addi16sp: {imm} is not a non-zero multiple of 16 in range"
  | compactAddi4spn imm => s!"c.addi4spn: {imm} is not a non-zero multiple of 4 below 1024"
  | compactLuiDestination => "c.lui: rd must not be x0 or sp"
  | compactLuiImmediate imm => s!"c.lui: immediate {hex imm.toNat} out of range"
  | bufferFull => "code buffer overflow"
  | patchOutside => "patch outside emitted code"
  | readOutside width => s!"assertion failed: offset + {width} <= self.offset"
  | addressOutside => "assertion failed: offset <= self.size"
  | unreachable kind offset displacement =>
    s!"{kind.name} at {hex offset}: displacement {displacement} exceeds {kind.offsetBits} bits"
  | alreadyBound id offset => s!"label {id} already bound at {hex offset}"
  | referenceAfterBind id => s!"label {id} already bound; cannot add a forward use"

end Fault

end RiscvAssembler
