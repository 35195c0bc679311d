import RiscvAssembler.Assembler.Call

/-!
# Mnemonics

A mnemonic is a name, the kinds of its operands in order and the call that it makes of them.
-/

namespace RiscvAssembler

inductive OperandKind
  | reg
  | freg
  | vreg
  /-- A signed 32-bit number. -/
  | imm
  /-- An unsigned 32-bit number. -/
  | uimm
  /-- A 16-bit word. -/
  | half
  | target
  | rounding
  | order
  | mask
  | sew
  | fieldCount
  | vtype
  | condition
  | flag
  deriving DecidableEq

/-- The operands of a kind. -/
def OperandKind.Value : OperandKind → Type
  | reg => Reg
  | freg => FReg
  | vreg => VReg
  | imm | uimm => BitVec 32
  | half => BitVec 16
  | target => Target
  | rounding => RoundingMode
  | order => MemoryOrder
  | mask => VectorMask
  | sew => Sew
  | fieldCount => FieldCount
  | vtype => VType
  | condition => Condition
  | flag => Bool

/-- Functions from operands of the given kinds to a call. -/
def CallOf : List OperandKind → Type
  | [] => Call
  | k :: ks => k.Value → CallOf ks

structure Mnemonic where
  name : String
  operands : List OperandKind
  build : CallOf operands

namespace Mnemonic

/-- Mnemonics of one operand list. -/
def group (operands : List OperandKind) (entries : List (String × CallOf operands)) :
    List Mnemonic :=
  entries.map fun (name, build) => ⟨name, operands, build⟩

/-- Mnemonics that differ in a parameter of the call only. -/
def family {α : Type} (operands : List OperandKind) (build : α → CallOf operands)
    (entries : List (String × α)) : List Mnemonic :=
  entries.map fun (name, parameter) => ⟨name, operands, build parameter⟩

end Mnemonic

end RiscvAssembler
