/-!
# Kinds of label reference

A label is reached through one of four displacement fields, which differ in width and in the
length of the instruction that carries them.
-/

namespace RiscvAssembler

inductive ReferenceKind
  /-- Conditional branch, B-type. -/
  | branch
  /-- Jump and link, J-type. -/
  | jal
  /-- Compact branch on zero, CB-type. -/
  | cBranch
  /-- Compact jump, CJ-type. -/
  | cJump
  deriving DecidableEq

namespace ReferenceKind

def name : ReferenceKind → String
  | branch => "Branch"
  | jal => "Jal"
  | cBranch => "CBranch"
  | cJump => "CJump"

/-- Bytes of the instruction that carries the displacement. -/
def length : ReferenceKind → Nat
  | branch | jal => 4
  | cBranch | cJump => 2

/-- Bits of the signed displacement, the implicit low zero bit included. -/
def offsetBits : ReferenceKind → Nat
  | branch => 13
  | jal => 21
  | cBranch => 9
  | cJump => 12

end ReferenceKind

end RiscvAssembler
