import RiscvAssembler.Float.Instruction
import RiscvAssembler.Integer.Instruction
import RiscvAssembler.Vector.Instruction

/-!
# Canonical instructions

Every instruction of four bytes, with its operands and its word.
-/

namespace RiscvAssembler

inductive Instr
  | integer (i : IntegerInstr)
  | float (i : FloatInstr)
  | vector (i : VectorInstr)
  deriving DecidableEq

namespace Instr

def encode : Instr → Except Fault (BitVec 32)
  | integer i => i.encode
  | float i => i.encode
  | vector i => i.encode

end Instr

end RiscvAssembler
