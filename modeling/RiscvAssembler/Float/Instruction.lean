import RiscvAssembler.Float.Operation
import RiscvAssembler.Register

/-!
# Floating-point instructions

Loads, stores, arithmetic, comparisons, conversions and moves, and their 32-bit words. Operations
that do not round carry no rounding mode.
-/

namespace RiscvAssembler

inductive FloatInstr
  | load (fmt : FloatFormat) (rd : FReg) (rs1 : Reg) (offset : BitVec 32)
  | store (fmt : FloatFormat) (rs2 : FReg) (rs1 : Reg) (offset : BitVec 32)
  | arith (op : FloatArithOp) (fmt : FloatFormat) (rd rs1 rs2 : FReg) (rm : RoundingMode)
  | select (op : FloatSelectOp) (fmt : FloatFormat) (rd rs1 rs2 : FReg)
  | compare (op : FloatCompareOp) (fmt : FloatFormat) (rd : Reg) (rs1 rs2 : FReg)
  | sqrt (fmt : FloatFormat) (rd rs1 : FReg) (rm : RoundingMode)
  | convert (fmt : FloatFormat) (rd rs1 : FReg) (rm : RoundingMode)
  | toInt (i : IntFormat) (fmt : FloatFormat) (rd : Reg) (rs1 : FReg) (rm : RoundingMode)
  | ofInt (i : IntFormat) (fmt : FloatFormat) (rd : FReg) (rs1 : Reg) (rm : RoundingMode)
  | moveToInt (fmt : FloatFormat) (rd : Reg) (rs1 : FReg)
  | moveFromInt (fmt : FloatFormat) (rd : FReg) (rs1 : Reg)
  | classify (fmt : FloatFormat) (rd : Reg) (rs1 : FReg)
  | fused (op : FusedOp) (fmt : FloatFormat) (rd rs1 rs2 rs3 : FReg) (rm : RoundingMode)
  deriving DecidableEq

namespace FloatInstr

def encode : FloatInstr → Except Fault (BitVec 32)
  | .load fmt rd rs1 offset => fmt.loadRow.encode rd.encoding rs1.encoding offset
  | .store fmt rs2 rs1 offset => fmt.storeRow.encode rs2.encoding rs1.encoding offset
  | .arith op fmt rd rs1 rs2 rm => (op.row fmt).encode rd.encoding rs1.encoding rs2.encoding rm
  | .select op fmt rd rs1 rs2 => (op.row fmt).encode rd.encoding rs1.encoding rs2.encoding .dyn
  | .compare op fmt rd rs1 rs2 => (op.row fmt).encode rd.encoding rs1.encoding rs2.encoding .dyn
  | .sqrt fmt rd rs1 rm => fmt.sqrtRow.encode rd.encoding rs1.encoding 0#32 rm
  | .convert fmt rd rs1 rm => fmt.convertRow.encode rd.encoding rs1.encoding 0#32 rm
  | .toInt i fmt rd rs1 rm => (i.fromFloatRow fmt).encode rd.encoding rs1.encoding 0#32 rm
  | .ofInt i fmt rd rs1 rm => (i.toFloatRow fmt).encode rd.encoding rs1.encoding 0#32 rm
  | .moveToInt fmt rd rs1 => fmt.moveToIntRow.encode rd.encoding rs1.encoding 0#32 .dyn
  | .moveFromInt fmt rd rs1 => fmt.moveFromIntRow.encode rd.encoding rs1.encoding 0#32 .dyn
  | .classify fmt rd rs1 => fmt.classifyRow.encode rd.encoding rs1.encoding 0#32 .dyn
  | .fused op fmt rd rs1 rs2 rs3 rm =>
    (op.row fmt).encode rd.encoding rs1.encoding rs2.encoding rs3.encoding rm

end FloatInstr

end RiscvAssembler
