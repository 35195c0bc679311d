import RiscvAssembler.Register
import RiscvAssembler.Vector.Operation

/-!
# Vector instructions

Configuration, arithmetic, mask, move and memory instructions of the vector extension, and their
32-bit words. Every instruction that can run under a mask names it.
-/

namespace RiscvAssembler

inductive VectorInstr
  | setvli (rd rs1 : Reg) (vtype : VType)
  | setivli (rd : Reg) (avl : BitVec 32) (vtype : VType)
  | setvl (rd rs1 rs2 : Reg)
  | vv (op : VVOp) (vd vs2 vs1 : VReg) (vm : VectorMask)
  | vx (op : VXOp) (vd vs2 : VReg) (rs1 : Reg) (vm : VectorMask)
  | vf (op : VFOp) (vd vs2 : VReg) (rs1 : FReg) (vm : VectorMask)
  | vi (op : VIOp) (vd vs2 : VReg) (imm : BitVec 32) (vm : VectorMask)
  | vu (op : VUOp) (vd vs2 : VReg) (uimm : BitVec 32) (vm : VectorMask)
  | unary (op : VUnaryOp) (vd vs2 : VReg) (vm : VectorMask)
  | maskScan (op : MaskScanOp) (rd : Reg) (vs2 : VReg) (vm : VectorMask)
  | elementIndex (vd : VReg) (vm : VectorMask)
  | maskLogical (op : VMaskOp) (vd vs2 vs1 : VReg)
  | moveV (vd vs1 : VReg)
  | moveX (vd : VReg) (rs1 : Reg)
  | moveI (vd : VReg) (imm : BitVec 32)
  | moveF (vd : VReg) (rs1 : FReg)
  | firstToInt (rd : Reg) (vs2 : VReg)
  | firstOfInt (vd : VReg) (rs1 : Reg)
  | firstToFloat (rd : FReg) (vs2 : VReg)
  | firstOfFloat (vd : VReg) (rs1 : FReg)
  | mergeV (vd vs2 vs1 : VReg)
  | mergeX (vd vs2 : VReg) (rs1 : Reg)
  | mergeI (vd vs2 : VReg) (imm : BitVec 32)
  | moveGroup (count : GroupSize) (vd vs2 : VReg)
  | unitStride (op : UnitOp) (fields : FieldCount) (eew : Sew) (vd : VReg) (rs1 : Reg)
      (vm : VectorMask)
  | strided (dir : Direction) (fields : FieldCount) (eew : Sew) (vd : VReg) (rs1 rs2 : Reg)
      (vm : VectorMask)
  | indexed (dir : Direction) (ordered : Bool) (fields : FieldCount) (eew : Sew) (vd : VReg)
      (rs1 : Reg) (vs2 : VReg) (vm : VectorMask)
  | loadGroup (count : GroupSize) (eew : Sew) (vd : VReg) (rs1 : Reg)
  | storeGroup (count : BitVec 32) (vs3 : VReg) (rs1 : Reg)
  | maskAccess (dir : Direction) (vd : VReg) (rs1 : Reg)
  deriving DecidableEq

namespace VectorInstr

/-- The five bits of a signed immediate. -/
def signedImmediate (imm : BitVec 32) : Except Fault (BitVec 32) := do
  require (Immediate.fitsSigned (imm.signExtend 64) 5 0) (.outOfRange .vectorImmediate imm.toInt)
  return slice imm 4 0

/-- The five bits of an unsigned immediate. -/
def unsignedImmediate (imm : BitVec 32) : Except Fault (BitVec 32) := do
  require (Immediate.fitsUnsigned (imm.setWidth 64) 5 0) (.outOfRange .vectorImmediate imm.toNat)
  return imm

/-- Refuses a segment that runs past the last register. -/
def checkSegment (vd : VReg) (fields : FieldCount) : Except Fault Unit :=
  require (vd.number + fields.number ≤ 32) (.segmentTooLong fields.number vd.number)

/-- Refuses a register that does not start a group of `count`. -/
def checkGroup (v : VReg) (count : Nat) : Except Fault Unit :=
  require (v.number % count = 0) (.misalignedGroup v.number count)

/-- Load or store of a whole group of registers. -/
def encodeGroup (dir : Direction) (eew : Sew) (vd : VReg) (rs1 : Reg) (count : Nat) :
    Except Fault (BitVec 32) := do
  require (count ∈ [1, 2, 4, 8]) (.wholeGroup count)
  checkGroup vd count
  VectorFormat.memory dir.opcode eew.memWidth vd.encoding rs1.encoding 0b01000#32 .unmasked
    AddressingMode.unitStride (← FieldCount.ofNumber count)

def encodeArith (row : VectorRow) (vd vs2 source : BitVec 32) (vm : VectorMask) :
    Except Fault (BitVec 32) :=
  VectorFormat.arith row.funct6 row.funct3 vd vs2 source vm

open VectorCategory in
def encode : VectorInstr → Except Fault (BitVec 32)
  | .setvli rd rs1 vtype => do
    vtype.check
    pack ([⟨6, 0, Opcode.opVector⟩, ⟨11, 7, rd.encoding⟩, ⟨14, 12, opcfg⟩,
      ⟨19, 15, rs1.encoding⟩] ++ vtype.fields 30 20 ++ [⟨31, 31, 0#32⟩])
  | .setivli rd avl vtype => do
    let avl ← unsignedImmediate avl
    vtype.check
    pack ([⟨6, 0, Opcode.opVector⟩, ⟨11, 7, rd.encoding⟩, ⟨14, 12, opcfg⟩, ⟨19, 15, avl⟩] ++
      vtype.fields 29 20 ++ [⟨31, 30, 0b11#32⟩])
  | .setvl rd rs1 rs2 =>
    pack [⟨6, 0, Opcode.opVector⟩, ⟨11, 7, rd.encoding⟩, ⟨14, 12, opcfg⟩, ⟨19, 15, rs1.encoding⟩,
      ⟨24, 20, rs2.encoding⟩, ⟨31, 25, 0b1000000#32⟩]
  | .vv op vd vs2 vs1 vm => encodeArith op.row vd.encoding vs2.encoding vs1.encoding vm
  | .vx op vd vs2 rs1 vm => encodeArith op.row vd.encoding vs2.encoding rs1.encoding vm
  | .vf op vd vs2 rs1 vm => encodeArith op.row vd.encoding vs2.encoding rs1.encoding vm
  | .vi op vd vs2 imm vm => do
    encodeArith op.row vd.encoding vs2.encoding (← signedImmediate imm) vm
  | .vu op vd vs2 uimm vm => do
    encodeArith op.row vd.encoding vs2.encoding (← unsignedImmediate uimm) vm
  | .unary op vd vs2 vm => encodeArith op.row vd.encoding vs2.encoding op.selector vm
  | .maskScan op rd vs2 vm =>
    encodeArith ⟨0b010000#32, opmvv⟩ rd.encoding vs2.encoding op.selector vm
  | .elementIndex vd vm => encodeArith ⟨0b010100#32, opmvv⟩ vd.encoding 0#32 0b10001#32 vm
  | .maskLogical op vd vs2 vs1 =>
    encodeArith op.row vd.encoding vs2.encoding vs1.encoding .unmasked
  | .moveV vd vs1 => encodeArith ⟨0b010111#32, opivv⟩ vd.encoding 0#32 vs1.encoding .unmasked
  | .moveX vd rs1 => encodeArith ⟨0b010111#32, opivx⟩ vd.encoding 0#32 rs1.encoding .unmasked
  | .moveI vd imm => do
    encodeArith ⟨0b010111#32, opivi⟩ vd.encoding 0#32 (← signedImmediate imm) .unmasked
  | .moveF vd rs1 => encodeArith ⟨0b010111#32, opfvf⟩ vd.encoding 0#32 rs1.encoding .unmasked
  | .firstToInt rd vs2 => encodeArith ⟨0b010000#32, opmvv⟩ rd.encoding vs2.encoding 0#32 .unmasked
  | .firstOfInt vd rs1 => encodeArith ⟨0b010000#32, opmvx⟩ vd.encoding 0#32 rs1.encoding .unmasked
  | .firstToFloat rd vs2 =>
    encodeArith ⟨0b010000#32, opfvv⟩ rd.encoding vs2.encoding 0#32 .unmasked
  | .firstOfFloat vd rs1 =>
    encodeArith ⟨0b010000#32, opfvf⟩ vd.encoding 0#32 rs1.encoding .unmasked
  | .mergeV vd vs2 vs1 =>
    encodeArith ⟨0b010111#32, opivv⟩ vd.encoding vs2.encoding vs1.encoding .masked
  | .mergeX vd vs2 rs1 =>
    encodeArith ⟨0b010111#32, opivx⟩ vd.encoding vs2.encoding rs1.encoding .masked
  | .mergeI vd vs2 imm => do
    encodeArith ⟨0b010111#32, opivi⟩ vd.encoding vs2.encoding (← signedImmediate imm) .masked
  | .moveGroup count vd vs2 => do
    checkGroup vd count.number
    checkGroup vs2 count.number
    encodeArith ⟨0b100111#32, opivi⟩ vd.encoding vs2.encoding (BitVec.ofNat 32 (count.number - 1))
      .unmasked
  | .unitStride op fields eew vd rs1 vm => do
    checkSegment vd fields
    VectorFormat.memory op.direction.opcode eew.memWidth vd.encoding rs1.encoding op.selector vm
      AddressingMode.unitStride fields
  | .strided dir fields eew vd rs1 rs2 vm => do
    checkSegment vd fields
    VectorFormat.memory dir.opcode eew.memWidth vd.encoding rs1.encoding rs2.encoding vm
      AddressingMode.strided fields
  | .indexed dir ordered fields eew vd rs1 vs2 vm => do
    checkSegment vd fields
    VectorFormat.memory dir.opcode eew.memWidth vd.encoding rs1.encoding vs2.encoding vm
      (if ordered then AddressingMode.indexedOrdered else AddressingMode.indexedUnordered) fields
  | .loadGroup count eew vd rs1 => encodeGroup .load eew vd rs1 count.number
  | .storeGroup count vs3 rs1 => encodeGroup .store .e8 vs3 rs1 count.toNat
  | .maskAccess dir vd rs1 =>
    VectorFormat.memory dir.opcode Sew.e8.memWidth vd.encoding rs1.encoding 0b01011#32 .unmasked
      AddressingMode.unitStride .one

end VectorInstr

end RiscvAssembler
