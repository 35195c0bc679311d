import RiscvAssembler.Integer.Operation
import RiscvAssembler.Register

/-!
# Integer instructions

The instructions of the integer, multiply, bit manipulation, atomic and system groups with their
operands, and their 32-bit words.
-/

namespace RiscvAssembler

inductive IntegerInstr
  | reg (op : RegOp) (rd rs1 rs2 : Reg)
  | imm (op : ImmOp) (rd rs1 : Reg) (value : BitVec 32)
  | shift (op : ShiftOp) (rd rs1 : Reg) (shamt : BitVec 32)
  | extend (op : ExtendOp) (rd rs1 : Reg)
  | upper (op : UpperOp) (rd : Reg) (value : BitVec 32)
  | load (op : LoadOp) (rd rs1 : Reg) (offset : BitVec 32)
  | store (op : StoreOp) (rs2 rs1 : Reg) (offset : BitVec 32)
  | branch (cond : Condition) (rs1 rs2 : Reg) (offset : BitVec 32)
  | jal (rd : Reg) (offset : BitVec 32)
  | jalr (rd rs1 : Reg) (offset : BitVec 32)
  | ecall
  | ebreak
  | fence (pred succ : BitVec 32)
  | fenceI
  | csr (op : CsrOp) (rd : Reg) (address : BitVec 32) (rs1 : Reg)
  | csrImm (op : CsrOp) (rd : Reg) (address uimm : BitVec 32)
  | loadReserved (size : AmoSize) (rd rs1 : Reg) (order : MemoryOrder)
  | amo (op : AmoOp) (size : AmoSize) (rd rs1 rs2 : Reg) (order : MemoryOrder)
  deriving DecidableEq

namespace IntegerInstr

def encode : IntegerInstr → Except Fault (BitVec 32)
  | .reg op rd rs1 rs2 => op.row.encode rd.encoding rs1.encoding rs2.encoding
  | .imm op rd rs1 value => op.row.encode rd.encoding rs1.encoding value
  | .shift op rd rs1 shamt => op.row.encode rd.encoding rs1.encoding shamt
  | .extend op rd rs1 => op.row.encode rd.encoding rs1.encoding
  | .upper op rd value => op.row.encode rd.encoding value
  | .load op rd rs1 offset => op.row.encode rd.encoding rs1.encoding offset
  | .store op rs2 rs1 offset => op.row.encode rs2.encoding rs1.encoding offset
  | .branch cond rs1 rs2 offset => cond.row.encode rs1.encoding rs2.encoding offset
  | .jal rd offset => JType.encode rd.encoding offset
  | .jalr rd rs1 offset => IType.encode ⟨Opcode.jalr, 0b000#32⟩ rd.encoding rs1.encoding offset
  | .ecall => .ok 0x00000073#32
  | .ebreak => .ok 0x00100073#32
  | .fence pred succ => Fence.encode pred succ
  | .fenceI => .ok 0x0000100F#32
  | .csr op rd address rs1 => op.row.encode rd.encoding address rs1.encoding
  | .csrImm op rd address uimm => do
    require (CsrType.fitsImmediate uimm) (.outOfRange .csrImmediate uimm.toNat)
    op.immediateRow.encode rd.encoding address uimm
  | .loadReserved size rd rs1 order => size.loadReserved.encode rd.encoding rs1.encoding 0#32 order
  | .amo op size rd rs1 rs2 order =>
    (op.row size).encode rd.encoding rs1.encoding rs2.encoding order

end IntegerInstr

end RiscvAssembler
