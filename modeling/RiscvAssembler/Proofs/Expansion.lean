import RiscvAssembler.Code
import RiscvAssembler.Assembler.Call
import RiscvAssembler.Proofs.CompactDecoding
import RiscvAssembler.Proofs.Decoding

/-!
# Compact forms as canonical instructions

Each compact form stands for one canonical instruction, its expansion. Two instructions are the same
operation when they agree up to the order of commutative sources, up to the two spellings of a move,
and up to displacements that are related in a given way.
-/

namespace RiscvAssembler

def CompactArithOp.expansion : CompactArithOp → RegOp
  | sub => .sub
  | xor => .xor
  | or => .or
  | and => .and
  | subw => .subw
  | addw => .addw

namespace CompactForm

/-- The canonical instruction that the form stands for. -/
def expansion : CompactForm → Instr
  | .addi rd imm => .addi rd rd imm
  | .addiw rd imm => .addiw rd rd imm
  | .li rd imm => .addi rd .zero imm
  | .addi16sp imm => .addi .sp .sp imm
  | .addi4spn rd uimm => .addi rd .sp uimm
  | .slli rd shamt => .integer (.shift .slli rd rd shamt)
  | .srli rd shamt => .integer (.shift .srli rd rd shamt)
  | .srai rd shamt => .integer (.shift .srai rd rd shamt)
  | .andi rd imm => .integer (.imm .andi rd rd imm)
  | .arith op rd rs2 => .integer (.reg op.expansion rd rd rs2)
  | .mv rd rs2 => .integer (.reg .add rd .zero rs2)
  | .add rd rs2 => .integer (.reg .add rd rd rs2)
  | .lui rd imm => .lui rd imm
  | .jr rs1 => .integer (.jalr .zero rs1 0#32)
  | .jalr rs1 => .integer (.jalr .ra rs1 0#32)
  | .j offset => .integer (.jal .zero offset)
  | .beqz rs1 offset => .integer (.branch .eq rs1 .zero offset)
  | .bnez rs1 offset => .integer (.branch .ne rs1 .zero offset)
  | .ebreak => .integer .ebreak
  | .ld rd rs1 uimm => .integer (.load .ld rd rs1 uimm)
  | .sd rs2 rs1 uimm => .integer (.store .sd rs2 rs1 uimm)
  | .lw rd rs1 uimm => .integer (.load .lw rd rs1 uimm)
  | .sw rs2 rs1 uimm => .integer (.store .sw rs2 rs1 uimm)
  | .fld rd rs1 uimm => .float (.load .double rd rs1 uimm)
  | .fsd rs2 rs1 uimm => .float (.store .double rs2 rs1 uimm)
  | .ldsp rd uimm => .integer (.load .ld rd .sp uimm)
  | .sdsp rs2 uimm => .integer (.store .sd rs2 .sp uimm)
  | .lwsp rd uimm => .integer (.load .lw rd .sp uimm)
  | .swsp rs2 uimm => .integer (.store .sw rs2 .sp uimm)
  | .fldsp rd uimm => .float (.load .double rd .sp uimm)
  | .fsdsp rs2 uimm => .float (.store .double rs2 .sp uimm)

end CompactForm

/-- The instruction that a halfword stands for: the no-operation or the expansion of a form. -/
def Instr.ofHalf? (h : BitVec 16) : Option Instr :=
  if h = CompactForm.nopWord then some (.addi .zero .zero 0#32)
  else (CompactForm.decode? h).map CompactForm.expansion

theorem Instr.ofHalf?_of_encode_eq_ok {form : CompactForm} {h : BitVec 16}
    (hform : form.encode = .ok h) : ofHalf? h = some form.expansion := by
  have hdecode := CompactForm.decode?_of_encode_eq_ok hform
  have hnop : CompactForm.decode? CompactForm.nopWord = none := by decide
  rw [ofHalf?, if_neg, hdecode, Option.map_some]
  rintro rfl
  rw [hdecode] at hnop
  cases hnop

/-! ## Same operation -/

def RegOp.isCommutative : RegOp → Bool
  | add | xor | or | and | addw => true
  | _ => false

namespace Instr

/-- The displacement of a branch or jump. -/
def displacement? : Instr → Option (BitVec 32)
  | .integer (.branch _ _ _ d) => some d
  | .integer (.jal _ d) => some d
  | _ => none

/-- The same operation on the same registers and immediates, with displacements related by `r`. -/
inductive SameOperation (r : BitVec 32 → BitVec 32 → Prop) : Instr → Instr → Prop
  | same {i : Instr} (h : i.displacement? = none) : SameOperation r i i
  | swap {op : RegOp} (h : op.isCommutative) (rd rs1 rs2 : Reg) :
    SameOperation r (.integer (.reg op rd rs1 rs2)) (.integer (.reg op rd rs2 rs1))
  /-- A move is the addition of `x0` or of the immediate zero. -/
  | move (rd rs : Reg) :
    SameOperation r (.integer (.reg .add rd .zero rs)) (.addi rd rs 0#32)
  | branch (cond : Condition) (rs1 rs2 : Reg) {d e : BitVec 32} (h : r d e) :
    SameOperation r (.integer (.branch cond rs1 rs2 d)) (.integer (.branch cond rs1 rs2 e))
  | jal (rd : Reg) {d e : BitVec 32} (h : r d e) :
    SameOperation r (.integer (.jal rd d)) (.integer (.jal rd e))

end Instr

end RiscvAssembler
