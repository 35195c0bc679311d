import RiscvAssembler.Compact.Form
import RiscvAssembler.Instruction

/-!
# Choosing a compact form

The compact form that stands for a canonical instruction with given operands, if there is one. A
branch or jump of displacement zero has none: zero is what an unresolved label reference carries,
and its final displacement is not known.
-/

namespace RiscvAssembler

open Immediate

namespace Compression

def both (a b : Reg) : Bool :=
  a.isCompact && b.isCompact

/-- The source other than `rd`, when one of the two sources is `rd`. -/
def otherSource (rd rs1 rs2 : Reg) : Option Reg :=
  if rs1 = rd then some rs2 else if rs2 = rd then some rs1 else none

/-- The form `f` when `p` holds. -/
def onlyIf (p : Bool) (f : CompactForm) : Option CompactForm :=
  if p then some f else none

/-- Operations whose first source has to be the destination. -/
def ordered (op : CompactArithOp) (rd rs1 rs2 : Reg) : Option CompactForm :=
  onlyIf (rs1 = rd && both rd rs2) (.arith op rd rs2)

/-- Operations of which either source may be the destination. -/
def commutative (op : CompactArithOp) (rd rs1 rs2 : Reg) : Option CompactForm :=
  if both rs1 rs2 then (otherSource rd rs1 rs2).map (.arith op rd) else none

def reg (op : RegOp) (rd rs1 rs2 : Reg) : Option CompactForm :=
  match op with
  | .add => if rs1 = .zero ∨ rs2 = .zero then none else (otherSource rd rs1 rs2).map (.add rd)
  | .sub => ordered .sub rd rs1 rs2
  | .subw => ordered .subw rd rs1 rs2
  | .xor => commutative .xor rd rs1 rs2
  | .or => commutative .or rd rs1 rs2
  | .and => commutative .and rd rs1 rs2
  | .addw => commutative .addw rd rs1 rs2
  | _ => none

/-- Signed immediates of compact instructions have six bits. -/
def fitsSix (imm : BitVec 32) : Bool :=
  fitsSigned (imm.signExtend 64) 6 0

/-- Addition of an immediate, the first that applies of: in place, move, adjustment of the stack
pointer, address on the stack, load of a constant. A zero in place is a move. -/
def addi (rd rs1 : Reg) (imm : BitVec 32) : Option CompactForm :=
  if rd = rs1 ∧ rd ≠ .zero ∧ imm ≠ 0#32 ∧ fitsSix imm then
    some (.addi rd imm)
  else if imm = 0#32 ∧ rd ≠ .zero ∧ rs1 ≠ .zero then
    some (.mv rd rs1)
  else if rs1 = .sp ∧ rd = .sp ∧ imm ≠ 0#32 ∧ fitsSigned (imm.signExtend 64) 6 4 then
    some (.addi16sp imm)
  else if rs1 = .sp ∧ rd.isCompact ∧ imm ≠ 0#32 ∧ fitsUnsigned (imm.signExtend 64) 8 2 then
    some (.addi4spn rd imm)
  else if rs1 = .zero ∧ rd ≠ .zero ∧ fitsSix imm then
    some (.li rd imm)
  else
    none

def imm (op : ImmOp) (rd rs1 : Reg) (imm : BitVec 32) : Option CompactForm :=
  match op with
  | .addi => addi rd rs1 imm
  | .addiw => onlyIf (rd = rs1 && rd ≠ .zero && fitsSix imm) (.addiw rd imm)
  | .andi => onlyIf (rd = rs1 && rd.isCompact && fitsSix imm) (.andi rd imm)
  | _ => none

def shift (op : ShiftOp) (rd rs1 : Reg) (shamt : BitVec 32) : Option CompactForm :=
  match op with
  | .slli => onlyIf (rd = rs1 && rd ≠ .zero && shamt ≠ 0#32) (.slli rd shamt)
  | .srli => onlyIf (rd = rs1 && rd.isCompact && shamt ≠ 0#32) (.srli rd shamt)
  | .srai => onlyIf (rd = rs1 && rd.isCompact && shamt ≠ 0#32) (.srai rd shamt)
  | _ => none

def upper (op : UpperOp) (rd : Reg) (imm : BitVec 32) : Option CompactForm :=
  match op with
  | .lui =>
    onlyIf (rd ≠ .zero && rd ≠ .sp && imm ≠ 0#32 && fitsSigned (imm.signExtend 64) 18 0)
      (.lui rd imm)
  | .auipc => none

/-- Loads and stores: at the stack pointer when `stack` allows it and the offset fits six bits, else
at a base register when `near` allows it and the offset fits five. -/
def access (alignBits : Nat) (offset : BitVec 32) (stack near : Bool)
    (stackForm nearForm : CompactForm) : Option CompactForm :=
  if stack ∧ fitsUnsigned (offset.signExtend 64) 6 alignBits then
    some stackForm
  else if near ∧ fitsUnsigned (offset.signExtend 64) 5 alignBits then
    some nearForm
  else
    none

def load (op : LoadOp) (rd rs1 : Reg) (offset : BitVec 32) : Option CompactForm :=
  match op with
  | .ld =>
    access 3 offset (rs1 = .sp && rd ≠ .zero) (both rd rs1) (.ldsp rd offset) (.ld rd rs1 offset)
  | .lw =>
    access 2 offset (rs1 = .sp && rd ≠ .zero) (both rd rs1) (.lwsp rd offset) (.lw rd rs1 offset)
  | _ => none

def store (op : StoreOp) (rs2 rs1 : Reg) (offset : BitVec 32) : Option CompactForm :=
  match op with
  | .sd => access 3 offset (rs1 = .sp) (both rs2 rs1) (.sdsp rs2 offset) (.sd rs2 rs1 offset)
  | .sw => access 2 offset (rs1 = .sp) (both rs2 rs1) (.swsp rs2 offset) (.sw rs2 rs1 offset)
  | _ => none

/-- Only comparisons of a register with zero, for equality, have a form. -/
def branch (cond : Condition) (rs1 rs2 : Reg) (offset : BitVec 32) : Option CompactForm :=
  let short :=
    offset ≠ 0#32 && rs2 = .zero && rs1.isCompact && fitsSigned (offset.signExtend 64) 8 1
  match cond with
  | .eq => onlyIf short (.beqz rs1 offset)
  | .ne => onlyIf short (.bnez rs1 offset)
  | _ => none

def jal (rd : Reg) (offset : BitVec 32) : Option CompactForm :=
  onlyIf (offset ≠ 0#32 && rd = .zero && fitsSigned (offset.signExtend 64) 11 1) (.j offset)

def jalr (rd rs1 : Reg) (offset : BitVec 32) : Option CompactForm :=
  if offset ≠ 0#32 ∨ rs1 = .zero then none
  else if rd = .ra then some (.jalr rs1)
  else if rd = .zero then some (.jr rs1)
  else none

end Compression

def IntegerInstr.compact? : IntegerInstr → Option CompactForm
  | .reg op rd rs1 rs2 => Compression.reg op rd rs1 rs2
  | .imm op rd rs1 value => Compression.imm op rd rs1 value
  | .shift op rd rs1 shamt => Compression.shift op rd rs1 shamt
  | .upper op rd value => Compression.upper op rd value
  | .load op rd rs1 offset => Compression.load op rd rs1 offset
  | .store op rs2 rs1 offset => Compression.store op rs2 rs1 offset
  | .branch cond rs1 rs2 offset => Compression.branch cond rs1 rs2 offset
  | .jal rd offset => Compression.jal rd offset
  | .jalr rd rs1 offset => Compression.jalr rd rs1 offset
  | .ebreak => some .ebreak
  | _ => none

def FloatInstr.compact? : FloatInstr → Option CompactForm
  | .load .double rd rs1 offset =>
    Compression.access 3 offset (rs1 = .sp) (rd.isCompact && rs1.isCompact) (.fldsp rd offset)
      (.fld rd rs1 offset)
  | .store .double rs2 rs1 offset =>
    Compression.access 3 offset (rs1 = .sp) (rs2.isCompact && rs1.isCompact) (.fsdsp rs2 offset)
      (.fsd rs2 rs1 offset)
  | _ => none

def Instr.compact? : Instr → Option CompactForm
  | .integer i => i.compact?
  | .float i => i.compact?
  | .vector _ => none

end RiscvAssembler
