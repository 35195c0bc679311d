import RiscvAssembler.Proofs.InstructionTable

/-!
# Spellings

An instruction is written with the name and the operands of its row, or as an access to several
fields. The other spellings of the assembler stand for one that is written so.
-/

namespace RiscvAssembler

/-- A mnemonic with its operands. -/
structure Written where
  name : String
  operands : List Operand

/-! ## Written form of an instruction -/

def Sew.bits : Sew → String
  | e8 => "8"
  | e16 => "16"
  | e32 => "32"
  | e64 => "64"

/-- The names of a memory access: to several fields, and around the element width to one. -/
structure AccessName where
  segment : String
  before : String
  after : String

def AccessName.plain (n : AccessName) (eew : Sew) : String :=
  n.before ++ eew.bits ++ n.after

def UnitOp.accessName : UnitOp → AccessName
  | load => ⟨"vlseg", "vle", "_v"⟩
  | loadFaultFirst => ⟨"vlsegff", "vle", "ff_v"⟩
  | store => ⟨"vsseg", "vse", "_v"⟩

def Direction.stridedName : Direction → AccessName
  | load => ⟨"vlsseg", "vlse", "_v"⟩
  | store => ⟨"vssseg", "vsse", "_v"⟩

def Direction.indexedName (ordered : Bool) : Direction → AccessName
  | load => if ordered then ⟨"vloxseg", "vloxei", "_v"⟩ else ⟨"vluxseg", "vluxei", "_v"⟩
  | store => if ordered then ⟨"vsoxseg", "vsoxei", "_v"⟩ else ⟨"vsuxseg", "vsuxei", "_v"⟩

/-- The segment that the instruction accesses: its names, the fields and the element width. -/
def Instr.segment? : Instr → Option (AccessName × FieldCount × Sew)
  | vector (.unitStride op fields eew _ _ _) => some (op.accessName, fields, eew)
  | vector (.strided dir fields eew _ _ _ _) => some (dir.stridedName, fields, eew)
  | vector (.indexed dir ordered fields eew _ _ _ _) => some (dir.indexedName ordered, fields, eew)
  | _ => none

/-- The instruction under the name of its row, or as an access to several fields. -/
def Instr.written (name : String) (i : Instr) : Written :=
  match i.segment? with
  | some (access, fields, eew) =>
    if fields = .one then ⟨name, i.operands⟩
    else ⟨access.segment, ⟨.fieldCount, fields⟩ :: ⟨.sew, eew⟩ :: i.operands⟩
  | none => ⟨name, i.operands⟩

def Written.ofWord? (w : BitVec 32) : Option Written :=
  (Row.ofWord? w).map fun r => (r.instr.reread w).written r.name

theorem Written.ofWord?_of_encode {name : String} {i : Instr} {w : BitVec 32}
    (hrow : ⟨name, i.reread 0#32⟩ ∈ rows) (h : i.encode = .ok w) :
    ofWord? w = some (i.written name) := by
  rw [ofWord?, Row.ofWord?_of_encode hrow h, Option.map_some, Instr.reread_reread,
    Instr.reread_of_encode h]

/-! ## Other spellings -/

def Condition.branchName : Condition → String
  | eq => "beq"
  | ne => "bne"
  | lt => "blt"
  | ge => "bge"
  | ltu => "bltu"
  | geu => "bgeu"

section

local instance : Coe Reg Operand := ⟨fun r => ⟨.reg, r⟩⟩
local instance : Coe FReg Operand := ⟨fun r => ⟨.freg, r⟩⟩
local instance : Coe Target Operand := ⟨fun t => ⟨.target, t⟩⟩

open Reg

/-- The first spelling is by construction another one of the second. -/
inductive Written.IsAlias : Written → Written → Prop
  | neverCompressed (name : String) (operands : List Operand) :
    IsAlias ⟨name ++ "_nc", operands⟩ ⟨name, operands⟩
  | nop : IsAlias ⟨"nop", []⟩ ⟨"addi", [zero, zero, ⟨.imm, 0#32⟩]⟩
  | ret : IsAlias ⟨"ret", []⟩ ⟨"jalr", [zero, ra, ⟨.imm, 0#32⟩]⟩
  | mv (rd rs : Reg) : IsAlias ⟨"mv", [rd, rs]⟩ ⟨"addi", [rd, rs, ⟨.imm, 0#32⟩]⟩
  | not (rd rs : Reg) : IsAlias ⟨"not", [rd, rs]⟩ ⟨"xori", [rd, rs, ⟨.imm, -1#32⟩]⟩
  | neg (rd rs : Reg) : IsAlias ⟨"neg", [rd, rs]⟩ ⟨"sub", [rd, zero, rs]⟩
  | negw (rd rs : Reg) : IsAlias ⟨"negw", [rd, rs]⟩ ⟨"subw", [rd, zero, rs]⟩
  | sextW (rd rs : Reg) : IsAlias ⟨"sext_w", [rd, rs]⟩ ⟨"addiw", [rd, rs, ⟨.imm, 0#32⟩]⟩
  | zextW (rd rs : Reg) : IsAlias ⟨"zext_w", [rd, rs]⟩ ⟨"add_uw", [rd, rs, zero]⟩
  | li_addi (rd : Reg) (imm : BitVec 32)
    (h : Instr.loadConstant rd imm = [.addi rd zero imm]) :
    IsAlias ⟨"li", [rd, ⟨.imm, imm⟩]⟩ ⟨"addi", [rd, zero, ⟨.imm, imm⟩]⟩
  | li_lui (rd : Reg) (imm : BitVec 32) (h : Instr.loadConstant rd imm = [.lui rd imm]) :
    IsAlias ⟨"li", [rd, ⟨.imm, imm⟩]⟩ ⟨"lui", [rd, ⟨.imm, imm⟩]⟩
  | jr (rs : Reg) : IsAlias ⟨"jr", [rs]⟩ ⟨"jalr", [zero, rs, ⟨.imm, 0#32⟩]⟩
  | j (t : Target) : IsAlias ⟨"j", [t]⟩ ⟨"jal", [zero, t]⟩
  | beqz (rs : Reg) (t : Target) : IsAlias ⟨"beqz", [rs, t]⟩ ⟨"beq", [rs, zero, t]⟩
  | bnez (rs : Reg) (t : Target) : IsAlias ⟨"bnez", [rs, t]⟩ ⟨"bne", [rs, zero, t]⟩
  | blez (rs : Reg) (t : Target) : IsAlias ⟨"blez", [rs, t]⟩ ⟨"bge", [zero, rs, t]⟩
  | bgez (rs : Reg) (t : Target) : IsAlias ⟨"bgez", [rs, t]⟩ ⟨"bge", [rs, zero, t]⟩
  | bltz (rs : Reg) (t : Target) : IsAlias ⟨"bltz", [rs, t]⟩ ⟨"blt", [rs, zero, t]⟩
  | bgtz (rs : Reg) (t : Target) : IsAlias ⟨"bgtz", [rs, t]⟩ ⟨"blt", [zero, rs, t]⟩
  | bgt (rs rt : Reg) (t : Target) : IsAlias ⟨"bgt", [rs, rt, t]⟩ ⟨"blt", [rt, rs, t]⟩
  | ble (rs rt : Reg) (t : Target) : IsAlias ⟨"ble", [rs, rt, t]⟩ ⟨"bge", [rt, rs, t]⟩
  | bgtu (rs rt : Reg) (t : Target) : IsAlias ⟨"bgtu", [rs, rt, t]⟩ ⟨"bltu", [rt, rs, t]⟩
  | bleu (rs rt : Reg) (t : Target) : IsAlias ⟨"bleu", [rs, rt, t]⟩ ⟨"bgeu", [rt, rs, t]⟩
  | branch (cond : Condition) (rs1 rs2 : Reg) (t : Target) (mayCompress : Bool) :
    IsAlias ⟨"branch", [⟨.condition, cond⟩, rs1, rs2, t, ⟨.flag, mayCompress⟩]⟩
      ⟨cond.branchName, [rs1, rs2, t]⟩
  | csrr (rd : Reg) (address : BitVec 32) :
    IsAlias ⟨"csrr", [rd, ⟨.uimm, address⟩]⟩ ⟨"csrrs", [rd, ⟨.uimm, address⟩, zero]⟩
  | csrw (address : BitVec 32) (rs : Reg) :
    IsAlias ⟨"csrw", [⟨.uimm, address⟩, rs]⟩ ⟨"csrrw", [zero, ⟨.uimm, address⟩, rs]⟩
  | csrwi (address uimm : BitVec 32) :
    IsAlias ⟨"csrwi", [⟨.uimm, address⟩, ⟨.uimm, uimm⟩]⟩
      ⟨"csrrwi", [zero, ⟨.uimm, address⟩, ⟨.uimm, uimm⟩]⟩
  /-- Moves, negations and absolute values of floating-point registers. -/
  | signInjection {name base : String}
    (h : (name, base) ∈ [("fmv_s", "fsgnj_s"), ("fmv_d", "fsgnj_d"), ("fneg_s", "fsgnjn_s"),
      ("fneg_d", "fsgnjn_d"), ("fabs_s", "fsgnjx_s"), ("fabs_d", "fsgnjx_d")]) (rd rs : FReg) :
    IsAlias ⟨name, [rd, rs]⟩ ⟨base, [rd, rs, rs]⟩
  /-- A segment access to one field. -/
  | segment {i : Instr} {access : AccessName} {eew : Sew}
    (h : i.segment? = some (access, .one, eew)) :
    IsAlias ⟨access.segment, ⟨.fieldCount, .one⟩ :: ⟨.sew, eew⟩ :: i.operands⟩
      ⟨access.plain eew, i.operands⟩
  /-- A store of a whole group of registers with the count in its name. -/
  | storeGroup {name : String} {count : BitVec 32}
    (h : (name, count) ∈ [("vs1r_v", 1#32), ("vs2r_v", 2#32), ("vs4r_v", 4#32), ("vs8r_v", 8#32)])
    (operands : List Operand) :
    IsAlias ⟨name, operands⟩ ⟨"vsr_v", ⟨.uimm, count⟩ :: operands⟩

end

/-- The first spelling is the second or another one of it. -/
def Written.Spells (x g : Written) : Prop :=
  x = g ∨ x.IsAlias g

end RiscvAssembler
