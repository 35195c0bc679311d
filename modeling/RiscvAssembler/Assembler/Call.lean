import RiscvAssembler.Compact.Selection
import RiscvAssembler.Resolution

/-!
# Calls on the assembler

What one request asks the assembler to emit: raw code, an instruction that may be compressed, an
explicit compact form, an instruction that goes to a target, or one of the two pseudo-instructions
whose expansion depends on the state or on the operand. All other pseudo-instructions are another
spelling of an instruction.
-/

namespace RiscvAssembler

/-- Where a branch or jump goes: a fixed displacement or a label. -/
inductive Target
  | displacement (d : BitVec 32)
  | label (id : Nat)
  deriving DecidableEq

/-- A branch or jump that still lacks its displacement. -/
inductive Site
  | branch (cond : Condition) (rs1 rs2 : Reg) (mayCompress : Bool)
  | jump (rd : Reg) (mayCompress : Bool)
  | compactBeqz (rs1 : Reg)
  | compactBnez (rs1 : Reg)
  | compactJump
  deriving DecidableEq

/-- The code of an instruction: its compact form when it is to be compressed and has one. -/
def Instr.code (i : Instr) (compress : Bool) : Except Fault Code := do
  match if compress then i.compact? else none with
  | some form => return .half (← form.encode)
  | none => return .word (← i.encode)

def CompactForm.code (form : CompactForm) : Except Fault Code := do
  return .half (← form.encode)

namespace Site

/-- How a reference from the site is resolved later. -/
def kind : Site → ReferenceKind
  | branch .. => .branch
  | jump .. => .jal
  | compactBeqz _ | compactBnez _ => .cBranch
  | compactJump => .cJump

/-- The code of the site with its displacement, where compression is active or not. -/
def code (s : Site) (active : Bool) (d : BitVec 32) : Except Fault Code :=
  match s with
  | branch cond rs1 rs2 mayCompress =>
    (Instr.integer (.branch cond rs1 rs2 d)).code (active && mayCompress)
  | jump rd mayCompress => (Instr.integer (.jal rd d)).code (active && mayCompress)
  | compactBeqz rs1 => (CompactForm.beqz rs1 d).code
  | compactBnez rs1 => (CompactForm.bnez rs1 d).code
  | compactJump => (CompactForm.j d).code

end Site

inductive Call
  /-- Code as it is. -/
  | raw (c : Code)
  | instr (i : Instr) (mayCompress : Bool)
  | compact (form : CompactForm)
  | transfer (s : Site) (target : Target)
  | compactNop
  | nop
  /-- Load of a constant. -/
  | li (rd : Reg) (imm : BitVec 32)
  deriving DecidableEq

namespace Instr

def addi (rd rs1 : Reg) (imm : BitVec 32) : Instr :=
  .integer (.imm .addi rd rs1 imm)

def addiw (rd rs1 : Reg) (imm : BitVec 32) : Instr :=
  .integer (.imm .addiw rd rs1 imm)

def lui (rd : Reg) (imm : BitVec 32) : Instr :=
  .integer (.upper .lui rd imm)

/-- The low twelve bits of a constant, as a signed number. -/
def lowerPart (imm : BitVec 32) : BitVec 32 :=
  (imm.extractLsb' 0 12).signExtend 32

/-- What is left of a constant without its lower part. -/
def upperPart (imm : BitVec 32) : BitVec 32 :=
  imm - lowerPart imm

/-- The instructions that load a 32-bit constant, sign-extended. -/
def loadConstant (rd : Reg) (imm : BitVec 32) : List Instr :=
  if upperPart imm = 0#32 then
    [addi rd .zero (lowerPart imm)]
  else if lowerPart imm = 0#32 then
    [lui rd (upperPart imm)]
  else
    [lui rd (upperPart imm), addiw rd rd (lowerPart imm)]

/-- The code that does nothing. -/
def nopCode (active : Bool) : Except Fault Code :=
  if active then .ok (.half CompactForm.nopWord) else (addi .zero .zero 0#32).code false

end Instr

/-! ## Pseudo-instructions -/

namespace Call

def mv (rd rs : Reg) : Call :=
  .instr (.addi rd rs 0#32) true

def not (rd rs : Reg) : Call :=
  .instr (.integer (.imm .xori rd rs (-1#32))) true

def neg (rd rs : Reg) : Call :=
  .instr (.integer (.reg .sub rd .zero rs)) true

def negw (rd rs : Reg) : Call :=
  .instr (.integer (.reg .subw rd .zero rs)) true

def sextW (rd rs : Reg) : Call :=
  .instr (.addiw rd rs 0#32) true

def zextW (rd rs : Reg) : Call :=
  .instr (.integer (.reg .addUw rd rs .zero)) true

def jalr (rd rs1 : Reg) (offset : BitVec 32) : Call :=
  .instr (.integer (.jalr rd rs1 offset)) true

def jr (rs : Reg) : Call :=
  jalr .zero rs 0#32

def ret : Call :=
  jalr .zero .ra 0#32

/-- A branch that is compressed when it can be. -/
def branch (cond : Condition) (rs1 rs2 : Reg) (t : Target) : Call :=
  .transfer (.branch cond rs1 rs2 true) t

def jal (rd : Reg) (t : Target) : Call :=
  .transfer (.jump rd true) t

def j (t : Target) : Call :=
  jal .zero t

def beqz (rs : Reg) (t : Target) : Call :=
  branch .eq rs .zero t

def bnez (rs : Reg) (t : Target) : Call :=
  branch .ne rs .zero t

def blez (rs : Reg) (t : Target) : Call :=
  branch .ge .zero rs t

def bgez (rs : Reg) (t : Target) : Call :=
  branch .ge rs .zero t

def bltz (rs : Reg) (t : Target) : Call :=
  branch .lt rs .zero t

def bgtz (rs : Reg) (t : Target) : Call :=
  branch .lt .zero rs t

def bgt (rs rt : Reg) (t : Target) : Call :=
  branch .lt rt rs t

def ble (rs rt : Reg) (t : Target) : Call :=
  branch .ge rt rs t

def bgtu (rs rt : Reg) (t : Target) : Call :=
  branch .ltu rt rs t

def bleu (rs rt : Reg) (t : Target) : Call :=
  branch .geu rt rs t

def csr (op : CsrOp) (rd : Reg) (address : BitVec 32) (rs1 : Reg) : Call :=
  .instr (.integer (.csr op rd address rs1)) true

def csrImm (op : CsrOp) (rd : Reg) (address uimm : BitVec 32) : Call :=
  .instr (.integer (.csrImm op rd address uimm)) true

def csrr (rd : Reg) (address : BitVec 32) : Call :=
  csr .set rd address .zero

def csrw (address : BitVec 32) (rs : Reg) : Call :=
  csr .write .zero address rs

def csrwi (address uimm : BitVec 32) : Call :=
  csrImm .write .zero address uimm

def fmv (fmt : FloatFormat) (rd rs : FReg) : Call :=
  .instr (.float (.select .sgnj fmt rd rs rs)) true

def fneg (fmt : FloatFormat) (rd rs : FReg) : Call :=
  .instr (.float (.select .sgnjn fmt rd rs rs)) true

def fabs (fmt : FloatFormat) (rd rs : FReg) : Call :=
  .instr (.float (.select .sgnjx fmt rd rs rs)) true

end Call

end RiscvAssembler
