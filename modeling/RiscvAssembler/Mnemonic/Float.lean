import RiscvAssembler.Mnemonic.Basic

/-!
# Floating-point mnemonics

Names that end in `_s` work in single precision and names that end in `_d` in double precision.
-/

namespace RiscvAssembler.Mnemonic

def floatMemory : List Mnemonic :=
  family [.freg, .reg, .imm]
    (fun (fmt, mayCompress) rd rs1 offset =>
      .instr (.float (.load fmt rd rs1 offset)) mayCompress) [
    ("fld", (.double, true)), ("fld_nc", (.double, false)), ("flw", (.single, true))] ++
  family [.freg, .reg, .imm]
    (fun (fmt, mayCompress) rs2 rs1 offset =>
      .instr (.float (.store fmt rs2 rs1 offset)) mayCompress) [
    ("fsd", (.double, true)), ("fsd_nc", (.double, false)), ("fsw", (.single, true))]

def floatArithmetic : List Mnemonic :=
  family [.freg, .freg, .freg, .rounding]
    (fun (op, fmt) rd rs1 rs2 rm => .instr (.float (.arith op fmt rd rs1 rs2 rm)) true) [
    ("fadd_s", (.add, .single)), ("fsub_s", (.sub, .single)), ("fmul_s", (.mul, .single)),
    ("fdiv_s", (.div, .single)), ("fadd_d", (.add, .double)), ("fsub_d", (.sub, .double)),
    ("fmul_d", (.mul, .double)), ("fdiv_d", (.div, .double))] ++
  family [.freg, .freg, .freg]
    (fun (op, fmt) rd rs1 rs2 => .instr (.float (.select op fmt rd rs1 rs2)) true) [
    ("fsgnj_s", (.sgnj, .single)), ("fsgnjn_s", (.sgnjn, .single)),
    ("fsgnjx_s", (.sgnjx, .single)), ("fmin_s", (.min, .single)), ("fmax_s", (.max, .single)),
    ("fsgnj_d", (.sgnj, .double)), ("fsgnjn_d", (.sgnjn, .double)),
    ("fsgnjx_d", (.sgnjx, .double)), ("fmin_d", (.min, .double)), ("fmax_d", (.max, .double))] ++
  family [.reg, .freg, .freg]
    (fun (op, fmt) rd rs1 rs2 => .instr (.float (.compare op fmt rd rs1 rs2)) true) [
    ("feq_s", (.eq, .single)), ("flt_s", (.lt, .single)), ("fle_s", (.le, .single)),
    ("feq_d", (.eq, .double)), ("flt_d", (.lt, .double)), ("fle_d", (.le, .double))] ++
  family [.freg, .freg, .rounding]
    (fun fmt rd rs1 rm => .instr (.float (.sqrt fmt rd rs1 rm)) true) [
    ("fsqrt_s", .single), ("fsqrt_d", .double)] ++
  family [.freg, .freg, .freg, .freg, .rounding]
    (fun (op, fmt) rd rs1 rs2 rs3 rm => .instr (.float (.fused op fmt rd rs1 rs2 rs3 rm)) true) [
    ("fmadd_s", (.madd, .single)), ("fmsub_s", (.msub, .single)), ("fnmsub_s", (.nmsub, .single)),
    ("fnmadd_s", (.nmadd, .single)), ("fmadd_d", (.madd, .double)), ("fmsub_d", (.msub, .double)),
    ("fnmsub_d", (.nmsub, .double)), ("fnmadd_d", (.nmadd, .double))]

def floatConversion : List Mnemonic :=
  family [.freg, .freg, .rounding]
    (fun fmt rd rs1 rm => .instr (.float (.convert fmt rd rs1 rm)) true) [
    ("fcvt_s_d", .single), ("fcvt_d_s", .double)] ++
  family [.reg, .freg, .rounding]
    (fun (i, fmt) rd rs1 rm => .instr (.float (.toInt i fmt rd rs1 rm)) true) [
    ("fcvt_w_s", (.w, .single)), ("fcvt_wu_s", (.wu, .single)), ("fcvt_l_s", (.l, .single)),
    ("fcvt_lu_s", (.lu, .single)), ("fcvt_w_d", (.w, .double)), ("fcvt_wu_d", (.wu, .double)),
    ("fcvt_l_d", (.l, .double)), ("fcvt_lu_d", (.lu, .double))] ++
  family [.freg, .reg, .rounding]
    (fun (i, fmt) rd rs1 rm => .instr (.float (.ofInt i fmt rd rs1 rm)) true) [
    ("fcvt_s_w", (.w, .single)), ("fcvt_s_wu", (.wu, .single)), ("fcvt_s_l", (.l, .single)),
    ("fcvt_s_lu", (.lu, .single)), ("fcvt_d_w", (.w, .double)), ("fcvt_d_wu", (.wu, .double)),
    ("fcvt_d_l", (.l, .double)), ("fcvt_d_lu", (.lu, .double))] ++
  family [.reg, .freg] (fun fmt rd rs1 => .instr (.float (.moveToInt fmt rd rs1)) true) [
    ("fmv_x_w", .single), ("fmv_x_d", .double)] ++
  family [.reg, .freg] (fun fmt rd rs1 => .instr (.float (.classify fmt rd rs1)) true) [
    ("fclass_s", .single), ("fclass_d", .double)] ++
  family [.freg, .reg] (fun fmt rd rs1 => .instr (.float (.moveFromInt fmt rd rs1)) true) [
    ("fmv_w_x", .single), ("fmv_d_x", .double)]

def floatPseudo : List Mnemonic :=
  group [.freg, .freg] [
    ("fmv_s", Call.fmv .single), ("fmv_d", Call.fmv .double), ("fneg_s", Call.fneg .single),
    ("fneg_d", Call.fneg .double), ("fabs_s", Call.fabs .single), ("fabs_d", Call.fabs .double)]

def float : List Mnemonic :=
  floatMemory ++ floatArithmetic ++ floatConversion ++ floatPseudo

end RiscvAssembler.Mnemonic
