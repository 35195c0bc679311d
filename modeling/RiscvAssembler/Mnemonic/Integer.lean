import RiscvAssembler.Mnemonic.Basic

/-!
# Integer mnemonics

Names that end in `_nc` never compress.
-/

namespace RiscvAssembler.Mnemonic

def arithmetic : List Mnemonic :=
  family [.reg, .reg, .reg]
    (fun (op, mayCompress) rd rs1 rs2 => .instr (.integer (.reg op rd rs1 rs2)) mayCompress) [
    ("add", (.add, true)), ("sub", (.sub, true)), ("xor", (.xor, true)), ("or", (.or, true)),
    ("and", (.and, true)), ("addw", (.addw, true)), ("subw", (.subw, true)),
    ("add_nc", (.add, false)), ("sub_nc", (.sub, false)), ("xor_nc", (.xor, false)),
    ("or_nc", (.or, false)), ("and_nc", (.and, false)), ("addw_nc", (.addw, false)),
    ("subw_nc", (.subw, false)), ("sll", (.sll, true)), ("slt", (.slt, true)),
    ("sltu", (.sltu, true)), ("srl", (.srl, true)), ("sra", (.sra, true)),
    ("sllw", (.sllw, true)), ("srlw", (.srlw, true)), ("sraw", (.sraw, true)),
    ("mul", (.mul, true)), ("mulh", (.mulh, true)), ("mulhsu", (.mulhsu, true)),
    ("mulhu", (.mulhu, true)), ("div", (.div, true)), ("divu", (.divu, true)),
    ("rem", (.rem, true)), ("remu", (.remu, true)), ("mulw", (.mulw, true)),
    ("divw", (.divw, true)), ("divuw", (.divuw, true)), ("remw", (.remw, true)),
    ("remuw", (.remuw, true)), ("add_uw", (.addUw, true)), ("rol", (.rol, true)),
    ("rolw", (.rolw, true)), ("ror", (.ror, true)), ("rorw", (.rorw, true))] ++
  family [.reg, .reg, .imm]
    (fun (op, mayCompress) rd rs1 imm => .instr (.integer (.imm op rd rs1 imm)) mayCompress) [
    ("addi", (.addi, true)), ("addiw", (.addiw, true)), ("andi", (.andi, true)),
    ("addi_nc", (.addi, false)), ("addiw_nc", (.addiw, false)), ("andi_nc", (.andi, false)),
    ("slti", (.slti, true)), ("sltiu", (.sltiu, true)), ("xori", (.xori, true)),
    ("ori", (.ori, true))] ++
  family [.reg, .reg, .uimm]
    (fun (op, mayCompress) rd rs1 shamt =>
      .instr (.integer (.shift op rd rs1 shamt)) mayCompress) [
    ("slli", (.slli, true)), ("srli", (.srli, true)), ("srai", (.srai, true)),
    ("slli_nc", (.slli, false)), ("srli_nc", (.srli, false)), ("srai_nc", (.srai, false)),
    ("slliw", (.slliw, true)), ("srliw", (.srliw, true)), ("sraiw", (.sraiw, true)),
    ("rori", (.rori, true)), ("roriw", (.roriw, true))] ++
  family [.reg, .reg] (fun op rd rs1 => .instr (.integer (.extend op rd rs1)) true) [
    ("sext_b", .sextB), ("sext_h", .sextH), ("zext_h", .zextH)] ++
  family [.reg, .imm]
    (fun (op, mayCompress) rd imm => .instr (.integer (.upper op rd imm)) mayCompress) [
    ("lui", (.lui, true)), ("lui_nc", (.lui, false)), ("auipc", (.auipc, true))]

def memory : List Mnemonic :=
  family [.reg, .reg, .imm]
    (fun (op, mayCompress) rd rs1 offset =>
      .instr (.integer (.load op rd rs1 offset)) mayCompress) [
    ("lw", (.lw, true)), ("ld", (.ld, true)), ("lb", (.lb, true)), ("lh", (.lh, true)),
    ("lbu", (.lbu, true)), ("lhu", (.lhu, true)), ("lwu", (.lwu, true)), ("lw_nc", (.lw, false)),
    ("ld_nc", (.ld, false))] ++
  family [.reg, .reg, .imm]
    (fun (op, mayCompress) rs2 rs1 offset =>
      .instr (.integer (.store op rs2 rs1 offset)) mayCompress) [
    ("sw", (.sw, true)), ("sd", (.sd, true)), ("sb", (.sb, true)), ("sh", (.sh, true)),
    ("sw_nc", (.sw, false)), ("sd_nc", (.sd, false))]

def atomic : List Mnemonic :=
  family [.reg, .reg, .order]
    (fun size rd rs1 order => .instr (.integer (.loadReserved size rd rs1 order)) true) [
    ("lr_w", .word), ("lr_d", .doubleword)] ++
  family [.reg, .reg, .reg, .order]
    (fun (op, size) rd rs1 rs2 order => .instr (.integer (.amo op size rd rs1 rs2 order)) true) [
    ("sc_w", (.sc, .word)), ("sc_d", (.sc, .doubleword)), ("amoswap_w", (.swap, .word)),
    ("amoswap_d", (.swap, .doubleword)), ("amoadd_w", (.add, .word)),
    ("amoadd_d", (.add, .doubleword)), ("amoxor_w", (.xor, .word)),
    ("amoxor_d", (.xor, .doubleword)), ("amoand_w", (.and, .word)),
    ("amoand_d", (.and, .doubleword)), ("amoor_w", (.or, .word)), ("amoor_d", (.or, .doubleword)),
    ("amomin_w", (.min, .word)), ("amomin_d", (.min, .doubleword)), ("amomax_w", (.max, .word)),
    ("amomax_d", (.max, .doubleword)), ("amominu_w", (.minu, .word)),
    ("amominu_d", (.minu, .doubleword)), ("amomaxu_w", (.maxu, .word)),
    ("amomaxu_d", (.maxu, .doubleword))]

def control : List Mnemonic :=
  group [.condition, .reg, .reg, .target, .flag] [
    ("branch", fun cond rs1 rs2 t mayCompress =>
      .transfer (.branch cond rs1 rs2 mayCompress) t)] ++
  family [.reg, .reg, .target]
    (fun (cond, mayCompress) rs1 rs2 t => .transfer (.branch cond rs1 rs2 mayCompress) t) [
    ("beq", (.eq, true)), ("beq_nc", (.eq, false)), ("bne", (.ne, true)),
    ("bne_nc", (.ne, false)), ("blt", (.lt, true)), ("bge", (.ge, true)), ("bltu", (.ltu, true)),
    ("bgeu", (.geu, true))] ++
  family [.reg, .target] (fun mayCompress rd t => .transfer (.jump rd mayCompress) t) [
    ("jal", true), ("jal_nc", false)] ++
  family [.reg, .reg, .imm]
    (fun mayCompress rd rs1 offset => .instr (.integer (.jalr rd rs1 offset)) mayCompress) [
    ("jalr", true), ("jalr_nc", false)]

def system : List Mnemonic :=
  group [] [
    ("ecall", .instr (.integer .ecall) true), ("ebreak", .instr (.integer .ebreak) true),
    ("ebreak_nc", .instr (.integer .ebreak) false), ("fence_i", .instr (.integer .fenceI) true)] ++
  group [.uimm, .uimm] [
    ("fence", fun pred succ => .instr (.integer (.fence pred succ)) true)] ++
  family [.reg, .uimm, .reg] Call.csr [
    ("csrrw", .write), ("csrrs", .set), ("csrrc", .clear)] ++
  family [.reg, .uimm, .uimm] Call.csrImm [
    ("csrrwi", .write), ("csrrsi", .set), ("csrrci", .clear)]

/-- Other spellings of instructions, and the calls whose expansion is not fixed. -/
def pseudo : List Mnemonic :=
  group [] [
    ("nop", .nop), ("ret", Call.ret)] ++
  group [.reg, .reg] [
    ("mv", Call.mv), ("not", Call.not), ("neg", Call.neg), ("negw", Call.negw),
    ("sext_w", Call.sextW), ("zext_w", Call.zextW)] ++
  group [.reg, .imm] [
    ("li", .li)] ++
  group [.reg] [
    ("jr", Call.jr)] ++
  group [.target] [
    ("j", Call.j)] ++
  group [.reg, .target] [
    ("beqz", Call.beqz), ("bnez", Call.bnez), ("blez", Call.blez), ("bgez", Call.bgez),
    ("bltz", Call.bltz), ("bgtz", Call.bgtz)] ++
  group [.reg, .reg, .target] [
    ("bgt", Call.bgt), ("ble", Call.ble), ("bgtu", Call.bgtu), ("bleu", Call.bleu)] ++
  group [.reg, .uimm] [
    ("csrr", Call.csrr)] ++
  group [.uimm, .reg] [
    ("csrw", Call.csrw)] ++
  group [.uimm, .uimm] [
    ("csrwi", Call.csrwi)]

def rawCode : List Mnemonic :=
  group [.uimm] [
    ("emit", fun w => .raw (.word w))] ++
  group [.half] [
    ("emit_c", fun w => .raw (.half w))]

def integer : List Mnemonic :=
  arithmetic ++ memory ++ atomic ++ control ++ system ++ pseudo ++ rawCode

end RiscvAssembler.Mnemonic
