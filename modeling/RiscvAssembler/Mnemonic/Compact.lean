import RiscvAssembler.Mnemonic.Basic

/-!
# Compact mnemonics

Explicit 16-bit instructions. They are emitted whether or not compression is active.
-/

namespace RiscvAssembler.Mnemonic

def compactArithmetic : List Mnemonic :=
  group [] [
    ("c_nop", .compactNop), ("c_ebreak", .compact .ebreak)] ++
  group [.reg, .imm] [
    ("c_addi", fun rd imm => .compact (.addi rd imm)),
    ("c_addiw", fun rd imm => .compact (.addiw rd imm)),
    ("c_li", fun rd imm => .compact (.li rd imm)),
    ("c_andi", fun rd imm => .compact (.andi rd imm)),
    ("c_lui", fun rd imm => .compact (.lui rd imm))] ++
  group [.imm] [
    ("c_addi16sp", fun imm => .compact (.addi16sp imm))] ++
  group [.reg, .uimm] [
    ("c_addi4spn", fun rd uimm => .compact (.addi4spn rd uimm)),
    ("c_slli", fun rd uimm => .compact (.slli rd uimm)),
    ("c_srli", fun rd uimm => .compact (.srli rd uimm)),
    ("c_srai", fun rd uimm => .compact (.srai rd uimm))] ++
  family [.reg, .reg] (fun op rd rs2 => .compact (.arith op rd rs2)) [
    ("c_sub", .sub), ("c_xor", .xor), ("c_or", .or), ("c_and", .and), ("c_subw", .subw),
    ("c_addw", .addw)] ++
  group [.reg, .reg] [
    ("c_mv", fun rd rs2 =>
      .compact (.mv rd rs2)), ("c_add", fun rd rs2 => .compact (.add rd rs2))]

def compactMemory : List Mnemonic :=
  group [.reg, .reg, .uimm] [
    ("c_ld", fun data rs1 uimm => .compact (.ld data rs1 uimm)),
    ("c_sd", fun data rs1 uimm => .compact (.sd data rs1 uimm)),
    ("c_lw", fun data rs1 uimm => .compact (.lw data rs1 uimm)),
    ("c_sw", fun data rs1 uimm => .compact (.sw data rs1 uimm))] ++
  group [.freg, .reg, .uimm] [
    ("c_fld", fun data rs1 uimm => .compact (.fld data rs1 uimm)),
    ("c_fsd", fun data rs1 uimm => .compact (.fsd data rs1 uimm))] ++
  group [.reg, .uimm] [
    ("c_ldsp", fun data uimm => .compact (.ldsp data uimm)),
    ("c_sdsp", fun data uimm => .compact (.sdsp data uimm)),
    ("c_lwsp", fun data uimm => .compact (.lwsp data uimm)),
    ("c_swsp", fun data uimm => .compact (.swsp data uimm))] ++
  group [.freg, .uimm] [
    ("c_fldsp", fun data uimm => .compact (.fldsp data uimm)),
    ("c_fsdsp", fun data uimm => .compact (.fsdsp data uimm))]

def compactControl : List Mnemonic :=
  group [.reg] [
    ("c_jr", fun rs1 => .compact (.jr rs1)), ("c_jalr", fun rs1 => .compact (.jalr rs1))] ++
  group [.reg, .target] [
    ("c_beqz", fun rs1 t => .transfer (.compactBeqz rs1) t),
    ("c_bnez", fun rs1 t => .transfer (.compactBnez rs1) t)] ++
  group [.target] [
    ("c_j", fun t => .transfer .compactJump t)]

def compact : List Mnemonic :=
  compactArithmetic ++ compactMemory ++ compactControl

end RiscvAssembler.Mnemonic
