import RiscvAssembler.Mnemonic.Basic

/-!
# Vector mnemonics

Operand order is the written one; multiply-accumulate names the first source before the second.
-/

namespace RiscvAssembler.Mnemonic

def vectorSetting : List Mnemonic :=
  group [.reg, .reg, .vtype] [
    ("vsetvli", fun rd rs1 t => .instr (.vector (.setvli rd rs1 t)) true)] ++
  group [.reg, .uimm, .vtype] [
    ("vsetivli", fun rd avl t => .instr (.vector (.setivli rd avl t)) true)] ++
  group [.reg, .reg, .reg] [
    ("vsetvl", fun rd rs1 rs2 => .instr (.vector (.setvl rd rs1 rs2)) true)]

def vectorVector : List Mnemonic :=
  family [.vreg, .vreg, .vreg, .mask]
    (fun op vd vs2 vs1 vm => .instr (.vector (.vv op vd vs2 vs1 vm)) true) [
    ("vadd_vv", .add), ("vsub_vv", .sub), ("vminu_vv", .minu), ("vmin_vv", .min),
    ("vmaxu_vv", .maxu), ("vmax_vv", .max), ("vand_vv", .and), ("vor_vv", .or), ("vxor_vv", .xor),
    ("vrgather_vv", .rgather), ("vmseq_vv", .mseq), ("vmsne_vv", .msne), ("vmsltu_vv", .msltu),
    ("vmslt_vv", .mslt), ("vmsleu_vv", .msleu), ("vmsle_vv", .msle), ("vsaddu_vv", .saddu),
    ("vsadd_vv", .sadd), ("vssubu_vv", .ssubu), ("vssub_vv", .ssub), ("vsll_vv", .sll),
    ("vsmul_vv", .smul), ("vsrl_vv", .srl), ("vsra_vv", .sra), ("vnsrl_wv", .nsrl),
    ("vnsra_wv", .nsra), ("vmul_vv", .mul), ("vmulh_vv", .mulh), ("vmulhu_vv", .mulhu),
    ("vmulhsu_vv", .mulhsu), ("vdivu_vv", .divu), ("vdiv_vv", .div), ("vremu_vv", .remu),
    ("vrem_vv", .rem), ("vwaddu_vv", .waddu), ("vwadd_vv", .wadd), ("vwmulu_vv", .wmulu),
    ("vwmul_vv", .wmul), ("vredsum_vs", .redsum), ("vredand_vs", .redand), ("vredor_vs", .redor),
    ("vredxor_vs", .redxor), ("vredminu_vs", .redminu), ("vredmin_vs", .redmin),
    ("vredmaxu_vs", .redmaxu), ("vredmax_vs", .redmax), ("vfadd_vv", .fadd), ("vfsub_vv", .fsub),
    ("vfmin_vv", .fmin), ("vfmax_vv", .fmax), ("vfsgnj_vv", .fsgnj), ("vfsgnjn_vv", .fsgnjn),
    ("vfsgnjx_vv", .fsgnjx), ("vmfeq_vv", .mfeq), ("vmfle_vv", .mfle), ("vmflt_vv", .mflt),
    ("vmfne_vv", .mfne), ("vfdiv_vv", .fdiv), ("vfmul_vv", .fmul), ("vfredusum_vs", .fredusum),
    ("vfredosum_vs", .fredosum), ("vfredmin_vs", .fredmin), ("vfredmax_vs", .fredmax)] ++
  family [.vreg, .vreg, .vreg, .mask]
    (fun op vd vs1 vs2 vm => .instr (.vector (.vv op vd vs2 vs1 vm)) true) [
    ("vmacc_vv", .macc), ("vnmsac_vv", .nmsac), ("vmadd_vv", .madd), ("vnmsub_vv", .nmsub),
    ("vfmacc_vv", .fmacc), ("vfnmacc_vv", .fnmacc), ("vfmsac_vv", .fmsac),
    ("vfnmsac_vv", .fnmsac), ("vfmadd_vv", .fmadd), ("vfnmadd_vv", .fnmadd),
    ("vfmsub_vv", .fmsub), ("vfnmsub_vv", .fnmsub)]

def vectorScalar : List Mnemonic :=
  family [.vreg, .vreg, .reg, .mask]
    (fun op vd vs2 rs1 vm => .instr (.vector (.vx op vd vs2 rs1 vm)) true) [
    ("vadd_vx", .add), ("vsub_vx", .sub), ("vrsub_vx", .rsub), ("vminu_vx", .minu),
    ("vmin_vx", .min), ("vmaxu_vx", .maxu), ("vmax_vx", .max), ("vand_vx", .and), ("vor_vx", .or),
    ("vxor_vx", .xor), ("vrgather_vx", .rgather), ("vslideup_vx", .slideup),
    ("vslidedown_vx", .slidedown), ("vmseq_vx", .mseq), ("vmsne_vx", .msne),
    ("vmsltu_vx", .msltu), ("vmslt_vx", .mslt), ("vmsleu_vx", .msleu), ("vmsle_vx", .msle),
    ("vmsgtu_vx", .msgtu), ("vmsgt_vx", .msgt), ("vsll_vx", .sll), ("vsrl_vx", .srl),
    ("vsra_vx", .sra), ("vnsrl_wx", .nsrl), ("vnsra_wx", .nsra), ("vslide1up_vx", .slide1up),
    ("vslide1down_vx", .slide1down), ("vmul_vx", .mul), ("vmulh_vx", .mulh),
    ("vmulhu_vx", .mulhu), ("vmulhsu_vx", .mulhsu), ("vdivu_vx", .divu), ("vdiv_vx", .div),
    ("vremu_vx", .remu), ("vrem_vx", .rem)] ++
  family [.vreg, .reg, .vreg, .mask]
    (fun op vd rs1 vs2 vm => .instr (.vector (.vx op vd vs2 rs1 vm)) true) [
    ("vmacc_vx", .macc), ("vnmsac_vx", .nmsac), ("vmadd_vx", .madd), ("vnmsub_vx", .nmsub)] ++
  family [.vreg, .vreg, .freg, .mask]
    (fun op vd vs2 rs1 vm => .instr (.vector (.vf op vd vs2 rs1 vm)) true) [
    ("vfadd_vf", .fadd), ("vfsub_vf", .fsub), ("vfmin_vf", .fmin), ("vfmax_vf", .fmax),
    ("vfsgnj_vf", .fsgnj), ("vfsgnjn_vf", .fsgnjn), ("vfsgnjx_vf", .fsgnjx),
    ("vfslide1up_vf", .fslide1up), ("vfslide1down_vf", .fslide1down), ("vmfeq_vf", .mfeq),
    ("vmfle_vf", .mfle), ("vmflt_vf", .mflt), ("vmfne_vf", .mfne), ("vmfgt_vf", .mfgt),
    ("vmfge_vf", .mfge), ("vfdiv_vf", .fdiv), ("vfrdiv_vf", .frdiv), ("vfmul_vf", .fmul),
    ("vfrsub_vf", .frsub)] ++
  family [.vreg, .freg, .vreg, .mask]
    (fun op vd rs1 vs2 vm => .instr (.vector (.vf op vd vs2 rs1 vm)) true) [
    ("vfmacc_vf", .fmacc), ("vfnmacc_vf", .fnmacc), ("vfmsac_vf", .fmsac),
    ("vfnmsac_vf", .fnmsac), ("vfmadd_vf", .fmadd), ("vfnmadd_vf", .fnmadd),
    ("vfmsub_vf", .fmsub), ("vfnmsub_vf", .fnmsub)]

def vectorImmediate : List Mnemonic :=
  family [.vreg, .vreg, .imm, .mask]
    (fun op vd vs2 imm vm => .instr (.vector (.vi op vd vs2 imm vm)) true) [
    ("vadd_vi", .add), ("vrsub_vi", .rsub), ("vand_vi", .and), ("vor_vi", .or), ("vxor_vi", .xor),
    ("vmseq_vi", .mseq), ("vmsne_vi", .msne), ("vmsleu_vi", .msleu), ("vmsle_vi", .msle),
    ("vmsgtu_vi", .msgtu), ("vmsgt_vi", .msgt)] ++
  family [.vreg, .vreg, .uimm, .mask]
    (fun op vd vs2 uimm vm => .instr (.vector (.vu op vd vs2 uimm vm)) true) [
    ("vrgather_vi", .rgather), ("vslideup_vi", .slideup), ("vslidedown_vi", .slidedown),
    ("vsll_vi", .sll), ("vsrl_vi", .srl), ("vsra_vi", .sra), ("vnsrl_wi", .nsrl),
    ("vnsra_wi", .nsra)]

def vectorUnary : List Mnemonic :=
  family [.vreg, .vreg, .mask] (fun op vd vs2 vm => .instr (.vector (.unary op vd vs2 vm)) true) [
    ("vzext_vf8", .zextVf8), ("vsext_vf8", .sextVf8), ("vzext_vf4", .zextVf4),
    ("vsext_vf4", .sextVf4), ("vzext_vf2", .zextVf2), ("vsext_vf2", .sextVf2), ("vmsbf_m", .msbf),
    ("vmsof_m", .msof), ("vmsif_m", .msif), ("viota_m", .iota), ("vfcvt_xu_f_v", .fcvtXuF),
    ("vfcvt_x_f_v", .fcvtXF), ("vfcvt_f_xu_v", .fcvtFXu), ("vfcvt_f_x_v", .fcvtFX),
    ("vfcvt_rtz_xu_f_v", .fcvtRtzXuF), ("vfcvt_rtz_x_f_v", .fcvtRtzXF),
    ("vfwcvt_f_f_v", .fwcvtFF), ("vfncvt_f_f_w", .fncvtFF), ("vfsqrt_v", .fsqrt),
    ("vfclass_v", .fclass)] ++
  family [.reg, .vreg, .mask]
    (fun op rd vs2 vm => .instr (.vector (.maskScan op rd vs2 vm)) true) [
    ("vcpop_m", .popcount), ("vfirst_m", .first)] ++
  group [.vreg, .mask] [
    ("vid_v", fun vd vm => .instr (.vector (.elementIndex vd vm)) true)] ++
  family [.vreg, .vreg, .vreg]
    (fun op vd vs2 vs1 => .instr (.vector (.maskLogical op vd vs2 vs1)) true) [
    ("vmandn_mm", .mandn), ("vmand_mm", .mand), ("vmor_mm", .mor), ("vmxor_mm", .mxor),
    ("vmorn_mm", .morn), ("vmnand_mm", .mnand), ("vmnor_mm", .mnor), ("vmxnor_mm", .mxnor),
    ("vcompress_vm", .compress)]

def vectorMove : List Mnemonic :=
  group [.vreg, .vreg] [
    ("vmv_v_v", fun vd vs1 => .instr (.vector (.moveV vd vs1)) true)] ++
  group [.vreg, .reg] [
    ("vmv_v_x", fun vd rs1 => .instr (.vector (.moveX vd rs1)) true),
    ("vmv_s_x", fun vd rs1 => .instr (.vector (.firstOfInt vd rs1)) true)] ++
  group [.vreg, .imm] [
    ("vmv_v_i", fun vd imm => .instr (.vector (.moveI vd imm)) true)] ++
  group [.vreg, .freg] [
    ("vfmv_v_f", fun vd rs1 => .instr (.vector (.moveF vd rs1)) true),
    ("vfmv_s_f", fun vd rs1 => .instr (.vector (.firstOfFloat vd rs1)) true)] ++
  group [.reg, .vreg] [
    ("vmv_x_s", fun rd vs2 => .instr (.vector (.firstToInt rd vs2)) true)] ++
  group [.freg, .vreg] [
    ("vfmv_f_s", fun rd vs2 => .instr (.vector (.firstToFloat rd vs2)) true)] ++
  group [.vreg, .vreg, .vreg] [
    ("vmerge_vvm", fun vd vs2 vs1 => .instr (.vector (.mergeV vd vs2 vs1)) true)] ++
  group [.vreg, .vreg, .reg] [
    ("vmerge_vxm", fun vd vs2 rs1 => .instr (.vector (.mergeX vd vs2 rs1)) true)] ++
  group [.vreg, .vreg, .imm] [
    ("vmerge_vim", fun vd vs2 imm => .instr (.vector (.mergeI vd vs2 imm)) true)] ++
  family [.vreg, .vreg] (fun count vd vs2 => .instr (.vector (.moveGroup count vd vs2)) true) [
    ("vmv1r_v", .one), ("vmv2r_v", .two), ("vmv4r_v", .four), ("vmv8r_v", .eight)]

def vectorMemory : List Mnemonic :=
  family [.vreg, .reg, .mask]
    (fun (op, eew) vd rs1 vm => .instr (.vector (.unitStride op .one eew vd rs1 vm)) true) [
    ("vle8_v", (.load, .e8)), ("vle16_v", (.load, .e16)), ("vle32_v", (.load, .e32)),
    ("vle64_v", (.load, .e64)), ("vle8ff_v", (.loadFaultFirst, .e8)),
    ("vle16ff_v", (.loadFaultFirst, .e16)), ("vle32ff_v", (.loadFaultFirst, .e32)),
    ("vle64ff_v", (.loadFaultFirst, .e64)), ("vse8_v", (.store, .e8)),
    ("vse16_v", (.store, .e16)), ("vse32_v", (.store, .e32)), ("vse64_v", (.store, .e64))] ++
  family [.vreg, .reg, .reg, .mask]
    (fun (dir, eew) vd rs1 rs2 vm =>
      .instr (.vector (.strided dir .one eew vd rs1 rs2 vm)) true) [
    ("vlse8_v", (.load, .e8)), ("vlse16_v", (.load, .e16)), ("vlse32_v", (.load, .e32)),
    ("vlse64_v", (.load, .e64)), ("vsse8_v", (.store, .e8)), ("vsse16_v", (.store, .e16)),
    ("vsse32_v", (.store, .e32)), ("vsse64_v", (.store, .e64))] ++
  family [.vreg, .reg, .vreg, .mask]
    (fun (dir, ordered, eew) vd rs1 vs2 vm =>
      .instr (.vector (.indexed dir ordered .one eew vd rs1 vs2 vm)) true) [
    ("vluxei8_v", (.load, false, .e8)), ("vluxei16_v", (.load, false, .e16)),
    ("vluxei32_v", (.load, false, .e32)), ("vluxei64_v", (.load, false, .e64)),
    ("vloxei8_v", (.load, true, .e8)), ("vloxei16_v", (.load, true, .e16)),
    ("vloxei32_v", (.load, true, .e32)), ("vloxei64_v", (.load, true, .e64)),
    ("vsuxei8_v", (.store, false, .e8)), ("vsuxei16_v", (.store, false, .e16)),
    ("vsuxei32_v", (.store, false, .e32)), ("vsuxei64_v", (.store, false, .e64)),
    ("vsoxei8_v", (.store, true, .e8)), ("vsoxei16_v", (.store, true, .e16)),
    ("vsoxei32_v", (.store, true, .e32)), ("vsoxei64_v", (.store, true, .e64))] ++
  family [.vreg, .reg]
    (fun (count, eew) vd rs1 => .instr (.vector (.loadGroup count eew vd rs1)) true) [
    ("vl1re8_v", (.one, .e8)), ("vl1re16_v", (.one, .e16)), ("vl1re32_v", (.one, .e32)),
    ("vl1re64_v", (.one, .e64)), ("vl2re8_v", (.two, .e8)), ("vl2re16_v", (.two, .e16)),
    ("vl2re32_v", (.two, .e32)), ("vl2re64_v", (.two, .e64)), ("vl4re8_v", (.four, .e8)),
    ("vl4re16_v", (.four, .e16)), ("vl4re32_v", (.four, .e32)), ("vl4re64_v", (.four, .e64)),
    ("vl8re8_v", (.eight, .e8)), ("vl8re16_v", (.eight, .e16)), ("vl8re32_v", (.eight, .e32)),
    ("vl8re64_v", (.eight, .e64))] ++
  group [.uimm, .vreg, .reg] [
    ("vsr_v", fun count vs3 rs1 => .instr (.vector (.storeGroup count vs3 rs1)) true)] ++
  family [.vreg, .reg] (fun count vs3 rs1 => .instr (.vector (.storeGroup count vs3 rs1)) true) [
    ("vs1r_v", 1#32), ("vs2r_v", 2#32), ("vs4r_v", 4#32), ("vs8r_v", 8#32)] ++
  family [.vreg, .reg] (fun dir vd rs1 => .instr (.vector (.maskAccess dir vd rs1)) true) [
    ("vlm_v", .load), ("vsm_v", .store)]

def vectorSegment : List Mnemonic :=
  family [.fieldCount, .sew, .vreg, .reg, .mask]
    (fun op fields eew vd rs1 vm => .instr (.vector (.unitStride op fields eew vd rs1 vm)) true) [
    ("vlseg", .load), ("vlsegff", .loadFaultFirst), ("vsseg", .store)] ++
  family [.fieldCount, .sew, .vreg, .reg, .reg, .mask]
    (fun dir fields eew vd rs1 rs2 vm =>
      .instr (.vector (.strided dir fields eew vd rs1 rs2 vm)) true) [
    ("vlsseg", .load), ("vssseg", .store)] ++
  family [.fieldCount, .sew, .vreg, .reg, .vreg, .mask]
    (fun (dir, ordered) fields eew vd rs1 vs2 vm =>
      .instr (.vector (.indexed dir ordered fields eew vd rs1 vs2 vm)) true) [
    ("vluxseg", (.load, false)), ("vloxseg", (.load, true)), ("vsuxseg", (.store, false)),
    ("vsoxseg", (.store, true))]

def vector : List Mnemonic :=
  vectorSetting ++ vectorVector ++ vectorScalar ++ vectorImmediate ++ vectorUnary ++ vectorMove ++
    vectorMemory ++ vectorSegment

end RiscvAssembler.Mnemonic
