import RiscvAssembler.Integer.Operation
import RiscvAssembler.Proofs.CompactForm

/-!
# Canonical formats as fields

A format is encoded exactly when the fixed bits and the operands fit their fields, and its word then
holds one list of fields.
-/

namespace RiscvAssembler

open Immediate

/-! ## Fields -/

def RType.fields (t : RType) (rd rs1 rs2 : BitVec 32) : List Field :=
  [⟨6, 0, t.opcode⟩, ⟨14, 12, t.funct3⟩, ⟨11, 7, rd⟩, ⟨19, 15, rs1⟩, ⟨24, 20, rs2⟩,
    ⟨31, 25, t.funct7⟩]

def IType.fields (t : IType) (rd rs1 imm : BitVec 32) : List Field :=
  [⟨6, 0, t.opcode⟩, ⟨14, 12, t.funct3⟩, ⟨11, 7, rd⟩, ⟨19, 15, rs1⟩, ⟨31, 20, slice imm 11 0⟩]

def ShiftType.fields (t : ShiftType) (rd rs1 shamt : BitVec 32) : List Field :=
  [⟨6, 0, t.opcode⟩, ⟨14, 12, t.funct3⟩, ⟨11, 7, rd⟩, ⟨19, 15, rs1⟩,
    ⟨19 + t.shamtBits.toNat, 20, shamt⟩, ⟨31, 20 + t.shamtBits.toNat, t.funct⟩]

def SType.fields (t : SType) (rs2 rs1 offset : BitVec 32) : List Field :=
  [⟨6, 0, t.opcode⟩, ⟨14, 12, t.funct3⟩, ⟨11, 7, slice offset 4 0⟩, ⟨19, 15, rs1⟩,
    ⟨24, 20, rs2⟩, ⟨31, 25, slice offset 11 5⟩]

def BType.fields (t : BType) (rs1 rs2 offset : BitVec 32) : List Field :=
  [⟨6, 0, Opcode.branch⟩, ⟨14, 12, t.funct3⟩, ⟨19, 15, rs1⟩, ⟨24, 20, rs2⟩] ++
    ReferenceKind.branch.fields offset

def UType.fields (t : UType) (rd imm : BitVec 32) : List Field :=
  [⟨6, 0, t.opcode⟩, ⟨11, 7, rd⟩, ⟨31, 12, slice imm 31 12⟩]

def JType.fields (rd offset : BitVec 32) : List Field :=
  [⟨6, 0, Opcode.jal⟩, ⟨11, 7, rd⟩] ++ ReferenceKind.jal.fields offset

/-! ## Encoding -/

section Encoding

variable {rd rs1 rs2 imm offset shamt w : BitVec 32}

theorem RType.encode_eq_ok_iff {t : RType} :
    t.encode rd rs1 rs2 = .ok w ↔
      (∀ f ∈ t.fields rd rs1 rs2, f.Fits 32) ∧ w = writeAll 0 (t.fields rd rs1 rs2) :=
  pack_eq_ok_iff le_rfl

theorem IType.encode_eq_ok_iff {t : IType} :
    t.encode rd rs1 imm = .ok w ↔
      IsSigned 12 0 imm.toInt ∧ (∀ f ∈ t.fields rd rs1 imm, f.Fits 32) ∧
        w = writeAll 0 (t.fields rd rs1 imm) := by
  rw [encode, require_bind_eq_ok_iff, fitsSigned_signExtend_iff imm 12 (by decide),
    pack_eq_ok_iff le_rfl]
  rfl

theorem SType.encode_eq_ok_iff {t : SType} :
    t.encode rs2 rs1 offset = .ok w ↔
      IsSigned 12 0 offset.toInt ∧ (∀ f ∈ t.fields rs2 rs1 offset, f.Fits 32) ∧
        w = writeAll 0 (t.fields rs2 rs1 offset) := by
  rw [encode, require_bind_eq_ok_iff, fitsSigned_signExtend_iff offset 12 (by decide),
    pack_eq_ok_iff le_rfl]
  rfl

theorem UType.encode_eq_ok_iff {t : UType} :
    t.encode rd imm = .ok w ↔
      (2 ^ 12 : Int) ∣ imm.toInt ∧ (∀ f ∈ t.fields rd imm, f.Fits 32) ∧
        w = writeAll 0 (t.fields rd imm) := by
  rw [encode, require_bind_eq_ok_iff, slice_low_eq_zero_iff, pack_eq_ok_iff le_rfl]
  rfl

theorem BType.encode_eq_ok_iff {t : BType} :
    t.encode rs1 rs2 offset = .ok w ↔
      IsSigned 13 1 offset.toInt ∧ (∀ f ∈ t.fields rs1 rs2 offset, f.Fits 32) ∧
        w = writeAll 0 (t.fields rs1 rs2 offset) := by
  have hfits := ReferenceKind.branch.fields_fit offset
  simp only [encode, bind_eq_ok_iff, pack_eq_ok_iff (le_refl 32),
    Displacement.patchBranch_eq_ok_iff, ReferenceKind.fits_signExtend_iff, fields,
    List.forall_mem_append, writeAll_append]
  constructor
  · rintro ⟨_, ⟨hbase, rfl⟩, hoffset, hw⟩
    exact ⟨hoffset, ⟨hbase, hfits⟩, hw⟩
  · rintro ⟨hoffset, ⟨hbase, -⟩, hw⟩
    exact ⟨_, ⟨hbase, rfl⟩, hoffset, hw⟩

theorem JType.encode_eq_ok_iff :
    JType.encode rd offset = .ok w ↔
      IsSigned 21 1 offset.toInt ∧ (∀ f ∈ JType.fields rd offset, f.Fits 32) ∧
        w = writeAll 0 (JType.fields rd offset) := by
  have hfits := ReferenceKind.jal.fields_fit offset
  simp only [encode, bind_eq_ok_iff, pack_eq_ok_iff (le_refl 32),
    Displacement.patchJump_eq_ok_iff, ReferenceKind.fits_signExtend_iff, fields,
    List.forall_mem_append, writeAll_append]
  constructor
  · rintro ⟨_, ⟨hbase, rfl⟩, hoffset, hw⟩
    exact ⟨hoffset, ⟨hbase, hfits⟩, hw⟩
  · rintro ⟨hoffset, ⟨hbase, -⟩, hw⟩
    exact ⟨_, ⟨hbase, rfl⟩, hoffset, hw⟩

theorem ShiftType.encode_eq_ok_iff {t : ShiftType} (hbits : t.shamtBits.toNat < 32) :
    t.encode rd rs1 shamt = .ok w ↔
      shamt.toNat < 2 ^ t.shamtBits.toNat ∧ (∀ f ∈ t.fields rd rs1 shamt, f.Fits 32) ∧
        w = writeAll 0 (t.fields rd rs1 shamt) := by
  have hlow : 19 + t.shamtBits.toNat < 1 <<< 32 := by
    rw [Nat.shiftLeft_eq]
    omega
  have hhigh : 20 + t.shamtBits.toNat < 1 <<< 32 := by
    rw [Nat.shiftLeft_eq]
    omega
  simp only [encode, require_eq_ok_iff, bind_eq_ok_iff, pack_eq_ok_iff (le_refl 32),
    Word.patch_eq_ok_iff (le_refl 32), Checked.add_eq_ok_iff, le_rightBits_iff hbits.le, fields,
    forall_fits_cons, forall_fits_nil]
  constructor
  · rintro ⟨_, hshamt, _, ⟨⟨hop, hf, hrd, hrs1, -⟩, rfl⟩, _, ⟨-, rfl⟩, _, ⟨hs, rfl⟩, _, ⟨-, rfl⟩,
      ht, rfl⟩
    exact ⟨hshamt, ⟨hop, hf, hrd, hrs1, hs, ht, trivial⟩, rfl⟩
  · rintro ⟨hshamt, ⟨hop, hf, hrd, hrs1, hs, ht, -⟩, rfl⟩
    exact ⟨(), hshamt, _, ⟨⟨hop, hf, hrd, hrs1, trivial⟩, rfl⟩, _, ⟨hlow, rfl⟩, _, ⟨hs, rfl⟩,
      _, ⟨hhigh, rfl⟩, ht, rfl⟩

end Encoding

/-! ## Registers as operands -/

section Operands

variable {c : RegisterClass} (rd rs1 rs2 : Reg) (data : Register c) (imm d shamt : BitVec 32)

theorem fits_opcode {opcode : BitVec 32} (h : opcode.toNat < 2 ^ 7) : Word.Fits 32 6 0 opcode :=
  ⟨by decide, by decide, h⟩

theorem fits_funct3 {funct3 : BitVec 32} (h : funct3.toNat < 2 ^ 3) : Word.Fits 32 14 12 funct3 :=
  ⟨by decide, by decide, h⟩

theorem Register.fits_rd (r : Register c) : Word.Fits 32 11 7 r.encoding :=
  r.fits_encoding (by decide)

theorem Register.fits_rs1 (r : Register c) : Word.Fits 32 19 15 r.encoding :=
  r.fits_encoding (by decide)

theorem Register.fits_rs2 (r : Register c) : Word.Fits 32 24 20 r.encoding :=
  r.fits_encoding (by decide)

theorem RType.exists_encode {t : RType}
    (ht : t.opcode.toNat < 2 ^ 7 ∧ t.funct3.toNat < 2 ^ 3 ∧ t.funct7.toNat < 2 ^ 7) :
    ∃ w, t.encode rd.encoding rs1.encoding rs2.encoding = .ok w := by
  obtain ⟨ho, hf, hf7⟩ := ht
  refine ⟨_, encode_eq_ok_iff.2 ⟨?_, rfl⟩⟩
  simp only [fields, forall_fits_cons, forall_fits_nil, and_true]
  exact ⟨fits_opcode ho, fits_funct3 hf, rd.fits_rd, rs1.fits_rs1, rs2.fits_rs2,
    by decide, by decide, hf7⟩

theorem IType.exists_encode_iff {t : IType} (ht : t.opcode.toNat < 2 ^ 7 ∧ t.funct3.toNat < 2 ^ 3) :
    (∃ w, t.encode data.encoding rs1.encoding imm = .ok w) ↔ IsSigned 12 0 imm.toInt := by
  obtain ⟨ho, hf⟩ := ht
  simp only [encode_eq_ok_iff, fields, forall_fits_cons, forall_fits_nil, and_true, exists_and_left,
    exists_eq]
  exact and_iff_left ⟨fits_opcode ho, fits_funct3 hf, data.fits_rd, rs1.fits_rs1,
    Word.fits_slice imm (by decide)⟩

theorem ShiftType.exists_encode_iff {t : ShiftType}
    (ht : t.opcode.toNat < 2 ^ 7 ∧ t.funct3.toNat < 2 ^ 3 ∧
      t.funct.toNat < 2 ^ (12 - t.shamtBits.toNat))
    (hs : 0 < t.shamtBits.toNat ∧ t.shamtBits.toNat < 12) :
    (∃ w, t.encode rd.encoding rs1.encoding shamt = .ok w) ↔
      shamt.toNat < 2 ^ t.shamtBits.toNat := by
  obtain ⟨ho, hf, hfunct⟩ := ht
  obtain ⟨hpos, hbits⟩ := hs
  have hhigh : Word.Fits 32 31 (20 + t.shamtBits.toNat) t.funct := by
    refine ⟨by omega, by decide, ?_⟩
    rwa [show 31 - (20 + t.shamtBits.toNat) + 1 = 12 - t.shamtBits.toNat by omega]
  simp only [encode_eq_ok_iff (show t.shamtBits.toNat < 32 by omega), fields, forall_fits_cons,
    forall_fits_nil, and_true, exists_and_left, exists_eq]
  refine and_iff_left_of_imp fun hshamt => ?_
  have hlow : Word.Fits 32 (19 + t.shamtBits.toNat) 20 shamt := by
    refine ⟨by omega, by omega, ?_⟩
    rwa [show 19 + t.shamtBits.toNat - 20 + 1 = t.shamtBits.toNat by omega]
  exact ⟨fits_opcode ho, fits_funct3 hf, rd.fits_rd, rs1.fits_rs1, hlow, hhigh⟩

theorem SType.exists_encode_iff {t : SType} (ht : t.opcode.toNat < 2 ^ 7 ∧ t.funct3.toNat < 2 ^ 3) :
    (∃ w, t.encode data.encoding rs1.encoding imm = .ok w) ↔ IsSigned 12 0 imm.toInt := by
  obtain ⟨ho, hf⟩ := ht
  simp only [encode_eq_ok_iff, fields, forall_fits_cons, forall_fits_nil, and_true, exists_and_left,
    exists_eq]
  exact and_iff_left ⟨fits_opcode ho, fits_funct3 hf, Word.fits_slice imm (by decide), rs1.fits_rs1,
    data.fits_rs2, Word.fits_slice imm (by decide)⟩

theorem UType.exists_encode_iff {t : UType} (ho : t.opcode.toNat < 2 ^ 7) :
    (∃ w, t.encode rd.encoding imm = .ok w) ↔ (2 ^ 12 : Int) ∣ imm.toInt := by
  simp only [encode_eq_ok_iff, fields, forall_fits_cons, forall_fits_nil, and_true, exists_and_left,
    exists_eq]
  exact and_iff_left ⟨fits_opcode ho, rd.fits_rd, Word.fits_slice imm (by decide)⟩

theorem BType.exists_encode_iff {t : BType} (hf : t.funct3.toNat < 2 ^ 3) :
    (∃ w, t.encode rs1.encoding rs2.encoding d = .ok w) ↔ IsSigned 13 1 d.toInt := by
  simp only [encode_eq_ok_iff, fields, List.forall_mem_append, forall_fits_cons, forall_fits_nil,
    and_true, exists_and_left, exists_eq]
  exact and_iff_left ⟨⟨fits_opcode (by decide), fits_funct3 hf, rs1.fits_rs1, rs2.fits_rs2⟩,
    ReferenceKind.branch.fields_fit d⟩

theorem JType.exists_encode_iff :
    (∃ w, JType.encode rd.encoding d = .ok w) ↔ IsSigned 21 1 d.toInt := by
  simp only [encode_eq_ok_iff, fields, List.forall_mem_append, forall_fits_cons, forall_fits_nil,
    and_true, exists_and_left, exists_eq]
  exact and_iff_left ⟨⟨fits_opcode (by decide), rd.fits_rd⟩, ReferenceKind.jal.fields_fit d⟩

end Operands

end RiscvAssembler
