import RiscvAssembler.Compact.Form
import RiscvAssembler.Proofs.Displacement

/-!
# Compact forms as fields

A compact form is encoded exactly when its operands obey the restrictions of the instruction, and
its halfword then holds one list of fields.
-/

namespace RiscvAssembler

namespace Register

variable {c : RegisterClass}

theorem compactEncoding_eq_ok_iff {r : Register c} {x : BitVec 32} :
    r.compactEncoding = .ok x ↔ r.isCompact ∧ x = r.encoding - 8#32 := by
  unfold compactEncoding
  split
  next h => simp only [h, true_and, Except.ok.injEq, eq_comm]
  next h => simp only [h, Bool.false_eq_true, false_and, reduceCtorEq]

theorem fits_encoding (r : Register c) {n msb lsb : Nat}
    (h : lsb ≤ msb ∧ msb < n ∧ msb - lsb = 4) : Word.Fits n msb lsb r.encoding := by
  refine ⟨h.1, h.2.1, ?_⟩
  rw [h.2.2, toNat_encoding]
  exact r.number_lt

theorem extractLsb'_encoding (r : Register c) : r.encoding.extractLsb' 0 5 = r.index := by
  rw [encoding, ← BitVec.setWidth_eq_extractLsb' (by decide),
    BitVec.setWidth_setWidth_of_le _ (by decide), BitVec.setWidth_eq]

theorem toNat_encoding_sub {r : Register c} (h : r.isCompact) :
    (r.encoding - 8#32).toNat = r.number - 8 := by
  rw [isCompact, Bool.and_eq_true, decide_eq_true_iff, decide_eq_true_iff] at h
  rw [BitVec.toNat_sub_of_le, toNat_encoding]
  · rfl
  · rw [BitVec.le_def, toNat_encoding]
    exact h.1

theorem fits_encoding_sub {r : Register c} (hr : r.isCompact) {n msb lsb : Nat}
    (h : lsb ≤ msb ∧ msb < n ∧ msb - lsb = 2) : Word.Fits n msb lsb (r.encoding - 8#32) := by
  refine ⟨h.1, h.2.1, ?_⟩
  rw [h.2.2, toNat_encoding_sub hr]
  rw [isCompact, Bool.and_eq_true, decide_eq_true_iff, decide_eq_true_iff] at hr
  omega

end Register

theorem pack_eq_ok_iff {n : Nat} (hn : n ≤ 32) {w : BitVec n} {fields : List Field} :
    pack fields = .ok w ↔ (∀ f ∈ fields, f.Fits n) ∧ w = writeAll 0 fields :=
  patchAll_eq_ok_iff hn

theorem pack_eq_ok_iff_of_fits {n : Nat} (hn : n ≤ 32) {w : BitVec n} {fields : List Field}
    (hfits : ∀ f ∈ fields, f.Fits n) : pack fields = .ok w ↔ w = writeAll 0 fields := by
  rw [pack_eq_ok_iff hn]
  exact and_iff_right hfits

/-- The low twelve bits are clear exactly in the multiples of 4096. -/
theorem slice_low_eq_zero_iff (x : BitVec 32) : slice x 11 0 = 0#32 ↔ (2 ^ 12 : Int) ∣ x.toInt := by
  rw [Immediate.dvd_toInt_iff x (by decide), Nat.dvd_iff_mod_eq_zero, ← BitVec.toNat_inj, slice,
    BitVec.toNat_setWidth, BitVec.extractLsb'_toNat, Nat.shiftRight_zero]
  change x.toNat % 2 ^ 12 % 2 ^ 32 = 0 ↔ _
  rw [Nat.mod_mod_of_dvd' (by decide)]

theorem writeAll_append {n : Nat} (w : BitVec n) (fields more : List Field) :
    writeAll w (fields ++ more) = writeAll (writeAll w fields) more :=
  List.foldl_append

namespace CompactForm

open Immediate

variable {c : RegisterClass}

/-! ## Fields -/

def signedFields (funct3 : BitVec 32) (rd : Reg) (imm : BitVec 32) : List Field :=
  base funct3 0b01#32 ++ [⟨11, 7, rd.encoding⟩] ++ splitImmediate imm

def narrowFields (funct2 : BitVec 32) (rd : Reg) (imm : BitVec 32) : List Field :=
  base 0b100#32 0b01#32 ++ [⟨9, 7, rd.encoding - 8#32⟩, ⟨11, 10, funct2⟩] ++ splitImmediate imm

def pairFields (funct4 : BitVec 32) (rd rs2 : Reg) : List Field :=
  [⟨1, 0, 0b10#32⟩, ⟨6, 2, rs2.encoding⟩, ⟨11, 7, rd.encoding⟩, ⟨15, 12, funct4⟩]

def branchFields (funct3 : BitVec 32) (rs1 : Reg) (d : BitVec 32) : List Field :=
  base funct3 0b01#32 ++ [⟨9, 7, rs1.encoding - 8#32⟩] ++ ReferenceKind.cBranch.fields d

def doublewordFields (funct3 : BitVec 32) (data : Register c) (rs1 : Reg) (uimm : BitVec 32) :
    List Field :=
  base funct3 0b00#32 ++ [⟨4, 2, data.encoding - 8#32⟩, ⟨6, 5, slice uimm 7 6⟩,
    ⟨9, 7, rs1.encoding - 8#32⟩, ⟨12, 10, slice uimm 5 3⟩]

def wordFields (funct3 : BitVec 32) (data rs1 : Reg) (uimm : BitVec 32) : List Field :=
  base funct3 0b00#32 ++ [⟨4, 2, data.encoding - 8#32⟩, ⟨5, 5, slice uimm 6 6⟩,
    ⟨6, 6, slice uimm 2 2⟩, ⟨9, 7, rs1.encoding - 8#32⟩, ⟨12, 10, slice uimm 5 3⟩]

def stackLoadFields (funct3 : BitVec 32) (rd : Register c) (uimm : BitVec 32) : List Field :=
  base funct3 0b10#32 ++ [⟨4, 2, slice uimm 8 6⟩, ⟨6, 5, slice uimm 4 3⟩, ⟨11, 7, rd.encoding⟩,
    ⟨12, 12, slice uimm 5 5⟩]

def stackStoreFields (funct3 : BitVec 32) (rs2 : Register c) (uimm : BitVec 32) : List Field :=
  base funct3 0b10#32 ++ [⟨6, 2, rs2.encoding⟩, ⟨9, 7, slice uimm 8 6⟩, ⟨12, 10, slice uimm 5 3⟩]

/-- The fields of the halfword; `ebreak` has none of its own. -/
def fields : CompactForm → List Field
  | .addi rd imm => signedFields 0b000#32 rd imm
  | .addiw rd imm => signedFields 0b001#32 rd imm
  | .li rd imm => signedFields 0b010#32 rd imm
  | .addi16sp imm => base 0b011#32 0b01#32 ++ [⟨2, 2, slice imm 5 5⟩, ⟨4, 3, slice imm 8 7⟩,
      ⟨5, 5, slice imm 6 6⟩, ⟨6, 6, slice imm 4 4⟩, ⟨11, 7, Reg.sp.encoding⟩,
      ⟨12, 12, slice imm 9 9⟩]
  | .addi4spn rd uimm => base 0b000#32 0b00#32 ++ [⟨4, 2, rd.encoding - 8#32⟩,
      ⟨5, 5, slice uimm 3 3⟩, ⟨6, 6, slice uimm 2 2⟩, ⟨10, 7, slice uimm 9 6⟩,
      ⟨12, 11, slice uimm 5 4⟩]
  | .slli rd shamt =>
    base 0b000#32 0b10#32 ++ [⟨11, 7, rd.encoding⟩] ++ splitImmediate shamt
  | .srli rd shamt => narrowFields 0b00#32 rd shamt
  | .srai rd shamt => narrowFields 0b01#32 rd shamt
  | .andi rd imm => narrowFields 0b10#32 rd imm
  | .arith op rd rs2 => [⟨1, 0, 0b01#32⟩, ⟨4, 2, rs2.encoding - 8#32⟩, ⟨6, 5, op.funct2⟩,
      ⟨9, 7, rd.encoding - 8#32⟩, ⟨15, 10, op.funct6⟩]
  | .mv rd rs2 => pairFields 0b1000#32 rd rs2
  | .add rd rs2 => pairFields 0b1001#32 rd rs2
  | .lui rd imm => base 0b011#32 0b01#32 ++ [⟨6, 2, slice imm 16 12⟩, ⟨11, 7, rd.encoding⟩,
      ⟨12, 12, slice imm 17 17⟩]
  | .jr rs1 => pairFields 0b1000#32 rs1 .zero
  | .jalr rs1 => pairFields 0b1001#32 rs1 .zero
  | .j d => base 0b101#32 0b01#32 ++ ReferenceKind.cJump.fields d
  | .beqz rs1 d => branchFields 0b110#32 rs1 d
  | .bnez rs1 d => branchFields 0b111#32 rs1 d
  | .ebreak => pairFields 0b1001#32 .zero .zero
  | .ld rd rs1 uimm => doublewordFields 0b011#32 rd rs1 uimm
  | .sd rs2 rs1 uimm => doublewordFields 0b111#32 rs2 rs1 uimm
  | .lw rd rs1 uimm => wordFields 0b010#32 rd rs1 uimm
  | .sw rs2 rs1 uimm => wordFields 0b110#32 rs2 rs1 uimm
  | .fld rd rs1 uimm => doublewordFields 0b001#32 rd rs1 uimm
  | .fsd rs2 rs1 uimm => doublewordFields 0b101#32 rs2 rs1 uimm
  | .ldsp rd uimm => stackLoadFields 0b011#32 rd uimm
  | .sdsp rs2 uimm => stackStoreFields 0b111#32 rs2 uimm
  | .lwsp rd uimm => base 0b010#32 0b10#32 ++ [⟨3, 2, slice uimm 7 6⟩, ⟨6, 4, slice uimm 4 2⟩,
      ⟨11, 7, rd.encoding⟩, ⟨12, 12, slice uimm 5 5⟩]
  | .swsp rs2 uimm => base 0b110#32 0b10#32 ++ [⟨6, 2, rs2.encoding⟩, ⟨8, 7, slice uimm 7 6⟩,
      ⟨12, 9, slice uimm 5 2⟩]
  | .fldsp rd uimm => stackLoadFields 0b001#32 rd uimm
  | .fsdsp rs2 uimm => stackStoreFields 0b101#32 rs2 uimm

/-! ## Restrictions -/

/-- The restrictions on the operands of a form. -/
def Valid : CompactForm → Prop
  | .addi rd imm => rd ≠ .zero ∧ imm ≠ 0#32 ∧ IsSigned 6 0 imm.toInt
  | .addiw rd imm | .li rd imm => rd ≠ .zero ∧ IsSigned 6 0 imm.toInt
  | .addi16sp imm => imm ≠ 0#32 ∧ IsSigned 10 4 imm.toInt
  | .addi4spn rd uimm => rd.isCompact ∧ uimm ≠ 0#32 ∧ IsUnsigned 10 2 uimm.toNat
  | .slli rd shamt => rd ≠ .zero ∧ 1 ≤ shamt.toNat ∧ shamt.toNat < 64
  | .srli rd shamt | .srai rd shamt => rd.isCompact ∧ 1 ≤ shamt.toNat ∧ shamt.toNat < 64
  | .andi rd imm => rd.isCompact ∧ IsSigned 6 0 imm.toInt
  | .arith _ rd rs2 => rd.isCompact ∧ rs2.isCompact
  | .mv rd rs2 | .add rd rs2 => rd ≠ .zero ∧ rs2 ≠ .zero
  | .lui rd imm => rd ≠ .zero ∧ rd ≠ .sp ∧ imm ≠ 0#32 ∧ IsSigned 18 12 imm.toInt
  | .jr rs1 | .jalr rs1 => rs1 ≠ .zero
  | .j d => IsSigned 12 1 d.toInt
  | .beqz rs1 d | .bnez rs1 d => rs1.isCompact ∧ IsSigned 9 1 d.toInt
  | .ebreak => True
  | .ld r rs1 uimm | .sd r rs1 uimm => r.isCompact ∧ rs1.isCompact ∧ IsUnsigned 8 3 uimm.toNat
  | .fld r rs1 uimm | .fsd r rs1 uimm => r.isCompact ∧ rs1.isCompact ∧ IsUnsigned 8 3 uimm.toNat
  | .lw r rs1 uimm | .sw r rs1 uimm => r.isCompact ∧ rs1.isCompact ∧ IsUnsigned 7 2 uimm.toNat
  | .ldsp rd uimm => rd ≠ .zero ∧ IsUnsigned 9 3 uimm.toNat
  | .lwsp rd uimm => rd ≠ .zero ∧ IsUnsigned 8 2 uimm.toNat
  | .sdsp _ uimm => IsUnsigned 9 3 uimm.toNat
  | .fldsp _ uimm | .fsdsp _ uimm => IsUnsigned 9 3 uimm.toNat
  | .swsp _ uimm => IsUnsigned 8 2 uimm.toNat

/-! ## Encoding -/

theorem fits_base {funct3 quadrant : BitVec 32} (hf : funct3.toNat < 2 ^ 3)
    (hq : quadrant.toNat < 2 ^ 2) : ∀ f ∈ base funct3 quadrant, f.Fits 16 := by
  simp only [base, forall_fits_cons, forall_fits_nil, and_true]
  exact ⟨⟨by decide, by decide, hq⟩, by decide, by decide, hf⟩

theorem fits_base_append {funct3 quadrant : BitVec 32} {more : List Field}
    (hf : funct3.toNat < 2 ^ 3) (hq : quadrant.toNat < 2 ^ 2) (hmore : ∀ f ∈ more, f.Fits 16) :
    ∀ f ∈ base funct3 quadrant ++ more, f.Fits 16 :=
  List.forall_mem_append.2 ⟨fits_base hf hq, hmore⟩

theorem fits_splitImmediate (imm : BitVec 32) : ∀ f ∈ splitImmediate imm, f.Fits 16 := by
  simp only [splitImmediate, forall_fits_cons, forall_fits_nil, and_true]
  exact ⟨Word.fits_slice imm (by decide),
    Word.fits_slice imm (by decide)⟩

section Helpers

variable {funct2 funct3 funct4 imm uimm d : BitVec 32} {rd rs1 rs2 : Reg} {data : Register c}
  {w : BitVec 16}

theorem encodeSigned_eq_ok_iff (hf : funct3.toNat < 2 ^ 3) :
    encodeSigned funct3 rd imm = .ok w ↔
      IsSigned 6 0 imm.toInt ∧ w = writeAll 0 (signedFields funct3 rd imm) := by
  have hfits : ∀ f ∈ signedFields funct3 rd imm, f.Fits 16 := by
    simp only [signedFields, List.forall_mem_append, forall_fits_cons, forall_fits_nil, and_true]
    exact ⟨⟨fits_base hf (by decide), rd.fits_encoding (by decide)⟩,
      fits_splitImmediate imm⟩
  simp (disch := decide) only [encodeSigned, checkSigned, bind_eq_ok_iff, require_eq_ok_iff,
    fitsSigned_signExtend_iff, pack_eq_ok_iff]
  constructor
  · rintro ⟨_, himm, -, hw⟩
    exact ⟨himm, hw⟩
  · rintro ⟨himm, hw⟩
    exact ⟨(), himm, hfits, hw⟩

theorem encodeNarrow_eq_ok_iff (hf : funct2.toNat < 2 ^ 2) :
    encodeNarrow funct2 rd imm = .ok w ↔
      rd.isCompact ∧ w = writeAll 0 (narrowFields funct2 rd imm) := by
  have hfits : rd.isCompact → ∀ f ∈ narrowFields funct2 rd imm, f.Fits 16 := by
    intro hrd
    simp only [narrowFields, List.forall_mem_append, forall_fits_cons, forall_fits_nil, and_true]
    exact ⟨⟨fits_base (by decide) (by decide), Register.fits_encoding_sub hrd (by decide),
      by decide, by decide, hf⟩, fits_splitImmediate imm⟩
  simp (disch := decide) only [encodeNarrow, bind_eq_ok_iff, Register.compactEncoding_eq_ok_iff,
    pack_eq_ok_iff]
  constructor
  · rintro ⟨_, ⟨hrd, rfl⟩, -, hw⟩
    exact ⟨hrd, hw⟩
  · rintro ⟨hrd, hw⟩
    exact ⟨_, ⟨hrd, rfl⟩, hfits hrd, hw⟩

theorem encodePair_eq_ok_iff (hf : funct4.toNat < 2 ^ 4) :
    encodePair funct4 rd rs2 = .ok w ↔ w = writeAll 0 (pairFields funct4 rd rs2) := by
  have hfits : ∀ f ∈ pairFields funct4 rd rs2, f.Fits 16 := by
    simp only [pairFields, forall_fits_cons, forall_fits_nil, and_true]
    exact ⟨by decide, rs2.fits_encoding (by decide),
      rd.fits_encoding (by decide), by decide, by decide, hf⟩
  rw [encodePair, pack_eq_ok_iff (by decide)]
  exact and_iff_right hfits

theorem encodeBranch_eq_ok_iff (hf : funct3.toNat < 2 ^ 3) :
    encodeBranch funct3 rs1 d = .ok w ↔
      rs1.isCompact ∧ IsSigned 9 1 d.toInt ∧ w = writeAll 0 (branchFields funct3 rs1 d) := by
  have hfits : rs1.isCompact →
      ∀ f ∈ base funct3 0b01#32 ++ [⟨9, 7, rs1.encoding - 8#32⟩], f.Fits 16 := by
    intro hrs1
    simp only [List.forall_mem_append, forall_fits_cons, forall_fits_nil, and_true]
    exact ⟨fits_base hf (by decide), Register.fits_encoding_sub hrs1 (by decide)⟩
  simp (disch := decide) only [encodeBranch, bind_eq_ok_iff, Register.compactEncoding_eq_ok_iff,
    pack_eq_ok_iff, Displacement.patchCompactBranch_eq_ok_iff, ReferenceKind.fits_signExtend_iff,
    branchFields, writeAll_append]
  constructor
  · rintro ⟨_, ⟨hrs1, rfl⟩, _, ⟨-, rfl⟩, hd, hw⟩
    exact ⟨hrs1, hd, hw⟩
  · rintro ⟨hrs1, hd, hw⟩
    exact ⟨_, ⟨hrs1, rfl⟩, _, ⟨hfits hrs1, rfl⟩, hd, hw⟩

theorem encodeDoubleword_eq_ok_iff (hf : funct3.toNat < 2 ^ 3) :
    encodeDoubleword funct3 data rs1 uimm = .ok w ↔
      data.isCompact ∧ rs1.isCompact ∧ IsUnsigned 8 3 uimm.toNat ∧
        w = writeAll 0 (doublewordFields funct3 data rs1 uimm) := by
  have hfits : data.isCompact → rs1.isCompact →
      ∀ f ∈ doublewordFields funct3 data rs1 uimm, f.Fits 16 := by
    intro hdata hrs1
    simp only [doublewordFields, List.forall_mem_append, forall_fits_cons, forall_fits_nil,
      and_true]
    exact ⟨fits_base hf (by decide), Register.fits_encoding_sub hdata (by decide),
      Word.fits_slice uimm (by decide),
      Register.fits_encoding_sub hrs1 (by decide),
      Word.fits_slice uimm (by decide)⟩
  simp (disch := decide) only [encodeDoubleword, checkUnsigned, bind_eq_ok_iff, require_eq_ok_iff,
    fitsUnsigned_setWidth_iff, Register.compactEncoding_eq_ok_iff, pack_eq_ok_iff]
  constructor
  · rintro ⟨_, huimm, _, ⟨hdata, rfl⟩, _, ⟨hrs1, rfl⟩, -, hw⟩
    exact ⟨hdata, hrs1, huimm, hw⟩
  · rintro ⟨hdata, hrs1, huimm, hw⟩
    exact ⟨(), huimm, _, ⟨hdata, rfl⟩, _, ⟨hrs1, rfl⟩, hfits hdata hrs1, hw⟩

theorem encodeWord_eq_ok_iff (hf : funct3.toNat < 2 ^ 3) :
    encodeWord funct3 rd rs1 uimm = .ok w ↔
      rd.isCompact ∧ rs1.isCompact ∧ IsUnsigned 7 2 uimm.toNat ∧
        w = writeAll 0 (wordFields funct3 rd rs1 uimm) := by
  have hfits : rd.isCompact → rs1.isCompact → ∀ f ∈ wordFields funct3 rd rs1 uimm, f.Fits 16 := by
    intro hrd hrs1
    simp only [wordFields, List.forall_mem_append, forall_fits_cons, forall_fits_nil, and_true]
    exact ⟨fits_base hf (by decide), Register.fits_encoding_sub hrd (by decide),
      Word.fits_slice uimm (by decide),
      Word.fits_slice uimm (by decide),
      Register.fits_encoding_sub hrs1 (by decide),
      Word.fits_slice uimm (by decide)⟩
  simp (disch := decide) only [encodeWord, checkUnsigned, bind_eq_ok_iff, require_eq_ok_iff,
    fitsUnsigned_setWidth_iff, Register.compactEncoding_eq_ok_iff, pack_eq_ok_iff]
  constructor
  · rintro ⟨_, huimm, _, ⟨hrd, rfl⟩, _, ⟨hrs1, rfl⟩, -, hw⟩
    exact ⟨hrd, hrs1, huimm, hw⟩
  · rintro ⟨hrd, hrs1, huimm, hw⟩
    exact ⟨(), huimm, _, ⟨hrd, rfl⟩, _, ⟨hrs1, rfl⟩, hfits hrd hrs1, hw⟩

theorem encodeStackLoad_eq_ok_iff (hf : funct3.toNat < 2 ^ 3) :
    encodeStackLoad funct3 data uimm = .ok w ↔
      IsUnsigned 9 3 uimm.toNat ∧ w = writeAll 0 (stackLoadFields funct3 data uimm) := by
  have hfits : ∀ f ∈ stackLoadFields funct3 data uimm, f.Fits 16 := by
    simp only [stackLoadFields, List.forall_mem_append, forall_fits_cons, forall_fits_nil, and_true]
    exact ⟨fits_base hf (by decide), Word.fits_slice uimm (by decide),
      Word.fits_slice uimm (by decide),
      data.fits_encoding (by decide),
      Word.fits_slice uimm (by decide)⟩
  simp (disch := decide) only [encodeStackLoad, checkUnsigned, bind_eq_ok_iff, require_eq_ok_iff,
    fitsUnsigned_setWidth_iff, pack_eq_ok_iff]
  constructor
  · rintro ⟨_, huimm, -, hw⟩
    exact ⟨huimm, hw⟩
  · rintro ⟨huimm, hw⟩
    exact ⟨(), huimm, hfits, hw⟩

theorem encodeStackStore_eq_ok_iff (hf : funct3.toNat < 2 ^ 3) :
    encodeStackStore funct3 data uimm = .ok w ↔
      IsUnsigned 9 3 uimm.toNat ∧ w = writeAll 0 (stackStoreFields funct3 data uimm) := by
  have hfits : ∀ f ∈ stackStoreFields funct3 data uimm, f.Fits 16 := by
    simp only [stackStoreFields, List.forall_mem_append, forall_fits_cons, forall_fits_nil,
      and_true]
    exact ⟨fits_base hf (by decide), data.fits_encoding (by decide),
      Word.fits_slice uimm (by decide),
      Word.fits_slice uimm (by decide)⟩
  simp (disch := decide) only [encodeStackStore, checkUnsigned, bind_eq_ok_iff, require_eq_ok_iff,
    fitsUnsigned_setWidth_iff, pack_eq_ok_iff]
  constructor
  · rintro ⟨_, huimm, -, hw⟩
    exact ⟨huimm, hw⟩
  · rintro ⟨huimm, hw⟩
    exact ⟨(), huimm, hfits, hw⟩

end Helpers

theorem encode_arith_eq_ok_iff {op : CompactArithOp} {rd rs2 : Reg} {w : BitVec 16} :
    (arith op rd rs2).encode = .ok w ↔
      (arith op rd rs2).Valid ∧ w = writeAll 0 (arith op rd rs2).fields := by
  have hfits : rd.isCompact → rs2.isCompact → ∀ f ∈ (arith op rd rs2).fields, f.Fits 16 := by
    intro hrd hrs2
    simp only [fields, forall_fits_cons, forall_fits_nil, and_true]
    exact ⟨by decide, Register.fits_encoding_sub hrs2 (by decide),
      by cases op <;> decide, Register.fits_encoding_sub hrd (by decide),
      by cases op <;> decide⟩
  simp (disch := decide) only [encode, Valid, bind_eq_ok_iff, Register.compactEncoding_eq_ok_iff,
    pack_eq_ok_iff]
  constructor
  · rintro ⟨_, ⟨hrs2, rfl⟩, _, ⟨hrd, rfl⟩, -, hw⟩
    exact ⟨⟨hrd, hrs2⟩, hw⟩
  · rintro ⟨⟨hrd, hrs2⟩, hw⟩
    exact ⟨_, ⟨hrs2, rfl⟩, _, ⟨hrd, rfl⟩, hfits hrd hrs2, hw⟩

theorem encode_addi16sp_eq_ok_iff {imm : BitVec 32} {w : BitVec 16} :
    (addi16sp imm).encode = .ok w ↔
      (addi16sp imm).Valid ∧ w = writeAll 0 (addi16sp imm).fields := by
  have hfits : ∀ f ∈ (addi16sp imm).fields, f.Fits 16 := by
    refine fits_base_append (by decide) (by decide) ?_
    simp only [forall_fits_cons, forall_fits_nil, and_true]
    exact ⟨Word.fits_slice imm (by decide), Word.fits_slice imm (by decide),
      Word.fits_slice imm (by decide), Word.fits_slice imm (by decide),
      Reg.sp.fits_encoding (by decide), Word.fits_slice imm (by decide)⟩
  -- Unification opens `encode` at this form alone; its equations are those of all forms.
  refine require_bind_eq_ok_iff.trans ?_
  rw [fitsSigned_signExtend_iff imm 6 (by decide)]
  exact and_congr_right fun _ => pack_eq_ok_iff_of_fits (by decide) hfits

theorem encode_addi4spn_eq_ok_iff {rd : Reg} {uimm : BitVec 32} {w : BitVec 16} :
    (addi4spn rd uimm).encode = .ok w ↔
      (addi4spn rd uimm).Valid ∧ w = writeAll 0 (addi4spn rd uimm).fields := by
  have hfits : rd.isCompact → ∀ f ∈ (addi4spn rd uimm).fields, f.Fits 16 := by
    intro hrd
    refine fits_base_append (by decide) (by decide) ?_
    simp only [forall_fits_cons, forall_fits_nil, and_true]
    exact ⟨Register.fits_encoding_sub hrd (by decide), Word.fits_slice uimm (by decide),
      Word.fits_slice uimm (by decide), Word.fits_slice uimm (by decide),
      Word.fits_slice uimm (by decide)⟩
  refine require_bind_eq_ok_iff.trans ?_
  rw [fitsUnsigned_setWidth_iff uimm 8 (by decide), bind_eq_ok_iff]
  constructor
  · rintro ⟨huimm, r, hr, hw⟩
    obtain ⟨hrd, rfl⟩ := Register.compactEncoding_eq_ok_iff.1 hr
    exact ⟨⟨hrd, huimm⟩, (pack_eq_ok_iff_of_fits (by decide) (hfits hrd)).1 hw⟩
  · rintro ⟨⟨hrd, huimm⟩, hw⟩
    exact ⟨huimm, _, Register.compactEncoding_eq_ok_iff.2 ⟨hrd, rfl⟩,
      (pack_eq_ok_iff_of_fits (by decide) (hfits hrd)).2 hw⟩

theorem encode_slli_eq_ok_iff {rd : Reg} {shamt : BitVec 32} {w : BitVec 16} :
    (slli rd shamt).encode = .ok w ↔
      (slli rd shamt).Valid ∧ w = writeAll 0 (slli rd shamt).fields := by
  have hfits : ∀ f ∈ (slli rd shamt).fields, f.Fits 16 := by
    refine List.forall_mem_append.2 ⟨List.forall_mem_append.2
      ⟨fits_base (by decide) (by decide), ?_⟩, fits_splitImmediate shamt⟩
    simp only [forall_fits_cons, forall_fits_nil, and_true]
    exact rd.fits_encoding (by decide)
  refine require_bind_eq_ok_iff.trans ?_
  rw [checkShift, require_bind_eq_ok_iff, ← and_assoc]
  exact and_congr_right fun _ => pack_eq_ok_iff_of_fits (by decide) hfits

theorem encode_lui_eq_ok_iff {rd : Reg} {imm : BitVec 32} {w : BitVec 16} :
    (lui rd imm).encode = .ok w ↔
      (lui rd imm).Valid ∧ w = writeAll 0 (lui rd imm).fields := by
  have hfits : ∀ f ∈ (lui rd imm).fields, f.Fits 16 := by
    refine fits_base_append (by decide) (by decide) ?_
    simp only [forall_fits_cons, forall_fits_nil, and_true]
    exact ⟨Word.fits_slice imm (by decide), rd.fits_encoding (by decide),
      Word.fits_slice imm (by decide)⟩
  have himm : slice imm 11 0 = 0#32 ∧ IsSigned (18 + 0) 0 imm.toInt ↔
      IsSigned 18 12 imm.toInt := by
    rw [slice_low_eq_zero_iff, IsSigned, IsSigned]
    omega
  refine require_bind_eq_ok_iff.trans ?_
  rw [require_bind_eq_ok_iff, fitsSigned_signExtend_iff imm 18 (by decide), himm, ← and_assoc,
    and_assoc (a := rd ≠ .zero)]
  exact and_congr_right fun _ => pack_eq_ok_iff_of_fits (by decide) hfits

theorem encode_j_eq_ok_iff {d : BitVec 32} {w : BitVec 16} :
    (j d).encode = .ok w ↔ (j d).Valid ∧ w = writeAll 0 (j d).fields := by
  have hframe : ∀ frame : BitVec 16, pack (base 0b101#32 0b01#32) = .ok frame ↔
      frame = writeAll 0 (base 0b101#32 0b01#32) := by
    intro frame
    exact pack_eq_ok_iff_of_fits (by decide) (fits_base (by decide) (by decide))
  refine bind_eq_ok_iff.trans ?_
  simp only [hframe, exists_eq_left, Displacement.patchCompactJump_eq_ok_iff,
    ReferenceKind.fits_signExtend_iff, ← writeAll_append]
  rfl

theorem encode_lwsp_eq_ok_iff {rd : Reg} {uimm : BitVec 32} {w : BitVec 16} :
    (lwsp rd uimm).encode = .ok w ↔
      (lwsp rd uimm).Valid ∧ w = writeAll 0 (lwsp rd uimm).fields := by
  have hfits : ∀ f ∈ (lwsp rd uimm).fields, f.Fits 16 := by
    refine fits_base_append (by decide) (by decide) ?_
    simp only [forall_fits_cons, forall_fits_nil, and_true]
    exact ⟨Word.fits_slice uimm (by decide), Word.fits_slice uimm (by decide),
      rd.fits_encoding (by decide), Word.fits_slice uimm (by decide)⟩
  refine require_bind_eq_ok_iff.trans ?_
  rw [checkUnsigned, require_bind_eq_ok_iff, fitsUnsigned_setWidth_iff uimm 6 (by decide),
    ← and_assoc]
  exact and_congr_right fun _ => pack_eq_ok_iff_of_fits (by decide) hfits

theorem encode_swsp_eq_ok_iff {rs2 : Reg} {uimm : BitVec 32} {w : BitVec 16} :
    (swsp rs2 uimm).encode = .ok w ↔
      (swsp rs2 uimm).Valid ∧ w = writeAll 0 (swsp rs2 uimm).fields := by
  have hfits : ∀ f ∈ (swsp rs2 uimm).fields, f.Fits 16 := by
    refine fits_base_append (by decide) (by decide) ?_
    simp only [forall_fits_cons, forall_fits_nil, and_true]
    exact ⟨rs2.fits_encoding (by decide), Word.fits_slice uimm (by decide),
      Word.fits_slice uimm (by decide)⟩
  refine require_bind_eq_ok_iff.trans ?_
  rw [fitsUnsigned_setWidth_iff uimm 6 (by decide)]
  exact and_congr_right fun _ => pack_eq_ok_iff_of_fits (by decide) hfits

/-- A form is encoded exactly when it is valid, into its fields. -/
theorem encode_eq_ok_iff {form : CompactForm} {w : BitVec 16} :
    form.encode = .ok w ↔ form.Valid ∧ w = writeAll 0 form.fields := by
  -- the forms that share a layout share the lemma of their layout
  cases form with
  | addi rd imm | addiw rd imm | li rd imm =>
    simp (disch := decide) only [encode, Valid, fields, require_bind_eq_ok_iff, and_assoc,
      encodeSigned_eq_ok_iff]
  | addi16sp imm => exact encode_addi16sp_eq_ok_iff
  | addi4spn rd uimm => exact encode_addi4spn_eq_ok_iff
  | slli rd shamt => exact encode_slli_eq_ok_iff
  | srli rd shamt | srai rd shamt =>
    simp (disch := decide) only [encode, Valid, fields, require_bind_eq_ok_iff, checkShift,
      encodeNarrow_eq_ok_iff, and_left_comm, and_assoc]
  | andi rd imm =>
    simp (disch := decide) only [encode, Valid, fields, require_bind_eq_ok_iff, checkSigned,
      encodeNarrow_eq_ok_iff, fitsSigned_signExtend_iff, and_left_comm, and_assoc]
  | arith op rd rs2 => exact encode_arith_eq_ok_iff
  | mv rd rs2 | add rd rs2 | jr rs1 | jalr rs1 =>
    simp (disch := decide) only [encode, Valid, fields, require_bind_eq_ok_iff,
      encodePair_eq_ok_iff]
  | lui rd imm => exact encode_lui_eq_ok_iff
  | j d => exact encode_j_eq_ok_iff
  | beqz rs1 d | bnez rs1 d =>
    simp (disch := decide) only [encode, Valid, fields, and_assoc, encodeBranch_eq_ok_iff]
  | ebreak =>
    simp only [encode, Valid, true_and, Except.ok.injEq]
    exact eq_comm
  | ld data rs1 uimm | sd data rs1 uimm | fld data rs1 uimm | fsd data rs1 uimm =>
    simp (disch := decide) only [encode, Valid, fields, and_assoc, encodeDoubleword_eq_ok_iff]
  | lw data rs1 uimm | sw data rs1 uimm =>
    simp (disch := decide) only [encode, Valid, fields, and_assoc, encodeWord_eq_ok_iff]
  | ldsp rd uimm =>
    simp (disch := decide) only [encode, Valid, fields, require_bind_eq_ok_iff, and_assoc,
      encodeStackLoad_eq_ok_iff]
  | fldsp rd uimm =>
    simp (disch := decide) only [encode, Valid, fields, encodeStackLoad_eq_ok_iff]
  | sdsp rs2 uimm | fsdsp rs2 uimm =>
    simp (disch := decide) only [encode, Valid, fields, encodeStackStore_eq_ok_iff]
  | lwsp rd uimm => exact encode_lwsp_eq_ok_iff
  | swsp rs2 uimm => exact encode_swsp_eq_ok_iff

end CompactForm

end RiscvAssembler
