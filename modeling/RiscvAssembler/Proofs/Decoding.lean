import RiscvAssembler.Instruction
import RiscvAssembler.Proofs.Format

/-!
# Reading canonical instructions

The decoder knows the instructions that have a compact form for some of their operands, and the
remaining conditional branches. It recovers such an instruction with its operands from the word.
-/

namespace RiscvAssembler

namespace Instr

variable {c : RegisterClass}

/-! ## Operand fields -/

section Operands

variable (w : BitVec 32)

def rdField : Register c := ⟨w.extractLsb' 7 5⟩
def rs1Field : Register c := ⟨w.extractLsb' 15 5⟩
def rs2Field : Register c := ⟨w.extractLsb' 20 5⟩

def immI : BitVec 32 :=
  (w.extractLsb' 20 12).signExtend 32

def immS : BitVec 32 :=
  (w.extractLsb' 25 7 ++ w.extractLsb' 7 5).signExtend 32

def immU : BitVec 32 :=
  (w.extractLsb' 12 20 ++ 0#12).signExtend 32

def shamtField : BitVec 32 :=
  (w.extractLsb' 20 6).setWidth 32

end Operands

/-! ## Decoding -/

def decodeOp (funct7 : BitVec 7) (funct3 : BitVec 3) : Option RegOp :=
  match funct7, funct3 with
  | 0b0000000#7, 0b000#3 => some .add
  | 0b0100000#7, 0b000#3 => some .sub
  | 0b0000000#7, 0b100#3 => some .xor
  | 0b0000000#7, 0b110#3 => some .or
  | 0b0000000#7, 0b111#3 => some .and
  | _, _ => none

def decodeOp32 (funct7 : BitVec 7) (funct3 : BitVec 3) : Option RegOp :=
  match funct7, funct3 with
  | 0b0000000#7, 0b000#3 => some .addw
  | 0b0100000#7, 0b000#3 => some .subw
  | _, _ => none

def decodeShift (funct6 : BitVec 6) (funct3 : BitVec 3) : Option ShiftOp :=
  match funct6, funct3 with
  | 0b000000#6, 0b001#3 => some .slli
  | 0b000000#6, 0b101#3 => some .srli
  | 0b010000#6, 0b101#3 => some .srai
  | _, _ => none

def decodeLoad (funct3 : BitVec 3) : Option LoadOp :=
  match funct3 with
  | 0b010#3 => some .lw
  | 0b011#3 => some .ld
  | _ => none

def decodeStore (funct3 : BitVec 3) : Option StoreOp :=
  match funct3 with
  | 0b010#3 => some .sw
  | 0b011#3 => some .sd
  | _ => none

def decodeCondition (funct3 : BitVec 3) : Option Condition :=
  match funct3 with
  | 0b000#3 => some .eq
  | 0b001#3 => some .ne
  | 0b100#3 => some .lt
  | 0b101#3 => some .ge
  | 0b110#3 => some .ltu
  | 0b111#3 => some .geu
  | _ => none

def decodeOpImm (w : BitVec 32) : Option Instr :=
  match w.extractLsb' 12 3 with
  | 0b000#3 => some (.integer (.imm .addi (rdField w) (rs1Field w) (immI w)))
  | 0b111#3 => some (.integer (.imm .andi (rdField w) (rs1Field w) (immI w)))
  | funct3 =>
    (decodeShift (w.extractLsb' 26 6) funct3).map fun op =>
      .integer (.shift op (rdField w) (rs1Field w) (shamtField w))

/-- The instruction that a word encodes. -/
def decode? (w : BitVec 32) : Option Instr :=
  let funct3 := w.extractLsb' 12 3
  let funct7 := w.extractLsb' 25 7
  match w.extractLsb' 0 7 with
  | 0b0110011#7 => (decodeOp funct7 funct3).map fun op =>
    .integer (.reg op (rdField w) (rs1Field w) (rs2Field w))
  | 0b0111011#7 => (decodeOp32 funct7 funct3).map fun op =>
    .integer (.reg op (rdField w) (rs1Field w) (rs2Field w))
  | 0b0010011#7 => decodeOpImm w
  | 0b0011011#7 =>
    if funct3 = 0b000#3 then some (.integer (.imm .addiw (rdField w) (rs1Field w) (immI w)))
    else none
  | 0b0110111#7 => some (.integer (.upper .lui (rdField w) (immU w)))
  | 0b0000011#7 => (decodeLoad funct3).map fun op =>
    .integer (.load op (rdField w) (rs1Field w) (immI w))
  | 0b0100011#7 => (decodeStore funct3).map fun op =>
    .integer (.store op (rs2Field w) (rs1Field w) (immS w))
  | 0b0000111#7 =>
    if funct3 = 0b011#3 then some (.float (.load .double (rdField w) (rs1Field w) (immI w)))
    else none
  | 0b0100111#7 =>
    if funct3 = 0b011#3 then some (.float (.store .double (rs2Field w) (rs1Field w) (immS w)))
    else none
  | 0b1100011#7 => (decodeCondition funct3).map fun cond =>
    .integer (.branch cond (rs1Field w) (rs2Field w) (Displacement.readBranch w))
  | 0b1101111#7 => some (.integer (.jal (rdField w) (Displacement.readJump w)))
  | 0b1100111#7 =>
    if funct3 = 0b000#3 then some (.integer (.jalr (rdField w) (rs1Field w) (immI w))) else none
  | 0b1110011#7 => if w = 0x00100073#32 then some (.integer .ebreak) else none
  | _ => none

/-- The instructions that the decoder knows. -/
def isDecodable : Instr → Bool
  | .integer (.reg op _ _ _) =>
    match op with
    | .add | .sub | .xor | .or | .and | .addw | .subw => true
    | _ => false
  | .integer (.imm op _ _ _) =>
    match op with
    | .addi | .andi | .addiw => true
    | _ => false
  | .integer (.shift op _ _ _) =>
    match op with
    | .slli | .srli | .srai => true
    | _ => false
  | .integer (.upper op _ _) => op = .lui
  | .integer (.load op _ _ _) => op = .lw ∨ op = .ld
  | .integer (.store op _ _ _) => op = .sw ∨ op = .sd
  | .integer (.branch ..) | .integer (.jal ..) | .integer (.jalr ..) | .integer .ebreak => true
  | .float (.load fmt _ _ _) | .float (.store fmt _ _ _) => fmt = .double
  | _ => false

/-! ## What a packed word reads as -/

section Views

variable {rd rs1 rs2 : Reg} {data : Register c} {imm d : BitVec 32}

theorem views_rType {t : RType}
    (h : ∀ f ∈ t.fields rd.encoding rs1.encoding rs2.encoding, f.Fits 32) :
    let w : BitVec 32 := writeAll 0 (t.fields rd.encoding rs1.encoding rs2.encoding)
    w.extractLsb' 0 7 = t.opcode.extractLsb' 0 7 ∧ w.extractLsb' 12 3 = t.funct3.extractLsb' 0 3 ∧
      w.extractLsb' 25 7 = t.funct7.extractLsb' 0 7 ∧ rdField w = rd ∧ rs1Field w = rs1 ∧
        rs2Field w = rs2 := by
  simp only [RType.fields, forall_fits_cons, forall_fits_nil] at h
  obtain ⟨hop, hf, hrd, hrs1, hrs2, hf7, -⟩ := h
  simp only [RType.fields, writeAll, List.foldl_cons, List.foldl_nil, rdField, rs1Field, rs2Field]
  simp (disch := first | assumption | decide)
    only [Word.extractLsb'_write_inside, Word.extractLsb'_write_outside, Nat.reduceSub,
      Register.extractLsb'_encoding, true_and]

theorem views_iType {t : IType} (himm : Immediate.IsSigned 12 0 imm.toInt)
    (h : ∀ f ∈ t.fields data.encoding rs1.encoding imm, f.Fits 32) :
    let w : BitVec 32 := writeAll 0 (t.fields data.encoding rs1.encoding imm)
    w.extractLsb' 0 7 = t.opcode.extractLsb' 0 7 ∧ w.extractLsb' 12 3 = t.funct3.extractLsb' 0 3 ∧
      rdField w = data ∧ rs1Field w = rs1 ∧ immI w = imm := by
  simp only [IType.fields, forall_fits_cons, forall_fits_nil] at h
  obtain ⟨hop, hf, hdata, hrs1, himm', -⟩ := h
  simp only [IType.fields, writeAll, List.foldl_cons, List.foldl_nil, rdField, rs1Field, immI]
  simp (disch := first | assumption | decide)
    only [Word.extractLsb'_write_inside, Word.extractLsb'_write_outside, extractLsb'_slice,
      Nat.reduceSub, Nat.add_zero, Register.extractLsb'_encoding, true_and]
  exact Immediate.signExtend_extractLsb'_of_isSigned (by decide) (by decide) himm

theorem views_shiftType {opcode funct3 funct shamt : BitVec 32} (hshamt : shamt.toNat < 2 ^ 6)
    (h : ∀ f ∈ (⟨opcode, funct3, funct, 6#32⟩ : ShiftType).fields rd.encoding rs1.encoding shamt,
      f.Fits 32) :
    let w : BitVec 32 :=
      writeAll 0 ((⟨opcode, funct3, funct, 6#32⟩ : ShiftType).fields rd.encoding rs1.encoding shamt)
    w.extractLsb' 0 7 = opcode.extractLsb' 0 7 ∧ w.extractLsb' 12 3 = funct3.extractLsb' 0 3 ∧
      w.extractLsb' 26 6 = funct.extractLsb' 0 6 ∧ rdField w = rd ∧ rs1Field w = rs1 ∧
        shamtField w = shamt := by
  have hbits : (6#32).toNat = 6 := rfl
  simp only [ShiftType.fields, hbits, forall_fits_cons, forall_fits_nil] at h
  obtain ⟨hop, hf, hrd, hrs1, hshamt', hfunct, -⟩ := h
  simp only [ShiftType.fields, hbits, writeAll, List.foldl_cons, List.foldl_nil, rdField, rs1Field,
    shamtField]
  simp (disch := first | assumption | decide)
    only [Word.extractLsb'_write_inside, Word.extractLsb'_write_outside, Nat.reduceSub,
      Nat.reduceAdd, Register.extractLsb'_encoding, true_and]
  exact Immediate.setWidth_extractLsb'_of_isUnsigned (a := 0) ⟨hshamt, one_dvd _⟩

theorem views_sType {t : SType} (himm : Immediate.IsSigned 12 0 imm.toInt)
    (h : ∀ f ∈ t.fields data.encoding rs1.encoding imm, f.Fits 32) :
    let w : BitVec 32 := writeAll 0 (t.fields data.encoding rs1.encoding imm)
    w.extractLsb' 0 7 = t.opcode.extractLsb' 0 7 ∧ w.extractLsb' 12 3 = t.funct3.extractLsb' 0 3 ∧
      rs2Field w = data ∧ rs1Field w = rs1 ∧ immS w = imm := by
  simp only [SType.fields, forall_fits_cons, forall_fits_nil] at h
  obtain ⟨hop, hf, hlow, hrs1, hdata, hhigh, -⟩ := h
  simp only [SType.fields, writeAll, List.foldl_cons, List.foldl_nil, rs2Field, rs1Field, immS]
  simp (disch := first | assumption | decide)
    only [Word.extractLsb'_write_inside, Word.extractLsb'_write_outside, extractLsb'_slice,
      BitVec.extractLsb'_append_extractLsb'_eq_extractLsb', Nat.reduceSub, Nat.add_zero,
      Register.extractLsb'_encoding, true_and]
  exact Immediate.signExtend_extractLsb'_of_isSigned (by decide) (by decide) himm

theorem views_uType {t : UType} (himm : (2 ^ 12 : Int) ∣ imm.toInt)
    (h : ∀ f ∈ t.fields rd.encoding imm, f.Fits 32) :
    let w : BitVec 32 := writeAll 0 (t.fields rd.encoding imm)
    w.extractLsb' 0 7 = t.opcode.extractLsb' 0 7 ∧ rdField w = rd ∧ immU w = imm := by
  have hsigned : Immediate.IsSigned 32 12 imm.toInt := ⟨imm.le_toInt, imm.toInt_lt, himm⟩
  simp only [UType.fields, forall_fits_cons, forall_fits_nil] at h
  obtain ⟨hop, hrd, himm', -⟩ := h
  simp only [UType.fields, writeAll, List.foldl_cons, List.foldl_nil, rdField, immU]
  simp (disch := first | assumption | decide)
    only [Word.extractLsb'_write_inside, Word.extractLsb'_write_outside, extractLsb'_slice,
      Nat.reduceSub, Nat.add_zero, Register.extractLsb'_encoding, true_and]
  exact Immediate.signExtend_append_zero_of_isSigned (n := 20) (by decide) (by decide) hsigned

theorem views_bType {t : BType} (hd : Immediate.IsSigned 13 1 d.toInt)
    (h : ∀ f ∈ t.fields rs1.encoding rs2.encoding d, f.Fits 32) :
    let w : BitVec 32 := writeAll 0 (t.fields rs1.encoding rs2.encoding d)
    w.extractLsb' 0 7 = Opcode.branch.extractLsb' 0 7 ∧
      w.extractLsb' 12 3 = t.funct3.extractLsb' 0 3 ∧ rs1Field w = rs1 ∧ rs2Field w = rs2 ∧
        Displacement.readBranch w = d := by
  have hfits := (ReferenceKind.fits_signExtend_iff .branch d).2 hd
  refine ⟨?_, ?_, ?_, ?_, ?_⟩
  rotate_right
  · rw [BType.fields, writeAll_append]
    exact Displacement.readBranch_writeAll _ hfits
  all_goals
    simp only [BType.fields, ReferenceKind.fields, List.cons_append, List.nil_append,
      forall_fits_cons, forall_fits_nil] at h
    obtain ⟨hop, hf, hrs1, hrs2, h₁, h₂, h₃, h₄, -⟩ := h
    simp only [BType.fields, ReferenceKind.fields, List.cons_append, List.nil_append, writeAll,
      List.foldl_cons, List.foldl_nil, rs1Field, rs2Field]
    simp (disch := first | assumption | decide)
      only [Word.extractLsb'_write_inside, Word.extractLsb'_write_outside, Nat.reduceSub,
        Register.extractLsb'_encoding]

theorem views_jType (hd : Immediate.IsSigned 21 1 d.toInt)
    (h : ∀ f ∈ JType.fields rd.encoding d, f.Fits 32) :
    let w : BitVec 32 := writeAll 0 (JType.fields rd.encoding d)
    w.extractLsb' 0 7 = Opcode.jal.extractLsb' 0 7 ∧ rdField w = rd ∧
      Displacement.readJump w = d := by
  have hfits := (ReferenceKind.fits_signExtend_iff .jal d).2 hd
  refine ⟨?_, ?_, ?_⟩
  rotate_right
  · rw [JType.fields, writeAll_append]
    exact Displacement.readJump_writeAll _ hfits
  all_goals
    simp only [JType.fields, ReferenceKind.fields, List.cons_append, List.nil_append,
      forall_fits_cons, forall_fits_nil] at h
    obtain ⟨hop, hrd, h₁, h₂, h₃, h₄, -⟩ := h
    simp only [JType.fields, ReferenceKind.fields, List.cons_append, List.nil_append, writeAll,
      List.foldl_cons, List.foldl_nil, rdField]
    simp (disch := first | assumption | decide)
      only [Word.extractLsb'_write_inside, Word.extractLsb'_write_outside, Nat.reduceSub,
        Register.extractLsb'_encoding]

end Views

/-! ## Round trip -/

section RoundTrip

variable {rd rs1 rs2 : Reg} {imm shamt d w : BitVec 32}

theorem decode?_reg {op : RegOp} (hop : isDecodable (.integer (.reg op rd rs1 rs2)))
    (h : (IntegerInstr.reg op rd rs1 rs2).encode = .ok w) :
    decode? w = some (.integer (.reg op rd rs1 rs2)) := by
  obtain ⟨hfits, rfl⟩ := RType.encode_eq_ok_iff.1 h
  obtain ⟨ho, hf, hf7, hrd, hrs1, hrs2⟩ := views_rType hfits
  unfold decode?
  simp only [ho, hf, hf7, hrd, hrs1, hrs2]
  cases op <;> first | rfl | cases hop

theorem decode?_imm {op : ImmOp} (hop : isDecodable (.integer (.imm op rd rs1 imm)))
    (h : (IntegerInstr.imm op rd rs1 imm).encode = .ok w) :
    decode? w = some (.integer (.imm op rd rs1 imm)) := by
  obtain ⟨himm, hfits, rfl⟩ := IType.encode_eq_ok_iff.1 h
  obtain ⟨ho, hf, hrd, hrs1, himm'⟩ := views_iType himm hfits
  unfold decode?
  simp only [decodeOpImm, ho, hf, hrd, hrs1, himm']
  cases op <;> first | rfl | cases hop

theorem decode?_shift {op : ShiftOp} (hop : isDecodable (.integer (.shift op rd rs1 shamt)))
    (h : (IntegerInstr.shift op rd rs1 shamt).encode = .ok w) :
    decode? w = some (.integer (.shift op rd rs1 shamt)) := by
  have hrow : ∃ opcode funct3 funct, op.row = ⟨opcode, funct3, funct, 6#32⟩ := by
    cases op <;> first | exact ⟨_, _, _, rfl⟩ | cases hop
  have hbits : op.row.shamtBits.toNat < 32 := by
    cases op <;> decide
  obtain ⟨opcode, funct3, funct, hrow⟩ := hrow
  obtain ⟨hshamt, hfits, rfl⟩ := (ShiftType.encode_eq_ok_iff hbits).1 h
  rw [hrow] at hshamt hfits
  obtain ⟨ho, hf, hfunct, hrd, hrs1, hshamt'⟩ := views_shiftType hshamt hfits
  unfold decode?
  simp only [decodeOpImm, hrow, ho, hf, hfunct, hrd, hrs1, hshamt']
  cases op <;> cases hrow <;> first | rfl | cases hop

theorem decode?_upper {op : UpperOp} (hop : isDecodable (.integer (.upper op rd imm)))
    (h : (IntegerInstr.upper op rd imm).encode = .ok w) :
    decode? w = some (.integer (.upper op rd imm)) := by
  obtain ⟨himm, hfits, rfl⟩ := UType.encode_eq_ok_iff.1 h
  obtain ⟨ho, hrd, himm'⟩ := views_uType himm hfits
  unfold decode?
  simp only [ho, hrd, himm']
  cases op <;> first | rfl | cases hop

theorem decode?_load {op : LoadOp} (hop : isDecodable (.integer (.load op rd rs1 imm)))
    (h : (IntegerInstr.load op rd rs1 imm).encode = .ok w) :
    decode? w = some (.integer (.load op rd rs1 imm)) := by
  obtain ⟨himm, hfits, rfl⟩ := IType.encode_eq_ok_iff.1 h
  obtain ⟨ho, hf, hrd, hrs1, himm'⟩ := views_iType himm hfits
  unfold decode?
  simp only [ho, hf, hrd, hrs1, himm']
  cases op <;> first | rfl | cases hop

theorem decode?_store {op : StoreOp} (hop : isDecodable (.integer (.store op rs2 rs1 imm)))
    (h : (IntegerInstr.store op rs2 rs1 imm).encode = .ok w) :
    decode? w = some (.integer (.store op rs2 rs1 imm)) := by
  obtain ⟨himm, hfits, rfl⟩ := SType.encode_eq_ok_iff.1 h
  obtain ⟨ho, hf, hrs2, hrs1, himm'⟩ := views_sType himm hfits
  unfold decode?
  simp only [ho, hf, hrs2, hrs1, himm']
  cases op <;> first | rfl | cases hop

theorem decode?_branch {cond : Condition}
    (h : (IntegerInstr.branch cond rs1 rs2 d).encode = .ok w) :
    decode? w = some (.integer (.branch cond rs1 rs2 d)) := by
  obtain ⟨hd, hfits, rfl⟩ := BType.encode_eq_ok_iff.1 h
  obtain ⟨ho, hf, hrs1, hrs2, hd'⟩ := views_bType hd hfits
  unfold decode?
  simp only [ho, hf, hrs1, hrs2, hd']
  cases cond <;> rfl

theorem decode?_jal (h : (IntegerInstr.jal rd d).encode = .ok w) :
    decode? w = some (.integer (.jal rd d)) := by
  obtain ⟨hd, hfits, rfl⟩ := JType.encode_eq_ok_iff.1 h
  obtain ⟨ho, hrd, hd'⟩ := views_jType hd hfits
  unfold decode?
  simp only [ho, hrd, hd']
  rfl

theorem decode?_jalr (h : (IntegerInstr.jalr rd rs1 imm).encode = .ok w) :
    decode? w = some (.integer (.jalr rd rs1 imm)) := by
  obtain ⟨himm, hfits, rfl⟩ := IType.encode_eq_ok_iff.1 h
  obtain ⟨ho, hf, hrd, hrs1, himm'⟩ := views_iType himm hfits
  unfold decode?
  simp only [ho, hf, hrd, hrs1, himm']
  rfl

theorem decode?_floatLoad {fmt : FloatFormat} {rd : FReg}
    (hfmt : isDecodable (.float (.load fmt rd rs1 imm)))
    (h : (FloatInstr.load fmt rd rs1 imm).encode = .ok w) :
    decode? w = some (.float (.load fmt rd rs1 imm)) := by
  obtain ⟨himm, hfits, rfl⟩ := IType.encode_eq_ok_iff.1 h
  obtain ⟨ho, hf, hrd, hrs1, himm'⟩ := views_iType himm hfits
  unfold decode?
  simp only [ho, hf, hrd, hrs1, himm']
  cases fmt <;> first | rfl | cases hfmt

theorem decode?_floatStore {fmt : FloatFormat} {rs2 : FReg}
    (hfmt : isDecodable (.float (.store fmt rs2 rs1 imm)))
    (h : (FloatInstr.store fmt rs2 rs1 imm).encode = .ok w) :
    decode? w = some (.float (.store fmt rs2 rs1 imm)) := by
  obtain ⟨himm, hfits, rfl⟩ := SType.encode_eq_ok_iff.1 h
  obtain ⟨ho, hf, hrs2, hrs1, himm'⟩ := views_sType himm hfits
  unfold decode?
  simp only [ho, hf, hrs2, hrs1, himm']
  cases fmt <;> first | rfl | cases hfmt

/-- Decoding inverts encoding on the instructions that the decoder knows. -/
theorem decode?_of_encode_eq_ok {i : Instr} (hi : i.isDecodable) (h : i.encode = .ok w) :
    decode? w = some i := by
  cases i with
  | integer i =>
    cases i with
    | reg op rd rs1 rs2 => exact decode?_reg hi h
    | imm op rd rs1 value => exact decode?_imm hi h
    | shift op rd rs1 shamt => exact decode?_shift hi h
    | upper op rd value => exact decode?_upper hi h
    | load op rd rs1 offset => exact decode?_load hi h
    | store op rs2 rs1 offset => exact decode?_store hi h
    | branch cond rs1 rs2 offset => exact decode?_branch h
    | jal rd offset => exact decode?_jal h
    | jalr rd rs1 offset => exact decode?_jalr h
    | ebreak =>
      obtain rfl := Except.ok.inj h
      rfl
    | _ => cases hi
  | float i =>
    cases i with
    | load fmt rd rs1 offset => exact decode?_floatLoad hi h
    | store fmt rs2 rs1 offset => exact decode?_floatStore hi h
    | _ => cases hi
  | vector i => cases hi

end RoundTrip

end Instr

end RiscvAssembler
