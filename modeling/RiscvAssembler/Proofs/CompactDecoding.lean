import RiscvAssembler.Proofs.CompactForm

/-!
# Reading compact instructions

The decoder follows the RV64C tables, quadrant by quadrant, and knows no reserved encoding and no
hint. It recovers every form with its operands from the halfword.
-/

namespace RiscvAssembler

namespace CompactForm

variable {c : RegisterClass}

/-! ## Operand fields -/

section Operands

variable (h : BitVec 16)

def fullRd : Register c := ⟨h.extractLsb' 7 5⟩
def fullRs2 : Register c := ⟨h.extractLsb' 2 5⟩
def narrowRs1 : Register c := ⟨1#2 ++ h.extractLsb' 7 3⟩
def narrowRs2 : Register c := ⟨1#2 ++ h.extractLsb' 2 3⟩

def immSix : BitVec 32 :=
  (h.extractLsb' 12 1 ++ h.extractLsb' 2 5).signExtend 32

def shamtSix : BitVec 32 :=
  (h.extractLsb' 12 1 ++ h.extractLsb' 2 5).setWidth 32

def immLui : BitVec 32 :=
  (h.extractLsb' 12 1 ++ h.extractLsb' 2 5 ++ 0#12).signExtend 32

def immAddi16sp : BitVec 32 :=
  (h.extractLsb' 12 1 ++ h.extractLsb' 3 2 ++ h.extractLsb' 5 1 ++ h.extractLsb' 2 1 ++
    h.extractLsb' 6 1 ++ 0#4).signExtend 32

def uimmAddi4spn : BitVec 32 :=
  (h.extractLsb' 7 4 ++ h.extractLsb' 11 2 ++ h.extractLsb' 5 1 ++ h.extractLsb' 6 1 ++
    0#2).setWidth 32

def uimmDoubleword : BitVec 32 :=
  (h.extractLsb' 5 2 ++ h.extractLsb' 10 3 ++ 0#3).setWidth 32

def uimmWord : BitVec 32 :=
  (h.extractLsb' 5 1 ++ h.extractLsb' 10 3 ++ h.extractLsb' 6 1 ++ 0#2).setWidth 32

def uimmLoadDoublewordSp : BitVec 32 :=
  (h.extractLsb' 2 3 ++ h.extractLsb' 12 1 ++ h.extractLsb' 5 2 ++ 0#3).setWidth 32

def uimmLoadWordSp : BitVec 32 :=
  (h.extractLsb' 2 2 ++ h.extractLsb' 12 1 ++ h.extractLsb' 4 3 ++ 0#2).setWidth 32

def uimmStoreDoublewordSp : BitVec 32 :=
  (h.extractLsb' 7 3 ++ h.extractLsb' 10 3 ++ 0#3).setWidth 32

def uimmStoreWordSp : BitVec 32 :=
  (h.extractLsb' 7 2 ++ h.extractLsb' 9 4 ++ 0#2).setWidth 32

end Operands

/-! ## Decoding -/

/-- The form when its operands are not those of a reserved encoding or a hint. -/
def reject (p : Prop) [Decidable p] (form : CompactForm) : Option CompactForm :=
  if p then none else some form

def decodeQuadrant0 (h : BitVec 16) : Option CompactForm :=
  match h.extractLsb' 13 3 with
  | 0b000#3 => reject (uimmAddi4spn h = 0#32) (.addi4spn (narrowRs2 h) (uimmAddi4spn h))
  | 0b001#3 => some (.fld (narrowRs2 h) (narrowRs1 h) (uimmDoubleword h))
  | 0b010#3 => some (.lw (narrowRs2 h) (narrowRs1 h) (uimmWord h))
  | 0b011#3 => some (.ld (narrowRs2 h) (narrowRs1 h) (uimmDoubleword h))
  | 0b101#3 => some (.fsd (narrowRs2 h) (narrowRs1 h) (uimmDoubleword h))
  | 0b110#3 => some (.sw (narrowRs2 h) (narrowRs1 h) (uimmWord h))
  | 0b111#3 => some (.sd (narrowRs2 h) (narrowRs1 h) (uimmDoubleword h))
  | _ => none

def decodeArith (h : BitVec 16) : Option CompactArithOp :=
  match h.extractLsb' 12 1, h.extractLsb' 5 2 with
  | 0#1, 0b00#2 => some .sub
  | 0#1, 0b01#2 => some .xor
  | 0#1, 0b10#2 => some .or
  | 0#1, 0b11#2 => some .and
  | 1#1, 0b00#2 => some .subw
  | 1#1, 0b01#2 => some .addw
  | _, _ => none

def decodeNarrow (h : BitVec 16) : Option CompactForm :=
  match h.extractLsb' 10 2 with
  | 0b00#2 => reject (shamtSix h = 0#32) (.srli (narrowRs1 h) (shamtSix h))
  | 0b01#2 => reject (shamtSix h = 0#32) (.srai (narrowRs1 h) (shamtSix h))
  | 0b10#2 => some (.andi (narrowRs1 h) (immSix h))
  | 0b11#2 => (decodeArith h).map fun op => .arith op (narrowRs1 h) (narrowRs2 h)
  | _ => none

def decodeQuadrant1 (h : BitVec 16) : Option CompactForm :=
  match h.extractLsb' 13 3 with
  | 0b000#3 => reject (fullRd h = Reg.zero ∨ immSix h = 0#32) (.addi (fullRd h) (immSix h))
  | 0b001#3 => reject (fullRd h = Reg.zero) (.addiw (fullRd h) (immSix h))
  | 0b010#3 => reject (fullRd h = Reg.zero) (.li (fullRd h) (immSix h))
  | 0b011#3 =>
    if fullRd h = Reg.sp then reject (immAddi16sp h = 0#32) (.addi16sp (immAddi16sp h))
    else reject (fullRd h = Reg.zero ∨ immLui h = 0#32) (.lui (fullRd h) (immLui h))
  | 0b100#3 => decodeNarrow h
  | 0b101#3 => some (.j (Displacement.readCompactJump h))
  | 0b110#3 => some (.beqz (narrowRs1 h) (Displacement.readCompactBranch h))
  | 0b111#3 => some (.bnez (narrowRs1 h) (Displacement.readCompactBranch h))
  | _ => none

def decodePair (h : BitVec 16) : Option CompactForm :=
  match h.extractLsb' 12 1 with
  | 0#1 =>
    if fullRs2 h = Reg.zero then reject (fullRd h = Reg.zero) (.jr (fullRd h))
    else reject (fullRd h = Reg.zero) (.mv (fullRd h) (fullRs2 h))
  | 1#1 =>
    if fullRs2 h = Reg.zero then
      if fullRd h = Reg.zero then some .ebreak else some (.jalr (fullRd h))
    else reject (fullRd h = Reg.zero) (.add (fullRd h) (fullRs2 h))
  | _ => none

def decodeQuadrant2 (h : BitVec 16) : Option CompactForm :=
  match h.extractLsb' 13 3 with
  | 0b000#3 => reject (fullRd h = Reg.zero ∨ shamtSix h = 0#32) (.slli (fullRd h) (shamtSix h))
  | 0b001#3 => some (.fldsp (fullRd h) (uimmLoadDoublewordSp h))
  | 0b010#3 => reject (fullRd h = Reg.zero) (.lwsp (fullRd h) (uimmLoadWordSp h))
  | 0b011#3 => reject (fullRd h = Reg.zero) (.ldsp (fullRd h) (uimmLoadDoublewordSp h))
  | 0b100#3 => decodePair h
  | 0b101#3 => some (.fsdsp (fullRs2 h) (uimmStoreDoublewordSp h))
  | 0b110#3 => some (.swsp (fullRs2 h) (uimmStoreWordSp h))
  | 0b111#3 => some (.sdsp (fullRs2 h) (uimmStoreDoublewordSp h))
  | _ => none

/-- The form that a halfword encodes. -/
def decode? (h : BitVec 16) : Option CompactForm :=
  match h.extractLsb' 0 2 with
  | 0b00#2 => decodeQuadrant0 h
  | 0b01#2 => decodeQuadrant1 h
  | 0b10#2 => decodeQuadrant2 h
  | _ => none

/-! ## What a packed halfword reads as -/

theorem append_extractLsb'_encoding_sub {r : Register c} (hr : r.isCompact) :
    1#2 ++ (r.encoding - 8#32).extractLsb' 0 3 = r.index := by
  have hall : ∀ x : BitVec 5, (8 ≤ x.toNat && x.toNat ≤ 15) = true →
      1#2 ++ (x.setWidth 32 - 8#32).extractLsb' 0 3 = x := by decide
  exact hall r.index hr

section Views

variable {h : BitVec 16} {imm uimm d funct : BitVec 32} {rd rs1 rs2 : Reg} {data : Register c}
  {op : CompactArithOp}

theorem signedFields_views (hw : h = writeAll 0 (signedFields funct rd imm))
    (hf : funct.toNat < 2 ^ 3) (himm : Immediate.IsSigned 6 0 imm.toInt) :
    h.extractLsb' 0 2 = 1#2 ∧ h.extractLsb' 13 3 = funct.extractLsb' 0 3 ∧ fullRd h = rd ∧
      immSix h = imm := by
  subst hw
  have hfunct : Word.Fits 16 15 13 funct := ⟨by decide, by decide, hf⟩
  have hrd : Word.Fits 16 11 7 rd.encoding := rd.fits_encoding (by decide)
  simp only [signedFields, base, splitImmediate, List.cons_append, List.nil_append, writeAll,
    List.foldl_cons, List.foldl_nil, fullRd, immSix]
  simp (disch := first | assumption | exact Word.fits_slice _ (by decide) | decide)
    only [Word.extractLsb'_write_inside, Word.extractLsb'_write_outside, extractLsb'_slice,
      BitVec.extractLsb'_append_extractLsb'_eq_extractLsb', Nat.reduceSub, Nat.add_zero,
      Register.extractLsb'_encoding, true_and]
  exact ⟨rfl, Immediate.signExtend_extractLsb'_of_isSigned (by decide) (by decide) himm⟩

theorem narrowFields_views (hw : h = writeAll 0 (narrowFields funct rd imm))
    (hf : funct.toNat < 2 ^ 2) (hrd : rd.isCompact) :
    h.extractLsb' 0 2 = 1#2 ∧ h.extractLsb' 13 3 = 4#3 ∧
      h.extractLsb' 10 2 = funct.extractLsb' 0 2 ∧ narrowRs1 h = rd ∧
        h.extractLsb' 12 1 ++ h.extractLsb' 2 5 = imm.extractLsb' 0 6 := by
  subst hw
  have hfunct : Word.Fits 16 11 10 funct := ⟨by decide, by decide, hf⟩
  have hrd' : Word.Fits 16 9 7 (rd.encoding - 8#32) :=
    Register.fits_encoding_sub hrd (by decide)
  simp only [narrowFields, base, splitImmediate, List.cons_append, List.nil_append, writeAll,
    List.foldl_cons, List.foldl_nil, narrowRs1]
  simp (disch := first | assumption | exact Word.fits_slice _ (by decide) | decide)
    only [Word.extractLsb'_write_inside, Word.extractLsb'_write_outside, extractLsb'_slice,
      BitVec.extractLsb'_append_extractLsb'_eq_extractLsb', Nat.reduceSub, Nat.add_zero,
      append_extractLsb'_encoding_sub, true_and]
  exact ⟨rfl, rfl, trivial⟩

theorem pairFields_views (hw : h = writeAll 0 (pairFields funct rd rs2))
    (hf : funct.toNat < 2 ^ 4) :
    h.extractLsb' 0 2 = 2#2 ∧ h.extractLsb' 13 3 = funct.extractLsb' 1 3 ∧
      h.extractLsb' 12 1 = funct.extractLsb' 0 1 ∧ fullRd h = rd ∧ fullRs2 h = rs2 := by
  subst hw
  have hfunct : Word.Fits 16 15 12 funct := ⟨by decide, by decide, hf⟩
  have hrd : Word.Fits 16 11 7 rd.encoding := rd.fits_encoding (by decide)
  have hrs2 : Word.Fits 16 6 2 rs2.encoding := rs2.fits_encoding (by decide)
  simp only [pairFields, writeAll, List.foldl_cons, List.foldl_nil, fullRd, fullRs2]
  simp (disch := first | assumption | exact Word.fits_slice _ (by decide) | decide)
    only [Word.extractLsb'_write_inside, Word.extractLsb'_write_outside, Nat.reduceSub,
      Register.extractLsb'_encoding, and_true]
  rfl

theorem branchFields_views (hw : h = writeAll 0 (branchFields funct rs1 d))
    (hf : funct.toNat < 2 ^ 3) (hrs1 : rs1.isCompact) (hd : Immediate.IsSigned 9 1 d.toInt) :
    h.extractLsb' 0 2 = 1#2 ∧ h.extractLsb' 13 3 = funct.extractLsb' 0 3 ∧
      narrowRs1 h = rs1 ∧ Displacement.readCompactBranch h = d := by
  subst hw
  have hfunct : Word.Fits 16 15 13 funct := ⟨by decide, by decide, hf⟩
  have hrs1' : Word.Fits 16 9 7 (rs1.encoding - 8#32) :=
    Register.fits_encoding_sub hrs1 (by decide)
  have hfits := (ReferenceKind.fits_signExtend_iff .cBranch d).2 hd
  refine ⟨?_, ?_, ?_, ?_⟩
  rotate_right
  · rw [branchFields, writeAll_append]
    exact Displacement.readCompactBranch_writeAll _ hfits
  all_goals
    simp only [branchFields, base, ReferenceKind.fields, List.cons_append, List.nil_append,
      writeAll, List.foldl_cons, List.foldl_nil, narrowRs1]
    simp (disch := first | assumption | exact Word.fits_slice _ (by decide) | decide)
      only [Word.extractLsb'_write_inside, Word.extractLsb'_write_outside, Nat.reduceSub,
        append_extractLsb'_encoding_sub]
  rfl

theorem doublewordFields_views (hw : h = writeAll 0 (doublewordFields funct data rs1 uimm))
    (hf : funct.toNat < 2 ^ 3) (hdata : data.isCompact) (hrs1 : rs1.isCompact)
    (huimm : Immediate.IsUnsigned 8 3 uimm.toNat) :
    h.extractLsb' 0 2 = 0#2 ∧ h.extractLsb' 13 3 = funct.extractLsb' 0 3 ∧
      narrowRs2 h = data ∧ narrowRs1 h = rs1 ∧ uimmDoubleword h = uimm := by
  subst hw
  have hfunct : Word.Fits 16 15 13 funct := ⟨by decide, by decide, hf⟩
  have hdata' : Word.Fits 16 4 2 (data.encoding - 8#32) :=
    Register.fits_encoding_sub hdata (by decide)
  have hrs1' : Word.Fits 16 9 7 (rs1.encoding - 8#32) :=
    Register.fits_encoding_sub hrs1 (by decide)
  simp only [doublewordFields, base, List.cons_append, List.nil_append, writeAll,
    List.foldl_cons, List.foldl_nil, narrowRs1, narrowRs2, uimmDoubleword]
  simp (disch := first | assumption | exact Word.fits_slice _ (by decide) | decide)
    only [Word.extractLsb'_write_inside, Word.extractLsb'_write_outside, extractLsb'_slice,
      BitVec.extractLsb'_append_extractLsb'_eq_extractLsb', Nat.reduceSub, Nat.add_zero,
      append_extractLsb'_encoding_sub, true_and]
  exact ⟨rfl, Immediate.setWidth_append_zero_of_isUnsigned (n := 5) huimm⟩

theorem wordFields_views (hw : h = writeAll 0 (wordFields funct rd rs1 uimm))
    (hf : funct.toNat < 2 ^ 3) (hrd : rd.isCompact) (hrs1 : rs1.isCompact)
    (huimm : Immediate.IsUnsigned 7 2 uimm.toNat) :
    h.extractLsb' 0 2 = 0#2 ∧ h.extractLsb' 13 3 = funct.extractLsb' 0 3 ∧ narrowRs2 h = rd ∧
      narrowRs1 h = rs1 ∧ uimmWord h = uimm := by
  subst hw
  have hfunct : Word.Fits 16 15 13 funct := ⟨by decide, by decide, hf⟩
  have hrd' : Word.Fits 16 4 2 (rd.encoding - 8#32) :=
    Register.fits_encoding_sub hrd (by decide)
  have hrs1' : Word.Fits 16 9 7 (rs1.encoding - 8#32) :=
    Register.fits_encoding_sub hrs1 (by decide)
  simp only [wordFields, base, List.cons_append, List.nil_append, writeAll,
    List.foldl_cons, List.foldl_nil, narrowRs1, narrowRs2, uimmWord]
  simp (disch := first | assumption | exact Word.fits_slice _ (by decide) | decide)
    only [Word.extractLsb'_write_inside, Word.extractLsb'_write_outside, extractLsb'_slice,
      BitVec.extractLsb'_append_extractLsb'_eq_extractLsb', Nat.reduceSub, Nat.add_zero,
      append_extractLsb'_encoding_sub, true_and]
  exact ⟨rfl, Immediate.setWidth_append_zero_of_isUnsigned (n := 5) huimm⟩

theorem stackLoadFields_views (hw : h = writeAll 0 (stackLoadFields funct data uimm))
    (hf : funct.toNat < 2 ^ 3) (huimm : Immediate.IsUnsigned 9 3 uimm.toNat) :
    h.extractLsb' 0 2 = 2#2 ∧ h.extractLsb' 13 3 = funct.extractLsb' 0 3 ∧ fullRd h = data ∧
      uimmLoadDoublewordSp h = uimm := by
  subst hw
  have hfunct : Word.Fits 16 15 13 funct := ⟨by decide, by decide, hf⟩
  have hdata : Word.Fits 16 11 7 data.encoding := data.fits_encoding (by decide)
  simp only [stackLoadFields, base, List.cons_append, List.nil_append, writeAll,
    List.foldl_cons, List.foldl_nil, fullRd, uimmLoadDoublewordSp]
  simp (disch := first | assumption | exact Word.fits_slice _ (by decide) | decide)
    only [Word.extractLsb'_write_inside, Word.extractLsb'_write_outside, extractLsb'_slice,
      BitVec.extractLsb'_append_extractLsb'_eq_extractLsb', Nat.reduceSub, Nat.add_zero,
      Register.extractLsb'_encoding, true_and]
  exact ⟨rfl, Immediate.setWidth_append_zero_of_isUnsigned (n := 6) huimm⟩

theorem stackStoreFields_views (hw : h = writeAll 0 (stackStoreFields funct data uimm))
    (hf : funct.toNat < 2 ^ 3) (huimm : Immediate.IsUnsigned 9 3 uimm.toNat) :
    h.extractLsb' 0 2 = 2#2 ∧ h.extractLsb' 13 3 = funct.extractLsb' 0 3 ∧ fullRs2 h = data ∧
      uimmStoreDoublewordSp h = uimm := by
  subst hw
  have hfunct : Word.Fits 16 15 13 funct := ⟨by decide, by decide, hf⟩
  have hdata : Word.Fits 16 6 2 data.encoding := data.fits_encoding (by decide)
  simp only [stackStoreFields, base, List.cons_append, List.nil_append, writeAll,
    List.foldl_cons, List.foldl_nil, fullRs2, uimmStoreDoublewordSp]
  simp (disch := first | assumption | exact Word.fits_slice _ (by decide) | decide)
    only [Word.extractLsb'_write_inside, Word.extractLsb'_write_outside, extractLsb'_slice,
      BitVec.extractLsb'_append_extractLsb'_eq_extractLsb', Nat.reduceSub, Nat.add_zero,
      Register.extractLsb'_encoding, true_and]
  exact ⟨rfl, Immediate.setWidth_append_zero_of_isUnsigned (n := 6) huimm⟩

theorem addi16sp_views (hw : h = writeAll 0 (addi16sp imm).fields)
    (himm : Immediate.IsSigned 10 4 imm.toInt) :
    h.extractLsb' 0 2 = 1#2 ∧ h.extractLsb' 13 3 = 3#3 ∧ fullRd h = Reg.sp ∧
      immAddi16sp h = imm := by
  subst hw
  simp only [fields, base, List.cons_append, List.nil_append, writeAll, List.foldl_cons,
    List.foldl_nil, fullRd, immAddi16sp]
  simp (disch := first | assumption | exact Word.fits_slice _ (by decide) | decide)
    only [Word.extractLsb'_write_inside, Word.extractLsb'_write_outside, extractLsb'_slice,
      BitVec.extractLsb'_append_extractLsb'_eq_extractLsb', Nat.reduceSub, Nat.add_zero,
      Register.extractLsb'_encoding]
  exact ⟨rfl, rfl, trivial, Immediate.signExtend_append_zero_of_isSigned (n := 6) (by decide)
    (by decide) himm⟩

theorem addi4spn_views (hw : h = writeAll 0 (addi4spn rd uimm).fields) (hrd : rd.isCompact)
    (huimm : Immediate.IsUnsigned 10 2 uimm.toNat) :
    h.extractLsb' 0 2 = 0#2 ∧ h.extractLsb' 13 3 = 0#3 ∧ narrowRs2 h = rd ∧
      uimmAddi4spn h = uimm := by
  subst hw
  have hrd' : Word.Fits 16 4 2 (rd.encoding - 8#32) :=
    Register.fits_encoding_sub hrd (by decide)
  simp only [fields, base, List.cons_append, List.nil_append, writeAll, List.foldl_cons,
    List.foldl_nil, narrowRs2, uimmAddi4spn]
  simp (disch := first | assumption | exact Word.fits_slice _ (by decide) | decide)
    only [Word.extractLsb'_write_inside, Word.extractLsb'_write_outside, extractLsb'_slice,
      BitVec.extractLsb'_append_extractLsb'_eq_extractLsb', Nat.reduceSub, Nat.add_zero,
      append_extractLsb'_encoding_sub, true_and]
  exact ⟨rfl, rfl, Immediate.setWidth_append_zero_of_isUnsigned (n := 8) huimm⟩

theorem slli_views (hw : h = writeAll 0 (slli rd imm).fields) :
    h.extractLsb' 0 2 = 2#2 ∧ h.extractLsb' 13 3 = 0#3 ∧ fullRd h = rd ∧
      h.extractLsb' 12 1 ++ h.extractLsb' 2 5 = imm.extractLsb' 0 6 := by
  subst hw
  have hrd : Word.Fits 16 11 7 rd.encoding := rd.fits_encoding (by decide)
  simp only [fields, base, splitImmediate, List.cons_append, List.nil_append, writeAll,
    List.foldl_cons, List.foldl_nil, fullRd]
  simp (disch := first | assumption | exact Word.fits_slice _ (by decide) | decide)
    only [Word.extractLsb'_write_inside, Word.extractLsb'_write_outside, extractLsb'_slice,
      BitVec.extractLsb'_append_extractLsb'_eq_extractLsb', Nat.reduceSub, Nat.add_zero,
      Register.extractLsb'_encoding, true_and]
  exact ⟨rfl, rfl, trivial⟩

theorem lui_views (hw : h = writeAll 0 (lui rd imm).fields)
    (himm : Immediate.IsSigned 18 12 imm.toInt) :
    h.extractLsb' 0 2 = 1#2 ∧ h.extractLsb' 13 3 = 3#3 ∧ fullRd h = rd ∧ immLui h = imm := by
  subst hw
  have hrd : Word.Fits 16 11 7 rd.encoding := rd.fits_encoding (by decide)
  simp only [fields, base, List.cons_append, List.nil_append, writeAll, List.foldl_cons,
    List.foldl_nil, fullRd, immLui]
  simp (disch := first | assumption | exact Word.fits_slice _ (by decide) | decide)
    only [Word.extractLsb'_write_inside, Word.extractLsb'_write_outside, extractLsb'_slice,
      BitVec.extractLsb'_append_extractLsb'_eq_extractLsb', Nat.reduceSub, Nat.add_zero,
      Register.extractLsb'_encoding, true_and]
  exact ⟨rfl, rfl, Immediate.signExtend_append_zero_of_isSigned (n := 6) (by decide) (by decide)
    himm⟩

theorem j_views (hw : h = writeAll 0 (j d).fields) (hd : Immediate.IsSigned 12 1 d.toInt) :
    h.extractLsb' 0 2 = 1#2 ∧ h.extractLsb' 13 3 = 5#3 ∧
      Displacement.readCompactJump h = d := by
  subst hw
  have hfits := (ReferenceKind.fits_signExtend_iff .cJump d).2 hd
  refine ⟨?_, ?_, ?_⟩
  rotate_right
  · rw [fields, writeAll_append]
    exact Displacement.readCompactJump_writeAll _ hfits
  all_goals
    simp only [fields, base, ReferenceKind.fields, List.cons_append, List.nil_append, writeAll,
      List.foldl_cons, List.foldl_nil]
    simp (disch := first | assumption | exact Word.fits_slice _ (by decide) | decide)
      only [Word.extractLsb'_write_inside, Word.extractLsb'_write_outside, Nat.reduceSub]
  · rfl
  · rfl

theorem lwsp_views (hw : h = writeAll 0 (lwsp rd uimm).fields)
    (huimm : Immediate.IsUnsigned 8 2 uimm.toNat) :
    h.extractLsb' 0 2 = 2#2 ∧ h.extractLsb' 13 3 = 2#3 ∧ fullRd h = rd ∧
      uimmLoadWordSp h = uimm := by
  subst hw
  have hrd : Word.Fits 16 11 7 rd.encoding := rd.fits_encoding (by decide)
  simp only [fields, base, List.cons_append, List.nil_append, writeAll, List.foldl_cons,
    List.foldl_nil, fullRd, uimmLoadWordSp]
  simp (disch := first | assumption | exact Word.fits_slice _ (by decide) | decide)
    only [Word.extractLsb'_write_inside, Word.extractLsb'_write_outside, extractLsb'_slice,
      BitVec.extractLsb'_append_extractLsb'_eq_extractLsb', Nat.reduceSub, Nat.add_zero,
      Register.extractLsb'_encoding, true_and]
  exact ⟨rfl, rfl, Immediate.setWidth_append_zero_of_isUnsigned (n := 6) huimm⟩

theorem swsp_views (hw : h = writeAll 0 (swsp rs2 uimm).fields)
    (huimm : Immediate.IsUnsigned 8 2 uimm.toNat) :
    h.extractLsb' 0 2 = 2#2 ∧ h.extractLsb' 13 3 = 6#3 ∧ fullRs2 h = rs2 ∧
      uimmStoreWordSp h = uimm := by
  subst hw
  have hrs2 : Word.Fits 16 6 2 rs2.encoding := rs2.fits_encoding (by decide)
  simp only [fields, base, List.cons_append, List.nil_append, writeAll, List.foldl_cons,
    List.foldl_nil, fullRs2, uimmStoreWordSp]
  simp (disch := first | assumption | exact Word.fits_slice _ (by decide) | decide)
    only [Word.extractLsb'_write_inside, Word.extractLsb'_write_outside, extractLsb'_slice,
      BitVec.extractLsb'_append_extractLsb'_eq_extractLsb', Nat.reduceSub, Nat.add_zero,
      Register.extractLsb'_encoding, true_and]
  exact ⟨rfl, rfl, Immediate.setWidth_append_zero_of_isUnsigned (n := 6) huimm⟩

theorem arith_views (hw : h = writeAll 0 (arith op rd rs2).fields) (hrd : rd.isCompact)
    (hrs2 : rs2.isCompact) :
    h.extractLsb' 0 2 = 1#2 ∧ h.extractLsb' 13 3 = 4#3 ∧ h.extractLsb' 10 2 = 3#2 ∧
      decodeArith h = some op ∧ narrowRs1 h = rd ∧ narrowRs2 h = rs2 := by
  subst hw
  have hrd' : Word.Fits 16 9 7 (rd.encoding - 8#32) :=
    Register.fits_encoding_sub hrd (by decide)
  have hrs2' : Word.Fits 16 4 2 (rs2.encoding - 8#32) :=
    Register.fits_encoding_sub hrs2 (by decide)
  have hfunct6 : Word.Fits 16 15 10 op.funct6 := by cases op <;> decide
  have hfunct2 : Word.Fits 16 6 5 op.funct2 := by cases op <;> decide
  simp only [fields, writeAll, List.foldl_cons, List.foldl_nil, narrowRs1, narrowRs2, decodeArith]
  simp (disch := first | assumption | exact Word.fits_slice _ (by decide) | decide)
    only [Word.extractLsb'_write_inside, Word.extractLsb'_write_outside, Nat.reduceSub,
      append_extractLsb'_encoding_sub]
  cases op <;> exact ⟨rfl, rfl, rfl, rfl, trivial, trivial⟩

end Views

/-! ## Round trip -/

theorem reject_of_not {p : Prop} [Decidable p] (h : ¬ p) (form : CompactForm) :
    reject p form = some form :=
  if_neg h

theorem setWidth_shamt {shamt : BitVec 32} (h : shamt.toNat < 64) :
    (shamt.extractLsb' 0 6).setWidth 32 = shamt :=
  Immediate.setWidth_extractLsb'_of_isUnsigned (a := 0) ⟨h, one_dvd _⟩

theorem ne_zero_of_one_le {x : BitVec 32} (h : 1 ≤ x.toNat) : x ≠ 0#32 := by
  rintro rfl
  exact absurd h (by decide)

/-- A valid form is read back from its fields. -/
theorem decode?_of_eq_writeAll {form : CompactForm} {h : BitVec 16} (hform : form.Valid)
    (hw : h = writeAll 0 form.fields) : decode? h = some form := by
  -- the operands of a valid form pass the tests against reserved encodings and hints
  cases form with
  | addi rd imm =>
    obtain ⟨hrd, hne, himm⟩ := hform
    obtain ⟨hq, hf, hrd', himm'⟩ := signedFields_views hw (by decide) himm
    simp only [decode?, decodeQuadrant1, BitVec.reduceExtractLsb', hq, hf, hrd', himm']
    exact reject_of_not (not_or.2 ⟨hrd, hne⟩) _
  | addiw rd imm | li rd imm =>
    obtain ⟨hrd, himm⟩ := hform
    obtain ⟨hq, hf, hrd', himm'⟩ := signedFields_views hw (by decide) himm
    simp only [decode?, decodeQuadrant1, BitVec.reduceExtractLsb', hq, hf, hrd', himm']
    exact reject_of_not hrd _
  | addi16sp imm =>
    obtain ⟨hne, himm⟩ := hform
    obtain ⟨hq, hf, hrd', himm'⟩ := addi16sp_views hw himm
    simp only [decode?, decodeQuadrant1, hq, hf, hrd', himm', if_pos]
    exact reject_of_not hne _
  | addi4spn rd uimm =>
    obtain ⟨hrd, hne, huimm⟩ := hform
    obtain ⟨hq, hf, hrd', huimm'⟩ := addi4spn_views hw hrd huimm
    simp only [decode?, decodeQuadrant0, hq, hf, hrd', huimm']
    exact reject_of_not hne _
  | slli rd shamt =>
    obtain ⟨hrd, hlow, hhigh⟩ := hform
    obtain ⟨hq, hf, hrd', hbits⟩ := slli_views hw
    simp only [decode?, decodeQuadrant2, hq, hf, hrd', shamtSix, hbits, setWidth_shamt hhigh]
    exact reject_of_not (not_or.2 ⟨hrd, ne_zero_of_one_le hlow⟩) _
  | srli rd shamt | srai rd shamt =>
    obtain ⟨hrd, hlow, hhigh⟩ := hform
    obtain ⟨hq, hf, hfunct, hrd', hbits⟩ := narrowFields_views hw (by decide) hrd
    simp only [decode?, decodeQuadrant1, decodeNarrow, BitVec.reduceExtractLsb', hq, hf, hfunct,
      hrd', shamtSix, hbits, setWidth_shamt hhigh]
    exact reject_of_not (ne_zero_of_one_le hlow) _
  | andi rd imm =>
    obtain ⟨hrd, himm⟩ := hform
    obtain ⟨hq, hf, hfunct, hrd', hbits⟩ := narrowFields_views hw (by decide) hrd
    simp only [decode?, decodeQuadrant1, decodeNarrow, BitVec.reduceExtractLsb', hq, hf, hfunct,
      hrd', immSix, hbits, Immediate.signExtend_extractLsb'_of_isSigned (show 6 ≤ 32 by decide)
      (by decide) himm]
  | arith op rd rs2 =>
    obtain ⟨hrd, hrs2⟩ := hform
    obtain ⟨hq, hf, hfunct, hop, hrd', hrs2'⟩ := arith_views hw hrd hrs2
    simp only [decode?, decodeQuadrant1, decodeNarrow, hq, hf, hfunct, hop, hrd', hrs2',
      Option.map_some]
  | mv rd rs2 | add rd rs2 =>
    obtain ⟨hrd, hrs2⟩ := hform
    obtain ⟨hq, hf, hbit, hrd', hrs2'⟩ := pairFields_views hw (by decide)
    simp only [decode?, decodeQuadrant2, decodePair, BitVec.reduceExtractLsb', hq, hf, hbit, hrd',
      hrs2', if_neg hrs2]
    exact reject_of_not hrd _
  | lui rd imm =>
    obtain ⟨hzero, hsp, hne, himm⟩ := hform
    obtain ⟨hq, hf, hrd', himm'⟩ := lui_views hw himm
    simp only [decode?, decodeQuadrant1, hq, hf, hrd', himm', if_neg hsp]
    exact reject_of_not (not_or.2 ⟨hzero, hne⟩) _
  | jr rs1 =>
    obtain ⟨hq, hf, hbit, hrd', hrs2'⟩ := pairFields_views hw (by decide)
    simp only [decode?, decodeQuadrant2, decodePair, BitVec.reduceExtractLsb', hq, hf, hbit, hrd',
      hrs2', if_pos]
    exact reject_of_not hform _
  | jalr rs1 =>
    obtain ⟨hq, hf, hbit, hrd', hrs2'⟩ := pairFields_views hw (by decide)
    simp only [decode?, decodeQuadrant2, decodePair, BitVec.reduceExtractLsb', hq, hf, hbit, hrd',
      hrs2', if_pos]
    exact if_neg hform
  | j d =>
    obtain ⟨hq, hf, hd'⟩ := j_views hw hform
    simp only [decode?, decodeQuadrant1, hq, hf, hd']
  | beqz rs1 d | bnez rs1 d =>
    obtain ⟨hrs1, hd⟩ := hform
    obtain ⟨hq, hf, hrs1', hd'⟩ := branchFields_views hw (by decide) hrs1 hd
    simp only [decode?, decodeQuadrant1, BitVec.reduceExtractLsb', hq, hf, hrs1', hd']
  | ebreak =>
    subst hw
    rfl
  | ld data rs1 uimm | sd data rs1 uimm | fld data rs1 uimm | fsd data rs1 uimm =>
    obtain ⟨hdata, hrs1, huimm⟩ := hform
    obtain ⟨hq, hf, hdata', hrs1', huimm'⟩ :=
      doublewordFields_views hw (by decide) hdata hrs1 huimm
    simp only [decode?, decodeQuadrant0, BitVec.reduceExtractLsb', hq, hf, hdata', hrs1', huimm']
  | lw data rs1 uimm | sw data rs1 uimm =>
    obtain ⟨hdata, hrs1, huimm⟩ := hform
    obtain ⟨hq, hf, hdata', hrs1', huimm'⟩ := wordFields_views hw (by decide) hdata hrs1 huimm
    simp only [decode?, decodeQuadrant0, BitVec.reduceExtractLsb', hq, hf, hdata', hrs1', huimm']
  | ldsp rd uimm =>
    obtain ⟨hrd, huimm⟩ := hform
    obtain ⟨hq, hf, hrd', huimm'⟩ := stackLoadFields_views hw (by decide) huimm
    simp only [decode?, decodeQuadrant2, BitVec.reduceExtractLsb', hq, hf, hrd', huimm']
    exact reject_of_not hrd _
  | fldsp rd uimm =>
    obtain ⟨hq, hf, hrd', huimm'⟩ := stackLoadFields_views hw (by decide) hform
    simp only [decode?, decodeQuadrant2, BitVec.reduceExtractLsb', hq, hf, hrd', huimm']
  | sdsp rs2 uimm | fsdsp rs2 uimm =>
    obtain ⟨hq, hf, hrs2', huimm'⟩ := stackStoreFields_views hw (by decide) hform
    simp only [decode?, decodeQuadrant2, BitVec.reduceExtractLsb', hq, hf, hrs2', huimm']
  | lwsp rd uimm =>
    obtain ⟨hrd, huimm⟩ := hform
    obtain ⟨hq, hf, hrd', huimm'⟩ := lwsp_views hw huimm
    simp only [decode?, decodeQuadrant2, hq, hf, hrd', huimm']
    exact reject_of_not hrd _
  | swsp rs2 uimm =>
    obtain ⟨hq, hf, hrs2', huimm'⟩ := swsp_views hw hform
    simp only [decode?, decodeQuadrant2, hq, hf, hrs2', huimm']

/-- Decoding inverts encoding. -/
theorem decode?_of_encode_eq_ok {form : CompactForm} {w : BitVec 16} (h : form.encode = .ok w) :
    decode? w = some form := by
  obtain ⟨hvalid, hw⟩ := encode_eq_ok_iff.1 h
  exact decode?_of_eq_writeAll hvalid hw

end CompactForm

end RiscvAssembler
