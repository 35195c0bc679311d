import RiscvAssembler.Proofs.RoundTrip

/-!
# Layouts of instructions

Every canonical instruction is laid out by a format or by fields of its own. Some of the fields are
the same for all operands: they tell the operation. The others hold the operands, so that an
instruction is known from its operation and its word.
-/

namespace RiscvAssembler

/-! ## Operands from their fields -/

section Encodings

variable {c : RegisterClass}

def Register.ofEncoding (v : BitVec 32) : Register c :=
  ⟨v.setWidth 5⟩

@[simp]
theorem Register.ofEncoding_encoding (r : Register c) : ofEncoding r.encoding = r := by
  rw [ofEncoding, encoding, BitVec.setWidth_setWidth_of_le _ (by decide), BitVec.setWidth_eq]

def RoundingMode.ofEncoding (v : BitVec 32) : RoundingMode :=
  ([rne, rtz, rdn, rup, rmm].find? (·.encoding == v)).getD dyn

@[simp]
theorem RoundingMode.ofEncoding_encoding (rm : RoundingMode) : ofEncoding rm.encoding = rm := by
  cases rm <;> rfl

def VectorMask.ofEncoding (v : BitVec 32) : VectorMask :=
  if v = 0#32 then masked else unmasked

@[simp]
theorem VectorMask.ofEncoding_encoding (vm : VectorMask) : ofEncoding vm.encoding = vm := by
  cases vm <;> rfl

def FieldCount.ofEncoding (v : BitVec 32) : FieldCount :=
  ⟨v.setWidth 3⟩

@[simp]
theorem FieldCount.ofEncoding_encoding (count : FieldCount) : ofEncoding count.encoding = count := by
  rw [ofEncoding, encoding, BitVec.setWidth_setWidth_of_le _ (by decide), BitVec.setWidth_eq]

def Sew.ofEncoding (v : BitVec 32) : Sew :=
  ([e8, e16, e32].find? (·.encoding == v)).getD e64

@[simp]
theorem Sew.ofEncoding_encoding (sew : Sew) : ofEncoding sew.encoding = sew := by
  cases sew <;> rfl

def Lmul.ofEncoding (v : BitVec 32) : Lmul :=
  ([mf8, mf4, mf2, m1, m2, m4].find? (·.encoding == v)).getD m8

@[simp]
theorem Lmul.ofEncoding_encoding (lmul : Lmul) : ofEncoding lmul.encoding = lmul := by
  cases lmul <;> rfl

def ofBit (v : BitVec 32) : Bool :=
  v == 1#32

@[simp]
theorem ofBit_bitOf (b : Bool) : ofBit (bitOf b) = b := by
  cases b <;> rfl

/-- A signed number of five bits. -/
def ofSigned5 (v : BitVec 32) : BitVec 32 :=
  (v.extractLsb' 0 5).signExtend 32

end Encodings

/-! ## Layouts -/

/-- How the word of an instruction is laid out. -/
inductive Layout
  | format (x : FormatCall)
  | packed (fields : List Field)

namespace Layout

/-- The fields that are stored as they are. -/
def parts : Layout → List Field
  | format x => x.parts
  | packed fields => fields

def immediate? : Layout → Option (ImmediateLayout × BitVec 32)
  | format x => x.immediate?
  | packed _ => none

/-- The word holds what is laid out. -/
def Holds (l : Layout) (w : BitVec 32) : Prop :=
  (∀ f ∈ l.parts, slice w f.msb f.lsb = f.value) ∧ ∀ p ∈ l.immediate?, p.1.read w = p.2

variable {w : BitVec 32}

theorem holds_of_encode {x : FormatCall} (h : x.encode = .ok w) : (format x).Holds w := by
  obtain ⟨hfits, rfl⟩ := FormatCall.encode_eq_ok_iff.1 h
  refine ⟨fun f hf => ?_, fun p hp => FormatCall.read_immediate hfits hp⟩
  exact slice_writeAll le_rfl (FormatCall.fields_fit hfits) x.pairwise_apart
    (List.mem_append_left _ hf) 0

theorem holds_of_pack {fields : List Field} (hapart : fields.Pairwise Field.Apart)
    (h : pack fields = .ok w) : (packed fields).Holds w := by
  obtain ⟨hfits, rfl⟩ := (pack_eq_ok_iff le_rfl).1 h
  refine ⟨fun f hf => slice_writeAll le_rfl hfits hapart hf 0, ?_⟩
  rintro p ⟨⟩

end Layout

/-- The fields of a format that hold the contents of its row. -/
def FormatCall.row : FormatCall → List Field
  | r t _ _ _ => [⟨6, 0, t.opcode⟩, ⟨14, 12, t.funct3⟩, ⟨31, 25, t.funct7⟩]
  | i t _ _ _ => [⟨6, 0, t.opcode⟩, ⟨14, 12, t.funct3⟩]
  | unary t _ _ => [⟨6, 0, t.opcode⟩, ⟨14, 12, t.funct3⟩, ⟨31, 20, t.funct12⟩]
  | shift t _ _ _ =>
    [⟨6, 0, t.opcode⟩, ⟨14, 12, t.funct3⟩, ⟨31, 20 + t.shamtBits.toNat, t.funct⟩]
  | s t _ _ _ => [⟨6, 0, t.opcode⟩, ⟨14, 12, t.funct3⟩]
  | b t _ _ _ => [⟨6, 0, Opcode.branch⟩, ⟨14, 12, t.funct3⟩]
  | u t _ _ => [⟨6, 0, t.opcode⟩]
  | j _ _ => [⟨6, 0, Opcode.jal⟩]
  | csr t _ _ _ => [⟨6, 0, Opcode.system⟩, ⟨14, 12, t.funct3⟩]
  | amo t _ _ _ _ => [⟨6, 0, Opcode.amo⟩, ⟨14, 12, t.funct3⟩, ⟨31, 27, t.funct5⟩]
  | float t _ _ _ _ => ⟨6, 0, Opcode.opFloat⟩ :: ⟨31, 25, t.funct7⟩ ::
      (t.funct3.toList.map fun v => ⟨14, 12, v⟩) ++ t.rs2.toList.map fun v => ⟨24, 20, v⟩
  | r4 t _ _ _ _ _ => [⟨6, 0, t.opcode⟩, ⟨26, 25, t.fmt⟩]
  | fence _ _ => [⟨6, 0, Opcode.miscMem⟩, ⟨14, 12, 0b000#32⟩]
  | vectorArith funct6 funct3 _ _ _ _ =>
    [⟨6, 0, Opcode.opVector⟩, ⟨14, 12, funct3⟩, ⟨31, 26, funct6⟩]
  | vectorMemory opcode width _ _ _ _ mop _ => [⟨6, 0, opcode⟩, ⟨14, 12, width⟩, ⟨27, 26, mop⟩]

theorem FormatCall.row_subset_parts (x : FormatCall) : x.row ⊆ x.parts := by
  cases x
  case float t rd rs1 rs2 rm =>
    rcases t with ⟨funct7, funct3 | funct3, rs2' | rs2'⟩ <;> simp [row, parts]
  all_goals simp [row, parts]

/-! ## Instructions -/

def IntegerInstr.layout : IntegerInstr → Layout
  | .reg op rd rs1 rs2 => .format (.r op.row rd.encoding rs1.encoding rs2.encoding)
  | .imm op rd rs1 value => .format (.i op.row rd.encoding rs1.encoding value)
  | .shift op rd rs1 shamt => .format (.shift op.row rd.encoding rs1.encoding shamt)
  | .extend op rd rs1 => .format (.unary op.row rd.encoding rs1.encoding)
  | .upper op rd value => .format (.u op.row rd.encoding value)
  | .load op rd rs1 offset => .format (.i op.row rd.encoding rs1.encoding offset)
  | .store op rs2 rs1 offset => .format (.s op.row rs2.encoding rs1.encoding offset)
  | .branch cond rs1 rs2 offset => .format (.b cond.row rs1.encoding rs2.encoding offset)
  | .jal rd offset => .format (.j rd.encoding offset)
  | .jalr rd rs1 offset =>
    .format (.i ⟨Opcode.jalr, 0b000#32⟩ rd.encoding rs1.encoding offset)
  | .ecall => .packed [⟨31, 0, 0x00000073#32⟩]
  | .ebreak => .packed [⟨31, 0, 0x00100073#32⟩]
  | .fence pred succ => .format (.fence pred succ)
  | .fenceI => .packed [⟨31, 0, 0x0000100F#32⟩]
  | .csr op rd address rs1 => .format (.csr op.row rd.encoding address rs1.encoding)
  | .csrImm op rd address uimm => .format (.csr op.immediateRow rd.encoding address uimm)
  | .loadReserved size rd rs1 order =>
    .format (.amo size.loadReserved rd.encoding rs1.encoding 0#32 order)
  | .amo op size rd rs1 rs2 order =>
    .format (.amo (op.row size) rd.encoding rs1.encoding rs2.encoding order)

def FloatInstr.layout : FloatInstr → Layout
  | .load fmt rd rs1 offset => .format (.i fmt.loadRow rd.encoding rs1.encoding offset)
  | .store fmt rs2 rs1 offset => .format (.s fmt.storeRow rs2.encoding rs1.encoding offset)
  | .arith op fmt rd rs1 rs2 rm =>
    .format (.float (op.row fmt) rd.encoding rs1.encoding rs2.encoding rm)
  | .select op fmt rd rs1 rs2 =>
    .format (.float (op.row fmt) rd.encoding rs1.encoding rs2.encoding .dyn)
  | .compare op fmt rd rs1 rs2 =>
    .format (.float (op.row fmt) rd.encoding rs1.encoding rs2.encoding .dyn)
  | .sqrt fmt rd rs1 rm => .format (.float fmt.sqrtRow rd.encoding rs1.encoding 0#32 rm)
  | .convert fmt rd rs1 rm => .format (.float fmt.convertRow rd.encoding rs1.encoding 0#32 rm)
  | .toInt i fmt rd rs1 rm =>
    .format (.float (i.fromFloatRow fmt) rd.encoding rs1.encoding 0#32 rm)
  | .ofInt i fmt rd rs1 rm =>
    .format (.float (i.toFloatRow fmt) rd.encoding rs1.encoding 0#32 rm)
  | .moveToInt fmt rd rs1 => .format (.float fmt.moveToIntRow rd.encoding rs1.encoding 0#32 .dyn)
  | .moveFromInt fmt rd rs1 =>
    .format (.float fmt.moveFromIntRow rd.encoding rs1.encoding 0#32 .dyn)
  | .classify fmt rd rs1 => .format (.float fmt.classifyRow rd.encoding rs1.encoding 0#32 .dyn)
  | .fused op fmt rd rs1 rs2 rs3 rm =>
    .format (.r4 (op.row fmt) rd.encoding rs1.encoding rs2.encoding rs3.encoding rm)

namespace VectorInstr

def arithLayout (row : VectorRow) (vd vs2 source : BitVec 32) (vm : VectorMask) : Layout :=
  .format (.vectorArith row.funct6 row.funct3 vd vs2 source vm)

def memoryLayout (dir : Direction) (eew : Sew) (vd : VReg) (rs1 : Reg) (selector : BitVec 32)
    (vm : VectorMask) (mop : BitVec 32) (count : FieldCount) : Layout :=
  .format (.vectorMemory dir.opcode eew.memWidth vd.encoding rs1.encoding selector vm mop count)

/-- The addressing mode of indexed accesses. -/
def indexedMode (ordered : Bool) : BitVec 32 :=
  if ordered then AddressingMode.indexedOrdered else AddressingMode.indexedUnordered

open VectorCategory in
def layout : VectorInstr → Layout
  | .setvli rd rs1 vtype => .packed ([⟨6, 0, Opcode.opVector⟩, ⟨11, 7, rd.encoding⟩,
      ⟨14, 12, opcfg⟩, ⟨19, 15, rs1.encoding⟩] ++ vtype.fields 30 20 ++ [⟨31, 31, 0#32⟩])
  | .setivli rd avl vtype => .packed ([⟨6, 0, Opcode.opVector⟩, ⟨11, 7, rd.encoding⟩,
      ⟨14, 12, opcfg⟩, ⟨19, 15, avl⟩] ++ vtype.fields 29 20 ++ [⟨31, 30, 0b11#32⟩])
  | .setvl rd rs1 rs2 => .packed [⟨6, 0, Opcode.opVector⟩, ⟨11, 7, rd.encoding⟩, ⟨14, 12, opcfg⟩,
      ⟨19, 15, rs1.encoding⟩, ⟨24, 20, rs2.encoding⟩, ⟨31, 25, 0b1000000#32⟩]
  | .vv op vd vs2 vs1 vm => arithLayout op.row vd.encoding vs2.encoding vs1.encoding vm
  | .vx op vd vs2 rs1 vm => arithLayout op.row vd.encoding vs2.encoding rs1.encoding vm
  | .vf op vd vs2 rs1 vm => arithLayout op.row vd.encoding vs2.encoding rs1.encoding vm
  | .vi op vd vs2 imm vm => arithLayout op.row vd.encoding vs2.encoding (slice imm 4 0) vm
  | .vu op vd vs2 uimm vm => arithLayout op.row vd.encoding vs2.encoding uimm vm
  | .unary op vd vs2 vm => arithLayout op.row vd.encoding vs2.encoding op.selector vm
  | .maskScan op rd vs2 vm =>
    arithLayout ⟨0b010000#32, opmvv⟩ rd.encoding vs2.encoding op.selector vm
  | .elementIndex vd vm => arithLayout ⟨0b010100#32, opmvv⟩ vd.encoding 0#32 0b10001#32 vm
  | .maskLogical op vd vs2 vs1 =>
    arithLayout op.row vd.encoding vs2.encoding vs1.encoding .unmasked
  | .moveV vd vs1 => arithLayout ⟨0b010111#32, opivv⟩ vd.encoding 0#32 vs1.encoding .unmasked
  | .moveX vd rs1 => arithLayout ⟨0b010111#32, opivx⟩ vd.encoding 0#32 rs1.encoding .unmasked
  | .moveI vd imm => arithLayout ⟨0b010111#32, opivi⟩ vd.encoding 0#32 (slice imm 4 0) .unmasked
  | .moveF vd rs1 => arithLayout ⟨0b010111#32, opfvf⟩ vd.encoding 0#32 rs1.encoding .unmasked
  | .firstToInt rd vs2 =>
    arithLayout ⟨0b010000#32, opmvv⟩ rd.encoding vs2.encoding 0#32 .unmasked
  | .firstOfInt vd rs1 =>
    arithLayout ⟨0b010000#32, opmvx⟩ vd.encoding 0#32 rs1.encoding .unmasked
  | .firstToFloat rd vs2 =>
    arithLayout ⟨0b010000#32, opfvv⟩ rd.encoding vs2.encoding 0#32 .unmasked
  | .firstOfFloat vd rs1 =>
    arithLayout ⟨0b010000#32, opfvf⟩ vd.encoding 0#32 rs1.encoding .unmasked
  | .mergeV vd vs2 vs1 =>
    arithLayout ⟨0b010111#32, opivv⟩ vd.encoding vs2.encoding vs1.encoding .masked
  | .mergeX vd vs2 rs1 =>
    arithLayout ⟨0b010111#32, opivx⟩ vd.encoding vs2.encoding rs1.encoding .masked
  | .mergeI vd vs2 imm =>
    arithLayout ⟨0b010111#32, opivi⟩ vd.encoding vs2.encoding (slice imm 4 0) .masked
  | .moveGroup count vd vs2 =>
    arithLayout ⟨0b100111#32, opivi⟩ vd.encoding vs2.encoding (BitVec.ofNat 32 (count.number - 1))
      .unmasked
  | .unitStride op fields eew vd rs1 vm =>
    memoryLayout op.direction eew vd rs1 op.selector vm AddressingMode.unitStride fields
  | .strided dir fields eew vd rs1 rs2 vm =>
    memoryLayout dir eew vd rs1 rs2.encoding vm AddressingMode.strided fields
  | .indexed dir ordered fields eew vd rs1 vs2 vm =>
    memoryLayout dir eew vd rs1 vs2.encoding vm (indexedMode ordered) fields
  | .loadGroup count eew vd rs1 =>
    memoryLayout .load eew vd rs1 0b01000#32 .unmasked AddressingMode.unitStride
      ⟨BitVec.ofNat 3 (count.number - 1)⟩
  | .storeGroup count vs3 rs1 =>
    memoryLayout .store .e8 vs3 rs1 0b01000#32 .unmasked AddressingMode.unitStride
      ⟨BitVec.ofNat 3 (count.toNat - 1)⟩
  | .maskAccess dir vd rs1 =>
    memoryLayout dir .e8 vd rs1 0b01011#32 .unmasked AddressingMode.unitStride .one

end VectorInstr

namespace Instr

def layout : Instr → Layout
  | integer i => i.layout
  | float i => i.layout
  | vector i => i.layout

open VectorCategory in
/-- The fields that the operation fixes besides the row of its format. -/
def selectors : Instr → List Field
  | integer .ecall => [⟨31, 0, 0x00000073#32⟩]
  | integer .ebreak => [⟨31, 0, 0x00100073#32⟩]
  | integer .fenceI => [⟨31, 0, 0x0000100F#32⟩]
  | vector (.setvli _ _ _) => [⟨6, 0, Opcode.opVector⟩, ⟨14, 12, opcfg⟩, ⟨31, 31, 0#32⟩]
  | vector (.setivli _ _ _) => [⟨6, 0, Opcode.opVector⟩, ⟨14, 12, opcfg⟩, ⟨31, 30, 0b11#32⟩]
  | vector (.setvl _ _ _) => [⟨6, 0, Opcode.opVector⟩, ⟨14, 12, opcfg⟩, ⟨31, 25, 0b1000000#32⟩]
  | vector (.unary op _ _ _) => [⟨19, 15, op.selector⟩]
  | vector (.maskScan op _ _ _) => [⟨19, 15, op.selector⟩]
  | vector (.elementIndex _ _) => [⟨19, 15, 0b10001#32⟩]
  | vector (.moveV _ _) | vector (.moveX _ _) | vector (.moveI _ _) | vector (.moveF _ _) =>
    [⟨25, 25, VectorMask.unmasked.encoding⟩]
  | vector (.mergeV _ _ _) | vector (.mergeX _ _ _) | vector (.mergeI _ _ _) =>
    [⟨25, 25, VectorMask.masked.encoding⟩]
  | vector (.firstToInt _ _) => [⟨19, 15, 0#32⟩]
  | vector (.moveGroup count _ _) => [⟨19, 15, BitVec.ofNat 32 (count.number - 1)⟩]
  | vector (.unitStride op _ _ _ _ _) => [⟨24, 20, op.selector⟩]
  | vector (.loadGroup count _ _ _) =>
    [⟨24, 20, 0b01000#32⟩, ⟨31, 29, (FieldCount.mk (BitVec.ofNat 3 (count.number - 1))).encoding⟩]
  | vector (.storeGroup _ _ _) => [⟨24, 20, 0b01000#32⟩]
  | vector (.maskAccess _ _ _) => [⟨24, 20, 0b01011#32⟩]
  | _ => []

/-- The fields that are the same for all operands. -/
def fixed (i : Instr) : List Field :=
  (match i.layout with
    | .format x => x.row
    | .packed _ => []) ++ i.selectors

end Instr

/-! ## Reading the operands -/

section Reread

variable (w : BitVec 32)

def rdOf {c : RegisterClass} : Register c := .ofEncoding (slice w 11 7)
def rs1Of {c : RegisterClass} : Register c := .ofEncoding (slice w 19 15)
def rs2Of {c : RegisterClass} : Register c := .ofEncoding (slice w 24 20)
def rs3Of {c : RegisterClass} : Register c := .ofEncoding (slice w 31 27)
def roundingOf : RoundingMode := .ofEncoding (slice w 14 12)
def orderOf : MemoryOrder := ⟨ofBit (slice w 26 26), ofBit (slice w 25 25)⟩
def maskOf : VectorMask := .ofEncoding (slice w 25 25)
def fieldCountOf : FieldCount := .ofEncoding (slice w 31 29)

/-- The vector type from bit 20 up, with the illegal mark at `msb`. -/
def vtypeOf (msb : Nat) : VType where
  sew := .ofEncoding (slice w 25 23)
  lmul := .ofEncoding (slice w 22 20)
  tailAgnostic := ofBit (slice w 26 26)
  maskAgnostic := ofBit (slice w 27 27)
  illegal := ofBit (slice w msb msb)

open Instr in
/-- The same operation with the operands that the word holds. -/
def IntegerInstr.reread : IntegerInstr → IntegerInstr
  | .reg op _ _ _ => .reg op (rdOf w) (rs1Of w) (rs2Of w)
  | .imm op _ _ _ => .imm op (rdOf w) (rs1Of w) (immI w)
  | .shift op _ _ _ => .shift op (rdOf w) (rs1Of w) (slice w (19 + op.row.shamtBits.toNat) 20)
  | .extend op _ _ => .extend op (rdOf w) (rs1Of w)
  | .upper op _ _ => .upper op (rdOf w) (immU w)
  | .load op _ _ _ => .load op (rdOf w) (rs1Of w) (immI w)
  | .store op _ _ _ => .store op (rs2Of w) (rs1Of w) (immS w)
  | .branch cond _ _ _ => .branch cond (rs1Of w) (rs2Of w) (Displacement.readBranch w)
  | .jal _ _ => .jal (rdOf w) (Displacement.readJump w)
  | .jalr _ _ _ => .jalr (rdOf w) (rs1Of w) (immI w)
  | .ecall => .ecall
  | .ebreak => .ebreak
  | .fence _ _ => .fence (slice w 27 24) (slice w 23 20)
  | .fenceI => .fenceI
  | .csr op _ _ _ => .csr op (rdOf w) (slice w 31 20) (rs1Of w)
  | .csrImm op _ _ _ => .csrImm op (rdOf w) (slice w 31 20) (slice w 19 15)
  | .loadReserved size _ _ _ => .loadReserved size (rdOf w) (rs1Of w) (orderOf w)
  | .amo op size _ _ _ _ => .amo op size (rdOf w) (rs1Of w) (rs2Of w) (orderOf w)

open Instr in
def FloatInstr.reread : FloatInstr → FloatInstr
  | .load fmt _ _ _ => .load fmt (rdOf w) (rs1Of w) (immI w)
  | .store fmt _ _ _ => .store fmt (rs2Of w) (rs1Of w) (immS w)
  | .arith op fmt _ _ _ _ => .arith op fmt (rdOf w) (rs1Of w) (rs2Of w) (roundingOf w)
  | .select op fmt _ _ _ => .select op fmt (rdOf w) (rs1Of w) (rs2Of w)
  | .compare op fmt _ _ _ => .compare op fmt (rdOf w) (rs1Of w) (rs2Of w)
  | .sqrt fmt _ _ _ => .sqrt fmt (rdOf w) (rs1Of w) (roundingOf w)
  | .convert fmt _ _ _ => .convert fmt (rdOf w) (rs1Of w) (roundingOf w)
  | .toInt i fmt _ _ _ => .toInt i fmt (rdOf w) (rs1Of w) (roundingOf w)
  | .ofInt i fmt _ _ _ => .ofInt i fmt (rdOf w) (rs1Of w) (roundingOf w)
  | .moveToInt fmt _ _ => .moveToInt fmt (rdOf w) (rs1Of w)
  | .moveFromInt fmt _ _ => .moveFromInt fmt (rdOf w) (rs1Of w)
  | .classify fmt _ _ => .classify fmt (rdOf w) (rs1Of w)
  | .fused op fmt _ _ _ _ _ =>
    .fused op fmt (rdOf w) (rs1Of w) (rs2Of w) (rs3Of w) (roundingOf w)

def VectorInstr.reread : VectorInstr → VectorInstr
  | .setvli _ _ _ => .setvli (rdOf w) (rs1Of w) (vtypeOf w 30)
  | .setivli _ _ _ => .setivli (rdOf w) (slice w 19 15) (vtypeOf w 29)
  | .setvl _ _ _ => .setvl (rdOf w) (rs1Of w) (rs2Of w)
  | .vv op _ _ _ _ => .vv op (rdOf w) (rs2Of w) (rs1Of w) (maskOf w)
  | .vx op _ _ _ _ => .vx op (rdOf w) (rs2Of w) (rs1Of w) (maskOf w)
  | .vf op _ _ _ _ => .vf op (rdOf w) (rs2Of w) (rs1Of w) (maskOf w)
  | .vi op _ _ _ _ => .vi op (rdOf w) (rs2Of w) (ofSigned5 (slice w 19 15)) (maskOf w)
  | .vu op _ _ _ _ => .vu op (rdOf w) (rs2Of w) (slice w 19 15) (maskOf w)
  | .unary op _ _ _ => .unary op (rdOf w) (rs2Of w) (maskOf w)
  | .maskScan op _ _ _ => .maskScan op (rdOf w) (rs2Of w) (maskOf w)
  | .elementIndex _ _ => .elementIndex (rdOf w) (maskOf w)
  | .maskLogical op _ _ _ => .maskLogical op (rdOf w) (rs2Of w) (rs1Of w)
  | .moveV _ _ => .moveV (rdOf w) (rs1Of w)
  | .moveX _ _ => .moveX (rdOf w) (rs1Of w)
  | .moveI _ _ => .moveI (rdOf w) (ofSigned5 (slice w 19 15))
  | .moveF _ _ => .moveF (rdOf w) (rs1Of w)
  | .firstToInt _ _ => .firstToInt (rdOf w) (rs2Of w)
  | .firstOfInt _ _ => .firstOfInt (rdOf w) (rs1Of w)
  | .firstToFloat _ _ => .firstToFloat (rdOf w) (rs2Of w)
  | .firstOfFloat _ _ => .firstOfFloat (rdOf w) (rs1Of w)
  | .mergeV _ _ _ => .mergeV (rdOf w) (rs2Of w) (rs1Of w)
  | .mergeX _ _ _ => .mergeX (rdOf w) (rs2Of w) (rs1Of w)
  | .mergeI _ _ _ => .mergeI (rdOf w) (rs2Of w) (ofSigned5 (slice w 19 15))
  | .moveGroup count _ _ => .moveGroup count (rdOf w) (rs2Of w)
  | .unitStride op _ eew _ _ _ => .unitStride op (fieldCountOf w) eew (rdOf w) (rs1Of w) (maskOf w)
  | .strided dir _ eew _ _ _ _ =>
    .strided dir (fieldCountOf w) eew (rdOf w) (rs1Of w) (rs2Of w) (maskOf w)
  | .indexed dir ordered _ eew _ _ _ _ =>
    .indexed dir ordered (fieldCountOf w) eew (rdOf w) (rs1Of w) (rs2Of w) (maskOf w)
  | .loadGroup count eew _ _ => .loadGroup count eew (rdOf w) (rs1Of w)
  | .storeGroup _ _ _ => .storeGroup (BitVec.ofNat 32 (fieldCountOf w).number) (rdOf w) (rs1Of w)
  | .maskAccess dir _ _ => .maskAccess dir (rdOf w) (rs1Of w)

def Instr.reread : Instr → Instr
  | integer i => integer (i.reread w)
  | float i => float (i.reread w)
  | vector i => vector (i.reread w)

end Reread

/-! ## Words hold their layouts -/

variable {w : BitVec 32}

theorem IntegerInstr.holds_layout {i : IntegerInstr} (h : i.encode = .ok w) : i.layout.Holds w := by
  have hconstant : ∀ v : BitVec 32, .ok v = (.ok w : Except Fault (BitVec 32)) →
      (Layout.packed [⟨31, 0, v⟩]).Holds w := by
    rintro v ⟨⟩
    refine ⟨?_, ?_⟩
    · simp [Layout.parts, slice]
    · rintro p ⟨⟩
  cases i with
  | ecall | ebreak | fenceI => exact hconstant _ h
  | csrImm =>
    rw [encode, require_bind_eq_ok_iff] at h
    exact Layout.holds_of_encode (x := .csr ..) h.2
  | _ => exact Layout.holds_of_encode h

theorem FloatInstr.holds_layout {i : FloatInstr} (h : i.encode = .ok w) : i.layout.Holds w := by
  cases i with
  | _ => exact Layout.holds_of_encode h

namespace VectorInstr

theorem signedImmediate_eq_ok_iff {imm v : BitVec 32} :
    signedImmediate imm = .ok v ↔ Immediate.IsSigned 5 0 imm.toInt ∧ v = slice imm 4 0 := by
  rw [signedImmediate, require_bind_eq_ok_iff, Immediate.fitsSigned_signExtend_iff _ _ (by decide)]
  simp [pure, Except.pure, eq_comm]

theorem ofSigned5_slice {imm : BitVec 32} (h : Immediate.IsSigned 5 0 imm.toInt) :
    ofSigned5 (slice imm 4 0) = imm := by
  rw [ofSigned5, extractLsb'_slice _ (by decide) (by decide)]
  exact Immediate.signExtend_extractLsb'_of_isSigned (by decide) (by decide) h

theorem unsignedImmediate_eq_ok_iff {imm v : BitVec 32} :
    unsignedImmediate imm = .ok v ↔ Immediate.IsUnsigned 5 0 imm.toNat ∧ v = imm := by
  rw [unsignedImmediate, require_bind_eq_ok_iff, Immediate.fitsUnsigned_setWidth_iff _ _ (by decide)]
  simp [pure, Except.pure, eq_comm]

theorem holds_arithLayout {row : VectorRow} {vd vs2 source : BitVec 32} {vm : VectorMask}
    (h : encodeArith row vd vs2 source vm = .ok w) :
    (arithLayout row vd vs2 source vm).Holds w :=
  Layout.holds_of_encode (x := .vectorArith ..) h

theorem holds_memoryLayout {dir : Direction} {eew : Sew} {vd : VReg} {rs1 : Reg}
    {selector : BitVec 32} {vm : VectorMask} {mop : BitVec 32} {count : FieldCount}
    (h : VectorFormat.memory dir.opcode eew.memWidth vd.encoding rs1.encoding selector vm mop
      count = .ok w) :
    (memoryLayout dir eew vd rs1 selector vm mop count).Holds w :=
  Layout.holds_of_encode (x := .vectorMemory ..) h

theorem holds_of_encodeGroup {dir : Direction} {eew : Sew} {vd : VReg} {rs1 : Reg} {count : Nat}
    (h : encodeGroup dir eew vd rs1 count = .ok w) :
    count ∈ [1, 2, 4, 8] ∧ (memoryLayout dir eew vd rs1 0b01000#32 .unmasked
      AddressingMode.unitStride ⟨BitVec.ofNat 3 (count - 1)⟩).Holds w := by
  simp only [encodeGroup, checkGroup, require_bind_eq_ok_iff] at h
  obtain ⟨hcount, -, h⟩ := h
  rw [FieldCount.ofNumber, if_pos (by simp at hcount; omega)] at h
  exact ⟨hcount, holds_memoryLayout h⟩

theorem holds_layout {i : VectorInstr} (h : i.encode = .ok w) : i.layout.Holds w := by
  cases i with
  | setvli =>
    rw [encode, VType.check, require_bind_eq_ok_iff] at h
    exact Layout.holds_of_pack (by simp [VType.fields, Field.Apart]) h.2
  | setivli =>
    simp only [encode, VType.check, bind_eq_ok_iff] at h
    obtain ⟨avl, havl, _, -, h⟩ := h
    obtain rfl := (unsignedImmediate_eq_ok_iff.1 havl).2
    exact Layout.holds_of_pack (by simp [VType.fields, Field.Apart]) h
  | setvl => exact Layout.holds_of_pack (by simp [Field.Apart]) h
  | vi | moveI | mergeI =>
    simp only [encode, bind_eq_ok_iff, signedImmediate_eq_ok_iff] at h
    obtain ⟨_, ⟨-, rfl⟩, h⟩ := h
    exact holds_arithLayout h
  | vu =>
    simp only [encode, bind_eq_ok_iff] at h
    obtain ⟨uimm, huimm, h⟩ := h
    obtain rfl := (unsignedImmediate_eq_ok_iff.1 huimm).2
    exact holds_arithLayout h
  | moveGroup =>
    simp only [encode, checkGroup, require_bind_eq_ok_iff] at h
    exact holds_arithLayout h.2.2
  | unitStride | strided | indexed =>
    rw [encode, checkSegment, require_bind_eq_ok_iff] at h
    exact holds_memoryLayout h.2
  | loadGroup | storeGroup => exact (holds_of_encodeGroup h).2
  | maskAccess => exact holds_memoryLayout h
  | _ => exact holds_arithLayout h

end VectorInstr

namespace Instr

theorem holds_layout {i : Instr} (h : i.encode = .ok w) : i.layout.Holds w := by
  cases i with
  | integer i => exact IntegerInstr.holds_layout h
  | float i => exact FloatInstr.holds_layout h
  | vector i => exact VectorInstr.holds_layout h

theorem selectors_subset_parts (i : Instr) : i.selectors ⊆ i.layout.parts := by
  rcases i with i | i | i <;> cases i <;>
    simp [selectors, layout, IntegerInstr.layout, FloatInstr.layout, VectorInstr.layout,
      Layout.parts, FormatCall.parts, VectorInstr.arithLayout, VectorInstr.memoryLayout]

theorem fixed_subset_parts (i : Instr) : i.fixed ⊆ i.layout.parts := by
  rw [fixed, List.append_subset]
  refine ⟨?_, i.selectors_subset_parts⟩
  cases i.layout with
  | format x => exact x.row_subset_parts
  | packed fields => exact List.nil_subset _

theorem fixed_reread (w : BitVec 32) (i : Instr) : (i.reread w).fixed = i.fixed := by
  rcases i with i | i | i <;> cases i <;> rfl

theorem reread_reread (w v : BitVec 32) (i : Instr) : (i.reread v).reread w = i.reread w := by
  rcases i with i | i | i <;> cases i <;> rfl

end Instr

/-! ## Operands are read back -/

theorem IntegerInstr.reread_of_encode {i : IntegerInstr} (h : i.encode = .ok w) :
    i.reread w = i := by
  obtain ⟨hparts, himm⟩ := holds_layout h
  cases i with
  | _ =>
    simp only [layout, Layout.parts, FormatCall.parts, List.forall_mem_cons, Layout.immediate?,
      FormatCall.immediate?, Option.mem_some_iff, forall_eq', ImmediateLayout.read] at hparts himm
    simp [reread, rdOf, rs1Of, rs2Of, orderOf, hparts, himm]

section OpenFields

variable (fmt : FloatFormat)

theorem FloatArithOp.open_row (op : FloatArithOp) :
    (op.row fmt).funct3 = none ∧ (op.row fmt).rs2 = none := by
  cases op <;> exact ⟨rfl, rfl⟩

theorem FloatSelectOp.open_row (op : FloatSelectOp) : (op.row fmt).rs2 = none := by
  cases op <;> rfl

theorem FloatCompareOp.open_row (op : FloatCompareOp) : (op.row fmt).rs2 = none := by
  cases op <;> rfl

end OpenFields

theorem FloatInstr.reread_of_encode {i : FloatInstr} (h : i.encode = .ok w) :
    i.reread w = i := by
  obtain ⟨hparts, himm⟩ := holds_layout h
  cases i with
  | _ =>
    simp only [layout, Layout.parts, FormatCall.parts, List.forall_mem_cons, Layout.immediate?,
      FormatCall.immediate?, Option.mem_some_iff, forall_eq', ImmediateLayout.read] at hparts himm
    simp [reread, rdOf, rs1Of, rs2Of, rs3Of, roundingOf, hparts, himm, FloatArithOp.open_row,
      FloatSelectOp.open_row, FloatCompareOp.open_row, FloatFormat.sqrtRow, FloatFormat.convertRow,
      IntFormat.fromFloatRow, IntFormat.toFloatRow]

namespace VectorInstr

theorem number_ofNat_pred {count : Nat} (h : count ∈ [1, 2, 4, 8]) :
    (FieldCount.mk (BitVec.ofNat 3 (count - 1))).number = count := by
  simp only [List.mem_cons, List.not_mem_nil, or_false] at h
  rcases h with rfl | rfl | rfl | rfl <;> rfl

theorem reread_of_encode {i : VectorInstr} (h : i.encode = .ok w) : i.reread w = i := by
  obtain ⟨hparts, -⟩ := holds_layout h
  cases i with
  | vi | moveI | mergeI =>
    simp only [encode, bind_eq_ok_iff, signedImmediate_eq_ok_iff] at h
    obtain ⟨_, ⟨himm, -⟩, -⟩ := h
    simp only [layout, arithLayout, Layout.parts, FormatCall.parts, List.forall_mem_cons] at hparts
    simp [reread, rdOf, rs2Of, maskOf, hparts, ofSigned5_slice himm]
  | storeGroup count =>
    obtain ⟨hcount, -⟩ := holds_of_encodeGroup h
    simp only [layout, memoryLayout, Layout.parts, FormatCall.parts, List.forall_mem_cons] at hparts
    simp [reread, rdOf, rs1Of, fieldCountOf, hparts, number_ofNat_pred hcount]
  | _ =>
    simp only [layout, arithLayout, memoryLayout, Layout.parts, FormatCall.parts, VType.fields,
      List.cons_append, List.nil_append, List.forall_mem_cons] at hparts
    simp [reread, rdOf, rs1Of, rs2Of, maskOf, fieldCountOf, vtypeOf, hparts]

end VectorInstr

theorem Instr.reread_of_encode {i : Instr} (h : i.encode = .ok w) : i.reread w = i := by
  cases i with
  | integer i => exact congrArg integer (IntegerInstr.reread_of_encode h)
  | float i => exact congrArg float (FloatInstr.reread_of_encode h)
  | vector i => exact congrArg vector (VectorInstr.reread_of_encode h)

end RiscvAssembler
