import RiscvAssembler.Proofs.Decoding
import RiscvAssembler.Vector.Format

/-!
# Round trips through the canonical formats

A format with any row and any operands is encoded exactly when each of them fits its field. From the
word every field is read back at its position, an immediate from the bits it is scattered over, and
the bits that no field names are zero.
-/

namespace RiscvAssembler

open Immediate Instr

/-- One use of a format: the contents of its row and the operands. -/
inductive FormatCall
  | r (t : RType) (rd rs1 rs2 : BitVec 32)
  | i (t : IType) (rd rs1 imm : BitVec 32)
  | unary (t : UnaryType) (rd rs1 : BitVec 32)
  | shift (t : ShiftType) (rd rs1 shamt : BitVec 32)
  | s (t : SType) (rs2 rs1 offset : BitVec 32)
  | b (t : BType) (rs1 rs2 offset : BitVec 32)
  | u (t : UType) (rd imm : BitVec 32)
  | j (rd offset : BitVec 32)
  | csr (t : CsrType) (rd address source : BitVec 32)
  | amo (t : AmoType) (rd rs1 rs2 : BitVec 32) (order : MemoryOrder)
  | float (t : FloatType) (rd rs1 rs2 : BitVec 32) (rm : RoundingMode)
  | r4 (t : R4Type) (rd rs1 rs2 rs3 : BitVec 32) (rm : RoundingMode)
  | fence (pred succ : BitVec 32)
  | vectorArith (funct6 funct3 vd vs2 source : BitVec 32) (vm : VectorMask)
  | vectorMemory (opcode width vd rs1 selector : BitVec 32) (vm : VectorMask) (mop : BitVec 32)
      (count : FieldCount)

/-- The immediates that are not stored as they are. -/
inductive ImmediateLayout
  | i | s | b | u | j

namespace ImmediateLayout

/-- The immediates of a layout. -/
def Fits : ImmediateLayout → BitVec 32 → Prop
  | i, imm | s, imm => IsSigned 12 0 imm.toInt
  | b, offset => IsSigned 13 1 offset.toInt
  | u, imm => (2 ^ 12 : Int) ∣ imm.toInt
  | j, offset => IsSigned 21 1 offset.toInt

/-- The immediate in a word. -/
def read : ImmediateLayout → BitVec 32 → BitVec 32
  | i => immI
  | s => immS
  | b => Displacement.readBranch
  | u => immU
  | j => Displacement.readJump

/-- The fields over which an immediate is scattered. -/
def fields : ImmediateLayout → BitVec 32 → List Field
  | i, imm => [⟨31, 20, slice imm 11 0⟩]
  | s, offset => [⟨11, 7, slice offset 4 0⟩, ⟨31, 25, slice offset 11 5⟩]
  | b, offset => ReferenceKind.branch.fields offset
  | u, imm => [⟨31, 12, slice imm 31 12⟩]
  | j, offset => ReferenceKind.jal.fields offset

end ImmediateLayout

namespace FormatCall

def encode : FormatCall → Except Fault (BitVec 32)
  | r t rd rs1 rs2 => t.encode rd rs1 rs2
  | i t rd rs1 imm => t.encode rd rs1 imm
  | unary t rd rs1 => t.encode rd rs1
  | shift t rd rs1 shamt => t.encode rd rs1 shamt
  | s t rs2 rs1 offset => t.encode rs2 rs1 offset
  | b t rs1 rs2 offset => t.encode rs1 rs2 offset
  | u t rd imm => t.encode rd imm
  | j rd offset => JType.encode rd offset
  | csr t rd address source => t.encode rd address source
  | amo t rd rs1 rs2 order => t.encode rd rs1 rs2 order
  | float t rd rs1 rs2 rm => t.encode rd rs1 rs2 rm
  | r4 t rd rs1 rs2 rs3 rm => t.encode rd rs1 rs2 rs3 rm
  | fence pred succ => Fence.encode pred succ
  | vectorArith funct6 funct3 vd vs2 source vm => VectorFormat.arith funct6 funct3 vd vs2 source vm
  | vectorMemory opcode width vd rs1 selector vm mop count =>
    VectorFormat.memory opcode width vd rs1 selector vm mop count

/-- The contents of the row and the operands that are stored as they are, where they stand. -/
def parts : FormatCall → List Field
  | r t rd rs1 rs2 => [⟨6, 0, t.opcode⟩, ⟨14, 12, t.funct3⟩, ⟨11, 7, rd⟩, ⟨19, 15, rs1⟩,
      ⟨24, 20, rs2⟩, ⟨31, 25, t.funct7⟩]
  | i t rd rs1 _ => [⟨6, 0, t.opcode⟩, ⟨14, 12, t.funct3⟩, ⟨11, 7, rd⟩, ⟨19, 15, rs1⟩]
  | unary t rd rs1 => [⟨6, 0, t.opcode⟩, ⟨14, 12, t.funct3⟩, ⟨11, 7, rd⟩, ⟨19, 15, rs1⟩,
      ⟨31, 20, t.funct12⟩]
  | shift t rd rs1 shamt => [⟨6, 0, t.opcode⟩, ⟨14, 12, t.funct3⟩, ⟨11, 7, rd⟩, ⟨19, 15, rs1⟩,
      ⟨19 + t.shamtBits.toNat, 20, shamt⟩, ⟨31, 20 + t.shamtBits.toNat, t.funct⟩]
  | s t rs2 rs1 _ => [⟨6, 0, t.opcode⟩, ⟨14, 12, t.funct3⟩, ⟨19, 15, rs1⟩, ⟨24, 20, rs2⟩]
  | b t rs1 rs2 _ => [⟨6, 0, Opcode.branch⟩, ⟨14, 12, t.funct3⟩, ⟨19, 15, rs1⟩, ⟨24, 20, rs2⟩]
  | u t rd _ => [⟨6, 0, t.opcode⟩, ⟨11, 7, rd⟩]
  | j rd _ => [⟨6, 0, Opcode.jal⟩, ⟨11, 7, rd⟩]
  | csr t rd address source => [⟨6, 0, Opcode.system⟩, ⟨14, 12, t.funct3⟩, ⟨11, 7, rd⟩,
      ⟨19, 15, source⟩, ⟨31, 20, address⟩]
  | amo t rd rs1 rs2 order => [⟨6, 0, Opcode.amo⟩, ⟨14, 12, t.funct3⟩, ⟨11, 7, rd⟩, ⟨19, 15, rs1⟩,
      ⟨24, 20, rs2⟩, ⟨25, 25, bitOf order.release⟩, ⟨26, 26, bitOf order.acquire⟩,
      ⟨31, 27, t.funct5⟩]
  | float t rd rs1 rs2 rm => [⟨6, 0, Opcode.opFloat⟩, ⟨14, 12, t.funct3.getD rm.encoding⟩,
      ⟨11, 7, rd⟩, ⟨19, 15, rs1⟩, ⟨24, 20, t.rs2.getD rs2⟩, ⟨31, 25, t.funct7⟩]
  | r4 t rd rs1 rs2 rs3 rm => [⟨6, 0, t.opcode⟩, ⟨14, 12, rm.encoding⟩, ⟨11, 7, rd⟩, ⟨19, 15, rs1⟩,
      ⟨24, 20, rs2⟩, ⟨26, 25, t.fmt⟩, ⟨31, 27, rs3⟩]
  | fence pred succ => [⟨6, 0, Opcode.miscMem⟩, ⟨14, 12, 0b000#32⟩, ⟨23, 20, succ⟩, ⟨27, 24, pred⟩]
  | vectorArith funct6 funct3 vd vs2 source vm => [⟨6, 0, Opcode.opVector⟩, ⟨11, 7, vd⟩,
      ⟨14, 12, funct3⟩, ⟨19, 15, source⟩, ⟨24, 20, vs2⟩, ⟨25, 25, vm.encoding⟩, ⟨31, 26, funct6⟩]
  | vectorMemory opcode width vd rs1 selector vm mop count => [⟨6, 0, opcode⟩, ⟨11, 7, vd⟩,
      ⟨14, 12, width⟩, ⟨19, 15, rs1⟩, ⟨24, 20, selector⟩, ⟨25, 25, vm.encoding⟩, ⟨27, 26, mop⟩,
      ⟨28, 28, 0#32⟩, ⟨31, 29, count.encoding⟩]

/-- The operand that is an immediate with a layout of its own. -/
def immediate? : FormatCall → Option (ImmediateLayout × BitVec 32)
  | i _ _ _ imm => some (.i, imm)
  | s _ _ _ offset => some (.s, offset)
  | b _ _ _ offset => some (.b, offset)
  | u _ _ imm => some (.u, imm)
  | j _ offset => some (.j, offset)
  | _ => none

/-- All fields that the word of the call names. -/
def fields (x : FormatCall) : List Field :=
  x.parts ++ (x.immediate?.elim [] fun p => p.1.fields p.2)

/-- What the encoder asks of the row and the operands. -/
def Fits : FormatCall → Prop
  | r t rd rs1 rs2 => t.opcode.toNat < 2 ^ 7 ∧ t.funct3.toNat < 2 ^ 3 ∧ rd.toNat < 2 ^ 5 ∧
      rs1.toNat < 2 ^ 5 ∧ rs2.toNat < 2 ^ 5 ∧ t.funct7.toNat < 2 ^ 7
  | i t rd rs1 imm => t.opcode.toNat < 2 ^ 7 ∧ t.funct3.toNat < 2 ^ 3 ∧ rd.toNat < 2 ^ 5 ∧
      rs1.toNat < 2 ^ 5 ∧ IsSigned 12 0 imm.toInt
  | unary t rd rs1 => t.opcode.toNat < 2 ^ 7 ∧ t.funct3.toNat < 2 ^ 3 ∧ rd.toNat < 2 ^ 5 ∧
      rs1.toNat < 2 ^ 5 ∧ t.funct12.toNat < 2 ^ 12
  | shift t rd rs1 shamt => t.opcode.toNat < 2 ^ 7 ∧ t.funct3.toNat < 2 ^ 3 ∧ rd.toNat < 2 ^ 5 ∧
      rs1.toNat < 2 ^ 5 ∧ (1 ≤ t.shamtBits.toNat ∧ t.shamtBits.toNat ≤ 11) ∧
        shamt.toNat < 2 ^ t.shamtBits.toNat ∧ t.funct.toNat < 2 ^ (12 - t.shamtBits.toNat)
  | s t rs2 rs1 offset => t.opcode.toNat < 2 ^ 7 ∧ t.funct3.toNat < 2 ^ 3 ∧ rs1.toNat < 2 ^ 5 ∧
      rs2.toNat < 2 ^ 5 ∧ IsSigned 12 0 offset.toInt
  | b t rs1 rs2 offset => t.funct3.toNat < 2 ^ 3 ∧ rs1.toNat < 2 ^ 5 ∧ rs2.toNat < 2 ^ 5 ∧
      IsSigned 13 1 offset.toInt
  | u t rd imm => t.opcode.toNat < 2 ^ 7 ∧ rd.toNat < 2 ^ 5 ∧ (2 ^ 12 : Int) ∣ imm.toInt
  | j rd offset => rd.toNat < 2 ^ 5 ∧ IsSigned 21 1 offset.toInt
  | csr t rd address source => t.funct3.toNat < 2 ^ 3 ∧ rd.toNat < 2 ^ 5 ∧ source.toNat < 2 ^ 5 ∧
      address.toNat < 2 ^ 12
  | amo t rd rs1 rs2 _ => t.funct3.toNat < 2 ^ 3 ∧ rd.toNat < 2 ^ 5 ∧ rs1.toNat < 2 ^ 5 ∧
      rs2.toNat < 2 ^ 5 ∧ t.funct5.toNat < 2 ^ 5
  -- A fixed field replaces its operand, which is then not looked at.
  | float t rd rs1 rs2 rm => (t.funct3.getD rm.encoding).toNat < 2 ^ 3 ∧ rd.toNat < 2 ^ 5 ∧
      rs1.toNat < 2 ^ 5 ∧ (t.rs2.getD rs2).toNat < 2 ^ 5 ∧ t.funct7.toNat < 2 ^ 7
  | r4 t rd rs1 rs2 rs3 _ => t.opcode.toNat < 2 ^ 7 ∧ rd.toNat < 2 ^ 5 ∧ rs1.toNat < 2 ^ 5 ∧
      rs2.toNat < 2 ^ 5 ∧ t.fmt.toNat < 2 ^ 2 ∧ rs3.toNat < 2 ^ 5
  | fence pred succ => succ.toNat < 2 ^ 4 ∧ pred.toNat < 2 ^ 4
  | vectorArith funct6 funct3 vd vs2 source _ => vd.toNat < 2 ^ 5 ∧ funct3.toNat < 2 ^ 3 ∧
      source.toNat < 2 ^ 5 ∧ vs2.toNat < 2 ^ 5 ∧ funct6.toNat < 2 ^ 6
  | vectorMemory opcode width vd rs1 selector _ mop _ => opcode.toNat < 2 ^ 7 ∧
      vd.toNat < 2 ^ 5 ∧ width.toNat < 2 ^ 3 ∧ rs1.toNat < 2 ^ 5 ∧ selector.toNat < 2 ^ 5 ∧
        mop.toNat < 2 ^ 2

end FormatCall

/-! ## Values that always fit -/

theorem toNat_bitOf_le (b : Bool) : (bitOf b).toNat ≤ 1 := by
  cases b <;> decide

theorem RoundingMode.toNat_encoding_lt (rm : RoundingMode) : rm.encoding.toNat < 8 := by
  cases rm <;> decide

theorem VectorMask.toNat_encoding_le (vm : VectorMask) : vm.encoding.toNat ≤ 1 := by
  cases vm <;> decide

theorem FieldCount.toNat_encoding_lt (count : FieldCount) : count.encoding.toNat < 8 := by
  rw [FieldCount.encoding, BitVec.toNat_setWidth]
  have hlt := count.pred.isLt
  omega

theorem ImmediateLayout.fields_fit (l : ImmediateLayout) (imm : BitVec 32) :
    ∀ f ∈ l.fields imm, f.Fits 32 := by
  cases l with
  | i | u =>
    simp only [ImmediateLayout.fields, forall_fits_cons, forall_fits_nil, and_true]
    exact Word.fits_slice imm (by decide)
  | s =>
    simp only [ImmediateLayout.fields, forall_fits_cons, forall_fits_nil, and_true]
    exact ⟨Word.fits_slice imm (by decide), Word.fits_slice imm (by decide)⟩
  | b => exact ReferenceKind.branch.fields_fit imm
  | j => exact ReferenceKind.jal.fields_fit imm

/-- An immediate is read back from the fields it was written into. -/
theorem ImmediateLayout.read_writeAll {l : ImmediateLayout} {imm : BitVec 32} (h : l.Fits imm)
    (w : BitVec 32) : l.read (writeAll w (l.fields imm)) = imm := by
  cases l with
  | i =>
    simp only [read, ImmediateLayout.fields, writeAll, List.foldl_cons, List.foldl_nil, immI]
    simp (disch := first | exact Word.fits_slice _ (by decide) | omega) only
      [Word.extractLsb'_write_inside, extractLsb'_slice]
    exact signExtend_extractLsb'_of_isSigned (by decide) (by decide) h
  | s =>
    simp only [read, ImmediateLayout.fields, writeAll, List.foldl_cons, List.foldl_nil, immS]
    simp (disch := first | exact Word.fits_slice _ (by decide) | omega) only
      [Word.extractLsb'_write_inside, Word.extractLsb'_write_outside, extractLsb'_slice,
        BitVec.extractLsb'_append_extractLsb'_eq_extractLsb']
    exact signExtend_extractLsb'_of_isSigned (by decide) (by decide) h
  | b =>
    exact Displacement.readBranch_writeAll w ((ReferenceKind.fits_signExtend_iff .branch imm).2 h)
  | u =>
    have hdvd := (dvd_toInt_iff imm (by decide)).1 h
    simp only [read, ImmediateLayout.fields, writeAll, List.foldl_cons, List.foldl_nil, immU]
    simp (disch := first | exact Word.fits_slice _ (by decide) | omega) only
      [Word.extractLsb'_write_inside, extractLsb'_slice]
    rw [extractLsb'_append_zero imm 20 hdvd, BitVec.extractLsb'_eq_self, BitVec.signExtend_eq]
  | j =>
    exact Displacement.readJump_writeAll w ((ReferenceKind.fits_signExtend_iff .jal imm).2 h)

namespace FormatCall

/-! ## Fields -/

variable {x : FormatCall} {w : BitVec 32}

theorem pairwise_apart (x : FormatCall) : x.fields.Pairwise Field.Apart := by
  cases x
  case shift =>
    simp [fields, parts, immediate?, Field.Apart]
    omega
  all_goals
    simp [fields, parts, immediate?, ImmediateLayout.fields, ReferenceKind.fields, Field.Apart]

theorem shift_fits_iff {t : ShiftType} {rd rs1 shamt : BitVec 32} :
    (shift t rd rs1 shamt).Fits ↔ ∀ f ∈ (shift t rd rs1 shamt).parts, f.Fits 32 := by
  have hwidth : ∀ {n : Nat}, 1 ≤ n → n ≤ 11 →
      19 + n - 20 + 1 = n ∧ 31 - (20 + n) + 1 = 12 - n := by omega
  simp only [Fits, parts, forall_fits_cons, forall_fits_nil, and_true]
  constructor
  · rintro ⟨hop, hf, hrd, hrs1, ⟨hpos, hbits⟩, hshamt, hfunct⟩
    obtain ⟨hlow, hhigh⟩ := hwidth hpos hbits
    refine ⟨fits_opcode hop, fits_funct3 hf, ⟨by decide, by decide, hrd⟩,
      ⟨by decide, by decide, hrs1⟩, ⟨by omega, by omega, ?_⟩, ⟨by omega, by decide, ?_⟩⟩
    · rwa [hlow]
    · rwa [hhigh]
  · rintro ⟨⟨-, -, hop⟩, ⟨-, -, hf⟩, ⟨-, -, hrd⟩, ⟨-, -, hrs1⟩, ⟨hpos, -, hshamt⟩,
      ⟨hbits, -, hfunct⟩⟩
    have hpos' : 1 ≤ t.shamtBits.toNat := by omega
    have hbits' : t.shamtBits.toNat ≤ 11 := by omega
    obtain ⟨hlow, hhigh⟩ := hwidth hpos' hbits'
    rw [hlow] at hshamt
    rw [hhigh] at hfunct
    exact ⟨hop, hf, hrd, hrs1, ⟨hpos', hbits'⟩, hshamt, hfunct⟩

theorem fits_iff :
    x.Fits ↔ (∀ f ∈ x.parts, f.Fits 32) ∧ ∀ p ∈ x.immediate?, p.1.Fits p.2 := by
  cases x
  case shift => simpa [immediate?] using shift_fits_iff
  all_goals
    simp [Fits, parts, immediate?, Field.Fits, Word.Fits, ImmediateLayout.Fits, toNat_bitOf_le,
      RoundingMode.toNat_encoding_lt, VectorMask.toNat_encoding_le, FieldCount.toNat_encoding_lt,
      Opcode.branch, Opcode.jal, Opcode.system, Opcode.amo, Opcode.opFloat, Opcode.miscMem,
      Opcode.opVector, and_assoc]

theorem fields_fit (h : x.Fits) : ∀ f ∈ x.fields, f.Fits 32 := by
  obtain ⟨hparts, -⟩ := fits_iff.1 h
  rw [fields, List.forall_mem_append]
  refine ⟨hparts, ?_⟩
  cases x.immediate? with
  | none => exact List.forall_mem_nil _
  | some p => exact p.1.fields_fit p.2

/-! ## Encoding -/

theorem fields_of_none (himm : x.immediate? = none) : x.fields = x.parts := by
  rw [fields, himm]
  exact List.append_nil _

theorem fits_iff_of_none (himm : x.immediate? = none) :
    x.Fits ↔ ∀ f ∈ x.fields, f.Fits 32 := by
  rw [fits_iff, himm, fields_of_none himm]
  simp

theorem encode_of_pack (himm : x.immediate? = none) (hencode : x.encode = pack x.parts) :
    x.encode = .ok w ↔ x.Fits ∧ w = writeAll 0 x.fields := by
  rw [fits_iff_of_none himm, fields_of_none himm, hencode, pack_eq_ok_iff le_rfl]

/-- Formats with an immediate, whatever the order in which their fields are written. -/
theorem encode_of_immediate {l : ImmediateLayout} {imm : BitVec 32} {written : List Field}
    (himm : x.immediate? = some (l, imm)) (hperm : x.fields.Perm written)
    (hencode : x.encode = .ok w ↔
      l.Fits imm ∧ (∀ f ∈ written, f.Fits 32) ∧ w = writeAll 0 written) :
    x.encode = .ok w ↔ x.Fits ∧ w = writeAll 0 x.fields := by
  have hsame : x.Fits → writeAll (0 : BitVec 32) x.fields = writeAll 0 written :=
    fun h => writeAll_perm le_rfl hperm (fields_fit h) x.pairwise_apart 0
  have hfields : x.fields = x.parts ++ l.fields imm := by
    rw [fields, himm]
    rfl
  have hfits : x.Fits ↔ l.Fits imm ∧ ∀ f ∈ written, f.Fits 32 := by
    simp only [fits_iff, himm, Option.mem_some_iff, forall_eq', ← hperm.mem_iff, hfields,
      List.forall_mem_append]
    constructor
    · rintro ⟨hparts, hl⟩
      exact ⟨hl, hparts, l.fields_fit imm⟩
    · rintro ⟨hl, hparts, -⟩
      exact ⟨hparts, hl⟩
  rw [hencode, hfits]
  constructor
  · rintro ⟨hl, hwritten, rfl⟩
    exact ⟨⟨hl, hwritten⟩, (hsame (hfits.2 ⟨hl, hwritten⟩)).symm⟩
  · rintro ⟨⟨hl, hwritten⟩, rfl⟩
    exact ⟨hl, hwritten, hsame (hfits.2 ⟨hl, hwritten⟩)⟩

theorem encode_shift_eq_ok_iff {t : ShiftType} {rd rs1 shamt : BitVec 32} :
    (shift t rd rs1 shamt).encode = .ok w ↔
      (shift t rd rs1 shamt).Fits ∧ w = writeAll 0 (shift t rd rs1 shamt).fields := by
  by_cases hbits : t.shamtBits.toNat < 32
  · rw [encode, ShiftType.encode_eq_ok_iff hbits, fits_iff_of_none rfl]
    refine and_iff_right_of_imp fun h => ?_
    have hfits : (shift t rd rs1 shamt).Fits := (fits_iff_of_none rfl).2 h.1
    obtain ⟨-, -, -, -, -, hshamt, -⟩ := hfits
    exact hshamt
  · -- The shift amount would lie beyond the word.
    refine iff_of_false ?_ ?_
    · intro h
      simp only [encode, ShiftType.encode, bind_eq_ok_iff, Word.patch_eq_ok_iff (le_refl 32),
        Checked.add_eq_ok_iff] at h
      obtain ⟨_, -, _, -, _, ⟨-, rfl⟩, _, ⟨⟨-, hmsb, -⟩, -⟩, -⟩ := h
      omega
    · rintro ⟨⟨-, -, -, -, ⟨-, hle⟩, -⟩, -⟩
      omega

theorem encode_csr_eq_ok_iff {t : CsrType} {rd address source : BitVec 32} :
    (csr t rd address source).encode = .ok w ↔
      (csr t rd address source).Fits ∧ w = writeAll 0 (csr t rd address source).fields := by
  rw [encode, CsrType.encode, require_bind_eq_ok_iff, le_rightBits_iff (by decide),
    pack_eq_ok_iff le_rfl, fits_iff_of_none rfl]
  refine and_iff_right_of_imp fun h => ?_
  have hfits : (csr t rd address source).Fits := (fits_iff_of_none rfl).2 h.1
  obtain ⟨-, -, -, haddress⟩ := hfits
  exact haddress

/-- A call is encoded exactly when everything fits, into the fields it names. -/
theorem encode_eq_ok_iff : x.encode = .ok w ↔ x.Fits ∧ w = writeAll 0 x.fields := by
  cases x with
  | r t rd rs1 rs2 => exact encode_of_pack rfl rfl
  | i t rd rs1 imm => exact encode_of_immediate rfl (.refl _) IType.encode_eq_ok_iff
  | unary t rd rs1 => exact encode_of_pack rfl rfl
  | shift t rd rs1 shamt => exact encode_shift_eq_ok_iff
  | s t rs2 rs1 offset =>
    have hmiddle : ∀ a b c d : Field, [a, b, c, d].Perm [c, a, b, d] := by
      intro a b c d
      exact ((List.Perm.swap c b [d]).cons a).trans (List.Perm.swap c a [b, d])
    exact encode_of_immediate rfl (((hmiddle _ _ _ _).cons _).cons _) SType.encode_eq_ok_iff
  | b t rs1 rs2 offset => exact encode_of_immediate rfl (.refl _) BType.encode_eq_ok_iff
  | u t rd imm => exact encode_of_immediate rfl (.refl _) UType.encode_eq_ok_iff
  | j rd offset => exact encode_of_immediate rfl (.refl _) JType.encode_eq_ok_iff
  | csr t rd address source => exact encode_csr_eq_ok_iff
  | amo t rd rs1 rs2 order => exact encode_of_pack rfl rfl
  | float t rd rs1 rs2 rm => exact encode_of_pack rfl rfl
  | r4 t rd rs1 rs2 rs3 rm => exact encode_of_pack rfl rfl
  | fence pred succ => exact encode_of_pack rfl rfl
  | vectorArith funct6 funct3 vd vs2 source vm => exact encode_of_pack rfl rfl
  | vectorMemory opcode width vd rs1 selector vm mop count => exact encode_of_pack rfl rfl

/-! ## Reading back -/

theorem extract_part (h : x.Fits) {f : Field} (hf : f ∈ x.parts) :
    Word.extract (writeAll (0 : BitVec 32) x.fields) f.msb f.lsb = .ok f.value :=
  extract_writeAll le_rfl (fields_fit h) x.pairwise_apart (List.mem_append_left _ hf) 0

theorem read_immediate (h : x.Fits) {p : ImmediateLayout × BitVec 32} (hp : p ∈ x.immediate?) :
    p.1.read (writeAll 0 x.fields) = p.2 := by
  obtain ⟨-, himm⟩ := fits_iff.1 h
  have hfields : x.fields = x.parts ++ p.1.fields p.2 := by
    rw [fields, Option.mem_def.1 hp]
    rfl
  rw [hfields, writeAll_append]
  exact ImmediateLayout.read_writeAll (himm p hp) _

/-- A call of a format is encoded exactly when its row and its operands fit. From the word each of
them is read back at its position, an immediate with its sign, and every bit that no field names is
zero. -/
theorem encode_readsBack (x : FormatCall) :
    ((∃ w, x.encode = .ok w) ↔ x.Fits) ∧
      ∀ w, x.encode = .ok w →
        (∀ f ∈ x.parts, Word.extract w f.msb f.lsb = .ok f.value) ∧
          (∀ p ∈ x.immediate?, p.1.read w = p.2) ∧
            ∀ i < 32, (∀ f ∈ x.fields, i < f.lsb ∨ f.msb < i) → w.getLsbD i = false := by
  refine ⟨?_, ?_⟩
  · simp only [encode_eq_ok_iff, exists_and_left, exists_eq, and_true]
  · intro w hw
    obtain ⟨hfits, rfl⟩ := encode_eq_ok_iff.1 hw
    refine ⟨fun f hf => extract_part hfits hf, fun p hp => read_immediate hfits hp, ?_⟩
    intro i hi hout
    rw [getLsbD_writeAll_of_forall_outside le_rfl (fields_fit hfits) hi hout]
    exact BitVec.getLsbD_zero

end FormatCall

end RiscvAssembler
