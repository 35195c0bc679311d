import RiscvAssembler.Proofs.CompactDecoding
import RiscvAssembler.Proofs.Format
import RiscvAssembler.Proofs.Selection

/-!
# The low bits of instructions

The low two bits of an instruction tell its length: both are set in a word and not both in a
halfword. Every format starts with a major opcode that has both set, and no later field reaches
them. A compact form is one that can be decoded, so it lies in one of the three quadrants left and
is not zero.
-/

namespace RiscvAssembler

/-- The low two bits are set. -/
def IsLong {n : Nat} (w : BitVec n) : Prop :=
  w.extractLsb' 0 2 = 0b11#2

instance {n : Nat} (w : BitVec n) : Decidable (IsLong w) :=
  inferInstanceAs (Decidable (_ = _))

/-- The low two bits tell the length of the code, and it does not start with a halfword of zeros. -/
def Code.Delimits : Code → Prop
  | .half h => ¬ IsLong h ∧ h ≠ 0#16
  | .word w => IsLong w

/-! ## Fields above the low bits -/

variable {w : BitVec 32} {fields : List Field}

theorem IsLong.write {msb lsb : Nat} {v : BitVec 32} (h : IsLong w) (hfits : Word.Fits 32 msb lsb v)
    (hlsb : 2 ≤ lsb) : IsLong (Word.write w msb lsb v) := by
  rw [IsLong, Word.extractLsb'_write_outside le_rfl w hfits (.inl hlsb)]
  exact h

theorem IsLong.writeAll (h : IsLong w) (hfits : ∀ f ∈ fields, f.Fits 32)
    (habove : ∀ f ∈ fields, 2 ≤ f.lsb) : IsLong (writeAll w fields) := by
  induction fields generalizing w with
  | nil => exact h
  | cons f fields ih =>
    rw [List.forall_mem_cons] at hfits habove
    exact ih (h.write hfits.1 habove.1) hfits.2 habove.2

/-- A word is long when its opcode is and no other field reaches the low bits. -/
theorem isLong_of_pack {opcode : BitVec 32} (hop : IsLong opcode)
    (habove : ∀ f ∈ fields, 2 ≤ f.lsb) (h : pack (⟨6, 0, opcode⟩ :: fields) = .ok w) :
    IsLong w := by
  obtain ⟨hfits, rfl⟩ := (pack_eq_ok_iff le_rfl).1 h
  rw [List.forall_mem_cons] at hfits
  apply IsLong.writeAll ?_ hfits.2 habove
  rw [IsLong, Word.extractLsb'_write_inside le_rfl _ hfits.1 le_rfl (show 0 + 2 ≤ 6 + 1 by decide)]
  exact hop

theorem ReferenceKind.two_le_lsb (k : ReferenceKind) (d : BitVec 32) :
    ∀ f ∈ k.fields d, 2 ≤ f.lsb := by
  cases k <;> simp [fields]

/-! ## Formats -/

section Formats

variable {rd rs1 rs2 rs3 imm shamt : BitVec 32}

theorem RType.isLong {t : RType} (ht : IsLong t.opcode) (h : t.encode rd rs1 rs2 = .ok w) :
    IsLong w :=
  isLong_of_pack ht (by simp) h

theorem IType.isLong {t : IType} (ht : IsLong t.opcode) (h : t.encode rd rs1 imm = .ok w) :
    IsLong w := by
  rw [encode, require_bind_eq_ok_iff] at h
  exact isLong_of_pack ht (by simp) h.2

theorem UnaryType.isLong {t : UnaryType} (ht : IsLong t.opcode) (h : t.encode rd rs1 = .ok w) :
    IsLong w :=
  isLong_of_pack ht (by simp) h

theorem ShiftType.isLong {t : ShiftType} (ht : IsLong t.opcode)
    (h : t.encode rd rs1 shamt = .ok w) : IsLong w := by
  simp only [encode, bind_eq_ok_iff, Word.patch_eq_ok_iff (le_refl 32), Checked.add_eq_ok_iff] at h
  obtain ⟨-, -, w₁, hpack, _, -, w₂, ⟨hfits₁, rfl⟩, _, ⟨-, rfl⟩, hfits₂, rfl⟩ := h
  exact ((isLong_of_pack ht (by simp) hpack).write hfits₁ (by decide)).write hfits₂ (by omega)

theorem SType.isLong {t : SType} (ht : IsLong t.opcode) (h : t.encode rs2 rs1 imm = .ok w) :
    IsLong w := by
  rw [encode, require_bind_eq_ok_iff] at h
  exact isLong_of_pack ht (by simp) h.2

theorem BType.isLong {t : BType} (h : t.encode rs1 rs2 imm = .ok w) : IsLong w := by
  obtain ⟨frame, hframe, -, rfl⟩ := BType.encode_eq_ok_iff_frame.1 h
  exact (isLong_of_pack (by decide) (by simp) hframe).writeAll
    (ReferenceKind.branch.fields_fit imm) (ReferenceKind.branch.two_le_lsb imm)

theorem UType.isLong {t : UType} (ht : IsLong t.opcode) (h : t.encode rd imm = .ok w) :
    IsLong w := by
  rw [encode, require_bind_eq_ok_iff] at h
  exact isLong_of_pack ht (by simp) h.2

theorem JType.isLong (h : JType.encode rd imm = .ok w) : IsLong w := by
  obtain ⟨frame, hframe, -, rfl⟩ := JType.encode_eq_ok_iff_frame.1 h
  exact (isLong_of_pack (by decide) (by simp) hframe).writeAll
    (ReferenceKind.jal.fields_fit imm) (ReferenceKind.jal.two_le_lsb imm)

theorem CsrType.isLong {t : CsrType} (h : t.encode rd imm rs1 = .ok w) : IsLong w := by
  rw [encode, require_bind_eq_ok_iff] at h
  exact isLong_of_pack (by decide) (by simp) h.2

theorem AmoType.isLong {t : AmoType} {order : MemoryOrder}
    (h : t.encode rd rs1 rs2 order = .ok w) : IsLong w :=
  isLong_of_pack (by decide) (by simp) h

theorem FloatType.isLong {t : FloatType} {rm : RoundingMode} (h : t.encode rd rs1 rs2 rm = .ok w) :
    IsLong w :=
  isLong_of_pack (by decide) (by simp) h

theorem R4Type.isLong {t : R4Type} {rm : RoundingMode} (ht : IsLong t.opcode)
    (h : t.encode rd rs1 rs2 rs3 rm = .ok w) : IsLong w :=
  isLong_of_pack ht (by simp) h

theorem Fence.isLong {pred succ : BitVec 32} (h : Fence.encode pred succ = .ok w) : IsLong w :=
  isLong_of_pack (by decide) (by simp) h

theorem VectorInstr.isLong_of_encodeArith {row : VectorRow} {vd vs2 source : BitVec 32}
    {vm : VectorMask} (h : encodeArith row vd vs2 source vm = .ok w) : IsLong w :=
  isLong_of_pack (by decide) (by simp) h

theorem VectorFormat.isLong_of_memory {dir : Direction} {width vd selector mop : BitVec 32}
    {vm : VectorMask} {count : FieldCount}
    (h : memory dir.opcode width vd rs1 selector vm mop count = .ok w) : IsLong w :=
  isLong_of_pack (by cases dir <;> decide) (by simp) h

end Formats

/-! ## Instructions -/

theorem IntegerInstr.isLong {i : IntegerInstr} (h : i.encode = .ok w) : IsLong w := by
  cases i with
  | reg op => exact RType.isLong (by cases op <;> decide) h
  | imm op => exact IType.isLong (by cases op <;> decide) h
  | shift op => exact ShiftType.isLong (by cases op <;> decide) h
  | extend op => exact UnaryType.isLong (by cases op <;> decide) h
  | upper op => exact UType.isLong (by cases op <;> decide) h
  | load op => exact IType.isLong (by cases op <;> decide) h
  | store op => exact SType.isLong (by cases op <;> decide) h
  | branch cond => exact BType.isLong h
  | jal => exact JType.isLong h
  | jalr => exact IType.isLong (by decide) h
  | ecall =>
    obtain rfl := Except.ok.inj h
    decide
  | ebreak =>
    obtain rfl := Except.ok.inj h
    decide
  | fence => exact Fence.isLong h
  | fenceI =>
    obtain rfl := Except.ok.inj h
    decide
  | csr => exact CsrType.isLong h
  | csrImm =>
    rw [encode, require_bind_eq_ok_iff] at h
    exact CsrType.isLong h.2
  | loadReserved => exact AmoType.isLong h
  | amo => exact AmoType.isLong h

theorem FloatInstr.isLong {i : FloatInstr} (h : i.encode = .ok w) : IsLong w := by
  cases i with
  | load fmt => exact IType.isLong (by cases fmt <;> decide) h
  | store fmt => exact SType.isLong (by cases fmt <;> decide) h
  | fused op fmt => exact R4Type.isLong (by cases op <;> cases fmt <;> decide) h
  | _ => exact FloatType.isLong h

theorem VectorInstr.isLong_of_encodeGroup {dir : Direction} {eew : Sew} {vd : VReg} {rs1 : Reg}
    {count : Nat} (h : encodeGroup dir eew vd rs1 count = .ok w) : IsLong w := by
  simp only [encodeGroup, bind_eq_ok_iff] at h
  obtain ⟨_, -, _, -, _, -, h⟩ := h
  exact VectorFormat.isLong_of_memory h

theorem VectorInstr.isLong {i : VectorInstr} (h : i.encode = .ok w) : IsLong w := by
  cases i with
  | setvli rd rs1 vtype =>
    rw [encode, VType.check, require_bind_eq_ok_iff] at h
    exact isLong_of_pack (by decide) (by simp [VType.fields]) h.2
  | setivli rd avl vtype =>
    simp only [encode, bind_eq_ok_iff] at h
    obtain ⟨_, -, _, -, h⟩ := h
    exact isLong_of_pack (by decide) (by simp [VType.fields]) h
  | setvl => exact isLong_of_pack (by decide) (by simp) h
  | vi | vu | moveI | mergeI =>
    simp only [encode, bind_eq_ok_iff] at h
    obtain ⟨_, -, h⟩ := h
    exact isLong_of_encodeArith h
  | moveGroup =>
    simp only [encode, checkGroup, require_bind_eq_ok_iff] at h
    exact isLong_of_encodeArith h.2.2
  | unitStride | strided | indexed =>
    rw [encode, checkSegment, require_bind_eq_ok_iff] at h
    exact VectorFormat.isLong_of_memory h.2
  | loadGroup | storeGroup => exact isLong_of_encodeGroup h
  | maskAccess => exact VectorFormat.isLong_of_memory h
  | _ => exact isLong_of_encodeArith h

theorem Instr.isLong {i : Instr} (h : i.encode = .ok w) : IsLong w := by
  cases i with
  | integer i => exact IntegerInstr.isLong h
  | float i => exact FloatInstr.isLong h
  | vector i => exact VectorInstr.isLong h

/-! ## Emitted codes -/

theorem CompactForm.delimits {form : CompactForm} {h : BitVec 16} (hcode : form.encode = .ok h) :
    (Code.half h).Delimits := by
  have hdecode := decode?_of_encode_eq_ok hcode
  constructor
  · intro hlong
    have hnone : decode? h = none := by
      rw [decode?, show h.extractLsb' 0 2 = 0b11#2 from hlong]
      rfl
    rw [hnone] at hdecode
    cases hdecode
  · rintro rfl
    have hnone : decode? 0#16 = none := by decide
    rw [hnone] at hdecode
    cases hdecode

variable {c : Code}

theorem CompactForm.delimits_code {form : CompactForm} (h : form.code = .ok c) : c.Delimits := by
  rw [code_eq_map, map_eq_ok_iff] at h
  obtain ⟨w, hw, rfl⟩ := h
  exact delimits hw

theorem Instr.delimits_code {i : Instr} {compress : Bool} (h : i.code compress = .ok c) :
    c.Delimits := by
  rcases word_or_half_of_code_eq_ok h with ⟨w, hw, rfl⟩ | ⟨form, w, -, hw, rfl⟩
  · exact isLong hw
  · exact CompactForm.delimits hw

theorem Site.delimits_code {s : Site} {active : Bool} {d : BitVec 32}
    (h : s.code active d = .ok c) : c.Delimits := by
  cases s with
  | branch => exact Instr.delimits_code h
  | jump => exact Instr.delimits_code h
  | compactBeqz => exact CompactForm.delimits_code h
  | compactBnez => exact CompactForm.delimits_code h
  | compactJump => exact CompactForm.delimits_code h

theorem Code.delimits_nopWord : (half CompactForm.nopWord).Delimits := by
  constructor <;> decide

end RiscvAssembler
