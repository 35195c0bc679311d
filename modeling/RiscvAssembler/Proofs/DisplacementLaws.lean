import RiscvAssembler.Compact.Form
import RiscvAssembler.Format
import RiscvAssembler.Proofs.FieldLaws
import RiscvAssembler.Proofs.Site

/-!
# Laws of displacement fields

The four displacement fields are lenses. A write is refused only for a displacement that does not
fit; otherwise it is read back, leaves the rest of the word alone and is undone by the next one. A
word that was never written carries a displacement that fits, and keeps its bits when this is
written back. So a placeholder that is patched is the instruction encoded with its displacement.
-/

namespace RiscvAssembler

/-! ## Fields of a word -/

/-- A word that holds the fields already stays as it is. -/
theorem writeAll_eq_self {n : Nat} (hn : n ≤ 32) {fields : List Field} {w : BitVec n}
    (hfits : ∀ f ∈ fields, f.Fits n) (h : ∀ f ∈ fields, f.value = slice w f.msb f.lsb) :
    writeAll w fields = w := by
  induction fields with
  | nil => rfl
  | cons f fields ih =>
    rw [List.forall_mem_cons] at hfits h
    change writeAll (Word.write w f.msb f.lsb f.value) fields = w
    rw [h.1, Word.write_slice hn w hfits.1.1 hfits.1.2.1]
    exact ih hfits.2 h.2

theorem slice_eq_slice {n m : Nat} {x : BitVec n} {y : BitVec m} {high low msb lsb : Nat}
    (hlen : high - low = msb - lsb)
    (h : x.extractLsb' low (msb - lsb + 1) = y.extractLsb' lsb (msb - lsb + 1)) :
    slice x high low = slice y msb lsb := by
  rw [slice, slice, hlen, h]

theorem extractLsb'_signExtend {n m start len : Nat} (x : BitVec n) (hn : start + len ≤ n)
    (hm : start + len ≤ m) :
    (x.signExtend m).extractLsb' start len = x.extractLsb' start len := by
  apply BitVec.eq_of_getLsbD_eq
  intro i hi
  rw [BitVec.getLsbD_extractLsb', BitVec.getLsbD_extractLsb', BitVec.getLsbD_signExtend,
    decide_eq_true (show start + i < m by omega), Bool.true_and,
    if_pos (show start + i < n by omega)]

/-- A sign-extended number with `a` zeros at its end is a multiple of `2 ^ a`. -/
theorem Immediate.isSigned_signExtend_append_zero {n a : Nat} (h : n + a ≤ 32) (x : BitVec n) :
    IsSigned (n + a) a ((x ++ 0#a).signExtend 32).toInt := by
  rw [BitVec.toInt_signExtend_of_le h]
  refine ⟨BitVec.le_toInt _, BitVec.toInt_lt, ?_⟩
  rw [BitVec.toInt_append, BitVec.toNat_ofNat, Nat.zero_mod, Nat.cast_zero, add_zero]
  split
  · rw [BitVec.toInt_zero]
    exact dvd_zero _
  · exact dvd_mul_right _ _

/-! ## Words of each kind -/

namespace ReferenceKind

/-- The words that carry a displacement of the kind. -/
abbrev Carrier (k : ReferenceKind) : Type :=
  BitVec (8 * k.length)

def patch : (k : ReferenceKind) → k.Carrier → BitVec 32 → Except Fault k.Carrier
  | branch => Displacement.patchBranch
  | jal => Displacement.patchJump
  | cBranch => Displacement.patchCompactBranch
  | cJump => Displacement.patchCompactJump

def read : (k : ReferenceKind) → k.Carrier → BitVec 32
  | branch => Displacement.readBranch
  | jal => Displacement.readJump
  | cBranch => Displacement.readCompactBranch
  | cJump => Displacement.readCompactJump

/-- What a displacement of the kind is called when it is refused. -/
def operand : ReferenceKind → RangedOperand
  | branch => .branchOffset
  | jal => .jumpOffset
  | cBranch => .compactBranchOffset
  | cJump => .compactJumpOffset

/-- Bit `i` of the word belongs to the displacement. -/
def Covers (i : Nat) : ReferenceKind → Prop
  | branch => (7 ≤ i ∧ i ≤ 11) ∨ (25 ≤ i ∧ i ≤ 31)
  | jal => 12 ≤ i ∧ i ≤ 31
  | cBranch => (2 ≤ i ∧ i ≤ 6) ∨ (10 ≤ i ∧ i ≤ 12)
  | cJump => 2 ≤ i ∧ i ≤ 12

/-- The instructions of the kind, without their displacements. -/
inductive Frame : ReferenceKind → Type
  | branch (t : BType) (rs1 rs2 : BitVec 32) : Frame .branch
  | jump (rd : BitVec 32) : Frame .jal
  | beqz (rs1 : Reg) : Frame .cBranch
  | bnez (rs1 : Reg) : Frame .cBranch
  | compactJump : Frame .cJump

def Frame.encode : {k : ReferenceKind} → k.Frame → BitVec 32 → Except Fault k.Carrier
  | _, .branch t rs1 rs2, d => t.encode rs1 rs2 d
  | _, .jump rd, d => JType.encode rd d
  | _, .beqz rs1, d => (CompactForm.beqz rs1 d).encode
  | _, .bnez rs1, d => (CompactForm.bnez rs1 d).encode
  | _, .compactJump, d => (CompactForm.j d).encode

/-! ## Patching and reading -/

theorem size_le (k : ReferenceKind) : 8 * k.length ≤ 32 := by
  cases k <;> decide

theorem patch_eq_ok_iff {k : ReferenceKind} {w w' : k.Carrier} {d : BitVec 32} :
    k.patch w d = .ok w' ↔ k.fits (d.signExtend 64) ∧ w' = writeAll w (k.fields d) := by
  cases k with
  | branch => exact Displacement.patchBranch_eq_ok_iff
  | jal => exact Displacement.patchJump_eq_ok_iff
  | cBranch => exact Displacement.patchCompactBranch_eq_ok_iff
  | cJump => exact Displacement.patchCompactJump_eq_ok_iff

theorem patch_of_fits {k : ReferenceKind} {d : BitVec 32} (h : k.fits (d.signExtend 64))
    (w : k.Carrier) : k.patch w d = .ok (writeAll w (k.fields d)) :=
  patch_eq_ok_iff.2 ⟨h, rfl⟩

theorem patch_of_not_fits {k : ReferenceKind} {d : BitVec 32} (h : ¬ k.fits (d.signExtend 64))
    (w : k.Carrier) : k.patch w d = .error (.outOfRange k.operand d.toInt) := by
  have hcheck : ∀ rest : Unit → Except Fault k.Carrier,
      Displacement.check k k.operand d >>= rest = .error (.outOfRange k.operand d.toInt) := by
    intro rest
    rw [Displacement.check, require, if_neg h]
    rfl
  cases k <;> exact hcheck _

theorem patch_eq_error_iff {k : ReferenceKind} {w : k.Carrier} {d : BitVec 32} {f : Fault} :
    k.patch w d = .error f ↔
      ¬ k.fits (d.signExtend 64) ∧ f = .outOfRange k.operand d.toInt := by
  by_cases h : k.fits (d.signExtend 64)
  · rw [patch_of_fits h]
    exact iff_of_false nofun fun hnot => hnot.1 h
  · rw [patch_of_not_fits h, Except.error.injEq, and_iff_right h, eq_comm]

theorem read_writeAll {k : ReferenceKind} {d : BitVec 32} (h : k.fits (d.signExtend 64))
    (w : k.Carrier) : k.read (writeAll w (k.fields d)) = d := by
  cases k with
  | branch => exact Displacement.readBranch_writeAll w h
  | jal => exact Displacement.readJump_writeAll w h
  | cBranch => exact Displacement.readCompactBranch_writeAll w h
  | cJump => exact Displacement.readCompactJump_writeAll w h

theorem outside_fields_of_not_covers {k : ReferenceKind} {i : Nat} (h : ¬ k.Covers i)
    (d : BitVec 32) : ∀ f ∈ k.fields d, i < f.lsb ∨ f.msb < i := by
  cases k <;> simp only [Covers, not_or, not_and_or, not_le] at h <;> simp [fields] <;> omega

theorem getLsbD_writeAll_of_not_covers {k : ReferenceKind} (w : k.Carrier) (d : BitVec 32) {i : Nat}
    (h : ¬ k.Covers i) : (writeAll w (k.fields d)).getLsbD i = w.getLsbD i := by
  by_cases hi : i < 8 * k.length
  · exact getLsbD_writeAll_of_forall_outside k.size_le (k.fields_fit d) hi
      (outside_fields_of_not_covers h d) w
  · rw [BitVec.getLsbD_of_ge _ _ (Nat.not_lt.1 hi), BitVec.getLsbD_of_ge _ _ (Nat.not_lt.1 hi)]

/-- The next displacement takes the place of the one before. -/
theorem writeAll_writeAll {k : ReferenceKind} (w : k.Carrier) (d e : BitVec 32) :
    writeAll (writeAll w (k.fields d)) (k.fields e) = writeAll w (k.fields e) := by
  apply writeAll_congr k.size_le (k.fields_fit e)
  intro i hi hout
  exact getLsbD_writeAll_of_forall_outside k.size_le (k.fields_fit d) hi
    (k.outside_fields_congr e d hout) w

theorem patch_writeAll {k : ReferenceKind} (w : k.Carrier) (d e : BitVec 32) :
    k.patch (writeAll w (k.fields d)) e = k.patch w e := by
  by_cases h : k.fits (e.signExtend 64)
  · rw [patch_of_fits h, patch_of_fits h, writeAll_writeAll]
  · rw [patch_of_not_fits h, patch_of_not_fits h]

/-! ## Words that were not patched -/

theorem fits_read {k : ReferenceKind} (w : k.Carrier) : k.fits ((k.read w).signExtend 64) := by
  rw [fits_signExtend_iff]
  cases k with
  | branch => exact Immediate.isSigned_signExtend_append_zero (n := 12) (by decide) _
  | jal => exact Immediate.isSigned_signExtend_append_zero (n := 20) (by decide) _
  | cBranch => exact Immediate.isSigned_signExtend_append_zero (n := 8) (by decide) _
  | cJump => exact Immediate.isSigned_signExtend_append_zero (n := 11) (by decide) _

/-- The fields of the displacement that a word carries are the fields of the word. -/
theorem value_of_mem_fields_read {k : ReferenceKind} (w : k.Carrier) :
    ∀ f ∈ k.fields (k.read w), f.value = slice w f.msb f.lsb := by
  -- Each field is one of the parts that reading concatenates.
  cases k <;>
    simp only [fields, List.forall_mem_cons, List.not_mem_nil, false_imp_iff, implies_true,
      and_true] <;>
    and_intros <;> refine slice_eq_slice rfl ?_ <;>
    simp (disch := decide) only [read, Displacement.readBranch, Displacement.readJump,
      Displacement.readCompactBranch, Displacement.readCompactJump, extractLsb'_signExtend,
      BitVec.extractLsb'_append_eq_of_add_le, BitVec.extractLsb'_append_eq_of_le, Nat.reduceSub,
      BitVec.extractLsb'_eq_self] <;>
    rfl

theorem patch_read {k : ReferenceKind} (w : k.Carrier) : k.patch w (k.read w) = .ok w := by
  rw [patch_of_fits (fits_read w),
    writeAll_eq_self k.size_le (k.fields_fit _) (value_of_mem_fields_read w)]

/-! ## Placeholders -/

theorem Frame.encode_eq_bind {k : ReferenceKind} (x : k.Frame) :
    ∃ frame : Except Fault k.Carrier, ∀ d, x.encode d = frame >>= fun w => k.patch w d := by
  cases x with
  | branch t rs1 rs2 => exact ⟨_, fun _ => rfl⟩
  | jump rd => exact ⟨_, fun _ => rfl⟩
  | beqz rs1 | bnez rs1 => exact ⟨_, fun _ => (bind_assoc rs1.compactEncoding _ _).symm⟩
  | compactJump => exact ⟨_, fun _ => rfl⟩

/-- Patching the placeholder gives what the encoder gives, its faults included. -/
theorem Frame.encode_bind_patch {k : ReferenceKind} (x : k.Frame) (d : BitVec 32) :
    (x.encode 0#32 >>= fun w => k.patch w d) = x.encode d := by
  obtain ⟨frame, hframe⟩ := x.encode_eq_bind
  rw [hframe, hframe, bind_assoc]
  refine congrArg (frame >>= ·) (funext fun w => ?_)
  rw [patch_of_fits (Site.fits_zero k)]
  exact patch_writeAll w _ d

/-! ## The laws -/

/-- The displacement field of the kind is a lens over the displacements that fit. -/
structure IsLawful (k : ReferenceKind) : Prop where
  refused : ∀ (w : k.Carrier) (d : BitVec 32) (f : Fault),
    k.patch w d = .error f ↔ ¬ k.fits (d.signExtend 64) ∧ f = .outOfRange k.operand d.toInt
  read_patch : ∀ (w w' : k.Carrier) (d : BitVec 32), k.patch w d = .ok w' → k.read w' = d
  outside : ∀ (w w' : k.Carrier) (d : BitVec 32), k.patch w d = .ok w' →
    ∀ i, ¬ k.Covers i → w'.getLsbD i = w.getLsbD i
  patch_patch : ∀ (w w' : k.Carrier) (d : BitVec 32), k.patch w d = .ok w' →
    ∀ e, k.patch w' e = k.patch w e
  fits_read : ∀ w : k.Carrier, k.fits ((k.read w).signExtend 64)
  patch_read : ∀ w : k.Carrier, k.patch w (k.read w) = .ok w
  placeholder : ∀ (x : k.Frame) (d : BitVec 32),
    (x.encode 0#32 >>= fun w => k.patch w d) = x.encode d

theorem displacement_isLawful (k : ReferenceKind) : k.IsLawful where
  refused _ _ _ := patch_eq_error_iff
  read_patch w w' d h := by
    obtain ⟨hd, rfl⟩ := patch_eq_ok_iff.1 h
    exact read_writeAll hd w
  outside w w' d h i hi := by
    obtain ⟨-, rfl⟩ := patch_eq_ok_iff.1 h
    exact getLsbD_writeAll_of_not_covers w d hi
  patch_patch w w' d h e := by
    obtain ⟨-, rfl⟩ := patch_eq_ok_iff.1 h
    exact patch_writeAll w d e
  fits_read := fits_read
  patch_read := patch_read
  placeholder x d := x.encode_bind_patch d

end ReferenceKind

end RiscvAssembler
