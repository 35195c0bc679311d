import RiscvAssembler.Code
import RiscvAssembler.Displacement
import RiscvAssembler.Proofs.Field
import RiscvAssembler.Proofs.Immediate

/-!
# Displacements of a code

The displacement of an instruction is one list of fields for each kind of reference. Redirecting
a code writes these fields and nothing else, so the last of two redirections wins, and the
displacement read back is the one written.
-/

namespace RiscvAssembler

namespace ReferenceKind

/-- The bits of a displacement, with their places in the instruction. -/
def fields (d : BitVec 32) : ReferenceKind → List Field
  | branch => [⟨7, 7, slice d 11 11⟩, ⟨11, 8, slice d 4 1⟩, ⟨30, 25, slice d 10 5⟩,
    ⟨31, 31, slice d 12 12⟩]
  | jal => [⟨19, 12, slice d 19 12⟩, ⟨20, 20, slice d 11 11⟩, ⟨30, 21, slice d 10 1⟩,
    ⟨31, 31, slice d 20 20⟩]
  | cBranch => [⟨2, 2, slice d 5 5⟩, ⟨4, 3, slice d 2 1⟩, ⟨6, 5, slice d 7 6⟩,
    ⟨11, 10, slice d 4 3⟩, ⟨12, 12, slice d 8 8⟩]
  | cJump => [⟨2, 2, slice d 5 5⟩, ⟨5, 3, slice d 3 1⟩, ⟨6, 6, slice d 7 7⟩,
    ⟨7, 7, slice d 6 6⟩, ⟨8, 8, slice d 10 10⟩, ⟨10, 9, slice d 9 8⟩, ⟨11, 11, slice d 4 4⟩,
    ⟨12, 12, slice d 11 11⟩]

theorem fits_iff (k : ReferenceKind) (d : BitVec 64) :
    k.fits d ↔ Immediate.IsSigned k.offsetBits 1 d.toInt := by
  rw [ReferenceKind.fits, Immediate.fitsSigned_iff _ _ (by decide)]
  cases k <;> rfl

theorem fits_signExtend_iff (k : ReferenceKind) (d : BitVec 32) :
    k.fits (d.signExtend 64) ↔ Immediate.IsSigned k.offsetBits 1 d.toInt := by
  rw [fits_iff, BitVec.toInt_signExtend_of_le (by decide)]

theorem abs_lt_of_isSigned (k : ReferenceKind) {x : Int}
    (h : Immediate.IsSigned k.offsetBits 1 x) : -2 ^ 31 < x ∧ x < 2 ^ 31 := by
  obtain ⟨hlow, hhigh, -⟩ := h
  cases k <;> simp only [offsetBits] at hlow hhigh <;> omega

end ReferenceKind

theorem toNat_slice_lt {n : Nat} (x : BitVec n) (msb lsb : Nat) :
    (slice x msb lsb).toNat < 2 ^ (msb - lsb + 1) := by
  rw [slice, BitVec.toNat_setWidth]
  exact (Nat.mod_le _ _).trans_lt (x.extractLsb' lsb (msb - lsb + 1)).isLt

theorem extractLsb'_extractLsb' {n : Nat} (x : BitVec n) {start len i k : Nat} (hk : i + k ≤ len) :
    (x.extractLsb' start len).extractLsb' i k = x.extractLsb' (start + i) k := by
  apply BitVec.eq_of_getLsbD_eq
  intro j hj
  simp only [BitVec.getLsbD_extractLsb', hj, decide_true, Bool.true_and,
    show i + j < len by omega, Nat.add_assoc]

/-- The bits of a slice that fits 32 bits are the bits it was cut from. -/
theorem extractLsb'_slice {n : Nat} (x : BitVec n) {msb lsb start len : Nat}
    (h : start + len ≤ msb - lsb + 1) (h32 : msb - lsb < 32) :
    (slice x msb lsb).extractLsb' start len = x.extractLsb' (lsb + start) len := by
  apply BitVec.eq_of_getLsbD_eq
  intro i hi
  simp only [slice, BitVec.getLsbD_extractLsb', BitVec.getLsbD_setWidth, hi, decide_true,
    Bool.true_and, show start + i < 32 by omega, show start + i < msb - lsb + 1 by omega,
    Nat.add_assoc]

theorem Word.fits_slice {k n : Nat} (x : BitVec k) {msb lsb high low : Nat}
    (h : lsb ≤ msb ∧ msb < n ∧ high - low = msb - lsb) : Word.Fits n msb lsb (slice x high low) :=
  ⟨h.1, h.2.1, h.2.2 ▸ toNat_slice_lt x high low⟩

theorem ReferenceKind.fields_fit (k : ReferenceKind) (d : BitVec 32) :
    ∀ f ∈ k.fields d, f.Fits (8 * k.length) := by
  intro f hf
  cases k <;> simp only [fields, List.mem_cons, List.not_mem_nil, or_false] at hf <;>
    rcases hf with rfl | rfl | rfl | rfl | rfl | rfl | rfl | rfl <;>
    dsimp only [Field.Fits] <;>
    exact Word.fits_slice d (by decide)

/-- Where the fields lie does not depend on the displacement. -/
theorem ReferenceKind.outside_fields_congr (k : ReferenceKind) (d e : BitVec 32) {i : Nat}
    (h : ∀ f ∈ k.fields d, i < f.lsb ∨ f.msb < i) : ∀ f ∈ k.fields e, i < f.lsb ∨ f.msb < i := by
  cases k <;> simpa [fields] using h

namespace Displacement

/-- A displacement that can be carried is written into its fields; any other is refused. -/
theorem check_bind_patchAll_eq_ok_iff {n : Nat} (k : ReferenceKind) (operand : RangedOperand)
    (hn : n = 8 * k.length) {w w' : BitVec n} {d : BitVec 32} :
    (do check k operand d; patchAll w (k.fields d)) = .ok w' ↔
      k.fits (d.signExtend 64) ∧ w' = writeAll w (k.fields d) := by
  have hle : n ≤ 32 := by
    subst hn
    cases k <;> decide
  have hfits : ∀ f ∈ k.fields d, f.Fits n := hn ▸ k.fields_fit d
  simp only [bind_eq_ok_iff, check, require_eq_ok_iff, patchAll_eq_ok_iff hle]
  constructor
  · rintro ⟨_, hd, -, hw⟩
    exact ⟨hd, hw⟩
  · rintro ⟨hd, hw⟩
    exact ⟨(), hd, hfits, hw⟩

theorem patchBranch_eq_ok_iff {w w' d : BitVec 32} :
    patchBranch w d = .ok w' ↔ ReferenceKind.branch.fits (d.signExtend 64) ∧
      w' = writeAll w (ReferenceKind.branch.fields d) :=
  check_bind_patchAll_eq_ok_iff .branch .branchOffset rfl

theorem patchJump_eq_ok_iff {w w' d : BitVec 32} :
    patchJump w d = .ok w' ↔ ReferenceKind.jal.fits (d.signExtend 64) ∧
      w' = writeAll w (ReferenceKind.jal.fields d) :=
  check_bind_patchAll_eq_ok_iff .jal .jumpOffset rfl

theorem patchCompactBranch_eq_ok_iff {w w' : BitVec 16} {d : BitVec 32} :
    patchCompactBranch w d = .ok w' ↔ ReferenceKind.cBranch.fits (d.signExtend 64) ∧
      w' = writeAll w (ReferenceKind.cBranch.fields d) :=
  check_bind_patchAll_eq_ok_iff .cBranch .compactBranchOffset rfl

theorem patchCompactJump_eq_ok_iff {w w' : BitVec 16} {d : BitVec 32} :
    patchCompactJump w d = .ok w' ↔ ReferenceKind.cJump.fits (d.signExtend 64) ∧
      w' = writeAll w (ReferenceKind.cJump.fields d) :=
  check_bind_patchAll_eq_ok_iff .cJump .compactJumpOffset rfl

end Displacement

namespace Displacement

variable {d : BitVec 32}

theorem readBranch_writeAll (w : BitVec 32) (hd : ReferenceKind.branch.fits (d.signExtend 64)) :
    readBranch (writeAll w (ReferenceKind.branch.fields d)) = d := by
  have hsigned := (ReferenceKind.fits_signExtend_iff _ d).1 hd
  simp only [readBranch, writeAll, ReferenceKind.fields, List.foldl_cons, List.foldl_nil]
  simp (disch := first | exact Word.fits_slice _ (by decide) | omega) only
    [Word.extractLsb'_write_inside, Word.extractLsb'_write_outside, extractLsb'_slice,
      BitVec.extractLsb'_append_extractLsb'_eq_extractLsb']
  exact Immediate.signExtend_append_zero_of_isSigned (by decide) (by decide) hsigned

theorem readJump_writeAll (w : BitVec 32) (hd : ReferenceKind.jal.fits (d.signExtend 64)) :
    readJump (writeAll w (ReferenceKind.jal.fields d)) = d := by
  have hsigned := (ReferenceKind.fits_signExtend_iff _ d).1 hd
  simp only [readJump, writeAll, ReferenceKind.fields, List.foldl_cons, List.foldl_nil]
  simp (disch := first | exact Word.fits_slice _ (by decide) | omega) only
    [Word.extractLsb'_write_inside, Word.extractLsb'_write_outside, extractLsb'_slice,
      BitVec.extractLsb'_append_extractLsb'_eq_extractLsb']
  exact Immediate.signExtend_append_zero_of_isSigned (by decide) (by decide) hsigned

theorem readCompactBranch_writeAll (w : BitVec 16)
    (hd : ReferenceKind.cBranch.fits (d.signExtend 64)) :
    readCompactBranch (writeAll w (ReferenceKind.cBranch.fields d)) = d := by
  have hsigned := (ReferenceKind.fits_signExtend_iff _ d).1 hd
  simp only [readCompactBranch, writeAll, ReferenceKind.fields, List.foldl_cons, List.foldl_nil]
  simp (disch := first | exact Word.fits_slice _ (by decide) | omega) only
    [Word.extractLsb'_write_inside, Word.extractLsb'_write_outside, extractLsb'_slice,
      BitVec.extractLsb'_append_extractLsb'_eq_extractLsb']
  exact Immediate.signExtend_append_zero_of_isSigned (by decide) (by decide) hsigned

theorem readCompactJump_writeAll (w : BitVec 16)
    (hd : ReferenceKind.cJump.fits (d.signExtend 64)) :
    readCompactJump (writeAll w (ReferenceKind.cJump.fields d)) = d := by
  have hsigned := (ReferenceKind.fits_signExtend_iff _ d).1 hd
  simp only [readCompactJump, writeAll, ReferenceKind.fields, List.foldl_cons, List.foldl_nil]
  simp (disch := first | exact Word.fits_slice _ (by decide) | omega) only
    [Word.extractLsb'_write_inside, Word.extractLsb'_write_outside, extractLsb'_slice,
      BitVec.extractLsb'_append_extractLsb'_eq_extractLsb']
  exact Immediate.signExtend_append_zero_of_isSigned (by decide) (by decide) hsigned

end Displacement

namespace Code

theorem size_pos (c : Code) : 0 < c.size := by
  cases c with
  | half w => exact Nat.zero_lt_two
  | word w => exact Nat.zero_lt_succ 3

theorem size_le_four (c : Code) : c.size ≤ 4 := by
  cases c with
  | half w => exact Nat.le_add_right 2 2
  | word w => exact le_rfl

/-- The displacement that the code carries as a reference of kind `k`. -/
def displacement (k : ReferenceKind) (c : Code) : BitVec 32 :=
  match k, c with
  | .branch, .word w => Displacement.readBranch w
  | .jal, .word w => Displacement.readJump w
  | .cBranch, .half w => Displacement.readCompactBranch w
  | .cJump, .half w => Displacement.readCompactJump w
  | _, _ => 0#32

/-- The code with the displacement `d` in place of its own. -/
def redirect (k : ReferenceKind) (d : BitVec 32) : Code → Code
  | .half w => .half (writeAll w (k.fields d))
  | .word w => .word (writeAll w (k.fields d))

theorem size_redirect (k : ReferenceKind) (d : BitVec 32) (c : Code) :
    (c.redirect k d).size = c.size := by
  cases c <;> rfl

theorem displacement_redirect {k : ReferenceKind} {d : BitVec 32} {c : Code}
    (hsize : c.size = k.length) (hd : k.fits (d.signExtend 64)) :
    (c.redirect k d).displacement k = d := by
  cases k <;> cases c <;> simp only [size, ReferenceKind.length, Nat.reduceEqDiff] at hsize
  case branch.word w => exact Displacement.readBranch_writeAll w hd
  case jal.word w => exact Displacement.readJump_writeAll w hd
  case cBranch.half w => exact Displacement.readCompactBranch_writeAll w hd
  case cJump.half w => exact Displacement.readCompactJump_writeAll w hd

theorem redirect_redirect {k : ReferenceKind} {c : Code} (hsize : c.size = k.length)
    (d e : BitVec 32) : (c.redirect k d).redirect k e = c.redirect k e := by
  have hwrite : ∀ {n : Nat} (w : BitVec n), n = 8 * k.length → n ≤ 32 →
      writeAll (writeAll w (k.fields d)) (k.fields e) = writeAll w (k.fields e) := by
    intro n w hn hle
    apply writeAll_congr hle (hn ▸ k.fields_fit e)
    intro i hi hout
    exact getLsbD_writeAll_of_forall_outside hle (hn ▸ k.fields_fit d) hi
      (k.outside_fields_congr e d hout) w
  cases c with
  | half w => exact congrArg half (hwrite w (by rw [← hsize]; rfl) (by decide))
  | word w => exact congrArg word (hwrite w (by rw [← hsize]; rfl) (by decide))

end Code

end RiscvAssembler
