import RiscvAssembler.Proofs.Field
import RiscvAssembler.Proofs.Immediate

/-!
# What the tests on immediates answer

The tests take fields of any width and alignment. They refuse a field whose width is no 32-bit
number or whose alignment mask is no signed 64-bit number, and the signed one refuses a field
without bits. About every other field they answer exactly whether the value is a multiple of the
alignment and lies in the range of the field. `Immediate.fits` meets no such field, since a 32-bit
alignment has at most 31 bits, and refuses only an alignment that is no power of two; an immediate
fits exactly when the bits of its field spell its value.
-/

namespace RiscvAssembler.Immediate

/-! ## Alignments -/

/-- Of the masks that a word holds, only the longest leaves the range of the signed numbers. -/
theorem ssubOverflow_mask_iff {alignBits : Nat} (h : alignBits < 64) :
    (1#64 <<< alignBits).ssubOverflow 1#64 ↔ alignBits = 63 := by
  have hpow : (1#64 <<< alignBits).toInt =
      if alignBits + 1 = 64 then -((2 ^ alignBits : Nat) : Int) else 2 ^ alignBits := by
    rw [← BitVec.twoPow, BitVec.toInt_twoPow, if_neg (by omega)]
  have hone : (1#64).toInt = 1 := rfl
  rw [BitVec.ssubOverflow, hpow, hone, Bool.or_eq_true, decide_eq_true_eq, decide_eq_true_eq]
  split_ifs with hlast
  · obtain rfl : alignBits = 63 := by omega
    decide
  · have hpos : (0 : Int) < 2 ^ alignBits := by positivity
    have hle : (2 : Int) ^ alignBits ≤ 2 ^ 62 := pow_le_pow_right₀ (by norm_num) (by omega)
    omega

/-- The fault of an alignment whose mask is no signed 64-bit number. -/
def AlignmentFault (alignBits : Nat) (f : Fault) : Prop :=
  (alignBits = 63 ∧ f = .overflow .subtract) ∨ (63 < alignBits ∧ f = .overflow .shiftLeft)

theorem checkAlignment_eq_ok_iff {alignBits : Nat} {u : Unit} :
    checkAlignment alignBits = .ok u ↔ alignBits ≤ 62 := by
  simp only [checkAlignment, bind_eq_ok_iff, Checked.shiftLeft_eq_ok_iff,
    Checked.subSigned_eq_ok_iff, pure, Except.pure]
  constructor
  · rintro ⟨_, ⟨hlt, rfl⟩, _, ⟨hmask, -⟩, -⟩
    have hne := mt (ssubOverflow_mask_iff hlt).2 hmask
    omega
  · intro h
    refine ⟨_, ⟨by omega, rfl⟩, _, ⟨fun hmask => ?_, rfl⟩, trivial⟩
    have hlast := (ssubOverflow_mask_iff (by omega)).1 hmask
    omega

theorem checkAlignment_eq_error_iff {alignBits : Nat} {f : Fault} :
    checkAlignment alignBits = .error f ↔ AlignmentFault alignBits f := by
  simp only [checkAlignment, bind_eq_error_iff, Checked.shiftLeft_eq_error_iff,
    Checked.shiftLeft_eq_ok_iff, Checked.subSigned_eq_error_iff, pure, Except.pure, reduceCtorEq,
    and_false, exists_false, or_false]
  constructor
  · rintro (⟨hle, rfl⟩ | ⟨_, ⟨hlt, rfl⟩, hmask, rfl⟩)
    · exact .inr ⟨hle, rfl⟩
    · exact .inl ⟨(ssubOverflow_mask_iff hlt).1 hmask, rfl⟩
  · rintro (⟨rfl, rfl⟩ | ⟨hlt, rfl⟩)
    · exact .inr ⟨_, ⟨by omega, rfl⟩, (ssubOverflow_mask_iff (by omega)).2 rfl, rfl⟩
    · exact .inl ⟨hlt, rfl⟩

/-- Behind the check of the alignment nothing is refused. -/
theorem checkAlignment_bind_eq_ok_iff {alignBits : Nat} {b answer : Bool} :
    (checkAlignment alignBits >>= fun _ => pure b) = .ok answer ↔ alignBits ≤ 62 ∧ b = answer := by
  simp only [bind_eq_ok_iff, checkAlignment_eq_ok_iff, exists_const, pure, Except.pure,
    Except.ok.injEq]

theorem checkAlignment_bind_eq_error_iff {alignBits : Nat} {b : Bool} {f : Fault} :
    (checkAlignment alignBits >>= fun _ => pure b) = .error f ↔ AlignmentFault alignBits f := by
  simp only [bind_eq_error_iff, checkAlignment_eq_error_iff, pure, Except.pure, reduceCtorEq,
    and_false, exists_false, or_false]

/-! ## The signed and the unsigned test -/

/-- The fault of a field whose width is no 32-bit number or whose alignment has no mask. -/
def FieldFault (bits alignBits : Nat) (f : Fault) : Prop :=
  (2 ^ 32 ≤ bits + alignBits ∧ f = .overflow .add) ∨
    (bits + alignBits < 2 ^ 32 ∧ AlignmentFault alignBits f)

theorem eq_iff_of_iff {b answer : Bool} {p : Prop} (h : b ↔ p) :
    b = answer ↔ (answer = true ↔ p) := by
  rw [← h, eq_comm, Bool.eq_iff_iff]

section Tests

variable {value : BitVec 64} {bits alignBits : Nat} {answer : Bool} {f : Fault}

/-- The checks decide whether there is an answer and do not change it. -/
theorem fitsSigned?_eq_ok_iff_fitsSigned :
    fitsSigned? value bits alignBits = .ok answer ↔
      (alignBits ≤ 62 ∧ 0 < bits + alignBits ∧ bits + alignBits < 2 ^ 32) ∧
        fitsSigned value bits alignBits = answer := by
  rw [fitsSigned?, Checked.add_bind_eq_ok_iff, require_bind_eq_ok_iff,
    checkAlignment_bind_eq_ok_iff]
  tauto

theorem fitsSigned?_eq_ok_iff :
    fitsSigned? value bits alignBits = .ok answer ↔
      (alignBits ≤ 62 ∧ 0 < bits + alignBits ∧ bits + alignBits < 2 ^ 32) ∧
        (answer = true ↔ IsSigned (bits + alignBits) alignBits value.toInt) := by
  rw [fitsSigned?_eq_ok_iff_fitsSigned]
  exact and_congr_right fun h => eq_iff_of_iff (fitsSigned_iff value bits (by omega))

theorem fitsSigned?_eq_error_iff :
    fitsSigned? value bits alignBits = .error f ↔
      (bits + alignBits = 0 ∧ f = .overflow .subtract) ∨ FieldFault bits alignBits f := by
  rw [fitsSigned?, Checked.add_bind_eq_error_iff, require_bind_eq_error_iff,
    checkAlignment_bind_eq_error_iff]
  grind [FieldFault, AlignmentFault]

theorem msb_iff : value.msb ↔ value.toInt < 0 := by
  rw [BitVec.msb_eq_toInt, decide_eq_true_eq]

/-- A negative value is answered before anything is computed. -/
theorem fitsUnsigned?_eq_ok_iff_fitsUnsigned :
    fitsUnsigned? value bits alignBits = .ok answer ↔
      (value.toInt < 0 ∨ alignBits ≤ 62 ∧ bits + alignBits < 2 ^ 32) ∧
        fitsUnsigned value bits alignBits = answer := by
  rw [fitsUnsigned?]
  split_ifs with hsign
  · simp [fitsUnsigned, hsign, msb_iff.1 hsign, pure, Except.pure]
  · rw [Checked.add_bind_eq_ok_iff, checkAlignment_bind_eq_ok_iff,
      or_iff_right (mt msb_iff.2 hsign)]
    tauto

theorem fitsUnsigned?_eq_ok_iff :
    fitsUnsigned? value bits alignBits = .ok answer ↔
      (value.toInt < 0 ∨ alignBits ≤ 62 ∧ bits + alignBits < 2 ^ 32) ∧
        (answer = true ↔ 0 ≤ value.toInt ∧ value.toInt < 2 ^ (bits + alignBits) ∧
          (2 ^ alignBits : Int) ∣ value.toInt) := by
  rw [fitsUnsigned?_eq_ok_iff_fitsUnsigned]
  refine and_congr_right fun h => eq_iff_of_iff ?_
  obtain hneg | ⟨halign, -⟩ := h
  · exact iff_of_false (by simp [fitsUnsigned, msb_iff.2 hneg]) fun h => by omega
  · exact fitsUnsigned_iff value bits (by omega)

theorem fitsUnsigned?_eq_error_iff :
    fitsUnsigned? value bits alignBits = .error f ↔
      0 ≤ value.toInt ∧ FieldFault bits alignBits f := by
  rw [fitsUnsigned?]
  split_ifs with hsign
  · simp [msb_iff.1 hsign, pure, Except.pure]
  · rw [Checked.add_bind_eq_error_iff, checkAlignment_bind_eq_error_iff,
      and_iff_right (Int.not_lt.1 (mt msb_iff.2 hsign)), FieldFault]

end Tests

/-! ## Values that a field spells -/

/-- The integers that `n` bits spell, in two's complement when `signed`. -/
def Representable : (signed : Bool) → (n : Nat) → Int → Prop
  | true, n, x => ∃ bits : BitVec n, bits.toInt = x
  | false, n, x => ∃ bits : BitVec n, (bits.toNat : Int) = x

theorem representable_true_iff {n : Nat} (hn : 0 < n) {x : Int} :
    Representable true n x ↔ -2 ^ (n - 1) ≤ x ∧ x < 2 ^ (n - 1) := by
  constructor
  · rintro ⟨bits, rfl⟩
    exact ⟨bits.le_toInt, bits.toInt_lt⟩
  · rintro ⟨hlow, hhigh⟩
    exact ⟨BitVec.ofInt n x, BitVec.toInt_ofInt_eq_self hn hlow hhigh⟩

theorem representable_false_iff {n : Nat} {x : Int} :
    Representable false n x ↔ 0 ≤ x ∧ x < 2 ^ n := by
  constructor
  · rintro ⟨bits, rfl⟩
    exact ⟨Int.natCast_nonneg _, by exact_mod_cast bits.isLt⟩
  · rintro ⟨hnonneg, hlt⟩
    obtain ⟨m, rfl⟩ := Int.eq_ofNat_of_zero_le hnonneg
    have hm : m < 2 ^ n := by exact_mod_cast hlt
    exact ⟨BitVec.ofNat n m, by rw [BitVec.toNat_ofNat, Nat.mod_eq_of_lt hm]⟩

/-- The field is not narrower than its alignment, the value is aligned, and the bits of the field
spell it. -/
@[mk_iff]
structure IsEncodable (i : Immediate) : Prop where
  width_pos : 0 < i.width
  log2_align_le : i.align.log2 ≤ i.width
  align_dvd : (i.align : Int) ∣ i.value.toInt
  representable : Representable i.signed i.width i.value.toInt

section Fits

variable {i : Immediate} {answer : Bool} {f : Fault}

theorem isEncodable_iff_of_signed (hsigned : i.signed = true) (hpos : 0 < i.width)
    (hle : i.align.log2 ≤ i.width) (hpow : (i.align : Int) = 2 ^ i.align.log2) :
    i.IsEncodable ↔ IsSigned i.width i.align.log2 i.value.toInt := by
  rw [isEncodable_iff, and_iff_right hpos, and_iff_right hle, hsigned, representable_true_iff hpos,
    hpow, IsSigned, and_comm, and_assoc]

theorem isEncodable_iff_of_unsigned (hsigned : i.signed = false) (hpos : 0 < i.width)
    (hle : i.align.log2 ≤ i.width) (hpow : (i.align : Int) = 2 ^ i.align.log2) :
    i.IsEncodable ↔ 0 ≤ i.value.toInt ∧ i.value.toInt < 2 ^ i.width ∧
      (2 ^ i.align.log2 : Int) ∣ i.value.toInt := by
  rw [isEncodable_iff, and_iff_right hpos, and_iff_right hle, hsigned, representable_false_iff,
    hpow, and_comm, and_assoc]

theorem fits_eq_ok_iff (hwidth : i.width < 2 ^ 32) (halign : i.align < 2 ^ 32) :
    i.fits = .ok answer ↔ i.align.isPowerOfTwo ∧ (answer = true ↔ i.IsEncodable) := by
  rw [fits, require_bind_eq_ok_iff, one_shiftLeft_log2_eq_iff]
  refine and_congr_right fun hpow => ?_
  have hlog : 2 ^ i.align.log2 = i.align := by
    rwa [← Nat.one_shiftLeft, one_shiftLeft_log2_eq_iff]
  have hcast : (i.align : Int) = 2 ^ i.align.log2 := by exact_mod_cast hlog.symm
  have hshort : i.align.log2 < 32 := by
    rwa [← hlog, Nat.pow_lt_pow_iff_right (by decide)] at halign
  split_ifs with hnarrow hsigned
  · -- The alignment alone is wider than the field, or there is no field.
    have hnot : ¬ i.IsEncodable := by
      intro h
      have hpos := h.width_pos
      have hle := h.log2_align_le
      omega
    change Except.ok false = Except.ok answer ↔ _
    rw [Except.ok.injEq]
    exact eq_iff_of_iff (iff_of_false nofun hnot)
  · rw [fitsSigned?_eq_ok_iff, Nat.sub_add_cancel (by omega),
      isEncodable_iff_of_signed hsigned (by omega) (by omega) hcast]
    exact and_iff_right ⟨by omega, by omega, hwidth⟩
  · rw [fitsUnsigned?_eq_ok_iff, Nat.sub_add_cancel (by omega),
      isEncodable_iff_of_unsigned (Bool.eq_false_iff.2 hsigned) (by omega) (by omega) hcast]
    exact and_iff_right (.inr ⟨by omega, hwidth⟩)

theorem fits_eq_error_iff (hwidth : i.width < 2 ^ 32) (halign : i.align < 2 ^ 32) :
    i.fits = .error f ↔ ¬ i.align.isPowerOfTwo ∧ f = .alignmentNotPowerOfTwo := by
  by_cases hpow : i.align.isPowerOfTwo
  · obtain ⟨answer, hanswer⟩ : ∃ answer, answer = true ↔ i.IsEncodable := by
      classical exact ⟨decide i.IsEncodable, decide_eq_true_iff⟩
    simp [(fits_eq_ok_iff hwidth halign).2 ⟨hpow, hanswer⟩, hpow]
  · have herror : i.fits = .error .alignmentNotPowerOfTwo := by
      rw [fits, require, if_neg (mt (one_shiftLeft_log2_eq_iff _).1 hpow)]
      rfl
    simp [herror, hpow, eq_comm]

end Fits

/-! ## The tests -/

/-- What the tests answer about a value, whatever the field, and when they refuse to. -/
structure TestedExactly (value : BitVec 64) : Prop where
  signed_ok_iff : ∀ (bits alignBits : Nat) (answer : Bool),
    fitsSigned? value bits alignBits = .ok answer ↔
      (alignBits ≤ 62 ∧ 0 < bits + alignBits ∧ bits + alignBits < 2 ^ 32) ∧
        (answer = true ↔ IsSigned (bits + alignBits) alignBits value.toInt)
  signed_error_iff : ∀ (bits alignBits : Nat) (f : Fault),
    fitsSigned? value bits alignBits = .error f ↔
      (bits + alignBits = 0 ∧ f = .overflow .subtract) ∨ FieldFault bits alignBits f
  unsigned_ok_iff : ∀ (bits alignBits : Nat) (answer : Bool),
    fitsUnsigned? value bits alignBits = .ok answer ↔
      (value.toInt < 0 ∨ alignBits ≤ 62 ∧ bits + alignBits < 2 ^ 32) ∧
        (answer = true ↔ 0 ≤ value.toInt ∧ value.toInt < 2 ^ (bits + alignBits) ∧
          (2 ^ alignBits : Int) ∣ value.toInt)
  unsigned_error_iff : ∀ (bits alignBits : Nat) (f : Fault),
    fitsUnsigned? value bits alignBits = .error f ↔
      0 ≤ value.toInt ∧ FieldFault bits alignBits f
  /-- The encoders leave out the checks, their fields being fixed. They get the same answers. -/
  unchecked : ∀ (bits alignBits : Nat) (answer : Bool),
    (fitsSigned? value bits alignBits = .ok answer →
      fitsSigned value bits alignBits = answer) ∧
    (fitsUnsigned? value bits alignBits = .ok answer →
      fitsUnsigned value bits alignBits = answer)
  fits_ok_iff : ∀ (width align : BitVec 32) (signed answer : Bool),
    fits ⟨value, width.toNat, signed, align.toNat⟩ = .ok answer ↔
      align.toNat.isPowerOfTwo ∧
        (answer = true ↔ IsEncodable ⟨value, width.toNat, signed, align.toNat⟩)
  fits_error_iff : ∀ (width align : BitVec 32) (signed : Bool) (f : Fault),
    fits ⟨value, width.toNat, signed, align.toNat⟩ = .error f ↔
      ¬ align.toNat.isPowerOfTwo ∧ f = .alignmentNotPowerOfTwo

theorem testedExactly (value : BitVec 64) : TestedExactly value where
  signed_ok_iff _ _ _ := fitsSigned?_eq_ok_iff
  signed_error_iff _ _ _ := fitsSigned?_eq_error_iff
  unsigned_ok_iff _ _ _ := fitsUnsigned?_eq_ok_iff
  unsigned_error_iff _ _ _ := fitsUnsigned?_eq_error_iff
  unchecked _ _ _ := ⟨fun h => (fitsSigned?_eq_ok_iff_fitsSigned.1 h).2,
    fun h => (fitsUnsigned?_eq_ok_iff_fitsUnsigned.1 h).2⟩
  fits_ok_iff width align _ _ := fits_eq_ok_iff width.isLt align.isLt
  fits_error_iff width align _ _ := fits_eq_error_iff width.isLt align.isLt

end RiscvAssembler.Immediate
