import Mathlib.Tactic
import RiscvAssembler.Immediate

/-!
# Immediate fields as ranges of integers

The tests on immediates say what they should: a signed field of `n` bits holds the integers from
`-2 ^ (n - 1)` up to `2 ^ (n - 1)`, an unsigned one those from zero up to `2 ^ n`, and the low
alignment bits are zero. A value that fits is the sign extension of the bits the field keeps.
-/

namespace RiscvAssembler.Immediate

/-- A signed number of `n` bits that is a multiple of `2 ^ a`. -/
def IsSigned (n a : Nat) (x : Int) : Prop :=
  -2 ^ (n - 1) ≤ x ∧ x < 2 ^ (n - 1) ∧ (2 ^ a : Int) ∣ x

/-- An unsigned number of `n` bits that is a multiple of `2 ^ a`. -/
def IsUnsigned (n a : Nat) (x : Nat) : Prop :=
  x < 2 ^ n ∧ 2 ^ a ∣ x

instance (n a : Nat) (x : Int) : Decidable (IsSigned n a x) :=
  inferInstanceAs (Decidable (_ ∧ _ ∧ _))

theorem IsSigned.mono {n m a b : Nat} {x : Int} (h : IsSigned n a x) (hn : n ≤ m) (ha : b ≤ a) :
    IsSigned m b x := by
  obtain ⟨hlow, hhigh, hdvd⟩ := h
  have hpow : (2 : Int) ^ (n - 1) ≤ 2 ^ (m - 1) := pow_le_pow_right₀ (by norm_num) (by omega)
  exact ⟨by omega, by omega, (pow_dvd_pow 2 ha).trans hdvd⟩

/-- An unsigned number of fewer than 32 bits is a signed number of one bit more. -/
theorem IsUnsigned.isSigned_toInt {n a : Nat} {x : BitVec 32} (h : IsUnsigned n a x.toNat)
    (hn : n < 32) : IsSigned (n + 1) a x.toInt := by
  obtain ⟨hlt, hdvd⟩ := h
  have hpow : 2 ^ n ≤ 2 ^ 31 := Nat.pow_le_pow_right (by decide) (by omega)
  have hpos : (0 : Int) ≤ 2 ^ n := by positivity
  have hnat : x.toInt = x.toNat := by
    rw [BitVec.toInt_eq_toNat_cond, if_pos (by omega)]
  rw [hnat, IsSigned, Nat.add_sub_cancel]
  exact ⟨by omega, by exact_mod_cast hlt, by exact_mod_cast hdvd⟩

theorem isAligned_iff (value : BitVec 64) {alignBits : Nat} (h : alignBits < 64) :
    isAligned value alignBits ↔ (2 ^ alignBits : Int) ∣ value.toInt := by
  have hpos : 0 < 2 ^ alignBits := Nat.two_pow_pos alignBits
  have hone : (1#64 <<< alignBits).toNat = 2 ^ alignBits := BitVec.toNat_twoPow_of_lt h
  have hmask : ((1#64 <<< alignBits) - 1#64).toNat = 2 ^ alignBits - 1 := by
    rw [BitVec.toNat_sub_of_le, hone]
    · rfl
    · rw [BitVec.le_def, hone]
      exact hpos
  have hmod : isAligned value alignBits ↔ value.toNat % 2 ^ alignBits = 0 := by
    rw [isAligned, beq_iff_eq, ← BitVec.toNat_inj, BitVec.toNat_and, hmask,
      Nat.and_two_pow_sub_one_eq_mod]
    rfl
  have hdvd : (2 ^ alignBits : Int) ∣ ((2 ^ 64 : Nat) : Int) := by
    exact_mod_cast pow_dvd_pow 2 h.le
  rw [hmod, BitVec.toInt_eq_toNat_cond, ← Nat.dvd_iff_mod_eq_zero]
  split
  · exact_mod_cast Iff.rfl
  · rw [dvd_sub_left hdvd]
    exact_mod_cast Iff.rfl

theorem fitsSigned_iff (value : BitVec 64) (bits : Nat) {alignBits : Nat} (h : alignBits < 64) :
    fitsSigned value bits alignBits ↔ IsSigned (bits + alignBits) alignBits value.toInt := by
  have hpos : (0 : Int) < 2 ^ (bits + alignBits - 1) := by positivity
  have hhigh : (value.sshiftRight (bits + alignBits - 1)).toInt =
      value.toInt / 2 ^ (bits + alignBits - 1) := by
    rw [BitVec.toInt_sshiftRight, Int.shiftRight_eq_div_pow]
    norm_cast
  have hzero : (0#64).toInt = 0 := rfl
  have hones : (BitVec.allOnes 64).toInt = -1 := rfl
  simp only [fitsSigned, Bool.and_eq_true, Bool.or_eq_true, beq_iff_eq, isAligned_iff value h,
    ← BitVec.toInt_inj, hhigh, hzero, hones, IsSigned, ← and_assoc]
  apply and_congr_left'
  rw [Int.ediv_eq_iff_of_pos hpos, Int.ediv_eq_iff_of_pos hpos]
  omega

theorem fitsUnsigned_iff (value : BitVec 64) (bits : Nat) {alignBits : Nat} (h : alignBits < 64) :
    fitsUnsigned value bits alignBits ↔
      0 ≤ value.toInt ∧ value.toInt < 2 ^ (bits + alignBits) ∧
        (2 ^ alignBits : Int) ∣ value.toInt := by
  have hsign : (!value.msb) = true ↔ 0 ≤ value.toInt := by
    rw [Bool.not_eq_true', BitVec.msb_eq_toInt, decide_eq_false_iff_not, Int.not_lt]
  simp only [fitsUnsigned, Bool.and_eq_true, hsign, beq_iff_eq, isAligned_iff value h, and_assoc]
  refine and_congr_right fun hnonneg => and_congr_left' ?_
  have hnat : value.toInt = value.toNat := by
    rw [BitVec.toInt_eq_toNat_of_msb]
    rwa [← Bool.not_eq_true', hsign]
  rw [← BitVec.toNat_inj, BitVec.toNat_ushiftRight, Nat.shiftRight_eq_div_pow, hnat,
    BitVec.toNat_ofNat, Nat.zero_mod, Nat.div_eq_zero_iff_lt (Nat.two_pow_pos _)]
  exact_mod_cast Iff.rfl

/-! ## Operands -/

theorem fitsSigned_signExtend_iff (d : BitVec 32) (bits : Nat) {alignBits : Nat}
    (h : alignBits < 64) :
    fitsSigned (d.signExtend 64) bits alignBits ↔
      IsSigned (bits + alignBits) alignBits d.toInt := by
  rw [fitsSigned_iff _ bits h, BitVec.toInt_signExtend_of_le (by decide)]

theorem fitsUnsigned_setWidth_iff (u : BitVec 32) (bits : Nat) {alignBits : Nat}
    (h : alignBits < 64) :
    fitsUnsigned (u.setWidth 64) bits alignBits ↔
      IsUnsigned (bits + alignBits) alignBits u.toNat := by
  have hnat : (u.setWidth 64).toInt = u.toNat := by
    have hlt := u.isLt
    rw [BitVec.toInt_setWidth, Int.bmod_eq_of_le_mul_two] <;> omega
  rw [fitsUnsigned_iff _ bits h, hnat, IsUnsigned]
  constructor
  · rintro ⟨-, hlt, hdvd⟩
    exact ⟨by exact_mod_cast hlt, by exact_mod_cast hdvd⟩
  · rintro ⟨hlt, hdvd⟩
    exact ⟨by omega, by exact_mod_cast hlt, by exact_mod_cast hdvd⟩

/-- A signed operand fits an unsigned field when it is not negative and fits as it stands. -/
theorem fitsUnsigned_signExtend_iff (d : BitVec 32) (bits : Nat) {alignBits : Nat}
    (h : bits + alignBits < 32) :
    fitsUnsigned (d.signExtend 64) bits alignBits ↔
      IsUnsigned (bits + alignBits) alignBits d.toNat := by
  have hpow : (2 : Int) ^ (bits + alignBits) ≤ 2 ^ 31 :=
    pow_le_pow_right₀ (by norm_num) (by omega)
  have hpow' : 2 ^ (bits + alignBits) ≤ 2 ^ 31 := Nat.pow_le_pow_right (by decide) (by omega)
  rw [fitsUnsigned_iff _ bits (by omega), BitVec.toInt_signExtend_of_le (by decide), IsUnsigned]
  constructor
  · rintro ⟨hnonneg, hlt, hdvd⟩
    have hnat : d.toInt = d.toNat := by
      rw [BitVec.toInt_eq_toNat_cond] at hnonneg ⊢
      split at hnonneg <;> omega
    rw [hnat] at hlt hdvd
    exact ⟨by exact_mod_cast hlt, by exact_mod_cast hdvd⟩
  · rintro ⟨hlt, hdvd⟩
    have hnat : d.toInt = d.toNat := by
      rw [BitVec.toInt_eq_toNat_cond, if_pos (by omega)]
    rw [hnat]
    exact ⟨by omega, by exact_mod_cast hlt, by exact_mod_cast hdvd⟩

theorem dvd_toInt_iff (d : BitVec 32) {a : Nat} (ha : a ≤ 32) :
    (2 ^ a : Int) ∣ d.toInt ↔ 2 ^ a ∣ d.toNat := by
  have hdvd : (2 ^ a : Int) ∣ ((2 ^ 32 : Nat) : Int) := by
    exact_mod_cast pow_dvd_pow 2 ha
  rw [BitVec.toInt_eq_toNat_cond]
  split
  · exact_mod_cast Iff.rfl
  · rw [dvd_sub_left hdvd]
    exact_mod_cast Iff.rfl

/-! ## Operands from their bits -/

/-- The low bits of a multiple of `2 ^ a` are zero. -/
theorem extractLsb'_append_zero (d : BitVec 32) {a : Nat} (n : Nat) (h : 2 ^ a ∣ d.toNat) :
    d.extractLsb' a n ++ 0#a = d.extractLsb' 0 (n + a) := by
  have hzero : 0#a = d.extractLsb' 0 a := by
    apply BitVec.eq_of_toNat_eq
    rw [BitVec.extractLsb'_toNat, Nat.shiftRight_zero, Nat.dvd_iff_mod_eq_zero.1 h,
      BitVec.toNat_ofNat, Nat.zero_mod]
  rw [hzero, BitVec.extractLsb'_append_extractLsb'_eq_extractLsb' (Nat.zero_add a).symm]

/-- A signed number of `n` bits is the sign extension of its low `n` bits. -/
theorem signExtend_extractLsb'_of_isSigned {d : BitVec 32} {n a : Nat} (hn : n ≤ 32) (hpos : 0 < n)
    (h : IsSigned n a d.toInt) : (d.extractLsb' 0 n).signExtend 32 = d := by
  obtain ⟨hlow, hhigh, -⟩ := h
  have hpow : ((2 ^ n : Nat) : Int) = 2 ^ (n - 1) * 2 := by
    rw [← Nat.sub_add_cancel hpos, pow_succ]
    push_cast
    rfl
  apply BitVec.eq_of_toInt_eq
  rw [BitVec.toInt_signExtend_of_le hn, ← BitVec.setWidth_eq_extractLsb' hn,
    ← BitVec.signExtend_eq_setWidth_of_le d hn, BitVec.toInt_signExtend_eq_toInt_bmod_of_le d hn]
  apply Int.bmod_eq_of_le_mul_two <;> rw [hpow] <;> omega

/-- An unsigned number of `n` bits is the zero extension of its low `n` bits. -/
theorem setWidth_extractLsb'_of_isUnsigned {u : BitVec 32} {n a : Nat}
    (h : IsUnsigned n a u.toNat) : (u.extractLsb' 0 n).setWidth 32 = u := by
  apply BitVec.eq_of_toNat_eq
  rw [BitVec.toNat_setWidth, BitVec.extractLsb'_toNat, Nat.shiftRight_zero, Nat.mod_eq_of_lt h.1,
    Nat.mod_eq_of_lt u.isLt]

theorem signExtend_append_zero_of_isSigned {d : BitVec 32} {n a : Nat} (hn : n + a ≤ 32)
    (hpos : 0 < n) (h : IsSigned (n + a) a d.toInt) :
    (d.extractLsb' a n ++ 0#a).signExtend 32 = d := by
  have hdvd := (dvd_toInt_iff d (by omega)).1 h.2.2
  rw [extractLsb'_append_zero d n hdvd]
  exact signExtend_extractLsb'_of_isSigned hn (by omega) h

theorem setWidth_append_zero_of_isUnsigned {u : BitVec 32} {n a : Nat}
    (h : IsUnsigned (n + a) a u.toNat) : (u.extractLsb' a n ++ 0#a).setWidth 32 = u := by
  rw [extractLsb'_append_zero u n h.2]
  exact setWidth_extractLsb'_of_isUnsigned h

end RiscvAssembler.Immediate
