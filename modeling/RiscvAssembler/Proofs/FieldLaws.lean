import RiscvAssembler.Proofs.Displacement

/-!
# Laws of bit fields

The bits from `msb` down to `lsb` of a word are a lens. A range that is no field of the word is
refused, a write also for a value that is too big, and nothing on the way overflows. What was
written is read back, the bits outside stay as they were, the next write takes the place of the one
before, and writes to ranges without a common bit commute. The signed value of a field is the two's
complement reading of its bits.
-/

namespace RiscvAssembler.Word

variable {n : Nat} {w w' : BitVec n} {msb lsb : Nat} {v : BitVec 32} {f : Fault}

/-! ## Refusals -/

/-- The fault of a range that is no field of an `n`-bit word. -/
def RangeFault (n msb lsb : Nat) (f : Fault) : Prop :=
  (msb < lsb ∧ f = .invertedRange msb lsb) ∨ (lsb ≤ msb ∧ n ≤ msb ∧ f = .bitOutsideWord msb n)

/-- Behind the check of the range, only what comes next can be refused. -/
theorem checkRange_bind_eq_error_iff {α : Type} {rest : Unit → Except Fault α} :
    checkRange n msb lsb >>= rest = .error f ↔
      RangeFault n msb lsb f ∨ (lsb ≤ msb ∧ msb < n) ∧ rest () = .error f := by
  rw [checkRange, bind_assoc, require_bind_eq_error_iff, require_bind_eq_error_iff, RangeFault,
    Nat.not_le, Nat.not_lt]
  tauto

/-- What succeeds on every field of the word is refused for its range alone. -/
theorem checkRange_bind_eq_error_iff_of_ok {α : Type} {rest : Unit → Except Fault α} {x : α}
    (hok : lsb ≤ msb → msb < n → checkRange n msb lsb >>= rest = .ok x) :
    checkRange n msb lsb >>= rest = .error f ↔ RangeFault n msb lsb f := by
  rw [checkRange_bind_eq_error_iff, or_iff_left]
  rintro ⟨⟨hlsb, hmsb⟩, hrest⟩
  have hx := hok hlsb hmsb
  rw [checkRange_eq_ok hlsb hmsb] at hx
  cases hx.symm.trans hrest

theorem patch_eq_error_iff (hn : n ≤ 32) :
    patch w msb lsb v = .error f ↔ RangeFault n msb lsb f ∨
      (lsb ≤ msb ∧ msb < n) ∧ 2 ^ (msb - lsb + 1) ≤ v.toNat ∧ f = .fieldTooBig v msb lsb := by
  rw [patch, checkRange_bind_eq_error_iff]
  refine or_congr_right (and_congr_right fun hrange => ?_)
  obtain ⟨hlsb, hmsb⟩ := hrange
  have hlen : msb - lsb + 1 ≤ 32 := by omega
  have hshift : ∀ x : BitVec 32, Checked.shiftLeft x lsb = .ok (x <<< lsb) :=
    fun x => if_pos (by omega)
  rw [fieldMask_eq_ok hlsb (by omega)]
  by_cases hv : v ≤ rightBits (msb - lsb + 1)
  · have hlt := (le_rightBits_iff hlen).1 hv
    simp [bind, Except.bind, require, hv, hshift, pure, Except.pure, Nat.not_le.2 hlt]
  · have hle := Nat.not_lt.1 (mt (le_rightBits_iff hlen).2 hv)
    simp [bind, Except.bind, require, hv, hle, eq_comm]

theorem extract_eq_error_iff (hn : n ≤ 32) :
    extract w msb lsb = .error f ↔ RangeFault n msb lsb f :=
  checkRange_bind_eq_error_iff_of_ok (extract_eq_ok hn w)

theorem extract_eq_ok_iff (hn : n ≤ 32) :
    extract w msb lsb = .ok v ↔ (lsb ≤ msb ∧ msb < n) ∧ v = slice w msb lsb := by
  constructor
  · intro h
    have hrange : lsb ≤ msb ∧ msb < n := by
      rw [extract, bind_eq_ok_iff] at h
      obtain ⟨_, hcheck, -⟩ := h
      rwa [checkRange, require_bind_eq_ok_iff, require_eq_ok_iff] at hcheck
    rw [extract_eq_ok hn w hrange.1 hrange.2] at h
    exact ⟨hrange, (Except.ok.inj h).symm⟩
  · rintro ⟨⟨hlsb, hmsb⟩, rfl⟩
    exact extract_eq_ok hn w hlsb hmsb

/-! ## Signed values -/

theorem sextract_eq_ok (hn : n ≤ 32) (w : BitVec n) (hlsb : lsb ≤ msb) (hmsb : msb < n) :
    sextract w msb lsb = .ok ((w.extractLsb' lsb (msb - lsb + 1)).signExtend 32) := by
  have hunused : Checked.sub 31 msb = .ok (31 - msb) := Checked.sub_eq_ok_iff.2 ⟨by omega, rfl⟩
  have htop : Checked.shiftLeft (w.setWidth 32) (31 - msb) = .ok (w.setWidth 32 <<< (31 - msb)) :=
    if_pos (by omega)
  have hamount : Checked.add 32 (31 - msb) lsb = .ok (31 - msb + lsb) :=
    Checked.add_eq_ok_iff.2 ⟨by rw [Nat.shiftLeft_eq]; omega, rfl⟩
  have hdown : ∀ x : BitVec 32, Checked.signedShiftRight x (31 - msb + lsb) =
      .ok (x.sshiftRight (31 - msb + lsb)) := fun x => if_pos (by omega)
  rw [sextract, checkRange_eq_ok hlsb hmsb, hunused]
  simp only [bind, Except.bind, htop, hamount, hdown]
  refine congrArg Except.ok (BitVec.eq_of_getLsbD_eq fun i hi => ?_)
  simp only [BitVec.getLsbD_sshiftRight, BitVec.getLsbD_signExtend, BitVec.msb_eq_getLsbD_last,
    BitVec.getLsbD_shiftLeft, BitVec.getLsbD_setWidth, BitVec.getLsbD_extractLsb']
  by_cases hin : i < msb - lsb + 1
  · have hshifted : 31 - msb + lsb + i < 32 := by omega
    rw [if_pos hshifted, if_pos hin, show 31 - msb + lsb + i - (31 - msb) = lsb + i by omega]
    simp [hi, hin, hshifted, show ¬ 32 ≤ i by omega, show lsb + i < 32 by omega,
      show ¬ 31 - msb + lsb + i < 31 - msb by omega]
  · -- Above the field its top bit is repeated, which the shift to the left moved to bit 31.
    rw [if_neg (show ¬ 31 - msb + lsb + i < 32 by omega), if_neg hin]
    simp [hi, show ¬ 32 ≤ i by omega, show ¬ 31 < 31 - msb by omega,
      show 31 - (31 - msb) = msb by omega, show msb < 32 by omega,
      show lsb + (msb - lsb) = msb by omega]

theorem sextract_eq_error_iff (hn : n ≤ 32) :
    sextract w msb lsb = .error f ↔ RangeFault n msb lsb f :=
  checkRange_bind_eq_error_iff_of_ok (sextract_eq_ok hn w)

theorem setWidth_slice (w : BitVec n) (hmsb : msb < 32) :
    (slice w msb lsb).setWidth (msb - lsb + 1) = w.extractLsb' lsb (msb - lsb + 1) := by
  rw [slice, BitVec.setWidth_setWidth_of_le _ (by omega), BitVec.setWidth_eq]

/-! ## Writing -/

theorem write_slice (hn : n ≤ 32) (w : BitVec n) (hlsb : lsb ≤ msb) (hmsb : msb < n) :
    write w msb lsb (slice w msb lsb) = w := by
  apply BitVec.eq_of_getLsbD_eq
  intro i hi
  rw [getLsbD_write hn w (fits_slice w ⟨hlsb, hmsb, rfl⟩) hi]
  split
  next hin =>
    rw [slice, BitVec.getLsbD_setWidth, BitVec.getLsbD_extractLsb',
      show lsb + (i - lsb) = i by omega, decide_eq_true (show i - lsb < 32 by omega),
      decide_eq_true (show i - lsb < msb - lsb + 1 by omega), Bool.true_and, Bool.true_and]
  next hout => rfl

theorem extract_write (hn : n ≤ 32) (w : BitVec n) (h : Fits n msb lsb v) :
    extract (write w msb lsb v) msb lsb = .ok v := by
  have hfits : ∀ f ∈ [Field.mk msb lsb v], f.Fits n := List.forall_mem_singleton.2 h
  exact extract_writeAll hn hfits (List.pairwise_singleton _ _) (List.mem_singleton_self _) w

theorem getLsbD_write_of_outside (hn : n ≤ 32) (w : BitVec n) (h : Fits n msb lsb v) {i : Nat}
    (hout : i < lsb ∨ msb < i) : (write w msb lsb v).getLsbD i = w.getLsbD i := by
  by_cases hi : i < n
  · rw [getLsbD_write hn w h hi, if_neg (by omega)]
  · rw [BitVec.getLsbD_of_ge _ _ (Nat.not_lt.1 hi), BitVec.getLsbD_of_ge _ _ (Nat.not_lt.1 hi)]

theorem write_write (hn : n ≤ 32) (w : BitVec n) {u : BitVec 32} (hv : Fits n msb lsb v)
    (hu : Fits n msb lsb u) : write (write w msb lsb v) msb lsb u = write w msb lsb u := by
  apply BitVec.eq_of_getLsbD_eq
  intro i hi
  rw [getLsbD_write hn _ hu hi, getLsbD_write hn w hu hi]
  split
  next hin => rfl
  next hout => rw [getLsbD_write hn w hv hi, if_neg hout]

/-- A write that is refused is refused whatever the word holds. -/
theorem patch_write (hn : n ≤ 32) (w : BitVec n) (hv : Fits n msb lsb v) (u : BitVec 32) :
    patch (write w msb lsb v) msb lsb u = patch w msb lsb u := by
  cases h : patch w msb lsb u with
  | ok w' =>
    obtain ⟨hu, rfl⟩ := (patch_eq_ok_iff hn).1 h
    exact (patch_eq_ok_iff hn).2 ⟨hu, (write_write hn w hv hu).symm⟩
  | error f => exact (patch_eq_error_iff hn).2 ((patch_eq_error_iff hn).1 h)

theorem write_comm (hn : n ≤ 32) (w : BitVec n) {msb' lsb' : Nat} {u : BitVec 32}
    (hv : Fits n msb lsb v) (hu : Fits n msb' lsb' u) (hapart : msb < lsb' ∨ msb' < lsb) :
    write (write w msb lsb v) msb' lsb' u = write (write w msb' lsb' u) msb lsb v := by
  have hfits : ∀ f ∈ [Field.mk msb lsb v, Field.mk msb' lsb' u], f.Fits n :=
    forall_fits_cons.2 ⟨hv, List.forall_mem_singleton.2 hu⟩
  exact writeAll_perm hn (.swap _ _ []) hfits (List.pairwise_pair.2 hapart) w

/-! ## The laws -/

/-- The fields of `n`-bit words are lenses over the values that fit. -/
structure FieldLaws (n : Nat) : Prop where
  patch_refused : ∀ (w : BitVec n) (msb lsb : Nat) (v : BitVec 32) (f : Fault),
    patch w msb lsb v = .error f ↔ RangeFault n msb lsb f ∨
      (lsb ≤ msb ∧ msb < n) ∧ 2 ^ (msb - lsb + 1) ≤ v.toNat ∧ f = .fieldTooBig v msb lsb
  extract_refused : ∀ (w : BitVec n) (msb lsb : Nat) (f : Fault),
    extract w msb lsb = .error f ↔ RangeFault n msb lsb f
  sextract_refused : ∀ (w : BitVec n) (msb lsb : Nat) (f : Fault),
    sextract w msb lsb = .error f ↔ RangeFault n msb lsb f
  no_overflow : ∀ (w : BitVec n) (msb lsb : Nat) (v : BitVec 32) (op : Arithmetic),
    patch w msb lsb v ≠ .error (.overflow op) ∧ extract w msb lsb ≠ .error (.overflow op) ∧
      sextract w msb lsb ≠ .error (.overflow op)
  /-- The mask does not wrap around either, also when it covers the whole word. -/
  mask : ∀ msb lsb : Nat, lsb ≤ msb → msb < n →
    ∃ m, fieldMask msb lsb = .ok m ∧ m.toNat + 1 = 2 ^ (msb - lsb + 1)
  extract_patch : ∀ (w w' : BitVec n) (msb lsb : Nat) (v : BitVec 32),
    patch w msb lsb v = .ok w' → extract w' msb lsb = .ok v
  outside : ∀ (w w' : BitVec n) (msb lsb : Nat) (v : BitVec 32), patch w msb lsb v = .ok w' →
    ∀ i, i < lsb ∨ msb < i → w'.getLsbD i = w.getLsbD i
  patch_extract : ∀ (w : BitVec n) (msb lsb : Nat) (v : BitVec 32),
    extract w msb lsb = .ok v → patch w msb lsb v = .ok w
  patch_patch : ∀ (w w' : BitVec n) (msb lsb : Nat) (v : BitVec 32), patch w msb lsb v = .ok w' →
    ∀ u, patch w' msb lsb u = patch w msb lsb u
  patch_comm : ∀ (w w₁ w₂ : BitVec n) (msb lsb msb' lsb' : Nat) (v u : BitVec 32),
    msb < lsb' ∨ msb' < lsb → patch w msb lsb v = .ok w₁ → patch w msb' lsb' u = .ok w₂ →
      ∃ both, patch w₁ msb' lsb' u = .ok both ∧ patch w₂ msb lsb v = .ok both
  toInt_sextract : ∀ (w : BitVec n) (msb lsb : Nat) (v : BitVec 32), extract w msb lsb = .ok v →
    ∃ s, sextract w msb lsb = .ok s ∧ s.toInt = (v.setWidth (msb - lsb + 1)).toInt

theorem fieldLaws (hn : n ≤ 32) : FieldLaws n where
  patch_refused w msb lsb v f := patch_eq_error_iff hn
  extract_refused w msb lsb f := extract_eq_error_iff hn
  sextract_refused w msb lsb f := sextract_eq_error_iff hn
  no_overflow w msb lsb v op := by
    rw [Ne, Ne, Ne, patch_eq_error_iff hn, extract_eq_error_iff hn, sextract_eq_error_iff hn]
    simp [RangeFault]
  mask msb lsb hlsb hmsb := by
    refine ⟨_, fieldMask_eq_ok hlsb (by omega), ?_⟩
    rw [toNat_rightBits (by omega)]
    exact Nat.sub_add_cancel Nat.one_le_two_pow
  extract_patch w w' msb lsb v h := by
    obtain ⟨hv, rfl⟩ := (patch_eq_ok_iff hn).1 h
    exact extract_write hn w hv
  outside w w' msb lsb v h i hout := by
    obtain ⟨hv, rfl⟩ := (patch_eq_ok_iff hn).1 h
    exact getLsbD_write_of_outside hn w hv hout
  patch_extract w msb lsb v h := by
    obtain ⟨⟨hlsb, hmsb⟩, rfl⟩ := (extract_eq_ok_iff hn).1 h
    exact (patch_eq_ok_iff hn).2
      ⟨fits_slice w ⟨hlsb, hmsb, rfl⟩, (write_slice hn w hlsb hmsb).symm⟩
  patch_patch w w' msb lsb v h u := by
    obtain ⟨hv, rfl⟩ := (patch_eq_ok_iff hn).1 h
    exact patch_write hn w hv u
  patch_comm w w₁ w₂ msb lsb msb' lsb' v u hapart h₁ h₂ := by
    obtain ⟨hv, rfl⟩ := (patch_eq_ok_iff hn).1 h₁
    obtain ⟨hu, rfl⟩ := (patch_eq_ok_iff hn).1 h₂
    exact ⟨_, (patch_eq_ok_iff hn).2 ⟨hu, rfl⟩,
      (patch_eq_ok_iff hn).2 ⟨hv, write_comm hn w hv hu hapart⟩⟩
  toInt_sextract w msb lsb v h := by
    obtain ⟨⟨hlsb, hmsb⟩, rfl⟩ := (extract_eq_ok_iff hn).1 h
    refine ⟨_, sextract_eq_ok hn w hlsb hmsb, ?_⟩
    rw [BitVec.toInt_signExtend_of_le (by omega), setWidth_slice w (by omega)]

/-- The laws hold for compact and for canonical instruction words. -/
theorem fieldLaws_sixteen_thirtyTwo : (16 ≤ 32 ∧ FieldLaws 16) ∧ 32 ≤ 32 ∧ FieldLaws 32 :=
  ⟨⟨by decide, fieldLaws (by decide)⟩, by decide, fieldLaws (by decide)⟩

end RiscvAssembler.Word
