import RiscvAssembler.Proofs.CompactDecoding

/-!
# Code points that no form uses

The RV64C tables reserve some halfwords for extensions to come, keep others as hints and define the
halfword of zeros as illegal. Together with the no-operation these are exactly the halfwords of the
three compact quadrants that are not decoded, so the word of a form is none of them.
-/

namespace RiscvAssembler.CompactForm

variable {h : BitVec 16}

/-! ## The tables -/

/-- The six bits that carry most immediates and all shift amounts are zero. -/
def ImmediateIsZero (h : BitVec 16) : Prop :=
  h.extractLsb' 12 1 = 0#1 ∧ h.extractLsb' 2 5 = 0#5

/-- Code points that RV64C reserves, by quadrant and function bits. -/
def IsReserved (h : BitVec 16) : Prop :=
  match h.extractLsb' 0 2, h.extractLsb' 13 3 with
  -- An address on the stack without an offset; the illegal instruction is one of these.
  | 0b00#2, 0b000#3 => h.extractLsb' 5 8 = 0#8
  | 0b00#2, 0b100#3 => True
  -- A word addition to `x0`; an adjustment of the stack pointer by zero, an upper immediate of zero.
  | 0b01#2, 0b001#3 => h.extractLsb' 7 5 = 0#5
  | 0b01#2, 0b011#3 => ImmediateIsZero h
  -- The two operations left over beside `subw` and `addw`.
  | 0b01#2, 0b100#3 =>
    h.extractLsb' 10 2 = 0b11#2 ∧ h.extractLsb' 12 1 = 1#1 ∧ h.extractLsb' 6 1 = 1#1
  -- Loads to `x0` and the jump to `x0`.
  | 0b10#2, 0b010#3 => h.extractLsb' 7 5 = 0#5
  | 0b10#2, 0b011#3 => h.extractLsb' 7 5 = 0#5
  | 0b10#2, 0b100#3 => h.extractLsb' 7 5 = 0#5 ∧ ImmediateIsZero h
  | _, _ => False

/-- Code points of hints, by quadrant and function bits. -/
def IsHint (h : BitVec 16) : Prop :=
  match h.extractLsb' 0 2, h.extractLsb' 13 3 with
  -- An addition to `x0` or of zero, but not both: that is the no-operation.
  | 0b01#2, 0b000#3 => ¬ (h.extractLsb' 7 5 = 0#5 ↔ ImmediateIsZero h)
  | 0b01#2, 0b010#3 => h.extractLsb' 7 5 = 0#5
  | 0b01#2, 0b011#3 => h.extractLsb' 7 5 = 0#5 ∧ ¬ ImmediateIsZero h
  -- Shifts by zero and shifts of `x0`.
  | 0b01#2, 0b100#3 => h.extractLsb' 11 1 = 0#1 ∧ ImmediateIsZero h
  | 0b10#2, 0b000#3 => h.extractLsb' 7 5 = 0#5 ∨ ImmediateIsZero h
  -- A move or an addition to `x0`.
  | 0b10#2, 0b100#3 => h.extractLsb' 7 5 = 0#5 ∧ h.extractLsb' 2 5 ≠ 0#5
  | _, _ => False

/-! ## Operands that are zero -/

theorem fullRd_eq_zero_iff : fullRd h = Reg.zero ↔ h.extractLsb' 7 5 = 0#5 := by
  rw [fullRd, Reg.zero, Register.mk.injEq]

theorem fullRs2_eq_zero_iff : fullRs2 h = Reg.zero ↔ h.extractLsb' 2 5 = 0#5 := by
  rw [fullRs2, Reg.zero, Register.mk.injEq]

theorem immSix_eq_zero_iff : immSix h = 0#32 ↔ ImmediateIsZero h := by
  have hall : ∀ (a : BitVec 1) (b : BitVec 5),
      (a ++ b).signExtend 32 = 0#32 ↔ a = 0#1 ∧ b = 0#5 := by decide
  exact hall _ _

theorem shamtSix_eq_zero_iff : shamtSix h = 0#32 ↔ ImmediateIsZero h := by
  have hall : ∀ (a : BitVec 1) (b : BitVec 5),
      (a ++ b).setWidth 32 = 0#32 ↔ a = 0#1 ∧ b = 0#5 := by decide
  exact hall _ _

theorem immLui_eq_zero_iff : immLui h = 0#32 ↔ ImmediateIsZero h := by
  have hall : ∀ (a : BitVec 1) (b : BitVec 5),
      (a ++ b ++ 0#12).signExtend 32 = 0#32 ↔ a = 0#1 ∧ b = 0#5 := by decide
  exact hall _ _

theorem immAddi16sp_eq_zero_iff : immAddi16sp h = 0#32 ↔ ImmediateIsZero h := by
  have hall : ∀ (a : BitVec 1) (b : BitVec 5),
      (a ++ b.extractLsb' 1 2 ++ b.extractLsb' 3 1 ++ b.extractLsb' 0 1 ++ b.extractLsb' 4 1 ++
        0#4).signExtend 32 = 0#32 ↔ a = 0#1 ∧ b = 0#5 := by decide
  have hbits := hall (h.extractLsb' 12 1) (h.extractLsb' 2 5)
  simp (disch := decide) only [extractLsb'_extractLsb'] at hbits
  exact hbits

theorem uimmAddi4spn_eq_zero_iff : uimmAddi4spn h = 0#32 ↔ h.extractLsb' 5 8 = 0#8 := by
  have hall : ∀ x : BitVec 8,
      (x.extractLsb' 2 4 ++ x.extractLsb' 6 2 ++ x.extractLsb' 0 1 ++ x.extractLsb' 1 1 ++
        0#2).setWidth 32 = 0#32 ↔ x = 0#8 := by decide
  have hbits := hall (h.extractLsb' 5 8)
  simp (disch := decide) only [extractLsb'_extractLsb'] at hbits
  exact hbits

theorem eq_nopWord_iff :
    h = nopWord ↔ h.extractLsb' 0 2 = 0b01#2 ∧ h.extractLsb' 13 3 = 0b000#3 ∧
      h.extractLsb' 7 5 = 0#5 ∧ ImmediateIsZero h := by
  constructor
  · rintro rfl
    exact ⟨by decide, by decide, by decide, by decide, by decide⟩
  · rintro ⟨hq, hf, hrd, hsign, hlow⟩
    have happ : h = h.extractLsb' 13 3 ++ h.extractLsb' 12 1 ++ h.extractLsb' 7 5 ++
        h.extractLsb' 2 5 ++ h.extractLsb' 0 2 := by
      simp (disch := rfl) only [BitVec.extractLsb'_append_extractLsb'_eq_extractLsb']
      exact BitVec.extractLsb'_eq_self.symm
    rw [happ, hq, hf, hrd, hsign, hlow]
    rfl

/-! ## What is not decoded -/

theorem reject_eq_none_iff {p : Prop} [Decidable p] {form : CompactForm} :
    reject p form = none ↔ p := by
  unfold reject
  split <;> simp_all

theorem two_bits (x : BitVec 2) : x = 0b00#2 ∨ x = 0b01#2 ∨ x = 0b10#2 ∨ x = 0b11#2 := by
  revert x
  decide

theorem three_bits (x : BitVec 3) :
    x = 0b000#3 ∨ x = 0b001#3 ∨ x = 0b010#3 ∨ x = 0b011#3 ∨ x = 0b100#3 ∨ x = 0b101#3 ∨
      x = 0b110#3 ∨ x = 0b111#3 := by
  revert x
  decide

theorem decodeArith_eq_none_iff :
    decodeArith h = none ↔ h.extractLsb' 12 1 = 1#1 ∧ h.extractLsb' 6 1 = 1#1 := by
  have hhigh : h.extractLsb' 6 1 = (h.extractLsb' 5 2).extractLsb' 1 1 := by
    rw [extractLsb'_extractLsb' h (Nat.le_refl 2)]
  rw [decodeArith, hhigh]
  generalize h.extractLsb' 12 1 = a
  generalize h.extractLsb' 5 2 = b
  revert a b
  decide

theorem decodeNarrow_eq_none_iff :
    decodeNarrow h = none ↔
      (h.extractLsb' 10 2 = 0b11#2 ∧ h.extractLsb' 12 1 = 1#1 ∧ h.extractLsb' 6 1 = 1#1) ∨
        (h.extractLsb' 11 1 = 0#1 ∧ ImmediateIsZero h) := by
  have hhigh : h.extractLsb' 11 1 = (h.extractLsb' 10 2).extractLsb' 1 1 := by
    rw [extractLsb'_extractLsb' h (Nat.le_refl 2)]
  rcases two_bits (h.extractLsb' 10 2) with hf | hf | hf | hf <;>
    simp [decodeNarrow, hhigh, hf, reject_eq_none_iff, shamtSix_eq_zero_iff,
      decodeArith_eq_none_iff]

theorem decodePair_eq_none_iff :
    decodePair h = none ↔
      (h.extractLsb' 7 5 = 0#5 ∧ ImmediateIsZero h) ∨
        (h.extractLsb' 7 5 = 0#5 ∧ h.extractLsb' 2 5 ≠ 0#5) := by
  have hbit : ∀ b : BitVec 1, b = 0#1 ∨ b = 1#1 := by decide
  rcases hbit (h.extractLsb' 12 1) with hb | hb <;>
    by_cases hrs2 : h.extractLsb' 2 5 = 0#5 <;>
    by_cases hrd : h.extractLsb' 7 5 = 0#5 <;>
    simp [decodePair, ImmediateIsZero, hb, fullRs2_eq_zero_iff, fullRd_eq_zero_iff, hrs2, hrd,
      reject_eq_none_iff]

theorem decodeQuadrant0_eq_none_iff (hq : h.extractLsb' 0 2 = 0b00#2) :
    decodeQuadrant0 h = none ↔ IsReserved h ∨ IsHint h := by
  rcases three_bits (h.extractLsb' 13 3) with hf | hf | hf | hf | hf | hf | hf | hf <;>
    simp [decodeQuadrant0, IsReserved, IsHint, hq, hf, reject_eq_none_iff,
      uimmAddi4spn_eq_zero_iff]

theorem decodeQuadrant1_eq_none_iff (hq : h.extractLsb' 0 2 = 0b01#2) :
    decodeQuadrant1 h = none ↔ IsReserved h ∨ IsHint h ∨ h = nopWord := by
  rcases three_bits (h.extractLsb' 13 3) with hf | hf | hf | hf | hf | hf | hf | hf <;>
    simp only [decodeQuadrant1, IsReserved, IsHint, eq_nopWord_iff, hq, hf]
  case inl =>
    rw [reject_eq_none_iff, fullRd_eq_zero_iff, immSix_eq_zero_iff]
    tauto
  case inr.inr.inr.inl =>
    split
    next hsp =>
      have hrd : h.extractLsb' 7 5 = Reg.sp.index := congrArg Register.index hsp
      rw [reject_eq_none_iff, immAddi16sp_eq_zero_iff, hrd]
      simp [Reg.sp]
    next =>
      rw [reject_eq_none_iff, fullRd_eq_zero_iff, immLui_eq_zero_iff]
      simp
      tauto
  case inr.inr.inr.inr.inl =>
    rw [decodeNarrow_eq_none_iff]
    simp
  all_goals simp [reject_eq_none_iff, fullRd_eq_zero_iff]

theorem decodeQuadrant2_eq_none_iff (hq : h.extractLsb' 0 2 = 0b10#2) :
    decodeQuadrant2 h = none ↔ IsReserved h ∨ IsHint h := by
  rcases three_bits (h.extractLsb' 13 3) with hf | hf | hf | hf | hf | hf | hf | hf <;>
    simp [decodeQuadrant2, IsReserved, IsHint, hq, hf, reject_eq_none_iff, fullRd_eq_zero_iff,
      shamtSix_eq_zero_iff, decodePair_eq_none_iff]

/-- A halfword that is not the start of a word is decoded unless it is reserved, a hint or the
no-operation. -/
theorem decode?_eq_none_iff (hq : h.extractLsb' 0 2 ≠ 0b11#2) :
    decode? h = none ↔ IsReserved h ∨ IsHint h ∨ h = nopWord := by
  have hnop : h.extractLsb' 0 2 ≠ 0b01#2 → h ≠ nopWord := by
    rintro hne rfl
    exact hne rfl
  rcases two_bits (h.extractLsb' 0 2) with hq' | hq' | hq' | hq'
  · have hne : h ≠ nopWord := hnop (by rw [hq']; decide)
    simp only [decode?, hq', decodeQuadrant0_eq_none_iff hq', hne, or_false]
  · simp only [decode?, hq', decodeQuadrant1_eq_none_iff hq']
  · have hne : h ≠ nopWord := hnop (by rw [hq']; decide)
    simp only [decode?, hq', decodeQuadrant2_eq_none_iff hq', hne, or_false]
  · exact absurd hq' hq

/-! ## The words of forms -/

/-- The halfword of zeros, which RV64C defines as illegal, is one of the reserved ones. -/
theorem isReserved_zero : IsReserved 0#16 :=
  rfl

theorem low_two_bits_ne_of_decode? {form : CompactForm} (hform : decode? h = some form) :
    h.extractLsb' 0 2 ≠ 0b11#2 := by
  intro hq
  simp [decode?, hq] at hform

/-- What is decoded is at a code point of its own. -/
theorem not_reserved_nor_hint_of_decode? {form : CompactForm} (hform : decode? h = some form) :
    ¬ IsReserved h ∧ ¬ IsHint h ∧ h ≠ nopWord := by
  have hsome : decode? h ≠ none := by simp [hform]
  have hnone := decode?_eq_none_iff (low_two_bits_ne_of_decode? hform)
  refine ⟨?_, ?_, ?_⟩
  · exact fun hreserved => hsome (hnone.2 (.inl hreserved))
  · exact fun hhint => hsome (hnone.2 (.inr (.inl hhint)))
  · exact fun hnop => hsome (hnone.2 (.inr (.inr hnop)))

/-- A form is encoded exactly when its operands are valid. Its word decodes to this form and to no
other, and is neither reserved, a hint, illegal nor the no-operation; so no two forms have one
word. -/
theorem encode_roundTrips (form : CompactForm) :
    ((∃ h, form.encode = .ok h) ↔ form.Valid) ∧
      ∀ h, form.encode = .ok h →
        decode? h = some form ∧ ¬ IsReserved h ∧ ¬ IsHint h ∧ h ≠ 0#16 ∧ h ≠ nopWord ∧
          ∀ other : CompactForm, other.encode = .ok h → other = form := by
  refine ⟨?_, ?_⟩
  · simp only [encode_eq_ok_iff, exists_and_left, exists_eq, and_true]
  · intro h hcode
    have hform : decode? h = some form := decode?_of_encode_eq_ok hcode
    obtain ⟨hreserved, hhint, hnop⟩ := not_reserved_nor_hint_of_decode? hform
    refine ⟨hform, hreserved, hhint, ?_, hnop, ?_⟩
    · rintro rfl
      exact hreserved isReserved_zero
    · intro other hother
      have hdecoded : decode? h = some other := decode?_of_encode_eq_ok hother
      exact Option.some.inj (hdecoded.symm.trans hform)

/-- The adjustment of the stack pointer lies among the upper immediates and is told apart from
them. -/
theorem encode_addi16sp_roundTrips :
    (addi16sp 32#32).encode = .ok 0x6105#16 ∧ decode? 0x6105#16 = some (addi16sp 32#32) := by
  have hcode : (addi16sp 32#32).encode = .ok 0x6105#16 := by decide
  exact ⟨hcode, ((encode_roundTrips (addi16sp 32#32)).2 0x6105#16 hcode).1⟩

end RiscvAssembler.CompactForm
