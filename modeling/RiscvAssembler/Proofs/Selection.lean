import RiscvAssembler.Proofs.Expansion
import RiscvAssembler.Proofs.Site

/-!
# The choice of a compact form

A form is chosen only where it stands for the instruction: it can be encoded exactly when the
instruction can, and its expansion is the same operation. The choice checks every restriction of the
form but two, the width of a shift amount and the low bits of an upper immediate.
-/

namespace RiscvAssembler

open Immediate

/-! ## Instructions that can be encoded -/

namespace Instr

def Encodable (i : Instr) : Prop :=
  ∃ w, i.encode = .ok w

variable {rd rs1 rs2 : Reg} {imm shamt d : BitVec 32}

theorem encodable_reg (op : RegOp) (rd rs1 rs2 : Reg) :
    Encodable (.integer (.reg op rd rs1 rs2)) :=
  RType.exists_encode rd rs1 rs2 (by cases op <;> decide)

theorem encodable_imm_iff {op : ImmOp} :
    Encodable (.integer (.imm op rd rs1 imm)) ↔ IsSigned 12 0 imm.toInt :=
  IType.exists_encode_iff rs1 rd imm (by cases op <;> decide)

theorem encodable_shift_iff {op : ShiftOp} :
    Encodable (.integer (.shift op rd rs1 shamt)) ↔
      shamt.toNat < 2 ^ op.row.shamtBits.toNat :=
  ShiftType.exists_encode_iff rd rs1 shamt (by cases op <;> decide) (by cases op <;> decide)

theorem encodable_upper_iff {op : UpperOp} :
    Encodable (.integer (.upper op rd imm)) ↔ (2 ^ 12 : Int) ∣ imm.toInt :=
  UType.exists_encode_iff rd imm (by cases op <;> decide)

theorem encodable_load_iff {op : LoadOp} :
    Encodable (.integer (.load op rd rs1 imm)) ↔ IsSigned 12 0 imm.toInt :=
  IType.exists_encode_iff rs1 rd imm (by cases op <;> decide)

theorem encodable_store_iff {op : StoreOp} :
    Encodable (.integer (.store op rs2 rs1 imm)) ↔ IsSigned 12 0 imm.toInt :=
  SType.exists_encode_iff rs1 rs2 imm (by cases op <;> decide)

theorem encodable_branch_iff {cond : Condition} :
    Encodable (.integer (.branch cond rs1 rs2 d)) ↔ IsSigned 13 1 d.toInt :=
  BType.exists_encode_iff rs1 rs2 d (by cases cond <;> decide)

theorem encodable_jal_iff : Encodable (.integer (.jal rd d)) ↔ IsSigned 21 1 d.toInt :=
  JType.exists_encode_iff rd d

theorem encodable_jalr_iff :
    Encodable (.integer (.jalr rd rs1 imm)) ↔ IsSigned 12 0 imm.toInt :=
  IType.exists_encode_iff (t := ⟨Opcode.jalr, 0b000#32⟩) rs1 rd imm (by decide)

theorem encodable_floatLoad_iff {fmt : FloatFormat} {rd : FReg} :
    Encodable (.float (.load fmt rd rs1 imm)) ↔ IsSigned 12 0 imm.toInt :=
  IType.exists_encode_iff rs1 rd imm (by cases fmt <;> decide)

theorem encodable_floatStore_iff {fmt : FloatFormat} {rs2 : FReg} :
    Encodable (.float (.store fmt rs2 rs1 imm)) ↔ IsSigned 12 0 imm.toInt :=
  SType.exists_encode_iff rs1 rs2 imm (by cases fmt <;> decide)

end Instr

/-! ## The chosen form -/

/-- The restrictions on operands that the choice of a form leaves to the encoders. -/
def Instr.WithinLimits : Instr → Prop
  | .integer (.shift _ _ _ shamt) => shamt.toNat < 64
  | .integer (.upper _ _ imm) => slice imm 11 0 = 0#32
  | _ => True

theorem Instr.Encodable.withinLimits {i : Instr} (h : i.Encodable) : i.WithinLimits := by
  cases i with
  | integer i =>
    cases i with
    | shift op rd rs1 shamt =>
      refine (encodable_shift_iff.1 h).trans_le ?_
      cases op <;> decide
    | upper op rd imm => exact (slice_low_eq_zero_iff imm).2 (encodable_upper_iff.1 h)
    | _ => trivial
  | _ => trivial

/-- The form can take the place of the instruction. -/
structure CompactForm.StandsFor (form : CompactForm) (i : Instr) : Prop where
  valid_iff : form.Valid ↔ i.Encodable
  sameOperation : form.expansion.SameOperation Eq i

/-- The form stands for the instruction, and nothing but the limits is left to check. -/
structure CompactForm.ChosenFor (form : CompactForm) (i : Instr) : Prop
    extends form.StandsFor i where
  encodable : i.WithinLimits → i.Encodable

theorem CompactForm.ChosenFor.of_valid {form : CompactForm} {i : Instr} (hform : form.Valid)
    (hi : i.Encodable) (hsame : form.expansion.SameOperation Eq i) : form.ChosenFor i :=
  ⟨⟨iff_of_true hform hi, hsame⟩, fun _ => hi⟩

namespace Compression

open Instr

variable {rd rs1 rs2 other : Reg} {imm shamt d : BitVec 32} {form f : CompactForm}

theorem both_iff : both rd rs1 ↔ rd.isCompact ∧ rs1.isCompact := by
  rw [both, Bool.and_eq_true]

theorem onlyIf_eq_some_iff {p : Bool} : onlyIf p f = some form ↔ p ∧ f = form := by
  rw [onlyIf, Option.ite_none_right_eq_some, Option.some.injEq]

theorem otherSource_eq_some_iff :
    otherSource rd rs1 rs2 = some other ↔
      rs1 = rd ∧ rs2 = other ∨ rs1 ≠ rd ∧ rs2 = rd ∧ rs1 = other := by
  unfold otherSource
  split
  next h =>
    simp only [h, Option.some.injEq, true_and, ne_eq, not_true_eq_false, false_and, or_false]
  next h =>
    simp only [h, Option.ite_none_right_eq_some, Option.some.injEq, false_and, ne_eq,
      not_false_eq_true, true_and, false_or]

theorem ordered_chosenFor {op : CompactArithOp} (h : ordered op rd rs1 rs2 = some form) :
    form.ChosenFor (.integer (.reg op.expansion rd rs1 rs2)) := by
  obtain ⟨hcond, rfl⟩ := onlyIf_eq_some_iff.1 h
  rw [Bool.and_eq_true, decide_eq_true_iff, both_iff] at hcond
  obtain ⟨rfl, hcompact⟩ := hcond
  exact .of_valid hcompact (encodable_reg ..) (.same rfl)

theorem commutative_chosenFor {op : CompactArithOp} (hop : op.expansion.isCommutative)
    (h : commutative op rd rs1 rs2 = some form) :
    form.ChosenFor (.integer (.reg op.expansion rd rs1 rs2)) := by
  rw [commutative, Option.ite_none_right_eq_some, Option.map_eq_some_iff, both_iff] at h
  obtain ⟨⟨hrs1, hrs2⟩, other, hother, rfl⟩ := h
  rcases otherSource_eq_some_iff.1 hother with ⟨rfl, rfl⟩ | ⟨-, rfl, rfl⟩
  · exact .of_valid ⟨hrs1, hrs2⟩ (encodable_reg ..) (.same rfl)
  · exact .of_valid ⟨hrs2, hrs1⟩ (encodable_reg ..) (.swap hop ..)

theorem reg_chosenFor {op : RegOp} (h : reg op rd rs1 rs2 = some form) :
    form.ChosenFor (.integer (.reg op rd rs1 rs2)) := by
  cases op with
  | add =>
    simp only [reg, Option.ite_none_left_eq_some, Option.map_eq_some_iff, not_or] at h
    obtain ⟨⟨hrs1, hrs2⟩, other, hother, rfl⟩ := h
    rcases otherSource_eq_some_iff.1 hother with ⟨rfl, rfl⟩ | ⟨-, rfl, rfl⟩
    · exact .of_valid ⟨hrs1, hrs2⟩ (encodable_reg ..) (.same rfl)
    · exact .of_valid ⟨hrs2, hrs1⟩ (encodable_reg ..) (.swap rfl ..)
  | sub =>
    have hsub : ordered .sub rd rs1 rs2 = some form := h
    exact ordered_chosenFor hsub
  | subw =>
    have hsubw : ordered .subw rd rs1 rs2 = some form := h
    exact ordered_chosenFor hsubw
  | xor =>
    have hxor : commutative .xor rd rs1 rs2 = some form := h
    exact commutative_chosenFor rfl hxor
  | or =>
    have hor : commutative .or rd rs1 rs2 = some form := h
    exact commutative_chosenFor rfl hor
  | and =>
    have hand : commutative .and rd rs1 rs2 = some form := h
    exact commutative_chosenFor rfl hand
  | addw =>
    have haddw : commutative .addw rd rs1 rs2 = some form := h
    exact commutative_chosenFor rfl haddw
  | _ => cases h

theorem fitsSix_iff : fitsSix imm ↔ IsSigned 6 0 imm.toInt :=
  fitsSigned_signExtend_iff imm 6 (by decide)

theorem isSigned_toInt_zero : IsSigned 12 0 (0#32).toInt := by
  decide

/-- An immediate of a compact form is one of the instruction. -/
theorem encodable_imm_of_isSigned {op : ImmOp} {n a : Nat} (h : IsSigned n a imm.toInt)
    (hn : n ≤ 12) : Encodable (.integer (.imm op rd rs1 imm)) :=
  encodable_imm_iff.2 (h.mono hn a.zero_le)

theorem addi_chosenFor (h : addi rd rs1 imm = some form) :
    form.ChosenFor (.addi rd rs1 imm) := by
  have hencodable : ∀ {n a : Nat}, IsSigned n a imm.toInt → n ≤ 12 →
      Encodable (.addi rd rs1 imm) := encodable_imm_of_isSigned
  unfold addi at h
  split at h
  next hcond =>
    obtain rfl := Option.some.inj h
    obtain ⟨rfl, hrd, hne, hfits⟩ := hcond
    have himm := fitsSix_iff.1 hfits
    exact .of_valid ⟨hrd, hne, himm⟩ (hencodable himm (by decide)) (.same rfl)
  split at h
  next hcond =>
    obtain rfl := Option.some.inj h
    obtain ⟨rfl, hrd, hrs1⟩ := hcond
    exact .of_valid ⟨hrd, hrs1⟩ (hencodable isSigned_toInt_zero le_rfl) (.move ..)
  split at h
  next hcond =>
    obtain rfl := Option.some.inj h
    obtain ⟨rfl, rfl, hne, hfits⟩ := hcond
    have himm := (fitsSigned_signExtend_iff imm 6 (by decide)).1 hfits
    exact .of_valid ⟨hne, himm⟩ (hencodable himm (by decide)) (.same rfl)
  split at h
  next hcond =>
    obtain rfl := Option.some.inj h
    obtain ⟨rfl, hrd, hne, hfits⟩ := hcond
    have huimm := (fitsUnsigned_signExtend_iff imm 8 (by decide)).1 hfits
    have himm := huimm.isSigned_toInt (by decide)
    exact .of_valid ⟨hrd, hne, huimm⟩ (hencodable himm (by decide)) (.same rfl)
  split at h
  next hcond =>
    obtain rfl := Option.some.inj h
    obtain ⟨rfl, hrd, hfits⟩ := hcond
    have himm := fitsSix_iff.1 hfits
    exact .of_valid ⟨hrd, himm⟩ (hencodable himm (by decide)) (.same rfl)
  next => cases h

/-- Operations in place with an immediate of six bits, where `p` restricts the register. -/
theorem inPlace_imm_chosenFor {op : ImmOp} {p : Bool}
    (hvalid : p ∧ IsSigned 6 0 imm.toInt → f.Valid)
    (hexpansion : f.expansion = .integer (.imm op rd rd imm))
    (h : onlyIf (rd = rs1 && p && fitsSix imm) f = some form) :
    form.ChosenFor (.integer (.imm op rd rs1 imm)) := by
  obtain ⟨hcond, rfl⟩ := onlyIf_eq_some_iff.1 h
  simp only [Bool.and_eq_true, decide_eq_true_iff, fitsSix_iff] at hcond
  obtain ⟨⟨rfl, hp⟩, himm⟩ := hcond
  have hencodable : Encodable (.integer (.imm op rd rd imm)) :=
    encodable_imm_of_isSigned himm (by decide)
  refine .of_valid (hvalid ⟨hp, himm⟩) hencodable ?_
  rw [hexpansion]
  exact .same rfl

theorem imm_chosenFor {op : ImmOp} (h : Compression.imm op rd rs1 imm = some form) :
    form.ChosenFor (.integer (.imm op rd rs1 imm)) := by
  cases op with
  | addi => exact addi_chosenFor h
  | addiw =>
    refine inPlace_imm_chosenFor ?_ rfl h
    exact And.imp_left of_decide_eq_true
  | andi =>
    refine inPlace_imm_chosenFor ?_ rfl h
    exact id
  | _ => cases h

theorem one_le_toNat_iff : 1 ≤ shamt.toNat ↔ shamt ≠ 0#32 := by
  rw [ne_eq, ← BitVec.toNat_inj, BitVec.toNat_ofNat, Nat.zero_mod]
  omega

/-- Shifts in place by an amount of six bits, where `p` restricts the register. -/
theorem inPlace_shift_chosenFor {op : ShiftOp} {p : Bool}
    (hbits : 2 ^ op.row.shamtBits.toNat = 64)
    (hvalid : p → (f.Valid ↔ 1 ≤ shamt.toNat ∧ shamt.toNat < 64))
    (hexpansion : f.expansion = .integer (.shift op rd rd shamt))
    (h : onlyIf (rd = rs1 && p && shamt ≠ 0#32) f = some form) :
    form.ChosenFor (.integer (.shift op rd rs1 shamt)) := by
  obtain ⟨hcond, rfl⟩ := onlyIf_eq_some_iff.1 h
  simp only [Bool.and_eq_true, decide_eq_true_iff] at hcond
  obtain ⟨⟨rfl, hp⟩, hne⟩ := hcond
  have hencodable : Encodable (.integer (.shift op rd rd shamt)) ↔ shamt.toNat < 64 := by
    rw [encodable_shift_iff, hbits]
  refine ⟨⟨?_, ?_⟩, hencodable.2⟩
  · rw [hvalid hp, hencodable, and_iff_right (one_le_toNat_iff.2 hne)]
  · rw [hexpansion]
    exact .same rfl

theorem shift_chosenFor {op : ShiftOp} (h : shift op rd rs1 shamt = some form) :
    form.ChosenFor (.integer (.shift op rd rs1 shamt)) := by
  cases op with
  | slli =>
    refine inPlace_shift_chosenFor rfl ?_ rfl h
    exact fun hrd => and_iff_right (of_decide_eq_true hrd)
  | srli =>
    refine inPlace_shift_chosenFor rfl ?_ rfl h
    exact and_iff_right
  | srai =>
    refine inPlace_shift_chosenFor rfl ?_ rfl h
    exact and_iff_right
  | _ => cases h

theorem upper_chosenFor {op : UpperOp} (h : upper op rd imm = some form) :
    form.ChosenFor (.integer (.upper op rd imm)) := by
  cases op with
  | lui =>
    obtain ⟨hcond, rfl⟩ := onlyIf_eq_some_iff.1 h
    simp (disch := decide) only [Bool.and_eq_true, decide_eq_true_iff,
      fitsSigned_signExtend_iff] at hcond
    obtain ⟨⟨⟨hzero, hsp⟩, hne⟩, hlow, hhigh, -⟩ := hcond
    refine ⟨⟨?_, .same rfl⟩, fun h => encodable_upper_iff.2 ((slice_low_eq_zero_iff imm).1 h)⟩
    rw [encodable_upper_iff, CompactForm.Valid, and_iff_right hzero, and_iff_right hsp,
      and_iff_right hne, IsSigned]
    exact ⟨fun h => h.2.2, fun h => ⟨hlow, hhigh, h⟩⟩
  | auipc => cases h

/-- Loads and stores. The form that is chosen has an offset of fewer bits than the instruction. -/
theorem access_chosenFor (i : Reg → Instr) {a : Nat} {stack near : Bool}
    {stackForm nearForm : CompactForm} (ha : a ≤ 3)
    (hi : ∀ base, (i base).Encodable ↔ IsSigned 12 0 imm.toInt)
    (hsame : ∀ base, (i base).displacement? = none)
    (hstack : stack → rs1 = .sp ∧ (IsUnsigned (6 + a) a imm.toNat → stackForm.Valid))
    (hnear : near → IsUnsigned (5 + a) a imm.toNat → nearForm.Valid)
    (hexpansion : stackForm.expansion = i .sp ∧ nearForm.expansion = i rs1)
    (h : access a imm stack near stackForm nearForm = some form) : form.ChosenFor (i rs1) := by
  have hencodable : ∀ {n : Nat}, n + a ≤ 11 → IsUnsigned (n + a) a imm.toNat →
      (i rs1).Encodable := by
    intro n hn huimm
    exact (hi rs1).2 ((huimm.isSigned_toInt (by omega)).mono (by omega) a.zero_le)
  unfold access at h
  split at h
  next hcond =>
    obtain rfl := Option.some.inj h
    obtain ⟨rfl, hvalid⟩ := hstack hcond.1
    have huimm := (fitsUnsigned_signExtend_iff imm 6 (by omega)).1 hcond.2
    refine .of_valid (hvalid huimm) (hencodable (by omega) huimm) ?_
    rw [hexpansion.1]
    exact .same (hsame _)
  split at h
  next hcond =>
    obtain rfl := Option.some.inj h
    have huimm := (fitsUnsigned_signExtend_iff imm 5 (by omega)).1 hcond.2
    refine .of_valid (hnear hcond.1 huimm) (hencodable (by omega) huimm) ?_
    rw [hexpansion.2]
    exact .same (hsame _)
  next => cases h

theorem load_chosenFor {op : LoadOp} (h : load op rd rs1 imm = some form) :
    form.ChosenFor (.integer (.load op rd rs1 imm)) := by
  have hstack : ∀ {p : Prop}, (rs1 = .sp && rd ≠ .zero) = true →
      rs1 = .sp ∧ (p → rd ≠ .zero ∧ p) := by
    intro p hcond
    rw [Bool.and_eq_true, decide_eq_true_iff, decide_eq_true_iff] at hcond
    exact ⟨hcond.1, fun hp => ⟨hcond.2, hp⟩⟩
  have hnear : ∀ {p : Prop}, both rd rs1 → p → rd.isCompact ∧ rs1.isCompact ∧ p := by
    intro p hcond hp
    obtain ⟨hrd, hrs1⟩ := both_iff.1 hcond
    exact ⟨hrd, hrs1, hp⟩
  cases op with
  | ld =>
    exact access_chosenFor (fun base => .integer (.load .ld rd base imm)) (by decide)
      (fun _ => encodable_load_iff) (fun _ => rfl) hstack hnear ⟨rfl, rfl⟩ h
  | lw =>
    exact access_chosenFor (fun base => .integer (.load .lw rd base imm)) (by decide)
      (fun _ => encodable_load_iff) (fun _ => rfl) hstack hnear ⟨rfl, rfl⟩ h
  | _ => cases h

theorem store_chosenFor {op : StoreOp} (h : store op rs2 rs1 imm = some form) :
    form.ChosenFor (.integer (.store op rs2 rs1 imm)) := by
  have hstack : ∀ {p : Prop}, decide (rs1 = .sp) → rs1 = .sp ∧ (p → p) :=
    fun hcond => ⟨of_decide_eq_true hcond, id⟩
  have hnear : ∀ {p : Prop}, both rs2 rs1 → p → rs2.isCompact ∧ rs1.isCompact ∧ p := by
    intro p hcond hp
    obtain ⟨hrs2, hrs1⟩ := both_iff.1 hcond
    exact ⟨hrs2, hrs1, hp⟩
  cases op with
  | sd =>
    exact access_chosenFor (fun base => .integer (.store .sd rs2 base imm)) (by decide)
      (fun _ => encodable_store_iff) (fun _ => rfl) hstack hnear ⟨rfl, rfl⟩ h
  | sw =>
    exact access_chosenFor (fun base => .integer (.store .sw rs2 base imm)) (by decide)
      (fun _ => encodable_store_iff) (fun _ => rfl) hstack hnear ⟨rfl, rfl⟩ h
  | _ => cases h

theorem short_chosenFor {cond : Condition}
    (hvalid : rs1.isCompact ∧ IsSigned 9 1 d.toInt → f.Valid)
    (hexpansion : f.expansion = .integer (.branch cond rs1 .zero d))
    (h : onlyIf (d ≠ 0#32 && rs2 = .zero && rs1.isCompact && fitsSigned (d.signExtend 64) 8 1) f =
      some form) :
    form.ChosenFor (.integer (.branch cond rs1 rs2 d)) := by
  obtain ⟨hcond, rfl⟩ := onlyIf_eq_some_iff.1 h
  simp (disch := decide) only [Bool.and_eq_true, decide_eq_true_iff,
    fitsSigned_signExtend_iff] at hcond
  obtain ⟨⟨⟨-, rfl⟩, hrs1⟩, hd⟩ := hcond
  have hencodable : Encodable (.integer (.branch cond rs1 .zero d)) :=
    encodable_branch_iff.2 (hd.mono (by decide) le_rfl)
  refine .of_valid (hvalid ⟨hrs1, hd⟩) hencodable ?_
  rw [hexpansion]
  exact .branch _ _ _ rfl

theorem branch_chosenFor {cond : Condition} (h : branch cond rs1 rs2 d = some form) :
    form.ChosenFor (.integer (.branch cond rs1 rs2 d)) := by
  cases cond with
  | eq =>
    refine short_chosenFor ?_ rfl h
    exact id
  | ne =>
    refine short_chosenFor ?_ rfl h
    exact id
  | _ => cases h

theorem jal_chosenFor (h : jal rd d = some form) : form.ChosenFor (.integer (.jal rd d)) := by
  obtain ⟨hcond, rfl⟩ := onlyIf_eq_some_iff.1 h
  simp only [Bool.and_eq_true, decide_eq_true_iff,
    fitsSigned_signExtend_iff d 11 (show 1 < 64 by decide)] at hcond
  obtain ⟨⟨-, rfl⟩, hd⟩ := hcond
  exact .of_valid hd (encodable_jal_iff.2 (hd.mono (by decide) le_rfl)) (.jal _ rfl)

theorem jalr_chosenFor (h : jalr rd rs1 imm = some form) :
    form.ChosenFor (.integer (.jalr rd rs1 imm)) := by
  unfold jalr at h
  split at h
  next => cases h
  next hcond =>
    obtain ⟨hzero, hrs1⟩ := not_or.1 hcond
    obtain rfl := not_not.1 hzero
    have hencodable : Encodable (.integer (.jalr rd rs1 0#32)) :=
      encodable_jalr_iff.2 isSigned_toInt_zero
    split at h
    next hrd =>
      obtain rfl := hrd
      obtain rfl := Option.some.inj h
      exact .of_valid hrs1 hencodable (.same rfl)
    split at h
    next hrd =>
      obtain rfl := hrd
      obtain rfl := Option.some.inj h
      exact .of_valid hrs1 hencodable (.same rfl)
    next => cases h

end Compression

theorem IntegerInstr.chosenFor_of_compact?_eq_some {i : IntegerInstr} {form : CompactForm}
    (h : i.compact? = some form) : form.ChosenFor (.integer i) := by
  cases i with
  | reg op rd rs1 rs2 => exact Compression.reg_chosenFor h
  | imm op rd rs1 value => exact Compression.imm_chosenFor h
  | shift op rd rs1 shamt => exact Compression.shift_chosenFor h
  | upper op rd value => exact Compression.upper_chosenFor h
  | load op rd rs1 offset => exact Compression.load_chosenFor h
  | store op rs2 rs1 offset => exact Compression.store_chosenFor h
  | branch cond rs1 rs2 offset => exact Compression.branch_chosenFor h
  | jal rd offset => exact Compression.jal_chosenFor h
  | jalr rd rs1 offset => exact Compression.jalr_chosenFor h
  | ebreak =>
    obtain rfl := Option.some.inj h
    exact .of_valid trivial ⟨_, rfl⟩ (.same rfl)
  | _ => cases h

theorem FloatInstr.chosenFor_of_compact?_eq_some {i : FloatInstr} {form : CompactForm}
    (h : i.compact? = some form) : form.ChosenFor (.float i) := by
  have hstack : ∀ {rs1 : Reg} {p : Prop}, decide (rs1 = .sp) → rs1 = .sp ∧ (p → p) :=
    fun hcond => ⟨of_decide_eq_true hcond, id⟩
  have hnear : ∀ {r : FReg} {rs1 : Reg} {p : Prop}, (r.isCompact && rs1.isCompact) = true → p →
      r.isCompact ∧ rs1.isCompact ∧ p := by
    intro r rs1 p hcond hp
    obtain ⟨hr, hrs1⟩ := Bool.and_eq_true_iff.1 hcond
    exact ⟨hr, hrs1, hp⟩
  cases i with
  | load fmt rd rs1 offset =>
    cases fmt with
    | single => cases h
    | double =>
      exact Compression.access_chosenFor (fun base => .float (.load .double rd base offset))
        (by decide) (fun _ => Instr.encodable_floatLoad_iff) (fun _ => rfl) hstack hnear
        ⟨rfl, rfl⟩ h
  | store fmt rs2 rs1 offset =>
    cases fmt with
    | single => cases h
    | double =>
      exact Compression.access_chosenFor (fun base => .float (.store .double rs2 base offset))
        (by decide) (fun _ => Instr.encodable_floatStore_iff) (fun _ => rfl) hstack hnear
        ⟨rfl, rfl⟩ h
  | _ => cases h

theorem Instr.chosenFor_of_compact?_eq_some {i : Instr} {form : CompactForm}
    (h : i.compact? = some form) : form.ChosenFor i := by
  cases i with
  | integer i => exact IntegerInstr.chosenFor_of_compact?_eq_some h
  | float i => exact FloatInstr.chosenFor_of_compact?_eq_some h
  | vector i => cases h

/-- The form chosen for an instruction stands for it. -/
theorem Instr.standsFor_of_compact?_eq_some {i : Instr} {form : CompactForm}
    (h : i.compact? = some form) : form.StandsFor i :=
  (chosenFor_of_compact?_eq_some h).toStandsFor

/-- The form chosen for an instruction can be encoded exactly when the shift amount or the upper
immediate, if there is one, is within its limits: no other restriction is left unchecked. -/
theorem Instr.compact?_encode_iff {i : Instr} {form : CompactForm} (h : i.compact? = some form) :
    (∃ w, form.encode = .ok w) ↔ i.WithinLimits := by
  have hchosen := chosenFor_of_compact?_eq_some h
  have hvalid : (∃ w, form.encode = .ok w) ↔ form.Valid := by
    simp only [CompactForm.encode_eq_ok_iff, exists_and_left, exists_eq, and_true]
  rw [hvalid, hchosen.valid_iff]
  exact ⟨Encodable.withinLimits, hchosen.encodable⟩

/-- The widest shift within the limits is chosen and encoded. -/
theorem Instr.compact?_encode_slli :
    Instr.compact? (.integer (.shift .slli .a0 .a0 63#32)) = some (.slli .a0 63#32) ∧
      ∃ w, (CompactForm.slli .a0 63#32).encode = .ok w :=
  have hlimits : WithinLimits (.integer (.shift .slli .a0 .a0 63#32)) :=
    show (63#32).toNat < 64 by decide
  ⟨rfl, (compact?_encode_iff rfl).2 hlimits⟩

/-- A shift by 64 and an upper immediate with a low bit set have forms that are refused. -/
theorem Instr.exists_compact?_not_encoded :
    (Instr.compact? (.integer (.shift .slli .a0 .a0 64#32)) = some (.slli .a0 64#32) ∧
        (CompactForm.slli .a0 64#32).encode = .error (.outOfRange .compactSlli 64)) ∧
      Instr.compact? (.integer (.upper .lui .a0 1#32)) = some (.lui .a0 1#32) ∧
        (CompactForm.lui .a0 1#32).encode = .error (.compactLuiImmediate 1#32) :=
  ⟨⟨rfl, rfl⟩, rfl, rfl⟩

/-! ## Code -/

theorem Instr.code_of_compact?_eq_some {i : Instr} {form : CompactForm}
    (h : i.compact? = some form) : i.code true = form.code := by
  rw [code, if_pos rfl, h]
  rfl

theorem Instr.code_of_compact?_eq_none {i : Instr} (h : i.compact? = none) :
    i.code true = i.code false := by
  simp only [code, h, ite_self]

/-- The code of an instruction is its word or the halfword of the form chosen for it. -/
theorem Instr.word_or_half_of_code_eq_ok {i : Instr} {compress : Bool} {c : Code}
    (h : i.code compress = .ok c) :
    (∃ w, i.encode = .ok w ∧ c = .word w) ∨
      ∃ form w, i.compact? = some form ∧ form.encode = .ok w ∧ c = .half w := by
  have hword : i.code false = .ok c → ∃ w, i.encode = .ok w ∧ c = .word w := by
    intro h
    rw [code_false, map_eq_ok_iff] at h
    obtain ⟨w, hw, rfl⟩ := h
    exact ⟨w, hw, rfl⟩
  cases compress with
  | false => exact .inl (hword h)
  | true =>
    cases hform : i.compact? with
    | none =>
      rw [code_of_compact?_eq_none hform] at h
      exact .inl (hword h)
    | some form =>
      rw [code_of_compact?_eq_some hform, CompactForm.code_eq_map, map_eq_ok_iff] at h
      obtain ⟨w, hw, rfl⟩ := h
      exact .inr ⟨form, w, rfl, hw, rfl⟩

/-- Compression neither adds nor removes a fault. -/
theorem Instr.exists_code_iff (i : Instr) (compress : Bool) :
    (∃ c, i.code compress = .ok c) ↔ i.Encodable := by
  have hword : (∃ c, i.code false = .ok c) ↔ i.Encodable := by
    simp only [code_false, map_eq_ok_iff]
    constructor
    · rintro ⟨_, w, hw, -⟩
      exact ⟨w, hw⟩
    · rintro ⟨w, hw⟩
      exact ⟨_, w, hw, rfl⟩
  cases compress with
  | false => exact hword
  | true =>
    cases hform : i.compact? with
    | none => rw [code_of_compact?_eq_none hform, hword]
    | some form =>
      rw [code_of_compact?_eq_some hform, ← (standsFor_of_compact?_eq_some hform).valid_iff]
      simp only [CompactForm.code_eq_map, map_eq_ok_iff, CompactForm.encode_eq_ok_iff]
      constructor
      · rintro ⟨_, _, ⟨hvalid, -⟩, -⟩
        exact hvalid
      · intro hvalid
        exact ⟨_, _, ⟨hvalid, rfl⟩, rfl⟩

end RiscvAssembler
