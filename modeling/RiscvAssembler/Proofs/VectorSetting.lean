import RiscvAssembler.Proofs.Disassembly

/-!
# Vector configuration

Three instructions set the vector type. The top two bits of their words tell them apart, and two of
them hold the type in an immediate, of eleven bits and of ten. `VectorInstr.settingOfWord?` reads
words by this layout alone. It gives back every such instruction that is not refused, with all its
operands, and nothing for the word of any other vector instruction, so that no two of these words
are equal.
-/

namespace RiscvAssembler

/-! ## Bits of a word -/

theorem getLsbD_of_slice {n : Nat} {x : BitVec n} {msb lsb : Nat} {v : BitVec 32}
    (h : slice x msb lsb = v) {i : Nat} (hi : i ≤ msb - lsb) (h32 : msb - lsb < 32) :
    x.getLsbD (lsb + i) = v.getLsbD i := by
  simp [← h, slice, show i < 32 by omega, show i < msb - lsb + 1 by omega]

theorem getLsbD_of_slice_eq_bitOf {n : Nat} {x : BitVec n} {b : Bool} {i : Nat}
    (h : slice x i i = bitOf b) : x.getLsbD i = b := by
  rw [← Nat.add_zero i, getLsbD_of_slice h (by omega) (by omega)]
  cases b <;> rfl

/-! ## The immediate of a vector type -/

/-- The multiplier with the given code. The code between the whole and the fractional ones is
reserved. -/
def Lmul.ofCode? : BitVec 3 → Option Lmul
  | 0b000#3 => some m1
  | 0b001#3 => some m2
  | 0b010#3 => some m4
  | 0b011#3 => some m8
  | 0b101#3 => some mf8
  | 0b110#3 => some mf4
  | 0b111#3 => some mf2
  | _ => none

theorem Lmul.ofCode?_encoding (lmul : Lmul) :
    ofCode? (lmul.encoding.extractLsb' 0 3) = some lmul := by
  cases lmul <;> rfl

/-- The element width with the given code. The upper half of the codes is reserved. -/
def Sew.ofCode? : BitVec 3 → Option Sew
  | 0b000#3 => some e8
  | 0b001#3 => some e16
  | 0b010#3 => some e32
  | 0b011#3 => some e64
  | _ => none

theorem Sew.ofCode?_encoding (sew : Sew) : ofCode? (sew.encoding.extractLsb' 0 3) = some sew := by
  cases sew <;> rfl

namespace VType

/-- The vector type in an immediate: from the low end up multiplier, element width and policies,
then zeros, and the illegal mark on top. -/
def ofImmediate? {n : Nat} (imm : BitVec n) : Option VType := do
  let lmul ← Lmul.ofCode? (imm.extractLsb' 0 3)
  let sew ← Sew.ofCode? (imm.extractLsb' 3 3)
  guard (imm.extractLsb' 8 (n - 9) = 0#(n - 9))
  return ⟨sew, lmul, imm.getLsbD 6, imm.getLsbD 7, imm.getLsbD (n - 1)⟩

/-- Wherever the fields of a type are placed and however wide, the immediate there is read as the
type. -/
theorem ofImmediate?_of_fields {t : VType} {w : BitVec 32} {lsb n : Nat} (hn : 9 < n)
    (h32 : lsb + n ≤ 32)
    (h : ∀ f ∈ t.fields (lsb + n - 1) lsb, slice w f.msb f.lsb = f.value) :
    ofImmediate? (w.extractLsb' lsb n) = some t := by
  simp only [fields, List.forall_mem_cons, List.not_mem_nil, false_imp_iff, implies_true,
    and_true] at h
  obtain ⟨hlmul, hsew, htail, hmask, hzero, hillegal⟩ := h
  -- A part of the immediate is what the field stored there.
  have hpart : ∀ (start len : Nat) {msb : Nat} {v : BitVec 32}, slice w msb (lsb + start) = v →
      len ≤ msb - (lsb + start) + 1 → start + len ≤ n → msb < 32 →
      (w.extractLsb' lsb n).extractLsb' start len = v.extractLsb' 0 len := by
    rintro start len msb v rfl hlen hwithin hmsb
    rw [extractLsb'_extractLsb' _ hwithin, extractLsb'_slice _ (by omega) (by omega), Nat.add_zero]
  have hbit : ∀ {i : Nat}, i < n → (w.extractLsb' lsb n).getLsbD i = w.getLsbD (lsb + i) := by
    intro i hi
    simp [hi]
  have hlmul' := hpart 0 3 hlmul (by omega) (by omega) (by omega)
  have hsew' := hpart 3 3 hsew (by omega) (by omega) (by omega)
  have hzero' := hpart 8 (n - 9) hzero (by omega) (by omega) (by omega)
  rw [BitVec.extractLsb'_zero] at hzero'
  have hillegal' : (w.extractLsb' lsb n).getLsbD (n - 1) = t.illegal := by
    rw [hbit (by omega), ← Nat.add_sub_assoc (by omega), getLsbD_of_slice_eq_bitOf hillegal]
  simp [ofImmediate?, hlmul', Lmul.ofCode?_encoding, hsew', Sew.ofCode?_encoding, hzero',
    hbit (show 6 < n by omega), getLsbD_of_slice_eq_bitOf htail, hbit (show 7 < n by omega),
    getLsbD_of_slice_eq_bitOf hmask, hillegal']

/-- The illegal mark is set beside a field that is not zero. -/
def Contradicts (t : VType) : Prop :=
  t.illegal = true ∧ (t.lmul.encoding ≠ 0#32 ∨ t.sew.encoding ≠ 0#32 ∨ t.tailAgnostic = true ∨
    t.maskAgnostic = true)

theorem check_eq_ok_iff (t : VType) {u : Unit} : t.check = .ok u ↔ ¬ t.Contradicts := by
  obtain ⟨sew, lmul, tail, mask, illegal⟩ := t
  have hlmul : lmul.encoding = 0#32 ↔ lmul = .m1 := by cases lmul <;> decide
  have hsew : sew.encoding = 0#32 ↔ sew = .e8 := by cases sew <;> decide
  rw [check, require_eq_ok_iff]
  simp only [Contradicts, illegalType, VType.mk.injEq, ne_eq, hlmul, hsew]
  grind

theorem fields_fit (t : VType) {msb lsb : Nat} (h : lsb + 9 ≤ msb) (h32 : msb < 32) :
    ∀ f ∈ t.fields msb lsb, f.Fits 32 := by
  have hlmul : t.lmul.encoding.toNat < 2 ^ 3 := by cases t.lmul <;> decide
  have hsew : t.sew.encoding.toNat < 2 ^ 3 := by cases t.sew <;> decide
  have hbit : ∀ (b : Bool) {i : Nat}, i < 32 → Word.Fits 32 i i (bitOf b) := by
    intro b i hi
    refine ⟨le_rfl, hi, ?_⟩
    rw [Nat.sub_self]
    exact Nat.lt_succ_of_le (toNat_bitOf_le b)
  simp only [fields, forall_fits_cons, forall_fits_nil, and_true]
  refine ⟨⟨by omega, by omega, ?_⟩, ⟨by omega, by omega, ?_⟩, hbit _ (by omega),
    hbit _ (by omega), ⟨by omega, by omega, Nat.two_pow_pos _⟩, hbit _ h32⟩
  · rwa [Nat.add_sub_cancel_left]
  · rwa [Nat.add_sub_add_left]

end VType

namespace VectorInstr

variable {w : BitVec 32}

/-! ## Reading the word -/

/-- Whether the instruction sets the vector type. -/
def isSetting : VectorInstr → Bool
  | setvli .. | setivli .. | setvl .. => true
  | _ => false

/-- The instruction of a word that sets the vector type. -/
def settingOfWord? (w : BitVec 32) : Option VectorInstr := do
  guard (slice w 6 0 = 0b1010111#32 ∧ slice w 14 12 = 0b111#32)
  match w[31], w[30] with
  | false, _ => return setvli (rdOf w) (rs1Of w) (← VType.ofImmediate? (w.extractLsb' 20 11))
  | true, true =>
    return setivli (rdOf w) (slice w 19 15) (← VType.ofImmediate? (w.extractLsb' 20 10))
  | true, false =>
    guard (slice w 31 25 = 0b1000000#32)
    return setvl (rdOf w) (rs1Of w) (rs2Of w)

theorem settingOfWord?_of_arith {row : VectorRow} {vd vs2 source : BitVec 32} {vm : VectorMask}
    (hrow : row.funct3 ≠ VectorCategory.opcfg) (h : (arithLayout row vd vs2 source vm).Holds w) :
    settingOfWord? w = none := by
  have hcategory : slice w 14 12 = row.funct3 := h.1 ⟨14, 12, row.funct3⟩ (by
    simp [arithLayout, Layout.parts, FormatCall.parts])
  have hother : slice w 14 12 ≠ 0b111#32 := hcategory ▸ hrow
  simp [settingOfWord?, hother]

theorem settingOfWord?_of_memory {dir : Direction} {eew : Sew} {vd : VReg} {rs1 : Reg}
    {selector : BitVec 32} {vm : VectorMask} {mop : BitVec 32} {count : FieldCount}
    (h : (memoryLayout dir eew vd rs1 selector vm mop count).Holds w) :
    settingOfWord? w = none := by
  have hopcode : slice w 6 0 = dir.opcode := h.1 ⟨6, 0, dir.opcode⟩ (by
    simp [memoryLayout, Layout.parts, FormatCall.parts])
  have hother : slice w 6 0 ≠ 0b1010111#32 := by
    rw [hopcode]
    cases dir <;> decide
  simp [settingOfWord?, hother]

/-- From the word of an instruction that sets the vector type the instruction is recovered. The word
of any other is not read as such an instruction. -/
theorem settingOfWord?_of_encode {i : VectorInstr} (h : i.encode = .ok w) :
    settingOfWord? w = if i.isSetting then some i else none := by
  have hlayout := holds_layout h
  cases i with
  | setvli rd rs1 vtype =>
    have hparts := hlayout.1
    simp only [layout, Layout.parts, List.forall_mem_append, List.forall_mem_cons] at hparts
    obtain ⟨⟨⟨hop, hrd, hcfg, hrs1, -⟩, hvtype⟩, htop, -⟩ := hparts
    have himm := VType.ofImmediate?_of_fields (n := 11) (by decide) (by decide) hvtype
    have hform : w[31] = false := getLsbD_of_slice_eq_bitOf htop
    simp [settingOfWord?, hop, hcfg, Opcode.opVector, VectorCategory.opcfg, hform, himm, rdOf, hrd,
      rs1Of, hrs1, isSetting]
  | setivli rd avl vtype =>
    have hparts := hlayout.1
    simp only [layout, Layout.parts, List.forall_mem_append, List.forall_mem_cons] at hparts
    obtain ⟨⟨⟨hop, hrd, hcfg, havl, -⟩, hvtype⟩, htop, -⟩ := hparts
    have himm := VType.ofImmediate?_of_fields (n := 10) (by decide) (by decide) hvtype
    have hform : w[31] = true ∧ w[30] = true :=
      ⟨getLsbD_of_slice htop (show 1 ≤ 31 - 30 by decide) (by decide),
        getLsbD_of_slice htop (Nat.zero_le _) (by decide)⟩
    simp [settingOfWord?, hop, hcfg, Opcode.opVector, VectorCategory.opcfg, hform, himm, rdOf,
      hrd, havl, isSetting]
  | setvl rd rs1 rs2 =>
    have hparts := hlayout.1
    simp only [layout, Layout.parts, List.forall_mem_cons] at hparts
    obtain ⟨hop, hrd, hcfg, hrs1, hrs2, htop, -⟩ := hparts
    have hform : w[31] = true ∧ w[30] = false :=
      ⟨getLsbD_of_slice htop (show 6 ≤ 31 - 25 by decide) (by decide),
        getLsbD_of_slice htop (show 5 ≤ 31 - 25 by decide) (by decide)⟩
    simp [settingOfWord?, hop, hcfg, Opcode.opVector, VectorCategory.opcfg, hform, htop, rdOf, hrd,
      rs1Of, hrs1, rs2Of, hrs2, isSetting]
  | vv op | vx op | vf op | vi op | vu op | unary op | maskLogical op =>
    exact settingOfWord?_of_arith (by cases op <;> decide) hlayout
  | unitStride | strided | indexed | loadGroup | storeGroup | maskAccess =>
    exact settingOfWord?_of_memory hlayout
  | _ => exact settingOfWord?_of_arith (by decide) hlayout

/-! ## Refusals -/

/-- The operands are some that no such instruction can hold. -/
def Refused : VectorInstr → Prop
  | setvli _ _ vtype => vtype.Contradicts
  | setivli _ avl vtype => vtype.Contradicts ∨ 31 < avl.toNat
  | _ => False

/-- An instruction that sets the vector type has a word exactly when it is not refused. -/
theorem exists_encode_iff {i : VectorInstr} (hi : i.isSetting) :
    (∃ w, i.encode = .ok w) ↔ ¬ i.Refused := by
  have hop : Word.Fits 32 6 0 Opcode.opVector := by decide
  have hcfg : Word.Fits 32 14 12 VectorCategory.opcfg := by decide
  cases i with
  | setvli rd rs1 vtype =>
    have hfits : ∀ f ∈ (setvli rd rs1 vtype).layout.parts, f.Fits 32 := by
      simp only [layout, Layout.parts, List.forall_mem_append, forall_fits_cons, forall_fits_nil,
        and_true]
      exact ⟨⟨⟨hop, rd.fits_rd, hcfg, rs1.fits_rs1⟩, vtype.fields_fit (by decide) (by decide)⟩,
        by decide⟩
    constructor
    · rintro ⟨w, h⟩
      obtain ⟨_, hcheck, -⟩ := bind_eq_ok_iff.1 h
      exact vtype.check_eq_ok_iff.1 hcheck
    · intro h
      exact ⟨_, bind_eq_ok_iff.2
        ⟨(), vtype.check_eq_ok_iff.2 h, (pack_eq_ok_iff le_rfl).2 ⟨hfits, rfl⟩⟩⟩
  | setivli rd avl vtype =>
    constructor
    · rintro ⟨w, h⟩
      simp only [encode, bind_eq_ok_iff, unsignedImmediate_eq_ok_iff, VType.check_eq_ok_iff] at h
      obtain ⟨_, ⟨⟨hlt, -⟩, -⟩, _, hvtype, -⟩ := h
      exact not_or.2 ⟨hvtype, Nat.not_lt.2 (Nat.le_of_lt_succ hlt)⟩
    · intro h
      obtain ⟨hvtype, hle⟩ := not_or.1 h
      have hlt : avl.toNat < 2 ^ 5 := Nat.lt_succ_of_le (Nat.not_lt.1 hle)
      have hfits : ∀ f ∈ (setivli rd avl vtype).layout.parts, f.Fits 32 := by
        simp only [layout, Layout.parts, List.forall_mem_append, forall_fits_cons, forall_fits_nil,
          and_true]
        exact ⟨⟨⟨hop, rd.fits_rd, hcfg, by decide, by decide, hlt⟩,
          vtype.fields_fit (by decide) (by decide)⟩, by decide⟩
      have havl := unsignedImmediate_eq_ok_iff.2 ⟨⟨hlt, one_dvd _⟩, rfl⟩
      exact ⟨_, bind_eq_ok_iff.2 ⟨avl, havl, bind_eq_ok_iff.2
        ⟨(), vtype.check_eq_ok_iff.2 hvtype, (pack_eq_ok_iff le_rfl).2 ⟨hfits, rfl⟩⟩⟩⟩
  | setvl rd rs1 rs2 =>
    have hfits : ∀ f ∈ (setvl rd rs1 rs2).layout.parts, f.Fits 32 := by
      simp only [layout, Layout.parts, forall_fits_cons, forall_fits_nil, and_true]
      exact ⟨hop, rd.fits_rd, hcfg, rs1.fits_rs1, rs2.fits_rs2, by decide⟩
    exact iff_of_true ⟨_, (pack_eq_ok_iff le_rfl).2 ⟨hfits, rfl⟩⟩ not_false
  | _ => cases hi

/-! ## Calls -/

theorem call_eq_issue (i : VectorInstr) (a : Assembler) (mayCompress : Bool) :
    a.call (.instr (.vector i) mayCompress) = a.issue (.word <$> i.encode) := by
  have hcode : ∀ compress, (Instr.vector i).code compress = .word <$> i.encode := by
    intro compress
    cases compress <;> rfl
  exact congrArg a.issue (hcode _)

/-- The call of an instruction succeeds when the instruction has a word and there is room for it. -/
theorem call_fault_eq_none_iff (i : VectorInstr) (a : Assembler) (mayCompress : Bool) :
    (a.call (.instr (.vector i) mayCompress)).2 = none ↔
      (∃ w, i.encode = .ok w) ∧ 4 ≤ a.buffer.remaining := by
  rw [call_eq_issue]
  cases hencode : i.encode with
  | error f => exact iff_of_false nofun nofun
  | ok w =>
    by_cases hroom : 4 ≤ a.buffer.remaining
    · have hissue := Assembler.issue_ok_of_room (c := .word w) hroom
      exact iff_of_true (congrArg Prod.snd hissue) ⟨⟨w, rfl⟩, hroom⟩
    · have hfull : a.issue (.ok (.word w)) = (a, some .bufferFull) := dif_neg hroom
      exact iff_of_false (by simp [hfull]) fun h => hroom h.2

theorem emits_of_call {i : VectorInstr} {a : Assembler} {mayCompress : Bool}
    (h : (a.call (.instr (.vector i) mayCompress)).2 = none) :
    ∃ w, a.Emits (.instr (.vector i) mayCompress) w := by
  obtain ⟨⟨w, hw⟩, hroom⟩ := (i.call_fault_eq_none_iff a mayCompress).1 h
  refine ⟨w, rfl, rfl, h, ?_, isLong hw⟩
  rw [call_eq_issue, hw]
  change (a.issue (.ok (.word w))).1.buffer.toList = _
  rw [Assembler.issue_ok_of_room (c := .word w) hroom]
  exact a.buffer.toList_append (.word w) hroom

theorem encode_of_emits {i : VectorInstr} {a : Assembler} {mayCompress : Bool}
    (h : a.Emits (.instr (.vector i) mayCompress) w) : i.encode = .ok w := by
  obtain ⟨_, hi, hw⟩ := h.exists_instr
  obtain rfl := Option.some.inj hi
  exact hw

/-- What is said of an instruction that sets the vector type, in whatever state it is called. -/
structure EncodesExactly (i : VectorInstr) : Prop where
  /-- It is refused for its operands or for lack of room, and else emits a word. -/
  fault_iff : ∀ (a : Assembler) (mayCompress : Bool),
    (a.call (.instr (.vector i) mayCompress)).2 ≠ none ↔ i.Refused ∨ a.buffer.remaining < 4
  emits : ∀ (a : Assembler) (mayCompress : Bool),
    (a.call (.instr (.vector i) mayCompress)).2 = none →
      ∃ w, a.Emits (.instr (.vector i) mayCompress) w
  /-- The layout gives back the form and every operand. -/
  decodes : ∀ (a : Assembler) (mayCompress : Bool) (w : BitVec 32),
    a.Emits (.instr (.vector i) mayCompress) w → settingOfWord? w = some i
  /-- No other vector instruction emits the word. -/
  unique : ∀ (a b : Assembler) (j : VectorInstr) (mayCompress mayCompress' : Bool)
    (w : BitVec 32), a.Emits (.instr (.vector i) mayCompress) w →
      b.Emits (.instr (.vector j) mayCompress') w → j = i

theorem encodesExactly {i : VectorInstr} (hi : i.isSetting) : i.EncodesExactly where
  fault_iff a mayCompress := by
    rw [ne_eq, i.call_fault_eq_none_iff, exists_encode_iff hi, not_and_or, not_not, Nat.not_le]
  emits _ _ := emits_of_call
  decodes a mayCompress w h := by
    rw [settingOfWord?_of_encode (encode_of_emits h), if_pos hi]
  unique a b j mayCompress mayCompress' w h h' := by
    have hw := settingOfWord?_of_encode (encode_of_emits h)
    rw [settingOfWord?_of_encode (encode_of_emits h'), if_pos hi] at hw
    split at hw
    · exact Option.some.inj hw
    · cases hw

/-- The longest length that fits, with all fields of the type but the illegal mark set. -/
theorem setivli_encodesExactly :
    (setivli .a0 31#32 ⟨.e64, .mf8, true, true, false⟩).isSetting ∧
      (setivli .a0 31#32 ⟨.e64, .mf8, true, true, false⟩).EncodesExactly :=
  ⟨rfl, encodesExactly rfl⟩

end VectorInstr

end RiscvAssembler
