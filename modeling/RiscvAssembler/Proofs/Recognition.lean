import RiscvAssembler.Proofs.Spelling

/-!
# Recognized mnemonics

Whatever mnemonic asks for an instruction, the word of the instruction tells how the call is spelled:
the row that matches the word is the one of the mnemonic or of what it stands for.
-/

namespace RiscvAssembler

theorem Operands.map_fst_toList {ks : List OperandKind} (xs : Operands ks) :
    xs.toList.map Sigma.fst = ks := by
  induction ks with
  | nil => rfl
  | cons k ks ih => exact congrArg (k :: ·) (ih xs.2)

section

variable {swapped : Bool} {vd vs2 vs1 : VReg} {vm : VectorMask}

theorem Instr.operands_vv {op : VVOp} (h : op.isMultiplyAdd = swapped) :
    (vector (.vv op vd vs2 vs1 vm)).operands =
      ⟨.vreg, vd⟩ :: sources swapped ⟨.vreg, vs2⟩ ⟨.vreg, vs1⟩ ++ [⟨.mask, vm⟩] := by
  rw [operands, VectorInstr.operands, h]

theorem Instr.operands_vx {op : VXOp} {rs1 : Reg} (h : op.isMultiplyAdd = swapped) :
    (vector (.vx op vd vs2 rs1 vm)).operands =
      ⟨.vreg, vd⟩ :: sources swapped ⟨.vreg, vs2⟩ ⟨.reg, rs1⟩ ++ [⟨.mask, vm⟩] := by
  rw [operands, VectorInstr.operands, h]

theorem Instr.operands_vf {op : VFOp} {rs1 : FReg} (h : op.isMultiplyAdd = swapped) :
    (vector (.vf op vd vs2 rs1 vm)).operands =
      ⟨.vreg, vd⟩ :: sources swapped ⟨.vreg, vs2⟩ ⟨.freg, rs1⟩ ++ [⟨.mask, vm⟩] := by
  rw [operands, VectorInstr.operands, h]

end

namespace Mnemonic

variable {m : Mnemonic}

def call (m : Mnemonic) (xs : Operands m.operands) : Call :=
  m.build.apply xs

def written (m : Mnemonic) (xs : Operands m.operands) : Written :=
  ⟨m.name, xs.toList⟩

/-- The word of the instruction that a call asks for tells how the call is spelled. -/
def Recognized (m : Mnemonic) : Prop :=
  ∀ xs i w, (m.call xs).instr? = some i → i.encode = .ok w →
    ∃ g, Written.ofWord? w = some g ∧ (m.written xs).Spells g

/-- Calls that ask for the same operation with the operands as they are written. -/
structure Plain (m : Mnemonic) (sample : Operands m.operands) (shape : Instr) : Prop where
  sampled : Operands.sample? m.operands = some sample
  instr : (m.call sample).instr? = some shape
  reread {xs i} : (m.call xs).instr? = some i → i.reread 0#32 = shape.reread 0#32
  operands {xs i} : (m.call xs).instr? = some i → i.operands = xs.toList
  written {xs i} : (m.call xs).instr? = some i → ∀ name, i.written name = ⟨name, i.operands⟩

/-- The rows of mnemonics that never compress. -/
def variants : List Row :=
  canonical.filterMap (·.row? false)

theorem exists_row_of_mem_variants :
    ∀ v ∈ variants, ∃ r ∈ rows, v.name = r.name ++ "_nc" ∧ v.instr = r.instr := by
  decide +kernel

theorem Plain.row? {sample : Operands m.operands} {shape : Instr} (h : m.Plain sample shape) :
    m.row? (m.call sample).mayCompress = some ⟨m.name, shape.reread 0#32⟩ := by
  have hkinds : shape.operands.map Sigma.fst = m.operands := by
    rw [h.operands h.instr, Operands.map_fst_toList]
  have hinstr : (m.build.apply sample).instr? = some shape := h.instr
  rw [Mnemonic.row?, h.sampled]
  simp [hinstr, hkinds, call]

theorem Plain.recognized {sample : Operands m.operands} {shape : Instr} (h : m.Plain sample shape)
    (hm : m ∈ canonical) : m.Recognized := by
  intro xs i w hi hw
  have hrow := h.row?
  have hwritten : ∀ name, i.written name = ⟨name, xs.toList⟩ := by
    intro name
    rw [h.written hi, h.operands hi]
  rw [← h.reread hi] at hrow
  cases hcompress : (m.call sample).mayCompress with
  | true =>
    rw [hcompress] at hrow
    have hmem : ⟨m.name, i.reread 0#32⟩ ∈ rows := List.mem_filterMap.2 ⟨m, hm, hrow⟩
    exact ⟨_, Written.ofWord?_of_encode hmem hw, .inl (hwritten _).symm⟩
  | false =>
    rw [hcompress] at hrow
    have hmem : ⟨m.name, i.reread 0#32⟩ ∈ variants := List.mem_filterMap.2 ⟨m, hm, hrow⟩
    obtain ⟨⟨name, instr⟩, hr, hname, hinstr⟩ := exists_row_of_mem_variants _ hmem
    obtain rfl : i.reread 0#32 = instr := hinstr
    have hspells : (m.written xs).IsAlias ⟨name, xs.toList⟩ := by
      rw [Mnemonic.written, show m.name = name ++ "_nc" from hname]
      exact .neverCompressed _ _
    refine ⟨_, Written.ofWord?_of_encode hr hw, .inr ?_⟩
    rw [hwritten]
    exact hspells

/-! ### Families -/

theorem forall_mem_family {α : Type} {P : Mnemonic → Prop} {operands : List OperandKind}
    {build : α → CallOf operands} {entries : List (String × α)}
    (h : ∀ e ∈ entries, P ⟨e.1, operands, build e.2⟩) :
    ∀ m ∈ family operands build entries, P m :=
  List.forall_mem_map.2 h

theorem forall_mem_group_nil {P : Mnemonic → Prop} {operands : List OperandKind} :
    (∀ m ∈ group operands [], P m) ↔ True :=
  iff_true_intro (List.forall_mem_nil _)

theorem forall_mem_group_cons {P : Mnemonic → Prop} {operands : List OperandKind}
    {e : String × CallOf operands} {entries : List (String × CallOf operands)} :
    (∀ m ∈ group operands (e :: entries), P m) ↔
      P ⟨e.1, operands, e.2⟩ ∧ ∀ m ∈ group operands entries, P m :=
  List.forall_mem_cons

def IsPlain (m : Mnemonic) : Prop :=
  ∃ sample shape, m.Plain sample shape

theorem isPlain_of_instr {sample : Operands m.operands} {f : Operands m.operands → Instr} {b : Bool}
    (hcall : ∀ xs, m.call xs = .instr (f xs) b)
    (hsample : Operands.sample? m.operands = some sample)
    (h : ∀ xs, (f xs).reread 0#32 = (f sample).reread 0#32 ∧ (f xs).operands = xs.toList ∧
      ∀ name, (f xs).written name = ⟨name, (f xs).operands⟩) : m.IsPlain := by
  have hinstr : ∀ {xs i}, (m.call xs).instr? = some i → f xs = i := by
    intro xs i hi
    rw [hcall] at hi
    exact Option.some.inj hi
  refine ⟨sample, f sample, hsample, ?_, ?_, ?_, ?_⟩
  · rw [hcall]
    rfl
  all_goals
    intro xs i hi
    obtain rfl := hinstr hi
    obtain ⟨hreread, hoperands, hwritten⟩ := h xs
    assumption

theorem isPlain_of_mem_scalar : ∀ m ∈ arithmetic ++ memory ++ atomic ++ system ++ floatMemory ++
    floatArithmetic ++ floatConversion, m.IsPlain := by
  simp only [arithmetic, memory, atomic, system, floatMemory, floatArithmetic, floatConversion,
    List.forall_mem_append, forall_mem_group_cons, forall_mem_group_nil, and_true]
  and_intros <;> try refine forall_mem_family fun _ _ => ?_
  all_goals exact isPlain_of_instr (fun _ => rfl) rfl fun _ => ⟨rfl, rfl, fun _ => rfl⟩

theorem isPlain_of_mem_vectorOther : ∀ m ∈ vectorSetting ++ vectorUnary ++ vectorMove, m.IsPlain := by
  simp only [vectorSetting, vectorUnary, vectorMove, List.forall_mem_append, forall_mem_group_cons,
    forall_mem_group_nil, and_true]
  and_intros <;> try refine forall_mem_family fun _ _ => ?_
  all_goals exact isPlain_of_instr (fun _ => rfl) rfl fun _ => ⟨rfl, rfl, fun _ => rfl⟩

theorem isPlain_of_mem_vectorArithmetic :
    ∀ m ∈ vectorVector ++ vectorScalar ++ vectorImmediate, m.IsPlain := by
  simp only [vectorVector, vectorScalar, vectorImmediate, List.forall_mem_append]
  and_intros <;>
    refine forall_mem_family fun e he =>
      isPlain_of_instr (fun _ => rfl) rfl fun _ => ⟨rfl, ?_, fun _ => rfl⟩
  -- The families differ in the order in which they name the sources.
  · exact Instr.operands_vv ((show ∀ e ∈ _, e.2.isMultiplyAdd = false by decide) e he)
  · exact Instr.operands_vv ((show ∀ e ∈ _, e.2.isMultiplyAdd = true by decide) e he)
  · exact Instr.operands_vx ((show ∀ e ∈ _, e.2.isMultiplyAdd = false by decide) e he)
  · exact Instr.operands_vx ((show ∀ e ∈ _, e.2.isMultiplyAdd = true by decide) e he)
  · exact Instr.operands_vf ((show ∀ e ∈ _, e.2.isMultiplyAdd = false by decide) e he)
  · exact Instr.operands_vf ((show ∀ e ∈ _, e.2.isMultiplyAdd = true by decide) e he)
  · rfl
  · rfl

/-! ### Other spellings -/

theorem recognized_of_mem_rows
    (h : ∀ xs i, (m.call xs).instr? = some i →
      ∃ name, ⟨name, i.reread 0#32⟩ ∈ rows ∧ (m.written xs).Spells (i.written name)) :
    m.Recognized := by
  intro xs i w hi hw
  obtain ⟨name, hrow, hspells⟩ := h xs i hi
  exact ⟨_, Written.ofWord?_of_encode hrow hw, hspells⟩

theorem recognized_of_instr?_eq_none (h : ∀ xs, (m.call xs).instr? = none) : m.Recognized := by
  intro xs i w hi
  rw [h] at hi
  cases hi

theorem mem_rows_branch (cond : Condition) (rs1 rs2 : Reg) (d : BitVec 32) :
    ⟨cond.branchName, (Instr.integer (.branch cond rs1 rs2 d)).reread 0#32⟩ ∈ rows := by
  have hmem : ∀ cond ∈ [Condition.eq, .ne, .lt, .ge, .ltu, .geu],
      ⟨cond.branchName, .integer (.branch cond .zero .zero 0#32)⟩ ∈ rows := by
    decide +kernel
  apply hmem
  cases cond <;> decide

/-- A constant that is loaded by one instruction is the operand of that instruction. -/
theorem loadConstant_of_instr? {rd : Reg} {imm : BitVec 32} {i : Instr}
    (h : (Call.li rd imm).instr? = some i) :
    (i = .addi rd .zero imm ∨ i = .lui rd imm) ∧ Instr.loadConstant rd imm = [i] := by
  rw [Call.instr?] at h
  unfold Instr.loadConstant at h ⊢
  split_ifs at h ⊢ with hupper hlower
  · cases h
    have hlower : Instr.lowerPart imm = imm := by
      rw [Instr.upperPart] at hupper
      bv_omega
    exact ⟨.inl (by rw [hlower]), rfl⟩
  · cases h
    have hupper : Instr.upperPart imm = imm := by rw [Instr.upperPart, hlower, BitVec.sub_zero]
    exact ⟨.inr (by rw [hupper]), rfl⟩

/-- The rows of the instructions that a pseudo-instruction is another spelling of. -/
theorem mem_rows_pseudo :
    ⟨"addi", .addi .zero .zero 0#32⟩ ∈ rows ∧ ⟨"addiw", .addiw .zero .zero 0#32⟩ ∈ rows ∧
      ⟨"xori", .integer (.imm .xori .zero .zero 0#32)⟩ ∈ rows ∧
      ⟨"sub", .integer (.reg .sub .zero .zero .zero)⟩ ∈ rows ∧
      ⟨"subw", .integer (.reg .subw .zero .zero .zero)⟩ ∈ rows ∧
      ⟨"add_uw", .integer (.reg .addUw .zero .zero .zero)⟩ ∈ rows ∧
      ⟨"lui", .lui .zero 0#32⟩ ∈ rows ∧ ⟨"jal", .integer (.jal .zero 0#32)⟩ ∈ rows ∧
      ⟨"jalr", .integer (.jalr .zero .zero 0#32)⟩ ∈ rows ∧
      ⟨"csrrs", .integer (.csr .set .zero 0#32 .zero)⟩ ∈ rows ∧
      ⟨"csrrw", .integer (.csr .write .zero 0#32 .zero)⟩ ∈ rows ∧
      ⟨"csrrwi", .integer (.csrImm .write .zero 0#32 0#32)⟩ ∈ rows := by
  decide +kernel

theorem recognized_of_mem_pseudo : ∀ m ∈ pseudo, m.Recognized := by
  obtain ⟨haddi, haddiw, hxori, hsub, hsubw, hadd_uw, hlui, hjal, hjalr, hcsrrs, hcsrrw, hcsrrwi⟩ :=
    mem_rows_pseudo
  simp only [pseudo, List.forall_mem_append, forall_mem_group_cons, forall_mem_group_nil, and_true]
  and_intros <;> apply recognized_of_mem_rows
  · rintro ⟨⟩ i ⟨⟩
    exact ⟨_, haddi, .inr .nop⟩
  · rintro ⟨⟩ i ⟨⟩
    exact ⟨_, hjalr, .inr .ret⟩
  · rintro ⟨rd, rs, ⟨⟩⟩ i ⟨⟩
    exact ⟨_, haddi, .inr (.mv rd rs)⟩
  · rintro ⟨rd, rs, ⟨⟩⟩ i ⟨⟩
    exact ⟨_, hxori, .inr (.not rd rs)⟩
  · rintro ⟨rd, rs, ⟨⟩⟩ i ⟨⟩
    exact ⟨_, hsub, .inr (.neg rd rs)⟩
  · rintro ⟨rd, rs, ⟨⟩⟩ i ⟨⟩
    exact ⟨_, hsubw, .inr (.negw rd rs)⟩
  · rintro ⟨rd, rs, ⟨⟩⟩ i ⟨⟩
    exact ⟨_, haddiw, .inr (.sextW rd rs)⟩
  · rintro ⟨rd, rs, ⟨⟩⟩ i ⟨⟩
    exact ⟨_, hadd_uw, .inr (.zextW rd rs)⟩
  · rintro ⟨rd, imm, ⟨⟩⟩ i hi
    obtain ⟨rfl | rfl, hload⟩ := loadConstant_of_instr? hi
    · exact ⟨_, haddi, .inr (.li_addi rd imm hload)⟩
    · exact ⟨_, hlui, .inr (.li_lui rd imm hload)⟩
  · rintro ⟨rs, ⟨⟩⟩ i ⟨⟩
    exact ⟨_, hjalr, .inr (.jr rs)⟩
  · rintro ⟨d | id, ⟨⟩⟩ i ⟨⟩
    exact ⟨_, hjal, .inr (.j _)⟩
  · rintro ⟨rs, d | id, ⟨⟩⟩ i ⟨⟩
    exact ⟨_, mem_rows_branch .eq .., .inr (.beqz rs _)⟩
  · rintro ⟨rs, d | id, ⟨⟩⟩ i ⟨⟩
    exact ⟨_, mem_rows_branch .ne .., .inr (.bnez rs _)⟩
  · rintro ⟨rs, d | id, ⟨⟩⟩ i ⟨⟩
    exact ⟨_, mem_rows_branch .ge .., .inr (.blez rs _)⟩
  · rintro ⟨rs, d | id, ⟨⟩⟩ i ⟨⟩
    exact ⟨_, mem_rows_branch .ge .., .inr (.bgez rs _)⟩
  · rintro ⟨rs, d | id, ⟨⟩⟩ i ⟨⟩
    exact ⟨_, mem_rows_branch .lt .., .inr (.bltz rs _)⟩
  · rintro ⟨rs, d | id, ⟨⟩⟩ i ⟨⟩
    exact ⟨_, mem_rows_branch .lt .., .inr (.bgtz rs _)⟩
  · rintro ⟨rs, rt, d | id, ⟨⟩⟩ i ⟨⟩
    exact ⟨_, mem_rows_branch .lt .., .inr (.bgt rs rt _)⟩
  · rintro ⟨rs, rt, d | id, ⟨⟩⟩ i ⟨⟩
    exact ⟨_, mem_rows_branch .ge .., .inr (.ble rs rt _)⟩
  · rintro ⟨rs, rt, d | id, ⟨⟩⟩ i ⟨⟩
    exact ⟨_, mem_rows_branch .ltu .., .inr (.bgtu rs rt _)⟩
  · rintro ⟨rs, rt, d | id, ⟨⟩⟩ i ⟨⟩
    exact ⟨_, mem_rows_branch .geu .., .inr (.bleu rs rt _)⟩
  · rintro ⟨rd, address, ⟨⟩⟩ i ⟨⟩
    exact ⟨_, hcsrrs, .inr (.csrr rd address)⟩
  · rintro ⟨address, rs, ⟨⟩⟩ i ⟨⟩
    exact ⟨_, hcsrrw, .inr (.csrw address rs)⟩
  · rintro ⟨address, uimm, ⟨⟩⟩ i ⟨⟩
    exact ⟨_, hcsrrwi, .inr (.csrwi address uimm)⟩

theorem recognized_of_mem_floatPseudo : ∀ m ∈ floatPseudo, m.Recognized := by
  have hrows : ∀ e ∈ [("fsgnj_s", FloatSelectOp.sgnj, FloatFormat.single),
      ("fsgnj_d", .sgnj, .double), ("fsgnjn_s", .sgnjn, .single), ("fsgnjn_d", .sgnjn, .double),
      ("fsgnjx_s", .sgnjx, .single), ("fsgnjx_d", .sgnjx, .double)],
      ⟨e.1, .float (.select e.2.1 e.2.2 ⟨0#5⟩ ⟨0#5⟩ ⟨0#5⟩)⟩ ∈ rows := by
    decide +kernel
  simp only [List.forall_mem_cons] at hrows
  obtain ⟨hsgnj_s, hsgnj_d, hsgnjn_s, hsgnjn_d, hsgnjx_s, hsgnjx_d, -⟩ := hrows
  simp only [floatPseudo, forall_mem_group_cons, forall_mem_group_nil, and_true]
  and_intros <;> apply recognized_of_mem_rows <;> rintro ⟨rd, rs, ⟨⟩⟩ i ⟨⟩
  · exact ⟨_, hsgnj_s, .inr (.signInjection (by decide) rd rs)⟩
  · exact ⟨_, hsgnj_d, .inr (.signInjection (by decide) rd rs)⟩
  · exact ⟨_, hsgnjn_s, .inr (.signInjection (by decide) rd rs)⟩
  · exact ⟨_, hsgnjn_d, .inr (.signInjection (by decide) rd rs)⟩
  · exact ⟨_, hsgnjx_s, .inr (.signInjection (by decide) rd rs)⟩
  · exact ⟨_, hsgnjx_d, .inr (.signInjection (by decide) rd rs)⟩

theorem vectorMemory_subset_canonical : vectorMemory ⊆ canonical := by
  intro m hm
  simp only [canonical, vector, List.mem_append, hm, true_or, or_true]

theorem mem_rows_of_segment? {i : Instr} {access : AccessName} {fields : FieldCount} {eew : Sew}
    (h : i.segment? = some (access, fields, eew)) : ⟨access.plain eew, i.reread 0#32⟩ ∈ rows := by
  have hsection : rowsOf vectorMemory ⊆ rows := rowsOf_subset_rows vectorMemory_subset_canonical
  have hrows : (∀ op ∈ [UnitOp.load, .loadFaultFirst, .store], ∀ eew ∈ [Sew.e8, .e16, .e32, .e64],
        ⟨op.accessName.plain eew,
          .vector (.unitStride op .one eew ⟨0#5⟩ ⟨0#5⟩ .masked)⟩ ∈ rowsOf vectorMemory) ∧
      ∀ dir ∈ [Direction.load, .store], ∀ eew ∈ [Sew.e8, .e16, .e32, .e64],
        ⟨dir.stridedName.plain eew,
          .vector (.strided dir .one eew ⟨0#5⟩ ⟨0#5⟩ ⟨0#5⟩ .masked)⟩ ∈ rowsOf vectorMemory ∧
        ∀ ordered, ⟨(dir.indexedName ordered).plain eew,
          .vector (.indexed dir ordered .one eew ⟨0#5⟩ ⟨0#5⟩ ⟨0#5⟩ .masked)⟩ ∈
            rowsOf vectorMemory := by
    decide +kernel
  obtain ⟨hunit, hother⟩ := hrows
  have heew : ∀ eew : Sew, eew ∈ [Sew.e8, .e16, .e32, .e64] := by
    intro eew
    cases eew <;> decide
  have hdir : ∀ dir : Direction, dir ∈ [Direction.load, .store] := by
    intro dir
    cases dir <;> decide
  unfold Instr.segment? at h
  split at h <;> cases h
  · exact hsection (hunit _ (by cases ‹UnitOp› <;> decide) _ (heew _))
  · exact hsection (hother _ (hdir _) _ (heew _)).1
  · exact hsection ((hother _ (hdir _) _ (heew _)).2 _)

theorem spells_segment {i : Instr} {access : AccessName} {fields : FieldCount} {eew : Sew}
    (h : i.segment? = some (access, fields, eew)) :
    (⟨access.segment, ⟨.fieldCount, fields⟩ :: ⟨.sew, eew⟩ :: i.operands⟩ : Written).Spells
      (i.written (access.plain eew)) := by
  rw [Instr.written, h]
  by_cases hone : fields = .one
  · subst hone
    exact .inr (.segment h)
  · exact .inl (if_neg hone).symm

theorem recognized_of_segment
    (h : ∀ xs i, (m.call xs).instr? = some i → ∃ access fields eew,
      i.segment? = some (access, fields, eew) ∧
        m.written xs = ⟨access.segment, ⟨.fieldCount, fields⟩ :: ⟨.sew, eew⟩ :: i.operands⟩) :
    m.Recognized := by
  apply recognized_of_mem_rows
  intro xs i hi
  obtain ⟨access, fields, eew, hsegment, hwritten⟩ := h xs i hi
  rw [hwritten]
  exact ⟨_, mem_rows_of_segment? hsegment, spells_segment hsegment⟩

theorem recognized_of_mem_vectorSegment : ∀ m ∈ vectorSegment, m.Recognized := by
  simp only [vectorSegment, List.forall_mem_append]
  and_intros <;> refine forall_mem_family fun e he => recognized_of_segment ?_
  · rintro ⟨fields, eew, vd, rs1, vm, ⟨⟩⟩ i ⟨⟩
    have hname := (show ∀ e ∈ _, e.1 = e.2.accessName.segment by decide) e he
    exact ⟨_, _, _, rfl, congrArg (Written.mk · _) hname⟩
  · rintro ⟨fields, eew, vd, rs1, rs2, vm, ⟨⟩⟩ i ⟨⟩
    have hname := (show ∀ e ∈ _, e.1 = e.2.stridedName.segment by decide) e he
    exact ⟨_, _, _, rfl, congrArg (Written.mk · _) hname⟩
  · rintro ⟨fields, eew, vd, rs1, vs2, vm, ⟨⟩⟩ i ⟨⟩
    have hname := (show ∀ e ∈ _, e.1 = (e.2.1.indexedName e.2.2).segment by decide) e he
    exact ⟨_, _, _, rfl, congrArg (Written.mk · _) hname⟩

theorem isPlain_or_recognized_of_mem_control : ∀ m ∈ control, m.IsPlain ∨ m.Recognized := by
  simp only [control, List.forall_mem_append, forall_mem_group_cons, forall_mem_group_nil,
    and_true]
  and_intros
  · refine .inr (recognized_of_mem_rows ?_)
    rintro ⟨cond, rs1, rs2, d | id, mayCompress, ⟨⟩⟩ i ⟨⟩
    exact ⟨_, mem_rows_branch cond .., .inr (.branch cond rs1 rs2 _ mayCompress)⟩
  · refine forall_mem_family fun e _ => .inl ⟨(⟨0#5⟩, ⟨0#5⟩, .displacement 0#32, ()),
      .integer (.branch e.2.1 ⟨0#5⟩ ⟨0#5⟩ 0#32), rfl, rfl, ?_, ?_, ?_⟩
    all_goals
      rintro ⟨rs1, rs2, d | id, ⟨⟩⟩ i ⟨⟩
    · rfl
    · rfl
    · exact fun _ => rfl
  · refine forall_mem_family fun e _ => .inl ⟨(⟨0#5⟩, .displacement 0#32, ()),
      .integer (.jal ⟨0#5⟩ 0#32), rfl, rfl, ?_, ?_, ?_⟩
    all_goals
      rintro ⟨rd, d | id, ⟨⟩⟩ i ⟨⟩
    · rfl
    · rfl
    · exact fun _ => rfl
  · exact forall_mem_family fun _ _ =>
      .inl (isPlain_of_instr (fun _ => rfl) rfl fun _ => ⟨rfl, rfl, fun _ => rfl⟩)

theorem isPlain_or_recognized_of_mem_vectorMemory :
    ∀ m ∈ vectorMemory, m.IsPlain ∨ m.Recognized := by
  have hstore : ⟨"vsr_v", .vector (.storeGroup 1#32 ⟨0#5⟩ ⟨0#5⟩)⟩ ∈ rows :=
    rowsOf_subset_rows vectorMemory_subset_canonical
      (show _ ∈ rowsOf vectorMemory by decide +kernel)
  simp only [vectorMemory, List.forall_mem_append, forall_mem_group_cons, forall_mem_group_nil,
    and_true]
  and_intros
  case refine_1.refine_2 =>
    refine forall_mem_family fun e he => .inr (recognized_of_mem_rows ?_)
    rintro ⟨vs3, rs1, ⟨⟩⟩ i ⟨⟩
    exact ⟨_, hstore, .inr (.storeGroup he _)⟩
  all_goals try refine forall_mem_family fun _ _ => ?_
  all_goals exact .inl (isPlain_of_instr (fun _ => rfl) rfl fun _ => ⟨rfl, rfl, fun _ => rfl⟩)

theorem isPlain_or_recognized : ∀ m ∈ canonical, m.IsPlain ∨ m.Recognized := by
  intro m hm
  have hscalar := isPlain_of_mem_scalar m
  have hcontrol := isPlain_or_recognized_of_mem_control m
  have hvectorOther := isPlain_of_mem_vectorOther m
  have hvectorArithmetic := isPlain_of_mem_vectorArithmetic m
  have hvectorMemory := isPlain_or_recognized_of_mem_vectorMemory m
  have hvectorSegment := recognized_of_mem_vectorSegment m
  simp only [canonical, vector, List.mem_append] at hm hscalar hvectorOther hvectorArithmetic
  grind only

/-! ### All mnemonics -/

theorem instr?_eq_none_of_mem_rawCode : ∀ m ∈ rawCode, ∀ xs, (m.call xs).instr? = none := by
  simp only [rawCode, List.forall_mem_append, forall_mem_group_cons, forall_mem_group_nil, and_true]
  exact ⟨fun _ => rfl, fun _ => rfl⟩

theorem instr?_eq_none_of_mem_compact : ∀ m ∈ compact, ∀ xs, (m.call xs).instr? = none := by
  simp only [compact, compactArithmetic, compactMemory, compactControl, List.forall_mem_append,
    forall_mem_group_cons, forall_mem_group_nil, and_true]
  and_intros <;> try refine forall_mem_family fun _ _ => ?_
  all_goals exact fun _ => rfl

theorem recognized_of_mem_catalog : ∀ m ∈ catalog, m.Recognized := by
  intro m hm
  by_cases hcanonical : m ∈ canonical
  · rcases isPlain_or_recognized m hcanonical with ⟨sample, shape, h⟩ | h
    · exact h.recognized hcanonical
    · exact h
  · have hother : m ∈ pseudo ∨ m ∈ floatPseudo ∨ m ∈ rawCode ∨ m ∈ compact := by
      simp only [catalog, integer, float, List.mem_append] at hm
      simp only [canonical, List.mem_append] at hcanonical
      grind only
    rcases hother with h | h | h | h
    · exact recognized_of_mem_pseudo m h
    · exact recognized_of_mem_floatPseudo m h
    · exact recognized_of_instr?_eq_none (instr?_eq_none_of_mem_rawCode m h)
    · exact recognized_of_instr?_eq_none (instr?_eq_none_of_mem_compact m h)

end Mnemonic

end RiscvAssembler
