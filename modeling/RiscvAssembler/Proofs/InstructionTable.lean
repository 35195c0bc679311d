import RiscvAssembler.Mnemonic.Catalog
import RiscvAssembler.Proofs.Layout

/-!
# The instruction table

The mnemonics that are not another spelling give a table of names and operations. Any two rows fix
some bit to different values, so that at most one row matches a word.
-/

namespace RiscvAssembler

/-! ## Calls with their operands -/

abbrev Operand :=
  (k : OperandKind) × k.Value

/-- Operands of the given kinds. -/
def Operands : List OperandKind → Type
  | [] => Unit
  | k :: ks => k.Value × Operands ks

def Operands.toList : {ks : List OperandKind} → Operands ks → List Operand
  | [], _ => []
  | k :: _, (x, xs) => ⟨k, x⟩ :: toList xs

def CallOf.apply : {ks : List OperandKind} → CallOf ks → Operands ks → Call
  | [], c, _ => c
  | _ :: _, f, xs => CallOf.apply (f xs.1) xs.2

/-- A sample operand of the kinds that leave the operation alone. -/
def OperandKind.sample? : (k : OperandKind) → Option k.Value
  | .reg => some (⟨0#5⟩ : Reg)
  | .freg => some (⟨0#5⟩ : FReg)
  | .vreg => some (⟨0#5⟩ : VReg)
  | .imm => some 0#32
  | .uimm => some 0#32
  | .target => some (Target.displacement 0#32)
  | .rounding => some RoundingMode.rne
  | .order => some (⟨false, false⟩ : MemoryOrder)
  | .mask => some VectorMask.masked
  | .vtype => some VType.illegalType
  | _ => none

def Operands.sample? : (ks : List OperandKind) → Option (Operands ks)
  | [] => some ()
  | k :: ks => do return (← k.sample?, ← Operands.sample? ks)

/-- The one instruction that the call asks for, once its target is a displacement. -/
def Call.instr? : Call → Option Instr
  | .instr i _ => some i
  | .transfer (.branch cond rs1 rs2 _) (.displacement d) =>
    some (.integer (.branch cond rs1 rs2 d))
  | .transfer (.jump rd _) (.displacement d) => some (.integer (.jal rd d))
  | .nop => some (.addi .zero .zero 0#32)
  | .li rd imm =>
    match Instr.loadConstant rd imm with
    | [i] => some i
    | _ => none
  | _ => none

def Call.mayCompress : Call → Bool
  | .instr _ mayCompress => mayCompress
  | .transfer (.branch _ _ _ mayCompress) _ => mayCompress
  | .transfer (.jump _ mayCompress) _ => mayCompress
  | _ => true

def IntegerInstr.operands : IntegerInstr → List Operand
  | .reg _ rd rs1 rs2 => [⟨.reg, rd⟩, ⟨.reg, rs1⟩, ⟨.reg, rs2⟩]
  | .imm _ rd rs1 value => [⟨.reg, rd⟩, ⟨.reg, rs1⟩, ⟨.imm, value⟩]
  | .shift _ rd rs1 shamt => [⟨.reg, rd⟩, ⟨.reg, rs1⟩, ⟨.uimm, shamt⟩]
  | .extend _ rd rs1 => [⟨.reg, rd⟩, ⟨.reg, rs1⟩]
  | .upper _ rd value => [⟨.reg, rd⟩, ⟨.imm, value⟩]
  | .load _ rd rs1 offset => [⟨.reg, rd⟩, ⟨.reg, rs1⟩, ⟨.imm, offset⟩]
  | .store _ rs2 rs1 offset => [⟨.reg, rs2⟩, ⟨.reg, rs1⟩, ⟨.imm, offset⟩]
  | .branch _ rs1 rs2 offset => [⟨.reg, rs1⟩, ⟨.reg, rs2⟩, ⟨.target, .displacement offset⟩]
  | .jal rd offset => [⟨.reg, rd⟩, ⟨.target, .displacement offset⟩]
  | .jalr rd rs1 offset => [⟨.reg, rd⟩, ⟨.reg, rs1⟩, ⟨.imm, offset⟩]
  | .ecall | .ebreak | .fenceI => []
  | .fence pred succ => [⟨.uimm, pred⟩, ⟨.uimm, succ⟩]
  | .csr _ rd address rs1 => [⟨.reg, rd⟩, ⟨.uimm, address⟩, ⟨.reg, rs1⟩]
  | .csrImm _ rd address uimm => [⟨.reg, rd⟩, ⟨.uimm, address⟩, ⟨.uimm, uimm⟩]
  | .loadReserved _ rd rs1 order => [⟨.reg, rd⟩, ⟨.reg, rs1⟩, ⟨.order, order⟩]
  | .amo _ _ rd rs1 rs2 order => [⟨.reg, rd⟩, ⟨.reg, rs1⟩, ⟨.reg, rs2⟩, ⟨.order, order⟩]

def FloatInstr.operands : FloatInstr → List Operand
  | .load _ rd rs1 offset => [⟨.freg, rd⟩, ⟨.reg, rs1⟩, ⟨.imm, offset⟩]
  | .store _ rs2 rs1 offset => [⟨.freg, rs2⟩, ⟨.reg, rs1⟩, ⟨.imm, offset⟩]
  | .arith _ _ rd rs1 rs2 rm => [⟨.freg, rd⟩, ⟨.freg, rs1⟩, ⟨.freg, rs2⟩, ⟨.rounding, rm⟩]
  | .select _ _ rd rs1 rs2 => [⟨.freg, rd⟩, ⟨.freg, rs1⟩, ⟨.freg, rs2⟩]
  | .compare _ _ rd rs1 rs2 => [⟨.reg, rd⟩, ⟨.freg, rs1⟩, ⟨.freg, rs2⟩]
  | .sqrt _ rd rs1 rm => [⟨.freg, rd⟩, ⟨.freg, rs1⟩, ⟨.rounding, rm⟩]
  | .convert _ rd rs1 rm => [⟨.freg, rd⟩, ⟨.freg, rs1⟩, ⟨.rounding, rm⟩]
  | .toInt _ _ rd rs1 rm => [⟨.reg, rd⟩, ⟨.freg, rs1⟩, ⟨.rounding, rm⟩]
  | .ofInt _ _ rd rs1 rm => [⟨.freg, rd⟩, ⟨.reg, rs1⟩, ⟨.rounding, rm⟩]
  | .moveToInt _ rd rs1 => [⟨.reg, rd⟩, ⟨.freg, rs1⟩]
  | .moveFromInt _ rd rs1 => [⟨.freg, rd⟩, ⟨.reg, rs1⟩]
  | .classify _ rd rs1 => [⟨.reg, rd⟩, ⟨.freg, rs1⟩]
  | .fused _ _ rd rs1 rs2 rs3 rm =>
    [⟨.freg, rd⟩, ⟨.freg, rs1⟩, ⟨.freg, rs2⟩, ⟨.freg, rs3⟩, ⟨.rounding, rm⟩]

/-- Multiply-accumulate operations, which name the first source before the second. -/
def VVOp.isMultiplyAdd : VVOp → Bool
  | macc | nmsac | madd | nmsub | fmacc | fnmacc | fmsac | fnmsac | fmadd | fnmadd | fmsub
  | fnmsub => true
  | _ => false

def VXOp.isMultiplyAdd : VXOp → Bool
  | macc | nmsac | madd | nmsub => true
  | _ => false

def VFOp.isMultiplyAdd : VFOp → Bool
  | fmacc | fnmacc | fmsac | fnmsac | fmadd | fnmadd | fmsub | fnmsub => true
  | _ => false

/-- Two sources in the written order. -/
def sources (swapped : Bool) (x y : Operand) : List Operand :=
  if swapped then [y, x] else [x, y]

def VectorInstr.operands : VectorInstr → List Operand
  | .setvli rd rs1 vtype => [⟨.reg, rd⟩, ⟨.reg, rs1⟩, ⟨.vtype, vtype⟩]
  | .setivli rd avl vtype => [⟨.reg, rd⟩, ⟨.uimm, avl⟩, ⟨.vtype, vtype⟩]
  | .setvl rd rs1 rs2 => [⟨.reg, rd⟩, ⟨.reg, rs1⟩, ⟨.reg, rs2⟩]
  | .vv op vd vs2 vs1 vm =>
    ⟨.vreg, vd⟩ :: sources op.isMultiplyAdd ⟨.vreg, vs2⟩ ⟨.vreg, vs1⟩ ++ [⟨.mask, vm⟩]
  | .vx op vd vs2 rs1 vm =>
    ⟨.vreg, vd⟩ :: sources op.isMultiplyAdd ⟨.vreg, vs2⟩ ⟨.reg, rs1⟩ ++ [⟨.mask, vm⟩]
  | .vf op vd vs2 rs1 vm =>
    ⟨.vreg, vd⟩ :: sources op.isMultiplyAdd ⟨.vreg, vs2⟩ ⟨.freg, rs1⟩ ++ [⟨.mask, vm⟩]
  | .vi _ vd vs2 imm vm => [⟨.vreg, vd⟩, ⟨.vreg, vs2⟩, ⟨.imm, imm⟩, ⟨.mask, vm⟩]
  | .vu _ vd vs2 uimm vm => [⟨.vreg, vd⟩, ⟨.vreg, vs2⟩, ⟨.uimm, uimm⟩, ⟨.mask, vm⟩]
  | .unary _ vd vs2 vm => [⟨.vreg, vd⟩, ⟨.vreg, vs2⟩, ⟨.mask, vm⟩]
  | .maskScan _ rd vs2 vm => [⟨.reg, rd⟩, ⟨.vreg, vs2⟩, ⟨.mask, vm⟩]
  | .elementIndex vd vm => [⟨.vreg, vd⟩, ⟨.mask, vm⟩]
  | .maskLogical _ vd vs2 vs1 => [⟨.vreg, vd⟩, ⟨.vreg, vs2⟩, ⟨.vreg, vs1⟩]
  | .moveV vd vs1 => [⟨.vreg, vd⟩, ⟨.vreg, vs1⟩]
  | .moveX vd rs1 => [⟨.vreg, vd⟩, ⟨.reg, rs1⟩]
  | .moveI vd imm => [⟨.vreg, vd⟩, ⟨.imm, imm⟩]
  | .moveF vd rs1 => [⟨.vreg, vd⟩, ⟨.freg, rs1⟩]
  | .firstToInt rd vs2 => [⟨.reg, rd⟩, ⟨.vreg, vs2⟩]
  | .firstOfInt vd rs1 => [⟨.vreg, vd⟩, ⟨.reg, rs1⟩]
  | .firstToFloat rd vs2 => [⟨.freg, rd⟩, ⟨.vreg, vs2⟩]
  | .firstOfFloat vd rs1 => [⟨.vreg, vd⟩, ⟨.freg, rs1⟩]
  | .mergeV vd vs2 vs1 => [⟨.vreg, vd⟩, ⟨.vreg, vs2⟩, ⟨.vreg, vs1⟩]
  | .mergeX vd vs2 rs1 => [⟨.vreg, vd⟩, ⟨.vreg, vs2⟩, ⟨.reg, rs1⟩]
  | .mergeI vd vs2 imm => [⟨.vreg, vd⟩, ⟨.vreg, vs2⟩, ⟨.imm, imm⟩]
  | .moveGroup _ vd vs2 => [⟨.vreg, vd⟩, ⟨.vreg, vs2⟩]
  | .unitStride _ _ _ vd rs1 vm => [⟨.vreg, vd⟩, ⟨.reg, rs1⟩, ⟨.mask, vm⟩]
  | .strided _ _ _ vd rs1 rs2 vm => [⟨.vreg, vd⟩, ⟨.reg, rs1⟩, ⟨.reg, rs2⟩, ⟨.mask, vm⟩]
  | .indexed _ _ _ _ vd rs1 vs2 vm => [⟨.vreg, vd⟩, ⟨.reg, rs1⟩, ⟨.vreg, vs2⟩, ⟨.mask, vm⟩]
  | .loadGroup _ _ vd rs1 => [⟨.vreg, vd⟩, ⟨.reg, rs1⟩]
  | .storeGroup count vs3 rs1 => [⟨.uimm, count⟩, ⟨.vreg, vs3⟩, ⟨.reg, rs1⟩]
  | .maskAccess _ vd rs1 => [⟨.vreg, vd⟩, ⟨.reg, rs1⟩]

def Instr.operands : Instr → List Operand
  | integer i => i.operands
  | float i => i.operands
  | vector i => i.operands

/-! ## Rows -/

/-- A name and the operation it stands for, with all operands zero. -/
structure Row where
  name : String
  instr : Instr
  deriving DecidableEq

/-- The row of a mnemonic that names all operands of one operation. -/
def Mnemonic.row? (mayCompress : Bool) (m : Mnemonic) : Option Row := do
  let call := m.build.apply (← Operands.sample? m.operands)
  let i ← call.instr?
  guard (call.mayCompress = mayCompress ∧ i.operands.map Sigma.fst = m.operands)
  return ⟨m.name, i.reread 0#32⟩

/-- The mnemonics of instructions. -/
def Mnemonic.canonical : List Mnemonic :=
  arithmetic ++ memory ++ atomic ++ control ++ system ++ floatMemory ++ floatArithmetic ++
    floatConversion ++ vector

def rowsOf (ms : List Mnemonic) : List Row :=
  ms.filterMap (·.row? true)

def rows : List Row :=
  rowsOf Mnemonic.canonical

theorem rowsOf_subset_rows {ms : List Mnemonic} (h : ms ⊆ Mnemonic.canonical) :
    rowsOf ms ⊆ rows := by
  intro r hr
  obtain ⟨m, hm, hrow⟩ := List.mem_filterMap.1 hr
  exact List.mem_filterMap.2 ⟨m, h hm, hrow⟩

/-! ## Patterns -/

/-- The bits that are fixed, and their values. -/
structure Pattern where
  mask : Nat
  value : Nat

namespace Pattern

def of : List Field → Pattern
  | [] => ⟨0, 0⟩
  | ⟨msb, lsb, value⟩ :: fields =>
    ⟨(1 <<< (msb - lsb + 1) - 1) <<< lsb ||| (of fields).mask,
      value.toNat <<< lsb ||| (of fields).value⟩

def Matches (p : Pattern) (w : BitVec 32) : Prop :=
  w.toNat &&& p.mask = p.value

instance (p : Pattern) (w : BitVec 32) : Decidable (p.Matches w) :=
  inferInstanceAs (Decidable (_ = _))

/-- Some bit is fixed by both patterns, to different values. -/
def apart (p q : Pattern) : Bool :=
  !Nat.beq (p.value &&& q.mask) (q.value &&& p.mask)

theorem not_matches_of_apart {p q : Pattern} (h : p.apart q) {w : BitVec 32} (hp : p.Matches w) :
    ¬ q.Matches w := by
  intro hq
  have hsame : p.value &&& q.mask = q.value &&& p.mask := by
    rw [← hp, ← hq, Nat.and_assoc, Nat.and_assoc, Nat.and_comm p.mask]
  rw [apart, hsame, Nat.beq_refl] at h
  cases h

theorem apart_comm {p q : Pattern} (h : p.apart q) : q.apart p := by
  rw [apart, Bool.not_eq_true', ← Bool.not_eq_true, Nat.beq_eq] at h ⊢
  exact Ne.symm h

theorem toNat_and_mask (w : BitVec 32) (msb lsb : Nat) :
    w.toNat &&& (1 <<< (msb - lsb + 1) - 1) <<< lsb = (slice w msb lsb).toNat <<< lsb := by
  apply Nat.eq_of_testBit_eq
  intro i
  simp only [Nat.testBit_and, Nat.testBit_shiftLeft, Nat.one_shiftLeft, Nat.testBit_two_pow_sub_one,
    BitVec.testBit_toNat, slice, BitVec.getLsbD_setWidth, BitVec.getLsbD_extractLsb']
  by_cases hlow : i ≥ lsb
  · rw [show lsb + (i - lsb) = i by omega]
    by_cases h32 : i < 32
    · simp [hlow, show i - lsb < 32 by omega, Bool.and_comm]
    · simp [BitVec.getLsbD_of_ge w i (by omega)]
  · simp [hlow]

/-- A word that holds the fields matches their pattern. -/
theorem matches_of {fields : List Field} {w : BitVec 32}
    (h : ∀ f ∈ fields, slice w f.msb f.lsb = f.value) : (of fields).Matches w := by
  induction fields with
  | nil => exact Nat.and_zero _
  | cons f fields ih =>
    rw [List.forall_mem_cons] at h
    have hrest : w.toNat &&& (of fields).mask = (of fields).value := ih h.2
    change w.toNat &&& (_ ||| (of fields).mask) = _ ||| (of fields).value
    rw [Nat.and_or_distrib_left, toNat_and_mask, h.1, hrest]

end Pattern

namespace Row

def pattern (r : Row) : Pattern :=
  .of r.instr.fixed

def opcode (r : Row) : Nat :=
  r.pattern.value % 128

/-! ## At most one row matches -/

/-- Every row fixes the major opcode, and any two with the same opcode fix some other bit to different
values. -/
theorem apart_of_mem_rows : (∀ r ∈ rows, Nat.beq (r.pattern.mask % 128) 127) ∧
    ∀ opcode ∈ (rows.map Row.opcode).eraseDups,
      (rows.filter (Nat.beq opcode ·.opcode)).Pairwise fun r s => r.pattern.apart s.pattern := by
  decide +kernel

variable {r s : Row} {w : BitVec 32}

theorem opcode_of_matches (hr : r ∈ rows) (h : r.pattern.Matches w) : r.opcode = w.toNat % 128 := by
  have hmask : r.pattern.mask % 128 = 127 := Nat.eq_of_beq_eq_true (apart_of_mem_rows.1 r hr)
  rw [opcode, ← h]
  have hlow : ∀ n : Nat, n % 128 = n &&& 127 := fun n => (Nat.and_two_pow_sub_one_eq_mod n 7).symm
  rw [hlow, hlow] at *
  rw [Nat.and_assoc, hmask]

theorem eq_of_matches (hr : r ∈ rows) (hs : s ∈ rows) (hrw : r.pattern.Matches w)
    (hsw : s.pattern.Matches w) : r = s := by
  have hopcode : r.opcode = s.opcode := by
    rw [opcode_of_matches hr hrw, opcode_of_matches hs hsw]
  have hmem : ∀ t ∈ rows, t.opcode = s.opcode → t ∈ rows.filter (Nat.beq s.opcode ·.opcode) := by
    intro t ht htopcode
    rw [List.mem_filter, htopcode]
    exact ⟨ht, Nat.beq_refl _⟩
  have hpairwise := apart_of_mem_rows.2 s.opcode
    (List.mem_eraseDups.2 (List.mem_map_of_mem hs))
  have : Std.Symm fun r s : Row => r.pattern.apart s.pattern = true :=
    ⟨fun _ _ => Pattern.apart_comm⟩
  by_contra hne
  have hapart := hpairwise.forall (hmem r hr hopcode) (hmem s hs rfl) hne
  exact Pattern.not_matches_of_apart hapart hrw hsw

/-- The row of a word. -/
def ofWord? (w : BitVec 32) : Option Row :=
  rows.find? (·.pattern.Matches w)

theorem ofWord?_eq_some (hr : r ∈ rows) (h : r.pattern.Matches w) : ofWord? w = some r := by
  rw [ofWord?]
  cases hfind : rows.find? (·.pattern.Matches w) with
  | none => exact absurd (decide_eq_true h) (List.find?_eq_none.1 hfind r hr)
  | some s =>
    have hs : s.pattern.Matches w := of_decide_eq_true (List.find?_some hfind :)
    rw [eq_of_matches (List.mem_of_find?_eq_some hfind) hr hs h]

end Row

theorem Instr.matches_fixed {i : Instr} {w : BitVec 32} (h : i.encode = .ok w) :
    (Pattern.of i.fixed).Matches w :=
  Pattern.matches_of fun f hf => (holds_layout h).1 f (i.fixed_subset_parts hf)

/-- From its word the row of an instruction is found, and with it the instruction. -/
theorem Row.ofWord?_of_encode {name : String} {i : Instr} {w : BitVec 32}
    (hrow : ⟨name, i.reread 0#32⟩ ∈ rows) (h : i.encode = .ok w) :
    ofWord? w = some ⟨name, i.reread 0#32⟩ := by
  apply ofWord?_eq_some hrow
  rw [pattern, Instr.fixed_reread]
  exact i.matches_fixed h

end RiscvAssembler
