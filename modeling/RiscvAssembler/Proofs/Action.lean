import RiscvAssembler.Proofs.CompressedCall
import RiscvAssembler.Proofs.Recognition
import RiscvAssembler.Proofs.Replacement

/-!
# What a code does

A halfword is decoded by its expansion and a word by the instruction table. The action of an
instruction is its effect, and for the exclusive or with an immediate and the sum with an unsigned
word what those do besides. The code of an instruction acts as the instruction, compressed or not.
-/

namespace RiscvAssembler

open Machine

/-- What a comparison says of two values. -/
def Condition.Means (x y : BitVec 64) : Condition → Prop
  | eq => x = y
  | ne => x ≠ y
  | lt => x.toInt < y.toInt
  | ge => y.toInt ≤ x.toInt
  | ltu => x.toNat < y.toNat
  | geu => y.toNat ≤ x.toNat

theorem Condition.holds_iff (cond : Condition) (x y : BitVec 64) :
    cond.holds x y ↔ cond.Means x y := by
  cases cond with
  | eq => exact decide_eq_true_iff
  | ne => exact decide_eq_true_iff
  | lt => exact BitVec.slt_iff_toInt_lt
  | ge =>
    rw [holds, Means, Bool.not_eq_true', ← Bool.not_eq_true, BitVec.slt_iff_toInt_lt, not_lt]
  | ltu => exact BitVec.ult_iff_lt
  | geu =>
    rw [holds, Means, Bool.not_eq_true', ← Bool.not_eq_true, BitVec.ult_iff_lt, BitVec.lt_def,
      not_lt]

/-! ## Instructions -/

namespace Instr

/-- The instruction of a word, found in the instruction table. -/
def ofWord? (w : BitVec 32) : Option Instr :=
  (Row.ofWord? w).map fun r => r.instr.reread w

/-- The instruction table has a row for the instruction. -/
def HasRow (i : Instr) : Prop :=
  ∃ name, ⟨name, i.reread 0#32⟩ ∈ rows

theorem ofWord?_of_encode {i : Instr} {w : BitVec 32} (hrow : i.HasRow) (h : i.encode = .ok w) :
    ofWord? w = some i := by
  obtain ⟨name, hmem⟩ := hrow
  rw [ofWord?, Row.ofWord?_of_encode hmem h, Option.map_some, reread_reread, reread_of_encode h]

/-- What the instruction does, given the address of the instruction that follows. -/
def action? : Instr → Option Effect
  | .integer (.imm .xori rd rs1 value) => some fun next m =>
    .running ((m.write rd (m.read rs1 ^^^ value.signExtend 64)).goto next)
  | .integer (.reg .addUw rd rs1 rs2) => some fun next m =>
    .running ((m.write rd (((m.read rs1).setWidth 32).setWidth 64 + m.read rs2)).goto next)
  | i => i.effect?

theorem SameOperation.action?_eq {i j : Instr} (h : SameOperation Eq i j) :
    i.action? = j.action? := by
  cases h with
  | same hd => rfl
  | @swap op hop rd rs1 rs2 =>
    have heffect := SameOperation.effect?_eq (.swap (r := Eq) hop rd rs1 rs2)
    cases op with
    | addUw => cases hop
    | _ => exact heffect
  | move rd rs => exact SameOperation.effect?_eq (.move (r := Eq) rd rs)
  | branch cond rs1 rs2 hd => rw [hd]
  | jal rd hd => rw [hd]

end Instr

/-! ## Codes -/

namespace Code

def decode? : Code → Option Instr
  | .half h => Instr.ofHalf? h
  | .word w => Instr.ofWord? w

def action? (c : Code) : Option Effect :=
  c.decode?.bind Instr.action?

theorem action?_of_reads {c : Code} {i : Instr} (hrow : i.HasRow) (h : c.Reads i) :
    c.action? = i.action? := by
  cases c with
  | half w =>
    have hdecode : Instr.ofHalf? w = some i := h
    rw [action?, decode?, hdecode]
    rfl
  | word w =>
    rw [action?, decode?, Instr.ofWord?_of_encode hrow h]
    rfl

end Code

/-- Compressed or not, the code of an instruction acts as the instruction. -/
theorem Instr.action?_of_code_eq_ok {i : Instr} (hrow : i.HasRow) {compress : Bool} {c : Code}
    (hc : i.code compress = .ok c) : c.action? = i.action? := by
  rcases word_or_half_of_code_eq_ok hc with ⟨w, hw, rfl⟩ | ⟨form, h, hform, hh, rfl⟩
  · exact Code.action?_of_reads hrow hw
  · rw [Code.action?, Code.decode?, ofHalf?_of_encode_eq_ok hh]
    exact (standsFor_of_compact?_eq_some hform).sameOperation.action?_eq

end RiscvAssembler
