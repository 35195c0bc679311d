import RiscvAssembler.Proofs.Machine
import RiscvAssembler.Proofs.Run
import RiscvAssembler.Proofs.Selection

/-!
# Calls that may be compressed

A call that may be compressed and the same call without compression fault together. When they do
not, the two codes have the same effect on every machine.
-/

namespace RiscvAssembler

/-- The call that asks for an instruction. A branch or jump goes to a fixed displacement. -/
def Instr.request (i : Instr) (mayCompress : Bool) : Call :=
  match i with
  | .integer (.branch cond rs1 rs2 d) =>
    .transfer (.branch cond rs1 rs2 mayCompress) (.displacement d)
  | .integer (.jal rd d) => .transfer (.jump rd mayCompress) (.displacement d)
  | i => .instr i mayCompress

namespace Assembler

theorem call_request (a : Assembler) (i : Instr) (mayCompress : Bool) :
    a.call (i.request mayCompress) = a.issue (i.code (a.active && mayCompress)) := by
  cases i with
  | integer i => cases i <;> rfl
  | float i => rfl
  | vector i => rfl

theorem issue_fault_eq_none_iff {a : Assembler} (hroom : 4 ≤ a.buffer.remaining)
    (x : Except Fault Code) : (a.issue x).2 = none ↔ ∃ c, x = .ok c := by
  cases x with
  | ok c =>
    rw [issue_ok_of_room (c.size_le_four.trans hroom)]
    exact iff_of_true rfl ⟨c, rfl⟩
  | error f => exact iff_of_false nofun nofun

end Assembler

/-- Compressed or not, the code of an instruction has the effect of the instruction. -/
theorem Instr.effect?_of_code_eq_ok {i : Instr} (hi : i.isDecodable) {compress : Bool} {c : Code}
    (hc : i.code compress = .ok c) : c.effect? = i.effect? := by
  rcases word_or_half_of_code_eq_ok hc with ⟨w, hw, rfl⟩ | ⟨form, h, hform, hh, rfl⟩
  · rw [Code.effect?, Code.instr?, decode?_of_encode_eq_ok hi hw]
    rfl
  · rw [Code.effect?, Code.instr?, ofHalf?_of_encode_eq_ok hh]
    exact (standsFor_of_compact?_eq_some hform).sameOperation.effect?_eq

/-- With compression active and room for a word, a call faults exactly when it faults without
compression. Otherwise both append a code, and the two codes have the same effect on every
machine. -/
theorem Assembler.call_request_agrees {a : Assembler} {i : Instr} (hactive : a.active)
    (hroom : 4 ≤ a.buffer.remaining) (hi : i.isDecodable) :
    ((a.call (i.request true)).2 = none ↔ (a.call (i.request false)).2 = none) ∧
      ((a.call (i.request true)).2 = none →
        ∃ (c : Code) (w : BitVec 32) (e : Machine.Effect),
          (a.call (i.request true)).1.buffer.toList = a.buffer.toList ++ c.bytes ∧
            (a.call (i.request false)).1.buffer.toList =
              a.buffer.toList ++ (Code.word w).bytes ∧
              c.effect? = some e ∧ (Code.word w).effect? = some e) := by
  simp only [call_request, hactive, Bool.and_true, Bool.and_false, issue_fault_eq_none_iff hroom,
    i.exists_code_iff, true_and]
  rintro ⟨w, hw⟩
  obtain ⟨c, hc⟩ := (i.exists_code_iff true).2 ⟨w, hw⟩
  have hword : i.code false = .ok (.word w) := by
    rw [i.code_false, hw]
    rfl
  obtain ⟨e, he⟩ := Instr.exists_effect?_eq_some hi
  have hce := (Instr.effect?_of_code_eq_ok hi hc).trans he
  have hwe := (Instr.effect?_of_code_eq_ok hi hword).trans he
  refine ⟨c, w, e, ?_, ?_, hce, hwe⟩
  · rw [hc, issue_ok_of_room (c.size_le_four.trans hroom)]
    exact a.buffer.toList_append c (c.size_le_four.trans hroom)
  · rw [hword, issue_ok_of_room (c := .word w) hroom]
    exact a.buffer.toList_append (.word w) hroom

/-- An operation whose second source is its destination, in a compressible region. -/
theorem Assembler.call_and_agrees :
    let a := (ofBuffer (.empty 4096) true).enter true
    let i := Instr.integer (.reg .and .a0 .a1 .a0)
    a.active ∧ 4 ≤ a.buffer.remaining ∧ i.isDecodable ∧ (a.call (i.request true)).2 = none ∧
      ∃ (c : Code) (w : BitVec 32) (e : Machine.Effect),
        (a.call (i.request true)).1.buffer.toList = a.buffer.toList ++ c.bytes ∧
          (a.call (i.request false)).1.buffer.toList = a.buffer.toList ++ (Code.word w).bytes ∧
            c.effect? = some e ∧ (Code.word w).effect? = some e := by
  intro a i
  have hactive : a.active := rfl
  have hroom : 4 ≤ a.buffer.remaining := by decide
  have hi : i.isDecodable := rfl
  have hnone : (a.call (i.request true)).2 = none := by decide
  exact ⟨hactive, hroom, hi, hnone, (call_request_agrees hactive hroom hi).2 hnone⟩

end RiscvAssembler
