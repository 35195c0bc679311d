import RiscvAssembler.Proofs.Run
import RiscvAssembler.Proofs.Selection

/-!
# Contents with and without compression

What a call asks for while compression is active can take the place of what it asks for otherwise:
its code is not longer and is read as the same operation, and a reference stays one from the same
site to the same label.
-/

namespace RiscvAssembler

/-- The code is read as the instruction: a halfword by its expansion, a word by its encoding. -/
def Code.Reads : Code → Instr → Prop
  | .half h, i => Instr.ofHalf? h = some i
  | .word w, i => i.encode = .ok w

theorem CompactForm.reads_of_code_eq_ok {form : CompactForm} {c : Code}
    (h : form.code = .ok c) : c.Reads form.expansion := by
  rw [code_eq_map, map_eq_ok_iff] at h
  obtain ⟨w, hw, rfl⟩ := h
  exact Instr.ofHalf?_of_encode_eq_ok hw

namespace Instr

variable {r : BitVec 32 → BitVec 32 → Prop} {i j : Instr}

theorem SameOperation.refl (h : ∀ d, r d d) (i : Instr) : SameOperation r i i := by
  cases hd : i.displacement? with
  | none => exact .same hd
  | some d =>
    cases i with
    | integer i =>
      cases i with
      | branch cond rs1 rs2 e => exact .branch cond rs1 rs2 (h e)
      | jal rd e => exact .jal rd (h e)
      | _ => cases hd
    | _ => cases hd

theorem SameOperation.of_displacement?_eq_none (h : SameOperation Eq i j)
    (hj : j.displacement? = none) : SameOperation r i j := by
  cases h with
  | same hd => exact .same hd
  | swap hop rd rs1 rs2 => exact .swap hop rd rs1 rs2
  | move rd rs => exact .move rd rs
  | branch cond rs1 rs2 hd => cases hj
  | jal rd hd => cases hj

theorem SameOperation.eq_of_displacement?_eq_some {d : BitVec 32} (h : SameOperation Eq i j)
    (hj : j.displacement? = some d) : i = j := by
  cases h with
  | same hd => rfl
  | swap hop rd rs1 rs2 => cases hj
  | move rd rs => cases hj
  | branch cond rs1 rs2 hd => rw [hd]
  | jal rd hd => rw [hd]

/-- Compressed or not, the code of an instruction is read as the same operation. -/
theorem exists_reads_of_code_eq_ok {compress : Bool} {c : Code} (h : i.code compress = .ok c) :
    ∃ j, c.Reads j ∧ SameOperation Eq j i := by
  rcases word_or_half_of_code_eq_ok h with ⟨w, hw, rfl⟩ | ⟨form, w, hform, hw, rfl⟩
  · exact ⟨i, hw, .refl (fun _ => rfl) i⟩
  · exact ⟨form.expansion, ofHalf?_of_encode_eq_ok hw,
      (standsFor_of_compact?_eq_some hform).sameOperation⟩

theorem displacement?_of_mem_loadConstant {rd : Reg} {imm : BitVec 32}
    (h : i ∈ loadConstant rd imm) : i.displacement? = none := by
  unfold loadConstant at h
  split at h
  · rw [List.mem_singleton.1 h]
    rfl
  split at h
  · rw [List.mem_singleton.1 h]
    rfl
  · rcases List.mem_pair.1 h with rfl | rfl <;> rfl

end Instr

/-! ## Sites -/

namespace Site

/-- The instruction of the site with its displacement. -/
def instr (d : BitVec 32) : Site → Instr
  | branch cond rs1 rs2 _ => .integer (.branch cond rs1 rs2 d)
  | jump rd _ => .integer (.jal rd d)
  | compactBeqz rs1 => .integer (.branch .eq rs1 .zero d)
  | compactBnez rs1 => .integer (.branch .ne rs1 .zero d)
  | compactJump => .integer (.jal .zero d)

theorem sameOperation_instr {r : BitVec 32 → BitVec 32 → Prop} {d e : BitVec 32} (h : r d e)
    (s : Site) : (s.instr d).SameOperation r (s.instr e) := by
  cases s with
  | jump rd mayCompress => exact .jal _ h
  | compactJump => exact .jal _ h
  | _ => exact .branch _ _ _ h

variable {s : Site} {active : Bool} {d : BitVec 32} {c : Code}

theorem reads_of_code_eq_ok (h : s.code active d = .ok c) : c.Reads (s.instr d) := by
  cases s with
  | branch cond rs1 rs2 mayCompress =>
    obtain ⟨j, hj, hsame⟩ := Instr.exists_reads_of_code_eq_ok h
    rwa [hsame.eq_of_displacement?_eq_some rfl] at hj
  | jump rd mayCompress =>
    obtain ⟨j, hj, hsame⟩ := Instr.exists_reads_of_code_eq_ok h
    rwa [hsame.eq_of_displacement?_eq_some rfl] at hj
  | compactBeqz rs1 => exact CompactForm.reads_of_code_eq_ok h
  | compactBnez rs1 => exact CompactForm.reads_of_code_eq_ok h
  | compactJump => exact CompactForm.reads_of_code_eq_ok h

/-- A site can be encoded with compression exactly when it can without. -/
theorem exists_code_iff (s : Site) (active : Bool) (d : BitVec 32) :
    (∃ c, s.code active d = .ok c) ↔ ∃ c, s.code false d = .ok c := by
  cases s with
  | branch cond rs1 rs2 mayCompress =>
    simp only [code, Instr.exists_code_iff]
  | jump rd mayCompress =>
    simp only [code, Instr.exists_code_iff]
  | _ => rfl

theorem size_le_of_code_eq_ok (h : s.code active d = .ok c) : c.size ≤ s.kind.length := by
  cases s with
  | branch cond rs1 rs2 mayCompress => exact c.size_le_four
  | jump rd mayCompress => exact c.size_le_four
  | compactBeqz rs1 => exact (size_of_code_eq_ok (s := .compactBeqz rs1) h).le
  | compactBnez rs1 => exact (size_of_code_eq_ok (s := .compactBnez rs1) h).le
  | compactJump => exact (size_of_code_eq_ok (s := .compactJump) h).le

end Site

/-! ## Contents -/

/-- The first content can take the place of the second, which was made without compression. -/
inductive Content.Replaces : Content → Content → Prop
  | fixed {c' c : Code} {j i : Instr} (size : c'.size ≤ c.size) (reads' : c'.Reads j)
    (reads : c.Reads i) (same : ∀ r, j.SameOperation r i) : Replaces (.fixed c') (.fixed c)
  | reference (s : Site) (id : Nat) (active : Bool) :
    Replaces (.reference s id active) (.reference s id false)

/-- When the second item can be placed, the first can take its place. -/
def CanReplace (x' x : Except Fault Content) : Prop :=
  ∀ content, x = .ok content → ∃ content', x' = .ok content' ∧ content'.Replaces content

/-- The call is a mnemonic and goes to a label if it goes anywhere. -/
def Call.isSymbolic : Call → Bool
  | .raw _ => false
  | .instr i _ => i.displacement?.isNone
  | .compact form => form.expansion.displacement?.isNone
  | .transfer _ (.displacement _) => false
  | .transfer _ (.label _) => true
  | .compactNop | .nop | .li _ _ => true

theorem canReplace_code {i : Instr} (hi : i.displacement? = none) (compress : Bool) :
    CanReplace (.fixed <$> i.code compress) (.fixed <$> i.code false) := by
  intro content h
  obtain ⟨c, hc, rfl⟩ := map_eq_ok_iff.1 h
  obtain ⟨c', hc'⟩ := (i.exists_code_iff compress).2 ((i.exists_code_iff false).1 ⟨c, hc⟩)
  rw [i.code_false, map_eq_ok_iff] at hc
  obtain ⟨w, hw, rfl⟩ := hc
  obtain ⟨j, hj, hsame⟩ := i.exists_reads_of_code_eq_ok hc'
  exact ⟨.fixed c', map_eq_ok_iff.2 ⟨c', hc', rfl⟩,
    .fixed c'.size_le_four hj hw fun _ => hsame.of_displacement?_eq_none hi⟩

theorem canReplace_nopCode (active : Bool) :
    CanReplace (.fixed <$> Instr.nopCode active) (.fixed <$> Instr.nopCode false) := by
  cases active with
  | false => exact canReplace_code rfl false
  | true =>
    intro content h
    obtain ⟨c, hc, rfl⟩ := map_eq_ok_iff.1 h
    rw [Instr.nopCode, if_neg Bool.false_ne_true, Instr.code_false, map_eq_ok_iff] at hc
    obtain ⟨w, hw, rfl⟩ := hc
    have hhalf : (Code.half CompactForm.nopWord).Reads (.addi .zero .zero 0#32) := if_pos rfl
    exact ⟨.fixed (.half CompactForm.nopWord), rfl,
      .fixed (Code.size_le_four _) hhalf hw fun _ => .same rfl⟩

theorem canReplace_self {x : Except Fault Code} {i : Instr} (hi : i.displacement? = none)
    (h : ∀ c, x = .ok c → c.Reads i) : CanReplace (.fixed <$> x) (.fixed <$> x) := by
  intro content hx
  obtain ⟨c, hc, rfl⟩ := map_eq_ok_iff.1 hx
  exact ⟨.fixed c, hx, .fixed le_rfl (h c hc) (h c hc) fun _ => .same hi⟩

/-- The contents of a call with compression can replace those without, one by one. -/
theorem Call.forall₂_contents {c : Call} (hc : c.isSymbolic) (active : Bool) :
    List.Forall₂ CanReplace (c.contents active) (c.contents false) := by
  cases c with
  | raw c => cases hc
  | instr i mayCompress =>
    have hi := Option.isNone_iff_eq_none.1 hc
    exact .cons (canReplace_code hi _) .nil
  | compact form =>
    have hi := Option.isNone_iff_eq_none.1 hc
    exact .cons (canReplace_self hi fun _ => form.reads_of_code_eq_ok) .nil
  | transfer s t =>
    cases t with
    | displacement d => cases hc
    | label id =>
      refine .cons ?_ .nil
      rintro _ ⟨⟩
      exact ⟨_, rfl, .reference s id active⟩
  | compactNop =>
    have hreads : ∀ c, Except.ok (.half CompactForm.nopWord) = (.ok c : Except Fault Code) →
        c.Reads (.addi .zero .zero 0#32) := by
      rintro _ ⟨⟩
      exact if_pos rfl
    exact .cons (canReplace_self rfl hreads) .nil
  | nop => exact .cons (canReplace_nopCode active) .nil
  | li rd imm =>
    rw [contents, contents, List.forall₂_map_left_iff, List.forall₂_map_right_iff,
      List.forall₂_same]
    intro i hi
    exact canReplace_code (Instr.displacement?_of_mem_loadConstant hi) active

end RiscvAssembler
