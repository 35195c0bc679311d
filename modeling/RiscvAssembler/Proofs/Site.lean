import RiscvAssembler.Assembler.Call
import RiscvAssembler.Proofs.Displacement

/-!
# Codes of branches and jumps

A site encodes exactly when its operands are valid and its displacement fits the field of its kind.
Its code is then the placeholder, which has displacement zero, redirected to that displacement.
-/

namespace RiscvAssembler

theorem map_eq_ok_iff {ε α β : Type} {x : Except ε α} {f : α → β} {b : β} :
    f <$> x = .ok b ↔ ∃ a, x = .ok a ∧ f a = b := by
  cases x <;> simp [Functor.map, Except.map]

theorem BType.encode_eq_ok_iff_frame {t : BType} {rs1 rs2 d w : BitVec 32} :
    t.encode rs1 rs2 d = .ok w ↔
      ∃ frame, pack [⟨6, 0, Opcode.branch⟩, ⟨14, 12, t.funct3⟩, ⟨19, 15, rs1⟩, ⟨24, 20, rs2⟩] =
        .ok frame ∧ ReferenceKind.branch.fits (d.signExtend 64) ∧
          w = writeAll frame (ReferenceKind.branch.fields d) := by
  simp only [encode, bind_eq_ok_iff, Displacement.patchBranch_eq_ok_iff]

theorem JType.encode_eq_ok_iff_frame {rd d w : BitVec 32} :
    JType.encode rd d = .ok w ↔
      ∃ frame, pack [⟨6, 0, Opcode.jal⟩, ⟨11, 7, rd⟩] = .ok frame ∧
        ReferenceKind.jal.fits (d.signExtend 64) ∧
          w = writeAll frame (ReferenceKind.jal.fields d) := by
  simp only [encode, bind_eq_ok_iff, Displacement.patchJump_eq_ok_iff]

theorem CompactForm.encodeBranch_eq_ok_iff_frame {funct3 : BitVec 32} {rs1 : Reg} {d : BitVec 32}
    {w : BitVec 16} :
    encodeBranch funct3 rs1 d = .ok w ↔
      ∃ frame, (do
          let r ← rs1.compactEncoding
          pack (base funct3 0b01#32 ++ [⟨9, 7, r⟩]) : Except Fault (BitVec 16)) = .ok frame ∧
        ReferenceKind.cBranch.fits (d.signExtend 64) ∧
          w = writeAll frame (ReferenceKind.cBranch.fields d) := by
  simp only [encodeBranch, bind_eq_ok_iff, Displacement.patchCompactBranch_eq_ok_iff]
  constructor
  · rintro ⟨r, hr, frame, hframe, hw⟩
    exact ⟨frame, ⟨r, hr, hframe⟩, hw⟩
  · rintro ⟨frame, ⟨r, hr, hframe⟩, hw⟩
    exact ⟨r, hr, frame, hframe, hw⟩

theorem CompactForm.encode_j_eq_ok_iff_frame {d : BitVec 32} {w : BitVec 16} :
    (CompactForm.j d).encode = .ok w ↔
      ∃ frame, pack (base 0b101#32 0b01#32) = .ok frame ∧
        ReferenceKind.cJump.fits (d.signExtend 64) ∧
          w = writeAll frame (ReferenceKind.cJump.fields d) := by
  simp only [encode, bind_eq_ok_iff, Displacement.patchCompactJump_eq_ok_iff]

theorem Instr.code_false (i : Instr) : i.code false = Code.word <$> i.encode := by
  cases h : i.encode <;> simp [Instr.code, h, bind, Except.bind, pure, Except.pure, Functor.map,
    Except.map]

theorem CompactForm.code_eq_map (form : CompactForm) : form.code = Code.half <$> form.encode := by
  cases h : form.encode <;> simp [CompactForm.code, h, bind, Except.bind, pure, Except.pure,
    Functor.map, Except.map]

namespace Site

/-- The site with every field but its displacement. -/
def frame : Site → Except Fault Code
  | branch cond rs1 rs2 _ =>
    Code.word <$> pack [⟨6, 0, Opcode.branch⟩, ⟨14, 12, cond.row.funct3⟩,
      ⟨19, 15, rs1.encoding⟩, ⟨24, 20, rs2.encoding⟩]
  | jump rd _ => Code.word <$> pack [⟨6, 0, Opcode.jal⟩, ⟨11, 7, rd.encoding⟩]
  | compactBeqz rs1 => Code.half <$> do
      let r ← rs1.compactEncoding
      pack (CompactForm.base 0b110#32 0b01#32 ++ [⟨9, 7, r⟩])
  | compactBnez rs1 => Code.half <$> do
      let r ← rs1.compactEncoding
      pack (CompactForm.base 0b111#32 0b01#32 ++ [⟨9, 7, r⟩])
  | compactJump => Code.half <$> pack (CompactForm.base 0b101#32 0b01#32)

theorem size_of_frame_eq_ok {s : Site} {c : Code} (h : s.frame = .ok c) :
    c.size = s.kind.length := by
  cases s <;> simp only [frame, map_eq_ok_iff] at h <;> obtain ⟨w, -, rfl⟩ := h <;> rfl

theorem map_eq_ok_iff_redirect {n : Nat} {mk : BitVec n → Code} {k : ReferenceKind}
    {d : BitVec 32} {x y : Except Fault (BitVec n)} {c : Code}
    (hmk : ∀ w, (mk w).redirect k d = mk (writeAll w (k.fields d)))
    (hx : ∀ w, x = .ok w ↔
      ∃ f, y = .ok f ∧ k.fits (d.signExtend 64) ∧ w = writeAll f (k.fields d)) :
    mk <$> x = .ok c ↔
      ∃ f, mk <$> y = .ok f ∧ k.fits (d.signExtend 64) ∧ c = f.redirect k d := by
  simp only [map_eq_ok_iff, hx]
  constructor
  · rintro ⟨w, ⟨f, hf, hd, rfl⟩, rfl⟩
    exact ⟨mk f, ⟨f, hf, rfl⟩, hd, (hmk f).symm⟩
  · rintro ⟨_, ⟨f, hf, rfl⟩, hd, rfl⟩
    exact ⟨_, ⟨f, hf, hd, rfl⟩, (hmk f).symm⟩

theorem code_eq_ok_iff_frame {s : Site} {d : BitVec 32} {c : Code} :
    s.code false d = .ok c ↔
      ∃ f, s.frame = .ok f ∧ s.kind.fits (d.signExtend 64) ∧ c = f.redirect s.kind d := by
  cases s with
  | branch cond rs1 rs2 mayCompress =>
    rw [code, Bool.false_and, Instr.code_false]
    exact map_eq_ok_iff_redirect (fun _ => rfl) fun _ => BType.encode_eq_ok_iff_frame
  | jump rd mayCompress =>
    rw [code, Bool.false_and, Instr.code_false]
    exact map_eq_ok_iff_redirect (fun _ => rfl) fun _ => JType.encode_eq_ok_iff_frame
  | compactBeqz rs1 =>
    rw [code, CompactForm.code_eq_map]
    exact map_eq_ok_iff_redirect (fun _ => rfl) fun _ => CompactForm.encodeBranch_eq_ok_iff_frame
  | compactBnez rs1 =>
    rw [code, CompactForm.code_eq_map]
    exact map_eq_ok_iff_redirect (fun _ => rfl) fun _ => CompactForm.encodeBranch_eq_ok_iff_frame
  | compactJump =>
    rw [code, CompactForm.code_eq_map]
    exact map_eq_ok_iff_redirect (fun _ => rfl) fun _ => CompactForm.encode_j_eq_ok_iff_frame

theorem fits_zero (k : ReferenceKind) : k.fits ((0#32).signExtend 64) := by
  cases k <;> decide

/-- A code is its placeholder with the displacement filled in. -/
theorem code_eq_ok_iff {s : Site} {d : BitVec 32} {c : Code} :
    s.code false d = .ok c ↔
      s.kind.fits (d.signExtend 64) ∧
        ∃ placeholder, s.code false 0#32 = .ok placeholder ∧ c = placeholder.redirect s.kind d := by
  simp only [code_eq_ok_iff_frame]
  constructor
  · rintro ⟨f, hf, hd, rfl⟩
    refine ⟨hd, _, ⟨f, hf, fits_zero _, rfl⟩, ?_⟩
    rw [Code.redirect_redirect (size_of_frame_eq_ok hf)]
  · rintro ⟨hd, _, ⟨f, hf, -, rfl⟩, rfl⟩
    refine ⟨f, hf, hd, ?_⟩
    rw [Code.redirect_redirect (size_of_frame_eq_ok hf)]

theorem size_of_code_eq_ok {s : Site} {d : BitVec 32} {c : Code} (h : s.code false d = .ok c) :
    c.size = s.kind.length := by
  obtain ⟨f, hf, -, rfl⟩ := code_eq_ok_iff_frame.1 h
  rw [Code.size_redirect, size_of_frame_eq_ok hf]

theorem displacement_of_code_eq_ok {s : Site} {d : BitVec 32} {c : Code}
    (h : s.code false d = .ok c) : c.displacement s.kind = d := by
  obtain ⟨f, hf, hd, rfl⟩ := code_eq_ok_iff_frame.1 h
  exact Code.displacement_redirect (size_of_frame_eq_ok hf) hd

/-- No compact form is selected for a displacement of zero. -/
theorem code_zero (s : Site) (active : Bool) : s.code active 0#32 = s.code false 0#32 := by
  cases s with
  | branch cond rs1 rs2 m =>
    have hnone : (Instr.integer (.branch cond rs1 rs2 0#32)).compact? = none := by
      cases cond <;> simp [Instr.compact?, IntegerInstr.compact?, Compression.branch,
        Compression.onlyIf]
    simp only [code, Instr.code, hnone, ite_self]
  | jump rd m =>
    have hnone : (Instr.integer (.jal rd 0#32)).compact? = none := by
      simp [Instr.compact?, IntegerInstr.compact?, Compression.jal, Compression.onlyIf]
    simp only [code, Instr.code, hnone, ite_self]
  | compactBeqz rs1 => rfl
  | compactBnez rs1 => rfl
  | compactJump => rfl

end Site

end RiscvAssembler
