import RiscvAssembler.Proofs.Recognition
import RiscvAssembler.Proofs.Scan

/-!
# Disassembly

One decoder recovers from the word that a call emits how the call was written, up to spellings that
stand for the same by construction. Calls with the same word therefore have the same mnemonic and
operands, or one of them or both are such spellings of what the decoder finds.
-/

namespace RiscvAssembler

/-! ## Calls that ask for one word -/

theorem Code.eq_of_bytes_word {v w : BitVec 32} (h : (word v).bytes = (word w).bytes) : v = w := by
  simp only [bytes, List.cons.injEq, and_true] at h
  obtain ⟨h0, h1, h2, h3⟩ := h
  rw [← append_byteAt_word v, h0, h1, h2, h3, append_byteAt_word w]

/-- Codes that tell their lengths are one word when their bytes are. -/
theorem Code.eq_singleton_word {codes : List Code} {w : BitVec 32} (hw : IsLong w)
    (hcodes : ∀ c ∈ codes, c.Delimits) (hbytes : codes.flatMap bytes = (word w).bytes) :
    codes = [word w] := by
  cases codes with
  | nil => cases hbytes
  | cons c codes =>
    rw [List.forall_mem_cons] at hcodes
    rw [List.flatMap_cons] at hbytes
    cases c with
    | half h =>
      -- The first byte would have both low bits set and not.
      have hbyte : byteAt h 0 = byteAt w 0 := (List.cons.inj hbytes).1
      have hlong := (isLong_byteAt_zero w).2 hw
      rw [← hbyte, isLong_byteAt_zero] at hlong
      exact absurd hlong hcodes.1.1
    | word v =>
      rw [← List.append_nil (word w).bytes] at hbytes
      obtain ⟨hfirst, hrest⟩ := List.append_inj hbytes rfl
      rw [eq_of_bytes_word hfirst]
      cases codes with
      | nil => rfl
      | cons c codes =>
        cases c <;> cases hrest

/-- A call whose content is one word asks for one instruction. -/
theorem Call.instr?_of_contents {c : Call} {active : Bool} {w : BitVec 32} (hraw : c.isRaw = false)
    (h : c.contents active = [.ok (.fixed (.word w))]) :
    ∃ i, c.instr? = some i ∧ i.encode = .ok w := by
  have hmap : ∀ {x : Except Fault Code}, [Content.fixed <$> x] = [.ok (.fixed (.word w))] →
      x = .ok (.word w) := by
    intro x hx
    obtain ⟨_, hcode, ⟨⟩⟩ := map_eq_ok_iff.1 (List.singleton_inj.1 hx)
    exact hcode
  have hinstr : ∀ {i : Instr} {compress}, i.code compress = .ok (.word w) → i.encode = .ok w := by
    intro i compress hcode
    rcases i.word_or_half_of_code_eq_ok hcode with ⟨_, hw, ⟨⟩⟩ | ⟨_, _, -, -, ⟨⟩⟩
    exact hw
  have hform : ∀ {form : CompactForm}, form.code ≠ .ok (.word w) := by
    intro form hcode
    rw [CompactForm.code_eq_map] at hcode
    obtain ⟨_, -, ⟨⟩⟩ := map_eq_ok_iff.1 hcode
  cases c with
  | raw c => cases hraw
  | instr i mayCompress => exact ⟨i, rfl, hinstr (hmap h)⟩
  | compact form => exact absurd (hmap h) hform
  | transfer s t =>
    cases t with
    | label id => cases h
    | displacement d =>
      have hcode := hmap h
      cases s with
      | branch cond rs1 rs2 mayCompress => exact ⟨_, rfl, hinstr hcode⟩
      | jump rd mayCompress => exact ⟨_, rfl, hinstr hcode⟩
      | compactBeqz => exact absurd hcode hform
      | compactBnez => exact absurd hcode hform
      | compactJump => exact absurd hcode hform
  | compactNop => cases h
  | nop =>
    have hcode := hmap h
    rw [Instr.nopCode] at hcode
    split at hcode
    · cases hcode
    · exact ⟨_, rfl, hinstr hcode⟩
  | li rd imm =>
    obtain ⟨i, hload, hcode⟩ := List.map_eq_singleton_iff.1 h
    refine ⟨i, ?_, hinstr (hmap (congrArg ([·]) hcode))⟩
    rw [instr?, hload]

/-! ## What a call emits -/

namespace Assembler

theorem exists_codes_of_placeAll {a a' : Assembler} {contents : List (Except Fault Content)}
    (hfixed : ∀ content, .ok content ∈ contents → ∃ c, content = .fixed c)
    (h : a.placeAll contents = (a', none)) :
    ∃ codes : List Code, contents = codes.map (fun c => .ok (.fixed c)) ∧
      a'.buffer.toList = a.buffer.toList ++ codes.flatMap Code.bytes := by
  induction contents generalizing a with
  | nil =>
    cases h
    exact ⟨[], rfl, (List.append_nil _).symm⟩
  | cons x contents ih =>
    cases x with
    | error f => cases h
    | ok content =>
      obtain ⟨c, rfl⟩ := hfixed content List.mem_cons_self
      obtain ⟨a₁, hplace, hrest⟩ := Outcome.andThen_eq_iff.1 h
      obtain ⟨room, rfl⟩ := emit_eq_iff.1 hplace
      obtain ⟨codes, rfl, hbytes⟩ :=
        ih (fun content hmem => hfixed content (List.mem_cons_of_mem _ hmem)) hrest
      refine ⟨c :: codes, rfl, ?_⟩
      rw [hbytes, CodeBuffer.toList_append, List.flatMap_cons, List.append_assoc]

/-- The call appends one instruction of four bytes. It is no raw code and goes to no label. -/
structure Emits (a : Assembler) (c : Call) (w : BitVec 32) : Prop where
  isRaw : c.isRaw = false
  reference? : c.reference? = none
  fault : (a.call c).2 = none
  bytes : (a.call c).1.buffer.toList = a.buffer.toList ++ (Code.word w).bytes
  isLong : IsLong w

theorem Emits.exists_instr {a : Assembler} {c : Call} {w : BitVec 32} (h : a.Emits c w) :
    ∃ i, c.instr? = some i ∧ i.encode = .ok w := by
  have hcall : a.placeAll (c.contents a.active) = ((a.call c).1, none) := by
    rw [← call_eq_placeAll]
    exact Prod.ext rfl h.fault
  obtain ⟨codes, hcontents, hbytes⟩ :=
    exists_codes_of_placeAll (fun _ hmem => c.exists_fixed h.reference? hmem) hcall
  have hdelimits : ∀ code ∈ codes, code.Delimits := by
    intro code hcode
    apply c.delimits h.isRaw
    rw [hcontents]
    exact List.mem_map_of_mem hcode
  rw [h.bytes] at hbytes
  obtain rfl := Code.eq_singleton_word h.isLong hdelimits (List.append_cancel_left hbytes).symm
  exact c.instr?_of_contents h.isRaw hcontents

/-- The decoder recovers from a word how the call that emits it is written. -/
theorem Emits.disassembles {a : Assembler} {m : Mnemonic} {xs : Operands m.operands} {w : BitVec 32}
    (hm : m ∈ Mnemonic.catalog) (h : a.Emits (m.call xs) w) :
    ∃ g, Written.ofWord? w = some g ∧ (m.written xs).Spells g := by
  obtain ⟨i, hi, hw⟩ := h.exists_instr
  exact m.recognized_of_mem_catalog hm xs i w hi hw

/-- Calls with the same word are written with the same mnemonic and operands, up to spellings that
stand by construction for what the decoder finds. -/
theorem same_word_spells_same {a b : Assembler} {m n : Mnemonic} {xs : Operands m.operands}
    {ys : Operands n.operands} {w : BitVec 32} (hm : m ∈ Mnemonic.catalog)
    (hn : n ∈ Mnemonic.catalog) (hx : a.Emits (m.call xs) w) (hy : b.Emits (n.call ys) w) :
    ∃ g, Written.ofWord? w = some g ∧ (m.written xs).Spells g ∧ (n.written ys).Spells g := by
  obtain ⟨g, hg, hspells⟩ := hx.disassembles hm
  obtain ⟨g', hg', hspells'⟩ := hy.disassembles hn
  obtain rfl : g = g' := Option.some.inj (hg.symm.trans hg')
  exact ⟨g, hg, hspells, hspells'⟩

theorem same_word_bgt_blt :
    ∃ m ∈ Mnemonic.catalog, ∃ n ∈ Mnemonic.catalog,
      ∃ (xs : Operands m.operands) (ys : Operands n.operands),
        m.written xs =
          ⟨"bgt", [⟨.reg, Reg.a0⟩, ⟨.reg, Reg.a1⟩, ⟨.target, .displacement 8#32⟩]⟩ ∧
        n.written ys =
          ⟨"blt", [⟨.reg, Reg.a1⟩, ⟨.reg, Reg.a0⟩, ⟨.target, .displacement 8#32⟩]⟩ ∧
        (ofBuffer (.empty 4096) true).Emits (m.call xs) 0x00a5c463#32 ∧
        (ofBuffer (.empty 4096) true).Emits (n.call ys) 0x00a5c463#32 ∧
        ∃ g, Written.ofWord? 0x00a5c463#32 = some g ∧ (m.written xs).Spells g ∧
          (n.written ys).Spells g := by
  have hm : ⟨"bgt", [.reg, .reg, .target], Call.bgt⟩ ∈ Mnemonic.catalog := by
    simp only [Mnemonic.catalog, Mnemonic.integer, Mnemonic.pseudo, Mnemonic.group, List.map_cons,
      List.mem_append, List.mem_cons, true_or, or_true]
  have hn : ⟨"blt", [.reg, .reg, .target], fun rs1 rs2 t => .transfer (.branch .lt rs1 rs2 true) t⟩ ∈
      Mnemonic.catalog := by
    simp only [Mnemonic.catalog, Mnemonic.integer, Mnemonic.control, Mnemonic.family, List.map_cons,
      List.mem_append, List.mem_cons, true_or, or_true]
  have hx : (ofBuffer (.empty 4096) true).Emits
      (Call.bgt Reg.a0 Reg.a1 (.displacement 8#32)) 0x00a5c463#32 :=
    ⟨rfl, rfl, by decide, by decide, by decide⟩
  have hy : (ofBuffer (.empty 4096) true).Emits
      (.transfer (.branch .lt Reg.a1 Reg.a0 true) (.displacement 8#32)) 0x00a5c463#32 :=
    ⟨rfl, rfl, by decide, by decide, by decide⟩
  refine ⟨_, hm, _, hn, (Reg.a0, Reg.a1, .displacement 8#32, ()),
    (Reg.a1, Reg.a0, .displacement 8#32, ()), rfl, rfl, hx, hy, ?_⟩
  exact same_word_spells_same hm hn hx hy

end Assembler

end RiscvAssembler
