import RiscvAssembler.Proofs.Appending
import RiscvAssembler.Proofs.CompressedCall
import RiscvAssembler.Proofs.InstructionLength

/-!
# Loads of constants

The lower part of a constant is a signed number of twelve bits, so the upper part is what is left
and wraps around for the constants next to the largest. Their sum in 32 bits is the constant, with
or without compression.
-/

namespace RiscvAssembler

open Immediate

/-! ## Straight-line code -/

/-- The code puts a value into a register and goes on to the next. -/
def Code.Puts (c : Code) (rd : Reg) (value : Machine → BitVec 64) : Prop :=
  c.effect? = some fun next m => .running ((m.write rd (value m)).goto next)

namespace Machine

/-- The machine after the codes, which stand one after the other from its counter on, when each of
them goes on to the next. -/
def through? (m : Machine) : List Code → Option Machine
  | [] => some m
  | c :: codes =>
    let next := m.pc + BitVec.ofNat 64 c.size
    match c.effect? with
    | none => none
    | some e =>
      match e next m with
      | .running m' => if m'.pc = next then m'.through? codes else none
      | .breakpoint _ => none

theorem through?_cons_of_puts {c : Code} {rd : Reg} {value : Machine → BitVec 64}
    (h : c.Puts rd value) (m : Machine) (codes : List Code) :
    m.through? (c :: codes) =
      ((m.write rd (value m)).goto (m.pc + BitVec.ofNat 64 c.size)).through? codes := by
  rw [Code.Puts] at h
  simp only [through?, h]
  exact if_pos rfl

end Machine

/-! ## The two parts of a constant -/

theorem setWidth_signExtend {n k : Nat} (x : BitVec n) (h : n ≤ k) :
    (x.signExtend k).setWidth n = x := by
  apply BitVec.eq_of_toInt_eq
  rw [← BitVec.signExtend_eq_setWidth_of_le _ h, BitVec.toInt_signExtend,
    BitVec.toInt_signExtend_of_le h, Nat.min_eq_left h]
  exact BitVec.toInt_bmod_cancel x

theorem wordResult_add_signExtend (x y : BitVec 32) :
    wordResult (x.signExtend 64 + y.signExtend 64) = (x + y).signExtend 64 := by
  rw [wordResult, BitVec.setWidth_add _ _ (by decide), setWidth_signExtend x (by decide),
    setWidth_signExtend y (by decide)]

namespace Instr

variable {rd : Reg} {imm : BitVec 32} {i : Instr}

theorem upperPart_add_lowerPart (imm : BitVec 32) : upperPart imm + lowerPart imm = imm :=
  BitVec.sub_add_cancel ..

theorem isSigned_lowerPart (imm : BitVec 32) : IsSigned 12 0 (lowerPart imm).toInt := by
  rw [lowerPart, BitVec.toInt_signExtend_of_le (by decide)]
  exact ⟨BitVec.le_toInt _, BitVec.toInt_lt, one_dvd _⟩

theorem dvd_upperPart (imm : BitVec 32) : (2 ^ 12 : Int) ∣ (upperPart imm).toInt := by
  -- The low bits of the constant are those of its lower part.
  have hlow : (lowerPart imm).setWidth 12 = imm.setWidth 12 := by
    rw [lowerPart, setWidth_signExtend _ (by decide), BitVec.setWidth_eq_extractLsb' (by decide)]
  have hsum : (upperPart imm).setWidth 12 + imm.setWidth 12 = 0#12 + imm.setWidth 12 := by
    rw [BitVec.zero_add, ← hlow, ← BitVec.setWidth_add _ _ (by decide), upperPart_add_lowerPart,
      hlow]
  have hzero : (upperPart imm).setWidth 12 = 0#12 := (BitVec.add_left_inj _).1 hsum
  rw [← slice_low_eq_zero_iff, slice]
  change ((upperPart imm).extractLsb' 0 12).setWidth 32 = 0#32
  rw [← BitVec.setWidth_eq_extractLsb' (by decide), hzero]
  rfl

theorem encodable_of_mem_loadConstant (h : i ∈ loadConstant rd imm) : i.Encodable := by
  have haddi : Encodable (addi rd .zero (lowerPart imm)) :=
    encodable_imm_iff.2 (isSigned_lowerPart imm)
  have hlui : Encodable (lui rd (upperPart imm)) := encodable_upper_iff.2 (dvd_upperPart imm)
  have haddiw : Encodable (addiw rd rd (lowerPart imm)) :=
    encodable_imm_iff.2 (isSigned_lowerPart imm)
  unfold loadConstant at h
  split at h
  · exact List.mem_singleton.1 h ▸ haddi
  split at h
  · exact List.mem_singleton.1 h ▸ hlui
  · rcases List.mem_pair.1 h with rfl | rfl
    · exact hlui
    · exact haddiw

end Instr

/-! ## The codes of a list of instructions -/

/-- The codes of the instructions, in order. -/
abbrev AreCodes (compress : Bool) (is : List Instr) (codes : List Code) : Prop :=
  List.Forall₂ (fun i c => i.code compress = .ok c) is codes

theorem exists_areCodes {is : List Instr} (compress : Bool) (h : ∀ i ∈ is, i.Encodable) :
    ∃ codes, AreCodes compress is codes := by
  induction is with
  | nil => exact ⟨[], .nil⟩
  | cons i is ih =>
    rw [List.forall_mem_cons] at h
    obtain ⟨c, hc⟩ := (i.exists_code_iff compress).2 h.1
    obtain ⟨codes, hcodes⟩ := ih h.2
    exact ⟨c :: codes, .cons hc hcodes⟩

theorem delimits_of_areCodes {compress : Bool} {is : List Instr} {codes : List Code}
    (h : AreCodes compress is codes) : ∀ c ∈ codes, c.Delimits := by
  induction h with
  | nil => exact List.forall_mem_nil _
  | cons hc hcodes ih => exact List.forall_mem_cons.2 ⟨Instr.delimits_code hc, ih⟩

theorem Assembler.issueAll_of_room {a : Assembler} {is : List Instr} {codes : List Code}
    (hcodes : AreCodes a.active is codes) (hroom : 4 * codes.length ≤ a.buffer.remaining) :
    ∃ a', a.issueAll is = (a', none) ∧ a.Appends a' codes := by
  generalize hactive : a.active = active at hcodes
  induction hcodes generalizing a with
  | nil => exact ⟨a, rfl, .refl a⟩
  | @cons i c is codes hc hcodes ih =>
    rw [List.length_cons] at hroom
    have hsize := c.size_le_four
    have hfits : c.size ≤ a.buffer.remaining := by omega
    have hrest : 4 * codes.length ≤ (a.buffer.append c hfits).remaining := by
      rw [CodeBuffer.remaining] at hroom ⊢
      rw [CodeBuffer.offset_append]
      change _ ≤ a.buffer.capacity - _
      omega
    obtain ⟨a', hissue, happends⟩ :=
      ih (a := { a with buffer := a.buffer.append c hfits }) hrest hactive
    refine ⟨a', ?_, (Appends.append a c hfits).trans happends⟩
    rw [issueAll, hactive, hc, issue_ok_of_room hfits]
    exact hissue

/-! ## Loading -/

namespace Instr

variable {rd rs : Reg} {imm : BitVec 32} {compress : Bool} {c : Code}

theorem puts_addi (hc : (addi rd rs imm).code compress = .ok c) :
    c.Puts rd fun m => m.read rs + imm.signExtend 64 :=
  effect?_of_code_eq_ok rfl hc

theorem puts_addiw (hc : (addiw rd rs imm).code compress = .ok c) :
    c.Puts rd fun m => wordResult (m.read rs + imm.signExtend 64) :=
  effect?_of_code_eq_ok rfl hc

theorem puts_lui (hc : (lui rd imm).code compress = .ok c) :
    c.Puts rd fun _ => imm.signExtend 64 :=
  effect?_of_code_eq_ok rfl hc

end Instr

namespace Machine

/-- The second instruction adds the lower part to the upper part, except in `x0`. -/
theorem write_write_wordResult (m : Machine) (rd : Reg) (x y : BitVec 32) (next next' : BitVec 64) :
    let m₁ := (m.write rd (x.signExtend 64)).goto next
    (m₁.write rd (wordResult (m₁.read rd + y.signExtend 64))).goto next' =
      (m.write rd ((x + y).signExtend 64)).goto next' := by
  intro m₁
  by_cases hrd : rd = .zero
  · subst hrd
    simp only [m₁, write_zero]
    rfl
  · have hread : m₁.read rd = x.signExtend 64 := m.read_write_self hrd _
    rw [hread, wordResult_add_signExtend, write_goto_write]
    rfl

/-- The codes of a load put the constant into the register. -/
theorem through?_loadConstant {rd : Reg} {imm : BitVec 32} {compress : Bool} {codes : List Code}
    (h : AreCodes compress (Instr.loadConstant rd imm) codes) (m : Machine) :
    m.through? codes = some ((m.write rd (imm.signExtend 64)).goto
      (m.pc + BitVec.ofNat 64 (codes.map Code.size).sum)) := by
  have hparts := Instr.upperPart_add_lowerPart imm
  unfold Instr.loadConstant at h
  split at h
  next hupper =>
    rw [hupper, BitVec.zero_add] at hparts
    obtain ⟨c, _, hc, ⟨⟩, rfl⟩ := List.forall₂_cons_left_iff.1 h
    rw [through?_cons_of_puts (Instr.puts_addi hc), read_zero, BitVec.zero_add, hparts]
    rfl
  split at h
  next hlower =>
    rw [hlower, BitVec.add_zero] at hparts
    obtain ⟨c, _, hc, ⟨⟩, rfl⟩ := List.forall₂_cons_left_iff.1 h
    rw [through?_cons_of_puts (Instr.puts_lui hc), hparts]
    rfl
  next =>
    obtain ⟨c, _, hc, hrest, rfl⟩ := List.forall₂_cons_left_iff.1 h
    obtain ⟨c', _, hc', ⟨⟩, rfl⟩ := List.forall₂_cons_left_iff.1 hrest
    have hnext : m.pc + BitVec.ofNat 64 c.size + BitVec.ofNat 64 c'.size =
        m.pc + BitVec.ofNat 64 ([c, c'].map Code.size).sum := by
      rw [BitVec.add_assoc, ← BitVec.ofNat_add]
      rfl
    rw [through?_cons_of_puts (Instr.puts_lui hc), through?_cons_of_puts (Instr.puts_addiw hc'),
      write_write_wordResult, hparts, ← hnext]
    rfl

end Machine

/-- With room for two words, a constant of 32 bits is loaded without a fault by one or two codes,
which a processor tells apart as they were emitted. They leave the register with the sign-extended
constant, unless it is `x0`, and change nothing else but the counter. -/
theorem Assembler.call_li_loads (a : Assembler) (hroom : 8 ≤ a.buffer.remaining) (rd : Reg)
    (imm : BitVec 32) :
    (a.call (.li rd imm)).2 = none ∧
      ∃ codes, (codes.length = 1 ∨ codes.length = 2) ∧ (∀ c ∈ codes, c.Delimits) ∧
        a.Appends (a.call (.li rd imm)).1 codes ∧
          ∀ m : Machine, ∃ m', m.through? codes = some m' ∧
            m'.read rd = (if rd = .zero then 0#64 else imm.signExtend 64) ∧
            (∀ r, r ≠ rd → m'.read r = m.read r) ∧
            m'.floats = m.floats ∧ m'.memory = m.memory ∧
              m'.pc = m.pc + BitVec.ofNat 64 (codes.map Code.size).sum := by
  have hencodable : ∀ i ∈ Instr.loadConstant rd imm, i.Encodable :=
    fun _ => Instr.encodable_of_mem_loadConstant
  obtain ⟨codes, hcodes⟩ := exists_areCodes a.active hencodable
  have hlength : codes.length = 1 ∨ codes.length = 2 := by
    rw [← hcodes.length_eq]
    exact Call.count_li rd imm
  obtain ⟨a', hissue, happends⟩ := issueAll_of_room hcodes (by omega)
  have hcall : a.call (.li rd imm) = (a', none) := hissue
  rw [hcall]
  refine ⟨rfl, codes, hlength, delimits_of_areCodes hcodes, happends, fun m => ?_⟩
  refine ⟨_, m.through?_loadConstant hcodes, ?_, fun r hr => m.read_write_of_ne hr _,
    m.floats_write rd _, m.memory_write rd _, rfl⟩
  rw [Machine.read_goto]
  split
  next hrd =>
    rw [hrd]
    exact Machine.read_zero _
  next hrd => exact m.read_write_self hrd _

/-- The largest constant, whose upper part is negative, in a compressible region. -/
theorem Assembler.call_li_loads_largest :
    let a := (ofBuffer (.empty 4096) true).enter true
    let li := Call.li .a0 0x7fffffff#32
    a.active ∧ 8 ≤ a.buffer.remaining ∧ (a.call li).2 = none ∧
      ∃ codes, a.Appends (a.call li).1 codes ∧
        ∀ m : Machine, ∃ m', m.through? codes = some m' ∧ m'.read .a0 = 0x7fffffff#64 := by
  intro a li
  have hroom : 8 ≤ a.buffer.remaining := by decide
  obtain ⟨hnone, codes, -, -, happends, hloads⟩ := a.call_li_loads hroom .a0 0x7fffffff#32
  refine ⟨rfl, hroom, hnone, codes, happends, fun m => ?_⟩
  obtain ⟨m', hm', hread, -⟩ := hloads m
  exact ⟨m', hm', hread.trans (by decide)⟩

end RiscvAssembler
