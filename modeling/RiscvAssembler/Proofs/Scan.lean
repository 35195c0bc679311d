import RiscvAssembler.Proofs.Emission
import RiscvAssembler.Proofs.InstructionLength

/-!
# Walking over emitted code

The bytes of a run without raw code can be taken apart without knowing where its instructions begin:
a walk that goes by the length in the low bits of each instruction stops exactly where the run
emitted one, and leaves the bytes at the end.
-/

namespace RiscvAssembler

/-! ## The walk -/

/-- Where a walk from `p` over the bytes stops. The low two bits at each stop tell the distance to
the next; the last stop is past the bytes. -/
def scan (p : Nat) : List UInt8 → List Nat
  | [] => [p]
  | x :: xs =>
    if IsLong x.toBitVec then p :: scan (p + 4) (xs.drop 3) else p :: scan (p + 2) (xs.drop 1)
termination_by xs => xs.length

theorem Code.isLong_byteAt_zero {n : Nat} (w : BitVec n) :
    IsLong (byteAt w 0).toBitVec ↔ IsLong w := by
  have hlow : (w.extractLsb' 0 8).extractLsb' 0 2 = w.extractLsb' 0 2 := by
    apply BitVec.eq_of_getLsbD_eq
    intro i hi
    have hi8 : i < 8 := by omega
    simp only [BitVec.getLsbD_extractLsb', hi, hi8, decide_true, Bool.true_and, Nat.zero_add]
  change (w.extractLsb' 0 8).extractLsb' 0 2 = _ ↔ _
  rw [hlow]
  rfl

theorem scan_bytes_append {c : Code} (hc : c.Delimits) (p : Nat) (xs : List UInt8) :
    scan p (c.bytes ++ xs) = p :: scan (p + c.size) xs := by
  cases c with
  | half h =>
    rw [Code.bytes, List.cons_append, scan, if_neg (mt (Code.isLong_byteAt_zero h).1 hc.1)]
    rfl
  | word w =>
    rw [Code.bytes, List.cons_append, scan, if_pos ((Code.isLong_byteAt_zero w).2 hc)]
    rfl

/-- A walk over codes that tell their lengths stops where they stand. -/
theorem scan_flatMap_bytes {codes : List Code} (h : ∀ c ∈ codes, c.Delimits) (p : Nat) :
    scan p (codes.flatMap Code.bytes) =
      positions p codes ++ [p + (codes.flatMap Code.bytes).length] := by
  induction codes generalizing p with
  | nil => rw [List.flatMap_nil, scan, positions, List.length_nil, List.nil_append, Nat.add_zero]
  | cons c codes ih =>
    rw [List.forall_mem_cons] at h
    rw [List.flatMap_cons, scan_bytes_append h.1, ih h.2, positions, List.cons_append,
      List.length_append, c.length_bytes, Nat.add_assoc]

/-! ## Runs without raw code -/

def Call.isRaw : Call → Bool
  | .raw _ => true
  | _ => false

theorem Call.delimits {c : Call} (hraw : c.isRaw = false) {active : Bool} {code : Code}
    (h : .ok (.fixed code) ∈ c.contents active) : code.Delimits := by
  have hmap : ∀ x : Except Fault Code, (∀ code, x = .ok code → code.Delimits) →
      .ok (.fixed code) = Content.fixed <$> x → code.Delimits := by
    intro x hx hcode
    obtain ⟨code', hcode', ⟨⟩⟩ := map_eq_ok_iff.1 hcode.symm
    exact hx _ hcode'
  cases c with
  | raw c => cases hraw
  | instr i mayCompress =>
    exact hmap _ (fun _ => Instr.delimits_code) (List.mem_singleton.1 h)
  | compact form => exact hmap _ (fun _ => CompactForm.delimits_code) (List.mem_singleton.1 h)
  | transfer s t =>
    cases t with
    | displacement d => exact hmap _ (fun _ => Site.delimits_code) (List.mem_singleton.1 h)
    | label id => cases List.mem_singleton.1 h
  | compactNop =>
    cases List.mem_singleton.1 h
    exact Code.delimits_nopWord
  | nop =>
    refine hmap _ (fun code hcode => ?_) (List.mem_singleton.1 h)
    rw [Instr.nopCode] at hcode
    split at hcode
    · cases hcode
      exact Code.delimits_nopWord
    · exact Instr.delimits_code hcode
  | li rd imm =>
    obtain ⟨i, -, hi⟩ := List.mem_map.1 h
    exact hmap _ (fun _ => Instr.delimits_code) hi.symm

namespace Assembler

theorem strandsNone_of_attempt {a : Assembler} {steps : List Step}
    (h : (a.attempt steps).2 = none) : a.StrandsNone steps := by
  induction steps generalizing a with
  | nil => trivial
  | cons s steps ih =>
    obtain ⟨a₁, hstep, hrest⟩ := Outcome.andThen_eq_iff.1 (Prod.ext rfl h)
    refine ⟨?_, ?_⟩
    · rintro ⟨ref, -, -, hfault⟩
      rw [hstep] at hfault
      exact hfault rfl
    · rw [hstep]
      exact ih (congrArg Prod.snd hrest)

theorem starts_append (a : Assembler) (steps more : List Step) :
    a.starts (steps ++ more) = a.starts steps ++ (a.run steps).starts more := by
  induction steps generalizing a with
  | nil => rfl
  | cons s steps ih =>
    rw [List.cons_append, starts, starts, ih, List.append_assoc]
    rfl

section

variable {capacity : Nat} (hcap : capacity < 2 ^ 64) (useRvc : Bool) {steps : List Step}
  (hraw : ∀ s ∈ steps, ∀ c ∈ s.call?, c.isRaw = false)
  (hclean : (ofBuffer (.empty capacity) useRvc).StrandsNone steps)

include hcap hraw hclean

theorem exists_codes_run :
    ∃ codes, ((ofBuffer (.empty capacity) useRvc).run steps).buffer.toList =
        codes.flatMap Code.bytes ∧
      positions 0 codes = (ofBuffer (.empty capacity) useRvc).starts steps ∧
        ∀ c ∈ codes, c.Delimits := by
  obtain ⟨codes, h⟩ := (Tracks.ofBuffer_empty Code.Delimits hcap useRvc).run
    (fun _ _ _ _ => Site.delimits_code) hclean
    fun s hs c hc _ _ hmem => c.delimits (hraw s hs c hc) hmem
  exact ⟨codes, h.lays.bytes, h.lays.starts, h.lays.all⟩

/-- A walk over the code stops where the run emitted its instructions and leaves it at the end. -/
theorem scan_of_strandsNone :
    scan 0 ((ofBuffer (.empty capacity) useRvc).run steps).buffer.toList =
      (ofBuffer (.empty capacity) useRvc).starts steps ++
        [((ofBuffer (.empty capacity) useRvc).run steps).pc] := by
  obtain ⟨codes, hbytes, hstarts, hdelimits⟩ := exists_codes_run hcap useRvc hraw hclean
  rw [pc, ← CodeBuffer.length_toList, hbytes, scan_flatMap_bytes hdelimits, hstarts, Nat.zero_add]

/-- Binding a label moves no instruction. -/
theorem scan_bind (id : Nat) :
    scan 0 (((ofBuffer (.empty capacity) useRvc).run steps).bind id).1.buffer.toList =
      scan 0 ((ofBuffer (.empty capacity) useRvc).run steps).buffer.toList := by
  -- The bind is one more step of the run, and it emits nothing.
  have hclean' : (ofBuffer (.empty capacity) useRvc).StrandsNone (steps ++ [.bind id]) := by
    refine strandsNone_append.2 ⟨hclean, ?_, trivial⟩
    rintro ⟨_, href, -⟩
    cases href
  have hraw' : ∀ s ∈ steps ++ [.bind id], ∀ c ∈ s.call?, c.isRaw = false := by
    rw [List.forall_mem_append, List.forall_mem_singleton]
    refine ⟨hraw, ?_⟩
    intro c hc
    cases hc
  have hscan := scan_of_strandsNone hcap useRvc hraw' hclean'
  rw [run_append, starts_append] at hscan
  change scan 0 (((ofBuffer (.empty capacity) useRvc).run steps).bind id).1.buffer.toList =
    (ofBuffer (.empty capacity) useRvc).starts steps ++ [] ++
      [(((ofBuffer (.empty capacity) useRvc).run steps).bind id).1.pc] at hscan
  rw [hscan, scan_of_strandsNone hcap useRvc hraw hclean, List.append_nil, pc_bind]

end

/-- Every word tells that it has four bytes and every compact form that it has two, and none starts
with a halfword of zeros. At every point of a run without faults and without raw code the bytes are
such codes, emitted where a walk over them stops, and binding a label moves none of them. -/
theorem scan_run {capacity : Nat} {useRvc : Bool} {steps : List Step} (hcap : capacity < 2 ^ 64)
    (hraw : ∀ s ∈ steps, ∀ c ∈ s.call?, c.isRaw = false)
    (hrun : ((ofBuffer (.empty capacity) useRvc).attempt steps).2 = none) :
    (∀ i w, Instr.encode i = .ok w → IsLong w) ∧
    (∀ form h, CompactForm.encode form = .ok h → ¬ IsLong h ∧ h ≠ 0#16) ∧
    ∀ before, before <+: steps →
      let a := (ofBuffer (.empty capacity) useRvc).run before
      let starts := (ofBuffer (.empty capacity) useRvc).starts before
      scan 0 a.buffer.toList = starts ++ [a.pc] ∧
        (∃ codes, a.buffer.toList = codes.flatMap Code.bytes ∧ positions 0 codes = starts ∧
          ∀ c ∈ codes, c.Delimits) ∧
            ∀ id, scan 0 (a.bind id).1.buffer.toList = scan 0 a.buffer.toList := by
  refine ⟨fun _ _ => Instr.isLong, fun _ _ => CompactForm.delimits, ?_⟩
  intro before hbefore
  have hclean := (strandsNone_of_attempt hrun).mono hbefore
  have hraw' : ∀ s ∈ before, ∀ c ∈ s.call?, c.isRaw = false :=
    fun s hs => hraw s (hbefore.subset hs)
  exact ⟨scan_of_strandsNone hcap useRvc hraw' hclean, exists_codes_run hcap useRvc hraw' hclean,
    scan_bind hcap useRvc hraw' hclean⟩

theorem scan_loopAndExit :
    4096 < 2 ^ 64 ∧ (∀ s ∈ loopAndExit, ∀ c ∈ s.call?, c.isRaw = false) ∧
      ((ofBuffer (.empty 4096) true).attempt loopAndExit).2 = none ∧
        scan 0 ((ofBuffer (.empty 4096) true).run loopAndExit).buffer.toList = [0, 4, 6, 10] := by
  have hcap : 4096 < 2 ^ 64 := by decide
  have hraw : ∀ s ∈ loopAndExit, ∀ c ∈ s.call?, c.isRaw = false := by decide
  have hrun : ((ofBuffer (.empty 4096) true).attempt loopAndExit).2 = none := by decide
  obtain ⟨-, -, hscan⟩ := scan_run hcap hraw hrun
  have hstarts : (ofBuffer (.empty 4096) true).starts loopAndExit = [0, 4, 6] := by decide
  refine ⟨hcap, hraw, hrun, (hscan loopAndExit List.prefix_rfl).1.trans ?_⟩
  rw [hstarts]
  rfl

end Assembler

end RiscvAssembler
