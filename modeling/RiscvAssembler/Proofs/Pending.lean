import RiscvAssembler.Proofs.Binding
import RiscvAssembler.Proofs.Emission

/-!
# References that wait for a label

A reference is recorded before the instruction that makes it has been accepted. When the instruction
is refused, the reference stays behind and designates whatever is emitted next. In a run without
such a step every waiting reference designates a placeholder of its own.
-/

namespace RiscvAssembler

namespace Assembler

/-- Every reference that waits for a label designates an emitted branch or jump of its kind with
displacement zero, and no two share a byte. -/
structure PendingSound (a : Assembler) (starts : List Nat) : Prop where
  placed : ∀ id, ∀ r ∈ (a.labels.get id).references, r.offset ∈ starts ∧
    ∃ s c, Site.kind s = r.kind ∧ s.code false 0#32 = .ok c ∧ a.buffer.Holds r.offset c ∧
      a.buffer.displacementAt r = .ok 0#32
  apart : ∀ id, (a.labels.get id).references.Pairwise Reference.Apart
  apart_of_ne : ∀ id n, id ≠ n → ∀ r ∈ (a.labels.get id).references,
    ∀ t ∈ (a.labels.get n).references, r.Apart t

theorem Tracks.pendingSound {P : Code → Prop} {a : Assembler} {starts : List Nat}
    {codes : List Code} (h : a.Tracks P starts codes) : a.PendingSound starts where
  placed := by
    intro id r hr
    obtain ⟨s, c, hstands, hkind, hcode⟩ := h.awaits id r hr
    have hholds := hstands.holds h.lays.bytes
    have hsize : a.buffer.offset < 2 ^ 64 := a.buffer.size_le.trans_lt h.lays.capacity_lt
    have hlength : c.size = r.kind.length := hkind ▸ Site.size_of_code_eq_ok hcode
    refine ⟨h.lays.starts ▸ hstands.mem_positions, s, c, hkind, hcode, hholds, ?_⟩
    rw [hholds.displacementAt hsize hlength, ← hkind, Site.displacement_of_code_eq_ok hcode]
  apart := h.apart
  apart_of_ne := h.apart_of_ne

/-- A run that strands no reference keeps the references sound. -/
theorem pendingSound_run {capacity : Nat} (hcap : capacity < 2 ^ 64) (useRvc : Bool)
    {steps : List Step} (hclean : (ofBuffer (.empty capacity) useRvc).StrandsNone steps) :
    ((ofBuffer (.empty capacity) useRvc).run steps).PendingSound
      ((ofBuffer (.empty capacity) useRvc).starts steps) := by
  obtain ⟨codes, h⟩ := (Tracks.ofBuffer_empty (fun _ => True) hcap useRvc).run
    (fun _ _ _ _ _ => trivial) hclean fun _ _ _ _ _ _ _ => trivial
  exact h.pendingSound

/-! ## References left behind -/

theorem issue_fst_of_fault {a : Assembler} {x : Except Fault Code} (h : (a.issue x).2 ≠ none) :
    (a.issue x).1 = a := by
  cases x with
  | error f => rfl
  | ok c =>
    change (a.emit c).2 ≠ none at h
    change (a.emit c).1 = a
    unfold emit at h ⊢
    split at h
    · exact absurd rfl h
    · rw [dif_neg ‹_›]

theorem call_fst_of_fault {a : Assembler} {s : Site} {id : Nat}
    (hid : (a.labels.get id).offset? = none)
    (hfault : (a.call (.transfer s (.label id))).2 ≠ none) :
    (a.call (.transfer s (.label id))).1 =
      { a with
        labels := a.labels.insert
          ⟨id, .unbound ((a.labels.get id).references ++ [⟨a.pc, s.kind⟩])⟩ } := by
  rw [call_unbound hid] at hfault ⊢
  exact issue_fst_of_fault hfault

/-- A refused branch or jump leaves its reference behind and nothing else. -/
theorem step_fst_of_fault {a : Assembler} {step : Step} {s : Site} {id : Nat}
    (href : step.reference? = some (s, id)) (hid : (a.labels.get id).offset? = none)
    (hfault : (a.step step).2 ≠ none) :
    (a.step step).1 =
      { a with
        labels := a.labels.insert
          ⟨id, .unbound ((a.labels.get id).references ++ [⟨a.pc, s.kind⟩])⟩ } := by
  cases step with
  | call c =>
    obtain rfl := Call.eq_transfer_of_reference? href
    exact call_fst_of_fault hid hfault
  | within compressible c =>
    obtain rfl := Call.eq_transfer_of_reference? href
    -- Leaving the region gives back the flags that entering it saved.
    have hcall := call_fst_of_fault (a := a.enter compressible) hid hfault
    exact congrArg leave hcall
  | bind n => cases href
  | enter compressible => cases href
  | leave => cases href

/-- What is left behind designates no emitted instruction. -/
theorem Strands.not_pendingSound {a : Assembler} {s : Step} (h : a.Strands s)
    (starts : List Nat) : ¬ (a.step s).1.PendingSound starts := by
  obtain ⟨⟨site, id⟩, href, hid, hfault⟩ := h
  rw [step_fst_of_fault href hid hfault]
  intro hsound
  have hmem : (⟨a.pc, site.kind⟩ : Reference) ∈ ((a.labels.insert
      ⟨id, .unbound ((a.labels.get id).references ++ [⟨a.pc, site.kind⟩])⟩).get id).references := by
    exact LabelTable.mem_references_insert_unbound.2 (.inr ⟨rfl, rfl⟩)
  -- The reference is at the end of the buffer, where no code lies.
  obtain ⟨-, s, c, -, -, hholds, -⟩ := hsound.placed id _ hmem
  have hle : a.pc + c.size ≤ a.pc := hholds.le_offset
  have hpos := c.size_pos
  omega

theorem strandsNone_of_pendingSound {a : Assembler} {steps : List Step}
    (h : ∀ before, before <+: steps → ∃ starts, (a.run before).PendingSound starts) :
    a.StrandsNone steps := by
  induction steps generalizing a with
  | nil => trivial
  | cons s steps ih =>
    constructor
    · intro hstrands
      obtain ⟨starts, hsound⟩ := h [s] (List.prefix_append [s] steps)
      exact hstrands.not_pendingSound starts hsound
    · apply ih
      intro before hbefore
      exact h (s :: before) (List.cons_prefix_cons.2 ⟨rfl, hbefore⟩)

/-- A branch or jump to an unbound label that is refused leaves its reference with the label,
whatever the fault. The waiting references are sound all along a run exactly when this never
happens. -/
theorem pendingSound_iff_strandsNone {capacity : Nat} (hcap : capacity < 2 ^ 64) (useRvc : Bool)
    (steps : List Step) :
    (∀ (a : Assembler) (step : Step) (s : Site) (id : Nat), step.reference? = some (s, id) →
      (a.labels.get id).offset? = none → (a.step step).2 ≠ none →
        (a.step step).1 =
          { a with
            labels := a.labels.insert
              ⟨id, .unbound ((a.labels.get id).references ++ [⟨a.pc, s.kind⟩])⟩ }) ∧
    ((∀ before, before <+: steps →
        ((ofBuffer (.empty capacity) useRvc).run before).PendingSound
          ((ofBuffer (.empty capacity) useRvc).starts before)) ↔
      (ofBuffer (.empty capacity) useRvc).StrandsNone steps) := by
  refine ⟨fun _ _ _ _ => step_fst_of_fault, ?_, ?_⟩
  · intro hsound
    exact strandsNone_of_pendingSound fun before hbefore => ⟨_, hsound before hbefore⟩
  · intro hclean before hbefore
    exact pendingSound_run hcap useRvc (hclean.mono hbefore)

theorem pendingSound_loopAndExit :
    4096 < 2 ^ 64 ∧ (ofBuffer (.empty 4096) true).StrandsNone loopAndExit ∧
      ((ofBuffer (.empty 4096) true).run loopAndExit).PendingSound
        ((ofBuffer (.empty 4096) true).starts loopAndExit) := by
  have hcap : 4096 < 2 ^ 64 := by decide
  have hclean : (ofBuffer (.empty 4096) true).StrandsNone loopAndExit := by decide
  have hsound := (pendingSound_iff_strandsNone hcap true loopAndExit).2.2 hclean
  exact ⟨hcap, hclean, hsound loopAndExit List.prefix_rfl⟩

/-- A compact branch on a register it cannot name is refused, but its label keeps the reference.
The addition that is emitted there instead is turned into another instruction when the label is
bound. -/
theorem exists_strands :
    let a := ofBuffer (.empty 4096) false
    let refused : Step := .call (.transfer (.compactBeqz .ra) (.label 0))
    let add : Step := .call (.instr (.integer (.reg .add ⟨5#5⟩ ⟨6#5⟩ ⟨7#5⟩)) true)
    (a.labels.get 0).references = [] ∧
      (a.step refused).2 = some (.noCompressedEncoding .general 1) ∧
        ((a.step refused).1.labels.get 0).references = [⟨0, .cBranch⟩] ∧
          (a.run [refused, add]).buffer.readWord 0 = .ok 0x7302b3#32 ∧
            (a.run [refused, add, .bind 0]).buffer.readWord 0 = .ok 0x730293#32 := by
  decide +kernel

/-- Where no reference was left behind, a label that is bound without a fault is reached by all that
waited for it. -/
theorem PendingSound.bind_reaches {a : Assembler} {starts : List Nat} (h : a.PendingSound starts)
    (hpc : a.pc < 2 ^ 63) {id : Nat} (hid : (a.labels.get id).offset? = none)
    (hnone : (a.bind id).2 = none) :
    ∀ r ∈ (a.labels.get id).references, (a.bind id).1.buffer.Reaches r a.pc :=
  Assembler.bind_reaches hpc hid hnone (h.apart id)

end Assembler

end RiscvAssembler
