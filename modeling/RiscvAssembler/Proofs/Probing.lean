import Mathlib.Logic.Relation
import RiscvAssembler.Probe.Basic

/-!
# Probing any machine

The stub returns on every machine, whichever of its two reads trap. Only `a0` is written, so the
state of the hart is the number of the next instruction and the value of `a0`.
-/

namespace RiscvAssembler

/-! ## Steps of a hart -/

section

variable (csrs : CsrFile) (stub : ProbeStub) (entry : BitVec 64)

/-- The hart takes one instruction of the stub. A trap at a fault point goes on at the continuation
with zero in `a0`. -/
inductive Hart.Goes : Hart → Hart → Prop
  | next {h h' : Hart} : h.step csrs stub.buffer entry = .next h' → Goes h h'
  | resume {h : Hart} {pc : BitVec 64} : h.step csrs stub.buffer entry = .trap →
      (stub.points.relocate entry).resumePc h.pc = some pc →
        Goes h { h.write .a0 0#64 with pc }

abbrev Hart.Reaches : Hart → Hart → Prop :=
  Relation.ReflTransGen (Hart.Goes csrs stub entry)

end

namespace Execution

section

variable {csrs : CsrFile} {code : CodeBuffer} {entry pc : BitVec 64} {points : FaultPoints}
  {fuel : Nat} {h h' : Hart} {traps : List (BitVec 64)}

theorem run?_next (hstep : h.step csrs code entry = .next h') :
    run? csrs code entry points (fuel + 1) h traps = run? csrs code entry points fuel h' traps := by
  rw [run?, hstep]

theorem run?_trap (hstep : h.step csrs code entry = .trap)
    (hresume : points.resumePc h.pc = some pc) :
    run? csrs code entry points (fuel + 1) h traps =
      run? csrs code entry points fuel { h.write .a0 0#64 with pc } (traps ++ [h.pc]) := by
  rw [run?, hstep]
  simp only [hresume]

theorem run?_returned (hstep : h.step csrs code entry = .returned) :
    run? csrs code entry points (fuel + 1) h traps = some ⟨h, traps⟩ := by
  rw [run?, hstep]

end

/-- A run takes steps of the hart until the return, and every trap on the way is at a fault
point. -/
theorem run?_sound {csrs : CsrFile} {stub : ProbeStub} {entry : BitVec 64} {fuel : Nat} {h : Hart}
    {traps : List (BitVec 64)} {e : Execution}
    (hrun : run? csrs stub.buffer entry (stub.points.relocate entry) fuel h traps = some e)
    (htraps : ∀ pc ∈ traps, ((stub.points.relocate entry).resumePc pc).isSome) :
    h.Reaches csrs stub entry e.final ∧ e.final.step csrs stub.buffer entry = .returned ∧
      ∀ pc ∈ e.traps, ((stub.points.relocate entry).resumePc pc).isSome := by
  induction fuel generalizing h traps with
  | zero => cases hrun
  | succ fuel ih =>
    cases hstep : h.step csrs stub.buffer entry with
    | next h' =>
      rw [run?_next hstep] at hrun
      obtain ⟨hreaches, hrest⟩ := ih hrun htraps
      exact ⟨.head (.next hstep) hreaches, hrest⟩
    | trap =>
      cases hresume : (stub.points.relocate entry).resumePc h.pc with
      | none =>
        simp only [run?, hstep, hresume] at hrun
        cases hrun
      | some pc =>
        rw [run?_trap hstep hresume] at hrun
        have hpc : ((stub.points.relocate entry).resumePc h.pc).isSome :=
          Option.isSome_of_eq_some hresume
        obtain ⟨hreaches, hrest⟩ := ih hrun
          (List.forall_mem_append.2 ⟨htraps, List.forall_mem_singleton.2 hpc⟩)
        exact ⟨.head (.resume hstep hresume) hreaches, hrest⟩
    | returned =>
      rw [run?_returned hstep] at hrun
      obtain rfl := Option.some.inj hrun
      exact ⟨.refl, hstep, htraps⟩
    | stuck =>
      simp only [run?, hstep] at hrun
      cases hrun

end Execution

/-! ## The generated stub -/

namespace ProbeStub

/-- The hart before instruction `k` of a stub loaded at `entry`, with `x` in `a0` and the initial
values in the other registers. -/
def before (entry : BitVec 64) (regs : Reg → BitVec 64) (k : Nat) (x : BitVec 64) : Hart where
  pc := entry + BitVec.ofNat 64 (4 * k)
  regs r := if r = .a0 then x else regs r

section

variable {csrs : CsrFile} {entry x y : BitVec 64} {regs : Reg → BitVec 64} {k : Nat} {h : Hart}

theorem before_zero : before entry regs 0 (regs .a0) = ⟨entry, regs⟩ := by
  have hregs : (fun r => if r = .a0 then regs .a0 else regs r) = regs := by
    funext r
    split
    next hr => rw [hr]
    next => rfl
  rw [before, hregs, Nat.mul_zero, BitVec.add_zero]

theorem regs_write_before :
    ((before entry regs k x).write .a0 y).regs = (before entry regs 0 y).regs := by
  rw [Hart.write, if_neg (by decide)]
  funext r
  by_cases hr : r = .a0 <;> simp only [before, hr, if_true, if_false]

theorem advance_write_before :
    ((before entry regs k x).write .a0 y).advance = before entry regs (k + 1) y := by
  have hpc : ((before entry regs k x).write .a0 y).pc + 4#64 =
      entry + BitVec.ofNat 64 (4 * (k + 1)) := by
    rw [Hart.write, if_neg (by decide), Nat.mul_succ, BitVec.ofNat_add, ← BitVec.add_assoc]
    rfl
  rw [Hart.advance, hpc, regs_write_before]
  rfl

theorem resume_before :
    { (before entry regs k x).write .a0 0#64 with pc := entry + 16#64 } =
      before entry regs 4 0#64 :=
  congrArg (Hart.mk (entry + 16#64)) regs_write_before

/-- The hart fetches the words of the stub wherever it is loaded. -/
theorem step_before {w : BitVec 32} (hk : k < 5)
    (hw : generate.buffer.readWord (4 * k) = .ok w) :
    (before entry regs k x).step csrs generate.buffer entry =
      (before entry regs k x).execute csrs w := by
  have hoffset : ((before entry regs k x).pc - entry).toNat = 4 * k := by
    rw [before, BitVec.add_comm, BitVec.add_sub_cancel, BitVec.toNat_ofNat]
    exact Nat.mod_eq_of_lt (by omega)
  rw [Hart.step, hoffset, hw]

theorem step_move (hk : k = 0 ∨ k = 2) :
    (before entry regs k x).step csrs generate.buffer entry =
      .next (before entry regs (k + 1) (regs .zero)) := by
  have hw : generate.buffer.readWord (4 * k) = .ok 0x00000513#32 := by
    rcases hk with rfl | rfl <;> rfl
  have hzero : (before entry regs k x).regs .zero + 0#64 = regs .zero := BitVec.add_zero _
  have hexecute : (before entry regs k x).execute csrs 0x00000513#32 =
      .next ((before entry regs k x).write .a0
        ((before entry regs k x).regs .zero + 0#64)).advance := rfl
  rw [step_before (by omega) hw, hexecute, hzero, advance_write_before]

theorem step_read {csr : BitVec 32} (hk : k = 1 ∧ csr = Csr.vcsr ∨ k = 3 ∧ csr = Csr.vlenb) :
    (before entry regs k x).step csrs generate.buffer entry =
      match csrs csr with
      | some value => .next (before entry regs (k + 1) value)
      | none => .trap := by
  have hexecute : (before entry regs k x).step csrs generate.buffer entry =
      match csrs csr with
      | some value => .next ((before entry regs k x).write .a0 value).advance
      | none => .trap := by
    rcases hk with ⟨rfl, rfl⟩ | ⟨rfl, rfl⟩
    · exact step_before (w := 0x00f02573#32) (by decide) rfl
    · exact step_before (w := 0xc2202573#32) (by decide) rfl
  rw [hexecute]
  simp only [advance_write_before]

theorem step_ret : (before entry regs 4 x).step csrs generate.buffer entry = .returned :=
  step_before (w := 0x00008067#32) (by decide) rfl

theorem resumePc_before (hk : k = 1 ∨ k = 3) :
    (generate.points.relocate entry).resumePc (before entry regs k x).pc =
      some (entry + 16#64) := by
  rcases hk with rfl | rfl
  · exact if_pos (.inl rfl)
  · exact if_pos (.inr rfl)

/-- All that an instruction of the stub can do. -/
theorem step_before_cases (hk : k ≤ 4) :
    (k < 4 ∧ ∃ y, (before entry regs k x).step csrs generate.buffer entry =
        .next (before entry regs (k + 1) y)) ∨
      ((before entry regs k x).step csrs generate.buffer entry = .trap ∧
        (generate.points.relocate entry).resumePc (before entry regs k x).pc =
          some (entry + 16#64)) ∨
      (before entry regs k x).step csrs generate.buffer entry = .returned := by
  obtain hmove | hread | rfl : (k = 0 ∨ k = 2) ∨ (k = 1 ∨ k = 3) ∨ k = 4 := by omega
  · exact .inl ⟨by omega, _, step_move hmove⟩
  · obtain ⟨csr, hcsr⟩ : ∃ csr, k = 1 ∧ csr = Csr.vcsr ∨ k = 3 ∧ csr = Csr.vlenb :=
      hread.elim (fun h => ⟨_, .inl ⟨h, rfl⟩⟩) fun h => ⟨_, .inr ⟨h, rfl⟩⟩
    have hstep : (before entry regs k x).step csrs generate.buffer entry = _ := step_read hcsr
    cases hvalue : csrs csr with
    | some value =>
      rw [hvalue] at hstep
      exact .inl ⟨by omega, value, hstep⟩
    | none =>
      rw [hvalue] at hstep
      exact .inr (.inl ⟨hstep, resumePc_before hread⟩)
  · exact .inr (.inr step_ret)

theorem goes_before (hk : k ≤ 4) (hgoes : (before entry regs k x).Goes csrs generate entry h) :
    ∃ k' ≤ 4, ∃ y, h = before entry regs k' y := by
  have hcases : _ ∨ _ ∨ (before entry regs k x).step csrs generate.buffer entry = .returned :=
    step_before_cases hk
  cases hgoes with
  | next hstep =>
    rw [hstep] at hcases
    rcases hcases with ⟨hlt, y, ⟨⟩⟩ | ⟨⟨⟩, -⟩ | ⟨⟨⟩⟩
    exact ⟨k + 1, hlt, y, rfl⟩
  | resume hstep hresume =>
    rw [hstep, hresume] at hcases
    rcases hcases with ⟨-, y, ⟨⟩⟩ | ⟨-, ⟨⟩⟩ | ⟨⟨⟩⟩
    exact ⟨4, Nat.le_refl 4, 0#64, resume_before⟩

/-- Every hart that is reached is before an instruction of the stub. -/
theorem exists_before_of_reaches (hreaches : Hart.Reaches csrs generate entry ⟨entry, regs⟩ h) :
    ∃ k ≤ 4, ∃ y, h = before entry regs k y := by
  induction hreaches with
  | refl => exact ⟨0, by decide, regs .a0, before_zero.symm⟩
  | tail hreaches hgoes ih =>
    obtain ⟨k, hk, y, rfl⟩ := ih
    exact goes_before hk hgoes

end

/-- What the two reads together find: the register length, or zero when either traps. -/
def lengthRead (csrs : CsrFile) : BitVec 64 :=
  match csrs Csr.vcsr, csrs Csr.vlenb with
  | some _, some vlenb => vlenb
  | _, _ => 0#64

/-- Where the run traps. After the first trap nothing more is read. -/
def trapsOf (csrs : CsrFile) (entry : BitVec 64) : List (BitVec 64) :=
  match csrs Csr.vcsr, csrs Csr.vlenb with
  | none, _ => [entry + 4#64]
  | some _, none => [entry + 12#64]
  | some _, some _ => []

variable (csrs : CsrFile) (entry : BitVec 64) (regs : Reg → BitVec 64)

theorem ofStub?_generate :
    Execution.ofStub? csrs generate entry regs =
      some ⟨before entry regs 4 (lengthRead csrs), trapsOf csrs entry⟩ := by
  have hvcsr : (before entry regs 1 (regs .zero)).step csrs generate.buffer entry = _ :=
    step_read (.inl ⟨rfl, rfl⟩)
  have hvlenb : (before entry regs 3 (regs .zero)).step csrs generate.buffer entry = _ :=
    step_read (.inr ⟨rfl, rfl⟩)
  rw [Execution.ofStub?, ← before_zero, show generate.buffer.offset = 20 from rfl,
    Execution.run?_next (step_move (.inl rfl)), lengthRead, trapsOf]
  cases h₁ : csrs Csr.vcsr with
  | none =>
    rw [h₁] at hvcsr
    rw [Execution.run?_trap hvcsr (resumePc_before (.inl rfl)), resume_before,
      Execution.run?_returned step_ret]
    rfl
  | some value =>
    rw [h₁] at hvcsr
    rw [Execution.run?_next hvcsr, Execution.run?_next (step_move (.inr rfl))]
    cases h₂ : csrs Csr.vlenb with
    | none =>
      rw [h₂] at hvlenb
      rw [Execution.run?_trap hvlenb (resumePc_before (.inr rfl)), resume_before,
        Execution.run?_returned step_ret]
      rfl
    | some vlenb =>
      rw [h₂] at hvlenb
      rw [Execution.run?_next hvlenb, Execution.run?_returned step_ret]

end ProbeStub

/-! ## Probing -/

/-- Executes stubs on a hart with the given registers, loaded at `entry`. -/
def Executor.onHart (csrs : CsrFile) (entry : BitVec 64) (regs : Reg → BitVec 64) : Executor :=
  fun stub =>
    match Execution.ofStub? csrs stub entry regs with
    | some e => .ok (e.result.setWidth 32)
    | none => .error (.io "the stub did not return")

namespace Features

theorem fold_zero (f : Features) (points : Option FaultPoints) :
    f.fold 0#32 points = (f.withoutVectors, .ok ⟨0#32, points⟩) := by
  have happly : f.applyVectorLength (0#32).toNat = (f.withoutVectors, none) := by
    rw [applyVectorLength, if_pos]
    rw [Bool.or_eq_true]
    exact .inr rfl
  rw [fold, happly]

theorem probe_onHart {f : Features} (hf : f.useRvv) (csrs : CsrFile) (entry : BitVec 64)
    (regs : Reg → BitVec 64) :
    f.probe (.onHart csrs entry regs) =
      f.fold ((ProbeStub.lengthRead csrs).setWidth 32) (some ProbeStub.generate.points) := by
  rw [probe, if_pos hf, Executor.onHart, ProbeStub.ofStub?_generate]
  rfl

end Features

namespace ProbeStub

/-- Wherever the stub is loaded, whatever the registers hold and whichever reads trap, the run ends
at the final return, traps only at fault points and changes no register but `a0`. It finds the low
half of the register length if neither read traps and zero otherwise, and then probing switches
vector instructions off. -/
theorem generate_probes (csrs : CsrFile) (entry : BitVec 64) (regs : Reg → BitVec 64) :
    let points := generate.points.relocate entry
    (∃ e, Execution.ofStub? csrs generate entry regs = some e ∧
      Hart.Reaches csrs generate entry ⟨entry, regs⟩ e.final ∧
      e.final.pc = points.continuationPc ∧
      e.final.step csrs generate.buffer entry = .returned ∧
      (∀ pc ∈ e.traps, (points.resumePc pc).isSome) ∧
      e.result.setWidth 32 =
        match csrs Csr.vcsr, csrs Csr.vlenb with
        | some _, some vlenb => vlenb.setWidth 32
        | _, _ => 0#32) ∧
    (∀ h, Hart.Reaches csrs generate entry ⟨entry, regs⟩ h → ∀ r, r ≠ .a0 → h.regs r = regs r) ∧
    ∀ f : Features, f.useRvv → csrs Csr.vcsr = none ∨ csrs Csr.vlenb = none →
      f.probe (.onHart csrs entry regs) =
        ({ f with useRvv := false, maxVectorSize := some 0 },
          .ok ⟨0#32, some generate.points⟩) := by
  intro points
  refine ⟨⟨_, ofStub?_generate csrs entry regs, ?_⟩, ?others, ?probing⟩
  · obtain ⟨hreaches, hreturned, htraps⟩ :=
      Execution.run?_sound (ofStub?_generate csrs entry regs) (List.forall_mem_nil _)
    refine ⟨hreaches, rfl, hreturned, htraps, ?_⟩
    change (lengthRead csrs).setWidth 32 = _
    unfold lengthRead
    split <;> rfl
  case others =>
    intro h hreaches r hr
    obtain ⟨k, -, y, rfl⟩ := exists_before_of_reaches hreaches
    exact if_neg hr
  case probing =>
    intro f hf htrap
    have hzero : lengthRead csrs = 0#64 := by
      unfold lengthRead
      split
      next hvcsr hvlenb =>
        rw [hvcsr, hvlenb] at htrap
        exact htrap.elim nofun nofun
      next => rfl
    rw [Features.probe_onHart hf, hzero]
    exact f.fold_zero _

/-- A machine that has the vector control register and lacks the register length. -/
theorem noVlenb_probes :
    Features.default.useRvv ∧ VectorUnit.noVlenb.csrs Csr.vlenb = none ∧
      Features.default.probe VectorUnit.noVlenb.executor =
        ({ Features.default with useRvv := false, maxVectorSize := some 0 },
          .ok ⟨0#32, some generate.points⟩) := by
  have hrvv : Features.default.useRvv := rfl
  have hvlenb : VectorUnit.noVlenb.csrs Csr.vlenb = none := rfl
  obtain ⟨-, -, hprobe⟩ := generate_probes VectorUnit.noVlenb.csrs 0#64 fun _ => 0#64
  exact ⟨hrvv, hvlenb, hprobe .default hrvv (.inr hvlenb)⟩

end ProbeStub

end RiscvAssembler
