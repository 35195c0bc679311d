import Mathlib.Tactic
import RiscvAssembler.Assembler.Basic
import RiscvAssembler.Proofs.Field

/-!
# Runs without faults

A call asks for a list of items, each of which becomes one instruction: code that is settled already
or a reference to a label. The call succeeds when all of them can be placed.
-/

namespace RiscvAssembler

/-- What one instruction of a program asks for. -/
inductive Content
  /-- Code that does not depend on a label. -/
  | fixed (c : Code)
  /-- A branch or jump to a label, made while compression was active or not. -/
  | reference (s : Site) (id : Nat) (active : Bool)
  deriving DecidableEq

/-- What a call asks for, one item for each instruction. -/
def Call.contents (active : Bool) : Call → List (Except Fault Content)
  | .raw c => [.ok (.fixed c)]
  | .instr i mayCompress => [.fixed <$> i.code (active && mayCompress)]
  | .compact form => [.fixed <$> form.code]
  | .transfer s (.displacement d) => [.fixed <$> s.code active d]
  | .transfer s (.label id) => [.ok (.reference s id active)]
  | .compactNop => [.ok (.fixed (.half CompactForm.nopWord))]
  | .nop => [.fixed <$> Instr.nopCode active]
  | .li rd imm => (Instr.loadConstant rd imm).map fun i => .fixed <$> i.code active

theorem Outcome.andThen_eq_iff {o : Outcome} {next : Assembler → Outcome} {a' : Assembler} :
    o.andThen next = (a', none) ↔ ∃ a, o = (a, none) ∧ next a = (a', none) := by
  rcases o with ⟨a, _ | f⟩
  · constructor
    · intro h
      exact ⟨a, rfl, h⟩
    · rintro ⟨_, ⟨⟩, h⟩
      exact h
  · constructor
    · rintro ⟨⟩
    · rintro ⟨_, ⟨⟩, _⟩

theorem Outcome.andThen_pure (o : Outcome) : (o.andThen fun a => (a, none)) = o := by
  rcases o with ⟨a, _ | f⟩ <;> rfl

namespace Assembler

/-- Takes the steps in order and stops at the first that fails. -/
def attempt (a : Assembler) : List Step → Outcome
  | [] => (a, none)
  | s :: steps => (a.step s).andThen fun a => a.attempt steps

def place (a : Assembler) : Content → Outcome
  | .fixed c => a.emit c
  | .reference s id active =>
    let (a, d) := a.resolve (.label id) s.kind
    a.issue (d >>= s.code active)

def placeAll (a : Assembler) : List (Except Fault Content) → Outcome
  | [] => (a, none)
  | .ok content :: contents => (a.place content).andThen fun a => a.placeAll contents
  | .error f :: _ => (a, some f)

theorem callWithin_eq_iff {a a' : Assembler} {compressible : Bool} {c : Call} :
    a.callWithin compressible c = (a', none) ↔
      ∃ a₁, (a.enter compressible).call c = (a₁, none) ∧ a' = a₁.leave := by
  unfold callWithin
  obtain ⟨a₁, fault⟩ := (a.enter compressible).call c
  constructor
  · rintro ⟨⟩
    exact ⟨a₁, rfl, rfl⟩
  · rintro ⟨_, ⟨⟩, rfl⟩
    rfl

theorem buffer_leave (a : Assembler) : a.leave.buffer = a.buffer := by
  unfold leave
  split <;> rfl

theorem labels_leave (a : Assembler) : a.leave.labels = a.labels := by
  unfold leave
  split <;> rfl

theorem capacity_leave (a : Assembler) : a.leave.buffer.capacity = a.buffer.capacity :=
  congrArg CodeBuffer.capacity a.buffer_leave

theorem pc_leave (a : Assembler) : a.leave.pc = a.pc :=
  congrArg CodeBuffer.offset a.buffer_leave

theorem emit_eq_iff {a a' : Assembler} {c : Code} :
    a.emit c = (a', none) ↔
      ∃ room : c.size ≤ a.buffer.remaining, a' = { a with buffer := a.buffer.append c room } := by
  unfold emit
  split
  next room =>
    constructor
    · rintro ⟨⟩
      exact ⟨room, rfl⟩
    · rintro ⟨_, rfl⟩
      rfl
  next full =>
    constructor
    · rintro ⟨⟩
    · rintro ⟨room, _⟩
      exact absurd room full

theorem issue_eq_iff {a a' : Assembler} {x : Except Fault Code} :
    a.issue x = (a', none) ↔ ∃ c, x = .ok c ∧ a.emit c = (a', none) := by
  cases x with
  | ok c =>
    constructor
    · intro h
      exact ⟨c, rfl, h⟩
    · rintro ⟨_, ⟨⟩, h⟩
      exact h
  | error f =>
    constructor
    · rintro ⟨⟩
    · rintro ⟨_, ⟨⟩, _⟩

theorem issue_ok_of_room {a : Assembler} {c : Code} (room : c.size ≤ a.buffer.remaining) :
    a.issue (.ok c) = ({ a with buffer := a.buffer.append c room }, none) :=
  issue_eq_iff.2 ⟨c, rfl, emit_eq_iff.2 ⟨room, rfl⟩⟩

theorem active_emit (a : Assembler) (c : Code) : (a.emit c).1.active = a.active := by
  unfold emit
  split <;> rfl

theorem active_issue (a : Assembler) (x : Except Fault Code) :
    (a.issue x).1.active = a.active := by
  cases x with
  | ok c => exact a.active_emit c
  | error f => rfl

theorem placeAll_singleton (a : Assembler) (content : Content) :
    a.placeAll [.ok content] = a.place content :=
  (a.place content).andThen_pure

theorem placeAll_map_fixed (a : Assembler) (x : Except Fault Code)
    (contents : List (Except Fault Content)) :
    a.placeAll ((.fixed <$> x) :: contents) =
      (a.issue x).andThen fun a => a.placeAll contents := by
  cases x <;> rfl

theorem issueAll_eq_placeAll (a : Assembler) (is : List Instr) :
    a.issueAll is = a.placeAll (is.map fun i => .fixed <$> i.code a.active) := by
  induction is generalizing a with
  | nil => rfl
  | cons i is ih =>
    have hactive := active_issue a (i.code a.active)
    rw [issueAll, List.map_cons, placeAll_map_fixed]
    generalize a.issue (i.code a.active) = o at hactive ⊢
    obtain ⟨b, _ | f⟩ := o
    · change b.issueAll is = b.placeAll _
      rw [ih b, ← hactive]
    · rfl

theorem active_resolve (a : Assembler) (t : Target) (kind : ReferenceKind) :
    (a.resolve t kind).1.active = a.active := by
  unfold resolve
  cases t with
  | displacement d => rfl
  | label id =>
    dsimp only
    split
    · rfl
    · split <;> rfl

/-- A call places its contents. -/
theorem call_eq_placeAll (a : Assembler) (c : Call) :
    a.call c = a.placeAll (c.contents a.active) := by
  have hone : ∀ x : Except Fault Code, a.issue x = a.placeAll [.fixed <$> x] := by
    intro x
    rw [placeAll_map_fixed]
    exact (a.issue x).andThen_pure.symm
  cases c with
  | raw c => exact (a.placeAll_singleton (.fixed c)).symm
  | instr i mayCompress => exact hone _
  | compact form => exact hone _
  | transfer s t =>
    cases t with
    | displacement d => exact hone _
    | label id =>
      rw [Call.contents, placeAll_singleton, place, ← a.active_resolve (.label id) s.kind]
      rfl
  | compactNop => exact (a.placeAll_singleton (.fixed (.half CompactForm.nopWord))).symm
  | nop => exact hone _
  | li rd imm => exact a.issueAll_eq_placeAll _

theorem attempt_append (a : Assembler) (steps more : List Step) :
    a.attempt (steps ++ more) = (a.attempt steps).andThen fun a => a.attempt more := by
  induction steps generalizing a with
  | nil => rfl
  | cons s steps ih =>
    rw [List.cons_append, attempt, attempt, Outcome.andThen_assoc]
    exact congrArg _ (funext ih)

theorem attempt_induction {P : Assembler → Prop} {a : Assembler}
    (hstep : ∀ a s, P a → P (a.step s).1) (h : P a) (steps : List Step) :
    P (a.attempt steps).1 := by
  induction steps generalizing a with
  | nil => exact h
  | cons s steps ih =>
    have hfirst := hstep a s h
    rw [attempt]
    generalize a.step s = o at hfirst ⊢
    obtain ⟨a₁, _ | f⟩ := o
    · exact ih hfirst
    · exact hfirst

end Assembler

end RiscvAssembler
