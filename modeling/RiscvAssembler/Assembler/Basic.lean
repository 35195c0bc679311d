import RiscvAssembler.Assembler.Call

/-!
# The assembler

The assembler owns a code buffer, the labels made so far and the region flags. A call appends its
instruction; a fault leaves everything that was done before it in place, in particular a reference
to a label, which is recorded before its instruction is encoded.
-/

namespace RiscvAssembler

structure Assembler where
  buffer : CodeBuffer
  labels : LabelTable
  /-- Whether the target has compact instructions. -/
  useRvc : Bool
  /-- Whether the innermost open region is compressible. -/
  inRegion : Bool
  /-- The flags to go back to, innermost region first. -/
  outerRegions : List Bool

/-- The state afterwards, with the fault that stopped the operation. -/
abbrev Outcome :=
  Assembler × Option Fault

/-- Goes on unless a fault stopped the operation. -/
def Outcome.andThen (o : Outcome) (next : Assembler → Outcome) : Outcome :=
  match o with
  | (a, none) => next a
  | (a, some f) => (a, some f)

theorem Outcome.andThen_assoc (o : Outcome) (f g : Assembler → Outcome) :
    (o.andThen f).andThen g = o.andThen fun a => (f a).andThen g := by
  rcases o with ⟨a, _ | _⟩ <;> rfl

namespace Assembler

/-- An assembler that appends to `buffer`, without labels and outside any region. -/
def ofBuffer (buffer : CodeBuffer) (useRvc : Bool) : Assembler where
  buffer := buffer
  labels := .empty
  useRvc := useRvc
  inRegion := false
  outerRegions := []

/-- Where the next instruction goes. -/
def pc (a : Assembler) : Nat :=
  a.buffer.offset

/-- Whether the next instruction is compressed when it can be. -/
def active (a : Assembler) : Bool :=
  a.useRvc && a.inRegion

/-- Makes the label `id` unless it exists. -/
def declare (a : Assembler) (id : Nat) : Assembler :=
  { a with labels := a.labels.declare id }

/-! ## Emission -/

def emit (a : Assembler) (c : Code) : Outcome :=
  if room : c.size ≤ a.buffer.remaining then
    ({ a with buffer := a.buffer.append c room }, none)
  else
    (a, some .bufferFull)

/-- Emits code that may have been refused. -/
def issue (a : Assembler) : Except Fault Code → Outcome
  | .ok c => a.emit c
  | .error f => (a, some f)

def issueAll (a : Assembler) : List Instr → Outcome
  | [] => (a, none)
  | i :: is => (a.issue (i.code a.active)).andThen fun a => a.issueAll is

/-- The displacement to a target. A label that is not bound yet gets a reference from here, and its
displacement is zero for the time being. -/
def resolve (a : Assembler) (t : Target) (kind : ReferenceKind) :
    Assembler × Except Fault (BitVec 32) :=
  match t with
  | .displacement d => (a, .ok d)
  | .label id =>
    let l := a.labels.get id
    match l.offset? with
    | some offset => (a, (distance a.pc offset).map (·.setWidth 32))
    | none =>
      match l.addReference ⟨a.pc, kind⟩ with
      | .ok l => ({ a with labels := a.labels.insert l }, .ok 0#32)
      | .error f => (a, .error f)

def call (a : Assembler) : Call → Outcome
  | .raw c => a.emit c
  | .instr i mayCompress => a.issue (i.code (a.active && mayCompress))
  | .compact form => a.issue form.code
  | .transfer s t =>
    let (a, d) := a.resolve t s.kind
    a.issue (d >>= s.code a.active)
  | .compactNop => a.emit (.half CompactForm.nopWord)
  | .nop => a.issue (Instr.nopCode a.active)
  | .li rd imm => a.issueAll (Instr.loadConstant rd imm)

/-- Makes a call up to `n` times and counts those that succeed. -/
def repeatCall (a : Assembler) (c : Call) (n : Nat) : Nat × Outcome :=
  go a 0 n
where
  go (a : Assembler) (count : Nat) : Nat → Nat × Outcome
    | 0 => (count, a, none)
    | n + 1 =>
      match a.call c with
      | (a, none) => go a (count + 1) n
      | (a, some f) => (count, a, some f)

/-! ## Labels -/

/-- Binds a label here and resolves its references. The label stays bound when one of them is out
of reach. -/
def bind (a : Assembler) (id : Nat) : Outcome :=
  match (a.labels.get id).bind a.pc with
  | .ok (l, references) =>
    let target := a.pc
    let (buffer, fault) := a.buffer.resolveAll target references
    ({ a with buffer, labels := a.labels.insert l }, fault)
  | .error f => (a, some f)

/-! ## Regions -/

/-- Opens a region in which instructions are compressed or not. -/
def enter (a : Assembler) (compressible : Bool) : Assembler :=
  { a with inRegion := compressible, outerRegions := a.inRegion :: a.outerRegions }

/-- Closes the innermost region. -/
def leave (a : Assembler) : Assembler :=
  match a.outerRegions with
  | [] => a
  | outer :: rest => { a with inRegion := outer, outerRegions := rest }

/-- Makes a call in a region of its own, which is closed also when the call fails. -/
def callWithin (a : Assembler) (compressible : Bool) (c : Call) : Outcome :=
  let (a, fault) := (a.enter compressible).call c
  (a.leave, fault)

end Assembler

/-! ## Runs -/

inductive Step
  | call (c : Call)
  | bind (id : Nat)
  | enter (compressible : Bool)
  | leave
  | within (compressible : Bool) (c : Call)
  deriving DecidableEq

namespace Assembler

def step (a : Assembler) : Step → Outcome
  | .call c => a.call c
  | .bind id => a.bind id
  | .enter compressible => (a.enter compressible, none)
  | .leave => (a.leave, none)
  | .within compressible c => a.callWithin compressible c

/-- Takes every step, also after one that failed. -/
def run (a : Assembler) (steps : List Step) : Assembler :=
  steps.foldl (fun a s => (a.step s).1) a

theorem run_nil (a : Assembler) : a.run [] = a :=
  rfl

theorem run_cons (a : Assembler) (s : Step) (steps : List Step) :
    a.run (s :: steps) = (a.step s).1.run steps :=
  rfl

theorem run_append (a : Assembler) (steps more : List Step) :
    a.run (steps ++ more) = (a.run steps).run more :=
  List.foldl_append

end Assembler

end RiscvAssembler
