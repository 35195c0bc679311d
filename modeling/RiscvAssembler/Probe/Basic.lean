import RiscvAssembler.Features
import RiscvAssembler.Probe.Hart

/-!
# Probing for a vector unit

A probe runs the stub once and folds the vector register length that it reports into the capability
flags. A machine without a vector unit is no error.
-/

namespace RiscvAssembler

inductive ProbeError
  /-- The stub could not be run. -/
  | io (text : String)
  | feature (e : FeatureError)
  deriving DecidableEq

def ProbeError.message : ProbeError → String
  | io text => s!"probe stub: {text}"
  | feature e => e.message

/-- Runs a stub and gives what it leaves in the low half of `a0`. -/
abbrev Executor :=
  ProbeStub → Except ProbeError (BitVec 32)

/-- The vector register length in bytes, zero when there is no vector unit, and the points of the
stub if one was run. -/
structure ProbeResult where
  vlenb : BitVec 32
  points : Option FaultPoints
  deriving DecidableEq

def ProbeResult.supported (r : ProbeResult) : Bool :=
  r.vlenb ≠ 0#32

/-- The machine that the program runs on. -/
structure Host where
  /-- Whether the system advertises a vector unit. -/
  advertisesVectors : Bool
  execute : Executor

/-- A machine of another architecture: it cannot run the stub and has no vector unit. -/
def Host.foreign : Host :=
  ⟨false, fun _ => .ok 0#32⟩

/-- The bit by which a system advertises the vector extension. -/
def vectorCapability : BitVec 64 :=
  1#64 <<< ('V'.toNat - 'A'.toNat)

/-- Executes the stub on a hart with the given vector unit. -/
def VectorUnit.executor (unit : VectorUnit) : Executor := fun stub =>
  match Execution.ofStub? unit.csrs stub 0#64 fun _ => 0#64 with
  | some e => .ok (e.result.setWidth 32)
  | none => .error (.io "the stub did not return")

namespace Features

/-- Folds a probed length into the flags. -/
def fold (f : Features) (vlenb : BitVec 32) (points : Option FaultPoints) :
    Features × Except ProbeError ProbeResult :=
  match f.applyVectorLength vlenb.toNat with
  | (f, none) => (f, .ok ⟨vlenb, points⟩)
  | (f, some e) => (f, .error (.feature e))

/-- Probes for a vector unit, unless vector instructions are off already. -/
def probe (f : Features) (execute : Executor) : Features × Except ProbeError ProbeResult :=
  if f.useRvv then
    match execute .generate with
    | .ok vlenb => f.fold vlenb (some ProbeStub.generate.points)
    | .error e => (f, .error e)
  else
    f.fold 0#32 none

/-- Probes the host, if it advertises a vector unit. -/
def detect (f : Features) (host : Host) : Features × Except ProbeError ProbeResult :=
  { f with useRvv := f.useRvv && host.advertisesVectors }.probe host.execute

end Features

end RiscvAssembler
