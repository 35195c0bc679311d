import RiscvAssembler.CommandLine.Dump
import RiscvAssembler.CommandLine.Help
import RiscvAssembler.CommandLine.Options
import RiscvAssembler.Probe.Basic

/-!
# The report of the command line

The lines that the program prints: the probe stub when asked for, the vector unit and the flags that
follow from it, and a small function assembled with and without compression when asked for.
-/

namespace RiscvAssembler.CommandLine

open Text

structure Report where
  exitCode : Nat
  output : List String
  /-- What goes to the error output. -/
  errors : Option String
  deriving DecidableEq

namespace Report

def success (output : List String) : Report :=
  ⟨0, output, none⟩

/-- An error with what was going on and why it failed, after the lines printed so far. -/
def failure (output : List String) (context cause : String) : Report :=
  ⟨1, output, some s!"Error: {context}\n\nCaused by:\n    {cause}\n"⟩

def usage (e : UsageError) : Report :=
  ⟨2, [], some s!"error: {e.message}\n"⟩

end Report

/-! ## Sections -/

def pointText (name : String) (offset : BitVec 64) : String :=
  name ++ "+" ++ hex offset.toNat

def stubSection : List String :=
  let stub := ProbeStub.generate
  ["probe stub at ENTRY:"] ++ dump stub.buffer.toList ++ [
    pointText "fault_pc        " stub.points.faultPc,
    pointText "fault_pc2       " stub.points.faultPc2,
    pointText "continuation_pc " stub.points.continuationPc,
    ""]

def flagText (b : Bool) : String :=
  if b then "true" else "false"

def vectorSection (f : Features) (r : ProbeResult) : List String :=
  let size := match f.maxVectorSize with
    | some size => toString size
    | none => "default"
  [
    "vector unit:     " ++ (if r.supported then "present" else "absent"),
    "vlenb:           " ++ toString r.vlenb.toNat,
    "use_rvc:         " ++ flagText f.useRvc,
    "use_rvv:         " ++ flagText f.useRvv,
    "max_vector_size: " ++ size]

/-- A function with a prologue, a forward branch and an epilogue. -/
def demoSteps : List Step := [
  .call (.instr (.addi .sp .sp (-16#32)) true),
  .call (.instr (.integer (.store .sd .ra .sp 8#32)) true),
  .call (.li .a0 0#32),
  .call (.beqz .a1 (.label 0)),
  .call (.instr (.integer (.reg .add .a0 .a0 .a1)) true),
  .bind 0,
  .call (.instr (.integer (.load .ld .ra .sp 8#32)) true),
  .call (.instr (.addi .sp .sp 16#32) true),
  .call .ret]

/-- The bytes of the function, in a compressible region or outside any. -/
def demoCode (f : Features) (compressible : Bool) : List UInt8 :=
  let a := Assembler.ofBuffer (.empty CodeBuffer.defaultSize) f.useRvc
  let a := if compressible then a.enter true else a
  (a.run demoSteps).buffer.toList

def demoSection (f : Features) : List String :=
  let canonical := demoCode f false
  let compact := demoCode f true
  ["", s!"canonical ({canonical.length} bytes):"] ++ dump canonical ++
    [s!"compressible region ({compact.length} bytes):"] ++ dump compact

/-! ## The program -/

/-- The flags of the environment with those that options override. -/
def Options.apply (o : Options) (f : Features) : Features where
  useRvc := f.useRvc && !o.noRvc
  useRvv := f.useRvv && !o.noRvv
  maxVectorSize := o.maxVectorSize <|> f.maxVectorSize

def probeReport (host : Host) (lookup : String → Option String) (o : Options) : Report :=
  match Features.ofLookup lookup with
  | .error e => .failure [] "reading RVJIT_* environment" e.message
  | .ok f =>
    let shown := if o.dump then stubSection else []
    match (o.apply f).detect host with
    | (_, .error e) => .failure shown "vector probe failed" e.message
    | (f, .ok r) =>
      .success (shown ++ vectorSection f r ++ if o.demo then demoSection f else [])

/-- Runs the program on its arguments and environment. -/
def report (host : Host) (lookup : String → Option String) (arguments : List String) : Report :=
  match Options.empty.parse arguments with
  | .error e => .usage e
  | .ok .help => .success (helpSection lookup)
  | .ok .version => .success versionSection
  | .ok (.probe o) =>
    match o.orFromEnvironment lookup with
    | .error e => .usage e
    | .ok o => probeReport host lookup o

end RiscvAssembler.CommandLine
