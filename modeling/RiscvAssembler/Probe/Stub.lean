import RiscvAssembler.Assembler.Basic
import RiscvAssembler.Csr

/-!
# The probe stub

A function of five instructions that reads the vector control register and then the vector register
length. Without a vector unit a read traps, and execution goes on at the final return with a result
of zero.
-/

namespace RiscvAssembler

/-- The addresses of the two reads that may trap, and where execution goes on after a trap. -/
structure FaultPoints where
  faultPc : BitVec 64
  faultPc2 : BitVec 64
  continuationPc : BitVec 64
  deriving DecidableEq

namespace FaultPoints

/-- Where execution goes on after a trap at `pc`, with zero in `a0`. -/
def resumePc (p : FaultPoints) (pc : BitVec 64) : Option (BitVec 64) :=
  if pc = p.faultPc ∨ pc = p.faultPc2 then some p.continuationPc else none

/-- The points of code that is moved to `entry`. -/
def relocate (p : FaultPoints) (entry : BitVec 64) : FaultPoints :=
  ⟨entry + p.faultPc, entry + p.faultPc2, entry + p.continuationPc⟩

end FaultPoints

/-- The code of a stub, with its points relative to the first instruction. -/
structure ProbeStub where
  buffer : CodeBuffer
  points : FaultPoints

namespace ProbeStub

def calls : List Call := [
  Call.mv .a0 .zero,
  Call.csrr .a0 Csr.vcsr,
  Call.mv .a0 .zero,
  Call.csrr .a0 Csr.vlenb,
  Call.ret]

/-- The assembler after the first `n` calls, without compact instructions. -/
def assembled (n : Nat) : Assembler :=
  (Assembler.ofBuffer (.empty CodeBuffer.pageSize) false).run ((calls.take n).map .call)

/-- The offset of the `n`-th instruction, counted from zero. -/
def offsetOf (n : Nat) : BitVec 64 :=
  BitVec.ofNat 64 (assembled n).pc

def generate : ProbeStub where
  buffer := (assembled calls.length).buffer
  points := ⟨offsetOf 1, offsetOf 3, offsetOf 4⟩

end ProbeStub

end RiscvAssembler
