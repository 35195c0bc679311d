import RiscvAssembler.CodeBuffer
import RiscvAssembler.Label

/-!
# Resolving references

A reference is resolved by replacing the displacement of the instruction already in the buffer, so
that it reaches the offset of its label.
-/

namespace RiscvAssembler

/-- The signed distance from one offset to another. -/
def distance (source target : Nat) : Except Fault (BitVec 64) :=
  Checked.subSigned (BitVec.ofNat 64 target) (BitVec.ofNat 64 source)

namespace CodeBuffer

open Displacement

/-- The displacement carried by the instruction at `r`. -/
def displacementAt (b : CodeBuffer) (r : Reference) : Except Fault (BitVec 32) := do
  match r.kind with
  | .branch => return readBranch (← b.readWord r.offset)
  | .jal => return readJump (← b.readWord r.offset)
  | .cBranch => return readCompactBranch (← b.readHalf r.offset)
  | .cJump => return readCompactJump (← b.readHalf r.offset)

/-- The instruction at `r` with the displacement `d`. -/
def redirected (b : CodeBuffer) (r : Reference) (d : BitVec 32) : Except Fault Code := do
  match r.kind with
  | .branch => return .word (← patchBranch (← b.readWord r.offset) d)
  | .jal => return .word (← patchJump (← b.readWord r.offset) d)
  | .cBranch => return .half (← patchCompactBranch (← b.readHalf r.offset) d)
  | .cJump => return .half (← patchCompactJump (← b.readHalf r.offset) d)

/-- The instruction that has to stand at `r` for it to reach `target`. -/
def resolved (b : CodeBuffer) (r : Reference) (target : Nat) : Except Fault Code := do
  let d ← distance r.offset target
  require (r.kind.fits d) (.unreachable r.kind r.offset d.toInt)
  let c ← b.redirected r (d.setWidth 32)
  b.checkPatch r.offset c
  return c

def resolve (b : CodeBuffer) (r : Reference) (target : Nat) : Except Fault CodeBuffer := do
  return b.overwrite r.offset (← b.resolved r target)

/-- Resolves references one after the other. When one cannot reach `target`, those before it stay
resolved and those after it stay as they are. -/
def resolveAll (b : CodeBuffer) (target : Nat) : List Reference → CodeBuffer × Option Fault
  | [] => (b, none)
  | r :: rs =>
    match b.resolved r target with
    | .ok c => (b.overwrite r.offset c).resolveAll target rs
    | .error f => (b, some f)

end CodeBuffer

end RiscvAssembler
