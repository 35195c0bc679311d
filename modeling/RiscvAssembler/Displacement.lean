import RiscvAssembler.Immediate
import RiscvAssembler.Word

/-!
# Displacement fields

Branches and jumps carry an even displacement whose bits are scattered over the word. Patching
replaces those bits of an existing instruction and nothing else; reading gathers them again.
-/

namespace RiscvAssembler

/-- Whether an instruction of kind `k` can carry the displacement. -/
def ReferenceKind.fits (k : ReferenceKind) (displacement : BitVec 64) : Bool :=
  Immediate.fitsSigned displacement (k.offsetBits - 1) 1

namespace Displacement

/-- Refuses a displacement that an instruction of kind `k` cannot carry. -/
def check (k : ReferenceKind) (operand : RangedOperand) (d : BitVec 32) : Except Fault Unit :=
  require (k.fits (d.signExtend 64)) (.outOfRange operand d.toInt)

def patchBranch (w : BitVec 32) (d : BitVec 32) : Except Fault (BitVec 32) := do
  check .branch .branchOffset d
  patchAll w [⟨7, 7, slice d 11 11⟩, ⟨11, 8, slice d 4 1⟩, ⟨30, 25, slice d 10 5⟩,
    ⟨31, 31, slice d 12 12⟩]

def readBranch (w : BitVec 32) : BitVec 32 :=
  (w.extractLsb' 31 1 ++ w.extractLsb' 7 1 ++ w.extractLsb' 25 6 ++ w.extractLsb' 8 4 ++
    0#1).signExtend 32

def patchJump (w : BitVec 32) (d : BitVec 32) : Except Fault (BitVec 32) := do
  check .jal .jumpOffset d
  patchAll w [⟨19, 12, slice d 19 12⟩, ⟨20, 20, slice d 11 11⟩, ⟨30, 21, slice d 10 1⟩,
    ⟨31, 31, slice d 20 20⟩]

def readJump (w : BitVec 32) : BitVec 32 :=
  (w.extractLsb' 31 1 ++ w.extractLsb' 12 8 ++ w.extractLsb' 20 1 ++ w.extractLsb' 21 10 ++
    0#1).signExtend 32

def patchCompactBranch (w : BitVec 16) (d : BitVec 32) : Except Fault (BitVec 16) := do
  check .cBranch .compactBranchOffset d
  patchAll w [⟨2, 2, slice d 5 5⟩, ⟨4, 3, slice d 2 1⟩, ⟨6, 5, slice d 7 6⟩,
    ⟨11, 10, slice d 4 3⟩, ⟨12, 12, slice d 8 8⟩]

def readCompactBranch (w : BitVec 16) : BitVec 32 :=
  (w.extractLsb' 12 1 ++ w.extractLsb' 5 2 ++ w.extractLsb' 2 1 ++ w.extractLsb' 10 2 ++
    w.extractLsb' 3 2 ++ 0#1).signExtend 32

def patchCompactJump (w : BitVec 16) (d : BitVec 32) : Except Fault (BitVec 16) := do
  check .cJump .compactJumpOffset d
  patchAll w [⟨2, 2, slice d 5 5⟩, ⟨5, 3, slice d 3 1⟩, ⟨6, 6, slice d 7 7⟩,
    ⟨7, 7, slice d 6 6⟩, ⟨8, 8, slice d 10 10⟩, ⟨10, 9, slice d 9 8⟩, ⟨11, 11, slice d 4 4⟩,
    ⟨12, 12, slice d 11 11⟩]

def readCompactJump (w : BitVec 16) : BitVec 32 :=
  (w.extractLsb' 12 1 ++ w.extractLsb' 8 1 ++ w.extractLsb' 9 2 ++ w.extractLsb' 6 1 ++
    w.extractLsb' 7 1 ++ w.extractLsb' 2 1 ++ w.extractLsb' 11 1 ++ w.extractLsb' 3 3 ++
    0#1).signExtend 32

end Displacement

end RiscvAssembler
