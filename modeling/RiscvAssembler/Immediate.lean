import RiscvAssembler.Checked

/-!
# Immediate operands

A field of `bits` bits with `alignBits` implicit zero bits below it holds the multiples of
`2 ^ alignBits` that fit `bits + alignBits` bits. A conditional branch displacement, 13 bits and
always even, has 12 bits and one alignment bit.
-/

namespace RiscvAssembler.Immediate

/-- Whether the low `alignBits` bits are zero. -/
def isAligned (value : BitVec 64) (alignBits : Nat) : Bool :=
  value &&& ((1#64 <<< alignBits) - 1#64) == 0#64

/-- Whether a signed field holds `value`: above the field only copies of the sign bit remain. -/
def fitsSigned (value : BitVec 64) (bits alignBits : Nat) : Bool :=
  let high := value.sshiftRight (bits + alignBits - 1)
  (high == 0#64 || high == BitVec.allOnes 64) && isAligned value alignBits

/-- Whether an unsigned field holds `value`. -/
def fitsUnsigned (value : BitVec 64) (bits alignBits : Nat) : Bool :=
  !value.msb && value >>> (bits + alignBits) == 0#64 && isAligned value alignBits

/-- Refuses alignments whose mask has no signed 64-bit value. -/
def checkAlignment (alignBits : Nat) : Except Fault Unit := do
  let _ ← Checked.subSigned (← Checked.shiftLeft 1#64 alignBits) 1#64

/-- `fitsSigned` for widths that are not known to be sensible. -/
def fitsSigned? (value : BitVec 64) (bits alignBits : Nat) : Except Fault Bool := do
  let total ← Checked.add 32 bits alignBits
  require (0 < total) (.overflow .subtract)
  checkAlignment alignBits
  return fitsSigned value bits alignBits

/-- `fitsUnsigned` for widths that are not known to be sensible. A negative value never fits. -/
def fitsUnsigned? (value : BitVec 64) (bits alignBits : Nat) : Except Fault Bool := do
  if value.msb then
    return false
  let _ ← Checked.add 32 bits alignBits
  checkAlignment alignBits
  return fitsUnsigned value bits alignBits

end Immediate

/-- A value with the field that is to hold it. -/
structure Immediate where
  value : BitVec 64
  /-- Width of the field in bits, alignment bits included. -/
  width : Nat
  signed : Bool
  /-- Required alignment in bytes. -/
  align : Nat

namespace Immediate

def ofSigned (value : BitVec 64) (width : Nat) : Immediate :=
  ⟨value, width, true, 1⟩

def ofUnsigned (value : BitVec 64) (width : Nat) : Immediate :=
  ⟨value, width, false, 1⟩

def aligned (i : Immediate) (align : Nat) : Immediate :=
  { i with align }

/-- Whether the field holds the value. The alignment has to be a power of two. -/
def fits (i : Immediate) : Except Fault Bool := do
  let alignBits := i.align.log2
  require (1 <<< alignBits = i.align) .alignmentNotPowerOfTwo
  if i.width < alignBits ∨ i.width = 0 then
    return false
  if i.signed then
    fitsSigned? i.value (i.width - alignBits) alignBits
  else
    fitsUnsigned? i.value (i.width - alignBits) alignBits

end Immediate

end RiscvAssembler
