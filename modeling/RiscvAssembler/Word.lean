import RiscvAssembler.Checked

/-!
# Bit fields of instruction words

A word is 16 or 32 bits wide. A field is an inclusive range of bits `[msb:lsb]`; writing one clears
the range and leaves every other bit alone. Encoders build a word by packing a list of fields.
-/

namespace RiscvAssembler

/-- The low `n` bits set, all of them from 32 on. -/
def rightBits (n : Nat) : BitVec 32 :=
  if 32 ≤ n then BitVec.allOnes 32 else (1#32 <<< n) - 1#32

/-- The single bit `n`. -/
def nthBit (n : Nat) : Except Fault (BitVec 32) :=
  Checked.shiftLeft 1#32 n

/-- The low `bits` bits of `value`, read as a signed number. -/
def signExtendLow (value : BitVec 32) (bits : Nat) : Except Fault (BitVec 32) := do
  let unused ← Checked.sub 32 bits
  Checked.signedShiftRight (← Checked.shiftLeft value unused) unused

/-- Bits `msb` down to `lsb` of `x`, moved to the bottom. -/
def slice {n : Nat} (x : BitVec n) (msb lsb : Nat) : BitVec 32 :=
  (x.extractLsb' lsb (msb - lsb + 1)).setWidth 32

namespace Word

variable {n : Nat}

def checkRange (width msb lsb : Nat) : Except Fault Unit := do
  require (lsb ≤ msb) (.invertedRange msb lsb)
  require (msb < width) (.bitOutsideWord msb width)

/-- The mask of a field at the bottom of the word. -/
def fieldMask (msb lsb : Nat) : Except Fault (BitVec 32) := do
  return rightBits (← Checked.add 32 (← Checked.sub msb lsb) 1)

/-- The unsigned value of a field. -/
def extract (w : BitVec n) (msb lsb : Nat) : Except Fault (BitVec 32) := do
  checkRange n msb lsb
  let low ← Checked.shiftRight (w.setWidth 32) lsb
  return low &&& (← fieldMask msb lsb)

/-- The signed value of a field. -/
def sextract (w : BitVec n) (msb lsb : Nat) : Except Fault (BitVec 32) := do
  checkRange n msb lsb
  let unused ← Checked.sub 31 msb
  let top ← Checked.shiftLeft (w.setWidth 32) unused
  Checked.signedShiftRight top (← Checked.add 32 unused lsb)

/-- Writes `value` into a field. -/
def patch (w : BitVec n) (msb lsb : Nat) (value : BitVec 32) : Except Fault (BitVec n) := do
  checkRange n msb lsb
  let mask ← fieldMask msb lsb
  require (value ≤ mask) (.fieldTooBig value msb lsb)
  let kept := w.setWidth 32 &&& ~~~(← Checked.shiftLeft mask lsb)
  return (kept ||| (← Checked.shiftLeft value lsb)).setWidth n

end Word

/-- A value and the bits of a word that carry it. -/
structure Field where
  msb : Nat
  lsb : Nat
  value : BitVec 32
  deriving DecidableEq

/-- Writes fields one after the other, stopping at the first that cannot be written. -/
def patchAll {n : Nat} (w : BitVec n) (fields : List Field) : Except Fault (BitVec n) :=
  fields.foldlM (fun w f => Word.patch w f.msb f.lsb f.value) w

theorem patchAll_nil {n : Nat} (w : BitVec n) : patchAll w [] = .ok w :=
  rfl

theorem patchAll_cons {n : Nat} (w : BitVec n) (f : Field) (fields : List Field) :
    patchAll w (f :: fields) =
      Word.patch w f.msb f.lsb f.value >>= fun w => patchAll w fields :=
  rfl

/-- The word that carries `fields` and is zero elsewhere. -/
def pack {n : Nat} (fields : List Field) : Except Fault (BitVec n) :=
  patchAll 0 fields

end RiscvAssembler
