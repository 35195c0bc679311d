import RiscvAssembler.Word

/-!
# Registers

Each class has 32 registers. A register of one class cannot stand where another class is expected.
Registers 8 to 15 can also be named by the three-bit fields of compact instructions.
-/

namespace RiscvAssembler

structure Register (c : RegisterClass) where
  index : BitVec 5
  deriving DecidableEq

/-- Integer registers. -/
abbrev Reg := Register .general

/-- Floating-point registers. -/
abbrev FReg := Register .float

/-- Vector registers. -/
abbrev VReg := Register .vector

namespace Register

variable {c : RegisterClass}

def ofNumber (c : RegisterClass) (number : Nat) : Except Fault (Register c) :=
  if number < 32 then .ok ⟨BitVec.ofNat 5 number⟩ else .error (.noSuchRegister c number)

def number (r : Register c) : Nat :=
  r.index.toNat

theorem number_lt (r : Register c) : r.number < 32 :=
  r.index.isLt

def name (r : Register c) : String :=
  c.letter ++ toString r.number

/-- The five-bit encoding, as an operand of the encoders. -/
def encoding (r : Register c) : BitVec 32 :=
  r.index.setWidth 32

theorem toNat_encoding (r : Register c) : r.encoding.toNat = r.number := by
  have := r.index.isLt
  simp only [encoding, number, BitVec.toNat_setWidth]
  omega

/-- Whether a three-bit field can name the register. -/
def isCompact (r : Register c) : Bool :=
  8 ≤ r.number && r.number ≤ 15

/-- The three-bit encoding. -/
def compactEncoding (r : Register c) : Except Fault (BitVec 32) :=
  if r.isCompact then .ok (r.encoding - 8#32) else .error (.noCompressedEncoding c r.number)

/-- Writes the register into the five bits from `lsb` up. -/
def patchInto {n : Nat} (r : Register c) (w : BitVec n) (lsb : Nat) : Except Fault (BitVec n) := do
  Word.patch w (← Checked.add 32 lsb 4) lsb r.encoding

/-- Writes the register into the three bits from `lsb` up. -/
def patchCompactInto {n : Nat} (r : Register c) (w : BitVec n) (lsb : Nat) :
    Except Fault (BitVec n) := do
  let msb ← Checked.add 32 lsb 2
  Word.patch w msb lsb (← r.compactEncoding)

end Register

namespace Reg

def zero : Reg := ⟨0#5⟩
def ra : Reg := ⟨1#5⟩
def sp : Reg := ⟨2#5⟩
def a0 : Reg := ⟨10#5⟩
def a1 : Reg := ⟨11#5⟩

end Reg

end RiscvAssembler
