import RiscvAssembler.Format

/-!
# Vector formats

Arithmetic under one major opcode, loads and stores that share the floating-point load and store
opcodes, and the vector type set by the configuration instructions.
-/

namespace RiscvAssembler

/-- Selected element width. -/
inductive Sew
  | e8 | e16 | e32 | e64
  deriving DecidableEq

def Sew.encoding : Sew → BitVec 32
  | e8 => 0#32
  | e16 => 1#32
  | e32 => 2#32
  | e64 => 3#32

/-- The width field of a load or store of elements of this width. -/
def Sew.memWidth : Sew → BitVec 32
  | e8 => 0b000#32
  | e16 => 0b101#32
  | e32 => 0b110#32
  | e64 => 0b111#32

/-- Register group multiplier, an eighth up to eight. -/
inductive Lmul
  | mf8 | mf4 | mf2 | m1 | m2 | m4 | m8
  deriving DecidableEq

def Lmul.encoding : Lmul → BitVec 32
  | mf8 => 0b101#32
  | mf4 => 0b110#32
  | mf2 => 0b111#32
  | m1 => 0b000#32
  | m2 => 0b001#32
  | m4 => 0b010#32
  | m8 => 0b011#32

/-- Whether an instruction runs under the mask in `v0`. -/
inductive VectorMask
  | masked | unmasked
  deriving DecidableEq

def VectorMask.encoding : VectorMask → BitVec 32
  | masked => 0#32
  | unmasked => 1#32

/-- Number of fields of a segment, 1 to 8, stored less one. -/
structure FieldCount where
  pred : BitVec 3
  deriving DecidableEq

namespace FieldCount

def ofNumber (count : Nat) : Except Fault FieldCount :=
  if 1 ≤ count ∧ count ≤ 8 then .ok ⟨BitVec.ofNat 3 (count - 1)⟩ else .error (.fieldCount count)

def one : FieldCount :=
  ⟨0#3⟩

def number (f : FieldCount) : Nat :=
  f.pred.toNat + 1

def name (f : FieldCount) : String :=
  "G" ++ toString f.number

def encoding (f : FieldCount) : BitVec 32 :=
  f.pred.setWidth 32

end FieldCount

/-- The vector type: element width, grouping, tail and mask policy, and the illegal mark. -/
structure VType where
  sew : Sew
  lmul : Lmul
  tailAgnostic : Bool
  maskAgnostic : Bool
  illegal : Bool
  deriving DecidableEq

namespace VType

/-- The illegal type, whose other bits are all zero. -/
def illegalType : VType :=
  ⟨.e8, .m1, false, false, true⟩

/-- The bits of the type from `lsb` up to the illegal mark at `msb`. -/
def fields (t : VType) (msb lsb : Nat) : List Field := [
  ⟨lsb + 2, lsb, t.lmul.encoding⟩,
  ⟨lsb + 5, lsb + 3, t.sew.encoding⟩,
  ⟨lsb + 6, lsb + 6, bitOf t.tailAgnostic⟩,
  ⟨lsb + 7, lsb + 7, bitOf t.maskAgnostic⟩,
  ⟨msb - 1, lsb + 8, 0#32⟩,
  ⟨msb, msb, bitOf t.illegal⟩]

/-- Refuses an illegal type with other bits set. -/
def check (t : VType) : Except Fault Unit :=
  require (t.illegal → t = illegalType) .vtypeNotZero

end VType

namespace VectorFormat

/-- Arithmetic word. `source` carries a vector register, a scalar register or an immediate. -/
def arith (funct6 funct3 vd vs2 source : BitVec 32) (vm : VectorMask) :
    Except Fault (BitVec 32) :=
  pack [⟨6, 0, Opcode.opVector⟩, ⟨11, 7, vd⟩, ⟨14, 12, funct3⟩, ⟨19, 15, source⟩, ⟨24, 20, vs2⟩,
    ⟨25, 25, vm.encoding⟩, ⟨31, 26, funct6⟩]

/-- Load or store word. `selector` carries the stride, the index register or the sort of unit-stride
access, depending on the addressing mode `mop`. -/
def memory (opcode width vd rs1 selector : BitVec 32) (vm : VectorMask) (mop : BitVec 32)
    (count : FieldCount) : Except Fault (BitVec 32) :=
  pack [⟨6, 0, opcode⟩, ⟨11, 7, vd⟩, ⟨14, 12, width⟩, ⟨19, 15, rs1⟩, ⟨24, 20, selector⟩,
    ⟨25, 25, vm.encoding⟩, ⟨27, 26, mop⟩, ⟨28, 28, 0#32⟩, ⟨31, 29, count.encoding⟩]

end VectorFormat

end RiscvAssembler
