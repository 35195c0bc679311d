import RiscvAssembler.Word

/-!
# Machine code

One instruction is a halfword or a word, stored with its least significant byte first.
-/

namespace RiscvAssembler

inductive Code
  | half (w : BitVec 16)
  | word (w : BitVec 32)
  deriving DecidableEq

namespace Code

/-- Byte `i` of `w`, counted from the least significant end. -/
def byteAt {n : Nat} (w : BitVec n) (i : Nat) : UInt8 :=
  ⟨w.extractLsb' (8 * i) 8⟩

def bytes : Code → List UInt8
  | half w => [byteAt w 0, byteAt w 1]
  | word w => [byteAt w 0, byteAt w 1, byteAt w 2, byteAt w 3]

def size : Code → Nat
  | half _ => 2
  | word _ => 4

theorem length_bytes (c : Code) : c.bytes.length = c.size := by
  cases c <;> rfl

theorem even_size (c : Code) : 2 ∣ c.size := by
  cases c with
  | half w => exact Nat.dvd_refl 2
  | word w => exact ⟨2, rfl⟩

end Code

end RiscvAssembler
