import RiscvAssembler.Fault

/-!
# Checked arithmetic

Operations on fixed-width numbers that refuse a result outside the range of the type, and shifts
that refuse an amount of at least the width.
-/

namespace RiscvAssembler

/-- Goes on when `p` holds and stops with `f` otherwise. -/
def require (p : Prop) [Decidable p] (f : Fault) : Except Fault Unit :=
  if p then .ok () else .error f

theorem require_eq_ok_iff {p : Prop} [Decidable p] {f : Fault} {u : Unit} :
    require p f = .ok u ↔ p := by
  unfold require
  split <;> simp_all

namespace Checked

/-- The sum of two unsigned `width`-bit numbers. -/
def add (width a b : Nat) : Except Fault Nat :=
  if a + b < 1 <<< width then .ok (a + b) else .error (.overflow .add)

/-- The difference of two unsigned numbers. -/
def sub (a b : Nat) : Except Fault Nat :=
  if b ≤ a then .ok (a - b) else .error (.overflow .subtract)

/-- The difference of two signed numbers. -/
def subSigned {n : Nat} (a b : BitVec n) : Except Fault (BitVec n) :=
  if a.ssubOverflow b then .error (.overflow .subtract) else .ok (a - b)

def shiftLeft {n : Nat} (x : BitVec n) (amount : Nat) : Except Fault (BitVec n) :=
  if amount < n then .ok (x <<< amount) else .error (.overflow .shiftLeft)

def shiftRight {n : Nat} (x : BitVec n) (amount : Nat) : Except Fault (BitVec n) :=
  if amount < n then .ok (x >>> amount) else .error (.overflow .shiftRight)

/-- The right shift that repeats the sign bit. -/
def signedShiftRight {n : Nat} (x : BitVec n) (amount : Nat) : Except Fault (BitVec n) :=
  if amount < n then .ok (x.sshiftRight amount) else .error (.overflow .shiftRight)

end Checked

end RiscvAssembler
