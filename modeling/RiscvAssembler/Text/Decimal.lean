/-!
# Decimal numbers

The unsigned 64-bit numbers in decimal notation: one or more ASCII digits behind an optional plus
sign, with a value below 2⁶⁴.
-/

namespace RiscvAssembler.Text

/-- The value of a row of digits, each added behind `acc`. -/
def digitsValue? (acc : Nat) : List Char → Option Nat
  | [] => some acc
  | c :: cs => if c.isDigit then digitsValue? (10 * acc + (c.toNat - '0'.toNat)) cs else none

def unsigned? (cs : List Char) : Option Nat :=
  let digits := match cs with
    | '+' :: rest => rest
    | _ => cs
  if digits.isEmpty then none
  else (digitsValue? 0 digits).filter (· < 1 <<< 64)

end RiscvAssembler.Text
