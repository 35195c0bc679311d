/-!
# Hexadecimal text

Numbers and bytes in lower-case hexadecimal.
-/

namespace RiscvAssembler.Text

/-- The digits of `n` behind `0x`, without padding. -/
def hex (n : Nat) : String :=
  "0x" ++ String.ofList (Nat.toDigits 16 n)

/-- At least `width` digits, padded with zeros on the left. -/
def paddedHex (width n : Nat) : String :=
  let digits := Nat.toDigits 16 n
  String.ofList (List.replicate (width - digits.length) '0' ++ digits)

def byteHex (b : UInt8) : String :=
  paddedHex 2 b.toNat

end RiscvAssembler.Text
