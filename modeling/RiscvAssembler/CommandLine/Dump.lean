import RiscvAssembler.Text.Hex

/-!
# Hexadecimal dumps

Sixteen bytes to a line behind their offset, shown as little-endian halfwords with a wider gap after
every second one.
-/

namespace RiscvAssembler.CommandLine

open Text

/-- `xs` in pieces of `n`, the last one possibly shorter. -/
def pieces {α : Type} (n : Nat) (xs : List α) : List (List α) :=
  (List.range ((xs.length + n - 1) / n)).map fun i => (xs.drop (i * n)).take n

def halfwordText (bytes : List UInt8) : String :=
  match bytes with
  | [low, high] => paddedHex 4 (high.toNat * 256 + low.toNat)
  | _ => String.join (bytes.map byteHex)

def dumpLine (offset : Nat) (bytes : List UInt8) : String :=
  let halves := (pieces 2 bytes).zipIdx.map fun (half, i) =>
    (if 0 < i && i % 2 == 0 then "  " else " ") ++ halfwordText half
  paddedHex 4 offset ++ ": " ++ String.join halves

def dump (bytes : List UInt8) : List String :=
  (pieces 16 bytes).zipIdx.map fun (line, i) => dumpLine (i * 16) line

end RiscvAssembler.CommandLine
