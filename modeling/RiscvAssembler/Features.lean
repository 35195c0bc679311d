import RiscvAssembler.Text.Blank
import RiscvAssembler.Text.Decimal
import RiscvAssembler.Text.Quoted

/-!
# Capability flags

Which extensions code may use: compact instructions, vector instructions, and the vector size asked
for. The flags start from the environment; a probed vector length is folded into them.
-/

namespace RiscvAssembler

inductive FeatureError
  | invalidValue (name value : String)
  | unsupportedMaxVectorSize (size : Nat)
  deriving DecidableEq

def FeatureError.message : FeatureError → String
  | invalidValue name value => s!"invalid value {Text.quoted value} for {name}"
  | unsupportedMaxVectorSize size => s!"unsupported max vector size: {size}"

structure Features where
  useRvc : Bool
  useRvv : Bool
  /-- Largest vector register in bytes; none when it was not asked for. -/
  maxVectorSize : Option Nat
  deriving DecidableEq

namespace Features

def rvcVariable : String := "RVJIT_USE_RVC"
def rvvVariable : String := "RVJIT_USE_RVV"
def maxVectorSizeVariable : String := "RVJIT_MAX_VECTOR_SIZE"

/-- The smallest vector register, in bytes, that vector code is made for. -/
def minVectorSize : Nat :=
  16

def default : Features :=
  ⟨true, true, none⟩

/-! ## Reading the environment -/

/-- A truth value in any letter case. -/
def truth? (cs : List Char) : Option Bool :=
  let word := String.ofList (cs.map Char.toLower)
  if word ∈ ["1", "true", "on", "yes"] then some true
  else if word ∈ ["0", "false", "off", "no"] then some false
  else none

/-- The value of a variable, read from its text without the white space around it. An unset
variable has the value `otherwise`. -/
def readVariable {α : Type} (lookup : String → Option String) (name : String)
    (parse : List Char → Option α) (otherwise : α) : Except FeatureError α :=
  match lookup name with
  | none => .ok otherwise
  | some value =>
    match parse (Text.trim value.toList) with
    | some x => .ok x
    | none => .error (.invalidValue name value)

/-- The default flags with those that the environment sets. The first invalid variable is
reported. -/
def ofLookup (lookup : String → Option String) : Except FeatureError Features := do
  let useRvc ← readVariable lookup rvcVariable truth? default.useRvc
  let useRvv ← readVariable lookup rvvVariable truth? default.useRvv
  let maxVectorSize ← readVariable lookup maxVectorSizeVariable
    (fun cs => (Text.unsigned? cs).map some) default.maxVectorSize
  return { useRvc, useRvv, maxVectorSize }

/-! ## Folding in a probed length -/

/-- The flags without vector instructions. -/
def withoutVectors (f : Features) : Features :=
  { f with useRvv := false, maxVectorSize := some 0 }

/-- Folds the vector length of the machine, in bytes, into the flags. Length zero means that there
is no vector unit. A size asked for only switches vectors off when it is too small; otherwise it has
to be a power of two and gives way to the length of the machine. -/
def applyVectorLength (f : Features) (length : Nat) : Features × Option FeatureError :=
  if !f.useRvv || length = 0 then
    (f.withoutVectors, none)
  else
    match f.maxVectorSize with
    | none => ({ f with maxVectorSize := some length }, none)
    | some size =>
      if size < minVectorSize then (f.withoutVectors, none)
      else if 1 <<< size.log2 = size then ({ f with maxVectorSize := some length }, none)
      else (f, some (.unsupportedMaxVectorSize size))

end Features

end RiscvAssembler
