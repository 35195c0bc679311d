/-!
# Register classes

The three register files of the machine: integer, floating-point and vector.
-/

namespace RiscvAssembler

inductive RegisterClass
  | general
  | float
  | vector
  deriving DecidableEq

namespace RegisterClass

def name : RegisterClass → String
  | general => "General"
  | float => "Float"
  | vector => "Vector"

/-- The name of the type whose values are the registers of the class. -/
def typeName : RegisterClass → String
  | general => "Reg"
  | float => "FReg"
  | vector => "VReg"

/-- The letter before the number in a register's name. -/
def letter : RegisterClass → String
  | general => "X"
  | float => "F"
  | vector => "V"

end RegisterClass

end RiscvAssembler
