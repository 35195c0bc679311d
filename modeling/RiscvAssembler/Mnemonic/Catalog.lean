import RiscvAssembler.Mnemonic.Compact
import RiscvAssembler.Mnemonic.Float
import RiscvAssembler.Mnemonic.Integer
import RiscvAssembler.Mnemonic.Vector

/-!
# The catalog of mnemonics

All mnemonics of the assembler, to be looked up by name.
-/

namespace RiscvAssembler.Mnemonic

def catalog : List Mnemonic :=
  integer ++ float ++ compact ++ vector

def find? (name : String) : Option Mnemonic :=
  catalog.find? (·.name == name)

end RiscvAssembler.Mnemonic
