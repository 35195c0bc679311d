/-!
# Control and status registers

The addresses of the floating-point, vector and counter registers.
-/

namespace RiscvAssembler.Csr

def fflags : BitVec 32 := 0x001#32
def frm : BitVec 32 := 0x002#32
def fcsr : BitVec 32 := 0x003#32
def vstart : BitVec 32 := 0x008#32
def vxsat : BitVec 32 := 0x009#32
def vxrm : BitVec 32 := 0x00A#32
def vcsr : BitVec 32 := 0x00F#32
def cycle : BitVec 32 := 0xC00#32
def time : BitVec 32 := 0xC01#32
def instret : BitVec 32 := 0xC02#32
def vl : BitVec 32 := 0xC20#32
def vtype : BitVec 32 := 0xC21#32
def vlenb : BitVec 32 := 0xC22#32

/-- Every named register with its address. -/
def named : List (String × BitVec 32) := [
  ("FFLAGS", fflags), ("FRM", frm), ("FCSR", fcsr), ("VSTART", vstart), ("VXSAT", vxsat),
  ("VXRM", vxrm), ("VCSR", vcsr), ("CYCLE", cycle), ("TIME", time), ("INSTRET", instret),
  ("VL", vl), ("VTYPE", vtype), ("VLENB", vlenb)]

end RiscvAssembler.Csr
