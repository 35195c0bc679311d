/-!
# Major opcodes

The low seven bits of every 32-bit instruction.
-/

namespace RiscvAssembler.Opcode

def load : BitVec 32 := 0b0000011#32
def loadFloat : BitVec 32 := 0b0000111#32
def miscMem : BitVec 32 := 0b0001111#32
def opImm : BitVec 32 := 0b0010011#32
def auipc : BitVec 32 := 0b0010111#32
def opImm32 : BitVec 32 := 0b0011011#32
def store : BitVec 32 := 0b0100011#32
def storeFloat : BitVec 32 := 0b0100111#32
def amo : BitVec 32 := 0b0101111#32
def op : BitVec 32 := 0b0110011#32
def lui : BitVec 32 := 0b0110111#32
def op32 : BitVec 32 := 0b0111011#32
def madd : BitVec 32 := 0b1000011#32
def msub : BitVec 32 := 0b1000111#32
def nmsub : BitVec 32 := 0b1001011#32
def nmadd : BitVec 32 := 0b1001111#32
def opFloat : BitVec 32 := 0b1010011#32
def opVector : BitVec 32 := 0b1010111#32
def branch : BitVec 32 := 0b1100011#32
def jalr : BitVec 32 := 0b1100111#32
def jal : BitVec 32 := 0b1101111#32
def system : BitVec 32 := 0b1110011#32

end RiscvAssembler.Opcode
