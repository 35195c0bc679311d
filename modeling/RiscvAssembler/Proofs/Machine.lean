import RiscvAssembler.Proofs.Expansion

/-!
# What instructions do

The machine has 64-bit integer and floating-point registers, a byte-addressed memory and a program
counter. An instruction takes a machine to the next one; it needs the address of the instruction
that follows, where a machine goes that does not branch and which a call leaves in its link
register. Instructions that are the same operation do the same.
-/

namespace RiscvAssembler

structure Machine where
  registers : BitVec 5 → BitVec 64
  floats : BitVec 5 → BitVec 64
  memory : BitVec 64 → BitVec 8
  pc : BitVec 64

namespace Machine

/-- How an instruction ends. -/
inductive Result
  | running (m : Machine)
  | breakpoint (m : Machine)

/-- What an instruction does, given the address of the instruction that follows. -/
abbrev Effect :=
  BitVec 64 → Machine → Result

/-- The value of a register; `x0` is zero. -/
def read (m : Machine) (r : Reg) : BitVec 64 :=
  if r = .zero then 0#64 else m.registers r.index

/-- The machine with a new value in a register; `x0` keeps its value. -/
def write (m : Machine) (r : Reg) (value : BitVec 64) : Machine :=
  if r = .zero then m else { m with registers := Function.update m.registers r.index value }

def readFloat (m : Machine) (r : FReg) : BitVec 64 :=
  m.floats r.index

def writeFloat (m : Machine) (r : FReg) (value : BitVec 64) : Machine :=
  { m with floats := Function.update m.floats r.index value }

def loadWord (m : Machine) (address : BitVec 64) : BitVec 32 :=
  m.memory (address + 3) ++ m.memory (address + 2) ++ m.memory (address + 1) ++ m.memory address

def loadDoubleword (m : Machine) (address : BitVec 64) : BitVec 64 :=
  m.loadWord (address + 4) ++ m.loadWord address

/-- The machine with the low `size` bytes of a value in memory, the lowest first. -/
def store (m : Machine) (address : BitVec 64) (size : Nat) (value : BitVec 64) : Machine :=
  { m with
    memory := fun a =>
      if (a - address).toNat < size then value.extractLsb' (8 * (a - address).toNat) 8
      else m.memory a }

def goto (m : Machine) (address : BitVec 64) : Machine :=
  { m with pc := address }

theorem read_zero (m : Machine) : m.read .zero = 0#64 :=
  if_pos rfl

theorem read_goto (m : Machine) (address : BitVec 64) (r : Reg) :
    (m.goto address).read r = m.read r :=
  rfl

theorem write_zero (m : Machine) (value : BitVec 64) : m.write .zero value = m :=
  if_pos rfl

theorem read_write_self (m : Machine) {r : Reg} (h : r ≠ .zero) (value : BitVec 64) :
    (m.write r value).read r = value := by
  rw [write, if_neg h, read, if_neg h]
  exact Function.update_self ..

theorem read_write_of_ne (m : Machine) {r s : Reg} (h : s ≠ r) (value : BitVec 64) :
    (m.write r value).read s = m.read s := by
  have hindex : s.index ≠ r.index := fun heq => h (congrArg Register.mk heq)
  unfold write
  split
  · rfl
  · simp only [read, Function.update_of_ne hindex]

theorem write_goto_write (m : Machine) (r : Reg) (value value' address : BitVec 64) :
    ((m.write r value).goto address).write r value' = (m.write r value').goto address := by
  simp only [write]
  split
  · rfl
  · simp only [goto, Function.update_idem]

theorem floats_write (m : Machine) (r : Reg) (value : BitVec 64) :
    (m.write r value).floats = m.floats := by
  unfold write
  split <;> rfl

theorem memory_write (m : Machine) (r : Reg) (value : BitVec 64) :
    (m.write r value).memory = m.memory := by
  unfold write
  split <;> rfl

end Machine

open Machine

/-! ## Operations -/

/-- The low 32 bits of a value, as a signed number. -/
def wordResult (x : BitVec 64) : BitVec 64 :=
  (x.setWidth 32).signExtend 64

def RegOp.result? : RegOp → Option (BitVec 64 → BitVec 64 → BitVec 64)
  | add => some fun x y => x + y
  | sub => some fun x y => x - y
  | xor => some fun x y => x ^^^ y
  | or => some fun x y => x ||| y
  | and => some fun x y => x &&& y
  | addw => some fun x y => wordResult (x + y)
  | subw => some fun x y => wordResult (x - y)
  | _ => none

theorem RegOp.result?_comm {op : RegOp} (h : op.isCommutative) :
    (op.result?.map fun f x y => f y x) = op.result? := by
  cases op with
  | add => simp only [result?, Option.map_some, BitVec.add_comm]
  | xor => simp only [result?, Option.map_some, BitVec.xor_comm]
  | or => simp only [result?, Option.map_some, BitVec.or_comm]
  | and => simp only [result?, Option.map_some, BitVec.and_comm]
  | addw => simp only [result?, Option.map_some, BitVec.add_comm]
  | _ => cases h

def ImmOp.result? : ImmOp → Option (BitVec 64 → BitVec 64 → BitVec 64)
  | addi => some fun x y => x + y
  | andi => some fun x y => x &&& y
  | addiw => some fun x y => wordResult (x + y)
  | _ => none

def ShiftOp.result? : ShiftOp → Option (BitVec 64 → Nat → BitVec 64)
  | slli => some fun x n => x <<< n
  | srli => some fun x n => x >>> n
  | srai => some fun x n => x.sshiftRight n
  | _ => none

def LoadOp.result? : LoadOp → Option (Machine → BitVec 64 → BitVec 64)
  | lw => some fun m address => (m.loadWord address).signExtend 64
  | ld => some loadDoubleword
  | _ => none

/-- The number of bytes that a store writes. -/
def StoreOp.size? : StoreOp → Option Nat
  | sw => some 4
  | sd => some 8
  | _ => none

def Condition.holds (x y : BitVec 64) : Condition → Bool
  | eq => x = y
  | ne => x ≠ y
  | lt => x.slt y
  | ge => !x.slt y
  | ltu => x.ult y
  | geu => !x.ult y

/-! ## Instructions -/

def IntegerInstr.effect? : IntegerInstr → Option Effect
  | .reg op rd rs1 rs2 => op.result?.map fun f next m =>
    .running ((m.write rd (f (m.read rs1) (m.read rs2))).goto next)
  | .imm op rd rs1 value => op.result?.map fun f next m =>
    .running ((m.write rd (f (m.read rs1) (value.signExtend 64))).goto next)
  | .shift op rd rs1 shamt => op.result?.map fun f next m =>
    .running ((m.write rd (f (m.read rs1) shamt.toNat)).goto next)
  | .upper .lui rd value => some fun next m =>
    .running ((m.write rd (value.signExtend 64)).goto next)
  | .load op rd rs1 offset => op.result?.map fun f next m =>
    .running ((m.write rd (f m (m.read rs1 + offset.signExtend 64))).goto next)
  | .store op rs2 rs1 offset => op.size?.map fun size next m =>
    .running ((m.store (m.read rs1 + offset.signExtend 64) size (m.read rs2)).goto next)
  | .branch cond rs1 rs2 d => some fun next m =>
    .running (m.goto
      (if cond.holds (m.read rs1) (m.read rs2) then m.pc + d.signExtend 64 else next))
  | .jal rd d => some fun next m =>
    .running ((m.write rd next).goto (m.pc + d.signExtend 64))
  | .jalr rd rs1 offset => some fun next m =>
    .running ((m.write rd next).goto ((m.read rs1 + offset.signExtend 64) &&& ~~~1#64))
  | .ebreak => some fun _ m => .breakpoint m
  | _ => none

def FloatInstr.effect? : FloatInstr → Option Effect
  | .load .double rd rs1 offset => some fun next m =>
    .running ((m.writeFloat rd (m.loadDoubleword (m.read rs1 + offset.signExtend 64))).goto next)
  | .store .double rs2 rs1 offset => some fun next m =>
    .running ((m.store (m.read rs1 + offset.signExtend 64) 8 (m.readFloat rs2)).goto next)
  | _ => none

namespace Instr

def effect? : Instr → Option Effect
  | .integer i => i.effect?
  | .float i => i.effect?
  | .vector _ => none

theorem exists_effect?_eq_some {i : Instr} (h : i.isDecodable) : ∃ e, i.effect? = some e := by
  cases i with
  | integer i =>
    cases i with
    | reg op rd rs1 rs2 => cases op <;> first | exact ⟨_, rfl⟩ | cases h
    | imm op rd rs1 value => cases op <;> first | exact ⟨_, rfl⟩ | cases h
    | shift op rd rs1 shamt => cases op <;> first | exact ⟨_, rfl⟩ | cases h
    | upper op rd value => cases op <;> first | exact ⟨_, rfl⟩ | cases h
    | load op rd rs1 offset => cases op <;> first | exact ⟨_, rfl⟩ | cases h
    | store op rs2 rs1 offset => cases op <;> first | exact ⟨_, rfl⟩ | cases h
    | branch cond rs1 rs2 offset => exact ⟨_, rfl⟩
    | jal rd offset => exact ⟨_, rfl⟩
    | jalr rd rs1 offset => exact ⟨_, rfl⟩
    | ebreak => exact ⟨_, rfl⟩
    | _ => cases h
  | float i =>
    cases i with
    | load fmt rd rs1 offset => cases fmt <;> first | exact ⟨_, rfl⟩ | cases h
    | store fmt rs2 rs1 offset => cases fmt <;> first | exact ⟨_, rfl⟩ | cases h
    | _ => cases h
  | vector i => cases h

/-- The same operation with the same displacement has the same effect. -/
theorem SameOperation.effect?_eq {i j : Instr} (h : SameOperation Eq i j) :
    i.effect? = j.effect? := by
  cases h with
  | same hd => rfl
  | @swap op hop rd rs1 rs2 =>
    simp only [effect?, IntegerInstr.effect?]
    rw [← RegOp.result?_comm hop, Option.map_map, RegOp.result?_comm hop]
    rfl
  | move rd rs =>
    have hzero : ∀ m : Machine, m.read .zero + m.read rs = m.read rs + (0#32).signExtend 64 := by
      intro m
      rw [read_zero, BitVec.zero_add]
      exact (BitVec.add_zero _).symm
    simp only [effect?, addi, IntegerInstr.effect?, RegOp.result?, ImmOp.result?, Option.map_some,
      hzero]
  | branch cond rs1 rs2 hd => rw [hd]
  | jal rd hd => rw [hd]

end Instr

/-! ## Codes -/

namespace Code

/-- The instruction that the code stands for. -/
def instr? : Code → Option Instr
  | .half h => Instr.ofHalf? h
  | .word w => Instr.decode? w

def effect? (c : Code) : Option Effect :=
  c.instr?.bind Instr.effect?

end Code

end RiscvAssembler
