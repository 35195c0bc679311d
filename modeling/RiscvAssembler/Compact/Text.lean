import RiscvAssembler.Compact.Form

/-!
# Compact instructions as text

A form is shown by its name and its operands, each under its own name: registers by name, offsets
and signed immediates in signed and the others in unsigned decimal.
-/

namespace RiscvAssembler

def CompactArithOp.name : CompactArithOp → String
  | sub => "Sub"
  | xor => "Xor"
  | or => "Or"
  | and => "And"
  | subw => "Subw"
  | addw => "Addw"

namespace CompactForm

/-- A name with named values in braces, or alone when there are none. -/
def record (name : String) (values : List (String × String)) : String :=
  match values with
  | [] => name
  | _ =>
    let shown := values.map fun (field, value) => field ++ ": " ++ value
    name ++ " \x7b " ++ ", ".intercalate shown ++ " \x7d"

variable {c : RegisterClass}

def register (field : String) (r : Register c) : String × String :=
  (field, r.name)

def signed (field : String) (x : BitVec 32) : String × String :=
  (field, toString x.toInt)

def unsigned (field : String) (x : BitVec 32) : String × String :=
  (field, toString x.toNat)

def text : CompactForm → String
  | .addi rd imm => record "Addi" [register "rd" rd, signed "imm" imm]
  | .addiw rd imm => record "Addiw" [register "rd" rd, signed "imm" imm]
  | .li rd imm => record "Li" [register "rd" rd, signed "imm" imm]
  | .addi16sp imm => record "Addi16sp" [signed "imm" imm]
  | .addi4spn rd uimm => record "Addi4spn" [register "rd" rd, unsigned "uimm" uimm]
  | .slli rd shamt => record "Slli" [register "rd" rd, unsigned "shamt" shamt]
  | .srli rd shamt => record "Srli" [register "rd" rd, unsigned "shamt" shamt]
  | .srai rd shamt => record "Srai" [register "rd" rd, unsigned "shamt" shamt]
  | .andi rd imm => record "Andi" [register "rd" rd, signed "imm" imm]
  | .arith op rd rs2 => record "Arith" [("op", op.name), register "rd" rd, register "rs2" rs2]
  | .mv rd rs2 => record "Mv" [register "rd" rd, register "rs2" rs2]
  | .add rd rs2 => record "Add" [register "rd" rd, register "rs2" rs2]
  | .lui rd imm => record "Lui" [register "rd" rd, signed "imm" imm]
  | .jr rs1 => record "Jr" [register "rs1" rs1]
  | .jalr rs1 => record "Jalr" [register "rs1" rs1]
  | .j offset => record "J" [signed "offset" offset]
  | .beqz rs1 offset => record "Beqz" [register "rs1" rs1, signed "offset" offset]
  | .bnez rs1 offset => record "Bnez" [register "rs1" rs1, signed "offset" offset]
  | .ebreak => record "Ebreak" []
  | .ld rd rs1 uimm => record "Ld" [register "rd" rd, register "rs1" rs1, unsigned "uimm" uimm]
  | .sd rs2 rs1 uimm => record "Sd" [register "rs2" rs2, register "rs1" rs1, unsigned "uimm" uimm]
  | .lw rd rs1 uimm => record "Lw" [register "rd" rd, register "rs1" rs1, unsigned "uimm" uimm]
  | .sw rs2 rs1 uimm => record "Sw" [register "rs2" rs2, register "rs1" rs1, unsigned "uimm" uimm]
  | .fld rd rs1 uimm => record "Fld" [register "rd" rd, register "rs1" rs1, unsigned "uimm" uimm]
  | .fsd rs2 rs1 uimm =>
    record "Fsd" [register "rs2" rs2, register "rs1" rs1, unsigned "uimm" uimm]
  | .ldsp rd uimm => record "Ldsp" [register "rd" rd, unsigned "uimm" uimm]
  | .sdsp rs2 uimm => record "Sdsp" [register "rs2" rs2, unsigned "uimm" uimm]
  | .lwsp rd uimm => record "Lwsp" [register "rd" rd, unsigned "uimm" uimm]
  | .swsp rs2 uimm => record "Swsp" [register "rs2" rs2, unsigned "uimm" uimm]
  | .fldsp rd uimm => record "Fldsp" [register "rd" rd, unsigned "uimm" uimm]
  | .fsdsp rs2 uimm => record "Fsdsp" [register "rs2" rs2, unsigned "uimm" uimm]

end CompactForm

end RiscvAssembler
