import RiscvAssembler.Proofs.Action
import RiscvAssembler.Proofs.Following
import RiscvAssembler.Proofs.InstructionLength

/-!
# Pseudo-instructions mean what they say

A `PseudoOp` is named for its result, a `PseudoTransfer` for the comparison on which it is taken.
The names say on their own what the machine does; the calls that they stand for emit one code, in
whatever region, and its action is what the name says. A transfer to a label that is not bound yet
gets its action when the label is bound.
-/

namespace RiscvAssembler

open Immediate Machine

/-! ## Names and meanings -/

/-- A function of one register. -/
inductive UnaryOp
  | mv
  | not
  | neg
  | negw
  | sextW
  | zextW
  deriving DecidableEq

namespace UnaryOp

def value (x : BitVec 64) : UnaryOp → BitVec 64
  | mv => x
  | not => ~~~x
  | neg => -x
  | negw => (-x.setWidth 32).signExtend 64
  | sextW => (x.setWidth 32).signExtend 64
  | zextW => (x.setWidth 32).zeroExtend 64

def call (rd rs : Reg) : UnaryOp → Call
  | mv => .mv rd rs
  | not => .not rd rs
  | neg => .neg rd rs
  | negw => .negw rd rs
  | sextW => .sextW rd rs
  | zextW => .zextW rd rs

end UnaryOp

/-- A pseudo-instruction without a target. -/
inductive PseudoOp
  | nop
  | unary (op : UnaryOp) (rd rs : Reg)
  | jr (rs : Reg)
  | ret
  deriving DecidableEq

namespace PseudoOp

def call : PseudoOp → Call
  | nop => .nop
  | unary op rd rs => op.call rd rs
  | jr rs => .jr rs
  | ret => .ret

/-- The machine afterwards. A jump to a register clears the lowest bit of the address. -/
def after (next : BitVec 64) (m : Machine) : PseudoOp → Machine
  | nop => m.goto next
  | unary op rd rs => (m.write rd (op.value (m.read rs))).goto next
  | jr rs => m.goto (m.read rs &&& ~~~1#64)
  | ret => m.goto (m.read .ra &&& ~~~1#64)

def effect (op : PseudoOp) : Effect :=
  fun next m => .running (op.after next m)

end PseudoOp

/-- A pseudo-instruction that goes to a target, always or when its comparison holds. -/
inductive PseudoTransfer
  | j
  | beqz (rs : Reg)
  | bnez (rs : Reg)
  | blez (rs : Reg)
  | bgez (rs : Reg)
  | bltz (rs : Reg)
  | bgtz (rs : Reg)
  | bgt (rs rt : Reg)
  | ble (rs rt : Reg)
  | bgtu (rs rt : Reg)
  | bleu (rs rt : Reg)
  deriving DecidableEq

namespace PseudoTransfer

def call (t : Target) : PseudoTransfer → Call
  | j => .j t
  | beqz rs => .beqz rs t
  | bnez rs => .bnez rs t
  | blez rs => .blez rs t
  | bgez rs => .bgez rs t
  | bltz rs => .bltz rs t
  | bgtz rs => .bgtz rs t
  | bgt rs rt => .bgt rs rt t
  | ble rs rt => .ble rs rt t
  | bgtu rs rt => .bgtu rs rt t
  | bleu rs rt => .bleu rs rt t

def Taken (m : Machine) : PseudoTransfer → Prop
  | j => True
  | beqz rs => m.read rs = 0#64
  | bnez rs => m.read rs ≠ 0#64
  | blez rs => (m.read rs).toInt ≤ 0
  | bgez rs => (m.read rs).toInt ≥ 0
  | bltz rs => (m.read rs).toInt < 0
  | bgtz rs => (m.read rs).toInt > 0
  | bgt rs rt => (m.read rs).toInt > (m.read rt).toInt
  | ble rs rt => (m.read rs).toInt ≤ (m.read rt).toInt
  | bgtu rs rt => (m.read rs).toNat > (m.read rt).toNat
  | bleu rs rt => (m.read rs).toNat ≤ (m.read rt).toNat

instance (m : Machine) : (p : PseudoTransfer) → Decidable (p.Taken m)
  | j => inferInstanceAs (Decidable True)
  | beqz rs => inferInstanceAs (Decidable (m.read rs = 0#64))
  | bnez rs => inferInstanceAs (Decidable (m.read rs ≠ 0#64))
  | blez rs => inferInstanceAs (Decidable ((m.read rs).toInt ≤ 0))
  | bgez rs => inferInstanceAs (Decidable ((m.read rs).toInt ≥ 0))
  | bltz rs => inferInstanceAs (Decidable ((m.read rs).toInt < 0))
  | bgtz rs => inferInstanceAs (Decidable ((m.read rs).toInt > 0))
  | bgt rs rt => inferInstanceAs (Decidable ((m.read rs).toInt > (m.read rt).toInt))
  | ble rs rt => inferInstanceAs (Decidable ((m.read rs).toInt ≤ (m.read rt).toInt))
  | bgtu rs rt => inferInstanceAs (Decidable ((m.read rs).toNat > (m.read rt).toNat))
  | bleu rs rt => inferInstanceAs (Decidable ((m.read rs).toNat ≤ (m.read rt).toNat))

/-- The machine goes `d` bytes further when the transfer is taken, and to the next instruction
otherwise. Nothing else changes. -/
def effect (p : PseudoTransfer) (d : Int) : Effect :=
  fun next m => .running (m.goto (if p.Taken m then m.pc + BitVec.ofInt 64 d else next))

/-- The branch or jump that the pseudo-instruction stands for. -/
def site : PseudoTransfer → Site
  | j => .jump .zero true
  | beqz rs => .branch .eq rs .zero true
  | bnez rs => .branch .ne rs .zero true
  | blez rs => .branch .ge .zero rs true
  | bgez rs => .branch .ge rs .zero true
  | bltz rs => .branch .lt rs .zero true
  | bgtz rs => .branch .lt .zero rs true
  | bgt rs rt => .branch .lt rt rs true
  | ble rs rt => .branch .ge rt rs true
  | bgtu rs rt => .branch .ltu rt rs true
  | bleu rs rt => .branch .geu rt rs true

theorem call_eq (p : PseudoTransfer) (t : Target) : p.call t = .transfer p.site t := by
  cases p <;> rfl

/-- The distances that the instruction can carry. -/
def InRange (p : PseudoTransfer) (d : Int) : Prop :=
  IsSigned p.site.kind.offsetBits 1 d

instance (p : PseudoTransfer) (d : Int) : Decidable (p.InRange d) :=
  inferInstanceAs (Decidable (IsSigned _ _ _))

end PseudoTransfer

/-- How far the target is from the next instruction, when that is known. -/
def Target.distance? (a : Assembler) : Target → Option Int
  | .displacement d => some d.toInt
  | .label id => (a.labels.get id).offset?.map fun (target : Nat) => (target : Int) - a.pc

/-- The call comes down to the emission of one code, which a processor tells apart from what follows
and which has the effect. -/
def Assembler.EmitsActing (a : Assembler) (x : Call) (e : Effect) : Prop :=
  ∃ c : Code, a.call x = a.emit c ∧ c.Delimits ∧ c.action? = some e

theorem Assembler.EmitsActing.appends {a : Assembler} {x : Call} {e : Effect}
    (h : a.EmitsActing x e) (hroom : 4 ≤ a.buffer.remaining) :
    (a.call x).2 = none ∧ ∃ c, a.Appends (a.call x).1 [c] ∧ c.Delimits ∧ c.action? = some e := by
  obtain ⟨c, hcall, hdelimits, haction⟩ := h
  have hemit := emit_eq_iff.2 ⟨c.size_le_four.trans hroom, rfl⟩
  rw [hcall, hemit]
  exact ⟨rfl, c, .append a c _, hdelimits, haction⟩

/-- The code at `source` goes to the label `id`. The label can be bound where all its uses reach it,
and once it is bound the code does what the name says. -/
structure PseudoTransfer.GoesTo (p : PseudoTransfer) (a : Assembler) (source id : Nat) : Prop where
  binds : (a.labels.get id).offset? = none →
    (∀ r ∈ (a.labels.get id).references, r.InReach a.pc) → (a.bind id).2 = none
  acts : ∀ target, (a.labels.get id).offset? = some target →
    p.InRange ((target : Int) - source) ∧
      ∃ c, a.buffer.Holds source c ∧ c.Delimits ∧
        c.action? = some (p.effect ((target : Int) - source))

/-! ## Operations -/

theorem Assembler.emitsActing_instr (a : Assembler) {i : Instr} {e : Effect} (hrow : i.HasRow)
    (hencodable : i.Encodable) (he : i.action? = some e) : a.EmitsActing (.instr i true) e := by
  obtain ⟨c, hc⟩ := (i.exists_code_iff (a.active && true)).2 hencodable
  refine ⟨c, ?_, Instr.delimits_code hc, (Instr.action?_of_code_eq_ok hrow hc).trans he⟩
  rw [call, hc]
  rfl

/-- An instruction that puts a value into a register and goes on to the next. -/
theorem Assembler.emitsActing_write (a : Assembler) {i : Instr} {rd : Reg}
    {f g : Machine → BitVec 64} (hrow : i.HasRow) (hencodable : i.Encodable)
    (hi : i.action? = some fun next m => .running ((m.write rd (f m)).goto next))
    (hvalue : ∀ m, f m = g m) :
    a.EmitsActing (.instr i true) fun next m => .running ((m.write rd (g m)).goto next) := by
  rw [funext hvalue] at hi
  exact a.emitsActing_instr hrow hencodable hi

theorem UnaryOp.emitsActing (op : UnaryOp) (rd rs : Reg) (a : Assembler) :
    a.EmitsActing (op.call rd rs) (PseudoOp.unary op rd rs).effect := by
  obtain ⟨haddi, haddiw, hxori, hsub, hsubw, hadd_uw, -⟩ := Mnemonic.mem_rows_pseudo
  have himm : ∀ {op : ImmOp} {imm : BitVec 32}, IsSigned 12 0 imm.toInt →
      (Instr.integer (.imm op rd rs imm)).Encodable :=
    Instr.encodable_imm_iff.2
  cases op with
  | mv => exact a.emitsActing_write ⟨_, haddi⟩ (himm (by decide)) rfl fun _ => BitVec.add_zero _
  | not => exact a.emitsActing_write ⟨_, hxori⟩ (himm (by decide)) rfl fun _ => BitVec.xor_allOnes
  | neg =>
    refine a.emitsActing_write ⟨_, hsub⟩ (Instr.encodable_reg ..) rfl fun m => ?_
    rw [read_zero]
    exact BitVec.zero_sub _
  | negw =>
    have hvalue : ∀ x : BitVec 64, wordResult (0#64 - x) = (-x.setWidth 32).signExtend 64 := by
      intro x
      rw [BitVec.zero_sub, wordResult, BitVec.setWidth_neg_of_le (by decide)]
    refine a.emitsActing_write ⟨_, hsubw⟩ (Instr.encodable_reg ..) rfl fun m => ?_
    rw [read_zero]
    exact hvalue _
  | sextW =>
    refine a.emitsActing_write ⟨_, haddiw⟩ (himm (by decide)) rfl fun m => ?_
    exact congrArg wordResult (BitVec.add_zero _)
  | zextW =>
    refine a.emitsActing_write ⟨_, hadd_uw⟩ (Instr.encodable_reg ..) rfl fun m => ?_
    rw [read_zero, BitVec.add_zero]
    rfl

namespace PseudoOp

theorem emitsActing_nop (a : Assembler) : a.EmitsActing .nop nop.effect := by
  obtain ⟨haddi, -⟩ := Mnemonic.mem_rows_pseudo
  have hrow : (Instr.addi .zero .zero 0#32).HasRow := ⟨_, haddi⟩
  have haction : (Instr.addi .zero .zero 0#32).action? = some nop.effect := by
    refine congrArg some (funext₂ fun next m => ?_)
    exact congrArg (fun m' : Machine => Result.running (m'.goto next)) (m.write_zero _)
  cases hactive : a.active with
  | true =>
    have hreads : (Code.half CompactForm.nopWord).Reads (.addi .zero .zero 0#32) := if_pos rfl
    refine ⟨_, ?_, Code.delimits_nopWord, (Code.action?_of_reads hrow hreads).trans haction⟩
    rw [Assembler.call, hactive]
    rfl
  | false =>
    obtain ⟨c, hc⟩ : ∃ c, (Instr.addi .zero .zero 0#32).code false = .ok c :=
      (Instr.exists_code_iff _ _).2 (Instr.encodable_imm_iff.2 (by decide))
    refine ⟨c, ?_, Instr.delimits_code hc, (Instr.action?_of_code_eq_ok hrow hc).trans haction⟩
    rw [Assembler.call, hactive, Instr.nopCode, if_neg Bool.false_ne_true, hc]
    rfl

theorem emitsActing_jr (rs : Reg) (a : Assembler) : a.EmitsActing (.jr rs) (jr rs).effect := by
  obtain ⟨-, -, -, -, -, -, -, -, hjalr, -⟩ := Mnemonic.mem_rows_pseudo
  refine a.emitsActing_instr ⟨_, hjalr⟩ (Instr.encodable_jalr_iff.2 (by decide)) ?_
  refine congrArg some (funext₂ fun next m => ?_)
  have htarget : m.read rs + (0#32).signExtend 64 = m.read rs := BitVec.add_zero _
  rw [write_zero, htarget]
  rfl

/-- In whatever region, the call emits one code that does what the name says. -/
theorem emitsActing (op : PseudoOp) (a : Assembler) : a.EmitsActing op.call op.effect := by
  cases op with
  | nop => exact emitsActing_nop a
  | unary op rd rs => exact op.emitsActing rd rs a
  | jr rs => exact emitsActing_jr rs a
  | ret => exact emitsActing_jr .ra a

end PseudoOp

/-! ## Transfers -/

namespace PseudoTransfer

variable {p : PseudoTransfer} {a : Assembler} {active : Bool} {c : Code}

theorem action?_branch {cond : Condition} {rs1 rs2 : Reg}
    (h : ∀ m : Machine, cond.Means (m.read rs1) (m.read rs2) ↔ p.Taken m) (d : BitVec 32) :
    (Instr.integer (.branch cond rs1 rs2 d)).action? = some (p.effect d.toInt) := by
  refine congrArg some (funext₂ fun next m => ?_)
  have htaken : cond.holds (m.read rs1) (m.read rs2) ↔ p.Taken m :=
    (cond.holds_iff _ _).trans (h m)
  rw [if_congr htaken rfl rfl]
  rfl

theorem action?_instr (p : PseudoTransfer) (d : BitVec 32) :
    (p.site.instr d).action? = some (p.effect d.toInt) := by
  cases p with
  | j =>
    refine congrArg some (funext₂ fun next m => ?_)
    have htaken : j.Taken m := trivial
    rw [write_zero, effect, if_pos htaken]
    rfl
  | beqz rs => exact action?_branch (fun m => by rw [read_zero]; rfl) d
  | bnez rs => exact action?_branch (fun m => by rw [read_zero]; rfl) d
  | blez rs => exact action?_branch (fun m => by rw [read_zero]; rfl) d
  | bgez rs => exact action?_branch (fun m => by rw [read_zero]; rfl) d
  | bltz rs => exact action?_branch (fun m => by rw [read_zero]; rfl) d
  | bgtz rs => exact action?_branch (fun m => by rw [read_zero]; rfl) d
  | bgt rs rt => exact action?_branch (fun _ => .rfl) d
  | ble rs rt => exact action?_branch (fun _ => .rfl) d
  | bgtu rs rt => exact action?_branch (fun _ => .rfl) d
  | bleu rs rt => exact action?_branch (fun _ => .rfl) d

theorem hasRow_instr (p : PseudoTransfer) (d : BitVec 32) : (p.site.instr d).HasRow := by
  obtain ⟨-, -, -, -, -, -, -, hjal, -⟩ := Mnemonic.mem_rows_pseudo
  cases p with
  | j => exact ⟨_, hjal⟩
  | _ => exact ⟨_, Mnemonic.mem_rows_branch ..⟩

/-- Compressed or not, a code with the displacement does what the name says. -/
theorem action?_of_code_eq_ok {d : BitVec 32} (h : p.site.code active d = .ok c) :
    c.action? = some (p.effect d.toInt) :=
  (Code.action?_of_reads (p.hasRow_instr d) (Site.reads_of_code_eq_ok h)).trans (p.action?_instr d)

theorem exists_code {d : BitVec 32} (hd : p.InRange d.toInt) (active : Bool) :
    ∃ c, p.site.code active d = .ok c := by
  cases p with
  | j => exact (Instr.exists_code_iff _ _).2 (Instr.encodable_jal_iff.2 hd)
  | _ => exact (Instr.exists_code_iff _ _).2 (Instr.encodable_branch_iff.2 hd)

/-- A target whose displacement is known is reached by one code. -/
theorem emitsActing_of_resolve {t : Target} {d : BitVec 32} (hd : p.InRange d.toInt)
    (hresolve : a.resolve t p.site.kind = (a, .ok d)) :
    a.EmitsActing (p.call t) (p.effect d.toInt) := by
  obtain ⟨c, hc⟩ := exists_code hd a.active
  refine ⟨c, ?_, Site.delimits_code hc, action?_of_code_eq_ok hc⟩
  rw [call_eq, Assembler.call, hresolve]
  change a.issue (p.site.code a.active d) = a.emit c
  rw [hc]
  rfl

theorem InRange.bounds {d : Int} (h : p.InRange d) : -2 ^ 31 ≤ d ∧ d < 2 ^ 31 := by
  have hrange := p.site.kind.abs_lt_of_isSigned h
  omega

theorem emitsActing (ha : a.InBounds) {t : Target} {d : Int} (ht : t.distance? a = some d)
    (hd : p.InRange d) : a.EmitsActing (p.call t) (p.effect d) := by
  cases t with
  | displacement d' =>
    obtain rfl : d'.toInt = d := Option.some.inj ht
    exact emitsActing_of_resolve hd rfl
  | label id =>
    obtain ⟨target, hid, rfl⟩ := Option.map_eq_some_iff.1 ht
    have hcapacity := ha.capacity_lt
    have hpc : a.pc ≤ a.buffer.capacity := a.buffer.size_le
    have htarget := ha.bound id target hid
    have hbetween : (between a.pc target).toInt = (target : Int) - a.pc :=
      toInt_between hd.bounds.1 hd.bounds.2
    have hresolve : a.resolve (.label id) p.site.kind = (a, .ok (between a.pc target)) := by
      have hdistance : distance a.pc target = .ok (BitVec.ofInt 64 (target - a.pc)) :=
        (distance_eq_ok_iff (by omega) (by omega)).2 rfl
      simp only [Assembler.resolve, hid, hdistance, ← setWidth_ofInt_sub]
      rfl
    rw [← hbetween] at hd ⊢
    exact emitsActing_of_resolve hd hresolve

/-- Code that follows a label goes to it. -/
theorem goesTo_of_follows {id : Nat} {r : Reference} {placeholder : Code}
    (h : a.Follows r id placeholder) (hkind : r.kind = p.site.kind)
    (hplaceholder : p.site.code false 0#32 = .ok placeholder) : p.GoesTo a r.offset id where
  binds hid := (Assembler.bind_fault_eq_none_iff h.pc_lt hid).2
  acts := by
    intro target hid
    obtain ⟨hrange, hholds⟩ := h.reaches target hid
    rw [hkind] at hrange hholds
    have hd : p.InRange ((target : Int) - r.offset) := hrange
    have hbetween := toInt_between hd.bounds.1 hd.bounds.2
    have hcode : p.site.code false (between r.offset target) =
        .ok (placeholder.redirect p.site.kind (between r.offset target)) := by
      refine Site.code_eq_ok_iff.2 ⟨?_, placeholder, hplaceholder, rfl⟩
      rw [ReferenceKind.fits_signExtend_iff, hbetween]
      exact hrange
    refine ⟨hd, _, hholds, Site.delimits_code hcode, ?_⟩
    rw [← hbetween]
    exact action?_of_code_eq_ok hcode

end PseudoTransfer

/-! ## All pseudo-instructions -/

/-- A transfer to a label that is not bound emits one code, and records where it is. -/
theorem PseudoTransfer.exists_emit {a : Assembler} (p : PseudoTransfer) {id : Nat}
    (hid : (a.labels.get id).offset? = none) :
    ∃ (c : Code) (labels : LabelTable),
      a.call (p.call (.label id)) = { a with labels }.emit c ∧ c.Delimits := by
  have hzero : p.InRange (0#32).toInt :=
    (ReferenceKind.fits_signExtend_iff ..).1 (Site.fits_zero p.site.kind)
  obtain ⟨c, hc⟩ := p.exists_code hzero false
  refine ⟨c, a.labels.insert ⟨id, .unbound ((a.labels.get id).references ++ [⟨a.pc, p.site.kind⟩])⟩,
    ?_, Site.delimits_code hc⟩
  rw [p.call_eq, Assembler.call_unbound hid, hc]
  rfl

end RiscvAssembler
