import RiscvAssembler.Proofs.Emission

/-!
# Emission appends whole codes

A call appends one code for each instruction it emits and changes nothing else but the labels; a
refused instruction leaves the buffer alone. So the bytes behind the offset are changed only by a
bind, which overwrites codes in place.
-/

namespace RiscvAssembler

/-- How many instructions a call asks for. -/
def Call.count : Call → Nat
  | .li rd imm => (Instr.loadConstant rd imm).length
  | _ => 1

def Call.loadsConstant : Call → Bool
  | .li .. => true
  | _ => false

namespace Call

theorem length_contents (c : Call) (active : Bool) : (c.contents active).length = c.count := by
  cases c with
  | transfer s t => cases t <;> rfl
  | li rd imm => exact List.length_map _
  | _ => rfl

theorem count_of_not_loadsConstant {c : Call} (h : c.loadsConstant = false) : c.count = 1 := by
  cases c with
  | li rd imm => cases h
  | _ => rfl

theorem count_li (rd : Reg) (imm : BitVec 32) :
    (li rd imm).count = 1 ∨ (li rd imm).count = 2 := by
  rw [count, Instr.loadConstant]
  split
  · exact .inl rfl
  split
  · exact .inl rfl
  · exact .inr rfl

end Call

namespace Assembler

/-- The codes were appended to the buffer. Apart from the buffer only labels may have changed. -/
structure Appends (a a' : Assembler) (codes : List Code) : Prop where
  capacity : a'.buffer.capacity = a.buffer.capacity
  bytes : a'.buffer.toList = a.buffer.toList ++ codes.flatMap Code.bytes
  useRvc : a'.useRvc = a.useRvc
  inRegion : a'.inRegion = a.inRegion
  outerRegions : a'.outerRegions = a.outerRegions

namespace Appends

variable {a b a' : Assembler} {codes more : List Code}

theorem refl (a : Assembler) : a.Appends a [] :=
  ⟨rfl, (List.append_nil _).symm, rfl, rfl, rfl⟩

theorem trans (h : a.Appends b codes) (h' : b.Appends a' more) : a.Appends a' (codes ++ more) where
  capacity := h'.capacity.trans h.capacity
  bytes := by
    rw [h'.bytes, h.bytes, List.flatMap_append, List.append_assoc]
  useRvc := h'.useRvc.trans h.useRvc
  inRegion := h'.inRegion.trans h.inRegion
  outerRegions := h'.outerRegions.trans h.outerRegions

theorem append (a : Assembler) (c : Code) (room : c.size ≤ a.buffer.remaining) :
    a.Appends { a with buffer := a.buffer.append c room } [c] where
  capacity := rfl
  bytes := by
    rw [CodeBuffer.toList_append, List.flatMap_singleton]
  useRvc := rfl
  inRegion := rfl
  outerRegions := rfl

theorem eq_with (h : a.Appends a' codes) :
    a' = { a with buffer := a'.buffer, labels := a'.labels } := by
  obtain ⟨buffer, labels, _, _, _⟩ := a'
  obtain ⟨-, -, rfl, rfl, rfl⟩ := h
  rfl

theorem pc (h : a.Appends a' codes) : a'.pc = a.pc + (codes.map Code.size).sum := by
  have hsizes : codes.map (fun c => c.bytes.length) = codes.map Code.size :=
    List.map_congr_left fun c _ => c.length_bytes
  rw [Assembler.pc, ← CodeBuffer.length_toList, h.bytes, List.length_append,
    CodeBuffer.length_toList, List.length_flatMap, hsizes]
  rfl

theorem pc_le (h : a.Appends a' codes) : a.pc ≤ a'.pc :=
  h.pc ▸ Nat.le_add_right _ _

theorem even_pc (h : a.Appends a' codes) (heven : 2 ∣ a.pc) : 2 ∣ a'.pc := by
  rw [h.pc]
  refine dvd_add heven (List.dvd_sum ?_)
  intro n hn
  obtain ⟨c, -, rfl⟩ := List.mem_map.1 hn
  exact c.even_size

theorem prefix_toList (h : a.Appends a' codes) : a.buffer.toList <+: a'.buffer.toList :=
  ⟨_, h.bytes.symm⟩

/-- What is appended in a region is appended by opening and closing the region around it. -/
theorem leave {compressible : Bool} (h : (a.enter compressible).Appends a' codes) :
    a.Appends a'.leave codes := by
  have hleave : a'.leave = { a' with inRegion := a.inRegion, outerRegions := a.outerRegions } := by
    rw [Assembler.leave, h.outerRegions]
    rfl
  rw [hleave]
  exact ⟨h.capacity, h.bytes, h.useRvc, rfl, rfl⟩

end Appends

/-- The outcome of `n` instructions: the codes of all of them are appended, or those before the
first that is refused. -/
def AppendsUpTo (a : Assembler) (n : Nat) (o : Outcome) : Prop :=
  ∃ codes, a.Appends o.1 codes ∧ if o.2 = none then codes.length = n else codes.length < n

namespace AppendsUpTo

variable {a : Assembler} {o : Outcome} {n m : Nat}

theorem of_fault (a : Assembler) (n : Nat) (f : Fault) : a.AppendsUpTo (n + 1) (a, some f) :=
  ⟨[], .refl a, n.succ_pos⟩

theorem pc_le (h : a.AppendsUpTo n o) : a.pc ≤ o.1.pc := by
  obtain ⟨codes, happends, -⟩ := h
  exact happends.pc_le

theorem andThen {next : Assembler → Outcome} (h : a.AppendsUpTo n o)
    (hnext : ∀ b : Assembler, b.AppendsUpTo m (next b)) :
    a.AppendsUpTo (n + m) (o.andThen next) := by
  obtain ⟨codes, happends, hlength⟩ := h
  obtain ⟨b, _ | f⟩ := o
  · obtain ⟨more, happends', hlength'⟩ := hnext b
    refine ⟨codes ++ more, happends.trans happends', ?_⟩
    rw [List.length_append]
    change codes.length = n at hlength
    change if (next b).2 = none then _ else _
    split at hlength'
    next hnone =>
      rw [if_pos hnone]
      omega
    next hfault =>
      rw [if_neg hfault]
      omega
  · exact ⟨codes, happends, Nat.lt_add_right m hlength⟩

end AppendsUpTo

theorem appends_resolve (a : Assembler) (t : Target) (kind : ReferenceKind) :
    a.Appends (a.resolve t kind).1 [] := by
  unfold resolve
  cases t with
  | displacement d => exact .refl a
  | label id =>
    dsimp only
    split
    · exact .refl a
    · split
      · exact ⟨rfl, (List.append_nil _).symm, rfl, rfl, rfl⟩
      · exact .refl a

theorem appends_issue (a : Assembler) (x : Except Fault Code) : a.AppendsUpTo 1 (a.issue x) := by
  cases x with
  | error f => exact .of_fault a _ f
  | ok c =>
    change a.AppendsUpTo 1 (a.emit c)
    unfold emit
    split
    next room => exact ⟨[c], .append a c room, rfl⟩
    next full => exact .of_fault a _ _

theorem appends_place (a : Assembler) (content : Content) :
    a.AppendsUpTo 1 (a.place content) := by
  cases content with
  | fixed c => exact a.appends_issue (.ok c)
  | reference s id active =>
    have hresolve := a.appends_resolve (.label id) s.kind
    obtain ⟨codes, happends, hlength⟩ := appends_issue (a.resolve (.label id) s.kind).1
      ((a.resolve (.label id) s.kind).2 >>= s.code active)
    exact ⟨codes, hresolve.trans happends, hlength⟩

theorem appends_placeAll (a : Assembler) (contents : List (Except Fault Content)) :
    a.AppendsUpTo contents.length (a.placeAll contents) := by
  induction contents generalizing a with
  | nil => exact ⟨[], .refl a, rfl⟩
  | cons content contents ih =>
    cases content with
    | error f => exact .of_fault a _ f
    | ok content =>
      have h := (a.appends_place content).andThen ih
      rwa [Nat.add_comm] at h

theorem appends_call (a : Assembler) (c : Call) : a.AppendsUpTo c.count (a.call c) := by
  rw [call_eq_placeAll, ← c.length_contents a.active]
  exact a.appends_placeAll _

theorem appends_step (a : Assembler) {s : Step} {c : Call} (h : s.call? = some c) :
    a.AppendsUpTo c.count (a.step s) := by
  cases s with
  | call c' =>
    obtain rfl : c' = c := Option.some.inj h
    exact a.appends_call c'
  | within compressible c' =>
    obtain rfl : c' = c := Option.some.inj h
    obtain ⟨codes, happends, hlength⟩ := (a.enter compressible).appends_call c'
    exact ⟨codes, happends.leave, hlength⟩
  | bind id => cases h
  | enter compressible => cases h
  | leave => cases h

theorem labels_issue (a : Assembler) (x : Except Fault Code) :
    (a.issue x).1.labels = a.labels := by
  cases x with
  | error f => rfl
  | ok c =>
    change (a.emit c).1.labels = a.labels
    unfold emit
    split <;> rfl

theorem labels_issueAll (a : Assembler) (is : List Instr) :
    (a.issueAll is).1.labels = a.labels := by
  induction is generalizing a with
  | nil => rfl
  | cons i is ih =>
    have hfirst := a.labels_issue (i.code a.active)
    rw [issueAll]
    generalize a.issue (i.code a.active) = o at hfirst ⊢
    obtain ⟨b, _ | f⟩ := o
    · exact (ih b).trans hfirst
    · exact hfirst

/-- Only a call that names a label touches the labels. -/
theorem labels_call (a : Assembler) {c : Call} (h : c.reference? = none) :
    (a.call c).1.labels = a.labels := by
  cases c with
  | raw code => exact a.labels_issue (.ok code)
  | instr i mayCompress => exact a.labels_issue _
  | compact form => exact a.labels_issue _
  | transfer s t =>
    cases t with
    | displacement d => exact a.labels_issue _
    | label id => cases h
  | compactNop => exact a.labels_issue (.ok (.half CompactForm.nopWord))
  | nop => exact a.labels_issue _
  | li rd imm => exact a.labels_issueAll _

theorem labels_step (a : Assembler) {s : Step} {c : Call} (hs : s.call? = some c)
    (hc : c.reference? = none) : (a.step s).1.labels = a.labels := by
  cases s with
  | call c' =>
    obtain rfl : c' = c := Option.some.inj hs
    exact a.labels_call hc
  | within compressible c' =>
    obtain rfl : c' = c := Option.some.inj hs
    exact (labels_leave _).trans ((a.enter compressible).labels_call hc)
  | bind id => cases hs
  | enter compressible => cases hs
  | leave => cases hs

/-- Every step but a bind leaves the bytes emitted so far alone. -/
theorem prefix_step (a : Assembler) {s : Step} (h : ∀ id, s ≠ .bind id) :
    a.buffer.toList <+: (a.step s).1.buffer.toList := by
  have hcall : ∀ c, s.call? = some c → a.buffer.toList <+: (a.step s).1.buffer.toList := by
    intro c hc
    obtain ⟨codes, happends, -⟩ := a.appends_step hc
    exact happends.prefix_toList
  cases s with
  | call c => exact hcall c rfl
  | bind id => exact absurd rfl (h id)
  | enter compressible => exact List.prefix_rfl
  | leave =>
    rw [step, buffer_leave]
  | within compressible c => exact hcall c rfl

theorem even_pc_step (a : Assembler) (s : Step) (heven : 2 ∣ a.pc) :
    2 ∣ (a.step s).1.pc ∧ (a.step s).1.buffer.capacity = a.buffer.capacity := by
  have hcall : ∀ c, s.call? = some c →
      2 ∣ (a.step s).1.pc ∧ (a.step s).1.buffer.capacity = a.buffer.capacity := by
    intro c hc
    obtain ⟨codes, happends, -⟩ := a.appends_step hc
    exact ⟨happends.even_pc heven, happends.capacity⟩
  cases s with
  | call c => exact hcall c rfl
  | bind id => exact ⟨(a.pc_bind id).symm ▸ heven, a.capacity_bind id⟩
  | enter compressible => exact ⟨heven, rfl⟩
  | leave => exact ⟨a.pc_leave.symm ▸ heven, a.capacity_leave⟩
  | within compressible c => exact hcall c rfl

theorem even_pc_run (a : Assembler) (steps : List Step) (heven : 2 ∣ a.pc) :
    2 ∣ (a.run steps).pc ∧ (a.run steps).buffer.capacity = a.buffer.capacity := by
  induction steps generalizing a with
  | nil => exact ⟨heven, rfl⟩
  | cons s steps ih =>
    obtain ⟨heven₁, hcapacity₁⟩ := a.even_pc_step s heven
    obtain ⟨heven', hcapacity'⟩ := ih _ heven₁
    exact ⟨heven', hcapacity'.trans hcapacity₁⟩

/-- At every point of a run, whatever faults came before, a call other than a load of a constant
appends exactly one code, or none when it is refused; a load of a constant appends at most two and
leaves the labels alone. The offset is even and within the capacity, and only a bind changes bytes
before it. -/
theorem run_appends (b : CodeBuffer) (heven : 2 ∣ b.offset) (useRvc : Bool) (steps : List Step) :
    let a := (ofBuffer b useRvc).run steps
    (2 ∣ a.pc ∧ a.pc ≤ b.capacity) ∧
      (∀ s c, s.call? = some c → c.loadsConstant = false →
        if (a.step s).2 = none then
          ∃ code, a.Appends (a.step s).1 [code] ∧ (a.step s).1.pc = a.pc + code.size
        else a.Appends (a.step s).1 []) ∧
      (∀ s rd imm, s.call? = some (.li rd imm) →
        ∃ codes, codes.length ≤ 2 ∧ ((a.step s).2 = none → codes ≠ []) ∧
          a.Appends (a.step s).1 codes ∧ (a.step s).1.labels = a.labels) ∧
      ∀ s, (∀ id, s ≠ .bind id) → a.buffer.toList <+: (a.step s).1.buffer.toList := by
  intro a
  obtain ⟨heven', hcapacity⟩ := (ofBuffer b useRvc).even_pc_run steps heven
  refine ⟨⟨heven', hcapacity ▸ a.buffer.size_le⟩, ?one, ?load, fun s hs => a.prefix_step hs⟩
  case one =>
    intro s c hs hc
    obtain ⟨codes, happends, hlength⟩ := a.appends_step hs
    rw [Call.count_of_not_loadsConstant hc] at hlength
    split at hlength
    next hnone =>
      obtain ⟨code, rfl⟩ := List.length_eq_one_iff.1 hlength
      rw [if_pos hnone]
      exact ⟨code, happends, happends.pc⟩
    next hfault =>
      obtain rfl := List.length_eq_zero_iff.1 (Nat.lt_one_iff.1 hlength)
      rw [if_neg hfault]
      exact happends
  case load =>
    intro s rd imm hs
    obtain ⟨codes, happends, hlength⟩ := a.appends_step hs
    have hcount := Call.count_li rd imm
    refine ⟨codes, ?_, ?_, happends, a.labels_step hs rfl⟩
    · split at hlength <;> omega
    · rintro hnone rfl
      rw [if_pos hnone] at hlength
      rw [← hlength] at hcount
      exact absurd hcount (by decide)

/-- A word is refused where two bytes are left, and a halfword still fits. -/
theorem run_twoBytesLeft_appends :
    let b := CodeBuffer.empty 6
    let a := (ofBuffer b true).run [.call (.raw (.word 0x00000013#32))]
    let addi := Step.call (.instr (.addi .a0 .a1 100#32) true)
    2 ∣ b.offset ∧ (a.step addi).2 ≠ none ∧ a.Appends (a.step addi).1 [] ∧
      (a.step (.call .compactNop)).2 = none ∧
        ∃ code, a.Appends (a.step (.call .compactNop)).1 [code] ∧
          (a.step (.call .compactNop)).1.pc = a.pc + code.size := by
  intro b a addi
  have heven : 2 ∣ b.offset := by decide
  have hfault : (a.step addi).2 ≠ none := by decide
  have hnone : (a.step (.call .compactNop)).2 = none := by decide
  obtain ⟨-, hone, -⟩ := run_appends b heven true [.call (.raw (.word 0x00000013#32))]
  have hrefused := hone addi _ rfl rfl
  have hemitted := hone (.call .compactNop) _ rfl rfl
  rw [if_neg hfault] at hrefused
  rw [if_pos hnone] at hemitted
  exact ⟨heven, hfault, hrefused, hnone, hemitted⟩

end Assembler

end RiscvAssembler
