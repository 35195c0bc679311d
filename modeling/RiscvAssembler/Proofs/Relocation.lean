import RiscvAssembler.Proofs.Regions

/-!
# Relocation

A program that is assembled after another one gives the bytes it gives on its own: only the
distances between its own positions enter its code, and these do not change when everything moves by
the same amount. Its labels and references move along, those of the program before it are left
alone.
-/

namespace RiscvAssembler

/-! ## Positions further on -/

def Reference.shift (n : Nat) (r : Reference) : Reference :=
  ⟨r.offset + n, r.kind⟩

/-- The label `n` bytes further on, with the references that wait for it. -/
def Label.shift (n : Nat) (l : Label) : Label :=
  match l.state with
  | .unbound references => ⟨l.id, .unbound (references.map (Reference.shift n))⟩
  | .bound offset => ⟨l.id, .bound (offset + n)⟩

namespace Label

variable {l : Label} {n : Nat}

theorem shift_unbound (n id : Nat) (references : List Reference) :
    shift n ⟨id, .unbound references⟩ = ⟨id, .unbound (references.map (Reference.shift n))⟩ :=
  rfl

theorem id_shift (n : Nat) (l : Label) : (l.shift n).id = l.id := by
  obtain ⟨id, _ | offset⟩ := l <;> rfl

theorem offset?_shift (n : Nat) (l : Label) : (l.shift n).offset? = l.offset?.map (· + n) := by
  obtain ⟨id, _ | offset⟩ := l <;> rfl

theorem references_shift (n : Nat) (l : Label) :
    (l.shift n).references = l.references.map (Reference.shift n) := by
  obtain ⟨id, _ | offset⟩ := l <;> rfl

theorem shift_zero (l : Label) : l.shift 0 = l := by
  obtain ⟨id, references | offset⟩ := l
  · have hmap : references.map (Reference.shift 0) = references := List.map_id references
    rw [shift_unbound, hmap]
  · rfl

end Label

theorem distance_shift {source target n : Nat} (hsource : source + n < 2 ^ 63)
    (htarget : target + n < 2 ^ 63) :
    distance (source + n) (target + n) = distance source target := by
  have hd : distance source target = .ok (.ofInt 64 (target - source)) :=
    (distance_eq_ok_iff (by omega) (by omega)).2 rfl
  rw [hd, distance_eq_ok_iff hsource htarget, Nat.cast_add, Nat.cast_add, add_sub_add_right_eq_sub]

/-! ## Buffers and labels further on -/

/-- The buffer `b'` is `b₀` with the bytes of `b` behind it. -/
structure CodeBuffer.Relocates (b₀ b b' : CodeBuffer) : Prop where
  capacity : b'.capacity = b₀.capacity
  bytes : b'.toList = b₀.toList ++ b.toList

namespace CodeBuffer.Relocates

variable {b₀ b b' : CodeBuffer} {c : Code} {p target : Nat} {r : Reference}

theorem offset (h : b₀.Relocates b b') : b'.offset = b.offset + b₀.offset := by
  rw [← length_toList, h.bytes, List.length_append, length_toList, length_toList, Nat.add_comm]

theorem append (h : b₀.Relocates b b') (room : c.size ≤ b.remaining)
    (room' : c.size ≤ b'.remaining) : b₀.Relocates (b.append c room) (b'.append c room') where
  capacity := h.capacity
  bytes := by rw [toList_append, toList_append, h.bytes, List.append_assoc]

theorem holds (h : b₀.Relocates b b') (hc : b.Holds p c) : b'.Holds (p + b₀.offset) c := by
  obtain ⟨before, after, hlist, rfl⟩ := hc
  refine ⟨b₀.toList ++ before, after, ?_, ?_⟩
  · rw [h.bytes, hlist, List.append_assoc, List.append_assoc, List.append_assoc]
  · rw [List.length_append, length_toList, Nat.add_comm]

theorem overwrite (h : b₀.Relocates b b') {c' : Code} (hc : b.Holds p c)
    (hsize : c'.size = c.size) :
    b₀.Relocates (b.overwrite p c') (b'.overwrite (p + b₀.offset) c') where
  capacity := h.capacity
  bytes := by
    obtain ⟨before, after, hlist, rfl⟩ := hc
    have hlist' : b'.toList = (b₀.toList ++ before) ++ c.bytes ++ after := by
      rw [h.bytes, hlist, List.append_assoc, List.append_assoc, List.append_assoc]
    have hlength : before.length + b₀.offset = (b₀.toList ++ before).length := by
      rw [List.length_append, length_toList, Nat.add_comm]
    rw [hlength, toList_overwrite_of_toList_eq hlist' hsize,
      toList_overwrite_of_toList_eq hlist hsize]
    simp only [List.append_assoc]

/-- What resolves a reference resolves it further on. -/
theorem resolved (h : b₀.Relocates b b') (hsize : b'.offset < 2 ^ 63)
    (htarget : target + b₀.offset < 2 ^ 63) (hc : b.resolved r target = .ok c) :
    b'.resolved (r.shift b₀.offset) (target + b₀.offset) = .ok c ∧
      b₀.Relocates (b.overwrite r.offset c) (b'.overwrite (r.shift b₀.offset).offset c) := by
  have hoffset := h.offset
  obtain ⟨d, e, hd, hfits, hholds, he, rfl⟩ := (resolved_eq_ok_iff_holds (by omega)).1 hc
  have hle := hholds.le_offset
  have hsource : r.offset + b₀.offset < 2 ^ 63 := by omega
  have hd' : distance (r.shift b₀.offset).offset (target + b₀.offset) = .ok d :=
    (distance_shift hsource htarget).trans hd
  refine ⟨(resolved_eq_ok_iff_holds (by omega)).2 ⟨d, e, hd', hfits, h.holds hholds, he, rfl⟩, ?_⟩
  exact h.overwrite hholds (e.size_redirect _ _)

theorem resolveAll (h : b₀.Relocates b b') (hsize : b'.offset < 2 ^ 63)
    (htarget : target + b₀.offset < 2 ^ 63) {refs : List Reference} {b₁ : CodeBuffer}
    (hb₁ : b.resolveAll target refs = (b₁, none)) :
    ∃ b₁', b'.resolveAll (target + b₀.offset) (refs.map (Reference.shift b₀.offset)) = (b₁', none) ∧
      b₀.Relocates b₁ b₁' := by
  induction refs generalizing b b' with
  | nil =>
    obtain rfl : b = b₁ := congrArg Prod.fst hb₁
    exact ⟨b', rfl, h⟩
  | cons r refs ih =>
    rw [CodeBuffer.resolveAll] at hb₁
    cases hc : b.resolved r target with
    | error f =>
      rw [hc] at hb₁
      cases hb₁
    | ok c =>
      rw [hc] at hb₁
      obtain ⟨hc', hoverwrite⟩ := h.resolved hsize htarget hc
      obtain ⟨b₁', hb₁', hrelocates⟩ :=
        ih hoverwrite ((b'.offset_overwrite _ _).trans_lt hsize) hb₁
      refine ⟨b₁', ?_, hrelocates⟩
      rw [List.map_cons, CodeBuffer.resolveAll, hc']
      exact hb₁'

end CodeBuffer.Relocates

/-- The labels of `t'` that belong to a program are those of `t`, moved by `n`; the others are as in
`t₀`. -/
structure LabelTable.Relocates (t₀ : LabelTable) (own : Nat → Prop) (n : Nat)
    (t t' : LabelTable) : Prop where
  moved : ∀ id, own id → t'.get id = (t.get id).shift n
  kept : ∀ id, ¬ own id → t'.get id = t₀.get id

theorem LabelTable.Relocates.insert {t₀ t t' : LabelTable} {own : Nat → Prop} {n : Nat}
    (h : t₀.Relocates own n t t') {l : Label} (hl : own l.id) :
    t₀.Relocates own n (t.insert l) (t'.insert (l.shift n)) where
  moved := by
    intro id hid
    rw [t'.get_insert (l.id_shift n), t.get_insert rfl, apply_ite (Label.shift n), h.moved id hid]
  kept := by
    intro id hid
    have hne : id ≠ (l.shift n).id := by
      rw [l.id_shift]
      rintro rfl
      exact hid hl
    rw [get_insert_of_ne _ hne, h.kept id hid]

/-! ## Steps further on -/

/-- The label that a step names. -/
def Step.label? : Step → Option Nat
  | .bind id => some id
  | s => s.reference?.map Prod.snd

namespace Assembler

/-- The state `a` is reached from `a₀` by the steps that lead from an empty buffer to `b`. The
labels of these steps satisfy `own`. -/
structure Relocates (a₀ : Assembler) (own : Nat → Prop) (b a : Assembler) : Prop where
  buffer : a₀.buffer.Relocates b.buffer a.buffer
  labels : a₀.labels.Relocates own a₀.pc b.labels a.labels
  useRvc : a.useRvc = b.useRvc
  inRegion : a.inRegion = b.inRegion
  outerRegions : a.outerRegions = b.outerRegions
  past : ∀ id target, (b.labels.get id).offset? = some target → target ≤ b.pc

/-! ### The offset never goes back -/

theorem pc_le_step (a : Assembler) (s : Step) : a.pc ≤ (a.step s).1.pc := by
  cases s with
  | call c => exact (a.appends_call c).pc_le
  | bind id => exact (a.pc_bind id).ge
  | enter compressible => exact le_rfl
  | leave => exact a.pc_leave.ge
  | within compressible c => exact (a.appends_step rfl).pc_le

theorem pc_le_attempt (a : Assembler) (steps : List Step) : a.pc ≤ (a.attempt steps).1.pc :=
  attempt_induction (P := fun a' => a.pc ≤ a'.pc)
    (fun a' s h => h.trans (a'.pc_le_step s)) le_rfl steps

/-! ### Each step -/

namespace Relocates

variable {a₀ a b b' : Assembler} {own : Nat → Prop}

theorem pc (h : a₀.Relocates own b a) : a.pc = b.pc + a₀.pc :=
  h.buffer.offset

theorem active (h : a₀.Relocates own b a) : a.active = b.active := by
  rw [Assembler.active, Assembler.active, h.useRvc, h.inRegion]

theorem emit (h : a₀.Relocates own b a) {c : Code} (hemit : b.emit c = (b', none))
    (hroom : b'.pc + a₀.pc ≤ a₀.buffer.capacity) :
    ∃ a', a.emit c = (a', none) ∧ a₀.Relocates own b' a' := by
  have hpc : b.pc ≤ b'.pc := (b.appends_issue (.ok c)).pc_le.trans_eq (congrArg (·.1.pc) hemit)
  obtain ⟨room, rfl⟩ := emit_eq_iff.1 hemit
  have hoffset := h.buffer.offset
  have room' : c.size ≤ a.buffer.remaining := by
    have happend := b.buffer.offset_append c room
    change (b.buffer.append c room).offset + a₀.buffer.offset ≤ _ at hroom
    rw [CodeBuffer.remaining, h.buffer.capacity]
    omega
  refine ⟨_, emit_eq_iff.2 ⟨room', rfl⟩, ?_⟩
  refine ⟨h.buffer.append room room', h.labels, h.useRvc, h.inRegion, h.outerRegions, ?_⟩
  intro id target hid
  exact (h.past id target hid).trans hpc

theorem issue (h : a₀.Relocates own b a) {x : Except Fault Code}
    (hissue : b.issue x = (b', none)) (hroom : b'.pc + a₀.pc ≤ a₀.buffer.capacity) :
    ∃ a', a.issue x = (a', none) ∧ a₀.Relocates own b' a' := by
  obtain ⟨c, rfl, hemit⟩ := issue_eq_iff.1 hissue
  exact h.emit hemit hroom

/-- The new state of a label is put in place further on. -/
theorem insert (h : a₀.Relocates own b a) {l : Label} (hl : own l.id)
    (hpast : ∀ target, l.offset? = some target → target ≤ b.pc) :
    a₀.Relocates own { b with labels := b.labels.insert l }
      { a with labels := a.labels.insert (l.shift a₀.pc) } where
  buffer := h.buffer
  labels := h.labels.insert hl
  useRvc := h.useRvc
  inRegion := h.inRegion
  outerRegions := h.outerRegions
  past := by
    intro id target hid
    rw [b.labels.get_insert rfl] at hid
    split at hid
    · exact hpast target hid
    · exact h.past id target hid

theorem place (h : a₀.Relocates own b a) {content : Content}
    (hown : ∀ s id active, content = .reference s id active → own id)
    (hplace : b.place content = (b', none)) (hroom : b'.pc + a₀.pc ≤ a₀.buffer.capacity)
    (hsize : b'.pc + a₀.pc < 2 ^ 63) :
    ∃ a', a.place content = (a', none) ∧ a₀.Relocates own b' a' := by
  cases content with
  | fixed c => exact h.emit hplace hroom
  | reference s id active =>
    have hmoved := h.labels.moved id (hown s id active rfl)
    have hoffset : (a.labels.get id).offset? = (b.labels.get id).offset?.map (· + a₀.pc) := by
      rw [hmoved, Label.offset?_shift]
    cases hid : (b.labels.get id).offset? with
    -- Both ends of the distance have moved by the same amount.
    | some target =>
      rw [hid] at hoffset
      have hle := h.past id target hid
      have hpc : b.pc ≤ b'.pc := (b.appends_place _).pc_le.trans_eq (congrArg (·.1.pc) hplace)
      have hdistance : distance a.pc (target + a₀.pc) = distance b.pc target := by
        rw [h.pc]
        exact distance_shift (by omega) (by omega)
      simp only [Assembler.place, resolve, hid] at hplace
      simp only [Assembler.place, resolve, hoffset, Option.map_some, hdistance]
      exact h.issue hplace hroom
    | none =>
      rw [hid] at hoffset
      rw [place_unbound hid] at hplace
      rw [place_unbound hoffset]
      have hinsert := h.insert (l := ⟨id, .unbound ((b.labels.get id).references ++
        [⟨b.pc, s.kind⟩])⟩) (hown s id active rfl) (by rintro _ ⟨⟩)
      have hshift : Label.shift a₀.pc ⟨id, .unbound ((b.labels.get id).references ++
          [⟨b.pc, s.kind⟩])⟩ =
            ⟨id, .unbound ((a.labels.get id).references ++ [⟨a.pc, s.kind⟩])⟩ := by
        rw [Label.shift_unbound, hmoved, Label.references_shift, h.pc, List.map_append]
        rfl
      rw [hshift] at hinsert
      exact hinsert.issue hplace hroom

theorem placeAll (h : a₀.Relocates own b a) {contents : List (Except Fault Content)}
    (hown : ∀ s id active, .ok (.reference s id active) ∈ contents → own id)
    (hplace : b.placeAll contents = (b', none)) (hroom : b'.pc + a₀.pc ≤ a₀.buffer.capacity)
    (hsize : b'.pc + a₀.pc < 2 ^ 63) :
    ∃ a', a.placeAll contents = (a', none) ∧ a₀.Relocates own b' a' := by
  induction contents generalizing a b with
  | nil =>
    obtain rfl : b = b' := congrArg Prod.fst hplace
    exact ⟨a, rfl, h⟩
  | cons content contents ih =>
    cases content with
    | error f => cases hplace
    | ok content =>
      obtain ⟨b₁, hfirst, hrest⟩ := Outcome.andThen_eq_iff.1 hplace
      have hpc : b₁.pc ≤ b'.pc :=
        (b₁.appends_placeAll contents).pc_le.trans_eq (congrArg (·.1.pc) hrest)
      have hcontent : ∀ s id active, content = .reference s id active → own id := by
        rintro s id active rfl
        exact hown s id active List.mem_cons_self
      obtain ⟨a₁, ha₁, h₁⟩ := h.place hcontent hfirst (by omega) (by omega)
      obtain ⟨a', ha', h'⟩ :=
        ih h₁ (fun s id active hmem => hown s id active (List.mem_cons_of_mem _ hmem)) hrest
      exact ⟨a', Outcome.andThen_eq_iff.2 ⟨a₁, ha₁, ha'⟩, h'⟩

theorem call (h : a₀.Relocates own b a) {c : Call} (hown : ∀ ref ∈ c.reference?, own ref.2)
    (hcall : b.call c = (b', none)) (hroom : b'.pc + a₀.pc ≤ a₀.buffer.capacity)
    (hsize : b'.pc + a₀.pc < 2 ^ 63) :
    ∃ a', a.call c = (a', none) ∧ a₀.Relocates own b' a' := by
  rw [call_eq_placeAll] at hcall ⊢
  rw [h.active]
  refine h.placeAll ?_ hcall hroom hsize
  intro s id active hmem
  exact hown (s, id) (Call.reference?_of_mem_contents hmem)

theorem bind (h : a₀.Relocates own b a) {id : Nat} (hid : own id)
    (hbind : b.bind id = (b', none)) (hsize : b.pc + a₀.pc < 2 ^ 63) :
    ∃ a', a.bind id = (a', none) ∧ a₀.Relocates own b' a' := by
  have hmoved := h.labels.moved id hid
  cases hunbound : (b.labels.get id).offset? with
  | some earlier =>
    rw [Assembler.bind, Label.bind_of_offset?_eq_some hunbound] at hbind
    cases hbind
  | none =>
    have hunbound' : (a.labels.get id).offset? = none := by
      rw [hmoved, Label.offset?_shift, hunbound]
      rfl
    have hpc := b.pc_bind id
    rw [hbind] at hpc
    rw [bind_eq_of_unbound hunbound] at hbind
    obtain ⟨rfl, hnone⟩ := Prod.mk.inj hbind
    obtain ⟨buffer', hresolve, hbuffer⟩ : ∃ buffer', a.buffer.resolveAll (b.pc + a₀.pc)
        ((b.labels.get id).references.map (Reference.shift a₀.pc)) = (buffer', none) ∧
          a₀.buffer.Relocates (b.buffer.resolveAll b.pc (b.labels.get id).references).1 buffer' :=
      h.buffer.resolveAll (h.buffer.offset.trans_lt hsize) hsize (Prod.ext rfl hnone)
    have hinsert := h.insert (l := ⟨id, .bound b.pc⟩) hid fun _ heq => (Option.some.inj heq).ge
    have hshift : Label.shift a₀.pc ⟨id, .bound b.pc⟩ = ⟨id, .bound a.pc⟩ := by
      rw [h.pc]
      rfl
    rw [hshift] at hinsert
    refine ⟨{ a with buffer := buffer', labels := a.labels.insert ⟨id, .bound a.pc⟩ }, ?_, ?_⟩
    · rw [bind_eq_of_unbound hunbound', hmoved, Label.references_shift, h.pc, hresolve]
    · refine ⟨hbuffer, hinsert.labels, h.useRvc, h.inRegion, h.outerRegions, ?_⟩
      intro n target hn
      exact (hinsert.past n target hn).trans hpc.ge

theorem enter (h : a₀.Relocates own b a) (compressible : Bool) :
    a₀.Relocates own (b.enter compressible) (a.enter compressible) where
  buffer := h.buffer
  labels := h.labels
  useRvc := h.useRvc
  inRegion := rfl
  outerRegions := by rw [Assembler.enter, Assembler.enter, h.inRegion, h.outerRegions]
  past := h.past

theorem leave (h : a₀.Relocates own b a) : a₀.Relocates own b.leave a.leave := by
  obtain ⟨hbuffer, hlabels, hrvc, hregion, houter, hpast⟩ := h
  unfold Assembler.leave
  rw [houter]
  cases b.outerRegions with
  | nil => exact ⟨hbuffer, hlabels, hrvc, hregion, houter, hpast⟩
  | cons outer rest => exact ⟨hbuffer, hlabels, hrvc, rfl, rfl, hpast⟩

theorem step (h : a₀.Relocates own b a) {s : Step} (hown : ∀ id ∈ s.label?, own id)
    (hstep : b.step s = (b', none)) (hroom : b'.pc + a₀.pc ≤ a₀.buffer.capacity)
    (hsize : b'.pc + a₀.pc < 2 ^ 63) :
    ∃ a', a.step s = (a', none) ∧ a₀.Relocates own b' a' := by
  have hpc : b.pc ≤ b'.pc := (b.pc_le_step s).trans_eq (congrArg (·.1.pc) hstep)
  have href : ∀ ref ∈ s.reference?, own ref.2 := by
    intro ref href
    apply hown
    cases s with
    | bind id => cases href
    | _ => exact Option.mem_map_of_mem _ href
  cases s with
  | call c => exact h.call href hstep hroom hsize
  | bind id => exact h.bind (hown id rfl) hstep (by omega)
  | enter compressible =>
    obtain rfl : b.enter compressible = b' := congrArg Prod.fst hstep
    exact ⟨_, rfl, h.enter compressible⟩
  | leave =>
    obtain rfl : b.leave = b' := congrArg Prod.fst hstep
    exact ⟨_, rfl, h.leave⟩
  | within compressible c =>
    obtain ⟨b₁, hcall, rfl⟩ := callWithin_eq_iff.1 hstep
    rw [pc_leave] at hroom hsize
    obtain ⟨a₁, ha₁, h₁⟩ := (h.enter compressible).call href hcall hroom hsize
    exact ⟨_, callWithin_eq_iff.2 ⟨a₁, ha₁, rfl⟩, h₁.leave⟩

theorem attempt (h : a₀.Relocates own b a) {steps : List Step}
    (hown : ∀ s ∈ steps, ∀ id ∈ s.label?, own id) (hrun : b.attempt steps = (b', none))
    (hroom : b'.pc + a₀.pc ≤ a₀.buffer.capacity) (hsize : b'.pc + a₀.pc < 2 ^ 63) :
    ∃ a', a.attempt steps = (a', none) ∧ a₀.Relocates own b' a' := by
  induction steps generalizing a b with
  | nil =>
    obtain rfl : b = b' := congrArg Prod.fst hrun
    exact ⟨a, rfl, h⟩
  | cons s steps ih =>
    rw [List.forall_mem_cons] at hown
    obtain ⟨b₁, hstep, hrest⟩ := Outcome.andThen_eq_iff.1 hrun
    have hpc : b₁.pc ≤ b'.pc :=
      (b₁.pc_le_attempt steps).trans_eq (congrArg (·.1.pc) hrest)
    obtain ⟨a₁, ha₁, h₁⟩ := h.step hown.1 hstep (by omega) (by omega)
    obtain ⟨a', ha', h'⟩ := ih h₁ hown.2 hrest
    exact ⟨a', Outcome.andThen_eq_iff.2 ⟨a₁, ha₁, ha'⟩, h'⟩

end Relocates

end Assembler

namespace Assembler

/-! ## One program after another -/

theorem Relocates.start {a₀ : Assembler} {own : Nat → Prop}
    (hown : ∀ id, own id → a₀.labels.get id = Label.fresh id) (hregions : a₀.regions = [false])
    (capacity : Nat) : a₀.Relocates own (ofBuffer (.empty capacity) a₀.useRvc) a₀ := by
  obtain ⟨hregion, houter⟩ := List.cons.inj hregions
  exact ⟨⟨rfl, (List.append_nil _).symm⟩, ⟨hown, fun _ _ => rfl⟩, rfl, hregion, houter, nofun⟩

/-- The labels that a program names. -/
def labelsOf (steps : List Step) : List Nat :=
  steps.filterMap Step.label?

theorem mem_labelsOf {steps : List Step} : ∀ s ∈ steps, ∀ id ∈ s.label?, id ∈ labelsOf steps :=
  fun s hs _ hid => List.mem_filterMap.2 ⟨s, hs, hid⟩

/-- Two programs without faults that share no label, the first of which closes its regions, can be
assembled one after the other in any buffer that has room for both. The result is the code of the
first and then the code of the second; the labels of the second, and the references that wait for
them, move by the length of the first. Both have to fit in the offsets whose distances are signed
64-bit numbers. -/
theorem attempt_append_relocates {capacity₁ capacity₂ capacity : Nat} {useRvc : Bool}
    {steps more : List Step} {p q : Assembler}
    (hp : (ofBuffer (.empty capacity₁) useRvc).attempt steps = (p, none))
    (hq : (ofBuffer (.empty capacity₂) useRvc).attempt more = (q, none))
    (hclosed : openRegions 0 steps = some 0) (hshare : ∀ id ∈ labelsOf steps, id ∉ labelsOf more)
    (hroom : p.pc + q.pc ≤ capacity) (hsize : p.pc + q.pc < 2 ^ 63) :
    ∃ a, (ofBuffer (.empty capacity) useRvc).attempt (steps ++ more) = (a, none) ∧
      a.buffer.toList = p.buffer.toList ++ q.buffer.toList ∧
        (∀ id ∈ labelsOf more, a.labels.get id = (q.labels.get id).shift p.pc) ∧
          (∀ id ∉ labelsOf more, a.labels.get id = p.labels.get id) ∧ a.regions = q.regions := by
  -- The first program in the common buffer, with all labels and with only its own.
  have hstart : ∀ own, (ofBuffer (.empty capacity) useRvc).Relocates own
      (ofBuffer (.empty capacity₁) useRvc) (ofBuffer (.empty capacity) useRvc) :=
    fun own => .start (fun _ _ => rfl) rfl capacity₁
  have hroom₁ : p.pc + 0 ≤ capacity := by omega
  have hsize₁ : p.pc + 0 < 2 ^ 63 := by omega
  obtain ⟨a₁, ha₁, hall⟩ := (hstart fun _ => True).attempt (fun _ _ _ _ => trivial) hp hroom₁ hsize₁
  obtain ⟨a₂, ha₂, hown⟩ := (hstart (· ∈ labelsOf steps)).attempt mem_labelsOf hp hroom₁ hsize₁
  obtain rfl : a₁ = a₂ := congrArg Prod.fst (ha₁.symm.trans ha₂)
  have hlabels : ∀ id, a₁.labels.get id = p.labels.get id := by
    intro id
    exact (hall.labels.moved id trivial).trans (Label.shift_zero _)
  have hpc : a₁.pc = p.pc := hall.pc
  have hbegin : (ofBuffer (.empty capacity) useRvc).regions = [] ++ [false] := rfl
  obtain ⟨hrvc, inner, hregions, hinner⟩ :=
    regions_attempt hbegin rfl (List.cons_ne_nil false []) hclosed ha₁
  obtain rfl := List.length_eq_zero_iff.1 hinner
  -- The second program behind it.
  have hfresh : ∀ id ∈ labelsOf more, a₁.labels.get id = Label.fresh id := by
    intro id hid
    exact hown.labels.kept id fun hmem => hshare id hmem hid
  have hbehind := Relocates.start hfresh hregions capacity₂
  rw [hrvc] at hbehind
  obtain ⟨a, ha, hrelocates⟩ := hbehind.attempt mem_labelsOf hq
    (by rw [hpc, hall.buffer.capacity, Nat.add_comm]; exact hroom)
    (by rw [hpc, Nat.add_comm]; exact hsize)
  refine ⟨a, ?run, ?bytes, ?moved, ?kept, ?flags⟩
  case run =>
    rw [attempt_append, ha₁]
    exact ha
  case bytes =>
    have hbytes : a₁.buffer.toList = p.buffer.toList := hall.buffer.bytes
    rw [hrelocates.buffer.bytes, hbytes]
  case moved =>
    intro id hid
    rw [hrelocates.labels.moved id hid, hpc]
  case kept =>
    intro id hid
    rw [hrelocates.labels.kept id hid, hlabels]
  case flags => rw [regions, regions, hrelocates.inRegion, hrelocates.outerRegions]

/-- A loop and a jump to a label that is not bound. -/
def loopAndJump : List Step :=
  [.bind 3, .enter true, .call .nop, .call (.bnez .a0 (.label 3)), .leave, .call (.j (.label 4))]

theorem attempt_loopAndExit_loopAndJump_relocates :
    ∃ p q a, (ofBuffer (.empty 4096) true).attempt loopAndExit = (p, none) ∧
      (ofBuffer (.empty 4096) true).attempt loopAndJump = (q, none) ∧
        openRegions 0 loopAndExit = some 0 ∧
          (∀ id ∈ labelsOf loopAndExit, id ∉ labelsOf loopAndJump) ∧ p.pc + q.pc ≤ 4096 ∧
            (ofBuffer (.empty 4096) true).attempt (loopAndExit ++ loopAndJump) = (a, none) ∧
              a.buffer.toList = p.buffer.toList ++ q.buffer.toList ∧
                a.labels.get 3 = ⟨3, .bound 10⟩ ∧
                  a.labels.get 4 = ⟨4, .unbound [⟨14, .jal⟩]⟩ := by
  have hp : ((ofBuffer (.empty 4096) true).attempt loopAndExit).2 = none := by decide
  have hq : ((ofBuffer (.empty 4096) true).attempt loopAndJump).2 = none := by decide
  have hclosed : openRegions 0 loopAndExit = some 0 := by decide
  have hshare : ∀ id ∈ labelsOf loopAndExit, id ∉ labelsOf loopAndJump := by decide
  have hroom : ((ofBuffer (.empty 4096) true).attempt loopAndExit).1.pc +
      ((ofBuffer (.empty 4096) true).attempt loopAndJump).1.pc ≤ 4096 := by decide
  obtain ⟨a, ha, hbytes, hmoved, -, -⟩ := attempt_append_relocates (Prod.ext rfl hp)
    (Prod.ext rfl hq) hclosed hshare hroom (hroom.trans_lt (by decide))
  refine ⟨_, _, a, Prod.ext rfl hp, Prod.ext rfl hq, hclosed, hshare, hroom, ha, hbytes, ?_, ?_⟩
  · rw [hmoved 3 (by decide)]
    decide
  · rw [hmoved 4 (by decide)]
    decide

end Assembler

end RiscvAssembler
