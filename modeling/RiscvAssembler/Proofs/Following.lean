import RiscvAssembler.Proofs.Appending
import RiscvAssembler.Proofs.Binding

/-!
# An instruction follows its label

A branch or jump to a label that is not bound is emitted as a placeholder. Whatever succeeds after
that keeps the placeholder in its place until the label is bound, and from then on the instruction
with the distance to the label. `Follows` is what every step preserves. At the start, the references
made earlier have to lie in the code emitted before, as they do after a run that strands none.
-/

namespace RiscvAssembler

open Immediate

/-! ## Code that stays -/

namespace CodeBuffer

variable {b b' : CodeBuffer} {p : Nat} {c : Code} {r : Reference} {target : Nat}
  {refs : List Reference}

theorem Holds.of_extends (h : b.Holds p c) (hextends : b.toList <+: b'.toList) : b'.Holds p c := by
  obtain ⟨before, after, hlist, hp⟩ := h
  obtain ⟨more, hmore⟩ := hextends
  exact ⟨before, after ++ more, by rw [← hmore, hlist, List.append_assoc], hp⟩

theorem Holds.resolveAll_of_apart (h : b.Holds p c) (hsize : b.offset < 2 ^ 63)
    (hapart : ∀ t ∈ refs, t.offset + t.kind.length ≤ p ∨ p + c.size ≤ t.offset) :
    (b.resolveAll b.offset refs).1.Holds p c := by
  apply (resolveAll_redirects hsize refs).1.holds p c h
  intro t ht
  exact hapart t (List.takeWhile_subset _ ht)

theorem Holds.of_resolved (h : b.Holds r.offset c) (hsize : b.offset < 2 ^ 63)
    (htarget : target < 2 ^ 63) (hc : c.size = r.kind.length) {c' : Code}
    (hresolved : b.resolved r target = .ok c') :
    c' = c.redirect r.kind (between r.offset target) := by
  have hle := h.le_offset
  obtain ⟨before, after, hlist, hp⟩ := h
  obtain ⟨d, hd, -, hc'⟩ := (resolved_eq_ok_iff (by omega) hlist hp hc).1 hresolved
  rw [distance_eq_ok_iff (by omega) htarget] at hd
  rw [hc', hd, setWidth_ofInt_sub]

theorem Holds.overwrite_of_resolved {t : Reference} {c' : Code} (h : b.Holds r.offset c)
    (hsize : b.offset < 2 ^ 63) (hc : c.size = r.kind.length)
    (hresolved : b.resolved t target = .ok c') (hapart : t.Apart r) :
    (b.overwrite t.offset c').Holds r.offset c := by
  obtain ⟨d, e, -, -, hholds, he, rfl⟩ := (resolved_eq_ok_iff_holds (by omega)).1 hresolved
  have hsame := e.size_redirect t.kind (d.setWidth 32)
  have hle := hholds.le_offset
  refine h.overwrite_of_apart (hsame.symm ▸ hle) ?_
  rw [hsame, he, hc]
  exact hapart

/-- A reference that shares no byte with the others is redirected, and stays so when it occurs once
more. -/
theorem Holds.resolveAll (hsize : b.offset < 2 ^ 63) (htarget : target < 2 ^ 63)
    (hc : c.size = r.kind.length) (hapart : ∀ t ∈ refs, t = r ∨ t.Apart r)
    (hnone : (b.resolveAll target refs).2 = none)
    (h : b.Holds r.offset c ∧ r ∈ refs ∨
      b.Holds r.offset (c.redirect r.kind (between r.offset target))) :
    (b.resolveAll target refs).1.Holds r.offset (c.redirect r.kind (between r.offset target)) := by
  have hredirect := c.size_redirect r.kind (between r.offset target)
  induction refs generalizing b with
  | nil => exact h.resolve_left fun h => nomatch h.2
  | cons t refs ih =>
    rw [List.forall_mem_cons] at hapart
    rw [CodeBuffer.resolveAll] at hnone ⊢
    cases hres : b.resolved t target with
    | error f =>
      rw [hres] at hnone
      cases hnone
    | ok c' =>
      rw [hres] at hnone
      refine ih ((b.offset_overwrite t.offset c').symm ▸ hsize) hapart.2 hnone ?_
      rcases hapart.1 with rfl | htr
      -- The reference itself: whatever code stands there is redirected.
      · right
        rcases h with ⟨h, -⟩ | h
        · rw [h.of_resolved hsize htarget hc hres]
          exact h.overwrite hredirect
        · rw [h.of_resolved hsize htarget (hredirect.trans hc) hres, Code.redirect_redirect hc]
          exact h.overwrite rfl
      · rcases h with ⟨h, hmem⟩ | h
        · have hne : r ≠ t := fun heq => htr.offset_ne (congrArg Reference.offset heq.symm)
          have hlater := (List.mem_cons.1 hmem).resolve_left hne
          exact .inl ⟨h.overwrite_of_resolved hsize hc hres htr, hlater⟩
        · exact .inr (h.overwrite_of_resolved hsize (hredirect.trans hc) hres htr)

end CodeBuffer

/-! ## Labels during calls -/

namespace Assembler

/-- No label was bound, and a label waits for references made before and for new ones behind
them. -/
structure Records (a a' : Assembler) : Prop where
  offsets : ∀ n, (a'.labels.get n).offset? = (a.labels.get n).offset?
  kept : ∀ n, ∀ r ∈ (a.labels.get n).references, r ∈ (a'.labels.get n).references
  new : ∀ n, ∀ r ∈ (a'.labels.get n).references,
    r ∈ (a.labels.get n).references ∨ a.pc ≤ r.offset

theorem Records.of_labels_eq {a a' : Assembler} (h : a'.labels = a.labels) : a.Records a' := by
  refine ⟨fun n => ?_, fun n r hr => ?_, fun n r hr => ?_⟩
  · rw [h]
  · rwa [h]
  · rw [h] at hr
    exact .inl hr

theorem records_resolve (a : Assembler) (id : Nat) (kind : ReferenceKind) :
    a.Records (a.resolve (.label id) kind).1 := by
  cases hid : (a.labels.get id).offset? with
  | some offset =>
    apply Records.of_labels_eq
    simp only [resolve, hid]
  | none =>
    have hlabels : (a.resolve (.label id) kind).1.labels = a.labels.insert
        ⟨id, .unbound ((a.labels.get id).references ++ [⟨a.pc, kind⟩])⟩ := by
      simp only [resolve, hid, Label.addReference_of_offset?_eq_none hid, LabelTable.id_get]
    refine ⟨fun n => ?_, fun n r hr => ?_, fun n r hr => ?_⟩
    · rw [hlabels, LabelTable.get_insert _ rfl]
      split
      next hn => rw [hn, hid]; rfl
      next hn => rfl
    · rw [hlabels, LabelTable.mem_references_insert_unbound]
      exact .inl hr
    · rw [hlabels, LabelTable.mem_references_insert_unbound] at hr
      rcases hr with hr | ⟨-, rfl⟩
      · exact .inl hr
      · exact .inr le_rfl

theorem records_call (a : Assembler) (c : Call) : a.Records (a.call c).1 := by
  cases href : c.reference? with
  | none => exact .of_labels_eq (a.labels_call href)
  | some ref =>
    obtain ⟨s, id⟩ := ref
    obtain rfl := Call.eq_transfer_of_reference? href
    have hlabels : (a.call (.transfer s (.label id))).1.labels =
        (a.resolve (.label id) s.kind).1.labels :=
      labels_issue _ _
    obtain ⟨hoffsets, hkept, hnew⟩ := a.records_resolve id s.kind
    rw [← hlabels] at hoffsets hkept hnew
    exact ⟨hoffsets, hkept, hnew⟩

/-! ## Where labels and references are -/

/-- Offsets lie in the positive half of the address space, and labels are bound inside the
buffer. -/
structure InBounds (a : Assembler) : Prop where
  capacity_lt : a.buffer.capacity < 2 ^ 63
  bound : ∀ id target, (a.labels.get id).offset? = some target → target ≤ a.buffer.capacity

/-- The waiting references lie in the code emitted so far. -/
def ReferencesBehind (a : Assembler) : Prop :=
  ∀ id, ∀ r ∈ (a.labels.get id).references, r.offset + r.kind.length ≤ a.pc

namespace InBounds

variable {a a' : Assembler}

theorem of_offsets (h : a.InBounds) (hcapacity : a'.buffer.capacity = a.buffer.capacity)
    (hoffsets : ∀ n, (a'.labels.get n).offset? = (a.labels.get n).offset?) : a'.InBounds where
  capacity_lt := hcapacity ▸ h.capacity_lt
  bound := by
    intro id target hid
    rw [hoffsets] at hid
    exact hcapacity ▸ h.bound id target hid

theorem call (h : a.InBounds) (c : Call) : (a.call c).1.InBounds := by
  obtain ⟨codes, happends, -⟩ := a.appends_call c
  exact h.of_offsets happends.capacity (a.records_call c).offsets

theorem leave (h : a.InBounds) : a.leave.InBounds :=
  h.of_offsets a.capacity_leave fun n => by rw [labels_leave]

theorem bind (h : a.InBounds) (n : Nat) : (a.bind n).1.InBounds where
  capacity_lt := (a.capacity_bind n).symm ▸ h.capacity_lt
  bound := by
    intro id target hid
    rw [capacity_bind]
    cases hn : (a.labels.get n).offset? with
    | some earlier =>
      rw [Assembler.bind, Label.bind_of_offset?_eq_some hn] at hid
      exact h.bound id target hid
    | none =>
      rw [bind_eq_of_unbound hn, LabelTable.get_insert _ rfl] at hid
      split at hid
      · obtain rfl : a.pc = target := Option.some.inj hid
        exact a.buffer.size_le
      · exact h.bound id target hid

theorem step (h : a.InBounds) (s : Step) : (a.step s).1.InBounds := by
  cases s with
  | call c => exact h.call c
  | bind n => exact h.bind n
  | enter compressible => exact h.of_offsets rfl fun _ => rfl
  | leave => exact h.leave
  | within compressible c =>
    have henter : (a.enter compressible).InBounds := h.of_offsets rfl fun _ => rfl
    exact (henter.call c).leave

theorem run (h : a.InBounds) (steps : List Step) : (a.run steps).InBounds := by
  induction steps generalizing a with
  | nil => exact h
  | cons s steps ih => exact ih (h.step s)

theorem ofBuffer_empty {capacity : Nat} (hcap : capacity < 2 ^ 63) (useRvc : Bool) :
    (ofBuffer (.empty capacity) useRvc).InBounds where
  capacity_lt := hcap
  bound := by
    intro id target hid
    cases hid

end InBounds

/-- A run that strands no reference leaves all of them behind. -/
theorem referencesBehind_run {capacity : Nat} (hcap : capacity < 2 ^ 64) (useRvc : Bool)
    {steps : List Step} (hclean : (ofBuffer (.empty capacity) useRvc).StrandsNone steps) :
    ((ofBuffer (.empty capacity) useRvc).run steps).ReferencesBehind := by
  obtain ⟨codes, h⟩ := (Tracks.ofBuffer_empty (fun _ => True) hcap useRvc).run
    (fun _ _ _ _ _ => trivial) hclean fun _ _ _ _ _ _ _ => trivial
  intro id r hr
  exact (h.awaits id r hr).le_offset h.lays

/-! ## Following a label -/

/-- The instruction at `r`, emitted as the placeholder `c`, goes to the label `id` as soon as that
is bound. No other reference touches it. -/
structure Follows (a : Assembler) (r : Reference) (id : Nat) (c : Code) : Prop where
  size : c.size = r.kind.length
  le_pc : r.offset + r.kind.length ≤ a.pc
  capacity_lt : a.buffer.capacity < 2 ^ 63
  waits : (a.labels.get id).offset? = none →
    r ∈ (a.labels.get id).references ∧ a.buffer.Holds r.offset c
  reaches : ∀ target, (a.labels.get id).offset? = some target →
    IsSigned r.kind.offsetBits 1 ((target : Int) - r.offset) ∧
      a.buffer.Holds r.offset (c.redirect r.kind (between r.offset target))
  alone : ∀ n, ∀ t ∈ (a.labels.get n).references, (n = id ∧ t = r) ∨ t.Apart r

namespace Follows

variable {a a' : Assembler} {r : Reference} {id : Nat} {c : Code}

theorem congr (h : a.Follows r id c) (hbuffer : a'.buffer = a.buffer)
    (hlabels : a'.labels = a.labels) : a'.Follows r id c where
  size := h.size
  le_pc := by
    rw [pc, hbuffer]
    exact h.le_pc
  capacity_lt := hbuffer ▸ h.capacity_lt
  waits := hlabels ▸ hbuffer ▸ h.waits
  reaches := hlabels ▸ hbuffer ▸ h.reaches
  alone := hlabels ▸ h.alone

theorem pc_lt (h : a.Follows r id c) : a.pc < 2 ^ 63 :=
  a.buffer.size_le.trans_lt h.capacity_lt

/-- The references to another label share no byte with the instruction. -/
theorem apart_of_ne (h : a.Follows r id c) {n : Nat} (hne : id ≠ n) :
    ∀ t ∈ (a.labels.get n).references, t.Apart r := by
  intro t ht
  exact (h.alone n t ht).resolve_left fun heq => hne heq.1.symm

/-- Emission leaves the instruction where it is, and new references lie behind it. -/
theorem of_appends (h : a.Follows r id c) {codes : List Code} (happends : a.Appends a' codes)
    (hrecords : a.Records a') : a'.Follows r id c where
  size := h.size
  le_pc := h.le_pc.trans happends.pc_le
  capacity_lt := happends.capacity ▸ h.capacity_lt
  waits := by
    intro hid
    rw [hrecords.offsets] at hid
    obtain ⟨hmem, hholds⟩ := h.waits hid
    exact ⟨hrecords.kept id r hmem, hholds.of_extends happends.prefix_toList⟩
  reaches := by
    intro target hid
    rw [hrecords.offsets] at hid
    obtain ⟨hrange, hholds⟩ := h.reaches target hid
    exact ⟨hrange, hholds.of_extends happends.prefix_toList⟩
  alone := by
    intro n t ht
    rcases hrecords.new n t ht with ht | hpast
    · exact h.alone n t ht
    · exact .inr (.inr (h.le_pc.trans hpast))

theorem call (h : a.Follows r id c) (x : Call) : (a.call x).1.Follows r id c := by
  obtain ⟨codes, happends, -⟩ := a.appends_call x
  exact h.of_appends happends (a.records_call x)

theorem leave (h : a.Follows r id c) : a.leave.Follows r id c :=
  h.congr a.buffer_leave a.labels_leave

/-- Binding another label moves nothing where the reference is. -/
theorem holds_bind_of_ne (h : a.Follows r id c) {n : Nat} {c' : Code}
    (hn : (a.labels.get n).offset? = none) (hne : id ≠ n) (hsize : c'.size = r.kind.length)
    (hholds : a.buffer.Holds r.offset c') : (a.bind n).1.buffer.Holds r.offset c' := by
  rw [bind_eq_of_unbound hn]
  refine hholds.resolveAll_of_apart h.pc_lt fun t ht => ?_
  rw [hsize]
  exact h.apart_of_ne hne t ht

/-- Binding the label of the reference makes the code that waits there go to the label. -/
theorem holds_bind_self (h : a.Follows r id c) (hid : (a.labels.get id).offset? = none)
    (hnone : (a.bind id).2 = none) :
    IsSigned r.kind.offsetBits 1 ((a.pc : Int) - r.offset) ∧
      (a.bind id).1.buffer.Holds r.offset (c.redirect r.kind (between r.offset a.pc)) := by
  obtain ⟨hmem, hholds⟩ := h.waits hid
  refine ⟨((bind_fault_eq_none_iff h.pc_lt hid).1 hnone r hmem).2, ?_⟩
  rw [bind_eq_of_unbound hid] at hnone ⊢
  refine CodeBuffer.Holds.resolveAll h.pc_lt h.pc_lt h.size ?_ hnone (.inl ⟨hholds, hmem⟩)
  intro t ht
  exact (h.alone id t ht).imp_left And.right

theorem bind (h : a.Follows r id c) {n : Nat} (hnone : (a.bind n).2 = none) :
    (a.bind n).1.Follows r id c := by
  have hn : (a.labels.get n).offset? = none := by
    cases hn : (a.labels.get n).offset? with
    | none => rfl
    | some earlier =>
      rw [Assembler.bind, Label.bind_of_offset?_eq_some hn] at hnone
      cases hnone
  have hbinds := bind_binds h.pc_lt hn
  refine ⟨h.size, ?le_pc, ?capacity_lt, ?waits, ?reaches, ?alone⟩
  case le_pc => exact (a.pc_bind n).symm ▸ h.le_pc
  case capacity_lt => exact (a.capacity_bind n).symm ▸ h.capacity_lt
  case alone =>
    intro m t ht
    by_cases hm : m = n
    · rw [hm, hbinds.label] at ht
      cases ht
    · rw [hbinds.others m hm] at ht
      exact h.alone m t ht
  case waits =>
    intro hid
    have hne : id ≠ n := by
      rintro rfl
      rw [hbinds.label] at hid
      cases hid
    rw [hbinds.others id hne] at hid ⊢
    obtain ⟨hmem, hholds⟩ := h.waits hid
    exact ⟨hmem, h.holds_bind_of_ne hn hne h.size hholds⟩
  case reaches =>
    intro target hid
    by_cases hne : id = n
    · subst hne
      obtain rfl : a.pc = target := by
        rw [hbinds.label] at hid
        exact Option.some.inj hid
      exact h.holds_bind_self hn hnone
    · rw [hbinds.others id hne] at hid
      obtain ⟨hrange, hholds⟩ := h.reaches target hid
      have hsize := (c.size_redirect r.kind (between r.offset target)).trans h.size
      exact ⟨hrange, h.holds_bind_of_ne hn hne hsize hholds⟩

theorem step (h : a.Follows r id c) {s : Step} (hnone : (a.step s).2 = none) :
    (a.step s).1.Follows r id c := by
  cases s with
  | call x => exact h.call x
  | bind n => exact h.bind hnone
  | enter compressible => exact h.congr rfl rfl
  | leave => exact h.leave
  | within compressible x =>
    have henter : (a.enter compressible).Follows r id c := h.congr rfl rfl
    exact (henter.call x).leave

theorem attempt (h : a.Follows r id c) {steps : List Step} (hrun : a.attempt steps = (a', none)) :
    a'.Follows r id c := by
  induction steps generalizing a with
  | nil =>
    obtain rfl : a = a' := congrArg Prod.fst hrun
    exact h
  | cons s steps ih =>
    obtain ⟨a₁, hstep, hrest⟩ := Outcome.andThen_eq_iff.1 hrun
    have hnext := h.step (congrArg Prod.snd hstep)
    rw [hstep] at hnext
    exact ih hnext hrest

end Follows

/-- When all references lie behind, a branch or jump to a label that is not bound is emitted as its
placeholder and follows the label. -/
theorem InBounds.follows_call {a a' : Assembler} (h : a.InBounds) (hbehind : a.ReferencesBehind)
    {s : Site} {id : Nat} (hid : (a.labels.get id).offset? = none)
    (hcall : a.call (.transfer s (.label id)) = (a', none)) :
    ∃ c, s.code false 0#32 = .ok c ∧ a'.Follows ⟨a.pc, s.kind⟩ id c := by
  rw [call_unbound hid, issue_eq_iff] at hcall
  obtain ⟨c, hc, hemit⟩ := hcall
  obtain ⟨room, rfl⟩ := emit_eq_iff.1 hemit
  have hsize := Site.size_of_code_eq_ok hc
  refine ⟨c, hc, hsize, ?le_pc, h.capacity_lt, ?waits, ?reaches, ?alone⟩
  case le_pc =>
    rw [← hsize]
    exact (a.buffer.offset_append c room).ge
  case waits =>
    intro _
    refine ⟨?_, a.buffer.toList, [], ?_, a.buffer.length_toList.symm⟩
    · exact LabelTable.mem_references_insert_unbound.2 (.inr ⟨rfl, rfl⟩)
    · rw [List.append_nil]
      exact a.buffer.toList_append c room
  case reaches =>
    intro target htarget
    rw [LabelTable.get_insert _ rfl, if_pos rfl] at htarget
    cases htarget
  case alone =>
    intro n t ht
    rcases LabelTable.mem_references_insert_unbound.1 ht with ht | hnew
    · exact .inr (.inl (hbehind n t ht))
    · exact .inl hnew

end Assembler

end RiscvAssembler
