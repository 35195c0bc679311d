import RiscvAssembler.Proofs.Backpatching
import RiscvAssembler.Proofs.Placement

/-!
# The instructions in a buffer

The bytes of a buffer are the codes of the instructions emitted so far, one after the other, and
every reference that waits for a label designates one of them. Emission adds a code at the end,
resolution replaces a code by one of the same length. The only step that breaks this is one that
names a label, is refused, and leaves the reference behind.
-/

namespace RiscvAssembler

/-! ## Streams of codes -/

/-- Where the codes stand when they are laid one after the other from `p` on. -/
def positions (p : Nat) : List Code → List Nat
  | [] => []
  | c :: codes => p :: positions (p + c.size) codes

theorem positions_append (p : Nat) (codes more : List Code) :
    positions p (codes ++ more) =
      positions p codes ++ positions (p + (codes.flatMap Code.bytes).length) more := by
  induction codes generalizing p with
  | nil => rfl
  | cons c codes ih =>
    rw [List.cons_append, positions, positions, ih, List.cons_append, List.flatMap_cons,
      List.length_append, c.length_bytes, Nat.add_assoc]

/-- The code `c` stands at `p` in the stream. -/
def Stands (codes : List Code) (p : Nat) (c : Code) : Prop :=
  ∃ before after, codes = before ++ c :: after ∧ p = (before.flatMap Code.bytes).length

namespace Stands

variable {codes : List Code} {p q : Nat} {c c' e : Code} {b : CodeBuffer}

theorem mem_positions (h : Stands codes p c) : p ∈ positions 0 codes := by
  obtain ⟨before, after, rfl, rfl⟩ := h
  rw [positions_append, Nat.zero_add]
  exact List.mem_append_right _ List.mem_cons_self

theorem append (h : Stands codes p c) (more : List Code) : Stands (codes ++ more) p c := by
  obtain ⟨before, after, rfl, rfl⟩ := h
  exact ⟨before, after ++ more, List.append_assoc .., rfl⟩

theorem last (codes : List Code) (c : Code) :
    Stands (codes ++ [c]) (codes.flatMap Code.bytes).length c :=
  ⟨codes, [], rfl, rfl⟩

theorem holds (h : Stands codes p c) (hb : b.toList = codes.flatMap Code.bytes) :
    b.Holds p c := by
  obtain ⟨before, after, rfl, rfl⟩ := h
  refine ⟨before.flatMap Code.bytes, after.flatMap Code.bytes, ?_, rfl⟩
  rw [hb, List.flatMap_append, List.flatMap_cons, List.append_assoc]

/-- A code can be replaced by one of the same length. Codes at other places stay, and no code
moves. -/
theorem replace (h : Stands codes p c) (hc : c'.size = c.size) :
    ∃ codes', positions 0 codes' = positions 0 codes ∧ (∀ e ∈ codes', e = c' ∨ e ∈ codes) ∧
      (∀ q e, Stands codes q e → q ≠ p → Stands codes' q e) ∧
        ∀ b : CodeBuffer, b.toList = codes.flatMap Code.bytes →
          (b.overwrite p c').toList = codes'.flatMap Code.bytes := by
  obtain ⟨before, after, rfl, rfl⟩ := h
  have hlength : c'.bytes.length = c.bytes.length := by
    rw [c.length_bytes, c'.length_bytes, hc]
  refine ⟨before ++ c' :: after, ?_, ?_, ?_, ?_⟩
  · rw [positions_append, positions_append, positions, positions, hc]
  · intro e he
    simp only [List.mem_append, List.mem_cons] at he ⊢
    tauto
  -- The other code stands behind the replaced one or before it; with nothing in between the two
  -- would stand at the same place.
  · rintro q e ⟨before', after', heq, rfl⟩ hq
    rcases List.append_eq_append_iff.1 heq with ⟨between, rfl, hafter⟩ | ⟨between, rfl, hafter⟩
    · cases between with
      | nil => exact absurd (by rw [List.append_nil]) hq
      | cons x between =>
        obtain ⟨rfl, rfl⟩ := List.cons.inj hafter
        refine ⟨before ++ c' :: between, after', by simp, ?_⟩
        simp only [List.flatMap_append, List.flatMap_cons, List.length_append, hlength]
    · cases between with
      | nil => exact absurd (by rw [List.append_nil]) hq
      | cons x between =>
        obtain ⟨rfl, rfl⟩ := List.cons.inj hafter
        exact ⟨before', between ++ c' :: after, by simp, rfl⟩
  · intro b hb
    rw [List.flatMap_append, List.flatMap_cons, ← List.append_assoc] at hb ⊢
    exact CodeBuffer.toList_overwrite_of_toList_eq hb hc

end Stands

/-- The stream has a branch or jump without displacement at the reference. -/
def Reference.Awaits (r : Reference) (codes : List Code) : Prop :=
  ∃ s c, Stands codes r.offset c ∧ Site.kind s = r.kind ∧ s.code false 0#32 = .ok c

/-! ## Where a run emits -/

def Call.reference? : Call → Option (Site × Nat)
  | .transfer s (.label id) => some (s, id)
  | _ => none

def Step.call? : Step → Option Call
  | .call c => some c
  | .within _ c => some c
  | .bind _ | .enter _ | .leave => none

/-- The branch or jump to a label that the step asks for. -/
def Step.reference? (s : Step) : Option (Site × Nat) :=
  s.call?.bind Call.reference?

theorem CodeBuffer.offset_resolveAll (b : CodeBuffer) (target : Nat) (refs : List Reference) :
    (b.resolveAll target refs).1.offset = b.offset := by
  induction refs generalizing b with
  | nil => rfl
  | cons r refs ih =>
    rw [resolveAll]
    split
    · rw [ih, offset_overwrite]
    · rfl

theorem CodeBuffer.capacity_resolveAll (b : CodeBuffer) (target : Nat) (refs : List Reference) :
    (b.resolveAll target refs).1.capacity = b.capacity := by
  induction refs generalizing b with
  | nil => rfl
  | cons r refs ih =>
    rw [resolveAll]
    split
    · exact ih _
    · rfl

namespace Assembler

/-- Where the instructions of a call are emitted, up to the first that is refused. -/
def placedAt (a : Assembler) : List (Except Fault Content) → List Nat
  | [] => []
  | .error _ :: _ => []
  | .ok content :: contents =>
    match a.place content with
    | (a', none) => a.pc :: a'.placedAt contents
    | (_, some _) => []

def stepStarts (a : Assembler) : Step → List Nat
  | .call c => a.placedAt (c.contents a.active)
  | .within compressible c =>
    (a.enter compressible).placedAt (c.contents (a.enter compressible).active)
  | .bind _ | .enter _ | .leave => []

/-- Where the run emits its instructions. -/
def starts (a : Assembler) : List Step → List Nat
  | [] => []
  | s :: steps => a.stepStarts s ++ (a.step s).1.starts steps

/-- The step names a label that is not bound and is refused. -/
def Strands (a : Assembler) (s : Step) : Prop :=
  ∃ ref ∈ s.reference?, (a.labels.get ref.2).offset? = none ∧ (a.step s).2 ≠ none

instance (a : Assembler) (s : Step) : Decidable (a.Strands s) :=
  inferInstanceAs (Decidable (∃ ref ∈ s.reference?, _))

/-- No step of the run strands a reference. -/
def StrandsNone (a : Assembler) : List Step → Prop
  | [] => True
  | s :: steps => ¬ a.Strands s ∧ (a.step s).1.StrandsNone steps

instance decidableStrandsNone (a : Assembler) : (steps : List Step) →
    Decidable (a.StrandsNone steps)
  | [] => isTrue trivial
  | s :: steps => @instDecidableAnd _ _ _ (decidableStrandsNone (a.step s).1 steps)

theorem pc_bind (a : Assembler) (id : Nat) : (a.bind id).1.pc = a.pc := by
  unfold bind
  split
  · exact a.buffer.offset_resolveAll _ _
  · rfl

theorem capacity_bind (a : Assembler) (id : Nat) :
    (a.bind id).1.buffer.capacity = a.buffer.capacity := by
  unfold bind
  split
  · exact a.buffer.capacity_resolveAll _ _
  · rfl

theorem strandsNone_append {a : Assembler} {steps more : List Step} :
    a.StrandsNone (steps ++ more) ↔ a.StrandsNone steps ∧ (a.run steps).StrandsNone more := by
  induction steps generalizing a with
  | nil => exact (iff_of_eq (true_and (a.StrandsNone more))).symm
  | cons s steps ih =>
    rw [List.cons_append, StrandsNone, StrandsNone, ih, and_assoc, run_cons]

theorem StrandsNone.mono {a : Assembler} {steps before : List Step}
    (h : a.StrandsNone steps) (hbefore : before <+: steps) : a.StrandsNone before := by
  obtain ⟨after, rfl⟩ := hbefore
  exact (strandsNone_append.1 h).1

end Assembler

namespace Call

variable {c : Call}

theorem eq_transfer_of_reference? {s : Site} {id : Nat} (h : c.reference? = some (s, id)) :
    c = .transfer s (.label id) := by
  cases c with
  | transfer s' t =>
    cases t with
    | displacement d => cases h
    | label id' =>
      cases h
      rfl
  | _ => cases h

/-- A call that names no label asks for settled codes. -/
theorem exists_fixed (h : c.reference? = none) {active : Bool} {content : Content}
    (hmem : .ok content ∈ c.contents active) : ∃ code, content = .fixed code := by
  have hmap : ∀ x : Except Fault Code, .ok content = Content.fixed <$> x →
      ∃ code, content = .fixed code := by
    intro x hx
    obtain ⟨code, -, hcode⟩ := map_eq_ok_iff.1 hx.symm
    exact ⟨code, hcode.symm⟩
  cases c with
  | raw code => exact ⟨code, Except.ok.inj (List.mem_singleton.1 hmem)⟩
  | instr i mayCompress => exact hmap _ (List.mem_singleton.1 hmem)
  | compact form => exact hmap _ (List.mem_singleton.1 hmem)
  | transfer s t =>
    cases t with
    | displacement d => exact hmap _ (List.mem_singleton.1 hmem)
    | label id => cases h
  | compactNop => exact ⟨_, Except.ok.inj (List.mem_singleton.1 hmem)⟩
  | nop => exact hmap _ (List.mem_singleton.1 hmem)
  | li rd imm =>
    obtain ⟨i, -, hi⟩ := List.mem_map.1 hmem
    exact hmap _ hi.symm

theorem reference?_of_mem_contents {s : Site} {id : Nat} {active active' : Bool}
    (hmem : .ok (.reference s id active') ∈ c.contents active) : c.reference? = some (s, id) := by
  cases href : c.reference? with
  | none =>
    obtain ⟨code, hcode⟩ := exists_fixed href hmem
    cases hcode
  | some ref =>
    obtain rfl := eq_transfer_of_reference? href
    cases List.mem_singleton.1 hmem
    rfl

end Call

/-! ## The codes of a buffer along a run -/

/-- The buffer consists of the codes, which have the property `P` and were emitted at `starts`. -/
structure CodeBuffer.Lays (P : Code → Prop) (b : CodeBuffer) (starts : List Nat)
    (codes : List Code) : Prop where
  capacity_lt : b.capacity < 2 ^ 64
  bytes : b.toList = codes.flatMap Code.bytes
  starts : positions 0 codes = starts
  all : ∀ c ∈ codes, P c

/-- The references that wait for labels designate codes of the buffer, no two the same. -/
structure Assembler.Tracks (P : Code → Prop) (a : Assembler) (starts : List Nat)
    (codes : List Code) : Prop where
  lays : a.buffer.Lays P starts codes
  awaits : ∀ id, ∀ r ∈ (a.labels.get id).references, r.Awaits codes
  apart : ∀ id, (a.labels.get id).references.Pairwise Reference.Apart
  apart_of_ne : ∀ id n, id ≠ n → ∀ r ∈ (a.labels.get id).references,
    ∀ t ∈ (a.labels.get n).references, r.Apart t

/-- What the step asks for without a label has the property `P`. -/
def Step.Only (P : Code → Prop) (s : Step) : Prop :=
  ∀ c ∈ s.call?, ∀ active code, .ok (.fixed code) ∈ c.contents active → P code

section Laying

variable {P : Code → Prop} {b : CodeBuffer} {a : Assembler} {starts : List Nat}
  {codes : List Code} {c c' : Code} {r : Reference} {target : Nat}

namespace CodeBuffer.Lays

theorem offset (h : b.Lays P starts codes) :
    b.offset = (codes.flatMap Code.bytes).length := by
  rw [← b.length_toList, h.bytes]

theorem append (h : b.Lays P starts codes) (hc : P c) (room : c.size ≤ b.remaining) :
    (b.append c room).Lays P (starts ++ [b.offset]) (codes ++ [c]) where
  capacity_lt := h.capacity_lt
  bytes := by
    rw [toList_append, h.bytes, List.flatMap_append, List.flatMap_singleton]
  starts := by
    rw [positions_append, h.starts, Nat.zero_add, h.offset]
    rfl
  all := by
    intro e he
    rcases List.mem_append.1 he with he | he
    · exact h.all e he
    · obtain rfl := List.mem_singleton.1 he
      exact hc

end CodeBuffer.Lays

/-- A reference that waits lies before the end of the stream. -/
theorem Reference.Awaits.le_offset (hr : r.Awaits codes) (h : b.Lays P starts codes) :
    r.offset + r.kind.length ≤ b.offset := by
  obtain ⟨s, c, hstands, hkind, hc⟩ := hr
  rw [← hkind, ← Site.size_of_code_eq_ok hc]
  exact (hstands.holds h.bytes).le_offset

theorem Reference.Awaits.append (hr : r.Awaits codes) (more : List Code) :
    r.Awaits (codes ++ more) := by
  obtain ⟨s, c, hstands, hkind, hc⟩ := hr
  exact ⟨s, c, hstands.append more, hkind, hc⟩

variable (hP : ∀ (s : Site) active d c, s.code active d = .ok c → P c)

include hP

/-- Resolving a reference keeps the length of every code. -/
theorem CodeBuffer.Lays.overwrite (h : b.Lays P starts codes) (hr : r.Awaits codes)
    (hresolved : b.resolved r target = .ok c') :
    ∃ codes', (b.overwrite r.offset c').Lays P starts codes' ∧
      ∀ t : Reference, t.Awaits codes → r.Apart t → t.Awaits codes' := by
  have hsize : b.offset < 2 ^ 64 := b.size_le.trans_lt h.capacity_lt
  obtain ⟨s, c, hstands, hkind, hc⟩ := hr
  obtain ⟨before, after, hlist, hp⟩ := hstands.holds h.bytes
  have hlength : c.size = r.kind.length := hkind ▸ Site.size_of_code_eq_ok hc
  obtain ⟨d, -, hfits, rfl⟩ := (resolved_eq_ok_iff hsize hlist hp hlength).1 hresolved
  have hcode : s.code false (d.setWidth 32) = .ok (c.redirect r.kind (d.setWidth 32)) := by
    rw [Site.code_eq_ok_iff, hkind]
    exact ⟨r.kind.fits_signExtend_setWidth hfits, c, hc, rfl⟩
  obtain ⟨codes', hpositions, hmem, hstay, hbytes⟩ := hstands.replace (c.size_redirect r.kind _)
  refine ⟨codes', ⟨h.capacity_lt, hbytes b h.bytes, hpositions.trans h.starts, ?_⟩, ?_⟩
  · intro e he
    rcases hmem e he with rfl | he
    · exact hP s false _ _ hcode
    · exact h.all e he
  · rintro t ⟨s', e, hstands', hkind', he⟩ hapart
    exact ⟨s', e, hstay _ _ hstands' hapart.offset_ne.symm, hkind', he⟩

theorem CodeBuffer.Lays.resolveAll {refs : List Reference} (h : b.Lays P starts codes)
    (hrefs : ∀ r ∈ refs, r.Awaits codes) (hapart : refs.Pairwise Reference.Apart) :
    ∃ codes', (b.resolveAll target refs).1.Lays P starts codes' ∧
      ∀ t : Reference, t.Awaits codes → (∀ r ∈ refs, r.Apart t) → t.Awaits codes' := by
  induction refs generalizing b codes with
  | nil => exact ⟨codes, h, fun t ht _ => ht⟩
  | cons r refs ih =>
    rw [List.forall_mem_cons] at hrefs
    rw [List.pairwise_cons] at hapart
    cases hres : b.resolved r target with
    | error f =>
      rw [CodeBuffer.resolveAll, hres]
      exact ⟨codes, h, fun t ht _ => ht⟩
    | ok c' =>
      -- The references still to be resolved share no byte with this one, so they keep waiting.
      obtain ⟨codes₁, h₁, hstay₁⟩ := h.overwrite hP hrefs.1 hres
      obtain ⟨codes', h', hstay'⟩ :=
        ih h₁ (fun t ht => hstay₁ t (hrefs.2 t ht) (hapart.1 t ht)) hapart.2
      rw [CodeBuffer.resolveAll, hres]
      refine ⟨codes', h', fun t ht happ => ?_⟩
      rw [List.forall_mem_cons] at happ
      exact hstay' t (hstay₁ t ht happ.1) happ.2

end Laying

namespace Assembler.Tracks

variable {P : Code → Prop} {a : Assembler} {starts : List Nat} {codes : List Code} {c : Code}

theorem ofBuffer_empty (P : Code → Prop) {capacity : Nat} (hcap : capacity < 2 ^ 64)
    (useRvc : Bool) : (ofBuffer (.empty capacity) useRvc).Tracks P [] [] where
  lays := ⟨hcap, rfl, rfl, List.forall_mem_nil _⟩
  awaits _ _ h := nomatch h
  apart _ := .nil
  apart_of_ne _ _ _ _ h := nomatch h

/-- Only the buffer and the labels matter. -/
theorem congr {a' : Assembler} (h : a.Tracks P starts codes) (hbuffer : a'.buffer = a.buffer)
    (hlabels : a'.labels = a.labels) : a'.Tracks P starts codes where
  lays := hbuffer ▸ h.lays
  awaits := hlabels ▸ h.awaits
  apart := hlabels ▸ h.apart
  apart_of_ne := hlabels ▸ h.apart_of_ne

theorem leave (h : a.Tracks P starts codes) : a.leave.Tracks P starts codes := by
  unfold Assembler.leave
  split
  · exact h
  · exact h.congr rfl rfl

theorem append (h : a.Tracks P starts codes) (hc : P c) (room : c.size ≤ a.buffer.remaining) :
    { a with buffer := a.buffer.append c room }.Tracks P (starts ++ [a.pc]) (codes ++ [c]) where
  lays := h.lays.append hc room
  awaits id r hr := (h.awaits id r hr).append [c]
  apart := h.apart
  apart_of_ne := h.apart_of_ne

/-- A placeholder is emitted together with the reference to it. -/
theorem appendReference (h : a.Tracks P starts codes) (hc : P c)
    (room : c.size ≤ a.buffer.remaining) {s : Site} (hcode : s.code false 0#32 = .ok c) (id : Nat) :
    Assembler.Tracks P
      { a with
        buffer := a.buffer.append c room
        labels := a.labels.insert
          ⟨id, .unbound ((a.labels.get id).references ++ [⟨a.pc, s.kind⟩])⟩ }
      (starts ++ [a.pc]) (codes ++ [c]) := by
  have hnew : Reference.Awaits ⟨a.pc, s.kind⟩ (codes ++ [c]) := by
    have hlast := Stands.last codes c
    rw [← h.lays.offset] at hlast
    exact ⟨s, c, hlast, rfl, hcode⟩
  have hold : ∀ n, ∀ r ∈ (a.labels.get n).references, r.Apart ⟨a.pc, s.kind⟩ := by
    intro n r hr
    exact .inl ((h.awaits n r hr).le_offset h.lays)
  constructor
  case lays => exact h.lays.append hc room
  case awaits =>
    intro n r hr
    rcases LabelTable.mem_references_insert_unbound.1 hr with hr | ⟨rfl, rfl⟩
    · exact (h.awaits n r hr).append [c]
    · exact hnew
  case apart =>
    intro n
    rw [LabelTable.references_insert]
    split
    · refine List.pairwise_append.2 ⟨h.apart id, List.pairwise_singleton _ _, ?_⟩
      intro r hr t ht
      obtain rfl := List.mem_singleton.1 ht
      exact hold id r hr
    · exact h.apart n
  case apart_of_ne =>
    intro n m hne r hr t ht
    rw [LabelTable.mem_references_insert_unbound] at hr ht
    rcases hr with hr | ⟨rfl, rfl⟩
    · rcases ht with ht | ⟨rfl, rfl⟩
      · exact h.apart_of_ne n m hne r hr t ht
      · exact hold n r hr
    · rcases ht with ht | ⟨rfl, rfl⟩
      · exact symm (hold m t ht)
      · exact absurd rfl hne

theorem issue (h : a.Tracks P starts codes) {x : Except Fault Code} (hx : ∀ c, x = .ok c → P c) :
    ∃ codes', (a.issue x).1.Tracks P
      (starts ++ if (a.issue x).2 = none then [a.pc] else []) codes' := by
  have hsame : ∀ f, a.Tracks P
      (starts ++ if ((a, some f) : Outcome).2 = none then [a.pc] else []) codes := by
    intro f
    rw [if_neg nofun, List.append_nil]
    exact h
  cases x with
  | error f => exact ⟨codes, hsame f⟩
  | ok c =>
    by_cases room : c.size ≤ a.buffer.remaining
    · rw [issue_ok_of_room room]
      exact ⟨_, h.append (hx c rfl) room⟩
    · have hfull : a.issue (.ok c) = (a, some .bufferFull) := dif_neg room
      rw [hfull]
      exact ⟨codes, hsame _⟩

end Assembler.Tracks

namespace Assembler

theorem placedAt_cons (a : Assembler) (content : Content)
    (contents : List (Except Fault Content)) :
    a.placedAt (.ok content :: contents) =
      if (a.place content).2 = none then a.pc :: (a.place content).1.placedAt contents else [] := by
  rw [placedAt]
  obtain ⟨a', _ | f⟩ := a.place content
  · rw [if_pos rfl]
  · rw [if_neg nofun]

/-- A branch or jump to a label that is not bound records the reference and emits a placeholder. -/
theorem call_unbound {a : Assembler} {s : Site} {id : Nat}
    (hid : (a.labels.get id).offset? = none) :
    a.call (.transfer s (.label id)) =
      issue
        { a with
          labels := a.labels.insert
            ⟨id, .unbound ((a.labels.get id).references ++ [⟨a.pc, s.kind⟩])⟩ }
        (s.code false 0#32) := by
  have hcontents : (Call.transfer s (.label id)).contents a.active =
      [.ok (.reference s id a.active)] := rfl
  rw [call_eq_placeAll, hcontents, placeAll_singleton, place_unbound hid]

end Assembler

namespace Assembler.Tracks

variable {P : Code → Prop} {a : Assembler} {starts : List Nat} {codes : List Code} {c : Code}

/-- Codes that need no label are emitted until one is refused. -/
theorem placeAll_fixed (h : a.Tracks P starts codes) {contents : List (Except Fault Content)}
    (hfixed : ∀ content, .ok content ∈ contents → ∃ c, content = .fixed c ∧ P c) :
    ∃ codes', (a.placeAll contents).1.Tracks P (starts ++ a.placedAt contents) codes' := by
  induction contents generalizing a starts codes with
  | nil => exact ⟨codes, (List.append_nil starts).symm ▸ h⟩
  | cons x contents ih =>
    cases x with
    | error f => exact ⟨codes, (List.append_nil starts).symm ▸ h⟩
    | ok content =>
      obtain ⟨c, rfl, hc⟩ := hfixed content List.mem_cons_self
      have hplace : a.place (.fixed c) = a.issue (.ok c) := rfl
      obtain ⟨codes₁, h₁⟩ := h.issue (x := .ok c) fun _ heq => Except.ok.inj heq ▸ hc
      rw [placeAll, placedAt_cons, hplace]
      generalize a.issue (.ok c) = o at h₁ ⊢
      obtain ⟨a₁, _ | f⟩ := o
      · obtain ⟨codes', h'⟩ :=
          ih h₁ fun content hmem => hfixed content (List.mem_cons_of_mem _ hmem)
        rw [if_pos rfl, List.append_assoc] at h'
        exact ⟨codes', h'⟩
      · exact ⟨codes₁, h₁⟩

/-- A branch or jump to a label is emitted or refused. It leaves no reference when it is refused
after its label was bound. -/
theorem place_reference (h : a.Tracks P starts codes)
    (hP : ∀ (s : Site) active d c, s.code active d = .ok c → P c) {s : Site} {id : Nat}
    {active : Bool}
    (hclean : (a.labels.get id).offset? = none → (a.place (.reference s id active)).2 = none) :
    ∃ codes', (a.place (.reference s id active)).1.Tracks P
      (starts ++ if (a.place (.reference s id active)).2 = none then [a.pc] else []) codes' := by
  cases hid : (a.labels.get id).offset? with
  | some offset =>
    have hplace : a.place (.reference s id active) =
        a.issue ((distance a.pc offset).map (·.setWidth 32) >>= s.code active) := by
      simp only [place, resolve, hid]
    rw [hplace]
    apply h.issue
    intro c hcode
    obtain ⟨d, -, hd⟩ := bind_eq_ok_iff.1 hcode
    exact hP s active d c hd
  | none =>
    -- The reference is recorded first, so only the success of the call makes it designate code.
    have hnone := hclean hid
    rw [place_unbound hid] at hnone ⊢
    obtain ⟨c, hcode, hemit⟩ := issue_eq_iff.1 (Prod.ext rfl hnone)
    obtain ⟨room, -⟩ := emit_eq_iff.1 hemit
    rw [hcode, issue_ok_of_room room]
    exact ⟨_, h.appendReference (hP s false _ c hcode) room hcode id⟩

theorem call (h : a.Tracks P starts codes)
    (hP : ∀ (s : Site) active d c, s.code active d = .ok c → P c) {c : Call}
    (hclean : ∀ ref ∈ c.reference?, (a.labels.get ref.2).offset? = none → (a.call c).2 = none)
    (honly : ∀ active code, .ok (.fixed code) ∈ c.contents active → P code) :
    ∃ codes', (a.call c).1.Tracks P (starts ++ a.placedAt (c.contents a.active)) codes' := by
  rw [call_eq_placeAll] at hclean ⊢
  cases href : c.reference? with
  | none =>
    apply h.placeAll_fixed
    intro content hmem
    obtain ⟨code, rfl⟩ := Call.exists_fixed href hmem
    exact ⟨code, rfl, honly _ code hmem⟩
  | some ref =>
    obtain ⟨s, id⟩ := ref
    obtain rfl := Call.eq_transfer_of_reference? href
    have hcontents : (Call.transfer s (.label id)).contents a.active =
        [.ok (.reference s id a.active)] := rfl
    rw [hcontents, placeAll_singleton] at hclean ⊢
    rw [placedAt_cons]
    exact h.place_reference hP (hclean _ href)

theorem bind (h : a.Tracks P starts codes)
    (hP : ∀ (s : Site) active d c, s.code active d = .ok c → P c) (id : Nat) :
    ∃ codes', (a.bind id).1.Tracks P starts codes' := by
  cases hid : (a.labels.get id).offset? with
  | some earlier =>
    rw [Assembler.bind, Label.bind_of_offset?_eq_some hid]
    exact ⟨codes, h⟩
  | none =>
    rw [bind_eq_of_unbound hid]
    obtain ⟨codes', hlays, hstay⟩ : ∃ codes',
        (a.buffer.resolveAll a.pc (a.labels.get id).references).1.Lays P starts codes' ∧
          ∀ t : Reference, t.Awaits codes → (∀ r ∈ (a.labels.get id).references, r.Apart t) →
            t.Awaits codes' :=
      h.lays.resolveAll hP (h.awaits id) (h.apart id)
    refine ⟨codes', hlays, ?awaits, ?apart, ?apart_of_ne⟩
    case awaits =>
      intro n r hr
      obtain ⟨hn, hr⟩ := LabelTable.mem_references_insert_bound.1 hr
      exact hstay r (h.awaits n r hr) fun t ht => h.apart_of_ne id n hn.symm t ht r hr
    case apart =>
      intro n
      rw [LabelTable.references_insert]
      split
      · exact .nil
      · exact h.apart n
    case apart_of_ne =>
      intro n m hne r hr t ht
      rw [LabelTable.mem_references_insert_bound] at hr ht
      exact h.apart_of_ne n m hne r hr.2 t ht.2

/-- A step that strands no reference emits codes at the end and keeps the others where they are. -/
theorem step (h : a.Tracks P starts codes)
    (hP : ∀ (s : Site) active d c, s.code active d = .ok c → P c) {s : Step}
    (hclean : ¬ a.Strands s) (honly : s.Only P) :
    ∃ codes', (a.step s).1.Tracks P (starts ++ a.stepStarts s) codes' := by
  have hnone : ∀ ref ∈ s.reference?, (a.labels.get ref.2).offset? = none →
      (a.step s).2 = none := by
    intro ref href hid
    by_contra hfault
    exact hclean ⟨ref, href, hid, hfault⟩
  cases s with
  | call c => exact h.call hP hnone (honly c rfl)
  | bind id =>
    rw [stepStarts, List.append_nil]
    exact h.bind hP id
  | enter compressible =>
    rw [stepStarts, List.append_nil]
    exact ⟨codes, h.congr rfl rfl⟩
  | leave =>
    rw [stepStarts, List.append_nil]
    exact ⟨codes, h.leave⟩
  | within compressible c =>
    have henter : (a.enter compressible).Tracks P starts codes := h.congr rfl rfl
    obtain ⟨codes', h'⟩ := henter.call hP hnone (honly c rfl)
    exact ⟨codes', h'.leave⟩

theorem run (h : a.Tracks P starts codes)
    (hP : ∀ (s : Site) active d c, s.code active d = .ok c → P c) {steps : List Step}
    (hclean : a.StrandsNone steps) (honly : ∀ s ∈ steps, s.Only P) :
    ∃ codes', (a.run steps).Tracks P (starts ++ a.starts steps) codes' := by
  induction steps generalizing a starts codes with
  | nil => exact ⟨codes, (List.append_nil starts).symm ▸ h⟩
  | cons s steps ih =>
    rw [List.forall_mem_cons] at honly
    obtain ⟨codes₁, h₁⟩ := h.step hP hclean.1 honly.1
    obtain ⟨codes', h'⟩ := ih h₁ hclean.2 honly.2
    rw [List.append_assoc] at h'
    exact ⟨codes', h'⟩

end Assembler.Tracks

end RiscvAssembler
