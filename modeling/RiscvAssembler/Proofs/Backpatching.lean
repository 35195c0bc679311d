import RiscvAssembler.Proofs.Listing

/-!
# Backpatching

An assembler that patches references when a label is bound realizes the listing of its program: its
bytes are the codes of the entries with the offsets bound so far, and the references that wait for a
label are the entries that name it. Every call and every bind preserves this.
-/

namespace RiscvAssembler

open Function

/-! ## Resolving the references of a listing -/

/-- A buffer that holds the given bytes. -/
def CodeBuffer.ofList (capacity : Nat) (xs : List UInt8) (h : xs.length ≤ capacity) : CodeBuffer :=
  ⟨capacity, ⟨⟨xs⟩⟩, h⟩

section Resolving

variable {offsets : Offsets} {id target start stop : Nat} {e : Entry} {entries : List Entry}
  {c : Code} {codes : List Code} {b b' : CodeBuffer} {before after : List UInt8}

/-- The references of a list that starts with an entry are resolved when the entry has a code under
the new offset and, once this code stands in the buffer, the other references are resolved. -/
theorem CodeBuffer.resolveAll_cons_eq_iff (hid : offsets id = none) (hb : b.offset ≤ 2 ^ 31)
    (htarget : target ≤ 2 ^ 31) (hstop : e.position + c.size ≤ target)
    (hc : e.code offsets = .ok c) (hlist : b.toList = before ++ c.bytes ++ after)
    (hbefore : e.position = before.length) :
    b.resolveAll target ((e :: entries).filterMap (Entry.reference? id)) = (b', none) ↔
      ∃ (c' : Code) (b₁ : CodeBuffer), e.code (update offsets id (some target)) = .ok c' ∧
        b₁.toList = before ++ c'.bytes ++ after ∧ b₁.capacity = b.capacity ∧
          b₁.resolveAll target (entries.filterMap (Entry.reference? id)) = (b', none) := by
  have hpos := c.size_pos
  cases hr : e.reference? id with
  | none =>
    rw [List.filterMap_cons_none hr, Entry.code_update_of_reference?_eq_none hr, hc]
    constructor
    · intro h
      exact ⟨c, b, rfl, hlist, rfl, h⟩
    · rintro ⟨c', b₁, hc', hlist', hcap, h⟩
      obtain rfl : c = c' := Except.ok.inj hc'
      rwa [ext hcap (hlist'.trans hlist.symm)] at h
  | some r =>
    have hoffset : r.offset = e.position := Entry.offset_of_reference?_eq_some hr
    have hlt : e.position < target := by omega
    have hresolved : ∀ c', b.resolved r target = .ok c' ↔
        e.code (update offsets id (some target)) = .ok c' := by
      intro c'
      obtain ⟨hsize, hcode⟩ : _ ∧ (_ = Except.ok c' ↔ _) :=
        Entry.code_update_eq_ok_iff hr hid hlt hc
      rw [hcode, resolved_eq_ok_iff_of_near hb htarget hlist (hoffset.trans hbefore) hsize]
    have hoverwrite : ∀ c', e.code (update offsets id (some target)) = .ok c' →
        (b.overwrite r.offset c').toList = before ++ c'.bytes ++ after := by
      intro c' hc'
      rw [hoffset, hbefore]
      exact toList_overwrite_of_toList_eq hlist (e.size_eq_of_code_update_eq_ok hid hlt hc hc')
    rw [List.filterMap_cons_some hr, resolveAll]
    constructor
    · intro h
      cases hres : b.resolved r target with
      | error f =>
        rw [hres] at h
        cases h
      | ok c' =>
        rw [hres] at h
        have hc' := (hresolved c').1 hres
        exact ⟨c', _, hc', hoverwrite c' hc', rfl, h⟩
    · rintro ⟨c', b₁, hc', hlist', hcap, h⟩
      have hb₁ : b₁ = b.overwrite r.offset c' := ext hcap (hlist'.trans (hoverwrite c' hc').symm)
      rw [(hresolved c').2 hc']
      rwa [hb₁] at h

/-- Resolving the references to a label succeeds exactly when every entry has a code under the new
offset. The buffer then holds these codes. -/
theorem CodeBuffer.resolveAll_eq_iff (hid : offsets id = none) (htarget : target ≤ 2 ^ 31)
    (h : Laid offsets start entries codes stop) (hstop : stop ≤ target) (hb : b.offset ≤ 2 ^ 31)
    (hlist : b.toList = before ++ codes.flatMap Code.bytes) (hbefore : before.length = start) :
    b.resolveAll target (entries.filterMap (Entry.reference? id)) = (b', none) ↔
      ∃ codes', Laid (update offsets id (some target)) start entries codes' stop ∧
        b'.toList = before ++ codes'.flatMap Code.bytes ∧ b'.capacity = b.capacity := by
  induction h generalizing b before with
  | nil p =>
    constructor
    · intro h
      obtain rfl : b = b' := congrArg Prod.fst h
      exact ⟨[], .nil _, hlist, rfl⟩
    · rintro ⟨codes', h', hlist', hcap⟩
      cases h'
      rw [ext hcap (hlist'.trans hlist.symm)]
      rfl
  | @cons e c entries codes start stop hp hc rest ih =>
    rw [List.flatMap_cons, ← List.append_assoc] at hlist
    have hle := rest.start_le
    have hpos := c.size_pos
    rw [resolveAll_cons_eq_iff hid hb htarget (by omega) hc hlist (by omega)]
    have hnext : ∀ {c' : Code} {b₁ : CodeBuffer}, c'.size = c.size →
        b₁.toList = before ++ c'.bytes ++ codes.flatMap Code.bytes →
        b₁.offset ≤ 2 ^ 31 ∧ (before ++ c'.bytes).length = start + c.size := by
      intro c' b₁ hsize hlist'
      constructor
      · rw [← length_toList] at hb ⊢
        rw [hlist] at hb
        rw [hlist']
        simpa only [List.length_append, Code.length_bytes, hsize] using hb
      · rw [List.length_append, Code.length_bytes, hsize, hbefore]
    constructor
    · rintro ⟨c', b₁, hc', hlist', hcap, h⟩
      have hsize := e.size_eq_of_code_update_eq_ok hid (by omega) hc hc'
      obtain ⟨hb₁, hlen⟩ := hnext hsize hlist'
      obtain ⟨codes', hlaid, hlist'', hcap'⟩ := (ih hstop hb₁ hlist' hlen).1 h
      refine ⟨c' :: codes', .cons hp hc' (hsize ▸ hlaid), ?_, hcap'.trans hcap⟩
      rw [hlist'', List.flatMap_cons, List.append_assoc]
    · rintro ⟨_, hlaid, hlist', hcap⟩
      obtain _ | @⟨_, c', _, codes', _, _, -, hc', rest'⟩ := hlaid
      have hsize := e.size_eq_of_code_update_eq_ok hid (by omega) hc hc'
      have hlist₁ := toList_overwrite_of_toList_eq hlist hsize
      obtain ⟨hb₁, hlen⟩ := hnext hsize hlist₁
      refine ⟨c', _, hc', hlist₁, rfl, (ih hstop hb₁ hlist₁ hlen).2 ?_⟩
      refine ⟨codes', hsize ▸ rest', ?_, hcap⟩
      rw [hlist', List.flatMap_cons, List.append_assoc]

end Resolving

/-! ## Realizing a listing -/

namespace LabelTable

theorem id_get (t : LabelTable) (id : Nat) : (t.get id).id = id := by
  unfold get find?
  cases h : t.labels.find? (·.id == id) with
  | none => rfl
  | some l =>
    have hid := List.find?_some h
    exact beq_iff_eq.1 hid

theorem get_insert (t : LabelTable) {l : Label} {id n : Nat} (hl : l.id = id) :
    (t.insert l).get n = if n = id then l else t.get n := by
  subst hl
  split
  next h => rw [h, get_insert_self]
  next h => exact t.get_insert_of_ne h

theorem references_insert (t : LabelTable) (l : Label) (n : Nat) :
    ((t.insert l).get n).references = if n = l.id then l.references else (t.get n).references := by
  rw [t.get_insert rfl]
  split <;> rfl

/-- A label that waits for one reference more leaves the other labels what they have. -/
theorem mem_references_insert_unbound {t : LabelTable} {id n : Nat} {r s : Reference} :
    r ∈ ((t.insert ⟨id, .unbound ((t.get id).references ++ [s])⟩).get n).references ↔
      r ∈ (t.get n).references ∨ n = id ∧ r = s := by
  rw [references_insert]
  split
  next hn =>
    obtain rfl : n = id := hn
    rw [Label.references, List.mem_append, List.mem_singleton, and_iff_right rfl]
  next hn => exact (or_iff_left fun h => hn h.1).symm

/-- A label that is bound waits for nothing. -/
theorem mem_references_insert_bound {t : LabelTable} {id n offset : Nat} {r : Reference} :
    r ∈ ((t.insert ⟨id, .bound offset⟩).get n).references ↔ n ≠ id ∧ r ∈ (t.get n).references := by
  rw [references_insert]
  split
  next hn => exact ⟨nofun, fun h => absurd hn h.1⟩
  next hn => exact (and_iff_right hn).symm

end LabelTable

namespace Label

variable {l : Label}

theorem addReference_of_offset?_eq_none (h : l.offset? = none) (r : Reference) :
    l.addReference r = .ok ⟨l.id, .unbound (l.references ++ [r])⟩ := by
  obtain ⟨id, _ | offset⟩ := l
  · rfl
  · cases h

theorem bind_of_offset?_eq_none (h : l.offset? = none) (offset : Nat) :
    l.bind offset = .ok (⟨l.id, .bound offset⟩, l.references) := by
  obtain ⟨id, _ | earlier⟩ := l
  · rfl
  · cases h

theorem bind_of_offset?_eq_some {earlier : Nat} (h : l.offset? = some earlier) (offset : Nat) :
    l.bind offset = .error (.alreadyBound l.id earlier) := by
  obtain ⟨id, _ | bound⟩ := l
  · cases h
  · cases h
    rfl

end Label

namespace Assembler

theorem bind_eq_of_unbound {a : Assembler} {id : Nat} (hid : (a.labels.get id).offset? = none) :
    a.bind id =
      ({ a with
          buffer := (a.buffer.resolveAll a.pc (a.labels.get id).references).1
          labels := a.labels.insert ⟨id, .bound a.pc⟩ },
        (a.buffer.resolveAll a.pc (a.labels.get id).references).2) := by
  rw [bind, Label.bind_of_offset?_eq_none hid, LabelTable.id_get]

theorem place_unbound {a : Assembler} {s : Site} {id : Nat} {active : Bool}
    (hid : (a.labels.get id).offset? = none) :
    a.place (.reference s id active) =
      issue
        { a with
          labels := a.labels.insert
            ⟨id, .unbound ((a.labels.get id).references ++ [⟨a.pc, s.kind⟩])⟩ }
        (s.code false 0#32) := by
  simp only [place, resolve, hid, Label.addReference_of_offset?_eq_none hid, LabelTable.id_get,
    ← s.code_zero active]
  rfl

/-- The state that has the bytes, the labels and the region flags of a listing. -/
structure Realizes (a : Assembler) (l : Listing) (codes : List Code) : Prop where
  useRvc : a.useRvc = l.useRvc
  inRegion : a.inRegion = l.inRegion
  outerRegions : a.outerRegions = l.outerRegions
  laid : Laid l.offsets 0 l.entries codes l.stop
  bytes : a.buffer.toList = codes.flatMap Code.bytes
  offsets : ∀ id, (a.labels.get id).offset? = l.offsets id
  references : ∀ id, l.offsets id = none →
    (a.labels.get id).references = l.entries.filterMap (Entry.reference? id)
  past : ∀ id target, l.offsets id = some target → target ≤ l.stop

namespace Realizes

variable {a a' : Assembler} {l l' : Listing} {codes : List Code}

theorem active (h : a.Realizes l codes) : a.active = l.active := by
  rw [Assembler.active, Listing.active, h.useRvc, h.inRegion]

theorem pc (h : a.Realizes l codes) : a.pc = l.stop := by
  rw [Assembler.pc, ← CodeBuffer.length_toList, h.bytes, ← h.laid.length_flatMap_bytes,
    Nat.zero_add]

theorem stop_le (h : a.Realizes l codes) : l.stop ≤ a.buffer.capacity :=
  h.pc ▸ a.buffer.size_le

theorem ofBuffer_empty (capacity : Nat) (useRvc : Bool) :
    (ofBuffer (.empty capacity) useRvc).Realizes (.start useRvc) [] where
  useRvc := rfl
  inRegion := rfl
  outerRegions := rfl
  laid := .nil 0
  bytes := rfl
  offsets _ := rfl
  references _ _ := rfl
  past _ _ h := nomatch h

/-- A reference to a bound label is emitted with its distance. -/
theorem place_bound (h : a.Realizes l codes) (hcap : a.buffer.capacity ≤ 2 ^ 31) {s : Site}
    {n target : Nat} {active : Bool} (hn : l.offsets n = some target) :
    a.place (.reference s n active) =
      a.issue (Entry.code l.offsets ⟨l.stop, .reference s n active⟩) := by
  have hget := (h.offsets n).trans hn
  have hle := h.past n target hn
  have hstop := h.stop_le
  have hdistance : distance l.stop target = .ok (BitVec.ofInt 64 (target - l.stop)) :=
    (distance_eq_ok_iff (by omega) (by omega)).2 rfl
  simp only [Assembler.place, resolve, hget, hn, h.pc, hdistance, Entry.code, hle, decide_true,
    Bool.and_true, ← setWidth_ofInt_sub]
  rfl

/-- Placing an item records it with the label it names and emits the code of its entry. -/
theorem place_eq (h : a.Realizes l codes) (hcap : a.buffer.capacity ≤ 2 ^ 31) (content : Content) :
    ∃ labels : LabelTable,
      a.place content = { a with labels }.issue (Entry.code l.offsets ⟨l.stop, content⟩) ∧
        (∀ id, (labels.get id).offset? = l.offsets id) ∧
          ∀ id, l.offsets id = none → (labels.get id).references =
            l.entries.filterMap (Entry.reference? id) ++
              (Entry.reference? id ⟨l.stop, content⟩).toList := by
  cases content with
  | fixed c =>
    refine ⟨a.labels, rfl, h.offsets, ?_⟩
    intro id hid
    rw [h.references id hid]
    exact (List.append_nil _).symm
  | reference s n active =>
    cases hn : l.offsets n with
    | some target =>
      refine ⟨a.labels, h.place_bound hcap hn, h.offsets, ?_⟩
      intro id hid
      have hne : n ≠ id := by
        rintro rfl
        rw [hn] at hid
        cases hid
      rw [h.references id hid, Entry.reference?_reference, if_neg hne, Option.toList_none,
        List.append_nil]
    | none =>
      have hget := (h.offsets n).trans hn
      refine ⟨a.labels.insert ⟨n, .unbound ((a.labels.get n).references ++ [⟨a.pc, s.kind⟩])⟩,
        ?_, ?_, ?_⟩
      · simp only [place_unbound hget, Entry.code, hn]
      · intro id
        rw [LabelTable.get_insert _ rfl]
        split
        next heq => rw [heq, hn]; rfl
        next hne => exact h.offsets id
      · intro id hid
        rw [LabelTable.references_insert, ← h.references id hid, Entry.reference?_reference]
        by_cases hne : n = id
        · subst hne
          rw [if_pos rfl, if_pos rfl, h.pc]
          rfl
        · rw [if_neg (Ne.symm hne), if_neg hne, Option.toList_none, List.append_nil]

/-- Emitting the code of the next entry. -/
theorem append (h : a.Realizes l codes) {content : Content} {c : Code} {labels : LabelTable}
    (hc : Entry.code l.offsets ⟨l.stop, content⟩ = .ok c) (room : c.size ≤ a.buffer.remaining)
    (hoffsets : ∀ id, (labels.get id).offset? = l.offsets id)
    (hreferences : ∀ id, l.offsets id = none → (labels.get id).references =
      l.entries.filterMap (Entry.reference? id) ++
        (Entry.reference? id ⟨l.stop, content⟩).toList) :
    { a with buffer := a.buffer.append c room, labels }.Realizes (l.append content c)
      (codes ++ [c]) where
  useRvc := h.useRvc
  inRegion := h.inRegion
  outerRegions := h.outerRegions
  laid := h.laid.concat hc
  bytes := by
    rw [CodeBuffer.toList_append, h.bytes, List.flatMap_append, List.flatMap_singleton]
  offsets := hoffsets
  references := by
    intro id hid
    rw [hreferences id hid, Listing.append, List.filterMap_append]
    cases h : Entry.reference? id ⟨l.stop, content⟩ with
    | none => rw [List.filterMap_cons_none h, List.filterMap_nil, Option.toList_none]
    | some r => rw [List.filterMap_cons_some h, List.filterMap_nil, Option.toList_some]
  past := by
    intro id target hid
    exact (h.past id target hid).trans (Nat.le_add_right _ _)

theorem place (h : a.Realizes l codes) (hcap : a.buffer.capacity ≤ 2 ^ 31) {content : Content}
    (hplace : a.place content = (a', none)) :
    ∃ l' codes', l.add content = .ok l' ∧ a'.Realizes l' codes' ∧
      a'.buffer.capacity = a.buffer.capacity := by
  obtain ⟨labels, heq, hoffsets, hreferences⟩ := h.place_eq hcap content
  rw [heq, issue_eq_iff] at hplace
  obtain ⟨c, hc, hemit⟩ := hplace
  obtain ⟨room, rfl⟩ := emit_eq_iff.1 hemit
  exact ⟨_, _, l.add_eq_ok_iff.2 ⟨c, hc, rfl⟩, h.append hc room hoffsets hreferences, rfl⟩

theorem exists_place (h : a.Realizes l codes) (hcap : a.buffer.capacity ≤ 2 ^ 31)
    {content : Content} (hadd : l.add content = .ok l') (hroom : l'.stop ≤ a.buffer.capacity) :
    ∃ a', a.place content = (a', none) := by
  obtain ⟨labels, heq, -, -⟩ := h.place_eq hcap content
  obtain ⟨c, hc, rfl⟩ := l.add_eq_ok_iff.1 hadd
  have room : c.size ≤ a.buffer.remaining := by
    have hpc := h.pc
    change l.stop + c.size ≤ _ at hroom
    rw [Assembler.pc] at hpc
    rw [CodeBuffer.remaining]
    omega
  rw [heq]
  exact ⟨_, issue_eq_iff.2 ⟨c, hc, emit_eq_iff.2 ⟨room, rfl⟩⟩⟩

theorem placeAll (h : a.Realizes l codes) (hcap : a.buffer.capacity ≤ 2 ^ 31)
    {contents : List (Except Fault Content)} (hplace : a.placeAll contents = (a', none)) :
    ∃ l' codes', l.addAll contents = .ok l' ∧ a'.Realizes l' codes' ∧
      a'.buffer.capacity = a.buffer.capacity := by
  induction contents generalizing a l codes with
  | nil =>
    obtain rfl : a = a' := congrArg Prod.fst hplace
    exact ⟨l, codes, rfl, h, rfl⟩
  | cons content contents ih =>
    cases content with
    | error f => cases hplace
    | ok content =>
      obtain ⟨a₁, hfirst, hrest⟩ := Outcome.andThen_eq_iff.1 hplace
      obtain ⟨l₁, codes₁, hadd, h₁, hcap₁⟩ := h.place hcap hfirst
      obtain ⟨l', codes', hall, h', hcap'⟩ := ih h₁ (hcap₁ ▸ hcap) hrest
      refine ⟨l', codes', ?_, h', hcap'.trans hcap₁⟩
      rw [Listing.addAll_ok_cons, hadd]
      exact hall

theorem exists_placeAll (h : a.Realizes l codes) (hcap : a.buffer.capacity ≤ 2 ^ 31)
    {contents : List (Except Fault Content)} (hadd : l.addAll contents = .ok l')
    (hroom : l'.stop ≤ a.buffer.capacity) :
    ∃ a', a.placeAll contents = (a', none) := by
  induction contents generalizing a l codes with
  | nil => exact ⟨a, rfl⟩
  | cons content contents ih =>
    cases content with
    | error f => cases hadd
    | ok content =>
      rw [Listing.addAll_ok_cons, bind_eq_ok_iff] at hadd
      obtain ⟨l₁, hfirst, hrest⟩ := hadd
      have hle := (Listing.Extends.of_addAll hrest).stop_le
      obtain ⟨a₁, hplace⟩ := h.exists_place hcap hfirst (hle.trans hroom)
      obtain ⟨l₂, codes₁, hfirst', h₁, hcap₁⟩ := h.place hcap hplace
      obtain rfl : l₁ = l₂ := Except.ok.inj (hfirst.symm.trans hfirst')
      obtain ⟨a', ha'⟩ := ih h₁ (hcap₁ ▸ hcap) hrest (hcap₁ ▸ hroom)
      exact ⟨a', Outcome.andThen_eq_iff.2 ⟨a₁, hplace, ha'⟩⟩

theorem bind_eq (h : a.Realizes l codes) {id : Nat} (hid : l.offsets id = none) :
    a.bind id =
      ({ a with
          buffer := (a.buffer.resolveAll l.stop (l.entries.filterMap (Entry.reference? id))).1
          labels := a.labels.insert ⟨id, .bound l.stop⟩ },
        (a.buffer.resolveAll l.stop (l.entries.filterMap (Entry.reference? id))).2) := by
  have hget : (a.labels.get id).offset? = none := (h.offsets id).trans hid
  rw [bind, Label.bind_of_offset?_eq_none hget, h.references id hid, LabelTable.id_get, h.pc]

/-- Once its references are resolved the label stands at the end of the listing. -/
theorem bindHere (h : a.Realizes l codes) (id : Nat) {codes' : List Code} {b : CodeBuffer}
    (hlaid : Laid (l.bindHere id).offsets 0 l.entries codes' l.stop)
    (hlist : b.toList = codes'.flatMap Code.bytes) :
    { a with buffer := b, labels := a.labels.insert ⟨id, .bound l.stop⟩ }.Realizes
      (l.bindHere id) codes' where
  useRvc := h.useRvc
  inRegion := h.inRegion
  outerRegions := h.outerRegions
  laid := hlaid
  bytes := hlist
  offsets := by
    intro n
    rw [LabelTable.get_insert _ rfl]
    by_cases hn : n = id
    · rw [if_pos hn, hn, l.offsets_bindHere_self]
      rfl
    · rw [if_neg hn, l.offsets_bindHere_of_ne hn, h.offsets n]
  references := by
    intro n hnone
    have hn : n ≠ id := by
      rintro rfl
      rw [l.offsets_bindHere_self] at hnone
      cases hnone
    rw [l.offsets_bindHere_of_ne hn] at hnone
    rw [LabelTable.get_insert _ rfl, if_neg hn]
    exact h.references n hnone
  past := by
    intro n target htarget
    by_cases hn : n = id
    · rw [hn, l.offsets_bindHere_self, Option.some.injEq] at htarget
      exact htarget.ge
    · rw [l.offsets_bindHere_of_ne hn] at htarget
      exact h.past n target htarget

theorem resolveAll_eq_iff (h : a.Realizes l codes) (hcap : a.buffer.capacity ≤ 2 ^ 31) {id : Nat}
    (hid : l.offsets id = none) {b : CodeBuffer} :
    a.buffer.resolveAll l.stop (l.entries.filterMap (Entry.reference? id)) = (b, none) ↔
      ∃ codes', Laid (l.bindHere id).offsets 0 l.entries codes' l.stop ∧
        b.toList = codes'.flatMap Code.bytes ∧ b.capacity = a.buffer.capacity := by
  have hlist : a.buffer.toList = [] ++ codes.flatMap Code.bytes := h.bytes
  exact CodeBuffer.resolveAll_eq_iff hid (h.stop_le.trans hcap) h.laid le_rfl
    (a.buffer.size_le.trans hcap) hlist rfl

theorem bind (h : a.Realizes l codes) (hcap : a.buffer.capacity ≤ 2 ^ 31) {id : Nat}
    (hbind : a.bind id = (a', none)) :
    ∃ l' codes', l.bind id = .ok l' ∧ a'.Realizes l' codes' ∧
      a'.buffer.capacity = a.buffer.capacity := by
  cases hid : l.offsets id with
  | some earlier =>
    rw [Assembler.bind, Label.bind_of_offset?_eq_some ((h.offsets id).trans hid)] at hbind
    cases hbind
  | none =>
    rw [h.bind_eq hid] at hbind
    cases hres : a.buffer.resolveAll l.stop (l.entries.filterMap (Entry.reference? id)) with
    | mk b fault =>
      rw [hres] at hbind
      obtain ⟨rfl, rfl⟩ := Prod.mk.inj hbind
      obtain ⟨codes', hlaid, hlist, hcap'⟩ := (h.resolveAll_eq_iff hcap hid).1 hres
      exact ⟨_, codes', Listing.bind_eq_iff.2 ⟨hid, rfl⟩, h.bindHere id hlaid hlist, hcap'⟩

theorem exists_bind (h : a.Realizes l codes) (hcap : a.buffer.capacity ≤ 2 ^ 31) {id : Nat}
    (hbind : l.bind id = .ok l') (hlaid : l'.IsLaid) : ∃ a', a.bind id = (a', none) := by
  obtain ⟨hid, rfl⟩ := Listing.bind_eq_iff.1 hbind
  obtain ⟨codes', hlaid⟩ := hlaid
  have hsize : (codes'.flatMap Code.bytes).length ≤ a.buffer.capacity := by
    rw [← Nat.zero_add (List.length _), hlaid.length_flatMap_bytes]
    exact h.stop_le
  have hres := (h.resolveAll_eq_iff hcap hid (b := .ofList a.buffer.capacity _ hsize)).2
    ⟨codes', hlaid, rfl, rfl⟩
  rw [h.bind_eq hid, hres]
  exact ⟨_, rfl⟩

theorem enter (h : a.Realizes l codes) (compressible : Bool) :
    (a.enter compressible).Realizes (l.enter compressible) codes where
  useRvc := h.useRvc
  inRegion := rfl
  outerRegions := by rw [Assembler.enter, Listing.enter, h.inRegion, h.outerRegions]
  laid := h.laid
  bytes := h.bytes
  offsets := h.offsets
  references := h.references
  past := h.past

theorem leave (h : a.Realizes l codes) : a.leave.Realizes l.leave codes := by
  obtain ⟨hrvc, hregion, houter, hlaid, hbytes, hoffsets, hreferences, hpast⟩ := h
  unfold Assembler.leave Listing.leave
  rw [houter]
  cases l.outerRegions with
  | nil => exact ⟨hrvc, hregion, houter, hlaid, hbytes, hoffsets, hreferences, hpast⟩
  | cons outer rest => exact ⟨hrvc, rfl, rfl, hlaid, hbytes, hoffsets, hreferences, hpast⟩

theorem call (h : a.Realizes l codes) (hcap : a.buffer.capacity ≤ 2 ^ 31) {c : Call}
    (hcall : a.call c = (a', none)) :
    ∃ l' codes', l.addAll (c.contents l.active) = .ok l' ∧ a'.Realizes l' codes' ∧
      a'.buffer.capacity = a.buffer.capacity := by
  rw [call_eq_placeAll, h.active] at hcall
  exact h.placeAll hcap hcall

theorem exists_call (h : a.Realizes l codes) (hcap : a.buffer.capacity ≤ 2 ^ 31) {c : Call}
    (hadd : l.addAll (c.contents l.active) = .ok l') (hroom : l'.stop ≤ a.buffer.capacity) :
    ∃ a', a.call c = (a', none) := by
  rw [call_eq_placeAll, h.active]
  exact h.exists_placeAll hcap hadd hroom

/-- A step that succeeds is a step of the first pass. -/
theorem step (h : a.Realizes l codes) (hcap : a.buffer.capacity ≤ 2 ^ 31) {s : Step}
    (hstep : a.step s = (a', none)) :
    ∃ l' codes', l.step s = .ok l' ∧ a'.Realizes l' codes' ∧
      a'.buffer.capacity = a.buffer.capacity := by
  cases s with
  | call c => exact h.call hcap hstep
  | bind id => exact h.bind hcap hstep
  | enter compressible =>
    obtain rfl : a.enter compressible = a' := congrArg Prod.fst hstep
    exact ⟨_, codes, rfl, h.enter compressible, rfl⟩
  | leave =>
    obtain rfl : a.leave = a' := congrArg Prod.fst hstep
    exact ⟨_, codes, rfl, h.leave, a.capacity_leave⟩
  | within compressible c =>
    obtain ⟨a₁, hcall, rfl⟩ := callWithin_eq_iff.1 hstep
    obtain ⟨l₁, codes₁, hadd, h₁, hcap₁⟩ := (h.enter compressible).call hcap hcall
    exact ⟨_, codes₁, map_eq_ok_iff.2 ⟨l₁, hadd, rfl⟩, h₁.leave, a₁.capacity_leave.trans hcap₁⟩

/-- A step of the first pass succeeds when there is room and the second pass would succeed. -/
theorem exists_step (h : a.Realizes l codes) (hcap : a.buffer.capacity ≤ 2 ^ 31) {s : Step}
    (hstep : l.step s = .ok l') (hlaid : l'.IsLaid) (hroom : l'.stop ≤ a.buffer.capacity) :
    ∃ a', a.step s = (a', none) := by
  cases s with
  | call c => exact h.exists_call hcap hstep hroom
  | bind id => exact h.exists_bind hcap hstep hlaid
  | enter compressible => exact ⟨_, rfl⟩
  | leave => exact ⟨_, rfl⟩
  | within compressible c =>
    obtain ⟨l₁, hadd, rfl⟩ := map_eq_ok_iff.1 hstep
    rw [Listing.stop_leave] at hroom
    obtain ⟨a₁, hcall⟩ := (h.enter compressible).exists_call hcap hadd hroom
    exact ⟨_, callWithin_eq_iff.2 ⟨a₁, hcall, rfl⟩⟩

/-- A run without faults is a first pass, and realizes its listing. -/
theorem attempt (h : a.Realizes l codes) (hcap : a.buffer.capacity ≤ 2 ^ 31) {steps : List Step}
    (hrun : a.attempt steps = (a', none)) :
    ∃ l' codes', l.run steps = .ok l' ∧ a'.Realizes l' codes' ∧
      a'.buffer.capacity = a.buffer.capacity := by
  induction steps generalizing a l codes with
  | nil =>
    obtain rfl : a = a' := congrArg Prod.fst hrun
    exact ⟨l, codes, rfl, h, rfl⟩
  | cons s steps ih =>
    obtain ⟨a₁, hstep, hrest⟩ := Outcome.andThen_eq_iff.1 hrun
    obtain ⟨l₁, codes₁, hlist, h₁, hcap₁⟩ := h.step hcap hstep
    obtain ⟨l', codes', hrun', h', hcap'⟩ := ih h₁ (hcap₁ ▸ hcap) hrest
    refine ⟨l', codes', ?_, h', hcap'.trans hcap₁⟩
    rw [Listing.run_cons, hlist]
    exact hrun'

/-- When both passes succeed and there is room for their codes, so does the run. -/
theorem exists_attempt (h : a.Realizes l codes) (hcap : a.buffer.capacity ≤ 2 ^ 31)
    {steps : List Step} (hrun : l.run steps = .ok l') (hlaid : l'.IsLaid)
    (hroom : l'.stop ≤ a.buffer.capacity) :
    ∃ a', a.attempt steps = (a', none) := by
  induction steps generalizing a l codes with
  | nil => exact ⟨a, rfl⟩
  | cons s steps ih =>
    rw [Listing.run_cons, bind_eq_ok_iff] at hrun
    obtain ⟨l₁, hstep, hrest⟩ := hrun
    have hextends := Listing.Extends.of_run hrest
    have hle := hextends.stop_le.trans hroom
    obtain ⟨a₁, hfirst⟩ := h.exists_step hcap hstep (hextends.isLaid hlaid) hle
    obtain ⟨l₂, codes₂, hstep', h₁, hcap₁⟩ := h.step hcap hfirst
    obtain rfl : l₁ = l₂ := Except.ok.inj (hstep.symm.trans hstep')
    obtain ⟨a', ha'⟩ := ih h₁ (hcap₁ ▸ hcap) hrest (hcap₁ ▸ hroom)
    exact ⟨a', Outcome.andThen_eq_iff.2 ⟨a₁, hfirst, ha'⟩⟩

end Realizes

end Assembler

/-! ## Refinement of two-pass assembly -/

/-- What a finished program has in the place of an entry. A reference to a bound label has the code
that its site gives for the exact distance, and it is the full one if the label came later; a
reference to a label that is not bound has displacement zero. -/
def Entry.Emits (offsets : Offsets) (e : Entry) (c : Code) : Prop :=
  match e.content with
  | .fixed code => c = code
  | .reference s id active =>
    match offsets id with
    | some target =>
      ∃ d : BitVec 32, d.toInt = (target : Int) - e.position ∧
        s.code (active && target ≤ e.position) d = .ok c ∧
          (e.position < target → c.size = s.kind.length)
    | none => s.code false 0#32 = .ok c ∧ c.size = s.kind.length ∧ c.displacement s.kind = 0#32

theorem Entry.emits_of_code_eq_ok {offsets : Offsets} {e : Entry} {c : Code}
    (hposition : e.position < 2 ^ 31)
    (hoffsets : ∀ id target, offsets id = some target → target ≤ 2 ^ 31)
    (hc : e.code offsets = .ok c) : e.Emits offsets c := by
  obtain ⟨p, content⟩ := e
  cases content with
  | fixed code => exact (Except.ok.inj hc).symm
  | reference s id active =>
    cases hid : offsets id with
    | none =>
      simp only [Entry.code, hid] at hc
      simp only [Emits, hid]
      exact ⟨hc, Site.size_of_code_eq_ok hc, Site.displacement_of_code_eq_ok hc⟩
    | some target =>
      have htarget := hoffsets id target hid
      simp only [Entry.code, hid] at hc
      simp only [Emits, hid]
      dsimp only at hposition
      by_cases hback : target ≤ p
      · refine ⟨between p target, toInt_between (by omega) (by omega), hc, ?_⟩
        intro hforward
        omega
      · rw [decide_eq_false hback, Bool.and_false] at hc ⊢
        have hfits := (Site.code_eq_ok_iff.1 hc).1
        refine ⟨between p target, ?_, hc, fun _ => Site.size_of_code_eq_ok hc⟩
        exact s.kind.toInt_between_of_fits (by omega) (by omega) hfits

theorem Laid.forall₂_emits {offsets : Offsets} {start stop : Nat} {entries : List Entry}
    {codes : List Code} (h : Laid offsets start entries codes stop) (hstop : stop ≤ 2 ^ 31)
    (hoffsets : ∀ id target, offsets id = some target → target ≤ 2 ^ 31) :
    List.Forall₂ (Entry.Emits offsets) entries codes := by
  induction h with
  | nil => exact .nil
  | @cons e c entries codes start stop hp hc rest ih =>
    have hle := rest.start_le
    have hpos := c.size_pos
    exact .cons (e.emits_of_code_eq_ok (by omega) hoffsets hc) (ih hstop)

/-- A run without faults leaves what assembly in two passes gives: the bytes of the second pass, the
label offsets of the first, and with every label that is not bound the references to it in the order
in which they were made. -/
theorem Assembler.attempt_refines_listing {capacity : Nat} {useRvc : Bool} {steps : List Step}
    {a : Assembler} (hcap : capacity ≤ 2 ^ 31)
    (hrun : (ofBuffer (.empty capacity) useRvc).attempt steps = (a, none)) :
    ∃ l codes, (Listing.start useRvc).run steps = .ok l ∧ l.codes = .ok codes ∧
      a.buffer.toList = codes.flatMap Code.bytes ∧ Laid l.offsets 0 l.entries codes l.stop ∧
        List.Forall₂ (Entry.Emits l.offsets) l.entries codes ∧
          (∀ id, (a.labels.get id).offset? = l.offsets id) ∧
            ∀ id, l.offsets id = none →
              (a.labels.get id).references = l.entries.filterMap (Entry.reference? id) := by
  obtain ⟨l, codes, hlist, h, hcap'⟩ :=
    (Realizes.ofBuffer_empty capacity useRvc).attempt hcap hrun
  have hstop : l.stop ≤ 2 ^ 31 := h.stop_le.trans (hcap'.le.trans hcap)
  have hemits := h.laid.forall₂_emits hstop fun id target hid => (h.past id target hid).trans hstop
  exact ⟨l, codes, hlist, h.laid.mapM_code, h.bytes, h.laid, hemits, h.offsets, h.references⟩

/-- A loop with an exit, and a jump to a label that is not bound. -/
def loopAndExit : List Step :=
  [.bind 0, .enter true, .call (.beqz .a0 (.label 1)), .call (.bnez .a0 (.label 0)), .leave,
    .bind 1, .call (.j (.label 2))]

theorem Assembler.attempt_loopAndExit_refines_listing :
    ∃ a l codes, (ofBuffer (.empty 4096) true).attempt loopAndExit = (a, none) ∧
      (Listing.start true).run loopAndExit = .ok l ∧ l.codes = .ok codes ∧
        a.buffer.toList = codes.flatMap Code.bytes := by
  have hfault : ((ofBuffer (.empty 4096) true).attempt loopAndExit).2 = none := by decide
  have hrun : (ofBuffer (.empty 4096) true).attempt loopAndExit = (_, none) :=
    Prod.ext rfl hfault
  obtain ⟨l, codes, hlist, hcodes, hbytes, -⟩ := attempt_refines_listing (by decide) hrun
  exact ⟨_, l, codes, hrun, hlist, hcodes, hbytes⟩

end RiscvAssembler
