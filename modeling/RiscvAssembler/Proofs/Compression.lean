import RiscvAssembler.Proofs.Backpatching
import RiscvAssembler.Proofs.Replacement

/-!
# Compression of whole programs

Two listings of one program are compared, one with compression and one without. Corresponding
offsets are marked in pairs. Between any two marks the compressed listing is not longer than the
other, so every displacement that fits without compression fits with it.
-/

namespace RiscvAssembler

open Function Immediate

/-! ## Marks -/

/-- An offset with compression and the corresponding one without. -/
abbrev Mark :=
  Nat × Nat

/-- The second mark follows the first, by no more bytes with compression than without. -/
def Mark.Before (x y : Mark) : Prop :=
  x.1 ≤ y.1 ∧ y.1 + x.2 ≤ y.2 + x.1

theorem Mark.Before.refl (x : Mark) : x.Before x :=
  ⟨le_rfl, (Nat.add_comm _ _).le⟩

theorem Mark.Before.trans {x y z : Mark} (h : x.Before y) (h' : y.Before z) : x.Before z := by
  obtain ⟨hle, hlen⟩ := h
  obtain ⟨hle', hlen'⟩ := h'
  exact ⟨by omega, by omega⟩

/-- The marks of two listings, in the order in which they stand. -/
structure AreMarks (marks : List Mark) : Prop where
  pairwise : marks.Pairwise Mark.Before
  even : ∀ x ∈ marks, 2 ∣ x.1 ∧ 2 ∣ x.2
  le : ∀ x ∈ marks, x.1 ≤ x.2

namespace AreMarks

variable {marks : List Mark} {x y : Mark}

theorem before_or_before (h : AreMarks marks) (hx : x ∈ marks) (hy : y ∈ marks) :
    x.Before y ∨ y.Before x := by
  let R : Mark → Mark → Prop := fun x y => x.Before y ∨ y.Before x
  have hsymm : Std.Symm R := ⟨fun _ _ => Or.symm⟩
  have hrefl : ∀ x ∈ marks, R x x := fun x _ => .inl (.refl x)
  exact List.Pairwise.forall_of_forall (R := R) hrefl (h.pairwise.imp Or.inl) hx hy

/-- A displacement between marks that fits without compression fits with it. -/
theorem isSigned_sub (h : AreMarks marks) (hx : x ∈ marks) (hy : y ∈ marks) {n : Nat}
    (hfits : IsSigned n 1 ((y.2 : Int) - x.2)) : IsSigned n 1 ((y.1 : Int) - x.1) := by
  obtain ⟨hlow, hhigh, -⟩ := hfits
  have hx2 := (h.even x hx).1
  have hy2 := (h.even y hy).1
  have hpos : (0 : Int) < 2 ^ (n - 1) := by positivity
  refine ⟨?_, ?_, by omega⟩
  · rcases h.before_or_before hx hy with ⟨hle, hlen⟩ | ⟨hle, hlen⟩ <;> omega
  · rcases h.before_or_before hx hy with ⟨hle, hlen⟩ | ⟨hle, hlen⟩ <;> omega

theorem concat (h : AreMarks (marks ++ [x])) (hxy : x.Before y) (heven : 2 ∣ y.1 ∧ 2 ∣ y.2) :
    AreMarks (marks ++ [x] ++ [y]) := by
  have hbefore : ∀ z ∈ marks ++ [x], z.Before y := by
    intro z hz
    rcases List.mem_append.1 hz with hz | hz
    · exact ((List.pairwise_append.1 h.pairwise).2.2 z hz x List.mem_cons_self).trans hxy
    · rwa [List.mem_singleton.1 hz]
  have hle : y.1 ≤ y.2 := by
    have hx := h.le x List.mem_concat_self
    obtain ⟨-, hlen⟩ := hxy
    omega
  constructor
  · rw [List.pairwise_append]
    refine ⟨h.pairwise, List.pairwise_singleton .., ?_⟩
    intro z hz w hw
    rw [List.mem_singleton.1 hw]
    exact hbefore z hz
  · exact List.forall_mem_append.2 ⟨h.even, List.forall_mem_singleton.2 heven⟩
  · exact List.forall_mem_append.2 ⟨h.le, List.forall_mem_singleton.2 hle⟩

end AreMarks

/-! ## Listings -/

namespace Listing

/-- The positions of the entries and the ends of two listings, in pairs. -/
def marks (l' l : Listing) : List Mark :=
  List.zipWith (fun e' e => (e'.position, e.position)) l'.entries l.entries ++ [(l'.stop, l.stop)]

theorem stop_mem_marks (l' l : Listing) : (l'.stop, l.stop) ∈ marks l' l :=
  List.mem_concat_self

theorem marks_append {l' l : Listing} (h : l'.entries.length = l.entries.length)
    (x' x : Content) (c' c : Code) :
    marks (l'.append x' c') (l.append x c) =
      marks l' l ++ [(l'.stop + c'.size, l.stop + c.size)] := by
  rw [marks, append, append, List.zipWith_append h]
  rfl

/-- The listing `l'` is the listing `l`, made without compression, with some of its codes
compressed. -/
structure Shrinks (l' l : Listing) : Prop where
  useRvc : l.useRvc = false
  entries : List.Forall₂ (fun e' e => e'.content.Replaces e.content) l'.entries l.entries
  areMarks : AreMarks (marks l' l)
  offsets : ∀ id, Option.Rel (fun target' target => (target', target) ∈ marks l' l)
    (l'.offsets id) (l.offsets id)

namespace Shrinks

variable {l l' m : Listing}

theorem active (h : l'.Shrinks l) : l.active = false := by
  rw [Listing.active, h.useRvc, Bool.false_and]

theorem start (useRvc : Bool) : (Listing.start useRvc).Shrinks (.start false) where
  useRvc := rfl
  entries := .nil
  areMarks := by
    constructor
    · exact List.pairwise_singleton ..
    · exact List.forall_mem_singleton.2 ⟨dvd_zero 2, dvd_zero 2⟩
    · exact List.forall_mem_singleton.2 le_rfl
  offsets _ := .none

/-- Every mark lies before the ends of the listings. -/
theorem le_stop (h : l'.Shrinks l) {x : Mark} (hx : x ∈ marks l' l) :
    x.1 ≤ l'.stop ∧ x.2 ≤ l.stop := by
  have hbefore : x.Before (l'.stop, l.stop) := by
    rcases List.mem_append.1 hx with hx | hx
    · exact (List.pairwise_append.1 h.areMarks.pairwise).2.2 x hx _ List.mem_cons_self
    · rw [List.mem_singleton.1 hx]
      exact .refl _
  obtain ⟨hle, hlen⟩ := hbefore
  exact ⟨hle, by omega⟩

theorem stop_le (h : l'.Shrinks l) : l'.stop ≤ l.stop :=
  h.areMarks.le _ (stop_mem_marks l' l)

/-- A label is bound at a mark or in neither listing. -/
theorem unbound_or_bound (h : l'.Shrinks l) (id : Nat) :
    (l'.offsets id = none ∧ l.offsets id = none) ∨
      ∃ target' target, l'.offsets id = some target' ∧ l.offsets id = some target ∧
        (target', target) ∈ marks l' l := by
  have hid := h.offsets id
  generalize l'.offsets id = offset' at hid ⊢
  generalize l.offsets id = offset at hid ⊢
  cases hid with
  | none => exact .inl ⟨rfl, rfl⟩
  | some hmark => exact .inr ⟨_, _, rfl, rfl, hmark⟩

/-- A reference that is in reach without compression is exact, in reach with compression, and exact
there too. -/
theorem between_of_code_eq_ok (h : l'.Shrinks l) (hstop : l.stop ≤ 2 ^ 31)
    {p' p target' target : Nat} (hp : (p', p) ∈ marks l' l)
    (htarget : (target', target) ∈ marks l' l) {s : Site} {c : Code}
    (hc : s.code false (between p target) = .ok c) :
    (between p target).toInt = target - p ∧ (between p' target').toInt = target' - p' ∧
      s.kind.fits ((between p' target').signExtend 64) := by
  obtain ⟨hp', hp₂⟩ := h.le_stop hp
  obtain ⟨ht', ht₂⟩ := h.le_stop htarget
  have hstop' := h.stop_le
  dsimp only at hp' hp₂ ht' ht₂
  have hfits := (Site.code_eq_ok_iff.1 hc).1
  have hexact := s.kind.toInt_between_of_fits (by omega) (by omega) hfits
  rw [s.kind.fits_signExtend_iff, hexact] at hfits
  have hfits' := h.areMarks.isSigned_sub hp htarget hfits
  have hrange := s.kind.abs_lt_of_isSigned hfits'
  have hexact' : (between p' target').toInt = target' - p' := toInt_between (by omega) hrange.2
  rw [s.kind.fits_signExtend_iff, hexact']
  exact ⟨hexact, rfl, hfits'⟩

/-- At a mark, an entry that has a code without compression has one with it, and no longer one. -/
theorem exists_code (h : l'.Shrinks l) (hstop : l.stop ≤ 2 ^ 31) {x' x : Content} {p' p : Nat}
    {c : Code} (hx : x'.Replaces x) (hp : (p', p) ∈ marks l' l)
    (hc : Entry.code l.offsets ⟨p, x⟩ = .ok c) :
    ∃ c', Entry.code l'.offsets ⟨p', x'⟩ = .ok c' ∧ c'.size ≤ c.size := by
  cases hx with
  | @fixed c' _ _ _ hsize _ _ _ =>
    obtain rfl := Except.ok.inj hc
    exact ⟨c', rfl, hsize⟩
  | reference s id active =>
    rcases h.unbound_or_bound id with ⟨hid', hid⟩ | ⟨target', target, hid', hid, hmark⟩
    · simp only [Entry.code, hid, hid'] at hc ⊢
      exact ⟨c, hc, le_rfl⟩
    · simp only [Entry.code, hid, hid', Bool.false_and] at hc ⊢
      obtain ⟨-, -, hfits'⟩ := h.between_of_code_eq_ok hstop hp hmark hc
      obtain ⟨-, placeholder, hplaceholder, -⟩ := Site.code_eq_ok_iff.1 hc
      obtain ⟨c', hc'⟩ := (s.exists_code_iff (active && target' ≤ p') _).2
        ⟨_, Site.code_eq_ok_iff.2 ⟨hfits', placeholder, hplaceholder, rfl⟩⟩
      refine ⟨c', hc', ?_⟩
      rw [Site.size_of_code_eq_ok hc]
      exact Site.size_le_of_code_eq_ok hc'

/-- At a mark, the two codes are read as the same operation, with displacements that lead to a
mark. -/
theorem exists_sameOperation (h : l'.Shrinks l) (hstop : l.stop ≤ 2 ^ 31) {x' x : Content}
    {p' p : Nat} {c' c : Code} (hx : x'.Replaces x) (hp : (p', p) ∈ marks l' l)
    (hc' : Entry.code l'.offsets ⟨p', x'⟩ = .ok c') (hc : Entry.code l.offsets ⟨p, x⟩ = .ok c)
    {r : BitVec 32 → BitVec 32 → Prop}
    (hr : ∀ target ∈ marks l' l, ∀ d' d : BitVec 32, (p' : Int) + d'.toInt = target.1 →
      (p : Int) + d.toInt = target.2 → r d' d) :
    ∃ j i, c'.Reads j ∧ c.Reads i ∧ j.SameOperation r i := by
  cases hx with
  | fixed hsize hreads' hreads hsame =>
    obtain rfl := Except.ok.inj hc'
    obtain rfl := Except.ok.inj hc
    exact ⟨_, _, hreads', hreads, hsame r⟩
  | reference s id active =>
    rcases h.unbound_or_bound id with ⟨hid', hid⟩ | ⟨target', target, hid', hid, hmark⟩
    · simp only [Entry.code, hid, hid'] at hc hc'
      have hzero : r 0#32 0#32 := hr _ hp _ _ (Int.add_zero _) (Int.add_zero _)
      exact ⟨_, _, s.reads_of_code_eq_ok hc', s.reads_of_code_eq_ok hc,
        s.sameOperation_instr hzero⟩
    · simp only [Entry.code, hid, hid', Bool.false_and] at hc hc'
      obtain ⟨hexact, hexact', -⟩ := h.between_of_code_eq_ok hstop hp hmark hc
      have htarget : r (between p' target') (between p target) := by
        apply hr _ hmark
        · rw [hexact']
          exact add_sub_cancel _ _
        · rw [hexact]
          exact add_sub_cancel _ _
      exact ⟨_, _, s.reads_of_code_eq_ok hc', s.reads_of_code_eq_ok hc,
        s.sameOperation_instr htarget⟩

theorem append (h : l'.Shrinks l) {x' x : Content} {c' c : Code} (hx : x'.Replaces x)
    (hsize : c'.size ≤ c.size) : (l'.append x' c').Shrinks (l.append x c) where
  useRvc := h.useRvc
  entries := List.rel_append h.entries (.cons hx .nil)
  areMarks := by
    have heven := h.areMarks.even _ (stop_mem_marks l' l)
    rw [marks_append h.entries.length_eq]
    refine h.areMarks.concat ⟨Nat.le_add_right _ _, ?_⟩
      ⟨dvd_add heven.1 c'.even_size, dvd_add heven.2 c.even_size⟩
    dsimp only
    omega
  offsets := by
    intro id
    rw [marks_append h.entries.length_eq]
    rcases h.unbound_or_bound id with ⟨hid', hid⟩ | ⟨target', target, hid', hid, hmark⟩
    · simp only [Listing.append, hid, hid']
      exact .none
    · simp only [Listing.append, hid, hid']
      exact .some (List.mem_append_left _ hmark)

theorem add (h : l'.Shrinks l) {x' x : Content} (hx : x'.Replaces x) (hadd : l.add x = .ok m)
    (hstop : m.stop ≤ 2 ^ 31) : ∃ m', l'.add x' = .ok m' ∧ m'.Shrinks m := by
  obtain ⟨c, hc, rfl⟩ := l.add_eq_ok_iff.1 hadd
  have hle : l.stop ≤ 2 ^ 31 := (Nat.le_add_right _ _).trans hstop
  obtain ⟨c', hc', hsize⟩ := h.exists_code hle hx (stop_mem_marks l' l) hc
  exact ⟨_, l'.add_eq_ok_iff.2 ⟨c', hc', rfl⟩, h.append hx hsize⟩

theorem addAll (h : l'.Shrinks l) {contents' contents : List (Except Fault Content)}
    (hcontents : List.Forall₂ CanReplace contents' contents) (hadd : l.addAll contents = .ok m)
    (hstop : m.stop ≤ 2 ^ 31) : ∃ m', l'.addAll contents' = .ok m' ∧ m'.Shrinks m := by
  induction hcontents generalizing l l' with
  | nil =>
    obtain rfl := Except.ok.inj hadd
    exact ⟨l', rfl, h⟩
  | @cons x' x contents' contents hx _ ih =>
    cases x with
    | error f => cases hadd
    | ok x =>
      obtain ⟨x', rfl, hreplaces⟩ := hx x rfl
      rw [addAll_ok_cons, bind_eq_ok_iff] at hadd
      obtain ⟨l₁, hfirst, hrest⟩ := hadd
      have hle := (Extends.of_addAll hrest).stop_le
      obtain ⟨l₁', hfirst', h₁⟩ := h.add hreplaces hfirst (hle.trans hstop)
      obtain ⟨m', hrest', hm⟩ := ih h₁ hrest
      refine ⟨m', ?_, hm⟩
      rw [addAll_ok_cons, hfirst']
      exact hrest'

theorem bindHere (h : l'.Shrinks l) (id : Nat) : (l'.bindHere id).Shrinks (l.bindHere id) where
  useRvc := h.useRvc
  entries := h.entries
  areMarks := h.areMarks
  offsets := by
    intro n
    by_cases hn : n = id
    · rw [hn, offsets_bindHere_self, offsets_bindHere_self]
      exact .some (stop_mem_marks l' l)
    · rw [l'.offsets_bindHere_of_ne hn, l.offsets_bindHere_of_ne hn]
      exact h.offsets n

theorem bind (h : l'.Shrinks l) {id : Nat} (hbind : l.bind id = .ok m) :
    ∃ m', l'.bind id = .ok m' ∧ m'.Shrinks m := by
  obtain ⟨hid, rfl⟩ := Listing.bind_eq_iff.1 hbind
  rcases h.unbound_or_bound id with ⟨hid', -⟩ | ⟨_, _, -, hbound, -⟩
  · exact ⟨_, Listing.bind_eq_iff.2 ⟨hid', rfl⟩, h.bindHere id⟩
  · rw [hid] at hbound
    cases hbound

theorem enter (h : l'.Shrinks l) (compressible : Bool) : (l'.enter compressible).Shrinks l :=
  ⟨h.useRvc, h.entries, h.areMarks, h.offsets⟩

theorem leave (h : l'.Shrinks l) : l'.leave.Shrinks l := by
  unfold Listing.leave
  split
  · exact h
  · exact ⟨h.useRvc, h.entries, h.areMarks, h.offsets⟩

theorem call (h : l'.Shrinks l) {c : Call} (hc : c.isSymbolic)
    (hadd : l.addAll (c.contents l.active) = .ok m) (hstop : m.stop ≤ 2 ^ 31) :
    ∃ m', l'.addAll (c.contents l'.active) = .ok m' ∧ m'.Shrinks m := by
  rw [h.active] at hadd
  exact h.addAll (c.forall₂_contents hc _) hadd hstop

/-- Every entry stands at a mark and can take the place of its counterpart. -/
theorem exists_counterpart (h : l'.Shrinks l) {e' : Entry} (he' : e' ∈ l'.entries) :
    ∃ e ∈ l.entries, e'.content.Replaces e.content ∧ (e'.position, e.position) ∈ marks l' l := by
  have hall : ∀ {es' es : List Entry},
      List.Forall₂ (fun e' e => e'.content.Replaces e.content) es' es → e' ∈ es' →
        ∃ e ∈ es, e'.content.Replaces e.content ∧
          (e'.position, e.position) ∈
            List.zipWith (fun e' e => (e'.position, e.position)) es' es := by
    intro es' es hentries
    induction hentries with
    | nil => exact nofun
    | @cons f' f es' es hf _ ih =>
      intro hmem
      rcases List.mem_cons.1 hmem with rfl | hmem
      · exact ⟨f, List.mem_cons_self, hf, List.mem_cons_self⟩
      · obtain ⟨e, he, hreplaces, hmark⟩ := ih hmem
        exact ⟨e, List.mem_cons_of_mem _ he, hreplaces, List.mem_cons_of_mem _ hmark⟩
  obtain ⟨e, he, hreplaces, hmark⟩ := hall h.entries he'
  exact ⟨e, he, hreplaces, List.mem_append_left _ hmark⟩

/-- When the references to a label are in reach without compression, so they are with it. -/
theorem isLaid_bindHere (h : l'.Shrinks l) {id : Nat} (hid : l'.offsets id = none)
    (hlaid' : l'.IsLaid) (hlaid : (l.bindHere id).IsLaid) (hstop : l.stop ≤ 2 ^ 31) :
    (l'.bindHere id).IsLaid := by
  obtain ⟨codes', hcodes'⟩ := hlaid'
  obtain ⟨codes, hcodes⟩ := hlaid
  refine hcodes'.exists_update hid le_rfl ?_
  intro e' he'
  obtain ⟨e, he, hreplaces, hmark⟩ := h.exists_counterpart he'
  obtain ⟨c, hc⟩ := hcodes.exists_code he
  obtain ⟨c', hc', -⟩ := (h.bindHere id).exists_code hstop hreplaces hmark hc
  exact ⟨c', hc'⟩

end Shrinks

end Listing

/-! ## Programs with and without regions -/

/-- The step without regions, if anything is left of it. -/
def Step.plain? : Step → Option Step
  | .call c => some (.call c)
  | .bind id => some (.bind id)
  | .enter _ => none
  | .leave => none
  | .within _ c => some (.call c)

/-- The step calls no more than mnemonics that go to labels. -/
def Step.isSymbolic : Step → Bool
  | .call c | .within _ c => c.isSymbolic
  | .bind _ | .enter _ | .leave => true

namespace Listing

namespace Shrinks

variable {l l' m : Listing}

/-- One step, when it does anything without regions. -/
theorem step (h : l'.Shrinks l) (hlaid' : l'.IsLaid) {s t : Step} (hs : s.plain? = some t)
    (hsymbolic : t.isSymbolic) (ht : l.step t = .ok m) (hlaid : m.IsLaid)
    (hstop : m.stop ≤ 2 ^ 31) : ∃ m', l'.step s = .ok m' ∧ m'.Shrinks m ∧ m'.IsLaid := by
  cases s with
  | call c =>
    obtain rfl := Option.some.inj hs
    obtain ⟨m', hm', hshrinks⟩ := h.call hsymbolic ht hstop
    exact ⟨m', hm', hshrinks, hlaid'.addAll hm'⟩
  | bind id =>
    obtain rfl := Option.some.inj hs
    obtain ⟨hid, rfl⟩ := Listing.bind_eq_iff.1 ht
    obtain ⟨m', hm', hshrinks⟩ := h.bind ht
    obtain ⟨hid', rfl⟩ := Listing.bind_eq_iff.1 hm'
    exact ⟨_, hm', hshrinks, h.isLaid_bindHere hid' hlaid' hlaid hstop⟩
  | enter compressible => cases hs
  | leave => cases hs
  | within compressible c =>
    obtain rfl := Option.some.inj hs
    obtain ⟨m', hm', hshrinks⟩ := (h.enter compressible).call hsymbolic ht hstop
    have hlaid₁ : (l'.enter compressible).IsLaid := hlaid'
    exact ⟨m'.leave, map_eq_ok_iff.2 ⟨m', hm', rfl⟩, hshrinks.leave, (hlaid₁.addAll hm').leave⟩

/-- A step that does nothing without regions. -/
theorem step_of_plain?_eq_none (h : l'.Shrinks l) (hlaid' : l'.IsLaid) {s : Step}
    (hs : s.plain? = none) : ∃ m', l'.step s = .ok m' ∧ m'.Shrinks l ∧ m'.IsLaid := by
  cases s with
  | enter compressible => exact ⟨_, rfl, h.enter compressible, hlaid'⟩
  | leave => exact ⟨_, rfl, h.leave, hlaid'.leave⟩
  | _ => cases hs

theorem run (h : l'.Shrinks l) (hlaid' : l'.IsLaid) {steps : List Step}
    (hsymbolic : ∀ s ∈ steps.filterMap Step.plain?, s.isSymbolic)
    (hrun : l.run (steps.filterMap Step.plain?) = .ok m) (hlaid : m.IsLaid)
    (hstop : m.stop ≤ 2 ^ 31) : ∃ m', l'.run steps = .ok m' ∧ m'.Shrinks m ∧ m'.IsLaid := by
  induction steps generalizing l l' with
  | nil =>
    obtain rfl := Except.ok.inj hrun
    exact ⟨l', rfl, h, hlaid'⟩
  | cons s steps ih =>
    cases hs : s.plain? with
    | none =>
      rw [List.filterMap_cons_none hs] at hsymbolic hrun
      obtain ⟨l₁', hstep', h₁, hlaid₁'⟩ := h.step_of_plain?_eq_none hlaid' hs
      obtain ⟨m', hrun', hm'⟩ := ih h₁ hlaid₁' hsymbolic hrun
      refine ⟨m', ?_, hm'⟩
      rw [run_cons, hstep']
      exact hrun'
    | some t =>
      rw [List.filterMap_cons_some hs, List.forall_mem_cons] at hsymbolic
      rw [List.filterMap_cons_some hs, run_cons, bind_eq_ok_iff] at hrun
      obtain ⟨l₁, hstep, hrest⟩ := hrun
      have hextends := Extends.of_run hrest
      obtain ⟨l₁', hstep', h₁, hlaid₁'⟩ := h.step hlaid' hs hsymbolic.1 hstep
        (hextends.isLaid hlaid) (hextends.stop_le.trans hstop)
      obtain ⟨m', hrun', hm'⟩ := ih h₁ hlaid₁' hsymbolic.2 hrest
      refine ⟨m', ?_, hm'⟩
      rw [run_cons, hstep']
      exact hrun'

end Shrinks

end Listing

/-! ## Instruction by instruction -/

/-- Where instruction `k` of a program starts, and for `k` their number where the program ends. -/
def Code.position (codes : List Code) (k : Nat) : Nat :=
  ((codes.take k).map Code.size).sum

theorem Code.position_cons_succ (c : Code) (codes : List Code) (k : Nat) :
    position (c :: codes) (k + 1) = c.size + position codes k :=
  rfl

/-- The displacements of instruction `k` lead to the same instruction in both programs. -/
def SameTarget (codes' codes : List Code) (k : Nat) (d' d : BitVec 32) : Prop :=
  ∃ n ≤ codes.length,
    (Code.position codes' k : Int) + d'.toInt = Code.position codes' n ∧
      (Code.position codes k : Int) + d.toInt = Code.position codes n

/-- The first program is the second one compressed. -/
structure IsCompression (codes' codes : List Code) : Prop where
  length_eq : codes'.length = codes.length
  position_le : ∀ k ≤ codes.length, Code.position codes' k ≤ Code.position codes k
  agrees : ∀ k (hk' : k < codes'.length) (hk : k < codes.length),
    ∃ j i, codes'[k].Reads j ∧ codes[k].Reads i ∧ j.SameOperation (SameTarget codes' codes k) i

namespace Laid

variable {offsets offsets' : Offsets} {start start' stop stop' : Nat}
  {entries entries' : List Entry} {codes codes' : List Code}

theorem getElem_codes (h : Laid offsets start entries codes stop) {k : Nat} (hk : k < codes.length)
    (hk' : k < entries.length) :
    entries[k].code offsets = .ok codes[k] ∧
      entries[k].position = start + Code.position codes k := by
  induction h generalizing k with
  | nil => exact absurd hk (Nat.not_lt_zero k)
  | @cons e c entries codes start stop hp hc rest ih =>
    cases k with
    | zero => exact ⟨hc, hp⟩
    | succ k =>
      obtain ⟨hcode, hposition⟩ := ih (Nat.lt_of_succ_lt_succ hk) (Nat.lt_of_succ_lt_succ hk')
      refine ⟨hcode, hposition.trans ?_⟩
      rw [Code.position_cons_succ, Nat.add_assoc]

/-- The marks of two layouts are the positions of their instructions. -/
theorem mem_marks_iff (h : Laid offsets start entries codes stop)
    (h' : Laid offsets' start' entries' codes' stop') (hlength : codes'.length = codes.length)
    {x : Mark} :
    x ∈ List.zipWith (fun e' e => (e'.position, e.position)) entries' entries ++ [(stop', stop)] ↔
      ∃ k ≤ codes.length, x = (start' + Code.position codes' k, start + Code.position codes k) := by
  induction h generalizing start' entries' codes' with
  | nil stop =>
    obtain rfl := List.eq_nil_of_length_eq_zero hlength
    cases h'
    constructor
    · intro hx
      exact ⟨0, le_rfl, List.mem_singleton.1 hx⟩
    · rintro ⟨k, hk, rfl⟩
      obtain rfl := Nat.le_zero.1 hk
      exact List.mem_cons_self
  | @cons e c entries codes start stop hp _ rest ih =>
    obtain _ | @⟨e', c', entries', codes', _, _, hp', _, rest'⟩ := h'
    · cases hlength
    rw [List.zipWith_cons_cons, List.cons_append, List.mem_cons, hp, hp',
      ih rest' (Nat.succ_injective hlength)]
    constructor
    · rintro (rfl | ⟨k, hk, rfl⟩)
      · exact ⟨0, Nat.zero_le _, rfl⟩
      · refine ⟨k + 1, Nat.succ_le_succ hk, ?_⟩
        rw [Code.position_cons_succ, Code.position_cons_succ, Nat.add_assoc, Nat.add_assoc]
    · rintro ⟨k, hk, rfl⟩
      cases k with
      | zero => exact .inl rfl
      | succ k =>
        refine .inr ⟨k, Nat.le_of_succ_le_succ hk, ?_⟩
        rw [Code.position_cons_succ, Code.position_cons_succ, Nat.add_assoc, Nat.add_assoc]

end Laid

/-- A shrunk listing encodes to the compressed program. -/
theorem Listing.Shrinks.isCompression {l' l : Listing} {codes' codes : List Code}
    (h : l'.Shrinks l) (hlaid' : Laid l'.offsets 0 l'.entries codes' l'.stop)
    (hlaid : Laid l.offsets 0 l.entries codes l.stop) (hstop : l.stop ≤ 2 ^ 31) :
    IsCompression codes' codes := by
  have hlength : codes'.length = codes.length :=
    hlaid'.length_eq.trans (h.entries.length_eq.trans hlaid.length_eq.symm)
  have hmarks : ∀ {x : Mark}, x ∈ marks l' l ↔
      ∃ k ≤ codes.length, x = (Code.position codes' k, Code.position codes k) := by
    intro x
    simpa only [marks, Nat.zero_add] using hlaid.mem_marks_iff hlaid' hlength (x := x)
  refine ⟨hlength, ?_, ?_⟩
  · intro k hk
    exact h.areMarks.le _ (hmarks.2 ⟨k, hk, rfl⟩)
  · intro k hk' hk
    have he' : k < l'.entries.length := hlaid'.length_eq ▸ hk'
    have he : k < l.entries.length := hlaid.length_eq ▸ hk
    obtain ⟨hc', hp'⟩ := hlaid'.getElem_codes hk' he'
    obtain ⟨hc, hp⟩ := hlaid.getElem_codes hk he
    have hreplaces := (List.forall₂_iff_get.1 h.entries).2 k he' he
    have hmark : (l'.entries[k].position, l.entries[k].position) ∈ marks l' l := by
      rw [hmarks, hp', hp, Nat.zero_add, Nat.zero_add]
      exact ⟨k, hk.le, rfl⟩
    refine h.exists_sameOperation hstop hreplaces hmark hc' hc ?_
    rintro _ htarget d' d hd' hd
    obtain ⟨n, hn, rfl⟩ := hmarks.1 htarget
    rw [hp', Nat.zero_add] at hd'
    rw [hp, Nat.zero_add] at hd
    exact ⟨n, hn, hd', hd⟩

namespace Assembler

/-- The buffer holds the codes of the program, one for each instruction that it asks for. -/
def Holds (a : Assembler) (useRvc : Bool) (steps : List Step) (codes : List Code) : Prop :=
  ∃ l, (Listing.start useRvc).run steps = .ok l ∧ l.codes = .ok codes ∧
    a.buffer.toList = codes.flatMap Code.bytes

/-- A program that runs without faults when nothing is compressed does so under compression, in any
regions, and the program that is then in the buffer is the first one compressed. -/
theorem attempt_compresses {capacity : Nat} (hcap : capacity ≤ 2 ^ 31) {program steps : List Step}
    (hsymbolic : ∀ s ∈ program, s.isSymbolic)
    (hsteps : steps.filterMap Step.plain? = program) {a : Assembler}
    (hrun : (ofBuffer (.empty capacity) false).attempt program = (a, none)) :
    ∃ a' codes' codes, (ofBuffer (.empty capacity) true).attempt steps = (a', none) ∧
      a'.Holds true steps codes' ∧ a.Holds false program codes ∧
        IsCompression codes' codes := by
  subst hsteps
  have hstart : ∀ useRvc, (Listing.start useRvc).IsLaid := fun _ => ⟨[], .nil 0⟩
  obtain ⟨l, codes, hlist, h, hcap'⟩ := (Realizes.ofBuffer_empty capacity false).attempt hcap hrun
  have hstop : l.stop ≤ 2 ^ 31 := h.stop_le.trans (hcap'.le.trans hcap)
  obtain ⟨l', hlist', hshrinks, hlaid'⟩ :=
    (Listing.Shrinks.start true).run (hstart true) hsymbolic hlist ⟨codes, h.laid⟩ hstop
  have hroom : l'.stop ≤ capacity := hshrinks.stop_le.trans (h.stop_le.trans hcap'.le)
  obtain ⟨a', hrun'⟩ :=
    (Realizes.ofBuffer_empty capacity true).exists_attempt hcap hlist' hlaid' hroom
  obtain ⟨m', codes', hm', h', -⟩ := (Realizes.ofBuffer_empty capacity true).attempt hcap hrun'
  obtain rfl : l' = m' := Except.ok.inj (hlist'.symm.trans hm')
  exact ⟨a', codes', codes, hrun', ⟨l', hlist', h'.laid.mapM_code, h'.bytes⟩,
    ⟨l, hlist, h.laid.mapM_code, h.bytes⟩, hshrinks.isCompression h'.laid h.laid hstop⟩

/-- Both branches of the loop are compressible, only the one that goes back is compressed. -/
theorem attempt_loopAndExit_compresses :
    ∃ a a' codes' codes,
      (ofBuffer (.empty 4096) false).attempt (loopAndExit.filterMap Step.plain?) = (a, none) ∧
        (ofBuffer (.empty 4096) true).attempt loopAndExit = (a', none) ∧
          a'.Holds true loopAndExit codes' ∧
            a.Holds false (loopAndExit.filterMap Step.plain?) codes ∧
              IsCompression codes' codes := by
  have hfault : ((ofBuffer (.empty 4096) false).attempt (loopAndExit.filterMap Step.plain?)).2 =
      none := by decide
  have hrun : (ofBuffer (.empty 4096) false).attempt (loopAndExit.filterMap Step.plain?) =
      (_, none) := Prod.ext rfl hfault
  obtain ⟨a', codes', codes, h⟩ := attempt_compresses (by decide) (by decide) rfl hrun
  exact ⟨_, a', codes', codes, hrun, h⟩

end Assembler

end RiscvAssembler
