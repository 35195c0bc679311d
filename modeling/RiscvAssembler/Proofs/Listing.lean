import RiscvAssembler.Proofs.Resolution
import RiscvAssembler.Proofs.Run
import RiscvAssembler.Proofs.Site

/-!
# Assembly in two passes

The first pass lays a program out: it lists what stands where and at which offset each label is
bound. The second pass knows all offsets and encodes every entry of the list on its own. A reference
to a label is encoded with the exact displacement; only one that goes back may take a compact form.
-/

namespace RiscvAssembler

structure Entry where
  position : Nat
  content : Content
  deriving DecidableEq

/-- Where the labels are bound. -/
abbrev Offsets :=
  Nat → Option Nat

namespace Entry

/-- The code of the entry. The displacement is zero when the label is not bound. -/
def code (offsets : Offsets) (e : Entry) : Except Fault Code :=
  match e.content with
  | .fixed c => .ok c
  | .reference s id active =>
    match offsets id with
    | some target => s.code (active && target ≤ e.position) (between e.position target)
    | none => s.code false 0#32

/-- The entry as a reference to the label `id`, if it is one. -/
def reference? (id : Nat) (e : Entry) : Option Reference :=
  match e.content with
  | .fixed _ => none
  | .reference s n _ => if n = id then some ⟨e.position, s.kind⟩ else none

theorem reference?_reference (id p : Nat) (s : Site) (n : Nat) (active : Bool) :
    reference? id ⟨p, .reference s n active⟩ = if n = id then some ⟨p, s.kind⟩ else none :=
  rfl

end Entry

/-- The state of the first pass. -/
structure Listing where
  entries : List Entry
  /-- Where the next entry goes. -/
  stop : Nat
  offsets : Offsets
  useRvc : Bool
  inRegion : Bool
  outerRegions : List Bool

namespace Listing

def start (useRvc : Bool) : Listing where
  entries := []
  stop := 0
  offsets := fun _ => none
  useRvc := useRvc
  inRegion := false
  outerRegions := []

def active (l : Listing) : Bool :=
  l.useRvc && l.inRegion

def append (l : Listing) (content : Content) (c : Code) : Listing :=
  { l with entries := l.entries ++ [⟨l.stop, content⟩], stop := l.stop + c.size }

def add (l : Listing) (content : Content) : Except Fault Listing := do
  return l.append content (← Entry.code l.offsets ⟨l.stop, content⟩)

def addAll (l : Listing) : List (Except Fault Content) → Except Fault Listing
  | [] => .ok l
  | content :: contents => do (← l.add (← content)).addAll contents

def bindHere (l : Listing) (id : Nat) : Listing :=
  { l with offsets := Function.update l.offsets id (some l.stop) }

def bind (l : Listing) (id : Nat) : Except Fault Listing :=
  match l.offsets id with
  | some earlier => .error (.alreadyBound id earlier)
  | none => .ok (l.bindHere id)

def enter (l : Listing) (compressible : Bool) : Listing :=
  { l with inRegion := compressible, outerRegions := l.inRegion :: l.outerRegions }

def leave (l : Listing) : Listing :=
  match l.outerRegions with
  | [] => l
  | outer :: rest => { l with inRegion := outer, outerRegions := rest }

def step (l : Listing) : Step → Except Fault Listing
  | .call c => l.addAll (c.contents l.active)
  | .bind id => l.bind id
  | .enter compressible => .ok (l.enter compressible)
  | .leave => .ok l.leave
  | .within compressible c =>
    leave <$> (l.enter compressible).addAll (c.contents (l.enter compressible).active)

def run (l : Listing) (steps : List Step) : Except Fault Listing :=
  steps.foldlM step l

/-- The second pass. -/
def codes (l : Listing) : Except Fault (List Code) :=
  l.entries.mapM (Entry.code l.offsets)

theorem add_eq_ok_iff {l l' : Listing} {content : Content} :
    l.add content = .ok l' ↔
      ∃ c, Entry.code l.offsets ⟨l.stop, content⟩ = .ok c ∧ l' = l.append content c := by
  unfold add
  rw [bind_eq_ok_iff]
  constructor
  · rintro ⟨c, hc, ⟨⟩⟩
    exact ⟨c, hc, rfl⟩
  · rintro ⟨c, hc, rfl⟩
    exact ⟨c, hc, rfl⟩

theorem addAll_ok_cons (l : Listing) (content : Content)
    (contents : List (Except Fault Content)) :
    l.addAll (.ok content :: contents) = l.add content >>= fun l => l.addAll contents :=
  rfl

theorem offsets_bindHere_self (l : Listing) (id : Nat) :
    (l.bindHere id).offsets id = some l.stop :=
  Function.update_self ..

theorem offsets_bindHere_of_ne (l : Listing) {id n : Nat} (h : n ≠ id) :
    (l.bindHere id).offsets n = l.offsets n :=
  Function.update_of_ne h ..

theorem bind_eq_iff {l l' : Listing} {id : Nat} :
    l.bind id = .ok l' ↔ l.offsets id = none ∧ l' = l.bindHere id := by
  unfold bind
  cases h : l.offsets id with
  | some earlier => simp only [reduceCtorEq, false_and]
  | none => simp only [Except.ok.injEq, true_and, eq_comm]

end Listing

/-! ## Layout -/

/-- The entries follow one another from the first offset to the second and encode to the codes. -/
inductive Laid (offsets : Offsets) : Nat → List Entry → List Code → Nat → Prop
  | nil (stop : Nat) : Laid offsets stop [] [] stop
  | cons {e : Entry} {c : Code} {entries : List Entry} {codes : List Code} {start stop : Nat}
    (position : e.position = start) (code : e.code offsets = .ok c)
    (rest : Laid offsets (start + c.size) entries codes stop) :
    Laid offsets start (e :: entries) (c :: codes) stop

namespace Laid

variable {offsets : Offsets} {start middle stop : Nat} {entries more : List Entry}
  {codes others : List Code}

theorem append (h : Laid offsets start entries codes middle)
    (h' : Laid offsets middle more others stop) :
    Laid offsets start (entries ++ more) (codes ++ others) stop := by
  induction h with
  | nil => exact h'
  | cons hp hc _ ih => exact cons hp hc (ih h')

theorem concat (h : Laid offsets start entries codes stop) {content : Content} {c : Code}
    (hc : Entry.code offsets ⟨stop, content⟩ = .ok c) :
    Laid offsets start (entries ++ [⟨stop, content⟩]) (codes ++ [c]) (stop + c.size) :=
  h.append (cons rfl hc (nil _))

theorem length_flatMap_bytes (h : Laid offsets start entries codes stop) :
    start + (codes.flatMap Code.bytes).length = stop := by
  induction h with
  | nil => rfl
  | cons _ _ _ ih =>
    rw [List.flatMap_cons, List.length_append, Code.length_bytes, ← Nat.add_assoc, ih]

theorem mapM_code (h : Laid offsets start entries codes stop) :
    entries.mapM (Entry.code offsets) = .ok codes := by
  induction h with
  | nil => rfl
  | cons _ hc _ ih => rw [List.mapM_cons, hc, ih]; rfl

theorem length_eq (h : Laid offsets start entries codes stop) :
    codes.length = entries.length := by
  induction h with
  | nil => rfl
  | cons _ _ _ ih => rw [List.length_cons, List.length_cons, ih]

theorem exists_code (h : Laid offsets start entries codes stop) {e : Entry} (he : e ∈ entries) :
    ∃ c, e.code offsets = .ok c := by
  induction h with
  | nil => cases he
  | cons _ hc _ ih =>
    rcases List.mem_cons.1 he with rfl | he
    · exact ⟨_, hc⟩
    · exact ih he

theorem start_le (h : Laid offsets start entries codes stop) : start ≤ stop := by
  rw [← h.length_flatMap_bytes]
  exact Nat.le_add_right _ _

theorem position_lt (h : Laid offsets start entries codes stop) {e : Entry} (he : e ∈ entries) :
    e.position < stop := by
  induction h with
  | nil => cases he
  | @cons e' c _ _ _ _ hp _ rest ih =>
    rcases List.mem_cons.1 he with rfl | he
    · have hpos : 0 < c.size := by
        cases c <;> exact Nat.succ_pos _
      have := rest.start_le
      omega
    · exact ih he

end Laid

/-! ## Binding a label in a listing -/

open Function

namespace Entry

variable {offsets : Offsets} {id target : Nat} {e : Entry} {r : Reference} {c c' : Code}

theorem code_update_of_reference?_eq_none (h : e.reference? id = none) :
    e.code (update offsets id (some target)) = e.code offsets := by
  obtain ⟨p, content⟩ := e
  cases content with
  | fixed c => rfl
  | reference s n active =>
    have hn : n ≠ id := by
      intro hn
      simp [reference?, hn] at h
    simp only [code, update_of_ne hn]

theorem offset_of_reference?_eq_some (h : e.reference? id = some r) : r.offset = e.position := by
  obtain ⟨p, content⟩ := e
  cases content with
  | fixed c => cases h
  | reference s n active =>
    simp only [reference?, Option.ite_none_right_eq_some, Option.some.injEq] at h
    rw [← h.2]

/-- A reference made before its label is bound takes the displacement in place of zero. -/
theorem code_update_eq_ok_iff (h : e.reference? id = some r) (hid : offsets id = none)
    (hlt : e.position < target) (hc : e.code offsets = .ok c) :
    c.size = r.kind.length ∧
      (e.code (update offsets id (some target)) = .ok c' ↔
        r.kind.fits ((between r.offset target).signExtend 64) ∧
          c' = c.redirect r.kind (between r.offset target)) := by
  obtain ⟨p, content⟩ := e
  cases content with
  | fixed c => cases h
  | reference s n active =>
    simp only [reference?, Option.ite_none_right_eq_some, Option.some.injEq] at h
    obtain ⟨rfl, rfl⟩ := h
    have hback : ¬ target ≤ p := Nat.not_le.2 hlt
    simp only [code, hid] at hc
    simp only [code, update_self, hback, decide_false, Bool.and_false]
    refine ⟨Site.size_of_code_eq_ok hc, ?_⟩
    rw [Site.code_eq_ok_iff, hc]
    simp only [Except.ok.injEq, exists_eq_left']

theorem size_eq_of_code_update_eq_ok (hid : offsets id = none) (hlt : e.position < target)
    (hc : e.code offsets = .ok c) (hc' : e.code (update offsets id (some target)) = .ok c') :
    c'.size = c.size := by
  cases hr : e.reference? id with
  | none =>
    rw [code_update_of_reference?_eq_none hr, hc] at hc'
    rw [Except.ok.inj hc']
  | some r =>
    rw [((code_update_eq_ok_iff hr hid hlt hc).2.1 hc').2, Code.size_redirect]

theorem exists_code_of_code_update_eq_ok (hid : offsets id = none) (hlt : e.position < target)
    (hc' : e.code (update offsets id (some target)) = .ok c') :
    ∃ c, e.code offsets = .ok c ∧ c.size = c'.size := by
  cases hr : e.reference? id with
  | none =>
    rw [code_update_of_reference?_eq_none hr] at hc'
    exact ⟨c', hc', rfl⟩
  | some r =>
    obtain ⟨p, content⟩ := e
    cases content with
    | fixed c => cases hr
    | reference s n active =>
      rw [reference?_reference, Option.ite_none_right_eq_some] at hr
      obtain ⟨rfl, -⟩ := hr
      have hback : ¬ target ≤ p := Nat.not_le.2 hlt
      simp only [code, update_self, hback, decide_false, Bool.and_false] at hc'
      obtain ⟨-, c, hc, hredirect⟩ := Site.code_eq_ok_iff.1 hc'
      refine ⟨c, ?_, ?_⟩
      · simp only [code, hid, hc]
      · rw [hredirect, Code.size_redirect]

end Entry

namespace Laid

variable {offsets : Offsets} {start stop : Nat} {entries more : List Entry} {codes : List Code}

theorem exists_of_append (h : Laid offsets start (entries ++ more) codes stop) :
    ∃ codes₁ codes₂ middle,
      Laid offsets start entries codes₁ middle ∧ Laid offsets middle more codes₂ stop := by
  induction entries generalizing start codes with
  | nil => exact ⟨[], codes, start, .nil start, h⟩
  | cons e entries ih =>
    obtain _ | ⟨hp, hc, rest⟩ := h
    obtain ⟨codes₁, codes₂, middle, h₁, h₂⟩ := ih rest
    exact ⟨_, codes₂, middle, .cons hp hc h₁, h₂⟩

theorem exists_of_update {id target : Nat} (hid : offsets id = none) (hstop : stop ≤ target)
    (h : Laid (update offsets id (some target)) start entries codes stop) :
    ∃ codes', Laid offsets start entries codes' stop := by
  induction entries generalizing start codes with
  | nil =>
    cases h
    exact ⟨[], .nil _⟩
  | cons e entries ih =>
    have hlt := h.position_lt List.mem_cons_self
    obtain _ | ⟨hp, hc, rest⟩ := h
    obtain ⟨c, hc', hsize⟩ := Entry.exists_code_of_code_update_eq_ok hid (by omega) hc
    obtain ⟨codes', h'⟩ := ih rest
    exact ⟨c :: codes', .cons hp hc' (hsize ▸ h')⟩

/-- Binding a label moves no entry. -/
theorem exists_update {id target : Nat} (hid : offsets id = none) (hstop : stop ≤ target)
    (h : Laid offsets start entries codes stop)
    (hcode : ∀ e ∈ entries, ∃ c, e.code (update offsets id (some target)) = .ok c) :
    ∃ codes', Laid (update offsets id (some target)) start entries codes' stop := by
  induction h with
  | nil => exact ⟨[], .nil _⟩
  | @cons e c entries codes start stop hp hc rest ih =>
    rw [List.forall_mem_cons] at hcode
    obtain ⟨⟨c', hc'⟩, hentries⟩ := hcode
    obtain ⟨codes', h'⟩ := ih hstop hentries
    have hle := rest.start_le
    have hpos := c.size_pos
    have hsize := e.size_eq_of_code_update_eq_ok hid (by omega) hc hc'
    exact ⟨c' :: codes', .cons hp hc' (hsize ▸ h')⟩

end Laid

namespace Listing

variable {l l' : Listing}

theorem stop_leave (l : Listing) : l.leave.stop = l.stop := by
  unfold leave
  split <;> rfl

/-- Every entry has a code, and the entry after it stands where this code ends. -/
def IsLaid (l : Listing) : Prop :=
  ∃ codes, Laid l.offsets 0 l.entries codes l.stop

theorem IsLaid.addAll (h : l.IsLaid) {contents : List (Except Fault Content)}
    (hadd : l.addAll contents = .ok l') : l'.IsLaid := by
  induction contents generalizing l with
  | nil =>
    obtain rfl := Except.ok.inj hadd
    exact h
  | cons content contents ih =>
    cases content with
    | error f => cases hadd
    | ok content =>
      rw [addAll_ok_cons, bind_eq_ok_iff] at hadd
      obtain ⟨l₁, hfirst, hrest⟩ := hadd
      obtain ⟨c, hc, rfl⟩ := l.add_eq_ok_iff.1 hfirst
      obtain ⟨codes, hlaid⟩ := h
      exact ih ⟨_, hlaid.concat hc⟩ hrest

theorem IsLaid.leave (h : l.IsLaid) : l.leave.IsLaid := by
  unfold Listing.leave
  split
  · exact h
  · exact h

theorem run_cons (l : Listing) (s : Step) (steps : List Step) :
    l.run (s :: steps) = l.step s >>= fun l => l.run steps :=
  List.foldlM_cons ..

/-- The listing `l'` goes on from `l`: it reaches at least as far, and when it is laid out, so
was `l`. -/
structure Extends (l' l : Listing) : Prop where
  stop_le : l.stop ≤ l'.stop
  isLaid : l'.IsLaid → l.IsLaid

namespace Extends

theorem refl (l : Listing) : l.Extends l :=
  ⟨le_rfl, id⟩

theorem trans {l₁ l₂ l₃ : Listing} (h : l₃.Extends l₂) (h' : l₂.Extends l₁) : l₃.Extends l₁ where
  stop_le := h'.stop_le.trans h.stop_le
  isLaid := fun hlaid => h'.isLaid (h.isLaid hlaid)

theorem append (l : Listing) (content : Content) (c : Code) :
    (l.append content c).Extends l where
  stop_le := Nat.le_add_right _ _
  isLaid := by
    rintro ⟨codes, hlaid⟩
    obtain ⟨codes₁, codes₂, middle, h₁, h₂⟩ := Laid.exists_of_append hlaid
    obtain _ | ⟨rfl, -, -⟩ := h₂
    exact ⟨codes₁, h₁⟩

theorem of_addAll {contents : List (Except Fault Content)} (h : l.addAll contents = .ok l') :
    l'.Extends l := by
  induction contents generalizing l with
  | nil =>
    obtain rfl := Except.ok.inj h
    exact refl l
  | cons content contents ih =>
    cases content with
    | error f => cases h
    | ok content =>
      rw [addAll_ok_cons, bind_eq_ok_iff] at h
      obtain ⟨l₁, hadd, hrest⟩ := h
      obtain ⟨c, -, rfl⟩ := l.add_eq_ok_iff.1 hadd
      exact (ih hrest).trans (append l content c)

theorem leave (h : l'.Extends l) : l'.leave.Extends l := by
  unfold Listing.leave
  split
  · exact h
  · exact ⟨h.stop_le, h.isLaid⟩

theorem of_step {s : Step} (h : l.step s = .ok l') : l'.Extends l := by
  cases s with
  | call c => exact of_addAll h
  | bind id =>
    obtain ⟨hid, rfl⟩ := Listing.bind_eq_iff.1 h
    exact ⟨le_rfl, fun ⟨_, hlaid⟩ => hlaid.exists_of_update hid le_rfl⟩
  | enter compressible =>
    obtain rfl := Except.ok.inj h
    exact ⟨le_rfl, id⟩
  | leave =>
    obtain rfl := Except.ok.inj h
    exact (refl l).leave
  | within compressible c =>
    obtain ⟨l₁, hadd, rfl⟩ := map_eq_ok_iff.1 h
    have h₁ : l₁.Extends (l.enter compressible) := of_addAll hadd
    exact Extends.leave ⟨h₁.stop_le, h₁.isLaid⟩

theorem of_run {steps : List Step} (h : l.run steps = .ok l') : l'.Extends l := by
  induction steps generalizing l with
  | nil =>
    obtain rfl := Except.ok.inj h
    exact refl l
  | cons s steps ih =>
    rw [run_cons, bind_eq_ok_iff] at h
    obtain ⟨l₁, hstep, hrest⟩ := h
    exact (ih hrest).trans (of_step hstep)

end Extends

end Listing

end RiscvAssembler
