import RiscvAssembler.Displacement

/-!
# Labels

A label is a branch or jump target. While it is unbound it collects the references made to it;
binding fixes its offset and hands the references over, each exactly once.
-/

namespace RiscvAssembler

/-- An emitted instruction that is waiting for the offset of a label. -/
structure Reference where
  offset : Nat
  kind : ReferenceKind
  deriving DecidableEq

inductive Label.State
  /-- Not yet placed, with the references so far in the order they were made. -/
  | unbound (references : List Reference)
  | bound (offset : Nat)
  deriving DecidableEq

structure Label where
  id : Nat
  state : Label.State
  deriving DecidableEq

namespace Label

def fresh (id : Nat) : Label :=
  ⟨id, .unbound []⟩

def offset? (l : Label) : Option Nat :=
  match l.state with
  | .bound offset => some offset
  | .unbound _ => none

def isBound (l : Label) : Bool :=
  l.offset?.isSome

/-- The references that are still waiting. -/
def references (l : Label) : List Reference :=
  match l.state with
  | .bound _ => []
  | .unbound references => references

def addReference (l : Label) (r : Reference) : Except Fault Label :=
  match l.state with
  | .unbound references => .ok { l with state := .unbound (references ++ [r]) }
  | .bound _ => .error (.referenceAfterBind l.id)

/-- Places the label. The references that have to be resolved come with it. -/
def bind (l : Label) (offset : Nat) : Except Fault (Label × List Reference) :=
  match l.state with
  | .unbound references => .ok ({ l with state := .bound offset }, references)
  | .bound earlier => .error (.alreadyBound l.id earlier)

end Label

/-- The labels made so far, by ascending identifier. -/
structure LabelTable where
  labels : List Label
  deriving DecidableEq

namespace LabelTable

def empty : LabelTable :=
  ⟨[]⟩

def find? (t : LabelTable) (id : Nat) : Option Label :=
  t.labels.find? (·.id == id)

/-- The label `id`, fresh when it has not been made yet. -/
def get (t : LabelTable) (id : Nat) : Label :=
  (t.find? id).getD (Label.fresh id)

/-- Puts `l` in place of the label of the same identifier, or where its identifier belongs. -/
def insertLabel (l : Label) : List Label → List Label
  | [] => [l]
  | m :: ms =>
    if l.id < m.id then l :: m :: ms
    else if l.id = m.id then l :: ms
    else m :: insertLabel l ms

def insert (t : LabelTable) (l : Label) : LabelTable :=
  ⟨insertLabel l t.labels⟩

/-- Makes the label `id` unless it exists. -/
def declare (t : LabelTable) (id : Nat) : LabelTable :=
  t.insert (t.get id)

theorem find?_insert_self (t : LabelTable) (l : Label) : (t.insert l).find? l.id = some l := by
  rcases t with ⟨ms⟩
  simp only [insert, find?]
  induction ms with
  | nil => simp [insertLabel]
  | cons m ms ih =>
    simp only [insertLabel]
    split
    · simp
    · split
      · simp
      · rename_i h
        rw [List.find?_cons_of_neg (by simpa using Ne.symm h), ih]

theorem find?_insert_of_ne (t : LabelTable) {l : Label} {id : Nat} (h : id ≠ l.id) :
    (t.insert l).find? id = t.find? id := by
  rcases t with ⟨ms⟩
  have hl : (l.id == id) = false := by simpa using Ne.symm h
  simp only [insert, find?]
  induction ms with
  | nil => simp [insertLabel, hl]
  | cons m ms ih =>
    simp only [insertLabel]
    split
    · simp only [List.find?_cons, hl]
    · split
      · rename_i hm
        simp only [List.find?_cons, hl, ← hm]
      · simp only [List.find?_cons, ih]

theorem get_insert_self (t : LabelTable) (l : Label) : (t.insert l).get l.id = l := by
  simp only [get, find?_insert_self, Option.getD_some]

theorem get_insert_of_ne (t : LabelTable) {l : Label} {id : Nat} (h : id ≠ l.id) :
    (t.insert l).get id = t.get id := by
  simp only [get, find?_insert_of_ne t h]

end LabelTable

end RiscvAssembler
