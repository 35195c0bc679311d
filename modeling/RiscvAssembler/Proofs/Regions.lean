import RiscvAssembler.Proofs.Appending

/-!
# Regions along a run

Calls and binds change the code and the labels and leave the region flags alone. So a run changes
the flags of the regions it opens itself, and one that closes them all ends with the flags it began
with.
-/

namespace RiscvAssembler

/-- How many regions are open after the steps when `n` were open before. There is no such number
when a step closes a region that is not open. -/
def openRegions : Nat → List Step → Option Nat
  | n, [] => some n
  | n, .enter _ :: steps => openRegions (n + 1) steps
  | 0, .leave :: _ => none
  | n + 1, .leave :: steps => openRegions n steps
  | n, .call _ :: steps => openRegions n steps
  | n, .bind _ :: steps => openRegions n steps
  | n, .within _ _ :: steps => openRegions n steps

/-- The kinds of the regions that are open after the steps, the innermost first, when `kinds` were
open before. -/
def openKinds : List Bool → List Step → Option (List Bool)
  | kinds, [] => some kinds
  | kinds, .enter compressible :: steps => openKinds (compressible :: kinds) steps
  | [], .leave :: _ => none
  | _ :: kinds, .leave :: steps => openKinds kinds steps
  | kinds, .call _ :: steps => openKinds kinds steps
  | kinds, .bind _ :: steps => openKinds kinds steps
  | kinds, .within _ _ :: steps => openKinds kinds steps

theorem openRegions_length (kinds : List Bool) (steps : List Step) :
    openRegions kinds.length steps = (openKinds kinds steps).map List.length := by
  induction steps generalizing kinds with
  | nil => rfl
  | cons s steps ih =>
    cases s with
    | call c => exact ih kinds
    | bind id => exact ih kinds
    | enter compressible => exact ih (compressible :: kinds)
    | leave =>
      cases kinds with
      | nil => rfl
      | cons kind kinds => exact ih kinds
    | within compressible c => exact ih kinds

theorem exists_openKinds_of_openRegions {kinds : List Bool} {steps : List Step} {n : Nat}
    (h : openRegions kinds.length steps = some n) :
    ∃ kinds', openKinds kinds steps = some kinds' ∧ kinds'.length = n := by
  rw [openRegions_length, Option.map_eq_some_iff] at h
  exact h

theorem openKinds_append (kinds : List Bool) (steps more : List Step) :
    openKinds kinds (steps ++ more) = (openKinds kinds steps).bind (openKinds · more) := by
  induction steps generalizing kinds with
  | nil => rfl
  | cons s steps ih =>
    cases s with
    | call c => exact ih kinds
    | bind id => exact ih kinds
    | enter compressible => exact ih (compressible :: kinds)
    | leave =>
      cases kinds with
      | nil => rfl
      | cons kind kinds => exact ih kinds
    | within compressible c => exact ih kinds

namespace Assembler

theorem exists_call_fst_eq (a : Assembler) (c : Call) :
    ∃ buffer labels, (a.call c).1 = { a with buffer, labels } := by
  obtain ⟨codes, h, -⟩ := a.appends_call c
  exact ⟨_, _, h.eq_with⟩

theorem exists_bind_fst_eq (a : Assembler) (id : Nat) :
    ∃ buffer labels, (a.bind id).1 = { a with buffer, labels } := by
  unfold bind
  split
  · exact ⟨_, _, rfl⟩
  · exact ⟨a.buffer, a.labels, rfl⟩

/-- The flags of all open regions, the innermost first, and of the code outside. -/
def regions (a : Assembler) : List Bool :=
  a.inRegion :: a.outerRegions

/-- Steps change the flags of the regions they open and of no other. -/
theorem regions_step {a : Assembler} {s : Step} {inner inner' outer : List Bool}
    (hregions : a.regions = inner ++ outer) (houter : outer ≠ [])
    (hopen : openKinds inner [s] = some inner') :
    (a.step s).1.useRvc = a.useRvc ∧ (a.step s).1.regions = inner' ++ outer := by
  cases s with
  | call c =>
    obtain rfl : inner = inner' := Option.some.inj hopen
    obtain ⟨buffer, labels, heq⟩ := a.exists_call_fst_eq c
    rw [step, heq]
    exact ⟨rfl, hregions⟩
  | bind id =>
    obtain rfl : inner = inner' := Option.some.inj hopen
    obtain ⟨buffer, labels, heq⟩ := a.exists_bind_fst_eq id
    rw [step, heq]
    exact ⟨rfl, hregions⟩
  | enter compressible =>
    obtain rfl : compressible :: inner = inner' := Option.some.inj hopen
    exact ⟨rfl, congrArg (compressible :: ·) hregions⟩
  | leave =>
    cases inner with
    | nil => cases hopen
    | cons flag inner =>
      obtain rfl : inner = inner' := Option.some.inj hopen
      obtain ⟨-, htail⟩ := List.cons.inj hregions
      change a.leave.useRvc = a.useRvc ∧ a.leave.regions = inner ++ outer
      unfold leave
      split
      next hnil =>
        rw [hnil] at htail
        exact absurd (List.append_eq_nil_iff.1 htail.symm).2 houter
      next hcons =>
        rw [hcons] at htail
        exact ⟨rfl, htail⟩
  | within compressible c =>
    obtain rfl : inner = inner' := Option.some.inj hopen
    obtain ⟨buffer, labels, heq⟩ := (a.enter compressible).exists_call_fst_eq c
    change (((a.enter compressible).call c).1.leave).useRvc = a.useRvc ∧
      (((a.enter compressible).call c).1.leave).regions = inner ++ outer
    rw [heq]
    exact ⟨rfl, hregions⟩

/-- So does a run, whatever faults stop its calls. -/
theorem regions_run {a : Assembler} {steps : List Step} {inner inner' outer : List Bool}
    (hregions : a.regions = inner ++ outer) (houter : outer ≠ [])
    (hopen : openKinds inner steps = some inner') :
    (a.run steps).useRvc = a.useRvc ∧ (a.run steps).regions = inner' ++ outer := by
  induction steps generalizing a inner with
  | nil =>
    obtain rfl : inner = inner' := Option.some.inj hopen
    exact ⟨rfl, hregions⟩
  | cons s steps ih =>
    rw [← List.singleton_append, openKinds_append, Option.bind_eq_some_iff] at hopen
    obtain ⟨inner₁, hfirst, hrest⟩ := hopen
    obtain ⟨hrvc, hregions₁⟩ := regions_step hregions houter hfirst
    obtain ⟨hrvc', hregions'⟩ := ih hregions₁ hrest
    exact ⟨hrvc'.trans hrvc, hregions'⟩

theorem run_eq_of_attempt {a a' : Assembler} {steps : List Step}
    (hrun : a.attempt steps = (a', none)) : a.run steps = a' := by
  induction steps generalizing a with
  | nil => exact congrArg Prod.fst hrun
  | cons s steps ih =>
    obtain ⟨a₁, hstep, hrest⟩ := Outcome.andThen_eq_iff.1 hrun
    rw [run_cons, hstep]
    exact ih hrest

/-- Steps without a fault that open and close regions of their own. -/
theorem regions_attempt {a a' : Assembler} {steps : List Step} {n m : Nat}
    {inner outer : List Bool} (hregions : a.regions = inner ++ outer) (hinner : inner.length = n)
    (houter : outer ≠ []) (hopen : openRegions n steps = some m)
    (hrun : a.attempt steps = (a', none)) :
    a'.useRvc = a.useRvc ∧ ∃ inner', a'.regions = inner' ++ outer ∧ inner'.length = m := by
  subst hinner
  obtain ⟨inner', hkinds, hlength⟩ := exists_openKinds_of_openRegions hopen
  obtain ⟨hrvc, hregions'⟩ := regions_run hregions houter hkinds
  rw [run_eq_of_attempt hrun] at hrvc hregions'
  exact ⟨hrvc, inner', hregions', hlength⟩

end Assembler

end RiscvAssembler
