import RiscvAssembler.Proofs.Regions

/-!
# Nested regions

A region is closed by the guard that opened it, also when a fault leaves several regions at once.
So the flags of the regions behave as a stack: the assembler is in a compressible region exactly
when the innermost open region is one, whatever failed before. Without compact instructions the
regions have no effect on what is emitted.
-/

namespace RiscvAssembler

variable {kinds inner : List Bool} {steps : List Step}

theorem exists_openKinds {n : Nat} (h : openRegions 0 steps = some n) :
    ∃ kinds, openKinds [] steps = some kinds ∧ kinds.length = n := by
  have hlength : openRegions ([] : List Bool).length steps = some n := h
  exact exists_openKinds_of_openRegions hlength

theorem openKinds_append_outer (h : openKinds kinds steps = some inner) (outer : List Bool) :
    openKinds (kinds ++ outer) steps = some (inner ++ outer) := by
  induction steps generalizing kinds with
  | nil =>
    obtain rfl : kinds = inner := Option.some.inj h
    rfl
  | cons s steps ih =>
    cases s with
    | call c => exact ih h
    | bind id => exact ih h
    | enter compressible => exact ih h
    | leave =>
      cases kinds with
      | nil => cases h
      | cons kind kinds => exact ih h
    | within compressible c => exact ih h

/-- Steps that close the regions they open and no others. -/
theorem openKinds_of_closed (h : openRegions 0 steps = some 0) (kinds : List Bool) :
    openKinds kinds steps = some kinds := by
  obtain ⟨inner, hopen, hlength⟩ := exists_openKinds h
  obtain rfl : inner = [] := List.length_eq_zero_iff.1 hlength
  exact openKinds_append_outer hopen kinds

/-- What was open before a region is open again once the region is closed. -/
theorem openKinds_region {before body : List Step} (compressible : Bool)
    (hbefore : openKinds [] before = some kinds) (hbody : openRegions 0 body = some 0) :
    openKinds [] (before ++ .enter compressible :: body ++ [.leave]) = some kinds := by
  rw [List.append_assoc, openKinds_append, hbefore]
  change openKinds (compressible :: kinds) (body ++ [.leave]) = some kinds
  rw [openKinds_append, openKinds_of_closed hbody]
  rfl

theorem exists_openKinds_of_initial {before : List Step} {n : Nat}
    (hnested : openRegions 0 steps = some n) (hbefore : before <+: steps) :
    ∃ kinds, openKinds [] before = some kinds := by
  obtain ⟨after, rfl⟩ := hbefore
  obtain ⟨_, hopen, -⟩ := exists_openKinds hnested
  rw [openKinds_append, Option.bind_eq_some_iff] at hopen
  obtain ⟨kinds, hkinds, -⟩ := hopen
  exact ⟨kinds, hkinds⟩

/-! ## Steps without regions -/

/-- What is left of a step when the regions are taken away. -/
def Step.withoutRegion? : Step → Option Step
  | .enter _ | .leave => none
  | .within _ c => some (.call c)
  | s => some s

def eraseRegions (steps : List Step) : List Step :=
  steps.filterMap Step.withoutRegion?

namespace Assembler

/-- The faults of the calls and binds of a run, in order, `none` for one that succeeds. -/
def answers (a : Assembler) : List Step → List (Option Fault)
  | [] => []
  | s :: steps =>
    if s.withoutRegion?.isSome then (a.step s).2 :: (a.step s).1.answers steps
    else (a.step s).1.answers steps

/-- The same code and labels in other regions. -/
def inRegions (a : Assembler) (inRegion : Bool) (outerRegions : List Bool) : Assembler :=
  { a with inRegion, outerRegions }

end Assembler

/-- The same outcome in other regions. -/
def Outcome.inRegions (o : Outcome) (inRegion : Bool) (outerRegions : List Bool) : Outcome :=
  (o.1.inRegions inRegion outerRegions, o.2)

theorem Outcome.andThen_inRegions (o : Outcome) (next : Assembler → Outcome) (inRegion : Bool)
    (outerRegions : List Bool)
    (hnext : ∀ a : Assembler,
      next (a.inRegions inRegion outerRegions) = (next a).inRegions inRegion outerRegions) :
    (o.inRegions inRegion outerRegions).andThen next =
      (o.andThen next).inRegions inRegion outerRegions := by
  rcases o with ⟨a, _ | f⟩
  · exact hnext a
  · rfl

namespace Assembler

section

variable (a : Assembler) (inRegion : Bool) (outerRegions : List Bool)

theorem emit_inRegions (c : Code) :
    (a.inRegions inRegion outerRegions).emit c = (a.emit c).inRegions inRegion outerRegions := by
  unfold emit
  split
  next room => rw [dif_pos (show c.size ≤ a.buffer.remaining from room)]; rfl
  next full => rw [dif_neg (show ¬ c.size ≤ a.buffer.remaining from full)]; rfl

theorem issue_inRegions (x : Except Fault Code) :
    (a.inRegions inRegion outerRegions).issue x =
      (a.issue x).inRegions inRegion outerRegions := by
  cases x with
  | ok c => exact a.emit_inRegions inRegion outerRegions c
  | error f => rfl

theorem resolve_inRegions (t : Target) (kind : ReferenceKind) :
    (a.inRegions inRegion outerRegions).resolve t kind =
      ((a.resolve t kind).1.inRegions inRegion outerRegions, (a.resolve t kind).2) := by
  cases t with
  | displacement d => rfl
  | label id =>
    simp only [resolve, inRegions, pc]
    split
    · rfl
    · split <;> rfl

theorem place_inRegions (content : Content) :
    (a.inRegions inRegion outerRegions).place content =
      (a.place content).inRegions inRegion outerRegions := by
  cases content with
  | fixed c => exact a.emit_inRegions inRegion outerRegions c
  | reference s id active =>
    simp only [place, resolve_inRegions, issue_inRegions]

theorem placeAll_inRegions (contents : List (Except Fault Content)) :
    (a.inRegions inRegion outerRegions).placeAll contents =
      (a.placeAll contents).inRegions inRegion outerRegions := by
  induction contents generalizing a with
  | nil => rfl
  | cons content contents ih =>
    cases content with
    | error f => rfl
    | ok content =>
      rw [placeAll, placeAll, place_inRegions]
      exact Outcome.andThen_inRegions _ _ _ _ ih

theorem bind_inRegions (id : Nat) :
    (a.inRegions inRegion outerRegions).bind id =
      (a.bind id).inRegions inRegion outerRegions := by
  simp only [bind, inRegions, pc]
  split <;> rfl

/-- Without compact instructions a call does not depend on the region it is made in. -/
theorem call_inRegions (hrvc : a.useRvc = false) (c : Call) :
    (a.inRegions inRegion outerRegions).call c =
      (a.call c).inRegions inRegion outerRegions := by
  have hactive : a.active = false := by rw [active, hrvc, Bool.false_and]
  have hactive' : (a.inRegions inRegion outerRegions).active = false := by
    rw [active, inRegions, hrvc, Bool.false_and]
  rw [call_eq_placeAll, call_eq_placeAll, hactive, hactive', placeAll_inRegions]

end

/-- A call in a region of its own is then the plain call. -/
theorem callWithin_eq_call {a : Assembler} (hrvc : a.useRvc = false) (compressible : Bool)
    (c : Call) : a.callWithin compressible c = a.call c := by
  have hcall := a.call_inRegions compressible (a.inRegion :: a.outerRegions) hrvc c
  obtain ⟨buffer, labels, heq⟩ := a.exists_call_fst_eq c
  have hleave : ((a.call c).1.inRegions compressible (a.inRegion :: a.outerRegions)).leave =
      (a.call c).1 := by
    rw [heq]
    rfl
  change (((a.enter compressible).call c).1.leave, ((a.enter compressible).call c).2) = a.call c
  rw [show a.enter compressible = a.inRegions compressible (a.inRegion :: a.outerRegions) from rfl,
    hcall]
  exact Prod.ext hleave rfl

theorem useRvc_step (a : Assembler) (s : Step) : (a.step s).1.useRvc = a.useRvc := by
  cases s with
  | call c =>
    obtain ⟨buffer, labels, heq⟩ := a.exists_call_fst_eq c
    rw [step, heq]
  | bind id =>
    obtain ⟨buffer, labels, heq⟩ := a.exists_bind_fst_eq id
    rw [step, heq]
  | enter compressible => rfl
  | leave =>
    rw [step, leave]
    split <;> rfl
  | within compressible c =>
    obtain ⟨buffer, labels, heq⟩ := (a.enter compressible).exists_call_fst_eq c
    change (((a.enter compressible).call c).1.leave).useRvc = a.useRvc
    rw [heq]
    rfl

/-- A step without its region has the effect of the step, in whatever regions it is taken. -/
theorem step_withoutRegion {a : Assembler} (hrvc : a.useRvc = false) {s s' : Step}
    (hs : s.withoutRegion? = some s') (inRegion : Bool) (outerRegions : List Bool) :
    (a.inRegions inRegion outerRegions).step s' =
      (a.step s).inRegions inRegion outerRegions := by
  cases s with
  | call c =>
    cases hs
    exact a.call_inRegions inRegion outerRegions hrvc c
  | bind id =>
    cases hs
    exact a.bind_inRegions inRegion outerRegions id
  | enter compressible => cases hs
  | leave => cases hs
  | within compressible c =>
    cases hs
    rw [step, step, callWithin_eq_call hrvc]
    exact a.call_inRegions inRegion outerRegions hrvc c

/-- The steps that only open or close a region leave code and labels as they are. -/
theorem step_of_withoutRegion?_eq_none {a : Assembler} {s : Step} (hs : s.withoutRegion? = none)
    (inRegion : Bool) (outerRegions : List Bool) :
    (a.step s).1.inRegions inRegion outerRegions = a.inRegions inRegion outerRegions := by
  cases s with
  | call c => cases hs
  | bind id => cases hs
  | enter compressible => rfl
  | leave =>
    rw [step, leave]
    split <;> rfl
  | within compressible c => cases hs

theorem run_eraseRegions {a : Assembler} (hrvc : a.useRvc = false) (steps : List Step)
    (inRegion : Bool) (outerRegions : List Bool) :
    (a.inRegions inRegion outerRegions).run (eraseRegions steps) =
        (a.run steps).inRegions inRegion outerRegions ∧
      (a.inRegions inRegion outerRegions).answers (eraseRegions steps) = a.answers steps := by
  induction steps generalizing a with
  | nil => exact ⟨rfl, rfl⟩
  | cons s steps ih =>
    obtain ⟨hrun, hanswers⟩ := ih ((a.useRvc_step s).trans hrvc)
    cases hs : s.withoutRegion? with
    | none =>
      rw [step_of_withoutRegion?_eq_none hs] at hrun hanswers
      rw [eraseRegions, List.filterMap_cons_none hs, run_cons, answers, hs]
      exact ⟨hrun, hanswers⟩
    | some s' =>
      have hkept : s'.withoutRegion?.isSome := by
        cases s <;> cases hs <;> rfl
      have hstep := step_withoutRegion hrvc hs inRegion outerRegions
      rw [eraseRegions, List.filterMap_cons_some hs, run_cons, run_cons, answers, answers, hs, hstep,
        if_pos hkept]
      exact ⟨hrun, congrArg ((a.step s).2 :: ·) hanswers⟩

end Assembler

/-! ## Guards -/

/-- A program whose regions are closed by guards. A fault ends every region on its way to the
program that catches it. -/
inductive Scope
  | done
  | call (c : Call) (rest : Scope)
  | bind (id : Nat) (rest : Scope)
  | region (compressible : Bool) (body rest : Scope)
  | caught (body rest : Scope)

/-- Closes the innermost region, also after a fault. -/
def Outcome.leave (o : Outcome) : Outcome :=
  (o.1.leave, o.2)

/-- The steps that follow unless a fault stopped the operation. -/
def Outcome.stepsAfter (o : Outcome) (next : Assembler → List Step) : List Step :=
  match o with
  | (a, none) => next a
  | (_, some _) => []

theorem Outcome.andThen_fst_eq_run {o : Outcome} {next : Assembler → Outcome}
    {steps : Assembler → List Step} (hnext : ∀ a, (next a).1 = a.run (steps a)) :
    (o.andThen next).1 = o.1.run (o.stepsAfter steps) := by
  rcases o with ⟨a, _ | f⟩
  · exact hnext a
  · rfl

theorem Outcome.openKinds_stepsAfter {o : Outcome} {next : Assembler → List Step}
    {kinds : List Bool} (hnext : ∀ a, openKinds kinds (next a) = some kinds) :
    openKinds kinds (o.stepsAfter next) = some kinds := by
  rcases o with ⟨a, _ | f⟩
  · exact hnext a
  · rfl

namespace Assembler

def exec (a : Assembler) : Scope → Outcome
  | .done => (a, none)
  | .call c rest => (a.call c).andThen fun a => a.exec rest
  | .bind id rest => (a.bind id).andThen fun a => a.exec rest
  | .region compressible body rest =>
    (((a.enter compressible).exec body).leave).andThen fun a => a.exec rest
  | .caught body rest => (a.exec body).1.exec rest

/-- The steps that a program takes, with those of its guards. -/
def trace (a : Assembler) : Scope → List Step
  | .done => []
  | .call c rest => .call c :: (a.call c).stepsAfter fun a => a.trace rest
  | .bind id rest => .bind id :: (a.bind id).stepsAfter fun a => a.trace rest
  | .region compressible body rest =>
    .enter compressible :: (a.enter compressible).trace body ++ .leave ::
      (((a.enter compressible).exec body).leave).stepsAfter fun a => a.trace rest
  | .caught body rest => a.trace body ++ (a.exec body).1.trace rest

theorem exec_eq_run (a : Assembler) (p : Scope) : (a.exec p).1 = a.run (a.trace p) := by
  induction p generalizing a with
  | done => rfl
  | call c rest ih => exact Outcome.andThen_fst_eq_run ih
  | bind id rest ih => exact Outcome.andThen_fst_eq_run ih
  | region compressible body rest ihBody ihRest =>
    rw [exec, trace, List.cons_append, run_cons, run_append, run_cons]
    change _ = (((a.enter compressible).run ((a.enter compressible).trace body)).leave).run _
    rw [← ihBody]
    exact Outcome.andThen_fst_eq_run ihRest
  | caught body rest ihBody ihRest =>
    rw [exec, trace, run_append, ← ihBody]
    exact ihRest _

/-- Guards close the regions they open and no others, whichever calls fail. -/
theorem openKinds_trace (a : Assembler) (p : Scope) (kinds : List Bool) :
    openKinds kinds (a.trace p) = some kinds := by
  induction p generalizing a kinds with
  | done => rfl
  | call c rest ih => exact Outcome.openKinds_stepsAfter fun a => ih a kinds
  | bind id rest ih => exact Outcome.openKinds_stepsAfter fun a => ih a kinds
  | region compressible body rest ihBody ihRest =>
    rw [trace, List.cons_append]
    change openKinds (compressible :: kinds) _ = some kinds
    rw [openKinds_append, ihBody]
    exact Outcome.openKinds_stepsAfter fun a => ihRest a kinds
  | caught body rest ihBody ihRest =>
    rw [trace, openKinds_append, ihBody]
    exact ihRest _ kinds

/-! ## Runs -/

theorem regions_run_ofBuffer (b : CodeBuffer) (useRvc : Bool)
    (hopen : openKinds [] steps = some kinds) :
    ((ofBuffer b useRvc).run steps).useRvc = useRvc ∧
      ((ofBuffer b useRvc).run steps).regions = kinds ++ [false] :=
  regions_run (a := ofBuffer b useRvc) rfl (List.cons_ne_nil false []) hopen

theorem inRegion_of_regions {a : Assembler} (h : a.regions = kinds ++ [false]) :
    a.inRegion = kinds.headD false := by
  cases kinds with
  | nil => exact (List.cons.inj h).1
  | cons kind kinds => exact (List.cons.inj h).1

/-- Along a run whose regions are nested, whichever of its steps fail, the assembler is in a
compressible region exactly when the innermost open region is one, closing a region brings back what
was there before, and so does a fault that leaves any number of regions. Compression is active
according to the target and this flag, and on a target without compact instructions the regions do
not matter. -/
theorem run_respects_nesting (b : CodeBuffer) (useRvc : Bool) {steps : List Step} {n : Nat}
    (hnested : openRegions 0 steps = some n) :
    (∀ before, before <+: steps →
      ∃ kinds, openKinds [] before = some kinds ∧
        ((ofBuffer b useRvc).run before).useRvc = useRvc ∧
        ((ofBuffer b useRvc).run before).inRegion = kinds.headD false ∧
        ((ofBuffer b useRvc).run before).active = (useRvc && kinds.headD false)) ∧
      (∀ before compressible body, before ++ .enter compressible :: body ++ [.leave] <+: steps →
        openRegions 0 body = some 0 →
          ((ofBuffer b useRvc).run (before ++ .enter compressible :: body ++ [.leave])).inRegion =
            ((ofBuffer b useRvc).run before).inRegion) ∧
      (∀ before, before <+: steps → ∀ p : Scope,
        (((ofBuffer b useRvc).run before).exec p).1.inRegion =
          ((ofBuffer b useRvc).run before).inRegion) ∧
      (useRvc = false → ∀ before, before <+: steps →
        ((ofBuffer b useRvc).run (eraseRegions before)).buffer =
            ((ofBuffer b useRvc).run before).buffer ∧
          ((ofBuffer b useRvc).run (eraseRegions before)).labels =
            ((ofBuffer b useRvc).run before).labels ∧
          (ofBuffer b useRvc).answers (eraseRegions before) =
            (ofBuffer b useRvc).answers before) := by
  have hflag : ∀ {before kinds}, openKinds [] before = some kinds →
      ((ofBuffer b useRvc).run before).inRegion = kinds.headD false :=
    fun hkinds => inRegion_of_regions (regions_run_ofBuffer b useRvc hkinds).2
  refine ⟨?_, ?_, ?_, ?_⟩
  · intro before hbefore
    obtain ⟨kinds, hkinds⟩ := exists_openKinds_of_initial hnested hbefore
    obtain ⟨hrvc, -⟩ := regions_run_ofBuffer b useRvc hkinds
    refine ⟨kinds, hkinds, hrvc, hflag hkinds, ?_⟩
    rw [active, hrvc, hflag hkinds]
  · intro before compressible body hbefore hbody
    have hinitial : before <+: before ++ .enter compressible :: body ++ [.leave] := by
      rw [List.append_assoc]
      exact List.prefix_append _ _
    obtain ⟨kinds, hkinds⟩ := exists_openKinds_of_initial hnested (hinitial.trans hbefore)
    rw [hflag hkinds, hflag (openKinds_region compressible hkinds hbody)]
  · intro before hbefore p
    obtain ⟨kinds, hkinds⟩ := exists_openKinds_of_initial hnested hbefore
    have hafter : openKinds [] (before ++ ((ofBuffer b useRvc).run before).trace p) = some kinds := by
      rw [openKinds_append, hkinds]
      exact openKinds_trace _ p kinds
    rw [exec_eq_run, ← run_append, hflag hafter, hflag hkinds]
  · rintro rfl before -
    obtain ⟨hrun, hanswers⟩ := run_eraseRegions (a := ofBuffer b false) rfl before false []
    have hbuffer := congrArg Assembler.buffer hrun
    have hlabels := congrArg Assembler.labels hrun
    exact ⟨hbuffer, hlabels, hanswers⟩

/-- A call that fails inside two regions, which its fault leaves. -/
def refusedInside : List Step :=
  [.enter true, .call .nop, .enter false, .call (.compact (.lui .sp 0x1000#32)), .leave, .leave,
    .call .nop]

theorem run_refusedInside_respects_nesting :
    openRegions 0 refusedInside = some 0 ∧
      ((ofBuffer (.empty 64) true).run (refusedInside.take 5)).active = true ∧
        ((ofBuffer (.empty 64) true).run refusedInside).active = false ∧
          ((ofBuffer (.empty 64) false).run (eraseRegions refusedInside)).buffer =
            ((ofBuffer (.empty 64) false).run refusedInside).buffer := by
  have hnested : openRegions 0 refusedInside = some 0 := by decide
  obtain ⟨hflags, -⟩ := run_respects_nesting (.empty 64) true hnested
  obtain ⟨_, houter, -, -, hafterOne⟩ := hflags _ (List.take_prefix 5 refusedInside)
  obtain ⟨_, hnone, -, -, hafterAll⟩ := hflags _ List.prefix_rfl
  obtain rfl : [true] = _ := Option.some.inj houter
  obtain rfl : [] = _ := Option.some.inj hnone
  obtain ⟨-, -, -, herased⟩ := run_respects_nesting (.empty 64) false hnested
  exact ⟨hnested, hafterOne, hafterAll, (herased rfl _ List.prefix_rfl).1⟩

end Assembler

end RiscvAssembler
