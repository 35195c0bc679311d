import RiscvAssembler.Proofs.Probing
import RiscvAssembler.Proofs.VectorLength

/-!
# Probing as a transaction

A probe runs the stub once if vector instructions are on and not at all otherwise. When it fails the
flags are what they were, and it fails only with the error of the executor or because the size asked
for cannot be served. When it succeeds vector instructions are off, or they were on and the flags
hold the length that the executor found.
-/

namespace RiscvAssembler

/-- The executor, keeping a record of the stubs that it runs. -/
def Executor.recorded (execute : Executor) (stub : ProbeStub) :
    StateM (List ProbeStub) (Except ProbeError (BitVec 32)) := do
  modify (· ++ [stub])
  return execute stub

namespace Features

/-! ## Executors with effects -/

/-- Probes by an executor that has effects of its own. -/
def probeIn {m : Type → Type} [Monad m] (f : Features)
    (execute : ProbeStub → m (Except ProbeError (BitVec 32))) :
    m (Features × Except ProbeError ProbeResult) := do
  if f.useRvv then
    match ← execute .generate with
    | .ok vlenb => return f.fold vlenb (some ProbeStub.generate.points)
    | .error e => return (f, .error e)
  else
    return f.fold 0#32 none

section

variable {m : Type → Type} [Monad m] {f : Features}

theorem probeIn_of_useRvv (hrvv : f.useRvv = true)
    (execute : ProbeStub → m (Except ProbeError (BitVec 32))) :
    f.probeIn execute = execute .generate >>= fun answer => pure (f.probe fun _ => answer) := by
  rw [probeIn, if_pos hrvv]
  refine congrArg (execute .generate >>= ·) (funext fun answer => ?_)
  rw [probe, if_pos hrvv]
  cases answer <;> rfl

theorem probeIn_of_not_useRvv (hrvv : ¬ f.useRvv = true)
    (execute : ProbeStub → m (Except ProbeError (BitVec 32))) (unused : Executor) :
    f.probeIn execute = pure (f.probe unused) := by
  rw [probeIn, if_neg hrvv, probe, if_neg hrvv]

end

/-- Without effects it is the same probe. -/
theorem probeIn_id (f : Features) (execute : Executor) :
    f.probeIn (m := Id) execute = f.probe execute := by
  by_cases hrvv : f.useRvv = true
  · rw [probeIn_of_useRvv hrvv]
    rfl
  · exact probeIn_of_not_useRvv hrvv _ execute

/-- The record shows the generated stub if vector instructions are on, and nothing otherwise. -/
theorem probeIn_recorded (f : Features) (execute : Executor) (runs : List ProbeStub) :
    (f.probeIn execute.recorded).run runs =
      (f.probe execute, if f.useRvv then runs ++ [.generate] else runs) := by
  by_cases hrvv : f.useRvv = true
  · rw [probeIn_of_useRvv hrvv, if_pos hrvv]
    rfl
  · rw [probeIn_of_not_useRvv hrvv _ execute, if_neg hrvv]
    rfl

/-! ## Outcomes -/

/-- What can come of a probe: the flags and the answer. -/
inductive Probes (f : Features) (execute : Executor) :
    Features → Except ProbeError ProbeResult → Prop
  | skipped : f.useRvv = false → Probes f execute f.withoutVectors (.ok ⟨0#32, none⟩)
  | failed {e : ProbeError} : f.useRvv = true → execute .generate = .error e →
      Probes f execute f (.error e)
  | switchedOff {vlenb : BitVec 32} : f.useRvv = true → execute .generate = .ok vlenb →
      Probes f execute f.withoutVectors (.ok ⟨vlenb, some ProbeStub.generate.points⟩)
  | taken {vlenb : BitVec 32} : f.useRvv = true → execute .generate = .ok vlenb →
      vlenb ≠ 0#32 →
        Probes f execute (f.take vlenb.toNat) (.ok ⟨vlenb, some ProbeStub.generate.points⟩)
  | refused {vlenb : BitVec 32} {size : Nat} : execute .generate = .ok vlenb → vlenb ≠ 0#32 →
      f.AsksUnsupported size →
        Probes f execute f (.error (.feature (.unsupportedMaxVectorSize size)))

theorem toNat_ne_zero_iff {vlenb : BitVec 32} : vlenb.toNat ≠ 0 ↔ vlenb ≠ 0#32 :=
  not_congr (BitVec.toNat_inj (y := 0#32))

theorem probes_probe (f : Features) (execute : Executor) :
    Probes f execute (f.probe execute).1 (f.probe execute).2 := by
  by_cases hrvv : f.useRvv = true
  · cases hanswer : execute .generate with
    | error e =>
      rw [probe, if_pos hrvv, hanswer]
      exact .failed hrvv hanswer
    | ok vlenb =>
      rw [probe, if_pos hrvv, hanswer]
      obtain ⟨-, hne, heq⟩ | ⟨-, heq⟩ | ⟨size, hasks, hne, heq⟩ :=
        applyVectorLength_cases f vlenb.toNat
      · simp only [fold, heq]
        exact .taken hrvv hanswer (toNat_ne_zero_iff.1 hne)
      · simp only [fold, heq]
        exact .switchedOff hrvv hanswer
      · simp only [fold, heq]
        exact .refused hanswer (toNat_ne_zero_iff.1 hne) hasks
  · rw [probe, if_neg hrvv, fold_zero]
    exact .skipped (Bool.eq_false_iff.2 hrvv)

/-- A size that cannot be served is refused whenever there is a vector unit. -/
theorem AsksUnsupported.probe_eq {f : Features} {size : Nat} (hf : f.AsksUnsupported size)
    {execute : Executor} {vlenb : BitVec 32} (hanswer : execute .generate = .ok vlenb)
    (hne : vlenb ≠ 0#32) :
    f.probe execute = (f, .error (.feature (.unsupportedMaxVectorSize size))) := by
  simp only [probe, if_pos hf.1, hanswer, fold,
    applyVectorLength_of_asksUnsupported hf (toNat_ne_zero_iff.2 hne)]

namespace Probes

variable {f g : Features} {execute : Executor}

theorem eq_of_error {e : ProbeError} (h : Probes f execute g (.error e)) : g = f := by
  cases h with
  | failed | refused => rfl

theorem cause_of_error {e : ProbeError} (h : Probes f execute g (.error e)) :
    (f.useRvv = true ∧ execute .generate = .error e) ∨
      ∃ vlenb size, execute .generate = .ok vlenb ∧ vlenb ≠ 0#32 ∧ f.AsksUnsupported size ∧
        e = .feature (.unsupportedMaxVectorSize size) := by
  cases h with
  | failed hrvv hanswer => exact .inl ⟨hrvv, hanswer⟩
  | refused hanswer hne hasks => exact .inr ⟨_, _, hanswer, hne, hasks, rfl⟩

theorem settled_of_ok {result : ProbeResult} (h : Probes f execute g (.ok result)) :
    g.useRvc = f.useRvc ∧ (g.useRvv = true → f.useRvv = true) ∧
      ((g.useRvv = false ∧ g.maxVectorSize = some 0) ∨
        (g.useRvv = true ∧ ∃ vlenb, execute .generate = .ok vlenb ∧ vlenb ≠ 0#32 ∧
          g.maxVectorSize = some vlenb.toNat)) := by
  cases h with
  | skipped hrvv => exact ⟨rfl, nofun, .inl ⟨rfl, rfl⟩⟩
  | switchedOff hrvv hanswer => exact ⟨rfl, nofun, .inl ⟨rfl, rfl⟩⟩
  | taken hrvv hanswer hne => exact ⟨rfl, fun _ => hrvv, .inr ⟨hrvv, _, hanswer, hne, rfl⟩⟩

end Probes

/-! ## The transaction -/

/-- What is promised of a probe that leaves the flags `g` and answers `r`. -/
structure Transacts (f : Features) (execute : Executor) (g : Features)
    (r : Except ProbeError ProbeResult) : Prop where
  runs : (f.probeIn execute.recorded).run [] =
    ((g, r), if f.useRvv then [ProbeStub.generate] else [])
  unchanged : ∀ e, r = .error e → g = f
  fails_iff : ∀ e, r = .error e ↔
    (f.useRvv = true ∧ execute .generate = .error e) ∨
      ∃ vlenb size, execute .generate = .ok vlenb ∧ vlenb ≠ 0#32 ∧ f.AsksUnsupported size ∧
        e = .feature (.unsupportedMaxVectorSize size)
  settled : ∀ result, r = .ok result →
    g.useRvc = f.useRvc ∧ (g.useRvv = true → f.useRvv = true) ∧
      ((g.useRvv = false ∧ g.maxVectorSize = some 0) ∨
        (g.useRvv = true ∧ ∃ vlenb, execute .generate = .ok vlenb ∧ vlenb ≠ 0#32 ∧
          g.maxVectorSize = some vlenb.toNat))

end Features

end RiscvAssembler
