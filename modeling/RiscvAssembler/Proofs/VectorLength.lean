import RiscvAssembler.Features
import RiscvAssembler.Proofs.Field

/-!
# Folding a vector length in twice

A probed length is folded into the flags as if the size they hold had been asked for, also when that
size is a length folded in before. `Features.Wants` are the flags that take a length, and
`applyVectorLength_cases` says all that one application can do. A length that is zero or a power of
two is stable, so that vector code stays on only at a size it is made for and a second application
changes nothing, exactly when it is zero, not taken, or at least `minVectorSize`. A shorter length
is taken by the first application, and the second one switches vectors off.
-/

namespace RiscvAssembler.Features

/-- Vectors are switched on, and the size asked for, if there is one, can be served. -/
def Wants (f : Features) : Prop :=
  f.useRvv = true ∧ ∀ size, f.maxVectorSize = some size → minVectorSize ≤ size ∧ size.isPowerOfTwo

/-- The size asked for is large enough and refused, not being a power of two. -/
def AsksUnsupported (f : Features) (size : Nat) : Prop :=
  f.useRvv = true ∧ f.maxVectorSize = some size ∧ minVectorSize ≤ size ∧ ¬ size.isPowerOfTwo

def take (f : Features) (length : Nat) : Features :=
  { f with maxVectorSize := some length }

/-- Vector code stays on only at a size that it is made for, and the same length folded in once more
changes nothing. -/
def StableAt (f : Features) (length : Nat) : Prop :=
  ∀ g, f.applyVectorLength length = (g, none) →
    (g.useRvv = true → ∃ size, g.maxVectorSize = some size ∧ minVectorSize ≤ size) ∧
      g.applyVectorLength length = (g, none)

/-! ## One application -/

theorem applyVectorLength_of_wants {f : Features} (hf : f.Wants) {length : Nat} (h : length ≠ 0) :
    f.applyVectorLength length = (f.take length, none) := by
  obtain ⟨hrvv, hsize⟩ := hf
  cases hmax : f.maxVectorSize with
  | none => simp [applyVectorLength, hrvv, h, hmax, take]
  | some size =>
    obtain ⟨hle, hpow⟩ := hsize size hmax
    rw [← one_shiftLeft_log2_eq_iff] at hpow
    simp [applyVectorLength, hrvv, h, hmax, Nat.not_lt.mpr hle, hpow, take]

theorem applyVectorLength_of_asksUnsupported {f : Features} {size : Nat}
    (hf : f.AsksUnsupported size) {length : Nat} (h : length ≠ 0) :
    f.applyVectorLength length = (f, some (.unsupportedMaxVectorSize size)) := by
  obtain ⟨hrvv, hmax, hle, hpow⟩ := hf
  rw [← one_shiftLeft_log2_eq_iff] at hpow
  simp [applyVectorLength, hrvv, h, hmax, Nat.not_lt.mpr hle, hpow]

/-- What one application does: it takes the length, switches vectors off, or refuses the size asked
for and leaves the flags alone. -/
theorem applyVectorLength_cases (f : Features) (length : Nat) :
    (f.Wants ∧ length ≠ 0 ∧ f.applyVectorLength length = (f.take length, none)) ∨
      ((f.Wants → length = 0) ∧ f.applyVectorLength length = (f.withoutVectors, none)) ∨
      ∃ size, f.AsksUnsupported size ∧ length ≠ 0 ∧
        f.applyVectorLength length = (f, some (.unsupportedMaxVectorSize size)) := by
  by_cases hoff : f.useRvv = false ∨ length = 0
  · have hwants : f.Wants → length = 0 := fun hf => hoff.resolve_left (by simp [hf.1])
    exact .inr (.inl ⟨hwants, by simp [applyVectorLength, hoff]⟩)
  obtain ⟨hrvv, hlength⟩ : f.useRvv = true ∧ length ≠ 0 := by simpa using hoff
  by_cases hf : f.Wants
  · exact .inl ⟨hf, hlength, applyVectorLength_of_wants hf hlength⟩
  obtain ⟨size, hmax, hsize⟩ : ∃ size, f.maxVectorSize = some size ∧
      (minVectorSize ≤ size → ¬ size.isPowerOfTwo) := by
    simpa [Wants, hrvv] using hf
  by_cases hle : minVectorSize ≤ size
  · have hasks : f.AsksUnsupported size := ⟨hrvv, hmax, hle, hsize hle⟩
    exact .inr (.inr ⟨size, hasks, hlength, applyVectorLength_of_asksUnsupported hasks hlength⟩)
  · refine .inr (.inl ⟨fun h => absurd h hf, ?_⟩)
    simp [applyVectorLength, hrvv, hlength, hmax, Nat.not_le.mp hle]

theorem applyVectorLength_withoutVectors (f : Features) (length : Nat) :
    f.withoutVectors.applyVectorLength length = (f.withoutVectors, none) := by
  simp [applyVectorLength, withoutVectors]

theorem wants_take_iff {f : Features} (hrvv : f.useRvv = true) {length : Nat}
    (hpow : length.isPowerOfTwo) :
    (f.take length).Wants ↔ minVectorSize ≤ length := by
  simp [Wants, take, hrvv, hpow]

/-! ## The same length again -/

/-- A taken length that is long enough stays as it is. -/
theorem applyVectorLength_take_of_le {f : Features} (hrvv : f.useRvv = true) {length : Nat}
    (hpow : length.isPowerOfTwo) (hle : minVectorSize ≤ length) :
    (f.take length).applyVectorLength length = (f.take length, none) :=
  applyVectorLength_of_wants ((wants_take_iff hrvv hpow).mpr hle) (by grind [minVectorSize])

/-- A taken length that is too short switches vectors off when it comes again. -/
theorem applyVectorLength_take_of_lt (f : Features) {length : Nat} (hlt : length < minVectorSize) :
    (f.take length).applyVectorLength length = (f.withoutVectors, none) := by
  obtain ⟨hwants, -, -⟩ | ⟨-, heq⟩ | ⟨size, ⟨-, hmax, hle, -⟩, -⟩ :=
    applyVectorLength_cases (f.take length) length
  · have hle := (hwants.2 length rfl).1
    omega
  · exact heq
  · obtain rfl : length = size := by simpa [take] using hmax
    omega

/-- Whatever the first application made of the flags, the second one settles them. -/
theorem applyVectorLength_settles {f g : Features} {length : Nat}
    (hlength : length = 0 ∨ length.isPowerOfTwo) (hfirst : f.applyVectorLength length = (g, none)) :
    ∃ settled, g.applyVectorLength length = (settled, none) ∧
      settled.applyVectorLength length = (settled, none) := by
  obtain ⟨hwants, hne, heq⟩ | ⟨-, heq⟩ | ⟨size, -, -, heq⟩ := applyVectorLength_cases f length
  · obtain rfl : f.take length = g := congrArg Prod.fst (heq.symm.trans hfirst)
    by_cases hle : minVectorSize ≤ length
    · have hagain := applyVectorLength_take_of_le hwants.1 (hlength.resolve_left hne) hle
      exact ⟨_, hagain, hagain⟩
    · exact ⟨_, applyVectorLength_take_of_lt f (Nat.not_le.mp hle),
        applyVectorLength_withoutVectors f length⟩
  · obtain rfl : f.withoutVectors = g := congrArg Prod.fst (heq.symm.trans hfirst)
    exact ⟨_, applyVectorLength_withoutVectors f length, applyVectorLength_withoutVectors f length⟩
  · exact absurd (heq.symm.trans hfirst) (by simp)

/-- A length is stable unless vectors are wanted and the length is one that vector code is not made
for. -/
theorem stableAt_iff (f : Features) {length : Nat} (hlength : length = 0 ∨ length.isPowerOfTwo) :
    f.StableAt length ↔ (f.Wants → length = 0 ∨ minVectorSize ≤ length) := by
  obtain ⟨hwants, hne, heq⟩ | ⟨hwants, heq⟩ | ⟨size, hasks, -, heq⟩ :=
    applyVectorLength_cases f length
  · have hpow := hlength.resolve_left hne
    have hstable : f.StableAt length ↔ minVectorSize ≤ length := by
      constructor
      · intro h
        obtain ⟨size, hmax, hle⟩ := (h _ heq).1 hwants.1
        obtain rfl : length = size := by simpa [take] using hmax
        exact hle
      · intro hle g hg
        obtain rfl : f.take length = g := congrArg Prod.fst (heq.symm.trans hg)
        exact ⟨fun _ => ⟨length, rfl, hle⟩, applyVectorLength_take_of_le hwants.1 hpow hle⟩
    simp [hstable, hwants, hne]
  · have hstable : f.StableAt length := by
      intro g hg
      obtain rfl : f.withoutVectors = g := congrArg Prod.fst (heq.symm.trans hg)
      exact ⟨by simp [withoutVectors], applyVectorLength_withoutVectors f length⟩
    exact iff_of_true hstable fun h => .inl (hwants h)
  · have hstable : f.StableAt length := fun g hg => absurd (heq.symm.trans hg) (by simp)
    have hrefused : ¬ f.Wants := fun h => hasks.2.2.2 (h.2 size hasks.2.1).2
    exact iff_of_true hstable fun h => absurd h hrefused

/-- The default flags are stable at the length of every machine that vector code is made for. -/
theorem default_stableAt_minVectorSize :
    (minVectorSize = 0 ∨ minVectorSize.isPowerOfTwo) ∧ default.StableAt minVectorSize :=
  have hpow : minVectorSize.isPowerOfTwo := ⟨4, rfl⟩
  ⟨.inr hpow, (stableAt_iff default (.inr hpow)).mpr fun _ => .inr le_rfl⟩

/-- The default flags take a length of eight bytes and lose it when it comes again. -/
theorem exists_not_stableAt :
    ∃ length : Nat, length.isPowerOfTwo ∧ ¬ default.StableAt length := by
  refine ⟨8, ⟨3, rfl⟩, fun h => ?_⟩
  obtain ⟨size, hmax, hle⟩ := (h ⟨true, true, some 8⟩ (by decide)).1 rfl
  obtain rfl : 8 = size := by simpa using hmax
  exact absurd hle (by decide)

end RiscvAssembler.Features
