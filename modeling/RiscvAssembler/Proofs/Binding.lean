import Mathlib.Data.List.TakeWhile
import RiscvAssembler.Proofs.Backpatching
import RiscvAssembler.Proofs.Distance
import RiscvAssembler.Proofs.Placement

/-!
# Binding a label with references

Binding resolves the references of the label in the order in which they were made and stops at the
first that is out of reach. Those before it keep their new displacements and the label stays bound.
Nothing else changes, down to the single bits of the code.
-/

namespace RiscvAssembler

/-- Some code at the reference lies before `target` and can carry the distance. -/
def Reference.InReach (r : Reference) (target : Nat) : Prop :=
  r.offset + r.kind.length ≤ target ∧
    Immediate.IsSigned r.kind.offsetBits 1 ((target : Int) - r.offset)

instance (r : Reference) (target : Nat) : Decidable (r.InReach target) :=
  inferInstanceAs (Decidable (_ ∧ _))

/-- Bit `i` of the code belongs to the displacement at the reference. -/
def Reference.Carries (r : Reference) (i : Nat) : Prop :=
  ∃ f ∈ r.kind.fields 0#32, 8 * r.offset + f.lsb ≤ i ∧ i ≤ 8 * r.offset + f.msb

/-! ## Bits -/

def Code.bit : Code → Nat → Bool
  | half w, i => w.getLsbD i
  | word w, i => w.getLsbD i

theorem Code.getElem?_bytes {c : Code} {i : Nat} (h : i < c.size) :
    ∃ x, c.bytes[i]? = some x ∧ ∀ j < 8, x.toBitVec.getLsbD j = c.bit (8 * i + j) := by
  have hbyte : ∀ {n : Nat} (w : BitVec n) (i j : Nat), j < 8 →
      (byteAt w i).toBitVec.getLsbD j = w.getLsbD (8 * i + j) := by
    intro n w i j hj
    change (w.extractLsb' (8 * i) 8).getLsbD j = _
    rw [BitVec.getLsbD_extractLsb', decide_eq_true hj, Bool.true_and]
  cases c with
  | half w =>
    have hi : i = 0 ∨ i = 1 := by
      change i < 2 at h
      omega
    rcases hi with rfl | rfl <;> exact ⟨_, rfl, hbyte w _⟩
  | word w =>
    have hi : i = 0 ∨ i = 1 ∨ i = 2 ∨ i = 3 := by
      change i < 4 at h
      omega
    rcases hi with rfl | rfl | rfl | rfl <;> exact ⟨_, rfl, hbyte w _⟩

/-- Redirecting changes no bit outside the fields of the displacement. -/
theorem Code.bit_redirect_of_outside {k : ReferenceKind} {c : Code} (hc : c.size = k.length)
    (d : BitVec 32) {i : Nat} (hi : i < 8 * c.size)
    (hout : ∀ f ∈ k.fields 0#32, i < f.lsb ∨ f.msb < i) : (c.redirect k d).bit i = c.bit i := by
  have hfits := hc ▸ k.fields_fit d
  have hout' := k.outside_fields_congr 0#32 d hout
  cases c with
  | half w => exact getLsbD_writeAll_of_forall_outside (show 16 ≤ 32 by decide) hfits hi hout' w
  | word w => exact getLsbD_writeAll_of_forall_outside (show 32 ≤ 32 by decide) hfits hi hout' w

namespace CodeBuffer

variable {b b' : CodeBuffer} {p : Nat} {c : Code} {r : Reference} {target : Nat}
  {refs : List Reference}

/-- Bit `i` of the code, counted from the least significant bit of the first byte. -/
def bit (b : CodeBuffer) (i : Nat) : Bool :=
  (b.toList.getD (i / 8) 0).toBitVec.getLsbD (i % 8)

theorem Holds.bit (h : b.Holds p c) {i : Nat} (hi : i < 8 * c.size) :
    b.bit (8 * p + i) = c.bit i := by
  obtain ⟨x, hx, hbits⟩ := Code.getElem?_bytes (show i / 8 < c.size by omega)
  have hget : b.toList[p + i / 8]? = some x := by
    rw [(holds_iff_getElem?.1 h).2 _ (by omega), hx]
  have hbyte : (8 * p + i) / 8 = p + i / 8 := by omega
  have hbit : (8 * p + i) % 8 = i % 8 := by omega
  rw [CodeBuffer.bit, hbyte, hbit, List.getD_eq_getElem?_getD, hget, Option.getD_some,
    hbits _ (Nat.mod_lt _ (by decide)), Nat.div_add_mod]

theorem bit_overwrite_of_outside (hle : p + c.size ≤ b.offset) {i : Nat}
    (hi : i < 8 * p ∨ 8 * (p + c.size) ≤ i) : (b.overwrite p c).bit i = b.bit i := by
  rw [bit, bit, List.getD_eq_getElem?_getD, List.getD_eq_getElem?_getD,
    getElem?_toList_overwrite_of_outside hle (by omega)]

/-- Writing the redirected code back changes only bits of the displacement. -/
theorem Holds.bit_overwrite_redirect (h : b.Holds r.offset c) (hc : c.size = r.kind.length)
    (d : BitVec 32) {i : Nat} (hi : ¬ r.Carries i) :
    (b.overwrite r.offset (c.redirect r.kind d)).bit i = b.bit i := by
  have hsize := Code.size_redirect r.kind d c
  have hle := h.le_offset
  by_cases hout : i < 8 * r.offset ∨ 8 * (r.offset + c.size) ≤ i
  · exact bit_overwrite_of_outside (hsize.symm ▸ hle) (hsize.symm ▸ hout)
  · obtain ⟨j, rfl⟩ : ∃ j, i = 8 * r.offset + j := ⟨i - 8 * r.offset, by omega⟩
    have hj : j < 8 * c.size := by omega
    have hfields : ∀ f ∈ r.kind.fields 0#32, j < f.lsb ∨ f.msb < j := by
      intro f hf
      by_contra hin
      exact hi ⟨f, hf, by omega, by omega⟩
    rw [(h.overwrite hsize).bit (hsize.symm ▸ hj), h.bit hj,
      Code.bit_redirect_of_outside hc d hj hfields]

/-! ## Resolving one reference after the other -/

theorem exists_distance_fits_iff {k : ReferenceKind} {source target : Nat}
    (hsource : source < 2 ^ 63) (htarget : target < 2 ^ 63) :
    (∃ d, distance source target = .ok d ∧ k.fits d) ↔
      Immediate.IsSigned k.offsetBits 1 ((target : Int) - source) := by
  simp only [distance_eq_ok_iff hsource htarget, exists_eq_left, k.fits_iff, BitVec.toInt_ofInt]
  rw [Int.bmod_eq_of_le (by omega) (by omega)]

theorem exists_resolved_iff_inReach (hsize : b.offset < 2 ^ 63) :
    (∃ c, b.resolved r b.offset = .ok c) ↔ r.InReach b.offset := by
  rw [exists_resolved_iff (by omega), Reference.InReach]
  exact and_congr_right fun hle => exists_distance_fits_iff (by omega) hsize

/-- The buffer `b'` is `b` with the references `done` resolved and everything else kept. -/
structure Redirects (b b' : CodeBuffer) (target : Nat) (done : List Reference) : Prop where
  capacity : b'.capacity = b.capacity
  offset : b'.offset = b.offset
  /-- No bit changes outside the displacements. -/
  kept : ∀ i, (∀ r ∈ done, ¬ r.Carries i) → b'.bit i = b.bit i
  /-- Code apart from the resolved references stays. -/
  holds : ∀ p c, b.Holds p c →
    (∀ r ∈ done, r.offset + r.kind.length ≤ p ∨ p + c.size ≤ r.offset) → b'.Holds p c
  /-- A reference that shares no byte with another one reaches the target. -/
  reaches : ∀ r ∈ done, (∀ t ∈ done, t = r ∨ t.Apart r) → b'.Reaches r target

namespace Redirects

theorem nil (b : CodeBuffer) (target : Nat) : b.Redirects b target [] where
  capacity := rfl
  offset := rfl
  kept _ _ := rfl
  holds _ _ h _ := h
  reaches _ h := nomatch h

theorem cons {done : List Reference} {c' : Code} (hsize : b.offset < 2 ^ 63)
    (htarget : target < 2 ^ 63) (hresolved : b.resolved r target = .ok c')
    (h : (b.overwrite r.offset c').Redirects b' target done) :
    b.Redirects b' target (r :: done) := by
  obtain ⟨d, c, hd, hfits, hholds, hc, rfl⟩ := (resolved_eq_ok_iff_holds (by omega)).1 hresolved
  have hsame := Code.size_redirect r.kind (d.setWidth 32) c
  have hle := hholds.le_offset
  refine ⟨h.capacity, h.offset.trans (b.offset_overwrite _ _), ?kept, ?holds, ?reaches⟩
  case kept =>
    intro i hi
    rw [List.forall_mem_cons] at hi
    rw [h.kept i hi.2, hholds.bit_overwrite_redirect hc _ hi.1]
  case holds =>
    intro p e he hapart
    rw [List.forall_mem_cons, ← hc, ← hsame] at hapart
    exact h.holds p e (he.overwrite_of_apart (hsame.symm ▸ hle) hapart.1) hapart.2
  case reaches =>
    intro t ht hapart
    rw [List.forall_mem_cons] at hapart
    by_cases hmem : t ∈ done
    · exact h.reaches t hmem hapart.2
    -- The reference just resolved is not resolved again, so the others leave it alone.
    · obtain rfl : t = r := (List.mem_cons.1 ht).resolve_right hmem
      have hsigned := (exists_distance_fits_iff (by omega) htarget).1 ⟨d, hd, hfits⟩
      have hstays : b'.Holds t.offset (c.redirect t.kind (d.setWidth 32)) := by
        refine h.holds _ _ (hholds.overwrite hsame) ?_
        intro u hu
        rcases hapart.2 u hu with rfl | hut
        · exact absurd hu hmem
        · rw [hsame, hc]
          exact hut
      refine ⟨_, hstays.displacementAt ?_ (hsame.trans hc), ?_⟩
      · rw [h.offset, offset_overwrite]
        omega
      · rw [Code.displacement_redirect hc (t.kind.fits_signExtend_setWidth hfits),
          setWidth_of_distance_eq_ok hd, (toInt_of_isSigned hd hsigned).2]

end Redirects

/-- The references before the first that is out of reach are resolved, in their order. -/
theorem resolveAll_redirects (hsize : b.offset < 2 ^ 63) (refs : List Reference) :
    b.Redirects (b.resolveAll b.offset refs).1 b.offset
        (refs.takeWhile (·.InReach b.offset)) ∧
      ((b.resolveAll b.offset refs).2 = none ↔ ∀ r ∈ refs, r.InReach b.offset) := by
  generalize htarget : b.offset = target at *
  induction refs generalizing b with
  | nil => exact ⟨.nil b target, iff_of_true rfl (List.forall_mem_nil _)⟩
  | cons r refs ih =>
    have hiff : (∃ c, b.resolved r target = .ok c) ↔ r.InReach target := by
      subst htarget
      exact exists_resolved_iff_inReach hsize
    rw [List.forall_mem_cons]
    cases hres : b.resolved r target with
    | error f =>
      have hfar : ¬ r.InReach target := by
        rw [← hiff, hres]
        rintro ⟨c, hc⟩
        cases hc
      rw [resolveAll, hres, List.takeWhile_cons_of_neg (by simpa using hfar)]
      exact ⟨.nil b target, iff_of_false (Option.some_ne_none f) fun h => hfar h.1⟩
    | ok c =>
      have hnear : r.InReach target := hiff.1 ⟨c, hres⟩
      obtain ⟨hredirects, hnone⟩ := ih ((b.offset_overwrite r.offset c).trans htarget)
      rw [resolveAll, hres, List.takeWhile_cons_of_pos (by simpa using hnear)]
      exact ⟨.cons (htarget ▸ hsize) hsize hres hredirects,
        hnone.trans (and_iff_right hnear).symm⟩

end CodeBuffer

/-! ## Binding -/

namespace Assembler

/-- The state `a'` is `a` with the label `id` bound here and the references `done` resolved. -/
structure Binds (a a' : Assembler) (id : Nat) (done : List Reference) : Prop where
  useRvc : a'.useRvc = a.useRvc
  inRegion : a'.inRegion = a.inRegion
  outerRegions : a'.outerRegions = a.outerRegions
  label : a'.labels.get id = ⟨id, .bound a.pc⟩
  others : ∀ n, n ≠ id → a'.labels.get n = a.labels.get n
  redirects : a.buffer.Redirects a'.buffer a.pc done

section

variable {a : Assembler} {id : Nat} (hpc : a.pc < 2 ^ 63)
  (hid : (a.labels.get id).offset? = none)

include hpc hid

theorem bind_binds :
    a.Binds (a.bind id).1 id ((a.labels.get id).references.takeWhile (·.InReach a.pc)) := by
  rw [bind_eq_of_unbound hid]
  refine ⟨rfl, rfl, rfl, ?label, ?others, ?redirects⟩
  case label => exact LabelTable.get_insert_self _ _
  case others =>
    intro n hn
    exact LabelTable.get_insert_of_ne _ hn
  case redirects => exact (CodeBuffer.resolveAll_redirects hpc (a.labels.get id).references).1

theorem bind_fault_eq_none_iff :
    (a.bind id).2 = none ↔ ∀ r ∈ (a.labels.get id).references, r.InReach a.pc := by
  rw [bind_eq_of_unbound hid]
  exact (CodeBuffer.resolveAll_redirects hpc (a.labels.get id).references).2

theorem bind_reaches (hnone : (a.bind id).2 = none)
    (hapart : (a.labels.get id).references.Pairwise Reference.Apart) :
    ∀ r ∈ (a.labels.get id).references, (a.bind id).1.buffer.Reaches r a.pc := by
  intro r hr
  have hall : (a.labels.get id).references.takeWhile (·.InReach a.pc) =
      (a.labels.get id).references := by
    rw [List.takeWhile_eq_self_iff]
    intro t ht
    exact decide_eq_true ((bind_fault_eq_none_iff hpc hid).1 hnone t ht)
  have hbinds := bind_binds hpc hid
  rw [hall] at hbinds
  apply hbinds.redirects.reaches r hr
  intro t ht
  by_cases htr : t = r
  · exact .inl htr
  · exact .inr (hapart.forall ht hr htr)

/-- Binding resolves the references before the first that is out of reach and binds the label in any
case. It succeeds exactly when all are in reach, and then all that share no byte reach the label. -/
theorem bind_resolves_takeWhile :
    a.Binds (a.bind id).1 id ((a.labels.get id).references.takeWhile (·.InReach a.pc)) ∧
      ((a.bind id).2 = none ↔ ∀ r ∈ (a.labels.get id).references, r.InReach a.pc) ∧
        ((a.bind id).2 = none → (a.labels.get id).references.Pairwise Reference.Apart →
          ∀ r ∈ (a.labels.get id).references, (a.bind id).1.buffer.Reaches r a.pc) :=
  ⟨bind_binds hpc hid, bind_fault_eq_none_iff hpc hid, bind_reaches hpc hid⟩

end

/-- A branch and a compact branch over `n` instructions, to the same label. -/
def branchesOver (n : Nat) : Assembler :=
  (ofBuffer (.empty 4096) false).run
    ([.call (.branch .eq .zero .ra (.label 0)), .call (.transfer (.compactBeqz .a0) (.label 0))] ++
      List.replicate n (.call .nop))

theorem bind_branchesOver_resolves :
    let a := branchesOver 2
    let refs : List Reference := [⟨0, .branch⟩, ⟨4, .cBranch⟩]
    a.pc < 2 ^ 63 ∧ (a.labels.get 0).offset? = none ∧ (a.labels.get 0).references = refs ∧
      (a.bind 0).2 = none ∧ a.Binds (a.bind 0).1 0 refs ∧
        ∀ r ∈ refs, (a.bind 0).1.buffer.Reaches r 14 := by
  intro a refs
  have hpc : a.pc = 14 := by decide
  have hlt : a.pc < 2 ^ 63 := hpc.trans_lt (by decide)
  have hid : (a.labels.get 0).offset? = none := by decide
  have hrefs : (a.labels.get 0).references = refs := by decide
  have hnear : ∀ r ∈ refs, r.InReach 14 := by decide
  have hall : refs.takeWhile (·.InReach 14) = refs := by decide
  have hapart : refs.Pairwise Reference.Apart := by decide
  obtain ⟨hbinds, hiff, hreaches⟩ := bind_resolves_takeWhile hlt hid
  rw [hrefs, hpc] at hbinds hiff hreaches
  rw [hall] at hbinds
  exact ⟨hlt, hid, hrefs, hiff.2 hnear, hbinds, hreaches (hiff.2 hnear) hapart⟩

/-- A compact branch on a register it cannot name, and then a jump to the same label. -/
def refusedBeforeJump : Assembler :=
  (ofBuffer (.empty 4096) false).run
    [.call (.transfer (.compactBeqz .ra) (.label 0)), .call (.transfer .compactJump (.label 0)),
      .call .nop, .call .compactNop]

/-- Over 64 instructions binding fails for the compact branch. The label is bound nevertheless, and
the branch has been resolved. Binding the label of `refusedBeforeJump` succeeds, but the jump is
resolved over the refused branch, which is left with another displacement. -/
theorem exists_bind_not_atomic :
    ((branchesOver 64).labels.get 0 = ⟨0, .unbound [⟨0, .branch⟩, ⟨4, .cBranch⟩]⟩ ∧
      ((branchesOver 64).bind 0).2 = some (.unreachable .cBranch 4 258) ∧
        ((branchesOver 64).bind 0).1.labels.get 0 = ⟨0, .bound 262⟩ ∧
          (branchesOver 64).buffer.displacementAt ⟨0, .branch⟩ = .ok 0#32 ∧
            ((branchesOver 64).bind 0).1.buffer.displacementAt ⟨0, .branch⟩ = .ok 262#32) ∧
    refusedBeforeJump.labels.get 0 = ⟨0, .unbound [⟨0, .cBranch⟩, ⟨0, .cJump⟩]⟩ ∧
      refusedBeforeJump.pc = 8 ∧ (refusedBeforeJump.bind 0).2 = none ∧
        (refusedBeforeJump.bind 0).1.buffer.displacementAt ⟨0, .cBranch⟩ = .ok 64#32 := by
  decide +kernel

end Assembler

end RiscvAssembler
