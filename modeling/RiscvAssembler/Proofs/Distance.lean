import RiscvAssembler.Proofs.Run
import RiscvAssembler.Proofs.Site
import RiscvAssembler.Proofs.Resolution

/-!
# References over long distances

A reference to a label that is bound is encoded with its displacement at once; any other is encoded
without and redirected later. Both ways take the distance as a 64-bit number and write its lower
half. The later way tests the number, the other one only what is left of it, so they can part where
the truncation brings a distance into the field that was out of it.
-/

namespace RiscvAssembler

open Immediate (IsSigned)

variable {source target : Nat} {d : BitVec 64}

theorem setWidth_of_distance_eq_ok (h : distance source target = .ok d) :
    d.setWidth 32 = between source target := by
  rw [eq_ofInt_of_distance_eq_ok h, setWidth_ofInt_sub]

theorem toInt_between_eq_bmod (source target : Nat) :
    (between source target).toInt = ((target : Int) - source).bmod (2 ^ 32) :=
  BitVec.toInt_ofInt _

/-- A difference of offsets that fits is the distance, and truncation keeps it. -/
theorem toInt_of_isSigned {k : ReferenceKind} (h : distance source target = .ok d)
    (hsigned : IsSigned k.offsetBits 1 ((target : Int) - source)) :
    d.toInt = target - source ∧ (between source target).toInt = target - source := by
  obtain ⟨hlow, hhigh⟩ := k.abs_lt_of_isSigned hsigned
  refine ⟨?_, toInt_between hlow.le hhigh⟩
  rw [eq_ofInt_of_distance_eq_ok h, BitVec.toInt_ofInt]
  exact Int.bmod_eq_of_le (by omega) (by omega)

/-- The instruction at the reference carries the exact distance to the target. -/
def CodeBuffer.Reaches (b : CodeBuffer) (r : Reference) (target : Nat) : Prop :=
  ∃ d, b.displacementAt r = .ok d ∧ d.toInt = target - r.offset

namespace Site

/-- The site can be emitted by `a`, where its label is bound to `target` and no compact form is
selected, and it already lies in `b` at the same position, without its displacement. -/
structure BothWays (s : Site) (a : Assembler) (b : CodeBuffer) (id target : Nat) : Prop where
  bound : (a.labels.get id).offset? = some target
  plain : s.code a.active (between a.pc target) = s.code false (between a.pc target)
  capacity_lt : a.buffer.capacity < 2 ^ 64 ∧ b.capacity < 2 ^ 64
  placed : ∃ c before after, s.code false 0#32 = .ok c ∧ c.size ≤ a.buffer.remaining ∧
    b.toList = before ++ c.bytes ++ after ∧ a.pc = before.length

/-- A call that emits the site succeeds exactly when the reference to it can be resolved. Either
leaves the exact distance in the instruction, and a distance out of the field is refused. -/
structure ResolvesAlike (s : Site) (a : Assembler) (b : CodeBuffer) (id target : Nat) : Prop where
  call_iff : (a.call (.transfer s (.label id))).2 = none ↔
    ∃ b', b.resolve ⟨a.pc, s.kind⟩ target = .ok b'
  call_reaches : (a.call (.transfer s (.label id))).2 = none →
    (a.call (.transfer s (.label id))).1.buffer.Reaches ⟨a.pc, s.kind⟩ target
  resolve_reaches : ∀ b', b.resolve ⟨a.pc, s.kind⟩ target = .ok b' →
    b'.Reaches ⟨a.pc, s.kind⟩ target
  refused : ¬ IsSigned s.kind.offsetBits 1 ((target : Int) - a.pc) →
    (a.call (.transfer s (.label id))).2 ≠ none ∧
      ∀ b', b.resolve ⟨a.pc, s.kind⟩ target ≠ .ok b'

namespace BothWays

variable {s : Site} {a : Assembler} {b b' : CodeBuffer} {id : Nat}

theorem call_eq (h : s.BothWays a b id target) (hd : distance a.pc target = .ok d) :
    a.call (.transfer s (.label id)) = a.issue (s.code false (between a.pc target)) := by
  rw [← h.plain, ← setWidth_of_distance_eq_ok hd]
  simp only [Assembler.call, Assembler.resolve, h.bound, hd]
  rfl

/-- The call tests what is left of the distance. -/
theorem call_fault_eq_none_iff (h : s.BothWays a b id target) :
    (a.call (.transfer s (.label id))).2 = none ↔
      ∃ d, distance a.pc target = .ok d ∧
        s.kind.fits ((between a.pc target).signExtend 64) := by
  obtain ⟨c, before, after, hc, hroom, -, -⟩ := h.placed
  cases hd : distance a.pc target with
  | error f =>
    have hcall : a.call (.transfer s (.label id)) = (a, some f) := by
      simp only [Assembler.call, Assembler.resolve, h.bound, hd]
      rfl
    rw [hcall]
    exact iff_of_false nofun nofun
  | ok d =>
    simp only [h.call_eq hd, Except.ok.injEq, exists_eq_left']
    constructor
    · intro hnone
      obtain ⟨c', hc', -⟩ := Assembler.issue_eq_iff.1 (Prod.ext rfl hnone)
      exact (Site.code_eq_ok_iff.1 hc').1
    · intro hfits
      rw [Site.code_eq_ok_iff.2 ⟨hfits, c, hc, rfl⟩, Assembler.issue_ok_of_room]
      rwa [Code.size_redirect]

theorem call_reaches_between (h : s.BothWays a b id target)
    (hnone : (a.call (.transfer s (.label id))).2 = none) :
    (a.call (.transfer s (.label id))).1.buffer.displacementAt ⟨a.pc, s.kind⟩ =
      .ok (between a.pc target) := by
  obtain ⟨d, hd, -⟩ := h.call_fault_eq_none_iff.1 hnone
  rw [h.call_eq hd] at hnone ⊢
  obtain ⟨c, hc, hemit⟩ := Assembler.issue_eq_iff.1 (Prod.ext rfl hnone)
  obtain ⟨room, -⟩ := Assembler.emit_eq_iff.1 hemit
  rw [hc, Assembler.issue_ok_of_room room]
  change (a.buffer.append c room).displacementAt _ = _
  have hbytes : (a.buffer.append c room).toList = a.buffer.toList ++ c.bytes ++ [] := by
    rw [List.append_nil, CodeBuffer.toList_append]
  have hoffset : (a.buffer.append c room).offset < 2 ^ 64 :=
    (CodeBuffer.size_le _).trans_lt h.capacity_lt.1
  rw [CodeBuffer.displacementAt_of_toList_eq hoffset hbytes (CodeBuffer.length_toList _).symm
    (Site.size_of_code_eq_ok hc), Site.displacement_of_code_eq_ok hc]

/-- The resolution tests the distance itself. -/
theorem exists_resolve_iff (h : s.BothWays a b id target) :
    (∃ b', b.resolve ⟨a.pc, s.kind⟩ target = .ok b') ↔
      ∃ d, distance a.pc target = .ok d ∧ s.kind.fits d := by
  obtain ⟨c, before, after, hc, -, hb, hp⟩ := h.placed
  have hoffset : b.offset < 2 ^ 64 := b.size_le.trans_lt h.capacity_lt.2
  have hiff : ∀ c', b.resolved ⟨a.pc, s.kind⟩ target = .ok c' ↔
      ∃ d, distance a.pc target = .ok d ∧ s.kind.fits d ∧
        c' = c.redirect s.kind (d.setWidth 32) := fun _ =>
    CodeBuffer.resolved_eq_ok_iff hoffset hb hp (Site.size_of_code_eq_ok hc)
  simp only [CodeBuffer.resolve, bind_eq_ok_iff, hiff]
  constructor
  · rintro ⟨_, _, ⟨d, hd, hfits, -⟩, -⟩
    exact ⟨d, hd, hfits⟩
  · rintro ⟨d, hd, hfits⟩
    exact ⟨_, _, ⟨d, hd, hfits, rfl⟩, rfl⟩

theorem resolve_reaches_between (h : s.BothWays a b id target)
    (hresolve : b.resolve ⟨a.pc, s.kind⟩ target = .ok b') :
    b'.displacementAt ⟨a.pc, s.kind⟩ = .ok (between a.pc target) := by
  obtain ⟨c, before, after, hc, -, hb, hp⟩ := h.placed
  have hoffset : b.offset < 2 ^ 64 := b.size_le.trans_lt h.capacity_lt.2
  have hsize := Site.size_of_code_eq_ok hc
  obtain ⟨c', hc', hb'⟩ := bind_eq_ok_iff.1 hresolve
  obtain ⟨d, hd, hfits, rfl⟩ := (CodeBuffer.resolved_eq_ok_iff hoffset hb hp hsize).1 hc'
  obtain rfl := Except.ok.inj hb'
  have hbytes := CodeBuffer.toList_overwrite_of_toList_eq hb
    (Code.size_redirect s.kind (d.setWidth 32) c)
  rw [← hp] at hbytes
  have hoffset' : (b.overwrite a.pc (c.redirect s.kind (d.setWidth 32))).offset < 2 ^ 64 :=
    (b.offset_overwrite _ _).trans_lt hoffset
  rw [CodeBuffer.displacementAt_of_toList_eq hoffset' hbytes hp
    ((Code.size_redirect ..).trans hsize), Code.displacement_redirect hsize
      (s.kind.fits_signExtend_setWidth hfits), setWidth_of_distance_eq_ok hd]

/-- What resolution accepts the call accepts too. -/
theorem call_of_resolve (h : s.BothWays a b id target)
    (hresolve : ∃ b', b.resolve ⟨a.pc, s.kind⟩ target = .ok b') :
    (a.call (.transfer s (.label id))).2 = none := by
  obtain ⟨d, hd, hfits⟩ := h.exists_resolve_iff.1 hresolve
  refine h.call_fault_eq_none_iff.2 ⟨d, hd, ?_⟩
  rw [← setWidth_of_distance_eq_ok hd]
  exact s.kind.fits_signExtend_setWidth hfits

/-- The two ways agree when truncation brings no distance into the field that was out of it. -/
theorem resolvesAlike_of_imp (h : s.BothWays a b id target)
    (himp : (∃ d, distance a.pc target = .ok d) →
      IsSigned s.kind.offsetBits 1 (((target : Int) - a.pc).bmod (2 ^ 32)) →
        IsSigned s.kind.offsetBits 1 ((target : Int) - a.pc)) :
    s.ResolvesAlike a b id target := by
  have hnear : (a.call (.transfer s (.label id))).2 = none →
      ∃ d, distance a.pc target = .ok d ∧
        IsSigned s.kind.offsetBits 1 ((target : Int) - a.pc) := by
    intro hnone
    obtain ⟨d, hd, hfits⟩ := h.call_fault_eq_none_iff.1 hnone
    rw [s.kind.fits_signExtend_iff, toInt_between_eq_bmod] at hfits
    exact ⟨d, hd, himp ⟨d, hd⟩ hfits⟩
  have hexact : (a.call (.transfer s (.label id))).2 = none →
      (between a.pc target).toInt = target - a.pc := by
    intro hnone
    obtain ⟨d, hd, hsigned⟩ := hnear hnone
    exact (toInt_of_isSigned hd hsigned).2
  constructor
  case call_iff =>
    refine ⟨fun hnone => ?_, h.call_of_resolve⟩
    obtain ⟨d, hd, hsigned⟩ := hnear hnone
    refine h.exists_resolve_iff.2 ⟨d, hd, ?_⟩
    rw [s.kind.fits_iff, (toInt_of_isSigned hd hsigned).1]
    exact hsigned
  case call_reaches =>
    intro hnone
    exact ⟨_, h.call_reaches_between hnone, hexact hnone⟩
  case resolve_reaches =>
    intro b' hresolve
    exact ⟨_, h.resolve_reaches_between hresolve, hexact (h.call_of_resolve ⟨b', hresolve⟩)⟩
  case refused =>
    intro hfar
    have hfault : (a.call (.transfer s (.label id))).2 ≠ none := by
      intro hnone
      obtain ⟨-, -, hsigned⟩ := hnear hnone
      exact hfar hsigned
    exact ⟨hfault, fun b' hresolve => hfault (h.call_of_resolve ⟨b', hresolve⟩)⟩

/-- The two ways agree on every distance below 2 GiB. -/
theorem resolvesAlike_of_near (h : s.BothWays a b id target)
    (hlow : -2 ^ 31 ≤ (target : Int) - a.pc) (hhigh : (target : Int) - a.pc < 2 ^ 31) :
    s.ResolvesAlike a b id target := by
  apply h.resolvesAlike_of_imp
  intro _ hsigned
  rwa [Int.bmod_eq_of_le hlow hhigh] at hsigned

end BothWays

end Site

/-! ## Long buffers -/

namespace Assembler

theorem run_replicate_raw (a : Assembler) (c : Code) (n : Nat)
    (hroom : n * c.size ≤ a.buffer.remaining) :
    ∃ b, a.run (List.replicate n (.call (.raw c))) = { a with buffer := b } ∧
      b.capacity = a.buffer.capacity ∧ b.offset = a.buffer.offset + n * c.size := by
  induction n generalizing a with
  | zero => exact ⟨a.buffer, rfl, rfl, by omega⟩
  | succ n ih =>
    rw [Nat.succ_mul] at hroom
    have room : c.size ≤ a.buffer.remaining := by omega
    have hremaining : (a.buffer.append c room).remaining = a.buffer.remaining - c.size := by
      rw [CodeBuffer.remaining, CodeBuffer.offset_append, Nat.sub_add_eq]
      rfl
    have hstep : a.step (.call (.raw c)) = ({ a with buffer := a.buffer.append c room }, none) :=
      emit_eq_iff.2 ⟨room, rfl⟩
    obtain ⟨b, hrun, hcap, hoffset⟩ :=
      ih { a with buffer := a.buffer.append c room } (by dsimp only; omega)
    refine ⟨b, ?_, hcap, ?_⟩
    · rw [List.replicate_succ, run_cons, hstep, hrun]
    · rw [hoffset, CodeBuffer.offset_append, Nat.succ_mul]
      omega

/-- An assembler that has emitted `n` words after a label and has room for one more. -/
def wordsAfterLabel (n : Nat) : Assembler :=
  (ofBuffer (.empty (4 * (n + 1))) false).run
    (.bind 0 :: List.replicate n (.call (.raw (.word 0#32))))

theorem exists_wordsAfterLabel_eq (n : Nat) :
    ∃ b, wordsAfterLabel n =
      { ((ofBuffer (.empty (4 * (n + 1))) false).bind 0).1 with buffer := b } ∧
        b.capacity = 4 * (n + 1) ∧ b.offset = 4 * n := by
  have hroom : n * 4 ≤ 4 * (n + 1) - 0 := by omega
  obtain ⟨b, hrun, hcap, hoffset⟩ :=
    run_replicate_raw ((ofBuffer (.empty (4 * (n + 1))) false).bind 0).1 (.word 0#32) n hroom
  refine ⟨b, hrun, hcap, hoffset.trans ?_⟩
  change 0 + n * 4 = 4 * n
  omega

end Assembler

namespace Site

open Assembler (wordsAfterLabel)

/-- A branch back over `n` words, and the same branch before it is resolved. -/
theorem exists_bothWays {n : Nat} (hn : n + 1 < 2 ^ 62) :
    (wordsAfterLabel n).pc = 4 * n ∧
      ∃ b, (branch .eq .zero .zero false).BothWays (wordsAfterLabel n) b 0 0 := by
  obtain ⟨b, hwords, hcap, hoffset⟩ := Assembler.exists_wordsAfterLabel_eq n
  have hroom : (Code.word 0x63#32).size ≤ b.remaining := by
    rw [CodeBuffer.remaining, hcap, hoffset]
    change 4 ≤ _
    omega
  rw [hwords]
  refine ⟨hoffset, b.append (.word 0x63#32) hroom, ?_⟩
  constructor
  case bound => rfl
  case plain => rfl
  case capacity_lt =>
    change b.capacity < 2 ^ 64 ∧ b.capacity < 2 ^ 64
    omega
  case placed =>
    refine ⟨.word 0x63#32, b.toList, [], rfl, hroom, ?_, b.length_toList.symm⟩
    rw [List.append_nil, CodeBuffer.toList_append]

/-- The two ways agree exactly when the distance has no 64-bit value or truncation does not bring it
into the field from outside. -/
theorem BothWays.resolvesAlike_iff {s : Site} {a : Assembler} {b : CodeBuffer} {id : Nat}
    (h : s.BothWays a b id target) :
    s.ResolvesAlike a b id target ↔
      ((∃ d, distance a.pc target = .ok d) →
        IsSigned s.kind.offsetBits 1 (((target : Int) - a.pc).bmod (2 ^ 32)) →
          IsSigned s.kind.offsetBits 1 ((target : Int) - a.pc)) := by
  refine ⟨?_, h.resolvesAlike_of_imp⟩
  rintro halike ⟨d, hd⟩ hsigned
  rw [← toInt_between_eq_bmod] at hsigned
  have hnone : (a.call (.transfer s (.label id))).2 = none :=
    h.call_fault_eq_none_iff.2 ⟨d, hd, (s.kind.fits_signExtend_iff _).2 hsigned⟩
  obtain ⟨x, hx, hexact⟩ := halike.call_reaches hnone
  obtain rfl : between a.pc target = x :=
    Except.ok.inj ((h.call_reaches_between hnone).symm.trans hx)
  rwa [hexact] at hsigned

theorem exists_resolvesAlike_one :
    ∃ b, (branch .eq .zero .zero false).BothWays (wordsAfterLabel 1) b 0 0 ∧
      (branch .eq .zero .zero false).ResolvesAlike (wordsAfterLabel 1) b 0 0 := by
  obtain ⟨hpc, b, h⟩ := exists_bothWays (n := 1) (by decide)
  refine ⟨b, h, h.resolvesAlike_iff.2 ?_⟩
  rw [hpc]
  intro _ _
  decide

/-- A branch back over almost 4 GiB is emitted as a branch forward by four bytes, while its
resolution is refused. A target almost at the end of the address space is resolved to four bytes
back. -/
theorem exists_not_resolvesAlike :
    (let a := wordsAfterLabel (2 ^ 30 - 1)
      let s := branch .eq .zero .zero false
      ∃ b, s.BothWays a b 0 0 ∧ ¬ s.ResolvesAlike a b 0 0 ∧
        (a.call (.transfer s (.label 0))).2 = none ∧
        (a.call (.transfer s (.label 0))).1.buffer.displacementAt ⟨2 ^ 32 - 4, .branch⟩ =
          .ok 4#32) ∧
    ∃ b', ((CodeBuffer.empty 4096).append (.word 99#32) (by decide)).resolve ⟨0, .branch⟩
        (2 ^ 64 - 4) = .ok b' ∧
      b'.displacementAt ⟨0, .branch⟩ = .ok (-4#32) ∧
        ¬ IsSigned ReferenceKind.branch.offsetBits 1 (2 ^ 64 - 4) := by
  refine ⟨?_, _, rfl, rfl, by decide⟩
  intro a s
  obtain ⟨hpc, b, h⟩ : a.pc = 4 * (2 ^ 30 - 1) ∧ ∃ b, s.BothWays a b 0 0 :=
    exists_bothWays (by decide)
  -- Nothing below may evaluate the assembler.
  clear_value a
  have hdistance : distance a.pc 0 = .ok (.ofInt 64 (-(2 ^ 32 - 4))) := by
    rw [hpc]
    rfl
  have hbetween : between a.pc 0 = 4#32 := by
    rw [hpc]
    rfl
  have hfits : s.kind.fits ((between a.pc 0).signExtend 64) := by
    rw [hbetween]
    decide
  have hnone := h.call_fault_eq_none_iff.2 ⟨_, hdistance, hfits⟩
  have hcarried := h.call_reaches_between hnone
  rw [hbetween, hpc] at hcarried
  refine ⟨b, h, fun halike => ?_, hnone, hcarried⟩
  obtain ⟨d, hd, hwide⟩ := h.exists_resolve_iff.1 (halike.call_iff.1 hnone)
  obtain rfl : BitVec.ofInt 64 (-(2 ^ 32 - 4)) = d := Except.ok.inj (hdistance.symm.trans hd)
  exact absurd hwide (by decide)

end Site

end RiscvAssembler
