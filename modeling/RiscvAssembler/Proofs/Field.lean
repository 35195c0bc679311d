import Mathlib.Tactic
import RiscvAssembler.Word

/-!
# Words as fields

A checked write succeeds exactly when the field lies in the word and holds the value, and then
replaces the bits of the field alone. What a word built from fields holds is read back field by
field: the bits of a field come from its value, the bits outside it from the word before.
-/

namespace RiscvAssembler

theorem bind_eq_ok_iff {ε α β : Type} {x : Except ε α} {f : α → Except ε β} {b : β} :
    x >>= f = .ok b ↔ ∃ a, x = .ok a ∧ f a = .ok b := by
  cases x <;> simp [bind, Except.bind]

theorem bind_eq_error_iff {ε α β : Type} {x : Except ε α} {f : α → Except ε β} {e : ε} :
    x >>= f = .error e ↔ x = .error e ∨ ∃ a, x = .ok a ∧ f a = .error e := by
  cases x <;> simp [bind, Except.bind]

theorem require_bind_eq_ok_iff {α : Type} {p : Prop} [Decidable p] {f : Fault}
    {x : Except Fault α} {b : α} : (require p f >>= fun _ => x) = .ok b ↔ p ∧ x = .ok b := by
  simp only [bind_eq_ok_iff, require_eq_ok_iff, exists_const]

theorem require_bind_eq_error_iff {α : Type} {p : Prop} [Decidable p] {f g : Fault}
    {rest : Unit → Except Fault α} :
    require p f >>= rest = .error g ↔ (¬ p ∧ g = f) ∨ p ∧ rest () = .error g := by
  by_cases hp : p <;> simp [require, hp, bind, Except.bind, eq_comm]

namespace Checked

theorem add_eq_ok_iff {width a b c : Nat} :
    add width a b = .ok c ↔ a + b < 1 <<< width ∧ a + b = c := by
  unfold add
  split <;> simp_all

theorem sub_eq_ok_iff {a b c : Nat} : sub a b = .ok c ↔ b ≤ a ∧ a - b = c := by
  unfold sub
  split <;> simp_all

theorem shiftLeft_eq_ok_iff {n : Nat} {x y : BitVec n} {amount : Nat} :
    shiftLeft x amount = .ok y ↔ amount < n ∧ x <<< amount = y := by
  unfold shiftLeft
  split <;> simp_all

theorem shiftLeft_eq_error_iff {n : Nat} {x : BitVec n} {amount : Nat} {f : Fault} :
    shiftLeft x amount = .error f ↔ n ≤ amount ∧ f = .overflow .shiftLeft := by
  unfold shiftLeft
  split <;> simp_all [eq_comm]

theorem subSigned_eq_ok_iff {n : Nat} {x y z : BitVec n} :
    subSigned x y = .ok z ↔ ¬ x.ssubOverflow y ∧ x - y = z := by
  rw [subSigned]
  split_ifs with h <;> simp [h]

theorem subSigned_eq_error_iff {n : Nat} {x y : BitVec n} {f : Fault} :
    subSigned x y = .error f ↔ x.ssubOverflow y ∧ f = .overflow .subtract := by
  rw [subSigned]
  split_ifs with h <;> simp [h, eq_comm]

variable {α : Type} {width a b : Nat} {rest : Nat → Except Fault α}

theorem add_bind_eq_ok_iff {x : α} :
    add width a b >>= rest = .ok x ↔ a + b < 2 ^ width ∧ rest (a + b) = .ok x := by
  rw [add, Nat.one_shiftLeft]
  split_ifs with h <;> simp [h, bind, Except.bind]

theorem add_bind_eq_error_iff {f : Fault} : add width a b >>= rest = .error f ↔
    (2 ^ width ≤ a + b ∧ f = .overflow .add) ∨ a + b < 2 ^ width ∧ rest (a + b) = .error f := by
  rw [add, Nat.one_shiftLeft]
  split_ifs with h
  · simp [h, Nat.not_le.2 h, bind, Except.bind]
  · simp [h, Nat.not_lt.1 h, bind, Except.bind, eq_comm]

end Checked

theorem one_shiftLeft_log2_eq_iff (n : Nat) : 1 <<< n.log2 = n ↔ n.isPowerOfTwo := by
  rw [Nat.one_shiftLeft]
  constructor
  · intro h
    exact ⟨_, h.symm⟩
  · rintro ⟨k, rfl⟩
    rw [Nat.log2_two_pow]

theorem toNat_rightBits {n : Nat} (h : n ≤ 32) : (rightBits n).toNat = 2 ^ n - 1 := by
  rcases Nat.lt_or_eq_of_le h with h | rfl
  · have hone : (1#32 <<< n).toNat = 2 ^ n := BitVec.toNat_twoPow_of_lt h
    rw [rightBits, if_neg (by omega), BitVec.toNat_sub_of_le, hone]
    · rfl
    · rw [BitVec.le_def, hone]
      exact Nat.two_pow_pos n
  · rfl

theorem getLsbD_rightBits {n : Nat} (h : n ≤ 32) (i : Nat) :
    (rightBits n).getLsbD i = decide (i < n) := by
  rw [← BitVec.testBit_toNat, toNat_rightBits h, Nat.testBit_two_pow_sub_one]

theorem le_rightBits_iff {v : BitVec 32} {n : Nat} (h : n ≤ 32) :
    v ≤ rightBits n ↔ v.toNat < 2 ^ n := by
  have hpos : 0 < 2 ^ n := Nat.two_pow_pos n
  rw [BitVec.le_def, toNat_rightBits h]
  omega

namespace Word

variable {n : Nat}

/-- The word `w` with `v` in the bits from `msb` down to `lsb`. -/
def write (w : BitVec n) (msb lsb : Nat) (v : BitVec 32) : BitVec n :=
  ((w.setWidth 32 &&& ~~~(rightBits (msb - lsb + 1) <<< lsb)) ||| (v <<< lsb)).setWidth n

/-- The conditions under which a field of an `n`-bit word holds `v`. -/
def Fits (n msb lsb : Nat) (v : BitVec 32) : Prop :=
  lsb ≤ msb ∧ msb < n ∧ v.toNat < 2 ^ (msb - lsb + 1)

instance (n msb lsb : Nat) (v : BitVec 32) : Decidable (Fits n msb lsb v) :=
  inferInstanceAs (Decidable (_ ∧ _ ∧ _))

theorem getLsbD_write (hn : n ≤ 32) (w : BitVec n) {msb lsb : Nat} {v : BitVec 32}
    (h : Fits n msb lsb v) {i : Nat} (hi : i < n) :
    (write w msb lsb v).getLsbD i =
      if lsb ≤ i ∧ i ≤ msb then v.getLsbD (i - lsb) else w.getLsbD i := by
  obtain ⟨hlsb, hmsb, hv⟩ := h
  have hhigh : msb - lsb + 1 ≤ i - lsb → v.getLsbD (i - lsb) = false := by
    intro h
    rw [← BitVec.testBit_toNat]
    exact Nat.testBit_lt_two_pow (hv.trans_le (Nat.pow_le_pow_right (by omega) h))
  have hlen : msb - lsb + 1 ≤ 32 := by omega
  have h32 : i < 32 := by omega
  simp only [write, BitVec.getLsbD_setWidth, BitVec.getLsbD_or, BitVec.getLsbD_and,
    BitVec.getLsbD_not, BitVec.getLsbD_shiftLeft, getLsbD_rightBits hlen, hi, h32, decide_true,
    Bool.true_and]
  clear hv
  by_cases hlow : i < lsb
  · simp [hlow, show ¬ lsb ≤ i by omega]
  · by_cases hhi : i ≤ msb
    · simp [hlow, hhi, show i - lsb < msb - lsb + 1 by omega, show lsb ≤ i by omega]
    · simp [hlow, hhi, hhigh (by omega), show ¬ i - lsb < msb - lsb + 1 by omega]

theorem patch_eq_ok_iff (hn : n ≤ 32) {w w' : BitVec n} {msb lsb : Nat} {v : BitVec 32} :
    patch w msb lsb v = .ok w' ↔ Fits n msb lsb v ∧ w' = write w msb lsb v := by
  simp only [patch, checkRange, fieldMask, bind_eq_ok_iff, require_eq_ok_iff, Checked.sub_eq_ok_iff,
    Checked.add_eq_ok_iff, Checked.shiftLeft_eq_ok_iff, pure, Except.pure, Except.ok.injEq]
  constructor
  · rintro ⟨_, ⟨_, hlsb, hmsb⟩, _, ⟨_, ⟨_, rfl⟩, _, ⟨_, rfl⟩, rfl⟩, _, hv, _, ⟨_, rfl⟩, _,
      ⟨_, rfl⟩, rfl⟩
    exact ⟨⟨hlsb, hmsb, (le_rightBits_iff (by omega)).1 hv⟩, rfl⟩
  · rintro ⟨⟨hlsb, hmsb, hv⟩, rfl⟩
    have hlen : msb - lsb + 1 < 1 <<< 32 := by
      rw [Nat.shiftLeft_eq]
      omega
    exact ⟨(), ⟨(), hlsb, hmsb⟩, _, ⟨_, ⟨hlsb, rfl⟩, _, ⟨hlen, rfl⟩, rfl⟩, (),
      (le_rightBits_iff (by omega)).2 hv, _, ⟨by omega, rfl⟩, _, ⟨by omega, rfl⟩, rfl⟩

theorem checkRange_eq_ok {msb lsb : Nat} (hlsb : lsb ≤ msb) (hmsb : msb < n) :
    checkRange n msb lsb = .ok () := by
  rw [checkRange, require_bind_eq_ok_iff, require_eq_ok_iff]
  exact ⟨hlsb, hmsb⟩

theorem fieldMask_eq_ok {msb lsb : Nat} (hlsb : lsb ≤ msb) (hmsb : msb < 32) :
    fieldMask msb lsb = .ok (rightBits (msb - lsb + 1)) := by
  have hadd : Checked.add 32 (msb - lsb) 1 = .ok (msb - lsb + 1) :=
    Checked.add_eq_ok_iff.2 ⟨by rw [Nat.shiftLeft_eq]; omega, rfl⟩
  rw [fieldMask, Checked.sub_eq_ok_iff.2 ⟨hlsb, rfl⟩]
  exact congrArg (· >>= fun n => pure (rightBits n)) hadd

theorem extractLsb'_write_inside (hn : n ≤ 32) (w : BitVec n) {msb lsb : Nat} {v : BitVec 32}
    (h : Fits n msb lsb v) {start len : Nat} (hlow : lsb ≤ start) (hhigh : start + len ≤ msb + 1) :
    (write w msb lsb v).extractLsb' start len = v.extractLsb' (start - lsb) len := by
  apply BitVec.eq_of_getLsbD_eq
  intro i hi
  have hmsb := h.2.1
  rw [BitVec.getLsbD_extractLsb', BitVec.getLsbD_extractLsb',
    getLsbD_write hn w h (show start + i < n by omega), if_pos ⟨by omega, by omega⟩,
    show start + i - lsb = start - lsb + i by omega]

theorem extractLsb'_write_outside (hn : n ≤ 32) (w : BitVec n) {msb lsb : Nat} {v : BitVec 32}
    (h : Fits n msb lsb v) {start len : Nat} (hout : start + len ≤ lsb ∨ msb < start) :
    (write w msb lsb v).extractLsb' start len = w.extractLsb' start len := by
  apply BitVec.eq_of_getLsbD_eq
  intro i hi
  rw [BitVec.getLsbD_extractLsb', BitVec.getLsbD_extractLsb']
  by_cases hlt : start + i < n
  · rw [getLsbD_write hn w h hlt, if_neg (by omega)]
  · rw [BitVec.getLsbD_of_ge _ _ (by omega), BitVec.getLsbD_of_ge _ _ (by omega)]

end Word

/-! ## Lists of fields -/

/-- The conditions under which an `n`-bit word holds the field. -/
def Field.Fits (n : Nat) (f : Field) : Prop :=
  Word.Fits n f.msb f.lsb f.value

theorem forall_fits_nil {n : Nat} : (∀ f ∈ ([] : List Field), f.Fits n) ↔ True :=
  iff_true_intro (List.forall_mem_nil _)

theorem forall_fits_cons {n msb lsb : Nat} {v : BitVec 32} {fields : List Field} :
    (∀ f ∈ ⟨msb, lsb, v⟩ :: fields, f.Fits n) ↔
      Word.Fits n msb lsb v ∧ ∀ f ∈ fields, f.Fits n :=
  List.forall_mem_cons

def writeAll {n : Nat} (w : BitVec n) (fields : List Field) : BitVec n :=
  fields.foldl (fun w f => Word.write w f.msb f.lsb f.value) w

theorem patchAll_eq_ok_iff {n : Nat} (hn : n ≤ 32) {w w' : BitVec n} {fields : List Field} :
    patchAll w fields = .ok w' ↔ (∀ f ∈ fields, f.Fits n) ∧ w' = writeAll w fields := by
  induction fields generalizing w with
  | nil => simp [patchAll_nil, writeAll, eq_comm]
  | cons f fields ih =>
    simp only [patchAll_cons, bind_eq_ok_iff, Word.patch_eq_ok_iff hn, ih, List.forall_mem_cons]
    constructor
    · rintro ⟨_, ⟨hf, rfl⟩, hfields, rfl⟩
      exact ⟨⟨hf, hfields⟩, rfl⟩
    · rintro ⟨⟨hf, hfields⟩, rfl⟩
      exact ⟨_, ⟨hf, rfl⟩, hfields, rfl⟩

/-- A bit that a list of fields does not cover stays as it was. -/
theorem getLsbD_writeAll_of_forall_outside {n : Nat} (hn : n ≤ 32) {fields : List Field}
    (hfits : ∀ f ∈ fields, f.Fits n) {i : Nat} (hi : i < n)
    (hout : ∀ f ∈ fields, i < f.lsb ∨ f.msb < i) (w : BitVec n) :
    (writeAll w fields).getLsbD i = w.getLsbD i := by
  induction fields generalizing w with
  | nil => rfl
  | cons f fields ih =>
    rw [List.forall_mem_cons] at hfits hout
    change (writeAll (Word.write w f.msb f.lsb f.value) fields).getLsbD i = _
    rw [ih hfits.2 hout.2, Word.getLsbD_write hn w hfits.1 hi, if_neg (by omega)]

/-- Writing over a word keeps no trace of what the fields held before. -/
theorem writeAll_congr {n : Nat} (hn : n ≤ 32) {fields : List Field}
    (hfits : ∀ f ∈ fields, f.Fits n) {w w' : BitVec n}
    (h : ∀ i < n, (∀ f ∈ fields, i < f.lsb ∨ f.msb < i) → w.getLsbD i = w'.getLsbD i) :
    writeAll w fields = writeAll w' fields := by
  induction fields generalizing w w' with
  | nil => exact BitVec.eq_of_getLsbD_eq fun i hi => h i hi (by simp)
  | cons f fields ih =>
    rw [List.forall_mem_cons] at hfits
    change writeAll (Word.write w f.msb f.lsb f.value) fields =
      writeAll (Word.write w' f.msb f.lsb f.value) fields
    apply ih hfits.2
    intro i hi hout
    rw [Word.getLsbD_write hn w hfits.1 hi, Word.getLsbD_write hn w' hfits.1 hi]
    by_cases hf : f.lsb ≤ i ∧ i ≤ f.msb
    · rw [if_pos hf, if_pos hf]
    · rw [if_neg hf, if_neg hf]
      exact h i hi (List.forall_mem_cons.2 ⟨by omega, hout⟩)

/-! ### Fields that do not overlap -/

/-- No bit belongs to both fields. -/
def Field.Apart (f g : Field) : Prop :=
  f.msb < g.lsb ∨ g.msb < f.lsb

section Apart

variable {n : Nat} {fields : List Field} {f : Field}

/-- The bits of a field are those of its value, whatever else the word is built from. -/
theorem getLsbD_writeAll_of_mem (hn : n ≤ 32) (hfits : ∀ f ∈ fields, f.Fits n)
    (hapart : fields.Pairwise Field.Apart) (hf : f ∈ fields) (w : BitVec n) {i : Nat}
    (hlow : f.lsb ≤ i) (hhigh : i ≤ f.msb) :
    (writeAll w fields).getLsbD i = f.value.getLsbD (i - f.lsb) := by
  induction fields generalizing w with
  | nil => cases hf
  | cons g fields ih =>
    rw [List.forall_mem_cons] at hfits
    rw [List.pairwise_cons] at hapart
    obtain ⟨hg, hfields⟩ := hfits
    change (writeAll (Word.write w g.msb g.lsb g.value) fields).getLsbD i = _
    cases hf with
    | head =>
      have hmsb : f.msb < n := hg.2.1
      have hout : ∀ h ∈ fields, i < h.lsb ∨ h.msb < i := by
        intro h hh
        have hfh : f.msb < h.lsb ∨ h.msb < f.lsb := hapart.1 h hh
        omega
      rw [getLsbD_writeAll_of_forall_outside hn hfields (by omega) hout,
        Word.getLsbD_write hn w hg (by omega), if_pos ⟨hlow, hhigh⟩]
    | tail _ hf => exact ih hfields hapart.2 hf _

theorem Field.apart_comm {f g : Field} (h : f.Apart g) : g.Apart f :=
  h.symm

/-- The order in which they are written does not matter. -/
theorem writeAll_perm (hn : n ≤ 32) {fields' : List Field} (hperm : fields.Perm fields')
    (hfits : ∀ f ∈ fields, f.Fits n) (hapart : fields.Pairwise Field.Apart) (w : BitVec n) :
    writeAll w fields = writeAll w fields' := by
  have hfits' : ∀ f ∈ fields', f.Fits n := fun f hf => hfits f (hperm.mem_iff.2 hf)
  have hapart' : fields'.Pairwise Field.Apart :=
    (hperm.pairwise_iff Field.apart_comm).1 hapart
  apply BitVec.eq_of_getLsbD_eq
  intro i hi
  by_cases hin : ∃ f ∈ fields, f.lsb ≤ i ∧ i ≤ f.msb
  · obtain ⟨f, hf, hlow, hhigh⟩ := hin
    rw [getLsbD_writeAll_of_mem hn hfits hapart hf w hlow hhigh,
      getLsbD_writeAll_of_mem hn hfits' hapart' (hperm.mem_iff.1 hf) w hlow hhigh]
  · have hout : ∀ f ∈ fields, i < f.lsb ∨ f.msb < i := by
      intro f hf
      by_contra hnot
      exact hin ⟨f, hf, by omega, by omega⟩
    have hout' : ∀ f ∈ fields', i < f.lsb ∨ f.msb < i :=
      fun f hf => hout f (hperm.mem_iff.2 hf)
    rw [getLsbD_writeAll_of_forall_outside hn hfits hi hout,
      getLsbD_writeAll_of_forall_outside hn hfits' hi hout']

theorem extractLsb'_writeAll (hn : n ≤ 32) (hfits : ∀ f ∈ fields, f.Fits n)
    (hapart : fields.Pairwise Field.Apart) (hf : f ∈ fields) (w : BitVec n) {start len : Nat}
    (hlow : f.lsb ≤ start) (hhigh : start + len ≤ f.msb + 1) :
    (writeAll w fields).extractLsb' start len = f.value.extractLsb' (start - f.lsb) len := by
  apply BitVec.eq_of_getLsbD_eq
  intro i hi
  rw [BitVec.getLsbD_extractLsb', BitVec.getLsbD_extractLsb',
    getLsbD_writeAll_of_mem hn hfits hapart hf w (by omega) (by omega),
    show start + i - f.lsb = start - f.lsb + i by omega]

theorem Word.extract_eq_ok (hn : n ≤ 32) (w : BitVec n) {msb lsb : Nat} (hlsb : lsb ≤ msb)
    (hmsb : msb < n) : extract w msb lsb = .ok (slice w msb lsb) := by
  have hlen : msb - lsb + 1 ≤ 32 := by omega
  have hshift : Checked.shiftRight (w.setWidth 32) lsb = .ok (w.setWidth 32 >>> lsb) :=
    if_pos (by omega)
  rw [extract, checkRange_eq_ok hlsb hmsb, hshift, fieldMask_eq_ok hlsb (by omega)]
  refine congrArg Except.ok (BitVec.eq_of_getLsbD_eq fun i hi => ?_)
  rw [BitVec.getLsbD_and, BitVec.getLsbD_ushiftRight, BitVec.getLsbD_setWidth,
    getLsbD_rightBits hlen, slice, BitVec.getLsbD_setWidth, BitVec.getLsbD_extractLsb']
  by_cases hin : i < msb - lsb + 1
  · simp [hin, hi, show lsb + i < 32 by omega]
  · simp [hin]

theorem slice_writeAll (hn : n ≤ 32) (hfits : ∀ f ∈ fields, f.Fits n)
    (hapart : fields.Pairwise Field.Apart) (hf : f ∈ fields) (w : BitVec n) :
    slice (writeAll w fields) f.msb f.lsb = f.value := by
  obtain ⟨hlsb, -, hvalue⟩ := hfits f hf
  rw [slice, extractLsb'_writeAll hn hfits hapart hf w le_rfl (by omega), Nat.sub_self]
  refine BitVec.eq_of_toNat_eq ?_
  rw [BitVec.toNat_setWidth, BitVec.extractLsb'_toNat, Nat.shiftRight_zero,
    Nat.mod_eq_of_lt hvalue, Nat.mod_eq_of_lt f.value.isLt]

/-- A field is read back from the word that was built with it. -/
theorem extract_writeAll (hn : n ≤ 32) (hfits : ∀ f ∈ fields, f.Fits n)
    (hapart : fields.Pairwise Field.Apart) (hf : f ∈ fields) (w : BitVec n) :
    Word.extract (writeAll w fields) f.msb f.lsb = .ok f.value := by
  obtain ⟨hlsb, hmsb, -⟩ := hfits f hf
  rw [Word.extract_eq_ok hn _ hlsb hmsb, slice_writeAll hn hfits hapart hf w]

end Apart

end RiscvAssembler
