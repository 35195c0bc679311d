import RiscvAssembler.Resolution
import RiscvAssembler.Proofs.Displacement

/-!
# Resolving a reference in place

Code that lies in a buffer is read back as it was written. Resolving the reference it carries
redirects it and leaves the bytes around it alone.
-/

namespace RiscvAssembler

/-! ## Distances -/

/-- The displacement from one offset to another, as the encoders take it. -/
def between (source target : Nat) : BitVec 32 :=
  BitVec.ofInt 32 (target - source)

theorem toInt_between {source target : Nat} (hlow : -2 ^ 31 ≤ (target : Int) - source)
    (hhigh : (target : Int) - source < 2 ^ 31) :
    (between source target).toInt = target - source := by
  rw [between, BitVec.toInt_ofInt]
  exact Int.bmod_eq_of_le hlow hhigh

theorem toInt_ofNat_of_lt {n : Nat} (h : n < 2 ^ 63) : (BitVec.ofNat 64 n).toInt = n := by
  rw [BitVec.toInt_ofNat']
  exact Int.bmod_eq_of_le (by omega) (by omega)

theorem ofNat_sub_ofNat (source target : Nat) :
    BitVec.ofNat 64 target - BitVec.ofNat 64 source = BitVec.ofInt 64 (target - source) := by
  rw [sub_eq_add_neg (target : Int), BitVec.ofInt_add, BitVec.ofInt_neg, BitVec.ofInt_natCast,
    BitVec.ofInt_natCast, BitVec.sub_eq_add_neg]

theorem eq_ofInt_of_distance_eq_ok {source target : Nat} {d : BitVec 64}
    (h : distance source target = .ok d) : d = BitVec.ofInt 64 (target - source) := by
  unfold distance Checked.subSigned at h
  split at h
  · cases h
  · rw [← ofNat_sub_ofNat, Except.ok.inj h]

theorem distance_eq_ok_iff {source target : Nat} {d : BitVec 64} (hsource : source < 2 ^ 63)
    (htarget : target < 2 ^ 63) :
    distance source target = .ok d ↔ d = BitVec.ofInt 64 (target - source) := by
  have hfits : ¬ (BitVec.ofNat 64 target).ssubOverflow (BitVec.ofNat 64 source) := by
    rw [BitVec.ssubOverflow, toInt_ofNat_of_lt hsource, toInt_ofNat_of_lt htarget, Bool.or_eq_true,
      decide_eq_true_iff, decide_eq_true_iff]
    omega
  rw [distance, Checked.subSigned, if_neg hfits, Except.ok.injEq, ofNat_sub_ofNat, eq_comm]

theorem setWidth_ofInt_sub (source target : Nat) :
    (BitVec.ofInt 64 ((target : Int) - source)).setWidth 32 = between source target := by
  apply BitVec.eq_of_toNat_eq
  rw [between, BitVec.toNat_setWidth, BitVec.toNat_ofInt, BitVec.toNat_ofInt]
  omega

theorem between_of_sub_eq {source target : Nat} (h : (target : Int) - source = 2 ^ 31) :
    (between source target).toInt = -2 ^ 31 := by
  rw [between, h]
  rfl

/-- Near offsets are in reach after truncation exactly when they were before. -/
theorem ReferenceKind.fits_ofInt_iff (k : ReferenceKind) {source target : Nat}
    (hlow : -2 ^ 31 ≤ (target : Int) - source) (hhigh : (target : Int) - source ≤ 2 ^ 31) :
    k.fits (BitVec.ofInt 64 (target - source)) ↔
      k.fits ((between source target).signExtend 64) := by
  have hwide : (BitVec.ofInt 64 ((target : Int) - source)).toInt = target - source := by
    rw [BitVec.toInt_ofInt]
    exact Int.bmod_eq_of_le (by omega) (by omega)
  rw [fits_iff, fits_signExtend_iff, hwide]
  rcases lt_or_eq_of_le hhigh with hlt | heq
  · rw [toInt_between hlow hlt]
  · rw [between_of_sub_eq heq, heq]
    constructor
    · intro h
      exact absurd (k.abs_lt_of_isSigned h).2 (lt_irrefl _)
    · intro h
      exact absurd (k.abs_lt_of_isSigned h).1 (lt_irrefl _)

/-- A displacement that fits is the distance itself. -/
theorem ReferenceKind.toInt_between_of_fits (k : ReferenceKind) {source target : Nat}
    (hlow : -2 ^ 31 ≤ (target : Int) - source) (hhigh : (target : Int) - source ≤ 2 ^ 31)
    (hfits : k.fits ((between source target).signExtend 64)) :
    (between source target).toInt = target - source := by
  rcases lt_or_eq_of_le hhigh with hlt | heq
  · exact toInt_between hlow hlt
  · rw [fits_signExtend_iff, between_of_sub_eq heq] at hfits
    exact absurd (k.abs_lt_of_isSigned hfits).1 (lt_irrefl _)

/-- Truncation keeps a displacement that fits. -/
theorem ReferenceKind.fits_signExtend_setWidth (k : ReferenceKind) {d : BitVec 64} (h : k.fits d) :
    k.fits ((d.setWidth 32).signExtend 64) := by
  have hsigned := (k.fits_iff d).1 h
  have hrange := k.abs_lt_of_isSigned hsigned
  have hlower : d.setWidth 32 = BitVec.ofInt 32 d.toInt := by
    apply BitVec.eq_of_toNat_eq
    rw [BitVec.toNat_setWidth, BitVec.toNat_ofInt, BitVec.toInt_eq_toNat_cond]
    split <;> omega
  have htoInt : (d.setWidth 32).toInt = d.toInt := by
    rw [hlower, BitVec.toInt_ofInt]
    exact Int.bmod_eq_of_le (by omega) (by omega)
  rw [fits_signExtend_iff, htoInt]
  exact hsigned

/-! ## Code in a buffer -/

theorem Code.append_byteAt_half (w : BitVec 16) :
    (byteAt w 1).toBitVec ++ (byteAt w 0).toBitVec = w := by
  change w.extractLsb' 8 8 ++ w.extractLsb' 0 8 = w
  rw [BitVec.extractLsb'_append_extractLsb'_eq_extractLsb' (show 8 = 0 + 8 from rfl),
    BitVec.extractLsb'_eq_self]

theorem Code.append_byteAt_word (w : BitVec 32) :
    (byteAt w 3).toBitVec ++ (byteAt w 2).toBitVec ++ (byteAt w 1).toBitVec ++
      (byteAt w 0).toBitVec = w := by
  change w.extractLsb' 24 8 ++ w.extractLsb' 16 8 ++ w.extractLsb' 8 8 ++ w.extractLsb' 0 8 = w
  rw [BitVec.extractLsb'_append_extractLsb'_eq_extractLsb' (show 24 = 16 + 8 from rfl),
    BitVec.extractLsb'_append_extractLsb'_eq_extractLsb' (show 16 = 8 + 8 from rfl),
    BitVec.extractLsb'_append_extractLsb'_eq_extractLsb' (show 8 = 0 + 8 from rfl),
    BitVec.extractLsb'_eq_self]

namespace CodeBuffer

variable {b : CodeBuffer} {before after : List UInt8}

theorem getElem?_toList {i : Nat} (h : i < b.bytes.size) : b.toList[i]? = some b.bytes[i] :=
  List.getElem?_eq_getElem ((length_toList b).symm ▸ h)

theorem length_le_offset {bytes : List UInt8} (h : b.toList = before ++ bytes ++ after) :
    before.length + bytes.length ≤ b.bytes.size := by
  change _ ≤ b.offset
  rw [← length_toList, h, List.length_append, List.length_append]
  omega

theorem bytes_getElem_of_toList_eq {bytes : List UInt8} (h : b.toList = before ++ bytes ++ after)
    {i : Nat} (hi : i < bytes.length) (hlt : before.length + i < b.bytes.size) :
    b.bytes[before.length + i] = bytes[i] := by
  have hget := getElem?_toList hlt
  rw [h, List.append_assoc, List.getElem?_append_right (by omega), Nat.add_sub_cancel_left,
    List.getElem?_append_left hi, List.getElem?_eq_getElem hi, Option.some.injEq] at hget
  exact hget.symm

theorem readHalf_of_toList_eq {w : BitVec 16} (hsize : b.offset < 2 ^ 64)
    (h : b.toList = before ++ (Code.half w).bytes ++ after) :
    b.readHalf before.length = .ok w := by
  have hle : before.length + 2 ≤ b.bytes.size := length_le_offset h
  have hzero : b.bytes[before.length] = Code.byteAt w 0 :=
    bytes_getElem_of_toList_eq (i := 0) h (by simp [Code.bytes]) (by omega)
  have hone : b.bytes[before.length + 1] = Code.byteAt w 1 :=
    bytes_getElem_of_toList_eq h (by simp [Code.bytes]) (by omega)
  rw [offset] at hsize
  rw [readHalf, Checked.add_bind_eq_ok_iff]
  refine ⟨by omega, ?_⟩
  rw [dif_pos hle, hzero, hone, Code.append_byteAt_half]
  rfl

theorem readWord_of_toList_eq {w : BitVec 32} (hsize : b.offset < 2 ^ 64)
    (h : b.toList = before ++ (Code.word w).bytes ++ after) :
    b.readWord before.length = .ok w := by
  have hle : before.length + 4 ≤ b.bytes.size := length_le_offset h
  have hzero : b.bytes[before.length] = Code.byteAt w 0 :=
    bytes_getElem_of_toList_eq (i := 0) h (by simp [Code.bytes]) (by omega)
  have hone : b.bytes[before.length + 1] = Code.byteAt w 1 :=
    bytes_getElem_of_toList_eq h (by simp [Code.bytes]) (by omega)
  have htwo : b.bytes[before.length + 2] = Code.byteAt w 2 :=
    bytes_getElem_of_toList_eq h (by simp [Code.bytes]) (by omega)
  have hthree : b.bytes[before.length + 3] = Code.byteAt w 3 :=
    bytes_getElem_of_toList_eq h (by simp [Code.bytes]) (by omega)
  rw [offset] at hsize
  rw [readWord, Checked.add_bind_eq_ok_iff]
  refine ⟨by omega, ?_⟩
  rw [dif_pos hle, hzero, hone, htwo, hthree, Code.append_byteAt_word]
  rfl

theorem checkPatch_eq_ok_iff {p : Nat} {c : Code} {u : Unit} (hsize : b.offset < 2 ^ 64) :
    b.checkPatch p c = .ok u ↔ p + c.size ≤ b.offset := by
  rw [checkPatch, Checked.add_bind_eq_ok_iff, require_eq_ok_iff]
  exact and_iff_right_of_imp fun h => by omega

theorem displacementAt_of_toList_eq {r : Reference} {c : Code} (hsize : b.offset < 2 ^ 64)
    (h : b.toList = before ++ c.bytes ++ after) (hp : r.offset = before.length)
    (hc : c.size = r.kind.length) : b.displacementAt r = .ok (c.displacement r.kind) := by
  obtain ⟨p, k⟩ := r
  subst hp
  cases k <;> cases c <;> simp only [Code.size, ReferenceKind.length, Nat.reduceEqDiff] at hc
  case branch.word w =>
    rw [displacementAt, readWord_of_toList_eq hsize h]
    rfl
  case jal.word w =>
    rw [displacementAt, readWord_of_toList_eq hsize h]
    rfl
  case cBranch.half w =>
    rw [displacementAt, readHalf_of_toList_eq hsize h]
    rfl
  case cJump.half w =>
    rw [displacementAt, readHalf_of_toList_eq hsize h]
    rfl

/-- The instruction at a reference is the one written there, redirected. -/
theorem redirected_eq_ok_iff {r : Reference} {c c' : Code} {d : BitVec 32}
    (hsize : b.offset < 2 ^ 64) (h : b.toList = before ++ c.bytes ++ after)
    (hp : r.offset = before.length) (hc : c.size = r.kind.length) :
    b.redirected r d = .ok c' ↔ r.kind.fits (d.signExtend 64) ∧ c' = c.redirect r.kind d := by
  obtain ⟨p, k⟩ := r
  subst hp
  cases k <;> cases c <;> simp only [Code.size, ReferenceKind.length, Nat.reduceEqDiff] at hc
  case branch.word w =>
    simp only [redirected, readWord_of_toList_eq hsize h, bind_eq_ok_iff, Except.ok.injEq,
      exists_eq_left', Displacement.patchBranch_eq_ok_iff, pure, Except.pure, and_assoc,
      exists_and_left, exists_eq_left]
    exact and_congr_right fun _ => eq_comm
  case jal.word w =>
    simp only [redirected, readWord_of_toList_eq hsize h, bind_eq_ok_iff, Except.ok.injEq,
      exists_eq_left', Displacement.patchJump_eq_ok_iff, pure, Except.pure, and_assoc,
      exists_and_left, exists_eq_left]
    exact and_congr_right fun _ => eq_comm
  case cBranch.half w =>
    simp only [redirected, readHalf_of_toList_eq hsize h, bind_eq_ok_iff, Except.ok.injEq,
      exists_eq_left', Displacement.patchCompactBranch_eq_ok_iff, pure, Except.pure, and_assoc,
      exists_and_left, exists_eq_left]
    exact and_congr_right fun _ => eq_comm
  case cJump.half w =>
    simp only [redirected, readHalf_of_toList_eq hsize h, bind_eq_ok_iff, Except.ok.injEq,
      exists_eq_left', Displacement.patchCompactJump_eq_ok_iff, pure, Except.pure, and_assoc,
      exists_and_left, exists_eq_left]
    exact and_congr_right fun _ => eq_comm

/-- A reference to an instruction in the buffer is resolved when the distance to its target has a
64-bit value that fits. What is written is the distance without its upper half. -/
theorem resolved_eq_ok_iff {r : Reference} {target : Nat} {c c' : Code}
    (hsize : b.offset < 2 ^ 64) (h : b.toList = before ++ c.bytes ++ after)
    (hp : r.offset = before.length) (hc : c.size = r.kind.length) :
    b.resolved r target = .ok c' ↔
      ∃ d, distance r.offset target = .ok d ∧ r.kind.fits d ∧
        c' = c.redirect r.kind (d.setWidth 32) := by
  have hroom : ∀ d : BitVec 32, r.offset + (c.redirect r.kind d).size ≤ b.offset := by
    intro d
    rw [Code.size_redirect, hp, ← Code.length_bytes]
    exact length_le_offset h
  simp only [resolved, bind_eq_ok_iff, require_eq_ok_iff, redirected_eq_ok_iff hsize h hp hc,
    checkPatch_eq_ok_iff hsize, pure, Except.pure, Except.ok.injEq]
  constructor
  · rintro ⟨d, hd, _, hfits, _, ⟨-, rfl⟩, _, -, rfl⟩
    exact ⟨d, hd, hfits, rfl⟩
  · rintro ⟨d, hd, hfits, rfl⟩
    refine ⟨d, hd, (), hfits, _, ⟨?_, rfl⟩, (), hroom _, rfl⟩
    exact r.kind.fits_signExtend_setWidth hfits

/-- Within 2 GiB a reference is resolved exactly when the encoder accepts its displacement. -/
theorem resolved_eq_ok_iff_of_near {r : Reference} {target : Nat} {c c' : Code}
    (hsize : b.offset ≤ 2 ^ 31) (htarget : target ≤ 2 ^ 31)
    (h : b.toList = before ++ c.bytes ++ after) (hp : r.offset = before.length)
    (hc : c.size = r.kind.length) :
    b.resolved r target = .ok c' ↔
      r.kind.fits ((between r.offset target).signExtend 64) ∧
        c' = c.redirect r.kind (between r.offset target) := by
  have hle : r.offset + c.size ≤ b.offset := by
    rw [hp, ← Code.length_bytes]
    exact length_le_offset h
  have hpos : 0 < c.size := by
    cases c <;> exact Nat.succ_pos _
  simp only [resolved_eq_ok_iff (by omega) h hp hc,
    distance_eq_ok_iff (show r.offset < 2 ^ 63 by omega) (show target < 2 ^ 63 by omega),
    exists_eq_left, setWidth_ofInt_sub, r.kind.fits_ofInt_iff (show _ ≤ _ by omega)
      (show (target : Int) - r.offset ≤ 2 ^ 31 by omega)]

theorem toList_overwrite_of_toList_eq {c c' : Code} (h : b.toList = before ++ c.bytes ++ after)
    (hc : c'.size = c.size) :
    (b.overwrite before.length c').toList = before ++ c'.bytes ++ after := by
  have hlen : c'.size = c.bytes.length := by
    rw [hc, Code.length_bytes]
  have hle : before.length + c'.size ≤ b.offset := by
    rw [hlen]
    exact length_le_offset h
  rw [toList_overwrite b _ _ hle, h, hlen, ← List.length_append, List.drop_left,
    List.append_assoc before, List.take_left]

end CodeBuffer

end RiscvAssembler
