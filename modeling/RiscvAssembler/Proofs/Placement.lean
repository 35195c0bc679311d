import RiscvAssembler.Proofs.Resolution

/-!
# Code that lies in a buffer

A buffer holds a code at an offset when the bytes there are those of the code. A reference is
resolved when it designates code of its length and the distance to the target fits. The redirected
code then takes the place of the old one, and code apart from the reference stays where it is.
-/

namespace RiscvAssembler

/-- The instructions of two references share no byte. -/
def Reference.Apart (r t : Reference) : Prop :=
  r.offset + r.kind.length ≤ t.offset ∨ t.offset + t.kind.length ≤ r.offset

instance (r t : Reference) : Decidable (r.Apart t) :=
  inferInstanceAs (Decidable (_ ∨ _))

instance : Std.Symm Reference.Apart :=
  ⟨fun _ _ => Or.symm⟩

theorem ReferenceKind.length_pos (k : ReferenceKind) : 0 < k.length := by
  cases k <;> decide

theorem Reference.Apart.offset_ne {r t : Reference} (h : r.Apart t) : r.offset ≠ t.offset := by
  have hr := r.kind.length_pos
  have ht := t.kind.length_pos
  rcases h with h | h
  · omega
  · omega

namespace Code

theorem byteAt_append_zero {n : Nat} (w : BitVec n) (x : UInt8) :
    byteAt (w ++ x.toBitVec) 0 = x :=
  congrArg UInt8.ofBitVec BitVec.extractLsb'_append_eq_right

theorem byteAt_append_succ {n : Nat} (w : BitVec n) (x : UInt8) (i : Nat) :
    byteAt (w ++ x.toBitVec) (i + 1) = byteAt w i := by
  apply congrArg UInt8.ofBitVec
  apply BitVec.eq_of_getLsbD_eq
  intro j hj
  have hpast : ¬ 8 * (i + 1) + j < 8 := by omega
  have hindex : 8 * (i + 1) + j - 8 = 8 * i + j := by omega
  rw [BitVec.getLsbD_extractLsb', BitVec.getLsbD_extractLsb', BitVec.getLsbD_append,
    if_neg hpast, hindex]

theorem byteAt_toBitVec (x : UInt8) : byteAt x.toBitVec 0 = x :=
  congrArg UInt8.ofBitVec (BitVec.extractLsb'_eq_self)

/-- As many bytes as an instruction of kind `k` has are the bytes of a code. -/
theorem exists_bytes_eq (k : ReferenceKind) {xs : List UInt8} (h : xs.length = k.length) :
    ∃ c : Code, c.bytes = xs := by
  have hhalf : ∀ x y : UInt8, (half (y.toBitVec ++ x.toBitVec)).bytes = [x, y] := by
    intro x y
    simp only [bytes, byteAt_append_zero, byteAt_append_succ, byteAt_toBitVec]
  have hword : ∀ x y z w : UInt8,
      (word (w.toBitVec ++ z.toBitVec ++ y.toBitVec ++ x.toBitVec)).bytes = [x, y, z, w] := by
    intro x y z w
    simp only [bytes, byteAt_append_zero, byteAt_append_succ, byteAt_toBitVec]
  have hlength : k.length = 2 ∨ k.length = 4 := by
    cases k <;> decide
  rcases hlength with hk | hk
  · obtain ⟨x, y, rfl⟩ := List.length_eq_two.1 (h.trans hk)
    exact ⟨_, hhalf x y⟩
  · rw [hk] at h
    obtain ⟨x, xs, rfl⟩ := List.exists_cons_of_length_eq_add_one h
    obtain ⟨y, z, w, rfl⟩ := List.length_eq_three.1 (Nat.succ.inj h)
    exact ⟨_, hword x y z w⟩

end Code

namespace CodeBuffer

variable {b : CodeBuffer} {p q : Nat} {c c' e : Code} {r t : Reference} {target : Nat}

/-- The bytes at `p` are those of `c`. -/
def Holds (b : CodeBuffer) (p : Nat) (c : Code) : Prop :=
  ∃ before after, b.toList = before ++ c.bytes ++ after ∧ p = before.length

theorem Holds.le_offset (h : b.Holds p c) : p + c.size ≤ b.offset := by
  obtain ⟨before, after, hlist, rfl⟩ := h
  rw [← c.length_bytes]
  exact length_le_offset hlist

theorem holds_iff_getElem? :
    b.Holds p c ↔
      p + c.size ≤ b.offset ∧ ∀ i < c.size, b.toList[p + i]? = c.bytes[i]? := by
  constructor
  · intro h
    refine ⟨h.le_offset, ?_⟩
    obtain ⟨before, after, hlist, rfl⟩ := h
    intro i hi
    rw [hlist, List.append_assoc, List.getElem?_append_right (Nat.le_add_right _ _),
      Nat.add_sub_cancel_left, List.getElem?_append_left (c.length_bytes.symm ▸ hi)]
  · rintro ⟨hle, hget⟩
    rw [← length_toList] at hle
    have hbytes : (b.toList.drop p).take c.size = c.bytes := by
      apply List.ext_getElem?
      intro i
      by_cases hi : i < c.size
      · rw [List.getElem?_take_of_lt hi, List.getElem?_drop, hget i hi]
      · rw [List.getElem?_eq_none (by rw [List.length_take]; omega),
          List.getElem?_eq_none (by rw [c.length_bytes]; omega)]
    refine ⟨b.toList.take p, b.toList.drop (p + c.size), ?_, ?_⟩
    · rw [← hbytes, List.append_assoc, ← List.drop_drop, List.take_append_drop,
        List.take_append_drop]
    · rw [List.length_take, Nat.min_eq_left (by omega)]

/-- Where as many bytes lie as an instruction of kind `k` has, the buffer holds a code. -/
theorem exists_holds (k : ReferenceKind) (h : p + k.length ≤ b.offset) :
    ∃ c, b.Holds p c ∧ c.size = k.length := by
  rw [← length_toList] at h
  have hlength : ((b.toList.drop p).take k.length).length = k.length := by
    rw [List.length_take, List.length_drop]
    omega
  obtain ⟨c, hc⟩ := Code.exists_bytes_eq k hlength
  have hsize : c.size = k.length := by
    rw [← c.length_bytes, hc, hlength]
  refine ⟨c, holds_iff_getElem?.2 ⟨?_, ?_⟩, hsize⟩
  · rw [← length_toList, hsize]
    exact h
  · intro i hi
    rw [hc, List.getElem?_take_of_lt (hsize ▸ hi), List.getElem?_drop]

theorem Holds.displacementAt (h : b.Holds r.offset c) (hsize : b.offset < 2 ^ 64)
    (hc : c.size = r.kind.length) : b.displacementAt r = .ok (c.displacement r.kind) := by
  obtain ⟨before, after, hlist, hp⟩ := h
  exact displacementAt_of_toList_eq hsize hlist hp hc

/-! ## Replacing code -/

theorem Holds.overwrite (h : b.Holds p c) (hc : c'.size = c.size) :
    (b.overwrite p c').Holds p c' := by
  obtain ⟨before, after, hlist, rfl⟩ := h
  exact ⟨before, after, toList_overwrite_of_toList_eq hlist hc, rfl⟩

theorem getElem?_toList_overwrite_of_outside (hle : p + c.size ≤ b.offset) {i : Nat}
    (hi : i < p ∨ p + c.size ≤ i) : (b.overwrite p c).toList[i]? = b.toList[i]? := by
  have htake : (b.toList.take p).length = p := by
    rw [List.length_take, length_toList]
    omega
  rw [toList_overwrite _ _ _ hle, List.append_assoc]
  rcases hi with hi | hi
  · rw [List.getElem?_append_left (htake.symm ▸ hi), List.getElem?_take_of_lt hi]
  · rw [List.getElem?_append_right (by omega), List.getElem?_append_right
      (by rw [c.length_bytes]; omega), List.getElem?_drop, htake, c.length_bytes]
    congr 1
    omega

theorem Holds.overwrite_of_apart (h : b.Holds q e) (hle : p + c.size ≤ b.offset)
    (hapart : p + c.size ≤ q ∨ q + e.size ≤ p) : (b.overwrite p c).Holds q e := by
  obtain ⟨hq, hget⟩ := holds_iff_getElem?.1 h
  refine holds_iff_getElem?.2 ⟨(b.offset_overwrite p c).symm ▸ hq, ?_⟩
  intro i hi
  rw [getElem?_toList_overwrite_of_outside hle (by omega), hget i hi]

/-! ## Resolution -/

theorem size_of_redirected_eq_ok {d : BitVec 32} (h : b.redirected r d = .ok c) :
    c.size = r.kind.length := by
  obtain ⟨p, k⟩ := r
  cases k <;> simp only [redirected, bind_eq_ok_iff, pure, Except.pure, Except.ok.injEq] at h <;>
    obtain ⟨_, _, _, _, rfl⟩ := h <;> rfl

/-- A reference is resolved when the buffer holds code of its length and the distance fits. -/
theorem resolved_eq_ok_iff_holds (hsize : b.offset < 2 ^ 64) :
    b.resolved r target = .ok c' ↔
      ∃ d c, distance r.offset target = .ok d ∧ r.kind.fits d ∧ b.Holds r.offset c ∧
        c.size = r.kind.length ∧ c' = c.redirect r.kind (d.setWidth 32) := by
  constructor
  · intro h
    have hle : r.offset + r.kind.length ≤ b.offset := by
      simp only [resolved, bind_eq_ok_iff, checkPatch_eq_ok_iff hsize] at h
      obtain ⟨d, -, _, -, c, hc, _, hle, -⟩ := h
      rwa [size_of_redirected_eq_ok hc] at hle
    obtain ⟨c, hholds, hc⟩ := exists_holds r.kind hle
    obtain ⟨before, after, hlist, hp⟩ := id hholds
    obtain ⟨d, hd, hfits, hc'⟩ := (resolved_eq_ok_iff hsize hlist hp hc).1 h
    exact ⟨d, c, hd, hfits, hholds, hc, hc'⟩
  · rintro ⟨d, c, hd, hfits, ⟨before, after, hlist, hp⟩, hc, hc'⟩
    exact (resolved_eq_ok_iff hsize hlist hp hc).2 ⟨d, hd, hfits, hc'⟩

theorem exists_resolved_iff (hsize : b.offset < 2 ^ 64) :
    (∃ c, b.resolved r target = .ok c) ↔
      r.offset + r.kind.length ≤ b.offset ∧
        ∃ d, distance r.offset target = .ok d ∧ r.kind.fits d := by
  simp only [resolved_eq_ok_iff_holds hsize]
  constructor
  · rintro ⟨_, d, c, hd, hfits, hholds, hc, -⟩
    exact ⟨hc ▸ hholds.le_offset, d, hd, hfits⟩
  · rintro ⟨hle, d, hd, hfits⟩
    obtain ⟨c, hholds, hc⟩ := exists_holds r.kind hle
    exact ⟨_, d, c, hd, hfits, hholds, hc, rfl⟩

end CodeBuffer

end RiscvAssembler
