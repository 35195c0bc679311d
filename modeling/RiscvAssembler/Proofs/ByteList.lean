import RiscvAssembler.Proofs.Placement
import Mathlib.Order.Bounds.Basic

/-!
# A code buffer is a list of bytes

`Access` is what may be done to a code buffer: code of either length is appended, replaced or read.
Two simpler machines take the same accesses. A `ByteList` appends and splices little-endian bytes; a
`WriteLog` keeps what was written and where, and reads every byte off the latest write that covers
it, so that writes of two lengths may overlap. One access leads related states to related states and
gets the same answer (`CodeBuffer.Represents.step`, `ByteList.Matches.step`), and
`Access.run_refines` carries this over whole runs. A refused access leaves each machine as it was.
-/

namespace RiscvAssembler

inductive Access
  | emit (c : Code)
  | patch (p : Nat) (c : Code)
  | readHalf (p : Nat)
  | readWord (p : Nat)
  deriving DecidableEq

inductive Answer
  | refused
  | done
  | value (c : Code)
  deriving DecidableEq

/-- The code whose bytes, least significant first, are the given ones. -/
def Code.ofBytes? : List UInt8 → Option Code
  | [x, y] => some (.half (y.toBitVec ++ x.toBitVec))
  | [x, y, z, w] => some (.word (w.toBitVec ++ z.toBitVec ++ y.toBitVec ++ x.toBitVec))
  | _ => none

theorem Code.ofBytes?_bytes (c : Code) : ofBytes? c.bytes = some c := by
  cases c with
  | half w => exact congrArg (fun v => some (half v)) (append_byteAt_half w)
  | word w => exact congrArg (fun v => some (word v)) (append_byteAt_word w)

theorem Code.ofBytes?_eq_some_iff {xs : List UInt8} {c : Code} :
    ofBytes? xs = some c ↔ c.bytes = xs := by
  constructor
  · intro h
    unfold ofBytes? at h
    split at h
    · cases h
      simp only [bytes, byteAt_append_zero, byteAt_append_succ, byteAt_toBitVec]
    · cases h
      simp only [bytes, byteAt_append_zero, byteAt_append_succ, byteAt_toBitVec]
    · cases h
  · rintro rfl
    exact ofBytes?_bytes c

/-- The answer to a read that finds these bytes. -/
def Answer.ofBytes (xs : List UInt8) : Answer :=
  ((Code.ofBytes? xs).map value).getD refused

/-! ## Runs -/

section Run

variable {σ τ : Type} (step : σ → Access → σ × Answer) (step' : τ → Access → τ × Answer)

/-- The state after a list of accesses, and the answer to each. -/
def Access.run (s : σ) : List Access → σ × List Answer
  | [] => (s, [])
  | a :: rest => ((run (step s a).1 rest).1, (step s a).2 :: (run (step s a).1 rest).2)

variable {step step'}

/-- Machines that match access by access match over whole runs. -/
theorem Access.run_refines {R : σ → τ → Prop}
    (hstep : ∀ s t a, R s t → R (step s a).1 (step' t a).1 ∧ (step s a).2 = (step' t a).2)
    {s : σ} {t : τ} (h : R s t) (accesses : List Access) :
    R (run step s accesses).1 (run step' t accesses).1 ∧
      (run step s accesses).2 = (run step' t accesses).2 := by
  induction accesses generalizing s t with
  | nil => exact ⟨h, rfl⟩
  | cons a rest ih =>
    obtain ⟨hnext, hanswer⟩ := hstep s t a h
    obtain ⟨hlast, hanswers⟩ := ih hnext
    exact ⟨hlast, congrArg₂ List.cons hanswer hanswers⟩

end Run

/-! ## The machines -/

namespace CodeBuffer

/-- The buffer after a write, and the answer to it. A failed write leaves the buffer as it was. -/
def settle (b : CodeBuffer) : Except Fault CodeBuffer → CodeBuffer × Answer
  | .ok b' => (b', .done)
  | .error _ => (b, .refused)

def reply (b : CodeBuffer) : Except Fault Code → CodeBuffer × Answer
  | .ok c => (b, .value c)
  | .error _ => (b, .refused)

def step (b : CodeBuffer) : Access → CodeBuffer × Answer
  | .emit c => b.settle (b.emit c)
  | .patch p c => b.settle (b.patch p c)
  | .readHalf p => b.reply (.half <$> b.readHalf p)
  | .readWord p => b.reply (.word <$> b.readWord p)

end CodeBuffer

namespace ByteList

/-- The list with `ys` in place of as many bytes at `p`, or with more of them past its end. -/
def splice (xs : List UInt8) (p : Nat) (ys : List UInt8) : List UInt8 :=
  xs.take p ++ ys ++ xs.drop (p + ys.length)

def slice (xs : List UInt8) (p n : Nat) : List UInt8 :=
  (xs.drop p).take n

def read (xs : List UInt8) (p n : Nat) : Answer :=
  if xs.length < p + n then .refused else .ofBytes (slice xs p n)

/-- An access to the bytes of a buffer that has room for `capacity` of them. -/
def step (capacity : Nat) (xs : List UInt8) : Access → List UInt8 × Answer
  | .emit c =>
    if capacity - xs.length < c.size then (xs, .refused) else (xs ++ c.bytes, .done)
  | .patch p c =>
    if xs.length < p + c.size then (xs, .refused) else (splice xs p c.bytes, .done)
  | .readHalf p => (xs, read xs p 2)
  | .readWord p => (xs, read xs p 4)

end ByteList

/-- What was written and where, the latest write first, and how many bytes that makes. -/
structure WriteLog where
  length : Nat
  writes : List (Nat × Code)

namespace WriteLog

def empty : WriteLog :=
  ⟨0, []⟩

/-- The byte at `i` of code written at `p`. -/
def written (i : Nat) : Nat × Code → Option UInt8
  | (p, c) => if p ≤ i then c.bytes[i - p]? else none

/-- The byte at `i`: that of the latest write that covers it. -/
def latest (l : WriteLog) (i : Nat) : Option UInt8 :=
  l.writes.findSome? (written i)

def read (l : WriteLog) (p n : Nat) : Answer :=
  if l.length < p + n then .refused else .ofBytes ((List.range' p n).filterMap l.latest)

def step (capacity : Nat) (l : WriteLog) : Access → WriteLog × Answer
  | .emit c =>
    if capacity - l.length < c.size then (l, .refused)
    else (⟨l.length + c.size, (l.length, c) :: l.writes⟩, .done)
  | .patch p c =>
    if l.length < p + c.size then (l, .refused)
    else (⟨l.length, (p, c) :: l.writes⟩, .done)
  | .readHalf p => (l, l.read p 2)
  | .readWord p => (l, l.read p 4)

end WriteLog

/-! ## Buffers and byte lists -/

namespace CodeBuffer

variable {b : CodeBuffer} {p : Nat} {c : Code}

theorem remaining_eq (b : CodeBuffer) : b.remaining = b.capacity - b.toList.length := by
  rw [remaining, length_toList]

theorem emit_cases (b : CodeBuffer) (c : Code) :
    (b.remaining < c.size ∧ b.emit c = .error .bufferFull) ∨
      ∃ room : c.size ≤ b.remaining, b.emit c = .ok (b.append c room) := by
  by_cases room : c.size ≤ b.remaining
  · exact .inr ⟨room, by rw [emit, dif_pos room]⟩
  · exact .inl ⟨Nat.not_le.mp room, by rw [emit, dif_neg room]⟩

theorem patch_cases (hsize : b.offset < 2 ^ 64) (p : Nat) (c : Code) :
    (b.offset < p + c.size ∧ ∃ f, b.patch p c = .error f) ∨
      p + c.size ≤ b.offset ∧ b.patch p c = .ok (b.overwrite p c) := by
  cases hcheck : b.checkPatch p c with
  | error f =>
    have hle : ¬ p + c.size ≤ b.offset := by
      rw [← checkPatch_eq_ok_iff (u := ()) hsize, hcheck]
      simp
    exact .inl ⟨Nat.not_le.mp hle, f, by rw [patch, hcheck]; rfl⟩
  | ok u => exact .inr ⟨(checkPatch_eq_ok_iff hsize).1 hcheck, by rw [patch, hcheck]; rfl⟩

theorem slice_toList {n : Nat} (h : p + (n + 1) ≤ b.bytes.size) :
    ByteList.slice b.toList p (n + 1) = b.bytes[p] :: ByteList.slice b.toList (p + 1) n := by
  have hlt : p < b.toList.length := by
    rw [length_toList, offset]
    omega
  rw [ByteList.slice, List.drop_eq_getElem_cons hlt, List.take_succ_cons]
  rfl

theorem add_eq_ok_of_le (hsize : b.offset < 2 ^ 64) {n : Nat} (h : p + n ≤ b.bytes.size) :
    Checked.add 64 p n = .ok (p + n) :=
  Checked.add_eq_ok_iff.2 ⟨by rw [offset] at hsize; omega, rfl⟩

/-- A read of either width tests its bounds, and then puts together the bytes that lie there. -/
theorem reply_read (hsize : b.offset < 2 ^ 64) {α : Type} (code : α → Code) {p n : Nat}
    {value : p + n ≤ b.bytes.size → α}
    (hvalue : ∀ h, Answer.ofBytes (ByteList.slice b.toList p n) = .value (code (value h))) :
    b.reply (code <$> do
        let _ ← Checked.add 64 p n
        if h : p + n ≤ b.bytes.size then return value h else throw (.readOutside n)) =
      (b, ByteList.read b.toList p n) := by
  rw [ByteList.read, length_toList, offset]
  by_cases hle : p + n ≤ b.bytes.size
  · rw [if_neg (Nat.not_lt.mpr hle), hvalue hle, add_eq_ok_of_le hsize hle]
    simp only [dif_pos hle]
    rfl
  · rw [if_pos (Nat.not_le.mp hle)]
    simp only [dif_neg hle]
    cases Checked.add 64 p n <;> rfl

theorem reply_readHalf (hsize : b.offset < 2 ^ 64) (p : Nat) :
    b.reply (.half <$> b.readHalf p) = (b, ByteList.read b.toList p 2) := by
  refine reply_read hsize .half fun hle => ?_
  rw [slice_toList hle, slice_toList (p := p + 1) hle]
  rfl

theorem reply_readWord (hsize : b.offset < 2 ^ 64) (p : Nat) :
    b.reply (.word <$> b.readWord p) = (b, ByteList.read b.toList p 4) := by
  refine reply_read hsize .word fun hle => ?_
  rw [slice_toList hle, slice_toList (p := p + 1) hle, slice_toList (p := p + 2) hle,
    slice_toList (p := p + 3) hle]
  rfl

/-- The buffer has this capacity and these bytes. -/
def Represents (capacity : Nat) (b : CodeBuffer) (xs : List UInt8) : Prop :=
  b.capacity = capacity ∧ b.toList = xs

theorem Represents.step {capacity : Nat} {xs : List UInt8} (h : Represents capacity b xs)
    (hsize : capacity < 2 ^ 64) (a : Access) :
    Represents capacity (b.step a).1 (ByteList.step capacity xs a).1 ∧
      (b.step a).2 = (ByteList.step capacity xs a).2 := by
  obtain ⟨rfl, rfl⟩ := h
  have hoffset : b.offset < 2 ^ 64 := lt_of_le_of_lt b.size_le hsize
  cases a with
  | emit c =>
    obtain ⟨hfull, heq⟩ | ⟨room, heq⟩ := b.emit_cases c
    · rw [CodeBuffer.step, heq, ByteList.step, ← remaining_eq, if_pos hfull]
      exact ⟨⟨rfl, rfl⟩, rfl⟩
    · rw [CodeBuffer.step, heq, ByteList.step, ← remaining_eq, if_neg (Nat.not_lt.mpr room)]
      exact ⟨⟨rfl, toList_append b c room⟩, rfl⟩
  | patch p c =>
    obtain ⟨hout, f, heq⟩ | ⟨hle, heq⟩ := b.patch_cases hoffset p c
    · rw [CodeBuffer.step, heq, ByteList.step, length_toList, if_pos hout]
      exact ⟨⟨rfl, rfl⟩, rfl⟩
    · have hbytes := toList_overwrite b p c hle
      rw [← c.length_bytes] at hbytes
      rw [CodeBuffer.step, heq, ByteList.step, length_toList, if_neg (Nat.not_lt.mpr hle)]
      exact ⟨⟨rfl, hbytes⟩, rfl⟩
  | readHalf p =>
    rw [CodeBuffer.step, reply_readHalf hoffset]
    exact ⟨⟨rfl, rfl⟩, rfl⟩
  | readWord p =>
    rw [CodeBuffer.step, reply_readWord hoffset]
    exact ⟨⟨rfl, rfl⟩, rfl⟩

theorem represents_empty (capacity : Nat) : Represents capacity (empty capacity) [] :=
  ⟨rfl, rfl⟩

end CodeBuffer

/-! ## Byte lists and write logs -/

namespace ByteList

theorem splice_length (xs ys : List UInt8) : splice xs xs.length ys = xs ++ ys := by
  rw [splice, List.take_length, List.drop_eq_nil_of_le (Nat.le_add_right _ _), List.append_nil]

theorem length_splice {xs ys : List UInt8} {p : Nat} (h : p + ys.length ≤ xs.length) :
    (splice xs p ys).length = xs.length := by
  rw [splice, List.length_append, List.length_append, List.length_take, List.length_drop]
  omega

theorem getElem?_splice {xs : List UInt8} {p : Nat} (h : p ≤ xs.length) (c : Code) (i : Nat) :
    (splice xs p c.bytes)[i]? = (WriteLog.written i (p, c)).or xs[i]? := by
  have htake : (xs.take p).length = p := List.length_take_of_le h
  rw [splice, List.append_assoc, WriteLog.written]
  by_cases hi : i < p
  · rw [List.getElem?_append_left (htake.symm ▸ hi), List.getElem?_take_of_lt hi,
      if_neg (Nat.not_le.mpr hi), Option.none_or]
  · rw [List.getElem?_append_right (by omega), htake, if_pos (Nat.not_lt.mp hi)]
    by_cases hcovered : i - p < c.bytes.length
    · rw [List.getElem?_append_left hcovered, List.getElem?_eq_getElem hcovered, Option.some_or]
    · rw [List.getElem?_append_right (by omega), List.getElem?_drop,
        List.getElem?_eq_none (Nat.not_lt.mp hcovered), Option.none_or]
      congr 1
      omega

theorem slice_eq_filterMap {xs : List UInt8} {p n : Nat} (h : p + n ≤ xs.length) :
    slice xs p n = (List.range' p n).filterMap (fun i => xs[i]?) := by
  induction n generalizing p with
  | zero => simp [slice]
  | succ n ih =>
    have hlt : p < xs.length := by omega
    rw [slice, List.drop_eq_getElem_cons hlt, List.take_succ_cons, List.range'_succ,
      List.filterMap_cons, List.getElem?_eq_getElem hlt, ← ih (by omega)]
    rfl

theorem length_slice {xs : List UInt8} {p n : Nat} (h : p + n ≤ xs.length) :
    (slice xs p n).length = n := by
  rw [slice, List.length_take, List.length_drop]
  omega

/-- A read inside the list answers with the code whose bytes lie there. -/
theorem read_eq_value_iff {xs : List UInt8} {p n : Nat} (hn : n = 2 ∨ n = 4) {c : Code} :
    read xs p n = .value c ↔ p + n ≤ xs.length ∧ c.bytes = slice xs p n := by
  rw [read]
  split
  next hout => simp [Nat.not_le.mpr hout]
  next hle =>
    have hslice := length_slice (Nat.not_lt.mp hle)
    obtain ⟨d, hd⟩ : ∃ d : Code, d.bytes = slice xs p n := by
      rcases hn with rfl | rfl
      · exact Code.exists_bytes_eq .cBranch hslice
      · exact Code.exists_bytes_eq .branch hslice
    rw [Answer.ofBytes, Code.ofBytes?_eq_some_iff.2 hd]
    simp only [Option.map_some, Option.getD_some, Answer.value.injEq, Nat.not_lt.mp hle, true_and]
    rw [← Code.ofBytes?_eq_some_iff, ← hd, Code.ofBytes?_bytes, Option.some.injEq]

/-- A list of bytes and a log tell of the same bytes. -/
def Matches (xs : List UInt8) (l : WriteLog) : Prop :=
  xs.length = l.length ∧ ∀ i, xs[i]? = l.latest i

variable {xs : List UInt8} {l : WriteLog}

theorem Matches.read_eq (h : Matches xs l) (p n : Nat) : read xs p n = l.read p n := by
  obtain ⟨hlength, hlatest⟩ := h
  rw [read, WriteLog.read, hlength]
  split
  · rfl
  · rw [slice_eq_filterMap (by omega)]
    simp only [hlatest]

/-- One more write, at the end or in place. -/
theorem Matches.splice (h : Matches xs l) {p : Nat} (hp : p ≤ xs.length) {c : Code} {length : Nat}
    (hlength : (splice xs p c.bytes).length = length) :
    Matches (splice xs p c.bytes) ⟨length, (p, c) :: l.writes⟩ := by
  refine ⟨hlength, fun i => ?_⟩
  rw [getElem?_splice hp, h.2 i, WriteLog.latest, WriteLog.latest, List.findSome?_cons]
  cases WriteLog.written i (p, c) <;> rfl

theorem Matches.step (h : Matches xs l) (capacity : Nat) (a : Access) :
    Matches (step capacity xs a).1 (l.step capacity a).1 ∧
      (step capacity xs a).2 = (l.step capacity a).2 := by
  cases a with
  | emit c =>
    rw [ByteList.step, WriteLog.step, h.1]
    split
    · exact ⟨h, rfl⟩
    · have hmatches := h.splice (p := xs.length) le_rfl (c := c) rfl
      rw [splice_length, List.length_append, c.length_bytes, h.1] at hmatches
      exact ⟨hmatches, rfl⟩
  | patch p c =>
    rw [ByteList.step, WriteLog.step, h.1]
    split
    · exact ⟨h, rfl⟩
    next hroom =>
      have hle : p + c.bytes.length ≤ xs.length := by
        rw [c.length_bytes, h.1]
        omega
      exact ⟨h.splice (by omega) ((length_splice hle).trans h.1), rfl⟩
  | readHalf p => exact ⟨h, h.read_eq p 2⟩
  | readWord p => exact ⟨h, h.read_eq p 4⟩

theorem matches_empty : Matches [] .empty :=
  ⟨rfl, fun _ => rfl⟩

end ByteList

/-! ## A buffer from its allocation on -/

namespace CodeBuffer

/-- Rounding goes one page up before it comes down, and that sum has to be an address. -/
theorem allocate_eq_ok_iff {size : Nat} {b : CodeBuffer} :
    allocate size = .ok b ↔ max size 1 + pageSize < 2 ^ 64 ∧
      b = empty ((max size 1 + pageSize - 1) / pageSize * pageSize) := by
  rw [allocate, Checked.add_bind_eq_ok_iff]
  simp only [pure, Except.pure, Except.ok.injEq]
  exact and_congr_right fun _ => eq_comm

theorem isLeast_roundUp (n : Nat) :
    IsLeast {m | pageSize ∣ m ∧ n ≤ m} ((n + pageSize - 1) / pageSize * pageSize) := by
  refine ⟨⟨Nat.dvd_mul_left _ _, ?_⟩, ?_⟩
  · simp only [pageSize]
    omega
  · rintro m ⟨⟨k, rfl⟩, hle⟩
    simp only [pageSize] at hle ⊢
    omega

end CodeBuffer

end RiscvAssembler
