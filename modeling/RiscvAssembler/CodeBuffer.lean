import RiscvAssembler.Code

/-!
# Code buffers

A buffer holds the bytes emitted so far and never more than its capacity. Code is appended at the
end; what has been emitted can be read back and overwritten in place. Facts about a buffer are
stated on the list of its bytes.
-/

namespace RiscvAssembler

structure CodeBuffer where
  capacity : Nat
  bytes : ByteArray
  size_le : bytes.size ≤ capacity

namespace CodeBuffer

/-- Bytes in a page. Capacities are multiples of it. -/
def pageSize : Nat :=
  4096

/-- The capacity of a buffer for which none is asked: 1 MiB. -/
def defaultSize : Nat :=
  1024 * 1024

def empty (capacity : Nat) : CodeBuffer :=
  ⟨capacity, ByteArray.empty, Nat.zero_le _⟩

/-- An empty buffer of at least `size` bytes, and at least one, in whole pages. -/
def allocate (size : Nat) : Except Fault CodeBuffer := do
  let padded ← Checked.add 64 (max size 1) pageSize
  return empty ((padded - 1) / pageSize * pageSize)

/-- Where the next instruction goes. -/
def offset (b : CodeBuffer) : Nat :=
  b.bytes.size

def remaining (b : CodeBuffer) : Nat :=
  b.capacity - b.offset

/-- The emitted bytes. -/
def toList (b : CodeBuffer) : List UInt8 :=
  b.bytes.data.toList

theorem ext {b c : CodeBuffer} (capacity : b.capacity = c.capacity)
    (toList : b.toList = c.toList) : b = c := by
  rcases b with ⟨_, ⟨xs⟩, _⟩
  rcases c with ⟨_, ⟨ys⟩, _⟩
  obtain rfl : xs = ys := Array.toList_inj.1 toList
  subst capacity
  rfl

theorem length_toList (b : CodeBuffer) : b.toList.length = b.offset :=
  Array.length_toList

theorem toList_empty (capacity : Nat) : (empty capacity).toList = [] :=
  rfl

/-- Refuses offsets past the capacity. -/
def checkAddress (b : CodeBuffer) (offset : Nat) : Except Fault Nat := do
  require (offset ≤ b.capacity) .addressOutside
  return offset

def appendBytes (bs : ByteArray) : List UInt8 → ByteArray
  | [] => bs
  | x :: xs => appendBytes (bs.push x) xs

theorem toList_appendBytes (bs : ByteArray) (xs : List UInt8) :
    (appendBytes bs xs).data.toList = bs.data.toList ++ xs := by
  induction xs generalizing bs with
  | nil => simp [appendBytes]
  | cons x xs ih =>
    have hpush : (bs.push x).data.toList = bs.data.toList ++ [x] := Array.toList_push
    rw [appendBytes, ih, hpush, List.append_assoc, List.singleton_append]

theorem size_appendBytes (bs : ByteArray) (xs : List UInt8) :
    (appendBytes bs xs).size = bs.size + xs.length := by
  induction xs generalizing bs with
  | nil => rfl
  | cons x xs ih => simp only [appendBytes, ih, ByteArray.size_push, List.length_cons]; omega

def overwriteBytes (bs : ByteArray) (offset : Nat) : List UInt8 → ByteArray
  | [] => bs
  | x :: xs => overwriteBytes (bs.set! offset x) (offset + 1) xs

theorem size_overwriteBytes (bs : ByteArray) (offset : Nat) (xs : List UInt8) :
    (overwriteBytes bs offset xs).size = bs.size := by
  induction xs generalizing bs offset with
  | nil => rfl
  | cons x xs ih =>
    rw [overwriteBytes, ih]
    exact Array.size_setIfInBounds

theorem toList_overwriteBytes (bs : ByteArray) (offset : Nat) (xs : List UInt8)
    (h : offset + xs.length ≤ bs.size) :
    (overwriteBytes bs offset xs).data.toList =
      bs.data.toList.take offset ++ xs ++ bs.data.toList.drop (offset + xs.length) := by
  induction xs generalizing bs offset with
  | nil => simp [overwriteBytes]
  | cons x xs ih =>
    have hsize : (bs.set! offset x).size = bs.size := Array.size_setIfInBounds
    have hset : (bs.set! offset x).data.toList = bs.data.toList.set offset x :=
      Array.toList_setIfInBounds ..
    rw [List.length_cons] at h
    have hlt : offset < bs.data.toList.length := by
      rw [Array.length_toList, ByteArray.size_data]
      omega
    have htake : (bs.data.toList.take offset).length = offset :=
      List.length_take_of_le (Nat.le_of_lt hlt)
    rw [overwriteBytes, ih _ _ (by omega), hset, List.take_set, List.drop_set_of_lt (by omega),
      List.take_succ_eq_append_getElem hlt, List.set_append_right _ _ (by omega), htake]
    simp [Nat.add_assoc, Nat.add_comm 1]

/-- Appends code for which there is room. -/
def append (b : CodeBuffer) (c : Code) (room : c.size ≤ b.remaining) : CodeBuffer where
  capacity := b.capacity
  bytes := appendBytes b.bytes c.bytes
  size_le := by
    have := b.size_le
    rw [size_appendBytes, Code.length_bytes]
    simp only [remaining, offset] at room
    omega

theorem toList_append (b : CodeBuffer) (c : Code) (room : c.size ≤ b.remaining) :
    (b.append c room).toList = b.toList ++ c.bytes :=
  toList_appendBytes b.bytes c.bytes

theorem offset_append (b : CodeBuffer) (c : Code) (room : c.size ≤ b.remaining) :
    (b.append c room).offset = b.offset + c.size := by
  rw [offset, append, size_appendBytes, Code.length_bytes, offset]

/-- Replaces the code at `offset`; bytes outside the buffer are left out. -/
def overwrite (b : CodeBuffer) (offset : Nat) (c : Code) : CodeBuffer where
  capacity := b.capacity
  bytes := overwriteBytes b.bytes offset c.bytes
  size_le := by rw [size_overwriteBytes]; exact b.size_le

theorem toList_overwrite (b : CodeBuffer) (offset : Nat) (c : Code)
    (h : offset + c.size ≤ b.offset) :
    (b.overwrite offset c).toList =
      b.toList.take offset ++ c.bytes ++ b.toList.drop (offset + c.size) := by
  rw [← Code.length_bytes] at h ⊢
  exact toList_overwriteBytes b.bytes offset c.bytes h

theorem offset_overwrite (b : CodeBuffer) (offset : Nat) (c : Code) :
    (b.overwrite offset c).offset = b.offset :=
  size_overwriteBytes b.bytes offset c.bytes

def emit (b : CodeBuffer) (c : Code) : Except Fault CodeBuffer :=
  if room : c.size ≤ b.remaining then .ok (b.append c room) else .error .bufferFull

/-- Refuses to replace what has not been emitted. -/
def checkPatch (b : CodeBuffer) (offset : Nat) (c : Code) : Except Fault Unit := do
  require ((← Checked.add 64 offset c.size) ≤ b.offset) .patchOutside

def patch (b : CodeBuffer) (offset : Nat) (c : Code) : Except Fault CodeBuffer := do
  b.checkPatch offset c
  return b.overwrite offset c

def readHalf (b : CodeBuffer) (offset : Nat) : Except Fault (BitVec 16) := do
  let _ ← Checked.add 64 offset 2
  if h : offset + 2 ≤ b.bytes.size then
    return b.bytes[offset + 1].toBitVec ++ b.bytes[offset].toBitVec
  else
    throw (.readOutside 2)

def readWord (b : CodeBuffer) (offset : Nat) : Except Fault (BitVec 32) := do
  let _ ← Checked.add 64 offset 4
  if h : offset + 4 ≤ b.bytes.size then
    return b.bytes[offset + 3].toBitVec ++ b.bytes[offset + 2].toBitVec ++
      b.bytes[offset + 1].toBitVec ++ b.bytes[offset].toBitVec
  else
    throw (.readOutside 4)

end CodeBuffer

end RiscvAssembler
