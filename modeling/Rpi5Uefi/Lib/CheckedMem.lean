import Rpi5Uefi.Lib.Bytes

/-!
# Memory with checked accesses

A buffer is the first `size` bytes of a `Mem`. Here every single access is checked: one outside the
buffer is `none`, and ends what is done. Where a loop over bytes stays inside it is the operation of
`Bytes` on the whole range.

* **`readAt`**, **`writeAt`**: one byte.
* **`be32At_eq`**, **`putBytesAt_eq`**, **`fillAt_eq`**: a word that is read, a list that is
  copied, a range that is set.
-/

namespace Bytes

def readAt (size : Nat) (m : Mem) (i : Nat) : Option UInt8 :=
  if i < size then some (m i) else none

def writeAt (size : Nat) (m : Mem) (i : Nat) (b : UInt8) : Option Mem :=
  if i < size then some (m.write i [b]) else none

/-- The four bytes of a big-endian word. -/
def be32At (size : Nat) (m : Mem) (off : Nat) : Option Nat := do
  let b0 ← readAt size m off
  let b1 ← readAt size m (off + 1)
  let b2 ← readAt size m (off + 2)
  let b3 ← readAt size m (off + 3)
  some (b0.toNat * 2 ^ 24 + b1.toNat * 2 ^ 16 + b2.toNat * 2 ^ 8 + b3.toNat)

/-- Copy a list, byte by byte. -/
def putBytesAt (size : Nat) (m : Mem) (off : Nat) : List UInt8 → Option Mem
  | [] => some m
  | b :: bytes => do
    let m ← writeAt size m off b
    putBytesAt size m (off + 1) bytes

/-- Set `n` bytes, one by one. -/
def fillAt (size : Nat) (m : Mem) (off : Nat) (b : UInt8) : Nat → Option Mem
  | 0 => some m
  | n + 1 => do
    let m ← writeAt size m off b
    fillAt size m (off + 1) b n

variable {size off n i : Nat} {m : Mem}

theorem readAt_eq (h : i < size) (m : Mem) : readAt size m i = some (m i) := if_pos h

theorem writeAt_eq (h : i < size) (m : Mem) (b : UInt8) :
    writeAt size m i b = some (m.write i [b]) := if_pos h

theorem be32At_eq (h : off + 4 ≤ size) (m : Mem) : be32At size m off = some (be32 m off) := by
  unfold be32At
  rw [readAt_eq (by omega), readAt_eq (by omega), readAt_eq (by omega), readAt_eq (by omega)]
  rfl

/-- A list is written from its first byte on. -/
theorem Mem.write_cons (m : Mem) (off : Nat) (b : UInt8) (bytes : List UInt8) :
    (m.write off [b]).write (off + 1) bytes = m.write off (b :: bytes) := by
  funext i
  rcases Nat.lt_trichotomy i off with hlt | rfl | hgt
  · rw [Mem.write_of_lt _ (by omega), Mem.write_of_lt _ hlt, Mem.write_of_lt _ hlt]
  · rw [Mem.write_of_lt _ (by omega)]
    simp [Mem.write]
  · have hsplit : i - off = i - (off + 1) + 1 := by omega
    have hfirst : m.write off [b] i = m i :=
      Mem.write_of_ge _ (by simp only [List.length_singleton]; omega)
    show (if off + 1 ≤ i then bytes[i - (off + 1)]?.getD (m.write off [b] i)
      else m.write off [b] i) = if off ≤ i then (b :: bytes)[i - off]?.getD (m i) else m i
    rw [if_pos (by omega), if_pos (by omega), hfirst, hsplit, List.getElem?_cons_succ]

theorem Mem.fill_zero (m : Mem) (off : Nat) (b : UInt8) : m.fill off 0 b = m := by
  funext i
  exact Mem.fill_of_outside b (by omega)

theorem Mem.fill_succ (m : Mem) (off n : Nat) (b : UInt8) :
    (m.write off [b]).fill (off + 1) n b = m.fill off (n + 1) b := by
  funext i
  rcases Nat.lt_trichotomy i off with hlt | rfl | hgt
  · rw [Mem.fill_of_outside b (by omega), Mem.write_of_lt _ hlt, Mem.fill_of_outside b (by omega)]
  · rw [Mem.fill_of_outside b (by omega), Mem.fill_inside b (by omega) (by omega)]
    simp [Mem.write]
  · have hfirst : m.write off [b] i = m i :=
      Mem.write_of_ge _ (by simp only [List.length_singleton]; omega)
    simp only [Mem.fill, hfirst]
    by_cases hin : i < off + (n + 1)
    · rw [if_pos (by omega), if_pos (by omega)]
    · rw [if_neg (by omega), if_neg (by omega)]

theorem putBytesAt_eq {bytes : List UInt8} (h : off + bytes.length ≤ size) (m : Mem) :
    putBytesAt size m off bytes = some (m.write off bytes) := by
  induction bytes generalizing off m with
  | nil => rw [Mem.write_nil, putBytesAt]
  | cons b bytes ih =>
    rw [List.length_cons] at h
    have hrest : off + 1 + bytes.length ≤ size := by omega
    unfold putBytesAt
    rw [writeAt_eq (by omega)]
    show putBytesAt size (m.write off [b]) (off + 1) bytes = _
    rw [ih hrest, Mem.write_cons]

theorem putBe32At_eq (h : off + 4 ≤ size) (m : Mem) (v : Nat) :
    putBytesAt size m off (be32Bytes v) = some (putBe32 m off v) := putBytesAt_eq h m

theorem putLe32At_eq (h : off + 4 ≤ size) (m : Mem) (v : Nat) :
    putBytesAt size m off (le32Bytes v) = some (putLe32 m off v) := putBytesAt_eq h m

theorem fillAt_eq (h : off + n ≤ size) (m : Mem) (b : UInt8) :
    fillAt size m off b n = some (m.fill off n b) := by
  induction n generalizing off m with
  | zero => rw [Mem.fill_zero, fillAt]
  | succ n ih =>
    have hrest : off + 1 + n ≤ size := by omega
    unfold fillAt
    rw [writeAt_eq (by omega)]
    show fillAt size (m.write off [b]) (off + 1) b n = _
    rw [ih hrest, Mem.fill_succ]

end Bytes
