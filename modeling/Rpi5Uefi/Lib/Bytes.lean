import Mathlib.Algebra.Group.Nat.Defs
import Mathlib.Tactic.Common

/-!
# Byte-addressed memory

A `Mem` is the content of an address space, one byte per address. The three ways a program
changes it are here as total functions, each with the lemmas that say what is read back
afterwards:

* **`Mem.write`**: copy a list of bytes to an offset;
* **`Mem.fill`**: set a range to one byte;
* **`putBe32`, `putLe32`**: store a 32-bit word in either byte order.

`Mem.slice` reads a range back as a list. Every lemma is about one operation and one range, so
that a proof about a sequence of writes rewrites them away from the last to the first.
-/

namespace Bytes

/-- The content of a byte-addressed space. -/
abbrev Mem := Nat → UInt8

/-! ## Writing and filling ranges -/

/-- Copy `data` to `off`. -/
def Mem.write (m : Mem) (off : Nat) (data : List UInt8) : Mem :=
  fun i => if off ≤ i then (data[i - off]?).getD (m i) else m i

/-- Set the `n` bytes at `off` to `b`. -/
def Mem.fill (m : Mem) (off n : Nat) (b : UInt8) : Mem :=
  fun i => if off ≤ i ∧ i < off + n then b else m i

/-- The `n` bytes at `off`, lowest address first. -/
def Mem.slice (m : Mem) (off n : Nat) : List UInt8 :=
  (List.range n).map (fun i => m (off + i))

theorem Mem.write_of_lt {m : Mem} {off i : Nat} (data : List UInt8) (h : i < off) :
    m.write off data i = m i := by
  simp [Mem.write, Nat.not_le.mpr h]

theorem Mem.write_of_ge {m : Mem} {off i : Nat} (data : List UInt8)
    (h : off + data.length ≤ i) : m.write off data i = m i := by
  have hnone : data[i - off]? = none := List.getElem?_eq_none (by omega)
  simp [Mem.write, hnone]

/-- Outside the written range a write changes nothing. -/
theorem Mem.write_of_outside {m : Mem} {off i : Nat} (data : List UInt8)
    (h : i < off ∨ off + data.length ≤ i) : m.write off data i = m i := by
  rcases h with h | h
  · exact Mem.write_of_lt data h
  · exact Mem.write_of_ge data h

theorem Mem.write_inside {m : Mem} {off k : Nat} {data : List UInt8} (h : k < data.length) :
    m.write off data (off + k) = data[k] := by
  simp [Mem.write, List.getElem?_eq_getElem h]

theorem Mem.fill_of_outside {m : Mem} {off n i : Nat} (b : UInt8)
    (h : i < off ∨ off + n ≤ i) : m.fill off n b i = m i := by
  simp only [Mem.fill]
  rw [if_neg (by omega)]

theorem Mem.fill_inside {m : Mem} {off n i : Nat} (b : UInt8) (h1 : off ≤ i) (h2 : i < off + n) :
    m.fill off n b i = b := by
  simp [Mem.fill, h1, h2]

/-! ## Reading ranges -/

@[simp] theorem Mem.length_slice (m : Mem) (off n : Nat) : (m.slice off n).length = n := by
  simp [Mem.slice]

theorem Mem.getElem_slice {m : Mem} {off n k : Nat} (h : k < (m.slice off n).length) :
    (m.slice off n)[k] = m (off + k) := by
  simp [Mem.slice]

/-- Two memories that agree on a range have the same slice there. -/
theorem Mem.slice_congr {m m' : Mem} {off n : Nat}
    (h : ∀ i, off ≤ i → i < off + n → m i = m' i) : m.slice off n = m'.slice off n := by
  apply List.map_congr_left
  intro i hi
  have hlt : i < n := List.mem_range.mp hi
  exact h (off + i) (by omega) (by omega)

theorem Mem.slice_add (m : Mem) (off a b : Nat) :
    m.slice off (a + b) = m.slice off a ++ m.slice (off + a) b := by
  unfold Mem.slice
  rw [List.range_add, List.map_append, List.map_map]
  congr 2
  funext i
  show m (off + (a + i)) = m (off + a + i)
  rw [Nat.add_assoc]

theorem Mem.take_slice (m : Mem) (off n k : Nat) :
    (m.slice off n).take k = m.slice off (min k n) := by
  unfold Mem.slice
  rw [← List.map_take, List.take_range]

/-- What was written is read back. -/
theorem Mem.slice_write (m : Mem) (off : Nat) (data : List UInt8) :
    (m.write off data).slice off data.length = data := by
  apply List.ext_getElem
  · simp
  · intro k hk hk'
    rw [Mem.getElem_slice hk, Mem.write_inside hk']

theorem Mem.write_nil (m : Mem) (off : Nat) : m.write off [] = m := by
  funext i
  exact Mem.write_of_outside [] (Nat.lt_or_ge i off)

/-- Two ranges that follow on each other are written as one. -/
theorem Mem.write_append (m : Mem) (off : Nat) (a b : List UInt8) :
    (m.write off a).write (off + a.length) b = m.write off (a ++ b) := by
  funext i
  by_cases hlow : i < off
  · rw [Mem.write_of_lt _ (by omega), Mem.write_of_lt _ hlow, Mem.write_of_lt _ hlow]
  · obtain ⟨k, rfl⟩ : ∃ k, i = off + k := ⟨i - off, by omega⟩
    by_cases hfirst : k < a.length
    · have hall : k < (a ++ b).length := by
        rw [List.length_append]
        omega
      rw [Mem.write_of_lt _ (by omega), Mem.write_inside hfirst, Mem.write_inside hall,
        List.getElem_append_left hfirst]
    · obtain ⟨j, rfl⟩ : ∃ j, k = a.length + j := ⟨k - a.length, by omega⟩
      by_cases hsecond : j < b.length
      · have hall : a.length + j < (a ++ b).length := by
          rw [List.length_append]
          omega
        rw [← Nat.add_assoc, Mem.write_inside hsecond, Nat.add_assoc, Mem.write_inside hall,
          List.getElem_append_right (Nat.le_add_right _ _)]
        congr 1
        omega
      · rw [← Nat.add_assoc, Mem.write_of_ge _ (by omega), Mem.write_of_ge _ (by omega),
          Mem.write_of_ge _ (by rw [List.length_append]; omega)]

/-! ## Words -/

/-- The number a list of bytes stands for, least significant byte first. -/
def leNat : List UInt8 → Nat
  | [] => 0
  | b :: bs => b.toNat + 2 ^ 8 * leNat bs

/-- The `n` low bytes of a number, least significant first. -/
def leBytes : Nat → Nat → List UInt8
  | 0, _ => []
  | n + 1, v => UInt8.ofNat v :: leBytes n (v / 2 ^ 8)

@[simp] theorem length_leBytes (n v : Nat) : (leBytes n v).length = n := by
  induction n generalizing v with
  | zero => rfl
  | succ n ih =>
    unfold leBytes
    rw [List.length_cons, ih]

/-- The low bytes of a number stand for what is left of it at their width. -/
theorem leNat_leBytes (n v : Nat) : leNat (leBytes n v) = v % 2 ^ (8 * n) := by
  induction n generalizing v with
  | zero =>
    show 0 = v % 1
    rw [Nat.mod_one]
  | succ n ih =>
    unfold leBytes leNat
    rw [ih, UInt8.toNat_ofNat', Nat.mul_succ, Nat.add_comm (8 * n), Nat.pow_add, Nat.mod_mul]

/-- The bytes of the number that bytes stand for. -/
theorem leBytes_leNat (data : List UInt8) : leBytes data.length (leNat data) = data := by
  induction data with
  | nil => rfl
  | cons b data ih =>
    have hb := b.toNat_lt
    have hlow : UInt8.ofNat (leNat (b :: data)) = b := by
      rw [← UInt8.toNat_inj, UInt8.toNat_ofNat']
      show (b.toNat + 2 ^ 8 * leNat data) % 256 = b.toNat
      omega
    have hhigh : leNat (b :: data) / 2 ^ 8 = leNat data := by
      show (b.toNat + 2 ^ 8 * leNat data) / 2 ^ 8 = _
      omega
    rw [List.length_cons, leBytes, hlow, hhigh, ih]

/-- The big-endian 32-bit word at `off`. -/
def be32 (m : Mem) (off : Nat) : Nat :=
  (m off).toNat * 2 ^ 24 + (m (off + 1)).toNat * 2 ^ 16 + (m (off + 2)).toNat * 2 ^ 8
    + (m (off + 3)).toNat

/-- The bytes of the 32-bit word `v`, most significant first. -/
def be32Bytes (v : Nat) : List UInt8 :=
  [UInt8.ofNat (v / 2 ^ 24), UInt8.ofNat (v / 2 ^ 16), UInt8.ofNat (v / 2 ^ 8), UInt8.ofNat v]

/-- The bytes of the 32-bit word `v`, least significant first. -/
def le32Bytes (v : Nat) : List UInt8 :=
  [UInt8.ofNat v, UInt8.ofNat (v / 2 ^ 8), UInt8.ofNat (v / 2 ^ 16), UInt8.ofNat (v / 2 ^ 24)]

@[simp] theorem length_be32Bytes (v : Nat) : (be32Bytes v).length = 4 := rfl

@[simp] theorem length_le32Bytes (v : Nat) : (le32Bytes v).length = 4 := rfl

/-- Store `v` at `off`, most significant byte first. -/
def putBe32 (m : Mem) (off v : Nat) : Mem := m.write off (be32Bytes v)

/-- Store `v` at `off`, least significant byte first. -/
def putLe32 (m : Mem) (off v : Nat) : Mem := m.write off (le32Bytes v)

theorem be32_congr {m m' : Mem} {off : Nat}
    (h : ∀ i, off ≤ i → i < off + 4 → m i = m' i) : be32 m off = be32 m' off := by
  simp only [be32]
  rw [h off (by omega) (by omega), h (off + 1) (by omega) (by omega),
    h (off + 2) (by omega) (by omega), h (off + 3) (by omega) (by omega)]

theorem putBe32_of_outside {m : Mem} {off i : Nat} (v : Nat) (h : i < off ∨ off + 4 ≤ i) :
    putBe32 m off v i = m i :=
  Mem.write_of_outside _ (by simpa using h)

theorem putLe32_of_outside {m : Mem} {off i : Nat} (v : Nat) (h : i < off ∨ off + 4 ≤ i) :
    putLe32 m off v i = m i :=
  Mem.write_of_outside _ (by simpa using h)

theorem putBe32_inside (m : Mem) (off v : Nat) {k : Nat} (hk : k < 4) :
    putBe32 m off v (off + k) = (be32Bytes v)[k] :=
  Mem.write_inside hk

theorem putBe32_of_inside (m : Mem) {off i : Nat} (v : Nat) (hge : off ≤ i) (hlt : i < off + 4) :
    putBe32 m off v i = (be32Bytes v).getD (i - off) 0xff := by
  obtain ⟨k, rfl⟩ := Nat.exists_eq_add_of_le hge
  have hk : k < (be32Bytes v).length := Nat.lt_of_add_lt_add_left hlt
  rw [putBe32_inside m off v hk, Nat.add_sub_cancel_left, List.getD_eq_getElem?_getD,
    List.getElem?_eq_getElem hk, Option.getD_some]

/-- A stored word is read back. -/
theorem be32_putBe32 (m : Mem) (off : Nat) {v : Nat} (hv : v < 2 ^ 32) :
    be32 (putBe32 m off v) off = v := by
  have h0 : putBe32 m off v off = UInt8.ofNat (v / 2 ^ 24) :=
    putBe32_inside m off v (k := 0) (by omega)
  have h1 : putBe32 m off v (off + 1) = UInt8.ofNat (v / 2 ^ 16) :=
    putBe32_inside m off v (by omega)
  have h2 : putBe32 m off v (off + 2) = UInt8.ofNat (v / 2 ^ 8) :=
    putBe32_inside m off v (by omega)
  have h3 : putBe32 m off v (off + 3) = UInt8.ofNat v :=
    putBe32_inside m off v (by omega)
  simp only [be32, h0, h1, h2, h3, UInt8.toNat_ofNat']
  omega

/-- The word whose bytes are in memory. -/
theorem be32_of_bytes {m : Mem} {off v : Nat} (hv : v < 2 ^ 32)
    (h : ∀ k, k < 4 → m (off + k) = (be32Bytes v).getD k 0xff) : be32 m off = v := by
  have hput : be32 m off = be32 (putBe32 m off v) off := by
    refine be32_congr fun i hi hi' => ?_
    rw [putBe32_of_inside m v hi hi', ← h (i - off) (by omega), Nat.add_sub_cancel' hi]
  rw [hput, be32_putBe32 m off hv]

/-! ## ASCII text -/

/-- The bytes of an ASCII string literal. -/
def ascii (s : String) : List UInt8 := s.toList.map (fun c => UInt8.ofNat c.toNat)

end Bytes
