import Mathlib.Algebra.Group.Nat.Defs
import Mathlib.Algebra.Order.Group.Nat
import Mathlib.Data.Nat.Prime.Defs
import Mathlib.Order.Bounds.Basic

/-!
# SHA-256 as FIPS 180-4 defines it

Messages are strings of bits and words are 32 bits wide; the sections named below are those of the
standard. The constants are defined as the standard describes them, from the roots of the first
primes, and not by their values.

* **`zeroBits_isLeast`**: the padding has the least number of zero bits that completes a block.
* **`bitsNat_natBits`**, **`natBits_add`**: numbers as strings of bits, and their pieces.
* **`compress_congr`**: one block's step depends on the sixteen words of the block.
* **`ofBytes_big_endian`**: strings of bytes as strings of bits.
-/

namespace Fips180

/-! ## Strings of bits -/

abbrev Word := BitVec 32

/-- The number a string of bits stands for, most significant bit first. -/
def bitsNat (bits : List Bool) : Nat := bits.foldl (fun n b => 2 * n + b.toNat) 0

/-- The `w` low bits of a number, most significant bit first. -/
def natBits : Nat → Nat → List Bool
  | 0, _ => []
  | w + 1, n => natBits w (n / 2) ++ [decide (n % 2 = 1)]

/-- A message that can be hashed. -/
structure Message where
  bits : List Bool
  length_lt : bits.length < 2 ^ 64

/-! ## Functions and constants (4.1.2, 4.2.2, 5.3.3) -/

def ch (x y z : Word) : Word := (x &&& y) ^^^ (~~~x &&& z)

def maj (x y z : Word) : Word := (x &&& y) ^^^ (x &&& z) ^^^ (y &&& z)

/-- `Σ₀`. -/
def bigSigma0 (x : Word) : Word := x.rotateRight 2 ^^^ x.rotateRight 13 ^^^ x.rotateRight 22

/-- `Σ₁`. -/
def bigSigma1 (x : Word) : Word := x.rotateRight 6 ^^^ x.rotateRight 11 ^^^ x.rotateRight 25

/-- `σ₀`. -/
def smallSigma0 (x : Word) : Word := x.rotateRight 7 ^^^ x.rotateRight 18 ^^^ (x >>> 3)

/-- `σ₁`. -/
def smallSigma1 (x : Word) : Word := x.rotateRight 17 ^^^ x.rotateRight 19 ^^^ (x >>> 10)

/-- The first sixty-four primes. -/
def primes : List Nat :=
  (List.range' 2 310).filter fun p => (List.range' 2 (p - 2)).all fun d => p % d != 0

/-- The largest number from `r` on, with `b` more bits, whose `n`th power is at most `a`. -/
def floorRoot (n a : Nat) : Nat → Nat → Nat
  | 0, r => r
  | b + 1, r => floorRoot n a b (if (r + 2 ^ b) ^ n ≤ a then r + 2 ^ b else r)

/-- The first 32 bits of the fractional part of the `n`th root of `p`. -/
def rootFraction (n p : Nat) : Word := BitVec.ofNat 32 (floorRoot n (p * 2 ^ (32 * n)) 36 0)

/-- `K`. -/
def k (t : Nat) : Word := rootFraction 3 (primes.getD t 0)

/-- The hash value `H`, and the working variables `a` to `h`. -/
structure Vars where
  a : Word
  b : Word
  c : Word
  d : Word
  e : Word
  f : Word
  g : Word
  h : Word
  deriving DecidableEq

/-- `H⁽⁰⁾`. -/
def initial : Vars where
  a := rootFraction 2 2
  b := rootFraction 2 3
  c := rootFraction 2 5
  d := rootFraction 2 7
  e := rootFraction 2 11
  f := rootFraction 2 13
  g := rootFraction 2 17
  h := rootFraction 2 19

/-! ## Preprocessing (5.1.1, 5.2.1) -/

/-- The number of zero bits in the padding of a message of `l` bits. -/
def zeroBits (l : Nat) : Nat := (448 + 512 - (l + 1) % 512) % 512

/-- The padded message: a one, zeros, and the length in 64 bits. -/
def Message.padded (m : Message) : List Bool :=
  m.bits ++ (true :: List.replicate (zeroBits m.bits.length) false ++ natBits 64 m.bits.length)

/-- Word `j` of block `i`. -/
def word (bits : List Bool) (i j : Nat) : Word :=
  BitVec.ofNat 32 (bitsNat ((bits.drop (512 * i + 32 * j)).take 32))

/-! ## Hash computation (6.2.2) -/

/-- The message schedule of a block. -/
def w (m : Nat → Word) (t : Nat) : Word :=
  if t < 16 then m t
  else smallSigma1 (w m (t - 2)) + w m (t - 7) + smallSigma0 (w m (t - 15)) + w m (t - 16)
termination_by t

/-- One step of the working variables. -/
def round (m : Nat → Word) (v : Vars) (t : Nat) : Vars :=
  let t1 := v.h + bigSigma1 v.e + ch v.e v.f v.g + k t + w m t
  let t2 := bigSigma0 v.a + maj v.a v.b v.c
  { h := v.g, g := v.f, f := v.e, e := v.d + t1, d := v.c, c := v.b, b := v.a, a := t1 + t2 }

/-- The working variables after `t` steps. -/
def rounds (m : Nat → Word) (v : Vars) : Nat → Vars
  | 0 => v
  | t + 1 => round m (rounds m v t) t

/-- The next hash value. -/
def compress (m : Nat → Word) (v : Vars) : Vars :=
  let s := rounds m v 64
  { a := s.a + v.a, b := s.b + v.b, c := s.c + v.c, d := s.d + v.d
    e := s.e + v.e, f := s.f + v.f, g := s.g + v.g, h := s.h + v.h }

/-- `H⁽ⁱ⁾` of a padded message. -/
def hashes (bits : List Bool) : Nat → Vars
  | 0 => initial
  | i + 1 => compress (word bits i) (hashes bits i)

/-- The message digest of a hash value. -/
def digest (v : Vars) : List Bool :=
  [v.a, v.b, v.c, v.d, v.e, v.f, v.g, v.h].flatMap fun x => natBits 32 x.toNat

/-- **SHA-256.** -/
def sha256 (m : Message) : List Bool :=
  digest (hashes m.padded (m.padded.length / 512))

/-! ## The constants -/

theorem mem_primes {p : Nat} : p ∈ primes ↔ p < 312 ∧ Nat.Prime p := by
  unfold primes
  rw [List.mem_filter, List.mem_range'_1, List.all_eq_true, Nat.prime_def_lt']
  constructor
  · rintro ⟨⟨h2, hlt⟩, hdvd⟩
    refine ⟨by omega, h2, fun d hd hdp hdiv => ?_⟩
    have hne := hdvd d (List.mem_range'_1.mpr ⟨hd, by omega⟩)
    rw [Nat.mod_eq_zero_of_dvd hdiv] at hne
    cases hne
  · rintro ⟨hlt, h2, hdvd⟩
    refine ⟨⟨h2, by omega⟩, fun d hd => ?_⟩
    rw [List.mem_range'_1] at hd
    have hne : p % d ≠ 0 := fun h => hdvd d hd.1 (by omega) (Nat.dvd_of_mod_eq_zero h)
    simpa using hne

/-- **The root** is the floor of the `n`th root, where it has that many bits. -/
theorem floorRoot_spec {n a b r : Nat} (hlow : r ^ n ≤ a) (hhigh : a < (r + 2 ^ b) ^ n) :
    floorRoot n a b r ^ n ≤ a ∧ a < (floorRoot n a b r + 1) ^ n := by
  induction b generalizing r with
  | zero => exact ⟨hlow, hhigh⟩
  | succ b ih =>
    unfold floorRoot
    by_cases hbit : (r + 2 ^ b) ^ n ≤ a
    · rw [if_pos hbit]
      refine ih hbit ?_
      rwa [Nat.add_assoc, ← Nat.two_mul, ← Nat.pow_succ']
    · rw [if_neg hbit]
      exact ih hlow (Nat.lt_of_not_le hbit)

/-! ## Numbers and bits -/

theorem foldl_bits (bits : List Bool) (n : Nat) :
    bits.foldl (fun n b => 2 * n + b.toNat) n = n * 2 ^ bits.length + bitsNat bits := by
  unfold bitsNat
  induction bits generalizing n with
  | nil => simp
  | cons b bits ih =>
    rw [List.foldl_cons, List.foldl_cons, ih (2 * n + b.toNat), ih (2 * 0 + b.toNat),
      List.length_cons, Nat.pow_succ]
    rw [Nat.add_mul, Nat.mul_zero, Nat.zero_add, Nat.add_assoc, Nat.mul_comm 2 n, Nat.mul_assoc,
      Nat.mul_comm 2]

theorem bitsNat_append (xs ys : List Bool) :
    bitsNat (xs ++ ys) = bitsNat xs * 2 ^ ys.length + bitsNat ys := by
  show (xs ++ ys).foldl _ 0 = _
  rw [List.foldl_append]
  exact foldl_bits ys (bitsNat xs)

@[simp] theorem length_natBits (w n : Nat) : (natBits w n).length = w := by
  induction w generalizing n with
  | zero => rfl
  | succ w ih => rw [natBits, List.length_append, ih, List.length_singleton]

/-- The low bits of a number stand for what is left of it at their width. -/
theorem bitsNat_natBits (w n : Nat) : bitsNat (natBits w n) = n % 2 ^ w := by
  induction w generalizing n with
  | zero =>
    show 0 = n % 1
    rw [Nat.mod_one]
  | succ w ih =>
    have hbit : bitsNat [decide (n % 2 = 1)] = n % 2 := by
      rcases Nat.mod_two_eq_zero_or_one n with h | h <;> simp [bitsNat, h]
    rw [natBits, bitsNat_append, ih, hbit, List.length_singleton, Nat.pow_one, Nat.pow_succ',
      Nat.mod_mul, Nat.mul_comm, Nat.add_comm]

/-- The bits of a number are those of its high part and of its low part. -/
theorem natBits_add (v w n : Nat) : natBits (v + w) n = natBits v (n / 2 ^ w) ++ natBits w n := by
  induction w generalizing n with
  | zero => simp [natBits]
  | succ w ih =>
    rw [← Nat.add_assoc, natBits, natBits, ih, Nat.pow_succ', Nat.div_div_eq_div_mul,
      List.append_assoc]

theorem natBits_mod {w v : Nat} (h : w ≤ v) (n : Nat) : natBits w (n % 2 ^ v) = natBits w n := by
  induction w generalizing n v with
  | zero => rfl
  | succ w ih =>
    obtain ⟨u, rfl⟩ : ∃ u, v = u + 1 := ⟨v - 1, by omega⟩
    have hhalf : n % 2 ^ (u + 1) / 2 = n / 2 % 2 ^ u := by
      rw [Nat.pow_succ', Nat.mod_mul_right_div_self]
    have hlow : n % 2 ^ (u + 1) % 2 = n % 2 := by
      rw [Nat.pow_succ', Nat.mod_mul_right_mod]
    rw [natBits, natBits, hhalf, hlow, ih (by omega)]

/-! ## Padding -/

/-- **The padding is the shortest one** that leaves room for the length in the last block. -/
theorem zeroBits_isLeast (l : Nat) : IsLeast {z | (l + 1 + z) % 512 = 448} (zeroBits l) := by
  constructor
  · show (l + 1 + zeroBits l) % 512 = 448
    unfold zeroBits
    omega
  · intro z hz
    have hz : (l + 1 + z) % 512 = 448 := hz
    unfold zeroBits
    omega

/-! ## Blocks -/

theorem w_of_lt (m : Nat → Word) {t : Nat} (ht : t < 16) : w m t = m t := by
  rw [w, if_pos ht]

theorem w_of_ge (m : Nat → Word) {t : Nat} (ht : 16 ≤ t) :
    w m t = smallSigma1 (w m (t - 2)) + w m (t - 7) + smallSigma0 (w m (t - 15)) +
      w m (t - 16) := by
  rw [w, if_neg (Nat.not_lt.mpr ht)]

theorem w_congr {m m' : Nat → Word} (h : ∀ j < 16, m j = m' j) (t : Nat) : w m t = w m' t := by
  induction t using Nat.strongRecOn with
  | _ t ih =>
    rcases Nat.lt_or_ge t 16 with ht | ht
    · rw [w_of_lt m ht, w_of_lt m' ht, h t ht]
    · rw [w_of_ge m ht, w_of_ge m' ht, ih (t - 2) (by omega), ih (t - 7) (by omega),
        ih (t - 15) (by omega), ih (t - 16) (by omega)]

/-- **A step depends on the sixteen words of its block.** -/
theorem compress_congr {m m' : Nat → Word} (h : ∀ j < 16, m j = m' j) (v : Vars) :
    compress m v = compress m' v := by
  have hrounds : ∀ t, rounds m v t = rounds m' v t := by
    intro t
    induction t with
    | zero => rfl
    | succ t ih =>
      unfold rounds round
      rw [ih, w_congr h]
  unfold compress
  rw [hrounds]

/-! ## Strings of bytes -/

/-- The bits of a string of bytes, the most significant of each first. -/
def ofBytes (bytes : List UInt8) : List Bool := bytes.flatMap fun b => natBits 8 b.toNat

@[simp] theorem ofBytes_nil : ofBytes [] = [] := rfl

theorem ofBytes_cons (b : UInt8) (bytes : List UInt8) :
    ofBytes (b :: bytes) = natBits 8 b.toNat ++ ofBytes bytes := rfl

theorem ofBytes_append (xs ys : List UInt8) : ofBytes (xs ++ ys) = ofBytes xs ++ ofBytes ys := by
  simp [ofBytes]

@[simp] theorem length_ofBytes (bytes : List UInt8) :
    (ofBytes bytes).length = 8 * bytes.length := by
  induction bytes with
  | nil => rfl
  | cons b bytes ih =>
    rw [ofBytes_cons, List.length_append, length_natBits, ih, List.length_cons]
    omega

theorem drop_ofBytes (bytes : List UInt8) (n : Nat) :
    (ofBytes bytes).drop (8 * n) = ofBytes (bytes.drop n) := by
  induction n generalizing bytes with
  | zero => rfl
  | succ n ih =>
    cases bytes with
    | nil => simp
    | cons b bytes =>
      rw [ofBytes_cons, Nat.mul_succ, Nat.add_comm, List.drop_append, length_natBits,
        List.drop_of_length_le (by rw [length_natBits]; omega), Nat.add_sub_cancel_left, ih]
      rfl

theorem take_ofBytes (bytes : List UInt8) (n : Nat) :
    (ofBytes bytes).take (8 * n) = ofBytes (bytes.take n) := by
  induction n generalizing bytes with
  | zero => rfl
  | succ n ih =>
    cases bytes with
    | nil => simp
    | cons b bytes =>
      rw [ofBytes_cons, Nat.mul_succ, Nat.add_comm, List.take_append, length_natBits,
        List.take_of_length_le (by rw [length_natBits]; omega), Nat.add_sub_cancel_left, ih]
      rfl

theorem ofBytes_zeros (n : Nat) :
    ofBytes (List.replicate n 0) = List.replicate (8 * n) false := by
  induction n with
  | zero => rfl
  | succ n ih =>
    rw [List.replicate_succ, ofBytes_cons, ih, Nat.mul_succ, Nat.add_comm,
      ← List.replicate_append_replicate]
    rfl

/-- A byte of a number, by its bits. -/
theorem natBits_ofNat (n : Nat) : natBits 8 (UInt8.ofNat n).toNat = natBits 8 n := by
  rw [UInt8.toNat_ofNat']
  exact natBits_mod (Nat.le_refl 8) n

/-- The bytes of a number, most significant first, are its bits. -/
theorem ofBytes_big_endian (m n : Nat) :
    ofBytes ((List.range m).map fun i => UInt8.ofNat (n >>> (8 * (m - 1 - i)))) =
      natBits (8 * m) n := by
  induction m with
  | zero => rfl
  | succ m ih =>
    rw [List.range_succ_eq_map, List.map_cons, List.map_map, ofBytes_cons, natBits_ofNat,
      show 8 * (m + 1) = 8 + 8 * m by omega, natBits_add, ← ih, Nat.shiftRight_eq_div_pow]
    congr 2
    refine List.map_congr_left fun i _ => ?_
    show UInt8.ofNat (n >>> (8 * (m + 1 - 1 - (i + 1)))) = _
    rw [show m + 1 - 1 - (i + 1) = m - 1 - i by omega]

/-- The number four bytes stand for. -/
theorem bitsNat_ofBytes (b0 b1 b2 b3 : UInt8) :
    bitsNat (ofBytes [b0, b1, b2, b3]) =
      b0.toNat * 2 ^ 24 + b1.toNat * 2 ^ 16 + b2.toNat * 2 ^ 8 + b3.toNat := by
  have hbyte : ∀ b : UInt8, bitsNat (natBits 8 b.toNat) = b.toNat := fun b => by
    rw [bitsNat_natBits]
    exact Nat.mod_eq_of_lt b.toNat_lt
  simp only [ofBytes_cons, ofBytes_nil, List.append_nil, bitsNat_append, hbyte, length_natBits,
    List.length_append]
  omega

end Fips180
