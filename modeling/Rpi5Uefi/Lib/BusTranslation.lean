import Mathlib.Algebra.Group.Nat.Defs
import Mathlib.Tactic.Common

/-!
# Address translation through nested buses

In a device tree an address belongs to a bus, and a bus's `ranges` table says where its addresses
lie on the bus above it.

* **`beNat`**: a big-endian number of any length.
* **`Bus.entries`**: a table cut into its entries; `entries_eq` cuts off one.
* **`Bus.toParent`**, **`translate`**: one bus up, and up to the root.
* **`translate_eq_none_iff`**: an address has no translation where some table on the way is not
  empty and covers not the address that reaches it.
-/

namespace BusTranslation

/-! ## Big-endian numbers -/

def beNat (bytes : List UInt8) : Nat := bytes.foldl (fun n b => n * 256 + b.toNat) 0

theorem beNat_foldl (bytes : List UInt8) (n : Nat) :
    bytes.foldl (fun n b => n * 256 + b.toNat) n = n * 256 ^ bytes.length + beNat bytes := by
  unfold beNat
  induction bytes generalizing n with
  | nil => simp
  | cons b bytes ih =>
    simp only [List.foldl_cons, List.length_cons]
    rw [ih, ih (0 * 256 + b.toNat), Nat.zero_mul, Nat.zero_add, Nat.pow_succ]
    have hmul : (n * 256 + b.toNat) * 256 ^ bytes.length =
        n * (256 ^ bytes.length * 256) + b.toNat * 256 ^ bytes.length := by
      rw [Nat.add_mul, Nat.mul_assoc, Nat.mul_comm 256]
    omega

theorem beNat_append (xs ys : List UInt8) :
    beNat (xs ++ ys) = beNat xs * 256 ^ ys.length + beNat ys := by
  show (xs ++ ys).foldl (fun n b => n * 256 + b.toNat) 0 = _
  rw [List.foldl_append, beNat_foldl]
  rfl

theorem beNat_lt (bytes : List UInt8) : beNat bytes < 256 ^ bytes.length := by
  induction bytes with
  | nil => exact Nat.one_pos
  | cons b bytes ih =>
    have hsplit : beNat (b :: bytes) = beNat [b] * 256 ^ bytes.length + beNat bytes :=
      beNat_append [b] bytes
    have hbyte : beNat [b] ≤ 255 := by
      have hlt := b.toNat_lt
      show 0 * 256 + b.toNat ≤ 255
      omega
    have hmul : beNat [b] * 256 ^ bytes.length ≤ 255 * 256 ^ bytes.length :=
      Nat.mul_le_mul_right _ hbyte
    rw [List.length_cons, Nat.pow_succ]
    omega

/-! ## Ranges -/

/-- The addresses from `child` on of a bus are those from `parent` on of the one above it. -/
structure Range where
  child : Nat
  parent : Nat
  size : Nat
  deriving DecidableEq, Repr

def Range.Covers (r : Range) (a : Nat) : Prop := r.child ≤ a ∧ a < r.child + r.size

instance (r : Range) (a : Nat) : Decidable (r.Covers a) := inferInstanceAs (Decidable (_ ∧ _))

/-- Addresses have 64 bits. -/
def Range.image (r : Range) (a : Nat) : Nat := (r.parent + (a - r.child)) % 2 ^ 64

/-- A bus; `ranges` is empty where the property is missing. -/
structure Bus where
  addressCells : Nat
  sizeCells : Nat
  ranges : List UInt8
  deriving DecidableEq, Repr

namespace Bus

variable (b : Bus) (parentCells : Nat)

/-- The bytes of an entry: a child address, a parent address and a size. -/
def entryBytes : Nat := 4 * (b.addressCells + parentCells + b.sizeCells)

/-- The entry at the head of a table. -/
def entry (table : List UInt8) : Range :=
  ⟨beNat (table.take (4 * b.addressCells)),
    beNat ((table.drop (4 * b.addressCells)).take (4 * parentCells)),
    beNat ((table.drop (4 * (b.addressCells + parentCells))).take (4 * b.sizeCells))⟩

/-- The entries of a table; bytes that do not fill one are no entry. -/
def entries (table : List UInt8) : List Range :=
  (List.range (table.length / b.entryBytes parentCells)).map fun i =>
    b.entry parentCells (table.drop (i * b.entryBytes parentCells))

variable {b parentCells}

theorem entries_eq (hpos : 0 < b.entryBytes parentCells) (table : List UInt8) :
    b.entries parentCells table =
      if b.entryBytes parentCells ≤ table.length then
        b.entry parentCells table ::
          b.entries parentCells (table.drop (b.entryBytes parentCells))
      else [] := by
  unfold entries
  by_cases hle : b.entryBytes parentCells ≤ table.length
  · rw [if_pos hle, List.length_drop, Nat.div_eq_sub_div hpos hle, List.range_succ_eq_map,
      List.map_cons, List.map_map, Nat.zero_mul, List.drop_zero]
    congr 2
    funext i
    simp only [Function.comp_apply]
    rw [List.drop_drop, Nat.succ_mul, Nat.add_comm]
  · rw [if_neg hle, Nat.div_eq_of_lt (by omega)]
    rfl

/-- One bus up: the first entry that covers the address. -/
def toParent (b : Bus) (parentCells a : Nat) : Option Nat :=
  if b.ranges = [] then some a
  else ((b.entries parentCells b.ranges).find? fun r => r.Covers a).map fun r => r.image a

end Bus

/-! ## Paths -/

/-- From the innermost bus up to the root, which is the last of the path. -/
def translate : List Bus → Nat → Option Nat
  | b :: p :: path, a => (b.toParent p.addressCells a).bind (translate (p :: path))
  | _, a => some a

/-- Some table on the way is not empty and has no entry for the address that reaches it. -/
inductive Unmatched : List Bus → Nat → Prop where
  | here {b p : Bus} {path : List Bus} {a : Nat} (hranges : b.ranges ≠ [])
      (hnone : ∀ r ∈ b.entries p.addressCells b.ranges, ¬r.Covers a) : Unmatched (b :: p :: path) a
  | above {b p : Bus} {path : List Bus} {a a' : Nat}
      (hstep : b.toParent p.addressCells a = some a') (hrest : Unmatched (p :: path) a') :
      Unmatched (b :: p :: path) a

theorem Bus.toParent_eq_none_iff {b : Bus} {parentCells a : Nat} :
    b.toParent parentCells a = none ↔
      b.ranges ≠ [] ∧ ∀ r ∈ b.entries parentCells b.ranges, ¬r.Covers a := by
  unfold toParent
  by_cases hranges : b.ranges = []
  · simp [hranges]
  · rw [if_neg hranges, Option.map_eq_none_iff, List.find?_eq_none]
    simp [hranges]

theorem translate_eq_none_iff (path : List Bus) (a : Nat) :
    translate path a = none ↔ Unmatched path a := by
  induction path generalizing a with
  | nil => exact iff_of_false (Option.some_ne_none a) (by rintro ⟨⟩)
  | cons b path ih =>
    cases path with
    | nil => exact iff_of_false (Option.some_ne_none a) (by rintro ⟨⟩)
    | cons p path =>
      show (b.toParent p.addressCells a).bind (translate (p :: path)) = none ↔ _
      cases hstep : b.toParent p.addressCells a with
      | none =>
        obtain ⟨hranges, hnone⟩ := Bus.toParent_eq_none_iff.mp hstep
        exact iff_of_true rfl (.here hranges hnone)
      | some a' =>
        rw [Option.bind_some, ih]
        constructor
        · exact .above hstep
        · rintro (⟨hranges, hnone⟩ | ⟨hstep', hrest⟩)
          · rw [Bus.toParent_eq_none_iff.mpr ⟨hranges, hnone⟩] at hstep
            cases hstep
          · rw [hstep] at hstep'
            cases hstep'
            exact hrest

end BusTranslation
