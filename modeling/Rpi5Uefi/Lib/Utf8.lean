import Mathlib.Tactic.Common

/-!
# UTF-8 texts

The bytes that encode characters, by the encoding of one character that Lean has. A text is taken
apart at its characters: a byte below 0x80, or a wide one, all of whose bytes are from 0x80 on.

* **`IsUtf8`**: bytes that encode characters.
* **`utf8EncodeChar_cases`**: the two kinds of characters.
* **`isUtf8_map_iff`**: a replacement of single bytes that stays below 0x80 changes nothing.
-/

/-- The bytes encode characters, one behind the other. -/
inductive IsUtf8 : List UInt8 → Prop where
  | nil : IsUtf8 []
  | cons (c : Char) {s : List UInt8} (h : IsUtf8 s) : IsUtf8 (String.utf8EncodeChar c ++ s)

variable {s s' : List UInt8} {b : UInt8} {c : Char}

theorem IsUtf8.char (c : Char) : IsUtf8 (String.utf8EncodeChar c) := by
  have hsingle := IsUtf8.cons c .nil
  rwa [List.append_nil] at hsingle

theorem IsUtf8.append (h : IsUtf8 s) (h' : IsUtf8 s') : IsUtf8 (s ++ s') := by
  induction h with
  | nil => exact h'
  | cons c h ih =>
    rw [List.append_assoc]
    exact .cons c ih

/-- A byte below 0x80 is a character of its own. -/
theorem utf8EncodeChar_byte (hb : b < 0x80) :
    ∃ c : Char, c.toNat = b.toNat ∧ String.utf8EncodeChar c = [b] := by
  have hlt : b.toNat < 0x80 := UInt8.lt_iff_toNat_lt.mp hb
  have hvalid : b.toNat.isValidChar := Or.inl (by omega)
  have hnat : (Char.ofNat b.toNat).toNat = b.toNat := by
    unfold Char.ofNat
    rw [dif_pos hvalid]
    rfl
  refine ⟨Char.ofNat b.toNat, hnat, ?_⟩
  have hbyte : (Char.ofNat b.toNat).val.toNat ≤ 0x7F := by
    show (Char.ofNat b.toNat).toNat ≤ 0x7F
    omega
  unfold String.utf8EncodeChar
  simp only
  rw [if_pos hbyte]
  show [UInt8.ofNat (Char.ofNat b.toNat).toNat] = [b]
  rw [hnat, UInt8.ofNat_toNat]

/-- **A character is a byte, or wide.** -/
theorem utf8EncodeChar_cases (c : Char) :
    (∃ b : UInt8, b < 0x80 ∧ b.toNat = c.toNat ∧ String.utf8EncodeChar c = [b]) ∨
      0x80 ≤ c.toNat ∧ ∀ b ∈ String.utf8EncodeChar c, 0x80 ≤ b ∧ b ≠ 0xFF := by
  have hwide : ∀ n, 0x80 ≤ n → n < 0xFF → 0x80 ≤ UInt8.ofNat n ∧ UInt8.ofNat n ≠ 0xFF := by
    intro n hlow hhigh
    have hnat : (UInt8.ofNat n).toNat = n := UInt8.toNat_ofNat_of_lt' (by show n < 256; omega)
    refine ⟨UInt8.le_iff_toNat_le.mpr (by rw [hnat]; exact hlow), fun heq => ?_⟩
    rw [heq] at hnat
    exact absurd hnat (by show (255 : Nat) ≠ n; omega)
  unfold String.utf8EncodeChar
  simp only
  show _ ∨ 0x80 ≤ c.toNat ∧ _
  change (∃ b : UInt8, b < 0x80 ∧ b.toNat = c.toNat ∧ (if c.toNat ≤ 0x7F then _ else _) = [b]) ∨
    0x80 ≤ c.toNat ∧ ∀ b ∈ (if c.toNat ≤ 0x7F then _ else _), _
  split
  · rename_i hbyte
    have hnat : (UInt8.ofNat c.toNat).toNat = c.toNat :=
      UInt8.toNat_ofNat_of_lt' (by show c.toNat < 256; omega)
    refine Or.inl ⟨UInt8.ofNat c.toNat, UInt8.lt_iff_toNat_lt.mpr ?_, hnat, rfl⟩
    rw [hnat]
    show c.toNat < 128
    omega
  · refine Or.inr ⟨by omega, ?_⟩
    split
    · simp only [List.forall_mem_cons]
      exact ⟨hwide _ (by omega) (by omega), hwide _ (by omega) (by omega),
        fun b hb => absurd hb List.not_mem_nil⟩
    split
    · simp only [List.forall_mem_cons]
      exact ⟨hwide _ (by omega) (by omega), hwide _ (by omega) (by omega),
        hwide _ (by omega) (by omega), fun b hb => absurd hb List.not_mem_nil⟩
    · simp only [List.forall_mem_cons]
      exact ⟨hwide _ (by omega) (by omega), hwide _ (by omega) (by omega),
        hwide _ (by omega) (by omega), hwide _ (by omega) (by omega),
        fun b hb => absurd hb List.not_mem_nil⟩

/-- A text of bytes below 0x80. -/
theorem isUtf8_of_ascii (h : ∀ b ∈ s, b < 0x80) : IsUtf8 s := by
  induction s with
  | nil => exact .nil
  | cons b s ih =>
    obtain ⟨c, -, hc⟩ := utf8EncodeChar_byte (h b List.mem_cons_self)
    have hrest := IsUtf8.cons c (ih fun b hb => h b (List.mem_cons_of_mem _ hb))
    rwa [hc] at hrest

/-! ## Bytes that are replaced -/

variable {f : UInt8 → UInt8}

/-- A byte is replaced by one below 0x80 only if it is below 0x80 itself. -/
theorem lt_of_replaced (hsame : ∀ b, 0x80 ≤ b → f b = b) (h : f b < 0x80) : b < 0x80 := by
  rcases UInt8.lt_or_le b 0x80 with hlt | hge
  · exact hlt
  · rwa [hsame b hge] at h

/-- A wide character is not replaced. -/
theorem map_wide {w : List UInt8} (hsame : ∀ b, 0x80 ≤ b → f b = b)
    (hwide : ∀ b ∈ w, 0x80 ≤ b) : w.map f = w := by
  conv_rhs => rw [← List.map_id w]
  exact List.map_congr_left fun b hb => hsame b (hwide b hb)

/-- **Bytes below 0x80 may be replaced** by others, and no others are. -/
theorem isUtf8_map_iff (hascii : ∀ b < 0x80, f b < 0x80) (hsame : ∀ b, 0x80 ≤ b → f b = b) :
    IsUtf8 (s.map f) ↔ IsUtf8 s := by
  constructor
  · generalize hmap : s.map f = t
    intro h
    induction h generalizing s with
    | nil =>
      rw [List.map_eq_nil_iff.mp hmap]
      exact .nil
    | cons c h ih =>
      obtain ⟨front, back, rfl, hfront, hback⟩ := List.map_eq_append_iff.mp hmap
      rcases utf8EncodeChar_cases c with ⟨b, hb, -, heq⟩ | ⟨-, hwide⟩
      · rw [heq] at hfront
        obtain ⟨x, rfl, rfl⟩ := List.map_eq_singleton_iff.mp hfront
        refine (isUtf8_of_ascii fun y hy => ?_).append (ih hback)
        rw [List.mem_singleton.mp hy]
        exact lt_of_replaced hsame hb
      · have hkept : front.map f = front := by
          apply map_wide hsame
          intro x hx
          by_contra hlow
          have hmem : f x ∈ String.utf8EncodeChar c := hfront ▸ List.mem_map_of_mem hx
          exact absurd (hwide _ hmem).1 (UInt8.not_le.mpr (hascii x (UInt8.not_le.mp hlow)))
        rw [← hkept, hfront]
        exact .cons c (ih hback)
  · intro h
    induction h with
    | nil => exact .nil
    | cons c h ih =>
      rw [List.map_append]
      refine IsUtf8.append ?_ ih
      rcases utf8EncodeChar_cases c with ⟨b, hb, -, heq⟩ | ⟨-, hwide⟩
      · rw [heq]
        refine isUtf8_of_ascii fun y hy => ?_
        rw [List.map_singleton, List.mem_singleton] at hy
        rw [hy]
        exact hascii b hb
      · rw [map_wide hsame fun b hb => (hwide b hb).1]
        exact .char c
