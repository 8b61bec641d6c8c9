import Rpi5Uefi.Lib.Json
import Mathlib.Algebra.BigOperators.Group.List.Basic

/-!
# How long a JSON text must be

A cut text stands for nothing, or for something else. What shows it is a count of two things that
every text of a value has: enough bytes that are no control characters, and not too many minus
signs.

* **`Value.size`**: the length of a value's shortest text.
* **`Covers`**: a text has as many bytes, and no more minus signs, as given.
* **`Derives.covers`**: a text covers the value it stands for.
* **`IsObject.covers`**: the same for an object with its members in any order.
-/

namespace Json

/-! ## Sizes -/

/-- The bytes that are no control characters. -/
def shownCount (text : List UInt8) : Nat := text.countP fun b => 0x20 ≤ b

/-- What a byte of a string takes. -/
def byteSize (b : UInt8) : Nat := if b = 0x22 ∨ b = 0x5C then 2 else 1

def stringSize (s : List UInt8) : Nat := (s.map byteSize).sum

def fractionSize (fraction : List Nat) : Nat := if fraction = [] then 0 else 1 + fraction.length

def exponentSize : Option (Bool × List Nat) → Nat
  | none => 0
  | some (negative, digits) => 1 + negative.toNat + digits.length

def Numeral.size (n : Numeral) : Nat :=
  n.negative.toNat + n.whole.length + fractionSize n.fraction + exponentSize n.exponent

def exponentMinusSigns : Option (Bool × List Nat) → Nat
  | some (true, _) => 1
  | _ => 0

def Numeral.minusSigns (n : Numeral) : Nat := n.negative.toNat + exponentMinusSigns n.exponent

mutual

/-- The length of the value's shortest text. -/
def Value.size : Value → Nat
  | .null => 4
  | .bool b => if b then 4 else 5
  | .number numeral => numeral.size
  | .string s => 2 + stringSize s
  | .array vs => 1 + max 1 (elementsSize vs)
  | .object ms => 1 + max 1 (membersSize ms)

/-- Each element with the comma or the bracket behind it. -/
def elementsSize : List Value → Nat
  | [] => 0
  | v :: vs => v.size + 1 + elementsSize vs

/-- Each member with the comma or the brace behind it. -/
def membersSize : List Member → Nat
  | [] => 0
  | (name, v) :: ms => stringSize name + 3 + v.size + 1 + membersSize ms

end

mutual

/-- The minus signs of the value's numbers and strings. -/
def Value.minusSigns : Value → Nat
  | .null => 0
  | .bool _ => 0
  | .number numeral => numeral.minusSigns
  | .string s => s.count 0x2D
  | .array vs => elementsMinusSigns vs
  | .object ms => membersMinusSigns ms

def elementsMinusSigns : List Value → Nat
  | [] => 0
  | v :: vs => v.minusSigns + elementsMinusSigns vs

def membersMinusSigns : List Member → Nat
  | [] => 0
  | (name, v) :: ms => name.count 0x2D + v.minusSigns + membersMinusSigns ms

end

def Phrase.size : Phrase → Nat
  | .value v => v.size
  | .elements vs => elementsSize vs - 1
  | .members ms => membersSize ms - 1

def Phrase.minusSigns : Phrase → Nat
  | .value v => v.minusSigns
  | .elements vs => elementsMinusSigns vs
  | .members ms => membersMinusSigns ms

/-- A text that is long enough, and has no more minus signs. -/
structure Covers (text : List UInt8) (size minusSigns : Nat) : Prop where
  shown : size ≤ shownCount text
  minus : text.count 0x2D ≤ minusSigns

variable {text text' s name : List UInt8} {v : Value} {ms : List Member} {m n : Nat}

@[simp] theorem shownCount_append (text text' : List UInt8) :
    shownCount (text ++ text') = shownCount text + shownCount text' := List.countP_append ..

theorem shownCount_cons (b : UInt8) (text : List UInt8) :
    shownCount (b :: text) = shownCount text + if 0x20 ≤ b then 1 else 0 := by
  unfold shownCount
  rw [List.countP_cons]
  simp

theorem shownCount_le_length (text : List UInt8) : shownCount text ≤ text.length :=
  List.countP_le_length

/-- No control characters. -/
def Shown (text : List UInt8) : Prop := ∀ b ∈ text, 0x20 ≤ b

instance (text : List UInt8) : Decidable (Shown text) := List.decidableBAll _ text

theorem Shown.append (h : Shown text) (h' : Shown text') : Shown (text ++ text') :=
  fun b hb => (List.mem_append.mp hb).elim (h b) (h' b)

theorem Shown.shownCount (h : Shown text) : shownCount text = text.length := by
  apply List.countP_eq_length.mpr
  intro b hb
  exact decide_eq_true (h b hb)

theorem shownCount_flatten (texts : List (List UInt8)) :
    shownCount texts.flatten = (texts.map shownCount).sum := by
  induction texts with
  | nil => rfl
  | cons text texts ih =>
    rw [List.flatten_cons, shownCount_append, ih, List.map_cons, List.sum_cons]

@[simp] theorem stringSize_cons (b : UInt8) (s : List UInt8) :
    stringSize (b :: s) = byteSize b + stringSize s := rfl

@[simp] theorem stringSize_append (s s' : List UInt8) :
    stringSize (s ++ s') = stringSize s + stringSize s' := by
  simp [stringSize]

theorem byteSize_le (b : UInt8) : byteSize b ≤ 2 := by
  unfold byteSize
  split <;> omega

theorem byteSize_pos (b : UInt8) : 1 ≤ byteSize b := by
  unfold byteSize
  split <;> omega

theorem Unescaped.stringSize (h : Unescaped text) : stringSize text = text.length := by
  induction text with
  | nil => rfl
  | cons b text ih =>
    obtain ⟨-, hquote, hbackslash⟩ := h b List.mem_cons_self
    have hbyte : byteSize b = 1 := if_neg (not_or.mpr ⟨hquote, hbackslash⟩)
    rw [stringSize_cons, hbyte, ih fun b hb => h b (List.mem_cons_of_mem _ hb), List.length_cons,
      Nat.add_comm]

theorem shownCount_le_stringSize (s : List UInt8) : shownCount s ≤ stringSize s := by
  induction s with
  | nil => exact Nat.le_refl _
  | cons b s ih =>
    have hbyte := byteSize_pos b
    rw [stringSize_cons, shownCount_cons]
    split <;> omega

/-- A text with as many bytes shown as its string takes needs no escape. The induction is on the
text: each byte is shown, and takes one. -/
theorem unescaped_of_stringSize_le (h : stringSize s ≤ shownCount s) : Unescaped s := by
  induction s with
  | nil => exact fun b hb => absurd hb List.not_mem_nil
  | cons b s ih =>
    have hrest := shownCount_le_stringSize s
    have hbyte := byteSize_pos b
    rw [shownCount_cons, stringSize_cons] at h
    have hshown : 0x20 ≤ b := by
      by_contra hcontrol
      rw [if_neg hcontrol] at h
      omega
    rw [if_pos hshown] at h
    have hplain : ¬ (b = 0x22 ∨ b = 0x5C) := by
      intro hspecial
      have htwo : byteSize b = 2 := if_pos hspecial
      omega
    intro c hc
    rcases List.mem_cons.mp hc with rfl | hc
    · exact ⟨hshown, not_or.mp hplain⟩
    · exact ih (by omega) c hc

theorem stringSize_le (s : List UInt8) : stringSize s ≤ 2 * s.length := by
  induction s with
  | nil => exact Nat.le_refl _
  | cons b s ih =>
    have hbyte := byteSize_le b
    rw [stringSize_cons, List.length_cons]
    omega

theorem Covers.append (h : Covers text m n) {m' n' : Nat} (h' : Covers text' m' n') :
    Covers (text ++ text') (m + m') (n + n') := by
  constructor
  · rw [shownCount_append]
    exact Nat.add_le_add h.shown h'.shown
  · rw [List.count_append]
    exact Nat.add_le_add h.minus h'.minus

theorem Covers.cons {b : UInt8} (hb : 0x20 ≤ b ∧ b ≠ 0x2D) (h : Covers text m n) :
    Covers (b :: text) (m + 1) n := by
  constructor
  · rw [shownCount_cons, if_pos hb.1]
    exact Nat.succ_le_succ h.shown
  · rw [List.count_cons_of_ne hb.2]
    exact h.minus

theorem Covers.mono {m' n' : Nat} (h : Covers text m n) (hm : m' ≤ m) (hn : n ≤ n') :
    Covers text m' n' :=
  ⟨hm.trans h.shown, h.minus.trans hn⟩

/-- Between an opening and a closing character. -/
theorem Covers.enclosed {b b' : UInt8} (h : Covers text m n) (hb : 0x20 ≤ b ∧ b ≠ 0x2D)
    (hb' : 0x20 ≤ b' ∧ b' ≠ 0x2D) : Covers (b :: (text ++ [b'])) (m + 2) n := by
  have hclose : Covers [b'] 1 0 := Covers.cons hb' ⟨Nat.le_refl _, Nat.le_refl _⟩
  exact (h.append hclose).cons hb

/-! ### The parts -/

theorem Whitespace.count_minus (h : Whitespace text) : text.count 0x2D = 0 := by
  rw [List.count_eq_zero]
  intro hmem
  rcases h _ hmem with h | h | h | h <;> exact absurd h (by decide)

theorem hexDigit_some {b : UInt8} {d : Nat} (h : hexDigit b = some d) :
    0x20 ≤ b ∧ b ≠ 0x2D ∧ d < 16 := by
  unfold hexDigit at h
  simp only [UInt8.le_iff_toNat_le] at h ⊢
  have hminus : b.toNat ≠ 0x2D → b ≠ 0x2D := fun hne heq => hne (heq ▸ rfl)
  split at h
  · rename_i hrange
    obtain ⟨hlow, hhigh⟩ : 48 ≤ b.toNat ∧ b.toNat ≤ 57 := hrange
    cases h
    exact ⟨by show 32 ≤ b.toNat; omega, hminus (by omega), by omega⟩
  split at h
  · rename_i hrange
    obtain ⟨hlow, hhigh⟩ : 65 ≤ b.toNat ∧ b.toNat ≤ 70 := hrange
    cases h
    exact ⟨by show 32 ≤ b.toNat; omega, hminus (by omega), by omega⟩
  split at h
  · rename_i hrange
    obtain ⟨hlow, hhigh⟩ : 97 ≤ b.toNat ∧ b.toNat ≤ 102 := hrange
    cases h
    exact ⟨by show 32 ≤ b.toNat; omega, hminus (by omega), by omega⟩
  · cases h

theorem hex4_some {hex : List UInt8} (h : hex4 hex = some n) :
    Covers hex 4 0 ∧ n < 0x10000 := by
  unfold hex4 at h
  split at h
  · simp only [Option.bind_eq_bind, Option.bind_eq_some_iff, Option.pure_def,
      Option.some.injEq] at h
    obtain ⟨na, ha, nb, hb, nc, hc, nd, hd, rfl⟩ := h
    obtain ⟨ha, ha', hna⟩ := hexDigit_some ha
    obtain ⟨hb, hb', hnb⟩ := hexDigit_some hb
    obtain ⟨hc, hc', hnc⟩ := hexDigit_some hc
    obtain ⟨hd, hd', hnd⟩ := hexDigit_some hd
    refine ⟨?_, by omega⟩
    have hnil : Covers [] 0 0 := ⟨Nat.le_refl _, Nat.le_refl _⟩
    exact (((hnil.cons ⟨hd, hd'⟩).cons ⟨hc, hc'⟩).cons ⟨hb, hb'⟩).cons ⟨ha, ha'⟩
  · cases h

theorem escapes_mem {c b : UInt8} (h : (c, b) ∈ escapes) :
    (0x20 ≤ c ∧ c ≠ 0x2D) ∧ b ≠ 0x2D := by
  simp only [escapes, List.mem_cons, Prod.mk.injEq, List.not_mem_nil, or_false] at h
  rcases h with ⟨rfl, rfl⟩ | ⟨rfl, rfl⟩ | ⟨rfl, rfl⟩ | ⟨rfl, rfl⟩ | ⟨rfl, rfl⟩ | ⟨rfl, rfl⟩ |
    ⟨rfl, rfl⟩ | ⟨rfl, rfl⟩ <;> decide

theorem covers_unescaped (h : Unescaped s) : Covers s (stringSize s) (s.count 0x2D) := by
  refine ⟨?_, Nat.le_refl _⟩
  have hshown : Shown s := fun b hb => (h b hb).1
  rw [h.stringSize, hshown.shownCount]

/-- **A string's text** is as long as the string needs it. The induction is on the derivation, one
character of the text at a time. -/
theorem Chars.covers (h : Chars text s) : Covers text (stringSize s) (s.count 0x2D) := by
  induction h with
  | nil => exact ⟨Nat.le_refl _, Nat.le_refl _⟩
  | plain hcontrol hquote hbackslash h ih =>
    rw [stringSize_append, List.count_append]
    exact (covers_unescaped (plainChar_bytes hcontrol hquote hbackslash)).append ih
  | @escape c b text s hescape h ih =>
    obtain ⟨hc, hminus⟩ := escapes_mem hescape
    apply ((ih.cons hc).cons (b := 0x5C) (by decide)).mono
    · have hbyte := byteSize_le b
      rw [stringSize_cons]
      omega
    · rw [List.count_cons_of_ne hminus]
  | @unicode c hex text s hhex h ih =>
    obtain ⟨hdigits, hbound⟩ := hex4_some hhex
    -- a character of the basic plane takes three bytes at most
    have hlength : (String.utf8EncodeChar c).length ≤ 3 := by
      rw [String.length_utf8EncodeChar]
      have hfour : c.utf8Size ≠ 4 := by
        rw [ne_eq, Char.utf8Size_eq_four_iff, UInt32.lt_iff_toNat_lt]
        exact Nat.not_lt.mpr (Nat.le_of_lt_succ hbound)
      have hle := Char.utf8Size_le_four c
      omega
    apply (((hdigits.append ih).cons (b := 0x75) (by decide)).cons (b := 0x5C) (by decide)).mono
    · have hutf8 := stringSize_le (String.utf8EncodeChar c)
      rw [stringSize_append]
      omega
    · rw [List.count_append]
      omega
  | @surrogates c high low hex hex' text s hhigh hlow hbound hchar h ih =>
    have hlength : (String.utf8EncodeChar c).length ≤ 4 := by
      rw [String.length_utf8EncodeChar]
      exact Char.utf8Size_le_four c
    have hrest := (((hex4_some hlow).1.append ih).cons (b := 0x75) (by decide)).cons (b := 0x5C)
      (by decide)
    apply ((((hex4_some hhigh).1.append hrest).cons (b := 0x75) (by decide)).cons (b := 0x5C)
      (by decide)).mono
    · have hutf8 := stringSize_le (String.utf8EncodeChar c)
      rw [stringSize_append]
      omega
    · rw [List.count_append]
      omega

theorem digitText_covers {digits : List Nat} (h : ∀ d ∈ digits, d < 10) :
    Covers (digitText digits) digits.length 0 := by
  have hdigit : ∀ b ∈ digitText digits, 0x20 ≤ b ∧ b ≠ 0x2D := by
    intro b hb
    obtain ⟨d, hd, rfl⟩ := List.mem_map.mp hb
    have hall : ∀ d < 10, 0x20 ≤ UInt8.ofNat (0x30 + d) ∧ UInt8.ofNat (0x30 + d) ≠ 0x2D := by
      decide
    exact hall d (h d hd)
  constructor
  · have hlength : (digitText digits).length = digits.length := List.length_map _
    rw [← hlength]
    apply Nat.le_of_eq
    apply Eq.symm
    apply List.countP_eq_length.mpr
    intro b hb
    exact decide_eq_true (hdigit b hb).1
  · apply Nat.le_of_eq
    rw [List.count_eq_zero]
    intro hmem
    exact (hdigit _ hmem).2 rfl

theorem signText_covers (negative : Bool) :
    Covers (signText negative) negative.toNat negative.toNat := by
  cases negative <;> exact ⟨Nat.le_refl _, Nat.le_refl _⟩

theorem fractionText_covers {fraction : List Nat} (h : ∀ d ∈ fraction, d < 10) :
    Covers (fractionText fraction) (fractionSize fraction) 0 := by
  unfold fractionText fractionSize
  split
  · exact ⟨Nat.le_refl _, Nat.le_refl _⟩
  · rw [Nat.add_comm]
    exact (digitText_covers h).cons (by decide)

theorem ExponentText.covers {exponent : Option (Bool × List Nat)}
    (h : ExponentText exponent text) :
    Covers text (exponentSize exponent) (exponentMinusSigns exponent) := by
  have hplain : ∀ {mark : UInt8}, mark = 0x65 ∨ mark = 0x45 → 0x20 ≤ mark ∧ mark ≠ 0x2D := by
    rintro mark (rfl | rfl) <;> decide
  cases h with
  | none => exact ⟨Nat.le_refl _, Nat.le_refl _⟩
  | @unsigned mark digits hmark hdigits =>
    apply ((digitText_covers hdigits.2).cons (hplain hmark)).mono
    · show 1 + 0 + digits.length ≤ digits.length + 1
      omega
    · exact Nat.le_refl 0
  | @plus mark digits hmark hdigits =>
    apply (((digitText_covers hdigits.2).cons (b := 0x2B) (by decide)).cons (hplain hmark)).mono
    · show 1 + 0 + digits.length ≤ digits.length + 1 + 1
      omega
    · exact Nat.le_refl 0
  | @minus mark digits hmark hdigits =>
    have hsign : Covers [0x2D] 1 1 := signText_covers true
    apply ((hsign.append (digitText_covers hdigits.2)).cons (hplain hmark)).mono
    · show 1 + 1 + digits.length ≤ 1 + digits.length + 1
      omega
    · exact Nat.le_refl 1

theorem NumeralText.covers {numeral : Numeral} (h : NumeralText numeral text) :
    Covers text numeral.size numeral.minusSigns := by
  obtain ⟨hwhole, -, hfraction, hexponent⟩ := h
  apply ((((signText_covers _).append (digitText_covers hwhole.2)).append
    (fractionText_covers hfraction)).append hexponent.covers).mono
  · exact Nat.le_refl _
  · exact Nat.le_refl _

/-! ### The whole -/

theorem Whitespace.covers (h : Whitespace text) : Covers text 0 0 :=
  ⟨Nat.zero_le _, Nat.le_of_eq h.count_minus⟩

/-- **A text covers what it stands for.** The induction is on the derivation. -/
theorem Derives.covers {phrase : Phrase} (h : Derives phrase text) :
    Covers text phrase.size phrase.minusSigns := by
  induction h with
  | space hfront hback h ih =>
    apply ((hfront.covers.append ih).append hback.covers).mono
    · simp
    · simp
  | null => exact ⟨by decide, by decide⟩
  | true => exact ⟨by decide, by decide⟩
  | false => exact ⟨by decide, by decide⟩
  | number h => exact h.covers
  | string h =>
    apply (h.covers.enclosed (by decide) (by decide)).mono
    · show 2 + _ ≤ _
      omega
    · exact Nat.le_refl _
  | emptyArray h =>
    apply (h.covers.enclosed (by decide) (by decide)).mono
    · exact Nat.le_refl 2
    · exact Nat.le_refl 0
  | @array vs text h ih =>
    apply (ih.enclosed (by decide) (by decide)).mono
    · show 1 + max 1 (elementsSize vs) ≤ elementsSize vs - 1 + 2
      omega
    · exact Nat.le_refl _
  | emptyObject h =>
    apply (h.covers.enclosed (by decide) (by decide)).mono
    · exact Nat.le_refl 2
    · exact Nat.le_refl 0
  | @object ms text h ih =>
    apply (ih.enclosed (by decide) (by decide)).mono
    · show 1 + max 1 (membersSize ms) ≤ membersSize ms - 1 + 2
      omega
    · exact Nat.le_refl _
  | @element v text h ih =>
    apply ih.mono
    · show v.size + 1 + 0 - 1 ≤ v.size
      omega
    · exact Nat.le_refl v.minusSigns
  | @moreElements v vs text rest h hrest ih ihrest =>
    apply (ih.append (ihrest.cons (b := 0x2C) (by decide))).mono
    · show v.size + 1 + elementsSize vs - 1 ≤ v.size + (elementsSize vs - 1 + 1)
      omega
    · exact Nat.le_refl (v.minusSigns + elementsMinusSigns vs)
  | @member name v front nameText back text hfront hback hname h ih =>
    have hvalue := (hback.covers.append (ih.cons (b := 0x3A) (by decide))).cons (b := 0x22)
      (by decide)
    apply (hfront.covers.append ((hname.covers.append hvalue).cons (b := 0x22) (by decide))).mono
    · show stringSize name + 3 + v.size + 1 + 0 - 1 ≤
        0 + (stringSize name + (0 + (v.size + 1) + 1) + 1)
      omega
    · show 0 + (name.count 0x2D + (0 + v.minusSigns)) ≤ name.count 0x2D + v.minusSigns + 0
      omega
  | @moreMembers m ms text rest h hrest ih ihrest =>
    apply (ih.append (ihrest.cons (b := 0x2C) (by decide))).mono
    · show stringSize m.1 + 3 + m.2.size + 1 + membersSize ms - 1 ≤
        (stringSize m.1 + 3 + m.2.size + 1 + 0 - 1) + (membersSize ms - 1 + 1)
      omega
    · show m.1.count 0x2D + m.2.minusSigns + membersMinusSigns ms ≤
        m.1.count 0x2D + m.2.minusSigns + 0 + membersMinusSigns ms
      omega

/-! ## Members in any order -/

theorem membersSize_eq (ms : List Member) :
    membersSize ms = (ms.map fun m => stringSize m.1 + 3 + m.2.size + 1).sum := by
  induction ms with
  | nil => rfl
  | cons m ms ih =>
    rw [List.map_cons, List.sum_cons, ← ih]
    rfl

theorem membersMinusSigns_eq (ms : List Member) :
    membersMinusSigns ms = (ms.map fun m => m.1.count 0x2D + m.2.minusSigns).sum := by
  induction ms with
  | nil => rfl
  | cons m ms ih =>
    rw [List.map_cons, List.sum_cons, ← ih]
    rfl

@[simp] theorem membersSize_append (ms ms' : List Member) :
    membersSize (ms ++ ms') = membersSize ms + membersSize ms' := by
  simp [membersSize_eq]

@[simp] theorem membersMinusSigns_append (ms ms' : List Member) :
    membersMinusSigns (ms ++ ms') = membersMinusSigns ms + membersMinusSigns ms' := by
  simp [membersMinusSigns_eq]

/-- **An object's text** covers its members. -/
theorem IsObject.covers (h : IsObject text ms) :
    Covers text (1 + membersSize ms) (membersMinusSigns ms) := by
  obtain ⟨ms', hperm, hderives⟩ := h
  apply hderives.covers.mono
  · show 1 + membersSize ms ≤ 1 + max 1 (membersSize ms')
    have hsum : membersSize ms' = membersSize ms := by
      rw [membersSize_eq, membersSize_eq]
      exact (hperm.map _).sum_eq
    omega
  · show membersMinusSigns ms' ≤ membersMinusSigns ms
    rw [membersMinusSigns_eq, membersMinusSigns_eq]
    exact Nat.le_of_eq (hperm.map _).sum_eq

theorem length_escape (s : List UInt8) : (s.flatMap escapeByte).length = stringSize s := by
  induction s with
  | nil => rfl
  | cons b s ih =>
    rw [List.flatMap_cons, List.length_append, ih, stringSize_cons]
    congr 1
    unfold escapeByte byteSize
    split <;> rfl

end Json
