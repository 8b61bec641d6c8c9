import Rpi5Uefi.Lib.Bytes
import Rpi5Uefi.Lib.Utf8
import Mathlib.Data.Nat.Digits.Lemmas

/-!
# JSON texts

The grammar of JSON texts in UTF-8, over bytes, with the value a text stands for. A string is its
decoded characters, in UTF-8 too. A number is its literal.

* **`Derives`**: a text stands for a value, for the elements of an array or the members of an
  object. Whitespace, escapes, fractions and exponents are all there.
* **`IsObject`**: a text is an object with given members.
* **`Derives.object_of_trailing`**: an object written member by member, each behind a comma.
-/

namespace Json

open Bytes

/-! ## Values -/

/-- A number as it is written, its digits most significant first. The exponent has its sign, true
where it is negative. -/
structure Numeral where
  negative : Bool
  whole : List Nat
  fraction : List Nat
  exponent : Option (Bool × List Nat)
  deriving DecidableEq, Repr

/-- The numeral of a natural number. -/
def Numeral.ofNat (n : Nat) : Numeral :=
  ⟨false, if n = 0 then [0] else (Nat.digits 10 n).reverse, [], none⟩

inductive Value where
  | null
  | bool (b : Bool)
  | number (numeral : Numeral)
  | string (text : List UInt8)
  | array (elements : List Value)
  | object (members : List (List UInt8 × Value))

/-- A name and a value. -/
abbrev Member := List UInt8 × Value

/-! ## Texts -/

def Whitespace (text : List UInt8) : Prop := ∀ b ∈ text, b = 0x20 ∨ b = 0x09 ∨ b = 0x0A ∨ b = 0x0D

def hexDigit (b : UInt8) : Option Nat :=
  if 0x30 ≤ b ∧ b ≤ 0x39 then some (b.toNat - 0x30)
  else if 0x41 ≤ b ∧ b ≤ 0x46 then some (b.toNat - 0x37)
  else if 0x61 ≤ b ∧ b ≤ 0x66 then some (b.toNat - 0x57)
  else none

/-- Four hexadecimal digits. -/
def hex4 : List UInt8 → Option Nat
  | [a, b, c, d] => do
    let a ← hexDigit a
    let b ← hexDigit b
    let c ← hexDigit c
    let d ← hexDigit d
    pure (a * 4096 + b * 256 + c * 16 + d)
  | _ => none

/-- What may stand behind a backslash, and the byte it is for. -/
def escapes : List (UInt8 × UInt8) :=
  [(0x22, 0x22), (0x5C, 0x5C), (0x2F, 0x2F), (0x62, 0x08), (0x66, 0x0C), (0x6E, 0x0A), (0x72, 0x0D),
    (0x74, 0x09)]

/-- `Chars text s`: between the quotes of a string, `text` stands for `s`. -/
inductive Chars : List UInt8 → List UInt8 → Prop where
  | nil : Chars [] []
  | plain {c : Char} {text s : List UInt8} (hcontrol : 0x20 ≤ c.toNat) (hquote : c.toNat ≠ 0x22)
      (hbackslash : c.toNat ≠ 0x5C) (h : Chars text s) :
      Chars (String.utf8EncodeChar c ++ text) (String.utf8EncodeChar c ++ s)
  | escape {c b : UInt8} {text s : List UInt8} (hescape : (c, b) ∈ escapes) (h : Chars text s) :
      Chars (0x5C :: c :: text) (b :: s)
  | unicode {c : Char} {hex text s : List UInt8} (hhex : hex4 hex = some c.toNat)
      (h : Chars text s) : Chars (0x5C :: 0x75 :: (hex ++ text)) (String.utf8EncodeChar c ++ s)
  | surrogates {c : Char} {high low : Nat} {hex hex' text s : List UInt8}
      (hhigh : hex4 hex = some (0xD800 + high)) (hlow : hex4 hex' = some (0xDC00 + low))
      (hbound : high < 0x400 ∧ low < 0x400) (hchar : c.toNat = 0x10000 + high * 0x400 + low)
      (h : Chars text s) :
      Chars (0x5C :: 0x75 :: (hex ++ 0x5C :: 0x75 :: (hex' ++ text))) (String.utf8EncodeChar c ++ s)

def digitText (digits : List Nat) : List UInt8 := digits.map fun d => UInt8.ofNat (0x30 + d)

/-- One digit or more. -/
def Digits (digits : List Nat) : Prop := digits ≠ [] ∧ ∀ d ∈ digits, d < 10

inductive ExponentText : Option (Bool × List Nat) → List UInt8 → Prop where
  | none : ExponentText none []
  | unsigned {mark : UInt8} {digits : List Nat} (hmark : mark = 0x65 ∨ mark = 0x45)
      (hdigits : Digits digits) : ExponentText (some (false, digits)) (mark :: digitText digits)
  | plus {mark : UInt8} {digits : List Nat} (hmark : mark = 0x65 ∨ mark = 0x45)
      (hdigits : Digits digits) :
      ExponentText (some (false, digits)) (mark :: 0x2B :: digitText digits)
  | minus {mark : UInt8} {digits : List Nat} (hmark : mark = 0x65 ∨ mark = 0x45)
      (hdigits : Digits digits) :
      ExponentText (some (true, digits)) (mark :: 0x2D :: digitText digits)

def signText (negative : Bool) : List UInt8 := if negative then [0x2D] else []

def fractionText (fraction : List Nat) : List UInt8 :=
  if fraction = [] then [] else 0x2E :: digitText fraction

/-- A number's text; it has no zero in front. -/
inductive NumeralText : Numeral → List UInt8 → Prop where
  | mk {negative : Bool} {whole fraction : List Nat} {exponent : Option (Bool × List Nat)}
      {text : List UInt8} (hwhole : Digits whole) (hzero : whole = [0] ∨ whole.head? ≠ some 0)
      (hfraction : ∀ d ∈ fraction, d < 10) (hexponent : ExponentText exponent text) :
      NumeralText ⟨negative, whole, fraction, exponent⟩
        (signText negative ++ digitText whole ++ fractionText fraction ++ text)

/-- What a text may stand for: a value, or what is between the brackets of an array or an object
that is not empty. -/
inductive Phrase where
  | value (v : Value)
  | elements (vs : List Value)
  | members (ms : List Member)

/-- **The grammar.** -/
inductive Derives : Phrase → List UInt8 → Prop where
  | space {v : Value} {front text back : List UInt8} (hfront : Whitespace front)
      (hback : Whitespace back) (h : Derives (.value v) text) :
      Derives (.value v) (front ++ text ++ back)
  | null : Derives (.value .null) (ascii "null")
  | true : Derives (.value (.bool true)) (ascii "true")
  | false : Derives (.value (.bool false)) (ascii "false")
  | number {numeral : Numeral} {text : List UInt8} (h : NumeralText numeral text) :
      Derives (.value (.number numeral)) text
  | string {text s : List UInt8} (h : Chars text s) :
      Derives (.value (.string s)) (0x22 :: (text ++ [0x22]))
  | emptyArray {space : List UInt8} (h : Whitespace space) :
      Derives (.value (.array [])) (0x5B :: (space ++ [0x5D]))
  | array {vs : List Value} {text : List UInt8} (h : Derives (.elements vs) text) :
      Derives (.value (.array vs)) (0x5B :: (text ++ [0x5D]))
  | emptyObject {space : List UInt8} (h : Whitespace space) :
      Derives (.value (.object [])) (0x7B :: (space ++ [0x7D]))
  | object {ms : List Member} {text : List UInt8} (h : Derives (.members ms) text) :
      Derives (.value (.object ms)) (0x7B :: (text ++ [0x7D]))
  | element {v : Value} {text : List UInt8} (h : Derives (.value v) text) :
      Derives (.elements [v]) text
  | moreElements {v : Value} {vs : List Value} {text rest : List UInt8}
      (h : Derives (.value v) text) (hrest : Derives (.elements vs) rest) :
      Derives (.elements (v :: vs)) (text ++ 0x2C :: rest)
  | member {name : List UInt8} {v : Value} {front nameText back text : List UInt8}
      (hfront : Whitespace front) (hback : Whitespace back) (hname : Chars nameText name)
      (h : Derives (.value v) text) :
      Derives (.members [(name, v)]) (front ++ 0x22 :: (nameText ++ 0x22 :: (back ++ 0x3A :: text)))
  | moreMembers {m : Member} {ms : List Member} {text rest : List UInt8}
      (h : Derives (.members [m]) text) (hrest : Derives (.members ms) rest) :
      Derives (.members (m :: ms)) (text ++ 0x2C :: rest)

/-- The text is an object with these members, in some order. -/
def IsObject (text : List UInt8) (ms : List Member) : Prop :=
  ∃ ms', ms'.Perm ms ∧ Derives (.value (.object ms')) text

/-! ## Writing a text -/

/-- A text without control characters, quotes and backslashes. -/
def Unescaped (text : List UInt8) : Prop := ∀ b ∈ text, 0x20 ≤ b ∧ b ≠ 0x22 ∧ b ≠ 0x5C

instance (text : List UInt8) : Decidable (Unescaped text) := List.decidableBAll _ text

variable {text text' s name : List UInt8} {v : Value} {ms ms' : List Member}

def escapeByte (b : UInt8) : List UInt8 := if b = 0x22 ∨ b = 0x5C then [0x5C, b] else [b]

/-- A byte below 0x80 that needs no escape. -/
theorem Chars.plainByte {b : UInt8} (hascii : b < 0x80) (hcontrol : 0x20 ≤ b) (hquote : b ≠ 0x22)
    (hbackslash : b ≠ 0x5C) (h : Chars text s) : Chars (b :: text) (b :: s) := by
  obtain ⟨c, hnat, hc⟩ := utf8EncodeChar_byte hascii
  have hne : ∀ k : UInt8, b ≠ k → c.toNat ≠ k.toNat :=
    fun k hk heq => hk (UInt8.toNat_inj.mp (hnat.symm.trans heq))
  have hplain := Chars.plain (hnat ▸ UInt8.le_iff_toNat_le.mp hcontrol) (hne _ hquote)
    (hne _ hbackslash) h
  rwa [hc] at hplain

/-- The bytes of a character that stands for itself. -/
theorem plainChar_bytes {c : Char} (hcontrol : 0x20 ≤ c.toNat) (hquote : c.toNat ≠ 0x22)
    (hbackslash : c.toNat ≠ 0x5C) : Unescaped (String.utf8EncodeChar c) := by
  intro b hb
  rcases utf8EncodeChar_cases c with ⟨b', -, hnat, heq⟩ | ⟨-, hwide⟩
  · rw [heq] at hb
    obtain rfl := List.mem_singleton.mp hb
    refine ⟨UInt8.le_iff_toNat_le.mpr (hnat ▸ hcontrol), ?_, ?_⟩
    · rintro rfl
      exact hquote hnat.symm
    · rintro rfl
      exact hbackslash hnat.symm
  · have hlow := UInt8.le_iff_toNat_le.mp (hwide b hb).1
    refine ⟨UInt8.le_iff_toNat_le.mpr (Nat.le_trans (by decide) hlow), ?_, ?_⟩ <;>
    · rintro rfl
      exact absurd hlow (by decide)

/-- **A string that is escaped** stands for itself. -/
theorem Chars.escaped (hutf8 : IsUtf8 s) (h : ∀ b ∈ s, 0x20 ≤ b) :
    Chars (s.flatMap escapeByte) s := by
  induction hutf8 with
  | nil => exact .nil
  | @cons c s _ ih =>
    have hrest : Chars (s.flatMap escapeByte) s := ih fun b hb => h b (List.mem_append_right _ hb)
    have hhead : ∀ b ∈ String.utf8EncodeChar c, 0x20 ≤ b :=
      fun b hb => h b (List.mem_append_left _ hb)
    rw [List.flatMap_append]
    rcases utf8EncodeChar_cases c with ⟨b, hb, -, heq⟩ | ⟨hlow, hwide⟩
    · rw [heq] at hhead ⊢
      rw [List.flatMap_singleton]
      unfold escapeByte
      split
      · rename_i hspecial
        apply Chars.escape
        · rcases hspecial with rfl | rfl <;> decide
        · exact hrest
      · rename_i hplain
        obtain ⟨hquote, hbackslash⟩ := not_or.mp hplain
        exact .plainByte hb (hhead b List.mem_cons_self) hquote hbackslash hrest
    · have hcontrol : 0x20 ≤ c.toNat := Nat.le_trans (by decide) hlow
      have hquote : c.toNat ≠ 0x22 := by omega
      have hbackslash : c.toNat ≠ 0x5C := by omega
      have hsame : (String.utf8EncodeChar c).flatMap escapeByte = String.utf8EncodeChar c := by
        have hsingle : ∀ b ∈ String.utf8EncodeChar c, escapeByte b = [b] := by
          intro b hb
          obtain ⟨-, hb1, hb2⟩ := plainChar_bytes hcontrol hquote hbackslash b hb
          exact if_neg (not_or.mpr ⟨hb1, hb2⟩)
        rw [List.flatMap_congr hsingle]
        exact List.flatMap_singleton' _
      rw [hsame]
      exact .plain hcontrol hquote hbackslash hrest

/-- UTF-8 that needs no escape stands for itself. -/
theorem Unescaped.chars (h : Unescaped text) (hutf8 : IsUtf8 text) : Chars text text := by
  have hescaped := Chars.escaped hutf8 fun b hb => (h b hb).1
  have hsame : ∀ b ∈ text, escapeByte b = [b] :=
    fun b hb => if_neg (not_or.mpr (h b hb).2)
  rwa [List.flatMap_congr hsame, List.flatMap_singleton'] at hescaped

/-- What a text stands for is UTF-8. -/
theorem Chars.utf8 (h : Chars text s) : IsUtf8 s := by
  induction h with
  | nil => exact .nil
  | plain _ _ _ _ ih => exact .cons _ ih
  | @escape c b text s hescape _ ih =>
    have hascii : (escapes.all fun e => e.2 < 0x80) = true := by decide
    refine IsUtf8.append (s := [b]) (isUtf8_of_ascii fun x hx => ?_) ih
    rw [List.mem_singleton.mp hx]
    exact of_decide_eq_true (List.all_eq_true.mp hascii _ hescape)
  | unicode _ _ ih => exact .cons _ ih
  | surrogates _ _ _ _ _ ih => exact .cons _ ih

theorem wholeDigits (n : Nat) : Digits (Numeral.ofNat n).whole ∧
    ((Numeral.ofNat n).whole = [0] ∨ (Numeral.ofNat n).whole.head? ≠ some 0) := by
  unfold Numeral.ofNat
  simp only
  split
  · exact ⟨⟨by decide, by decide⟩, Or.inl rfl⟩
  rename_i hn
  refine ⟨⟨?_, ?_⟩, Or.inr ?_⟩
  · exact List.reverse_ne_nil_iff.mpr (Nat.digits_ne_nil_iff_ne_zero.mpr hn)
  · intro d hd
    exact Nat.digits_lt_base (by decide) (List.mem_reverse.mp hd)
  · rw [List.head?_reverse, List.getLast?_eq_some_getLast (Nat.digits_ne_nil_iff_ne_zero.mpr hn)]
    intro heq
    exact Nat.getLast_digit_ne_zero 10 hn (Option.some.inj heq)

theorem Derives.ofNat (n : Nat) :
    Derives (.value (.number (.ofNat n))) (digitText (Numeral.ofNat n).whole) := by
  obtain ⟨hwhole, hzero⟩ := wholeDigits n
  have htext := @NumeralText.mk Bool.false _ [] none [] hwhole hzero (by decide) .none
  apply Derives.number
  show NumeralText ⟨Bool.false, (Numeral.ofNat n).whole, [], none⟩ _
  simpa [signText, fractionText] using htext

/-- A member without whitespace. -/
theorem Derives.plainMember {nameText : List UInt8} (hname : Chars nameText name)
    (h : Derives (.value v) text) :
    Derives (.members [(name, v)]) (0x22 :: (nameText ++ 0x22 :: 0x3A :: text)) := by
  have hnone : Whitespace [] := fun b hb => absurd hb List.not_mem_nil
  exact Derives.member hnone hnone hname h

/-- Members, each behind a comma. -/
inductive Trailing : List Member → List UInt8 → Prop where
  | nil : Trailing [] []
  | cons {m : Member} {ms : List Member} {text rest : List UInt8}
      (h : Derives (.members [m]) text) (hrest : Trailing ms rest) :
      Trailing (m :: ms) (0x2C :: (text ++ rest))

theorem Trailing.single {m : Member} (h : Derives (.members [m]) text) :
    Trailing [m] (0x2C :: text) := by
  have htrailing := Trailing.cons h .nil
  rwa [List.append_nil] at htrailing

theorem Trailing.append (h : Trailing ms text) (h' : Trailing ms' text') :
    Trailing (ms ++ ms') (text ++ text') := by
  induction h with
  | nil => exact h'
  | cons h _ ih =>
    rw [List.cons_append, List.cons_append, List.append_assoc]
    exact .cons h ih

/-- The members of an object: a first one, and the rest each behind a comma. -/
theorem Derives.members_of_trailing {m : Member} (h : Derives (.members [m]) text)
    (hrest : Trailing ms text') : Derives (.members (m :: ms)) (text ++ text') := by
  induction hrest generalizing m text with
  | nil =>
    rw [List.append_nil]
    exact h
  | cons hnext _ ih => exact .moreMembers h (ih hnext)

/-- **An object written member by member.** -/
theorem Derives.object_of_trailing {m : Member} (h : Derives (.members [m]) text)
    (hrest : Trailing ms text') : IsObject (0x7B :: (text ++ text' ++ [0x7D])) (m :: ms) :=
  ⟨m :: ms, List.Perm.refl _, .object (Derives.members_of_trailing h hrest)⟩

end Json
