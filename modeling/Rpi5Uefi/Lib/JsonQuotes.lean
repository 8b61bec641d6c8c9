import Rpi5Uefi.Lib.Json
import Mathlib.Data.List.Infix

/-!
# The quotes of a JSON text

A string ends at the first quote that is not escaped, and a member of an object has its own text in
that of the object.

* **`Unclosed.end_eq`**: where the text of a string ends.
* **`IsObject.string_utf8`**: the strings among an object's members are UTF-8.
-/

namespace Json

open Bytes

/-! ## Bytes that are no quotes -/

variable {text text' s rest rest' : List UInt8}

theorem hexDigit_unquoted {b : UInt8} {d : Nat} (h : hexDigit b = some d) :
    b ≠ 0x22 ∧ b ≠ 0x5C := by
  have hquote : hexDigit 0x22 = none := by decide
  have hbackslash : hexDigit 0x5C = none := by decide
  constructor
  · rintro rfl
    rw [hquote] at h
    cases h
  · rintro rfl
    rw [hbackslash] at h
    cases h

theorem hex4_unquoted {hex : List UInt8} {n : Nat} (h : hex4 hex = some n) :
    ∀ b ∈ hex, b ≠ 0x22 ∧ b ≠ 0x5C := by
  unfold hex4 at h
  split at h
  · simp only [Option.bind_eq_bind, Option.bind_eq_some_iff] at h
    obtain ⟨_, ha, _, hb, _, hc, _, hd, -⟩ := h
    simp only [List.forall_mem_cons]
    exact ⟨hexDigit_unquoted ha, hexDigit_unquoted hb, hexDigit_unquoted hc, hexDigit_unquoted hd,
      fun b hb => absurd hb List.not_mem_nil⟩
  · cases h

theorem digitText_unquoted {digits : List Nat} (h : ∀ d ∈ digits, d < 10) :
    (0x22 : UInt8) ∉ digitText digits := by
  intro hmem
  obtain ⟨d, hd, hquote⟩ := List.mem_map.mp hmem
  have hall : ∀ d < 10, UInt8.ofNat (0x30 + d) ≠ 0x22 := by decide
  exact hall d (h d hd) hquote

theorem ExponentText.unquoted {exponent : Option (Bool × List Nat)}
    (h : ExponentText exponent text) : (0x22 : UInt8) ∉ text := by
  cases h with
  | none => exact List.not_mem_nil
  | unsigned hmark hdigits =>
    rcases hmark with rfl | rfl <;> simp [digitText_unquoted hdigits.2]
  | plus hmark hdigits =>
    rcases hmark with rfl | rfl <;> simp [digitText_unquoted hdigits.2]
  | minus hmark hdigits =>
    rcases hmark with rfl | rfl <;> simp [digitText_unquoted hdigits.2]

theorem NumeralText.unquoted {numeral : Numeral} (h : NumeralText numeral text) :
    (0x22 : UInt8) ∉ text := by
  obtain ⟨hwhole, -, hfraction, hexponent⟩ := h
  rename_i negative whole fraction exponent text
  have hsign : (0x22 : UInt8) ∉ signText negative := by
    cases negative <;> decide
  have hfractionText : (0x22 : UInt8) ∉ fractionText fraction := by
    unfold fractionText
    split
    · exact List.not_mem_nil
    · simp [digitText_unquoted hfraction]
  simp [hsign, digitText_unquoted hwhole.2, hfractionText, hexponent.unquoted]

/-! ## The end of a string -/

/-- What a byte of a string's text is read in. -/
inductive StringState where
  | inside
  | escaped
  | closed

/-- A string that is closed stays so. -/
def stringStep (state : StringState) (b : UInt8) : StringState :=
  match state with
  | .inside => if b = 0x22 then .closed else if b = 0x5C then .escaped else .inside
  | .escaped => .inside
  | .closed => .closed

def stringRun (state : StringState) (text : List UInt8) : StringState := text.foldl stringStep state

theorem stringRun_append (state : StringState) (text text' : List UInt8) :
    stringRun state (text ++ text') = stringRun (stringRun state text) text' := List.foldl_append

theorem stringRun_closed (text : List UInt8) : stringRun .closed text = .closed := by
  induction text with
  | nil => rfl
  | cons b text ih => exact ih

/-- The string is not closed within the text. -/
def Unclosed (text : List UInt8) : Prop := stringRun .inside text = .inside

theorem unclosed_of_unquoted (h : ∀ b ∈ text, b ≠ 0x22 ∧ b ≠ 0x5C) : Unclosed text := by
  induction text with
  | nil => rfl
  | cons b text ih =>
    obtain ⟨hquote, hbackslash⟩ := h b List.mem_cons_self
    show stringRun (if b = 0x22 then .closed else if b = 0x5C then .escaped else .inside) text = _
    rw [if_neg hquote, if_neg hbackslash]
    exact ih fun b hb => h b (List.mem_cons_of_mem _ hb)

theorem Unescaped.unclosed (h : Unescaped text) : Unclosed text :=
  unclosed_of_unquoted fun b hb => (h b hb).2

theorem Unclosed.append (h : Unclosed text) (h' : Unclosed text') : Unclosed (text ++ text') := by
  unfold Unclosed
  rw [stringRun_append, h, h']

theorem Chars.unclosed (h : Chars text s) : Unclosed text := by
  induction h with
  | nil => rfl
  | plain hcontrol hquote hbackslash _ ih =>
    exact (plainChar_bytes hcontrol hquote hbackslash).unclosed.append ih
  | escape _ _ ih => exact ih
  | unicode hhex _ ih => exact (unclosed_of_unquoted (hex4_unquoted hhex)).append ih
  | @surrogates c high low hex hex' text s hhigh hlow _ _ _ ih =>
    have hrest : Unclosed (0x5C :: 0x75 :: (hex' ++ text)) :=
      (unclosed_of_unquoted (hex4_unquoted hlow)).append ih
    exact (unclosed_of_unquoted (hex4_unquoted hhigh)).append hrest

/-- A quote behind such a text is not in a longer one. -/
theorem Unclosed.not_closed (h : Unclosed text) (h' : Unclosed (text ++ 0x22 :: rest)) : False := by
  unfold Unclosed at h'
  rw [stringRun_append, h] at h'
  change stringRun .closed rest = .inside at h'
  rw [stringRun_closed] at h'
  cases h'

/-- **The first quote that is not escaped** is the end of both. -/
theorem Unclosed.end_eq (h : Unclosed text) (h' : Unclosed text')
    (heq : text ++ 0x22 :: rest = text' ++ 0x22 :: rest') : text = text' ∧ rest = rest' := by
  rcases List.append_eq_append_iff.mp heq with ⟨more, rfl, hmore⟩ | ⟨more, rfl, hmore⟩
  · cases more with
    | nil => exact ⟨(List.append_nil _).symm, (List.cons.inj hmore).2⟩
    | cons b more =>
      obtain ⟨rfl, -⟩ := List.cons.inj hmore
      exact (h.not_closed h').elim
  · cases more with
    | nil => exact ⟨List.append_nil _, (List.cons.inj hmore).2.symm⟩
    | cons b more =>
      obtain ⟨rfl, -⟩ := List.cons.inj hmore
      exact (h'.not_closed h).elim

/-! ## The text of a member -/

/-- The members a phrase lists. -/
def Phrase.listed : Phrase → List Member
  | .value (.object ms) => ms
  | .members ms => ms
  | _ => []

/-- **A member has its own text** in that of the object. -/
theorem Derives.member_infix {phrase : Phrase} (h : Derives phrase text) {m : Member}
    (hm : m ∈ phrase.listed) :
    ∃ memberText, memberText <:+: text ∧ Derives (.members [m]) memberText := by
  induction h with
  | @space v front text back hfront hback h ih =>
    obtain ⟨memberText, hinfix, hmember⟩ := ih hm
    exact ⟨memberText, hinfix.trans (List.infix_append front text back), hmember⟩
  | @object ms text h ih =>
    obtain ⟨memberText, hinfix, hmember⟩ := ih hm
    exact ⟨memberText, hinfix.trans (List.infix_append [0x7B] text [0x7D]), hmember⟩
  | member hfront hback hname h ih =>
    rw [List.mem_singleton.mp hm]
    exact ⟨_, List.infix_refl _, .member hfront hback hname h⟩
  | @moreMembers m' ms text rest h hrest ih ihrest =>
    rcases List.mem_cons.mp hm with rfl | hm
    · exact ⟨text, (List.prefix_append text _).isInfix, h⟩
    · obtain ⟨memberText, hinfix, hmember⟩ := ihrest hm
      refine ⟨memberText, hinfix.trans ?_, hmember⟩
      exact ((List.suffix_cons _ rest).trans (List.suffix_append text _)).isInfix
  | _ => exact absurd hm List.not_mem_nil

/-- A string is UTF-8. -/
theorem Derives.string_utf8 (h : Derives (.value (.string s)) text) : IsUtf8 s := by
  generalize hphrase : Phrase.value (.string s) = phrase at h
  induction h with
  | space hfront hback h ih => exact ih hphrase
  | string h =>
    cases hphrase
    exact h.utf8
  | number h => cases hphrase
  | _ => cases hphrase

/-- The values of an object's members have texts. -/
theorem IsObject.member_value {ms : List Member} {name : List UInt8} {v : Value}
    (h : IsObject text ms) (hm : (name, v) ∈ ms) : ∃ valueText, Derives (.value v) valueText := by
  obtain ⟨ms', hperm, hobject⟩ := h
  obtain ⟨memberText, -, hmember⟩ := hobject.member_infix (hperm.mem_iff.mpr hm)
  cases hmember with
  | member _ _ _ hvalue => exact ⟨_, hvalue⟩
  | moreMembers _ hrest => cases hrest

/-- So the strings among them are UTF-8. -/
theorem IsObject.string_utf8 {ms : List Member} {name : List UInt8} (h : IsObject text ms)
    (hm : (name, Value.string s) ∈ ms) : IsUtf8 s := by
  obtain ⟨valueText, hvalue⟩ := h.member_value hm
  exact hvalue.string_utf8

end Json
