import Rpi5Uefi.Lib.JsonCovers
import Rpi5Uefi.Lib.JsonQuotes

/-!
# Reading a JSON object from its front

The first members of an object can be read off its text, whatever stands behind them.

* **`Chars.eq_self`**: bytes that a string's text stands for, and has in front of a quote.
* **`Remains.string`**: a text that goes on with a name and with bytes between quotes has a member
  of that name; it is these bytes exactly where they need no escape.
-/

namespace Json

open Bytes

variable {text text' s p name rest rest' tail : List UInt8} {v : Value} {ms : List Member}

/-! ## What a string's text stands for -/

/-- Without a backslash, a text stands for itself. -/
theorem Chars.eq_of_unescaped (h : Chars text s) (htext : Unescaped text) : s = text := by
  induction h with
  | nil => rfl
  | plain _ _ _ _ ih => rw [ih fun b hb => htext b (List.mem_append_right _ hb)]
  | escape | unicode | surrogates => exact absurd rfl (htext 0x5C List.mem_cons_self).2.2

/-- A comma of the text is one of the string. -/
theorem Chars.commas (h : Chars text s) : text.count 0x2C ≤ s.count 0x2C := by
  have hcons : ∀ {b : UInt8} {text : List UInt8}, b ≠ 0x2C →
      (b :: text).count 0x2C = text.count 0x2C := fun hb => List.count_cons_of_ne hb
  have hdigit : ∀ {b : UInt8} {d : Nat}, hexDigit b = some d → b ≠ 0x2C := by
    rintro b d h rfl
    cases h
  have hhex4 : ∀ {hex : List UInt8} {n : Nat}, hex4 hex = some n → hex.count 0x2C = 0 := by
    intro hex n h
    unfold hex4 at h
    split at h
    · simp only [Option.bind_eq_bind, Option.bind_eq_some_iff] at h
      obtain ⟨_, ha, _, hb, _, hc, _, hd, -⟩ := h
      rw [hcons (hdigit ha), hcons (hdigit hb), hcons (hdigit hc), hcons (hdigit hd)]
      rfl
    · cases h
  induction h with
  | nil => exact Nat.le_refl _
  | plain _ _ _ _ ih =>
    rw [List.count_append, List.count_append]
    exact Nat.add_le_add_left ih _
  | @escape c b text s hescape _ ih =>
    have hall : (escapes.all fun e => e.1 != 0x2C) = true := by decide
    have hne := bne_iff_ne.mp (List.all_eq_true.mp hall _ hescape)
    rw [hcons (by decide), hcons hne]
    exact ih.trans List.count_le_count_cons
  | unicode hhex _ ih =>
    rw [hcons (by decide), hcons (by decide), List.count_append, hhex4 hhex, List.count_append]
    omega
  | surrogates hhigh hlow _ _ _ ih =>
    rw [hcons (by decide), hcons (by decide), List.count_append, hhex4 hhigh, hcons (by decide),
      hcons (by decide), List.count_append, hhex4 hlow, List.count_append]
    omega

/-- **Bytes that stand for themselves** in front of a quote and a comma need no escape: a shorter
text is too short for them, and a longer one has the comma, too. -/
theorem Chars.eq_self (h : Chars text p) (heq : text ++ 0x22 :: rest = p ++ 0x22 :: 0x2C :: rest') :
    text = p ∧ Unescaped p := by
  have hshort : ∀ {more : List UInt8}, p = text ++ more → text = p ∧ Unescaped p := by
    intro more hp
    have hplain : Unescaped p := by
      apply unescaped_of_stringSize_le
      refine h.covers.shown.trans ?_
      rw [hp, shownCount_append]
      exact Nat.le_add_right _ _
    exact ⟨(h.unclosed.end_eq hplain.unclosed heq).1, hplain⟩
  rcases List.append_eq_append_iff.mp heq with ⟨more, hp, -⟩ | ⟨more, htext, hmore⟩
  · exact hshort hp
  cases more with
  | nil =>
    have hsame : p = text ++ [] := by rw [htext, List.append_nil, List.append_nil]
    exact hshort hsame
  | cons b more =>
    obtain ⟨rfl, hbehind⟩ := List.cons.inj hmore
    cases more with
    | nil => exact absurd (List.cons.inj hbehind).1 (by decide)
    | cons b more =>
      obtain ⟨rfl, -⟩ := List.cons.inj hbehind
      have hcommas := h.commas
      rw [htext, List.count_append, List.count_cons_of_ne (by decide), List.count_cons_self]
        at hcommas
      omega

/-! ## The front of a value -/

theorem NumeralText.ne_nil {numeral : Numeral} (h : NumeralText numeral text) : text ≠ [] := by
  obtain ⟨⟨hwhole, -⟩, -, -, -⟩ := h
  intro hnil
  simp only [List.append_eq_nil_iff, digitText, List.map_eq_nil_iff] at hnil
  exact hwhole hnil.1.1.2

theorem Derives.ne_nil {phrase : Phrase} (h : Derives phrase text) : text ≠ [] := by
  induction h with
  | space _ _ _ ih => simp [ih]
  | null | true | false => decide
  | number h => exact h.ne_nil
  | element _ ih => exact ih
  | moreElements | member | moreMembers => simp
  | _ => exact List.cons_ne_nil _ _

/-- Whitespace in front of something else is none. -/
theorem Whitespace.eq_nil {b b' : UInt8} {front : List UInt8} (hfront : Whitespace front)
    (hb : ¬ Whitespace [b]) (heq : front ++ b' :: rest' = b :: rest) :
    front = [] ∧ b' = b ∧ rest' = rest := by
  cases front with
  | nil =>
    obtain ⟨rfl, rfl⟩ := List.cons.inj heq
    exact ⟨rfl, rfl, rfl⟩
  | cons c front =>
    obtain ⟨rfl, -⟩ := List.cons.inj heq
    refine absurd (fun x hx => ?_) hb
    rw [List.mem_singleton.mp hx]
    exact hfront _ List.mem_cons_self

theorem Whitespace.append (h : Whitespace text) (h' : Whitespace text') :
    Whitespace (text ++ text') :=
  fun b hb => (List.mem_append.mp hb).elim (h b) (h' b)

theorem not_whitespace {b : UInt8} (hb : b ≠ 0x20 ∧ b ≠ 0x09 ∧ b ≠ 0x0A ∧ b ≠ 0x0D) :
    ¬ Whitespace [b] := by
  intro h
  rcases h b List.mem_cons_self with h | h | h | h
  · exact hb.1 h
  · exact hb.2.1 h
  · exact hb.2.2.1 h
  · exact hb.2.2.2 h

/-- **A value that begins with a quote** is a string. The induction is on the whitespace around
it. -/
theorem Derives.eq_string (h : Derives (.value v) (0x22 :: rest)) :
    ∃ t s back, v = .string s ∧ Chars t s ∧ Whitespace back ∧ rest = t ++ 0x22 :: back := by
  generalize hphrase : Phrase.value v = phrase at h
  generalize htext : 0x22 :: rest = text at h
  induction h generalizing rest with
  | @space v' front text back hfront hback h ih =>
    obtain ⟨b, text, rfl⟩ := List.exists_cons_of_ne_nil h.ne_nil
    have heq : front ++ b :: (text ++ back) = 0x22 :: rest := by simpa using htext.symm
    obtain ⟨-, rfl, rfl⟩ := hfront.eq_nil (not_whitespace (by decide)) heq
    obtain ⟨t, s, back', hv, ht, hback', rfl⟩ := ih hphrase rfl
    exact ⟨t, s, back' ++ back, hv, ht, hback'.append hback, by simp⟩
  | string ht =>
    cases hphrase
    obtain ⟨-, rfl⟩ := List.cons.inj htext
    exact ⟨_, _, [], rfl, ht, fun b hb => absurd hb List.not_mem_nil, rfl⟩
  | number hnumeral =>
    exact absurd (htext ▸ List.mem_cons_self) hnumeral.unquoted
  | null | true | false | emptyArray | array | emptyObject | object =>
    exact absurd (List.cons.inj htext).1 (by decide)
  | _ => cases hphrase

/-- An object, from its brace on. -/
theorem Derives.eq_object (h : Derives (.value (.object ms)) (0x7B :: rest)) :
    ∃ inner back, rest = inner ++ 0x7D :: back ∧
      (Derives (.members ms) inner ∨ ms = [] ∧ Whitespace inner) := by
  generalize hphrase : Phrase.value (.object ms) = phrase at h
  generalize htext : 0x7B :: rest = text at h
  induction h generalizing rest with
  | @space v front text back hfront hback h ih =>
    obtain ⟨b, text, rfl⟩ := List.exists_cons_of_ne_nil h.ne_nil
    have heq : front ++ b :: (text ++ back) = 0x7B :: rest := by simpa using htext.symm
    obtain ⟨-, rfl, rfl⟩ := hfront.eq_nil (not_whitespace (by decide)) heq
    obtain ⟨inner, back', rfl, hinner⟩ := ih hphrase rfl
    exact ⟨inner, back' ++ back, by simp, hinner⟩
  | emptyObject hspace =>
    cases hphrase
    obtain ⟨-, rfl⟩ := List.cons.inj htext
    exact ⟨_, [], rfl, Or.inr ⟨rfl, hspace⟩⟩
  | object hmembers =>
    cases hphrase
    obtain ⟨-, rfl⟩ := List.cons.inj htext
    exact ⟨_, [], rfl, Or.inl hmembers⟩
  | number | _ => cases hphrase

/-! ## The members, one after the other -/

/-- The text goes on with these members, up to the brace. -/
def Remains (ms : List Member) (text : List UInt8) : Prop :=
  ∃ inner back, Derives (.members ms) inner ∧ text = inner ++ 0x7D :: back

theorem IsObject.remains (h : IsObject (0x7B :: 0x22 :: rest) ms) :
    ∃ ms', ms'.Perm ms ∧ Remains ms' (0x22 :: rest) := by
  obtain ⟨ms', hperm, hobject⟩ := h
  obtain ⟨inner, back, htext, hmembers | ⟨-, hspace⟩⟩ := hobject.eq_object
  · exact ⟨ms', hperm, inner, back, hmembers, htext⟩
  · obtain ⟨-, hbrace, -⟩ := hspace.eq_nil (not_whitespace (by decide)) htext.symm
    exact absurd hbrace (by decide)

/-- A first member, with something behind it. -/
theorem Derives.member_front {m : Member} (h : Derives (.members [m]) text) (hname : Unescaped name)
    (htext : text ++ tail = 0x22 :: (name ++ 0x22 :: 0x3A :: 0x22 :: rest)) :
    ∃ t s back, m = (name, .string s) ∧ Chars t s ∧ Whitespace back ∧
      rest = t ++ 0x22 :: (back ++ tail) := by
  cases h with
  | moreMembers _ hrest => cases hrest
  | @member _ v front nameText back text hfront hback hchars hvalue =>
    simp only [List.append_assoc, List.cons_append] at htext
    obtain ⟨-, -, hnamed⟩ := hfront.eq_nil (not_whitespace (by decide)) htext
    obtain ⟨rfl, hcolon⟩ := hchars.unclosed.end_eq hname.unclosed hnamed
    obtain ⟨-, -, hbehind⟩ := hback.eq_nil (not_whitespace (by decide)) hcolon
    obtain ⟨b, text, rfl⟩ := List.exists_cons_of_ne_nil hvalue.ne_nil
    obtain ⟨rfl, rfl⟩ := List.cons.inj hbehind
    obtain ⟨t, s, space, rfl, ht, hspace, rfl⟩ := hvalue.eq_string
    rw [hchars.eq_of_unescaped hname]
    exact ⟨t, s, space, rfl, ht, hspace, by simp⟩

/-- The first member that remains, and what is behind its value: a comma and the next one, or the
brace. -/
theorem Remains.first (h : Remains ms (0x22 :: (name ++ 0x22 :: 0x3A :: 0x22 :: rest)))
    (hname : Unescaped name) :
    ∃ t s back b rest' ms', ms = (name, .string s) :: ms' ∧ Chars t s ∧ Whitespace back ∧
      rest = t ++ 0x22 :: (back ++ b :: rest') ∧ (b = 0x2C ∧ Remains ms' rest' ∨ b = 0x7D) := by
  obtain ⟨inner, back, hmembers, htext⟩ := h
  cases hmembers with
  | member hfront hspace hchars hvalue =>
    obtain ⟨t, s, space, hm, ht, hspace, hrest⟩ :=
      (Derives.member hfront hspace hchars hvalue).member_front hname htext.symm
    exact ⟨t, s, space, 0x7D, back, [], by rw [hm], ht, hspace, hrest, Or.inr rfl⟩
  | @moreMembers m ms text more h hmore =>
    rw [List.append_assoc] at htext
    obtain ⟨t, s, space, hm, ht, hspace, hrest⟩ := h.member_front hname htext.symm
    exact ⟨t, s, space, 0x2C, more ++ 0x7D :: back, ms, by rw [hm], ht, hspace, hrest,
      Or.inl ⟨rfl, more, back, hmore, rfl⟩⟩

/-- **Bytes between quotes**: what they are read as is themselves exactly where they need no escape,
and then the text goes on behind the comma. -/
theorem Remains.string
    (h : Remains ms (0x22 :: (name ++ 0x22 :: 0x3A :: 0x22 :: (p ++ 0x22 :: 0x2C :: rest))))
    (hname : Unescaped name) :
    ∃ s ms', ms = (name, .string s) :: ms' ∧ (s = p ↔ Unescaped p) ∧
      (Unescaped p → Remains ms' rest) := by
  obtain ⟨t, s, back, b, rest', ms', hms, ht, hback, hrest, hnext⟩ := h.first hname
  refine ⟨s, ms', hms, ⟨?_, ?_⟩, ?_⟩
  · rintro rfl
    exact (ht.eq_self hrest.symm).2
  · intro hp
    obtain ⟨rfl, -⟩ := ht.unclosed.end_eq hp.unclosed hrest.symm
    exact ht.eq_of_unescaped hp
  · intro hp
    obtain ⟨-, hbehind⟩ := ht.unclosed.end_eq hp.unclosed hrest.symm
    obtain ⟨-, rfl, rfl⟩ := hback.eq_nil (not_whitespace (by decide)) hbehind
    rcases hnext with ⟨-, hremains⟩ | hbrace
    · exact hremains
    · exact absurd hbrace (by decide)

end Json
