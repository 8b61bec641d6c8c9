import Rpi5Uefi.Redfish.Inventory
import Rpi5Uefi.Lib.JsonCovers
import Rpi5Uefi.Lib.JsonQuotes

/-!
# What a body appends, and what it is to spell

A body is a first text and the pieces its calls append. Each call has members it is to spell, none
where the record has nothing.

* **`Spells`**: the pieces are exactly the text of the members.
* **`spells_string`**, **`spellsWhen_appendNumber`**: `AppendJsonString` spells its member;
  `AppendJsonNumber` does below 2^31.
* **`Counted`**: what holds of numbers on both sides of that bound.
-/

namespace Rpi5Uefi

open Bytes Appends Json

/-! ## The members -/

/-- The bytes a string is sent as. -/
def spaced (value : List UInt8) : List UInt8 := value.map fun b => if b < 0x20 then 0x20 else b

/-- A string of the record; an empty one is no member. -/
def stringMember (name : String) (value : List UInt8) : List Member :=
  if value = [] then [] else [(ascii name, .string (spaced value))]

/-- A number of the record; 0 is no member. -/
def numberMember (name : String) (value : Nat) : List Member :=
  if value = 0 then [] else [(ascii name, .number (.ofNat value))]

/-! ## The pieces -/

def stringPieces (name : String) (value : List UInt8) : List (List UInt8) :=
  if value = [] then []
  else [ascii ",\"", ascii name, ascii "\":\"", escapeFrom value [], ascii "\""]

/-- A piece with a number, in a buffer of its own. -/
def numberPieces (bits size : Nat) (front back : List UInt8) (value : Nat) : List (List UInt8) :=
  if value = 0 then [] else [asciiSPrint size (front ++ printSigned bits value ++ back)]

theorem asciiStrCatS_eq (json : List UInt8) (jsonSize : Nat) (source : List UInt8) :
    asciiStrCatS json jsonSize source = catAll jsonSize json [source] := rfl

theorem appendJsonString_eq (json : List UInt8) (jsonSize : Nat) (name : String)
    (value : Option (List UInt8)) :
    appendJsonString json jsonSize name value =
      catAll jsonSize json (stringPieces name (value.getD [])) := by
  cases value with
  | none => rfl
  | some value =>
    cases value with
    | nil => rfl
    | cons c value => rfl

/-- The piece of an `AppendJsonNumber`. -/
def appendNumberPieces (name : String) (value : Nat) : List (List UInt8) :=
  numberPieces 32 32 (ascii ",\"" ++ ascii name ++ ascii "\":") [] value

/-- A number in a buffer of its own, appended where it is not 0. -/
theorem catAll_numberPieces {present : Prop} [Decidable present] {value : Nat}
    (h : present ↔ value ≠ 0) (bits jsonSize size : Nat) (json front back : List UInt8) :
    (if present then
        asciiStrCatS json jsonSize (asciiSPrint size (front ++ printSigned bits value ++ back))
      else json) =
      catAll jsonSize json (numberPieces bits size front back value) := by
  unfold numberPieces
  split
  · rename_i hpresent
    rw [if_neg (h.mp hpresent)]
    rfl
  · rename_i habsent
    rw [if_pos (not_not.mp fun hne => habsent (h.mpr hne))]
    rfl

theorem appendJsonNumber_eq (json : List UInt8) (jsonSize : Nat) (name : String) (value : UInt32) :
    appendJsonNumber json jsonSize name value =
      catAll jsonSize json (appendNumberPieces name value.toNat) := by
  have hpresent : ¬ value = 0 ↔ value.toNat ≠ 0 := by
    rw [ne_eq, ← UInt32.toNat_inj]
    rfl
  unfold appendNumberPieces
  rw [← catAll_numberPieces hpresent, ite_not, List.append_nil]
  rfl

/-! ## A string -/

/-- An ASCII text without control characters, quotes and backslashes: it stands for itself. -/
def Plain (text : List UInt8) : Prop :=
  ∀ b ∈ text, (0x20 ≤ b ∧ b ≠ 0x22 ∧ b ≠ 0x5C) ∧ b < 0x80

instance (text : List UInt8) : Decidable (Plain text) := List.decidableBAll _ text

variable {value text : List UInt8} {name : String} {v : Value}

/-- The escaped text is not cut: 63 bytes become 126 at most. The induction is on the value, with
the room the rest of it needs. -/
theorem escapeFrom_eq (escaped : List UInt8) (h : escaped.length + 2 * value.length ≤ 126) :
    escapeFrom value escaped = escaped ++ (spaced value).flatMap escapeByte := by
  induction value generalizing escaped with
  | nil => exact (List.append_nil _).symm
  | cons c value ih =>
    rw [List.length_cons] at h
    have hroom : escaped.length < rpiRedfishStrMax * 2 - 2 := by
      show escaped.length < 126
      omega
    unfold escapeFrom
    rw [if_pos hroom]
    show _ = escaped ++ (escapeByte (if c < 0x20 then 0x20 else c) ++
      (spaced value).flatMap escapeByte)
    rw [← List.append_assoc]
    split
    · rename_i hspecial
      have hshown : ¬ c < 0x20 := by rcases hspecial with rfl | rfl <;> decide
      rw [ih _ (by simp; omega), if_neg hshown]
      congr 2
      exact (if_pos hspecial).symm
    split
    · rw [ih _ (by simp; omega)]
      rfl
    · rename_i hplain _
      rw [ih _ (by simp; omega)]
      congr 2
      exact (if_neg hplain).symm

theorem spaced_shown (value : List UInt8) : Shown (spaced value) := by
  intro b hb
  obtain ⟨c, -, rfl⟩ := List.mem_map.mp hb
  split
  · decide
  · rename_i hcontrol
    exact UInt8.not_lt.mp hcontrol

/-- Control characters are replaced by spaces, in whatever UTF-8. -/
theorem isUtf8_spaced : IsUtf8 (spaced value) ↔ IsUtf8 value := by
  apply isUtf8_map_iff
  · intro b hb
    split
    · decide
    · exact hb
  · intro b hb
    refine if_neg (UInt8.not_lt.mpr ?_)
    exact UInt8.le_trans (by decide) hb

theorem Plain.unescaped (h : Plain text) : Unescaped text := fun b hb => (h b hb).1

theorem Plain.utf8 (h : Plain text) : IsUtf8 text := isUtf8_of_ascii fun b hb => (h b hb).2

theorem count_minus_escape (s : List UInt8) :
    (s.flatMap escapeByte).count 0x2D = s.count 0x2D := by
  induction s with
  | nil => rfl
  | cons b s ih =>
    rw [List.flatMap_cons, List.count_append, ih, List.count_cons, Nat.add_comm]
    congr 1
    unfold escapeByte
    split
    · rename_i hspecial
      rcases hspecial with rfl | rfl <;> rfl
    · rw [List.count_singleton]

/-- **The pieces spell the members**, as a text behind commas, and nothing else. -/
structure Spells (pieces : List (List UInt8)) (members : List Member) : Prop where
  trailing : Trailing members pieces.flatten
  length : pieces.flatten.length = membersSize members
  minus : pieces.flatten.count 0x2D = membersMinusSigns members

theorem Spells.nil : Spells [] [] := ⟨.nil, rfl, rfl⟩

theorem Spells.append {pieces pieces' : List (List UInt8)} {members members' : List Member}
    (h : Spells pieces members) (h' : Spells pieces' members') :
    Spells (pieces ++ pieces') (members ++ members') := by
  constructor
  · rw [List.flatten_append]
    exact h.trailing.append h'.trailing
  · rw [List.flatten_append, List.length_append, membersSize_append, h.length, h'.length]
  · rw [List.flatten_append, List.count_append, membersMinusSigns_append, h.minus, h'.minus]

theorem Spells.cons {pieces pieces' : List (List UInt8)} {members : List Member} {m : Member}
    (h : Spells pieces [m]) (h' : Spells pieces' members) :
    Spells (pieces ++ pieces') (m :: members) := h.append h'

/-- One member with a plain name, from the text of its value. -/
theorem Spells.member {pieces : List (List UInt8)} (hname : Plain (ascii name))
    (hpieces : pieces.flatten = ascii ",\"" ++ ascii name ++ ascii "\":" ++ text)
    (h : Derives (.value v) text) (hlength : text.length = v.size)
    (hminus : text.count 0x2D = v.minusSigns) : Spells pieces [(ascii name, v)] := by
  constructor
  · rw [hpieces]
    have hmember := Derives.plainMember (hname.unescaped.chars hname.utf8) h
    have htext : ascii ",\"" ++ ascii name ++ ascii "\":" ++ text =
        0x2C :: 0x22 :: (ascii name ++ 0x22 :: 0x3A :: text) := by
      simp [ascii]
    rw [htext]
    exact Trailing.single hmember
  · rw [hpieces]
    show _ = stringSize (ascii name) + 3 + v.size + 1 + 0
    rw [hname.unescaped.stringSize, ← hlength]
    simp only [List.length_append]
    show 2 + (ascii name).length + 2 + text.length = _
    omega
  · rw [hpieces]
    show _ = (ascii name).count 0x2D + v.minusSigns + 0
    rw [← hminus]
    simp only [List.count_append]
    show 0 + (ascii name).count 0x2D + 0 + text.count 0x2D = _
    omega

/-- **`AppendJsonString`** spells its member. -/
theorem spells_string (hname : Plain (ascii name)) (hvalue : value.length < rpiRedfishStrMax)
    (hutf8 : IsUtf8 value) :
    Spells (stringPieces name value) (stringMember name value) := by
  unfold stringPieces stringMember
  split
  · exact Spells.nil
  · have hescape : escapeFrom value [] = (spaced value).flatMap escapeByte := by
      apply escapeFrom_eq
      have hbound : value.length < 64 := hvalue
      simp only [List.length_nil]
      omega
    have hpieces :
        [ascii ",\"", ascii name, ascii "\":\"", escapeFrom value [], ascii "\""].flatten =
        ascii ",\"" ++ ascii name ++ ascii "\":" ++
          (0x22 :: ((spaced value).flatMap escapeByte ++ [0x22])) := by
      rw [hescape]
      simp [ascii]
    apply Spells.member hname hpieces
    · exact .string (Chars.escaped (isUtf8_spaced.mpr hutf8) (spaced_shown value))
    · show _ = 2 + stringSize (spaced value)
      rw [List.length_cons, List.length_append, length_escape]
      show stringSize (spaced value) + 1 + 1 = _
      omega
    · show _ = (spaced value).count 0x2D
      rw [List.count_cons_of_ne (by decide), List.count_append, count_minus_escape]
      rfl

/-- A string that goes in as it is. -/
theorem spells_unescaped {s : List UInt8} (hname : Plain (ascii name)) (hs : Unescaped s)
    (hutf8 : IsUtf8 s) :
    Spells [ascii ",\"" ++ ascii name ++ ascii "\":" ++ 0x22 :: (s ++ [0x22])]
      [(ascii name, .string s)] := by
  apply Spells.member hname (List.flatten_singleton ..)
  · exact .string (hs.chars hutf8)
  · show _ = 2 + stringSize s
    rw [hs.stringSize, List.length_cons, List.length_append]
    show s.length + 1 + 1 = _
    omega
  · show _ = s.count 0x2D
    rw [List.count_cons_of_ne (by decide), List.count_append]
    rfl

theorem spells_literal {s : List UInt8} (hname : Plain (ascii name)) (hs : Plain s) :
    Spells [ascii ",\"" ++ ascii name ++ ascii "\":" ++ 0x22 :: (s ++ [0x22])]
      [(ascii name, .string s)] := spells_unescaped hname hs.unescaped hs.utf8

/-- A string of a record whose body is an object is UTF-8. -/
theorem utf8_of_stringMember {ms : List Member} (h : IsObject text ms)
    (hmem : ∀ m ∈ stringMember name value, m ∈ ms) : IsUtf8 value := by
  unfold stringMember at hmem
  split at hmem
  · rename_i hempty
    rw [hempty]
    exact .nil
  · exact isUtf8_spaced.mp (h.string_utf8 (hmem _ List.mem_cons_self))

/-- Members in an object of their own, with a brace for the first comma. -/
theorem Spells.nested {pieces : List (List UInt8)} {members : List Member} {m : Member}
    (hname : Plain (ascii name)) (h : Spells pieces (m :: members))
    (hpieces : pieces.flatten = 0x2C :: pieces.flatten.tail) :
    Spells [ascii ",\"" ++ ascii name ++ ascii "\":" ++ 0x7B :: (pieces.flatten.tail ++ [0x7D])]
      [(ascii name, .object (m :: members))] := by
  obtain ⟨htrailing, hlength, hminus⟩ := h
  generalize pieces.flatten.tail = text at hpieces
  rw [hpieces] at htrailing hlength hminus
  apply Spells.member hname (List.flatten_singleton ..)
  · cases htrailing with
    | cons hfirst hmembers => exact .object (Derives.members_of_trailing hfirst hmembers)
  · show _ = 1 + max 1 (membersSize (m :: members))
    rw [← hlength, List.length_cons, List.length_cons, List.length_append]
    show text.length + 1 + 1 = _
    omega
  · show _ = membersMinusSigns (m :: members)
    rw [← hminus, List.count_cons_of_ne (by decide), List.count_cons_of_ne (by decide),
      List.count_append]
    rfl

/-! ### What a string takes -/

def stringRoom (name : String) (value : List UInt8) : Nat :=
  if value = [] then 0
  else (ascii name).length + 6 + value.length + value.countP fun b => b = 0x22 ∨ b = 0x5C

theorem stringSize_spaced (value : List UInt8) :
    stringSize (spaced value) =
      value.length + value.countP fun b => b = 0x22 ∨ b = 0x5C := by
  induction value with
  | nil => rfl
  | cons b value ih =>
    show byteSize (if b < 0x20 then 0x20 else b) + stringSize (spaced value) = _
    rw [ih, List.length_cons, List.countP_cons]
    have hbyte : byteSize (if b < 0x20 then 0x20 else b) =
        1 + if decide (b = 0x22 ∨ b = 0x5C) then 1 else 0 := by
      split
      · rename_i hcontrol
        have hplain : ¬ (b = 0x22 ∨ b = 0x5C) := by
          rintro (rfl | rfl) <;> exact absurd hcontrol (by decide)
        rw [decide_eq_false hplain]
        rfl
      · unfold byteSize
        by_cases hspecial : b = 0x22 ∨ b = 0x5C
        · rw [if_pos hspecial, decide_eq_true hspecial]
          rfl
        · rw [if_neg hspecial, decide_eq_false hspecial]
          rfl
    rw [hbyte]
    omega

theorem membersSize_stringMember (hname : Plain (ascii name)) (value : List UInt8) :
    membersSize (stringMember name value) = stringRoom name value := by
  unfold stringMember stringRoom
  split
  · rfl
  · show stringSize (ascii name) + 3 + (2 + stringSize (spaced value)) + 1 + 0 = _
    rw [hname.unescaped.stringSize, stringSize_spaced]
    omega

theorem membersSize_stringMember_le (hname : Plain (ascii name))
    (hvalue : value.length < rpiRedfishStrMax) :
    membersSize (stringMember name value) ≤ (ascii name).length + 132 := by
  have hbound : value.length < 64 := hvalue
  have hcount := List.countP_le_length (p := fun b => decide (b = 0x22 ∨ b = 0x5C)) (l := value)
  rw [membersSize_stringMember hname]
  unfold stringRoom
  split
  · exact Nat.zero_le _
  · omega

/-! ## A number -/

/-- What is known of pieces whatever the numbers are: they are longer than their members by little,
no minus sign is missing, and none of them is short. -/
structure Counted (pieces : List (List UInt8)) (members : List Member) (extra : Nat) : Prop where
  shown : shownCount pieces.flatten ≤ membersSize members + extra
  minus : membersMinusSigns members ≤ pieces.flatten.count 0x2D
  large : ∀ piece ∈ pieces, 14 ≤ shownCount piece

/-- Pieces that spell their members exactly under a condition, for otherwise they have a minus sign
too many. -/
structure SpellsWhen (ok : Prop) (pieces : List (List UInt8)) (members : List Member)
    (extra : Nat) : Prop extends Counted pieces members extra where
  spells : ok → Spells pieces members
  excess : ¬ ok → membersMinusSigns members < pieces.flatten.count 0x2D

variable {pieces pieces' : List (List UInt8)} {members members' : List Member} {extra extra' : Nat}

theorem Counted.append (h : Counted pieces members extra) (h' : Counted pieces' members' extra') :
    Counted (pieces ++ pieces') (members ++ members') (extra + extra') := by
  constructor
  · rw [List.flatten_append, shownCount_append, membersSize_append]
    have hshown := h.shown
    have hshown' := h'.shown
    omega
  · rw [List.flatten_append, List.count_append, membersMinusSigns_append]
    exact Nat.add_le_add h.minus h'.minus
  · intro piece hpiece
    rcases List.mem_append.mp hpiece with hfirst | hlast
    · exact h.large piece hfirst
    · exact h'.large piece hlast

theorem SpellsWhen.append {ok ok' : Prop} (h : SpellsWhen ok pieces members extra)
    (h' : SpellsWhen ok' pieces' members' extra') :
    SpellsWhen (ok ∧ ok') (pieces ++ pieces') (members ++ members') (extra + extra') := by
  refine ⟨h.toCounted.append h'.toCounted, fun hok => (h.spells hok.1).append (h'.spells hok.2), ?_⟩
  intro hnot
  rw [List.flatten_append, List.count_append, membersMinusSigns_append]
  have hminus := h.minus
  have hminus' := h'.minus
  rcases not_and_or.mp hnot with hfirst | hlast
  · have hexcess := h.excess hfirst
    omega
  · have hexcess := h'.excess hlast
    omega

theorem SpellsWhen.congr {ok ok' : Prop} (h : SpellsWhen ok pieces members extra)
    (hok : ok ↔ ok') : SpellsWhen ok' pieces members extra :=
  ⟨h.toCounted, fun hok' => h.spells (hok.mpr hok'),
    fun hnot => h.excess fun ok => hnot (hok.mp ok)⟩

theorem length_printDecimal {n : Nat} (hn : n ≠ 0) :
    (printDecimal n).length = (Nat.digits 10 n).length := by
  unfold printDecimal
  rw [if_neg hn, List.length_map, List.length_reverse]

theorem printDecimal_digit (n : Nat) : ∀ b ∈ printDecimal n, 0x20 ≤ b ∧ b ≠ 0x2D := by
  intro b hb
  unfold printDecimal at hb
  obtain ⟨d, hd, rfl⟩ := List.mem_map.mp hb
  have hall : ∀ d < 10, 0x20 ≤ UInt8.ofNat (0x30 + d) ∧ UInt8.ofNat (0x30 + d) ≠ 0x2D := by decide
  apply hall
  split at hd
  · rw [List.mem_singleton.mp hd]
    decide
  · exact Nat.digits_lt_base (by decide) (List.mem_reverse.mp hd)

theorem count_minus_printDecimal (n : Nat) : (printDecimal n).count 0x2D = 0 := by
  rw [List.count_eq_zero]
  exact fun hmem => (printDecimal_digit n _ hmem).2 rfl

theorem length_printDecimal_eq (n : Nat) :
    (printDecimal n).length = (Value.number (.ofNat n)).size := by
  show (digitText (Numeral.ofNat n).whole).length = 0 + (Numeral.ofNat n).whole.length + 0 + 0
  unfold digitText
  rw [List.length_map]
  omega

theorem printSigned_shown (bits value : Nat) : Shown (printSigned bits value) := by
  intro b hb
  unfold printSigned at hb
  split at hb
  · exact (printDecimal_digit _ b hb).1
  rcases List.mem_cons.mp hb with rfl | hdigit
  · decide
  · exact (printDecimal_digit _ b hdigit).1

/-- The negative of a number has no more digits than the number, with its highest bit set. -/
theorem length_printSigned_le {bits digits value : Nat} (hne : value ≠ 0)
    (hvalue : value < 2 ^ bits) (hbits : bits ≠ 0) (hhigh : 2 ^ (bits - 1) < 10 ^ digits)
    (hlow : 10 ^ (digits - 1) ≤ 2 ^ (bits - 1)) :
    (printSigned bits value).length ≤ (printDecimal value).length + 1 := by
  unfold printSigned
  split
  · exact Nat.le_succ _
  rename_i hsigned
  have hhalf : 2 ^ bits = 2 ^ (bits - 1) + 2 ^ (bits - 1) := by
    obtain ⟨bits, rfl⟩ := Nat.exists_eq_succ_of_ne_zero hbits
    rw [Nat.succ_sub_one, Nat.pow_succ]
    omega
  have hnegative : (Nat.digits 10 (2 ^ bits - value)).length ≤ digits :=
    (Nat.digits_length_le_iff (by decide) _).mpr (by omega)
  have hlong : digits ≤ (Nat.digits 10 value).length := by
    by_contra hshort
    have hsmall : value < 10 ^ (digits - 1) :=
      (Nat.digits_length_le_iff (by decide) _).mp (by omega)
    omega
  rw [List.length_cons, length_printDecimal hne, length_printDecimal (by omega)]
  omega

/-- **A number in a buffer of its own.** It is printed right below the sign bit; from there on its
negative is, which has no more digits, so that the sign is all that is too much. -/
theorem spellsWhen_number {bits size digits value : Nat} {front back : List UInt8} {m : Member}
    (hvalue : value < 2 ^ bits) (hbits : bits ≠ 0) (hhigh : 2 ^ (bits - 1) < 10 ^ digits)
    (hlow : 10 ^ (digits - 1) ≤ 2 ^ (bits - 1))
    (hfront : Shown front) (hback : Shown back)
    (hlength : 14 ≤ front.length) (hsize : front.length + digits + back.length < size)
    (hminus : membersMinusSigns [m] = 0)
    (hspells : value ≠ 0 → Spells [front ++ printDecimal value ++ back] [m]) :
    SpellsWhen (value < 2 ^ (bits - 1)) (numberPieces bits size front back value)
      (if value = 0 then [] else [m]) 1 := by
  unfold numberPieces
  split
  · rename_i hzero
    have hok : value < 2 ^ (bits - 1) := hzero ▸ Nat.two_pow_pos _
    constructor
    · exact ⟨Nat.zero_le _, Nat.zero_le _, fun _ hpiece => absurd hpiece List.not_mem_nil⟩
    · exact fun _ => Spells.nil
    · exact fun hnot => absurd hok hnot
  rename_i hne
  have hmember : (front ++ printDecimal value ++ back).length = membersSize [m] := by
    simpa using (hspells hne).length
  have hshown : Shown (asciiSPrint size (front ++ printSigned bits value ++ back)) := by
    intro b hb
    apply ((hfront.append (printSigned_shown bits value)).append hback) b
    exact List.mem_of_mem_take hb
  refine ⟨⟨?_, ?_, ?_⟩, ?_, ?_⟩
  · -- one more byte at most
    rw [List.flatten_singleton, hshown.shownCount, ← hmember]
    have hprinted := length_printSigned_le hne hvalue hbits hhigh hlow
    have htake : (asciiSPrint size (front ++ printSigned bits value ++ back)).length ≤
        (front ++ printSigned bits value ++ back).length := by
      unfold asciiSPrint
      rw [List.length_take]
      exact Nat.min_le_right _ _
    simp only [List.length_append] at htake ⊢
    omega
  · rw [hminus]
    exact Nat.zero_le _
  · intro piece hpiece
    rw [List.mem_singleton.mp hpiece, hshown.shownCount]
    unfold asciiSPrint
    rw [List.length_take, List.length_append, List.length_append]
    omega
  · intro hok
    have hprinted : printSigned bits value = printDecimal value := if_pos hok
    have hdigits : (printDecimal value).length ≤ digits := by
      rw [length_printDecimal hne]
      exact (Nat.digits_length_le_iff (by decide) _).mpr (hok.trans hhigh)
    -- nothing is cut
    have hwhole : asciiSPrint size (front ++ printSigned bits value ++ back) =
        front ++ printDecimal value ++ back := by
      unfold asciiSPrint
      rw [hprinted]
      apply List.take_of_length_le
      simp only [List.length_append]
      omega
    rw [hwhole]
    exact hspells hne
  · intro hnot
    rw [hminus, List.flatten_singleton]
    apply List.count_pos_iff.mpr
    unfold asciiSPrint printSigned
    rw [if_neg hnot, List.append_assoc, List.take_append]
    apply List.mem_append_right
    have hdigits : digits ≠ 0 := by
      rintro rfl
      exact absurd hhigh (Nat.not_lt.mpr (Nat.two_pow_pos _))
    obtain ⟨room, hroom⟩ : ∃ room, size - 1 - front.length = room + 1 :=
      ⟨size - 1 - front.length - 1, by omega⟩
    rw [hroom, List.cons_append, List.take_succ_cons]
    exact List.mem_cons_self

theorem spells_decimal (hname : Plain (ascii name)) (value : Nat) :
    Spells [ascii ",\"" ++ ascii name ++ ascii "\":" ++ printDecimal value ++ []]
      [(ascii name, .number (.ofNat value))] := by
  have hpiece : [ascii ",\"" ++ ascii name ++ ascii "\":" ++ printDecimal value ++ []].flatten =
      ascii ",\"" ++ ascii name ++ ascii "\":" ++ printDecimal value := by
    rw [List.flatten_singleton, List.append_nil]
  apply Spells.member hname hpiece
  · exact Derives.ofNat value
  · exact length_printDecimal_eq value
  · exact count_minus_printDecimal value

/-- **`AppendJsonNumber`** spells its member below 2^31. -/
theorem spellsWhen_appendNumber {value : Nat} (hname : Plain (ascii name)) (hvalue : value < 2 ^ 32)
    (hsign : (ascii name).count 0x2D = 0)
    (hlength : 10 ≤ (ascii name).length ∧ (ascii name).length ≤ 17) :
    SpellsWhen (value < 2 ^ 31) (appendNumberPieces name value) (numberMember name value) 1 := by
  have hfrontLength :
      (ascii ",\"" ++ ascii name ++ ascii "\":").length = (ascii name).length + 4 := by
    simp only [List.length_append]
    show 2 + (ascii name).length + 2 = _
    omega
  have hhigh : 2 ^ (32 - 1) < 10 ^ 10 := by decide
  apply spellsWhen_number hvalue (by decide) hhigh (by decide)
  · have hshown : Shown (ascii name) := fun b hb => (hname b hb).1.1
    exact (Shown.append (by decide) hshown).append (by decide)
  · decide
  · omega
  · rw [hfrontLength, List.length_nil]
    omega
  · show (ascii name).count 0x2D + 0 + 0 = 0
    rw [hsign]
  · exact fun _ => spells_decimal hname value

def numberRoom (name : String) (value : Nat) : Nat :=
  if value = 0 then 0 else (ascii name).length + 4 + (Nat.digits 10 value).length

theorem membersSize_numberMember (hname : Plain (ascii name)) (value : Nat) :
    membersSize (numberMember name value) = numberRoom name value := by
  unfold numberMember numberRoom
  split
  · rfl
  · rename_i hne
    show stringSize (ascii name) + 3 + (Value.number (.ofNat value)).size + 1 + 0 = _
    rw [hname.unescaped.stringSize, ← length_printDecimal_eq, length_printDecimal hne]
    omega

theorem membersSize_numberMember_le {value digits : Nat} (hname : Plain (ascii name))
    (hvalue : value < 10 ^ digits) :
    membersSize (numberMember name value) ≤ (ascii name).length + 4 + digits := by
  have hdigits : (Nat.digits 10 value).length ≤ digits :=
    (Nat.digits_length_le_iff (by decide) _).mpr hvalue
  rw [membersSize_numberMember hname]
  unfold numberRoom
  split
  · exact Nat.zero_le _
  · omega

/-! ## The whole body -/

/-- A first text that opens an object with these members. -/
structure Opens (header : List UInt8) (members : List Member) : Prop where
  object : ∀ {ms text}, Trailing ms text → IsObject (header ++ text ++ [0x7D]) (members ++ ms)
  length : header.length = membersSize members
  minus : header.count 0x2D = membersMinusSigns members

variable {header : List UInt8} {opened strings late : List Member}
  {stringTexts lateTexts : List (List UInt8)}

/-- The text of members behind commas opens an object, with a brace for the first comma. -/
theorem Spells.opens {m : Member} (h : Spells pieces (m :: members))
    (hbrace : header.head? = some 0x7B) (hpieces : pieces.flatten = 0x2C :: header.tail) :
    Opens header (m :: members) := by
  obtain ⟨htrailing, hlength, hminus⟩ := h
  have hheader : header = 0x7B :: header.tail := List.eq_cons_of_mem_head? hbrace
  generalize header.tail = text at hheader hpieces
  rw [hpieces] at htrailing hlength hminus
  rw [hheader]
  constructor
  · intro ms rest hrest
    cases htrailing with
    | cons hfirst hmembers =>
      have hobject := Derives.object_of_trailing hfirst (hmembers.append hrest)
      simpa [List.append_assoc] using hobject
  · exact hlength
  · rw [← hminus, List.count_cons_of_ne (by decide), List.count_cons_of_ne (by decide)]

/-- **A body that fits** is the object of its members. -/
theorem Opens.body_spells (hopen : Opens header opened) (h : Spells pieces members)
    (hfits : 1 + membersSize (opened ++ members) < rpiRedfishJsonMax) :
    IsObject (catAll rpiRedfishJsonMax header (pieces ++ [ascii "\x7d"])) (opened ++ members) := by
  have hflatten : (pieces ++ [ascii "\x7d"]).flatten = pieces.flatten ++ [0x7D] := by
    simp [ascii]
  rw [catAll_of_fits]
  · rw [hflatten, ← List.append_assoc]
    exact hopen.object h.trailing
  · rw [hflatten, List.length_append, h.length, hopen.length]
    rw [membersSize_append] at hfits
    show membersSize opened + (membersSize members + 1) < _
    omega

/-- **What an object takes of its body**: there is room for the members; and where what is said
first always fits, the pieces behind it are no shorter than their members and have no minus sign
too many. A piece that is left out is longer than the signs that could make up for it. -/
theorem Opens.body_counts (hopen : Opens header opened) (h : Spells stringTexts strings)
    (hlate : Counted lateTexts late extra) (hextra : extra < 14)
    (hfits : membersSize opened + membersSize strings < rpiRedfishJsonMax)
    (hobject : IsObject
      (catAll rpiRedfishJsonMax header (stringTexts ++ lateTexts ++ [ascii "\x7d"]))
      (opened ++ strings ++ late)) :
    1 + membersSize (opened ++ strings ++ late) < rpiRedfishJsonMax ∧
      membersSize late ≤ shownCount lateTexts.flatten ∧
      lateTexts.flatten.count 0x2D ≤ membersMinusSigns late := by
  have hheader : header.length < rpiRedfishJsonMax := by
    rw [hopen.length]
    omega
  obtain ⟨hshown, hminus⟩ := hobject.covers
  have hroom : 1 + membersSize (opened ++ strings ++ late) < rpiRedfishJsonMax := by
    have hbound := length_catAll_lt hheader (stringTexts ++ lateTexts ++ [ascii "\x7d"])
    exact (hshown.trans (shownCount_le_length _)).trans_lt hbound
  refine ⟨hroom, ?_⟩
  -- the strings are there, and some of the rest
  have hstrings : catAll rpiRedfishJsonMax header stringTexts = header ++ stringTexts.flatten := by
    apply catAll_of_fits
    rw [h.length, hopen.length]
    exact hfits
  rw [List.append_assoc stringTexts, catAll_append, hstrings] at hshown hminus
  obtain ⟨kept, hkept, hbody⟩ := catAll_kept rpiRedfishJsonMax (header ++ stringTexts.flatten)
    (lateTexts ++ [ascii "\x7d"])
  rw [hbody] at hshown hminus
  obtain ⟨front, back, rfl, hfront, hback⟩ := List.sublist_append_iff.mp hkept
  have hbrace : shownCount back.flatten ≤ 1 := by
    rcases List.sublist_singleton.mp hback with rfl | rfl <;> decide
  have hopened : shownCount header ≤ membersSize opened :=
    hopen.length ▸ shownCount_le_length header
  have hsaid : shownCount stringTexts.flatten ≤ membersSize strings :=
    h.length ▸ shownCount_le_length stringTexts.flatten
  have hlong := hlate.shown
  simp only [List.flatten_append, shownCount_append, membersSize_append] at hshown
  rcases sublist_loses hfront hlate.large with rfl | hlost
  · constructor
    · omega
    · simp only [List.flatten_append, List.count_append, membersMinusSigns_append, hopen.minus,
        h.minus] at hminus
      omega
  · rw [← shownCount_flatten, ← shownCount_flatten] at hlost
    omega

/-- **A body with room for everything** is the object of its members exactly where the numbers
print. -/
theorem Opens.body_iff {ok : Prop} (hopen : Opens header opened) (h : Spells stringTexts strings)
    (hlate : SpellsWhen ok lateTexts late extra) (hextra : extra < 14)
    (hfits : membersSize opened + membersSize strings + membersSize late ≤ 1022) :
    IsObject (catAll rpiRedfishJsonMax header (stringTexts ++ lateTexts ++ [ascii "\x7d"]))
      (opened ++ strings ++ late) ↔ ok := by
  constructor
  · intro hobject
    obtain ⟨-, -, hminus⟩ := hopen.body_counts h hlate.toCounted hextra
      (by show _ < 1024; omega) hobject
    by_contra hnot
    exact absurd hminus (Nat.not_le.mpr (hlate.excess hnot))
  · intro hok
    rw [List.append_assoc opened]
    apply hopen.body_spells (h.append (hlate.spells hok))
    show _ < 1024
    simp only [membersSize_append]
    omega

end Rpi5Uefi
