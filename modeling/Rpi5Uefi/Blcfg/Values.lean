import Mathlib.Data.List.DropRight
import Rpi5Uefi.Efi.Status
import Rpi5Uefi.Lib.Bytes
import Rpi5Uefi.Lib.Lines

/-!
# Bootloader config values and text (`BlcfgValues.c`)

The bootloader EEPROM keeps its configuration as `KEY=value` text. Five keys are managed: the
Setup page reads them out of the running config, lets the user edit them, and rewrites the text
with the edited values while every other line is copied through.

Text is a list of bytes and its length that of the list. The `for (Pos ...; LineEnd ...)` scans of
the source are `Lines.lines`: a line runs to the next `'\n'` or to the end of the text, and the
scan goes on behind the newline. `blTextGetValue` keeps the source's running answer, overwritten
at every match, as a fold; `blBuildNewConfigText` keeps its `Out`, `OutPos` and `Seen` as the
text written so far and a function on keys.
-/

namespace Rpi5Uefi

open Bytes Lines

/-- `'\n'`, `'\r'`, `'='`, `' '`, `'\t'`, `'0'`. -/
def chLf : UInt8 := 0x0a
def chCr : UInt8 := 0x0d
def chEq : UInt8 := 0x3d
def chSpace : UInt8 := 0x20
def chTab : UInt8 := 0x09
def chZero : UInt8 := 0x30

/-! ## The managed keys -/

/-- `BL_KEY`. -/
inductive BlKey where
  | bootOrder
  | bootUart
  | powerOffOnHalt
  | wakeOnGpio
  | psuMaxCurrent
  deriving DecidableEq, Repr

/-- The keys in the order of the enumeration, as the source's `for (Key ...)` loops visit them. -/
def BlKey.all : List BlKey := [.bootOrder, .bootUart, .powerOffOnHalt, .wakeOnGpio, .psuMaxCurrent]

/-- `mBlKeyNames`. -/
def BlKey.name : BlKey → List UInt8
  | .bootOrder => ascii "BOOT_ORDER"
  | .bootUart => ascii "BOOT_UART"
  | .powerOffOnHalt => ascii "POWER_OFF_ON_HALT"
  | .wakeOnGpio => ascii "WAKE_ON_GPIO"
  | .psuMaxCurrent => ascii "PSU_MAX_CURRENT"

theorem BlKey.mem_all (k : BlKey) : k ∈ BlKey.all := by
  cases k <;> decide

/-- `BLCFG_VALUES`: `bootOrder` is the string in front of the terminating NUL. -/
structure BlcfgValues where
  bootOrder : List UInt8
  bootUart : UInt8
  powerOffOnHalt : UInt8
  wakeOnGpio : UInt8
  psuMaxCurrent : UInt16
  deriving DecidableEq, Repr

/-- `BL_BOOT_ORDER_DEFAULT`. -/
def blBootOrderDefault : List UInt8 := ascii "0xf41"

/-! ## Reading -/

/-- Does a line start with the key and an `'='`? The three conditions of the source's test. -/
def lineHasKey (l key : List UInt8) : Bool :=
  l.length > key.length && l.take key.length == key && l[key.length]? == some chEq

/-- The value on a line that has the key, without a final `'\r'`. -/
def lineValue (line key : List UInt8) : List UInt8 :=
  let val := line.drop (key.length + 1)
  if val.getLast? = some chCr then val.dropLast else val

/-- `BlTextGetValue`: the last line with the key wins. -/
def blTextGetValue (text key : List UInt8) : Option (List UInt8) :=
  (lines chLf text).foldl
    (fun found l => if lineHasKey l.body key then some (lineValue l.body key) else found) none

def isBlank (c : UInt8) : Bool := c == chSpace || c == chTab

/-- One digit of `ParseBootOrder`: `'A'..'F'` become lowercase, other non-digits are refused. -/
def canonHexDigit (c : UInt8) : Option UInt8 :=
  let c := if 0x41 ≤ c ∧ c ≤ 0x46 then c - 0x41 + 0x61 else c
  if (chZero ≤ c ∧ c ≤ 0x39) ∨ (0x61 ≤ c ∧ c ≤ 0x66) then some c else none

/-- The optional `0x` or `0X`, dropped only when something follows it. -/
def dropHexPrefix : List UInt8 → List UInt8
  | c :: x :: d :: rest =>
    if c = chZero ∧ (x = 0x78 ∨ x = 0x58) then d :: rest else c :: x :: d :: rest
  | s => s

/-- `ParseBootOrder`. -/
def parseBootOrder (str : List UInt8) : Option (List UInt8) :=
  let digits := dropHexPrefix ((str.dropWhile isBlank).rdropWhile isBlank)
  if digits = [] ∨ digits.length > 8 then none
  else (digits.mapM canonHexDigit).map (ascii "0x" ++ ·)

/-- The loop of `ParseDecimal` from a value already read. -/
def parseDigits : List UInt8 → Nat → Option Nat
  | [], value => some value
  | c :: rest, value =>
    if c < chZero ∨ c > 0x39 ∨ value > 0xFFFFFF then none
    else parseDigits rest (value * 10 + (c - chZero).toNat)

/-- `ParseDecimal`. -/
def parseDecimal (str : List UInt8) : Option Nat :=
  if str = [] then none else parseDigits str 0

/-- `SetDefaults`. -/
def setDefaults : BlcfgValues where
  bootOrder := blBootOrderDefault
  bootUart := 0
  powerOffOnHalt := 0
  wakeOnGpio := 1
  psuMaxCurrent := 0

/-- The three 0/1 settings of `BlValuesFromText`: `dflt` unless the key has a decimal value. -/
def flagFromText (text key : List UInt8) (dflt : UInt8) : UInt8 :=
  match (blTextGetValue text key).bind parseDecimal with
  | some number => if number ≠ 0 then 1 else 0
  | none => dflt

/-- `PSU_MAX_CURRENT` snapped to a value the Setup page can show. -/
def snapPsuMaxCurrent (number : Nat) (dflt : UInt16) : UInt16 :=
  if number ≥ 4000 then 5000 else if number ≥ 1500 then 3000 else dflt

/-- `BlValuesFromText`. -/
def blValuesFromText (text : List UInt8) : BlcfgValues where
  bootOrder :=
    match (blTextGetValue text BlKey.bootOrder.name).bind parseBootOrder with
    | some order => order
    | none => setDefaults.bootOrder
  bootUart := flagFromText text BlKey.bootUart.name setDefaults.bootUart
  powerOffOnHalt := flagFromText text BlKey.powerOffOnHalt.name setDefaults.powerOffOnHalt
  wakeOnGpio := flagFromText text BlKey.wakeOnGpio.name setDefaults.wakeOnGpio
  psuMaxCurrent :=
    match (blTextGetValue text BlKey.psuMaxCurrent.name).bind parseDecimal with
    | some number => snapPsuMaxCurrent number setDefaults.psuMaxCurrent
    | none => setDefaults.psuMaxCurrent

/-! ## Writing -/

/-- The digits of `FormatKeyLine`: a thousands digit only from 1000 on, then three more. -/
def psuDigits (value : UInt16) : List UInt8 :=
  let number := value.toNat
  let rest := if number ≥ 1000 then number % 1000 else number
  (if number ≥ 1000 then [UInt8.ofNat (0x30 + number / 1000)] else []) ++
    [UInt8.ofNat (0x30 + rest / 100), UInt8.ofNat (0x30 + rest / 10 % 10),
      UInt8.ofNat (0x30 + rest % 10)]

/-- The value text of one key, or `none` where `FormatKeyLine` omits the key. -/
def keyValueText (key : BlKey) (values : BlcfgValues) : Option (List UInt8) :=
  match key with
  | .bootOrder => some values.bootOrder
  | .bootUart => some [chZero + values.bootUart]
  | .powerOffOnHalt => some [chZero + values.powerOffOnHalt]
  | .wakeOnGpio => some [chZero + values.wakeOnGpio]
  | .psuMaxCurrent =>
    if values.psuMaxCurrent = 0 then none else some (psuDigits values.psuMaxCurrent)

/-- `FormatKeyLine`: the bytes it puts at `Line`, none of them where it returns 0. -/
def formatKeyLine (key : BlKey) (values : BlcfgValues) (cap : Nat) : List UInt8 :=
  match keyValueText key values with
  | none => []
  | some value =>
    if key.name.length + 1 + value.length + 1 > cap then []
    else key.name ++ [chEq] ++ value ++ [chLf]

/-- `AppendWanted`. -/
def appendWanted (key : BlKey) (values : BlcfgValues) : Bool :=
  match key with
  | .bootOrder => values.bootOrder != blBootOrderDefault
  | .bootUart => values.bootUart != 0
  | .powerOffOnHalt => values.powerOffOnHalt != 0
  | .wakeOnGpio => values.wakeOnGpio != 1
  | .psuMaxCurrent => values.psuMaxCurrent != 0

/-- `Match`: the first key, in the order of the enumeration, that the line has. -/
def matchKey (line : List UInt8) : Option BlKey :=
  BlKey.all.find? (fun key => lineHasKey line key.name)

/-- The loop over the lines of `Orig`: `seen` and the text written so far. -/
def rewriteLines (values : BlcfgValues) (outCap : Nat) :
    List (Line UInt8) → (BlKey → Bool) → List UInt8 →
      Except EfiStatus ((BlKey → Bool) × List UInt8)
  | [], seen, out => .ok (seen, out)
  | line :: rest, seen, out =>
    match matchKey line.body with
    | none =>
      if out.length + line.body.length + 1 > outCap then .error .bufferTooSmall
      else rewriteLines values outCap rest seen (out ++ line.text chLf)
    | some key =>
      if seen key then rewriteLines values outCap rest seen out
      else if out.length + 64 > outCap then .error .bufferTooSmall
      else
        rewriteLines values outCap rest (fun k => if k = key then true else seen k)
          (out ++ formatKeyLine key values (outCap - out.length))

/-- The newline added to a final line that had none. -/
def terminateText (outCap : Nat) (out : List UInt8) : Except EfiStatus (List UInt8) :=
  if out ≠ [] ∧ out.getLast? ≠ some chLf then
    if out.length + 1 > outCap then .error .bufferTooSmall else .ok (out ++ [chLf])
  else .ok out

/-- The loop that appends the absent keys. -/
def appendKeys (values : BlcfgValues) (outCap : Nat) (seen : BlKey → Bool) :
    List BlKey → List UInt8 → Except EfiStatus (List UInt8)
  | [], out => .ok out
  | key :: rest, out =>
    if seen key || !appendWanted key values then appendKeys values outCap seen rest out
    else if out.length + 64 > outCap then .error .bufferTooSmall
    else appendKeys values outCap seen rest (out ++ formatKeyLine key values (outCap - out.length))

/-- `BlBuildNewConfigText`. -/
def blBuildNewConfigText (orig : List UInt8) (values : BlcfgValues) (outCap : Nat) :
    Except EfiStatus (List UInt8) := do
  let (seen, out) ← rewriteLines values outCap (lines chLf orig) (fun _ => false) []
  let out ← terminateText outCap out
  appendKeys values outCap seen BlKey.all out

/-! ## Canonical values -/

/-- `'0'..'9'` or `'a'..'f'`. -/
def isLowerHex (c : UInt8) : Bool := (chZero ≤ c && c ≤ 0x39) || (0x61 ≤ c && c ≤ 0x66)

/-- The values the Setup page can stage: `BOOT_ORDER` as `0x` and one to eight lowercase hex
digits, 0/1 flags, and a supply current the page offers. -/
structure BlcfgValues.Canonical (v : BlcfgValues) : Prop where
  bootOrder : ∃ digits : List UInt8, v.bootOrder = ascii "0x" ++ digits ∧ 1 ≤ digits.length ∧
    digits.length ≤ 8 ∧ ∀ c ∈ digits, isLowerHex c = true
  bootUart : v.bootUart = 0 ∨ v.bootUart = 1
  powerOffOnHalt : v.powerOffOnHalt = 0 ∨ v.powerOffOnHalt = 1
  wakeOnGpio : v.wakeOnGpio = 0 ∨ v.wakeOnGpio = 1
  psuMaxCurrent : v.psuMaxCurrent = 0 ∨ v.psuMaxCurrent = 3000 ∨ v.psuMaxCurrent = 5000

end Rpi5Uefi
