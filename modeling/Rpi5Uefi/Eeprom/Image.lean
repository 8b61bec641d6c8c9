import Rpi5Uefi.Efi.Status
import Rpi5Uefi.Lib.Bytes

/-!
# The bootloader EEPROM image (`EepromImage.c`)

The image is a chain of 8-byte-aligned sections, each a big-endian magic and length followed by
`length` bytes. File sections carry a 12-byte zero-padded name, four opaque bytes and the content.
The chain ends at erased flash. A 2 MiB image holds a 64 KiB read-only area, partition A and, on
A/B images, partition B with a chain of its own, and a 4 KiB scratch sector at its end.

An image is a `Mem`, its first `size` bytes being the buffer; offsets and lengths are natural
numbers, which no sum in this file takes past the 64 bits of a `UINTN`.
-/

namespace Rpi5Uefi

open Bytes

def eepromMaxSections : Nat := 64

def eepromImageSize2712 : Nat := 0x200000

def eepromSectionMagic : Nat := 0x55aaf00f
def eepromSectionMagicMask : Nat := 0xfffff00f
def eepromFileMagic : Nat := 0x55aaf11f
def eepromPadMagic : Nat := 0x55aafeef

def eepromFileHdrLen : Nat := 20
def eepromFilenameLen : Nat := 12

def eepromReadOnlySize : Nat := 0x10000
def eepromPartitionSize : Nat := 988 * 1024
def eepromPartitionAStart : Nat := eepromReadOnlySize
def eepromPartitionAEnd : Nat := eepromReadOnlySize + eepromPartitionSize
def eepromPartitionBStart : Nat := eepromPartitionAEnd
def eepromPartitionBEnd : Nat := eepromPartitionBStart + eepromPartitionSize

def eepromEraseAlign : Nat := 0x1000
def eepromMaxFileSize : Nat := eepromEraseAlign - eepromFileHdrLen

/-- `EEPROM_SECTION`. -/
structure EepromSection where
  magic : Nat
  offset : Nat
  length : Nat
  deriving DecidableEq, Repr

/-- `(x + 7) & ~7`. -/
def alignUp8 (x : Nat) : Nat := (x + 7) / 8 * 8

/-- `WalkSections` from `offset` with room for `cap` more sections; `none` is the -1 of a corrupt
chain. -/
def walkSections (image : Mem) (size : Nat) : Nat → Nat → Option (List EepromSection)
  | offset, cap =>
    if offset + 8 ≤ size then
      let magic := be32 image offset
      if magic = 0x0 ∨ magic = 0xffffffff then some []
      else if magic &&& eepromSectionMagicMask ≠ eepromSectionMagic then none
      else
        let length := be32 image (offset + 4)
        if length > size - offset - 8 then none
        else
          match cap with
          | 0 => none
          | cap + 1 =>
            (walkSections image size (alignUp8 (offset + 8 + length)) cap).map
              (⟨magic, offset, length⟩ :: ·)
    else some []

/-- A C string: its bytes up to the terminating NUL. -/
structure CString where
  bytes : List UInt8
  noNul : (0 : UInt8) ∉ bytes
  deriving DecidableEq

/-- `FileNameMatches` from one field byte on, `remaining` bytes before the end of the field. -/
def fileNameMatchesFrom (image : Mem) : Nat → Nat → List UInt8 → Bool
  | _, 0, name => name == []
  | field, remaining + 1, [] =>
    image field == 0 && fileNameMatchesFrom image (field + 1) remaining []
  | field, remaining + 1, c :: name =>
    image field == c && fileNameMatchesFrom image (field + 1) remaining name

/-- `FileNameMatches`: the 12 bytes at `field` are the name, zero-padded. -/
def fileNameMatches (image : Mem) (field : Nat) (name : CString) : Bool :=
  fileNameMatchesFrom image field eepromFilenameLen name.bytes

/-- `EepromImageValid` on a buffer that is there. -/
def eepromImageValid (image : Mem) (size : Nat) : Bool :=
  size == eepromImageSize2712 && be32 image 0 == eepromSectionMagic

/-- `EEPROM_FILE_LOC`. -/
structure EepromFileLoc where
  hdrOffset : Nat
  contentOffset : Nat
  contentLen : Nat
  nextOffset : Nat
  isLast : Bool
  deriving DecidableEq, Repr

/-- The `WalkStart`, `WinStart` and `WinEnd` arguments of the file functions. -/
structure EepromWindow where
  walkStart : Nat
  winStart : Nat
  winEnd : Nat
  deriving DecidableEq

/-- The windows the callers use. -/
def readOnlyWindow : EepromWindow := ⟨0, 0, eepromReadOnlySize⟩
def partitionA : EepromWindow := ⟨0, eepromPartitionAStart, eepromPartitionAEnd⟩
def partitionB : EepromWindow :=
  ⟨eepromPartitionBStart, eepromPartitionBStart, eepromPartitionBEnd⟩

/-- The two partitions, each with the window its files are looked up in. -/
inductive EepromPartition where
  | a
  | b
  deriving DecidableEq

def EepromPartition.window : EepromPartition → EepromWindow
  | .a => partitionA
  | .b => partitionB

/-- The test of the search loop: a file section of that name that starts in the window. -/
def sectionMatches (image : Mem) (w : EepromWindow) (name : CString) (s : EepromSection) : Bool :=
  s.magic == eepromFileMagic && decide (w.winStart ≤ s.offset) && decide (s.offset < w.winEnd) &&
    fileNameMatches image (s.offset + 8) name

/-- `Loc` for a match with the sections `rest` behind it. -/
def locOfMatch (size : Nat) (w : EepromWindow) (s : EepromSection) (rest : List EepromSection) :
    EepromFileLoc where
  hdrOffset := s.offset
  contentOffset := s.offset + 4 + eepromFileHdrLen
  contentLen :=
    if s.length ≥ eepromFilenameLen + 4 then s.length - eepromFilenameLen - 4 else 0
  nextOffset :=
    match rest.find? (fun t => t.magic != eepromPadMagic) with
    | some t => t.offset
    | none => min (size - eepromEraseAlign) w.winEnd
  isLast := rest.isEmpty

/-- `EepromFindFileIn`: the first match of the walk. -/
def eepromFindFileIn (image : Mem) (size : Nat) (w : EepromWindow) (name : CString) :
    Option EepromFileLoc :=
  match walkSections image size w.walkStart eepromMaxSections with
  | none => none
  | some sections =>
    match sections.dropWhile (fun s => !sectionMatches image w name s) with
    | [] => none
    | s :: rest => some (locOfMatch size w s rest)

/-- The writes of `EepromReplaceFileIn` once the content is known to fit: the length field, the
content, 0xFF up to the next multiple of 8, and the rest up to `NextOffset` as a pad section or as
erased flash. -/
def replaceContent (image : Mem) (loc : EepromFileLoc) (data : List UInt8) : Mem :=
  let dataEnd := loc.contentOffset + data.length
  let image := putBe32 image (loc.hdrOffset + 4) (data.length + eepromFilenameLen + 4)
  let image := image.write loc.contentOffset data
  let padStart := alignUp8 dataEnd
  let image := image.fill dataEnd (padStart - dataEnd) 0xff
  -- the windows are 8-aligned, so `padStart` is not past `NextOffset`
  let padBytes := loc.nextOffset - padStart
  if padBytes ≥ 8 ∧ loc.isLast = false then
    let image := putBe32 image padStart eepromPadMagic
    let image := putBe32 image (padStart + 4) (padBytes - 8)
    image.fill (padStart + 8) (padBytes - 8) 0xff
  else image.fill padStart padBytes 0xff

/-- `EepromReplaceFileIn`: the status and the image afterwards. -/
def eepromReplaceFileIn (image : Mem) (size : Nat) (w : EepromWindow) (name : CString)
    (data : List UInt8) : EfiStatus × Mem :=
  if data.length > eepromMaxFileSize then (.badBufferSize, image)
  else
    match eepromFindFileIn image size w name with
    | none => (.notFound, image)
    | some loc =>
      let dataEnd := loc.contentOffset + data.length
      if dataEnd > size - eepromEraseAlign ∨ dataEnd > loc.nextOffset then (.volumeFull, image)
      else (.success, replaceContent image loc data)

def bootconfTxt : CString := ⟨ascii "bootconf.txt", by decide⟩
def bootconfSig : CString := ⟨ascii "bootconf.sig", by decide⟩
def updatetime : CString := ⟨ascii "updatetime", by decide⟩

/-- `~Timestamp` then `Timestamp` at the start of a file's content. -/
def putTimestamp (image : Mem) (offset : Nat) (timestamp : UInt32) : Mem :=
  putLe32 (putLe32 image offset (~~~timestamp).toNat) (offset + 4) timestamp.toNat

/-- The lookups of `EepromSetTimestamp`: `updatetime` with room for the two words. -/
def findUpdatetime (image : Mem) (size : Nat) (w : EepromWindow) : Option EepromFileLoc :=
  (eepromFindFileIn image size w updatetime).filter (fun loc => decide (8 ≤ loc.contentLen))

/-- `EepromSetTimestamp`: the status and the image afterwards. -/
def eepromSetTimestamp (image : Mem) (size : Nat) (timestamp : UInt32) : EfiStatus × Mem :=
  match findUpdatetime image size readOnlyWindow with
  | none =>
    -- old-style images: `Timestamp` in the last four bytes, its complement before it
    (.success,
      putLe32 (putLe32 image (size - 4) timestamp.toNat) (size - 8) (~~~timestamp).toNat)
  | some loc =>
    let image := putTimestamp image loc.contentOffset timestamp
    match findUpdatetime image size partitionA with
    | none => (.notFound, image)
    | some loc => (.success, putTimestamp image loc.contentOffset timestamp)

/-! ## Laying out an image -/

/-- Erased flash. -/
def erasedImage : Mem := fun _ => 0xff

/-- A section header. -/
def putSection (image : Mem) (offset magic length : Nat) : Mem :=
  putBe32 (putBe32 image offset magic) (offset + 4) length

/-- A file section: header, zero-padded name, zero opaque word, content. -/
def putFile (image : Mem) (offset : Nat) (name : CString) (content : List UInt8) : Mem :=
  (((putSection image offset eepromFileMagic (content.length + 16)).fill (offset + 8) 16 0).write
    (offset + 8) name.bytes).write (offset + 24) content

end Rpi5Uefi
