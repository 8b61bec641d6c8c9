import Rpi5Uefi.Blcfg.Sha256
import Rpi5Uefi.Blcfg.Values
import Rpi5Uefi.Eeprom.Image
import Rpi5Uefi.Efi.Print

/-!
# Patching an EEPROM image (`PatchImage`)

The staging page reads the flash into a 2 MiB buffer, rewrites `bootconf.txt` in it with the edited
values, renews the digest in `bootconf.sig` where there is one, does the same in partition B, and
sets the update timestamp. The patched buffer is then written to the boot volume.

`patchImage` is cut where the source's comments cut it: partition A, partition B, the timestamp.
Its result carries what the source leaves behind, the buffer, `*FailLine` and the warnings that go
to the debug log. Whether `AllocatePool` finds memory is an argument.
-/

namespace Rpi5Uefi

open Bytes

/-- `NEW_CONFIG_CAP`. -/
def newConfigCap : Nat := 4096

/-- `':'`. -/
def chColon : UInt8 := 0x3a

/-! ## The signature file -/

/-- `CompareMem` of the key at `start`, and the colon behind it. -/
def keyAt (text key : List UInt8) (start : Nat) : Bool :=
  (text.drop start).take key.length == key && text[start + key.length]? == some chColon

/-- Does the line end at `index`? -/
def lineEndsAt (text : List UInt8) (index : Nat) : Bool :=
  index == text.length || text[index]? == some chLf || text[index]? == some chCr

/-- The loop of `BlTextHasLineKey` over the last `n` values of `Index`, the line at hand starting
at `start`. -/
def blTextHasLineKeyFrom (text key : List UInt8) : Nat → Nat → Nat → Bool
  | 0, _, _ => false
  | n + 1, index, start =>
    if lineEndsAt text index then
      if decide (index - start > key.length) && keyAt text key start then true
      else blTextHasLineKeyFrom text key n (index + 1) (index + 1)
    else blTextHasLineKeyFrom text key n (index + 1) start

/-- `BlTextHasLineKey`. -/
def blTextHasLineKey (text key : List UInt8) : Bool :=
  blTextHasLineKeyFrom text key (text.length + 1) 0 0

/-- `"rsa2048"`. -/
def rsa2048 : List UInt8 := ascii "rsa2048"

/-- `"%02x"`. -/
def hexByte (b : UInt8) : List UInt8 := printHex 2 b.toNat

/-- `"%u"`. -/
def decimalText (n : UInt32) : List UInt8 :=
  (Nat.toDigits 10 n.toNat).map (fun c => UInt8.ofNat c.toNat)

/-- A `'\n'` in a format string as `AsciiSPrint` prints it: its documented end-of-line translation
makes it CR LF. -/
def printedEol : List UInt8 := [chCr, chLf]

/-- The digest line of a signature file over `config`. -/
def digestLine (config : List UInt8) : List UInt8 := (blSha256 config).flatMap hexByte

/-- `Sig` as `SyncConfigDigest` prints it: the digest, then `"\nts: %u\n"`. -/
def configSig (config : List UInt8) (timestamp : UInt32) : List UInt8 :=
  digestLine config ++ printedEol ++ ascii "ts: " ++ decimalText timestamp ++ printedEol

/-- `SyncConfigDigest`. -/
def syncConfigDigest (image : Mem) (size : Nat) (w : EepromWindow) (config : List UInt8)
    (timestamp : UInt32) : EfiStatus × Mem :=
  eepromReplaceFileIn image size w bootconfSig (configSig config timestamp)

/-! ## Patching -/

/-- The content of a file in the buffer. -/
def fileContent (image : Mem) (loc : EepromFileLoc) : List UInt8 :=
  image.slice loc.contentOffset loc.contentLen

/-- What `PatchImage` leaves behind: its status, the buffer, `*FailLine`, and the warnings logged
with the status each of them prints. -/
structure PatchResult where
  status : EfiStatus
  image : Mem
  failLine : Option String
  warnings : List (String × EfiStatus)

/-- A return with `*FailLine` set. -/
def PatchResult.fail (status : EfiStatus) (image : Mem) (line : String) : PatchResult :=
  ⟨status, image, some line, []⟩

/-- Is there a `bootconf.sig` whose content is an RSA signature? -/
def sigIsSigned (image : Mem) (sig : Option EepromFileLoc) : Bool :=
  match sig with
  | some loc => blTextHasLineKey (fileContent image loc) rsa2048
  | none => false

/-- Partition A: the new config text and the buffer it is in, or the return that ended the run. -/
def patchPartitionA (image : Mem) (size : Nat) (values : BlcfgValues) (timestamp : UInt32)
    (poolFull : Bool) : Except PatchResult (List UInt8 × Mem) :=
  if !eepromImageValid image size then
    .error (.fail .volumeCorrupted image
      "The EEPROM content does not look like a bootloader image.")
  else
    let sig := eepromFindFileIn image size partitionA bootconfSig
    if sigIsSigned image sig then
      .error (.fail .securityViolation image
        "The EEPROM config is RSA-signed; only the signing key can change it.")
    else
      match eepromFindFileIn image size partitionA bootconfTxt with
      | none => .error (.fail .notFound image "No bootconf.txt section in the EEPROM image.")
      | some loc =>
        if poolFull then .error (.fail .outOfResources image "Out of memory.")
        else
          match blBuildNewConfigText (fileContent image loc) values newConfigCap with
          | .error status =>
            .error (.fail status image "Rewriting bootconf.txt did not fit the EEPROM layout.")
          | .ok newConfig =>
            let (status, image) := eepromReplaceFileIn image size partitionA bootconfTxt newConfig
            if status.isError then
              .error (.fail status image "Rewriting bootconf.txt did not fit the EEPROM layout.")
            else if sig.isSome then
              let (status, image) := syncConfigDigest image size partitionA newConfig timestamp
              if status.isError then
                .error (.fail status image
                  "The config digest (bootconf.sig) could not be rewritten.")
              else .ok (newConfig, image)
            else .ok (newConfig, image)

/-- The texts of the two warnings. -/
def configWarning : String := "BootloaderConfig: partition B config not updated: %r\n"
def digestWarning : String := "BootloaderConfig: partition B config digest not updated: %r\n"

/-- Partition B: a failure is logged, and the digest is left alone when the config was. -/
def patchPartitionB (image : Mem) (size : Nat) (newConfig : List UInt8) (timestamp : UInt32) :
    Mem × List (String × EfiStatus) :=
  match eepromFindFileIn image size partitionB bootconfTxt with
  | none => (image, [])
  | some _ =>
    let (status, image) := eepromReplaceFileIn image size partitionB bootconfTxt newConfig
    if status.isError then (image, [(configWarning, status)])
    else
      match eepromFindFileIn image size partitionB bootconfSig with
      | none => (image, [])
      | some _ =>
        let (status, image) := syncConfigDigest image size partitionB newConfig timestamp
        if status.isError then (image, [(digestWarning, status)]) else (image, [])

/-- Both partitions: the buffer `EepromSetTimestamp` gets, and the warnings logged so far. -/
def patchConfigs (image : Mem) (size : Nat) (values : BlcfgValues) (timestamp : UInt32)
    (poolFull : Bool) : Except PatchResult (Mem × List (String × EfiStatus)) :=
  match patchPartitionA image size values timestamp poolFull with
  | .error result => .error result
  | .ok (newConfig, image) => .ok (patchPartitionB image size newConfig timestamp)

/-- `PatchImage`. -/
def patchImage (image : Mem) (size : Nat) (values : BlcfgValues) (timestamp : UInt32)
    (poolFull : Bool) : PatchResult :=
  match patchConfigs image size values timestamp poolFull with
  | .error result => result
  | .ok (image, warnings) =>
    let (status, image) := eepromSetTimestamp image size timestamp
    if status.isError then
      ⟨status, image, some "The EEPROM image's update timestamp could not be set.", warnings⟩
    else ⟨.success, image, none, warnings⟩

/-! ## Statuses -/

/-- The statuses a replacement can return. -/
theorem eepromReplaceFileIn_status (image : Mem) (size : Nat) (w : EepromWindow)
    (name : CString) (data : List UInt8) :
    (eepromReplaceFileIn image size w name data).1 ≠ .securityViolation := by
  unfold eepromReplaceFileIn
  by_cases hlen : data.length > eepromMaxFileSize
  · rw [if_pos hlen]
    exact EfiStatus.noConfusion
  · rw [if_neg hlen]
    cases eepromFindFileIn image size w name with
    | none => exact EfiStatus.noConfusion
    | some loc =>
      simp only
      by_cases hfit : loc.contentOffset + data.length > size - eepromEraseAlign ∨
          loc.contentOffset + data.length > loc.nextOffset
      · rw [if_pos hfit]
        exact EfiStatus.noConfusion
      · rw [if_neg hfit]
        exact EfiStatus.noConfusion

theorem rewriteLines_error {values : BlcfgValues} {outCap : Nat} {status : EfiStatus}
    {ls : List (Lines.Line UInt8)} {seen : BlKey → Bool} {out : List UInt8}
    (h : rewriteLines values outCap ls seen out = .error status) : status = .bufferTooSmall := by
  induction ls generalizing seen out with
  | nil => cases h
  | cons line rest ih =>
    unfold rewriteLines at h
    split at h
    · split at h
      · cases h
        rfl
      · exact ih h
    · split at h
      · exact ih h
      · split at h
        · cases h
          rfl
        · exact ih h

theorem appendKeys_error {values : BlcfgValues} {outCap : Nat} {status : EfiStatus}
    {seen : BlKey → Bool} {keys : List BlKey} {out : List UInt8}
    (h : appendKeys values outCap seen keys out = .error status) : status = .bufferTooSmall := by
  induction keys generalizing out with
  | nil => cases h
  | cons key rest ih =>
    unfold appendKeys at h
    split at h
    · exact ih h
    · split at h
      · cases h
        rfl
      · exact ih h

/-- The only error of the writer is a full buffer. -/
theorem blBuildNewConfigText_error {orig : List UInt8} {values : BlcfgValues} {outCap : Nat}
    {status : EfiStatus} (h : blBuildNewConfigText orig values outCap = .error status) :
    status = .bufferTooSmall := by
  unfold blBuildNewConfigText at h
  cases hrewrite : rewriteLines values outCap (Lines.lines chLf orig) (fun _ => false) [] with
  | error e =>
    rw [hrewrite] at h
    cases h
    exact rewriteLines_error hrewrite
  | ok r =>
    rw [hrewrite] at h
    change (terminateText outCap r.2 >>= fun out =>
      appendKeys values outCap r.1 BlKey.all out) = .error status at h
    cases hterm : terminateText outCap r.2 with
    | error e =>
      rw [hterm] at h
      cases h
      unfold terminateText at hterm
      split at hterm
      · split at hterm
        · cases hterm
          rfl
        · cases hterm
      · cases hterm
    | ok out =>
      rw [hterm] at h
      exact appendKeys_error h

theorem eepromSetTimestamp_status (image : Mem) (size : Nat) (timestamp : UInt32) :
    (eepromSetTimestamp image size timestamp).1 ≠ .securityViolation := by
  unfold eepromSetTimestamp
  split
  · simp
  · simp only
    split <;> simp

/-! ## The course of a run -/

variable {image imageA : Mem} {size : Nat} {values : BlcfgValues} {timestamp : UInt32}
  {poolFull : Bool} {newConfig : List UInt8}

/-- Partition A was patched: `newConfig` is in place, and so is its digest where there was one. -/
structure PatchedA (image : Mem) (size : Nat) (values : BlcfgValues) (timestamp : UInt32)
    (newConfig : List UInt8) (imageA : Mem) : Prop where
  valid : eepromImageValid image size = true
  unsigned : sigIsSigned image (eepromFindFileIn image size partitionA bootconfSig) = false
  built : ∃ loc, eepromFindFileIn image size partitionA bootconfTxt = some loc ∧
    blBuildNewConfigText (fileContent image loc) values newConfigCap = .ok newConfig
  config : ∃ imageT,
    eepromReplaceFileIn image size partitionA bootconfTxt newConfig = (.success, imageT) ∧
      ((eepromFindFileIn image size partitionA bootconfSig).isSome = true ∧
          syncConfigDigest imageT size partitionA newConfig timestamp = (.success, imageA) ∨
        eepromFindFileIn image size partitionA bootconfSig = none ∧ imageA = imageT)

theorem patchPartitionA_of_signed (hvalid : eepromImageValid image size = true)
    (hsigned : sigIsSigned image (eepromFindFileIn image size partitionA bootconfSig) = true) :
    patchPartitionA image size values timestamp poolFull =
      .error (.fail .securityViolation image
        "The EEPROM config is RSA-signed; only the signing key can change it.") := by
  unfold patchPartitionA
  rw [if_neg (by simp [hvalid])]
  simp only
  rw [if_pos hsigned]

/-- **Partition A** is patched, or the run ends with an error; with `EFI_SECURITY_VIOLATION` for a
signed config only. -/
theorem patchPartitionA_cases (image : Mem) (size : Nat) (values : BlcfgValues)
    (timestamp : UInt32) (poolFull : Bool) :
    (∃ result, patchPartitionA image size values timestamp poolFull = .error result ∧
        result.status ≠ .success ∧
        (result.status = .securityViolation → eepromImageValid image size = true ∧
          sigIsSigned image (eepromFindFileIn image size partitionA bootconfSig) = true)) ∨
      ∃ newConfig imageA, PatchedA image size values timestamp newConfig imageA ∧
        patchPartitionA image size values timestamp poolFull = .ok (newConfig, imageA) := by
  have hother : ∀ {result : PatchResult}, result.status ≠ .success →
      result.status ≠ .securityViolation →
      result.status ≠ .success ∧
        (result.status = .securityViolation → eepromImageValid image size = true ∧
          sigIsSigned image (eepromFindFileIn image size partitionA bootconfSig) = true) :=
    fun hne hsec => ⟨hne, fun h => absurd h hsec⟩
  by_cases hvalid : eepromImageValid image size = true
  case neg =>
    have hfail : patchPartitionA image size values timestamp poolFull =
        .error (.fail .volumeCorrupted image
          "The EEPROM content does not look like a bootloader image.") := by
      unfold patchPartitionA
      rw [if_pos (by simp [hvalid])]
    exact Or.inl ⟨_, hfail, hother EfiStatus.noConfusion EfiStatus.noConfusion⟩
  by_cases hsigned : sigIsSigned image (eepromFindFileIn image size partitionA bootconfSig) = true
  case pos =>
    exact Or.inl ⟨_, patchPartitionA_of_signed hvalid hsigned, EfiStatus.noConfusion,
      fun _ => ⟨hvalid, hsigned⟩⟩
  unfold patchPartitionA
  rw [if_neg (by simp [hvalid])]
  simp only
  rw [if_neg hsigned]
  cases hfind : eepromFindFileIn image size partitionA bootconfTxt with
  | none => exact Or.inl ⟨_, rfl, hother EfiStatus.noConfusion EfiStatus.noConfusion⟩
  | some loc =>
    simp only
    cases poolFull with
    | true => exact Or.inl ⟨_, rfl, hother EfiStatus.noConfusion EfiStatus.noConfusion⟩
    | false =>
      rw [if_neg (by decide)]
      cases hbuild : blBuildNewConfigText (fileContent image loc) values newConfigCap with
      | error status =>
        have hstatus := blBuildNewConfigText_error hbuild
        subst hstatus
        exact Or.inl ⟨_, rfl, hother EfiStatus.noConfusion EfiStatus.noConfusion⟩
      | ok newConfig =>
        simp only
        have hsec := eepromReplaceFileIn_status image size partitionA bootconfTxt newConfig
        cases hreplace : eepromReplaceFileIn image size partitionA bootconfTxt newConfig with
        | mk status imageT =>
        rw [hreplace] at hsec
        simp only
        by_cases herr : status.isError = true
        · rw [if_pos herr]
          exact Or.inl ⟨_, rfl, hother (EfiStatus.ne_success_of_isError herr) hsec⟩
        rw [if_neg herr]
        have hok := EfiStatus.isError_eq_false.mp (Bool.not_eq_true _ ▸ herr)
        subst hok
        cases hsig : eepromFindFileIn image size partitionA bootconfSig with
        | none =>
          exact Or.inr ⟨newConfig, imageT, ⟨hvalid, by simpa using hsigned, ⟨loc, hfind, hbuild⟩,
            imageT, hreplace, Or.inr ⟨hsig, rfl⟩⟩, rfl⟩
        | some sig =>
          rw [if_pos (by rfl)]
          have hsec' := eepromReplaceFileIn_status imageT size partitionA bootconfSig
            (configSig newConfig timestamp)
          cases hsync : syncConfigDigest imageT size partitionA newConfig timestamp with
          | mk status imageA =>
          unfold syncConfigDigest at hsync
          rw [hsync] at hsec'
          simp only
          by_cases herr' : status.isError = true
          · rw [if_pos herr', ← hsig]
            exact Or.inl ⟨_, rfl, hother (EfiStatus.ne_success_of_isError herr') hsec'⟩
          rw [if_neg herr']
          have hok := EfiStatus.isError_eq_false.mp (Bool.not_eq_true _ ▸ herr')
          subst hok
          exact Or.inr ⟨newConfig, imageA, ⟨hvalid, by simpa using hsigned, ⟨loc, hfind, hbuild⟩,
            imageT, hreplace, Or.inl ⟨by rw [hsig]; rfl, hsync⟩⟩, rfl⟩

theorem patchImage_of_signed (hvalid : eepromImageValid image size = true)
    (hsigned : sigIsSigned image (eepromFindFileIn image size partitionA bootconfSig) = true) :
    patchImage image size values timestamp poolFull =
      .fail .securityViolation image
        "The EEPROM config is RSA-signed; only the signing key can change it." := by
  unfold patchImage patchConfigs
  rw [patchPartitionA_of_signed hvalid hsigned]

/-- Nothing but partition A's signature is answered with `EFI_SECURITY_VIOLATION`. -/
theorem patchImage_securityViolation
    (h : (patchImage image size values timestamp poolFull).status = .securityViolation) :
    eepromImageValid image size = true ∧
      sigIsSigned image (eepromFindFileIn image size partitionA bootconfSig) = true := by
  unfold patchImage patchConfigs at h
  rcases patchPartitionA_cases image size values timestamp poolFull with
    ⟨result, hcall, -, hsec⟩ | ⟨newConfig, imageA, -, hcall⟩
  · rw [hcall] at h
    exact hsec h
  · -- behind partition A no status is `EFI_SECURITY_VIOLATION`
    rw [hcall] at h
    simp only at h
    by_cases herr : (eepromSetTimestamp (patchPartitionB imageA size newConfig timestamp).1 size
        timestamp).1.isError = true
    · rw [if_pos herr] at h
      exact absurd h (eepromSetTimestamp_status _ _ _)
    · rw [if_neg herr] at h
      cases h

/-- **A successful run** patched both configs and then set the timestamp. -/
theorem patchImage_success (hok : (patchImage image size values timestamp poolFull).status =
    .success) :
    ∃ newConfig imageA, PatchedA image size values timestamp newConfig imageA ∧
      patchConfigs image size values timestamp poolFull =
        .ok (patchPartitionB imageA size newConfig timestamp) ∧
      (eepromSetTimestamp (patchPartitionB imageA size newConfig timestamp).1 size timestamp).1 =
        .success ∧
      (patchImage image size values timestamp poolFull).image =
        (eepromSetTimestamp (patchPartitionB imageA size newConfig timestamp).1 size timestamp).2 ∧
      (patchImage image size values timestamp poolFull).warnings =
        (patchPartitionB imageA size newConfig timestamp).2 := by
  unfold patchImage patchConfigs at hok ⊢
  rcases patchPartitionA_cases image size values timestamp poolFull with
    ⟨result, hcall, hne, -⟩ | ⟨newConfig, imageA, hA, hcall⟩
  · rw [hcall] at hok
    exact absurd hok hne
  · rw [hcall] at hok ⊢
    refine ⟨newConfig, imageA, hA, rfl, ?_⟩
    simp only at hok ⊢
    by_cases herr : (eepromSetTimestamp (patchPartitionB imageA size newConfig timestamp).1 size
        timestamp).1.isError = true
    · rw [if_pos herr] at hok
      exact absurd hok (EfiStatus.ne_success_of_isError herr)
    · rw [if_neg herr]
      exact ⟨EfiStatus.isError_eq_false.mp (Bool.not_eq_true _ ▸ herr), rfl, rfl⟩

end Rpi5Uefi
