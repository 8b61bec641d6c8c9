import Rpi5Uefi.Lib.Frame
import Rpi5Uefi.Rp1Gem.Mac

/-!
# MDIO and the PHY of the RP1 GEM (`GemHw.c`, `Phy.c`)

What the PHY answers is a parameter: `mdio n` is the outcome of the call's `n`-th access, `none` a
management interface that did not go idle. The reset pulse on the PHY's GPIO, the delays and the
`DEBUG` output are not part of the controller and are left out.

* **`phyInit_within`**, **`phyUpdateConfig_within`**: the PHY routines change nothing but the link
  state, `NET_CTRL`, `PHY_MAINT` and the speed and duplex bits of `NET_CFG`.
-/

namespace Rpi5Uefi

open Frame

def phyBmcr : UInt8 := 0x00
def phyBmcrReset : UInt16 := 0x8000
def phyBmcrAne : UInt16 := 0x1000
def phyBmcrRestartAn : UInt16 := 0x200
def phyBmsr : UInt8 := 0x01
def phyBmsrAnegComplete : UInt16 := 0x20
def phyBmsrLinkStatus : UInt16 := 0x4
def phyIdr1 : UInt8 := 0x02
def phyIdr2 : UInt8 := 0x03
def phyAnar : UInt8 := 0x04
def phyAnar100BaseTxFdx : UInt16 := 0x100
def phyAnar100BaseTx : UInt16 := 0x80
def phyAnar10BaseTFdx : UInt16 := 0x40
def phyAnar10BaseT : UInt16 := 0x20
def phyAnlpar : UInt8 := 0x05
def phyGbcr : UInt8 := 0x09
def phyGbcr1000BaseTFdx : UInt16 := 0x200
def phyGbcr1000BaseT : UInt16 := 0x100
def phyGbsr : UInt8 := 0x0A
def phyBcmAuxctl : UInt8 := 0x18
def phyBcmAuxctlShdMisc : UInt16 := 0x0007
def phyBcmAuxctlMiscWren : UInt16 := 0x8000
def phyBcmAuxctlMiscRgmiiSkew : UInt16 := 0x0100
def phyBcmShd : UInt8 := 0x1C
def phyBcmShdWrite : UInt16 := 0x8000
def phyBcmShdClkCtl : UInt16 := 0x03
def phyBcmShdClkCtlGtxclkEn : UInt16 := 0x200
def phyId1Bcm54xx : UInt16 := 0x600D
def phyResetTimeout : Nat := 500

/-- `PcdRp1GemPhyAddress`. -/
def pcdRp1GemPhyAddress : UInt8 := 1

/-- The controller, and how many MDIO accesses the call has made. -/
structure PhyIo where
  gem : Gem
  ops : Nat

abbrev PhyM := EStateM EfiStatus PhyIo

/-! ## The routines -/

section
variable (mdio : Nat → Option UInt16)

/-- One access through `PHY_MAINT`. -/
def gemMdioAccess (command : UInt32) : PhyM UInt16 := fun io =>
  let gem := mmioOr32 io.gem gemNetCtrl gemNetCtrlMgmtPortEn
  let gem := gemWrite32 gem gemPhyMaint command
  match mdio io.ops with
  | some data => .ok data ⟨gem, io.ops + 1⟩
  | none => .error .timeout ⟨gem, io.ops + 1⟩

/-- The common part of a `PHY_MAINT` command. -/
def phyMaintCommand (op : UInt32) (phyAddr reg : UInt8) (data : UInt16) : UInt32 :=
  gemPhyMaintClause22 ||| gemPhyMaintMust10 ||| op ||| ((phyAddr &&& 0x1F).toUInt32 <<< 23) |||
    ((reg &&& 0x1F).toUInt32 <<< 18) ||| data.toUInt32

/-- `GemMdioRead`. -/
def gemMdioRead (phyAddr reg : UInt8) : PhyM UInt16 :=
  gemMdioAccess mdio (phyMaintCommand gemPhyMaintOpRead phyAddr reg 0)

/-- `GemMdioWrite`. -/
def gemMdioWrite (phyAddr reg : UInt8) (data : UInt16) : PhyM Unit := do
  let _ ← gemMdioAccess mdio (phyMaintCommand gemPhyMaintOpWrite phyAddr reg data)
  pure ()

/-- `GemMdioRead` at `Gem->PhyAddr`. -/
def phyRead (reg : UInt8) : PhyM UInt16 := do
  let io ← get
  gemMdioRead mdio io.gem.phyAddr reg

/-- `GemMdioWrite` at `Gem->PhyAddr`. -/
def phyWrite (reg : UInt8) (data : UInt16) : PhyM Unit := do
  let io ← get
  gemMdioWrite mdio io.gem.phyAddr reg data

/-- Change the driver's data. -/
def modifyGem (f : Gem → Gem) : PhyM Unit :=
  modify fun io => { io with gem := f io.gem }

/-- The identifiers an answering PHY does not have. -/
def phyIdValid (id1 id2 : UInt16) : Bool :=
  id1 != 0xFFFF && id2 != 0xFFFF && (id1 != 0 || id2 != 0)

/-- The scan of `Rp1GemPhyDetect`. -/
def phyDetectLoop : Nat → UInt8 → PhyM Bool
  | 0, _ => pure false
  | tries + 1, phyAddr => do
    match ← attempt (gemMdioRead mdio phyAddr phyIdr1) with
    | none => phyDetectLoop tries ((phyAddr + 1) &&& 0x1F)
    | some id1 =>
      match ← attempt (gemMdioRead mdio phyAddr phyIdr2) with
      | none => phyDetectLoop tries ((phyAddr + 1) &&& 0x1F)
      | some id2 =>
        if phyIdValid id1 id2 then do
          modifyGem fun gem => { gem with phyAddr }
          pure true
        else phyDetectLoop tries ((phyAddr + 1) &&& 0x1F)

/-- The identifiers read for the diagnostic output. -/
def phyDumpIds : Nat → PhyM Unit
  | 0 => pure ()
  | n + 1 => do
    let _ ← attempt (gemMdioRead mdio (UInt8.ofNat (31 - n)) phyIdr1)
    phyDumpIds n

/-- `Rp1GemPhyDetect`. -/
def rp1GemPhyDetect : PhyM Unit := do
  if ← phyDetectLoop mdio 32 (pcdRp1GemPhyAddress &&& 0x1F) then pure ()
  else do
    phyDumpIds mdio 32
    throw .notFound

/-- The wait of `Rp1GemPhyReset`. -/
def phyResetLoop : Nat → PhyM Unit
  | 0 => throw .timeout
  | retry + 1 => do
    let data ← phyRead mdio phyBmcr
    if data &&& phyBmcrReset = 0 then pure () else phyResetLoop retry

/-- `Rp1GemPhyReset`. -/
def rp1GemPhyReset : PhyM Unit := do
  phyWrite mdio phyBmcr phyBmcrReset
  phyResetLoop mdio phyResetTimeout

/-- `Rp1GemPhyConfigRgmiiDelays`. The read back at the end is for the log only. -/
def rp1GemPhyConfigRgmiiDelays : PhyM Unit := do
  let id1 ← phyRead mdio phyIdr1
  if id1 != phyId1Bcm54xx then pure ()
  else do
    phyWrite mdio phyBcmAuxctl ((phyBcmAuxctlShdMisc <<< 12) ||| phyBcmAuxctlShdMisc)
    let value ← phyRead mdio phyBcmAuxctl
    phyWrite mdio phyBcmAuxctl
      (phyBcmAuxctlShdMisc ||| (value ||| phyBcmAuxctlMiscWren ||| phyBcmAuxctlMiscRgmiiSkew))
    phyWrite mdio phyBcmShd (phyBcmShdClkCtl <<< 10)
    let value ← phyRead mdio phyBcmShd
    phyWrite mdio phyBcmShd
      (phyBcmShdWrite ||| (phyBcmShdClkCtl <<< 10) |||
        ((value &&& 0x3FF) ||| phyBcmShdClkCtlGtxclkEn))
    let _ ← attempt (phyWrite mdio phyBcmAuxctl
      ((phyBcmAuxctlShdMisc <<< 12) ||| phyBcmAuxctlShdMisc))
    let _ ← attempt (phyRead mdio phyBcmAuxctl)
    let _ ← attempt (phyWrite mdio phyBcmShd (phyBcmShdClkCtl <<< 10))
    let _ ← attempt (phyRead mdio phyBcmShd)

/-- `Rp1GemPhyAutoNegotiate`. -/
def rp1GemPhyAutoNegotiate : PhyM Unit := do
  let anar ← phyRead mdio phyAnar
  phyWrite mdio phyAnar (anar ||| phyAnar100BaseTxFdx ||| phyAnar100BaseTx |||
    phyAnar10BaseTFdx ||| phyAnar10BaseT)
  let gbcr ← phyRead mdio phyGbcr
  phyWrite mdio phyGbcr ((gbcr ||| phyGbcr1000BaseTFdx) &&& ~~~phyGbcr1000BaseT)
  let bmcr ← phyRead mdio phyBmcr
  phyWrite mdio phyBmcr (bmcr ||| phyBmcrAne ||| phyBmcrRestartAn)

/-- `Rp1GemPhyInit`. -/
def rp1GemPhyInit : PhyM Unit := do
  modifyGem fun gem => { gem with linkUp := false }
  rp1GemPhyDetect mdio
  rp1GemPhyReset mdio
  rp1GemPhyConfigRgmiiDelays mdio
  rp1GemPhyAutoNegotiate mdio

/-- `Rp1GemPhyGetConfig`: the speed in Mbps, and full duplex. -/
def rp1GemPhyGetConfig : PhyM (Nat × Bool) := do
  let gbcr ← phyRead mdio phyGbcr
  let gbsr ← phyRead mdio phyGbsr
  let anar ← phyRead mdio phyAnar
  let anlpar ← phyRead mdio phyAnlpar
  let gb := (gbsr >>> 2) &&& gbcr
  let an := anlpar &&& anar
  pure <|
    if gb &&& (phyGbcr1000BaseTFdx ||| phyGbcr1000BaseT) != 0 then
      (1000, gb &&& phyGbcr1000BaseTFdx != 0)
    else if an &&& (phyAnar100BaseTxFdx ||| phyAnar100BaseTx) != 0 then
      (100, an &&& phyAnar100BaseTxFdx != 0)
    else (10, an &&& phyAnar10BaseTFdx != 0)

/-- The link state in a `BMSR`. -/
def bmsrLinkUp (bmsr : UInt16) : Bool :=
  bmsr &&& phyBmsrLinkStatus != 0 && bmsr &&& phyBmsrAnegComplete != 0

/-- The negotiated speed goes to the MAC. -/
def phySetSpeed : PhyM Unit := do
  let config ← rp1GemPhyGetConfig mdio
  modifyGem fun gem => gemUpdateLinkSpeed gem config.1 config.2

/-- What `Rp1GemPhyUpdateConfig` does on a change of the link. -/
def phyLinkChange (linkUp : Bool) : PhyM Unit := do
  let io ← get
  if io.gem.linkUp = linkUp then pure ()
  else if linkUp then do
    phySetSpeed mdio
    modifyGem fun gem => { gem with linkUp }
  else modifyGem fun gem => { gem with linkUp }

/-- `Rp1GemPhyUpdateConfig`. -/
def rp1GemPhyUpdateConfig : PhyM Unit := do
  let bmsr ← phyRead mdio phyBmsr
  phyLinkChange mdio (bmsrLinkUp bmsr)
  if bmsrLinkUp bmsr then pure () else throw .notReady

end

/-! ## What they change -/

/-- What a PHY routine leaves as it was. -/
structure PhyKept (io io' : PhyIo) : Prop where
  gem : io'.gem = { io.gem with
    phyAddr := io'.gem.phyAddr
    linkUp := io'.gem.linkUp
    regs := io'.gem.regs }
  regs : ∀ reg, reg ≠ gemNetCtrl → reg ≠ gemPhyMaint → reg ≠ gemNetCfg →
    io'.gem.regs reg = io.gem.regs reg
  netCfg : io'.gem.regs gemNetCfg &&& ~~~gemNetCfgLinkMask =
    io.gem.regs gemNetCfg &&& ~~~gemNetCfgLinkMask

instance : Std.Refl PhyKept := ⟨fun _ => ⟨rfl, fun _ _ _ _ => rfl, rfl⟩⟩

instance : IsTrans PhyIo PhyKept := by
  refine ⟨fun a b c hab hbc => ⟨?_, fun reg h1 h2 h3 => ?_, hbc.netCfg.trans hab.netCfg⟩⟩
  · rw [hbc.gem, hab.gem]
  · rw [hbc.regs reg h1 h2 h3, hab.regs reg h1 h2 h3]

theorem netCfgLinkBits_mask (speedMbps : Nat) (fullDuplex : Bool) :
    netCfgLinkBits speedMbps fullDuplex &&& ~~~gemNetCfgLinkMask = 0 := by
  unfold netCfgLinkBits
  by_cases h1000 : speedMbps = 1000
  · rw [if_pos h1000]
    cases fullDuplex <;> decide
  · rw [if_neg h1000]
    by_cases h100 : speedMbps = 100
    · rw [if_pos h100]
      cases fullDuplex <;> decide
    · rw [if_neg h100]
      cases fullDuplex <;> decide

/-- The link speed reaches the speed and duplex bits only. -/
theorem updateLinkSpeed_kept (io : PhyIo) (speedMbps : Nat) (fullDuplex : Bool) :
    PhyKept io { io with gem := gemUpdateLinkSpeed io.gem speedMbps fullDuplex } := by
  refine ⟨rfl, fun reg _ _ hcfg => ?_, ?_⟩
  · unfold gemUpdateLinkSpeed
    rw [gemWrite32_regs, if_neg hcfg]
  · unfold gemUpdateLinkSpeed
    rw [gemWrite32_regs, if_pos rfl]
    exact Bits.field_and_of_disjoint (by decide) (netCfgLinkBits_mask speedMbps fullDuplex)

section
variable {mdio : Nat → Option UInt16} {R : PhyIo → PhyIo → Prop}

/-- A relation each access stays within, and that has no interest in the address of the PHY. -/
structure Accessible (mdio : Nat → Option UInt16) (R : PhyIo → PhyIo → Prop) : Prop where
  access : ∀ command, Within R (gemMdioAccess mdio command)
  phyAddr : ∀ (io : PhyIo) (phyAddr : UInt8), R io { io with gem := { io.gem with phyAddr } }

theorem Accessible.phyRead (h : Accessible mdio R) (reg : UInt8) :
    Within R (phyRead mdio reg) :=
  .read fun io => h.access _ io

section
variable [Std.Refl R] [IsTrans PhyIo R]

theorem Accessible.mdioWrite (h : Accessible mdio R) (phyAddr reg : UInt8) (data : UInt16) :
    Within R (gemMdioWrite mdio phyAddr reg data) :=
  .bind (h.access _) fun _ => .pure _

theorem Accessible.phyWrite (h : Accessible mdio R) (reg : UInt8) (data : UInt16) :
    Within R (phyWrite mdio reg data) :=
  .read fun io => h.mdioWrite io.gem.phyAddr reg data io

theorem Accessible.phyDetectLoop (h : Accessible mdio R) (tries : Nat) (phyAddr : UInt8) :
    Within R (phyDetectLoop mdio tries phyAddr) := by
  induction tries generalizing phyAddr with
  | zero => exact .pure _
  | succ tries ih =>
    refine .bind (.attempt (h.access _)) fun id1 => ?_
    cases id1 with
    | none => exact ih _
    | some id1 =>
      refine .bind (.attempt (h.access _)) fun id2 => ?_
      cases id2 with
      | none => exact ih _
      | some id2 =>
        show Within R (if phyIdValid id1 id2 then _ else _)
        split
        · exact .bind (.modify fun io => h.phyAddr io _) fun _ => .pure _
        · exact ih _

theorem Accessible.phyDumpIds (h : Accessible mdio R) (n : Nat) :
    Within R (phyDumpIds mdio n) := by
  induction n with
  | zero => exact .pure _
  | succ n ih => exact .bind (.attempt (h.access _)) fun _ => ih

theorem Accessible.phyDetect (h : Accessible mdio R) : Within R (rp1GemPhyDetect mdio) := by
  refine .bind (h.phyDetectLoop _ _) fun found => ?_
  cases found with
  | true => exact .pure _
  | false => exact .bind (h.phyDumpIds _) fun _ => .throw _

theorem Accessible.phyResetLoop (h : Accessible mdio R) (retry : Nat) :
    Within R (phyResetLoop mdio retry) := by
  induction retry with
  | zero => exact .throw _
  | succ retry ih =>
    refine .bind (h.phyRead _) fun data => ?_
    show Within R (if data &&& phyBmcrReset = 0 then _ else _)
    split
    · exact .pure _
    · exact ih

theorem Accessible.phyReset (h : Accessible mdio R) : Within R (rp1GemPhyReset mdio) :=
  .bind (h.phyWrite _ _) fun _ => h.phyResetLoop _

theorem Accessible.phyConfigRgmiiDelays (h : Accessible mdio R) :
    Within R (rp1GemPhyConfigRgmiiDelays mdio) := by
  refine .bind (h.phyRead _) fun id1 => ?_
  show Within R (if id1 != phyId1Bcm54xx then _ else _)
  split
  · exact .pure _
  · exact .bind (h.phyWrite _ _) fun _ => .bind (h.phyRead _) fun _ =>
      .bind (h.phyWrite _ _) fun _ => .bind (h.phyWrite _ _) fun _ =>
      .bind (h.phyRead _) fun _ => .bind (h.phyWrite _ _) fun _ =>
      .bind (.attempt (h.phyWrite _ _)) fun _ => .bind (.attempt (h.phyRead _)) fun _ =>
      .bind (.attempt (h.phyWrite _ _)) fun _ => .bind (.attempt (h.phyRead _)) fun _ =>
      .pure _

theorem Accessible.phyAutoNegotiate (h : Accessible mdio R) :
    Within R (rp1GemPhyAutoNegotiate mdio) :=
  .bind (h.phyRead _) fun _ => .bind (h.phyWrite _ _) fun _ =>
    .bind (h.phyRead _) fun _ => .bind (h.phyWrite _ _) fun _ =>
    .bind (h.phyRead _) fun _ => h.phyWrite _ _

/-- What `Rp1GemPhyInit` does after it has taken the link for down. -/
theorem Accessible.phyInitAccesses (h : Accessible mdio R) : Within R (do
    rp1GemPhyDetect mdio
    rp1GemPhyReset mdio
    rp1GemPhyConfigRgmiiDelays mdio
    rp1GemPhyAutoNegotiate mdio) :=
  .bind h.phyDetect fun _ => .bind h.phyReset fun _ =>
    .bind h.phyConfigRgmiiDelays fun _ => h.phyAutoNegotiate

theorem Accessible.phyGetConfig (h : Accessible mdio R) : Within R (rp1GemPhyGetConfig mdio) :=
  .bind (h.phyRead _) fun _ => .bind (h.phyRead _) fun _ =>
    .bind (h.phyRead _) fun _ => .bind (h.phyRead _) fun _ => .pure _

end

theorem accessible_phyKept (mdio : Nat → Option UInt16) : Accessible mdio PhyKept := by
  refine ⟨fun command io => ?_, fun io phyAddr => ⟨rfl, fun _ _ _ _ => rfl, rfl⟩⟩
  have hkept : PhyKept io ⟨gemWrite32 (mmioOr32 io.gem gemNetCtrl gemNetCtrlMgmtPortEn)
      gemPhyMaint command, io.ops + 1⟩ := by
    refine ⟨rfl, fun reg hctrl hmaint _ => ?_, ?_⟩
    · unfold mmioOr32
      rw [gemWrite32_regs, if_neg hmaint, gemWrite32_regs, if_neg hctrl]
    · unfold mmioOr32
      rw [gemWrite32_regs, if_neg (by decide), gemWrite32_regs, if_neg (by decide)]
  unfold after gemMdioAccess
  cases mdio io.ops with
  | some data => exact hkept
  | none => exact hkept

theorem phyInit_within (mdio : Nat → Option UInt16) : Within PhyKept (rp1GemPhyInit mdio) :=
  .bind (.modify fun _ => ⟨rfl, fun _ _ _ _ => rfl, rfl⟩) fun _ =>
    (accessible_phyKept mdio).phyInitAccesses

theorem phySetSpeed_within : Within PhyKept (phySetSpeed mdio) :=
  .bind (accessible_phyKept mdio).phyGetConfig fun config =>
    .modify fun io => updateLinkSpeed_kept io config.1 config.2

theorem phyLinkChange_within (linkUp : Bool) : Within PhyKept (phyLinkChange mdio linkUp) := by
  have hset : Within PhyKept (modifyGem fun gem => { gem with linkUp }) :=
    .modify fun _ => ⟨rfl, fun _ _ _ _ => rfl, rfl⟩
  refine .read fun io => ?_
  split
  · exact Within.pure () io
  · split
    · exact Within.bind phySetSpeed_within (fun _ => hset) io
    · exact hset io

theorem phyUpdateConfig_within (mdio : Nat → Option UInt16) :
    Within PhyKept (rp1GemPhyUpdateConfig mdio) := by
  refine .bind ((accessible_phyKept mdio).phyRead _) fun bmsr =>
    .bind (phyLinkChange_within _) fun _ => ?_
  show Within PhyKept (if bmsrLinkUp bmsr then _ else _)
  split
  · exact .pure _
  · exact .throw _

end

end Rpi5Uefi
