import Rpi5Uefi.Pci.OutboundWindow

/-!
# Bringing up a root complex (`PcieInitRc`)

`PcieInitRc` changes `MISC_CTRL` twice: it sets the burst size and three modes, and, with the
inbound window, the size of the memory behind it. The data of the first change is one expression of
shifts, masks and a conditional.

* **`pcieInitRc`** and the routines it calls.
* **`RcInitialised`**: the registers are as the settings and the inbound window say.
* **`reg_miscCtrl`**, **`reg_inbound`**, **`reg_linkCapability`**: what the registers hold in the
  end.
* **`not_rcInitialised`**: the burst size is never the one that is asked for.
* **`pcieInitRc_inbound`**, **`pcieInitRc_aspm`**: the windows and the power states are as asked.
-/

namespace Rpi5Uefi

open Bits

/-! ## The PHY -/

/-- `PCIE_RC_DL_MDIO_DATA_DONE_MASK`. -/
def pcieRcDlMdioDataDoneMask : UInt32 := 0x80000000

/-- The loop of `PciePhyWrite`, with the `Retry` that is left. -/
def pciePhyWait (hw : RcHardware) : Nat → RcState → EfiStatus × RcState
  | 0, s => (.timeout, s)
  | retry + 1, s =>
    let data := Rc.mmioRead32 hw pcieRcDlMdioWrData s
    if data.1 &&& pcieRcDlMdioDataDoneMask = 0 then (.success, data.2)
    else pciePhyWait hw retry (stall 10 data.2)

/-- `PciePhyWrite`. In the packet of a write, the port and the command are zero. -/
def pciePhyWrite (hw : RcHardware) (register value : UInt32) (s : RcState) :
    EfiStatus × RcState :=
  let s := Rc.mmioWrite32 pcieRcDlMdioAddr register s
  let s := (Rc.mmioRead32 hw pcieRcDlMdioAddr s).2
  let s := Rc.mmioWrite32 pcieRcDlMdioWrData (pcieRcDlMdioDataDoneMask ||| value) s
  pciePhyWait hw 10 s

/-- `PCIE_MISC_HARD_PCIE_HARD_DEBUG`. -/
def pcieMiscHardPcieHardDebug : Nat := 0x4304

/-- `PCIE_RC_PL_PHY_CTL_15`. -/
def pcieRcPlPhyCtl15 : Nat := 0x184C

/-- `PcieSetupPhy`. -/
def pcieSetupPhy (hw : RcHardware) (s : RcState) : RcState :=
  -- enable PHY SerDes
  let s := Rc.mmioAnd32 hw pcieMiscHardPcieHardDebug (~~~0x08000000) s
  let s := stall 100 s
  -- allow a 54 MHz reference clock
  let s := (pciePhyWrite hw 0x1F 0x1600 s).2
  let s := (pciePhyWrite hw 0x16 0x50B9 s).2
  let s := (pciePhyWrite hw 0x17 0xBDA1 s).2
  let s := (pciePhyWrite hw 0x18 0x0094 s).2
  let s := (pciePhyWrite hw 0x19 0x97B4 s).2
  let s := (pciePhyWrite hw 0x1B 0x5030 s).2
  let s := (pciePhyWrite hw 0x1C 0x5030 s).2
  let s := (pciePhyWrite hw 0x1E 0x0007 s).2
  let s := stall 100 s
  -- tweak the PM period for the 54 MHz clock
  Rc.mmioAndThenOr32 hw pcieRcPlPhyCtl15 (~~~0xFF) 18 s

/-! ## Quality of service, link speed and power states -/

/-- `AXI_EN_QOS_UPDATE_TIMING_FIX`. -/
def axiEnQosUpdateTimingFix : UInt32 := 0x1000

/-- `PCIE_MISC_CTRL_1`. -/
def pcieMiscCtrl1 : Nat := 0x40A0

/-- `PCIE_MISC_CTRL_1_EN_VDM_QOS_CONTROL_MASK`. -/
def pcieMiscCtrl1EnVdmQosControlMask : UInt32 := 0x20

/-- `PcieSetupAxiQosPriority`. -/
def pcieSetupAxiQosPriority (hw : RcHardware) (settings : Bcm2712PcieControllerSettings)
    (s : RcState) : RcState :=
  let s := Rc.mmioAndThenOr32 hw pcieMiscAxiIntfCtrl (~~~0x80)
    (0x2000 ||| axiEnQosUpdateTimingFix ||| 0x800) s
  -- a stepping without the fix throttles the requests instead
  let read := Rc.mmioRead32 hw pcieMiscAxiIntfCtrl s
  let s :=
    if read.1 &&& axiEnQosUpdateTimingFix = 0 then
      Rc.mmioAndThenOr32 hw pcieMiscAxiIntfCtrl (~~~0x3F) 15 read.2
    else read.2
  if settings.vdmToQosMap = 0 then
    Rc.mmioAnd32 hw pcieMiscCtrl1 (~~~pcieMiscCtrl1EnVdmQosControlMask) s
  else
    let s := Rc.mmioOr32 hw pcieMiscCtrl1 pcieMiscCtrl1EnVdmQosControlMask s
    let s := Rc.mmioWrite32 0x4168 settings.vdmToQosMap s
    let s := Rc.mmioWrite32 0x4164 settings.vdmToQosMap s
    let s := Rc.mmioWrite32 0x0A0C 0 s
    Rc.mmioOr32 hw 0x0A20 (0x10000 ||| 0x20000 ||| 0x40000) s

/-- `PCIE_RC_CFG_PRIV1_LINK_CAPABILITY`. -/
def pcieRcCfgPriv1LinkCapability : Nat := 0x04DC

/-- `PCIE_RC_CFG_PRIV1_LINK_CAPABILITY_ASPM_SUPPORT_MASK`. -/
def aspmSupportMask : UInt32 := (0x3 : UInt32) <<< 10

/-- `AspmCaps`: `PCIE_LINK_STATE_L0S` and `PCIE_LINK_STATE_L1` as the settings have them. -/
def aspmCaps (settings : Bcm2712PcieControllerSettings) : UInt32 :=
  let caps := 0
  let caps := if settings.aspmSupportL0s then caps ||| 1 else caps
  if settings.aspmSupportL1 then caps ||| 2 else caps

/-- `PcieSetupAspm`. -/
def pcieSetupAspm (hw : RcHardware) (settings : Bcm2712PcieControllerSettings) (s : RcState) :
    RcState :=
  let data := Rc.mmioRead32 hw pcieMiscHardPcieHardDebug s
  let s := Rc.mmioWrite32 pcieMiscHardPcieHardDebug
    (data.1 &&& ~~~0x2 &&& ~~~0x00200000 ||| 0x2) data.2
  Rc.mmioAndThenOr32 hw pcieRcCfgPriv1LinkCapability (~~~aspmSupportMask)
    (aspmCaps settings <<< 10) s

/-- `PcieSetupLinkSpeed`: `PCIE_LINK_CONTROL_2` and `PCIE_LINK_CAPABILITIES` behind
`BRCM_PCIE_CAP_REGS`. -/
def pcieSetupLinkSpeed (hw : RcHardware) (speed : UInt8) (s : RcState) : RcState :=
  if speed = 0 then s
  else
    let s := Rc.mmioAndThenOr16 hw 0xDC (~~~0xF) speed.toUInt16 s
    Rc.mmioAndThenOr32 hw 0xB8 (~~~0xF) speed.toUInt32 s

/-! ## Reset and link -/

/-- `PCIE_MISC_PCIE_CTRL`. -/
def pcieMiscPcieCtrl : Nat := 0x4064

/-- `PcieAssertPerst`. -/
def pcieAssertPerst (hw : RcHardware) (value : Bool) (s : RcState) : RcState :=
  Rc.mmioAndThenOr32 hw pcieMiscPcieCtrl (~~~0x4) (if value then 0 else 0x4) s

/-- `PcieIsLinkUp`. -/
def pcieIsLinkUp (hw : RcHardware) (s : RcState) : Bool × RcState :=
  let status := Rc.mmioRead32 hw pcieMiscPcieStatus s
  (status.1 &&& (0x20 ||| 0x10) != 0, status.2)

/-- The loop of `PcieWaitForLinkUp`, with the `Retry` that is left. -/
def pcieLinkWait (hw : RcHardware) : Nat → RcState → Bool × RcState
  | 0, s => (false, s)
  | retry + 1, s =>
    let up := pcieIsLinkUp hw s
    if up.1 then (true, up.2) else pcieLinkWait hw retry (stall 5000 up.2)

/-- `PcieWaitForLinkUp`; the speed and the width that it reads are only printed. -/
def pcieWaitForLinkUp (hw : RcHardware) (s : RcState) : EfiStatus × RcState :=
  let wait := pcieLinkWait hw 20 s
  if wait.1 then (.success, (Rc.mmioRead32 hw pcieLinkStatusWord wait.2).2)
  else (.timeout, wait.2)

/-! ## The root complex -/

/-- `PCIE_MISC_MISC_CTRL_MAX_BURST_SIZE_MASK`. -/
def miscCtrlMaxBurstSizeMask : UInt32 := (0x3 : UInt32) <<< 20

/-- `PCIE_MISC_MISC_CTRL_MAX_BURST_SIZE_128`. -/
def miscCtrlMaxBurstSize128 : UInt32 := 1

/-- `PCIE_MISC_MISC_CTRL_SCB_ACCESS_EN_MASK`. -/
def miscCtrlScbAccessEnMask : UInt32 := 0x1000

/-- `PCIE_MISC_MISC_CTRL_CFG_READ_UR_MODE_MASK`. -/
def miscCtrlCfgReadUrModeMask : UInt32 := 0x2000

/-- `PCIE_MISC_MISC_CTRL_PCIE_RCB_MPS_MODE_MASK`. -/
def miscCtrlPcieRcbMpsModeMask : UInt32 := 0x400

/-- The data of the first change of `MISC_CTRL`. The conditional binds weaker than the `|` before
it, so that all of what stands there is its condition. -/
def miscCtrlOrData (settings : Bcm2712PcieControllerSettings) : UInt32 :=
  if miscCtrlMaxBurstSize128 <<< 20 ||| miscCtrlScbAccessEnMask ||| miscCtrlCfgReadUrModeMask |||
      settings.rcbMatchMps.toUInt32 ≠ 0 then
    miscCtrlPcieRcbMpsModeMask
  else 0

/-- `PcieInitRc`. -/
def pcieInitRc (hw : RcHardware) (pcie : Bcm2712PcieRc) (s : RcState) : EfiStatus × RcState :=
  let s := pcieAssertPerst hw true s
  let s := stall 100 s
  let s := pcieSetupPhy hw s
  let s := Rc.mmioAndThenOr32 hw pcieMiscMiscCtrl (~~~miscCtrlMaxBurstSizeMask)
    (miscCtrlOrData pcie.settings) s
  -- no AXI bus errors while the link is down
  let s := Rc.mmioOr32 hw 0x40A4 (0x2000 ||| 0x80000) s
  let s := Rc.mmioWrite32 0x4170 0xFFFFFFFF s
  -- the UBUS timeout and the CRS timeout
  let s := Rc.mmioWrite32 0x40A8 0xB2D0000 s
  let s := Rc.mmioWrite32 0x405C 0xABA0000 s
  let s := pcieSetupAxiQosPriority hw pcie.settings s
  -- disable the GISB and SCB windows
  let s := Rc.mmioAnd32 hw 0x402C (~~~rcBarConfigLoSizeMask) s
  let s := Rc.mmioAnd32 hw 0x403C (~~~rcBarConfigLoSizeMask) s
  let s := pcieSetupInboundWindow hw 0 pcie.inbound s
  let s := pcieSetupOutboundWindow hw 0 pcie.mem32 s
  let s := pcieSetupOutboundWindow hw 1 pcie.mem64 s
  -- clear and mask interrupts
  let s := Rc.mmioWrite32 0x4414 0xFFFFFFFF s
  let s := Rc.mmioWrite32 0x4410 0xFFFFFFFF s
  -- the class of the root port
  let s := Rc.mmioAndThenOr32 hw 0x043C (~~~0xFFFFFF) 0x060400 s
  -- little-endian mode for the BAR
  let s := Rc.mmioAndThenOr32 hw 0x0188 (~~~0xC) 0x0 s
  let s := pcieSetupLinkSpeed hw pcie.settings.maxLinkSpeed s
  let s := pcieSetupAspm hw pcie.settings s
  -- start link-up
  let s := pcieAssertPerst hw false s
  let s := stall 100000 s
  let s := (pcieWaitForLinkUp hw s).2
  (.success, s)

/-! ## Which registers the routines write -/

section Frames

variable {hw : RcHardware} {s : RcState} {o : Nat}

/-- Waiting for the PHY only reads. -/
theorem reg_pciePhyWait (retry : Nat) (s : RcState) : (pciePhyWait hw retry s).2.reg = s.reg := by
  induction retry generalizing s with
  | zero => rfl
  | succ retry ih =>
    unfold pciePhyWait
    show (if _ then _ else _ : EfiStatus × RcState).2.reg = s.reg
    split
    · rfl
    · rw [ih]
      rfl

theorem reg_pciePhyWrite (h : o ∉ [pcieRcDlMdioAddr, pcieRcDlMdioWrData])
    (register value : UInt32) : (pciePhyWrite hw register value s).2.reg o = s.reg o := by
  simp only [List.mem_cons, List.not_mem_nil, or_false, not_or] at h
  unfold pciePhyWrite
  rw [reg_pciePhyWait, mmioWrite32_ne h.2, reg_mmioRead32, mmioWrite32_ne h.1]

theorem reg_pcieSetupPhy (h : o ∉ [pcieRcDlMdioAddr, pcieRcDlMdioWrData,
    pcieMiscHardPcieHardDebug, pcieRcPlPhyCtl15]) : (pcieSetupPhy hw s).reg o = s.reg o := by
  have hphy : ∀ register value s, (pciePhyWrite hw register value s).2.reg o = s.reg o :=
    fun register value s =>
      reg_pciePhyWrite (fun hmem => h (List.mem_append_left _ hmem)) register value
  simp only [List.mem_cons, List.not_mem_nil, or_false, not_or] at h
  unfold pcieSetupPhy
  rw [mmioAndThenOr32_ne h.2.2.2, reg_stall]
  simp only [hphy]
  rw [reg_stall, mmioAnd32_ne h.2.2.1]

theorem reg_pcieSetupAxiQosPriority (h : o ∉ [pcieMiscAxiIntfCtrl, pcieMiscCtrl1, 0x4168, 0x4164,
    0x0A0C, 0x0A20]) (settings : Bcm2712PcieControllerSettings) :
    (pcieSetupAxiQosPriority hw settings s).reg o = s.reg o := by
  simp only [List.mem_cons, List.not_mem_nil, or_false, not_or] at h
  obtain ⟨haxi, hctrl, hlo, hhi, hctl1, hctl0⟩ := h
  have haxi' : ∀ s : RcState, ∀ c : Prop, [Decidable c] →
      (if c then Rc.mmioAndThenOr32 hw pcieMiscAxiIntfCtrl (~~~0x3F) 15 s else s).reg o =
        s.reg o := by
    intro s c _
    split
    · exact mmioAndThenOr32_ne haxi _ _
    · rfl
  unfold pcieSetupAxiQosPriority
  show (if _ then _ else _ : RcState).reg o = s.reg o
  split
  · rw [mmioAnd32_ne hctrl, haxi', reg_mmioRead32, mmioAndThenOr32_ne haxi]
  · rw [mmioOr32_ne hctl0, mmioWrite32_ne hctl1, mmioWrite32_ne hhi, mmioWrite32_ne hlo,
      mmioOr32_ne hctrl, haxi', reg_mmioRead32, mmioAndThenOr32_ne haxi]

theorem reg_pcieSetupOutboundWindow {index : Nat} (h : o ∉ [pcieMemWinBaseLimit index,
    pcieMemWinBaseHi index, pcieMemWinLimitHi index, pcieMemWinLo index, pcieMemWinHi index])
    (window : BcmPcieRcWindow) : (pcieSetupOutboundWindow hw index window s).reg o = s.reg o := by
  simp only [List.mem_cons, List.not_mem_nil, or_false, not_or] at h
  obtain ⟨hbl, hbase, hlimit, hlo, hhi⟩ := h
  unfold pcieSetupOutboundWindow
  rw [mmioWrite32_ne hhi, mmioWrite32_ne hlo, mmioAndThenOr32_ne hlimit, mmioAndThenOr32_ne hbase,
    mmioAndThenOr32_ne hbl]

theorem reg_pcieSetupLinkSpeed (h : o ∉ [0xDC, 0xB8]) (speed : UInt8) :
    (pcieSetupLinkSpeed hw speed s).reg o = s.reg o := by
  simp only [List.mem_cons, List.not_mem_nil, or_false, not_or] at h
  unfold pcieSetupLinkSpeed
  split
  · rfl
  · rw [mmioAndThenOr32_ne h.2, mmioAndThenOr16_ne h.1]

theorem reg_pcieSetupAspm (h : o ∉ [pcieMiscHardPcieHardDebug, pcieRcCfgPriv1LinkCapability])
    (settings : Bcm2712PcieControllerSettings) :
    (pcieSetupAspm hw settings s).reg o = s.reg o := by
  simp only [List.mem_cons, List.not_mem_nil, or_false, not_or] at h
  unfold pcieSetupAspm
  rw [mmioAndThenOr32_ne h.2, mmioWrite32_ne h.1, reg_mmioRead32]

theorem reg_pcieAssertPerst (h : o ≠ pcieMiscPcieCtrl) (value : Bool) :
    (pcieAssertPerst hw value s).reg o = s.reg o :=
  mmioAndThenOr32_ne h _ _

/-- Waiting for the link only reads. -/
theorem reg_pcieLinkWait (retry : Nat) (s : RcState) : (pcieLinkWait hw retry s).2.reg = s.reg := by
  induction retry generalizing s with
  | zero => rfl
  | succ retry ih =>
    unfold pcieLinkWait
    show (if _ then _ else _ : Bool × RcState).2.reg = s.reg
    split
    · rfl
    · rw [ih]
      rfl

theorem reg_pcieWaitForLinkUp (s : RcState) : (pcieWaitForLinkUp hw s).2.reg = s.reg := by
  have hwait : (pcieLinkWait hw 20 s).2.reg = s.reg := reg_pcieLinkWait 20 s
  unfold pcieWaitForLinkUp
  show (if _ then _ else _ : EfiStatus × RcState).2.reg = s.reg
  split
  · rw [reg_mmioRead32, hwait]
  · exact hwait

end Frames

/-! ## What the registers hold in the end -/

section Final

variable (hw : RcHardware) (pcie : Bcm2712PcieRc) (s : RcState)

/-- The code of the inbound window's size. -/
def inboundSizeCode (window : BcmPcieRcWindow) : UInt32 :=
  UInt32.ofNat (pcieEncodeInboundSize window.size)

theorem inbound_miscCtrl (window : BcmPcieRcWindow) :
    (pcieSetupInboundWindow hw 0 window s).reg pcieMiscMiscCtrl =
      s.reg pcieMiscMiscCtrl &&& ~~~miscCtrlScb0SizeMask ||| inboundSizeCode window <<< 27 := by
  unfold pcieSetupInboundWindow
  rw [if_pos rfl, mmioAndThenOr32_held (by decide)]
  simp (disch := decide) only [mmioWrite32_ne]
  rfl

theorem inbound_window (window : BcmPcieRcWindow) :
    (pcieSetupInboundWindow hw 0 window s).reg (pcieIbWinLo 0) =
        window.busBase.toUInt32 &&& ~~~rcBarConfigLoSizeMask ||| inboundSizeCode window ∧
      (pcieSetupInboundWindow hw 0 window s).reg (pcieIbWinHi 0) =
        (window.busBase >>> 32).toUInt32 ∧
      (pcieSetupInboundWindow hw 0 window s).reg (pcieIbWinRemapLo 0) =
        window.cpuBase.toUInt32 &&& ubusBarConfigRemapLoMask ||| ubusBarConfigRemapEnable ∧
      (pcieSetupInboundWindow hw 0 window s).reg (pcieIbWinRemapHi 0) =
        (window.cpuBase >>> 32 &&& ubusBarConfigRemapHiMask).toUInt32 := by
  unfold pcieSetupInboundWindow
  rw [if_pos rfl]
  refine ⟨?_, ?_, ?_, ?_⟩
  · rw [mmioAndThenOr32_ne (by decide), mmioWrite32_ne (by decide), mmioWrite32_ne (by decide),
      mmioWrite32_ne (by decide), mmioWrite32_self]
    rfl
  · rw [mmioAndThenOr32_ne (by decide), mmioWrite32_ne (by decide), mmioWrite32_ne (by decide),
      mmioWrite32_self]
  · rw [mmioAndThenOr32_ne (by decide), mmioWrite32_ne (by decide), mmioWrite32_self]
  · rw [mmioAndThenOr32_ne (by decide), mmioWrite32_self]

theorem inbound_ne {o : Nat} (h : o ∉ [pcieIbWinLo 0, pcieIbWinHi 0, pcieIbWinRemapLo 0,
    pcieIbWinRemapHi 0, pcieMiscMiscCtrl]) (window : BcmPcieRcWindow) :
    (pcieSetupInboundWindow hw 0 window s).reg o = s.reg o := by
  simp only [List.mem_cons, List.not_mem_nil, or_false, not_or] at h
  obtain ⟨hlo, hhi, hremapLo, hremapHi, hctrl⟩ := h
  unfold pcieSetupInboundWindow
  rw [if_pos rfl, mmioAndThenOr32_ne hctrl, mmioWrite32_ne hremapHi, mmioWrite32_ne hremapLo,
    mmioWrite32_ne hhi, mmioWrite32_ne hlo]

/-- **`MISC_CTRL` in the end**: two changes of what it held. -/
theorem reg_miscCtrl :
    (pcieInitRc hw pcie s).2.reg pcieMiscMiscCtrl =
      (s.reg pcieMiscMiscCtrl &&& ~~~miscCtrlMaxBurstSizeMask ||| miscCtrlOrData pcie.settings) &&&
        ~~~miscCtrlScb0SizeMask ||| inboundSizeCode pcie.inbound <<< 27 := by
  unfold pcieInitRc
  simp (disch := decide) only [reg_pcieWaitForLinkUp, reg_stall, reg_pcieAssertPerst,
    reg_pcieSetupAspm, reg_pcieSetupLinkSpeed, mmioAndThenOr32_ne, mmioWrite32_ne,
    reg_pcieSetupOutboundWindow, inbound_miscCtrl, mmioAnd32_ne, mmioOr32_ne,
    reg_pcieSetupAxiQosPriority, mmioAndThenOr32_held, reg_pcieSetupPhy]

/-- The registers of the inbound window are not written again. -/
theorem reg_inbound {o : Nat} (h : o ∈ [pcieIbWinLo 0, pcieIbWinHi 0, pcieIbWinRemapLo 0,
    pcieIbWinRemapHi 0]) : ∃ s', (pcieInitRc hw pcie s).2.reg o =
      (pcieSetupInboundWindow hw 0 pcie.inbound s').reg o := by
  simp only [List.mem_cons, List.not_mem_nil, or_false] at h
  unfold pcieInitRc
  rcases h with rfl | rfl | rfl | rfl
  all_goals
    simp (disch := decide) only [reg_pcieWaitForLinkUp, reg_stall, reg_pcieAssertPerst,
      reg_pcieSetupAspm, reg_pcieSetupLinkSpeed, mmioAndThenOr32_ne, mmioWrite32_ne,
      reg_pcieSetupOutboundWindow]
    exact ⟨_, rfl⟩

theorem reg_linkCapability :
    (pcieInitRc hw pcie s).2.reg pcieRcCfgPriv1LinkCapability =
      s.reg pcieRcCfgPriv1LinkCapability &&& ~~~aspmSupportMask |||
        aspmCaps pcie.settings <<< 10 := by
  unfold pcieInitRc
  simp (disch := decide) only [reg_pcieWaitForLinkUp, reg_stall, reg_pcieAssertPerst]
  unfold pcieSetupAspm
  simp (disch := decide) only [mmioAndThenOr32_held, reg_mmioRead32, reg_pcieSetupLinkSpeed,
    mmioAndThenOr32_ne, mmioWrite32_ne, reg_pcieSetupOutboundWindow, inbound_ne, mmioAnd32_ne,
    mmioOr32_ne, reg_pcieSetupAxiQosPriority, reg_pcieSetupPhy, reg_stall, reg_pcieAssertPerst]

end Final

/-! ## As the settings say -/

/-- The size that a code of an inbound window stands for. -/
def inboundSizeOfCode (code : Nat) : Nat :=
  if 0x1C ≤ code ∧ code ≤ 0x1F then 2 ^ (code - 0x1C + 12)
  else if 1 ≤ code ∧ code ≤ 21 then 2 ^ (code + 15)
  else 0

/-- The CPU address that the inbound window is mapped to. -/
def inboundCpuBase (s : RcState) : Nat :=
  (s.reg (pcieIbWinRemapHi 0)).toNat * 2 ^ 32 +
    (s.reg (pcieIbWinRemapLo 0) &&& ubusBarConfigRemapLoMask).toNat

/-- The bus address of the inbound window. -/
def inboundBusBase (s : RcState) : Nat :=
  (s.reg (pcieIbWinHi 0)).toNat * 2 ^ 32 +
    (s.reg (pcieIbWinLo 0) &&& ~~~rcBarConfigLoSizeMask).toNat

/-- The size of the inbound window. -/
def inboundSize (s : RcState) : Nat :=
  inboundSizeOfCode (s.reg (pcieIbWinLo 0) &&& rcBarConfigLoSizeMask).toNat

/-- The fields of `MISC_CTRL` that are set up. -/
def miscCtrlFields : UInt32 :=
  miscCtrlMaxBurstSizeMask ||| miscCtrlScbAccessEnMask ||| miscCtrlCfgReadUrModeMask |||
    miscCtrlPcieRcbMpsModeMask ||| miscCtrlScb0SizeMask

/-- **A root complex as its settings and its inbound window say.** -/
structure RcInitialised (pcie : Bcm2712PcieRc) (s s' : RcState) : Prop where
  maxBurst : (s'.reg pcieMiscMiscCtrl &&& miscCtrlMaxBurstSizeMask) >>> 20 =
    miscCtrlMaxBurstSize128
  scbAccess : s'.reg pcieMiscMiscCtrl &&& miscCtrlScbAccessEnMask = miscCtrlScbAccessEnMask
  cfgReadUr : s'.reg pcieMiscMiscCtrl &&& miscCtrlCfgReadUrModeMask = miscCtrlCfgReadUrModeMask
  rcbMps : s'.reg pcieMiscMiscCtrl &&& miscCtrlPcieRcbMpsModeMask =
    if pcie.settings.rcbMatchMps then miscCtrlPcieRcbMpsModeMask
    else s.reg pcieMiscMiscCtrl &&& miscCtrlPcieRcbMpsModeMask
  scb0Size : (s'.reg pcieMiscMiscCtrl &&& miscCtrlScb0SizeMask) >>> 27 =
    inboundSizeCode pcie.inbound
  miscKept : s'.reg pcieMiscMiscCtrl &&& ~~~miscCtrlFields =
    s.reg pcieMiscMiscCtrl &&& ~~~miscCtrlFields
  cpuBase : inboundCpuBase s' = pcie.inbound.cpuBase.toNat
  busBase : inboundBusBase s' = pcie.inbound.busBase.toNat
  size : inboundSize s' = pcie.inbound.size.toNat
  aspm : (s'.reg pcieRcCfgPriv1LinkCapability &&& aspmSupportMask) >>> 10 =
    aspmCaps pcie.settings

section Programmed

variable (hw : RcHardware) (pcie : Bcm2712PcieRc) (s : RcState)

/-- The condition of the conditional is never zero. -/
theorem miscCtrlOrData_eq (settings : Bcm2712PcieControllerSettings) :
    miscCtrlOrData settings = miscCtrlPcieRcbMpsModeMask := by
  unfold miscCtrlOrData
  cases settings.rcbMatchMps with
  | false => exact if_pos (by decide)
  | true => exact if_pos (by decide)

/-- A field of `MISC_CTRL` below `SCB0_SIZE` is as the first change leaves it. -/
theorem miscCtrl_and {field : UInt32} (hfield : miscCtrlScb0SizeMask &&& field = 0)
    (hlow : ∀ i < 32, 27 ≤ i → bit field i = false) :
    (pcieInitRc hw pcie s).2.reg pcieMiscMiscCtrl &&& field =
      (s.reg pcieMiscMiscCtrl &&& ~~~miscCtrlMaxBurstSizeMask ||| miscCtrlPcieRcbMpsModeMask) &&&
        field := by
  rw [reg_miscCtrl, miscCtrlOrData_eq]
  exact field_and_of_disjoint hfield (shiftLeft_and_of_low (by decide) hlow)

/-- The burst size that is asked for is not set; nor are the two modes, and the third always is. -/
theorem pcieInitRc_modes :
    (pcieInitRc hw pcie s).2.reg pcieMiscMiscCtrl &&& miscCtrlMaxBurstSizeMask = 0 ∧
      (pcieInitRc hw pcie s).2.reg pcieMiscMiscCtrl &&& miscCtrlScbAccessEnMask =
        s.reg pcieMiscMiscCtrl &&& miscCtrlScbAccessEnMask ∧
      (pcieInitRc hw pcie s).2.reg pcieMiscMiscCtrl &&& miscCtrlCfgReadUrModeMask =
        s.reg pcieMiscMiscCtrl &&& miscCtrlCfgReadUrModeMask ∧
      (pcieInitRc hw pcie s).2.reg pcieMiscMiscCtrl &&& miscCtrlPcieRcbMpsModeMask =
        miscCtrlPcieRcbMpsModeMask := by
  refine ⟨?_, ?_, ?_, ?_⟩
  · rw [miscCtrl_and hw pcie s (by decide) (by decide), field_and (by decide)]
    decide
  · rw [miscCtrl_and hw pcie s (by decide) (by decide)]
    exact field_and_of_disjoint (by decide) (by decide)
  · rw [miscCtrl_and hw pcie s (by decide) (by decide)]
    exact field_and_of_disjoint (by decide) (by decide)
  · rw [miscCtrl_and hw pcie s (by decide) (by decide)]
    exact or_and_self

/-- The power states are those of the settings. -/
theorem pcieInitRc_aspm :
    ((pcieInitRc hw pcie s).2.reg pcieRcCfgPriv1LinkCapability &&& aspmSupportMask) >>> 10 =
      aspmCaps pcie.settings := by
  rw [reg_linkCapability, field_and (by decide)]
  unfold aspmCaps
  cases pcie.settings.aspmSupportL0s <;> cases pcie.settings.aspmSupportL1 <;> decide

theorem pcieEncodeInboundSize_lt (size : UInt64) : pcieEncodeInboundSize size < 32 := by
  simp only [pcieEncodeInboundSize]
  split
  · omega
  · split
    · omega
    · decide

/-- The size of the memory is that of the inbound window. -/
theorem pcieInitRc_scb0Size :
    ((pcieInitRc hw pcie s).2.reg pcieMiscMiscCtrl &&& miscCtrlScb0SizeMask) >>> 27 =
      inboundSizeCode pcie.inbound := by
  have hall : ∀ n < 32, (UInt32.ofNat n <<< 27 &&& miscCtrlScb0SizeMask) >>> 27 =
      UInt32.ofNat n := by decide
  rw [reg_miscCtrl, field_and (by decide)]
  exact hall _ (pcieEncodeInboundSize_lt pcie.inbound.size)

/-- The rest of `MISC_CTRL` is as before. -/
theorem pcieInitRc_miscKept :
    (pcieInitRc hw pcie s).2.reg pcieMiscMiscCtrl &&& ~~~miscCtrlFields =
      s.reg pcieMiscMiscCtrl &&& ~~~miscCtrlFields := by
  rw [miscCtrl_and hw pcie s (by decide) (by decide)]
  exact field_and_of_disjoint (by decide) (by decide)

/-- A power of two within the range of the codes is decoded to itself. -/
theorem inboundSizeOfCode_encode {size : UInt64} {k : Nat} (hsize : size.toNat = 2 ^ k)
    (hlow : 12 ≤ k) (hhigh : k ≤ 36) :
    inboundSizeOfCode (pcieEncodeInboundSize size) = 2 ^ k := by
  have hne : size ≠ 0 := fun h => by
    rw [h] at hsize
    exact absurd hsize.symm (Nat.ne_of_gt (Nat.two_pow_pos k))
  have hlog : highBitSet64 size = k := by
    unfold highBitSet64
    rw [if_neg hne, hsize, Nat.log2_two_pow]
  simp only [pcieEncodeInboundSize, hlog]
  split
  · unfold inboundSizeOfCode
    rw [if_pos (by omega), Nat.add_sub_cancel, Nat.sub_add_cancel hlow]
  · rw [if_pos (by omega)]
    unfold inboundSizeOfCode
    rw [if_neg (by omega), if_pos (by omega), Nat.sub_add_cancel (by omega)]

/-- **The inbound window decodes back**, for a power of two between 4 KiB and 64 GiB, with bases at
pages and a CPU address that the registers have room for. -/
theorem pcieInitRc_inbound {k : Nat} (hsize : pcie.inbound.size.toNat = 2 ^ k) (hlow : 12 ≤ k)
    (hhigh : k ≤ 36) (hbus : pcie.inbound.busBase.toNat % 2 ^ 12 = 0)
    (hcpu : pcie.inbound.cpuBase.toNat % 2 ^ 12 = 0)
    (hroom : pcie.inbound.cpuBase.toNat < 2 ^ 40) :
    inboundCpuBase (pcieInitRc hw pcie s).2 = pcie.inbound.cpuBase.toNat ∧
      inboundBusBase (pcieInitRc hw pcie s).2 = pcie.inbound.busBase.toNat ∧
      inboundSize (pcieInitRc hw pcie s).2 = pcie.inbound.size.toNat := by
  have hcodes : ∀ n < 32, (UInt32.ofNat n &&& rcBarConfigLoSizeMask).toNat = n ∧
      UInt32.ofNat n &&& ~~~rcBarConfigLoSizeMask = 0 := by decide
  have hsmall := hcodes _ (pcieEncodeInboundSize_lt pcie.inbound.size)
  obtain ⟨slo, hlo⟩ := reg_inbound hw pcie s (o := pcieIbWinLo 0) (by decide)
  obtain ⟨shi, hhi⟩ := reg_inbound hw pcie s (o := pcieIbWinHi 0) (by decide)
  obtain ⟨srlo, hremapLo⟩ := reg_inbound hw pcie s (o := pcieIbWinRemapLo 0) (by decide)
  obtain ⟨srhi, hremapHi⟩ := reg_inbound hw pcie s (o := pcieIbWinRemapHi 0) (by decide)
  rw [(inbound_window hw slo pcie.inbound).1] at hlo
  rw [(inbound_window hw shi pcie.inbound).2.1] at hhi
  rw [(inbound_window hw srlo pcie.inbound).2.2.1] at hremapLo
  rw [(inbound_window hw srhi pcie.inbound).2.2.2] at hremapHi
  refine ⟨?_, ?_, ?_⟩
  · have hpage : pcie.inbound.cpuBase.toUInt32.toNat % 2 ^ 12 = 0 := by
      rw [UInt64.toNat_toUInt32]
      omega
    have hhigh : (pcie.inbound.cpuBase >>> 32 &&& ubusBarConfigRemapHiMask).toUInt32.toNat =
        pcie.inbound.cpuBase.toNat / 2 ^ 32 := by
      rw [UInt64.toNat_toUInt32, UInt64.toNat_and, UInt64.toNat_shiftRight]
      show (pcie.inbound.cpuBase.toNat >>> 32 &&& (2 ^ 8 - 1)) % 2 ^ 32 = _
      rw [Nat.and_two_pow_sub_one_eq_mod, Nat.shiftRight_eq_div_pow]
      omega
    unfold inboundCpuBase
    rw [hremapLo, hremapHi, hhigh, or_and_of_disjoint (by decide), UInt32.and_assoc,
      UInt32.and_self, and_of_aligned hpage (by decide), UInt64.toNat_toUInt32]
    omega
  · have hfive : pcie.inbound.busBase.toUInt32.toNat % 2 ^ 5 = 0 := by
      rw [UInt64.toNat_toUInt32]
      omega
    have hcode : inboundSizeCode pcie.inbound &&& ~~~rcBarConfigLoSizeMask = 0 := hsmall.2
    unfold inboundBusBase
    rw [hlo, hhi, or_and_of_disjoint hcode, UInt32.and_assoc, UInt32.and_self,
      and_of_aligned hfive (by decide), UInt64.toNat_toUInt32, UInt64.toNat_toUInt32,
      UInt64.toNat_shiftRight]
    show pcie.inbound.busBase.toNat >>> 32 % 2 ^ 32 * 2 ^ 32 + _ = _
    rw [Nat.shiftRight_eq_div_pow]
    have hlt := pcie.inbound.busBase.toNat_lt
    omega
  · have hcode : ((pcie.inbound.busBase.toUInt32 &&& ~~~rcBarConfigLoSizeMask |||
        inboundSizeCode pcie.inbound) &&& rcBarConfigLoSizeMask).toNat =
          pcieEncodeInboundSize pcie.inbound.size := by
      rw [field_and (by decide)]
      exact hsmall.1
    unfold inboundSize
    rw [hlo, hcode, inboundSizeOfCode_encode hsize hlow hhigh, hsize]

/-- **The burst size is not the one that is asked for**, whatever the settings, the window and the
registers before. -/
theorem not_rcInitialised : ¬ RcInitialised pcie s (pcieInitRc hw pcie s).2 := by
  intro h
  have hburst := h.maxBurst
  rw [(pcieInitRc_modes hw pcie s).1] at hburst
  exact absurd hburst (by decide)

end Programmed

/-! ### The controller of RP1 -/

/-- The controller behind which RP1 is, as it is configured. -/
def rp1Rc : Bcm2712PcieRc where
  inbound := ⟨0, 0, 0x1000000000⟩
  mem32 := ⟨0x1F00000000, 0xC0000000, 0x40000000⟩
  mem64 := ⟨0x1C00000000, 0x1C00000000, 0x300000000⟩
  settings := ⟨2, false, false, true, 0xBBAA9888⟩

/-- From clear registers, `MISC_CTRL` has the size of the window and the one mode. -/
theorem rp1Rc_miscCtrl :
    (pcieInitRc (fun _ _ => 0) rp1Rc clearRegisters).2.reg pcieMiscMiscCtrl = 0xA8000400 ∧
      ¬ RcInitialised rp1Rc clearRegisters
        (pcieInitRc (fun _ _ => 0) rp1Rc clearRegisters).2 := by
  have hctrl : (pcieInitRc (fun _ _ => 0) rp1Rc clearRegisters).2.reg pcieMiscMiscCtrl =
      0xA8000400 := by
    have hcode : inboundSizeCode rp1Rc.inbound = 21 := by decide
    rw [reg_miscCtrl, hcode]
    decide
  refine ⟨hctrl, fun h => ?_⟩
  have hburst := h.maxBurst
  rw [hctrl] at hburst
  exact absurd hburst (by decide)

end Rpi5Uefi
