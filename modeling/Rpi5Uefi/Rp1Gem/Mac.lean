import Rpi5Uefi.Rp1Gem.Device

/-!
# The MAC of the RP1 GEM (`GemHw.c`)

Reset, configuration, the initial rings, the station address, the receive filters and the link
speed, each register write in the order of the source. `DEBUG` output and memory fences have no
effect here.
-/

namespace Rpi5Uefi

/-- `GemNetCfgBase`. -/
def gemNetCfgBase (gem : Gem) : UInt32 :=
  let dbw := gemRead32 gem gemDesignCfg1 &&& gemDesignCfg1DbwMask
  let netCfg :=
    if dbw = gemDesignCfg1Dbw64 then gemNetCfgDbusWidth64
    else if dbw = gemDesignCfg1Dbw128 then gemNetCfgDbusWidth128
    else gemNetCfgDbusWidth32
  netCfg ||| gemNetCfgMdcClkDiv96

/-- `GemMacReset`. -/
def gemMacReset (gem : Gem) : Gem :=
  let gem := gemWrite32 gem gemNetCtrl 0
  let gem := gemWrite32 gem gemNetCfg (gemNetCfgBase gem)
  let gem := gemWrite32 gem gemUserIo gemUserIoRgmii
  let gem := gemWrite32 gem gemNetCtrl gemNetCtrlClrStatRegs
  let gem := gemWrite32 gem gemTxStat gemTxStatAll
  let gem := gemWrite32 gem gemRxStat gemRxStatAll
  let gem := gemWrite32 gem gemIntrDis gemIntrAll
  let gem := gemWrite32 gem gemHashBot 0
  let gem := gemWrite32 gem gemHashTop 0
  let gem := gemWrite32 gem gemTxQbar 0
  let gem := gemWrite32 gem gemRxQbar 0
  let gem := gemWrite32 gem gemTxQbarHi 0
  let gem := gemWrite32 gem gemRxQbarHi 0
  gemWrite32 gem gemNetCtrl gemNetCtrlMgmtPortEn

/-! ## The rings -/

/-- The descriptor `GemInitRings` writes at an index of the RX ring. -/
def rxDescInit (gem : Gem) (index : Nat) : GemDmaDesc :=
  let bufAddr := gem.rxBuffers + index * gemRxBufferSize
  { addr := UInt32.ofNat bufAddr |||
      (if index = gemRxDescCount - 1 then gemRxDescAddrWrap else 0)
    ctrl := 0
    addrHi := UInt32.ofNat (bufAddr >>> 32) }

/-- The descriptor `GemInitRings` writes at an index of the TX ring. -/
def txDescInit (gem : Gem) (index : Nat) : GemDmaDesc :=
  let bufAddr := gem.txBuffers + index * gemTxBufferSize
  { addr := UInt32.ofNat bufAddr
    ctrl := gemTxDescCtrlUsed |||
      (if index = gemTxDescCount - 1 then gemTxDescCtrlWrap else 0)
    addrHi := UInt32.ofNat (bufAddr >>> 32) }

/-- `sizeof (GEM_DMA_DESC)`. -/
def gemDmaDescSize : Nat := 16

/-- `Gem->TxRing`. -/
def Gem.txRingAddr (gem : Gem) : Nat := gem.descBuffer + gemRxDescCount * gemDmaDescSize

/-- `Gem->NullRxDesc`. -/
def Gem.nullRxDescAddr (gem : Gem) : Nat := gem.txRingAddr + gemTxDescCount * gemDmaDescSize

/-- `Gem->NullTxDesc`. -/
def Gem.nullTxDescAddr (gem : Gem) : Nat := gem.nullRxDescAddr + gemDmaDescSize

/-- Park one priority queue on the null descriptors. -/
def parkQueue (queueMask : UInt32) (gem : Gem) (queue : Nat) : Gem :=
  if queueMask &&& (1 <<< UInt32.ofNat queue) = 0 then gem
  else
    let gem := gemWrite32 gem (gemRxQnBar queue) (UInt32.ofNat gem.nullRxDescAddr)
    gemWrite32 gem (gemTxQnBar queue) (UInt32.ofNat gem.nullTxDescAddr)

/-- `GemInitRings`. -/
def gemInitRings (gem : Gem) : Gem :=
  let gem := { gem with
    rxRing := fun index => if index < gemRxDescCount then rxDescInit gem index else gem.rxRing index
    txRing := fun index => if index < gemTxDescCount then txDescInit gem index else gem.txRing index
    txUserBuffer := fun index =>
      if index < gemTxDescCount then none else gem.txUserBuffer index
    nullRxDesc := ⟨gemRxDescAddrOwn ||| gemRxDescAddrWrap, 0, 0⟩
    nullTxDesc := ⟨0, gemTxDescCtrlUsed ||| gemTxDescCtrlWrap, 0⟩ }
  let gem := gemWrite32 gem gemRxQbar (UInt32.ofNat gem.descBuffer)
  let gem := gemWrite32 gem gemRxQbarHi (UInt32.ofNat (gem.descBuffer >>> 32))
  let gem := gemWrite32 gem gemTxQbar (UInt32.ofNat gem.txRingAddr)
  let gem := gemWrite32 gem gemTxQbarHi (UInt32.ofNat (gem.txRingAddr >>> 32))
  let queueMask := gemRead32 gem gemDesignCfg6 &&& gemDesignCfg6PrioQMask
  let gem := (List.range' 1 15).foldl (parkQueue queueMask) gem
  { gem with rxHead := 0, txProd := 0, txCons := 0 }

/-! ## Addresses, filters, speed -/

/-- The value `GemSetMacAddress` writes to the low register. -/
def macAddressLow (a : EfiMacAddress) : UInt32 :=
  (a[3].toUInt32 <<< 24) ||| (a[2].toUInt32 <<< 16) ||| (a[1].toUInt32 <<< 8) ||| a[0].toUInt32

/-- The value `GemSetMacAddress` writes to the high register. -/
def macAddressHi (a : EfiMacAddress) : UInt32 :=
  (a[5].toUInt32 <<< 8) ||| a[4].toUInt32

/-- `GemSetMacAddress`. -/
def gemSetMacAddress (gem : Gem) (macAddress : EfiMacAddress) : Gem :=
  let gem := gemWrite32 gem gemSpecAddrLow (macAddressLow macAddress)
  gemWrite32 gem gemSpecAddrHi (macAddressHi macAddress)

/-- The bits of `NET_CFG` `GemSetReceiveFilters` clears first. -/
def gemNetCfgFilterMask : UInt32 :=
  gemNetCfgCopyAll ||| gemNetCfgNoBcast ||| gemNetCfgMultiHashEn ||| gemNetCfgUniHashEn

/-- A test of one or more filter bits. -/
def filterSet (filters mask : UInt32) : Bool := filters &&& mask != 0

/-- The filter bits `GemSetReceiveFilters` sets in `NET_CFG`. -/
def netCfgFilterBits (filters : UInt32) : UInt32 :=
  if filterSet filters efiSimpleNetworkReceivePromiscuous then gemNetCfgCopyAll
  else
    (if filterSet filters efiSimpleNetworkReceiveBroadcast then 0 else gemNetCfgNoBcast) |||
    (if filterSet filters (efiSimpleNetworkReceiveMulticast |||
        efiSimpleNetworkReceivePromiscuousMulticast) then gemNetCfgMultiHashEn else 0)

/-- The hash `GemSetReceiveFilters` programs. -/
def filterHash (filters : UInt32) : UInt32 :=
  if filterSet filters efiSimpleNetworkReceivePromiscuous then 0
  else if filterSet filters (efiSimpleNetworkReceiveMulticast |||
      efiSimpleNetworkReceivePromiscuousMulticast) then 0xFFFFFFFF
  else 0

/-- The filters for which `GemSetReceiveFilters` programs the station address. -/
def stationFilters : UInt32 :=
  efiSimpleNetworkReceiveUnicast ||| efiSimpleNetworkReceivePromiscuous

/-- `GemSetReceiveFilters`. -/
def gemSetReceiveFilters (gem : Gem) (filters : UInt32) : Gem :=
  let netCfg := (gemRead32 gem gemNetCfg &&& ~~~gemNetCfgFilterMask) ||| netCfgFilterBits filters
  let gem := gemWrite32 gem gemHashBot (filterHash filters)
  let gem := gemWrite32 gem gemHashTop (filterHash filters)
  let gem := gemWrite32 gem gemNetCfg netCfg
  if filterSet filters stationFilters then gemSetMacAddress gem gem.mode.currentAddress
  else
    let gem := gemWrite32 gem gemSpecAddrLow 0
    gemWrite32 gem gemSpecAddrHi 0

/-- The bits of `NET_CFG` `GemUpdateLinkSpeed` changes. -/
def gemNetCfgLinkMask : UInt32 :=
  gemNetCfgSpeed100 ||| gemNetCfgGigeEn ||| gemNetCfgFullDuplex

/-- The bits `GemUpdateLinkSpeed` sets. -/
def netCfgLinkBits (speedMbps : Nat) (fullDuplex : Bool) : UInt32 :=
  (if speedMbps = 1000 then gemNetCfgGigeEn
    else if speedMbps = 100 then gemNetCfgSpeed100 else 0) |||
  (if fullDuplex then gemNetCfgFullDuplex else 0)

/-- `GemUpdateLinkSpeed`. -/
def gemUpdateLinkSpeed (gem : Gem) (speedMbps : Nat) (fullDuplex : Bool) : Gem :=
  gemWrite32 gem gemNetCfg
    ((gemRead32 gem gemNetCfg &&& ~~~gemNetCfgLinkMask) ||| netCfgLinkBits speedMbps fullDuplex)

/-- `GemMacConfigure`. -/
def gemMacConfigure (gem : Gem) : Gem :=
  let amp := (gemRead32 gem gemAmp &&& ~~~(gemAmpAr2rMaxPipeMask ||| gemAmpAw2wMaxPipeMask)) |||
    (0x8 ||| 0x800 ||| gemAmpAw2bFill)
  let gem := gemWrite32 gem gemAmp amp
  let netCfg := gemNetCfgBase gem ||| gemNetCfgFcsRemove ||| gemNetCfgPauseEn |||
    gemNetCfg1536RxEn ||| gemNetCfgFullDuplex ||| gemNetCfgGigeEn
  let gem := gemWrite32 gem gemNetCfg netCfg
  let dmaCfg := gemDmaCfgAddrBus64 ||| gemDmaCfgDiscWhenNoAhb |||
    gemDmaCfgRxBufSize gemRxBufferSize ||| gemDmaCfgRxPktbufFull ||| gemDmaCfgTxPktbufFull |||
    gemDmaCfgAhbBurstLen16
  let gem := gemWrite32 gem gemDmaCfg dmaCfg
  let gem := gemInitRings gem
  let gem := gemSetMacAddress gem gem.mode.currentAddress
  gemSetReceiveFilters gem gem.mode.receiveFilterSetting

/-- `GemMacEnableTxRx`. -/
def gemMacEnableTxRx (gem : Gem) : Gem :=
  mmioOr32 gem gemNetCtrl (gemNetCtrlRxEn ||| gemNetCtrlTxEn)

/-- `GemMacDisableTxRx`. -/
def gemMacDisableTxRx (gem : Gem) : Gem :=
  mmioAnd32 gem gemNetCtrl (~~~(gemNetCtrlRxEn ||| gemNetCtrlTxEn))

end Rpi5Uefi
