import Rpi5Uefi.Rp1Gem.Phy

/-!
# The mode of the link (`Phy.c`, `GemHw.c`)

What both ends of the link advertise, the mode they have in common, and what one poll of the PHY
makes of it.

* **`negotiated_highest`**: from registers that hold what `Rp1GemPhyAutoNegotiate` writes, the
  driver computes the highest common mode;
* **`updateConfig_outcome`**: the courses a poll can take;
* **`poll_lastRead`**: which register each access of a poll reads.
-/

namespace Rpi5Uefi

open Frame

/-! ## Modes -/

/-- The modes of the link, highest first. -/
inductive LinkMode where
  | full1000
  | full100
  | half100
  | full10
  | half10
  deriving DecidableEq, Repr

def linkModes : List LinkMode := [.full1000, .full100, .half100, .full10, .half10]

def LinkMode.speedMbps : LinkMode → Nat
  | .full1000 => 1000
  | .full100 | .half100 => 100
  | .full10 | .half10 => 10

def LinkMode.fullDuplex : LinkMode → Bool
  | .full1000 | .full100 | .full10 => true
  | .half100 | .half10 => false

/-- The speed and duplex bits of `NET_CFG` for a mode. -/
def LinkMode.netCfgBits (mode : LinkMode) : UInt32 :=
  netCfgLinkBits mode.speedMbps mode.fullDuplex

/-- The modes advertised by the two registers, in the layout of `GBCR` and `ANAR`. -/
def advertises (gbcr anar : UInt16) : LinkMode → Bool
  | .full1000 => gbcr &&& phyGbcr1000BaseTFdx != 0
  | .full100 => anar &&& phyAnar100BaseTxFdx != 0
  | .half100 => anar &&& phyAnar100BaseTx != 0
  | .full10 => anar &&& phyAnar10BaseTFdx != 0
  | .half10 => anar &&& phyAnar10BaseT != 0

/-- What the link partner advertises, as `GBSR` and `ANLPAR` show it. -/
structure LinkPartner where
  gbsr : UInt16
  anlpar : UInt16
  deriving DecidableEq, Repr

/-- The abilities of the partner at 1000 Mbps sit two bits above the advertisement bits. -/
def LinkPartner.modes (partner : LinkPartner) : LinkMode → Bool :=
  advertises (partner.gbsr >>> 2) partner.anlpar

/-- What `Rp1GemPhyAutoNegotiate` writes to `ANAR` after reading it. -/
def advertisedAnar (anar : UInt16) : UInt16 :=
  anar ||| phyAnar100BaseTxFdx ||| phyAnar100BaseTx ||| phyAnar10BaseTFdx ||| phyAnar10BaseT

/-- What `Rp1GemPhyAutoNegotiate` writes to `GBCR` after reading it. -/
def advertisedGbcr (gbcr : UInt16) : UInt16 :=
  (gbcr ||| phyGbcr1000BaseTFdx) &&& ~~~phyGbcr1000BaseT

/-- What this driver advertises, whatever the registers held before. -/
def driverAdvertises : LinkMode → Bool := advertises (advertisedGbcr 0) (advertisedAnar 0)

/-- The highest mode both ends advertise. -/
def highestCommonMode (ours theirs : LinkMode → Bool) : Option LinkMode :=
  linkModes.find? fun mode => ours mode && theirs mode

/-- The writes of `Rp1GemPhyAutoNegotiate`. -/
theorem autoNegotiate_writes (mdio : Nat → Option UInt16) :
    rp1GemPhyAutoNegotiate mdio = (do
      let anar ← phyRead mdio phyAnar
      phyWrite mdio phyAnar (advertisedAnar anar)
      let gbcr ← phyRead mdio phyGbcr
      phyWrite mdio phyGbcr (advertisedGbcr gbcr)
      let bmcr ← phyRead mdio phyBmcr
      phyWrite mdio phyBmcr (bmcr ||| phyBmcrAne ||| phyBmcrRestartAn)) := rfl

/-! ## The highest common mode -/

section
variable {x m k : UInt16}

theorem or_and_of_subset (h : m &&& k = k) : (x ||| m) &&& k = k := by
  rw [← UInt16.toBitVec_inj] at h ⊢
  refine BitVec.eq_of_getLsbD_eq fun i _ => ?_
  have hbit := congrArg (fun v : BitVec 16 => v.getLsbD i) h
  simp only [UInt16.toBitVec_and, UInt16.toBitVec_or, BitVec.getLsbD_and,
    BitVec.getLsbD_or] at hbit ⊢
  cases hk : k.toBitVec.getLsbD i <;> rw [hk] at hbit <;> simp_all

theorem and_or_bne_zero (a b : UInt16) :
    (x &&& (a ||| b) != 0) = ((x &&& a != 0) || (x &&& b != 0)) := by
  have hsplit : x &&& (a ||| b) = (x &&& a) ||| (x &&& b) := by
    rw [← UInt16.toBitVec_inj]
    refine BitVec.eq_of_getLsbD_eq fun i _ => ?_
    simp only [UInt16.toBitVec_and, UInt16.toBitVec_or, BitVec.getLsbD_and, BitVec.getLsbD_or]
    cases x.toBitVec.getLsbD i <;> simp
  rw [hsplit, Bool.eq_iff_iff, Bool.or_eq_true]
  simp only [bne_iff_ne, ne_eq, UInt16.or_eq_zero_iff, not_and_or]

end

/-- `ANAR` after the write, in a field of the modes it advertises. -/
theorem advertisedAnar_and (anar : UInt16) {k : UInt16}
    (hk : (phyAnar100BaseTxFdx ||| (phyAnar100BaseTx ||| (phyAnar10BaseTFdx ||| phyAnar10BaseT)))
      &&& k = k) : advertisedAnar anar &&& k = k := by
  unfold advertisedAnar
  rw [UInt16.or_assoc, UInt16.or_assoc, UInt16.or_assoc]
  exact or_and_of_subset hk

/-- `GBCR` after the write advertises full duplex at 1000 Mbps, and not half duplex. -/
theorem advertisedGbcr_and (gbcr : UInt16) {k : UInt16}
    (hk : ~~~phyGbcr1000BaseT &&& k = phyGbcr1000BaseTFdx) :
    advertisedGbcr gbcr &&& k = phyGbcr1000BaseTFdx := by
  unfold advertisedGbcr
  rw [UInt16.and_assoc, hk]
  exact or_and_of_subset (by decide)

/-- Every mode is advertised, whatever the registers held. -/
theorem advertises_all (gbcr anar : UInt16) (mode : LinkMode) :
    advertises (advertisedGbcr gbcr) (advertisedAnar anar) mode = true := by
  have hanar : ∀ k : UInt16, k ≠ 0 → (phyAnar100BaseTxFdx ||| (phyAnar100BaseTx |||
      (phyAnar10BaseTFdx ||| phyAnar10BaseT))) &&& k = k →
      (advertisedAnar anar &&& k != 0) = true := by
    intro k hk hsub
    rw [advertisedAnar_and anar hsub]
    exact bne_iff_ne.mpr hk
  cases mode with
  | full1000 =>
    show (advertisedGbcr gbcr &&& phyGbcr1000BaseTFdx != 0) = true
    rw [advertisedGbcr_and gbcr (by decide)]
    decide
  | full100 => exact hanar _ (by decide) (by decide)
  | half100 => exact hanar _ (by decide) (by decide)
  | full10 => exact hanar _ (by decide) (by decide)
  | half10 => exact hanar _ (by decide) (by decide)

/-- The end of `Rp1GemPhyGetConfig`. -/
def negotiated (gbcr gbsr anar anlpar : UInt16) : Nat × Bool :=
  let gb := (gbsr >>> 2) &&& gbcr
  let an := anlpar &&& anar
  if gb &&& (phyGbcr1000BaseTFdx ||| phyGbcr1000BaseT) != 0 then
    (1000, gb &&& phyGbcr1000BaseTFdx != 0)
  else if an &&& (phyAnar100BaseTxFdx ||| phyAnar100BaseTx) != 0 then
    (100, an &&& phyAnar100BaseTxFdx != 0)
  else (10, an &&& phyAnar10BaseTFdx != 0)

/-- The reads of `Rp1GemPhyGetConfig`. -/
theorem getConfig_eq (mdio : Nat → Option UInt16) :
    rp1GemPhyGetConfig mdio = (do
      let gbcr ← phyRead mdio phyGbcr
      let gbsr ← phyRead mdio phyGbsr
      let anar ← phyRead mdio phyAnar
      let anlpar ← phyRead mdio phyAnlpar
      pure (negotiated gbcr gbsr anar anlpar)) := rfl

/-- **The driver computes the highest common mode**, from registers that hold what it wrote. -/
theorem negotiated_highest (gbcr anar : UInt16) (partner : LinkPartner) {mode : LinkMode}
    (h : highestCommonMode driverAdvertises partner.modes = some mode) :
    negotiated (advertisedGbcr gbcr) partner.gbsr (advertisedAnar anar) partner.anlpar =
      (mode.speedMbps, mode.fullDuplex) := by
  -- what the driver advertises drops out of each test
  have hgb : ∀ k : UInt16, ~~~phyGbcr1000BaseT &&& k = phyGbcr1000BaseTFdx →
      ((partner.gbsr >>> 2) &&& advertisedGbcr gbcr) &&& k =
        (partner.gbsr >>> 2) &&& phyGbcr1000BaseTFdx := by
    intro k hk
    rw [UInt16.and_assoc, advertisedGbcr_and gbcr hk]
  have han : ∀ k : UInt16, (phyAnar100BaseTxFdx ||| (phyAnar100BaseTx |||
      (phyAnar10BaseTFdx ||| phyAnar10BaseT))) &&& k = k →
      (partner.anlpar &&& advertisedAnar anar) &&& k = partner.anlpar &&& k := by
    intro k hk
    rw [UInt16.and_assoc, advertisedAnar_and anar hk]
  have hmode : (linkModes.find? partner.modes) = some mode := by
    rw [← h]
    refine congrArg (List.find? · linkModes) (funext fun mode => ?_)
    rw [driverAdvertises, advertises_all 0 0 mode, Bool.true_and]
  unfold negotiated
  simp only
  rw [hgb _ (by decide), hgb _ (by decide), han _ (by decide), han _ (by decide),
    han _ (by decide), and_or_bne_zero]
  revert hmode
  unfold linkModes LinkPartner.modes advertises
  generalize (partner.gbsr >>> 2 &&& phyGbcr1000BaseTFdx != 0) = full1000
  generalize (partner.anlpar &&& phyAnar100BaseTxFdx != 0) = full100
  generalize (partner.anlpar &&& phyAnar100BaseTx != 0) = half100
  generalize (partner.anlpar &&& phyAnar10BaseTFdx != 0) = full10
  generalize (partner.anlpar &&& phyAnar10BaseT != 0) = half10
  clear h
  -- for each mode, five flags decide it
  cases mode <;> revert full1000 full100 half100 full10 half10 <;> decide

/-! ## One poll -/

/-- The controller after an access. -/
def PhyIo.accessed (io : PhyIo) (command : UInt32) : PhyIo :=
  ⟨gemWrite32 (mmioOr32 io.gem gemNetCtrl gemNetCtrlMgmtPortEn) gemPhyMaint command, io.ops + 1⟩

/-- The command of a read at `Gem->PhyAddr`. -/
def PhyIo.readCommand (io : PhyIo) (reg : UInt8) : UInt32 :=
  phyMaintCommand gemPhyMaintOpRead io.gem.phyAddr reg 0

section
variable {mdio : Nat → Option UInt16} {io io' : PhyIo} {α : Type}

@[simp] theorem accessed_ops (io : PhyIo) (command : UInt32) :
    (io.accessed command).ops = io.ops + 1 := rfl

/-- A read, and what follows. -/
theorem phyRead_bind (reg : UInt8) (f : UInt16 → PhyM α) (io : PhyIo) :
    (phyRead mdio reg >>= f) io =
      match mdio io.ops with
      | some data => f data (io.accessed (io.readCommand reg))
      | none => .error .timeout (io.accessed (io.readCommand reg)) := by
  show EStateM.bind (phyRead mdio reg) f io = _
  unfold EStateM.bind
  have hread : phyRead mdio reg io =
      gemMdioAccess mdio (io.readCommand reg) io := rfl
  rw [hread]
  unfold gemMdioAccess
  cases mdio io.ops <;> rfl

/-- The link state and the mode of the MAC are as before. -/
structure LinkUntouched (io io' : PhyIo) : Prop where
  linkUp : io'.gem.linkUp = io.gem.linkUp
  netCfg : io'.gem.regs gemNetCfg = io.gem.regs gemNetCfg

instance : Std.Refl LinkUntouched := ⟨fun _ => ⟨rfl, rfl⟩⟩

instance : IsTrans PhyIo LinkUntouched :=
  ⟨fun _ _ _ hab hbc => ⟨hbc.linkUp.trans hab.linkUp, hbc.netCfg.trans hab.netCfg⟩⟩

theorem linkUntouched_accessed (io : PhyIo) (command : UInt32) :
    LinkUntouched io (io.accessed command) := by
  refine ⟨rfl, ?_⟩
  unfold PhyIo.accessed mmioOr32
  rw [gemWrite32_regs, if_neg (by decide), gemWrite32_regs, if_neg (by decide)]

theorem accessible_linkUntouched (mdio : Nat → Option UInt16) :
    Accessible mdio LinkUntouched := by
  refine ⟨fun command io => ?_, fun io phyAddr => ⟨rfl, rfl⟩⟩
  have hkept := linkUntouched_accessed io command
  unfold after gemMdioAccess
  cases mdio io.ops with
  | some data => exact hkept
  | none => exact hkept

/-- **`Rp1GemPhyInit` takes the link for down**, whether it succeeds or not. -/
theorem phyInit_linkUp (mdio : Nat → Option UInt16) (io : PhyIo) :
    (after (rp1GemPhyInit mdio) io).gem.linkUp = false :=
  ((accessible_linkUntouched mdio).phyInitAccesses
    { io with gem := { io.gem with linkUp := false } }).linkUp

/-- What one poll does, by what the PHY answers. -/
inductive PollOutcome (mdio : Nat → Option UInt16) (io : PhyIo) :
    EStateM.Result EfiStatus PhyIo Unit → Prop where
  | unanswered {io' : PhyIo} {status : EfiStatus} (hnone : mdio io.ops = none)
      (hlink : LinkUntouched io io') : PollOutcome mdio io (.error status io')
  | down {io' : PhyIo} {status : EfiStatus} {bmsr : UInt16} (hbmsr : mdio io.ops = some bmsr)
      (hdown : bmsrLinkUp bmsr = false) (hlinkUp : io'.gem.linkUp = false) :
      PollOutcome mdio io (.error status io')
  | unresolved {io' : PhyIo} {status : EfiStatus} {bmsr : UInt16} (hbmsr : mdio io.ops = some bmsr)
      (hup : bmsrLinkUp bmsr = true) (hlinkUp : io'.gem.linkUp = false) :
      PollOutcome mdio io (.error status io')
  | still {io' : PhyIo} {bmsr : UInt16} (hbmsr : mdio io.ops = some bmsr)
      (hup : bmsrLinkUp bmsr = true) (hwas : io.gem.linkUp = true) (hlink : LinkUntouched io io') :
      PollOutcome mdio io (.ok () io')
  | resolved {io' : PhyIo} {bmsr gbcr gbsr anar anlpar : UInt16} (hbmsr : mdio io.ops = some bmsr)
      (hup : bmsrLinkUp bmsr = true) (hwas : io.gem.linkUp = false)
      (hgbcr : mdio (io.ops + 1) = some gbcr) (hgbsr : mdio (io.ops + 2) = some gbsr)
      (hanar : mdio (io.ops + 3) = some anar) (hanlpar : mdio (io.ops + 4) = some anlpar)
      (hops : io'.ops = io.ops + 5) (hlinkUp : io'.gem.linkUp = true)
      (hcfg : io'.gem.regs gemNetCfg = (io.gem.regs gemNetCfg &&& ~~~gemNetCfgLinkMask) |||
        netCfgLinkBits (negotiated gbcr gbsr anar anlpar).1 (negotiated gbcr gbsr anar anlpar).2) :
      PollOutcome mdio io (.ok () io')

/-- The reads of `Rp1GemPhyGetConfig` return with four answers, or fail. -/
theorem getConfig_cases (mdio : Nat → Option UInt16) (io : PhyIo) :
    (∃ status io', rp1GemPhyGetConfig mdio io = .error status io' ∧ LinkUntouched io io') ∨
      ∃ gbcr gbsr anar anlpar io',
        mdio io.ops = some gbcr ∧ mdio (io.ops + 1) = some gbsr ∧
        mdio (io.ops + 2) = some anar ∧ mdio (io.ops + 3) = some anlpar ∧
        rp1GemPhyGetConfig mdio io = .ok (negotiated gbcr gbsr anar anlpar) io' ∧
        io'.ops = io.ops + 4 ∧ LinkUntouched io io' := by
  have hwithin := (accessible_linkUntouched mdio).phyGetConfig io
  unfold after at hwithin
  rw [getConfig_eq] at hwithin ⊢
  simp only [phyRead_bind, accessed_ops] at hwithin ⊢
  -- the routine ends at the first read without an answer
  cases hgbcr : mdio io.ops with
  | none =>
    rw [hgbcr] at hwithin
    exact .inl ⟨_, _, rfl, hwithin⟩
  | some gbcr =>
    cases hgbsr : mdio (io.ops + 1) with
    | none =>
      simp only [hgbcr, hgbsr] at hwithin
      exact .inl ⟨_, _, rfl, hwithin⟩
    | some gbsr =>
      cases hanar : mdio (io.ops + 1 + 1) with
      | none =>
        simp only [hgbcr, hgbsr, hanar] at hwithin
        exact .inl ⟨_, _, rfl, hwithin⟩
      | some anar =>
        cases hanlpar : mdio (io.ops + 1 + 1 + 1) with
        | none =>
          simp only [hgbcr, hgbsr, hanar, hanlpar] at hwithin
          exact .inl ⟨_, _, rfl, hwithin⟩
        | some anlpar =>
          simp only [hgbcr, hgbsr, hanar, hanlpar] at hwithin
          exact .inr ⟨gbcr, gbsr, anar, anlpar, _, rfl, rfl, rfl, rfl, rfl, rfl, hwithin⟩

/-- A link that is down is taken for down. -/
theorem linkChange_down (mdio : Nat → Option UInt16) (io : PhyIo) :
    phyLinkChange mdio false io = .ok () { io with gem := { io.gem with linkUp := false } } := by
  show (if io.gem.linkUp = false then pure () else _ : PhyM Unit) io = _
  split
  · rename_i hdown
    rw [← hdown]
    rfl
  · rfl

/-- A link that was up already changes nothing. -/
theorem linkChange_still {io : PhyIo} (h : io.gem.linkUp = true) :
    phyLinkChange mdio true io = .ok () io := by
  show (if io.gem.linkUp = true then pure () else _ : PhyM Unit) io = _
  rw [if_pos h]
  rfl

/-- A link that comes up is resolved, and the MAC set to its mode. -/
theorem linkChange_up {io : PhyIo} (h : io.gem.linkUp = false) :
    phyLinkChange mdio true io =
      match rp1GemPhyGetConfig mdio io with
      | .ok config io' =>
        .ok () { io' with gem :=
          { gemUpdateLinkSpeed io'.gem config.1 config.2 with linkUp := true } }
      | .error status io' => .error status io' := by
  show (if io.gem.linkUp = true then pure () else _ : PhyM Unit) io = _
  rw [if_neg (by rw [h]; exact Bool.false_ne_true)]
  show EStateM.bind (EStateM.bind (rp1GemPhyGetConfig mdio) _) _ io = _
  unfold EStateM.bind
  cases rp1GemPhyGetConfig mdio io <;> rfl

/-- A poll reads the status first. -/
theorem updateConfig_eq (mdio : Nat → Option UInt16) (io : PhyIo) :
    rp1GemPhyUpdateConfig mdio io =
      match mdio io.ops with
      | none => .error .timeout (io.accessed (io.readCommand phyBmsr))
      | some bmsr =>
        match phyLinkChange mdio (bmsrLinkUp bmsr) (io.accessed (io.readCommand phyBmsr)) with
        | .ok _ io' => if bmsrLinkUp bmsr then .ok () io' else .error .notReady io'
        | .error status io' => .error status io' := by
  unfold rp1GemPhyUpdateConfig
  rw [phyRead_bind]
  cases mdio io.ops with
  | none => rfl
  | some bmsr =>
    show EStateM.bind (phyLinkChange mdio (bmsrLinkUp bmsr)) _ _ = _
    unfold EStateM.bind
    simp only
    cases phyLinkChange mdio (bmsrLinkUp bmsr) (io.accessed (io.readCommand phyBmsr)) with
    | error status io' => rfl
    | ok _ io' => cases bmsrLinkUp bmsr <;> rfl

/-- **The outcome of a poll.** -/
theorem updateConfig_outcome (mdio : Nat → Option UInt16) (io : PhyIo) :
    PollOutcome mdio io (rp1GemPhyUpdateConfig mdio io) := by
  rw [updateConfig_eq]
  have htouch := linkUntouched_accessed io (io.readCommand phyBmsr)
  have hops : (io.accessed (io.readCommand phyBmsr)).ops = io.ops + 1 := rfl
  generalize io.accessed (io.readCommand phyBmsr) = io1 at htouch hops
  cases hbmsr : mdio io.ops with
  | none => exact .unanswered hbmsr htouch
  | some bmsr =>
    simp only
    cases hup : bmsrLinkUp bmsr with
    | false =>
      rw [linkChange_down]
      exact .down hbmsr hup rfl
    | true =>
      cases hwas : io1.gem.linkUp with
      | true =>
        rw [linkChange_still hwas]
        exact .still hbmsr hup (htouch.linkUp ▸ hwas) htouch
      | false =>
        rw [linkChange_up hwas]
        obtain ⟨status, io', hget, hkept⟩ |
          ⟨gbcr, gbsr, anar, anlpar, io', hgbcr, hgbsr, hanar, hanlpar, hget, hio', hkept⟩ :=
          getConfig_cases mdio io1
        · rw [hget]
          exact .unresolved hbmsr hup (hkept.linkUp.trans hwas)
        · rw [hget]
          rw [hops] at hgbcr hgbsr hanar hanlpar hio'
          refine .resolved hbmsr hup (htouch.linkUp ▸ hwas) hgbcr hgbsr hanar hanlpar hio' rfl ?_
          show (gemUpdateLinkSpeed io'.gem _ _).regs gemNetCfg = _
          unfold gemUpdateLinkSpeed gemRead32
          rw [gemWrite32_regs, if_pos rfl, hkept.netCfg, htouch.netCfg]

/-! ## Which access is which register -/

/-- The registers of `Rp1GemPhyGetConfig`, in the order of its reads. -/
def configRegisters : List UInt8 := [phyGbcr, phyGbsr, phyAnar, phyAnlpar]

/-- The registers a poll reads, as far as it gets. -/
def pollRegisters : List UInt8 := phyBmsr :: configRegisters

/-- The last access was the read of a register from the list, after those before it. -/
def LastRead (registers : List UInt8) (io io' : PhyIo) : Prop :=
  ∃ k reg, registers[k]? = some reg ∧ io'.ops = io.ops + k + 1 ∧
    io'.gem.regs gemPhyMaint = io.readCommand reg

@[simp] theorem accessed_readCommand (io : PhyIo) (command : UInt32) (reg : UInt8) :
    (io.accessed command).readCommand reg = io.readCommand reg := rfl

theorem accessed_maint (io : PhyIo) (command : UInt32) :
    (io.accessed command).gem.regs gemPhyMaint = command := by
  unfold PhyIo.accessed
  rw [gemWrite32_regs, if_pos rfl]

theorem getConfig_lastRead (mdio : Nat → Option UInt16) (io : PhyIo) :
    LastRead configRegisters io (after (rp1GemPhyGetConfig mdio) io) := by
  unfold after
  rw [getConfig_eq]
  simp only [phyRead_bind, accessed_ops, accessed_readCommand]
  -- wherever it ends, the command is the last one written
  cases mdio io.ops with
  | none => exact ⟨0, phyGbcr, rfl, rfl, accessed_maint _ _⟩
  | some gbcr =>
    cases mdio (io.ops + 1) with
    | none => exact ⟨1, phyGbsr, rfl, rfl, accessed_maint _ _⟩
    | some gbsr =>
      cases mdio (io.ops + 1 + 1) with
      | none => exact ⟨2, phyAnar, rfl, rfl, accessed_maint _ _⟩
      | some anar =>
        cases mdio (io.ops + 1 + 1 + 1) with
        | none => exact ⟨3, phyAnlpar, rfl, rfl, accessed_maint _ _⟩
        | some anlpar => exact ⟨3, phyAnlpar, rfl, rfl, accessed_maint _ _⟩

/-- **The accesses of a poll.** Where it ends, it has read the registers of the list up to there. -/
theorem poll_lastRead (mdio : Nat → Option UInt16) (io : PhyIo) :
    LastRead pollRegisters io (after (rp1GemPhyUpdateConfig mdio) io) := by
  have hfirst : ∀ io', io'.ops = io.ops + 1 →
      io'.gem.regs gemPhyMaint = io.readCommand phyBmsr → LastRead pollRegisters io io' :=
    fun io' hops hmaint => ⟨0, phyBmsr, rfl, hops, hmaint⟩
  have hops : (io.accessed (io.readCommand phyBmsr)).ops = io.ops + 1 := rfl
  have hmaint := accessed_maint io (io.readCommand phyBmsr)
  have hread := fun reg => accessed_readCommand io (io.readCommand phyBmsr) reg
  unfold after
  rw [updateConfig_eq]
  generalize io.accessed (io.readCommand phyBmsr) = io1 at hops hmaint hread
  cases mdio io.ops with
  | none => exact hfirst _ hops hmaint
  | some bmsr =>
    simp only
    cases bmsrLinkUp bmsr with
    | false =>
      rw [linkChange_down]
      exact hfirst _ hops hmaint
    | true =>
      cases hwas : io1.gem.linkUp with
      | true =>
        rw [linkChange_still hwas]
        exact hfirst _ hops hmaint
      | false =>
        rw [linkChange_up hwas]
        obtain ⟨k, reg, hreg, hk, hlast⟩ := getConfig_lastRead mdio io1
        rw [hops, Nat.add_right_comm io.ops 1 k] at hk
        rw [hread] at hlast
        unfold after at hk hlast
        cases hget : rp1GemPhyGetConfig mdio io1 with
        | error status io' =>
          rw [hget] at hk hlast
          exact ⟨k + 1, reg, hreg, hk, hlast⟩
        | ok config io' =>
          rw [hget] at hk hlast
          refine ⟨k + 1, reg, hreg, hk, ?_⟩
          show (gemUpdateLinkSpeed io'.gem config.1 config.2).regs gemPhyMaint = _
          unfold gemUpdateLinkSpeed
          rw [gemWrite32_regs, if_neg (by decide)]
          exact hlast

end

end Rpi5Uefi
