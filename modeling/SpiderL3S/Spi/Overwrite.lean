import SpiderL3S.Spi.MissedEdge
import SpiderL3S.Spi.Reply
import SpiderL3S.Unsol

/- The receive buffer holds one packet, and `usEventOrDataReceived` says that it
   does. A packet stays until it has been examined if `WLAN_INT_ENABLE` is clear as
   long as the flag is set: `SpiTriggerRxProcessing` clears the bit before it hands
   the packet over. Two things break that (`BufferFree`): `WlanInterruptEnable`
   sets the bit without looking at the flag, and a handler that main code runs has
   tested the bit before an interrupt puts a packet into the buffer. The invariant
   follows main code through the places where it may read, reads, and examines. -/
namespace SpiderL3S

open Code Runs

variable {patches : Mem → List SpiFrame}

/-! What is to be kept. -/

/-- The packets read, those the callback has taken, and those the waiting loop has
gone through. -/
structure PacketLog where
  read : Nat
  taken : Nat
  looped : Nat

def observePackets (log : PacketLog) (s : Config) (l : Label) (_ : Config) : PacketLog :=
  match l, s.todo with
  | .edge, _ =>
    if s.core.reads then
      { log with read := log.read + 1, taken := log.taken + s.core.nextReceive.2.toNat }
    else log
  | .stmt, .readHeader :: _ => { log with read := log.read + 1 }
  | .stmt, .receiveHandler :: _ => { log with taken := log.taken + s.core.receive.2.toNat }
  | .stmt, .hehRelease :: _ => { log with looped := log.looped + 1 }
  | _, _ => log

/-- A packet is in the buffer. -/
def Core.holds (c : Core) : Bool := c.sl.usEventOrDataReceived ≠ 0

/-- While a packet is in the buffer, `ENABLE` is clear and no step reads. -/
def PacketKept (patches : Mem → List SpiFrame) (s : Config) : Prop :=
  s.core.holds = true → s.core.enable = false ∧ ∀ l t, SpiStep patches s l t →
    t.core.rx = s.core.rx ∧ t.core.coming = s.core.coming

/-- Main code is in the handler: it has found `ENABLE` set and not yet marked the
state as reading. -/
def Stmt.enters : Stmt → Bool
  | irqSetProcess | irqTestPowerup | irqTestIdle | setState .readIrq => true
  | _ => false

/-- `ENABLE` is set only with no packet in the buffer, and no interrupt leaves one
there while main code enters a read. -/
def BufferFree (s : Config) : Label → Prop
  | .stmt => s.todo.head? = some .wieSetEnable → s.core.holds = false
  | .edge => s.core.reads = true → s.todo.head?.any Stmt.enters = true →
      s.core.nextReceive.2 = true
  | _ => True

/-- A statement that is no part of a read and does not examine a packet. -/
def Stmt.away : Stmt → Bool
  | irqSetProcess | irqTestPowerup | irqTestIdle | setState .readIrq | readHeader | readSync ..
  | readDataCont | receiveHandler | hehTestType | hehUnsol | hehSwitch | hehClearOpcode | hehData
  | hehRelease => false
  | _ => true

/-- A statement of the loop on the packet in the buffer, or what it may stay in for ever. -/
def Stmt.examines : Stmt → Bool
  | hehTestType | hehUnsol | hehSwitch | hehClearOpcode | hehData | hang => true
  | _ => false

/-- Main code is about to read. -/
inductive Approach : List Stmt → Prop where
  | handler : Approach [.irqSetProcess, .irqTestPowerup]
  | powerup : Approach [.irqTestPowerup]
  | idle : Approach [.irqTestIdle]
  | read : Approach spiRead

/-- The invariant, by the place in the code. -/
inductive BufferInv : Config → PacketLog → Prop where
  | away {c : Core} {todo : List Stmt} {log : PacketLog} (htodo : Only Stmt.away todo)
      (hlock : c.holds = true → c.enable = false)
      (hlog : log.read = log.taken + log.looped + c.holds.toNat) : BufferInv ⟨c, todo⟩ log
  | entering {c : Core} {code rest : List Stmt} {log : PacketLog} (hcode : Approach code)
      (hrest : Only Stmt.away rest) (hfree : c.holds = false)
      (hlog : log.read = log.taken + log.looped) : BufferInv ⟨c, code ++ rest⟩ log
  | select {c : Core} {rest : List Stmt} {log : PacketLog} (hbusy : c.busy)
      (hrest : Only Stmt.away rest) (hfree : c.holds = false)
      (hlog : log.read = log.taken + log.looped) : BufferInv ⟨c, spiRead.tail ++ rest⟩ log
  | header {c : Core} {rest : List Stmt} {log : PacketLog} (hbusy : c.busy)
      (hrest : Only Stmt.away rest) (hfree : c.holds = false)
      (hlog : log.read = log.taken + log.looped) : BufferInv ⟨c, spiRead.tail.tail ++ rest⟩ log
  | transfer {c : Core} {code rest : List Stmt} {log : PacketLog} (hbusy : c.busy)
      (hcode : Only Stmt.transfers code) (hrest : Only Stmt.away rest) (hfree : c.holds = false)
      (hlog : log.read = log.taken + log.looped + 1) :
      BufferInv ⟨c, code ++ (spiTriggerRxProcessing ++ rest)⟩ log
  | close {c : Core} {code rest : List Stmt} {log : PacketLog} (henable : c.enable = false)
      (hcode : Only Stmt.closes code) (hrest : Only Stmt.away rest) (hfree : c.holds = false)
      (hlog : log.read = log.taken + log.looped + 1) :
      BufferInv ⟨c, code ++ .receiveHandler :: rest⟩ log
  | loop {c : Core} {code rest : List Stmt} {log : PacketLog} (henable : c.enable = false)
      (hcode : Only Stmt.examines code) (hrest : Only Stmt.away rest) (hholds : c.holds = true)
      (hlog : log.read = log.taken + log.looped + 1) :
      BufferInv ⟨c, code ++ .hehRelease :: rest⟩ log

/-! One statement. -/

/-- A statement outside the reads: it leaves the buffer and the flag alone, and
goes on to a read or to an examination only through a test. -/
theorem exec_away {s : Stmt} (c : Core) (hs : s.away = true) :
    ((exec patches s c).1.rx = c.rx ∧ (exec patches s c).1.coming = c.coming ∧
        (exec patches s c).1.holds = c.holds) ∧
      ((exec patches s c).1.enable = true → c.enable = true ∨ s = .wieSetEnable) ∧
      (Only Stmt.away (exec patches s c).2 ∨
        (c.enable = true ∧ (exec patches s c).2 =
          [.irqSetProcess, .irqTestPowerup] ++ [.irqClearProcess]) ∨
        (c.holds = true ∧ (exec patches s c).1 = c ∧ (exec patches s c).2 =
          [.hehTestType] ++ .hehRelease :: (spiResumeSpi ++ [.hehPatch, .hehTestReturn]))) := by
  cases s with
  | irqTestEnable =>
    refine ⟨⟨rfl, rfl, rfl⟩, fun h => .inl h, ?_⟩
    cases hen : c.enable with
    | true => exact .inr (.inl ⟨rfl, by simp only [exec, hen, if_true]; rfl⟩)
    | false => exact .inl (by simp only [exec, hen, Bool.false_eq_true, if_false]; rfl)
  | hehTest =>
    refine ⟨⟨rfl, rfl, rfl⟩, fun h => .inl h, ?_⟩
    by_cases hflag : c.sl.usEventOrDataReceived ≠ 0
    · exact .inr (.inr ⟨decide_eq_true hflag, rfl, by simp only [exec, if_pos hflag]; rfl⟩)
    · exact .inl (by simp only [exec, if_neg hflag]; rfl)
  | hehPatch =>
    refine ⟨⟨rfl, rfl, rfl⟩, fun h => .inl h, .inl ?_⟩
    simp only [exec]
    split
    · exact Only.flatMap _ fun f => rfl
    · rfl
  | wieTestPin | wieTestMissed | irqTestWriteIrq | swTestMagic | swTestPowerup | swTestInitialized
  | swSpinInitialized | swSpinIdle | swSpinDone | swTestPin | testMagic | hehTestReturn =>
    refine ⟨⟨rfl, rfl, rfl⟩, fun h => .inl h, .inl ?_⟩
    simp only [exec]
    split <;> rfl
  | writeSync f ptr left => cases left <;> exact ⟨⟨rfl, rfl, rfl⟩, fun h => .inl h, .inl rfl⟩
  | wieSetEnable => exact ⟨⟨rfl, rfl, rfl⟩, fun _ => .inr rfl, .inl rfl⟩
  | widClearEnable => exact ⟨⟨rfl, rfl, rfl⟩, fun h => absurd h Bool.false_ne_true, .inl rfl⟩
  | hang | wieClearMissed | irqSetMissed | irqClearProcess | setState | csEnable | csDisable
  | swSetTx | waitEvent | waitData => exact ⟨⟨rfl, rfl, rfl⟩, fun h => .inl h, .inl rfl⟩
  | _ => cases hs

/-- The observer looks at three statements, and at none of a kind they are not of. -/
theorem observePackets_of_kind (kind : Stmt → Bool) {log : PacketLog} {c : Core} {s : Stmt}
    {rest : List Stmt} {t : Config} (hs : kind s = true) (hread : kind .readHeader = false)
    (hcallback : kind .receiveHandler = false) (hrelease : kind .hehRelease = false) :
    observePackets log ⟨c, s :: rest⟩ .stmt t = log := by
  cases s with
  | readHeader => cases hs.symm.trans hread
  | receiveHandler => cases hs.symm.trans hcallback
  | hehRelease => cases hs.symm.trans hrelease
  | _ => rfl

theorem observePackets_approach {log : PacketLog} {c : Core} {s : Stmt} {code rest : List Stmt}
    {t : Config} (h : Approach (s :: code)) :
    observePackets log ⟨c, s :: rest⟩ .stmt t = log := by
  cases h <;> rfl

/-- The flag may change hands between two spellings of the same data. -/
theorem holds_of_flag {c c' : Core} (h : c'.sl.usEventOrDataReceived = c.sl.usEventOrDataReceived) :
    c'.holds = c.holds := by
  rw [Core.holds, Core.holds, h]

/-- With the interrupt enabled the buffer is free. -/
theorem free_of_enable {c : Core} (hlock : c.holds = true → c.enable = false)
    (hen : c.enable = true) : c.holds = false := by
  by_contra hheld
  cases hen.symm.trans (hlock (Bool.not_eq_false _ ▸ hheld))

/-- A statement of the loop on the packet in the buffer. -/
theorem exec_examines {s : Stmt} (c : Core) (hs : s.examines = true) :
    ((exec patches s c).1.rx = c.rx ∧ (exec patches s c).1.coming = c.coming ∧
        (exec patches s c).1.holds = c.holds) ∧
      (exec patches s c).1.enable = c.enable ∧ Only Stmt.examines (exec patches s c).2 := by
  cases s with
  | hehTestType =>
    refine ⟨⟨rfl, rfl, rfl⟩, rfl, ?_⟩
    simp only [exec]
    split <;> rfl
  | hehUnsol =>
    refine ⟨⟨rfl, rfl, holds_of_flag (hciUnsolEventHandler_flag _ _)⟩, rfl, ?_⟩
    exact only_hehUnsol patches c rfl
  | hehSwitch => exact ⟨⟨rfl, rfl, holds_of_flag (hciEventSwitch_flag _ _ _)⟩, rfl, rfl⟩
  | hehClearOpcode =>
    refine ⟨⟨rfl, rfl, holds_of_flag ?_⟩, rfl, rfl⟩
    simp only [exec]
    split <;> rfl
  | hehData | hang => exact ⟨⟨rfl, rfl, rfl⟩, rfl, rfl⟩
  | _ => cases hs

section
variable {c : Core} {s : Stmt} {rest : List Stmt} {log : PacketLog}

theorem away_stmt (hs : s.away = true) (hrest : Only Stmt.away rest)
    (hlock : c.holds = true → c.enable = false)
    (hlog : log.read = log.taken + log.looped + c.holds.toNat)
    (hok : s = .wieSetEnable → c.holds = false) :
    BufferInv ⟨(exec patches s c).1, (exec patches s c).2 ++ rest⟩ log := by
  obtain ⟨⟨-, -, hholds⟩, henable, hpush | ⟨hen, hpush⟩ | ⟨hheld, hsame, hpush⟩⟩ :=
    @exec_away patches s c hs
  · refine .away (hpush.append hrest) ?_ (by rw [hholds]; exact hlog)
    intro hheld
    rw [hholds] at hheld
    by_contra hset
    rcases henable (Bool.not_eq_false _ ▸ hset) with hold | hold
    · cases hold.symm.trans (hlock hheld)
    · cases hheld.symm.trans (hok hold)
  · have hfree : c.holds = false := free_of_enable hlock hen
    rw [hfree] at hlog
    rw [hpush, List.append_assoc]
    exact .entering .handler (Only.cons_iff.mpr ⟨rfl, hrest⟩) (hholds.trans hfree) hlog
  · rw [hheld] at hlog
    rw [hsame, hpush, List.append_assoc]
    exact .loop (hlock hheld) rfl (Only.append rfl hrest) hheld hlog

theorem entering_stmt {code : List Stmt} (hcode : Approach (s :: code)) (hrest : Only Stmt.away rest)
    (hfree : c.holds = false) (hlog : log.read = log.taken + log.looped) :
    BufferInv ⟨(exec patches s c).1, (exec patches s c).2 ++ (code ++ rest)⟩ log := by
  have haway : ∀ {c' : Core} {todo : List Stmt}, Only Stmt.away todo → c'.holds = false →
      BufferInv ⟨c', todo⟩ log := by
    intro c' todo htodo hfree'
    refine .away htodo (fun hheld => ?_) (by rw [hfree']; exact hlog)
    cases hheld.symm.trans hfree'
  generalize hall : s :: code = all at hcode
  cases hcode with
  | handler =>
    obtain ⟨rfl, rfl⟩ := List.cons.inj hall
    exact @BufferInv.entering _ [.irqTestPowerup] _ _ .powerup hrest hfree hlog
  | powerup =>
    obtain ⟨rfl, rfl⟩ := List.cons.inj hall
    by_cases hpow : c.ulSpiState = .powerup
    · simp only [exec, if_pos hpow]
      exact haway (Only.cons_iff.mpr ⟨rfl, hrest⟩) hfree
    · simp only [exec, if_neg hpow]
      exact .entering .idle hrest hfree hlog
  | idle =>
    obtain ⟨rfl, rfl⟩ := List.cons.inj hall
    by_cases hidle : c.ulSpiState = .idle
    · simp only [exec, if_pos hidle]
      exact .entering .read hrest hfree hlog
    · simp only [exec, if_neg hidle]
      exact haway (Only.cons_iff.mpr ⟨rfl, hrest⟩) hfree
  | read =>
    obtain ⟨rfl, rfl⟩ := List.cons.inj hall
    exact .select (.inl rfl) hrest hfree hlog

theorem transfer_stmt {code : List Stmt} (hbusy : c.busy) (hs : s.transfers = true)
    (hcode : Only Stmt.transfers code) (hrest : Only Stmt.away rest) (hfree : c.holds = false)
    (hlog : log.read = log.taken + log.looped + 1) :
    BufferInv ⟨(exec patches s c).1,
      (exec patches s c).2 ++ (code ++ (spiTriggerRxProcessing ++ rest))⟩ log := by
  obtain ⟨hsl, hbusy', hpush⟩ := @exec_transfers patches s c hs hbusy
  rw [← List.append_assoc]
  exact .transfer hbusy' (hpush.append hcode) hrest ((holds_of_flag (by rw [hsl])).trans hfree) hlog

theorem close_stmt {code : List Stmt} (henable : c.enable = false) (hs : s.closes = true)
    (hcode : Only Stmt.closes code) (hrest : Only Stmt.away rest) (hfree : c.holds = false)
    (hlog : log.read = log.taken + log.looped + 1) :
    BufferInv ⟨(exec patches s c).1,
      (exec patches s c).2 ++ (code ++ .receiveHandler :: rest)⟩ log := by
  obtain ⟨hsl, henable', hpush⟩ := @exec_closes patches s c hs henable
  rw [← List.append_assoc]
  exact .close henable' (hpush.append hcode) hrest ((holds_of_flag (by rw [hsl])).trans hfree) hlog

/-- The flag behind the callback says whether it has taken the packet. -/
theorem spiReceiveHandler_flag (sl : SLInfo) (data : Mem) :
    decide ((spiReceiveHandler sl data).1.usEventOrDataReceived ≠ 0) =
      !(spiReceiveHandler sl data).2 := by
  by_cases hevent : IsEvent data
  · rw [spiReceiveHandler_event sl hevent]
    cases (hciUnsolEventHandler { sl with usEventOrDataReceived := 1 } data).2 with
    | true => rfl
    | false => rfl
  · rw [spiReceiveHandler_other sl hevent]
    rfl

theorem receive_stmt (henable : c.enable = false) (hrest : Only Stmt.away rest)
    (hlog : log.read = log.taken + log.looped + 1) :
    BufferInv ⟨(exec patches .receiveHandler c).1, (exec patches .receiveHandler c).2 ++ rest⟩
      { log with taken := log.taken + c.receive.2.toNat } := by
  have hflag : (exec patches .receiveHandler c).1.holds = !c.receive.2 :=
    spiReceiveHandler_flag c.sl c.data
  refine .away ?_ (fun _ => henable) ?_
  · have hresume : Only Stmt.away (exec patches .receiveHandler c).2 :=
      only_receiveHandler patches c rfl
    exact hresume.append hrest
  · rw [hflag]
    cases c.receive.2 with
    | true =>
      show log.read = log.taken + 1 + log.looped + 0
      omega
    | false => exact hlog

theorem loop_stmt {code : List Stmt} (henable : c.enable = false) (hs : s.examines = true)
    (hcode : Only Stmt.examines code) (hrest : Only Stmt.away rest) (hholds : c.holds = true)
    (hlog : log.read = log.taken + log.looped + 1) :
    BufferInv ⟨(exec patches s c).1, (exec patches s c).2 ++ (code ++ .hehRelease :: rest)⟩ log := by
  obtain ⟨⟨-, -, hholds'⟩, henable', hpush⟩ := @exec_examines patches s c hs
  rw [← List.append_assoc]
  exact .loop (henable'.trans henable) (hpush.append hcode) hrest (hholds'.trans hholds) hlog

/-- Every statement keeps the invariant. -/
theorem BufferInv.stmt (h : BufferInv ⟨c, s :: rest⟩ log)
    (hok : s = .wieSetEnable → c.holds = false) (t : Config) :
    BufferInv ⟨(exec patches s c).1, (exec patches s c).2 ++ rest⟩
      (observePackets log ⟨c, s :: rest⟩ .stmt t) := by
  generalize hall : s :: rest = all at h
  cases h with
  | away htodo hlock hlog =>
    subst hall
    obtain ⟨hs, hrest⟩ := Only.cons_iff.mp htodo
    rw [observePackets_of_kind Stmt.away hs rfl rfl rfl]
    exact away_stmt hs hrest hlock hlog hok
  | @entering _ code rest' _ hcode hrest hfree hlog =>
    cases code with
    | nil => cases hcode
    | cons a code =>
      rw [List.cons_append] at hall ⊢
      obtain ⟨rfl, rfl⟩ := List.cons.inj hall
      rw [observePackets_approach hcode]
      exact entering_stmt hcode hrest hfree hlog
  | select hbusy hrest hfree hlog =>
    obtain ⟨rfl, rfl⟩ := List.cons.inj hall
    exact .header hbusy hrest hfree hlog
  | header hbusy hrest hfree hlog =>
    -- the packet counts as read from its header on
    obtain ⟨rfl, rfl⟩ := List.cons.inj hall
    exact @BufferInv.transfer _ [.readSync 0 headersSizeEvnt, .setState .readEot, .readDataCont] _ _
      hbusy rfl hrest hfree (congrArg (· + 1) hlog)
  | @transfer _ code rest' _ hbusy hcode hrest hfree hlog =>
    cases code with
    | nil =>
      -- `SpiTriggerRxProcessing` masks the interrupt before it frees the bus
      obtain ⟨rfl, rfl⟩ := List.cons.inj hall
      exact @BufferInv.close _ [.csDisable, .testMagic, .setState .idle] _ _ rfl rfl hrest hfree hlog
    | cons a code =>
      rw [List.cons_append] at hall ⊢
      obtain ⟨rfl, rfl⟩ := List.cons.inj hall
      obtain ⟨hs, hcode⟩ := Only.cons_iff.mp hcode
      rw [observePackets_of_kind Stmt.transfers hs rfl rfl rfl]
      exact transfer_stmt hbusy hs hcode hrest hfree hlog
  | @close _ code rest' _ henable hcode hrest hfree hlog =>
    cases code with
    | nil =>
      obtain ⟨rfl, rfl⟩ := List.cons.inj hall
      exact receive_stmt henable hrest hlog
    | cons a code =>
      rw [List.cons_append] at hall ⊢
      obtain ⟨rfl, rfl⟩ := List.cons.inj hall
      obtain ⟨hs, hcode⟩ := Only.cons_iff.mp hcode
      rw [observePackets_of_kind Stmt.closes hs rfl rfl rfl]
      exact close_stmt henable hs hcode hrest hfree hlog
  | @loop _ code rest' _ henable hcode hrest hholds hlog =>
    cases code with
    | nil =>
      obtain ⟨rfl, rfl⟩ := List.cons.inj hall
      exact .away hrest (fun _ => henable) (hlog.trans (Nat.add_assoc _ _ _))
    | cons a code =>
      rw [List.cons_append] at hall ⊢
      obtain ⟨rfl, rfl⟩ := List.cons.inj hall
      obtain ⟨hs, hcode⟩ := Only.cons_iff.mp hcode
      rw [observePackets_of_kind Stmt.examines hs rfl rfl rfl]
      exact loop_stmt henable hs hcode hrest hholds hlog

end

/-! One interrupt. -/

/-- What the invariant does not look at may change. -/
theorem BufferInv.congr {c c' : Core} {todo : List Stmt} {log : PacketLog}
    (h : BufferInv ⟨c, todo⟩ log) (hholds : c'.holds = c.holds) (hbusy : c.busy → c'.busy)
    (henable : c.enable = false → c'.enable = false) : BufferInv ⟨c', todo⟩ log := by
  cases h with
  | away htodo hlock hlog =>
    refine .away htodo (fun hheld => henable (hlock (hholds ▸ hheld))) ?_
    rw [hholds]
    exact hlog
  | entering hcode hrest hfree hlog => exact .entering hcode hrest (hholds.trans hfree) hlog
  | select hb hrest hfree hlog => exact .select (hbusy hb) hrest (hholds.trans hfree) hlog
  | header hb hrest hfree hlog => exact .header (hbusy hb) hrest (hholds.trans hfree) hlog
  | transfer hb hcode hrest hfree hlog =>
    exact .transfer (hbusy hb) hcode hrest (hholds.trans hfree) hlog
  | close hen hcode hrest hfree hlog =>
    exact .close (henable hen) hcode hrest (hholds.trans hfree) hlog
  | loop hen hcode hrest hheld hlog =>
    exact .loop (henable hen) hcode hrest (hholds.trans hheld) hlog

/-- An interrupt that reads a packet: the buffer was free before it. -/
theorem BufferInv.read {c c' : Core} {todo : List Stmt} {log : PacketLog}
    (h : BufferInv ⟨c, todo⟩ log) (hreads : c.reads = true)
    (hc' : c' = Core.irqRead { c with pinLow := true })
    (hok : todo.head?.any Stmt.enters = true → c.nextReceive.2 = true) :
    BufferInv ⟨c', todo⟩
      { log with read := log.read + 1, taken := log.taken + c.nextReceive.2.toNat } := by
  obtain ⟨hen, hidle⟩ := Bool.and_eq_true_iff.mp hreads
  have hidle := of_decide_eq_true hidle
  have hnotbusy : ¬ c.busy := by
    intro hbusy
    rcases hbusy with hb | hb <;> cases hidle.symm.trans hb
  have hholds : c'.holds = !c.nextReceive.2 := by
    rw [hc']
    exact spiReceiveHandler_flag c.sl c.nextData
  have henable : c'.enable = c.nextReceive.2 := by
    rw [hc']
    rfl
  cases h with
  | away htodo hlock hlog =>
    have hfree : c.holds = false := free_of_enable hlock hen
    rw [hfree] at hlog
    change log.read = log.taken + log.looped at hlog
    refine .away htodo (fun hheld => ?_) ?_
    · rw [hholds] at hheld
      rw [henable]
      exact Bool.not_eq_true' _ ▸ hheld
    · rw [hholds]
      cases c.nextReceive.2 with
      | true =>
        show log.read + 1 = log.taken + 1 + log.looped + 0
        omega
      | false =>
        show log.read + 1 = log.taken + 0 + log.looped + 1
        omega
  | @entering _ code rest _ hcode hrest hfree hlog =>
    have htaken : c.nextReceive.2 = true := by
      apply hok
      cases hcode <;> rfl
    rw [htaken] at hholds ⊢
    refine .entering hcode hrest hholds ?_
    show log.read + 1 = log.taken + 1 + log.looped
    omega
  | select hb => exact absurd hb hnotbusy
  | header hb => exact absurd hb hnotbusy
  | transfer hb => exact absurd hb hnotbusy
  | close hmasked => cases hen.symm.trans hmasked
  | loop hmasked => cases hen.symm.trans hmasked

/-- Between two calls main code is away from the buffer. -/
theorem BufferInv.returned {c : Core} {log : PacketLog} (h : BufferInv ⟨c, []⟩ log) :
    (c.holds = true → c.enable = false) ∧
      log.read = log.taken + log.looped + c.holds.toNat := by
  generalize hall : ([] : List Stmt) = all at h
  cases h with
  | away htodo hlock hlog => exact ⟨hlock, hlog⟩
  | entering hcode =>
    obtain ⟨rfl, -⟩ := List.append_eq_nil_iff.mp hall.symm
    cases hcode
  | select => cases hall
  | header => cases hall
  | transfer => cases (List.append_eq_nil_iff.mp hall.symm).2
  | close => cases (List.append_eq_nil_iff.mp hall.symm).2
  | loop => cases (List.append_eq_nil_iff.mp hall.symm).2

/-- Every step that leaves the buffer to its packet keeps the invariant. -/
theorem BufferInv.step {s t : Config} {log : PacketLog} {l : Label} (h : BufferInv s log)
    (hok : BufferFree s l) (hs : SpiStep patches s l t) :
    BufferInv t (observePackets log s l t) := by
  cases hs with
  | stmt c s rest => exact h.stmt (fun heq => hok (congrArg some heq)) _
  | call c k =>
    have hcode : Only Stmt.away k.code := by
      cases k <;> rfl
    exact .away hcode h.returned.1 h.returned.2
  | @edge c c' todo hpin hisr =>
    rcases isr_reads hisr with ⟨hreads, hc'⟩ | ⟨hreads, -, hsl, -, hbusy, henable, -⟩
    · have hobs : observePackets log ⟨c, todo⟩ .edge ⟨c', todo⟩ =
          { log with read := log.read + 1, taken := log.taken + c.nextReceive.2.toNat } := by
        simp only [observePackets, hreads, if_true]
      rw [hobs]
      exact h.read hreads hc' (hok hreads)
    · have hobs : observePackets log ⟨c, todo⟩ .edge ⟨c', todo⟩ = log := by
        simp only [observePackets, hreads, Bool.false_eq_true, if_false]
      rw [hobs]
      exact h.congr (holds_of_flag (by rw [hsl])) hbusy henable
  | rise c todo => exact h.congr rfl (fun hbusy => hbusy) fun hmasked => hmasked

/-! Runs. -/

/-- With a packet in the buffer, main code is away from it or examines it. -/
theorem BufferInv.kept {s : Config} {log : PacketLog} (h : BufferInv s log) :
    PacketKept patches s := by
  intro hheld
  have hplace : s.core.enable = false ∧ ∀ a rest, s.todo = a :: rest →
      (exec patches a s.core).1.rx = s.core.rx ∧
        (exec patches a s.core).1.coming = s.core.coming := by
    cases h with
    | @away c todo _ htodo hlock =>
      refine ⟨hlock hheld, fun a rest htodo' => ?_⟩
      change todo = a :: rest at htodo'
      subst htodo'
      obtain ⟨⟨hrx, hcoming, -⟩, -⟩ := @exec_away patches a c (Only.cons_iff.mp htodo).1
      exact ⟨hrx, hcoming⟩
    | @loop c code rest' _ henable hcode =>
      refine ⟨henable, fun a rest htodo => ?_⟩
      cases code with
      | nil =>
        obtain ⟨rfl, -⟩ := List.cons.inj htodo
        exact ⟨rfl, rfl⟩
      | cons b code =>
        obtain ⟨rfl, -⟩ := List.cons.inj htodo
        obtain ⟨⟨hrx, hcoming, -⟩, -⟩ := @exec_examines patches b c (Only.cons_iff.mp hcode).1
        exact ⟨hrx, hcoming⟩
    | entering _ _ hfree => cases hheld.symm.trans hfree
    | select _ _ hfree => cases hheld.symm.trans hfree
    | header _ _ hfree => cases hheld.symm.trans hfree
    | transfer _ _ _ hfree => cases hheld.symm.trans hfree
    | close _ _ _ hfree => cases hheld.symm.trans hfree
  refine ⟨hplace.1, fun l t hs => ?_⟩
  cases hs with
  | stmt c s rest => exact hplace.2 s rest rfl
  | call c k => exact ⟨rfl, rfl⟩
  | @edge c c' todo hpin hisr =>
    rw [isr_refused hisr hplace.1]
    exact ⟨rfl, rfl⟩
  | rise c todo => exact ⟨rfl, rfl⟩

end SpiderL3S
