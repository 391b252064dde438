import SpiderL3S.Spi.Irq

/- `SpiWrite` on an idle driver sends its frame exactly once, between one
   assertion of the chip select and the deassertion that follows it. Three places
   can clock the frame out: an interrupt, the handler that `WlanInterruptEnable`
   calls, and the pin test behind it. `Progress` says how far a call is, by the
   state, by what is on the bus since the call and by the statements left to do.
   Two things must not happen: an interrupt while main code is clocking the frame
   out, and a low pin at the test when the frame is out already. In each the frame
   goes out a second time, so the condition is exact for every frame with a byte. -/
namespace SpiderL3S

open Runs Code

variable {patches : Mem → List SpiFrame}

/-- The byte an event clocks out. -/
def BusEvent.sent : BusEvent → Option UInt8
  | tx b => some b
  | _ => none

/-- The bytes clocked out. -/
def sentBytes (bus : List BusEvent) : List UInt8 := bus.filterMap BusEvent.sent

/-- What is on the bus since `old` is the frame, once and under one chip select. -/
def SentOnce (f : SpiFrame) (old bus : List BusEvent) : Prop :=
  ∃ before during after, bus = old ++ before ++ .csEnable :: (during ++ .csDisable :: after) ∧
    sentBytes before = [] ∧ sentBytes during = f.wire ∧ .csDisable ∉ during ∧ sentBytes after = []

/-- Main code is clocking a frame out, or has not yet said that it is done. -/
def Stmt.clocks : Stmt → Bool
  | writeSync .. => true
  | setState .idle => true
  | _ => false

/-- The condition on a step: no interrupt is accepted for a frame that main code
is clocking out, and the pin is not low at the test when the frame is out. -/
def FrameHeld (s : Config) : Label → Prop
  | .edge => s.core.enable = true → s.core.ulSpiState = .writeIrq →
      s.todo.head?.any Stmt.clocks = false
  | .stmt => s.todo.head? = some .swTestPin → s.core.pinLow = true → s.core.ulSpiState = .writeIrq
  | _ => True

/-! Bytes on the bus. -/

@[simp] theorem sentBytes_append (a b : List BusEvent) :
    sentBytes (a ++ b) = sentBytes a ++ sentBytes b := List.filterMap_append

@[simp] theorem sentBytes_nil : sentBytes [] = [] := rfl

@[simp] theorem sentBytes_csEnable (b : List BusEvent) :
    sentBytes (.csEnable :: b) = sentBytes b := rfl

@[simp] theorem sentBytes_csDisable (b : List BusEvent) :
    sentBytes (.csDisable :: b) = sentBytes b := rfl

@[simp] theorem sentBytes_tx (bytes : List UInt8) : sentBytes (bytes.map .tx) = bytes := by
  induction bytes with
  | nil => rfl
  | cons b bytes ih => exact congrArg (b :: ·) ih

@[simp] theorem sentBytes_rx (bytes : List UInt8) : sentBytes (bytes.map .rx) = [] := by
  induction bytes with
  | nil => rfl
  | cons b bytes ih => exact ih

theorem csDisable_not_mem_tx (bytes : List UInt8) : .csDisable ∉ bytes.map BusEvent.tx := by
  intro h
  obtain ⟨b, -, hb⟩ := List.mem_map.mp h
  cases hb

theorem SpiFrame.wire_length (f : SpiFrame) : f.wire.length = f.size.toNat := by
  rw [SpiFrame.wire, SpiFrame.bytes, List.length_map, List.length_range']

theorem SpiFrame.bytes_snoc (f : SpiFrame) (p n : Nat) :
    f.bytes p (n + 1) = f.bytes p n ++ [f.byte (p + n)] := by
  simp only [SpiFrame.bytes, List.range'_concat, List.map_append, List.map_cons, List.map_nil,
    Nat.one_mul]

theorem SentOnce.append {f : SpiFrame} {old bus new : List BusEvent} (h : SentOnce f old bus)
    (hnew : sentBytes new = []) : SentOnce f old (bus ++ new) := by
  obtain ⟨before, during, after, rfl, hbefore, hduring, hcs, hafter⟩ := h
  refine ⟨before, during, after ++ new, ?_, hbefore, hduring, hcs, ?_⟩
  · simp only [List.append_assoc, List.cons_append]
  · rw [sentBytes_append, hafter, hnew, List.append_nil]

theorem SentOnce.length {f : SpiFrame} {old bus : List BusEvent} (h : SentOnce f old bus) :
    (sentBytes bus).length = (sentBytes old).length + f.size.toNat := by
  obtain ⟨before, during, after, rfl, hbefore, hduring, -, hafter⟩ := h
  simp only [sentBytes_append, sentBytes_csEnable, sentBytes_csDisable, hbefore, hduring, hafter,
    List.append_nil, List.length_append, SpiFrame.wire_length]

/-! Statements by what they can do to the frame. -/

/-- The statement does not clock the frame out while `ulSpiState` is not
`eSPI_STATE_WRITE_IRQ`, and neither does the code behind it. -/
def Stmt.quiet : Stmt → Bool
  | writeSync .. | swTestMagic _ | swTestPowerup | swSpinInitialized | swTestInitialized _
  | swSpinIdle | swSetTx _ | waitEvent .. | waitData _ | hehTest | hehTestType | hehUnsol
  | hehSwitch | hehClearOpcode | hehData | hehRelease | hehPatch | hehTestReturn => false
  | setState s => s ≠ .writeIrq
  | _ => true

/-- A statement of `WlanInterruptEnable`, of the handler's tests, or of the end of
`SpiWrite`. -/
def Stmt.calm : Stmt → Bool
  | wieSetEnable | wieTestMissed | wieTestPin | wieClearMissed | irqTestEnable | irqSetMissed
  | irqSetProcess | irqTestPowerup | irqTestIdle | irqTestWriteIrq | irqClearProcess | swTestPin
  | swSpinDone => true
  | _ => false

theorem Stmt.quiet_of_calm {s : Stmt} (h : s.calm = true) : s.quiet = true := by
  cases s <;> first | rfl | cases h

theorem Stmt.clocks_of_calm {s : Stmt} (h : s.calm = true) : s.clocks = false := by
  cases s <;> first | rfl | cases h

/-- A quiet statement, the frame not waiting. -/
theorem exec_quiet {s : Stmt} {c : Core} (hs : s.quiet = true) (hstate : c.ulSpiState ≠ .writeIrq)
    (hpin : s = .swTestPin → c.pinLow = false) :
    Only Stmt.quiet (exec patches s c).2 ∧ (exec patches s c).1.ulSpiState ≠ .writeIrq ∧
      (exec patches s c).1.tx = c.tx ∧
      ∃ new, (exec patches s c).1.bus = c.bus ++ new ∧ sentBytes new = [] := by
  have hbus : ∃ new, c.bus = c.bus ++ new ∧ sentBytes new = [] :=
    ⟨[], (List.append_nil _).symm, rfl⟩
  cases s with
  | setState s => exact ⟨rfl, of_decide_eq_true hs, rfl, hbus⟩
  | csEnable => exact ⟨rfl, hstate, rfl, [.csEnable], rfl, rfl⟩
  | csDisable => exact ⟨rfl, hstate, rfl, [.csDisable], rfl, rfl⟩
  | readSync ptr left =>
    cases left with
    | zero => exact ⟨rfl, hstate, rfl, hbus⟩
    | succ left => exact ⟨rfl, hstate, rfl, [.rx _], rfl, rfl⟩
  | swTestPin =>
    refine ⟨?_, hstate, rfl, hbus⟩
    simp only [exec, hpin rfl, Bool.false_eq_true, if_false]
    rfl
  | irqTestWriteIrq =>
    refine ⟨?_, hstate, rfl, hbus⟩
    simp only [exec, hstate, if_false]
    rfl
  | wieTestMissed | wieTestPin | irqTestEnable | irqTestPowerup | irqTestIdle | readDataCont
  | testMagic | swSpinDone =>
    refine ⟨?_, hstate, rfl, hbus⟩
    simp only [exec]
    split <;> rfl
  | receiveHandler => exact ⟨only_receiveHandler patches c rfl, hstate, rfl, hbus⟩
  | wieSetEnable | wieClearMissed | widClearEnable | irqSetMissed | irqSetProcess
  | irqClearProcess | readHeader | hang => exact ⟨rfl, hstate, rfl, hbus⟩
  | _ => cases hs

/-- A calm statement, the frame waiting: either the frame is clocked out next, or
nothing has changed for it. -/
theorem exec_calm {s : Stmt} {c : Core} (hs : s.calm = true) (hstate : c.ulSpiState = .writeIrq) :
    (exec patches s c).1.ulSpiState = .writeIrq ∧ (exec patches s c).1.tx = c.tx ∧
      (exec patches s c).1.bus = c.bus ∧
      ((exec patches s c).2 = spiWriteOut c.tx ∨ Only Stmt.calm (exec patches s c).2) := by
  cases s with
  | swTestPin =>
    refine ⟨hstate, rfl, rfl, ?_⟩
    simp only [exec]
    split
    · exact .inl rfl
    · exact .inr rfl
  | irqTestWriteIrq =>
    refine ⟨hstate, rfl, rfl, .inl ?_⟩
    simp only [exec, hstate, if_true]
  | irqTestPowerup | irqTestIdle =>
    refine ⟨hstate, rfl, rfl, .inr ?_⟩
    simp only [exec, hstate, reduceCtorEq, if_false]
    rfl
  | wieTestMissed | wieTestPin | irqTestEnable | swSpinDone =>
    refine ⟨hstate, rfl, rfl, .inr ?_⟩
    simp only [exec]
    split <;> rfl
  | wieSetEnable | wieClearMissed | irqSetMissed | irqSetProcess | irqClearProcess =>
    exact ⟨hstate, rfl, rfl, .inr rfl⟩
  | _ => cases hs

/-! How far a call is. -/

/-- The end of `SpiWrite`, with interrupts enabled again. -/
def writeTail : List Stmt := wlanInterruptEnable ++ [.swTestPin, .swSpinDone]

theorem calm_writeTail : Only Stmt.calm writeTail := rfl

theorem swSpinDone_mem_writeTail : .swSpinDone ∈ writeTail :=
  List.mem_append_right _ (List.mem_cons_of_mem _ List.mem_cons_self)

/-- The statements up to the claim of the driver, while it is idle. -/
inductive Entering (f : SpiFrame) : Core → List Stmt → Prop
  | magic (c : Core) : Entering f c (spiWriteCode f)
  | hang (c : Core) (rest : List Stmt) : Entering f c (.hang :: rest)
  | powerup (c : Core) : Entering f c [.swTestPowerup, .swTestInitialized f, .swSpinDone]
  | initialized (c : Core) : Entering f c [.swTestInitialized f, .swSpinDone]
  | disable (c : Core) : Entering f c
      (.widClearEnable :: .swSpinIdle :: .setState .writeIrq :: .swSetTx f :: .csEnable ::
        writeTail)
  | spin (c : Core) (henable : c.enable = false) : Entering f c
      (.swSpinIdle :: .setState .writeIrq :: .swSetTx f :: .csEnable :: writeTail)
  | claim (c : Core) (henable : c.enable = false) : Entering f c
      (.setState .writeIrq :: .swSetTx f :: .csEnable :: writeTail)

/-- How far a call `SpiWrite(f)` is; `old` was on the bus when it began. -/
inductive Progress (f : SpiFrame) (old : List BusEvent) : Config → Prop
  | entering {c : Core} {todo : List Stmt} (h : Entering f c todo) (hidle : c.ulSpiState = .idle)
      (new : List BusEvent) (hbus : c.bus = old ++ new) (hnew : sentBytes new = []) :
      Progress f old ⟨c, todo⟩
  | claimed {c : Core} (henable : c.enable = false) (hstate : c.ulSpiState = .writeIrq)
      (new : List BusEvent) (hbus : c.bus = old ++ new) (hnew : sentBytes new = []) :
      Progress f old ⟨c, .swSetTx f :: .csEnable :: writeTail⟩
  | select {c : Core} (henable : c.enable = false) (hstate : c.ulSpiState = .writeIrq)
      (htx : c.tx = f) (new : List BusEvent) (hbus : c.bus = old ++ new)
      (hnew : sentBytes new = []) : Progress f old ⟨c, .csEnable :: writeTail⟩
  | waiting {c : Core} {todo : List Stmt} (hstate : c.ulSpiState = .writeIrq) (htx : c.tx = f)
      (new : List BusEvent) (hbus : c.bus = old ++ new ++ [.csEnable]) (hnew : sentBytes new = [])
      (hcalm : Only Stmt.calm todo) (hspin : .swSpinDone ∈ todo) : Progress f old ⟨c, todo⟩
  | clocking {c : Core} {rest : List Stmt} (i n : Nat) (hsize : i + n = f.size.toNat)
      (hstate : c.ulSpiState = .writeIrq) (htx : c.tx = f) (new : List BusEvent)
      (hbus : c.bus = old ++ new ++ .csEnable :: (f.bytes 0 i).map .tx) (hnew : sentBytes new = [])
      (hquiet : Only Stmt.quiet rest) :
      Progress f old ⟨c, .writeSync f i n :: .setState .idle :: .csDisable :: rest⟩
  | clocked {c : Core} {rest : List Stmt} (hstate : c.ulSpiState = .writeIrq) (htx : c.tx = f)
      (new : List BusEvent) (hbus : c.bus = old ++ new ++ .csEnable :: f.wire.map .tx)
      (hnew : sentBytes new = []) (hquiet : Only Stmt.quiet rest) :
      Progress f old ⟨c, .setState .idle :: .csDisable :: rest⟩
  | deselect {c : Core} {rest : List Stmt} (hstate : c.ulSpiState = .idle) (htx : c.tx = f)
      (new : List BusEvent) (hbus : c.bus = old ++ new ++ .csEnable :: f.wire.map .tx)
      (hnew : sentBytes new = []) (hquiet : Only Stmt.quiet rest) :
      Progress f old ⟨c, .csDisable :: rest⟩
  | sent {c : Core} {todo : List Stmt} (hstate : c.ulSpiState ≠ .writeIrq) (htx : c.tx = f)
      (hsent : SentOnce f old c.bus) (hquiet : Only Stmt.quiet todo) : Progress f old ⟨c, todo⟩

theorem Entering.isr {f : SpiFrame} {c c' : Core} {todo : List Stmt} (h : Entering f c todo)
    (hmasked : c.enable = false → c'.enable = false) : Entering f c' todo := by
  cases h with
  | magic => exact .magic c'
  | hang rest => exact .hang c' rest
  | powerup => exact .powerup c'
  | initialized => exact .initialized c'
  | disable => exact .disable c'
  | spin henable => exact .spin c' (hmasked henable)
  | claim henable => exact .claim c' (hmasked henable)

/-- The chip select goes up behind the frame, whoever raises it. -/
theorem sentOnce_deselect {f : SpiFrame} {old new bytes after : List BusEvent}
    (hnew : sentBytes new = []) (hbytes : sentBytes bytes = []) (hcs : .csDisable ∉ bytes)
    (hafter : sentBytes after = []) :
    SentOnce f old
      (old ++ new ++ .csEnable :: f.wire.map .tx ++ (bytes ++ .csDisable :: after)) := by
  refine ⟨new, f.wire.map .tx ++ bytes, after, ?_, hnew, ?_, ?_, hafter⟩
  · simp only [List.append_assoc, List.cons_append]
  · rw [sentBytes_append, sentBytes_tx, hbytes, List.append_nil]
  · exact fun h => (List.mem_append.mp h).elim (csDisable_not_mem_tx _) hcs

/-- Only these four fields matter. -/
theorem Progress.congr {f : SpiFrame} {old : List BusEvent} {c c' : Core} {todo : List Stmt}
    (h : Progress f old ⟨c, todo⟩) (hen : c'.enable = c.enable)
    (hst : c'.ulSpiState = c.ulSpiState) (ht : c'.tx = c.tx) (hb : c'.bus = c.bus) :
    Progress f old ⟨c', todo⟩ := by
  cases h with
  | entering h hidle new hbus hnew =>
    exact .entering (h.isr fun hc => hen.trans hc) (hst.trans hidle) new (hb.trans hbus) hnew
  | claimed henable hstate new hbus hnew =>
    exact .claimed (hen.trans henable) (hst.trans hstate) new (hb.trans hbus) hnew
  | select henable hstate htx new hbus hnew =>
    exact .select (hen.trans henable) (hst.trans hstate) (ht.trans htx) new (hb.trans hbus) hnew
  | waiting hstate htx new hbus hnew hcalm hspin =>
    exact .waiting (hst.trans hstate) (ht.trans htx) new (hb.trans hbus) hnew hcalm hspin
  | clocking i n hsize hstate htx new hbus hnew hquiet =>
    exact .clocking i n hsize (hst.trans hstate) (ht.trans htx) new (hb.trans hbus) hnew hquiet
  | clocked hstate htx new hbus hnew hquiet =>
    exact .clocked (hst.trans hstate) (ht.trans htx) new (hb.trans hbus) hnew hquiet
  | deselect hstate htx new hbus hnew hquiet =>
    exact .deselect (hst.trans hstate) (ht.trans htx) new (hb.trans hbus) hnew hquiet
  | sent hstate htx hsent hquiet =>
    exact .sent (by rw [hst]; exact hstate) (ht.trans htx) (by rw [hb]; exact hsent) hquiet

/-- The bytes of a packet read in between. -/
theorem sentBytes_irqRead (c : Core) :
    sentBytes (.csEnable :: (c.nextBytes.map .rx ++ [.csDisable])) = [] := by
  rw [sentBytes_csEnable, sentBytes_append, sentBytes_rx]
  rfl

theorem csDisable_not_mem_rx (bytes : List UInt8) :
    .csDisable ∉ BusEvent.csEnable :: bytes.map .rx := by
  intro h
  rcases List.mem_cons.mp h with h | h
  · cases h
  · obtain ⟨b, -, hb⟩ := List.mem_map.mp h
    cases hb

/-- An accepted interrupt: it reads a packet, or it is the one that clocks the
frame out. -/
theorem Progress.accepted {f : SpiFrame} {old : List BusEvent} {c c' : Core} {todo : List Stmt}
    (h : Progress f old ⟨c, todo⟩) (hok : FrameHeld ⟨c, todo⟩ .edge) (hen : c.enable = true)
    (hisr : Isr patches { c with pinLow := true } c') : Progress f old ⟨c', todo⟩ := by
  cases h with
  | entering h hidle new hbus hnew =>
    obtain rfl := isr_idle hisr hen hidle
    have hopen : Entering f (Core.irqRead { c with pinLow := true }) todo :=
      h.isr fun hc => Bool.noConfusion (hen.symm.trans hc)
    let read : List BusEvent := .csEnable :: (c.nextBytes.map .rx ++ [.csDisable])
    refine .entering hopen rfl (new ++ read) ?_ ?_
    · calc c.bus ++ read = old ++ new ++ read := by rw [hbus]
        _ = old ++ (new ++ read) := List.append_assoc ..
    · calc sentBytes (new ++ read) = sentBytes new ++ sentBytes read := sentBytes_append ..
        _ = [] := by rw [hnew, sentBytes_irqRead, List.append_nil]
  | claimed henable hstate new hbus hnew => cases hen.symm.trans henable
  | select henable hstate htx new hbus hnew => cases hen.symm.trans henable
  | waiting hstate htx new hbus hnew hcalm hspin =>
    -- the interrupt clocks the frame out and raises the chip select behind it
    obtain rfl := isr_writeIrq hisr hen hstate
    refine .sent SpiState.noConfusion htx ?_ (hcalm.mono fun _ => Stmt.quiet_of_calm)
    have hsent : SentOnce f old
        (old ++ new ++ .csEnable :: f.wire.map .tx ++ ([] ++ [.csDisable])) :=
      sentOnce_deselect hnew rfl List.not_mem_nil rfl
    simpa only [Core.irqWrite, hbus, htx, List.append_assoc, List.cons_append, List.nil_append]
      using hsent
  | clocking i n hsize hstate htx new hbus hnew hquiet => cases hok hen hstate
  | clocked hstate htx new hbus hnew hquiet => cases hok hen hstate
  | deselect hstate htx new hbus hnew hquiet =>
    -- a packet is read under the chip select of the frame, which is out already
    obtain rfl := isr_idle hisr hen hstate
    refine .sent SpiState.noConfusion htx ?_ (Only.cons_iff.mpr ⟨rfl, hquiet⟩)
    show SentOnce f old (c.bus ++ (.csEnable :: c.nextBytes.map .rx ++ [.csDisable]))
    rw [hbus]
    exact sentOnce_deselect hnew (sentBytes_rx _) (csDisable_not_mem_rx _) rfl
  | sent hstate htx hsent hquiet =>
    rcases isr_accepted hisr hen with ⟨-, rfl⟩ | ⟨-, rfl⟩ | ⟨hwrite, -⟩ | ⟨-, -, -, rfl⟩
    · exact .sent SpiState.noConfusion htx hsent hquiet
    · exact .sent SpiState.noConfusion htx (hsent.append (sentBytes_irqRead _)) hquiet
    · exact absurd hwrite hstate
    · exact .sent hstate htx hsent hquiet

theorem Progress.edge {f : SpiFrame} {old : List BusEvent} {c c' : Core} {todo : List Stmt}
    (h : Progress f old ⟨c, todo⟩) (hok : FrameHeld ⟨c, todo⟩ .edge)
    (hisr : Isr patches { c with pinLow := true } c') : Progress f old ⟨c', todo⟩ := by
  rcases Bool.eq_false_or_eq_true c.enable with hen | hen
  · exact h.accepted hok hen hisr
  · rw [isr_refused hisr hen]
    exact h.congr rfl rfl rfl rfl

/-- A statement before the claim of the driver. -/
theorem Entering.stmt {f : SpiFrame} {old : List BusEvent} {c : Core} {s : Stmt}
    {rest : List Stmt} (h : Entering f c (s :: rest)) (hidle : c.ulSpiState = .idle)
    (new : List BusEvent) (hbus : c.bus = old ++ new) (hnew : sentBytes new = []) :
    Progress f old ⟨(exec patches s c).1, (exec patches s c).2 ++ rest⟩ := by
  generalize htodo : s :: rest = todo at h
  cases h with
  | magic =>
    obtain ⟨rfl, rfl⟩ := List.cons.inj htodo
    simp only [exec]
    split
    · exact .entering (.hang c _) hidle new hbus hnew
    · exact .entering (.powerup c) hidle new hbus hnew
  | hang r =>
    obtain ⟨rfl, rfl⟩ := List.cons.inj htodo
    exact .entering (.hang c _) hidle new hbus hnew
  | powerup =>
    obtain ⟨rfl, rfl⟩ := List.cons.inj htodo
    simp only [exec, hidle, reduceCtorEq, if_false]
    exact .entering (.initialized c) hidle new hbus hnew
  | initialized =>
    obtain ⟨rfl, rfl⟩ := List.cons.inj htodo
    simp only [exec, hidle, reduceCtorEq, if_false]
    exact .entering (.disable c) hidle new hbus hnew
  | disable =>
    obtain ⟨rfl, rfl⟩ := List.cons.inj htodo
    exact .entering (.spin _ rfl) hidle new hbus hnew
  | spin henable =>
    obtain ⟨rfl, rfl⟩ := List.cons.inj htodo
    simp only [exec, hidle, if_true]
    exact .entering (.claim c henable) hidle new hbus hnew
  | claim henable =>
    obtain ⟨rfl, rfl⟩ := List.cons.inj htodo
    exact .claimed henable rfl new hbus hnew

/-- A statement while the frame waits. -/
theorem waiting_stmt {f : SpiFrame} {old new : List BusEvent} {c : Core} {s : Stmt}
    {rest : List Stmt} (hstate : c.ulSpiState = .writeIrq) (htx : c.tx = f)
    (hbus : c.bus = old ++ new ++ [.csEnable]) (hnew : sentBytes new = [])
    (hcalm : Only Stmt.calm (s :: rest)) (hspin : .swSpinDone ∈ s :: rest) :
    Progress f old ⟨(exec patches s c).1, (exec patches s c).2 ++ rest⟩ := by
  obtain ⟨hs, hrest⟩ := Only.cons_iff.mp hcalm
  obtain ⟨hstate', htx', hbus', hpush | hpush⟩ := @exec_calm patches _ _ hs hstate
  · rw [hpush, htx]
    exact .clocking 0 f.size.toNat (Nat.zero_add _) hstate' (htx'.trans htx) new
      (hbus'.trans hbus) hnew (hrest.mono fun _ => Stmt.quiet_of_calm)
  · refine .waiting hstate' (htx'.trans htx) new (hbus'.trans hbus) hnew
      (hpush.append hrest) ?_
    rcases List.mem_cons.mp hspin with rfl | hmem
    · -- the loop at the end of `SpiWrite` waits for the state to change
      simp only [exec, hstate, reduceCtorEq, if_false]
      exact List.mem_cons_self
    · exact List.mem_append_right _ hmem

theorem Progress.stmt {f : SpiFrame} {old : List BusEvent} {c : Core} {s : Stmt}
    {rest : List Stmt} (h : Progress f old ⟨c, s :: rest⟩) (hok : FrameHeld ⟨c, s :: rest⟩ .stmt) :
    Progress f old ⟨(exec patches s c).1, (exec patches s c).2 ++ rest⟩ := by
  cases h with
  | entering h hidle new hbus hnew => exact h.stmt hidle new hbus hnew
  | claimed henable hstate new hbus hnew => exact .select henable hstate rfl new hbus hnew
  | select henable hstate htx new hbus hnew =>
    refine .waiting hstate htx new ?_ hnew calm_writeTail swSpinDone_mem_writeTail
    show c.bus ++ [.csEnable] = _
    rw [hbus]
  | waiting hstate htx new hbus hnew hcalm hspin =>
    exact waiting_stmt hstate htx hbus hnew hcalm hspin
  | clocking i n hsize hstate htx new hbus hnew hquiet =>
    cases n with
    | zero =>
      obtain rfl : i = f.size.toNat := hsize
      exact .clocked hstate htx new hbus hnew hquiet
    | succ n =>
      -- one byte more is on the bus
      refine .clocking (i + 1) n (by omega) hstate htx new ?_ hnew hquiet
      calc c.bus ++ [.tx (f.byte i)]
          = old ++ new ++ .csEnable :: (f.bytes 0 i).map .tx ++ [.tx (f.byte i)] := by rw [hbus]
        _ = old ++ new ++ .csEnable :: ((f.bytes 0 i).map .tx ++ [.tx (f.byte i)]) :=
          List.append_assoc ..
        _ = old ++ new ++ .csEnable :: (f.bytes 0 (i + 1)).map .tx := by
          rw [SpiFrame.bytes_snoc, Nat.zero_add, List.map_append, List.map_singleton]
  | clocked hstate htx new hbus hnew hquiet => exact .deselect rfl htx new hbus hnew hquiet
  | deselect hstate htx new hbus hnew hquiet =>
    have hidle : (exec patches .csDisable c).1.ulSpiState = .idle := hstate
    refine .sent (by rw [hidle]; exact SpiState.noConfusion) htx ?_ hquiet
    show SentOnce f old (c.bus ++ ([] ++ [.csDisable]))
    rw [hbus]
    exact sentOnce_deselect hnew rfl List.not_mem_nil rfl
  | sent hstate htx hsent hquiet =>
    obtain ⟨hs, hrest⟩ := Only.cons_iff.mp hquiet
    have hpin : s = .swTestPin → c.pinLow = false := by
      intro h
      rw [← Bool.not_eq_true]
      exact fun hlow => hstate (hok (congrArg some h) hlow)
    obtain ⟨hpush, hstate', htx', new, hbus, hnew⟩ :=
      @exec_quiet patches _ _ hs hstate hpin
    exact .sent hstate' (htx'.trans htx) (by rw [hbus]; exact hsent.append hnew)
      (hpush.append hrest)

/-! Bytes never come back: what is out and what main code is about to clock out
only grows. -/

/-- The bytes a statement will still clock out. -/
def Stmt.pending : Stmt → Nat
  | writeSync _ _ left => left
  | _ => 0

def pending : List Stmt → Nat
  | [] => 0
  | s :: rest => s.pending + pending rest

/-- The bytes that are out, and those main code is about to clock out. -/
def spent (s : Config) : Nat := (sentBytes s.core.bus).length + pending s.todo

@[simp] theorem pending_nil : pending [] = 0 := rfl

@[simp] theorem pending_cons (s : Stmt) (rest : List Stmt) :
    pending (s :: rest) = s.pending + pending rest := rfl

@[simp] theorem pending_append (a b : List Stmt) : pending (a ++ b) = pending a + pending b := by
  induction a with
  | nil => exact (Nat.zero_add _).symm
  | cons s a ih => rw [List.cons_append, pending_cons, pending_cons, ih, Nat.add_assoc]

theorem exec_spent (s : Stmt) (c : Core) :
    (sentBytes c.bus).length + s.pending ≤
      (sentBytes (exec patches s c).1.bus).length + pending (exec patches s c).2 := by
  cases s with
  | csEnable => simp only [exec, sentBytes_append, List.length_append, Stmt.pending]; omega
  | csDisable => simp only [exec, sentBytes_append, List.length_append, Stmt.pending]; omega
  | writeSync f ptr left =>
    cases left with
    | zero => exact Nat.le_refl _
    | succ left =>
      -- the byte moves from what is left to the bus
      have hbyte : (sentBytes [.tx (f.byte ptr)]).length = 1 := rfl
      simp only [exec, sentBytes_append, List.length_append, pending_cons, pending_nil,
        Stmt.pending, hbyte]
      omega
  | readSync ptr left =>
    cases left with
    | zero => exact Nat.le_refl _
    | succ left => simp only [exec, sentBytes_append, List.length_append, Stmt.pending]; omega
  | _ => exact Nat.le_add_right _ _

theorem isr_spent {c c' : Core} (h : Isr patches c c') :
    (sentBytes c.bus).length ≤ (sentBytes c'.bus).length := by
  rcases Bool.eq_false_or_eq_true c.enable with hen | hen
  · rcases isr_accepted h hen with ⟨-, rfl⟩ | ⟨-, rfl⟩ | ⟨-, rfl⟩ | ⟨-, -, -, rfl⟩
    · exact Nat.le_refl _
    · simp only [Core.irqRead, sentBytes_append, List.length_append, Nat.le_add_right]
    · simp only [Core.irqWrite, sentBytes_append, List.length_append, Nat.le_add_right]
    · exact Nat.le_refl _
  · rw [isr_refused h hen]

theorem SpiStep.spent {s t : Config} {l : Label} (h : SpiStep patches s l t) :
    spent s ≤ SpiderL3S.spent t := by
  cases h with
  | stmt c s rest =>
    have hexec := @exec_spent patches s c
    simp only [SpiderL3S.spent, pending_cons, pending_append]
    omega
  | call c k => exact Nat.add_le_add_left (Nat.zero_le _) _
  | edge todo hpin hisr => exact Nat.add_le_add_right (isr_spent hisr) _
  | rise c todo => exact Nat.le_refl _

/-- A low pin at the test with the frame out: it goes out again. -/
theorem Progress.stmt_twice {f : SpiFrame} {old : List BusEvent} {c : Core} {s : Stmt}
    {rest : List Stmt} (h : Progress f old ⟨c, s :: rest⟩) (hpin : s = .swTestPin)
    (hlow : c.pinLow = true) (hstate : c.ulSpiState ≠ .writeIrq) :
    (sentBytes old).length + 2 * f.size.toNat ≤
      spent ⟨(exec patches s c).1, (exec patches s c).2 ++ rest⟩ := by
  subst hpin
  cases h with
  | entering h => cases h
  | waiting hwrite => exact absurd hwrite hstate
  | sent _ htx hsent =>
    have hlen := hsent.length
    simp only [exec, hlow, if_true, htx, spent, pending_append, spiWriteOut,
      spiWriteDataSynchronous, pending_cons, Stmt.pending]
    omega

/-- An interrupt while main code clocks the frame out: it goes out in between. -/
theorem Progress.edge_twice {f : SpiFrame} {old : List BusEvent} {c c' : Core} {todo : List Stmt}
    (h : Progress f old ⟨c, todo⟩) (hisr : Isr patches { c with pinLow := true } c')
    (hen : c.enable = true) (hstate : c.ulSpiState = .writeIrq)
    (hhead : todo.head?.any Stmt.clocks = true) :
    (sentBytes old).length + 2 * f.size.toNat ≤ spent ⟨c', todo⟩ := by
  have hbus : c'.bus = c.bus ++ (c.tx.wire.map .tx ++ [.csDisable]) := by
    rw [isr_writeIrq hisr hen hstate]
    rfl
  cases h with
  | entering _ hidle => cases hstate.symm.trans hidle
  | claimed henable => cases hen.symm.trans henable
  | select henable => cases hen.symm.trans henable
  | waiting _ _ _ _ _ hcalm =>
    cases todo with
    | nil => cases hhead
    | cons s rest =>
      have hs : s.clocks = false := Stmt.clocks_of_calm (hcalm.mem List.mem_cons_self)
      cases hs.symm.trans hhead
  | clocking i n hsize _ htx new hold hnew =>
    have hbytes : (f.bytes 0 i).length = i := by
      rw [SpiFrame.bytes, List.length_map, List.length_range']
    simp only [spent, hbus, hold, htx, sentBytes_append, sentBytes_csEnable, sentBytes_csDisable,
      sentBytes_tx, sentBytes_nil, List.length_append, SpiFrame.wire_length, hbytes, pending_cons,
      Stmt.pending]
    omega
  | clocked _ htx new hold hnew =>
    simp only [spent, hbus, hold, htx, sentBytes_append, sentBytes_csEnable, sentBytes_csDisable,
      sentBytes_tx, sentBytes_nil, List.length_append, SpiFrame.wire_length, pending_cons,
      Stmt.pending]
    omega
  | deselect hidle => cases hstate.symm.trans hidle
  | sent hne => exact absurd hstate hne

theorem Progress.step {f : SpiFrame} {old : List BusEvent} {s t : Config} {l : Label}
    (h : Progress f old s) (hcall : ∀ k, l ≠ .call k) (hs : SpiStep patches s l t)
    (hok : FrameHeld s l) : Progress f old t := by
  cases hs with
  | stmt c s rest => exact h.stmt hok
  | call c k => exact absurd rfl (hcall k)
  | edge todo hpin hisr => exact h.edge hok hisr
  | rise c todo => exact h.congr rfl rfl rfl rfl

theorem Progress.twice {f : SpiFrame} {old : List BusEvent} {s t : Config} {l : Label}
    (h : Progress f old s) (hs : SpiStep patches s l t) (hbad : ¬ FrameHeld s l) :
    (sentBytes old).length + 2 * f.size.toNat ≤ spent t := by
  cases hs with
  | stmt c s rest =>
    simp only [FrameHeld, List.head?_cons, Option.some.injEq, not_forall] at hbad
    obtain ⟨hpin, hlow, hstate⟩ := hbad
    exact h.stmt_twice hpin hlow hstate
  | call c k => exact absurd trivial hbad
  | edge todo hpin hisr =>
    simp only [FrameHeld, not_forall, Bool.not_eq_false] at hbad
    obtain ⟨hen, hstate, hhead⟩ := hbad
    exact h.edge_twice hisr hen hstate hhead
  | rise c todo => exact absurd trivial hbad

/-! The claim over runs. -/

/-- `SpiWrite` on an idle driver. -/
theorem Progress.start (f : SpiFrame) {c : Core} (hidle : c.ulSpiState = .idle) :
    Progress f c.bus ⟨c, spiWriteCode f⟩ :=
  .entering (.magic c) hidle [] (List.append_nil _).symm rfl

/-- A call that has returned. -/
theorem Progress.returned {f : SpiFrame} {old : List BusEvent} {s : Config}
    (h : Progress f old s) (hret : s.todo = []) : SentOnce f old s.core.bus := by
  cases h with
  | entering h => cases hret; cases h
  | waiting _ _ _ _ _ _ hspin => cases hret; cases hspin
  | sent _ _ hsent => exact hsent
  | claimed => cases hret
  | select => cases hret
  | clocking => cases hret
  | clocked => cases hret
  | deselect => cases hret

theorem Progress.of_guarded {f : SpiFrame} {old : List BusEvent} {s t : Config} {ls : List Label}
    (h : Progress f old s) (hcall : ∀ k, .call k ∉ ls)
    (hrun : Run (guarded FrameHeld (SpiStep patches)) s ls t) : Progress f old t := by
  apply hrun.invariant h
  intro a l b hl ha ⟨hok, hstep⟩
  apply ha.step _ hstep hok
  intro k hk
  exact hcall k (hk ▸ hl)

/-- A run keeps to the condition, or sends the frame twice. -/
theorem Progress.of_run {f : SpiFrame} {old : List BusEvent} {s t : Config} {ls : List Label}
    (h : Progress f old s) (hcall : ∀ k, .call k ∉ ls) (hrun : Run (SpiStep patches) s ls t) :
    Run (guarded FrameHeld (SpiStep patches)) s ls t ∨
      (sentBytes old).length + 2 * f.size.toNat ≤ spent t := by
  apply hrun.guarded_or (Q := fun v => (sentBytes old).length + 2 * f.size.toNat ≤ spent v) h
  · intro a l b hl ha hok hstep
    apply ha.step _ hstep hok
    intro k hk
    exact hcall k (hk ▸ hl)
  · intro a l b _ ha hok hstep
    exact ha.twice hstep hok
  · intro a l b htwice hstep
    exact Nat.le_trans htwice hstep.spent

/-- **A frame goes out exactly once** in every run of `SpiWrite` that meets the
condition, and in no other if it has a byte. -/
theorem sentOnce_iff_guarded {c : Core} {f : SpiFrame} {ls : List Label} {t : Config}
    (hidle : c.ulSpiState = .idle) (hcall : ∀ k, .call k ∉ ls)
    (hrun : Run (SpiStep patches) ⟨c, spiWriteCode f⟩ ls t) (hret : t.todo = []) :
    (Run (guarded FrameHeld (SpiStep patches)) ⟨c, spiWriteCode f⟩ ls t →
      SentOnce f c.bus t.core.bus) ∧
    (f.size ≠ 0 → SentOnce f c.bus t.core.bus →
      Run (guarded FrameHeld (SpiStep patches)) ⟨c, spiWriteCode f⟩ ls t) := by
  constructor
  · intro hguarded
    exact ((Progress.start f hidle).of_guarded hcall hguarded).returned hret
  · intro hsize hsent
    apply ((Progress.start f hidle).of_run hcall hrun).resolve_right
    intro htwice
    have hlen := hsent.length
    have hpos : f.size.toNat ≠ 0 := fun h => hsize (UInt16.toNat_inj.mp h)
    have hspent : spent t = (sentBytes t.core.bus).length := by rw [spent, hret]; rfl
    omega

/-- The driver of the examples, idle. -/
def idleCore : Core := { dataCore with ulSpiState := .idle }

/-- The frame goes out in the interrupt that answers the chip select. -/
theorem sentOnce_answered : ∃ t : Config,
    t.core.bus = .csEnable :: (oneByteFrame.wire.map .tx ++ [.csDisable]) ∧
    ((Run (guarded FrameHeld (SpiStep fun _ => [])) ⟨idleCore, spiWriteCode oneByteFrame⟩
        (List.replicate 9 .stmt ++ [.edge] ++ [.rise] ++ List.replicate 3 .stmt) t →
      SentOnce oneByteFrame [] t.core.bus) ∧
    (oneByteFrame.size ≠ 0 → SentOnce oneByteFrame [] t.core.bus →
      Run (guarded FrameHeld (SpiStep fun _ => [])) ⟨idleCore, spiWriteCode oneByteFrame⟩
        (List.replicate 9 .stmt ++ [.edge] ++ [.rise] ++ List.replicate 3 .stmt) t)) := by
  have henable : Run (watch (SpiStep fun _ => []) unobserved)
      (⟨idleCore, spiWriteCode oneByteFrame⟩, ()) (List.replicate 9 .stmt) _ :=
    run_mainAlone 9 rfl
  have hrun := ((henable.append (run_edge _ _ 30 rfl rfl)).append (run_rise _ _ _)).append
    (run_mainAlone 3 rfl)
  exact ⟨_, rfl, sentOnce_iff_guarded rfl (by simp) hrun.forget rfl⟩

/-- The counterexample: the interrupt has clocked the frame out, and the pin is
still low at the test behind it. -/
theorem not_sentOnce : ¬ ∀ (patches : Mem → List SpiFrame) (c : Core) (f : SpiFrame)
    (ls : List Label) (t : Config), c.ulSpiState = .idle → (∀ k, .call k ∉ ls) →
    Run (SpiStep patches) ⟨c, spiWriteCode f⟩ ls t → t.todo = [] → SentOnce f c.bus t.core.bus := by
  intro h
  have henable : Run (watch (SpiStep fun _ => []) unobserved)
      (⟨idleCore, spiWriteCode oneByteFrame⟩, ()) (List.replicate 9 .stmt) _ :=
    run_mainAlone 9 rfl
  have hrun := (henable.append (run_edge _ _ 30 rfl rfl)).append (run_mainAlone 12 rfl)
  have hsent := h _ _ _ _ _ rfl (by simp) hrun.forget rfl
  exact absurd hsent.length (by decide)

end SpiderL3S
