import SpiderL3S.Spi.Session
import SpiderL3S.Spi.Idle

/- The other direction of `session_refines`. What the driver does is a session; here every
   session that the packets answer is something the driver does. From a driver that is ready
   a frame goes out as soon as the device answers (`Goes.spiWrite`), a packet that the
   callback releases is heard and nothing else changes (`Goes.passing`), and one that it
   keeps is gone through in one round of the loop, released and, where it asks for a patch,
   answered (`Goes.round`), and in each case the driver is ready again. So a command stays
   in its wait only where the packets do not end it, and none makes a later one impossible
   (`session_realized`). The driver that `SpiOpen` leaves is ready behind its first call
   (`opened_realized`). -/
namespace SpiderL3S

open Runs Code

variable {patches : Mem → List SpiFrame}

/-! Steps to a known place. -/

/-- A run within a call leads from one place to the other. -/
def Goes (patches : Mem → List SpiFrame) (a b : Config × SessionLog) : Prop :=
  ∃ ls, (∀ l ∈ ls, ∀ k, l ≠ .call k) ∧ Run (sessionStep patches) a ls b

theorem Goes.refl (a : Config × SessionLog) : Goes patches a a :=
  ⟨[], fun _ h => absurd h List.not_mem_nil, .nil a⟩

theorem Goes.trans {a b d : Config × SessionLog} (h : Goes patches a b) (h' : Goes patches b d) :
    Goes patches a d := by
  obtain ⟨ls, hls, hrun⟩ := h
  obtain ⟨ks, hks, hrun'⟩ := h'
  exact ⟨ls ++ ks, List.forall_mem_append.mpr ⟨hls, hks⟩, hrun.append hrun'⟩

theorem Goes.single {a b : Config × SessionLog} {l : Label} (hl : ∀ k, l ≠ .call k)
    (h : sessionStep patches a l b) : Goes patches a b := by
  refine ⟨[l], ?_, .single h⟩
  intro l' hl'
  obtain rfl := List.mem_singleton.mp hl'
  exact hl

/-- The statement neither hears a packet nor begins to. -/
def Stmt.mute : Stmt → Bool
  | readHeader | receiveHandler | waitEvent .. => false
  | _ => true

theorem Stmt.mute_oneAtATime {c : Core} {s : Stmt} {rest : List Stmt} (h : s.mute = true) :
    OneAtATime ⟨c, s :: rest⟩ .stmt := by
  apply oneAtATime_of_minds
  show s.minds = true
  cases s <;> first | rfl | cases h

theorem Stmt.mute_packetsRead {c : Core} {s : Stmt} {rest : List Stmt} (h : s.mute = true) :
    packetsRead ⟨c, s :: rest⟩ .stmt = [] := by
  rw [packetsRead_stmt]
  apply heardAt_of_ne
  rintro rfl
  cases h

theorem stmt_ne_call (k : Call) : Label.stmt ≠ .call k := Label.noConfusion

theorem cons_ne (s : Stmt) (code : List Stmt) : s :: code ≠ [] := List.cons_ne_nil s code

/-- A statement with more behind it. -/
theorem Goes.stmt {c c' : Core} {s : Stmt} {put rest : List Stmt} (hmute : s.mute = true)
    (h : exec patches s c = (c', put)) (hrest : put ++ rest ≠ []) (log : SessionLog) :
    Goes patches (⟨c, s :: rest⟩, log) (⟨c', put ++ rest⟩, log) := by
  apply Goes.single stmt_ne_call
  refine ⟨Stmt.mute_oneAtATime hmute, ?_, ?_⟩
  · have hstep := @SpiStep.stmt patches c s rest
    rwa [h] at hstep
  · rw [observe_running stmt_ne_call hrest, Stmt.mute_packetsRead hmute, SessionLog.hear_nil]

/-- The last statement of a call. -/
theorem Goes.last {c c' : Core} {s : Stmt} (hmute : s.mute = true)
    (h : exec patches s c = (c', [])) (log : SessionLog) :
    Goes patches (⟨c, [s]⟩, log) (⟨c', []⟩, log.finish c'.args) := by
  apply Goes.single stmt_ne_call
  refine ⟨Stmt.mute_oneAtATime hmute, ?_, ?_⟩
  · have hstep := @SpiStep.stmt patches c s []
    rwa [h] at hstep
  · rw [observe_returned stmt_ne_call (List.cons_ne_nil _ _) rfl, Stmt.mute_packetsRead hmute,
      SessionLog.hear_nil]

/-- The wait begins with the buffer free. -/
theorem Goes.waitEvent {c : Core} (op : UInt16) (args : WaitArgs)
    (hfree : c.sl.usEventOrDataReceived = 0) (log : SessionLog) :
    Goes patches (⟨c, [.waitEvent op args]⟩, log)
      (⟨{ c with sl := { c.sl with usRxEventOpcode := op }, args, usReceivedEventOpcode := 0 },
        [.hehTest]⟩, log) := by
  apply Goes.single stmt_ne_call
  refine ⟨fun _ _ _ => hfree, .stmt c (.waitEvent op args) [], ?_⟩
  rw [observe_running stmt_ne_call (List.cons_ne_nil _ _)]
  exact (log.hear_nil).symm

/-- An edge, and the pin goes up again. -/
theorem Goes.edge {c c' : Core} {todo : List Stmt} (hpin : c.pinLow = false)
    (hisr : Isr patches { c with pinLow := true } c')
    (hok : c.reads = true → c.sl.usEventOrDataReceived = 0) (log : SessionLog) :
    Goes patches (⟨c, todo⟩, log)
      (⟨{ c' with pinLow := false }, todo⟩, log.hear (packetsRead ⟨c, todo⟩ .edge)) := by
  have hedge : ∀ k, Label.edge ≠ .call k := fun _ => Label.noConfusion
  have hrise : ∀ k, Label.rise ≠ .call k := fun _ => Label.noConfusion
  have hlog : ∀ (l : Label) (hl : ∀ k, l ≠ .call k) (c c' : Core) (log : SessionLog),
      log.observe ⟨c, todo⟩ l ⟨c', todo⟩ = log.hear (packetsRead ⟨c, todo⟩ l) := by
    intro l hl c c' log
    rw [observe_of_ne_call hl, Bool.and_not_self]
    rfl
  have hfirst : Goes patches (⟨c, todo⟩, log)
      (⟨c', todo⟩, log.hear (packetsRead ⟨c, todo⟩ .edge)) :=
    .single hedge ⟨hok, .edge todo hpin hisr, (hlog .edge hedge c c' log).symm⟩
  refine hfirst.trans (.single hrise ⟨trivial, .rise c' todo, ?_⟩)
  rw [hlog .rise hrise]
  exact (SessionLog.hear_nil _).symm

/-- An edge at which no packet is read. -/
theorem Goes.edge_quiet {c c' : Core} {todo : List Stmt} (hpin : c.pinLow = false)
    (hisr : Isr patches { c with pinLow := true } c') (hreads : c.reads = false)
    (log : SessionLog) :
    Goes patches (⟨c, todo⟩, log) (⟨{ c' with pinLow := false }, todo⟩, log) := by
  have hnot : ¬ c.reads = true := by
    rw [hreads]
    exact Bool.false_ne_true
  have hedge := @Goes.edge _ c c' todo hpin hisr (fun hr => absurd hr hnot) log
  have hheard : packetsRead ⟨c, todo⟩ .edge = [] := if_neg hnot
  rw [hheard, SessionLog.hear_nil] at hedge
  exact hedge

/-! Ready for a frame or a packet. -/

/-- No transfer is under way, interrupts are enabled and none was missed, the pin is up, the
buffer free and a callback installed. -/
structure Core.Ready (c : Core) : Prop where
  enable : c.enable = true
  process : c.process = false
  missed : c.missed = false
  idle : c.ulSpiState = .idle
  pin : c.pinLow = false
  free : c.sl.usEventOrDataReceived = 0
  callback : c.sl.sWlanCB = true

theorem Core.Ready.pin_up {c : Core} (h : c.Ready) : { c with pinLow := false } = c := by
  rw [← h.pin]

/-- The driver behind `SpiWrite`. -/
def Core.wrote (c : Core) (f : SpiFrame) : Core :=
  { c with tx := f, bus := c.bus ++ .csEnable :: (f.wire.map .tx ++ [.csDisable]) }

theorem Core.Ready.wrote {c : Core} (h : c.Ready) (f : SpiFrame) : (c.wrote f).Ready :=
  ⟨h.enable, h.process, h.missed, h.idle, h.pin, h.free, h.callback⟩

/-- The driver as `SpiWrite` waits for the device. -/
def Core.asked (c : Core) (f : SpiFrame) : Core :=
  { c with ulSpiState := .writeIrq, tx := f, bus := c.bus ++ [.csEnable] }

/-- The interrupt for a frame that waits. -/
theorem isr_writes {c : Core} (hen : c.enable = true) (hwrite : c.ulSpiState = .writeIrq) :
    Isr patches c c.irqWrite := by
  unfold Isr wlanIrqHandler
  rw [Finishes.cons_iff]
  simp only [exec, hen, if_true, List.append_nil]
  rw [Finishes.cons_iff]
  simp only [exec, List.nil_append]
  rw [Finishes.cons_iff]
  simp only [exec, hwrite, reduceCtorEq, if_false, List.cons_append, List.nil_append]
  rw [Finishes.cons_iff]
  simp only [exec, reduceCtorEq, if_false, List.cons_append, List.nil_append]
  rw [Finishes.cons_iff]
  simp only [exec, if_true, spiWriteOut, spiWriteDataSynchronous, List.cons_append,
    List.nil_append]
  rw [finishes_writeSync, Finishes.cons_iff]
  simp only [exec, List.nil_append]
  rw [Finishes.cons_iff]
  simp only [exec, List.nil_append]
  rw [Finishes.cons_iff]
  simp only [exec, List.nil_append, Finishes.nil_iff, Core.irqWrite, SpiFrame.wire,
    List.append_assoc]

/-- The device answers the chip select, and the frame goes out. -/
theorem Core.Ready.asked_irqWrite {c : Core} (h : c.Ready) (f : SpiFrame) (pinLow : Bool) :
    Core.irqWrite { c.asked f with pinLow } = { c.wrote f with pinLow } := by
  have hprocess : c.process = false := h.process
  have hidle : c.ulSpiState = .idle := h.idle
  have hbus : c.bus ++ [.csEnable] ++ (f.wire.map .tx ++ [.csDisable]) =
      c.bus ++ .csEnable :: (f.wire.map .tx ++ [.csDisable]) := List.append_assoc _ _ _
  unfold Core.irqWrite Core.asked Core.wrote
  dsimp only
  rw [hprocess, hidle, hbus]

/-- `SpiWrite` up to its wait for the device. -/
theorem Goes.asks {c : Core} (h : c.Ready) {f : SpiFrame} (hfits : ¬ f.Overrun)
    (rest : List Stmt) (log : SessionLog) :
    Goes patches (⟨c, spiWriteCode f ++ rest⟩, log) (⟨c.asked f, .swSpinDone :: rest⟩, log) := by
  have hen : c.enable = true := h.enable
  have hpin : c.pinLow = false := h.pin
  have hmissed : c.missed = false := h.missed
  have hidle : c.ulSpiState = .idle := h.idle
  have hmagic : exec patches (.swTestMagic f) c = (c, []) := by
    simp only [exec, if_neg hfits]
  have hpowerup : exec patches .swTestPowerup c = (c, []) := by
    simp only [exec, hidle, reduceCtorEq, if_false]
  have hprepare : exec patches (.swTestInitialized f) c =
      (c, wlanInterruptDisable ++ [.swSpinIdle, .setState .writeIrq, .swSetTx f, .csEnable] ++
        wlanInterruptEnable ++ [.swTestPin]) := by
    simp only [exec, hidle, reduceCtorEq, if_false]
  have hspin : exec patches .swSpinIdle { c with enable := false } =
      ({ c with enable := false }, []) := by
    simp only [exec, hidle, if_true]
  have henabled : exec patches .wieSetEnable { c.asked f with enable := false } =
      (c.asked f, []) := by
    simp only [exec, Core.asked, hen]
  have htestMissed : exec patches .wieTestMissed (c.asked f) = (c.asked f, []) := by
    simp only [exec, Core.asked, hmissed, Bool.false_eq_true, if_false]
  have htestPin : exec patches .swTestPin (c.asked f) = (c.asked f, []) := by
    simp only [exec, Core.asked, hpin, Bool.false_eq_true, if_false]
  refine Goes.trans (.stmt rfl hmagic (cons_ne _ _) log) ?_
  refine Goes.trans (.stmt rfl hpowerup (cons_ne _ _) log) ?_
  refine Goes.trans (.stmt rfl hprepare (cons_ne _ _) log) ?_
  refine Goes.trans (.stmt rfl rfl (cons_ne _ _) log) ?_
  refine Goes.trans (.stmt rfl hspin (cons_ne _ _) log) ?_
  -- the state, the frame and the chip select, with interrupts masked
  refine Goes.trans (.stmt rfl rfl (cons_ne _ _) log) ?_
  refine Goes.trans (.stmt rfl rfl (cons_ne _ _) log) ?_
  refine Goes.trans (.stmt rfl rfl (cons_ne _ _) log) ?_
  refine Goes.trans (.stmt rfl henabled (cons_ne _ _) log) ?_
  refine Goes.trans (.stmt rfl htestMissed (cons_ne _ _) log) ?_
  exact .stmt rfl htestPin (cons_ne _ _) log

/-- **A frame goes out** from a driver that is ready, and leaves it ready. -/
theorem Goes.spiWrite {c : Core} (h : c.Ready) {f : SpiFrame} (hfits : ¬ f.Overrun)
    {rest : List Stmt} (hrest : rest ≠ []) (log : SessionLog) :
    Goes patches (⟨c, spiWriteCode f ++ rest⟩, log) (⟨c.wrote f, rest⟩, log) := by
  have hidle : c.ulSpiState = .idle := h.idle
  -- the device answers, and the interrupt writes the frame
  have hanswered : Goes patches (⟨c.asked f, .swSpinDone :: rest⟩, log)
      (⟨c.wrote f, .swSpinDone :: rest⟩, log) := by
    have hreads : (c.asked f).reads = false := Bool.and_false _
    have hisr : Isr patches { c.asked f with pinLow := true }
        { c.wrote f with pinLow := true } := by
      rw [← h.asked_irqWrite f true]
      exact isr_writes h.enable rfl
    rw [← (h.wrote f).pin_up]
    exact @Goes.edge_quiet _ (c.asked f) _ _ h.pin hisr hreads log
  have hdone : exec patches .swSpinDone (c.wrote f) = (c.wrote f, []) := by
    simp only [exec, Core.wrote, hidle, if_true]
  exact ((Goes.asks h hfits rest log).trans hanswered).trans (.stmt rfl hdone hrest log)

/-! The first frame. -/

/-- The driver as `SpiOpen` leaves it, with a callback installed. -/
structure Core.Opened (c : Core) : Prop where
  enable : c.enable = true
  process : c.process = false
  missed : c.missed = false
  powerup : c.ulSpiState = .powerup
  pin : c.pinLow = false
  free : c.sl.usEventOrDataReceived = 0
  callback : c.sl.sWlanCB = true

theorem start_opened (coming : Nat → Mem) (rx : Mem) (tx : SpiFrame) (args : WaitArgs) :
    (Core.start coming true rx tx args).Opened :=
  ⟨rfl, rfl, rfl, rfl, rfl, rfl, rfl⟩

/-- The driver behind its first frame. -/
def Core.began (c : Core) (f : SpiFrame) : Core :=
  { c with
    ulSpiState := .idle
    bus := c.bus ++ .csEnable ::
      ((f.bytes 0 4 ++ f.bytes 4 (f.size - 4).toNat).map .tx ++ [.csDisable]) }

theorem Core.Opened.began {c : Core} (h : c.Opened) (f : SpiFrame) : (c.began f).Ready :=
  ⟨h.enable, h.process, h.missed, rfl, h.pin, h.free, h.callback⟩

/-- The first interrupt, for the device that has started. -/
theorem isr_powerup {c : Core} (hen : c.enable = true) (hpow : c.ulSpiState = .powerup) :
    Isr patches c { c with process := false, ulSpiState := .initialized } := by
  unfold Isr wlanIrqHandler
  rw [Finishes.cons_iff]
  simp only [exec, hen, if_true, List.append_nil]
  rw [Finishes.cons_iff]
  simp only [exec, List.nil_append]
  rw [Finishes.cons_iff]
  simp only [exec, hpow, if_true, List.cons_append, List.nil_append]
  rw [Finishes.cons_iff]
  simp only [exec, List.nil_append]
  rw [Finishes.cons_iff]
  exact Finishes.nil_iff.mpr (by simp only [exec, hen])

/-- The bytes of a transfer that main code makes. -/
theorem Goes.writeSync (f : SpiFrame) (p n : Nat) (c : Core) {rest : List Stmt}
    (hrest : rest ≠ []) (log : SessionLog) :
    Goes patches (⟨c, .writeSync f p n :: rest⟩, log)
      (⟨{ c with bus := c.bus ++ (f.bytes p n).map .tx }, rest⟩, log) := by
  induction n generalizing p c with
  | zero =>
    have hnone : exec patches (.writeSync f p 0) c =
        ({ c with bus := c.bus ++ (f.bytes p 0).map .tx }, []) := by
      simp only [exec, SpiFrame.bytes, List.range'_zero, List.map_nil, List.append_nil]
    exact .stmt rfl hnone hrest log
  | succ n ih =>
    have hone : exec patches (.writeSync f p (n + 1)) c =
        ({ c with bus := c.bus ++ [.tx (f.byte p)] }, [.writeSync f (p + 1) n]) := rfl
    have hbus : c.bus ++ (f.bytes p (n + 1)).map .tx =
        c.bus ++ [.tx (f.byte p)] ++ (f.bytes (p + 1) n).map .tx := by
      rw [SpiFrame.bytes_succ, List.map_cons, List.append_assoc, List.singleton_append]
    rw [hbus]
    exact (Goes.stmt rfl hone (cons_ne _ _) log).trans (ih _ _)

/-- `SpiFirstWrite`. -/
theorem Goes.firstFrame (c : Core) (f : SpiFrame) {rest : List Stmt} (hrest : rest ≠ [])
    (log : SessionLog) :
    Goes patches (⟨c, spiFirstWrite f ++ rest⟩, log) (⟨c.began f, rest⟩, log) := by
  have hbus : c.bus ++ [.csEnable] ++ (f.bytes 0 4).map .tx ++
      (f.bytes 4 (f.size - 4).toNat).map .tx ++ [.csDisable] =
      c.bus ++ .csEnable ::
        ((f.bytes 0 4 ++ f.bytes 4 (f.size - 4).toNat).map .tx ++ [.csDisable]) := by
    simp only [List.map_append, List.append_assoc, List.cons_append, List.nil_append]
  have hclose : ∀ c' : Core, exec patches .csDisable c' =
      ({ c' with bus := c'.bus ++ [.csDisable] }, []) := fun _ => rfl
  unfold Core.began
  rw [← hbus]
  refine Goes.trans (.stmt rfl rfl (cons_ne _ _) log) ?_
  refine Goes.trans (.writeSync f 0 4 _ (cons_ne _ _) log) ?_
  refine Goes.trans (.writeSync f 4 _ _ (cons_ne _ _) log) ?_
  refine Goes.trans (.stmt rfl rfl (cons_ne _ _) log) ?_
  exact .stmt rfl (hclose _) hrest log

/-- **The first frame goes out** as soon as the device has started. -/
theorem Goes.firstWrite {c : Core} (h : c.Opened) {f : SpiFrame} (hfits : ¬ f.Overrun)
    {rest : List Stmt} (hrest : rest ≠ []) (log : SessionLog) :
    Goes patches (⟨c, spiWriteCode f ++ rest⟩, log) (⟨c.began f, rest⟩, log) := by
  have hpowerup : c.ulSpiState = .powerup := h.powerup
  let woken : Core := { c with ulSpiState := .initialized }
  have hspins : Goes patches (⟨c, spiWriteCode f ++ rest⟩, log)
      (⟨c, .swSpinInitialized :: .swTestInitialized f :: .swSpinDone :: rest⟩, log) := by
    have hmagic : exec patches (.swTestMagic f) c = (c, []) := by
      simp only [exec, if_neg hfits]
    have htest : exec patches .swTestPowerup c = (c, [.swSpinInitialized]) := by
      simp only [exec, hpowerup, if_true]
    exact (Goes.stmt rfl hmagic (cons_ne _ _) log).trans (.stmt rfl htest (cons_ne _ _) log)
  -- the interrupt of the device that has started
  have hwoken : Goes patches
      (⟨c, .swSpinInitialized :: .swTestInitialized f :: .swSpinDone :: rest⟩, log)
      (⟨woken, .swSpinInitialized :: .swTestInitialized f :: .swSpinDone :: rest⟩, log) := by
    have hreads : c.reads = false := by
      rw [Core.reads, hpowerup]
      exact Bool.and_false _
    have hisr := @isr_powerup patches { c with pinLow := true } h.enable hpowerup
    have hpin : ({ c with process := false, ulSpiState := .initialized, pinLow := false } : Core) =
        woken := by
      simp only [woken, h.process, h.pin]
    rw [← hpin]
    exact Goes.edge_quiet h.pin hisr hreads log
  have hwrites : Goes patches
      (⟨woken, .swSpinInitialized :: .swTestInitialized f :: .swSpinDone :: rest⟩, log)
      (⟨c.began f, .swSpinDone :: rest⟩, log) := by
    have hspin : exec patches .swSpinInitialized woken = (woken, []) := rfl
    have hfirst : exec patches (.swTestInitialized f) woken = (woken, spiFirstWrite f) := rfl
    refine Goes.trans (.stmt rfl hspin (cons_ne _ _) log) ?_
    refine Goes.trans (.stmt rfl hfirst (cons_ne _ _) log) ?_
    exact Goes.firstFrame woken f (cons_ne _ _) log
  have hdone : exec patches .swSpinDone (c.began f) = (c.began f, []) := rfl
  exact ((hspins.trans hwoken).trans hwrites).trans (.stmt rfl hdone hrest log)

/-! Packets. -/

/-- The device brings these packets next, as they come to be in the receive buffer, and
none of them takes the magic number away. -/
inductive Brings : Mem → (Nat → Mem) → List Mem → Prop
  | nil (rx : Mem) (coming : Nat → Mem) : Brings rx coming []
  | cons {rx : Mem} {coming : Nat → Mem} {packets : List Mem}
      (hmagic : (spiReadPacket rx (coming 0)).mem (cc3000RxBufferSize - 1) =
        cc3000BufferMagicNumber)
      (h : Brings (spiReadPacket rx (coming 0)).mem (fun n => coming (n + 1)) packets) :
      Brings rx coming ((spiReadPacket rx (coming 0)).mem.drop spiHeaderSize :: packets)

/-- The driver behind the read of the next packet. -/
def Core.heard (c : Core) : Core := { c.irqRead with pinLow := false }

/-- **A packet is heard** at any place, by a driver that is ready. -/
theorem Goes.heard {c : Core} (h : c.Ready) {data : Mem} {packets : List Mem}
    (hbrings : Brings c.rx c.coming (data :: packets)) (todo : List Stmt) (log : SessionLog) :
    Goes patches (⟨c, todo⟩, log) (⟨c.heard, todo⟩, log.hear [data]) ∧ c.nextData = data ∧
      Brings c.heard.rx c.heard.coming packets := by
  cases hbrings with
  | cons hmagic hbrings =>
    have hreads : c.reads = true := by rw [Core.reads, h.enable, h.idle]; rfl
    have hisr : Isr patches { c with pinLow := true } (Core.irqRead { c with pinLow := true }) :=
      (@isr_idle_iff _ { c with pinLow := true } _ h.enable h.idle).mpr
        ⟨hmagic, not_nextCallsNull h.callback, rfl⟩
    have hedge := @Goes.edge _ c _ todo h.pin hisr (fun _ => h.free) log
    have hheard : packetsRead ⟨c, todo⟩ .edge = [c.nextData] := if_pos hreads
    rw [hheard] at hedge
    exact ⟨hedge, rfl, hbrings⟩

/-- A packet that is released leaves the driver ready. -/
theorem Core.Ready.released {c : Core} (h : c.Ready) {sl : SLInfo}
    (hreleased : spiReceiveHandler c.sl c.nextData = (sl, true)) :
    c.heard.Ready ∧ c.heard.sl = sl := by
  have hreceive : c.nextReceive = (sl, true) := hreleased
  have hflag := spiReceiveHandler_marks hreleased
  have hsl : c.heard.sl = sl := congrArg Prod.fst hreceive
  refine ⟨⟨congrArg Prod.snd hreceive, rfl, ?_, rfl, rfl, ?_, ?_⟩, hsl⟩
  · show (c.missed && !c.nextReceive.2) = false
    rw [h.missed, Bool.false_and]
  · rw [hsl]
    exact hflag
  · exact (spiReceiveHandler_sWlanCB c.sl c.nextData).trans h.callback

/-- A packet is in the buffer, and interrupts are masked. -/
structure Core.Full (c : Core) : Prop where
  enable : c.enable = false
  process : c.process = false
  missed : c.missed = false
  idle : c.ulSpiState = .idle
  pin : c.pinLow = false
  flag : c.sl.usEventOrDataReceived ≠ 0
  callback : c.sl.sWlanCB = true

theorem Core.Ready.kept {c : Core} (h : c.Ready) {sl : SLInfo}
    (hkept : spiReceiveHandler c.sl c.nextData = (sl, false)) :
    c.heard.Full ∧ c.heard.sl = sl := by
  have hreceive : c.nextReceive = (sl, false) := hkept
  have hflag := spiReceiveHandler_marks hkept
  have hsl : c.heard.sl = sl := congrArg Prod.fst hreceive
  refine ⟨⟨congrArg Prod.snd hreceive, rfl, ?_, rfl, rfl, ?_, ?_⟩, hsl⟩
  · show (c.missed && !c.nextReceive.2) = false
    rw [h.missed, Bool.false_and]
  · rw [hsl, hflag]
    decide
  · exact (spiReceiveHandler_sWlanCB c.sl c.nextData).trans h.callback

/-! One round of the loop. -/

/-- The last statement on an event. -/
theorem Goes.cleared (c : Core) (log : SessionLog) :
    Goes patches (⟨c, .hehClearOpcode :: hehTail⟩, log)
      (⟨{ c with
          sl := if c.usReceivedEventOpcode = c.sl.usRxEventOpcode then
            { c.sl with usRxEventOpcode := 0 } else c.sl }, hehTail⟩, log) := by
  have hclear : exec patches .hehClearOpcode c =
      ({ c with
          sl := if c.usReceivedEventOpcode = c.sl.usRxEventOpcode then
            { c.sl with usRxEventOpcode := 0 } else c.sl }, []) := rfl
  exact .stmt rfl hclear (cons_ne _ _) log

/-- An event in the buffer is decoded. -/
theorem Goes.decoded {c : Core} (hevent : c.data hciPacketTypeOffset = hciTypeEvnt)
    (hcallback : c.sl.sWlanCB = true)
    (hcode : c.usReceivedEventOpcode = eventCode c.data) (log : SessionLog) :
    Goes patches (⟨c, .hehUnsol :: .hehClearOpcode :: hehTail⟩, log)
      (⟨{ c with
          sl := (hciPacketReceived c.sl c.args c.data).1
          args := (hciPacketReceived c.sl c.args c.data).2 }, hehTail⟩, log) := by
  have hcalls := not_callsNull_of_installed hcallback c.data
  cases hhandled : (hciUnsolEventHandler c.sl c.data).2 with
  | true =>
    have hreceived : hciPacketReceived c.sl c.args c.data =
        (if c.usReceivedEventOpcode = (hciUnsolEventHandler c.sl c.data).1.usRxEventOpcode then
            { (hciUnsolEventHandler c.sl c.data).1 with usRxEventOpcode := 0 }
          else (hciUnsolEventHandler c.sl c.data).1, c.args) := by
      rw [hciPacketReceived, if_pos hevent]
      dsimp only
      rw [hhandled, if_pos rfl, hcode]
    have hunsol : exec patches .hehUnsol c =
        ({ c with sl := (hciUnsolEventHandler c.sl c.data).1 }, []) := by
      simp only [exec, if_neg hcalls, hhandled, if_true]
    rw [hreceived]
    exact (Goes.stmt rfl hunsol (cons_ne _ _) log).trans (.cleared _ log)
  | false =>
    have hdecode : Core.decode { c with sl := (hciUnsolEventHandler c.sl c.data).1 } =
        hciEventSwitch (hciUnsolEventHandler c.sl c.data).1 c.args.ret c.data :=
      @decode_eq { c with sl := (hciUnsolEventHandler c.sl c.data).1 } hcode
    have hreceived : hciPacketReceived c.sl c.args c.data =
        (if c.usReceivedEventOpcode =
            (hciEventSwitch (hciUnsolEventHandler c.sl c.data).1 c.args.ret
              c.data).1.usRxEventOpcode then
            { (hciEventSwitch (hciUnsolEventHandler c.sl c.data).1 c.args.ret c.data).1 with
              usRxEventOpcode := 0 }
          else (hciEventSwitch (hciUnsolEventHandler c.sl c.data).1 c.args.ret c.data).1,
        { c.args with
          ret := (hciEventSwitch (hciUnsolEventHandler c.sl c.data).1 c.args.ret c.data).2 }) := by
      rw [hciPacketReceived, if_pos hevent]
      dsimp only
      rw [hhandled, if_neg Bool.false_ne_true, hcode]
    have hunsol : exec patches .hehUnsol c =
        ({ c with sl := (hciUnsolEventHandler c.sl c.data).1 }, [.hehSwitch]) := by
      simp only [exec, if_neg hcalls, hhandled, Bool.false_eq_true, if_false]
    have hswitch : ∀ c' : Core, exec patches .hehSwitch c' =
        ({ c' with sl := c'.decode.1, args := { c'.args with ret := c'.decode.2 } }, []) :=
      fun _ => rfl
    rw [hreceived, ← hdecode]
    refine (Goes.stmt rfl hunsol (cons_ne _ _) log).trans ?_
    exact (Goes.stmt rfl (hswitch _) (cons_ne _ _) log).trans (.cleared _ log)

/-- The packet in the buffer is gone through. -/
theorem Goes.taken {c : Core} (hflag : c.sl.usEventOrDataReceived ≠ 0)
    (hcallback : c.sl.sWlanCB = true) (log : SessionLog) :
    ∃ code, Goes patches (⟨c, [.hehTest]⟩, log)
      (⟨{ c with
          sl := (hciPacketReceived c.sl c.args c.data).1
          args := (hciPacketReceived c.sl c.args c.data).2
          usReceivedEventOpcode := code }, hehTail⟩, log) := by
  have htest : exec patches .hehTest c = (c, .hehTestType :: hehTail) := by
    simp only [exec, if_pos hflag]
    rfl
  have hstart : Goes patches (⟨c, [.hehTest]⟩, log) (⟨c, .hehTestType :: hehTail⟩, log) :=
    .stmt rfl htest (cons_ne _ _) log
  by_cases hevent : c.data hciPacketTypeOffset = hciTypeEvnt
  · have htype : exec patches .hehTestType c =
        ({ c with usReceivedEventOpcode := eventCode c.data }, [.hehUnsol, .hehClearOpcode]) := by
      simp only [exec, if_pos hevent]
    have hopened := hstart.trans (.stmt rfl htype (cons_ne _ _) log)
    exact ⟨eventCode c.data, hopened.trans
      (@Goes.decoded _ { c with usReceivedEventOpcode := eventCode c.data } hevent hcallback rfl
        log)⟩
  · have htype : exec patches .hehTestType c = (c, [.hehData]) := by
      simp only [exec, if_neg hevent]
    have hreceived : hciPacketReceived c.sl c.args c.data =
        hciDataReceived c.sl c.args c.data := by
      rw [hciPacketReceived, if_neg hevent]
    have hdata : exec patches .hehData c =
        ({ c with
            sl := (hciDataReceived c.sl c.args c.data).1
            args := (hciDataReceived c.sl c.args c.data).2 }, []) := rfl
    refine ⟨c.usReceivedEventOpcode, (hstart.trans (.stmt rfl htype (cons_ne _ _) log)).trans ?_⟩
    rw [hreceived]
    exact .stmt rfl hdata (cons_ne _ _) log

/-- The driver is ready again, and nothing more was read. -/
structure Core.Resumes (c : Core) (sl : SLInfo) (args : WaitArgs) (c' : Core) : Prop where
  ready : c'.Ready
  rx : c'.rx = c.rx
  coming : c'.coming = c.coming
  sl : c'.sl = sl
  args : c'.args = args

/-- Frames, one behind the other. -/
theorem Goes.spiWrites {c : Core} (h : c.Ready) {frames : List SpiFrame}
    (hfits : ∀ f ∈ frames, ¬ f.Overrun) {rest : List Stmt} (hrest : rest ≠ [])
    (log : SessionLog) :
    ∃ c', c.Resumes c.sl c.args c' ∧
      Goes patches (⟨c, frames.flatMap spiWriteCode ++ rest⟩, log) (⟨c', rest⟩, log) := by
  induction frames generalizing c with
  | nil => exact ⟨c, ⟨h, rfl, rfl, rfl, rfl⟩, .refl _⟩
  | cons f frames ih =>
    obtain ⟨c', hresumes, hgoes⟩ := ih (h.wrote f) fun f' hf' =>
      hfits f' (List.mem_cons_of_mem _ hf')
    refine ⟨c', ⟨hresumes.ready, hresumes.rx, hresumes.coming, hresumes.sl, hresumes.args⟩, ?_⟩
    rw [List.flatMap_cons, List.append_assoc]
    have hmore : frames.flatMap spiWriteCode ++ rest ≠ [] :=
      List.append_ne_nil_of_right_ne_nil _ hrest
    exact (Goes.spiWrite h (hfits f List.mem_cons_self) hmore log).trans hgoes

/-- A packet is released, and interrupts are taken again. -/
theorem Goes.resumed {c : Core} (hmissed : c.missed = false) (log : SessionLog) :
    Goes patches (⟨c, hehTail⟩, log)
      (⟨{ c with enable := true, sl := { c.sl with usEventOrDataReceived := 0 } },
        [.hehPatch, .hehTestReturn]⟩, log) := by
  let released : Core :=
    { c with enable := true, sl := { c.sl with usEventOrDataReceived := 0 } }
  have htest : exec patches .wieTestMissed released = (released, []) := by
    simp only [exec, released, hmissed, Bool.false_eq_true, if_false]
  have henabled : Goes patches (⟨c, hehTail⟩, log)
      (⟨released, [.wieTestMissed, .hehPatch, .hehTestReturn]⟩, log) :=
    (Goes.stmt rfl rfl (cons_ne _ _) log).trans (.stmt rfl rfl (cons_ne _ _) log)
  exact henabled.trans (.stmt rfl htest (cons_ne _ _) log)

/-- A request for a patch is answered by frames of its own. -/
theorem Goes.patched {c : Core} (h : c.Ready)
    (hpatches : ∀ data, ∀ f ∈ patches data, ¬ f.Overrun) (log : SessionLog) :
    ∃ c', c.Resumes c.sl c.args c' ∧
      Goes patches (⟨c, [.hehPatch, .hehTestReturn]⟩, log) (⟨c', [.hehTestReturn]⟩, log) := by
  obtain ⟨frames, hframes, hpatch⟩ : ∃ frames : List SpiFrame, (∀ f ∈ frames, ¬ f.Overrun) ∧
      exec patches .hehPatch c = (c, frames.flatMap spiWriteCode) := by
    by_cases hasks : c.data hciPacketTypeOffset = hciTypeEvnt ∧
        c.usReceivedEventOpcode = hciEvntPatchesReq
    · exact ⟨patches c.data, hpatches _, by simp only [exec, if_pos hasks]⟩
    · exact ⟨[], fun _ hf => absurd hf List.not_mem_nil, by simp only [exec, if_neg hasks]; rfl⟩
  obtain ⟨c', hresumes, hwritten⟩ :=
    @Goes.spiWrites patches c h frames hframes [.hehTestReturn] (cons_ne _ _) log
  have hasked : Goes patches (⟨c, [.hehPatch, .hehTestReturn]⟩, log)
      (⟨c, frames.flatMap spiWriteCode ++ [.hehTestReturn]⟩, log) :=
    .stmt rfl hpatch (List.append_ne_nil_of_right_ne_nil _ (cons_ne _ _)) log
  exact ⟨c', hresumes, hasked.trans hwritten⟩

/-- **One round** releases the packet, answers it where it asks for a patch, and leaves the
driver ready at the test of the loop. -/
theorem Goes.round {c : Core} (h : c.Full) (hpatches : ∀ data, ∀ f ∈ patches data, ¬ f.Overrun)
    {sl : SLInfo} {args : WaitArgs} {ended : Bool}
    (hround : hciRound c.sl c.args c.data = (sl, args, ended)) (log : SessionLog) :
    ∃ c', c.Resumes sl args c' ∧ waitOver sl = ended ∧
      Goes patches (⟨c, [.hehTest]⟩, log) (⟨c', [.hehTestReturn]⟩, log) := by
  obtain ⟨code, htaken⟩ := @Goes.taken patches c h.flag h.callback log
  obtain ⟨rfl, hrest⟩ := Prod.mk.inj hround
  obtain ⟨rfl, hover⟩ := Prod.mk.inj hrest
  have hfreed := @Goes.resumed patches { c with
    sl := (hciPacketReceived c.sl c.args c.data).1
    args := (hciPacketReceived c.sl c.args c.data).2
    usReceivedEventOpcode := code } h.missed log
  obtain ⟨c', hresumes, hpatched⟩ := @Goes.patched patches { c with
    enable := true
    sl := { (hciPacketReceived c.sl c.args c.data).1 with usEventOrDataReceived := 0 }
    args := (hciPacketReceived c.sl c.args c.data).2
    usReceivedEventOpcode := code }
    ⟨rfl, h.process, h.missed, h.idle, h.pin, rfl,
      (hciPacketReceived_sWlanCB c.sl c.args c.data).trans h.callback⟩ hpatches log
  exact ⟨c', ⟨hresumes.ready, hresumes.rx, hresumes.coming, hresumes.sl, hresumes.args⟩, hover,
    (htaken.trans hfreed).trans hpatched⟩

/-! A wait, and a call. -/

theorem SessionLog.hear_append (log : SessionLog) (heard more : List Mem) :
    log.hear (heard ++ more) = (log.hear heard).hear more := by
  obtain ⟨early, turns⟩ := log
  cases turns with
  | nil => exact congrArg (SessionLog.mk · []) (List.append_assoc early heard more).symm
  | cons turn older =>
    show SessionLog.mk early ({ turn with packets := turn.packets ++ (heard ++ more) } :: older) =
      SessionLog.mk early ({ turn with packets := turn.packets ++ heard ++ more } :: older)
    rw [List.append_assoc]

/-- **One packet** in a wait does what it does to `hciEventHandler`. -/
theorem Goes.packet {c : Core} (h : c.Ready)
    (hpatches : ∀ data, ∀ f ∈ patches data, ¬ f.Overrun) {data : Mem} {packets : List Mem}
    (hbrings : Brings c.rx c.coming (data :: packets)) {sl : SLInfo} {args : WaitArgs}
    {ended : Bool} (hdeliver : deliver c.sl c.args data = (sl, args, ended)) (log : SessionLog) :
    ∃ c', c'.Ready ∧ c'.sl = sl ∧ c'.args = args ∧ Brings c'.rx c'.coming packets ∧
      Goes patches (⟨c, [.hehTest]⟩, log)
        (if ended then (⟨c', []⟩, (log.hear [data]).finish args)
          else (⟨c', [.hehTest]⟩, log.hear [data])) := by
  obtain ⟨hheard, hdata, hmore⟩ := @Goes.heard patches c h data packets hbrings [.hehTest] log
  cases hreceived : spiReceiveHandler c.sl data with
  | mk sl₁ released =>
    cases released with
    | true =>
      rw [deliver_released _ hreceived] at hdeliver
      obtain ⟨rfl, rfl, rfl⟩ : sl₁ = sl ∧ c.args = args ∧ false = ended := by
        have hparts := Prod.mk.inj hdeliver
        exact ⟨hparts.1, Prod.mk.inj hparts.2⟩
      rw [← hdata] at hreceived
      obtain ⟨hready, hsl⟩ := h.released hreceived
      exact ⟨c.heard, hready, hsl, rfl, hmore, hheard⟩
    | false =>
      rw [deliver_kept _ hreceived] at hdeliver
      rw [← hdata] at hreceived
      obtain ⟨hfull, hsl⟩ := h.kept hreceived
      have hround : hciRound c.heard.sl c.heard.args c.heard.data = (sl, args, ended) := by
        rw [← hdeliver, hsl, ← hdata]
        rfl
      obtain ⟨c', hresumes, hover, hgoes⟩ := Goes.round hfull hpatches hround (log.hear [data])
      have hover' : waitOver c'.sl = ended := by
        rw [hresumes.sl]
        exact hover
      refine ⟨c', hresumes.ready, hresumes.sl, hresumes.args, ?_, ?_⟩
      · rw [hresumes.rx, hresumes.coming]
        exact hmore
      · have hreturn : exec patches .hehTestReturn c' = (c', if ended then [] else [.hehTest]) := by
          simp only [exec, hover']
        cases ended with
        | true =>
          have hlast := Goes.last rfl hreturn (log.hear [data])
          rw [hresumes.args] at hlast
          exact (hheard.trans hgoes).trans hlast
        | false => exact (hheard.trans hgoes).trans (.stmt rfl hreturn (cons_ne _ _) _)

/-- **A wait** goes through its packets, and returns with the one that ends it. -/
theorem Goes.wait {c : Core} (h : c.Ready) (hpatches : ∀ data, ∀ f ∈ patches data, ¬ f.Overrun)
    {frames packets : List Mem} {last : Mem}
    (hbrings : Brings c.rx c.coming (frames ++ last :: packets)) {sl : SLInfo} {args : WaitArgs}
    (hgoesOn : (hciEventHandler c.sl c.args frames).2.2 = false)
    (hends : hciEventHandler c.sl c.args (frames ++ [last]) = (sl, args, true))
    (log : SessionLog) :
    ∃ c', c'.Ready ∧ c'.sl = sl ∧ Brings c'.rx c'.coming packets ∧
      Goes patches (⟨c, [.hehTest]⟩, log)
        (⟨c', []⟩, (log.hear (frames ++ [last])).finish args) := by
  induction frames generalizing c log with
  | nil =>
    rw [List.nil_append, hciEventHandler_single] at hends
    obtain ⟨c', hready, hsl, -, hmore, hgoes⟩ := Goes.packet h hpatches hbrings hends log
    exact ⟨c', hready, hsl, hmore, hgoes⟩
  | cons data frames ih =>
    cases hd : deliver c.sl c.args data with
    | mk sl₁ rest =>
      obtain ⟨args₁, ended⟩ := rest
      rw [hciEventHandler, hd] at hgoesOn
      cases ended with
      | true => cases hgoesOn
      | false =>
        rw [List.cons_append, hciEventHandler_cons hd] at hends
        obtain ⟨c₁, hready₁, hsl₁, hargs₁, hmore₁, hgoes₁⟩ :=
          Goes.packet h hpatches hbrings hd log
        rw [← hsl₁, ← hargs₁] at hends hgoesOn
        obtain ⟨c', hready, hsl, hmore, hgoes⟩ :=
          ih hready₁ hmore₁ hgoesOn hends (log.hear [data])
        have hall : log.hear (data :: frames ++ [last]) =
            (log.hear [data]).hear (frames ++ [last]) := log.hear_append [data] _
        refine ⟨c', hready, hsl, hmore, ?_⟩
        rw [hall]
        exact Goes.trans hgoes₁ hgoes

/-- The callback keeps none of the packets. -/
def Passing (sl : SLInfo) : List Mem → Prop
  | [] => True
  | data :: packets =>
    (spiReceiveHandler sl data).2 = true ∧ Passing (spiReceiveHandler sl data).1 packets

/-- **Packets that are released** are heard at any place. -/
theorem Goes.passing {c : Core} (h : c.Ready) {heard packets : List Mem}
    (hpassing : Passing c.sl heard) (hbrings : Brings c.rx c.coming (heard ++ packets))
    (todo : List Stmt) (log : SessionLog) :
    ∃ c', c'.Ready ∧ c'.sl = receiveAll c.sl heard ∧ Brings c'.rx c'.coming packets ∧
      Goes patches (⟨c, todo⟩, log) (⟨c', todo⟩, log.hear heard) := by
  induction heard generalizing c log with
  | nil =>
    rw [SessionLog.hear_nil]
    exact ⟨c, h, rfl, hbrings, .refl _⟩
  | cons data heard ih =>
    obtain ⟨hfirst, hdata, hmore⟩ :=
      @Goes.heard patches c h data (heard ++ packets) hbrings todo log
    obtain ⟨hreleased, hpassing⟩ := hpassing
    have hreceived : spiReceiveHandler c.sl c.nextData =
        ((spiReceiveHandler c.sl data).1, true) := by
      rw [hdata]
      exact Prod.ext rfl hreleased
    obtain ⟨hready, hsl⟩ := h.released hreceived
    rw [← hsl] at hpassing
    obtain ⟨c', hready', hsl', hmore', hgoes⟩ := ih hready hpassing hmore (log.hear [data])
    have hall : log.hear (data :: heard) = (log.hear [data]).hear heard :=
      log.hear_append [data] heard
    refine ⟨c', hready', ?_, hmore', ?_⟩
    · rw [hsl', hsl]
      rfl
    · rw [hall]
      exact hfirst.trans hgoes

theorem Label.commands_of_ne_call {l : Label} (h : ∀ k, l ≠ .call k) : l.commands := by
  cases l with
  | call k => exact absurd rfl (h k)
  | stmt | edge | rise => trivial

/-- A wait, with the packets behind it. -/
theorem Goes.waits {c : Core} (h : c.Ready) (hpatches : ∀ data, ∀ f ∈ patches data, ¬ f.Overrun)
    {op : UInt16} {frames late packets : List Mem} {last : Mem} {sl : SLInfo}
    {args args' : WaitArgs}
    (hbrings : Brings c.rx c.coming (frames ++ last :: (late ++ packets)))
    (hgoesOn : (hciEventHandler { c.sl with usRxEventOpcode := op } args frames).2.2 = false)
    (hends : hciEventHandler { c.sl with usRxEventOpcode := op } args (frames ++ [last]) =
      (sl, args', true)) (hlate : Passing sl late) (log : SessionLog) :
    ∃ c', c'.Ready ∧ c'.sl = receiveAll sl late ∧ Brings c'.rx c'.coming packets ∧
      Goes patches (⟨c, [.waitEvent op args]⟩, log)
        (⟨c', []⟩, ((log.hear (frames ++ [last])).finish args').hear late) := by
  have hbegins := @Goes.waitEvent patches c op args h.free log
  obtain ⟨c₁, hready₁, hsl₁, hbrings₁, hgoes₁⟩ :=
    @Goes.wait patches { c with
        sl := { c.sl with usRxEventOpcode := op }, args, usReceivedEventOpcode := 0 }
      ⟨h.enable, h.process, h.missed, h.idle, h.pin, h.free, h.callback⟩ hpatches frames
      (late ++ packets) last hbrings sl args' hgoesOn hends log
  rw [← hsl₁] at hlate
  obtain ⟨c', hready', hsl', hbrings', hgoes'⟩ :=
    @Goes.passing patches c₁ hready₁ late packets hlate hbrings₁ []
      ((log.hear (frames ++ [last])).finish args')
  refine ⟨c', hready', ?_, hbrings', (hbegins.trans hgoes₁).trans hgoes'⟩
  rw [hsl', hsl₁]

/-- The log of a call that has returned. -/
theorem hear_finish_hear (log : SessionLog) (f : SpiFrame) (op : UInt16) (args args' : WaitArgs)
    (before waited late : List Mem) :
    ((((SessionLog.mk log.early (⟨f, op, args, [], none⟩ :: log.turns)).hear before).hear
        waited).finish args').hear late =
      ⟨log.early, ⟨f, op, args, before ++ (waited ++ late), some args'⟩ :: log.turns⟩ := by
  show SessionLog.mk log.early
    (⟨f, op, args, [] ++ before ++ waited ++ late, some args'⟩ :: log.turns) = _
  rw [List.nil_append, List.append_assoc before]

/-- What follows a call makes a run of it. -/
theorem Goes.called {c c' : Core} {f : SpiFrame} {op : UInt16} {args : WaitArgs} (hop : op ≠ 0)
    {log log' : SessionLog}
    (h : Goes patches (⟨c, spiWriteCode f ++ [.waitEvent op args]⟩,
      ⟨log.early, ⟨f, op, args, [], none⟩ :: log.turns⟩) (⟨c', []⟩, log')) :
    ∃ ls, (∀ l ∈ ls, l.commands) ∧
      Run (sessionStep patches) (⟨c, []⟩, log) ls (⟨c', []⟩, log') := by
  have hcall : sessionStep patches (⟨c, []⟩, log) (.call (.command f op args))
      (⟨c, spiWriteCode f ++ [.waitEvent op args]⟩,
        ⟨log.early, ⟨f, op, args, [], none⟩ :: log.turns⟩) :=
    ⟨trivial, .call c (.command f op args), rfl⟩
  obtain ⟨ls, hls, hrun⟩ := h
  refine ⟨.call (.command f op args) :: ls, ?_, .cons hcall hrun⟩
  intro l hl
  rcases List.mem_cons.mp hl with rfl | hl
  · exact hop
  · exact Label.commands_of_ne_call (hls l hl)

/-- **A call** whose packets come returns, and the driver is ready for the next. -/
theorem call_realized {c : Core} (h : c.Ready)
    (hpatches : ∀ data, ∀ f ∈ patches data, ¬ f.Overrun) {f : SpiFrame} (hfits : ¬ f.Overrun)
    {op : UInt16} (hop : op ≠ 0) {before frames late packets : List Mem} {last : Mem}
    {sl : SLInfo} {args args' : WaitArgs}
    (hbrings : Brings c.rx c.coming (before ++ (frames ++ last :: (late ++ packets))))
    (hbefore : Passing c.sl before)
    (hgoesOn : (hciEventHandler { receiveAll c.sl before with usRxEventOpcode := op } args
      frames).2.2 = false)
    (hends : hciEventHandler { receiveAll c.sl before with usRxEventOpcode := op } args
      (frames ++ [last]) = (sl, args', true)) (hlate : Passing sl late) (log : SessionLog) :
    ∃ ls c', (∀ l ∈ ls, l.commands) ∧ c'.Ready ∧ c'.sl = receiveAll sl late ∧
      Brings c'.rx c'.coming packets ∧
      Run (sessionStep patches) (⟨c, []⟩, log) ls (⟨c', []⟩, ⟨log.early,
        ⟨f, op, args, before ++ (frames ++ [last] ++ late), some args'⟩ :: log.turns⟩) := by
  obtain ⟨c₁, hready₁, hsl₁, hbrings₁, hgoes₁⟩ := @Goes.passing patches c h before
    (frames ++ last :: (late ++ packets)) hbefore hbrings (spiWriteCode f ++ [.waitEvent op args])
    ⟨log.early, ⟨f, op, args, [], none⟩ :: log.turns⟩
  rw [← hsl₁] at hgoesOn hends
  have hout := @Goes.spiWrite patches c₁ hready₁ f hfits [.waitEvent op args] (cons_ne _ _)
    (SessionLog.hear ⟨log.early, ⟨f, op, args, [], none⟩ :: log.turns⟩ before)
  obtain ⟨c', hready', hsl', hbrings', hgoes'⟩ := @Goes.waits patches (c₁.wrote f)
    (hready₁.wrote f) hpatches op frames late packets last sl args args' hbrings₁ hgoesOn hends
    hlate _
  obtain ⟨ls, hls, hrun⟩ := Goes.called hop ((hgoes₁.trans hout).trans hgoes')
  rw [hear_finish_hear] at hrun
  exact ⟨ls, c', hls, hready', hsl', hbrings', hrun⟩

/-- **The first call**, in the driver as `SpiOpen` leaves it: no packet is read before it. -/
theorem firstCall_realized {c : Core} (h : c.Opened)
    (hpatches : ∀ data, ∀ f ∈ patches data, ¬ f.Overrun) {f : SpiFrame} (hfits : ¬ f.Overrun)
    {op : UInt16} (hop : op ≠ 0) {frames late packets : List Mem} {last : Mem}
    {sl : SLInfo} {args args' : WaitArgs}
    (hbrings : Brings c.rx c.coming (frames ++ last :: (late ++ packets)))
    (hgoesOn : (hciEventHandler { c.sl with usRxEventOpcode := op } args frames).2.2 = false)
    (hends : hciEventHandler { c.sl with usRxEventOpcode := op } args (frames ++ [last]) =
      (sl, args', true)) (hlate : Passing sl late) (log : SessionLog) :
    ∃ ls c', (∀ l ∈ ls, l.commands) ∧ c'.Ready ∧ c'.sl = receiveAll sl late ∧
      Brings c'.rx c'.coming packets ∧
      Run (sessionStep patches) (⟨c, []⟩, log) ls (⟨c', []⟩, ⟨log.early,
        ⟨f, op, args, frames ++ [last] ++ late, some args'⟩ :: log.turns⟩) := by
  have hout := @Goes.firstWrite patches c h f hfits [.waitEvent op args] (cons_ne _ _)
    ⟨log.early, ⟨f, op, args, [], none⟩ :: log.turns⟩
  obtain ⟨c', hready', hsl', hbrings', hgoes'⟩ := @Goes.waits patches (c.began f)
    (h.began f) hpatches op frames late packets last sl args args' hbrings hgoesOn hends hlate
    ⟨log.early, ⟨f, op, args, [], none⟩ :: log.turns⟩
  obtain ⟨ls, hls, hrun⟩ := Goes.called hop (hout.trans hgoes')
  have hlog := hear_finish_hear log f op args args' [] (frames ++ [last]) late
  rw [SessionLog.hear_nil] at hlog
  rw [hlog] at hrun
  exact ⟨ls, c', hls, hready', hsl', hbrings', hrun⟩

/-! A session. -/

/-- Sessions in which each frame fits, each wait returns with the last of its packets, and
no packet before or behind a wait is kept. -/
inductive Answerable (sl₀ : SLInfo) (early : List Mem) : List CommandTurn → SLInfo → Prop
  | start (hearly : Passing sl₀ early) : Answerable sl₀ early [] (receiveAll sl₀ early)
  | turn {older : List CommandTurn} {sl sl' : SLInfo} {f : SpiFrame} {op : UInt16}
      {args args' : WaitArgs} {before frames late : List Mem} {last : Mem}
      (h : Answerable sl₀ early older sl) (hfits : ¬ f.Overrun) (hop : op ≠ 0)
      (hbefore : Passing sl before)
      (hgoesOn : (hciEventHandler { receiveAll sl before with usRxEventOpcode := op } args
        frames).2.2 = false)
      (hends : hciEventHandler { receiveAll sl before with usRxEventOpcode := op } args
        (frames ++ [last]) = (sl', args', true)) (hlate : Passing sl' late) :
      Answerable sl₀ early
        (⟨f, op, args, before ++ (frames ++ [last] ++ late), some args'⟩ :: older)
        (receiveAll sl' late)

theorem Answerable.session {sl₀ sl : SLInfo} {early : List Mem} {turns : List CommandTurn}
    (h : Answerable sl₀ early turns sl) : Session sl₀ early turns sl := by
  induction h with
  | start => exact .start
  | turn _ _ _ _ _ hends _ ih => exact .turn ih hends

/-- The packets of the calls, in the order in which they came. -/
def packetsIn (turns : List CommandTurn) : List Mem := turns.reverse.flatMap CommandTurn.packets

theorem packetsIn_cons (turn : CommandTurn) (older : List CommandTurn) :
    packetsIn (turn :: older) = packetsIn older ++ turn.packets := by
  rw [packetsIn, List.reverse_cons, List.flatMap_append, List.flatMap_singleton]
  rfl

theorem Answerable.run {c : Core} (hready : c.Ready)
    (hpatches : ∀ data, ∀ f ∈ patches data, ¬ f.Overrun) {early : List Mem}
    {turns : List CommandTurn} {sl : SLInfo} (h : Answerable c.sl early turns sl)
    {packets : List Mem} (hbrings : Brings c.rx c.coming (early ++ (packetsIn turns ++ packets)))
    (log : SessionLog) :
    ∃ ls c', (∀ l ∈ ls, l.commands) ∧ c'.Ready ∧ c'.sl = sl ∧ Brings c'.rx c'.coming packets ∧
      Run (sessionStep patches) (⟨c, []⟩, log) ls
        (⟨c', []⟩, ⟨(log.hear early).early, turns ++ (log.hear early).turns⟩) := by
  induction h generalizing packets with
  | start hearly =>
    obtain ⟨c', hready', hsl', hmore, ls, hls, hrun⟩ :=
      @Goes.passing patches c hready early ([] ++ packets) hearly hbrings [] log
    exact ⟨ls, c', fun l hl => Label.commands_of_ne_call (hls l hl), hready', hsl', hmore, hrun⟩
  | @turn older sl sl' f op args args' before frames late last h hfits hop hbefore hgoesOn hends
      hlate ih =>
    have hall : packetsIn (⟨f, op, args, before ++ (frames ++ [last] ++ late), some args'⟩ ::
        older) ++ packets =
        packetsIn older ++ (before ++ (frames ++ last :: (late ++ packets))) := by
      rw [packetsIn_cons]
      simp only [List.append_assoc, List.cons_append, List.nil_append]
    rw [hall] at hbrings
    obtain ⟨ls, c₁, hls, hready₁, hsl₁, hbrings₁, hrun⟩ := ih hbrings
    rw [← hsl₁] at hbefore hgoesOn hends
    obtain ⟨ks, c', hks, hready', hsl', hmore, hcall⟩ :=
      call_realized hready₁ hpatches hfits hop hbrings₁ hbefore hgoesOn hends hlate
        ⟨(log.hear early).early, older ++ (log.hear early).turns⟩
    exact ⟨ls ++ ks, c', List.forall_mem_append.mpr ⟨hls, hks⟩, hready', hsl', hmore,
      hrun.append hcall⟩

/-- From the driver as `SpiOpen` leaves it, with the first call of `wlan_start`. -/
theorem opened_realized {c : Core} (h : c.Opened)
    (hpatches : ∀ data, ∀ f ∈ patches data, ¬ f.Overrun) {f : SpiFrame} (hfits : ¬ f.Overrun)
    {op : UInt16} (hop : op ≠ 0) {frames late : List Mem} {last : Mem} {sl sl' : SLInfo}
    {args args' : WaitArgs} {turns : List CommandTurn}
    (hbrings : Brings c.rx c.coming (frames ++ last :: (late ++ packetsIn turns)))
    (hgoesOn : (hciEventHandler { c.sl with usRxEventOpcode := op } args frames).2.2 = false)
    (hends : hciEventHandler { c.sl with usRxEventOpcode := op } args (frames ++ [last]) =
      (sl, args', true)) (hlate : Passing sl late)
    (hsession : Answerable (receiveAll sl late) [] turns sl') :
    ∃ ls c', (∀ l ∈ ls, l.commands) ∧ c'.Ready ∧ c'.sl = sl' ∧
      Run (sessionStep patches) (⟨c, []⟩, ⟨[], []⟩) ls
        (⟨c', []⟩, ⟨[], turns ++ [⟨f, op, args, frames ++ [last] ++ late, some args'⟩]⟩) := by
  obtain ⟨ls, c₁, hls, hready₁, hsl₁, hbrings₁, hrun⟩ :=
    firstCall_realized h hpatches hfits hop hbrings hgoesOn hends hlate ⟨[], []⟩
  rw [← hsl₁] at hsession
  rw [← List.append_nil (packetsIn turns)] at hbrings₁
  obtain ⟨ks, c', hks, hready', hsl', -, hrest⟩ :=
    hsession.run hready₁ hpatches hbrings₁
      ⟨[], [⟨f, op, args, frames ++ [last] ++ late, some args'⟩]⟩
  rw [SessionLog.hear_nil] at hrest
  exact ⟨ls ++ ks, c', List.forall_mem_append.mpr ⟨hls, hks⟩, hready', hsl', hrun.append hrest⟩

/-- **Every session that the packets answer is one of the driver.** From a driver that is
ready, whatever calls are made: where the device brings, in order, packets with which each
wait in turn would end, the driver can make those calls, each returns what the session says,
the globals are those of the session, and the driver is ready again. -/
theorem session_realized {c : Core} (hready : c.Ready)
    (hpatches : ∀ data, ∀ f ∈ patches data, ¬ f.Overrun) {early : List Mem}
    {turns : List CommandTurn} {sl : SLInfo} (h : Answerable c.sl early turns sl)
    (hbrings : Brings c.rx c.coming (early ++ packetsIn turns)) :
    ∃ ls c', (∀ l ∈ ls, l.commands) ∧ c'.Ready ∧ c'.sl = sl ∧
      Run (sessionStep patches) (⟨c, []⟩, ⟨[], []⟩) ls (⟨c', []⟩, ⟨early, turns⟩) := by
  rw [← List.append_nil (packetsIn turns)] at hbrings
  obtain ⟨ls, c', hls, hready', hsl', -, hrun⟩ := h.run hready hpatches hbrings ⟨[], []⟩
  have hturns : turns ++ (SessionLog.hear ⟨[], []⟩ early).turns = turns := List.append_nil turns
  rw [hturns] at hrun
  exact ⟨ls, c', hls, hready', hsl', hrun⟩

/-- The driver before `socket`, a callback installed. -/
def installedCore : Core := { socketCore with sl := SLInfo.start true }

/-- What the wait of `socket` makes of its reply. -/
def socketWait : SLInfo × WaitArgs × Bool :=
  hciEventHandler { installedCore.sl with usRxEventOpcode := hciCmndSocket }
    ⟨⟨0, fun _ => 0, []⟩, none⟩ [waitingCore.nextData]

theorem session_realized_socket : ∃ ls c', (∀ l ∈ ls, l.commands) ∧ c'.Ready ∧
    c'.sl = socketWait.1 ∧ socketWait.2.1.ret.mem 0 = 3 ∧
      Run (sessionStep fun _ => []) (⟨installedCore, []⟩, ⟨[], []⟩) ls
        (⟨c', []⟩, socketTurn [waitingCore.nextData] (some socketWait.2.1)) := by
  have hready : installedCore.Ready := ⟨rfl, rfl, rfl, rfl, rfl, rfl, rfl⟩
  have hended : socketWait.2.2 = true := by decide +kernel
  have hfits : ¬ oneByteFrame.Overrun := by decide
  have hbrings : Brings installedCore.rx installedCore.coming
      ([] ++ packetsIn (socketTurn [waitingCore.nextData] (some socketWait.2.1)).turns) :=
    .cons (by decide +kernel) (.nil _ _)
  have hsession : Answerable installedCore.sl []
      (socketTurn [waitingCore.nextData] (some socketWait.2.1)).turns socketWait.1 :=
    @Answerable.turn _ _ _ _ socketWait.1 _ _ _ socketWait.2.1 [] [] [] waitingCore.nextData
      (.start trivial) hfits (by decide) trivial rfl
      (Prod.ext rfl (Prod.ext rfl hended)) trivial
  obtain ⟨ls, c', hls, hready', hsl, hrun⟩ :=
    @session_realized (fun _ => []) installedCore hready (fun _ _ hf => absurd hf List.not_mem_nil)
      [] _ _ hsession hbrings
  exact ⟨ls, c', hls, hready', hsl, by decide +kernel, hrun⟩

end SpiderL3S
