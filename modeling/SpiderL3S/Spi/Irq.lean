import SpiderL3S.Spi.Machine

/- What one interrupt does: `isr_accepted` and `isr_refused` list the effects of
   a run of `WLAN_IRQ_Handler` that nothing interrupts, so that no later proof
   steps through its statements. In interrupt context `PROCESS` is set, so the
   `WlanInterruptEnable` behind a released packet never calls the handler. -/
namespace SpiderL3S

open Code

variable {patches : Mem → List SpiFrame}

/-- The first `n` bytes from byte `p` of a frame. -/
def SpiFrame.bytes (f : SpiFrame) (p n : Nat) : List UInt8 := (List.range' p n).map f.byte

/-- The bytes of the frame that are clocked out. -/
def SpiFrame.wire (f : SpiFrame) : List UInt8 := f.bytes 0 f.size.toNat

theorem SpiFrame.bytes_succ (f : SpiFrame) (p n : Nat) :
    f.bytes p (n + 1) = f.byte p :: f.bytes (p + 1) n := rfl

theorem finishes_writeSync (f : SpiFrame) (p n : Nat) (c c' : Core) (rest : List Stmt) :
    Finishes (exec patches) c (.writeSync f p n :: rest) c' ↔
      Finishes (exec patches) { c with bus := c.bus ++ (f.bytes p n).map .tx } rest c' := by
  induction n generalizing p c with
  | zero =>
    rw [Finishes.cons_iff]
    simp only [exec, SpiFrame.bytes, List.range'_zero, List.map_nil, List.append_nil,
      List.nil_append]
  | succ n ih =>
    rw [Finishes.cons_iff]
    simp only [exec, List.cons_append, List.nil_append]
    rw [ih]
    simp only [SpiFrame.bytes_succ, List.map_cons, List.append_assoc, List.singleton_append]

theorem Mem.slice_succ (m : Mem) (p n : Nat) : m.slice p (n + 1) = m p :: m.slice (p + 1) n := by
  rw [show n + 1 = 1 + n from Nat.add_comm n 1, ← Mem.slice_append]
  rfl

theorem finishes_readSync (p n : Nat) (c c' : Core) (rest : List Stmt) :
    Finishes (exec patches) c (.readSync p n :: rest) c' ↔
      Finishes (exec patches)
        { c with
          rx := c.rx.store p (c.packet.slice p n)
          bus := c.bus ++ (c.packet.slice p n).map .rx } rest c' := by
  induction n generalizing p c with
  | zero =>
    rw [Finishes.cons_iff]
    simp only [exec, Mem.slice, List.range_zero, List.map_nil, List.append_nil, List.nil_append,
      Mem.store_nil]
  | succ n ih =>
    rw [Finishes.cons_iff]
    simp only [exec, List.cons_append, List.nil_append]
    rw [ih]
    simp only [Mem.slice_succ, List.map_cons, List.append_assoc, List.singleton_append]
    rw [show c.rx.store p (c.packet p :: c.packet.slice (p + 1) n) =
      (c.rx.store p [c.packet p]).store (p + [c.packet p].length) (c.packet.slice (p + 1) n) by
        rw [Mem.store_store]; rfl]
    rfl

/-- The packet the device clocks out in the next transfer. -/
def Core.next (c : Core) : Mem := c.coming 0

/-- The receive buffer with the next packet in it. -/
def Core.nextRx (c : Core) : Mem := (spiReadPacket c.rx c.next).mem

/-- The packet that will be in the buffer after the next transfer. -/
def Core.nextData (c : Core) : Mem := c.nextRx.drop spiHeaderSize

/-- What `SpiReceiveHandler` makes of the next packet. -/
def Core.nextReceive (c : Core) : SLInfo × Bool :=
  spiReceiveHandler c.sl (c.nextRx.drop spiHeaderSize)

/-- The bytes of the next transfer. -/
def Core.nextBytes (c : Core) : List UInt8 := c.next.slice 0 (headersSizeEvnt + dataToRecv c.next)

/-- An interrupt that reads a packet. `ENABLE` is set behind it if the packet was
released, and a released packet clears `MISSED`. -/
def Core.irqRead (c : Core) : Core :=
  { c with
    enable := c.nextReceive.2
    process := false
    missed := c.missed && !c.nextReceive.2
    ulSpiState := .idle
    rx := c.nextRx
    packet := c.next
    coming := fun n => c.coming (n + 1)
    bus := c.bus ++ .csEnable :: (c.nextBytes.map .rx ++ [.csDisable])
    sl := c.nextReceive.1 }

/-- An interrupt that writes the frame out. -/
def Core.irqWrite (c : Core) : Core :=
  { c with
    process := false
    ulSpiState := .idle
    bus := c.bus ++ (c.tx.wire.map .tx ++ [.csDisable]) }

/-- The header of the next packet. -/
theorem finishes_readHeader (c c' : Core) (rest : List Stmt) :
    Finishes (exec patches) c (.readHeader :: rest) c' ↔
      Finishes (exec patches)
        { c with
          rx := c.rx.store 0 ((c.coming 0).slice 0 headersSizeEvnt)
          packet := c.coming 0
          coming := fun n => c.coming (n + 1)
          bus := c.bus ++ ((c.coming 0).slice 0 headersSizeEvnt).map .rx } rest c' := by
  rw [Finishes.cons_iff]
  simp only [exec, List.cons_append, List.nil_append]
  rw [finishes_readSync]

/-- What the header's length field asks for. -/
theorem finishes_readDataCont {c : Core} (hstate : c.ulSpiState = .readEot) (c' : Core)
    (rest : List Stmt) :
    Finishes (exec patches) c (.readDataCont :: rest) c' ↔
      Finishes (exec patches)
        { c with
          rx := c.rx.store headersSizeEvnt (c.packet.slice headersSizeEvnt (dataToRecv c.rx))
          bus := c.bus ++ (c.packet.slice headersSizeEvnt (dataToRecv c.rx)).map .rx }
        rest c' := by
  rw [Finishes.cons_iff]
  simp only [exec, List.cons_append]
  rw [finishes_readSync]
  split
  · -- an event sets the state once more
    rw [List.cons_append, Finishes.cons_iff]
    simp only [exec, List.nil_append, ← hstate]
  · rw [List.nil_append]

/-- The end of a packet, up to the callback. -/
theorem finishes_triggerRx (c c' : Core) (rest : List Stmt) :
    Finishes (exec patches) c (spiTriggerRxProcessing ++ rest) c' ↔
      c.rx (cc3000RxBufferSize - 1) = cc3000BufferMagicNumber ∧
        Finishes (exec patches)
          { c with enable := false, ulSpiState := .idle, bus := c.bus ++ [.csDisable] }
          (.receiveHandler :: rest) c' := by
  simp only [spiTriggerRxProcessing, spiPauseSpi, wlanInterruptDisable, List.cons_append,
    List.nil_append]
  rw [Finishes.cons_iff]
  simp only [exec, List.nil_append]
  rw [Finishes.cons_iff]
  simp only [exec, List.nil_append]
  rw [Finishes.cons_iff]
  simp only [exec]
  by_cases hmagic : c.rx (cc3000RxBufferSize - 1) = cc3000BufferMagicNumber
  · rw [if_neg (not_not_intro hmagic), List.nil_append, Finishes.cons_iff, and_iff_right hmagic]
    simp only [exec, List.nil_append]
  · rw [if_pos hmagic]
    constructor
    · intro h
      exact absurd h (Finishes.not_of_loop rfl)
    · intro h
      exact absurd h.1 hmagic

/-- The handler's branch for `eSPI_STATE_IDLE` in interrupt context, up to the
callback: it comes there if the packet leaves the magic number in place, and then
with the packet in the buffer and interrupts masked. -/
theorem finishes_spiRead {c c' : Core} (rest : List Stmt) :
    Finishes (exec patches) c (spiRead ++ rest) c' ↔
      c.nextRx (cc3000RxBufferSize - 1) = cc3000BufferMagicNumber ∧
        Finishes (exec patches)
          { c with
            enable := false
            ulSpiState := .idle
            rx := c.nextRx
            packet := c.next
            coming := fun n => c.coming (n + 1)
            bus := c.bus ++ .csEnable :: (c.nextBytes.map .rx ++ [.csDisable]) }
          (.receiveHandler :: rest) c' := by
  have hlen : dataToRecv (c.rx.store 0 (c.next.slice 0 headersSizeEvnt)) = dataToRecv c.next :=
    spiReadHeader_dataToRecv c.rx c.next
  have hrx : (c.rx.store 0 (c.next.slice 0 headersSizeEvnt)).store headersSizeEvnt
      (c.next.slice headersSizeEvnt (dataToRecv c.next)) = c.nextRx := by
    rw [Core.nextRx, spiReadPacket, spiReadDataCont, spiReadHeader_dataToRecv]
    rfl
  have hbytes : c.nextBytes = c.next.slice 0 headersSizeEvnt ++
      c.next.slice headersSizeEvnt (dataToRecv c.next) :=
    (Mem.slice_append c.next 0 headersSizeEvnt (dataToRecv c.next)).symm
  have hpacket : c.coming 0 = c.next := rfl
  simp only [spiRead, List.cons_append, List.nil_append]
  rw [Finishes.cons_iff]
  simp only [exec, List.nil_append]
  rw [Finishes.cons_iff]
  simp only [exec, List.nil_append]
  rw [finishes_readHeader, Finishes.cons_iff]
  simp only [exec, List.nil_append]
  rw [finishes_readDataCont rfl, finishes_triggerRx]
  simp only [hpacket, hlen, hrx, hbytes, List.map_append, List.append_assoc, List.cons_append,
    List.nil_append]

/-- The callback in interrupt context: a released packet enables interrupts again
and clears `MISSED`. -/
theorem finishes_receiveHandler {c c' : Core} (hprocess : c.process = true)
    (henable : c.enable = false) :
    Finishes (exec patches) c [.receiveHandler, .irqClearProcess] c' ↔
      ¬ c.CallsNull ∧ c' = { c with
        enable := c.receive.2
        process := false
        missed := c.missed && !c.receive.2
        sl := c.receive.1 } := by
  rw [Finishes.cons_iff]
  simp only [exec]
  by_cases hnull : c.CallsNull
  · rw [if_pos hnull]
    exact ⟨fun h => absurd h (Finishes.not_of_loop rfl), fun h => absurd hnull h.1⟩
  rw [if_neg hnull, and_iff_right hnull]
  rcases Bool.eq_false_or_eq_true c.receive.2 with hrel | hrel
  · simp only [hrel, if_true, spiResumeSpi, wlanInterruptEnable, List.cons_append,
      List.nil_append]
    rw [Finishes.cons_iff]
    simp only [exec, List.nil_append]
    rw [Finishes.cons_iff]
    simp only [exec]
    rcases Bool.eq_false_or_eq_true c.missed with hmissed | hmissed
    · -- `PROCESS` is set, so the handler is not entered again
      simp only [hmissed, if_true, List.cons_append, List.nil_append]
      rw [Finishes.cons_iff]
      simp only [exec, hprocess, Bool.not_true, Bool.and_false, Bool.false_eq_true, if_false,
        List.nil_append]
      rw [Finishes.cons_iff]
      simp only [exec, List.nil_append]
      rw [Finishes.cons_iff]
      simp only [exec, List.nil_append, Finishes.nil_iff]
    · simp only [hmissed, Bool.false_eq_true, if_false, List.nil_append]
      rw [Finishes.cons_iff]
      simp only [exec, List.nil_append, Finishes.nil_iff, Bool.false_and]
  · simp only [hrel, Bool.false_eq_true, if_false, List.nil_append]
    rw [Finishes.cons_iff]
    simp only [exec, List.nil_append, Finishes.nil_iff, henable, Bool.not_false, Bool.and_true]

/-- An interrupt with `ENABLE` clear only sets `MISSED`. -/
theorem isr_refused {c c' : Core} (h : Isr patches c c') (hen : c.enable = false) :
    c' = { c with missed := true } := by
  unfold Isr wlanIrqHandler at h
  rw [Finishes.cons_iff] at h
  simp only [exec, hen, Bool.false_eq_true, if_false, List.append_nil] at h
  rw [Finishes.cons_iff] at h
  rw [h.nil_inv]
  simp only [exec, hen]

/-- **What an accepted interrupt does**, by `ulSpiState`. -/
theorem isr_accepted {c c' : Core} (h : Isr patches c c') (hen : c.enable = true) :
    (c.ulSpiState = .powerup ∧ c' = { c with process := false, ulSpiState := .initialized }) ∨
      (c.ulSpiState = .idle ∧ c' = c.irqRead) ∨
      (c.ulSpiState = .writeIrq ∧ c' = c.irqWrite) ∨
      (c.ulSpiState ≠ .powerup ∧ c.ulSpiState ≠ .idle ∧ c.ulSpiState ≠ .writeIrq ∧
        c' = { c with process := false }) := by
  unfold Isr wlanIrqHandler at h
  rw [Finishes.cons_iff] at h
  simp only [exec, hen, if_true, List.append_nil] at h
  rw [Finishes.cons_iff] at h
  simp only [exec, List.nil_append] at h
  rw [Finishes.cons_iff] at h
  simp only [exec] at h
  by_cases hpow : c.ulSpiState = .powerup
  · refine .inl ⟨hpow, ?_⟩
    simp only [hpow, if_true, List.cons_append, List.nil_append] at h
    rw [Finishes.cons_iff] at h
    simp only [exec, List.nil_append] at h
    rw [Finishes.cons_iff] at h
    exact h.nil_inv
  right
  simp only [hpow, if_false, List.cons_append, List.nil_append] at h
  rw [Finishes.cons_iff] at h
  simp only [exec] at h
  by_cases hidle : c.ulSpiState = .idle
  · refine .inl ⟨hidle, ?_⟩
    simp only [hidle, if_true] at h
    obtain ⟨-, hread⟩ := (finishes_spiRead [.irqClearProcess]).mp h
    exact ((finishes_receiveHandler rfl rfl).mp hread).2
  right
  simp only [hidle, if_false, List.cons_append, List.nil_append] at h
  rw [Finishes.cons_iff] at h
  simp only [exec] at h
  by_cases hwrite : c.ulSpiState = .writeIrq
  · refine .inl ⟨hwrite, ?_⟩
    simp only [hwrite, if_true, spiWriteOut, spiWriteDataSynchronous, List.cons_append,
      List.nil_append] at h
    rw [finishes_writeSync, Finishes.cons_iff] at h
    simp only [exec, List.nil_append] at h
    rw [Finishes.cons_iff] at h
    simp only [exec, List.nil_append] at h
    rw [Finishes.cons_iff] at h
    rw [h.nil_inv]
    simp only [exec, Core.irqWrite, SpiFrame.wire, List.append_assoc]
  · refine .inr ⟨hpow, hidle, hwrite, ?_⟩
    simp only [hwrite, if_false, List.nil_append] at h
    rw [Finishes.cons_iff] at h
    rw [h.nil_inv]
    rfl

/-- An accepted interrupt in the idle state reads a packet. -/
theorem isr_idle {c c' : Core} (h : Isr patches c c') (hen : c.enable = true)
    (hidle : c.ulSpiState = .idle) : c' = c.irqRead := by
  rcases isr_accepted h hen with ⟨hpow, -⟩ | ⟨-, hread⟩ | ⟨hwrite, -⟩ | ⟨-, hne, -, -⟩
  · cases hidle.symm.trans hpow
  · exact hread
  · cases hidle.symm.trans hwrite
  · exact absurd hidle hne

/-- An accepted interrupt for a frame that waits writes it out. -/
theorem isr_writeIrq {c c' : Core} (h : Isr patches c c') (hen : c.enable = true)
    (hwrite : c.ulSpiState = .writeIrq) : c' = c.irqWrite := by
  rcases isr_accepted h hen with ⟨hpow, -⟩ | ⟨hidle, -⟩ | ⟨-, hsent⟩ | ⟨-, -, hne, -⟩
  · cases hwrite.symm.trans hpow
  · cases hwrite.symm.trans hidle
  · exact hsent
  · exact absurd hwrite hne

/-! Runs that can be computed, under any observer. -/

section
open Runs
variable {ω : Type*} (obs : ω → Config → Label → Config → ω)

/-- `n` statements of main code that pass a test, and what the observer makes of
them. -/
def mainAlone (test : Stmt → Bool) (patches : Mem → List SpiFrame) :
    Nat → Config × ω → Option (Config × ω)
  | 0, s => some s
  | _ + 1, (⟨_, []⟩, _) => none
  | n + 1, (⟨c, s :: rest⟩, w) =>
    let t : Config := ⟨(exec patches s c).1, (exec patches s c).2 ++ rest⟩
    if test s then mainAlone test patches n (t, obs w ⟨c, s :: rest⟩ .stmt t) else none

variable {obs}

theorem run_tested {test : Stmt → Bool} (n : Nat) {s t : Config × ω}
    (h : mainAlone obs test patches n s = some t) :
    Run (guarded (fun s _ => s.1.todo.head?.all test = true) (watch (SpiStep patches) obs)) s
      (List.replicate n .stmt) t := by
  induction n generalizing s with
  | zero =>
    obtain rfl := Option.some.inj h
    exact .nil _
  | succ n ih =>
    obtain ⟨⟨c, todo⟩, w⟩ := s
    cases todo with
    | nil => cases h
    | cons a rest =>
      simp only [mainAlone] at h
      split at h
      · rename_i htest
        exact .cons ⟨htest, .stmt c a rest, rfl⟩ (ih h)
      · cases h

theorem run_mainAlone (n : Nat) {s t : Config × ω}
    (h : mainAlone obs (fun _ => true) patches n s = some t) :
    Run (watch (SpiStep patches) obs) s (List.replicate n .stmt) t :=
  (run_tested n h).mono fun _ _ _ _ hstep => hstep.2

theorem run_edge {c c' : Core} (todo : List Stmt) (w : ω) (n : Nat) (hpin : c.pinLow = false)
    (hisr : Code.runAlone (exec patches) n { c with pinLow := true } wlanIrqHandler = (c', [])) :
    Run (watch (SpiStep patches) obs) (⟨c, todo⟩, w) [.edge]
      (⟨c', todo⟩, obs w ⟨c, todo⟩ .edge ⟨c', todo⟩) :=
  Run.single ⟨.edge todo hpin (Code.finishes_of_runAlone n hisr), rfl⟩

theorem run_rise (c : Core) (todo : List Stmt) (w : ω) :
    Run (watch (SpiStep patches) obs) (⟨c, todo⟩, w) [.rise]
      (⟨{ c with pinLow := false }, todo⟩,
        obs w ⟨c, todo⟩ .rise ⟨{ c with pinLow := false }, todo⟩) :=
  Run.single ⟨.rise c todo, rfl⟩

theorem run_call (c : Core) (k : Call) (w : ω) :
    Run (watch (SpiStep patches) obs) (⟨c, []⟩, w) [.call k]
      (⟨c, k.code⟩, obs w ⟨c, []⟩ (.call k) ⟨c, k.code⟩) :=
  Run.single ⟨.call c k, rfl⟩

end

/-- Nothing is kept of a step. -/
def unobserved (_ : Unit) (_ : Config) (_ : Label) (_ : Config) : Unit := ()

/-- A data packet without payload. -/
def emptyDataPacket : Mem := fun i => if i = 5 then hciTypeData else 0

/-- A frame with one byte behind its SPI header. -/
def oneByteFrame : SpiFrame := ⟨0, 1, ⟨0, fun _ => cc3000BufferMagicNumber, []⟩⟩

/-- The driver at the start, with data packets to come. -/
def dataCore : Core :=
  Core.start (fun _ => emptyDataPacket) false (fun _ => cc3000BufferMagicNumber) oneByteFrame
    ⟨⟨0, fun _ => 0, []⟩, none⟩

end SpiderL3S
