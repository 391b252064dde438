import SpiderL3S.ReplyIsolation
import SpiderL3S.Spi.Irq
import SpiderL3S.Unsol

/- Reception while nothing is waited for: which event frames `WLAN_IRQ_Handler`
   reads, releases and leaves interrupts enabled behind, so that the next frame
   can come. A frame must not run over the magic number at the end of
   `wlan_rx_buffer`, where the handler stays for ever, nor be the FREE_BUFF event
   for which it calls a callback that is not there, and its event must be one that
   `hci_unsol_event_handler` takes. What it refuses then stays in the buffer with
   interrupts masked (`idle_released_iff`). -/
namespace SpiderL3S

open Runs

variable {patches : Mem → List SpiFrame}

/-! The packet in the buffer. -/

theorem nextRx_read (c : Core) {i : Nat} (h : i < headersSizeEvnt + dataToRecv c.next) :
    c.nextRx i = c.next i := by
  rw [Core.nextRx, spiReadPacket_eq, Stream.put_mem,
    Mem.store_in _ (Nat.zero_le i) (by rw [Mem.slice_length]; omega), Nat.sub_zero,
    Mem.slice_getD _ h, Nat.zero_add]

theorem nextRx_kept (c : Core) {i : Nat} (h : headersSizeEvnt + dataToRecv c.next ≤ i) :
    c.nextRx i = c.rx i := by
  rw [Core.nextRx, spiReadPacket_eq, Stream.put_mem]
  apply Mem.store_out
  rw [Mem.slice_length]
  show ¬ (0 ≤ i ∧ i < 0 + _)
  omega

theorem nextData_header (c : Core) {i : Nat} (h : i < 5) :
    c.nextData i = c.next (spiHeaderSize + i) := by
  apply nextRx_read
  show 5 + i < 10 + _
  omega

theorem eventCode_nextData (c : Core) :
    eventCode c.nextData = eventCode (c.next.drop spiHeaderSize) := by
  apply streamToUint16_of_slice
  show [c.nextData 1, c.nextData 2] = _
  rw [nextData_header c (by decide), nextData_header c (by decide)]
  exact (uint16Bytes_stream (c.next.drop spiHeaderSize) 1).symm

/-- The event frame leaves the magic number in place: it is short enough, or what
it stores there is that number. -/
def Core.KeepsMagic (c : Core) : Prop :=
  if (eventLength c.next).toNat ≤ 201 then c.rx (cc3000RxBufferSize - 1) = cc3000BufferMagicNumber
  else c.next (cc3000RxBufferSize - 1) = cc3000BufferMagicNumber

instance (c : Core) : Decidable c.KeepsMagic := by
  unfold Core.KeepsMagic
  infer_instance

theorem nextRx_magic_iff {c : Core} (h : packetType c.next = hciTypeEvnt) :
    c.nextRx (cc3000RxBufferSize - 1) = cc3000BufferMagicNumber ↔ c.KeepsMagic := by
  have hlen := dataToRecv_evnt h
  unfold Core.KeepsMagic
  split
  · next hshort =>
    rw [nextRx_kept]
    show 10 + _ ≤ 210
    omega
  · next hlong =>
    rw [nextRx_read]
    show 210 < 10 + _
    omega

/-! What the handler makes of it. -/

/-- The events that stay in the buffer although nothing is waited for: code 0, for
which the idle `usRxEventOpcode` is taken as a wait, a WLAN event the switch has no
case for, and a SEND, SENDTO or WRITE event that reports no inactive socket. -/
def HeldIdle (event : Mem) : Prop :=
  eventCode event = 0 ∨
    (eventCode event &&& hciEvntWlanUnsolBase ≠ 0 ∧ eventCode event ∉ wlanEvents) ∨
    (sendClass (eventCode event) = true ∧ sendStatus event ≠ errorSocketInactive)

theorem hciUnsolEventHandler_idle {sl : SLInfo} {event : Mem} (hidle : sl.usRxEventOpcode = 0)
    (hpatch : eventCode event ≠ hciEvntPatchesReq) :
    (hciUnsolEventHandler sl event).2 = false ↔ HeldIdle event := by
  have hzero : ∀ {code : UInt16}, code = 0 →
      code ≠ hciEvntDataUnsolFreeBuff ∧ code &&& hciEvntWlanUnsolBase = 0 ∧
        sendClass code = false := by
    intro code hcode
    subst hcode
    decide
  have hend := hciUnsolEventHandler_unsol sl event
  generalize hciUnsolEventHandler sl event = r at hend
  cases hend with
  | freeBuff sl' hcode hsl =>
    refine iff_of_false Bool.noConfusion fun h => ?_
    rcases h with h | ⟨h, -⟩ | ⟨h, -⟩
    · exact absurd hcode (hzero h).1
    · rw [hcode] at h
      exact absurd h (by decide)
    · rw [hcode] at h
      exact absurd h (by decide)
  | wlan hcode =>
    refine iff_of_false Bool.noConfusion fun h => ?_
    rcases h with h | ⟨-, h⟩ | ⟨h, -⟩
    · exact absurd (hzero h).2.1 (wlanEvents_class hcode)
    · exact absurd hcode h
    · exact absurd (sendClass_class h) (wlanEvents_class hcode)
  | unsupported hclass hcode => exact ⟨fun _ => .inr (.inl ⟨hclass, hcode⟩), fun _ => rfl⟩
  | sendInactive hcode hstatus =>
    refine iff_of_false Bool.noConfusion fun h => ?_
    rcases h with h | ⟨h, -⟩ | ⟨-, h⟩
    · exact absurd (hzero h).2.2 (ne_false_of_eq_true hcode)
    · exact absurd (sendClass_class hcode) h
    · exact absurd hstatus h
  | sendOther hcode hstatus => exact ⟨fun _ => .inr (.inr ⟨hcode, hstatus⟩), fun _ => rfl⟩
  | ignored hclass hcode hsend hwait _ =>
    refine iff_of_false Bool.noConfusion fun h => ?_
    rcases h with h | ⟨h, -⟩ | ⟨h, -⟩
    · exact absurd (h.trans hidle.symm) hwait
    · exact absurd hclass h
    · exact absurd h (ne_true_of_eq_false hsend)
  | waited _ _ _ hcode =>
    refine ⟨fun _ => ?_, fun _ => rfl⟩
    rcases hcode with hcode | hcode
    · exact .inl (hcode.trans hidle)
    · exact absurd hcode hpatch

/-- `SpiReceiveHandler` calls through a null pointer for the next packet. -/
def Core.NextCallsNull (c : Core) : Prop :=
  c.nextData hciPacketTypeOffset = hciTypeEvnt ∧ SpiderL3S.CallsNull c.sl c.nextData

theorem not_nextCallsNull {c : Core} (h : c.sl.sWlanCB = true) : ¬ c.NextCallsNull :=
  fun hnull => not_callsNull_of_installed h c.nextData hnull.2

/-- The handler comes to its end exactly if the magic number survives and no null pointer is
called. -/
theorem isr_idle_iff {c c' : Core} (hen : c.enable = true) (hidle : c.ulSpiState = .idle) :
    Isr patches c c' ↔
      c.nextRx (cc3000RxBufferSize - 1) = cc3000BufferMagicNumber ∧ ¬ c.NextCallsNull ∧
        c' = c.irqRead := by
  have hpow : ¬ c.ulSpiState = .powerup := by
    rw [hidle]
    decide
  unfold Isr wlanIrqHandler
  rw [Code.Finishes.cons_iff]
  simp only [exec, hen, if_true, List.append_nil]
  rw [Code.Finishes.cons_iff]
  simp only [exec, List.nil_append]
  rw [Code.Finishes.cons_iff]
  simp only [exec, hpow, if_false, List.cons_append, List.nil_append]
  rw [Code.Finishes.cons_iff]
  simp only [exec, hidle, if_true]
  rw [finishes_spiRead, finishes_receiveHandler rfl rfl]
  rfl

/-- **Which frames leave the idle driver ready.** With nothing waited for, the
handler returns from an event frame with the packet released and interrupts
enabled exactly if the frame leaves the magic number in place, its event is none
of those that are held, and there is a callback or nothing to tell it. -/
theorem idle_released_iff {c : Core} (hen : c.enable = true) (hidle : c.ulSpiState = .idle)
    (hopcode : c.sl.usRxEventOpcode = 0) (hevent : packetType c.next = hciTypeEvnt)
    (hpatch : eventCode (c.next.drop spiHeaderSize) ≠ hciEvntPatchesReq) :
    (∃ c', Isr patches c c' ∧ c'.sl.usEventOrDataReceived = 0 ∧ c'.enable = true) ↔
      c.KeepsMagic ∧ ¬ HeldIdle c.nextData ∧
        (c.sl.sWlanCB = true ∨ ¬ ReleasesLast c.sl c.nextData) := by
  have hdata : IsEvent c.nextData := by
    rw [IsEvent, nextData_header c (by decide)]
    exact hevent
  have hpatch' : eventCode c.nextData ≠ hciEvntPatchesReq := by rwa [eventCode_nextData]
  have hheld := @hciUnsolEventHandler_idle { c.sl with usEventOrDataReceived := 1 } _ hopcode hpatch'
  have hreceive := spiReceiveHandler_event c.sl hdata
  have hbehind : (c.irqRead.sl.usEventOrDataReceived = 0 ∧ c.irqRead.enable = true) ↔
      ¬ HeldIdle c.nextData := by
    show (spiReceiveHandler c.sl c.nextData).1.usEventOrDataReceived = 0 ∧
      (spiReceiveHandler c.sl c.nextData).2 = true ↔ _
    rw [← hheld, hreceive]
    cases (hciUnsolEventHandler { c.sl with usEventOrDataReceived := 1 } c.nextData).2 with
    | true => simp
    | false => simp
  have hnull : ¬ c.NextCallsNull ↔ c.sl.sWlanCB = true ∨ ¬ ReleasesLast c.sl c.nextData := by
    unfold Core.NextCallsNull CallsNull
    rw [not_and, not_and_or, Bool.not_eq_false]
    exact ⟨fun h => h hdata, fun h _ => h⟩
  rw [← nextRx_magic_iff hevent, ← hbehind, ← hnull]
  constructor
  · intro h
    obtain ⟨c', hisr, hreleased⟩ := h
    obtain ⟨hmagic, hcalls, rfl⟩ := (isr_idle_iff hen hidle).mp hisr
    exact ⟨hmagic, hreleased, hcalls⟩
  · intro h
    obtain ⟨hmagic, hreleased, hcalls⟩ := h
    exact ⟨c.irqRead, (isr_idle_iff hen hidle).mpr ⟨hmagic, hcalls, rfl⟩, hreleased⟩

/-- The driver at the start, with an event frame to come. -/
def eventCore (event : Mem) : Core :=
  Core.start (fun _ i => event (i - spiHeaderSize)) false (fun _ => cc3000BufferMagicNumber)
    oneByteFrame ⟨⟨0, fun _ => 0, []⟩, none⟩

/-- A CONNECT event leaves the driver ready. -/
theorem idle_released_connect :
    ∃ c', Isr (fun _ => [])
        { eventCore (eventFrame hciEvntWlanUnsolConnect 0 []) with ulSpiState := .idle } c' ∧
      c'.sl.usEventOrDataReceived = 0 ∧ c'.enable = true :=
  (idle_released_iff rfl rfl rfl rfl (by decide)).mpr ⟨by decide, fun h => by
    rcases h with h | ⟨-, h⟩ | ⟨h, -⟩
    · exact absurd h (by decide)
    · exact absurd h (by decide)
    · exact absurd h (by decide), .inr fun h => absurd h.1 (by decide)⟩

/-- The counterexample: a TX_COMPLETE event, whose code `hci.h` defines, stays in
the buffer and keeps interrupts masked. -/
theorem not_idle_released : ¬ ∀ (patches : Mem → List SpiFrame) (coming : Nat → Mem)
    (sWlanCB : Bool) (rx : Mem) (tx : SpiFrame) (args : WaitArgs) (ls : List Label) (s : Config),
    rx (cc3000RxBufferSize - 1) = cc3000BufferMagicNumber →
    Run (SpiStep patches) ⟨Core.start coming sWlanCB rx tx args, []⟩ ls s →
    s.core.enable = true → s.core.ulSpiState = .idle →
    s.core.sl.usRxEventOpcode = 0 → s.core.sl.usRxDataPending = 0 →
    packetType s.core.next = hciTypeEvnt →
    eventCode (s.core.next.drop spiHeaderSize) ≠ hciEvntPatchesReq →
    ∃ c', Isr patches s.core c' ∧ c'.sl.usEventOrDataReceived = 0 ∧ c'.enable = true := by
  intro h
  -- the module starts, and the first frame is written
  have hopen : Run (watch (SpiStep fun _ => []) unobserved)
      (⟨eventCore (eventFrame hciEvntWlanTxComplete 0 []), []⟩, ()) [.edge] _ :=
    run_edge [] () 10 rfl rfl
  have hfirst := (hopen.append (run_rise _ _ _)).append (run_call _ (.spiWrite oneByteFrame) _)
  have hidle := hfirst.append (run_mainAlone 15 rfl)
  have hstate := h _ _ _ (fun _ => cc3000BufferMagicNumber) _ _ _ _ rfl hidle.forget
  have hready := hstate rfl rfl rfl rfl rfl (by decide)
  have hreleased := ((idle_released_iff rfl rfl rfl rfl (by decide)).mp hready).2
  exact hreleased.1 (.inr (.inl ⟨by decide, by decide⟩))

end SpiderL3S
