import SpiderL3S.Lib.Code
import SpiderL3S.Credits
import SpiderL3S.Tx.Bounds

/- What `simple_link_send` returns. The call is taken in one piece here:
   `HostFlowControlConsumeBuff`, the frame of `Tx.Commands`, and the wait for the
   reply. The reply's status is decoded into a variable that nobody reads, and
   `len` is returned, as an `int` of 16 bits; a reply with
   `ERROR_SOCKET_INACTIVE` is taken away from the wait, which then goes on.

   So a refused packet is reported exactly if the length it was sent with is
   negative in 16 bits, and the reply ends the wait (`sendReports_iff`). -/
namespace SpiderL3S

open Code

/-! The call. -/

/-- `HostFlowControlConsumeBuff`: the globals behind it, and its result. `none` is where
it goes on waiting for a free buffer. -/
def hostFlowControlConsumeBuff (sl : SLInfo) (sd : Int16) : Option (SLInfo × UInt16) :=
  if sl.slTransmitDataError ≠ 0 then
    let errno := sl.slTransmitDataError.toUInt16
    some ({ sl with slTransmitDataError := 0 }, errno)
  else if getSocketActiveStatus sl sd.toInt32.toUInt32 ≠ socketStatusActive then some (sl, 0xFFFF)
  else if sl.usNumberOfFreeBuffers = 0 then none
  else some ({ sl with usNumberOfFreeBuffers := sl.usNumberOfFreeBuffers - 1 }, 0)

/-- The arguments of `simple_link_send`. -/
structure SendArgs where
  sd : Int32
  buf : Mem
  len : Int32
  flags : Int32
  dest : Mem
  tolen : UInt32
  opcode : SendOpcode

/-- The frame it builds. -/
def SendArgs.build (a : SendArgs) (tx : Mem) : Outcome :=
  match a.opcode with
  | .send => send 0 a.sd a.buf a.len a.flags tx
  | .sendto => sendto 0 a.sd a.buf a.len a.flags a.dest a.tolen tx

/-- The frame reaches the device: the copying loops end, and `SpiWrite` finds the magic
number. -/
def Outcome.Transmitted : Outcome → Prop
  | frame f => ¬ f.Overrun
  | _ => False

instance : DecidablePred Outcome.Transmitted := fun o => by
  cases o <;> unfold Outcome.Transmitted <;> infer_instance

/-- `simple_link_send`, on a transmit buffer that holds `tx`: the globals behind it, and
its result. `events` arrive while it waits, and `tSocketSendEvent` is not
initialised. -/
def SendArgs.run (a : SendArgs) (sl : SLInfo) (tx tSocketSendEvent : Mem) (events : List Mem) :
    Option (SLInfo × Int16) :=
  match hostFlowControlConsumeBuff sl a.sd.toInt16 with
  | none => none
  | some (sl, res) =>
    if res ≠ 0 then some (sl, res.toInt16)
    else if (a.build tx).Transmitted then
      let sl := { sl with numberOfSentPackets := sl.numberOfSentPackets + 1 }
      match simpleLinkWaitEvent sl a.opcode.evnt tSocketSendEvent events with
      | (sl, _, true) => some (sl, a.len.toInt16)
      | (_, _, false) => none
    else none

/-- A reply with a negative status makes the call return something negative. -/
def SendReports (a : SendArgs) (sl : SLInfo) (tx tSocketSendEvent : Mem) (events : List Mem)
    (reply : Mem) : Prop :=
  (sendStatus reply).toInt32 < 0 →
    ∃ sl' ret, a.run sl tx tSocketSendEvent events = some (sl', ret) ∧ ret < 0

/-! The call and its statements. -/

/-- Alone, the statements of `HostFlowControlConsumeBuff` end as the function does. -/
theorem hostFlowControl_alone {c : SendCore} {sd : Int16} {sl : SLInfo} {res : UInt16}
    (h : hostFlowControlConsumeBuff c.sl sd = some (sl, res)) (rest : List SendStmt) :
    ∃ n errno, runAlone SendStmt.exec n c (.testError sd :: rest) =
      ({ c with sl, errno, res }, rest) := by
  unfold hostFlowControlConsumeBuff at h
  by_cases herror : c.sl.slTransmitDataError ≠ 0
  · rw [if_pos herror] at h
    obtain ⟨rfl, rfl⟩ := Prod.mk.inj (Option.some.inj h)
    refine ⟨3, c.sl.slTransmitDataError.toUInt16, ?_⟩
    simp only [runAlone, SendStmt.exec, if_pos herror, List.cons_append, List.nil_append]
  rw [if_neg herror] at h
  by_cases hactive : getSocketActiveStatus c.sl sd.toInt32.toUInt32 = socketStatusActive
  · rw [if_neg (not_not_intro hactive)] at h
    by_cases hfree : c.sl.usNumberOfFreeBuffers = 0
    · rw [if_pos hfree] at h
      cases h
    · rw [if_neg hfree] at h
      obtain ⟨rfl, rfl⟩ := Prod.mk.inj (Option.some.inj h)
      refine ⟨5, c.errno, ?_⟩
      simp only [runAlone, SendStmt.exec, if_neg herror, if_pos hactive, if_neg hfree,
        List.cons_append, List.nil_append]
  · rw [if_pos hactive] at h
    obtain ⟨rfl, rfl⟩ := Prod.mk.inj (Option.some.inj h)
    refine ⟨2, c.errno, ?_⟩
    simp only [runAlone, SendStmt.exec, if_neg herror, if_neg hactive, List.cons_append,
      List.nil_append]

/-! What is returned. -/

/-- What has been admitted, the wait is for, and its object holds twelve bytes. -/
theorem evnt_resultObjects (opcode : SendOpcode) : (opcode.evnt, 12) ∈ resultObjects := by
  cases opcode <;> decide

theorem hostFlowControl_pending {sl sl₁ : SLInfo} {sd : Int16} {res : UInt16}
    (h : hostFlowControlConsumeBuff sl sd = some (sl₁, res)) :
    sl₁.usRxDataPending = sl.usRxDataPending := by
  unfold hostFlowControlConsumeBuff at h
  split at h
  · obtain ⟨rfl, -⟩ := Prod.mk.inj (Option.some.inj h)
    rfl
  · split at h
    · obtain ⟨rfl, -⟩ := Prod.mk.inj (Option.some.inj h)
      rfl
    · split at h
      · cases h
      · obtain ⟨rfl, -⟩ := Prod.mk.inj (Option.some.inj h)
        rfl

/-- Behind its admission, the call is the wait for the reply of what has reached the
device. -/
theorem SendArgs.run_admitted (a : SendArgs) {sl sl₁ : SLInfo} (tx tSocketSendEvent : Mem)
    (events : List Mem) (hadmitted : hostFlowControlConsumeBuff sl a.sd.toInt16 = some (sl₁, 0))
    (ret : Int16) :
    (∃ sl', a.run sl tx tSocketSendEvent events = some (sl', ret)) ↔
      (a.build tx).Transmitted ∧
        (simpleLinkWaitEvent { sl₁ with numberOfSentPackets := sl₁.numberOfSentPackets + 1 }
          a.opcode.evnt tSocketSendEvent events).2.2 = true ∧ ret = a.len.toInt16 := by
  unfold SendArgs.run
  rw [hadmitted]
  dsimp only
  rw [if_neg (not_not_intro rfl)]
  by_cases hsent : (a.build tx).Transmitted
  · rw [if_pos hsent, and_iff_right hsent]
    generalize simpleLinkWaitEvent _ _ _ _ = w
    obtain ⟨sl', args, returned⟩ := w
    cases returned with
    | true =>
      constructor
      · intro h
        obtain ⟨sl', h⟩ := h
        exact ⟨rfl, (Prod.mk.inj (Option.some.inj h)).2.symm⟩
      · intro h
        obtain ⟨-, rfl⟩ := h
        exact ⟨sl', rfl⟩
    | false =>
      constructor
      · intro h
        obtain ⟨sl', h⟩ := h
        cases h
      · intro h
        exact absurd h.1 Bool.false_ne_true
  · rw [if_neg hsent]
    constructor
    · intro h
      obtain ⟨sl', h⟩ := h
      cases h
    · intro h
      exact absurd h.1 hsent

/-- So it returns exactly if the frame reaches the device and the reply ends the wait, and
then it returns the length. -/
theorem SendArgs.run_iff (a : SendArgs) {sl sl₁ : SLInfo} (tx tSocketSendEvent : Mem)
    {frames : List Mem} {reply : Mem}
    (hadmitted : hostFlowControlConsumeBuff sl a.sd.toInt16 = some (sl₁, 0))
    (hframes : ∀ f ∈ frames, IsEvent f ∧ eventCode f ≠ a.opcode.evnt) (hreply : IsEvent reply)
    (hcode : eventCode reply = a.opcode.evnt) (ret : Int16) :
    (∃ sl', a.run sl tx tSocketSendEvent (frames ++ [reply]) = some (sl', ret)) ↔
      (a.build tx).Transmitted ∧ EndsWait sl reply ∧ ret = a.len.toInt16 := by
  have hends : EndsWait { sl₁ with numberOfSentPackets := sl₁.numberOfSentPackets + 1 } reply ↔
      EndsWait sl reply := EndsWait.congr (hostFlowControl_pending hadmitted) reply
  rw [a.run_admitted tx tSocketSendEvent _ hadmitted ret,
    simpleLinkWaitEvent_returns (evnt_resultObjects a.opcode) _ tSocketSendEvent hframes hreply
      hcode, hends]

/-- **A refused packet is not reported.** For every call that is admitted, any buffer,
length and address, on both opcodes, and every reply behind any other events, a
negative status makes the call return something negative exactly if the packet has
reached the device, the reply ends the wait, and the length is negative in 16
bits. -/
theorem sendReports_iff (a : SendArgs) {sl sl₁ : SLInfo} (tx tSocketSendEvent : Mem)
    {frames : List Mem} {reply : Mem}
    (hadmitted : hostFlowControlConsumeBuff sl a.sd.toInt16 = some (sl₁, 0))
    (hframes : ∀ f ∈ frames, IsEvent f ∧ eventCode f ≠ a.opcode.evnt) (hreply : IsEvent reply)
    (hcode : eventCode reply = a.opcode.evnt) :
    SendReports a sl tx tSocketSendEvent (frames ++ [reply]) reply ↔
      ((sendStatus reply).toInt32 < 0 →
        (a.build tx).Transmitted ∧ EndsWait sl reply ∧ a.len.toInt16 < 0) := by
  have hrun := SendArgs.run_iff a tx tSocketSendEvent hadmitted hframes hreply hcode
  apply imp_congr_right
  intro _
  constructor
  · intro h
    obtain ⟨sl', ret, hret, hneg⟩ := h
    obtain ⟨hsent, hend, rfl⟩ := (hrun ret).mp ⟨sl', hret⟩
    exact ⟨hsent, hend, hneg⟩
  · intro h
    obtain ⟨hsent, hend, hneg⟩ := h
    obtain ⟨sl', hret⟩ := (hrun a.len.toInt16).mpr ⟨hsent, hend, rfl⟩
    exact ⟨sl', _, hret, hneg⟩

/-- A transmit buffer with the magic number in its place. -/
def openTx : Mem := fun _ => cc3000BufferMagicNumber

/-- Four bytes to a peer. -/
def fourBytes (opcode : SendOpcode) : SendArgs :=
  ⟨0, Mem.ofList [1, 2, 3, 4], 4, 0, Mem.ofList [], 0, opcode⟩

/-- Socket 0 is active, and five buffers are free. -/
def SLInfo.connected : SLInfo :=
  { setSocketActiveStatus (SLInfo.start true) 0 socketStatusActive with usNumberOfFreeBuffers := 5 }

def sendEvent (status : UInt32) : Mem :=
  eventFrame hciEvntSend 0 (uint32Bytes 0 ++ uint32Bytes status)

/-- The four bytes have been sent, or refused. -/
theorem sendReports_statuses :
    (SendReports (fourBytes .send) .connected openTx (Mem.ofList []) ([] ++ [sendEvent 4])
        (sendEvent 4) ↔
      ((sendStatus (sendEvent 4)).toInt32 < 0 →
        ((fourBytes .send).build openTx).Transmitted ∧
          EndsWait .connected (sendEvent 4) ∧ (fourBytes .send).len.toInt16 < 0)) ∧
    (SendReports (fourBytes .send) .connected openTx (Mem.ofList []) ([] ++ [sendEvent 0xFFFFFFC4])
        (sendEvent 0xFFFFFFC4) ↔
      ((sendStatus (sendEvent 0xFFFFFFC4)).toInt32 < 0 →
        ((fourBytes .send).build openTx).Transmitted ∧
          EndsWait .connected (sendEvent 0xFFFFFFC4) ∧ (fourBytes .send).len.toInt16 < 0)) :=
  ⟨sendReports_iff (fourBytes .send) openTx (Mem.ofList []) rfl
      (fun f hf => absurd hf List.not_mem_nil) (by decide) (by decide),
    sendReports_iff (fourBytes .send) openTx (Mem.ofList []) rfl
      (fun f hf => absurd hf List.not_mem_nil) (by decide) (by decide)⟩

/-- **A packet the device could not send counts as sent.** The reply says
`UNABLE_TO_TCP_SEND`, and `send` returns 4. -/
theorem not_sendReports :
    ¬ ∀ (a : SendArgs) (sl sl₁ : SLInfo) (tx tSocketSendEvent : Mem) (frames : List Mem)
      (reply : Mem), hostFlowControlConsumeBuff sl a.sd.toInt16 = some (sl₁, 0) →
      (∀ f ∈ frames, IsEvent f ∧ eventCode f ≠ a.opcode.evnt) → IsEvent reply →
      eventCode reply = a.opcode.evnt →
      SendReports a sl tx tSocketSendEvent (frames ++ [reply]) reply := by
  intro h
  have hreports := h (fourBytes .send) .connected _ openTx (Mem.ofList []) []
    (sendEvent 0xFFFFFFC4) rfl (fun f hf => absurd hf List.not_mem_nil) (by decide) (by decide)
  obtain ⟨sl', ret, hrun, hneg⟩ := hreports (by decide)
  have hreturned := (SendArgs.run_iff (fourBytes .send) openTx (Mem.ofList []) rfl
    (fun f hf => absurd hf List.not_mem_nil) (by decide) (by decide) ret).mp ⟨sl', hrun⟩
  rw [hreturned.2.2] at hneg
  exact absurd hneg (by decide)

end SpiderL3S
