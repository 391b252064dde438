import SpiderL3S.Lib.Runs
import SpiderL3S.Socket
import SpiderL3S.Unsol

/- Transmit credits: `simple_link_send` with `HostFlowControlConsumeBuff` in front
   and the wait for the SEND reply behind, cut into single reads and writes of
   the globals, so that a packet can come between any two of them. A packet is
   read and passed to `SpiReceiveHandler` in one piece, whoever runs the handler;
   what is in the frame is left to the modules under `Tx`.

   A credit is a free buffer, or in the hands of a call, or with a packet that is
   out (`CreditInv`). It gets lost where a packet disturbs a call between two
   accesses that belong together (`Undisturbed`), and nowhere else
   (`credits_of_run`). -/
namespace SpiderL3S

open Runs

/-! The code. -/

/-- The globals and the packet in `wlan_rx_buffer`, with the variables of
`simple_link_send` and of the waiting loop. `errno` and `res` are 16-bit. -/
structure SendCore where
  sl : SLInfo
  data : Mem
  errno : UInt16
  res : UInt16
  args : WaitArgs
  usReceivedEventOpcode : UInt16

/-- `HCI_CMND_SEND` or `HCI_CMND_SENDTO`. -/
inductive SendOpcode where
  | send
  | sendto
  deriving DecidableEq

/-- The event the call waits for. -/
def SendOpcode.evnt : SendOpcode → UInt16
  | send => hciEvntSend
  | sendto => hciEvntSendto

inductive SendStmt where
  -- `HostFlowControlConsumeBuff`
  | testError (sd : Int16)
  | readError
  | clearError
  | testActive (sd : Int16)
  | testFree (sd : Int16)
  | readFree
  | writeFree (usNumberOfFreeBuffers : UInt16)
  -- `simple_link_send`
  | testRes (opcode : SendOpcode)
  | readSent
  | writeSent (numberOfSentPackets : UInt32)
  -- `SimpleLinkWaitEvent` and `hci_event_handler`
  | waitEvent (usOpcode : UInt16)
  | hehTest
  | hehTestType
  | hehUnsol
  | hehSwitch
  | hehClearOpcode
  | hehData
  | hehRelease
  | hehTestReturn
  deriving DecidableEq

def simpleLinkSend (sd : Int32) (opcode : SendOpcode) : List SendStmt :=
  [.testError sd.toInt16, .testRes opcode]

/-- One statement: the data behind it, and the statements it puts in front of what
is left to do. -/
def SendStmt.exec : SendStmt → SendCore → SendCore × List SendStmt
  | .testError sd, c =>
    (c, if c.sl.slTransmitDataError ≠ 0 then [.readError, .clearError] else [.testActive sd])
  | .readError, c => ({ c with errno := c.sl.slTransmitDataError.toUInt16 }, [])
  | .clearError, c => ({ c with sl := { c.sl with slTransmitDataError := 0 }, res := c.errno }, [])
  | .testActive sd, c =>
    if getSocketActiveStatus c.sl sd.toInt32.toUInt32 = socketStatusActive then (c, [.testFree sd])
    else ({ c with res := 0xFFFF }, [])
  | .testFree sd, c =>
    (c, if c.sl.usNumberOfFreeBuffers = 0 then [.testError sd] else [.readFree])
  | .readFree, c => (c, [.writeFree c.sl.usNumberOfFreeBuffers])
  | .writeFree usNumberOfFreeBuffers, c =>
    ({ c with
       sl := { c.sl with usNumberOfFreeBuffers := usNumberOfFreeBuffers - 1 }
       res := 0 }, [])
  | .testRes opcode, c => (c, if c.res ≠ 0 then [] else [.readSent, .waitEvent opcode.evnt])
  | .readSent, c => (c, [.writeSent c.sl.numberOfSentPackets])
  | .writeSent numberOfSentPackets, c =>
    ({ c with sl := { c.sl with numberOfSentPackets := numberOfSentPackets + 1 } }, [])
  | .waitEvent usOpcode, c =>
    ({ c with
       sl := { c.sl with usRxEventOpcode := usOpcode }
       args := ⟨⟨0, fun _ => 0, []⟩, none⟩
       usReceivedEventOpcode := 0 }, [.hehTest])
  | .hehTest, c =>
    (c, if c.sl.usEventOrDataReceived ≠ 0 then [.hehTestType, .hehRelease, .hehTestReturn]
      else [.hehTest])
  | .hehTestType, c =>
    if c.data hciPacketTypeOffset = hciTypeEvnt then
      ({ c with usReceivedEventOpcode := eventCode c.data }, [.hehUnsol, .hehClearOpcode])
    else (c, [.hehData])
  | .hehUnsol, c =>
    ({ c with sl := (hciUnsolEventHandler c.sl c.data).1 },
      if (hciUnsolEventHandler c.sl c.data).2 then [] else [.hehSwitch])
  | .hehSwitch, c =>
    -- the opcode is the loop's local one, the fields are those in the buffer
    let decoded := hciEventSwitch c.sl c.args.ret
      (c.data.store hciEventOpcodeOffset (uint16Bytes c.usReceivedEventOpcode))
    ({ c with sl := decoded.1, args := { c.args with ret := decoded.2 } }, [])
  | .hehClearOpcode, c =>
    ({ c with
       sl := if c.usReceivedEventOpcode = c.sl.usRxEventOpcode then
         { c.sl with usRxEventOpcode := 0 } else c.sl }, [])
  | .hehData, c =>
    ({ c with
       sl := (hciDataReceived c.sl c.args c.data).1
       args := (hciDataReceived c.sl c.args c.data).2 }, [])
  | .hehRelease, c => ({ c with sl := { c.sl with usEventOrDataReceived := 0 } }, [])
  | .hehTestReturn, c => (c, if waitOver c.sl then [] else [.hehTest])

/-- The data, and what main code has left to do in its call. -/
structure SendState where
  core : SendCore
  todo : List SendStmt

/-- A statement, a call of `send` or `sendto`, a packet from the device, or a
socket that another function opens or closes. -/
inductive SendLabel where
  | stmt
  | call (sd : Int32) (opcode : SendOpcode)
  | packet (data : Mem)
  | setStatus (sd status : UInt32)

/-- The packet is read over what the buffer holds, and `SpiReceiveHandler` takes
it or leaves it. -/
def SendCore.receive (c : SendCore) (data : Mem) : SendCore :=
  { c with sl := (spiReceiveHandler c.sl data).1, data }

def SendState.advance : SendState → SendLabel → Option SendState
  | ⟨c, s :: rest⟩, .stmt => some ⟨(s.exec c).1, (s.exec c).2 ++ rest⟩
  | ⟨c, []⟩, .call sd opcode => some ⟨c, simpleLinkSend sd opcode⟩
  | ⟨c, todo⟩, .packet data => some ⟨c.receive data, todo⟩
  | ⟨c, []⟩, .setStatus sd status =>
    some ⟨{ c with sl := setSocketActiveStatus c.sl sd status }, []⟩
  | _, _ => none

def SendStep (x : SendState) (l : SendLabel) (y : SendState) : Prop := x.advance l = some y

/-- No call is under way. -/
def SendState.idle (c : SendCore) : SendState := ⟨c, []⟩

/-- What a step does. -/
inductive SendStepped : SendState → SendLabel → SendState → Prop where
  | stmt (c : SendCore) (s : SendStmt) (rest : List SendStmt) :
      SendStepped ⟨c, s :: rest⟩ .stmt ⟨(s.exec c).1, (s.exec c).2 ++ rest⟩
  | call (c : SendCore) (sd : Int32) (opcode : SendOpcode) :
      SendStepped ⟨c, []⟩ (.call sd opcode) ⟨c, simpleLinkSend sd opcode⟩
  | packet (c : SendCore) (todo : List SendStmt) (data : Mem) :
      SendStepped ⟨c, todo⟩ (.packet data) ⟨c.receive data, todo⟩
  | setStatus (c : SendCore) (sd status : UInt32) :
      SendStepped ⟨c, []⟩ (.setStatus sd status)
        ⟨{ c with sl := setSocketActiveStatus c.sl sd status }, []⟩

theorem SendStep.stepped {x y : SendState} {l : SendLabel} (h : SendStep x l y) :
    SendStepped x l y := by
  obtain ⟨c, todo⟩ := x
  cases l with
  | stmt =>
    cases todo with
    | nil => cases h
    | cons s rest =>
      cases h
      exact .stmt c s rest
  | call sd opcode =>
    cases todo with
    | nil =>
      cases h
      exact .call c sd opcode
    | cons s rest => cases h
  | packet data =>
    have hy : y = ⟨c.receive data, todo⟩ := by
      cases todo <;> exact (Option.some.inj h).symm
    subst hy
    exact .packet c todo data
  | setStatus sd status =>
    cases todo with
    | nil =>
      cases h
      exact .setStatus c sd status
    | cons s rest => cases h

/-! What is said about it. -/

/-- A FREE_BUFF event that releases something. -/
def Releases (data : Mem) : Prop :=
  eventCode data = hciEvntDataUnsolFreeBuff ∧ releasedBuffers data ≠ 0

/-- The buffers a packet releases. -/
def freed (data : Mem) : UInt32 :=
  if IsEvent data ∧ eventCode data = hciEvntDataUnsolFreeBuff then releasedBuffers data else 0

/-- The packets sent and released so far, and whether a statement of the current
call has changed one of the three counters. -/
structure CreditLog where
  sent : Nat
  released : Nat
  moved : Bool

/-- The three counters. -/
def SLInfo.counters (sl : SLInfo) : UInt16 × UInt32 × UInt32 :=
  (sl.usNumberOfFreeBuffers, sl.numberOfSentPackets, sl.numberOfReleasedPackets)

def observeCredits (log : CreditLog) (x : SendState) (l : SendLabel) (y : SendState) : CreditLog :=
  match l, x.todo with
  | .stmt, .writeSent _ :: _ => { log with sent := log.sent + 1, moved := true }
  | .stmt, _ =>
    { log with moved := log.moved || decide (y.core.sl.counters ≠ x.core.sl.counters) }
  | .call _ _, _ => { log with moved := false }
  | .packet data, _ => { log with released := log.released + (freed data).toNat }
  | .setStatus _ _, _ => log

/-- The device releases no more packets than it has been sent. -/
def OwnReleases (x : SendState × CreditLog) : SendLabel → Prop
  | .packet data => x.2.released + (freed data).toNat ≤ x.2.sent
  | _ => True

/-- `usNumberOfFreeBuffers + (NumberOfSentPackets - NumberOfReleasedPackets)` is
`N`. -/
def Conserved (N : Nat) (sl : SLInfo) : Prop :=
  sl.usNumberOfFreeBuffers.toNat + (sl.numberOfSentPackets - sl.numberOfReleasedPackets).toNat = N

/-- The packet does not come at a bad moment: none that clears the error comes
between the test and the read of `slTransmitDataError`, none that releases buffers
between the read and the write of `usNumberOfFreeBuffers`, and while the loop has
not finished with a packet in the buffer, none that it would count once more, or
decode as the count, is read over it. -/
def Undisturbed (x : SendState) : SendLabel → Prop
  | .packet data =>
    match x.todo with
    | .readError :: _ =>
      ¬ (IsEvent data ∧ sendClass (eventCode data) = true ∧
        sendStatus data = errorSocketInactive ∧ streamToUint8 data hciEventStatusOffset = 0)
    | .writeFree _ :: _ => ¬ (IsEvent data ∧ Releases data)
    | .hehTestType :: _ => ¬ Releases data ∧ eventCode data ≠ hciCmndReadBufferSize
    | .hehUnsol :: _ => ¬ Releases data
    | _ => True
  | _ => True

/-! What a packet does to the counters. -/

/-- The globals behind an event that released `n` buffers. -/
structure Counted (sl : SLInfo) (n : UInt32) (sl' : SLInfo) : Prop where
  free : sl'.usNumberOfFreeBuffers = sl.usNumberOfFreeBuffers + n.toUInt16
  sent : sl'.numberOfSentPackets = sl.numberOfSentPackets
  released : sl'.numberOfReleasedPackets = sl.numberOfReleasedPackets + n
  opcode : sl'.usRxEventOpcode = sl.usRxEventOpcode

theorem Counted.none {sl sl' : SLInfo} (hcounters : sl'.counters = sl.counters)
    (hopcode : sl'.usRxEventOpcode = sl.usRxEventOpcode) : Counted sl 0 sl' := by
  obtain ⟨hfree, hcounters⟩ := Prod.mk.inj hcounters
  obtain ⟨hsent, hreleased⟩ := Prod.mk.inj hcounters
  exact ⟨by rw [hfree]; simp, hsent, by rw [hreleased]; simp, hopcode⟩

theorem setSocketActiveStatus_counters (sl : SLInfo) (sd status : UInt32) :
    (setSocketActiveStatus sl sd status).counters = sl.counters := by
  unfold setSocketActiveStatus
  split <;> rfl

theorem setSocketActiveStatus_rest (sl : SLInfo) (sd status : UInt32) :
    (setSocketActiveStatus sl sd status).slTransmitDataError = sl.slTransmitDataError ∧
      (setSocketActiveStatus sl sd status).usRxEventOpcode = sl.usRxEventOpcode ∧
      (setSocketActiveStatus sl sd status).usEventOrDataReceived = sl.usEventOrDataReceived := by
  unfold setSocketActiveStatus
  split <;> exact ⟨rfl, rfl, rfl⟩

theorem tryCallback_counters (sl : SLInfo) (eventType : UInt16) (data : List UInt8) :
    (sl.tryCallback eventType data).counters = sl.counters := by
  unfold SLInfo.tryCallback
  split <;> rfl

/-- The handler counts a FREE_BUFF event, and nothing else. -/
theorem hciUnsolEventHandler_counted (sl : SLInfo) (event : Mem) :
    Counted sl (if eventCode event = hciEvntDataUnsolFreeBuff then releasedBuffers event else 0)
      (hciUnsolEventHandler sl event).1 := by
  have hend := hciUnsolEventHandler_unsol sl event
  have hopcode := (hciUnsolEventHandler_sameWait sl event).1
  generalize hciUnsolEventHandler sl event = r at hend hopcode
  cases hend with
  | freeBuff sl' hcode hsl =>
    rw [if_pos hcode]
    rcases hsl with rfl | rfl <;> exact ⟨rfl, rfl, rfl, rfl⟩
  | wlan hcode =>
    rw [if_neg (ne_freeBuff_of_class (.inl (wlanEvents_class hcode)))]
    exact .none (tryCallback_counters _ _ _) hopcode
  | unsupported hclass _ =>
    rw [if_neg (ne_freeBuff_of_class (.inl hclass))]
    exact .none rfl rfl
  | sendInactive hcode _ =>
    rw [if_neg (ne_freeBuff_of_class (.inr hcode))]
    refine .none ?_ hopcode
    unfold updateSocketActiveStatus
    split
    · exact setSocketActiveStatus_counters _ _ _
    · rfl
  | sendOther hcode _ =>
    rw [if_neg (ne_freeBuff_of_class (.inr hcode))]
    exact .none rfl rfl
  | ignored _ hcode _ _ _ =>
    rw [if_neg hcode]
    exact .none rfl rfl
  | waited _ hcode _ _ =>
    rw [if_neg hcode]
    exact .none rfl rfl

theorem hciUnsolEventHandler_error (sl : SLInfo) (event : Mem) :
    (hciUnsolEventHandler sl event).1.slTransmitDataError = sl.slTransmitDataError ∨
      sendClass (eventCode event) = true ∧ sendStatus event = errorSocketInactive ∧
        (hciUnsolEventHandler sl event).1.slTransmitDataError =
          (streamToUint8 event hciEventStatusOffset).toUInt32 := by
  have hend := hciUnsolEventHandler_unsol sl event
  generalize hciUnsolEventHandler sl event = r at hend
  cases hend with
  | freeBuff sl' _ hsl => rcases hsl with rfl | rfl <;> exact .inl rfl
  | wlan _ =>
    left
    unfold SLInfo.tryCallback
    split <;> rfl
  | sendInactive hcode hstatus =>
    refine .inr ⟨hcode, hstatus, ?_⟩
    unfold updateSocketActiveStatus setSocketActiveStatus
    split
    · split <;> rfl
    · rfl
  | unsupported _ _ => exact .inl rfl
  | sendOther _ _ => exact .inl rfl
  | ignored _ _ _ _ _ => exact .inl rfl
  | waited _ _ _ _ => exact .inl rfl

theorem hciUnsolEventHandler_error_lt {sl : SLInfo} {event : Mem}
    (h : sl.slTransmitDataError.toNat < 256) :
    (hciUnsolEventHandler sl event).1.slTransmitDataError.toNat < 256 := by
  rcases hciUnsolEventHandler_error sl event with hkept | ⟨_, _, hset⟩
  · rwa [hkept]
  · rw [hset, UInt8.toNat_toUInt32]
    exact UInt8.toNat_lt _

theorem hciUnsolEventHandler_uncounted (sl : SLInfo) {event : Mem} (h : ¬ Releases event) :
    (hciUnsolEventHandler sl event).1.counters = sl.counters := by
  have hcounted := hciUnsolEventHandler_counted sl event
  have hnone : (if eventCode event = hciEvntDataUnsolFreeBuff then releasedBuffers event else 0)
      = 0 := by
    split
    · next hcode => exact Decidable.not_not.mp fun hne => h ⟨hcode, hne⟩
    · rfl
  rw [hnone] at hcounted
  unfold SLInfo.counters
  rw [hcounted.free, hcounted.sent, hcounted.released]
  simp

/-- What the handler refuses is no FREE_BUFF event, and no READ_BUFFER_SIZE reply
unless that is waited for. -/
theorem hciUnsolEventHandler_held {sl : SLInfo} {event : Mem}
    (h : (hciUnsolEventHandler sl event).2 = false) :
    eventCode event ≠ hciEvntDataUnsolFreeBuff ∧
      (eventCode event = hciCmndReadBufferSize → sl.usRxEventOpcode = hciCmndReadBufferSize) := by
  have hclass : ∀ code, code &&& hciEvntWlanUnsolBase ≠ 0 ∨ sendClass code = true →
      code ≠ hciEvntDataUnsolFreeBuff ∧
        (code = hciCmndReadBufferSize → sl.usRxEventOpcode = hciCmndReadBufferSize) := by
    intro code hclass
    refine ⟨ne_freeBuff_of_class hclass, fun heq => ?_⟩
    subst heq
    exact absurd hclass (by decide)
  have hend := hciUnsolEventHandler_unsol sl event
  generalize hciUnsolEventHandler sl event = r at hend h
  cases hend with
  | unsupported hbase _ => exact hclass _ (.inl hbase)
  | sendOther hcode _ => exact hclass _ (.inr hcode)
  | waited _ hfree _ hcode =>
    refine ⟨hfree, fun heq => ?_⟩
    rcases hcode with hcode | hcode
    · exact hcode.symm.trans heq
    · rw [hcode] at heq
      exact absurd heq (by decide)
  | freeBuff _ _ _ => cases h
  | wlan _ => cases h
  | sendInactive _ _ => cases h
  | ignored _ _ _ _ _ => cases h

/-- Decoding leaves the counters alone, unless it is the READ_BUFFER_SIZE reply. -/
theorem hciEventSwitch_counters (sl : SLInfo) (ret : Stream) {data : Mem}
    (hcode : eventCode data ≠ hciCmndReadBufferSize) :
    (hciEventSwitch sl ret data).1.counters = sl.counters ∧
      (hciEventSwitch sl ret data).1.slTransmitDataError = sl.slTransmitDataError := by
  apply hciEventSwitch_keeps (fun sl' => sl'.counters = sl.counters ∧
    sl'.slTransmitDataError = sl.slTransmitDataError) _ _ _ ⟨rfl, rfl⟩
  · intro hsize
    exact absurd hsize hcode
  · intro _ sd
    unfold setSocketActiveStatus
    split <;> exact ⟨rfl, rfl⟩

/-- The interrupt, on the packets it takes and on those it holds. -/
theorem spiReceiveHandler_cases (sl : SLInfo) (data : Mem) :
    (∃ sl', sl' = (hciUnsolEventHandler { sl with usEventOrDataReceived := 1 } data).1 ∧
        IsEvent data ∧ (spiReceiveHandler sl data).1 = { sl' with usEventOrDataReceived := 0 }) ∨
      (spiReceiveHandler sl data).1 = { sl with usEventOrDataReceived := 1 } ∧
        (IsEvent data →
          (hciUnsolEventHandler { sl with usEventOrDataReceived := 1 } data).2 = false) := by
  by_cases hevent : IsEvent data
  · rw [spiReceiveHandler_event sl hevent]
    cases (hciUnsolEventHandler { sl with usEventOrDataReceived := 1 } data).2 with
    | true => exact .inl ⟨_, rfl, hevent, rfl⟩
    | false => exact .inr ⟨rfl, fun _ => rfl⟩
  · rw [spiReceiveHandler_other sl hevent]
    exact .inr ⟨rfl, fun h => absurd h hevent⟩

theorem freed_of_event {data : Mem} (h : IsEvent data) : freed data =
    if eventCode data = hciEvntDataUnsolFreeBuff then releasedBuffers data else 0 := by
  unfold freed
  split
  · next hboth => rw [if_pos hboth.2]
  · next hno => rw [if_neg (fun hcode => hno ⟨h, hcode⟩)]

theorem freed_eq_zero {data : Mem} (h : ¬ (IsEvent data ∧ Releases data)) : freed data = 0 := by
  unfold freed
  split
  · next hfree => exact Decidable.not_not.mp fun hsome => h ⟨hfree.1, hfree.2, hsome⟩
  · rfl

theorem spiReceiveHandler_counted (sl : SLInfo) (data : Mem) :
    Counted sl (freed data) (spiReceiveHandler sl data).1 := by
  rcases spiReceiveHandler_cases sl data with ⟨sl', rfl, hevent, hsl⟩ | ⟨hsl, hrefused⟩
  · rw [hsl, freed_of_event hevent]
    have hcounted := hciUnsolEventHandler_counted { sl with usEventOrDataReceived := 1 } data
    exact ⟨hcounted.free, hcounted.sent, hcounted.released, hcounted.opcode⟩
  · have hnone : freed data = 0 := by
      apply freed_eq_zero
      intro hboth
      exact (hciUnsolEventHandler_held (hrefused hboth.1)).1 hboth.2.1
    rw [hsl, hnone]
    exact .none rfl rfl

theorem spiReceiveHandler_error (sl : SLInfo) (data : Mem) :
    (spiReceiveHandler sl data).1.slTransmitDataError = sl.slTransmitDataError ∨
      (IsEvent data ∧ sendClass (eventCode data) = true ∧ sendStatus data = errorSocketInactive) ∧
        (spiReceiveHandler sl data).1.slTransmitDataError =
          (streamToUint8 data hciEventStatusOffset).toUInt32 := by
  rcases spiReceiveHandler_cases sl data with ⟨sl', rfl, hevent, hsl⟩ | ⟨hsl, _⟩
  · rw [hsl]
    rcases hciUnsolEventHandler_error { sl with usEventOrDataReceived := 1 } data with h | h
    · exact .inl h
    · exact .inr ⟨⟨hevent, h.1, h.2.1⟩, h.2.2⟩
  · rw [hsl]
    exact .inl rfl

/-- An error that is set stays set, unless the packet clears it. -/
theorem spiReceiveHandler_error_ne {sl : SLInfo} {data : Mem} (hne : sl.slTransmitDataError ≠ 0)
    (hclears : ¬ (IsEvent data ∧ sendClass (eventCode data) = true ∧
      sendStatus data = errorSocketInactive ∧ streamToUint8 data hciEventStatusOffset = 0)) :
    (spiReceiveHandler sl data).1.slTransmitDataError ≠ 0 := by
  rcases spiReceiveHandler_error sl data with hkept | ⟨⟨hevent, hclass, hinactive⟩, hset⟩
  · rwa [hkept]
  · rw [hset]
    intro hzero
    apply hclears
    have hnat := congrArg UInt32.toNat hzero
    rw [UInt8.toNat_toUInt32] at hnat
    exact ⟨hevent, hclass, hinactive, UInt8.toNat_inj.mp hnat⟩

theorem spiReceiveHandler_held {sl : SLInfo} {data : Mem}
    (hflag : (spiReceiveHandler sl data).1.usEventOrDataReceived ≠ 0) (hevent : IsEvent data)
    (hopcode : sl.usRxEventOpcode ≠ hciCmndReadBufferSize) :
    eventCode data ≠ hciEvntDataUnsolFreeBuff ∧ eventCode data ≠ hciCmndReadBufferSize := by
  rcases spiReceiveHandler_cases sl data with ⟨sl', _, _, hsl⟩ | ⟨_, hrefused⟩
  · rw [hsl] at hflag
    exact absurd rfl hflag
  · obtain ⟨hfree, hsize⟩ := hciUnsolEventHandler_held (hrefused hevent)
    exact ⟨hfree, fun heq => hopcode (hsize heq)⟩

/-! The invariant. -/

/-- The books: `hand` credits are in the hands of the call. -/
structure Account (N : Nat) (c : SendCore) (log : CreditLog) (hand : Nat) : Prop where
  sent : c.sl.numberOfSentPackets.toNat = log.sent % 4294967296
  released : c.sl.numberOfReleasedPackets.toNat = log.released % 4294967296
  le : log.released ≤ log.sent
  balance : c.sl.usNumberOfFreeBuffers.toNat + hand + log.sent = N + log.released
  error : c.sl.slTransmitDataError.toNat < 256
  opcode : c.sl.usRxEventOpcode ≠ hciCmndReadBufferSize
  held : c.sl.usEventOrDataReceived ≠ 0 → IsEvent c.data →
    eventCode c.data ≠ hciEvntDataUnsolFreeBuff ∧ eventCode c.data ≠ hciCmndReadBufferSize

/-- Where a call can stand, and the credits in its hands. What it has read of the
globals is still true. -/
inductive SendPos (c : SendCore) (moved : Bool) : List SendStmt → Nat → Prop where
  | idle (hres : c.res ≠ 0 → moved = false) : SendPos c moved [] 0
  | testError (sd : Int16) (op : SendOpcode) (hmoved : moved = false) :
      SendPos c moved [.testError sd, .testRes op] 0
  | readError (op : SendOpcode) (hmoved : moved = false) (herror : c.sl.slTransmitDataError ≠ 0) :
      SendPos c moved [.readError, .clearError, .testRes op] 0
  | clearError (op : SendOpcode) (hmoved : moved = false) (herrno : c.errno ≠ 0) :
      SendPos c moved [.clearError, .testRes op] 0
  | testActive (sd : Int16) (op : SendOpcode) (hmoved : moved = false) :
      SendPos c moved [.testActive sd, .testRes op] 0
  | testFree (sd : Int16) (op : SendOpcode) (hmoved : moved = false) :
      SendPos c moved [.testFree sd, .testRes op] 0
  | readFree (op : SendOpcode) (hmoved : moved = false) (hfree : c.sl.usNumberOfFreeBuffers ≠ 0) :
      SendPos c moved [.readFree, .testRes op] 0
  | writeFree (op : SendOpcode) {free : UInt16} (hfree : c.sl.usNumberOfFreeBuffers ≠ 0)
      (hread : free = c.sl.usNumberOfFreeBuffers) :
      SendPos c moved [.writeFree free, .testRes op] 0
  | refused (op : SendOpcode) (hmoved : moved = false) (hres : c.res ≠ 0) :
      SendPos c moved [.testRes op] 0
  | paid (op : SendOpcode) (hres : c.res = 0) : SendPos c moved [.testRes op] 1
  | readSent (op : SendOpcode) (hres : c.res = 0) :
      SendPos c moved [.readSent, .waitEvent op.evnt] 1
  | writeSent (op : SendOpcode) {sent : UInt32} (hres : c.res = 0)
      (hread : sent = c.sl.numberOfSentPackets) :
      SendPos c moved [.writeSent sent, .waitEvent op.evnt] 1
  | waitEvent (op : SendOpcode) (hres : c.res = 0) : SendPos c moved [.waitEvent op.evnt] 0
  | hehTest (hres : c.res = 0) : SendPos c moved [.hehTest] 0
  | hehTestType (hres : c.res = 0) (hdata : IsEvent c.data →
        ¬ Releases c.data ∧ eventCode c.data ≠ hciCmndReadBufferSize) :
      SendPos c moved [.hehTestType, .hehRelease, .hehTestReturn] 0
  | hehUnsol (hres : c.res = 0) (hdata : ¬ Releases c.data)
      (hopcode : c.usReceivedEventOpcode ≠ hciCmndReadBufferSize) :
      SendPos c moved [.hehUnsol, .hehClearOpcode, .hehRelease, .hehTestReturn] 0
  | hehSwitch (hres : c.res = 0) (hopcode : c.usReceivedEventOpcode ≠ hciCmndReadBufferSize) :
      SendPos c moved [.hehSwitch, .hehClearOpcode, .hehRelease, .hehTestReturn] 0
  | hehClearOpcode (hres : c.res = 0) :
      SendPos c moved [.hehClearOpcode, .hehRelease, .hehTestReturn] 0
  | hehData (hres : c.res = 0) : SendPos c moved [.hehData, .hehRelease, .hehTestReturn] 0
  | hehRelease (hres : c.res = 0) : SendPos c moved [.hehRelease, .hehTestReturn] 0
  | hehTestReturn (hres : c.res = 0) : SendPos c moved [.hehTestReturn] 0

def CreditInv (N : Nat) (x : SendState × CreditLog) : Prop :=
  ∃ hand, SendPos x.1.core x.2.moved x.1.todo hand ∧ Account N x.1.core x.2 hand

/-- The books do not see what a statement does to anything else. -/
theorem Account.congr {N hand : Nat} {c c' : SendCore} {log log' : CreditLog}
    (h : Account N c log hand) (hcounters : c'.sl.counters = c.sl.counters)
    (herror : c'.sl.slTransmitDataError.toNat < 256)
    (hopcode : c'.sl.usRxEventOpcode ≠ hciCmndReadBufferSize)
    (hflag : c'.sl.usEventOrDataReceived = c.sl.usEventOrDataReceived ∨
      c'.sl.usEventOrDataReceived = 0)
    (hdata : c'.data = c.data) (hsent : log'.sent = log.sent)
    (hreleased : log'.released = log.released) : Account N c' log' hand := by
  obtain ⟨hfree, hcounters⟩ := Prod.mk.inj hcounters
  obtain ⟨hsent', hreleased'⟩ := Prod.mk.inj hcounters
  constructor
  · rw [hsent', hsent]
    exact h.sent
  · rw [hreleased', hreleased]
    exact h.released
  · rw [hsent, hreleased]
    exact h.le
  · rw [hfree, hsent, hreleased]
    exact h.balance
  · exact herror
  · exact hopcode
  · intro hset
    rw [hdata]
    apply h.held
    rcases hflag with hflag | hflag
    · rwa [hflag] at hset
    · exact absurd hflag hset

/-- Nor what a statement does to the variables of the call. -/
theorem Account.sameGlobals {N hand : Nat} {c c' : SendCore} {log log' : CreditLog}
    (h : Account N c log hand) (hsl : c'.sl = c.sl) (hdata : c'.data = c.data)
    (hsent : log'.sent = log.sent) (hreleased : log'.released = log.released) :
    Account N c' log' hand := by
  apply h.congr _ _ _ (.inl _) hdata hsent hreleased
  all_goals rw [hsl]
  · exact h.error
  · exact h.opcode

/-- The call takes a free buffer. -/
theorem Account.take {N : Nat} {c : SendCore} {log : CreditLog} (h : Account N c log 0)
    (hfree : c.sl.usNumberOfFreeBuffers ≠ 0) {moved : Bool} {res : UInt16} :
    Account N { c with
      sl := { c.sl with usNumberOfFreeBuffers := c.sl.usNumberOfFreeBuffers - 1 }, res }
      { log with moved } 1 := by
  have hpos : c.sl.usNumberOfFreeBuffers.toNat ≠ 0 := fun h => hfree (UInt16.toNat_inj.mp h)
  have hlt := c.sl.usNumberOfFreeBuffers.toNat_lt
  have hbalance := h.balance
  constructor
  · exact h.sent
  · exact h.released
  · exact h.le
  · show (c.sl.usNumberOfFreeBuffers - 1).toNat + 1 + log.sent = N + log.released
    rw [UInt16.toNat_sub]
    simp only [UInt16.reduceToNat]
    omega
  · exact h.error
  · exact h.opcode
  · exact h.held

/-- The credit goes out with the packet. -/
theorem Account.send {N : Nat} {c : SendCore} {log : CreditLog} (h : Account N c log 1)
    {moved : Bool} :
    Account N { c with
      sl := { c.sl with numberOfSentPackets := c.sl.numberOfSentPackets + 1 } }
      { log with sent := log.sent + 1, moved } 0 := by
  have hbalance := h.balance
  have hle := h.le
  constructor
  · show (c.sl.numberOfSentPackets + 1).toNat = (log.sent + 1) % 4294967296
    rw [UInt32.toNat_add, h.sent]
    simp only [UInt32.reduceToNat]
    omega
  · exact h.released
  · show log.released ≤ log.sent + 1
    omega
  · show c.sl.usNumberOfFreeBuffers.toNat + 0 + (log.sent + 1) = N + log.released
    omega
  · exact h.error
  · exact h.opcode
  · exact h.held

/-- The waiting loop hands an event on that releases nothing. -/
theorem Account.handled {N hand : Nat} {c : SendCore} {log : CreditLog} (h : Account N c log hand)
    (hdata : ¬ Releases c.data) :
    Account N { c with sl := (hciUnsolEventHandler c.sl c.data).1 } log hand := by
  have hopcode := (hciUnsolEventHandler_sameWait c.sl c.data).1
  exact h.congr (hciUnsolEventHandler_uncounted c.sl hdata) (hciUnsolEventHandler_error_lt h.error)
    (hopcode ▸ h.opcode) (.inl (hciUnsolEventHandler_flag _ _)) rfl rfl rfl

/-- The waiting loop decodes a reply that is not the count. -/
theorem Account.decoded {N hand : Nat} {c : SendCore} {log : CreditLog} (h : Account N c log hand)
    {event : Mem} (hcode : eventCode event ≠ hciCmndReadBufferSize) {args : WaitArgs} :
    Account N { c with sl := (hciEventSwitch c.sl c.args.ret event).1, args } log hand := by
  obtain ⟨hkept, herror⟩ := hciEventSwitch_counters c.sl c.args.ret hcode
  have hopcode := (hciEventSwitch_sameWait c.sl c.args.ret event).1
  exact h.congr hkept (herror ▸ h.error) (hopcode ▸ h.opcode)
    (.inl (hciEventSwitch_flag _ _ _)) rfl rfl rfl

/-- `errno` holds all of the error, which is one byte. -/
theorem Account.errno_ne_zero {N hand : Nat} {c : SendCore} {log : CreditLog}
    (h : Account N c log hand) (hne : c.sl.slTransmitDataError ≠ 0) :
    c.sl.slTransmitDataError.toUInt16 ≠ 0 := by
  intro hzero
  apply hne
  have hlow := congrArg UInt16.toNat hzero
  have hsmall := h.error
  rw [UInt32.toNat_toUInt16] at hlow
  apply UInt32.toNat_inj.mp
  change _ = 0 at hlow
  show _ = 0
  omega

/-- A packet that the device may send keeps the books. -/
theorem Account.receive {N hand : Nat} {c : SendCore} {log : CreditLog} (hN : N ≤ 255)
    (h : Account N c log hand) {data : Mem}
    (hown : log.released + (freed data).toNat ≤ log.sent) :
    Account N (c.receive data) { log with released := log.released + (freed data).toNat } hand := by
  have hcounted := spiReceiveHandler_counted c.sl data
  have hbalance := h.balance
  constructor
  · show (spiReceiveHandler c.sl data).1.numberOfSentPackets.toNat = _
    rw [hcounted.sent]
    exact h.sent
  · show (spiReceiveHandler c.sl data).1.numberOfReleasedPackets.toNat = _
    rw [hcounted.released, UInt32.toNat_add, h.released]
    show _ % 4294967296 = (log.released + (freed data).toNat) % 4294967296
    omega
  · exact hown
  · show (spiReceiveHandler c.sl data).1.usNumberOfFreeBuffers.toNat + _ + _ = _
    rw [hcounted.free, UInt16.toNat_add, UInt32.toNat_toUInt16]
    show _ % 65536 + hand + log.sent = N + (log.released + (freed data).toNat)
    omega
  · show (spiReceiveHandler c.sl data).1.slTransmitDataError.toNat < 256
    rcases spiReceiveHandler_error c.sl data with hkept | ⟨_, hset⟩
    · rw [hkept]
      exact h.error
    · rw [hset, UInt8.toNat_toUInt32]
      exact UInt8.toNat_lt _
  · show (spiReceiveHandler c.sl data).1.usRxEventOpcode ≠ _
    rw [hcounted.opcode]
    exact h.opcode
  · intro hflag hevent
    exact spiReceiveHandler_held hflag hevent h.opcode

/-- A packet takes no buffer: it only adds to those that are free. -/
theorem Account.receive_free_ne {N hand : Nat} {c : SendCore} {log : CreditLog} (hN : N ≤ 255)
    (h : Account N c log hand) {data : Mem}
    (hown : log.released + (freed data).toNat ≤ log.sent)
    (hne : c.sl.usNumberOfFreeBuffers ≠ 0) :
    (c.receive data).sl.usNumberOfFreeBuffers ≠ 0 := by
  intro hzero
  have hbalance := h.balance
  have hbalance' := (h.receive hN hown).balance
  rw [hzero] at hbalance'
  change 0 + hand + log.sent = N + (log.released + (freed data).toNat) at hbalance'
  have hpos : c.sl.usNumberOfFreeBuffers.toNat ≠ 0 := fun h => hne (UInt16.toNat_inj.mp h)
  omega

/-- The opcode in the buffer is the one that is stored there. -/
theorem eventCode_store (data : Mem) (usEventOpcode : UInt16) :
    eventCode (data.store hciEventOpcodeOffset (uint16Bytes usEventOpcode)) = usEventOpcode :=
  streamToUint16_of_slice (Mem.slice_store data hciEventOpcodeOffset _)

/-- A statement that leaves the counters alone leaves the log alone. -/
theorem observeCredits_same {s : SendStmt} (hs : ∀ n, s ≠ .writeSent n) (log : CreditLog)
    {c : SendCore} {rest : List SendStmt} {y : SendState}
    (h : y.core.sl.counters = c.sl.counters) :
    observeCredits log ⟨c, s :: rest⟩ .stmt y = log := by
  have hmoved : (log.moved || decide (y.core.sl.counters ≠ c.sl.counters)) = log.moved := by
    simp [h]
  cases s with
  | writeSent n => exact absurd rfl (hs n)
  | _ =>
    show ({ log with moved := log.moved || _ } : CreditLog) = log
    rw [hmoved]

/-- The invariant behind a statement that leaves the counters alone. -/
theorem CreditInv.same {N hand : Nat} {c c' : SendCore} {s : SendStmt} {code rest : List SendStmt}
    {log : CreditLog} (hexec : s.exec c = (c', code)) (hs : ∀ n, s ≠ .writeSent n)
    (hcounters : c'.sl.counters = c.sl.counters) (hpos : SendPos c' log.moved (code ++ rest) hand)
    (hacc : Account N c' log hand) :
    CreditInv N (⟨(s.exec c).1, (s.exec c).2 ++ rest⟩,
      observeCredits log ⟨c, s :: rest⟩ .stmt ⟨(s.exec c).1, (s.exec c).2 ++ rest⟩) := by
  rw [hexec, observeCredits_same hs log hcounters]
  exact ⟨hand, hpos, hacc⟩

/-- Every statement keeps the invariant. -/
theorem CreditInv.stmt {N : Nat} {c : SendCore} {s : SendStmt} {rest : List SendStmt}
    {log : CreditLog} (h : CreditInv N (⟨c, s :: rest⟩, log)) :
    CreditInv N (⟨(s.exec c).1, (s.exec c).2 ++ rest⟩,
      observeCredits log ⟨c, s :: rest⟩ .stmt ⟨(s.exec c).1, (s.exec c).2 ++ rest⟩) := by
  obtain ⟨hand, hpos, hacc⟩ := h
  change SendPos c log.moved (s :: rest) hand at hpos
  change Account N c log hand at hacc
  cases hpos with
  | testError sd op hmoved =>
    refine .same rfl (by simp) rfl ?_ hacc
    split
    · next herror => exact .readError op hmoved herror
    · exact .testActive sd op hmoved
  | readError op hmoved herror =>
    have herrno : c.sl.slTransmitDataError.toUInt16 ≠ 0 := hacc.errno_ne_zero herror
    exact .same rfl (by simp) rfl (.clearError op hmoved herrno) (hacc.sameGlobals rfl rfl rfl rfl)
  | clearError op hmoved herrno =>
    exact .same rfl (by simp) rfl (.refused op hmoved herrno)
      (hacc.congr rfl (by decide : (0 : UInt32).toNat < 256) hacc.opcode (.inl rfl) rfl rfl rfl)
  | testActive sd op hmoved =>
    by_cases hactive : getSocketActiveStatus c.sl sd.toInt32.toUInt32 = socketStatusActive
    · exact .same (if_pos hactive) (by simp) rfl (.testFree sd op hmoved) hacc
    · have hres : (0xFFFF : UInt16) ≠ 0 := by decide
      exact .same (if_neg hactive) (by simp) rfl (.refused op hmoved hres)
        (hacc.sameGlobals rfl rfl rfl rfl)
  | testFree sd op hmoved =>
    refine .same rfl (by simp) rfl ?_ hacc
    split
    · exact .testError sd op hmoved
    · next hfree => exact .readFree op hmoved hfree
  | readFree op hmoved hfree => exact .same rfl (by simp) rfl (.writeFree op hfree rfl) hacc
  | writeFree op hfree hread =>
    -- the count is still what was read, so this is a decrement
    subst hread
    exact ⟨1, .paid op rfl, hacc.take hfree⟩
  | refused op hmoved hres =>
    refine .same rfl (by simp) rfl ?_ hacc
    rw [if_pos hres]
    exact .idle fun _ => hmoved
  | paid op hres =>
    refine .same rfl (by simp) rfl ?_ hacc
    rw [if_neg (not_not_intro hres)]
    exact .readSent op hres
  | readSent op hres => exact .same rfl (by simp) rfl (.writeSent op hres rfl) hacc
  | writeSent op hres hread =>
    subst hread
    exact ⟨0, .waitEvent op hres, hacc.send⟩
  | waitEvent op hres =>
    have hopcode : op.evnt ≠ hciCmndReadBufferSize := by cases op <;> decide
    exact .same rfl (by simp) rfl (.hehTest hres)
      (hacc.congr rfl hacc.error hopcode (.inl rfl) rfl rfl rfl)
  | hehTest hres =>
    refine .same rfl (by simp) rfl ?_ hacc
    split
    · next hset =>
      refine .hehTestType hres fun hevent => ?_
      obtain ⟨hfree, hsize⟩ := hacc.held hset hevent
      exact ⟨fun h => hfree h.1, hsize⟩
    · exact .hehTest hres
  | hehTestType hres hdata =>
    by_cases hevent : IsEvent c.data
    · obtain ⟨hnone, hcode⟩ := hdata hevent
      exact .same (if_pos hevent) (by simp) rfl (.hehUnsol hres hnone hcode)
        (hacc.sameGlobals rfl rfl rfl rfl)
    · exact .same (if_neg hevent) (by simp) rfl (.hehData hres) hacc
  | hehUnsol hres hdata hopcode =>
    have hkept := hciUnsolEventHandler_uncounted c.sl hdata
    refine .same rfl (by simp) hkept ?_ (hacc.handled hdata)
    split
    · exact .hehClearOpcode hres
    · exact .hehSwitch hres hopcode
  | hehSwitch hres hopcode =>
    have hcode : eventCode (c.data.store hciEventOpcodeOffset
        (uint16Bytes c.usReceivedEventOpcode)) ≠ hciCmndReadBufferSize := by
      rw [eventCode_store]
      exact hopcode
    obtain ⟨hkept, -⟩ := hciEventSwitch_counters c.sl c.args.ret hcode
    exact .same rfl (by simp) hkept (.hehClearOpcode hres) (hacc.decoded hcode)
  | hehClearOpcode hres =>
    by_cases hover : c.usReceivedEventOpcode = c.sl.usRxEventOpcode
    · have hexec : SendStmt.hehClearOpcode.exec c =
          ({ c with sl := { c.sl with usRxEventOpcode := 0 } }, []) := by
        simp only [SendStmt.exec, if_pos hover]
      exact .same hexec (by simp) rfl (.hehRelease hres)
        (hacc.congr rfl hacc.error (by decide : (0 : UInt16) ≠ hciCmndReadBufferSize) (.inl rfl)
          rfl rfl rfl)
    · have hexec : SendStmt.hehClearOpcode.exec c = (c, []) := by
        simp only [SendStmt.exec, if_neg hover]
      exact .same hexec (by simp) rfl (.hehRelease hres) hacc
  | hehData hres =>
    -- of the globals only `usRxDataPending` changes
    exact .same rfl (by simp) rfl (.hehRelease hres)
      (hacc.congr rfl hacc.error hacc.opcode (.inl rfl) rfl rfl rfl)
  | hehRelease hres =>
    exact .same rfl (by simp) rfl (.hehTestReturn hres)
      (hacc.congr rfl hacc.error hacc.opcode (.inr rfl) rfl rfl rfl)
  | hehTestReturn hres =>
    refine .same rfl (by simp) rfl ?_ hacc
    split
    · exact .idle fun h => absurd hres h
    · exact .hehTest hres

/-- A packet that does not disturb the call leaves what it has read true. -/
theorem SendPos.receive {N hand : Nat} (hN : N ≤ 255) {c : SendCore} {log : CreditLog}
    {todo : List SendStmt} {data : Mem} (hacc : Account N c log hand)
    (hown : log.released + (freed data).toNat ≤ log.sent)
    (h : SendPos c log.moved todo hand) (hok : Undisturbed ⟨c, todo⟩ (.packet data)) :
    SendPos (c.receive data) log.moved todo hand := by
  have hcounted := spiReceiveHandler_counted c.sl data
  have hfree : c.sl.usNumberOfFreeBuffers ≠ 0 →
      (c.receive data).sl.usNumberOfFreeBuffers ≠ 0 := hacc.receive_free_ne hN hown
  cases h with
  | idle hres => exact .idle hres
  | testError sd op hmoved => exact .testError sd op hmoved
  | readError op hmoved herror =>
    exact .readError op hmoved (spiReceiveHandler_error_ne herror hok)
  | clearError op hmoved herrno => exact .clearError op hmoved herrno
  | testActive sd op hmoved => exact .testActive sd op hmoved
  | testFree sd op hmoved => exact .testFree sd op hmoved
  | readFree op hmoved hne => exact .readFree op hmoved (hfree hne)
  | writeFree op hne hread =>
    refine .writeFree op (hfree hne) ?_
    show _ = (spiReceiveHandler c.sl data).1.usNumberOfFreeBuffers
    rw [hcounted.free, freed_eq_zero hok, hread]
    simp
  | refused op hmoved hres => exact .refused op hmoved hres
  | paid op hres => exact .paid op hres
  | readSent op hres => exact .readSent op hres
  | writeSent op hres hread =>
    refine .writeSent op hres ?_
    show _ = (spiReceiveHandler c.sl data).1.numberOfSentPackets
    rw [hcounted.sent, hread]
  | waitEvent op hres => exact .waitEvent op hres
  | hehTest hres => exact .hehTest hres
  | hehTestType hres _ => exact .hehTestType hres fun _ => hok
  | hehUnsol hres _ hopcode => exact .hehUnsol hres hok hopcode
  | hehSwitch hres hopcode => exact .hehSwitch hres hopcode
  | hehClearOpcode hres => exact .hehClearOpcode hres
  | hehData hres => exact .hehData hres
  | hehRelease hres => exact .hehRelease hres
  | hehTestReturn hres => exact .hehTestReturn hres

/-- What a run may do: the device releases only what it was sent, and no packet
disturbs a call. -/
def CreditGuard (x : SendState × CreditLog) (l : SendLabel) : Prop :=
  OwnReleases x l ∧ Undisturbed x.1 l

/-- Every step of such a run keeps the invariant. -/
theorem CreditInv.step {N : Nat} (hN : N ≤ 255) {x y : SendState × CreditLog} {l : SendLabel}
    (h : CreditInv N x) (hs : guarded CreditGuard (watch SendStep observeCredits) x l y) :
    CreditInv N y := by
  obtain ⟨x, log⟩ := x
  obtain ⟨y, log'⟩ := y
  obtain ⟨⟨hown, hok⟩, hstep, hlog⟩ := hs
  change log' = observeCredits log x l y at hlog
  subst hlog
  cases SendStep.stepped hstep with
  | stmt c s rest => exact h.stmt
  | call c sd opcode =>
    obtain ⟨hand, hpos, hacc⟩ := h
    cases hpos with
    | idle hres => exact ⟨0, .testError _ opcode rfl, hacc.sameGlobals rfl rfl rfl rfl⟩
  | packet c todo data =>
    obtain ⟨hand, hpos, hacc⟩ := h
    change Account N c log hand at hacc
    have hpos' : SendPos (c.receive data) log.moved todo hand :=
      SendPos.receive hN hacc hown hpos hok
    exact ⟨hand, hpos', hacc.receive hN hown⟩
  | setStatus c sd status =>
    obtain ⟨hand, hpos, hacc⟩ := h
    cases hpos with
    | idle hres =>
      have hkept := setSocketActiveStatus_counters c.sl sd status
      obtain ⟨herror, hopcode, hflag⟩ := setSocketActiveStatus_rest c.sl sd status
      exact ⟨0, .idle hres,
        hacc.congr hkept (herror ▸ hacc.error) (hopcode ▸ hacc.opcode) (.inl hflag) rfl rfl rfl⟩

/-- The books balance: what the counters say between two calls. -/
theorem Account.conserved {N : Nat} (hN : N ≤ 255) {c : SendCore} {log : CreditLog}
    (h : Account N c log 0) : Conserved N c.sl := by
  have hsent := h.sent
  have hreleased := h.released
  have hle := h.le
  have hbalance := h.balance
  unfold Conserved
  rw [UInt32.toNat_sub]
  simp only [Nat.reducePow]
  omega

/-! The start. -/

theorem decode_counters (sl : SLInfo) (args : WaitArgs) {data : Mem}
    (hcode : eventCode data ≠ hciCmndReadBufferSize) :
    (decode sl args data).1.counters = sl.counters ∧
      (decode sl args data).1.slTransmitDataError = sl.slTransmitDataError := by
  obtain ⟨hcounters, herror⟩ := hciEventSwitch_counters { sl with usEventOrDataReceived := 1 }
    args.ret hcode
  unfold decode
  generalize hciEventSwitch { sl with usEventOrDataReceived := 1 } args.ret data = r
    at hcounters herror
  dsimp only
  split <;> exact ⟨hcounters, herror⟩

theorem hciEventSwitch_bufferSize (sl : SLInfo) (ret : Stream) {data : Mem}
    (hcode : eventCode data = hciCmndReadBufferSize) :
    hciEventSwitch sl ret data =
      ({ sl with
         usNumberOfFreeBuffers := (data hciEventHeaderSize).toUInt16
         usSlBufferLength := streamToUint16 (data.drop hciEventHeaderSize) 1 }, ret) :=
  if_pos hcode

theorem decode_bufferSize (sl : SLInfo) (args : WaitArgs) {data : Mem}
    (hcode : eventCode data = hciCmndReadBufferSize)
    (hwait : sl.usRxEventOpcode = hciCmndReadBufferSize) :
    (decode sl args data).1 =
      { sl with
        usNumberOfFreeBuffers := (data hciEventHeaderSize).toUInt16
        usSlBufferLength := streamToUint16 (data.drop hciEventHeaderSize) 1
        usRxEventOpcode := 0
        usEventOrDataReceived := 0 } := by
  unfold decode
  rw [hciEventSwitch_bufferSize _ _ hcode, hcode]
  dsimp only
  rw [if_pos hwait.symm]

/-- `wlan_start` leaves the count the device has given, and everything else
reset. -/
theorem wlanStart_counters {sl sl' : SLInfo} {started bufferSize : Mem} {ret : UInt32}
    (h : (SocketCall.wlanStart started bufferSize).run sl = some (sl', ret)) :
    sl'.counters = ((bufferSize hciEventHeaderSize).toUInt16, 0, 0) ∧
      sl'.slTransmitDataError = 0 ∧ sl'.usRxEventOpcode = 0 ∧ sl'.usEventOrDataReceived = 0 := by
  rw [SocketCall.run] at h
  obtain ⟨⟨sl₁, mem₁⟩, ha, h⟩ := Option.bind_eq_some_iff.mp h
  obtain ⟨⟨sl₂, mem₂⟩, hb, h⟩ := Option.bind_eq_some_iff.mp h
  obtain ⟨rfl, -⟩ := Prod.mk.inj (Option.some.inj h)
  have hstart := (answered_decode (by decide) ha).1
  have hsize := (answered_decode (by decide) hb).1.trans
    (decode_bufferSize _ _ (eventCode_replyEvent hciCmndReadBufferSize bufferSize) rfl)
  have hcode : eventCode (replyEvent hciCmndSimpleLinkStart started) ≠ hciCmndReadBufferSize := by
    rw [eventCode_replyEvent]
    decide
  obtain ⟨hcounters, herror⟩ := decode_counters
    { sl.restart with usRxEventOpcode := hciCmndSimpleLinkStart } ⟨⟨0, fun _ => 0, []⟩, none⟩ hcode
  rw [← hstart] at hcounters herror
  obtain ⟨-, hcounters⟩ := Prod.mk.inj hcounters
  obtain ⟨hsent, hreleased⟩ := Prod.mk.inj hcounters
  rw [hsize]
  refine ⟨?_, herror, rfl, rfl⟩
  show (_, sl₁.numberOfSentPackets, sl₁.numberOfReleasedPackets) = _
  rw [hsent, hreleased]
  rfl

theorem CreditInv.start {sl : SLInfo} {started bufferSize : Mem} {ret : UInt32} {c : SendCore}
    (h : (SocketCall.wlanStart started bufferSize).run sl = some (c.sl, ret)) :
    CreditInv (bufferSize hciEventHeaderSize).toNat (.idle c, ⟨0, 0, false⟩) := by
  obtain ⟨hcounters, herror, hopcode, hflag⟩ := wlanStart_counters h
  obtain ⟨hfree, hcounters⟩ := Prod.mk.inj hcounters
  obtain ⟨hsent, hreleased⟩ := Prod.mk.inj hcounters
  refine ⟨0, .idle fun _ => rfl, ?_⟩
  constructor
  · show c.sl.numberOfSentPackets.toNat = 0 % 4294967296
    rw [hsent]
    rfl
  · show c.sl.numberOfReleasedPackets.toNat = 0 % 4294967296
    rw [hreleased]
    rfl
  · exact Nat.le_refl 0
  · show c.sl.usNumberOfFreeBuffers.toNat + 0 + 0 = _
    rw [hfree, UInt8.toNat_toUInt16]
    rfl
  · show c.sl.slTransmitDataError.toNat < 256
    rw [herror]
    decide
  · show c.sl.usRxEventOpcode ≠ _
    rw [hopcode]
    decide
  · intro hset
    exact absurd hflag hset

/-! Runs that are computed. -/

instance (x : SendState × CreditLog) : DecidablePred (OwnReleases x)
  | .packet data => inferInstanceAs (Decidable (x.2.released + (freed data).toNat ≤ x.2.sent))
  | .stmt => inferInstanceAs (Decidable True)
  | .call _ _ => inferInstanceAs (Decidable True)
  | .setStatus _ _ => inferInstanceAs (Decidable True)

instance (data : Mem) : Decidable (Releases data) := inferInstanceAs (Decidable (_ ∧ _))

instance (x : SendState) : DecidablePred (Undisturbed x) := by
  intro l
  unfold Undisturbed
  split
  · split <;> infer_instance
  · infer_instance

instance (x : SendState × CreditLog) : DecidablePred (CreditGuard x) := fun _ =>
  inferInstanceAs (Decidable (_ ∧ _))

/-- One step that the device's promise allows, with the log behind it. -/
def creditNext (x : SendState × CreditLog) (l : SendLabel) : Option (SendState × CreditLog) :=
  if OwnReleases x l then (x.1.advance l).map fun y => (y, observeCredits x.2 x.1 l y) else none

theorem run_of_creditNext {x y : SendState × CreditLog} {ls : List SendLabel}
    (h : follow creditNext x ls = some y) :
    Run (guarded OwnReleases (watch SendStep observeCredits)) x ls y :=
  Run.of_follow_guarded h

/-- The globals before `wlan_start`, with every socket open. -/
def allOpen : SLInfo := { SLInfo.start true with socketActiveStatus := 0 }

/-- The device has two buffers. -/
def twoBuffers : Mem := Mem.ofList [0, 0, 0, 0, 0, 2]

def SendCore.start (sl : SLInfo) : SendCore :=
  { sl, data := fun _ => 0, errno := 0, res := 0, args := ⟨⟨0, fun _ => 0, []⟩, none⟩
    usReceivedEventOpcode := 0 }

/-- **Transmit credits are conserved.** In every run behind `wlan_start` in which
no packet disturbs a call and the device releases only what it was sent, the free
buffers never exceed the device's count, and between two calls they make it up
with the packets that are out; a call that was refused has moved no counter. -/
theorem credits_of_run {sl : SLInfo} {started bufferSize : Mem} {ret : UInt32} {c : SendCore}
    (hstart : (SocketCall.wlanStart started bufferSize).run sl = some (c.sl, ret))
    {ls : List SendLabel} {x : SendState × CreditLog}
    (hrun : Run (guarded CreditGuard (watch SendStep observeCredits)) (.idle c, ⟨0, 0, false⟩) ls x) :
    x.1.core.sl.usNumberOfFreeBuffers.toNat ≤ (bufferSize hciEventHeaderSize).toNat ∧
      (x.1.todo = [] → Conserved (bufferSize hciEventHeaderSize).toNat x.1.core.sl ∧
        (x.1.core.res ≠ 0 → x.2.moved = false)) := by
  have hN : (bufferSize hciEventHeaderSize).toNat ≤ 255 :=
    Nat.le_of_lt_succ (UInt8.toNat_lt _)
  have hinv : CreditInv (bufferSize hciEventHeaderSize).toNat x := by
    apply hrun.invariant (.start hstart)
    intro a l b _ h hs
    exact h.step hN hs
  obtain ⟨hand, hpos, hacc⟩ := hinv
  constructor
  · have hbalance := hacc.balance
    have hle := hacc.le
    omega
  · intro hidle
    rw [hidle] at hpos
    cases hpos with
    | idle hres => exact ⟨hacc.conserved hN, hres⟩

/-- A send from the wait on, the reply coming first. -/
def sendReplied : List SendLabel :=
  .packet (eventFrame hciEvntSend 0 [0, 0, 0, 0, 0, 0, 0, 0]) :: List.replicate 7 .stmt

/-- Two sends; behind the first its buffer is free again, and the second is on a socket that
is not open. -/
def creditBack : List SendLabel :=
  .call 0 .send :: List.replicate 9 .stmt ++ sendReplied ++
    [.packet (eventFrame hciEvntDataUnsolFreeBuff 0 [1, 0, 0, 0, 1, 0]), .call 9 .send] ++
    List.replicate 3 .stmt

/-- A credit that is spent and comes back, and a send that is refused with nothing moved. -/
theorem credits_back : ∃ x : SendState × CreditLog,
    x.1.todo = [] ∧ x.1.core.res = 0xFFFF ∧ x.1.core.sl.counters = (2, 1, 1) ∧
      x.1.core.sl.usNumberOfFreeBuffers.toNat ≤ 2 ∧
      (x.1.todo = [] → Conserved 2 x.1.core.sl ∧ (x.1.core.res ≠ 0 → x.2.moved = false)) := by
  have hend : ((SocketCall.wlanStart (fun _ => 0) twoBuffers).run allOpen).bind (fun a =>
      (follow (guardedNext CreditGuard SendState.advance observeCredits)
        (.idle (.start a.1), ⟨0, 0, false⟩) creditBack).map fun x =>
          (x.1.todo, x.1.core.res, x.1.core.sl.counters)) =
      some ([], 0xFFFF, 2, 1, 1) := by decide
  obtain ⟨⟨sl, ret⟩, hstart, hend⟩ := Option.bind_eq_some_iff.mp hend
  obtain ⟨x, hrun, hx⟩ := Option.map_eq_some_iff.mp hend
  obtain ⟨htodo, hx⟩ := Prod.mk.inj hx
  obtain ⟨hres, hcounters⟩ := Prod.mk.inj hx
  have hguarded : Run (guarded CreditGuard (watch SendStep observeCredits))
      (.idle (.start sl), ⟨0, 0, false⟩) creditBack x := Run.of_follow_guarded hrun
  exact ⟨x, htodo, hres, hcounters, credits_of_run (c := .start sl) hstart hguarded⟩

/-! A lost credit. -/

/-- Two sends; between the read and the write of the count in the second one, the
interrupt counts the buffer of the first. -/
def lostCredit : List SendLabel :=
  .call 0 .send :: List.replicate 9 .stmt ++ sendReplied ++ .call 0 .send ::
    List.replicate 4 .stmt ++
    .packet (eventFrame hciEvntDataUnsolFreeBuff 0 [1, 0, 0, 0, 1, 0]) ::
    List.replicate 5 .stmt ++ sendReplied

/-- **An interrupt in the decrement loses a credit.** Behind two sends one of whose
buffers is free again, the device has one buffer free and the host counts none. -/
theorem not_credits :
    ¬ ∀ (sl : SLInfo) (started bufferSize : Mem) (ret : UInt32) (c : SendCore)
      (ls : List SendLabel) (x : SendState × CreditLog),
      (SocketCall.wlanStart started bufferSize).run sl = some (c.sl, ret) →
      Run (guarded OwnReleases (watch SendStep observeCredits)) (.idle c, ⟨0, 0, false⟩) ls x →
      x.1.todo = [] → Conserved (bufferSize hciEventHeaderSize).toNat x.1.core.sl := by
  intro h
  have hend : ((SocketCall.wlanStart (fun _ => 0) twoBuffers).run allOpen).bind (fun a =>
      (follow creditNext (.idle (.start a.1), ⟨0, 0, false⟩) lostCredit).map fun x =>
        (x.1.todo, x.1.core.sl.counters)) = some ([], 0, 2, 1) := by decide
  obtain ⟨⟨sl, ret⟩, hstart, hend⟩ := Option.bind_eq_some_iff.mp hend
  obtain ⟨x, hrun, hx⟩ := Option.map_eq_some_iff.mp hend
  obtain ⟨htodo, hcounters⟩ := Prod.mk.inj hx
  obtain ⟨hfree, hcounters⟩ := Prod.mk.inj hcounters
  obtain ⟨hsent, hreleased⟩ := Prod.mk.inj hcounters
  have hkept := h allOpen _ twoBuffers ret (.start sl) lostCredit x hstart
    (run_of_creditNext hrun) htodo
  unfold Conserved at hkept
  rw [hfree, hsent, hreleased] at hkept
  cases hkept

end SpiderL3S
