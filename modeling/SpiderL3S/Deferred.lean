import SpiderL3S.Lib.Code
import SpiderL3S.Credits

/- Deferred transmit failures. The device reports a packet that it could not send
   with a SEND or SENDTO event of its own, and `hci_unsol_event_handler` keeps the
   status byte of it in `slTransmitDataError`, one slot for all sockets. The next
   call that tests the slot returns the byte as a positive number, whatever its
   socket is. `FailureLog` follows the failures that no call has been told of.

   Every call reports what it should exactly in the runs in which none of them
   tests the slot while a failure is outstanding (`deferredFailure_iff`). -/
namespace SpiderL3S

open Runs Code

/-! What is said about a call. -/

/-- A send that failed for an inactive socket. -/
def FailureEvent (data : Mem) : Prop :=
  IsEvent data ∧ sendClass (eventCode data) = true ∧ sendStatus data = errorSocketInactive

instance : DecidablePred FailureEvent := fun _ => inferInstanceAs (Decidable (_ ∧ _ ∧ _))

def failedSocket (data : Mem) : UInt32 := streamToUint32 data (hciEventHeaderSize + 0)

/-- The failures that no call has been told of, oldest first; the socket of the current
call, the failures that were outstanding when it tested the slot, and whether it
found its socket inactive. -/
structure FailureLog where
  outstanding : List UInt32
  sd : UInt32
  tested : List UInt32
  inactive : Bool

def FailureLog.none : FailureLog := ⟨[], 0, [], false⟩

def observeFailures (log : FailureLog) (x : SendState) (l : SendLabel) (_ : SendState) :
    FailureLog :=
  match l, x.todo with
  | .call sd _, _ => { log with sd := sd.toUInt32, tested := [], inactive := false }
  | .packet data, _ =>
    if FailureEvent data then { log with outstanding := log.outstanding ++ [failedSocket data] }
    else log
  | .stmt, .testError _ :: _ =>
    { log with tested := log.outstanding, outstanding := log.outstanding.erase log.sd }
  | .stmt, .testActive sd :: _ =>
    { log with
      inactive := getSocketActiveStatus x.core.sl sd.toInt32.toUInt32 ≠ socketStatusActive }
  | _, _ => log

/-- The packets are events, and a failure comes with a status byte that is not zero. -/
def EventsOnly (_ : SendState × FailureLog) : SendLabel → Prop
  | .packet data =>
    IsEvent data ∧ (FailureEvent data → streamToUint8 data hciEventStatusOffset ≠ 0)
  | _ => True

/-- The calls and the events, with the log. -/
def FailureStep : SendState × FailureLog → SendLabel → SendState × FailureLog → Prop :=
  guarded EventsOnly (watch SendStep observeFailures)

/-- `HostFlowControlConsumeBuff` returns what it should: something negative for a failure
of its own socket, and nothing is sent; otherwise what it would return without any
failure. -/
def ReportsFailure (x : SendState × FailureLog) (l : SendLabel) : Prop :=
  ∀ op rest, l = .stmt → x.1.todo = .testRes op :: rest →
    if x.2.sd ∈ x.2.tested then
      x.1.core.res.toInt16 < 0 ∧ ((SendStmt.testRes op).exec x.1.core).2 = []
    else x.1.core.res = if x.2.inactive then 0xFFFF else 0

/-- No failure was outstanding when the call tested the slot. -/
def NoneOutstanding (x : SendState × FailureLog) (l : SendLabel) : Prop :=
  ∀ op rest, l = .stmt → x.1.todo = .testRes op :: rest → x.2.tested = []

/-! The slot. -/

/-- The handler takes every failure, and keeps its status byte. -/
theorem hciUnsolEventHandler_failure (sl : SLInfo) {event : Mem} (h : FailureEvent event) :
    (hciUnsolEventHandler sl event).1.slTransmitDataError =
        (streamToUint8 event hciEventStatusOffset).toUInt32 ∧
      (hciUnsolEventHandler sl event).2 = true := by
  obtain ⟨-, hsend, hstatus⟩ := h
  have hend := hciUnsolEventHandler_unsol sl event
  have hclass := sendClass_class hsend
  generalize hciUnsolEventHandler sl event = r at hend ⊢
  cases hend with
  | sendInactive _ _ =>
    refine ⟨?_, rfl⟩
    unfold updateSocketActiveStatus
    split
    · exact (setSocketActiveStatus_rest _ _ _).1
    · rfl
  | sendOther _ hother => exact absurd hstatus hother
  | freeBuff _ hcode _ => exact absurd hcode (ne_freeBuff_of_class (.inr hsend))
  | wlan hcode => exact absurd hclass (wlanEvents_class hcode)
  | unsupported hbase _ => exact absurd hclass hbase
  | ignored _ _ hnot _ _ => cases hsend.symm.trans hnot
  | waited _ _ hnot _ => cases hsend.symm.trans hnot

/-- Any other event leaves the slot alone. -/
theorem hciUnsolEventHandler_noFailure (sl : SLInfo) {event : Mem} (hevent : IsEvent event)
    (h : ¬ FailureEvent event) :
    (hciUnsolEventHandler sl event).1.slTransmitDataError = sl.slTransmitDataError := by
  rcases hciUnsolEventHandler_error sl event with hkept | ⟨hsend, hstatus, -⟩
  · exact hkept
  · exact absurd ⟨hevent, hsend, hstatus⟩ h

/-- The interrupt with a failure: the slot is set, and the packet released. -/
theorem spiReceiveHandler_failure (sl : SLInfo) {data : Mem} (h : FailureEvent data) :
    (spiReceiveHandler sl data).1.slTransmitDataError =
        (streamToUint8 data hciEventStatusOffset).toUInt32 ∧
      (spiReceiveHandler sl data).1.usEventOrDataReceived = 0 := by
  obtain ⟨hset, htaken⟩ := hciUnsolEventHandler_failure { sl with usEventOrDataReceived := 1 } h
  rw [spiReceiveHandler_event sl h.1, htaken, if_pos rfl]
  exact ⟨hset, rfl⟩

theorem spiReceiveHandler_noFailure (sl : SLInfo) {data : Mem} (h : ¬ FailureEvent data) :
    (spiReceiveHandler sl data).1.slTransmitDataError = sl.slTransmitDataError := by
  rcases spiReceiveHandler_error sl data with hkept | ⟨hfailure, -⟩
  · exact hkept
  · exact absurd hfailure h

theorem hciEventSwitch_error (sl : SLInfo) (ret : Stream) (data : Mem) :
    (hciEventSwitch sl ret data).1.slTransmitDataError = sl.slTransmitDataError := by
  apply hciEventSwitch_keeps (fun sl' => sl'.slTransmitDataError = sl.slTransmitDataError)
  · rfl
  · intro _ free size
    rfl
  · intro _ sd
    exact (setSocketActiveStatus_rest sl sd _).1

/-- The slot is set exactly while a failure is outstanding, with a byte of it, and a
packet that is held is no failure. -/
structure SlotInv (c : SendCore) (log : FailureLog) : Prop where
  error : c.sl.slTransmitDataError ≠ 0 ↔ log.outstanding ≠ []
  lt : c.sl.slTransmitDataError.toNat < 256
  held : c.sl.usEventOrDataReceived ≠ 0 → ¬ FailureEvent c.data

/-- A statement that does not touch the slot. -/
theorem SlotInv.congr {c c' : SendCore} {log : FailureLog} (h : SlotInv c log)
    (herror : c'.sl.slTransmitDataError = c.sl.slTransmitDataError)
    (hflag : c'.sl.usEventOrDataReceived = c.sl.usEventOrDataReceived ∨
      c'.sl.usEventOrDataReceived = 0)
    (hdata : c'.data = c.data) : SlotInv c' log := by
  refine ⟨?_, ?_, ?_⟩
  · rw [herror]
    exact h.error
  · rw [herror]
    exact h.lt
  · intro hset
    rw [hdata]
    apply h.held
    rcases hflag with hflag | hflag
    · rwa [hflag] at hset
    · exact absurd hflag hset

/-- The log is the same about what is outstanding. -/
theorem SlotInv.log {c : SendCore} {log log' : FailureLog} (h : SlotInv c log)
    (hlog : log'.outstanding = log.outstanding) : SlotInv c log' := by
  refine ⟨?_, h.lt, h.held⟩
  rw [hlog]
  exact h.error

/-- A status byte, wherever it has been copied to. -/
def IsStatus (n : Nat) : Prop := 0 < n ∧ n < 256

theorem isStatus_of_ne {n : UInt32} (hne : n ≠ 0) (hlt : n.toNat < 256) : IsStatus n.toNat := by
  refine ⟨?_, hlt⟩
  apply Nat.pos_of_ne_zero
  intro hzero
  exact hne (UInt32.toNat_inj.mp hzero)

theorem isStatus_byte {b : UInt8} (h : b ≠ 0) : IsStatus b.toUInt32.toNat := by
  rw [UInt8.toNat_toUInt32]
  refine ⟨?_, UInt8.toNat_lt _⟩
  apply Nat.pos_of_ne_zero
  intro hzero
  exact h (UInt8.toNat_inj.mp hzero)

/-- Returned, it is a positive number. -/
theorem IsStatus.returned {res : UInt16} (h : IsStatus res.toNat) :
    ¬ res.toInt16 < 0 ∧ res ≠ 0 ∧ res ≠ 0xFFFF := by
  obtain ⟨hpos, hlt⟩ := h
  refine ⟨?_, ?_, ?_⟩
  · rw [Int16.lt_iff_toInt_lt]
    show ¬ (UInt16.toInt16 res).toInt < 0
    rw [int16_toInt, UInt16.toUInt16_toInt16]
    omega
  · intro hzero
    rw [hzero] at hpos
    exact absurd hpos (by decide)
  · intro hall
    rw [hall] at hlt
    exact absurd hlt (by decide)

/-- The log behind a packet. -/
def FailureLog.receive (log : FailureLog) (data : Mem) : FailureLog :=
  if FailureEvent data then { log with outstanding := log.outstanding ++ [failedSocket data] }
  else log

theorem FailureLog.receive_outstanding {log : FailureLog} {data : Mem} (h : FailureEvent data) :
    (log.receive data).outstanding ≠ [] := by
  unfold FailureLog.receive
  rw [if_pos h]
  simp

/-- A packet is logged, and nothing else about the call changes. -/
theorem FailureLog.receive_call (log : FailureLog) (data : Mem) :
    (log.receive data).tested = log.tested ∧ (log.receive data).inactive = log.inactive := by
  unfold FailureLog.receive
  split <;> exact ⟨rfl, rfl⟩

theorem SlotInv.receive {c : SendCore} {log : FailureLog} (h : SlotInv c log) {data : Mem}
    (hstatus : FailureEvent data → streamToUint8 data hciEventStatusOffset ≠ 0) :
    SlotInv (c.receive data) (log.receive data) := by
  by_cases hfailure : FailureEvent data
  · obtain ⟨hset, hflag⟩ := spiReceiveHandler_failure c.sl hfailure
    obtain ⟨hpos, hlt⟩ := isStatus_byte (hstatus hfailure)
    rw [← hset] at hpos hlt
    refine ⟨?_, hlt, fun hheld => absurd hflag hheld⟩
    constructor
    · intro _
      exact FailureLog.receive_outstanding hfailure
    · intro _ hzero
      change (spiReceiveHandler c.sl data).1.slTransmitDataError = 0 at hzero
      rw [hzero] at hpos
      exact absurd hpos (by decide)
  · have hkept := spiReceiveHandler_noFailure c.sl hfailure
    unfold FailureLog.receive
    rw [if_neg hfailure]
    refine ⟨?_, ?_, fun _ => hfailure⟩
    · show (spiReceiveHandler c.sl data).1.slTransmitDataError ≠ 0 ↔ _
      rw [hkept]
      exact h.error
    · show (spiReceiveHandler c.sl data).1.slTransmitDataError.toNat < 256
      rw [hkept]
      exact h.lt

/-- A byte in the slot that has not been read yet is overwritten with another one at
most. -/
theorem receive_isStatus {c : SendCore} {data : Mem} (h : IsStatus c.sl.slTransmitDataError.toNat)
    (hstatus : FailureEvent data → streamToUint8 data hciEventStatusOffset ≠ 0) :
    IsStatus (c.receive data).sl.slTransmitDataError.toNat := by
  show IsStatus (spiReceiveHandler c.sl data).1.slTransmitDataError.toNat
  by_cases hfailure : FailureEvent data
  · rw [(spiReceiveHandler_failure c.sl hfailure).1]
    exact isStatus_byte (hstatus hfailure)
  · rw [spiReceiveHandler_noFailure c.sl hfailure]
    exact h

/-! The position of a call. -/

/-- Statements that leave the slot and the packet alone. -/
def SendStmt.quiet : SendStmt → Bool
  | readSent | writeSent _ | waitEvent _ | hehTest | hehSwitch | hehClearOpcode | hehData
  | hehRelease | hehTestReturn => true
  | _ => false

theorem SendStmt.exec_quiet {s : SendStmt} (h : s.quiet = true) (c : SendCore) :
    (s.exec c).1.sl.slTransmitDataError = c.sl.slTransmitDataError ∧
      ((s.exec c).1.sl.usEventOrDataReceived = c.sl.usEventOrDataReceived ∨
        (s.exec c).1.sl.usEventOrDataReceived = 0) ∧ (s.exec c).1.data = c.data := by
  cases s with
  | hehSwitch =>
    exact ⟨hciEventSwitch_error _ _ _, .inl (hciEventSwitch_flag _ _ _), rfl⟩
  | hehClearOpcode =>
    unfold SendStmt.exec
    dsimp only
    split <;> exact ⟨rfl, .inl rfl, rfl⟩
  | hehRelease => exact ⟨rfl, .inr rfl, rfl⟩
  | readSent | writeSent _ | waitEvent _ | hehTest | hehData | hehTestReturn =>
    exact ⟨rfl, .inl rfl, rfl⟩
  | _ => cases h

/-- What such a statement goes on with: more of them, or the handling of a packet that
is held. -/
theorem SendStmt.exec_quiet_code {s : SendStmt} (h : s.quiet = true) (c : SendCore) :
    Only SendStmt.quiet (s.exec c).2 ∨
      c.sl.usEventOrDataReceived ≠ 0 ∧ (s.exec c).1 = c ∧
        (s.exec c).2 = [.hehTestType, .hehRelease, .hehTestReturn] := by
  cases s with
  | hehTest =>
    by_cases hset : c.sl.usEventOrDataReceived ≠ 0
    · exact .inr ⟨hset, rfl, if_pos hset⟩
    · left
      show Only SendStmt.quiet (if c.sl.usEventOrDataReceived ≠ 0 then _ else _)
      rw [if_neg hset]
      rfl
  | hehTestReturn =>
    left
    show Only SendStmt.quiet (if waitOver c.sl then _ else _)
    split <;> rfl
  | readSent | writeSent _ | waitEvent _ | hehSwitch | hehClearOpcode | hehData | hehRelease =>
    exact .inl rfl
  | _ => cases h

/-- Where a call can stand, and what the log says of it. While a failure is outstanding
that the call has found, nothing more is known than that a status byte is on its way
to the caller. -/
inductive FailPos (c : SendCore) (log : FailureLog) : List SendStmt → Prop where
  | waiting {todo : List SendStmt} (hslot : SlotInv c log) (htodo : Only SendStmt.quiet todo) :
      FailPos c log todo
  | handling {s : SendStmt} {rest : List SendStmt} (hslot : SlotInv c log)
      (hs : s = .hehTestType ∨ s = .hehUnsol ∧ IsEvent c.data)
      (hdata : FailureEvent c.data →
        log.outstanding ≠ [] ∧ streamToUint8 c.data hciEventStatusOffset ≠ 0)
      (hrest : Only SendStmt.quiet rest) : FailPos c log (s :: rest)
  | testError (sd : Int16) (op : SendOpcode) (hslot : SlotInv c log) :
      FailPos c log [.testError sd, .testRes op]
  | readError (op : SendOpcode) (htested : log.tested ≠ [])
      (herror : IsStatus c.sl.slTransmitDataError.toNat) :
      FailPos c log [.readError, .clearError, .testRes op]
  | clearError (op : SendOpcode) (htested : log.tested ≠ []) (herrno : IsStatus c.errno.toNat) :
      FailPos c log [.clearError, .testRes op]
  | failed (op : SendOpcode) (htested : log.tested ≠ []) (hres : IsStatus c.res.toNat) :
      FailPos c log [.testRes op]
  | testActive (sd : Int16) (op : SendOpcode) (hslot : SlotInv c log)
      (htested : log.tested = []) : FailPos c log [.testActive sd, .testRes op]
  | testFree (sd : Int16) (op : SendOpcode) (hslot : SlotInv c log) (htested : log.tested = [])
      (hactive : log.inactive = false) : FailPos c log [.testFree sd, .testRes op]
  | readFree (op : SendOpcode) (hslot : SlotInv c log) (htested : log.tested = [])
      (hactive : log.inactive = false) : FailPos c log [.readFree, .testRes op]
  | writeFree (op : SendOpcode) {free : UInt16} (hslot : SlotInv c log)
      (htested : log.tested = []) (hactive : log.inactive = false) :
      FailPos c log [.writeFree free, .testRes op]
  | decided (op : SendOpcode) (hslot : SlotInv c log) (htested : log.tested = [])
      (hres : c.res = if log.inactive then 0xFFFF else 0) : FailPos c log [.testRes op]

def FailInv (x : SendState × FailureLog) : Prop := FailPos x.1.core x.2 x.1.todo

/-- A test whose result is due is right exactly if it found no failure. -/
theorem FailInv.reports_iff {x : SendState × FailureLog} (h : FailInv x) (l : SendLabel) :
    ReportsFailure x l ↔ NoneOutstanding x l := by
  obtain ⟨⟨c, todo⟩, log⟩ := x
  change FailPos c log todo at h
  apply forall_congr'
  intro op
  apply forall_congr'
  intro rest
  apply imp_congr_right
  intro _
  apply imp_congr_right
  intro htodo
  change todo = _ at htodo
  subst htodo
  show (if log.sd ∈ log.tested then _ else _) ↔ log.tested = []
  cases h with
  | waiting _ htodo => cases (Only.cons_iff.mp htodo).1
  | handling _ hs _ _ => rcases hs with hs | ⟨hs, -⟩ <;> cases hs
  | failed op htested hres =>
    obtain ⟨hneg, hzero, hall⟩ := hres.returned
    refine ⟨fun h => ?_, fun h => absurd h htested⟩
    split at h
    · exact absurd h.1 hneg
    · split at h
      · exact absurd h hall
      · exact absurd h hzero
  | decided op _ htested hres =>
    refine ⟨fun _ => htested, fun _ => ?_⟩
    rw [if_neg (by rw [htested]; exact List.not_mem_nil)]
    exact hres

/-! The steps. -/

/-- The log of a statement that neither tests the slot nor looks at the socket. -/
theorem observeFailures_stmt {s : SendStmt} (herror : ∀ sd, s ≠ .testError sd)
    (hactive : ∀ sd, s ≠ .testActive sd) (log : FailureLog) (c : SendCore) (rest : List SendStmt)
    (y : SendState) : observeFailures log ⟨c, s :: rest⟩ .stmt y = log := by
  cases s with
  | testError sd => exact absurd rfl (herror sd)
  | testActive sd => exact absurd rfl (hactive sd)
  | _ => rfl

/-- A statement that leaves the slot alone. -/
theorem FailPos.quiet {c : SendCore} {log : FailureLog} {s : SendStmt} {rest : List SendStmt}
    (hslot : SlotInv c log) (hs : s.quiet = true) (hrest : Only SendStmt.quiet rest) :
    FailPos (s.exec c).1 log ((s.exec c).2 ++ rest) := by
  obtain ⟨herror, hflag, hdata⟩ := SendStmt.exec_quiet hs c
  have hslot' : SlotInv (s.exec c).1 log := hslot.congr herror hflag hdata
  rcases SendStmt.exec_quiet_code hs c with hcode | ⟨hset, hsame, hcode⟩
  · exact .waiting hslot' (hcode.append hrest)
  · rw [hsame, hcode]
    refine .handling hslot (.inl rfl) (fun hfailure => absurd hfailure (hslot.held hset)) ?_
    exact Only.append rfl hrest

/-- The waiting loop handles the packet in the buffer. Only a packet that was read over
the one it had found can be a failure, and then the interrupt has kept its status. -/
theorem FailPos.handled {c : SendCore} {log : FailureLog} {rest : List SendStmt}
    (hslot : SlotInv c log) (hevent : IsEvent c.data)
    (hdata : FailureEvent c.data →
      log.outstanding ≠ [] ∧ streamToUint8 c.data hciEventStatusOffset ≠ 0)
    (hrest : Only SendStmt.quiet rest) :
    FailPos (SendStmt.hehUnsol.exec c).1 log ((SendStmt.hehUnsol.exec c).2 ++ rest) := by
  have hflag := hciUnsolEventHandler_flag c.sl c.data
  refine .waiting ?_ ?_
  · by_cases hfailure : FailureEvent c.data
    · obtain ⟨hout, hstatus⟩ := hdata hfailure
      obtain ⟨hpos, hlt⟩ := isStatus_byte hstatus
      rw [← (hciUnsolEventHandler_failure c.sl hfailure).1] at hpos hlt
      refine ⟨⟨fun _ => hout, fun _ hzero => ?_⟩, hlt, fun hset => ?_⟩
      · change (hciUnsolEventHandler c.sl c.data).1.slTransmitDataError = 0 at hzero
        rw [hzero] at hpos
        exact absurd hpos (by decide)
      · change (hciUnsolEventHandler c.sl c.data).1.usEventOrDataReceived ≠ 0 at hset
        rw [hflag] at hset
        exact hslot.held hset
    · exact hslot.congr (hciUnsolEventHandler_noFailure c.sl hevent hfailure) (.inl hflag) rfl
  · refine Only.append ?_ hrest
    show Only SendStmt.quiet (if (hciUnsolEventHandler c.sl c.data).2 then _ else _)
    split <;> rfl

/-- The slot is tested: a byte is found exactly if a failure is outstanding. -/
theorem FailPos.slotTested {c : SendCore} {log : FailureLog} (sd : Int16) (op : SendOpcode)
    (hslot : SlotInv c log) :
    FailPos c { log with tested := log.outstanding, outstanding := log.outstanding.erase log.sd }
      (((SendStmt.testError sd).exec c).2 ++ [.testRes op]) := by
  show FailPos c _ ((if c.sl.slTransmitDataError ≠ 0 then _ else _) ++ [.testRes op])
  by_cases herror : c.sl.slTransmitDataError ≠ 0
  · rw [if_pos herror]
    exact .readError op (hslot.error.mp herror) (isStatus_of_ne herror hslot.lt)
  · have hnone : log.outstanding = [] := by
      by_contra hout
      exact herror (hslot.error.mpr hout)
    rw [if_neg herror]
    refine .testActive sd op (hslot.log ?_) hnone
    show log.outstanding.erase log.sd = log.outstanding
    rw [hnone]
    rfl

/-- No failure was found, and the socket is tested. -/
theorem FailPos.socketTested {c : SendCore} {log : FailureLog} (sd : Int16) (op : SendOpcode)
    (hslot : SlotInv c log) (htested : log.tested = []) :
    FailPos ((SendStmt.testActive sd).exec c).1
      { log with
        inactive := getSocketActiveStatus c.sl sd.toInt32.toUInt32 ≠ socketStatusActive }
      (((SendStmt.testActive sd).exec c).2 ++ [.testRes op]) := by
  by_cases hactive : getSocketActiveStatus c.sl sd.toInt32.toUInt32 = socketStatusActive
  · rw [show (SendStmt.testActive sd).exec c = _ from if_pos hactive]
    exact .testFree sd op (hslot.log rfl) htested (decide_eq_false (not_not_intro hactive))
  · have hslot' : SlotInv { c with res := 0xFFFF } log := hslot.congr rfl (.inl rfl) rfl
    rw [show (SendStmt.testActive sd).exec c = _ from if_neg hactive]
    refine .decided op (hslot'.log rfl) htested ?_
    exact (if_pos (decide_eq_true hactive)).symm

/-- Every statement keeps the position, unless it is the test of a result that the
guard forbids. -/
theorem FailPos.stmt {c : SendCore} {log : FailureLog} {s : SendStmt} {rest : List SendStmt}
    (h : FailPos c log (s :: rest)) (hok : NoneOutstanding (⟨c, s :: rest⟩, log) .stmt) :
    FailPos (s.exec c).1
      (observeFailures log ⟨c, s :: rest⟩ .stmt ⟨(s.exec c).1, (s.exec c).2 ++ rest⟩)
      ((s.exec c).2 ++ rest) := by
  cases h with
  | waiting hslot htodo =>
    obtain ⟨hs, hrest⟩ := Only.cons_iff.mp htodo
    rw [observeFailures_stmt]
    · exact .quiet hslot hs hrest
    all_goals
      intro sd heq
      rw [heq] at hs
      cases hs
  | handling hslot hs hdata hrest =>
    rcases hs with rfl | ⟨rfl, hevent⟩
    · by_cases hevent : IsEvent c.data
      · rw [show SendStmt.hehTestType.exec c = _ from if_pos hevent]
        exact .handling (hslot.congr rfl (.inl rfl) rfl) (.inr ⟨rfl, hevent⟩) hdata
          (Only.append rfl hrest)
      · rw [show SendStmt.hehTestType.exec c = _ from if_neg hevent]
        exact .waiting hslot (Only.append rfl hrest)
    · exact .handled hslot hevent hdata hrest
  | testError sd op hslot => exact .slotTested sd op hslot
  | readError op htested herror =>
    refine .clearError op htested ?_
    show IsStatus (c.sl.slTransmitDataError.toUInt16).toNat
    rw [UInt32.toNat_toUInt16, Nat.mod_eq_of_lt (Nat.lt_trans herror.2 (by decide))]
    exact herror
  | clearError op htested herrno => exact .failed op htested herrno
  | failed op htested _ => exact absurd (hok op [] rfl rfl) htested
  | testActive sd op hslot htested => exact .socketTested sd op hslot htested
  | testFree sd op hslot htested hactive =>
    show FailPos c log ((if c.sl.usNumberOfFreeBuffers = 0 then _ else _) ++ [.testRes op])
    split
    · exact .testError sd op hslot
    · exact .readFree op hslot htested hactive
  | readFree op hslot htested hactive => exact .writeFree op hslot htested hactive
  | writeFree op hslot htested hactive =>
    refine .decided op (hslot.congr rfl (.inl rfl) rfl) htested ?_
    show (0 : UInt16) = if log.inactive then 0xFFFF else 0
    rw [hactive]
    rfl
  | decided op hslot htested _ =>
    show FailPos c log ((if c.res ≠ 0 then [] else _) ++ [])
    refine .waiting hslot ?_
    split <;> rfl

/-- An event keeps the position, wherever it comes. -/
theorem FailPos.receive {c : SendCore} {log : FailureLog} {todo : List SendStmt} {data : Mem}
    (h : FailPos c log todo) (hevent : IsEvent data)
    (hstatus : FailureEvent data → streamToUint8 data hciEventStatusOffset ≠ 0) :
    FailPos (c.receive data) (log.receive data) todo := by
  obtain ⟨htested', hinactive'⟩ := log.receive_call data
  cases h with
  | waiting hslot htodo => exact .waiting (hslot.receive hstatus) htodo
  | handling hslot hs _ hrest =>
    refine .handling (hslot.receive hstatus) (hs.imp_right fun hs => ⟨hs.1, hevent⟩) ?_ hrest
    intro hfailure
    exact ⟨FailureLog.receive_outstanding hfailure, hstatus hfailure⟩
  | testError sd op hslot => exact .testError sd op (hslot.receive hstatus)
  | readError op htested herror =>
    exact .readError op (htested'.symm ▸ htested) (receive_isStatus herror hstatus)
  | clearError op htested herrno => exact .clearError op (htested'.symm ▸ htested) herrno
  | failed op htested hres => exact .failed op (htested'.symm ▸ htested) hres
  | testActive sd op hslot htested =>
    exact .testActive sd op (hslot.receive hstatus) (htested'.trans htested)
  | testFree sd op hslot htested hactive =>
    exact .testFree sd op (hslot.receive hstatus) (htested'.trans htested)
      (hinactive'.trans hactive)
  | readFree op hslot htested hactive =>
    exact .readFree op (hslot.receive hstatus) (htested'.trans htested)
      (hinactive'.trans hactive)
  | writeFree op hslot htested hactive =>
    exact .writeFree op (hslot.receive hstatus) (htested'.trans htested)
      (hinactive'.trans hactive)
  | decided op hslot htested hres =>
    refine .decided op (hslot.receive hstatus) (htested'.trans htested) ?_
    rw [hinactive']
    exact hres

/-- Between two calls the slot and the log agree. -/
theorem FailPos.idle {c : SendCore} {log : FailureLog} (h : FailPos c log []) : SlotInv c log := by
  cases h with
  | waiting hslot _ => exact hslot

/-- Every step that the guard allows keeps the invariant. -/
theorem FailInv.step {x y : SendState × FailureLog} {l : SendLabel} (h : FailInv x)
    (hok : NoneOutstanding x l) (hs : FailureStep x l y) : FailInv y := by
  obtain ⟨x, log⟩ := x
  obtain ⟨y, log'⟩ := y
  obtain ⟨hevents, hstep, hlog⟩ := hs
  change log' = observeFailures log x l y at hlog
  change FailPos x.core log x.todo at h
  subst hlog
  cases SendStep.stepped hstep with
  | stmt c s rest => exact h.stmt hok
  | call c sd opcode => exact .testError _ opcode (h.idle.log rfl)
  | packet c todo data => exact h.receive hevents.1 hevents.2
  | setStatus c sd status =>
    obtain ⟨herror, -, hflag⟩ := setSocketActiveStatus_rest c.sl sd status
    exact .waiting (h.idle.congr herror (.inl hflag) rfl) rfl

theorem FailInv.start {sl : SLInfo} {started bufferSize : Mem} {ret : UInt32} {c : SendCore}
    (h : (SocketCall.wlanStart started bufferSize).run sl = some (c.sl, ret)) :
    FailInv (.idle c, .none) := by
  obtain ⟨-, herror, -, hflag⟩ := wlanStart_counters h
  refine .waiting ⟨?_, ?_, fun hset => absurd hflag hset⟩ rfl
  · exact ⟨fun hne => absurd herror hne, fun hne => absurd rfl hne⟩
  · show c.sl.slTransmitDataError.toNat < 256
    rw [herror]
    decide

/-- **A deferred failure is reported to no one.** In the runs behind `wlan_start`, of
calls of `send` and `sendto` on any sockets with any events at any moment, every
call returns what the failures say exactly if none of them tests the slot while a
failure is outstanding. -/
theorem deferredFailure_iff {sl : SLInfo} {started bufferSize : Mem} {ret : UInt32} {c : SendCore}
    (hstart : (SocketCall.wlanStart started bufferSize).run sl = some (c.sl, ret))
    (ls : List SendLabel) (x : SendState × FailureLog) :
    Run (fun a l b => FailureStep a l b ∧ ReportsFailure a l) (.idle c, .none) ls x ↔
      Run (guarded NoneOutstanding FailureStep) (.idle c, .none) ls x := by
  apply Run.demand_iff (P := FailInv) (FailInv.start hstart)
  · intro a l b ha hok hs
    exact ha.step hok hs
  · intro a l b ha _
    exact ha.reports_iff l

/-! A failure that is reported. -/

instance (x : SendState × FailureLog) : DecidablePred (EventsOnly x)
  | .packet data =>
    inferInstanceAs (Decidable (IsEvent data ∧
      (FailureEvent data → streamToUint8 data hciEventStatusOffset ≠ 0)))
  | .stmt => inferInstanceAs (Decidable True)
  | .call _ _ => inferInstanceAs (Decidable True)
  | .setStatus _ _ => inferInstanceAs (Decidable True)

/-- The device could not send for a socket, and says so with a status byte of 1. -/
def inactiveEvent (sd : UInt32) : Mem :=
  eventFrame hciEvntSend 1 (uint32Bytes sd ++ uint32Bytes errorSocketInactive)

/-- A send on an open socket, up to its credit, and behind its test a failure. -/
def lateFailure : List SendLabel :=
  .call 0 .send :: List.replicate 6 .stmt ++ [.packet (inactiveEvent 0)]

/-- What the test returned is right: there was no failure yet. -/
theorem deferredFailure_late : ∃ (c : SendCore) (x : SendState × FailureLog),
    x.1.todo = [.readSent, .waitEvent hciEvntSend] ∧ x.1.core.sl.slTransmitDataError = 1 ∧
      Run (fun a l b => FailureStep a l b ∧ ReportsFailure a l) (.idle c, .none) lateFailure x := by
  have hend : ((SocketCall.wlanStart (fun _ => 0) twoBuffers).run allOpen).bind (fun a =>
      (follow (guardedNext (fun x l => EventsOnly x l ∧ x.2.tested = []) SendState.advance
        observeFailures) (.idle (.start a.1), .none) lateFailure).map
          fun x => (x.1.todo, x.1.core.sl.slTransmitDataError)) =
      some ([.readSent, .waitEvent hciEvntSend], 1) := by decide
  obtain ⟨⟨sl, ret⟩, hstart, hend⟩ := Option.bind_eq_some_iff.mp hend
  obtain ⟨x, hrun, hx⟩ := Option.map_eq_some_iff.mp hend
  obtain ⟨htodo, herror⟩ := Prod.mk.inj hx
  refine ⟨.start sl, x, htodo, herror, (deferredFailure_iff (c := .start sl) hstart _ x).mpr ?_⟩
  apply (Run.of_follow_guarded hrun).mono
  intro a l b _ hs
  exact ⟨fun _ _ _ _ => hs.1.2, hs.1.1, hs.2⟩

/-- **A failure on one socket is a length on the next.** The device could not send for
socket 0; the next `send`, on socket 1, returns 1. -/
theorem not_deferredFailure :
    ¬ ∀ (sl : SLInfo) (started bufferSize : Mem) (ret : UInt32) (c : SendCore)
      (ls : List SendLabel) (x : SendState × FailureLog) (l : SendLabel),
      (SocketCall.wlanStart started bufferSize).run sl = some (c.sl, ret) →
      Run FailureStep (.idle c, .none) ls x → ReportsFailure x l := by
  intro h
  have hend : ((SocketCall.wlanStart (fun _ => 0) twoBuffers).run allOpen).bind (fun a =>
      (follow (guardedNext EventsOnly SendState.advance observeFailures) (.idle (.start a.1), .none)
        [.packet (inactiveEvent 0), .call 1 .send, .stmt, .stmt, .stmt]).map fun x =>
        (x.1.todo, x.1.core.res, x.2.sd, x.2.tested, x.2.inactive)) =
      some ([.testRes .send], 1, 1, [0], false) := by decide
  obtain ⟨⟨sl, ret⟩, hstart, hend⟩ := Option.bind_eq_some_iff.mp hend
  obtain ⟨x, hrun, hx⟩ := Option.map_eq_some_iff.mp hend
  obtain ⟨htodo, hx⟩ := Prod.mk.inj hx
  obtain ⟨hres, hx⟩ := Prod.mk.inj hx
  obtain ⟨hsd, hx⟩ := Prod.mk.inj hx
  obtain ⟨htested, hinactive⟩ := Prod.mk.inj hx
  have hreports := h allOpen _ twoBuffers ret (.start sl) _ x .stmt hstart
    (Run.of_follow_guarded hrun) .send [] rfl htodo
  rw [hsd, htested, hinactive, if_neg (by decide), hres] at hreports
  exact absurd hreports (by decide)

end SpiderL3S
