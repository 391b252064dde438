import SpiderL3S.Lib.Runs
import SpiderL3S.ReplyIsolation

/- Socket status: `socket`, `accept` and `closesocket` of `socket.c` and
   `wlan_start` of `wlan.c`, each with the replies it waits for, and the bit mask
   `socket_active_status` that they write. The mask is read bit by bit
   (`statusBit`), and a call is a function of the globals, defined where its wait
   ends with the reply. `errno` is an `int` of 16 bits, and `accept` returns what
   is left of its status in it.

   The status follows the life of the sockets exactly in the runs that make no
   `accept` on an open socket fail and restart the device with no socket open
   (`socketStatus_kept_iff`). -/
namespace SpiderL3S

open Runs

/-! The mask. -/

/-- `get_socket_active_status`. -/
def getSocketActiveStatus (sl : SLInfo) (sd : UInt32) : UInt32 :=
  if sd ≤ 7 then
    if sl.socketActiveStatus &&& (1 <<< sd) ≠ 0 then socketStatusInactive else socketStatusActive
  else socketStatusInactive

/-- Bit `sd` of the mask. -/
def statusBit (sl : SLInfo) (sd : Nat) : Bool := sl.socketActiveStatus.toBitVec.getLsbD sd

theorem one_shiftLeft_toBitVec {sd : UInt32} (h : sd ≤ 7) :
    ((1 : UInt32) <<< sd).toBitVec = BitVec.twoPow 32 sd.toNat := by
  have hlt : sd.toNat < 32 := Nat.lt_of_le_of_lt (UInt32.le_iff_toNat_le.mp h) (by decide)
  rw [UInt32.toBitVec_shiftLeft, BitVec.twoPow_eq, BitVec.shiftLeft_eq', BitVec.toNat_umod]
  congr 1
  exact Nat.mod_eq_of_lt hlt

/-- A word has a bit of its own for every socket. -/
theorem and_one_shiftLeft_eq_zero_iff (v : UInt32) {sd : UInt32} (h : sd ≤ 7) :
    v &&& (1 <<< sd) = 0 ↔ v.toBitVec.getLsbD sd.toNat = false := by
  have hlt : sd.toNat < 32 := Nat.lt_of_le_of_lt (UInt32.le_iff_toNat_le.mp h) (by decide)
  rw [← UInt32.toBitVec_inj, UInt32.toBitVec_and, one_shiftLeft_toBitVec h, BitVec.and_twoPow]
  cases v.toBitVec.getLsbD sd.toNat with
  | false => simp
  | true =>
    simp only [if_true, Bool.true_eq_false, iff_false]
    intro hzero
    have hbit := congrArg (fun v => BitVec.getLsbD v sd.toNat) hzero
    simp [hlt] at hbit

theorem getSocketActiveStatus_active_iff {sl : SLInfo} {sd : UInt32} (h : sd ≤ 7) :
    getSocketActiveStatus sl sd = socketStatusActive ↔ statusBit sl sd.toNat = false := by
  have hmask : sl.socketActiveStatus &&& (1 <<< sd) = 0 ↔ statusBit sl sd.toNat = false :=
    and_one_shiftLeft_eq_zero_iff _ h
  rw [getSocketActiveStatus, if_pos h, ← hmask]
  split
  · next hne =>
    have hinactive : ¬ socketStatusInactive = socketStatusActive := by decide
    exact ⟨fun h => absurd h hinactive, fun h => absurd h hne⟩
  · next heq => exact ⟨fun _ => Decidable.not_not.mp heq, fun _ => rfl⟩

/-- Setting a status writes the bit of its descriptor and no other. -/
theorem statusBit_set (sl : SLInfo) {sd status : UInt32} (hsd : sd ≤ 7)
    (hstatus : status = socketStatusActive ∨ status = socketStatusInactive) (i : Nat) :
    statusBit (setSocketActiveStatus sl sd status) i =
      if i = sd.toNat then decide (status = socketStatusInactive) else statusBit sl i := by
  have hlt : sd.toNat < 32 := Nat.lt_of_le_of_lt (UInt32.le_iff_toNat_le.mp hsd) (by decide)
  rw [setSocketActiveStatus, if_pos ⟨hsd, hstatus⟩, statusBit, statusBit]
  have hone := one_shiftLeft_toBitVec hsd
  rw [UInt32.toBitVec_or, UInt32.toBitVec_and, UInt32.toBitVec_not, hone]
  have hshift : (status <<< sd).toBitVec.getLsbD i =
      (decide (i = sd.toNat) && decide (status = socketStatusInactive)) := by
    rcases hstatus with rfl | rfl
    · have hzero : ¬ socketStatusActive = socketStatusInactive := by decide
      simp [hzero]
    · show (1 <<< sd : UInt32).toBitVec.getLsbD i = _
      rw [hone, BitVec.getLsbD_twoPow]
      simp [hlt, eq_comm]
  rw [BitVec.getLsbD_or, BitVec.getLsbD_and, BitVec.getLsbD_not, BitVec.getLsbD_twoPow, hshift]
  by_cases hi : i = sd.toNat
  · subst hi
    simp [hlt]
  · have hrange : sl.socketActiveStatus.toBitVec.getLsbD i = true → i < 32 := fun hbit =>
      BitVec.lt_of_getLsbD hbit
    have hne : ¬ sd.toNat = i := fun h => hi h.symm
    cases hbit : sl.socketActiveStatus.toBitVec.getLsbD i with
    | false => simp [hi]
    | true => simp [hi, hne, hrange hbit]

/-! The calls. -/

/-- `accept` passes its status through `errno`. -/
def acceptRet (iStatus : Int32) : Int32 := iStatus.toInt16.toInt32

/-- The globals as `wlan_start` resets them. The mask is not among them. -/
def SLInfo.restart (sl : SLInfo) : SLInfo :=
  { sl with
    numberOfSentPackets := 0
    numberOfReleasedPackets := 0
    usRxEventOpcode := 0
    usNumberOfFreeBuffers := 0
    usSlBufferLength := 0
    usRxDataPending := 0
    slTransmitDataError := 0
    usEventOrDataReceived := 0 }

/-- The event that answers a command: the code, and anything behind it. -/
def replyEvent (code : UInt16) (reply : Mem) : Mem :=
  reply.store hciPacketTypeOffset (hciTypeEvnt :: uint16Bytes code)

/-- A wait that the reply ends: the globals and the result object behind it. -/
def answered (sl : SLInfo) (code : UInt16) (mem reply : Mem) : Option (SLInfo × Mem) :=
  match simpleLinkWaitEvent sl code mem [replyEvent code reply] with
  | (sl, args, true) => some (sl, args.ret.mem)
  | (_, _, false) => none

/-- A call, with the replies the device gives in it. -/
inductive SocketCall where
  | socket (reply : Mem)
  | accept (sd : UInt32) (reply : Mem)
  | closesocket (sd : UInt32) (reply : Mem)
  | wlanStart (started bufferSize : Mem)

/-- A result object that holds `EFAIL`. -/
def efail : Mem := Mem.ofList (uint32Bytes 0xFFFFFFFF)

/-- The globals behind a call, and what it returns (`wlan_start` nothing). The
result object of `accept` is not initialised. -/
def SocketCall.run (sl : SLInfo) : SocketCall → Option (SLInfo × UInt32)
  | .socket reply => do
    let (sl, ret) ← answered sl hciCmndSocket efail reply
    let ret := streamToUint32 ret 0
    return (setSocketActiveStatus sl ret socketStatusActive, ret)
  | .accept sd reply => do
    let (sl, tAcceptReturnArguments) ← answered sl hciCmndAccept (fun _ => 0) reply
    let ret := (acceptRet (streamToUint32 tAcceptReturnArguments 4).toInt32).toUInt32
    if ret ≤ 7 then return (setSocketActiveStatus sl ret socketStatusActive, ret)
    else return (setSocketActiveStatus sl sd socketStatusInactive, ret)
  | .closesocket sd reply => do
    let (sl, ret) ← answered sl hciCmndCloseSocket efail reply
    return (setSocketActiveStatus sl sd socketStatusInactive, streamToUint32 ret 0)
  | .wlanStart started bufferSize => do
    let (sl, _) ← answered sl.restart hciCmndSimpleLinkStart (fun _ => 0) started
    let (sl, _) ← answered sl hciCmndReadBufferSize (fun _ => 0) bufferSize
    return (sl, 0)

/-- A call that returns. -/
def SocketStep (sl : SLInfo) (c : SocketCall × UInt32) (sl' : SLInfo) : Prop :=
  c.1.run sl = some (sl', c.2)

/-! What a wait leaves alone. -/

theorem eventCode_replyEvent (code : UInt16) (reply : Mem) :
    eventCode (replyEvent code reply) = code := streamToUint16_of_slice rfl

theorem isEvent_replyEvent (code : UInt16) (reply : Mem) : IsEvent (replyEvent code reply) := rfl

theorem hciEventSwitch_socketActiveStatus (sl : SLInfo) (ret : Stream) {data : Mem}
    (hcode : eventCode data ∉ [hciEvntRecv, hciEvntRecvfrom]) :
    (hciEventSwitch sl ret data).1.socketActiveStatus = sl.socketActiveStatus := by
  apply hciEventSwitch_keeps (fun sl' => sl'.socketActiveStatus = sl.socketActiveStatus) _ _ _ rfl
  · intro _ free size
    rfl
  · intro hrecv
    exact absurd hrecv hcode

/-- A code that answers a command and is not taken for anything else. -/
abbrev PlainReply (code : UInt16) : Prop :=
  code ≠ hciEvntDataUnsolFreeBuff ∧ code &&& hciEvntWlanUnsolBase = 0 ∧ sendClass code = false ∧
    code ≠ hciEvntPatchesReq ∧ code ∉ [hciEvntRecv, hciEvntRecvfrom]

/-- A wait over one packet. -/
theorem hciEventHandler_single (sl : SLInfo) (args : WaitArgs) (data : Mem) :
    hciEventHandler sl args [data] = deliver sl args data := by
  unfold hciEventHandler
  generalize deliver sl args data = r
  obtain ⟨sl', args', ended⟩ := r
  cases ended <;> rfl

/-- Behind the switch, decoding leaves the mask alone. -/
theorem decode_mask (sl : SLInfo) (args : WaitArgs) (data : Mem) :
    (decode sl args data).1.socketActiveStatus =
      (hciEventSwitch { sl with usEventOrDataReceived := 1 } args.ret data).1.socketActiveStatus := by
  unfold decode
  generalize hciEventSwitch { sl with usEventOrDataReceived := 1 } args.ret data = r
  dsimp only
  split <;> rfl

theorem decode_socketActiveStatus (sl : SLInfo) (args : WaitArgs) {data : Mem}
    (hcode : eventCode data ∉ [hciEvntRecv, hciEvntRecvfrom]) :
    (decode sl args data).1.socketActiveStatus = sl.socketActiveStatus := by
  rw [decode_mask]
  exact hciEventSwitch_socketActiveStatus { sl with usEventOrDataReceived := 1 } args.ret hcode

theorem decode_mem (sl : SLInfo) (args : WaitArgs) (data : Mem) :
    (decode sl args data).2.1.ret.mem = args.ret.mem.store args.ret.ptr (replyBytes data) :=
  (hciEventSwitch_stored { sl with usEventOrDataReceived := 1 } args.ret data).mem

/-- The reply is refused by the handler, and decoded. -/
theorem wait_decode (sl : SLInfo) {code : UInt16} (mem reply : Mem)
    (hfree : code ≠ hciEvntDataUnsolFreeBuff) (hclass : code &&& hciEvntWlanUnsolBase = 0)
    (hsend : sendClass code = false) (hpatch : code ≠ hciEvntPatchesReq) :
    simpleLinkWaitEvent sl code mem [replyEvent code reply] =
      decode { sl with usRxEventOpcode := code } ⟨⟨0, mem, []⟩, none⟩ (replyEvent code reply) := by
  have hreply := eventCode_replyEvent code reply
  have hhandled := hciUnsolEventHandler_solicited
    { sl with usRxEventOpcode := code, usEventOrDataReceived := 1 } (by rwa [hreply])
    (by rwa [hreply]) (by rwa [hreply]) (by rwa [hreply])
  rw [hreply] at hhandled
  rw [decide_eq_false (not_not_intro rfl)] at hhandled
  rw [simpleLinkWaitEvent, hciEventHandler_single,
    deliver_event _ _ (isEvent_replyEvent code reply), hhandled, if_neg Bool.false_ne_true]

theorem answered_decode {sl sl' : SLInfo} {code : UInt16} {mem mem' reply : Mem}
    (hcode : PlainReply code) (h : answered sl code mem reply = some (sl', mem')) :
    sl' = (decode { sl with usRxEventOpcode := code } ⟨⟨0, mem, []⟩, none⟩
        (replyEvent code reply)).1 ∧
      mem' = (decode { sl with usRxEventOpcode := code } ⟨⟨0, mem, []⟩, none⟩
        (replyEvent code reply)).2.1.ret.mem := by
  obtain ⟨hfree, hclass, hsend, hpatch, -⟩ := hcode
  rw [answered, wait_decode sl mem reply hfree hclass hsend hpatch] at h
  generalize decode { sl with usRxEventOpcode := code } ⟨⟨0, mem, []⟩, none⟩
    (replyEvent code reply) = r at h ⊢
  obtain ⟨sl₁, args, ended⟩ := r
  cases ended with
  | false => cases h
  | true =>
    obtain ⟨rfl, rfl⟩ := Prod.mk.inj (Option.some.inj h)
    exact ⟨rfl, rfl⟩

/-- The mask keeps its value, and the result object receives the fields. -/
theorem answered_spec {sl sl' : SLInfo} {code : UInt16} {mem mem' reply : Mem}
    (hcode : PlainReply code) (h : answered sl code mem reply = some (sl', mem')) :
    sl'.socketActiveStatus = sl.socketActiveStatus ∧
      mem' = mem.store 0 (replyBytes (replyEvent code reply)) := by
  obtain ⟨hsl, hmem⟩ := answered_decode hcode h
  have hnorecv : eventCode (replyEvent code reply) ∉ [hciEvntRecv, hciEvntRecvfrom] := by
    rw [eventCode_replyEvent]
    exact hcode.2.2.2.2
  rw [hsl, hmem, decode_mem]
  exact ⟨decode_socketActiveStatus _ _ hnorecv, rfl⟩

/-! The life of the sockets. -/

/-- The descriptors that `socket` and `accept` have returned since the last
`wlan_start` and that have not been passed to `closesocket` since. -/
def observeSockets (opened : UInt32 → Bool) (_ : SLInfo) (c : SocketCall × UInt32) (_ : SLInfo) :
    UInt32 → Bool :=
  match c with
  | (.socket _, ret) => fun sd => sd = ret || opened sd
  | (.accept _ _, ret) => fun sd => sd = ret || opened sd
  | (.closesocket sd _, _) => fun other => other ≠ sd && opened other
  | (.wlanStart _ _, _) => fun _ => false

/-- `get_socket_active_status` says of every descriptor whether it is open. -/
def StatusMatches (x : SLInfo × (UInt32 → Bool)) : Prop :=
  ∀ sd, sd ≤ 7 → (getSocketActiveStatus x.1 sd = socketStatusActive ↔ x.2 sd = true)

/-- What `accept` returns for the reply. -/
def acceptStatus (reply : Mem) : UInt32 :=
  (acceptRet (streamToUint32 reply (hciEventHeaderSize + 4)).toInt32).toUInt32

/-- The call does not lose the status: an `accept` that fails is not made on an
open socket, and the device is not restarted with a socket open. -/
def KeepsStatus (x : SLInfo × (UInt32 → Bool)) : SocketCall × UInt32 → Prop
  | (.accept sd reply, _) => acceptStatus reply ≤ 7 ∨ ¬ (sd ≤ 7 ∧ x.2 sd = true)
  | (.wlanStart _ _, _) => ∀ sd, sd ≤ 7 → x.2 sd = false
  | _ => True

theorem statusMatches_iff {sl : SLInfo} {opened : UInt32 → Bool} :
    StatusMatches (sl, opened) ↔ ∀ sd, sd ≤ 7 → statusBit sl sd.toNat = !opened sd := by
  apply forall₂_congr
  intro sd hsd
  rw [getSocketActiveStatus_active_iff hsd]
  show (_ ↔ opened sd = true) ↔ _
  cases statusBit sl sd.toNat <;> cases opened sd <;> decide

/-- The mask determines what it matches. -/
theorem statusMatches_congr {sl : SLInfo} {opened opened' : UInt32 → Bool}
    (h : StatusMatches (sl, opened)) :
    StatusMatches (sl, opened') ↔ ∀ sd, sd ≤ 7 → opened sd = opened' sd := by
  rw [statusMatches_iff] at h ⊢
  apply forall₂_congr
  intro sd hsd
  rw [h sd hsd]
  cases opened sd <;> cases opened' sd <;> decide

theorem statusBit_congr {sl sl' : SLInfo} (h : sl'.socketActiveStatus = sl.socketActiveStatus)
    (sd status : UInt32) (i : Nat) :
    statusBit (setSocketActiveStatus sl' sd status) i =
      statusBit (setSocketActiveStatus sl sd status) i := by
  unfold statusBit setSocketActiveStatus
  split
  · rw [h]
  · rw [h]

/-- A status that is set changes one descriptor on both sides, or none. -/
theorem statusMatches_set {sl sl' : SLInfo} {opened : UInt32 → Bool}
    (h : StatusMatches (sl, opened)) (hmask : sl'.socketActiveStatus = sl.socketActiveStatus)
    (sd : UInt32) {status : UInt32}
    (hstatus : status = socketStatusActive ∨ status = socketStatusInactive) :
    StatusMatches (setSocketActiveStatus sl' sd status,
      fun other => if other = sd then decide (status = socketStatusActive) else opened other) := by
  rw [statusMatches_iff] at h ⊢
  intro other hother
  rw [statusBit_congr hmask]
  by_cases hsd : sd ≤ 7
  · rw [statusBit_set sl hsd hstatus, h other hother]
    by_cases heq : other = sd
    · rw [if_pos (congrArg _ heq), if_pos heq]
      rcases hstatus with rfl | rfl <;> rfl
    · have hne : other.toNat ≠ sd.toNat := fun hn => heq (UInt32.toNat_inj.mp hn)
      rw [if_neg hne, if_neg heq]
  · -- an invalid descriptor is not in the range
    have heq : other ≠ sd := fun heq => hsd (heq ▸ hother)
    rw [setSocketActiveStatus, if_neg (fun hand => hsd hand.1), h other hother, if_neg heq]

theorem opened_eq (opened : UInt32 → Bool) (ret : UInt32) :
    (fun sd => decide (sd = ret) || opened sd) =
      fun sd => if sd = ret then decide (socketStatusActive = socketStatusActive) else opened sd := by
  funext sd
  by_cases heq : sd = ret <;> simp [heq]

theorem closed_eq (opened : UInt32 → Bool) (closed : UInt32) :
    (fun sd => decide (sd ≠ closed) && opened sd) =
      fun sd => if sd = closed then decide (socketStatusInactive = socketStatusActive)
        else opened sd := by
  have hne : ¬ socketStatusInactive = socketStatusActive := by decide
  funext sd
  by_cases heq : sd = closed <;> simp [heq, hne]

/-! What the calls leave in the mask. -/

theorem socket_spec {sl sl' : SLInfo} {reply : Mem} {ret : UInt32}
    (h : (SocketCall.socket reply).run sl = some (sl', ret)) :
    ∃ sl₁, sl₁.socketActiveStatus = sl.socketActiveStatus ∧
      sl' = setSocketActiveStatus sl₁ ret socketStatusActive := by
  rw [SocketCall.run] at h
  obtain ⟨⟨sl₁, mem⟩, ha, h⟩ := Option.bind_eq_some_iff.mp h
  obtain ⟨rfl, rfl⟩ := Prod.mk.inj (Option.some.inj h)
  exact ⟨sl₁, (answered_spec (by decide) ha).1, rfl⟩

theorem closesocket_spec {sl sl' : SLInfo} {sd : UInt32} {reply : Mem} {ret : UInt32}
    (h : (SocketCall.closesocket sd reply).run sl = some (sl', ret)) :
    ∃ sl₁, sl₁.socketActiveStatus = sl.socketActiveStatus ∧
      sl' = setSocketActiveStatus sl₁ sd socketStatusInactive := by
  rw [SocketCall.run] at h
  obtain ⟨⟨sl₁, mem⟩, ha, h⟩ := Option.bind_eq_some_iff.mp h
  obtain ⟨rfl, rfl⟩ := Prod.mk.inj (Option.some.inj h)
  exact ⟨sl₁, (answered_spec (by decide) ha).1, rfl⟩

theorem wlanStart_spec {sl sl' : SLInfo} {started bufferSize : Mem} {ret : UInt32}
    (h : (SocketCall.wlanStart started bufferSize).run sl = some (sl', ret)) :
    sl'.socketActiveStatus = sl.socketActiveStatus := by
  rw [SocketCall.run] at h
  obtain ⟨⟨sl₁, mem₁⟩, ha, h⟩ := Option.bind_eq_some_iff.mp h
  obtain ⟨⟨sl₂, mem₂⟩, hb, h⟩ := Option.bind_eq_some_iff.mp h
  obtain ⟨rfl, -⟩ := Prod.mk.inj (Option.some.inj h)
  calc sl₂.socketActiveStatus = sl₁.socketActiveStatus := (answered_spec (by decide) hb).1
    _ = sl.socketActiveStatus := (answered_spec (by decide) ha).1

/-- The fields of a reply lie behind its code. -/
theorem replyEvent_field (code : UInt16) (reply : Mem) (o : Nat) :
    streamToUint32 (replyEvent code reply) (hciEventHeaderSize + o) =
      streamToUint32 reply (hciEventHeaderSize + o) := by
  apply streamToUint32_congr
  intro i _
  apply Mem.store_out
  have hbehind : ¬ hciEventHeaderSize + o + i < 3 := by
    show ¬ 5 + o + i < 3
    omega
  exact fun h => hbehind h.2

/-- A word of a reply whose fields are stored as they come lies at its offset in the
result object. -/
theorem streamToUint32_stored (mem reply : Mem) {code : UInt16} {n o : Nat}
    (hbytes : replyBytes (replyEvent code reply) =
      ((replyEvent code reply).drop hciEventHeaderSize).slice 0 n) (ho : o + 4 ≤ n) :
    streamToUint32 (mem.store 0 (replyBytes (replyEvent code reply))) o =
      streamToUint32 reply (hciEventHeaderSize + o) := by
  rw [← replyEvent_field code]
  apply streamToUint32_congr
  intro i hi
  rw [hbytes, Mem.store_in _ (Nat.zero_le _) (by rw [Mem.slice_length]; omega), Nat.sub_zero,
    Mem.slice_getD _ (by omega), Nat.zero_add, Mem.drop, Nat.add_assoc]

/-- The status word of the reply lands in `iStatus`. -/
theorem accept_iStatus (mem reply : Mem) :
    streamToUint32 (mem.store 0 (replyBytes (replyEvent hciCmndAccept reply))) 4 =
      streamToUint32 reply (hciEventHeaderSize + 4) := by
  refine streamToUint32_stored mem reply (n := 24) ?_ (by decide)
  unfold replyBytes
  rw [eventCode_replyEvent]
  rfl

theorem accept_spec {sl sl' : SLInfo} {sd : UInt32} {reply : Mem} {ret : UInt32}
    (h : (SocketCall.accept sd reply).run sl = some (sl', ret)) :
    ret = acceptStatus reply ∧ ∃ sl₁, sl₁.socketActiveStatus = sl.socketActiveStatus ∧
      sl' = if ret ≤ 7 then setSocketActiveStatus sl₁ ret socketStatusActive
        else setSocketActiveStatus sl₁ sd socketStatusInactive := by
  rw [SocketCall.run] at h
  obtain ⟨⟨sl₁, mem⟩, ha, h⟩ := Option.bind_eq_some_iff.mp h
  obtain ⟨hmask, hmem⟩ := answered_spec (by decide) ha
  have hret : (acceptRet (streamToUint32 mem 4).toInt32).toUInt32 = acceptStatus reply := by
    rw [hmem, accept_iStatus]
    rfl
  change (if (acceptRet (streamToUint32 mem 4).toInt32).toUInt32 ≤ 7 then _ else _) = _ at h
  rw [hret] at h
  split at h
  · next hle =>
    obtain ⟨rfl, rfl⟩ := Prod.mk.inj (Option.some.inj h)
    exact ⟨rfl, sl₁, hmask, (if_pos hle).symm⟩
  · next hle =>
    obtain ⟨rfl, rfl⟩ := Prod.mk.inj (Option.some.inj h)
    exact ⟨rfl, sl₁, hmask, (if_neg hle).symm⟩

/-- Behind an `accept` that returns no descriptor the mask has lost `sd`, and nothing
has been closed. -/
theorem statusMatches_refused {sl sl₁ : SLInfo} {opened : UInt32 → Bool} {sd ret : UInt32}
    (h : StatusMatches (sl, opened)) (hmask : sl₁.socketActiveStatus = sl.socketActiveStatus)
    (hinvalid : ¬ ret ≤ 7) :
    StatusMatches (setSocketActiveStatus sl₁ sd socketStatusInactive,
      fun other => other = ret || opened other) ↔ ¬ (sd ≤ 7 ∧ opened sd = true) := by
  have hret : ∀ other, other ≤ 7 → decide (other = ret) = false := by
    intro other hother
    exact decide_eq_false fun heq => hinvalid (heq ▸ hother)
  rw [statusMatches_congr (statusMatches_set h hmask sd (.inr rfl))]
  constructor
  · intro hall hopen
    have hsd := hall sd hopen.1
    rw [if_pos rfl, hret sd hopen.1, hopen.2] at hsd
    cases hsd
  · intro hkeep other hother
    rw [hret other hother, Bool.false_or]
    split
    · next heq =>
      subst heq
      have hclosed : opened other = false :=
        eq_false_of_ne_true fun hopen => hkeep ⟨hother, hopen⟩
      exact hclosed.symm
    · rfl

/-- A call of `wlan_start` touches no descriptor. -/
theorem statusMatches_started {sl sl' : SLInfo} {opened : UInt32 → Bool}
    (h : StatusMatches (sl, opened)) (hmask : sl'.socketActiveStatus = sl.socketActiveStatus) :
    StatusMatches (sl', opened) := by
  rw [statusMatches_iff] at h ⊢
  intro sd hsd
  rw [statusBit, hmask]
  exact h sd hsd

/-- One call keeps the match exactly if it does not lose the status. -/
theorem statusMatches_step {x y : SLInfo × (UInt32 → Bool)} {c : SocketCall × UInt32}
    (h : StatusMatches x) (hs : watch SocketStep observeSockets x c y) :
    StatusMatches y ↔ KeepsStatus x c := by
  obtain ⟨sl, opened⟩ := x
  obtain ⟨sl', opened'⟩ := y
  obtain ⟨call, ret⟩ := c
  obtain ⟨hrun, hobs⟩ := hs
  dsimp only at hobs
  subst hobs
  change call.run sl = some (sl', ret) at hrun
  cases call with
  | socket reply =>
    obtain ⟨sl₁, hmask, rfl⟩ := socket_spec hrun
    refine ⟨fun _ => trivial, fun _ => ?_⟩
    show StatusMatches (_, fun sd => sd = ret || opened sd)
    rw [opened_eq]
    exact statusMatches_set h hmask ret (.inl rfl)
  | closesocket sd reply =>
    obtain ⟨sl₁, hmask, rfl⟩ := closesocket_spec hrun
    refine ⟨fun _ => trivial, fun _ => ?_⟩
    show StatusMatches (_, fun other => other ≠ sd && opened other)
    rw [closed_eq]
    exact statusMatches_set h hmask sd (.inr rfl)
  | accept sd reply =>
    obtain ⟨hret, sl₁, hmask, rfl⟩ := accept_spec hrun
    show StatusMatches (_, fun other => other = ret || opened other) ↔
      acceptStatus reply ≤ 7 ∨ ¬ (sd ≤ 7 ∧ opened sd = true)
    rw [← hret]
    by_cases hvalid : ret ≤ 7
    · rw [if_pos hvalid, opened_eq]
      exact ⟨fun _ => .inl hvalid, fun _ => statusMatches_set h hmask ret (.inl rfl)⟩
    · rw [if_neg hvalid, statusMatches_refused h hmask hvalid]
      exact ⟨.inr, fun hkeep => hkeep.resolve_left hvalid⟩
  | wlanStart started bufferSize =>
    exact statusMatches_congr (statusMatches_started h (wlanStart_spec hrun))

/-- **Status follows life, but for two losses.** In every run of `socket`, `accept`,
`closesocket` and `wlan_start`, with any replies, the status of every descriptor
says in every state whether it is open exactly if no call loses it. -/
theorem socketStatus_kept_iff {cb : Bool} {cs : List (SocketCall × UInt32)}
    {x : SLInfo × (UInt32 → Bool)} :
    Run (fun a c b => watch SocketStep observeSockets a c b ∧ StatusMatches b)
        (SLInfo.start cb, fun _ => false) cs x ↔
      Run (guarded KeepsStatus (watch SocketStep observeSockets))
        (SLInfo.start cb, fun _ => false) cs x := by
  apply Run.kept_iff (P := StatusMatches)
  · rw [statusMatches_iff]
    intro sd hsd
    have hbits : ∀ i, i < 8 → (0xFFFF : UInt32).toBitVec.getLsbD i = true := by decide
    exact hbits sd.toNat (Nat.lt_succ_of_le (UInt32.le_iff_toNat_le.mp hsd))
  · intro a c b
    exact statusMatches_step

/-- The reply to a command whose 32-bit result is `word`, behind `before` bytes. -/
def wordReply (before : Nat) (word : UInt32) : Mem :=
  Mem.ofList (List.replicate (hciEventHeaderSize + before) 0 ++ uint32Bytes word)

/-- **A pending `accept` loses the listening socket.** Socket 0 listens, `accept`
returns -2, and its status is inactive although nobody has closed it. -/
theorem not_socketStatus :
    ¬ ∀ (cs : List (SocketCall × UInt32)) (x : SLInfo × (UInt32 → Bool)),
      Run (watch SocketStep observeSockets) (SLInfo.start true, fun _ => false) cs x →
      StatusMatches x := by
  intro h
  let pending : SocketCall := .accept 0 (wordReply 4 0xFFFFFFFE)
  have hcalls : ((SocketCall.socket (wordReply 0 0)).run (SLInfo.start true)).bind
      (fun a => (pending.run a.1).map fun b => (a.2, b.2)) = some (0, 0xFFFFFFFE) := by decide
  obtain ⟨⟨sl₁, listening⟩, hopen, hcalls⟩ := Option.bind_eq_some_iff.mp hcalls
  obtain ⟨⟨sl₂, ret⟩, hpending, hret⟩ := Option.map_eq_some_iff.mp hcalls
  obtain ⟨rfl, rfl⟩ := Prod.mk.inj hret
  have hrun : Run (watch SocketStep observeSockets) (SLInfo.start true, fun _ => false)
      [(.socket (wordReply 0 0), 0), (pending, 0xFFFFFFFE)]
      (sl₂, observeSockets (observeSockets (fun _ => false) (SLInfo.start true)
        (.socket (wordReply 0 0), 0) sl₁) sl₁ (pending, 0xFFFFFFFE) sl₂) :=
    .cons (t := (sl₁, _)) ⟨hopen, rfl⟩ (.single ⟨hpending, rfl⟩)
  have hactive := (h _ _ hrun 0 (by decide)).mpr rfl
  obtain ⟨-, sl₃, -, rfl⟩ := accept_spec hpending
  have hinactive : statusBit (setSocketActiveStatus sl₃ 0 socketStatusInactive) 0 = true := by
    rw [statusBit_set sl₃ (by decide) (.inr rfl)]
    rfl
  rw [getSocketActiveStatus_active_iff (by decide)] at hactive
  exact ne_true_of_eq_false hactive hinactive

end SpiderL3S
