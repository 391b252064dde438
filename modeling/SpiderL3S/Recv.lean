import SpiderL3S.Socket

/- Receiving: `simple_link_recv` of `socket.c` and `nvmem_read` of `nvmem.c`. Both
   wait for the reply to their command, and then for one data frame, which the
   wait loop copies to the caller's buffer.

   The reply to a receive says which socket it was for and how many bytes have
   come, or why none has. The test for an inactive socket reads both at a pointer
   that has been moved on: the flags for the descriptor, and what lies behind the
   result object for the count. So it is right, whatever lies there, only where there
   is nothing for it to find (`recvDeactivates_iff`). The copy of a data frame takes
   its length from the frame alone (`dataInside_iff`). -/
namespace SpiderL3S

/-! The calls. -/

/-- `simple_link_recv` behind its command: the globals, the arguments of the wait with
the caller's buffer, and the result. `events` arrive while it waits for the reply,
and `packets` while it waits for the data. `tSocketReadEvent` is not initialised. -/
def simpleLinkRecvWaits (sl : SLInfo) (buf : Mem) (sender : Option FromArgs) (opcode : UInt16)
    (tSocketReadEvent : Mem) (events packets : List Mem) : Option (SLInfo × WaitArgs × Int16) :=
  match simpleLinkWaitEvent sl opcode tSocketReadEvent events with
  | (sl, args, true) =>
    let iNumberOfBytes := (streamToUint32 args.ret.mem 4).toInt32
    if 0 < iNumberOfBytes then
      match simpleLinkWaitData sl buf sender packets with
      | (sl, args, true) => some (sl, args, iNumberOfBytes.toInt16)
      | (_, _, false) => none
    else some (sl, ⟨⟨0, buf, []⟩, sender⟩, iNumberOfBytes.toInt16)
  | (_, _, false) => none

/-- `nvmem_read` behind its command. It reads the data whatever the status says. -/
def nvmemReadWaits (sl : SLInfo) (buff : Mem) (events packets : List Mem) :
    Option (SLInfo × WaitArgs × UInt32) :=
  let ucStatus := Mem.ofList [0xFF]
  match simpleLinkWaitEvent sl hciCmndNvmemRead ucStatus events with
  | (sl, args, true) =>
    let ucStatus := args.ret.mem 0
    match simpleLinkWaitData sl buff none packets with
    | (sl, args, true) => some (sl, args, ucStatus.toUInt32)
    | (_, _, false) => none
  | (_, _, false) => none

/-! The reply. -/

def recvSocketDescriptor (reply : Mem) : UInt32 := streamToUint32 reply (hciEventHeaderSize + 0)
def recvNumberOfBytes (reply : Mem) : UInt32 := streamToUint32 reply (hciEventHeaderSize + 4)
def recvFlags (reply : Mem) : UInt32 := streamToUint32 reply (hciEventHeaderSize + 8)

/-- From `sl` to `sl'` the status has changed as a receive on `sd` asks for that
ends with `n`. -/
def Deactivated (sl sl' : SLInfo) (n sd : UInt32) : Prop :=
  ∀ i, statusBit sl' i = true ↔
    statusBit sl i = true ∨ (n = errorSocketInactive ∧ sd ≤ 7 ∧ i = sd.toNat)

/-- The wait for the reply to a receive does to the status what the reply asks for, and
does the same whatever the result object, and the memory behind it, held before: the
decoder stores the three fields there, and nothing else is to count. -/
def RecvDeactivates (sl : SLInfo) (op : UInt16) (tSocketReadEvent reply : Mem) : Prop :=
  Deactivated sl (simpleLinkWaitEvent sl op tSocketReadEvent [replyEvent op reply]).1
      (recvNumberOfBytes reply) (recvSocketDescriptor reply) ∧
    ∀ other : Mem,
      (simpleLinkWaitEvent sl op other [replyEvent op reply]).1.socketActiveStatus =
        (simpleLinkWaitEvent sl op tSocketReadEvent [replyEvent op reply]).1.socketActiveStatus

/-- A receive on `sd` that ends with `n` asks for no change: it has not found its socket
inactive, or the socket is none that is still active. -/
def LosesNone (sl : SLInfo) (n sd : UInt32) : Prop :=
  n = errorSocketInactive → getSocketActiveStatus sl sd ≠ socketStatusActive

theorem losesNone_iff {sl : SLInfo} {n sd : UInt32} :
    LosesNone sl n sd ↔
      ∀ i, n = errorSocketInactive ∧ sd ≤ 7 ∧ i = sd.toNat → statusBit sl i = true := by
  constructor
  · rintro h i ⟨hn, hsd, rfl⟩
    by_contra hbit
    exact h hn ((getSocketActiveStatus_active_iff hsd).mpr (Bool.eq_false_iff.mpr hbit))
  · intro h hn hactive
    by_cases hsd : sd ≤ 7
    · have hclear := (getSocketActiveStatus_active_iff hsd).mp hactive
      exact absurd (h _ ⟨hn, hsd, rfl⟩) (ne_true_of_eq_false hclear)
    · rw [getSocketActiveStatus, if_neg hsd] at hactive
      exact absurd hactive (by decide)

/-- Such a receive leaves the status alone. -/
theorem LosesNone.deactivated_iff {sl sl' : SLInfo} {n sd : UInt32} (h : LosesNone sl n sd) :
    Deactivated sl sl' n sd ↔ ∀ i, statusBit sl' i = statusBit sl i := by
  have hbits : ∀ i, (statusBit sl i = true ∨ (n = errorSocketInactive ∧ sd ≤ 7 ∧ i = sd.toNat)) ↔
      statusBit sl i = true :=
    fun i => or_iff_left_of_imp (losesNone_iff.mp h i)
  constructor
  · intro hsame i
    exact Bool.eq_iff_iff.mpr ((hsame i).trans (hbits i))
  · intro hsame i
    rw [hsame i]
    exact (hbits i).symm

/-- One that leaves it alone asks for no change. -/
theorem losesNone_of_unchanged {sl sl' : SLInfo} {n sd : UInt32} (h : Deactivated sl sl' n sd)
    (hsame : ∀ i, statusBit sl' i = statusBit sl i) : LosesNone sl n sd := by
  rw [losesNone_iff]
  intro i hi
  rw [← hsame i]
  exact (h i).mpr (.inr hi)

theorem socketActiveStatus_ext {sl sl' : SLInfo} (h : ∀ i, statusBit sl' i = statusBit sl i) :
    sl'.socketActiveStatus = sl.socketActiveStatus :=
  UInt32.toBitVec_inj.mp (BitVec.eq_of_getLsbD_eq fun i _ => h i)

/-! The decoder. -/

theorem deactivated_set (sl : SLInfo) {sl' : SLInfo} {n sd : UInt32}
    (h : sl'.socketActiveStatus = (if n = errorSocketInactive then
      setSocketActiveStatus sl sd socketStatusInactive else sl).socketActiveStatus) :
    Deactivated sl sl' n sd := by
  intro i
  have hbit : statusBit sl' i = statusBit (if n = errorSocketInactive then
      setSocketActiveStatus sl sd socketStatusInactive else sl) i := by
    rw [statusBit, h, statusBit]
  rw [hbit]
  by_cases hn : n = errorSocketInactive
  · rw [if_pos hn]
    by_cases hsd : sd ≤ 7
    · rw [statusBit_set sl hsd (.inr rfl)]
      by_cases hi : i = sd.toNat <;> simp [hn, hsd, hi]
    · rw [setSocketActiveStatus, if_neg (fun hand => hsd hand.1)]
      simp [hsd]
  · rw [if_neg hn]
    simp [hn]

/-- The receive branch of the switch tests the descriptor and the count that it finds
eight bytes further. -/
theorem hciEventSwitch_recv (sl : SLInfo) (ret : Stream) {data : Mem}
    (hcode : eventCode data ∈ [hciEvntRecv, hciEvntRecvfrom]) :
    (hciEventSwitch sl ret data).1 =
      if streamToUint32 ret.mem (ret.ptr + 12) = errorSocketInactive then
        setSocketActiveStatus sl (streamToUint32 data (hciEventHeaderSize + 8))
          socketStatusInactive
      else sl := by
  have hstored := (stored_words₃ ret (data.drop hciEventHeaderSize))
  generalize hr : retUint32 ((retUint32 ((retUint32 ret (data.drop hciEventHeaderSize) 0).skip 4)
    (data.drop hciEventHeaderSize) 4).skip 4) (data.drop hciEventHeaderSize) 8 = r at hstored
  have hptr : r.ptr = ret.ptr + 8 := hstored.ptr
  have hflags : streamToUint32 r.mem r.ptr = streamToUint32 data (hciEventHeaderSize + 8) := by
    rw [hstored.mem, hptr]
    apply streamToUint32_congr
    intro i hi
    rw [Mem.store_in _ (by omega) (by rw [Mem.slice_length]; omega), Mem.slice_getD _ (by omega),
      Mem.drop]
    congr 1
    omega
  have hbehind : streamToUint32 r.mem (r.ptr + 4) = streamToUint32 ret.mem (ret.ptr + 12) := by
    rw [hstored.mem, hptr]
    apply streamToUint32_congr
    intro i hi
    apply Mem.store_out
    rw [Mem.slice_length]
    omega
  rw [← hflags, ← hbehind, ← hr]
  have hcodes : ∀ c ∈ [hciEvntRecv, hciEvntRecvfrom], c ≠ hciCmndReadBufferSize ∧
      c ∉ statusReplies ∧ c ∉ wordReplies ∧ c ≠ hciEvntReadSpVersion ∧
      c ≠ hciEvntBsdGethostbyname ∧ c ≠ hciEvntGetmssvalue ∧ c ≠ hciEvntAccept :=
    List.all_iff_forall_prop.mp (by decide)
  obtain ⟨h₁, h₂, h₃, h₄, h₅, h₆, h₇⟩ := hcodes _ hcode
  unfold hciEventSwitch
  dsimp only
  rw [if_neg h₁, if_neg h₂, if_neg h₃, if_neg h₄, if_neg h₅, if_neg h₆, if_neg h₇, if_pos hcode]
  split <;> rfl

/-- A receive's event is one that the wait for it decodes. -/
theorem wait_recv_decode (sl : SLInfo) {op : UInt16} (hop : op ∈ [hciEvntRecv, hciEvntRecvfrom])
    (tSocketReadEvent reply : Mem) :
    simpleLinkWaitEvent sl op tSocketReadEvent [replyEvent op reply] =
      decode { sl with usRxEventOpcode := op } ⟨⟨0, tSocketReadEvent, []⟩, none⟩
        (replyEvent op reply) := by
  have hplain : ∀ c ∈ [hciEvntRecv, hciEvntRecvfrom], c ≠ hciEvntDataUnsolFreeBuff ∧
      c &&& hciEvntWlanUnsolBase = 0 ∧ sendClass c = false ∧ c ≠ hciEvntPatchesReq :=
    List.all_iff_forall_prop.mp (by decide)
  obtain ⟨hfree, hclass, hsend, hpatch⟩ := hplain op hop
  exact wait_decode sl tSocketReadEvent reply hfree hclass hsend hpatch

/-- What the reply does to the status. -/
theorem wait_recv_status (sl : SLInfo) {op : UInt16} (hop : op ∈ [hciEvntRecv, hciEvntRecvfrom])
    (tSocketReadEvent reply : Mem) :
    Deactivated sl (simpleLinkWaitEvent sl op tSocketReadEvent [replyEvent op reply]).1
      (streamToUint32 tSocketReadEvent 12) (recvFlags reply) := by
  have hcode : eventCode (replyEvent op reply) ∈ [hciEvntRecv, hciEvntRecvfrom] := by
    rwa [eventCode_replyEvent]
  apply deactivated_set { sl with usRxEventOpcode := op, usEventOrDataReceived := 1 }
  rw [wait_recv_decode sl hop, decode_mask, hciEventSwitch_recv _ _ hcode, replyEvent_field]
  rfl

/-- A word behind the result object. -/
def wordBehind (word : UInt32) : Mem := (Mem.ofList []).store 12 (uint32Bytes word)

theorem wait_recv_behind (sl : SLInfo) {op : UInt16} (hop : op ∈ [hciEvntRecv, hciEvntRecvfrom])
    (word : UInt32) (reply : Mem) :
    Deactivated sl (simpleLinkWaitEvent sl op (wordBehind word) [replyEvent op reply]).1 word
      (recvFlags reply) := by
  have hword : streamToUint32 (wordBehind word) 12 = word := streamToUint32_of_slice rfl
  have hstatus := wait_recv_status sl hop (wordBehind word) reply
  rwa [hword] at hstatus

/-- **The inactive test sees the flags and what lies behind.** For every reply to a
receive, and any memory in and behind the result object, the wait deactivates the
socket that the reply reports lost and no other, and decides so by the reply alone,
exactly if the reply reports no socket lost that is still active and its flags are
not the number of one that is. -/
theorem recvDeactivates_iff (sl : SLInfo) {op : UInt16}
    (hop : op ∈ [hciEvntRecv, hciEvntRecvfrom]) (tSocketReadEvent reply : Mem) :
    RecvDeactivates sl op tSocketReadEvent reply ↔
      LosesNone sl (recvNumberOfBytes reply) (recvSocketDescriptor reply) ∧
        getSocketActiveStatus sl (recvFlags reply) ≠ socketStatusActive := by
  have hzero : LosesNone sl 0 (recvFlags reply) := fun h => absurd h (by decide)
  have hunchanged : ∀ i,
      statusBit (simpleLinkWaitEvent sl op (wordBehind 0) [replyEvent op reply]).1 i =
        statusBit sl i := hzero.deactivated_iff.mp (wait_recv_behind sl hop 0 reply)
  constructor
  · rintro ⟨hasked, hsame⟩
    have hall : ∀ (other : Mem) (i : Nat),
        statusBit (simpleLinkWaitEvent sl op other [replyEvent op reply]).1 i =
          statusBit sl i := by
      intro other i
      rw [← hunchanged i, statusBit, statusBit, hsame other, hsame (wordBehind 0)]
    -- the error code behind the object makes the flags count
    have hflags := losesNone_of_unchanged (wait_recv_behind sl hop errorSocketInactive reply)
      (hall _)
    exact ⟨losesNone_of_unchanged hasked (hall _), hflags rfl⟩
  · rintro ⟨hlost, hflags⟩
    have hall : ∀ (other : Mem) (i : Nat),
        statusBit (simpleLinkWaitEvent sl op other [replyEvent op reply]).1 i =
          statusBit sl i := by
      intro other
      have hnone : LosesNone sl (streamToUint32 other 12) (recvFlags reply) := fun _ => hflags
      exact hnone.deactivated_iff.mp (wait_recv_status sl hop other reply)
    refine ⟨hlost.deactivated_iff.mpr (hall tSocketReadEvent), ?_⟩
    intro other
    rw [socketActiveStatus_ext (hall other), socketActiveStatus_ext (hall tSocketReadEvent)]

/-- The reply to a receive. -/
def recvReply (sd n flags : UInt32) : Mem :=
  Mem.ofList (List.replicate hciEventHeaderSize 0 ++ uint32Bytes sd ++ uint32Bytes n ++
    uint32Bytes flags)

/-- Socket 3 is active, twelve bytes have come for it, and its flags are zero. -/
theorem recvDeactivates_received :
    RecvDeactivates (setSocketActiveStatus (SLInfo.start true) 3 socketStatusActive) hciEvntRecv
        (Mem.ofList []) (recvReply 3 12 0) ↔
      LosesNone (setSocketActiveStatus (SLInfo.start true) 3 socketStatusActive)
          (recvNumberOfBytes (recvReply 3 12 0)) (recvSocketDescriptor (recvReply 3 12 0)) ∧
        getSocketActiveStatus (setSocketActiveStatus (SLInfo.start true) 3 socketStatusActive)
          (recvFlags (recvReply 3 12 0)) ≠ socketStatusActive :=
  recvDeactivates_iff _ (by decide) (Mem.ofList []) (recvReply 3 12 0)

/-- **A lost socket stays active.** The receive on socket 0 ends with
`ERROR_SOCKET_INACTIVE`, and zeros lie behind the object. -/
theorem not_recvDeactivates :
    ¬ ∀ (sl : SLInfo) (op : UInt16), op ∈ [hciEvntRecv, hciEvntRecvfrom] →
      ∀ tSocketReadEvent reply : Mem, RecvDeactivates sl op tSocketReadEvent reply := by
  intro h
  let sl := setSocketActiveStatus (SLInfo.start true) 0 socketStatusActive
  have hlost :=
    (h sl hciEvntRecv (by decide) (Mem.ofList []) (recvReply 0 errorSocketInactive 0)).1 0
  have hset := hlost.mpr (.inr (by decide))
  have hclear : statusBit (simpleLinkWaitEvent sl hciEvntRecv (Mem.ofList [])
      [replyEvent hciEvntRecv (recvReply 0 errorSocketInactive 0)]).1 0 = false := by decide
  cases hset.symm.trans hclear

/-! The data. -/

/-- The bytes a data frame carries behind its arguments. The length is computed in
16 bits. -/
def dataBytes (data : Mem) : List UInt8 :=
  data.slice (hciDataHeaderSize + (streamToUint8 data hciPacketArgsizeOffset).toNat)
    (streamToUint16 data hciPacketLengthOffset -
      (streamToUint8 data hciPacketArgsizeOffset).toUInt16).toNat

/-- A packet that is not an event goes to the caller's buffer, whatever is waited
for. -/
theorem deliver_data (sl : SLInfo) (args : WaitArgs) {data : Mem} (h : ¬ IsEvent data) :
    (deliver sl args data).2.1.ret = args.ret.poke (dataBytes data) ∧
      (deliver sl args data).2.2 = decide (sl.usRxEventOpcode = 0) := by
  have hother : ¬ data hciPacketTypeOffset = hciTypeEvnt := h
  rw [deliver, spiReceiveHandler_other sl h]
  dsimp only
  rw [hciPacketReceived, if_neg hother]
  exact ⟨rfl, Bool.and_true _⟩

/-- How many bytes the frame says it carries. -/
def copyLength (data : Mem) : Int :=
  (streamToUint16 data hciPacketLengthOffset).toNat -
    (streamToUint8 data hciPacketArgsizeOffset).toNat

/-- How many bytes the wait has room for: those of the caller's buffer while it waits
for data, and none while it waits for an event. -/
def waitRoom (sl : SLInfo) (len : Int) : Int := if sl.usRxDataPending ≠ 0 then len else 0

/-- The frame is copied with a length that is not negative, and inside the room. -/
def DataInside (sl : SLInfo) (len : Int) (ptr : Nat) (mem : Mem) (sender : Option FromArgs)
    (data : Mem) : Prop :=
  0 ≤ copyLength data ∧ ∀ i ∈ (deliver sl ⟨⟨ptr, mem, []⟩, sender⟩ data).2.1.ret.written,
    (i : Int) < waitRoom sl len

/-- A length that is not negative is the number of bytes copied. -/
theorem dataBytes_length {data : Mem} (h : 0 ≤ copyLength data) :
    ((dataBytes data).length : Int) = copyLength data := by
  unfold dataBytes copyLength at *
  rw [Mem.slice_length]
  have hsize := (streamToUint8 data hciPacketArgsizeOffset).toNat_lt
  have hlength := (streamToUint16 data hciPacketLengthOffset).toNat_lt
  rw [UInt16.toNat_sub, UInt8.toNat_toUInt16]
  omega

/-- **The data path stays inside exactly as far as the frame fits.** For every packet
that is not an event, in every state of a wait, the copy stays inside the room of
the wait exactly if the frame is not shorter than its arguments, and what it
carries behind them is nothing or fits behind the pointer. -/
theorem dataInside_iff (sl : SLInfo) (len : Int) (ptr : Nat) (mem : Mem)
    (sender : Option FromArgs) {data : Mem} (h : ¬ IsEvent data) :
    DataInside sl len ptr mem sender data ↔
      0 ≤ copyLength data ∧
        (copyLength data = 0 ∨ ptr + copyLength data ≤ waitRoom sl len) := by
  apply and_congr_right
  intro hlength
  have hbytes := dataBytes_length hlength
  rw [(deliver_data sl _ h).1, Stream.poke_written]
  simp only [List.nil_append, List.mem_range'_1]
  constructor
  · intro hinside
    by_cases hnone : copyLength data = 0
    · exact .inl hnone
    · have hlast := hinside (ptr + (dataBytes data).length - 1) (by omega)
      omega
  · intro hfits i hi
    omega

/-- A data frame with `n` bytes of data behind `argsize` bytes of arguments. -/
def hciDataFrame (argsize : UInt8) (n : UInt16) : Mem :=
  Mem.ofList ([hciTypeData, 0, argsize] ++ uint16Bytes (argsize.toUInt16 + n))

/-- 48 bytes behind 24 bytes of arguments, while `recvfrom` waits with a buffer of 48. -/
theorem dataInside_fits :
    DataInside { SLInfo.start true with usRxDataPending := 1 } 48 0 (Mem.ofList []) none
        (hciDataFrame 24 48) ↔
      0 ≤ copyLength (hciDataFrame 24 48) ∧ (copyLength (hciDataFrame 24 48) = 0 ∨
        ((0 : Nat) : Int) + copyLength (hciDataFrame 24 48) ≤
          waitRoom { SLInfo.start true with usRxDataPending := 1 } 48) :=
  dataInside_iff { SLInfo.start true with usRxDataPending := 1 } 48 0 (Mem.ofList []) none
    (by decide)

/-- **A stray data frame lands in a result object.** One byte of data comes while a
command waits for its event. -/
theorem not_dataInside :
    ¬ ∀ (sl : SLInfo) (len : Int) (ptr : Nat) (mem : Mem) (sender : Option FromArgs) (data : Mem),
      ¬ IsEvent data → DataInside sl len ptr mem sender data := by
  intro h
  have hinside := h { SLInfo.start true with usRxEventOpcode := hciCmndSocket } 0 0 efail none
    (hciDataFrame 0 1) (by decide)
  exact absurd (hinside.2 0 (by decide)) (by decide)

/-! The data behind a reply. -/

/-- The data wait stores what the data frame carries. -/
theorem simpleLinkWaitData_ret (sl : SLInfo) (buf : Mem) (sender : Option FromArgs) {packet : Mem}
    (hdata : ¬ IsEvent packet) :
    (simpleLinkWaitData sl buf sender [packet]).2.1.ret =
      Stream.poke ⟨0, buf, []⟩ (dataBytes packet) := by
  rw [simpleLinkWaitData, hciEventHandler_single]
  exact (deliver_data _ _ hdata).1

/-- What `simple_link_recv` returns is the low half of the count, and what it leaves in
the buffer is what the data frame carries, if the count is positive. -/
theorem simpleLinkRecvWaits_spec {sl sl' : SLInfo} {buf : Mem} {sender : Option FromArgs}
    {op : UInt16} (hop : op ∈ [hciEvntRecv, hciEvntRecvfrom]) {tSocketReadEvent reply packet : Mem}
    (hdata : ¬ IsEvent packet) {args : WaitArgs} {r : Int16}
    (h : simpleLinkRecvWaits sl buf sender op tSocketReadEvent [replyEvent op reply] [packet] =
      some (sl', args, r)) :
    r = (recvNumberOfBytes reply).toInt32.toInt16 ∧
      args.ret = if 0 < (recvNumberOfBytes reply).toInt32 then
        Stream.poke ⟨0, buf, []⟩ (dataBytes packet) else ⟨0, buf, []⟩ := by
  have hfields : replyBytes (replyEvent op reply) =
      ((replyEvent op reply).drop hciEventHeaderSize).slice 0 12 := by
    unfold replyBytes
    rw [eventCode_replyEvent]
    rcases List.mem_pair.mp hop with rfl | rfl <;> rfl
  have hmem := decode_mem { sl with usRxEventOpcode := op } ⟨⟨0, tSocketReadEvent, []⟩, none⟩
    (replyEvent op reply)
  have hcount := streamToUint32_stored tSocketReadEvent reply (o := 4) hfields (by decide)
  have hret := fun sl => simpleLinkWaitData_ret sl buf sender hdata
  rw [simpleLinkRecvWaits, wait_recv_decode sl hop] at h
  generalize decode { sl with usRxEventOpcode := op } ⟨⟨0, tSocketReadEvent, []⟩, none⟩
    (replyEvent op reply) = d at h hmem
  obtain ⟨sl₁, args₁, ended⟩ := d
  change args₁.ret.mem = tSocketReadEvent.store 0 (replyBytes (replyEvent op reply)) at hmem
  cases ended with
  | false => cases h
  | true =>
    dsimp only at h
    rw [hmem, hcount] at h
    split at h
    · next hpos =>
      have hbuffer := hret sl₁
      generalize simpleLinkWaitData sl₁ buf sender [packet] = w at h hbuffer
      obtain ⟨sl₂, args₂, done⟩ := w
      cases done with
      | false => cases h
      | true =>
        obtain ⟨-, rfl, rfl⟩ := h
        exact ⟨rfl, hbuffer.trans (if_pos hpos).symm⟩
    · next hpos =>
      obtain ⟨-, rfl, rfl⟩ := h
      exact ⟨rfl, (if_neg hpos).symm⟩

/-- `nvmem_read` leaves in its buffer what the data frame carries, whatever it has asked
for. -/
theorem nvmemReadWaits_ret {sl sl' : SLInfo} {buff : Mem} {events : List Mem} {packet : Mem}
    (hdata : ¬ IsEvent packet) {args : WaitArgs} {ucStatus : UInt32}
    (h : nvmemReadWaits sl buff events [packet] = some (sl', args, ucStatus)) :
    args.ret = Stream.poke ⟨0, buff, []⟩ (dataBytes packet) := by
  rw [nvmemReadWaits] at h
  generalize simpleLinkWaitEvent sl hciCmndNvmemRead (Mem.ofList [0xFF]) events = e at h
  obtain ⟨sl₁, args₁, ended⟩ := e
  cases ended with
  | false => cases h
  | true =>
    have hbuffer := simpleLinkWaitData_ret sl₁ buff none hdata
    dsimp only at h
    generalize simpleLinkWaitData sl₁ buff none [packet] = w at h hbuffer
    obtain ⟨sl₂, args₂, done⟩ := w
    cases done with
    | false => cases h
    | true =>
      obtain ⟨-, rfl, -⟩ := h
      exact hbuffer

end SpiderL3S
