import SpiderL3S.App.Ntp
import SpiderL3S.Recv

/- The reply to `NTP_get_time`. The function receives into the buffer that has held
   its request, and `simple_link_recv` stores nothing there unless the count is
   positive, and then what the data frame carries. `NTP_get_time` only looks at
   the sign of the result, so the time it reports is one of the reply exactly if
   no result that is not negative comes with fewer than 44 bytes
   (`timeFromReply_iff`). -/
namespace SpiderL3S

/-- The message as it is sent: version and mode, and zeros. -/
def ntpRequest : Mem := Mem.ofList (0x23 :: List.replicate 47 0)

/-- `NTP_get_time` behind its wait for ARP, with its receive: `events` and `packets`
are what arrives in the two waits of `recvfrom`. -/
def ntpGetTimeCall (ntp : Ntp) (sendto : Int16) (sl : SLInfo) (tSocketReadEvent : Mem)
    (events packets : List Mem) (t : NtpTime) : Option (Int16 × NtpTime) :=
  if sendto < 0 then some (ntpGetTime ntp sendto 0 ntpRequest t)
  else
    let recv_addr : FromArgs := ⟨fun _ => 0, 0⟩
    match simpleLinkRecvWaits sl ntpRequest (some recv_addr) hciCmndRecvfrom tSocketReadEvent events
        packets with
    | some (_, args, ret) => some (ntpGetTime ntp sendto ret args.ret.mem t)
    | none => none

/-- How many bytes the reply delivers: those the data frame carries behind its arguments,
if the count makes the call wait for one. A frame shorter than its arguments carries none,
whatever the copy takes from the buffer for it. -/
def delivered (reply packet : Mem) : Nat :=
  if 0 < (recvNumberOfBytes reply).toInt32 then
    (streamToUint16 packet hciPacketLengthOffset).toNat -
      (streamToUint8 packet hciPacketArgsizeOffset).toNat
  else 0

/-- The copy of a frame that is longer than its arguments takes what it carries. -/
theorem dataBytes_length_of_delivered {reply packet : Mem} (h : 0 < delivered reply packet) :
    (dataBytes packet).length = delivered reply packet := by
  unfold delivered at h ⊢
  split at h
  · next hpos =>
    rw [if_pos hpos, dataBytes, Mem.slice_length]
    generalize streamToUint16 packet hciPacketLengthOffset = length at h ⊢
    generalize streamToUint8 packet hciPacketArgsizeOffset = argsize at h ⊢
    have hle : argsize.toUInt16 ≤ length := by
      rw [UInt16.le_iff_toNat_le, UInt8.toNat_toUInt16]
      omega
    rw [UInt16.toNat_sub_of_le _ _ hle, UInt8.toNat_toUInt16]
  · omega

/-- The time reported is that of the 44 bytes and more that the reply has delivered, and
without such a time nothing is reported. -/
def TimeFromReply (ntp : Ntp) (t : NtpTime) (reply packet : Mem)
    (outcome : Int16 × NtpTime) : Prop :=
  (outcome.1 = 1 → 44 ≤ delivered reply packet ∧
    outcome.2 = breakDown (timestampNow ntp.GMT (Mem.ofList (dataBytes packet))) t) ∧
  (outcome.1 ≠ 1 → outcome.2 = t)

/-- A negative result is passed on, and nothing is stored. -/
theorem ntpGetTime_failed (ntp : Ntp) {sendto recvfrom : Int16} (msg : Mem) (t : NtpTime)
    (h : sendto < 0 ∨ recvfrom < 0) :
    (ntpGetTime ntp sendto recvfrom msg t).1 < 0 ∧ (ntpGetTime ntp sendto recvfrom msg t).2 = t := by
  unfold ntpGetTime
  split
  · next hs => exact ⟨hs, rfl⟩
  · next hs =>
    have hr := h.resolve_left hs
    rw [if_pos hr]
    exact ⟨hr, rfl⟩

theorem ntpGetTime_reported (ntp : Ntp) {sendto recvfrom : Int16} (msg : Mem) (t : NtpTime)
    (hs : ¬ sendto < 0) (hr : ¬ recvfrom < 0) :
    ntpGetTime ntp sendto recvfrom msg t = (1, breakDown (timestampNow ntp.GMT msg) t) := by
  rw [ntpGetTime, if_neg hs, if_neg hr]

/-- The timestamp is read from four bytes. -/
theorem timestampNow_congr (GMT : Int16) {msg msg' : Mem}
    (h : ∀ i, 40 ≤ i → i < 44 → msg i = msg' i) : timestampNow GMT msg = timestampNow GMT msg' := by
  unfold timestampNow
  rw [h 40 (by decide) (by decide), h 41 (by decide) (by decide), h 42 (by decide) (by decide),
    h 43 (by decide) (by decide)]

/-- An outcome that passes on an error is a time from nowhere, and says so. -/
theorem timeFromReply_failed {ntp : Ntp} {t : NtpTime} (reply packet : Mem)
    {outcome : Int16 × NtpTime} (h : outcome.1 < 0 ∧ outcome.2 = t) :
    TimeFromReply ntp t reply packet outcome := by
  refine ⟨?_, fun _ => h.2⟩
  intro hone
  rw [hone] at h
  exact absurd h.1 (by decide)

/-- Behind a reply of 44 bytes, the timestamp is the one of the reply. -/
theorem timestampNow_delivered (GMT : Int16) {reply packet : Mem}
    (hlong : 44 ≤ delivered reply packet) {ret : Stream}
    (hret : ret = if 0 < (recvNumberOfBytes reply).toInt32 then
      Stream.poke ⟨0, ntpRequest, []⟩ (dataBytes packet) else ⟨0, ntpRequest, []⟩) :
    timestampNow GMT ret.mem = timestampNow GMT (Mem.ofList (dataBytes packet)) := by
  have hlength := dataBytes_length_of_delivered (Nat.lt_of_lt_of_le (by decide) hlong)
  have hpos : 0 < (recvNumberOfBytes reply).toInt32 := by
    by_contra hnot
    rw [delivered, if_neg hnot] at hlong
    omega
  rw [hret, if_pos hpos]
  apply timestampNow_congr
  intro i _ hi
  rw [Stream.poke_mem, Mem.store_in _ (Nat.zero_le i) (by rw [Nat.zero_add]; omega), Nat.sub_zero]
  rfl

/-- **Time comes from a reply if the reply is long enough.** For every result of
`sendto`, every reply to `recvfrom` and every data frame, the time `NTP_get_time`
reports is one of the reply exactly if one of the two results is negative or the
reply has delivered 44 bytes. -/
theorem timeFromReply_iff (ntp : Ntp) {sendto : Int16} {sl : SLInfo}
    {tSocketReadEvent reply packet : Mem} (hdata : ¬ IsEvent packet) {t : NtpTime}
    {outcome : Int16 × NtpTime}
    (h : ntpGetTimeCall ntp sendto sl tSocketReadEvent [replyEvent hciCmndRecvfrom reply] [packet] t
      = some outcome) :
    TimeFromReply ntp t reply packet outcome ↔
      sendto < 0 ∨ (recvNumberOfBytes reply).toInt32.toInt16 < 0 ∨
        44 ≤ delivered reply packet := by
  unfold ntpGetTimeCall at h
  by_cases hs : sendto < 0
  · rw [if_pos hs] at h
    obtain rfl := Option.some.inj h
    have hfailed := @ntpGetTime_failed ntp sendto 0 ntpRequest t (.inl hs)
    exact ⟨fun _ => .inl hs, fun _ => timeFromReply_failed reply packet hfailed⟩
  rw [if_neg hs] at h
  dsimp only at h
  split at h
  · next sl' args ret hrecv =>
    obtain rfl := Option.some.inj h
    obtain ⟨hret, hmsg⟩ := simpleLinkRecvWaits_spec (by decide) hdata hrecv
    rw [← hret]
    by_cases hr : ret < 0
    · have hfailed := @ntpGetTime_failed ntp sendto ret args.ret.mem t (.inr hr)
      exact ⟨fun _ => .inr (.inl hr), fun _ => timeFromReply_failed reply packet hfailed⟩
    rw [ntpGetTime_reported ntp _ t hs hr]
    constructor
    · intro htime
      exact .inr (.inr (htime.1 rfl).1)
    · intro hlong
      have hlong := (hlong.resolve_left hs).resolve_left hr
      refine ⟨fun _ => ⟨hlong, ?_⟩, fun hone => absurd rfl hone⟩
      show breakDown (timestampNow ntp.GMT args.ret.mem) t = _
      rw [timestampNow_delivered ntp.GMT hlong hmsg]
  · cases h

/-- 48 bytes whose seconds field is that of 1 January 1970. -/
def ntpDatagram : Mem :=
  Mem.ofList ([hciTypeData, 0, 24, 72, 0] ++ List.replicate (24 + 40) 0 ++
    (uint32Bytes 2208988800).reverse ++ List.replicate 4 0)

theorem timeFromReply_epoch :
    ∃ outcome, ntpGetTimeCall Ntp.start 48 (SLInfo.start true) (Mem.ofList [])
        [replyEvent hciCmndRecvfrom (recvReply 0 48 0)] [ntpDatagram] ⟨0, 0, 0, 0, 0, 0⟩ =
          some outcome ∧
      (TimeFromReply Ntp.start ⟨0, 0, 0, 0, 0, 0⟩ (recvReply 0 48 0) ntpDatagram outcome ↔
        (48 : Int16) < 0 ∨ (recvNumberOfBytes (recvReply 0 48 0)).toInt32.toInt16 < 0 ∨
          44 ≤ delivered (recvReply 0 48 0) ntpDatagram) := by
  have hreturns : (simpleLinkRecvWaits (SLInfo.start true) ntpRequest (some ⟨fun _ => 0, 0⟩)
      hciCmndRecvfrom (Mem.ofList []) [replyEvent hciCmndRecvfrom (recvReply 0 48 0)]
      [ntpDatagram]).isSome = true := by decide
  obtain ⟨⟨sl', args, ret⟩, hrecv⟩ := Option.isSome_iff_exists.mp hreturns
  have hcall : ntpGetTimeCall Ntp.start 48 (SLInfo.start true) (Mem.ofList [])
      [replyEvent hciCmndRecvfrom (recvReply 0 48 0)] [ntpDatagram] ⟨0, 0, 0, 0, 0, 0⟩ =
        some (ntpGetTime Ntp.start 48 ret args.ret.mem ⟨0, 0, 0, 0, 0, 0⟩) := by
    rw [ntpGetTimeCall, if_neg (by decide)]
    dsimp only
    rw [hrecv]
  exact ⟨_, hcall, timeFromReply_iff Ntp.start (by decide) hcall⟩

/-- **An empty reply gives a time.** The count is zero, nothing is stored, and the zeros
of the request are broken down. -/
theorem not_timeFromReply :
    ¬ ∀ (ntp : Ntp) (sendto : Int16) (sl : SLInfo) (tSocketReadEvent reply packet : Mem)
      (t : NtpTime) (outcome : Int16 × NtpTime), ¬ IsEvent packet →
      ntpGetTimeCall ntp sendto sl tSocketReadEvent [replyEvent hciCmndRecvfrom reply] [packet] t =
        some outcome →
      TimeFromReply ntp t reply packet outcome := by
  intro h
  have hreturns : (simpleLinkRecvWaits (SLInfo.start true) ntpRequest (some ⟨fun _ => 0, 0⟩)
      hciCmndRecvfrom (Mem.ofList []) [replyEvent hciCmndRecvfrom (recvReply 0 0 0)]
      [ntpDatagram]).map (fun a => a.2.2) = some 0 := by decide
  obtain ⟨⟨sl', args, ret⟩, hrecv, hret⟩ := Option.map_eq_some_iff.mp hreturns
  obtain rfl : ret = 0 := hret
  have hcall : ntpGetTimeCall Ntp.start 48 (SLInfo.start true) (Mem.ofList [])
      [replyEvent hciCmndRecvfrom (recvReply 0 0 0)] [ntpDatagram] ⟨0, 0, 0, 0, 0, 0⟩ =
        some (ntpGetTime Ntp.start 48 0 args.ret.mem ⟨0, 0, 0, 0, 0, 0⟩) := by
    rw [ntpGetTimeCall, if_neg (by decide)]
    dsimp only
    rw [hrecv]
  have htime := h Ntp.start 48 (SLInfo.start true) (Mem.ofList []) (recvReply 0 0 0) ntpDatagram
    ⟨0, 0, 0, 0, 0, 0⟩ _ (by decide) hcall
  rw [ntpGetTime_reported Ntp.start _ _ (by decide) (by decide)] at htime
  exact absurd (htime.1 rfl).1 (by decide)

end SpiderL3S
