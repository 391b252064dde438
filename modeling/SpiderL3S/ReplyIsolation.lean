import Mathlib.Data.Bool.AllAny
import SpiderL3S.Unsol

/- Reply isolation of the wait loop. `SimpleLinkWaitEvent` hands the loop a
   pointer to the caller's result object, and every event the decoding switch
   sees writes through it. `replyBytes` says what an event stores and
   `replyAdvance` by how much it leaves the pointer moved; `hciEventSwitch_stored`
   is the switch in these terms. The rest follows the packets of one wait: a
   packet that is not the reply stores nothing, with one exception, a SEND or
   SENDTO event whose status is not `ERROR_SOCKET_INACTIVE`. The main result says
   that the exception is exactly what breaks the isolation of the reply. -/
namespace SpiderL3S

/-! What one event stores through `pRetParams`. -/

/-- `ret'` is `ret` with the bytes `bs` stored at its pointer and the pointer
moved by `n`. -/
structure Stored (ret ret' : Stream) (bs : List UInt8) (n : Nat) : Prop where
  mem : ret'.mem = ret.mem.store ret.ptr bs
  ptr : ret'.ptr = ret.ptr + n
  written : ∀ i, i ∈ ret'.written ↔ i ∈ ret.written ∨ (ret.ptr ≤ i ∧ i < ret.ptr + bs.length)

namespace Stored

theorem nil (ret : Stream) : Stored ret ret [] 0 := by
  refine ⟨(ret.mem.store_nil ret.ptr).symm, rfl, ?_⟩
  intro i
  simp only [List.length_nil, Nat.add_zero]
  refine ⟨Or.inl, ?_⟩
  intro h
  rcases h with h | h
  · exact h
  · omega

theorem skip {ret r : Stream} {a : List UInt8} {n : Nat} (h : Stored ret r a n) (k : Nat) :
    Stored ret (r.skip k) a (n + k) := by
  refine ⟨h.mem, ?_, h.written⟩
  show r.ptr + k = ret.ptr + (n + k)
  rw [h.ptr, Nat.add_assoc]

theorem poke {ret r : Stream} {a b : List UInt8} {n : Nat} (h : Stored ret r a n)
    (hn : n ≤ a.length) (hb : a.length ≤ n + b.length) :
    Stored ret (r.poke b) (a.take n ++ b) n := by
  refine ⟨?_, h.ptr, ?_⟩
  · rw [Stream.poke_mem, h.mem, h.ptr, Mem.store_over _ _ _ _ _ hn hb]
  · intro i
    rw [Stream.poke_written, List.mem_append, h.written, List.mem_range'_1, h.ptr, or_assoc,
      List.length_append, List.length_take]
    apply or_congr_right
    omega

/-- A 32-bit field read at `o`, stored behind the fields before it. -/
theorem slice_poke {ret r : Stream} {p : Mem} {n k : Nat} (h : Stored ret r (p.slice 0 n) n) :
    Stored ret (r.poke (p.slice n k)) (p.slice 0 (n + k)) n := by
  have hpoke := h.poke (b := p.slice n k) (by rw [Mem.slice_length])
    (by rw [Mem.slice_length]; omega)
  rw [Mem.take_slice p (Nat.le_refl n)] at hpoke
  have happend := Mem.slice_append p 0 n k
  rw [Nat.zero_add] at happend
  rw [← happend]
  exact hpoke

end Stored

theorem retUint32_eq (ret : Stream) (p : Mem) (o : Nat) :
    retUint32 ret p o = ret.poke (p.slice o 4) := by
  rw [retUint32, uint32Bytes_stream]
  rfl

theorem retUint16Wide_eq (ret : Stream) (p : Mem) (o : Nat) :
    retUint16Wide ret p o = ret.poke (p.slice o 2 ++ [0, 0]) := by
  have h0 := (p o).toNat_lt
  have h1 := (p (o + 1)).toNat_lt
  have hv : (streamToUint16 p o).toUInt32.toNat = (p o).toNat + (p (o + 1)).toNat * 256 := by
    rw [UInt16.toNat_toUInt32, streamToUint16_toNat]
  rw [retUint16Wide]
  generalize (streamToUint16 p o).toUInt32 = v at hv
  congr 1
  simp only [uint32Bytes, Mem.slice, List.range_succ, List.range_zero,
    List.map_cons, List.map_nil, List.nil_append, List.cons_append, Nat.add_zero,
    List.cons.injEq, and_true]
  refine ⟨?_, ?_, ?_, ?_⟩ <;> apply UInt8.toNat_inj.mp
  · rw [UInt32.toNat_toUInt8, hv]; omega
  · rw [uint32_byte v 8 (by decide), hv, show (8 : UInt32).toNat = 8 from rfl]; omega
  · rw [uint32_byte v 16 (by decide), hv, show (16 : UInt32).toNat = 16 from rfl]
    show _ = 0
    omega
  · rw [uint32_byte v 24 (by decide), hv, show (24 : UInt32).toNat = 24 from rfl]
    show _ = 0
    omega

/-- The fields decoded from an event, as they lie in the result object. -/
def replyBytes (data : Mem) : List UInt8 :=
  let code := eventCode data
  let params := data.drop hciEventHeaderSize
  let status := streamToUint8 data hciEventStatusOffset
  if code = hciCmndReadBufferSize then []
  else if code ∈ statusReplies then [status]
  else if code ∈ wordReplies then params.slice 0 4
  else if code = hciEvntReadSpVersion then status :: params.slice 0 4
  else if code = hciEvntBsdGethostbyname then params.slice 0 8
  else if code = hciEvntGetmssvalue then params.slice 0 2
  else if code = hciEvntAccept then params.slice 0 24
  else if code ∈ [hciEvntRecv, hciEvntRecvfrom] then params.slice 0 12
  else if code ∈ [hciEvntSend, hciEvntSendto] then params.slice 0 8
  else if code = hciEvntSelect then params.slice 0 16
  else if code = hciCmndGetsockopt then params.slice 0 4 ++ [status]
  else if code = hciCmndWlanIoctlGetScanResults then params.slice 0 50
  else if code = hciNetappIpconfig then params.slice 0 58
  else []

/-- How far behind its object an event leaves `pRetParams`. -/
def replyAdvance (code : UInt16) : Nat :=
  if code = hciCmndReadBufferSize then 0
  else if code ∈ statusReplies then 0
  else if code ∈ wordReplies then 0
  else if code = hciEvntReadSpVersion then 1
  else if code = hciEvntBsdGethostbyname then 4
  else if code = hciEvntGetmssvalue then 0
  else if code = hciEvntAccept then 8
  else if code ∈ [hciEvntRecv, hciEvntRecvfrom] then 8
  else if code ∈ [hciEvntSend, hciEvntSendto] then 8
  else if code = hciEvntSelect then 12
  else if code = hciCmndGetsockopt then 0
  else if code = hciCmndWlanIoctlGetScanResults then 12
  else 0

section
variable (ret : Stream) (p : Mem)

/-- One 32-bit field. -/
theorem stored_word : Stored ret (retUint32 ret p 0) (p.slice 0 4) 0 := by
  rw [retUint32_eq]
  exact (Stored.nil ret).slice_poke (p := p) (n := 0) (k := 4)

/-- Two 32-bit fields. -/
theorem stored_words₂ :
    Stored ret (retUint32 ((retUint32 ret p 0).skip 4) p 4) (p.slice 0 8) 4 := by
  have hword := (stored_word ret p).skip 4
  rw [retUint32_eq _ p 4]
  exact hword.slice_poke

/-- Three 32-bit fields. -/
theorem stored_words₃ :
    Stored ret (retUint32 ((retUint32 ((retUint32 ret p 0).skip 4) p 4).skip 4) p 8)
      (p.slice 0 12) 8 := by
  have hwords := (stored_words₂ ret p).skip 4
  rw [retUint32_eq _ p 8]
  exact hwords.slice_poke

theorem stored_accept :
    Stored ret (((retUint32 ((retUint32 ret p 0).skip 4) p 4).skip 4).poke (p.slice 8 16))
      (p.slice 0 24) 8 :=
  ((stored_words₂ ret p).skip 4).slice_poke

theorem stored_select :
    Stored ret (retUint32 ((retUint32 ((retUint32 ((retUint32 ret p 0).skip 4) p 4).skip 4)
      p 8).skip 4) p 12) (p.slice 0 16) 12 := by
  have hwords := (stored_words₃ ret p).skip 4
  rw [retUint32_eq _ p 12]
  exact hwords.slice_poke

theorem stored_spVersion (status : UInt8) :
    Stored ret (((ret.poke [status]).skip 1).poke (uint32Bytes (streamToUint32 p 0)))
      (status :: p.slice 0 4) 1 := by
  have hstatus := ((Stored.nil ret).poke (b := [status]) (Nat.le_refl 0) (Nat.zero_le _)).skip 1
  exact uint32Bytes_stream p 0 ▸
    hstatus.poke (b := uint32Bytes (streamToUint32 p 0)) (Nat.le_refl 1) (by simp)

/-- The status goes behind the option bytes and is stored first. -/
theorem stored_getsockopt (status : UInt8) :
    Stored ret (({ (ret.skip 4).poke [status] with ptr := ret.ptr } : Stream).poke (p.slice 0 4))
      (p.slice 0 4 ++ [status]) 0 := by
  have hlen : (p.slice 0 4).length = 4 := Mem.slice_length p 0 4
  refine ⟨?_, rfl, ?_⟩
  · show (ret.mem.store (ret.ptr + 4) [status]).store ret.ptr (p.slice 0 4) = _
    rw [← Mem.store_store, hlen]
    funext i
    simp only [Mem.store, hlen, List.length_singleton]
    by_cases hi : ret.ptr ≤ i ∧ i < ret.ptr + 4
    · rw [if_pos hi, if_neg (by omega), if_pos hi]
    · rw [if_neg hi, if_neg hi]
  · intro i
    simp only [Stream.poke_written, Stream.skip, List.mem_append, List.mem_range'_1,
      List.length_append, hlen, List.length_singleton, or_assoc]
    apply or_congr_right
    omega

/-- The two 16-bit fields are stored as 32-bit values, two bytes apart. -/
theorem stored_scanResults :
    Stored ret (((retUint16Wide ((retUint16Wide ((retUint32 ((retUint32 ret p 0).skip 4)
      p 4).skip 4) p 8).skip 2) p 10).skip 2).poke (p.slice 12 38)) (p.slice 0 50) 12 := by
  have hwords := (stored_words₂ ret p).skip 4
  rw [retUint16Wide_eq, retUint16Wide_eq]
  have wide : ∀ (r : Stream) (a : List UInt8) (n : Nat), n ≤ a.length → a.length ≤ n + 2 →
      Stored ret r a n → a.take n = p.slice 0 n →
      Stored ret ((r.poke (p.slice n 2 ++ [0, 0])).skip 2) (p.slice 0 (n + 2) ++ [0, 0])
        (n + 2) := by
    intro r a n hn hlen h htake
    have hpoke := (h.poke (b := p.slice n 2 ++ [0, 0]) hn (by
      rw [List.length_append, Mem.slice_length]; omega)).skip 2
    have happend := Mem.slice_append p 0 n 2
    rw [Nat.zero_add] at happend
    rw [htake, ← List.append_assoc, happend] at hpoke
    exact hpoke
  have take_wide : ∀ n, (p.slice 0 n ++ [0, 0]).take n = p.slice 0 n := by
    intro n
    rw [List.take_append_of_le_length (by rw [Mem.slice_length]), Mem.take_slice p (Nat.le_refl n)]
  have hfirst := wide _ _ 8 (by rw [Mem.slice_length]) (by rw [Mem.slice_length]; omega) hwords
    (Mem.take_slice p (Nat.le_refl 8))
  have hsecond := wide _ _ 10 (by rw [List.length_append, Mem.slice_length]; omega)
    (by rw [List.length_append, Mem.slice_length]; simp) hfirst (take_wide 10)
  have hlast := hsecond.poke (b := p.slice 12 38)
    (by rw [List.length_append, Mem.slice_length]; omega)
    (by rw [List.length_append, Mem.slice_length, Mem.slice_length]; simp)
  rw [take_wide 12] at hlast
  have happend := Mem.slice_append p 0 12 38
  rw [Nat.zero_add] at happend
  rw [happend] at hlast
  exact hlast

theorem stored_ipconfig :
    Stored ret { ((((((ret.put (p.slice 0 4)).put (p.slice 4 4)).put (p.slice 8 4)).put
      (p.slice 12 4)).put (p.slice 16 4)).put (p.slice 20 6)).put (p.slice 26 32) with
        ptr := ret.ptr } (p.slice 0 58) 0 := by
  have happend : ∀ a b, p.slice 0 a ++ p.slice a b = p.slice 0 (a + b) := by
    intro a b
    have h := Mem.slice_append p 0 a b
    rwa [Nat.zero_add] at h
  simp only [Stream.put_put, happend]
  refine ⟨rfl, rfl, ?_⟩
  intro i
  simp only [Stream.put_written, List.mem_append, List.mem_range'_1]

end

section
variable (ret : Stream)

/-- A branch of the switch. -/
theorem stored_ite {c : Prop} [Decidable c] {x y : SLInfo × Stream} {a b : List UInt8} {n k : Nat}
    (hx : c → Stored ret x.2 a n) (hy : ¬ c → Stored ret y.2 b k) :
    Stored ret (if c then x else y).2 (if c then a else b) (if c then n else k) := by
  by_cases h : c
  · simpa only [if_pos h] using hx h
  · simpa only [if_neg h] using hy h

end

/-- **The decoding switch stores the reply's fields, once, at the pointer.** -/
theorem hciEventSwitch_stored (sl : SLInfo) (ret : Stream) (data : Mem) :
    Stored ret (hciEventSwitch sl ret data).2 (replyBytes data)
      (replyAdvance (eventCode data)) := by
  have hstatus : ∀ s, Stored ret (ret.poke [s]) [s] 0 := fun s =>
    (Stored.nil ret).poke (b := [s]) (Nat.le_refl 0) (Nat.zero_le _)
  have hmss : ∀ p : Mem,
      Stored ret (ret.poke (uint16Bytes (streamToUint16 p 0))) (p.slice 0 2) 0 := by
    intro p
    rw [uint16Bytes_stream]
    exact (Stored.nil ret).slice_poke (p := p) (n := 0) (k := 2)
  unfold hciEventSwitch replyBytes replyAdvance
  refine stored_ite ret (fun _ => Stored.nil ret) (fun _ => ?_)
  refine stored_ite ret (fun _ => hstatus _) (fun _ => ?_)
  refine stored_ite ret (fun _ => stored_word ret _) (fun _ => ?_)
  refine stored_ite ret (fun _ => stored_spVersion ret _ _) (fun _ => ?_)
  refine stored_ite ret (fun _ => stored_words₂ ret _) (fun _ => ?_)
  refine stored_ite ret (fun _ => hmss _) (fun _ => ?_)
  refine stored_ite ret (fun _ => stored_accept ret _) (fun _ => ?_)
  refine stored_ite ret (fun _ => ?_) (fun _ => ?_)
  · -- both outcomes of the inactive test leave the same bytes behind
    dsimp only
    split <;> exact stored_words₃ ret _
  refine stored_ite ret (fun _ => (stored_words₂ ret _).skip 4) (fun _ => ?_)
  refine stored_ite ret (fun _ => stored_select ret _) (fun _ => ?_)
  refine stored_ite ret (fun _ => stored_getsockopt ret _ _) (fun _ => ?_)
  refine stored_ite ret (fun _ => stored_scanResults ret _) (fun _ => ?_)
  by_cases hip : eventCode data = hciNetappIpconfig
  · simpa only [if_pos hip] using stored_ipconfig ret _
  · simpa only [if_neg hip] using Stored.nil ret

/-! Which packets reach the switch. -/

/-- The codes the switch has a storing case for. -/
def storingCodes : List UInt16 :=
  statusReplies ++ wordReplies ++
    [hciEvntReadSpVersion, hciEvntBsdGethostbyname, hciEvntGetmssvalue, hciEvntAccept,
     hciEvntRecv, hciEvntRecvfrom, hciEvntSend, hciEvntSendto, hciEvntSelect, hciCmndGetsockopt,
     hciCmndWlanIoctlGetScanResults, hciNetappIpconfig]

/-- How many bytes an event of this code stores. -/
def replySize (code : UInt16) : Nat :=
  if code = hciCmndReadBufferSize then 0
  else if code ∈ statusReplies then 1
  else if code ∈ wordReplies then 4
  else if code = hciEvntReadSpVersion then 5
  else if code = hciEvntBsdGethostbyname then 8
  else if code = hciEvntGetmssvalue then 2
  else if code = hciEvntAccept then 24
  else if code ∈ [hciEvntRecv, hciEvntRecvfrom] then 12
  else if code ∈ [hciEvntSend, hciEvntSendto] then 8
  else if code = hciEvntSelect then 16
  else if code = hciCmndGetsockopt then 5
  else if code = hciCmndWlanIoctlGetScanResults then 50
  else if code = hciNetappIpconfig then 58
  else 0

theorem replyBytes_length (data : Mem) : (replyBytes data).length = replySize (eventCode data) := by
  unfold replyBytes replySize
  simp only [apply_ite List.length, Mem.slice_length, List.length_nil, List.length_cons,
    List.length_append, Nat.zero_add]

theorem replySize_of_not_storing {code : UInt16} (h : code ∉ storingCodes) :
    replySize code = 0 ∧ replyAdvance code = 0 := by
  simp only [storingCodes, List.mem_append, List.mem_cons, List.not_mem_nil, or_false, not_or] at h
  simp [replySize, replyAdvance, h]

/-- `sl'` waits for what `sl` waits for. -/
def SameWait (sl sl' : SLInfo) : Prop :=
  sl'.usRxEventOpcode = sl.usRxEventOpcode ∧ sl'.usRxDataPending = sl.usRxDataPending

theorem setSocketActiveStatus_sameWait (sl : SLInfo) (sd status : UInt32) :
    SameWait sl (setSocketActiveStatus sl sd status) := by
  unfold setSocketActiveStatus
  split <;> exact ⟨rfl, rfl⟩

theorem updateSocketActiveStatus_sameWait (sl : SLInfo) (p : Mem) :
    SameWait sl (updateSocketActiveStatus sl p) := by
  unfold updateSocketActiveStatus
  split
  · exact setSocketActiveStatus_sameWait sl _ _
  · exact ⟨rfl, rfl⟩

theorem tryCallback_sameWait (sl : SLInfo) (code : UInt16) (data : List UInt8) :
    SameWait sl (sl.tryCallback code data) := by
  unfold SLInfo.tryCallback
  split <;> exact ⟨rfl, rfl⟩

theorem hciUnsolEventHandler_sameWait (sl : SLInfo) (event : Mem) :
    SameWait sl (hciUnsolEventHandler sl event).1 := by
  have hend := hciUnsolEventHandler_unsol sl event
  generalize hciUnsolEventHandler sl event = r at hend
  cases hend with
  | freeBuff sl' _ hsl => rcases hsl with rfl | rfl <;> exact ⟨rfl, rfl⟩
  | wlan _ => exact tryCallback_sameWait sl _ _
  | sendInactive _ _ => exact updateSocketActiveStatus_sameWait _ _
  | unsupported _ _ => exact ⟨rfl, rfl⟩
  | sendOther _ _ => exact ⟨rfl, rfl⟩
  | ignored _ _ _ _ _ => exact ⟨rfl, rfl⟩
  | waited _ _ _ _ => exact ⟨rfl, rfl⟩

/-- An event the handler refuses leaves the globals alone, and is one it has no
case for, a send that did not fail for an inactive socket, a patch request, or
the event the wait is for. -/
theorem hciUnsolEventHandler_refused {sl : SLInfo} {event : Mem}
    (h : (hciUnsolEventHandler sl event).2 = false) :
    hciUnsolEventHandler sl event = (sl, false) ∧
      (eventCode event &&& hciEvntWlanUnsolBase ≠ 0 ∨
        (sendClass (eventCode event) = true ∧ sendStatus event ≠ errorSocketInactive) ∨
        eventCode event = hciEvntPatchesReq ∨ eventCode event = sl.usRxEventOpcode) := by
  have hend := hciUnsolEventHandler_unsol sl event
  generalize hciUnsolEventHandler sl event = r at hend h ⊢
  cases hend with
  | unsupported hclass _ => exact ⟨rfl, .inl hclass⟩
  | sendOther hcode hstatus => exact ⟨rfl, .inr (.inl ⟨hcode, hstatus⟩)⟩
  | waited _ _ _ hcode => exact ⟨rfl, .inr (.inr hcode.symm)⟩
  | freeBuff _ _ _ => cases h
  | wlan _ => cases h
  | sendInactive _ _ => cases h
  | ignored _ _ _ _ _ => cases h

/-- A send that did not fail for an inactive socket is refused, whatever the wait
is for. -/
theorem hciUnsolEventHandler_send (sl : SLInfo) {event : Mem}
    (hsend : sendClass (eventCode event) = true) :
    (hciUnsolEventHandler sl event).2 = decide (sendStatus event = errorSocketInactive) := by
  have hclass := sendClass_class hsend
  have hend := hciUnsolEventHandler_unsol sl event
  generalize hciUnsolEventHandler sl event = r at hend ⊢
  cases hend with
  | sendInactive _ hstatus => exact (decide_eq_true hstatus).symm
  | sendOther _ hstatus => exact (decide_eq_false hstatus).symm
  | freeBuff _ hcode _ => exact absurd hcode (ne_freeBuff_of_class (.inr hsend))
  | wlan hcode => exact absurd hclass (wlanEvents_class hcode)
  | unsupported hbase _ => exact absurd hclass hbase
  | ignored _ _ hnot _ _ => cases hsend.symm.trans hnot
  | waited _ _ hnot _ => cases hsend.symm.trans hnot

/-- An event of a command is refused exactly when the wait is for it. -/
theorem hciUnsolEventHandler_solicited (sl : SLInfo) {event : Mem}
    (hflow : eventCode event ≠ hciEvntDataUnsolFreeBuff)
    (hwlan : eventCode event &&& hciEvntWlanUnsolBase = 0)
    (hsend : sendClass (eventCode event) = false) (hpatch : eventCode event ≠ hciEvntPatchesReq) :
    (hciUnsolEventHandler sl event).2 = decide (eventCode event ≠ sl.usRxEventOpcode) := by
  have hend := hciUnsolEventHandler_unsol sl event
  generalize hciUnsolEventHandler sl event = r at hend ⊢
  cases hend with
  | ignored _ _ _ hwait _ => exact (decide_eq_true hwait).symm
  | waited _ _ _ hcode =>
    have hwait := hcode.resolve_right hpatch
    exact (decide_eq_false (not_not_intro hwait)).symm
  | freeBuff _ hcode _ => exact absurd hcode hflow
  | wlan hcode => exact absurd hwlan (wlanEvents_class hcode)
  | unsupported hclass _ => exact absurd hwlan hclass
  | sendInactive hcode _ => cases hcode.symm.trans hsend
  | sendOther hcode _ => cases hcode.symm.trans hsend

/-- What decoding keeps of the globals: it writes the buffer count and size from
READ_BUFFER_SIZE, the status of a socket from a receive, and nothing else. -/
theorem hciEventSwitch_keeps (P : SLInfo → Prop) (sl : SLInfo) (ret : Stream) (data : Mem)
    (hsl : P sl)
    (hsize : eventCode data = hciCmndReadBufferSize → ∀ free size,
      P { sl with usNumberOfFreeBuffers := free, usSlBufferLength := size })
    (hrecv : eventCode data ∈ [hciEvntRecv, hciEvntRecvfrom] → ∀ sd,
      P (setSocketActiveStatus sl sd socketStatusInactive)) :
    P (hciEventSwitch sl ret data).1 := by
  have branch : ∀ (c : Prop) [Decidable c] (x y : SLInfo × Stream),
      (c → P x.1) → P y.1 → P (if c then x else y).1 := by
    intro c _ x y hx hy
    split
    · next h => exact hx h
    · exact hy
  have same : ∀ c : Prop, c → P sl := fun _ _ => hsl
  unfold hciEventSwitch
  apply branch _ _ _ (fun h => hsize h _ _)
  apply branch _ _ _ (same _)
  apply branch _ _ _ (same _)
  apply branch _ _ _ (same _)
  apply branch _ _ _ (same _)
  apply branch _ _ _ (same _)
  apply branch _ _ _ (same _)
  apply branch _ _ _ (fun h => branch _ _ _ (fun _ => hrecv h _) hsl)
  apply branch _ _ _ (same _)
  apply branch _ _ _ (same _)
  apply branch _ _ _ (same _)
  apply branch _ _ _ (same _)
  exact branch _ _ _ (same _) hsl

theorem hciEventSwitch_sameWait (sl : SLInfo) (ret : Stream) (data : Mem) :
    SameWait sl (hciEventSwitch sl ret data).1 := by
  apply hciEventSwitch_keeps (SameWait sl)
  · exact ⟨rfl, rfl⟩
  · intro _ free size
    exact ⟨rfl, rfl⟩
  · intro _ sd
    exact setSocketActiveStatus_sameWait sl sd _

theorem hciEventSwitch_flag (sl : SLInfo) (ret : Stream) (data : Mem) :
    (hciEventSwitch sl ret data).1.usEventOrDataReceived = sl.usEventOrDataReceived := by
  apply hciEventSwitch_keeps (fun sl' => sl'.usEventOrDataReceived = sl.usEventOrDataReceived)
  · rfl
  · intro _ free size
    rfl
  · intro _ sd
    unfold setSocketActiveStatus
    split <;> rfl

theorem hciEventSwitch_sWlanCB (sl : SLInfo) (ret : Stream) (data : Mem) :
    (hciEventSwitch sl ret data).1.sWlanCB = sl.sWlanCB := by
  apply hciEventSwitch_keeps (fun sl' => sl'.sWlanCB = sl.sWlanCB)
  · rfl
  · intro _ free size
    rfl
  · intro _ sd
    unfold setSocketActiveStatus
    split <;> rfl

/-! One packet of a wait. -/

def IsEvent (data : Mem) : Prop := data hciPacketTypeOffset = hciTypeEvnt

instance : DecidablePred IsEvent := fun data =>
  inferInstanceAs (Decidable (data hciPacketTypeOffset = hciTypeEvnt))

/-- The event the handler gives to the switch although no wait is for it: a SEND
or SENDTO whose status is not `ERROR_SOCKET_INACTIVE`. -/
def strayReply (data : Mem) : Bool :=
  (eventCode data = hciEvntSend || eventCode data = hciEvntSendto) &&
    sendStatus data ≠ errorSocketInactive

/-- What the loop does with an event the handler refuses. -/
def decode (sl : SLInfo) (args : WaitArgs) (data : Mem) : SLInfo × WaitArgs × Bool :=
  let (sl, ret) := hciEventSwitch { sl with usEventOrDataReceived := 1 } args.ret data
  let sl := if eventCode data = sl.usRxEventOpcode then { sl with usRxEventOpcode := 0 } else sl
  let sl := { sl with usEventOrDataReceived := 0 }
  (sl, { args with ret }, waitOver sl)

/-- The interrupt with an event: it takes what the handler takes, and holds the
rest. -/
theorem spiReceiveHandler_event (sl : SLInfo) {data : Mem} (h : IsEvent data) :
    spiReceiveHandler sl data =
      if (hciUnsolEventHandler { sl with usEventOrDataReceived := 1 } data).2 then
        ({ (hciUnsolEventHandler { sl with usEventOrDataReceived := 1 } data).1 with
           usEventOrDataReceived := 0 }, true)
      else ({ sl with usEventOrDataReceived := 1 }, false) := by
  unfold spiReceiveHandler hciUnsolicitedEventHandler
  generalize hsl : ({ sl with usEventOrDataReceived := 1 } : SLInfo) = sl₁
  have hone : sl₁.usEventOrDataReceived ≠ 0 := by subst hsl; simp
  rw [if_pos ⟨hone, h⟩]
  cases hu : hciUnsolEventHandler sl₁ data with
  | mk sl₂ handled =>
    cases handled with
    | true => rfl
    | false =>
      have hfalse : (hciUnsolEventHandler sl₁ data).2 = false := by rw [hu]
      rw [(hciUnsolEventHandler_refused hfalse).1] at hu
      rw [(Prod.mk.inj hu).1]
      rfl

/-- A packet that is no event is held. -/
theorem spiReceiveHandler_other (sl : SLInfo) {data : Mem} (h : ¬ IsEvent data) :
    spiReceiveHandler sl data = ({ sl with usEventOrDataReceived := 1 }, false) :=
  if_neg fun hand => h hand.2

/-- The handler runs twice on a packet it refuses, with the same answer. -/
theorem deliver_event (sl : SLInfo) (args : WaitArgs) {data : Mem} (h : IsEvent data) :
    deliver sl args data =
      if (hciUnsolEventHandler { sl with usEventOrDataReceived := 1 } data).2 then
        ({ (hciUnsolEventHandler { sl with usEventOrDataReceived := 1 } data).1 with
           usEventOrDataReceived := 0 }, args, false)
      else decode sl args data := by
  rw [deliver, spiReceiveHandler_event sl h]
  cases hu : (hciUnsolEventHandler { sl with usEventOrDataReceived := 1 } data).2 with
  | true => rfl
  | false =>
    obtain ⟨hkeep, -⟩ := hciUnsolEventHandler_refused hu
    have hevent : data hciPacketTypeOffset = hciTypeEvnt := h
    simp only [Bool.false_eq_true, if_false, hciPacketReceived, if_pos hevent, hkeep, decode]

/-- No packet changes the callback that is installed. -/
theorem spiReceiveHandler_sWlanCB (sl : SLInfo) (data : Mem) :
    (spiReceiveHandler sl data).1.sWlanCB = sl.sWlanCB := by
  by_cases hevent : IsEvent data
  · rw [spiReceiveHandler_event sl hevent]
    split
    · exact hciUnsolEventHandler_sWlanCB _ data
    · rfl
  · rw [spiReceiveHandler_other sl hevent]

theorem hciPacketReceived_sWlanCB (sl : SLInfo) (args : WaitArgs) (data : Mem) :
    (hciPacketReceived sl args data).1.sWlanCB = sl.sWlanCB := by
  unfold hciPacketReceived
  split
  · have hunsol := hciUnsolEventHandler_sWlanCB sl data
    have hswitch := hciEventSwitch_sWlanCB (hciUnsolEventHandler sl data).1 args.ret data
    dsimp only
    split <;> split <;> first | exact hunsol | exact hswitch.trans hunsol
  · rfl

theorem deliver_sWlanCB (sl : SLInfo) (args : WaitArgs) (data : Mem) :
    (deliver sl args data).1.sWlanCB = sl.sWlanCB := by
  have hreceive := spiReceiveHandler_sWlanCB sl data
  unfold deliver
  cases hreceived : spiReceiveHandler sl data with
  | mk sl₁ released =>
    rw [hreceived] at hreceive
    cases released with
    | true => exact hreceive
    | false => exact (hciPacketReceived_sWlanCB sl₁ args data).trans hreceive

theorem hciEventHandler_sWlanCB (packets : List Mem) (sl : SLInfo) (args : WaitArgs) :
    (hciEventHandler sl args packets).1.sWlanCB = sl.sWlanCB := by
  induction packets generalizing sl args with
  | nil => rfl
  | cons data packets ih =>
    have hfirst := deliver_sWlanCB sl args data
    rw [hciEventHandler]
    cases hdeliver : deliver sl args data with
    | mk sl₁ rest =>
      obtain ⟨args₁, ended⟩ := rest
      rw [hdeliver] at hfirst
      cases ended with
      | true => exact hfirst
      | false => exact (ih sl₁ args₁).trans hfirst

theorem simpleLinkWaitEvent_sWlanCB (sl : SLInfo) (op : UInt16) (mem : Mem)
    (packets : List Mem) : (simpleLinkWaitEvent sl op mem packets).1.sWlanCB = sl.sWlanCB :=
  hciEventHandler_sWlanCB packets _ _

theorem simpleLinkWaitData_sWlanCB (sl : SLInfo) (mem : Mem) (sender : Option FromArgs)
    (packets : List Mem) : (simpleLinkWaitData sl mem sender packets).1.sWlanCB = sl.sWlanCB :=
  hciEventHandler_sWlanCB packets _ _

theorem strayReply_iff {data : Mem} : strayReply data = true ↔
    sendClass (eventCode data) = true ∧ eventCode data ∈ [hciEvntSend, hciEvntSendto] ∧
      sendStatus data ≠ errorSocketInactive := by
  simp only [strayReply, sendClass, Bool.and_eq_true, Bool.or_eq_true, decide_eq_true_eq,
    List.mem_cons, List.not_mem_nil, or_false]
  refine ⟨?_, ?_⟩
  · intro h
    exact ⟨.inl h.1, h.1, h.2⟩
  · intro h
    exact h.2

/-- Decoding an event the wait is not for goes on waiting. -/
theorem decode_other {op : UInt16} (hop : op ≠ 0) {sl : SLInfo} (args : WaitArgs) {data : Mem}
    (hcode : eventCode data ≠ op) (hwait : sl.usRxEventOpcode = op) :
    ∃ sl' args', decode sl args data = (sl', args', false) ∧ SameWait sl sl' ∧
      Stored args.ret args'.ret (replyBytes data) (replyAdvance (eventCode data)) := by
  have hsame := hciEventSwitch_sameWait { sl with usEventOrDataReceived := 1 } args.ret data
  have hstored := hciEventSwitch_stored { sl with usEventOrDataReceived := 1 } args.ret data
  unfold decode
  cases hsw : hciEventSwitch { sl with usEventOrDataReceived := 1 } args.ret data with
  | mk sl₁ ret =>
    rw [hsw] at hsame hstored
    have hopcode : sl₁.usRxEventOpcode = op := hsame.1.trans hwait
    refine ⟨{ sl₁ with usEventOrDataReceived := 0 }, { args with ret }, ?_, hsame, hstored⟩
    simp only [hopcode, if_neg hcode, waitOver, hop, decide_false, Bool.false_and]

/-- Decoding the reply ends the wait, if no data is waited for. -/
theorem decode_reply (sl : SLInfo) (args : WaitArgs) {data : Mem}
    (hcode : eventCode data = sl.usRxEventOpcode) :
    ∃ sl' args', decode sl args data = (sl', args', decide (sl.usRxDataPending = 0)) ∧
      Stored args.ret args'.ret (replyBytes data) (replyAdvance (eventCode data)) := by
  have hsame := hciEventSwitch_sameWait { sl with usEventOrDataReceived := 1 } args.ret data
  have hstored := hciEventSwitch_stored { sl with usEventOrDataReceived := 1 } args.ret data
  unfold decode
  cases hsw : hciEventSwitch { sl with usEventOrDataReceived := 1 } args.ret data with
  | mk sl₁ ret =>
    rw [hsw] at hsame hstored
    have hopcode : eventCode data = sl₁.usRxEventOpcode := hcode.trans hsame.1.symm
    have hpending : sl₁.usRxDataPending = sl.usRxDataPending := hsame.2
    refine ⟨{ sl₁ with usRxEventOpcode := 0, usEventOrDataReceived := 0 }, { args with ret }, ?_,
      hstored⟩
    simp only [if_pos hopcode, waitOver, decide_true, Bool.true_and, hpending]

/-- A stray reply stores eight bytes, and moves the pointer behind them. -/
theorem strayReply_size {data : Mem} (h : strayReply data = true) :
    (replyBytes data).length = 8 ∧ replyAdvance (eventCode data) = 8 := by
  have hsizes : ∀ c ∈ [hciEvntSend, hciEvntSendto], replySize c = 8 ∧ replyAdvance c = 8 :=
    List.all_iff_forall_prop.mp (by decide)
  obtain ⟨-, hcodes, -⟩ := strayReply_iff.mp h
  rw [replyBytes_length]
  exact hsizes _ hcodes

/-- Any other event that is refused outside its own wait stores nothing. -/
theorem refused_stores_nothing {sl : SLInfo} {data : Mem}
    (hrefused : (hciUnsolEventHandler sl data).2 = false)
    (hcode : eventCode data ≠ sl.usRxEventOpcode) (hs : ¬ strayReply data = true) :
    replyBytes data = [] ∧ replyAdvance (eventCode data) = 0 := by
  obtain ⟨-, hwhy⟩ := hciUnsolEventHandler_refused hrefused
  have hstoring : ∀ c ∈ storingCodes, c &&& hciEvntWlanUnsolBase = 0 ∧
      c ≠ hciEvntPatchesReq ∧ (sendClass c = true → c ∈ [hciEvntSend, hciEvntSendto]) :=
    List.all_iff_forall_prop.mp (by decide)
  have hnot : eventCode data ∉ storingCodes := by
    intro hmem
    obtain ⟨hwlan, hpatch, hcodes⟩ := hstoring _ hmem
    rcases hwhy with h | ⟨hsend, hstatus⟩ | h | h
    · exact h hwlan
    · exact hs (strayReply_iff.mpr ⟨hsend, hcodes hsend, hstatus⟩)
    · exact hpatch h
    · exact hcode h
  obtain ⟨hsize, hadv⟩ := replySize_of_not_storing hnot
  refine ⟨List.eq_nil_of_length_eq_zero ?_, hadv⟩
  rw [replyBytes_length, hsize]

/-- What a packet other than the reply does to the wait: nothing, unless it is a
stray reply, which stores eight bytes and moves the pointer behind them. -/
theorem deliver_other {op : UInt16} (hop : op ≠ 0) {sl : SLInfo} (args : WaitArgs) {data : Mem}
    (h : IsEvent data) (hcode : eventCode data ≠ op) (hwait : sl.usRxEventOpcode = op) :
    ∃ sl' args', deliver sl args data = (sl', args', false) ∧ SameWait sl sl' ∧
      if strayReply data then Stored args.ret args'.ret (replyBytes data) 8 ∧
          (replyBytes data).length = 8
      else Stored args.ret args'.ret [] 0 := by
  rw [deliver_event sl args h]
  have hun := hciUnsolEventHandler_sameWait { sl with usEventOrDataReceived := 1 } data
  cases hhandled : (hciUnsolEventHandler { sl with usEventOrDataReceived := 1 } data).2 with
  | true =>
    -- the handler has taken it, so it is no stray reply
    have hnot : strayReply data = false := by
      by_contra hs
      obtain ⟨hsend, -, hstatus⟩ := strayReply_iff.mp (Bool.not_eq_false _ ▸ hs)
      rw [hciUnsolEventHandler_send _ hsend, decide_eq_true_eq] at hhandled
      exact hstatus hhandled
    refine ⟨_, args, rfl, ⟨hun.1, hun.2⟩, ?_⟩
    rw [hnot]
    exact Stored.nil args.ret
  | false =>
    obtain ⟨sl', args', hdecode, hsame, hstored⟩ :=
      decode_other hop args hcode hwait
    refine ⟨sl', args', hdecode, hsame, ?_⟩
    by_cases hs : strayReply data = true
    · obtain ⟨hlen, hadv⟩ := strayReply_size hs
      rw [if_pos hs]
      exact ⟨hadv ▸ hstored, hlen⟩
    · have hother : eventCode data ≠ sl.usRxEventOpcode := fun heq => hcode (heq.trans hwait)
      obtain ⟨hnil, hadv⟩ := refused_stores_nothing hhandled hother hs
      rw [if_neg hs]
      rw [hnil, hadv] at hstored
      exact hstored

/-! A whole wait. -/

/-- The loop goes on with the packets behind one that does not end the wait. -/
theorem hciEventHandler_cons {sl sl' : SLInfo} {args args' : WaitArgs} {data : Mem}
    (h : deliver sl args data = (sl', args', false)) (packets : List Mem) :
    hciEventHandler sl args (data :: packets) = hciEventHandler sl' args' packets := by
  rw [hciEventHandler, h]

/-- Where `k` stray replies leave `pRetParams`: moved by eight bytes each, and the
first one has stored to the first eight. -/
structure Strayed (ret ret' : Stream) (k : Nat) : Prop where
  ptr : ret'.ptr = ret.ptr + 8 * k
  grows : ∀ i ∈ ret.written, i ∈ ret'.written
  first : 0 < k → ∀ i, ret.ptr ≤ i → i < ret.ptr + 8 → i ∈ ret'.written
  quiet : k = 0 → Stored ret ret' [] 0

theorem Stored.trans_nil {ret r ret' : Stream} (h : Stored ret r [] 0) {bs : List UInt8} {n : Nat}
    (h' : Stored r ret' bs n) : Stored ret ret' bs n := by
  have hptr : r.ptr = ret.ptr := h.ptr
  refine ⟨?_, ?_, ?_⟩
  · rw [h'.mem, h.mem, hptr, Mem.store_nil]
  · rw [h'.ptr, hptr]
  · intro i
    rw [h'.written, h.written, hptr, List.length_nil]
    refine ⟨?_, fun hi => hi.imp_left Or.inl⟩
    intro hi
    rcases hi with (hi | hi) | hi
    · exact .inl hi
    · omega
    · exact .inr hi

theorem Strayed.refl (ret : Stream) : Strayed ret ret 0 where
  ptr := rfl
  grows := fun _ hi => hi
  first := fun hpos => absurd hpos (Nat.lt_irrefl 0)
  quiet := fun _ => Stored.nil ret

/-- One stray reply in front of the others. -/
theorem Strayed.cons_stray {ret r ret' : Stream} {bs : List UInt8} {k : Nat}
    (h : Strayed r ret' k) (hstored : Stored ret r bs 8) (hlen : bs.length = 8) :
    Strayed ret ret' (k + 1) := by
  constructor
  · rw [h.ptr, hstored.ptr]
    omega
  · intro i hi
    exact h.grows i ((hstored.written i).mpr (.inl hi))
  · intro _ i hlo hhi
    exact h.grows i ((hstored.written i).mpr (.inr ⟨hlo, hlen.symm ▸ hhi⟩))
  · intro hzero
    exact absurd hzero (Nat.succ_ne_zero _)

/-- A packet in front of them that stores nothing. -/
theorem Strayed.cons_quiet {ret r ret' : Stream} {k : Nat} (h : Strayed r ret' k)
    (hstored : Stored ret r [] 0) : Strayed ret ret' k := by
  have hptr : r.ptr = ret.ptr := hstored.ptr
  constructor
  · rw [h.ptr, hptr]
  · intro i hi
    exact h.grows i ((hstored.written i).mpr (.inl hi))
  · intro hpos i hlo hhi
    exact h.first hpos i (hptr.symm ▸ hlo) (hptr.symm ▸ hhi)
  · intro hzero
    exact hstored.trans_nil (h.quiet hzero)

/-- **The packets before the reply** leave the wait open, and what they do to the
result object is what the stray replies among them do. -/
theorem hciEventHandler_others {op : UInt16} (hop : op ≠ 0) (packets : List Mem)
    {frames : List Mem} (hframes : ∀ f ∈ frames, IsEvent f ∧ eventCode f ≠ op) :
    ∀ {sl : SLInfo} (args : WaitArgs), sl.usRxEventOpcode = op →
      ∃ sl' args', hciEventHandler sl args (frames ++ packets) = hciEventHandler sl' args' packets ∧
        SameWait sl sl' ∧ Strayed args.ret args'.ret (frames.countP strayReply) := by
  induction frames with
  | nil =>
    intro sl args hwait
    exact ⟨sl, args, rfl, ⟨rfl, rfl⟩, .refl args.ret⟩
  | cons f frames ih =>
    intro sl args hwait
    obtain ⟨hevent, hcode⟩ := hframes f List.mem_cons_self
    obtain ⟨sl₁, args₁, hdeliver, hsame₁, hstored⟩ := deliver_other hop args hevent hcode hwait
    obtain ⟨sl₂, args₂, hrun, hsame₂, hstrayed⟩ :=
      ih (fun g hg => hframes g (List.mem_cons_of_mem f hg)) args₁ (hsame₁.1.trans hwait)
    refine ⟨sl₂, args₂, ?_, ⟨hsame₂.1.trans hsame₁.1, hsame₂.2.trans hsame₁.2⟩, ?_⟩
    · rw [List.cons_append, hciEventHandler_cons hdeliver, hrun]
    · by_cases hs : strayReply f = true
      · rw [if_pos hs] at hstored
        rw [List.countP_cons_of_pos hs]
        exact hstrayed.cons_stray hstored.1 hstored.2
      · rw [if_neg hs] at hstored
        rw [List.countP_cons_of_neg hs]
        exact hstrayed.cons_quiet hstored

/-- The opcodes the command functions wait for, each with the size of the result
object its caller supplies: 0 where it passes a null pointer. -/
def resultObjects : List (UInt16 × Nat) :=
  [(hciCmndSimpleLinkStart, 0), (hciCmndReadBufferSize, 0),
   (hciNetappDhcp, 1), (hciNetappSetTimers, 1), (hciNetappPingSend, 1), (hciNetappPingReport, 1),
   (hciNetappPingStop, 1), (hciNetappArpFlush, 1), (hciNetappSetDebugLevel, 1),
   (hciNetappIpconfig, 58),
   (hciCmndNvmemRead, 1), (hciCmndNvmemCreateEntry, 1), (hciEvntNvmemWrite, 4),
   (hciCmndReadSpVersion, 5),
   (hciCmndSocket, 4), (hciCmndCloseSocket, 4), (hciCmndBind, 4), (hciCmndListen, 4),
   (hciCmndConnect, 4), (hciCmndSetsockopt, 4), (hciCmndAccept, 24),
   (hciEvntBsdGethostbyname, 8), (hciEvntSelect, 16), (hciCmndGetsockopt, 5),
   (hciCmndRecv, 12), (hciCmndRecvfrom, 12), (hciEvntSend, 12), (hciEvntSendto, 12),
   (hciEvntMdnsAdvertise, 1), (hciEvntGetmssvalue, 2),
   (hciCmndWlanConnect, 4), (hciCmndWlanDisconnect, 4),
   (hciCmndWlanIoctlSetConnectionPolicy, 4), (hciCmndWlanIoctlAddProfile, 4),
   (hciCmndWlanIoctlDelProfile, 4), (hciCmndWlanIoctlGetScanResults, 50),
   (hciCmndWlanIoctlSetScanparam, 4), (hciCmndEventMask, 4), (hciCmndWlanIoctlStatusget, 4),
   (hciCmndWlanIoctlSimpleConfigStart, 4), (hciCmndWlanIoctlSimpleConfigStop, 4),
   (hciCmndWlanIoctlSimpleConfigSetPrefix, 4)]

/-- What the table says about every waited opcode: the reply fits, eight bytes
further it does not, and only the send opcodes are taken away from the wait. -/
theorem resultObjects_spec : ∀ r ∈ resultObjects,
    replySize r.1 ≤ r.2 ∧ r.2 < replySize r.1 + 8 ∧ r.1 ≠ 0 ∧ r.1 ≠ hciEvntDataUnsolFreeBuff ∧
      r.1 &&& hciEvntWlanUnsolBase = 0 ∧ r.1 ≠ hciEvntPatchesReq := by
  decide

/-- **Reply isolation.** If the wait for `op` returns, its result object holds the
fields of the reply and is otherwise as before, and nothing has been stored
outside the object. -/
def ReplyIsolated (sl : SLInfo) (op : UInt16) (size : Nat) (mem : Mem) (packets : List Mem)
    (reply : Mem) : Prop :=
  let (_, args, returned) := simpleLinkWaitEvent sl op mem packets
  returned = true →
    args.ret.mem = mem.store 0 (replyBytes reply) ∧ ∀ i ∈ args.ret.written, i < size

/-- The reply ends the wait: no data is waited for, and it is not a send that
failed for an inactive socket, which the handler takes for unsolicited. -/
def EndsWait (sl : SLInfo) (reply : Mem) : Prop :=
  sl.usRxDataPending = 0 ∧
    ¬ (sendClass (eventCode reply) = true ∧ sendStatus reply = errorSocketInactive)

theorem EndsWait.congr {sl sl' : SLInfo} (h : sl'.usRxDataPending = sl.usRxDataPending)
    (reply : Mem) : EndsWait sl' reply ↔ EndsWait sl reply := by
  unfold EndsWait
  rw [h]

/-- The reply itself: it ends the wait as `EndsWait` says, and then it is stored
where the pointer is. -/
theorem hciEventHandler_reply {op : UInt16} {size : Nat} (hop : (op, size) ∈ resultObjects)
    {sl : SLInfo} (args : WaitArgs) {reply : Mem} (hevent : IsEvent reply)
    (hcode : eventCode reply = op) (hwait : sl.usRxEventOpcode = op) :
    ∃ sl' args' returned, hciEventHandler sl args [reply] = (sl', args', returned) ∧
      (returned = true ↔ EndsWait sl reply) ∧
      (returned = true →
        Stored args.ret args'.ret (replyBytes reply) (replyAdvance (eventCode reply))) := by
  obtain ⟨-, -, -, hflow, hwlan, hpatch⟩ := resultObjects_spec _ hop
  obtain ⟨sl', args', hdecode, hstored⟩ := decode_reply sl args (hcode.trans hwait.symm)
  have hrefused : (hciUnsolEventHandler { sl with usEventOrDataReceived := 1 } reply).2 =
      decide (sendClass (eventCode reply) = true ∧ sendStatus reply = errorSocketInactive) := by
    cases hsend : sendClass (eventCode reply) with
    | true => rw [hciUnsolEventHandler_send _ hsend]; simp
    | false =>
      rw [hciUnsolEventHandler_solicited _ (hcode ▸ hflow) (hcode ▸ hwlan) hsend (hcode ▸ hpatch)]
      simp [hcode, hwait]
  have hdeliver := deliver_event sl args hevent
  rw [hrefused] at hdeliver
  by_cases hlost : sendClass (eventCode reply) = true ∧ sendStatus reply = errorSocketInactive
  · rw [decide_eq_true hlost, if_pos rfl] at hdeliver
    obtain ⟨sl₁, htaken⟩ : ∃ sl₁, deliver sl args reply = (sl₁, args, false) := ⟨_, hdeliver⟩
    refine ⟨sl₁, args, false, ?_, ?_, ?_⟩
    · rw [hciEventHandler_cons htaken]
      rfl
    · simp [EndsWait, hlost]
    · intro h
      cases h
  · rw [decide_eq_false hlost, if_neg Bool.false_ne_true, hdecode] at hdeliver
    refine ⟨sl', args', decide (sl.usRxDataPending = 0), ?_, ?_, fun _ => hstored⟩
    · cases hpending : decide (sl.usRxDataPending = 0) with
      | true => rw [hciEventHandler, hdeliver, hpending]
      | false =>
        rw [hpending] at hdeliver
        rw [hciEventHandler_cons hdeliver]
        rfl
    · rw [decide_eq_true_eq, EndsWait]
      exact ⟨fun h => ⟨h, hlost⟩, fun h => h.1⟩

/-- **A wait**, from its call to the reply: what has been stored before the reply, and
what the reply does. -/
theorem simpleLinkWaitEvent_reply {op : UInt16} {size : Nat} (hop : (op, size) ∈ resultObjects)
    (sl : SLInfo) (mem : Mem) {frames : List Mem} {reply : Mem}
    (hframes : ∀ f ∈ frames, IsEvent f ∧ eventCode f ≠ op) (hreply : IsEvent reply)
    (hcode : eventCode reply = op) :
    ∃ sl' args returned r, simpleLinkWaitEvent sl op mem (frames ++ [reply]) =
        (sl', args, returned) ∧
      (returned = true ↔ EndsWait sl reply) ∧
      Strayed ⟨0, mem, []⟩ r (frames.countP strayReply) ∧
      (returned = true →
        Stored r args.ret (replyBytes reply) (replyAdvance (eventCode reply))) := by
  obtain ⟨-, -, hne, -⟩ := resultObjects_spec _ hop
  obtain ⟨sl₁, args₁, hothers, hsame, hstrayed⟩ := @hciEventHandler_others op hne [reply] frames
    hframes { sl with usRxEventOpcode := op } ⟨⟨0, mem, []⟩, none⟩ rfl
  obtain ⟨sl₂, args₂, returned, hlast, hreturned, hstored⟩ :=
    hciEventHandler_reply hop args₁ hreply hcode hsame.1
  refine ⟨sl₂, args₂, returned, args₁.ret, ?_, ?_, hstrayed, hstored⟩
  · rw [simpleLinkWaitEvent, hothers, hlast]
  · exact hreturned.trans (EndsWait.congr hsame.2 reply)

/-- It returns exactly if the reply ends it, whatever other events come first. -/
theorem simpleLinkWaitEvent_returns {op : UInt16} {size : Nat} (hop : (op, size) ∈ resultObjects)
    (sl : SLInfo) (mem : Mem) {frames : List Mem} {reply : Mem}
    (hframes : ∀ f ∈ frames, IsEvent f ∧ eventCode f ≠ op) (hreply : IsEvent reply)
    (hcode : eventCode reply = op) :
    (simpleLinkWaitEvent sl op mem (frames ++ [reply])).2.2 = true ↔ EndsWait sl reply := by
  obtain ⟨sl', args, returned, r, hwait, hreturned, -⟩ :=
    simpleLinkWaitEvent_reply hop sl mem hframes hreply hcode
  rw [hwait]
  exact hreturned

/-- With a stray reply before it, the reply or the stray one itself stores behind the
end of the object. -/
theorem Strayed.outside {op : UInt16} {size : Nat} (hop : (op, size) ∈ resultObjects)
    {mem : Mem} {r ret : Stream} {bs : List UInt8} {n k : Nat}
    (h : Strayed ⟨0, mem, []⟩ r k) (hpos : 0 < k) (hstored : Stored r ret bs n)
    (hlen : bs.length = replySize op) : ¬ ∀ i ∈ ret.written, i < size := by
  obtain ⟨-, htight, -⟩ := resultObjects_spec _ hop
  dsimp only at htight
  intro hinside
  have hptr : r.ptr = 0 + 8 * k := h.ptr
  by_cases hzero : replySize op = 0
  · -- the object is smaller than what the first stray reply has stored
    have hseven := h.first hpos 7 (Nat.zero_le 7) (by show 7 < 0 + 8; omega)
    have hlt := hinside 7 ((hstored.written 7).mpr (.inl hseven))
    omega
  · -- the reply itself is stored behind the object's end
    have hin := hinside (r.ptr + replySize op - 1)
      ((hstored.written _).mpr (.inr (by rw [hlen]; omega)))
    omega

/-- **Replies are isolated exactly from the streams without stray replies.** For
every opcode a command waits for and every sequence of other events before the
reply: if the reply ends the wait, the result object is isolated if and only if
no SEND or SENDTO event with a status other than `ERROR_SOCKET_INACTIVE` is
among them. -/
theorem replyIsolated_iff {op : UInt16} {size : Nat} (hop : (op, size) ∈ resultObjects)
    (sl : SLInfo) (mem : Mem) {frames : List Mem} {reply : Mem}
    (hframes : ∀ f ∈ frames, IsEvent f ∧ eventCode f ≠ op) (hreply : IsEvent reply)
    (hcode : eventCode reply = op) :
    ReplyIsolated sl op size mem (frames ++ [reply]) reply ↔
      (EndsWait sl reply → ∀ f ∈ frames, strayReply f = false) := by
  obtain ⟨hfits, -⟩ := resultObjects_spec _ hop
  dsimp only at hfits
  obtain ⟨sl', args, returned, r, hwait, hreturned, hstrayed, hstored⟩ :=
    simpleLinkWaitEvent_reply hop sl mem hframes hreply hcode
  have hlen := replyBytes_length reply
  rw [hcode] at hlen
  unfold ReplyIsolated
  rw [hwait]
  show (returned = true → _ ∧ _) ↔ _
  rw [hreturned]
  refine ⟨?_, ?_⟩
  · intro hisolated hend
    obtain ⟨-, hinside⟩ := hisolated hend
    have hst := hstored (hreturned.mpr hend)
    by_contra hnot
    have hpos : 0 < frames.countP strayReply := by
      rw [List.countP_pos_iff]
      simpa using hnot
    exact hstrayed.outside hop hpos hst hlen hinside
  · intro hquiet hend
    have hst := hstored (hreturned.mpr hend)
    have hzero : frames.countP strayReply = 0 := by
      rw [List.countP_eq_zero]
      intro f hf
      rw [hquiet hend f hf]
      exact Bool.false_ne_true
    have hall := (hstrayed.quiet hzero).trans_nil hst
    refine ⟨hall.mem, ?_⟩
    intro i hi
    rcases (hall.written i).mp hi with hold | ⟨-, hhi⟩
    · cases hold
    · rw [hlen] at hhi
      have : i < 0 + replySize op := hhi
      omega

/-- An event frame with this status and these parameters. -/
def eventFrame (code : UInt16) (status : UInt8) (params : List UInt8) : Mem :=
  Mem.ofList ([hciTypeEvnt] ++ uint16Bytes code ++ [UInt8.ofNat (params.length + 1), status] ++
    params)

/-- `socket` waits, and the reply of an earlier `netapp_dhcp` comes first. -/
theorem replyIsolated_socket :
    ReplyIsolated (SLInfo.start false) hciCmndSocket 4 (Mem.ofList [])
        ([eventFrame hciNetappDhcp 0 []] ++ [eventFrame hciCmndSocket 0 [3, 0, 0, 0]])
        (eventFrame hciCmndSocket 0 [3, 0, 0, 0]) ↔
      (EndsWait (SLInfo.start false) (eventFrame hciCmndSocket 0 [3, 0, 0, 0]) →
        ∀ f ∈ [eventFrame hciNetappDhcp 0 []], strayReply f = false) :=
  have hop : (hciCmndSocket, 4) ∈ resultObjects := by decide
  replyIsolated_iff hop (SLInfo.start false) (Mem.ofList [])
    (fun f hf => by rw [List.mem_singleton.mp hf]; decide) (by decide) (by decide)

/-- While `socket` waits, a SENDTO event with status 0 stores eight bytes into its
four-byte result. -/
theorem not_replyIsolated_socket :
    ¬ (∀ (op : UInt16) (size : Nat), (op, size) ∈ resultObjects →
      ∀ (sl : SLInfo) (mem : Mem) (frames : List Mem) (reply : Mem),
        (∀ f ∈ frames, IsEvent f ∧ eventCode f ≠ op) → IsEvent reply → eventCode reply = op →
          ReplyIsolated sl op size mem (frames ++ [reply]) reply) := by
  intro h
  have hbad := h hciCmndSocket 4 (by decide) (SLInfo.start false) (Mem.ofList [])
    [eventFrame hciEvntSendto 0 [0, 0, 0, 0, 0, 0, 0, 0]] (eventFrame hciCmndSocket 0 [3, 0, 0, 0])
    (fun f hf => by rw [List.mem_singleton.mp hf]; decide) (by decide) (by decide)
  obtain ⟨-, hinside⟩ := hbad (by decide)
  exact absurd (hinside 7 (by decide)) (by decide)

end SpiderL3S
