import SpiderL3S.Socket

/- `select` of `socket.c` behind its command, and the two readiness checks built on
   it: `WebClient_DataAvailable`, which looks at the returned set alone, and
   `WebServer_request_available`, which looks at the result first. Both put the
   socket into the set before the call, and `select` stores the device's masks only
   where its status is not negative. So behind a `select` that has failed the set
   still holds the socket, and the client takes it for data
   (`readinessAgrees_iff`).

   The array of an `fd_set` has one word, for the descriptors below 32; a set is
   that word. -/
namespace SpiderL3S

/-! The sets. -/

/-- `__FDMASK(d)`. -/
def fdMask (d : UInt32) : UInt32 := 1 <<< (d % 32)

/-- `FD_SET(d, set)`. -/
def fdSet (d set : UInt32) : UInt32 := set ||| fdMask d

/-- `FD_ISSET(d, set)`. -/
def fdIsset (d set : UInt32) : UInt32 := set &&& fdMask d

/-- The sets passed to `select`, where they are not NULL. -/
structure FdSets where
  readsds : Option UInt32
  writesds : Option UInt32
  exceptsds : Option UInt32

/-! The calls. -/

/-- `select` behind its command: the globals, the sets and the result. `tParams` is not
initialised. -/
def selectWaits (sl : SLInfo) (sets : FdSets) (tParams reply : Mem) :
    Option (SLInfo × FdSets × Int16) := do
  let (sl, tParams) ← answered sl hciEvntSelect tParams reply
  let iStatus := (streamToUint32 tParams 0).toInt32
  if 0 ≤ iStatus then
    some (sl,
      { readsds := sets.readsds.map fun _ => streamToUint32 tParams 4
        writesds := sets.writesds.map fun _ => streamToUint32 tParams 8
        exceptsds := sets.exceptsds.map fun _ => streamToUint32 tParams 12 },
      iStatus.toInt16)
  else some (sl, sets, -1)

/-- `WebClient_DataAvailable`. The result of `FD_ISSET` is a long, and what is returned
an `int` of 16 bits. -/
def webClientDataAvailable (sl : SLInfo) (hostSocket : UInt32) (tParams reply : Mem) :
    Option (SLInfo × Int16) := do
  let fdRead := fdSet hostSocket 0
  let (sl, sets, _) ← selectWaits sl ⟨some fdRead, none, none⟩ tParams reply
  return (sl, (fdIsset hostSocket (sets.readsds.getD 0)).toUInt16.toInt16)

/-- `WebServer_request_available`. -/
def webServerRequestAvailable (sl : SLInfo) (socket : UInt32) (tParams reply : Mem) :
    Option (SLInfo × Int16) := do
  let fdRead := fdSet socket 0
  let (sl, sets, retval) ← selectWaits sl ⟨some fdRead, none, none⟩ tParams reply
  return (sl,
    if retval < 0 then -1
    else if retval = 0 then -2
    else if fdIsset socket (sets.readsds.getD 0) ≠ 0 then 0
    else -1)

/-! The reply. -/

def selectStatus (reply : Mem) : UInt32 := streamToUint32 reply (hciEventHeaderSize + 0)
def selectReadfd (reply : Mem) : UInt32 := streamToUint32 reply (hciEventHeaderSize + 4)
def selectWritefd (reply : Mem) : UInt32 := streamToUint32 reply (hciEventHeaderSize + 8)
def selectExfd (reply : Mem) : UInt32 := streamToUint32 reply (hciEventHeaderSize + 12)

/-- The number of bits set. -/
def bitCount (v : UInt32) : Nat := (List.range 32).countP fun i => v.toBitVec.getLsbD i

/-- The reply of a device: a negative status with any masks, or the number of sockets that
can be read, and no others. -/
def SelectReply (reply : Mem) : Prop :=
  (selectStatus reply).toInt32 < 0 ∨
    ((selectStatus reply).toNat = bitCount (selectReadfd reply) ∧
      selectWritefd reply = 0 ∧ selectExfd reply = 0)

/-- Behind `select`, the read set is what the status leaves of it or puts in its place. -/
theorem selectWaits_spec {sl sl' : SLInfo} {fdRead : UInt32} {sets : FdSets} {retval : Int16}
    {tParams reply : Mem}
    (h : selectWaits sl ⟨some fdRead, none, none⟩ tParams reply = some (sl', sets, retval)) :
    if 0 ≤ (selectStatus reply).toInt32 then
      sets.readsds = some (selectReadfd reply) ∧ retval = (selectStatus reply).toInt32.toInt16
    else sets.readsds = some fdRead ∧ retval = -1 := by
  rw [selectWaits] at h
  obtain ⟨⟨sl₁, mem⟩, ha, h⟩ := Option.bind_eq_some_iff.mp h
  obtain ⟨-, hmem⟩ := answered_spec (by decide) ha
  have hbytes : replyBytes (replyEvent hciEvntSelect reply) =
      ((replyEvent hciEvntSelect reply).drop hciEventHeaderSize).slice 0 16 := by
    unfold replyBytes
    rw [eventCode_replyEvent]
    rfl
  have hstatus : streamToUint32 mem 0 = selectStatus reply := by
    rw [hmem, streamToUint32_stored tParams reply hbytes (by decide)]
    rfl
  have hread : streamToUint32 mem 4 = selectReadfd reply := by
    rw [hmem, streamToUint32_stored tParams reply hbytes (by decide)]
    rfl
  dsimp only at h
  rw [hstatus, hread] at h
  split at h
  · next hok =>
    obtain ⟨-, rfl, rfl⟩ := h
    rw [if_pos hok]
    exact ⟨rfl, rfl⟩
  · next hfailed =>
    obtain ⟨-, rfl, rfl⟩ := h
    rw [if_neg hfailed]
    exact ⟨rfl, rfl⟩

/-! A socket in a set. -/

theorem fdMask_eq {d : UInt32} (hd : d ≤ 7) : fdMask d = 1 <<< d := by
  have hlt : d.toNat < 32 := Nat.lt_of_le_of_lt (UInt32.le_iff_toNat_le.mp hd) (by decide)
  have hmod : d % 32 = d := by
    apply UInt32.toNat_inj.mp
    rw [UInt32.toNat_mod]
    exact Nat.mod_eq_of_lt hlt
  rw [fdMask, hmod]

theorem fdIsset_eq_zero_iff {d : UInt32} (hd : d ≤ 7) (set : UInt32) :
    fdIsset d set = 0 ↔ set.toBitVec.getLsbD d.toNat = false := by
  rw [fdIsset, fdMask_eq hd]
  exact and_one_shiftLeft_eq_zero_iff set hd

/-- The 16 bits of an `int` hold the bit of a socket. -/
theorem fdIsset_toInt16_iff {d : UInt32} (hd : d ≤ 7) (set : UInt32) :
    (fdIsset d set).toUInt16.toInt16 = 0 ↔ fdIsset d set = 0 := by
  have hle : d.toNat ≤ 7 := UInt32.le_iff_toNat_le.mp hd
  have hmask : (fdMask d).toNat ≤ 128 := by
    have hpow : 2 ^ (d.toNat % 32) ≤ 2 ^ 7 :=
      Nat.pow_le_pow_right Nat.two_pos (Nat.le_trans (Nat.mod_le _ _) hle)
    rw [fdMask_eq hd, UInt32.toNat_shiftLeft, show (1 : UInt32).toNat = 1 from rfl,
      Nat.one_shiftLeft]
    exact Nat.le_trans (Nat.mod_le _ _) hpow
  have hsmall : (fdIsset d set).toNat ≤ 128 := by
    rw [fdIsset, UInt32.toNat_and]
    exact Nat.le_trans Nat.and_le_right hmask
  constructor
  · intro h
    have hzero : (fdIsset d set).toUInt16 = 0 := congrArg Int16.toUInt16 h
    apply UInt32.toNat_inj.mp
    have hnat := congrArg UInt16.toNat hzero
    rw [UInt32.toNat_toUInt16, Nat.mod_eq_of_lt (by omega)] at hnat
    exact hnat
  · intro h
    rw [h]
    rfl

/-- A set that has just been made holds the socket. -/
theorem fdIsset_fdSet {d : UInt32} (hd : d ≤ 7) : fdIsset d (fdSet d 0) ≠ 0 := by
  have hself : fdIsset d (fdSet d 0) = 1 <<< d := by
    rw [fdIsset, fdSet, UInt32.zero_or, UInt32.and_self, fdMask_eq hd]
  intro hzero
  have hone := (and_one_shiftLeft_eq_zero_iff (1 <<< d) hd).mp (by
    rw [UInt32.and_self, ← hself, hzero])
  have hlt : d.toNat < 32 := Nat.lt_of_le_of_lt (UInt32.le_iff_toNat_le.mp hd) (by decide)
  rw [one_shiftLeft_toBitVec hd] at hone
  simp [hlt] at hone

/-- A set that counts no bits holds no socket. -/
theorem fdIsset_of_bitCount {d set : UInt32} (hd : d ≤ 7) (h : bitCount set = 0) :
    fdIsset d set = 0 := by
  have hlt : d.toNat < 32 := Nat.lt_of_le_of_lt (UInt32.le_iff_toNat_le.mp hd) (by decide)
  have hclear := List.countP_eq_zero.mp h d.toNat (List.mem_range.mpr hlt)
  exact (fdIsset_eq_zero_iff hd set).mpr (Bool.eq_false_iff.mpr hclear)

theorem bitCount_le (set : UInt32) : bitCount set ≤ 32 := List.countP_le_length

/-! The two checks. -/

theorem webClientDataAvailable_spec {sl sl' : SLInfo} {d : UInt32} {tParams reply : Mem}
    {ret : Int16} (hd : d ≤ 7)
    (h : webClientDataAvailable sl d tParams reply = some (sl', ret)) :
    ret = 0 ↔ 0 ≤ (selectStatus reply).toInt32 ∧ fdIsset d (selectReadfd reply) = 0 := by
  obtain ⟨⟨sl₁, sets, retval⟩, hselect, h⟩ := Option.bind_eq_some_iff.mp h
  obtain ⟨-, rfl⟩ := Prod.mk.inj (Option.some.inj h)
  have hspec := selectWaits_spec hselect
  rw [fdIsset_toInt16_iff hd]
  split at hspec
  · next hok =>
    rw [hspec.1, and_iff_right hok]
    rfl
  · next hfailed =>
    rw [hspec.1]
    exact iff_of_false (fdIsset_fdSet hd) fun hand => hfailed hand.1

/-- A count of bits is the same in 16 bits. -/
theorem count_toInt16 {v : UInt32} (h : v.toNat ≤ 32) :
    ¬ v.toInt32.toInt16 < 0 ∧ (v.toInt32.toInt16 = 0 ↔ v.toNat = 0) := by
  have hcounts : ∀ n ≤ 32, ¬ (UInt32.ofNat n).toInt32.toInt16 < 0 ∧
      ((UInt32.ofNat n).toInt32.toInt16 = 0 ↔ n = 0) := by decide
  have hv := hcounts v.toNat h
  rwa [UInt32.ofNat_toNat] at hv

theorem webServerRequestAvailable_spec {sl sl' : SLInfo} {d : UInt32} {tParams reply : Mem}
    {ret : Int16} (hd : d ≤ 7) (hreply : SelectReply reply)
    (h : webServerRequestAvailable sl d tParams reply = some (sl', ret)) :
    ret = 0 ↔ 0 ≤ (selectStatus reply).toInt32 ∧ fdIsset d (selectReadfd reply) ≠ 0 := by
  obtain ⟨⟨sl₁, sets, retval⟩, hselect, h⟩ := Option.bind_eq_some_iff.mp h
  obtain ⟨-, rfl⟩ := Prod.mk.inj (Option.some.inj h)
  have hspec := selectWaits_spec hselect
  split at hspec
  · next hok =>
    obtain ⟨hread, rfl⟩ := hspec
    have hcount : (selectStatus reply).toNat = bitCount (selectReadfd reply) := by
      rcases hreply with hneg | hcount
      · exact absurd hneg (Int32.not_lt.mpr hok)
      · exact hcount.1
    obtain ⟨hnonneg, hzero⟩ := count_toInt16 (hcount ▸ bitCount_le (selectReadfd reply))
    rw [hread, and_iff_right hok, Option.getD_some, if_neg hnonneg]
    by_cases hnone : bitCount (selectReadfd reply) = 0
    · -- no socket at all can be read
      rw [if_pos (hzero.mpr (hcount.trans hnone)), fdIsset_of_bitCount hd hnone]
      decide
    · rw [if_neg fun h => hnone (hcount.symm.trans (hzero.mp h))]
      by_cases hset : fdIsset d (selectReadfd reply) = 0
      · simp [hset]
      · simp [hset]
  · next hfailed =>
    obtain ⟨-, rfl⟩ := hspec
    rw [if_pos (by decide)]
    exact iff_of_false (by decide) fun hand => hfailed hand.1

/-- **The two checks agree exactly behind a `select` that succeeds.** For every socket and
every reply of a device, whenever both return, one finds data where the other finds a
request if and only if the status is not negative. -/
theorem readinessAgrees_iff {sl₁ sl₂ sl₁' sl₂' : SLInfo} {d : UInt32} (hd : d ≤ 7)
    {tParams₁ tParams₂ reply : Mem} (hreply : SelectReply reply) {available request : Int16}
    (hclient : webClientDataAvailable sl₁ d tParams₁ reply = some (sl₁', available))
    (hserver : webServerRequestAvailable sl₂ d tParams₂ reply = some (sl₂', request)) :
    (available ≠ 0 ↔ request = 0) ↔ 0 ≤ (selectStatus reply).toInt32 := by
  have hc := webClientDataAvailable_spec hd hclient
  rw [webServerRequestAvailable_spec hd hreply hserver, ne_eq, hc]
  by_cases hok : 0 ≤ (selectStatus reply).toInt32
  · simp [hok]
  · simp [hok]

/-- The reply to a `select` that looks at the read set. -/
def selectReply (status readfd : UInt32) : Mem :=
  Mem.ofList (List.replicate hciEventHeaderSize 0 ++ uint32Bytes status ++ uint32Bytes readfd ++
    uint32Bytes 0 ++ uint32Bytes 0)

/-- What a check returns, where it does. -/
def checkResult (result : Option (SLInfo × Int16)) : Int16 := (result.map Prod.snd).getD 0

/-- Sockets 1 and 3 can be read, and both look at socket 3. -/
theorem readinessAgrees_ready :
    (checkResult (webClientDataAvailable (SLInfo.start true) 3 (Mem.ofList []) (selectReply 2 0xA)) ≠ 0
      ↔ checkResult (webServerRequestAvailable (SLInfo.start true) 3 (Mem.ofList [])
        (selectReply 2 0xA)) = 0) ↔
      0 ≤ (selectStatus (selectReply 2 0xA)).toInt32 :=
  @readinessAgrees_iff (SLInfo.start true) (SLInfo.start true) _ _ 3 (by decide) (Mem.ofList [])
    (Mem.ofList []) (selectReply 2 0xA) (.inr (by decide)) _ _ rfl rfl

/-- **A failed `select` is taken for data.** The status is -1, and the client finds data
on socket 0 where the server finds no request. -/
theorem not_readinessAgrees :
    ¬ ∀ (sl₁ sl₂ sl₁' sl₂' : SLInfo) (d : UInt32), d ≤ 7 →
      ∀ tParams₁ tParams₂ reply : Mem, SelectReply reply → ∀ available request : Int16,
        webClientDataAvailable sl₁ d tParams₁ reply = some (sl₁', available) →
        webServerRequestAvailable sl₂ d tParams₂ reply = some (sl₂', request) →
        (available ≠ 0 ↔ request = 0) := by
  intro h
  have hagrees := h (SLInfo.start true) (SLInfo.start true) _ _ 0 (by decide) (Mem.ofList [])
    (Mem.ofList []) (selectReply 0xFFFFFFFF 0) (.inl (by decide)) 1 (-1) rfl rfl
  exact absurd (hagrees.mp (by decide)) (by decide)

end SpiderL3S
