import SpiderL3S.Recv
import SpiderL3S.Spi.Receive

/- What a call makes of the packets that arrive in it. A driver is idle between two
   calls. A call for an event, with any events before its reply, ends idle again and
   holds the fields of the reply (`simpleLinkWaitEvent_quiet`); a wait for data, with
   any events before the frame, ends idle and holds its bytes
   (`simpleLinkWaitData_quiet`). The one kind of event that both exclude is a stray
   reply to a send, which stores through the pointer of the wait. Whether the driver
   hears them all is another question (`comeBack`). -/
namespace SpiderL3S

/-- Nothing is waited for. -/
def SLInfo.Idle (sl : SLInfo) : Prop := sl.usRxEventOpcode = 0 ∧ sl.usRxDataPending = 0

instance (sl : SLInfo) : Decidable sl.Idle := inferInstanceAs (Decidable (_ ∧ _))

/-- Events that store nothing in a wait for another one. -/
def Quiet (frames : List Mem) : Prop := ∀ f ∈ frames, IsEvent f ∧ strayReply f = false

theorem waitOver_iff (sl : SLInfo) : waitOver sl = true ↔ sl.Idle := by
  simp [waitOver, SLInfo.Idle]

/-- The loop returns on a packet only if nothing is waited for behind it. -/
theorem deliver_idle {sl sl' : SLInfo} {args args' : WaitArgs} {data : Mem}
    (h : deliver sl args data = (sl', args', true)) : sl'.Idle := by
  rw [deliver] at h
  generalize spiReceiveHandler sl data = r at h
  obtain ⟨sl₁, taken⟩ := r
  cases taken with
  | true => cases (Prod.mk.inj (Prod.mk.inj h).2).2
  | false =>
    dsimp only at h
    generalize hciPacketReceived sl₁ args data = p at h
    obtain ⟨rfl, -⟩ := Prod.mk.inj h
    have hover := (Prod.mk.inj (Prod.mk.inj h).2).2
    exact (waitOver_iff _).mp hover

/-- A wait that has returned leaves the driver idle. -/
theorem hciEventHandler_idle {sl sl' : SLInfo} {args args' : WaitArgs} {packets : List Mem}
    (h : hciEventHandler sl args packets = (sl', args', true)) : sl'.Idle := by
  induction packets generalizing sl args with
  | nil => cases h
  | cons data packets ih =>
    rw [hciEventHandler] at h
    cases hd : deliver sl args data with
    | mk sl₁ rest =>
      obtain ⟨args₁, ended⟩ := rest
      rw [hd] at h
      cases ended with
      | false => exact ih h
      | true =>
        obtain ⟨rfl, -⟩ := Prod.mk.inj h
        exact deliver_idle hd

/-! The interrupts. -/

/-- Nothing is waited for, and the application has a callback. -/
structure SLInfo.Listening (sl : SLInfo) : Prop where
  idle : sl.Idle
  callback : sl.sWlanCB = true

/-- The interrupt with a packet comes back: the receive buffer holds the packet, and no null
pointer is called for it. -/
def ComesBack (sl : SLInfo) (data : Mem) : Prop :=
  RxFits data ∧ ¬ (IsEvent data ∧ CallsNull sl data)

instance (sl : SLInfo) (data : Mem) : Decidable (ComesBack sl data) :=
  inferInstanceAs (Decidable (_ ∧ _))

/-- So does every interrupt in a wait. -/
def comeBack (sl : SLInfo) (args : WaitArgs) : List Mem → Bool
  | [] => true
  | data :: packets =>
    decide (ComesBack sl data) &&
      match deliver sl args data with
      | (_, _, true) => true
      | (sl, args, false) => comeBack sl args packets

/-- With a callback, packets that fit are all it takes. -/
theorem comesBack_of_installed {sl : SLInfo} (hcb : sl.sWlanCB = true) {data : Mem}
    (hfits : RxFits data) : ComesBack sl data :=
  ⟨hfits, fun h => not_callsNull_of_installed hcb data h.2⟩

theorem comeBack_of_installed {packets : List Mem} (hfits : ∀ data ∈ packets, RxFits data) :
    ∀ {sl : SLInfo} (args : WaitArgs), sl.sWlanCB = true → comeBack sl args packets = true := by
  induction packets with
  | nil => exact fun _ _ => rfl
  | cons data packets ih =>
    intro sl args hcb
    have hkept := deliver_sWlanCB sl args data
    rw [comeBack, decide_eq_true (comesBack_of_installed hcb (hfits data List.mem_cons_self)),
      Bool.true_and]
    cases hdeliver : deliver sl args data with
    | mk sl₁ rest =>
      obtain ⟨args₁, ended⟩ := rest
      rw [hdeliver] at hkept
      cases ended with
      | true => rfl
      | false =>
        exact ih (fun d hd => hfits d (List.mem_cons_of_mem data hd)) args₁ (hkept.trans hcb)

/-- **A call for an event.** Whatever quiet events come before the reply, the wait
returns with the fields of the reply in its object, has stored nothing outside it,
and leaves the driver idle. -/
theorem simpleLinkWaitEvent_quiet {op : UInt16} {size : Nat} (hop : (op, size) ∈ resultObjects)
    {sl : SLInfo} (mem : Mem) {frames : List Mem} {reply : Mem} (hquiet : Quiet frames)
    (hframes : ∀ f ∈ frames, eventCode f ≠ op) (hreply : IsEvent reply)
    (hcode : eventCode reply = op) (hend : EndsWait sl reply) :
    ∃ sl' args, simpleLinkWaitEvent sl op mem (frames ++ [reply]) = (sl', args, true) ∧
      args.ret.mem = mem.store 0 (replyBytes reply) ∧ (∀ i ∈ args.ret.written, i < size) ∧
      sl'.Idle := by
  have hevents : ∀ f ∈ frames, IsEvent f ∧ eventCode f ≠ op := fun f hf =>
    ⟨(hquiet f hf).1, hframes f hf⟩
  obtain ⟨hfits, -⟩ := resultObjects_spec _ hop
  dsimp only at hfits
  obtain ⟨sl', args, returned, r, hwait, hreturned, hstrayed, hstored⟩ :=
    simpleLinkWaitEvent_reply hop sl mem hevents hreply hcode
  obtain rfl : returned = true := hreturned.mpr hend
  have hzero : frames.countP strayReply = 0 := by
    rw [List.countP_eq_zero]
    intro f hf
    rw [(hquiet f hf).2]
    exact Bool.false_ne_true
  have hall := (hstrayed.quiet hzero).trans_nil (hstored rfl)
  refine ⟨sl', args, hwait, hall.mem, ?_, hciEventHandler_idle hwait⟩
  intro i hi
  rcases (hall.written i).mp hi with hold | ⟨-, hhi⟩
  · cases hold
  · rw [replyBytes_length, hcode, Nat.zero_add] at hhi
    exact Nat.lt_of_lt_of_le hhi hfits

/-- A word of the fields, as it lies in the result object. -/
theorem streamToUint32_fields (mem : Mem) {reply : Mem} {n o : Nat}
    (hbytes : replyBytes reply = (reply.drop hciEventHeaderSize).slice 0 n) (ho : o + 4 ≤ n) :
    streamToUint32 (mem.store 0 (replyBytes reply)) o =
      streamToUint32 reply (hciEventHeaderSize + o) := by
  apply streamToUint32_congr
  intro i hi
  rw [hbytes, Mem.store_in _ (Nat.zero_le _) (by rw [Mem.slice_length]; omega), Nat.sub_zero,
    Mem.slice_getD _ (by omega), Nat.zero_add, Mem.drop, Nat.add_assoc]

/-! A wait for data. -/

/-- An event stores nothing while data is waited for and no event. -/
theorem deliver_pending {sl : SLInfo} (hop : sl.usRxEventOpcode = 0)
    (hpending : sl.usRxDataPending ≠ 0) (args : WaitArgs) {data : Mem} (h : IsEvent data)
    (hs : strayReply data = false) :
    ∃ sl' args', deliver sl args data = (sl', args', false) ∧ SameWait sl sl' ∧
      Stored args.ret args'.ret [] 0 ∧ args'.sender = args.sender := by
  rw [deliver_event sl args h]
  have hun := hciUnsolEventHandler_sameWait { sl with usEventOrDataReceived := 1 } data
  cases hhandled : (hciUnsolEventHandler { sl with usEventOrDataReceived := 1 } data).2 with
  | true => exact ⟨_, args, rfl, ⟨hun.1, hun.2⟩, Stored.nil args.ret, rfl⟩
  | false =>
    have hnothing : replyBytes data = [] ∧ replyAdvance (eventCode data) = 0 := by
      by_cases hzero : eventCode data = 0
      · -- the code no event is waited for with
        have hsize : replySize 0 = 0 ∧ replyAdvance 0 = 0 := by decide
        refine ⟨List.eq_nil_of_length_eq_zero ?_, hzero ▸ hsize.2⟩
        rw [replyBytes_length, hzero, hsize.1]
      · exact refused_stores_nothing hhandled (fun heq => hzero (heq.trans hop))
          (by rw [hs]; exact Bool.false_ne_true)
    have hsame := hciEventSwitch_sameWait { sl with usEventOrDataReceived := 1 } args.ret data
    have hstored := hciEventSwitch_stored { sl with usEventOrDataReceived := 1 } args.ret data
    rw [hnothing.1, hnothing.2] at hstored
    simp only [Bool.false_eq_true, if_false, decode]
    generalize hciEventSwitch { sl with usEventOrDataReceived := 1 } args.ret data = r
      at hsame hstored
    obtain ⟨sl₁, ret⟩ := r
    obtain ⟨hcode₁, hpending₁⟩ := hsame
    change sl₁.usRxEventOpcode = sl.usRxEventOpcode at hcode₁
    change sl₁.usRxDataPending = sl.usRxDataPending at hpending₁
    have hopen : ∀ sl₂ : SLInfo, sl₂.usRxDataPending = sl₁.usRxDataPending →
        waitOver sl₂ = false := by
      intro sl₂ h₂
      rw [waitOver, h₂, hpending₁, decide_eq_false hpending, Bool.and_false]
    by_cases hmatch : eventCode data = sl₁.usRxEventOpcode
    · have hover := hopen { sl₁ with usRxEventOpcode := 0, usEventOrDataReceived := 0 } rfl
      simp only [if_pos hmatch, hover]
      exact ⟨_, _, rfl, ⟨hop.symm, hpending₁⟩, hstored, rfl⟩
    · have hover := hopen { sl₁ with usEventOrDataReceived := 0 } rfl
      simp only [if_neg hmatch, hover]
      exact ⟨_, _, rfl, ⟨hcode₁, hpending₁⟩, hstored, rfl⟩

/-- Nor do several. -/
theorem hciEventHandler_pending (packets : List Mem) {frames : List Mem} (hquiet : Quiet frames) :
    ∀ {sl : SLInfo} (args : WaitArgs), sl.usRxEventOpcode = 0 → sl.usRxDataPending ≠ 0 →
      ∃ sl' args', hciEventHandler sl args (frames ++ packets) = hciEventHandler sl' args' packets ∧
        SameWait sl sl' ∧ Stored args.ret args'.ret [] 0 ∧ args'.sender = args.sender := by
  induction frames with
  | nil =>
    intro sl args _ _
    exact ⟨sl, args, rfl, ⟨rfl, rfl⟩, Stored.nil args.ret, rfl⟩
  | cons f frames ih =>
    intro sl args hop hpending
    obtain ⟨hevent, hs⟩ := hquiet f List.mem_cons_self
    obtain ⟨sl₁, args₁, hdeliver, hsame₁, hstored₁, hsender₁⟩ :=
      deliver_pending hop hpending args hevent hs
    obtain ⟨sl₂, args₂, hrun, hsame₂, hstored₂, hsender₂⟩ :=
      ih (fun g hg => hquiet g (List.mem_cons_of_mem f hg)) args₁ (hsame₁.1.trans hop)
        (by rw [hsame₁.2]; exact hpending)
    refine ⟨sl₂, args₂, ?_, ⟨hsame₂.1.trans hsame₁.1, hsame₂.2.trans hsame₁.2⟩,
      hstored₁.trans_nil hstored₂, hsender₂.trans hsender₁⟩
    rw [List.cons_append, hciEventHandler_cons hdeliver, hrun]

/-- **A wait for data.** Whatever quiet events come before the frame, the wait returns
with the bytes it carries at the start of the buffer, and leaves the driver idle. -/
theorem simpleLinkWaitData_quiet {sl : SLInfo} (hop : sl.usRxEventOpcode = 0) (buf : Mem)
    (sender : Option FromArgs) {frames : List Mem} {packet : Mem} (hquiet : Quiet frames)
    (hdata : ¬ IsEvent packet) :
    ∃ sl' args, simpleLinkWaitData sl buf sender (frames ++ [packet]) = (sl', args, true) ∧
      args.ret.mem = buf.store 0 (dataBytes packet) ∧ sl'.Idle := by
  obtain ⟨sl₁, args₁, hrun, hsame, hstored, -⟩ :=
    @hciEventHandler_pending [packet] _ hquiet { sl with usRxDataPending := 1 }
      ⟨⟨0, buf, []⟩, sender⟩ hop (by decide : (1 : UInt16) ≠ 0)
  obtain ⟨hret, hover⟩ := deliver_data sl₁ args₁ hdata
  have hopcode : sl₁.usRxEventOpcode = 0 := hsame.1.trans hop
  rw [hopcode, decide_eq_true rfl] at hover
  cases hlast : deliver sl₁ args₁ packet with
  | mk sl₂ rest =>
    obtain ⟨args₂, ended⟩ := rest
    rw [hlast] at hret hover
    obtain rfl : ended = true := hover
    have hwait : simpleLinkWaitData sl buf sender (frames ++ [packet]) = (sl₂, args₂, true) := by
      rw [simpleLinkWaitData, hrun, hciEventHandler, hlast]
    refine ⟨sl₂, args₂, hwait, ?_, hciEventHandler_idle hwait⟩
    have hptr : args₁.ret.ptr = 0 := hstored.ptr
    have hmem : args₁.ret.mem = buf := hstored.mem.trans (Mem.store_nil buf 0)
    show args₂.ret.mem = _
    rw [hret, Stream.poke_mem, hptr, hmem]

end SpiderL3S
