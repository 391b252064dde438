import SpiderL3S.Calls

/- Receiving a stream. The device holds the bytes that have come for a socket and
   serves every receive with a chunk from their front, or refuses it with a negative
   count; `ServesStream` says so for a row of calls, with any calm events before the reply,
   between the reply and the data, and in any buffer. A chunk is at most 175 bytes long, so
   that its frame fits in the receive buffer. The caller sees counts and buffers. The main
   result says that they are the stream (`recvRun_stream`). -/
namespace SpiderL3S

/-- A receive: its buffer, what is not initialised of it, and the packets that arrive. -/
structure RecvCall where
  buf : Mem
  sender : Option FromArgs
  tSocketReadEvent : Mem
  before : List Mem
  reply : Mem
  between : List Mem
  packet : Mem

/-- Quiet events that fit in the receive buffer. A request for a patch is none, for the wait
answers it with a frame of its own. -/
def Calm (frames : List Mem) : Prop :=
  Quiet frames ∧ ∀ f ∈ frames, RxFits f ∧ eventCode f ≠ hciEvntPatchesReq

/-- A data frame that carries these bytes behind the arguments of a receive. -/
structure DataFor (packet : Mem) (chunk : List UInt8) : Prop where
  type : packet hciPacketTypeOffset = hciTypeData
  args : (streamToUint8 packet hciPacketArgsizeOffset).toNat ≤ 24
  length : (streamToUint16 packet hciDataLengthOffset).toNat =
    (streamToUint8 packet hciPacketArgsizeOffset).toNat + chunk.length
  bytes : dataBytes packet = chunk

theorem DataFor.notEvent {packet : Mem} {chunk : List UInt8} (h : DataFor packet chunk) :
    ¬ IsEvent packet := by
  rw [IsEvent, h.type]
  decide

/-- Up to 175 bytes fit in the receive buffer. -/
theorem DataFor.fits {packet : Mem} {chunk : List UInt8} (h : DataFor packet chunk)
    (hsmall : chunk.length ≤ 175) : RxFits packet := by
  have hargs := h.args
  refine ⟨fun hevent => absurd hevent h.notEvent, fun _ => ?_⟩
  rw [h.length]
  omega

theorem Calm.fits {frames : List Mem} (h : Calm frames) {last : Mem} (hlast : RxFits last) :
    ∀ f ∈ frames ++ [last], RxFits f := by
  intro f hf
  rcases List.mem_append.mp hf with hf | hf
  · exact (h.2 f hf).1
  · exact List.mem_singleton.mp hf ▸ hlast

namespace RecvCall

/-- The interrupts in the two waits come back, in the second where there is one. -/
def heard (op : UInt16) (sl : SLInfo) (c : RecvCall) : Bool :=
  let (sl', args, _) := simpleLinkWaitEvent sl op c.tSocketReadEvent (c.before ++ [c.reply])
  comeBack { sl with usRxEventOpcode := op } ⟨⟨0, c.tSocketReadEvent, []⟩, none⟩
      (c.before ++ [c.reply]) &&
    (decide ((streamToUint32 args.ret.mem 4).toInt32 ≤ 0) ||
      comeBack { sl' with usRxDataPending := 1 } ⟨⟨0, c.buf, []⟩, c.sender⟩
        (c.between ++ [c.packet]))

/-- `simple_link_recv` behind its command. `none` is where it does not return. -/
def run (op : UInt16) (sl : SLInfo) (c : RecvCall) : Option (SLInfo × WaitArgs × Int16) :=
  if c.heard op sl then
    simpleLinkRecvWaits sl c.buf c.sender op c.tSocketReadEvent (c.before ++ [c.reply])
      (c.between ++ [c.packet])
  else none

/-- The reply answers the call, and nothing before it or behind it does. -/
structure Answered (op : UInt16) (c : RecvCall) : Prop where
  before : Calm c.before
  others : ∀ f ∈ c.before, eventCode f ≠ op
  reply : IsEvent c.reply
  code : eventCode c.reply = op
  fits : RxFits c.reply
  between : Calm c.between

/-- The device serves the call with these bytes. A frame follows if there are any. -/
structure Carries (op : UInt16) (c : RecvCall) (chunk : List UInt8) : Prop extends
    Answered op c where
  count : (recvNumberOfBytes c.reply).toNat = chunk.length
  small : chunk.length ≤ 175
  data : chunk ≠ [] → DataFor c.packet chunk

/-- The device refuses the call. An `int` keeps the sign of what it says. -/
structure Refused (op : UInt16) (c : RecvCall) : Prop extends Answered op c where
  negative : (recvNumberOfBytes c.reply).toInt32 < 0
  kept : (recvNumberOfBytes c.reply).toInt32.toInt16 < 0

end RecvCall

/-- The calls are served one after the other from `stream`, and `rest` is left. -/
inductive ServesStream (op : UInt16) : List UInt8 → List RecvCall → List UInt8 → Prop
  | done (stream : List UInt8) : ServesStream op stream [] stream
  | chunk {c : RecvCall} {calls : List RecvCall} {chunk stream rest : List UInt8}
      (carries : c.Carries op chunk) (serves : ServesStream op stream calls rest) :
      ServesStream op (chunk ++ stream) (c :: calls) rest
  | refused {c : RecvCall} {calls : List RecvCall} {stream rest : List UInt8}
      (refused : c.Refused op) (serves : ServesStream op stream calls rest) :
      ServesStream op stream (c :: calls) rest

/-- What a receive gives its caller: what it returns, and the buffer. -/
structure RecvResult where
  ret : Int16
  buf : Mem

/-- The bytes the caller takes from the buffer. -/
def RecvResult.bytes (r : RecvResult) : List UInt8 := r.buf.slice 0 r.ret.toInt.toNat

/-- The buffer behind them is as it was. -/
def RecvCall.Keeps (c : RecvCall) (r : RecvResult) : Prop :=
  ∀ i, r.ret.toInt.toNat ≤ i → r.buf i = c.buf i

/-- A row of receives. `none` is where one does not return. -/
def recvRun (op : UInt16) (sl : SLInfo) : List RecvCall → Option (SLInfo × List RecvResult)
  | [] => some (sl, [])
  | c :: calls => do
    let (sl, args, ret) ← c.run op sl
    let (sl, received) ← recvRun op sl calls
    return (sl, ⟨ret, args.ret.mem⟩ :: received)

/-! One call. -/

section
variable {op : UInt16} {sl : SLInfo} {c : RecvCall}

/-- The wait for the reply: it ends, and the count of the reply is decoded. -/
theorem RecvCall.Answered.wait (hop : op ∈ [hciEvntRecv, hciEvntRecvfrom])
    (h : c.Answered op) (hlisten : sl.Listening) :
    ∃ sl' args, simpleLinkWaitEvent sl op c.tSocketReadEvent (c.before ++ [c.reply]) =
        (sl', args, true) ∧
      streamToUint32 args.ret.mem 4 = recvNumberOfBytes c.reply ∧ sl'.Listening := by
  have hobject : (op, 12) ∈ resultObjects := by
    rcases List.mem_pair.mp hop with rfl | rfl <;> decide
  have hsend : sendClass op = false := by
    rcases List.mem_pair.mp hop with rfl | rfl <;> decide
  have hend : EndsWait sl c.reply := by
    refine ⟨hlisten.idle.2, ?_⟩
    rw [h.code, hsend]
    exact fun hlost => absurd hlost.1 Bool.false_ne_true
  have hfields : replyBytes c.reply = (c.reply.drop hciEventHeaderSize).slice 0 12 := by
    unfold replyBytes
    rw [h.code]
    rcases List.mem_pair.mp hop with rfl | rfl <;> rfl
  obtain ⟨sl', args, hwait, hmem, -, hidle'⟩ :=
    simpleLinkWaitEvent_quiet hobject c.tSocketReadEvent h.before.1 h.others h.reply h.code hend
  have hcb := simpleLinkWaitEvent_sWlanCB sl op c.tSocketReadEvent (c.before ++ [c.reply])
  rw [hwait] at hcb
  refine ⟨sl', args, hwait, ?_, ⟨hidle', hcb.trans hlisten.callback⟩⟩
  rw [hmem]
  exact streamToUint32_fields _ hfields (by decide)

/-- The driver hears every packet of the call. -/
theorem RecvCall.Answered.heard (hop : op ∈ [hciEvntRecv, hciEvntRecvfrom]) (h : c.Answered op)
    (hlisten : sl.Listening) (hdata : 0 < (recvNumberOfBytes c.reply).toInt32 → RxFits c.packet) :
    c.heard op sl = true := by
  obtain ⟨sl₁, args, hwait, hcount, hlisten₁⟩ := h.wait hop hlisten
  have hfirst := @comeBack_of_installed _ (h.before.fits h.fits)
    { sl with usRxEventOpcode := op } ⟨⟨0, c.tSocketReadEvent, []⟩, none⟩ hlisten.callback
  rw [RecvCall.heard, hwait]
  dsimp only
  rw [hfirst, hcount, Bool.true_and]
  by_cases hlt : 0 < (recvNumberOfBytes c.reply).toInt32
  · have hsecond := @comeBack_of_installed _ (h.between.fits (hdata hlt))
      { sl₁ with usRxDataPending := 1 } ⟨⟨0, c.buf, []⟩, c.sender⟩ hlisten₁.callback
    rw [hsecond, Bool.or_true]
  · rw [decide_eq_true (Int32.not_lt.mp hlt), Bool.true_or]

/-- A call that is served returns the length of its chunk and has it in its buffer. -/
theorem RecvCall.Carries.run {chunk : List UInt8} (hop : op ∈ [hciEvntRecv, hciEvntRecvfrom])
    (h : c.Carries op chunk) (hlisten : sl.Listening) :
    ∃ sl' args ret, c.run op sl = some (sl', args, ret) ∧ sl'.Listening ∧
      RecvResult.bytes ⟨ret, args.ret.mem⟩ = chunk ∧ c.Keeps ⟨ret, args.ret.mem⟩ := by
  obtain ⟨sl₁, args₁, hwait, hcount, hlisten₁⟩ := h.toAnswered.wait hop hlisten
  have hsmall := h.small
  have hn := h.count
  have hhears := h.toAnswered.heard hop hlisten
  generalize recvNumberOfBytes c.reply = n at hcount hn hhears
  have hint : n.toInt32.toInt = chunk.length := by
    have h32 := int32_toInt n.toInt32
    have hback : n.toInt32.toUInt32 = n := rfl
    rw [hback, if_pos (by omega), hn] at h32
    exact h32
  have hret : n.toInt32.toInt16.toInt = chunk.length := by
    rw [Int32.toInt_toInt16, hint]
    exact Int.bmod_eq_of_le (by omega) (by omega)
  have hpos : 0 < n.toInt32 ↔ chunk ≠ [] := by
    rw [Int32.lt_iff_toInt_lt, hint, ← List.length_pos_iff]
    simp
  have hheard := hhears fun hlt => (h.data (hpos.mp hlt)).fits hsmall
  have hrun : ∀ {sl₂ args₂}, 0 < n.toInt32 →
      simpleLinkWaitData sl₁ c.buf c.sender (c.between ++ [c.packet]) = (sl₂, args₂, true) →
      c.run op sl = some (sl₂, args₂, n.toInt32.toInt16) := by
    intro sl₂ args₂ hlt hdone
    rw [RecvCall.run, if_pos hheard, simpleLinkRecvWaits, hwait]
    dsimp only
    rw [hcount, if_pos hlt, hdone]
  have hnone : ¬ 0 < n.toInt32 →
      c.run op sl = some (sl₁, ⟨⟨0, c.buf, []⟩, c.sender⟩, n.toInt32.toInt16) := by
    intro hlt
    rw [RecvCall.run, if_pos hheard, simpleLinkRecvWaits, hwait]
    dsimp only
    rw [hcount, if_neg hlt]
  by_cases hchunk : chunk = []
  · refine ⟨_, _, _, hnone fun hlt => hpos.mp hlt hchunk, hlisten₁, ?_, fun i _ => rfl⟩
    rw [RecvResult.bytes, hret, hchunk]
    rfl
  · have hdata := h.data hchunk
    have hbytes := hdata.bytes
    obtain ⟨sl₂, args₂, hdone, hmem, hidle₂⟩ :=
      simpleLinkWaitData_quiet hlisten₁.idle.1 c.buf c.sender h.between.1 hdata.notEvent
    have hcb := simpleLinkWaitData_sWlanCB sl₁ c.buf c.sender (c.between ++ [c.packet])
    rw [hdone] at hcb
    refine ⟨_, _, _, hrun (hpos.mpr hchunk) hdone, ⟨hidle₂, hcb.trans hlisten₁.callback⟩, ?_, ?_⟩
    · rw [RecvResult.bytes, hret, Int.toNat_natCast, hmem, hbytes]
      exact Mem.slice_store _ _ _
    · intro i hi
      show args₂.ret.mem i = c.buf i
      have hge : chunk.length ≤ i := by
        rw [hret, Int.toNat_natCast] at hi
        exact hi
      rw [hmem, hbytes, Mem.store_out _ (by omega)]

/-- A call that is refused returns something negative and leaves its buffer alone. -/
theorem RecvCall.Refused.run (hop : op ∈ [hciEvntRecv, hciEvntRecvfrom]) (h : c.Refused op)
    (hlisten : sl.Listening) :
    ∃ sl' args ret, c.run op sl = some (sl', args, ret) ∧ sl'.Listening ∧ ret < 0 ∧
      args.ret.mem = c.buf := by
  obtain ⟨sl₁, args₁, hwait, hcount, hlisten₁⟩ := h.toAnswered.wait hop hlisten
  have hnot : ¬ 0 < (recvNumberOfBytes c.reply).toInt32 := fun hlt =>
    absurd (Int32.lt_trans h.negative hlt) Int32.lt_irrefl
  have hheard := h.toAnswered.heard hop hlisten fun hlt => absurd hlt hnot
  refine ⟨sl₁, ⟨⟨0, c.buf, []⟩, c.sender⟩, _, ?_, hlisten₁, h.kept, rfl⟩
  rw [RecvCall.run, if_pos hheard, simpleLinkRecvWaits, hwait]
  dsimp only
  rw [hcount, if_neg hnot]

end

/-! A row of calls. -/

/-- A negative count takes nothing. -/
theorem RecvResult.bytes_of_neg {r : RecvResult} (h : r.ret < 0) : r.bytes = [] := by
  have hneg : r.ret.toInt < 0 := Int16.lt_iff_toInt_lt.mp h
  rw [RecvResult.bytes, Int.toNat_of_nonpos (Int.le_of_lt hneg)]
  rfl

/-- **The caller gets the stream.** However the device cuts the stream into chunks of up to
175 bytes, whichever calls it refuses, and whatever calm events come in between, every call
returns; the bytes the caller takes are the stream up to what the device has left, with
nothing lost, doubled or out of order; and no buffer changes behind what its call
returns. -/
theorem recvRun_stream {op : UInt16} (hop : op ∈ [hciEvntRecv, hciEvntRecvfrom])
    {stream rest : List UInt8} {calls : List RecvCall} (h : ServesStream op stream calls rest)
    {sl : SLInfo} (hlisten : sl.Listening) :
    ∃ sl' received, recvRun op sl calls = some (sl', received) ∧ sl'.Listening ∧
      received.flatMap RecvResult.bytes ++ rest = stream ∧
      List.Forall₂ RecvCall.Keeps calls received := by
  induction h generalizing sl with
  | done stream => exact ⟨sl, [], rfl, hlisten, rfl, .nil⟩
  | @chunk c calls chunk stream rest carries serves ih =>
    obtain ⟨sl₁, args, ret, hrun, hlisten₁, hbytes, hkeeps⟩ := carries.run hop hlisten
    obtain ⟨sl₂, received, hrest, hlisten₂, hstream, hbehind⟩ := ih hlisten₁
    refine ⟨sl₂, ⟨ret, args.ret.mem⟩ :: received, ?_, hlisten₂, ?_, .cons hkeeps hbehind⟩
    · simp only [recvRun, hrun, hrest, Option.bind_eq_bind, Option.bind_some, Option.pure_def]
    · rw [List.flatMap_cons, hbytes, List.append_assoc, hstream]
  | @refused c calls stream rest refused serves ih =>
    obtain ⟨sl₁, args, ret, hrun, hlisten₁, hneg, hbuf⟩ := refused.run hop hlisten
    obtain ⟨sl₂, received, hrest, hlisten₂, hstream, hbehind⟩ := ih hlisten₁
    refine ⟨sl₂, ⟨ret, args.ret.mem⟩ :: received, ?_, hlisten₂, ?_, .cons ?_ hbehind⟩
    · simp only [recvRun, hrun, hrest, Option.bind_eq_bind, Option.bind_some, Option.pure_def]
    · rw [List.flatMap_cons, RecvResult.bytes_of_neg (r := ⟨ret, args.ret.mem⟩) hneg,
        List.nil_append, hstream]
    · exact fun i _ => congrFun hbuf i

/-! Receives among other calls. -/

/-- A receive, or any other call that waits for an event, with its result object. -/
inductive SessionCall
  | recv (c : RecvCall)
  | command (op : UInt16) (size : Nat) (mem : Mem) (frames : List Mem) (reply : Mem)

/-- What a call leaves for its caller. -/
inductive SessionResult
  | received (r : RecvResult)
  | object (mem : Mem)

namespace SessionCall

/-- The reply answers the command, and is no failure, which the handler takes away. -/
def Answered : SessionCall → Prop
  | recv _ => True
  | command op size _ frames reply =>
    (op, size) ∈ resultObjects ∧ Calm frames ∧ (∀ f ∈ frames, eventCode f ≠ op) ∧
      IsEvent reply ∧ eventCode reply = op ∧ RxFits reply ∧
      ¬ (sendClass (eventCode reply) = true ∧ sendStatus reply = errorSocketInactive)

/-- A call. `none` is where it does not return. -/
def run (op : UInt16) (sl : SLInfo) : SessionCall → Option (SLInfo × SessionResult)
  | recv c => (c.run op sl).map fun r => (r.1, .received ⟨r.2.2, r.2.1.ret.mem⟩)
  | command usOpcode _ mem frames reply =>
    if comeBack { sl with usRxEventOpcode := usOpcode } ⟨⟨0, mem, []⟩, none⟩
        (frames ++ [reply]) then
      match simpleLinkWaitEvent sl usOpcode mem (frames ++ [reply]) with
      | (sl, args, true) => some (sl, .object args.ret.mem)
      | (_, _, false) => none
    else none

end SessionCall

/-- The bytes a result gives. -/
def SessionResult.bytes : SessionResult → List UInt8
  | received r => r.bytes
  | object _ => []

/-- A data frame with these bytes, and no arguments in front. -/
def plainFrame (bytes : List UInt8) : Mem :=
  Mem.ofList ([hciTypeData, 0, 0] ++ uint16Bytes (UInt16.ofNat bytes.length) ++ bytes)

/-- A receive on socket 0 that gets these bytes, into an empty buffer. -/
def plainRecv (bytes : List UInt8) : RecvCall :=
  { buf := Mem.ofList []
    sender := none
    tSocketReadEvent := Mem.ofList []
    before := []
    reply := replyEvent hciEvntRecv (recvReply 0 (UInt32.ofNat bytes.length) 0)
    between := []
    packet := plainFrame bytes }

theorem Calm.nil : Calm [] :=
  ⟨fun _ hf => absurd hf List.not_mem_nil, fun _ hf => absurd hf List.not_mem_nil⟩

end SpiderL3S
