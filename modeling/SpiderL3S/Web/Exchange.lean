import SpiderL3S.App.Leaks
import SpiderL3S.Deferred
import SpiderL3S.RecvStream
import SpiderL3S.Send
import SpiderL3S.Tx.Layouts
import SpiderL3S.Web.RoundTrip

/- A request from one sketch to another. `WebClient_SendRequest` sends its five pieces
   with `send`, each on a transmit buffer that holds what it happens to hold, and the
   frames say what the device is to send: a prefix of the pieces, and all of them
   exactly if the result is 0 (`sendPieces_wires`). What one device has been told to
   send, the other serves to its `recv` calls, and the request parser reads what they
   give it (`exchange`). -/
namespace SpiderL3S

abbrev webCliServerSendFail : Int16 := -7

/-! Sending. -/

/-- What a call of `send` finds: the transmit buffer, its result object, and the packets
that arrive while it waits. -/
structure SendCall where
  tx : Mem
  tSocketSendEvent : Mem
  events : List Mem

/-- `send(sd, text, len, 0)`. -/
def sendText (sd : Int32) (text : List UInt8) : SendArgs :=
  { sd
    buf := Mem.ofList text
    len := Int32.ofInt text.length
    flags := 0
    dest := Mem.ofList []
    tolen := 0
    opcode := .send }

/-- What a call clocks out. -/
def SendArgs.wires (a : SendArgs) (sl : SLInfo) (tx : Mem) : List (List UInt8) :=
  match hostFlowControlConsumeBuff sl a.sd.toInt16 with
  | none => []
  | some (_, res) =>
    if res ≠ 0 then []
    else
      match a.build tx with
      | .frame f => if f.Overrun then [] else [f.wire]
      | _ => []

/-- What a request leaves: the globals, its result, and what has been clocked out. -/
structure Sent where
  sl : SLInfo
  ret : Int16
  wires : List (List UInt8)

/-- The pieces, one `send` each, up to the first that fails. -/
def sendPieces (sd : Int32) (sl : SLInfo) : List (List UInt8) → List SendCall → Option Sent
  | [], _ => some ⟨sl, 0, []⟩
  | _ :: _, [] => none
  | piece :: pieces, c :: calls =>
    let a := sendText sd piece
    match a.run sl c.tx c.tSocketSendEvent c.events with
    | none => none
    | some (sl', connect_stat) =>
      if connect_stat < 0 then some ⟨sl', webCliServerSendFail, a.wires sl c.tx⟩
      else
        (sendPieces sd sl' pieces calls).map fun s => { s with wires := a.wires sl c.tx ++ s.wires }

/-- `WebClient_SendRequest`. -/
def webClientSendRequestRun (sd : Int32) (sl : SLInfo) (url_link : List UInt8)
    (calls : List SendCall) : Option Sent :=
  match splitURL url_link with
  | none => some ⟨sl, webCliHostStrFail, []⟩
  | some (sp1, sp2) => sendPieces sd sl (requestPieces sp1 sp2) calls

/-! One piece. -/

/-- What a frame for this text says. -/
def sendMeant (sd : Int32) (text : List UInt8) : Decoded :=
  ⟨hciCmndSend, [sd.toUInt32, (Int32.ofInt text.length).toUInt32, 0], [text]⟩

theorem textLength_toInt {n : Nat} (h : n ≤ 184) : (Int32.ofInt n).toInt = n := by
  rw [Int32.toInt_ofInt]
  have hsize : (Int32.size : Int) = 4294967296 := rfl
  exact Int.bmod_eq_of_le (by omega) (by omega)

theorem textLength_toInt16 {n : Nat} (h : n ≤ 184) : ¬ (Int32.ofInt n).toInt16 < 0 := by
  rw [Int16.not_lt, Int16.le_iff_toInt_le, Int32.toInt_toInt16, textLength_toInt h]
  show (0 : Int) ≤ _
  rw [Int.bmod_eq_of_le (by omega) (by omega)]
  omega

/-- The frame of a text that fits in the buffer. -/
theorem sendText_decodes (sd : Int32) {text : List UInt8} (hroom : text.length ≤ 184) {tx : Mem}
    (htx : TxOpen tx) :
    ∃ f, (sendText sd text).build tx = .frame f ∧ ¬ f.Overrun ∧
      decodeFrame f.wire = some (sendMeant sd text) := by
  have hlen := textLength_toInt hroom
  obtain ⟨f, hbuild, hpass, hdecode, -⟩ := send_decodable sd (Mem.ofList text)
    (Int32.ofInt text.length) 0 (by omega) (by omega) tx htx
  refine ⟨f, hbuild, hpass, ?_⟩
  have htext : (Mem.ofList text).slice 0 (Int32.ofInt text.length).toInt.toNat = text := by
    rw [hlen, Int.toNat_natCast]
    exact slice_of_placed ⟨[], [], by simp, rfl⟩
  rw [hdecode, htext]
  rfl

/-- Without an error in the slot, the test for a free buffer lets the call pass or gives
-1. -/
theorem hostFlowControl_noError {sl sl' : SLInfo} {sd : Int16} {res : UInt16}
    (herror : sl.slTransmitDataError = 0)
    (h : hostFlowControlConsumeBuff sl sd = some (sl', res)) :
    (res = 0 ∨ res = 0xFFFF) ∧ sl'.slTransmitDataError = 0 := by
  rw [hostFlowControlConsumeBuff, if_neg (not_not_intro herror)] at h
  split at h
  · obtain ⟨rfl, rfl⟩ := Prod.mk.inj (Option.some.inj h)
    exact ⟨.inr rfl, herror⟩
  · split at h
    · cases h
    · obtain ⟨rfl, rfl⟩ := Prod.mk.inj (Option.some.inj h)
      exact ⟨.inl rfl, herror⟩

/-! The slot of the deferred error. -/

theorem deliver_noFailure (sl : SLInfo) (args : WaitArgs) {data : Mem} (h : ¬ FailureEvent data) :
    (deliver sl args data).1.slTransmitDataError = sl.slTransmitDataError := by
  by_cases hevent : IsEvent data
  · rw [deliver_event sl args hevent]
    split
    · exact hciUnsolEventHandler_noFailure _ hevent h
    · have hswitch := hciEventSwitch_error { sl with usEventOrDataReceived := 1 } args.ret data
      unfold decode
      generalize hciEventSwitch { sl with usEventOrDataReceived := 1 } args.ret data = r at hswitch
      dsimp only
      split <;> exact hswitch
  · have hother : ¬ data hciPacketTypeOffset = hciTypeEvnt := hevent
    rw [deliver, spiReceiveHandler_other sl hevent]
    dsimp only
    rw [hciPacketReceived, if_neg hother]
    rfl

theorem hciEventHandler_noFailure {packets : List Mem} (h : ∀ f ∈ packets, ¬ FailureEvent f) :
    ∀ (sl : SLInfo) (args : WaitArgs),
      (hciEventHandler sl args packets).1.slTransmitDataError = sl.slTransmitDataError := by
  induction packets with
  | nil => exact fun _ _ => rfl
  | cons data packets ih =>
    intro sl args
    have hdata := deliver_noFailure sl args (h data List.mem_cons_self)
    rw [hciEventHandler]
    generalize deliver sl args data = d at hdata
    obtain ⟨sl₁, args₁, ended⟩ := d
    cases ended with
    | true => exact hdata
    | false =>
      have hrest := ih (fun f hf => h f (List.mem_cons_of_mem data hf)) sl₁ args₁
      exact hrest.trans hdata

/-- A `send` without an error in the slot fails and clocks out nothing, or succeeds and
clocks out a frame that says the text. The slot stays empty. -/
theorem sendText_run {sd : Int32} {text : List UInt8} (hroom : text.length ≤ 184)
    {sl sl' : SLInfo} (herror : sl.slTransmitDataError = 0) {c : SendCall} (htx : TxOpen c.tx)
    (hevents : ∀ f ∈ c.events, ¬ FailureEvent f) {ret : Int16}
    (h : (sendText sd text).run sl c.tx c.tSocketSendEvent c.events = some (sl', ret)) :
    sl'.slTransmitDataError = 0 ∧
      ((ret < 0 ∧ (sendText sd text).wires sl c.tx = []) ∨
        (¬ ret < 0 ∧ ((sendText sd text).wires sl c.tx).map decodeFrame =
          [some (sendMeant sd text)])) := by
  obtain ⟨f, hbuild, hpass, hdecode⟩ := sendText_decodes sd hroom htx
  rw [SendArgs.wires, hbuild]
  cases hflow : hostFlowControlConsumeBuff sl (sendText sd text).sd.toInt16 with
  | none =>
    rw [SendArgs.run, hflow] at h
    cases h
  | some admitted =>
    obtain ⟨sl₁, res⟩ := admitted
    obtain ⟨hres, herror₁⟩ := hostFlowControl_noError herror hflow
    rcases hres with rfl | rfl
    · have hwait := hciEventHandler_noFailure hevents
      have htransmitted : (Outcome.frame f).Transmitted := hpass
      rw [SendArgs.run, hflow, hbuild] at h
      dsimp only at h ⊢
      rw [if_neg (not_not_intro rfl), if_pos htransmitted, simpleLinkWaitEvent] at h
      rw [if_neg (not_not_intro rfl), if_neg hpass]
      generalize hsl₂ : ({ { sl₁ with numberOfSentPackets := sl₁.numberOfSentPackets + 1 } with
        usRxEventOpcode := (sendText sd text).opcode.evnt } : SLInfo) = sl₂ at h
      have hkept := hwait sl₂ ⟨⟨0, c.tSocketSendEvent, []⟩, none⟩
      have hsl₂error : sl₂.slTransmitDataError = 0 := by rw [← hsl₂]; exact herror₁
      generalize hciEventHandler sl₂ ⟨⟨0, c.tSocketSendEvent, []⟩, none⟩ c.events = w at h hkept
      obtain ⟨sl₃, args, returned⟩ := w
      cases returned with
      | false => cases h
      | true =>
        obtain ⟨rfl, rfl⟩ := Prod.mk.inj (Option.some.inj h)
        refine ⟨hkept.trans hsl₂error, .inr ⟨textLength_toInt16 hroom, ?_⟩⟩
        rw [List.map_cons, hdecode]
        rfl
    · rw [SendArgs.run, hflow] at h
      dsimp only at h ⊢
      have hne : (0xFFFF : UInt16) ≠ 0 := by decide
      rw [if_pos hne] at h ⊢
      obtain ⟨rfl, rfl⟩ := Prod.mk.inj (Option.some.inj h)
      exact ⟨herror₁, .inl ⟨by decide, rfl⟩⟩

/-! The request. -/

/-- The calls are made on a whole transmit buffer, and no failure of an earlier packet
comes in them. -/
def SendCall.Undisturbed (c : SendCall) : Prop := TxOpen c.tx ∧ ∀ f ∈ c.events, ¬ FailureEvent f

/-- **The frames are the pieces, up to the one that failed.** If the request returns, the
device decodes a prefix of the pieces from what has been clocked out, whatever the
buffers held: all of them if the result is 0, and not all if it is an error. -/
theorem sendPieces_wires {sd : Int32} {pieces : List (List UInt8)}
    (hroom : ∀ p ∈ pieces, p.length ≤ 184) :
    ∀ {sl : SLInfo} {calls : List SendCall} {s : Sent}, sl.slTransmitDataError = 0 →
      (∀ c ∈ calls, c.Undisturbed) → sendPieces sd sl pieces calls = some s →
      ∃ sent, sent <+: pieces ∧
        s.wires.map decodeFrame = sent.map (fun p => some (sendMeant sd p)) ∧
        (s.ret = 0 ∧ sent = pieces ∨ s.ret = webCliServerSendFail ∧ sent ≠ pieces) := by
  induction pieces with
  | nil =>
    intro sl calls s _ _ h
    obtain rfl := Option.some.inj h
    exact ⟨[], List.prefix_refl _, rfl, .inl ⟨rfl, rfl⟩⟩
  | cons piece pieces ih =>
    intro sl calls s herror hcalls h
    cases calls with
    | nil => cases h
    | cons c calls =>
      obtain ⟨htx, hevents⟩ := hcalls c List.mem_cons_self
      rw [sendPieces] at h
      cases hrun : (sendText sd piece).run sl c.tx c.tSocketSendEvent c.events with
      | none =>
        rw [hrun] at h
        cases h
      | some r =>
        obtain ⟨sl₁, ret⟩ := r
        rw [hrun] at h
        dsimp only at h
        obtain ⟨herror₁, hsent⟩ :=
          sendText_run (hroom piece List.mem_cons_self) herror htx hevents hrun
        rcases hsent with ⟨hneg, hwires⟩ | ⟨hpos, hwires⟩
        · rw [if_pos hneg, hwires] at h
          obtain rfl := Option.some.inj h
          exact ⟨[], List.nil_prefix, rfl, .inr ⟨rfl, (List.cons_ne_nil _ _).symm⟩⟩
        · rw [if_neg hpos] at h
          obtain ⟨s₁, hrest, rfl⟩ := Option.map_eq_some_iff.mp h
          obtain ⟨sent, hprefix, hdecoded, hret⟩ := ih
            (fun p hp => hroom p (List.mem_cons_of_mem piece hp)) herror₁
            (fun d hd => hcalls d (List.mem_cons_of_mem c hd)) hrest
          refine ⟨piece :: sent, (List.prefix_cons_inj piece).mpr hprefix, ?_, ?_⟩
          · rw [List.map_append, hwires, hdecoded, List.map_cons]
            rfl
          · rcases hret with ⟨hzero, rfl⟩ | ⟨hfail, hne⟩
            · exact .inl ⟨hzero, rfl⟩
            · exact .inr ⟨hfail, fun heq => hne (List.cons.inj heq).2⟩

/-- **What is reported is what has been clocked out.** For every URL whose pieces fit in
the transmit buffer, a request that returns has been refused for its URL, before
anything is sent; or the device decodes its pieces, in order, and has all of them
exactly if the result is 0. -/
theorem webClientSendRequestRun_wires {sd : Int32} {sl : SLInfo} {url_link : List UInt8}
    {calls : List SendCall} {s : Sent} (herror : sl.slTransmitDataError = 0)
    (hcalls : ∀ c ∈ calls, c.Undisturbed)
    (hroom : ∀ pieces, webClientSendRequest url_link = some pieces → ∀ p ∈ pieces, p.length ≤ 184)
    (h : webClientSendRequestRun sd sl url_link calls = some s) :
    (webClientSendRequest url_link = none ∧ s.ret = webCliHostStrFail ∧ s.wires = []) ∨
      ∃ pieces sent, webClientSendRequest url_link = some pieces ∧ sent <+: pieces ∧
        s.wires.map decodeFrame = sent.map (fun p => some (sendMeant sd p)) ∧
        (s.ret = 0 ∧ sent = pieces ∨ s.ret = webCliServerSendFail ∧ sent ≠ pieces) := by
  rw [webClientSendRequestRun] at h
  rw [webClientSendRequest] at hroom ⊢
  cases hsplit : splitURL url_link with
  | none =>
    rw [hsplit] at h
    obtain rfl := Option.some.inj h
    exact .inl ⟨rfl, rfl, rfl⟩
  | some split =>
    obtain ⟨sp1, sp2⟩ := split
    rw [hsplit] at h hroom
    obtain ⟨sent, hsent⟩ := sendPieces_wires (hroom _ rfl) herror hcalls h
    exact .inr ⟨_, sent, rfl, hsent⟩

/-- What the device has been told to send on a socket. -/
def deviceBytes (sd : Int32) (wires : List (List UInt8)) : List UInt8 :=
  wires.flatMap fun wire =>
    match decodeFrame wire with
    | some d => if d.opcode = hciCmndSend ∧ d.words.head? = some sd.toUInt32 then d.strings.flatten
      else []
    | none => []

/-- Frames for a row of texts are the texts. -/
theorem deviceBytes_of_meant {sd : Int32} {texts : List (List UInt8)} {wires : List (List UInt8)}
    (h : wires.map decodeFrame = texts.map fun p => some (sendMeant sd p)) :
    deviceBytes sd wires = texts.flatten := by
  induction texts generalizing wires with
  | nil =>
    obtain rfl := List.map_eq_nil_iff.mp h
    rfl
  | cons text texts ih =>
    cases wires with
    | nil => cases h
    | cons wire wires =>
      obtain ⟨hfirst, hrest⟩ := List.cons.inj h
      rw [deviceBytes, List.flatMap_cons, hfirst, List.flatten_cons, ← ih hrest, deviceBytes]
      congr 1
      exact (if_pos ⟨rfl, rfl⟩).trans (List.append_nil text)

/-- The pieces of a URL fit in the transmit buffer. -/
def Url.Fits (u : Url) : Prop := u.host.length ≤ 184 ∧ u.path.length ≤ 184

instance Url.decidableFits (u : Url) : Decidable u.Fits := inferInstanceAs (Decidable (_ ∧ _))

theorem Url.pieces_fit {u : Url} (hfits : u.Fits) :
    ∃ pieces, webClientSendRequest u.bytes = some pieces ∧ pieces.flatten = u.request ∧
      ∀ p ∈ pieces, p.length ≤ 184 := by
  obtain ⟨hfnt, hmid, hend⟩ := webGetMsg_length
  have hrequest := u.request_eq
  have hpieces : webClientSendRequest u.bytes =
      some (requestPieces (u.host ++ u.path) u.path) := by
    rw [webClientSendRequest, u.splitURL_bytes]
    rfl
  rw [hpieces] at hrequest ⊢
  refine ⟨_, rfl, Option.some.inj hrequest, ?_⟩
  obtain ⟨hhost, hpath⟩ := hfits
  simp only [requestPieces, List.mem_cons, List.not_mem_nil, or_false]
  rintro p (rfl | rfl | rfl | rfl | rfl)
  · omega
  · exact hpath
  · omega
  · rw [List.length_take, List.length_append]
    omega
  · omega

/-- **A request that is reported sent has been handed over whole.** -/
theorem Url.sent {u : Url} (hfits : u.Fits) {sd : Int32} {sl : SLInfo} {calls : List SendCall}
    {s : Sent} (herror : sl.slTransmitDataError = 0) (hcalls : ∀ c ∈ calls, c.Undisturbed)
    (h : webClientSendRequestRun sd sl u.bytes calls = some s) :
    deviceBytes sd s.wires <+: u.request ∧
      (s.ret = 0 → deviceBytes sd s.wires = u.request) := by
  obtain ⟨pieces, hpieces, hflatten, hroom⟩ := Url.pieces_fit hfits
  have hsplit := u.splitURL_bytes
  rw [webClientSendRequest, hsplit] at hpieces
  obtain rfl : requestPieces (u.host ++ u.path) u.path = pieces := Option.some.inj hpieces
  rw [webClientSendRequestRun, hsplit] at h
  obtain ⟨sent, ⟨rest, hprefix⟩, hdecoded, hret⟩ := sendPieces_wires hroom herror hcalls h
  rw [deviceBytes_of_meant hdecoded, ← hflatten]
  refine ⟨⟨rest.flatten, ?_⟩, ?_⟩
  · rw [← List.flatten_append, hprefix]
  · intro hzero
    rcases hret with ⟨-, rfl⟩ | ⟨hfail, -⟩
    · rfl
    · rw [hzero] at hfail
      exact absurd hfail (by decide)

/-! The other end. -/

/-- A turn of the receive loop sees what a receive gives. -/
def Poll.Sees (p : Poll) (r : RecvResult) : Prop :=
  if r.ret < 0 then p.ret = none else ∃ chunk, p.ret = some chunk ∧ chunk.val = r.bytes

/-- No turn fails, and every test is made before the deadline. -/
def BeforeDeadline (tmr : UInt32) : List Poll → Prop
  | [] => True
  | poll :: polls =>
    poll.now < tmr ∧ ∃ chunk, poll.ret = some chunk ∧
      BeforeDeadline (if chunk.val.length > 0 then poll.after + webserverRequestTimeout else tmr) polls

/-- Then the loop gets what the receives give. -/
theorem receivedBytes_inTime {polls : List Poll} {received : List RecvResult}
    (hsees : List.Forall₂ Poll.Sees polls received) :
    ∀ {tmr : UInt32}, BeforeDeadline tmr polls →
      receivedBytes tmr polls = received.flatMap RecvResult.bytes := by
  induction hsees with
  | nil => exact fun _ => rfl
  | @cons poll r polls received hfirst _ ih =>
    intro tmr hin
    obtain ⟨hnow, chunk, hret, hrest⟩ := hin
    have hbytes : chunk.val = r.bytes := by
      rw [Poll.Sees] at hfirst
      split at hfirst
      · rw [hret] at hfirst
        cases hfirst
      · obtain ⟨chunk', hret', hchunk'⟩ := hfirst
        rw [hret] at hret'
        rw [Option.some.inj hret', hchunk']
    rw [receivedBytes, if_pos hnow, hret, List.flatMap_cons, ← hbytes]
    dsimp only
    by_cases hlen : chunk.val.length > 0
    · rw [if_pos hlen] at hrest ⊢
      rw [ih hrest]
    · rw [if_neg hlen] at hrest ⊢
      have hnil : chunk.val = [] := List.eq_nil_of_length_eq_zero (by omega)
      rw [hnil, List.nil_append, ih hrest]

/-- **A request gets through.** One module is told a URL whose pieces fit in its transmit
buffer, hears of no failed transmission, and reports the request as sent; the other, which
waits for nothing and has a callback, serves what the device was told to send to its
receives, in any chunks of up to the 100 bytes its loop asks for and with any calm events
in between, before that loop times out. Then the server has the method `GET` and the path
of the URL in its buffers, and nothing else. -/
theorem exchange {u : Url} (hfits : u.Fits) {sd : Int32} {sl : SLInfo} {sends : List SendCall}
    {s : Sent} (herror : sl.slTransmitDataError = 0) (hsends : ∀ c ∈ sends, c.Undisturbed)
    (hsent : webClientSendRequestRun sd sl u.bytes sends = some s) (hok : s.ret = 0)
    {slServer : SLInfo} (hlisten : slServer.Listening) {calls : List RecvCall}
    (hserves : ServesStream hciEvntRecv (deviceBytes sd s.wires) calls []) (sz : Sizes)
    {start : UInt32} {polls : List Poll}
    (hpolls : ∀ slServer' received,
      recvRun hciEvntRecv slServer calls = some (slServer', received) →
      List.Forall₂ Poll.Sees polls received)
    (htime : BeforeDeadline (start + webserverRequestTimeout) polls) :
    let r := (webServerProcessRequest sz start polls).1
    r.method = (Url.getMethod.take sz.methodSize.toNat).zipIdx ∧
      r.filename = (u.path.take sz.filenameSize.toNat).zipIdx ∧
      r.content = [] ∧ r.auth = [] := by
  obtain ⟨slServer', received, hrun, -, hstream, -⟩ :=
    recvRun_stream List.mem_cons_self hserves hlisten
  have hbytes : SpiderL3S.received start polls = u.request := by
    rw [SpiderL3S.received, receivedBytes_inTime (hpolls _ _ hrun) htime, ← (u.sent hfits herror
      hsends hsent).2 hok, ← hstream, List.append_nil]
  rw [webServerProcessRequest_eq, hbytes]
  exact u.processBytes_request sz

/-! A short request. -/

/-- A `send` whose packet is accepted. -/
def acceptedSend : SendCall := ⟨openTx, Mem.ofList [], [sendEvent 0]⟩

theorem acceptedSend_undisturbed : ∀ c ∈ List.replicate 5 acceptedSend, c.Undisturbed := by
  intro c hc
  obtain rfl := List.eq_of_mem_replicate hc
  exact ⟨rfl, by decide⟩

theorem shortUrl_sent :
    ∃ s, webClientSendRequestRun 0 .connected shortUrl.bytes (List.replicate 5 acceptedSend) =
      some s ∧ s.ret = 0 := by
  rw [← Option.map_eq_some_iff]
  decide +kernel

theorem webClientSendRequestRun_shortUrl :
    ∃ s, webClientSendRequestRun 0 .connected shortUrl.bytes (List.replicate 5 acceptedSend) =
        some s ∧
      ((webClientSendRequest shortUrl.bytes = none ∧ s.ret = webCliHostStrFail ∧ s.wires = []) ∨
        ∃ pieces sent, webClientSendRequest shortUrl.bytes = some pieces ∧ sent <+: pieces ∧
          s.wires.map decodeFrame = sent.map (fun p => some (sendMeant 0 p)) ∧
          (s.ret = 0 ∧ sent = pieces ∨ s.ret = webCliServerSendFail ∧ sent ≠ pieces)) := by
  obtain ⟨s, hrun, -⟩ := shortUrl_sent
  refine ⟨s, hrun, webClientSendRequestRun_wires rfl acceptedSend_undisturbed ?_ hrun⟩
  intro pieces hpieces
  obtain ⟨pieces', hpieces', -, hroom⟩ := Url.pieces_fit (u := shortUrl) (by decide)
  obtain rfl := Option.some.inj (hpieces'.symm.trans hpieces)
  exact hroom

/-- The request, in one chunk. -/
theorem shortUrl_recv : (plainRecv shortUrl.request).Carries hciEvntRecv shortUrl.request where
  before := .nil
  others := fun _ hf => absurd hf List.not_mem_nil
  reply := by decide +kernel
  code := by decide +kernel
  fits := by decide +kernel
  between := .nil
  count := by decide +kernel
  small := by decide +kernel
  data := fun _ => ⟨by decide +kernel, by decide +kernel, by decide +kernel, by decide +kernel⟩

theorem exchange_shortUrl :
    let r := (webServerProcessRequest ⟨5, 9, 9, 9⟩ 0
      [⟨0, some ⟨shortUrl.request, by decide⟩, 0⟩]).1
    r.method = (Url.getMethod.take 5).zipIdx ∧ r.filename = (shortUrl.path.take 9).zipIdx ∧
      r.content = [] ∧ r.auth = [] := by
  obtain ⟨s, hsent, hok⟩ := shortUrl_sent
  have hfits : shortUrl.Fits := by decide
  have hlisten : (SLInfo.start true).Listening := ⟨by decide, rfl⟩
  have hbytes := (shortUrl.sent hfits rfl acceptedSend_undisturbed hsent).2 hok
  have hserves : ServesStream hciEvntRecv (deviceBytes 0 s.wires) [plainRecv shortUrl.request]
      [] := by
    rw [hbytes, ← List.append_nil shortUrl.request]
    exact .chunk (List.append_nil shortUrl.request ▸ shortUrl_recv) (.done [])
  refine exchange hfits rfl acceptedSend_undisturbed hsent hok hlisten hserves ⟨5, 9, 9, 9⟩ ?_
    ⟨by decide, _, rfl, trivial⟩
  intro sl' received hrun
  obtain ⟨sl₁, args, ret, hfirst, -, hholds, -⟩ := shortUrl_recv.run List.mem_cons_self hlisten
  simp only [recvRun, hfirst, Option.bind_eq_bind, Option.bind_some, Option.pure_def] at hrun
  obtain ⟨-, rfl⟩ := Prod.mk.inj (Option.some.inj hrun)
  refine .cons ?_ .nil
  have hpos : ¬ ret < 0 := by
    intro hneg
    rw [RecvResult.bytes_of_neg (r := ⟨ret, args.ret.mem⟩) hneg] at hholds
    cases hholds
  rw [Poll.Sees, if_neg hpos]
  exact ⟨_, rfl, hholds.symm⟩

end SpiderL3S
