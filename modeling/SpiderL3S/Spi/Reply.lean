import SpiderL3S.ReplyIsolation
import SpiderL3S.Spi.ExactlyOnce

/- The reply of a command reaches the loop that waits for it. A command writes
   its frame and then waits for the event `usOpcode`; the device answers at any
   moment behind the frame. An observer follows the reply: awaited, held in
   `wlan_rx_buffer`, consumed by the loop, or discarded. The reply is kept if the
   opcode is published when it is read, if nothing is read over it, and if the
   loop is not about to release another packet. `ReplyInv` says, by the place in
   the code, why the loop then takes it: what is left to do leaves the buffer and
   the flag alone until the loop tests the flag. -/
namespace SpiderL3S

open Runs Code

variable {patches : Mem → List SpiFrame}

/-- A command under way: its frame, the opcode it waits for, and what was on the
bus at the call. -/
structure Exchange where
  frame : SpiFrame
  usOpcode : UInt16
  old : List BusEvent

inductive Reply
  | awaited
  | held
  | consumed
  | discarded
  deriving DecidableEq, Repr

/-- The packet is an event with this opcode. -/
def eventIs (op : UInt16) (data : Mem) : Bool :=
  data hciPacketTypeOffset = hciTypeEvnt && eventCode data = op

/-- An interrupt reads a packet now. -/
def Core.reads (c : Core) : Bool := c.enable && c.ulSpiState = .idle

/-- The frame has been clocked out. -/
def Exchange.out (x : Exchange) (c : Core) : Bool :=
  (sentBytes x.old).length + x.frame.size.toNat ≤ (sentBytes c.bus).length

/-- A packet has been read; `kept` says whether `SpiReceiveHandler` keeps it. -/
def Exchange.read (x : Exchange) (r : Reply) (c : Core) (data : Mem) (kept : Bool) : Reply :=
  match r with
  | .awaited =>
    if eventIs x.usOpcode data && x.out c then (if kept then .held else .discarded) else .awaited
  | r => r

/-- The loop decodes a packet for the opcode it waits for. -/
def Core.takes (c : Core) (op : UInt16) : Bool :=
  c.usReceivedEventOpcode = op && c.sl.usRxEventOpcode = op

/-- The loop has begun with a packet and not yet released it. -/
def Stmt.handles : Stmt → Bool
  | hehUnsol | hehSwitch | hehClearOpcode | hehData | hehRelease => true
  | _ => false

/-- Where the reply is, updated by one step: it is lost where another packet is
read over it and where the loop releases the buffer without having decoded it. -/
def Exchange.observe (x : Exchange) (r : Reply) (s : Config) (l : Label) (_ : Config) : Reply :=
  match l with
  | .edge =>
    if s.core.reads then
      if r = .held then .discarded
      else x.read r s.core s.core.nextData (!s.core.nextReceive.2)
    else r
  | .stmt =>
    match s.todo.head? with
    | some .readHeader => if r = .held then .discarded else r
    | some .receiveHandler => x.read r s.core s.core.data (!s.core.receive.2)
    | some .hehSwitch =>
      if r = .held then (if s.core.takes x.usOpcode then .consumed else .discarded) else r
    | some .hehRelease => if r = .held then .discarded else r
    | _ => r
  | _ => r

/-- The event `op` is one the driver keeps now: it is waited for already, or it is
a send that did not fail for an inactive socket. -/
def InTime (op : UInt16) (sl : SLInfo) (data : Mem) : Prop :=
  if sendClass op then sendStatus data ≠ errorSocketInactive else sl.usRxEventOpcode = op

/-- A packet with the waited opcode comes behind the frame and in time. -/
def Exchange.Answered (x : Exchange) (r : Reply) (c : Core) (data : Mem) : Prop :=
  r = .awaited → eventIs x.usOpcode data = true → x.out c = true ∧ InTime x.usOpcode c.sl data

/-- The condition on a step: the reply comes in time and not while the loop handles
another packet, and no packet is read over it. -/
def Exchange.ReplyKept (x : Exchange) (s : Config × Reply) : Label → Prop
  | .edge => s.1.core.reads = true → s.2 ≠ .held ∧
      x.Answered s.2 s.1.core s.1.core.nextData ∧
      (s.2 = .awaited → eventIs x.usOpcode s.1.core.nextData = true →
        s.1.todo.head?.any Stmt.handles = false)
  | .stmt => (s.1.todo.head? = some .readHeader → s.2 ≠ .held) ∧
      (s.1.todo.head? = some .receiveHandler → x.Answered s.2 s.1.core s.1.core.data)
  | _ => True

/-! What the receive handler and the loop do to the reply. -/

theorem eventIs_iff {op : UInt16} {data : Mem} :
    eventIs op data = true ↔ IsEvent data ∧ eventCode data = op := by
  simp only [eventIs, IsEvent, Bool.and_eq_true, decide_eq_true_eq]

/-- What the table says about an opcode that is waited for. -/
theorem waited_spec {op : UInt16} {size : Nat} (hop : (op, size) ∈ resultObjects) :
    op ≠ 0 ∧ op ≠ hciEvntDataUnsolFreeBuff ∧ op &&& hciEvntWlanUnsolBase = 0 ∧
      op ≠ hciEvntPatchesReq :=
  (resultObjects_spec _ hop).2.2

theorem handler_refuses {op : UInt16} {size : Nat} (hop : (op, size) ∈ resultObjects)
    {sl : SLInfo} {data : Mem} (hevent : eventIs op data = true) (hin : InTime op sl data) :
    (hciUnsolEventHandler sl data).2 = false := by
  obtain ⟨-, rfl⟩ := eventIs_iff.mp hevent
  obtain ⟨-, hflow, hwlan, hpatch⟩ := waited_spec hop
  unfold InTime at hin
  split at hin
  · rename_i hsend
    rw [hciUnsolEventHandler_send sl hsend]
    exact decide_eq_false hin
  · rename_i hsend
    rw [hciUnsolEventHandler_solicited sl hflow hwlan (Bool.eq_false_iff.mpr hsend) hpatch]
    exact decide_eq_false (not_not_intro hin.symm)

theorem spiReceiveHandler_sameWait (sl : SLInfo) (data : Mem) :
    SameWait sl (spiReceiveHandler sl data).1 := by
  unfold spiReceiveHandler hciUnsolicitedEventHandler
  have hsame := hciUnsolEventHandler_sameWait { sl with usEventOrDataReceived := 1 } data
  split
  · split
    · rename_i sl' heq
      rw [heq] at hsame
      exact hsame
    · rename_i sl' heq
      rw [heq] at hsame
      exact hsame
  · exact ⟨rfl, rfl⟩

/-- A packet in time is kept, and the flag is set for it. -/
theorem spiReceiveHandler_keeps {op : UInt16} {size : Nat} (hop : (op, size) ∈ resultObjects)
    {sl : SLInfo} {data : Mem} (hevent : eventIs op data = true) (hin : InTime op sl data) :
    spiReceiveHandler sl data = ({ sl with usEventOrDataReceived := 1 }, false) := by
  have hrefuses : (hciUnsolEventHandler { sl with usEventOrDataReceived := 1 } data).2 = false :=
    handler_refuses hop hevent hin
  have hsame := (hciUnsolEventHandler_refused hrefuses).1
  unfold spiReceiveHandler hciUnsolicitedEventHandler
  split
  · rw [hsame]
  · rfl

/-! Places in the code. -/

/-- A statement of the driver outside the read of a packet. -/
def Stmt.driver : Stmt → Bool
  | readHeader | readSync .. | readDataCont | testMagic | receiveHandler | waitEvent ..
  | waitData _ | hehTest | hehTestType | hehUnsol | hehSwitch | hehClearOpcode | hehData
  | hehRelease | hehPatch | hehTestReturn => false
  | _ => true

/-- A statement between the header of a packet and the end of its transfer. -/
def Stmt.transfers : Stmt → Bool
  | readSync .. | readDataCont | setState .readEot => true
  | _ => false

/-- A statement between the end of a transfer and the callback. -/
def Stmt.closes : Stmt → Bool
  | csDisable | testMagic | setState .idle | hang => true
  | _ => false

/-- The handler is reading: an interrupt does nothing. -/
def Core.busy (c : Core) : Prop := c.ulSpiState = .readIrq ∨ c.ulSpiState = .readEot

/-- Code of the driver, with the buffer not yet touched by a read of main code. -/
inductive Whole (c : Core) : List Stmt → Prop
  | driver {code : List Stmt} (h : Only Stmt.driver code) : Whole c code
  | start {rest : List Stmt} (h : Only Stmt.driver rest) : Whole c (spiRead ++ rest)
  | select {rest : List Stmt} (hbusy : c.busy) (h : Only Stmt.driver rest) :
      Whole c (spiRead.tail ++ rest)
  | header {rest : List Stmt} (hbusy : c.busy) (h : Only Stmt.driver rest) :
      Whole c (spiRead.tail.tail ++ rest)

/-- Main code is reading a packet: no interrupt reads one, for the state is not
idle or `ENABLE` is clear. -/
inductive Torn (c : Core) : List Stmt → Prop
  | transfer {code rest : List Stmt} (hbusy : c.busy) (hcode : Only Stmt.transfers code)
      (h : Only Stmt.driver rest) : Torn c (code ++ (spiTriggerRxProcessing ++ rest))
  | close {code rest : List Stmt} (henable : c.enable = false)
      (hcode : Only Stmt.closes code) (h : Only Stmt.driver rest) :
      Torn c (code ++ .receiveHandler :: rest)

/-- The end of a round of the waiting loop. -/
def hehTail : List Stmt := [.hehRelease] ++ spiResumeSpi ++ [.hehPatch, .hehTestReturn]

/-- The loop is at an event other than the reply. -/
inductive OtherEvent : List Stmt → Prop
  | unsol : OtherEvent [.hehUnsol, .hehClearOpcode]
  | switch : OtherEvent [.hehSwitch, .hehClearOpcode]
  | clear : OtherEvent [.hehClearOpcode]

/-- What follows the code of the driver, and behind which of them the opcode is
published. -/
inductive Tail (op : UInt16) (args : WaitArgs) (c : Core) : List Stmt → Prop
  | wait : Tail op args c [.waitEvent op args]
  | patch (hop : c.sl.usRxEventOpcode = op) : Tail op args c [.hehPatch, .hehTestReturn]
  | return (hop : c.sl.usRxEventOpcode = op) : Tail op args c [.hehTestReturn]

/-- The packet with the reply is in the buffer and flagged. -/
structure Held (op : UInt16) (c : Core) : Prop where
  flag : c.sl.usEventOrDataReceived ≠ 0
  event : eventIs op c.data = true
  status : sendClass op = true → sendStatus c.data ≠ errorSocketInactive

/-- What is in the buffer, by where the reply is. -/
def Buffer (op : UInt16) (c : Core) : Reply → Prop
  | .awaited => c.sl.usEventOrDataReceived = 0 ∨ eventIs op c.data = false
  | .held => Held op c
  | _ => False

/-- The invariant, by the place in the code. -/
inductive ReplyInv (op : UInt16) (args : WaitArgs) : Config → Reply → Prop
  | driver {c : Core} {r : Reply} {code tail : List Stmt} (hcode : Whole c code)
      (htail : Tail op args c tail) (hbuf : Buffer op c r) : ReplyInv op args ⟨c, code ++ tail⟩ r
  | reading {c : Core} {code tail : List Stmt} (hcode : Torn c code) (htail : Tail op args c tail) :
      ReplyInv op args ⟨c, code ++ tail⟩ .awaited
  | testing {c : Core} {r : Reply} (hop : c.sl.usRxEventOpcode = op) (hbuf : Buffer op c r) :
      ReplyInv op args ⟨c, [.hehTest]⟩ r
  | taken {c : Core} {r : Reply} (hop : c.sl.usRxEventOpcode = op) (hbuf : Buffer op c r)
      (hother : r = .awaited → eventIs op c.data = false) :
      ReplyInv op args ⟨c, .hehTestType :: hehTail⟩ r
  | other {c : Core} {code : List Stmt} (hop : c.sl.usRxEventOpcode = op)
      (hne : c.usReceivedEventOpcode ≠ op) (hcode : OtherEvent code) :
      ReplyInv op args ⟨c, code ++ hehTail⟩ .awaited
  | data {c : Core} (hop : c.sl.usRxEventOpcode = op) :
      ReplyInv op args ⟨c, .hehData :: hehTail⟩ .awaited
  | releasing {c : Core} (hop : c.sl.usRxEventOpcode = op) : ReplyInv op args ⟨c, hehTail⟩ .awaited
  | hung {c : Core} {r : Reply} (hbuf : Buffer op c r) :
      ReplyInv op args ⟨c, .hang :: .hehClearOpcode :: hehTail⟩ r
  | decoding {c : Core} (hop : c.sl.usRxEventOpcode = op) (hheld : Held op c)
      (hcode : c.usReceivedEventOpcode = op) :
      ReplyInv op args ⟨c, .hehUnsol :: .hehClearOpcode :: hehTail⟩ .held
  | switching {c : Core} (hop : c.sl.usRxEventOpcode = op) (hcode : c.usReceivedEventOpcode = op) :
      ReplyInv op args ⟨c, .hehSwitch :: .hehClearOpcode :: hehTail⟩ .held
  | consumed (s : Config) : ReplyInv op args s .consumed

/-! What statements of the driver leave alone. -/

theorem driver_spiWriteCode (f : SpiFrame) : Only Stmt.driver (spiWriteCode f) := rfl

/-- A statement of the driver leaves the buffer and the globals alone, and begins
to read only where it finds the state idle. -/
theorem exec_driver {s : Stmt} (c : Core) (hs : s.driver = true) :
    (exec patches s c).1.rx = c.rx ∧ (exec patches s c).1.sl = c.sl ∧
      ((exec patches s c).2 = spiRead ∨ Only Stmt.driver (exec patches s c).2) := by
  cases s with
  | irqTestIdle =>
    refine ⟨rfl, rfl, ?_⟩
    simp only [exec]
    split
    · exact .inl rfl
    · exact .inr rfl
  | wieTestPin | wieTestMissed | irqTestEnable | irqTestPowerup | irqTestWriteIrq | swTestMagic
  | swTestPowerup | swTestInitialized | swSpinInitialized | swSpinIdle | swSpinDone | swTestPin =>
    refine ⟨rfl, rfl, .inr ?_⟩
    simp only [exec]
    split <;> rfl
  | writeSync f ptr left => cases left <;> exact ⟨rfl, rfl, .inr rfl⟩
  | hang | wieSetEnable | wieClearMissed | widClearEnable | irqSetMissed | irqSetProcess
  | irqClearProcess | setState | csEnable | csDisable | swSetTx =>
    exact ⟨rfl, rfl, .inr rfl⟩
  | _ => cases hs

/-- A statement before the header of a packet is read. -/
theorem Whole.stmt {c : Core} {s : Stmt} {code : List Stmt} (h : Whole c (s :: code))
    (hs : s ≠ .readHeader) :
    (exec patches s c).1.rx = c.rx ∧ (exec patches s c).1.sl = c.sl ∧
      Whole (exec patches s c).1 ((exec patches s c).2 ++ code) := by
  generalize hall : s :: code = all at h
  cases h with
  | driver h =>
    subst hall
    obtain ⟨hhead, hrest⟩ := Only.cons_iff.mp h
    obtain ⟨hrx, hsl, hpush | hpush⟩ := @exec_driver patches s c hhead
    · rw [hpush]
      exact ⟨hrx, hsl, .start hrest⟩
    · exact ⟨hrx, hsl, .driver (hpush.append hrest)⟩
  | start h =>
    obtain ⟨rfl, rfl⟩ := List.cons.inj hall
    exact ⟨rfl, rfl, .select (.inl rfl) h⟩
  | select hbusy h =>
    obtain ⟨rfl, rfl⟩ := List.cons.inj hall
    exact ⟨rfl, rfl, .header hbusy h⟩
  | header hbusy h =>
    obtain ⟨rfl, rfl⟩ := List.cons.inj hall
    exact absurd rfl hs

/-- The header is read: the buffer is no longer whole. -/
theorem Whole.readHeader {c : Core} {code : List Stmt} (h : Whole c (.readHeader :: code)) :
    (exec patches .readHeader c).1.sl = c.sl ∧
      Torn (exec patches .readHeader c).1 ((exec patches .readHeader c).2 ++ code) := by
  generalize hall : Stmt.readHeader :: code = all at h
  cases h with
  | driver h =>
    subst hall
    cases (Only.cons_iff.mp h).1
  | start h => cases (List.cons.inj hall).1
  | select hbusy h => cases (List.cons.inj hall).1
  | header hbusy h =>
    obtain ⟨-, rfl⟩ := List.cons.inj hall
    exact ⟨rfl, @Torn.transfer _ [.readSync 0 headersSizeEvnt, .setState .readEot, .readDataCont] _
      hbusy rfl h⟩

theorem exec_transfers {s : Stmt} {c : Core} (hs : s.transfers = true) (hbusy : c.busy) :
    (exec patches s c).1.sl = c.sl ∧ (exec patches s c).1.busy ∧
      Only Stmt.transfers (exec patches s c).2 := by
  cases s with
  | readSync ptr left => cases left <;> exact ⟨rfl, hbusy, rfl⟩
  | setState s =>
    cases s with
    | readEot => exact ⟨rfl, .inr rfl, rfl⟩
    | _ => cases hs
  | readDataCont =>
    refine ⟨rfl, hbusy, ?_⟩
    simp only [exec]
    split <;> rfl
  | _ => cases hs

theorem exec_closes {s : Stmt} {c : Core} (hs : s.closes = true) (henable : c.enable = false) :
    (exec patches s c).1.sl = c.sl ∧ (exec patches s c).1.enable = false ∧
      Only Stmt.closes (exec patches s c).2 := by
  cases s with
  | setState | csDisable | hang => exact ⟨rfl, henable, rfl⟩
  | testMagic =>
    refine ⟨rfl, henable, ?_⟩
    simp only [exec]
    split <;> rfl
  | _ => cases hs

/-- A statement of a read, up to the callback. -/
theorem Torn.stmt {c : Core} {s : Stmt} {code : List Stmt} (h : Torn c (s :: code))
    (hs : s ≠ .receiveHandler) :
    (exec patches s c).1.sl = c.sl ∧ Torn (exec patches s c).1 ((exec patches s c).2 ++ code) := by
  generalize hall : s :: code = all at h
  cases h with
  | @transfer pre rest hbusy hpre h =>
    cases pre with
    | nil =>
      obtain ⟨rfl, rfl⟩ := List.cons.inj hall
      exact ⟨rfl, @Torn.close _ [.csDisable, .testMagic, .setState .idle] _ rfl rfl h⟩
    | cons a pre =>
      obtain ⟨rfl, rfl⟩ := List.cons.inj hall
      obtain ⟨hhead, hpre⟩ := Only.cons_iff.mp hpre
      obtain ⟨hsl, hbusy', hpush⟩ := @exec_transfers patches s c hhead hbusy
      have htorn := Torn.transfer hbusy' (hpush.append hpre) h
      rw [List.append_assoc] at htorn
      exact ⟨hsl, htorn⟩
  | @close pre rest henable hpre h =>
    cases pre with
    | nil => exact absurd (List.cons.inj hall).1 hs
    | cons a pre =>
      obtain ⟨rfl, rfl⟩ := List.cons.inj hall
      obtain ⟨hhead, hpre⟩ := Only.cons_iff.mp hpre
      obtain ⟨hsl, henable', hpush⟩ := @exec_closes patches s c hhead henable
      have htorn := Torn.close henable' (hpush.append hpre) h
      rw [List.append_assoc] at htorn
      exact ⟨hsl, htorn⟩

theorem Torn.ne_nil {c : Core} {code : List Stmt} (h : Torn c code) : code ≠ [] := by
  cases h with
  | transfer => exact List.append_ne_nil_of_right_ne_nil _ (List.cons_ne_nil _ _)
  | close => exact List.append_ne_nil_of_right_ne_nil _ (List.cons_ne_nil _ _)

theorem Torn.receiveHandler {c : Core} {code : List Stmt} (h : Torn c (.receiveHandler :: code)) :
    Only Stmt.driver code := by
  generalize hall : Stmt.receiveHandler :: code = all at h
  cases h with
  | @transfer pre rest hbusy hpre h =>
    cases pre with
    | nil => cases (List.cons.inj hall).1
    | cons a pre =>
      obtain ⟨rfl, -⟩ := List.cons.inj hall
      cases (Only.cons_iff.mp hpre).1
  | @close pre rest henable hpre h =>
    cases pre with
    | nil =>
      obtain ⟨-, rfl⟩ := List.cons.inj hall
      exact h
    | cons a pre =>
      obtain ⟨rfl, -⟩ := List.cons.inj hall
      cases (Only.cons_iff.mp hpre).1

/-! The invariant over one step. -/

theorem Tail.congr {op : UInt16} {args : WaitArgs} {c c' : Core} {tail : List Stmt}
    (h : Tail op args c tail) (hop : c'.sl.usRxEventOpcode = c.sl.usRxEventOpcode) :
    Tail op args c' tail := by
  cases h with
  | wait => exact .wait
  | patch h => exact .patch (hop.trans h)
  | «return» h => exact .return (hop.trans h)

/-- The buffer and the flag are all that matters. -/
theorem Buffer.congr {op : UInt16} {c c' : Core} {r : Reply} (h : Buffer op c r)
    (hrx : c'.rx = c.rx) (hflag : c'.sl.usEventOrDataReceived = c.sl.usEventOrDataReceived) :
    Buffer op c' r := by
  have hdata : c'.data = c.data := by rw [Core.data, Core.data, hrx]
  cases r with
  | awaited =>
    apply h.imp (fun hzero => hflag.trans hzero)
    intro hother
    rw [hdata]
    exact hother
  | held =>
    obtain ⟨hset, hevent, hstatus⟩ := h
    refine ⟨by rw [hflag]; exact hset, by rw [hdata]; exact hevent, ?_⟩
    rw [hdata]
    exact hstatus
  | consumed => exact h
  | discarded => exact h

/-- A packet in time is held. -/
theorem held_of_inTime {op : UInt16} {size : Nat} (hop : (op, size) ∈ resultObjects) {c c' : Core}
    (hevent : eventIs op c'.data = true) (hin : InTime op c.sl c'.data)
    (hsl : c'.sl = (spiReceiveHandler c.sl c'.data).1) : Held op c' := by
  rw [spiReceiveHandler_keeps hop hevent hin] at hsl
  refine ⟨by rw [hsl]; simp, hevent, fun hsend => ?_⟩
  rw [InTime, if_pos hsend] at hin
  exact hin

/-- A packet has been read: the reply is held, or it is still awaited. -/
theorem Exchange.read_buffer {x : Exchange} {size : Nat}
    (hop : (x.usOpcode, size) ∈ resultObjects) {c c' : Core}
    (hans : x.Answered .awaited c c'.data) (hsl : c'.sl = (spiReceiveHandler c.sl c'.data).1) :
    (x.read .awaited c c'.data (!(spiReceiveHandler c.sl c'.data).2) = .held ∧
        eventIs x.usOpcode c'.data = true ∧ Held x.usOpcode c') ∨
      (x.read .awaited c c'.data (!(spiReceiveHandler c.sl c'.data).2) = .awaited ∧
        eventIs x.usOpcode c'.data = false) := by
  rcases Bool.eq_false_or_eq_true (eventIs x.usOpcode c'.data) with hevent | hevent
  · obtain ⟨hout, hin⟩ := hans rfl hevent
    refine .inl ⟨?_, hevent, held_of_inTime hop hevent hin hsl⟩
    simp only [Exchange.read, hevent, hout, spiReceiveHandler_keeps hop hevent hin, Bool.and_self,
      Bool.not_false, if_true]
  · refine .inr ⟨?_, hevent⟩
    simp only [Exchange.read, hevent, Bool.false_and, Bool.false_eq_true, if_false]

/-- The observer looks at four statements only. -/
theorem Exchange.observe_stmt {x : Exchange} {r : Reply} {c : Core} {s : Stmt} {rest : List Stmt}
    {t : Config} (hread : s ≠ .readHeader) (hcallback : s ≠ .receiveHandler)
    (hhandle : s ≠ .hehSwitch) (hrelease : s ≠ .hehRelease) :
    x.observe r ⟨c, s :: rest⟩ .stmt t = r := by
  cases s with
  | readHeader => exact absurd rfl hread
  | receiveHandler => exact absurd rfl hcallback
  | hehSwitch => exact absurd rfl hhandle
  | hehRelease => exact absurd rfl hrelease
  | _ => rfl

theorem Exchange.observe_consumed (x : Exchange) (s : Config) (l : Label) (t : Config) :
    x.observe .consumed s l t = .consumed := by
  cases l with
  | edge => simp only [Exchange.observe, Exchange.read, reduceCtorEq, if_false, ite_self]
  | stmt =>
    simp only [Exchange.observe, Exchange.read, reduceCtorEq, if_false]
    split <;> rfl
  | call k => rfl
  | rise => rfl

theorem Whole.head {c : Core} {s : Stmt} {code : List Stmt} (h : Whole c (s :: code)) :
    s ≠ .receiveHandler ∧ s ≠ .hehSwitch ∧ s ≠ .hehRelease := by
  generalize hall : s :: code = all at h
  cases h with
  | driver h =>
    subst hall
    have hs := (Only.cons_iff.mp h).1
    refine ⟨?_, ?_, ?_⟩ <;> intro h <;> subst h <;> cases hs
  | start h =>
    obtain ⟨rfl, -⟩ := List.cons.inj hall
    refine ⟨?_, ?_, ?_⟩ <;> exact Stmt.noConfusion
  | select hbusy h =>
    obtain ⟨rfl, -⟩ := List.cons.inj hall
    refine ⟨?_, ?_, ?_⟩ <;> exact Stmt.noConfusion
  | header hbusy h =>
    obtain ⟨rfl, -⟩ := List.cons.inj hall
    refine ⟨?_, ?_, ?_⟩ <;> exact Stmt.noConfusion

theorem Torn.head {c : Core} {s : Stmt} {code : List Stmt} (h : Torn c (s :: code)) :
    s ≠ .readHeader ∧ s ≠ .hehSwitch ∧ s ≠ .hehRelease := by
  generalize hall : s :: code = all at h
  cases h with
  | @transfer pre rest hbusy hpre h =>
    cases pre with
    | nil =>
      obtain ⟨rfl, -⟩ := List.cons.inj hall
      refine ⟨?_, ?_, ?_⟩ <;> exact Stmt.noConfusion
    | cons a pre =>
      obtain ⟨rfl, -⟩ := List.cons.inj hall
      have hs := (Only.cons_iff.mp hpre).1
      refine ⟨?_, ?_, ?_⟩ <;> intro h <;> subst h <;> cases hs
  | @close pre rest henable hpre h =>
    cases pre with
    | nil =>
      obtain ⟨rfl, -⟩ := List.cons.inj hall
      refine ⟨?_, ?_, ?_⟩ <;> exact Stmt.noConfusion
    | cons a pre =>
      obtain ⟨rfl, -⟩ := List.cons.inj hall
      have hs := (Only.cons_iff.mp hpre).1
      refine ⟨?_, ?_, ?_⟩ <;> intro h <;> subst h <;> cases hs

section
variable {x : Exchange} {size : Nat} {args : WaitArgs} {c : Core} {s : Stmt}
  {code tail : List Stmt}

theorem driver_stmt {r : Reply} (hcode : Whole c (s :: code))
    (htail : Tail x.usOpcode args c tail) (hbuf : Buffer x.usOpcode c r) (t : Config)
    (hok : x.ReplyKept (⟨c, s :: (code ++ tail)⟩, r) .stmt) :
    ReplyInv x.usOpcode args ⟨(exec patches s c).1, (exec patches s c).2 ++ (code ++ tail)⟩
      (x.observe r ⟨c, s :: (code ++ tail)⟩ .stmt t) := by
  rw [← List.append_assoc]
  by_cases hs : s = .readHeader
  · subst hs
    obtain ⟨hsl, htorn⟩ := @Whole.readHeader patches _ _ hcode
    have hnot : r ≠ .held := hok.1 rfl
    cases r with
    | awaited => exact .reading htorn (htail.congr (congrArg _ hsl))
    | held => exact absurd rfl hnot
    | consumed => exact hbuf.elim
    | discarded => exact hbuf.elim
  · obtain ⟨hcallback, hhandle, hrelease⟩ := hcode.head
    obtain ⟨hrx, hsl, hwhole⟩ := @Whole.stmt patches _ _ _ hcode hs
    rw [Exchange.observe_stmt hs hcallback hhandle hrelease]
    exact .driver hwhole (htail.congr (congrArg _ hsl)) (hbuf.congr hrx (congrArg _ hsl))

theorem reading_stmt (hop : (x.usOpcode, size) ∈ resultObjects) (hcode : Torn c (s :: code))
    (htail : Tail x.usOpcode args c tail) (t : Config)
    (hok : x.ReplyKept (⟨c, s :: (code ++ tail)⟩, .awaited) .stmt) :
    ReplyInv x.usOpcode args ⟨(exec patches s c).1, (exec patches s c).2 ++ (code ++ tail)⟩
      (x.observe .awaited ⟨c, s :: (code ++ tail)⟩ .stmt t) := by
  rw [← List.append_assoc]
  by_cases hs : s = .receiveHandler
  · subst hs
    have hresume : Only Stmt.driver (exec patches .receiveHandler c).2 :=
      only_receiveHandler patches c rfl
    have hwhole : Whole (exec patches .receiveHandler c).1
        ((exec patches .receiveHandler c).2 ++ code) :=
      .driver (hresume.append hcode.receiveHandler)
    have htail' : Tail x.usOpcode args (exec patches .receiveHandler c).1 tail :=
      htail.congr (spiReceiveHandler_sameWait c.sl c.data).1
    have hobs : x.observe .awaited ⟨c, .receiveHandler :: (code ++ tail)⟩ .stmt t =
        x.read .awaited c c.data (!(spiReceiveHandler c.sl c.data).2) := rfl
    rw [hobs]
    rcases @Exchange.read_buffer x size hop c (exec patches .receiveHandler c).1 (hok.2 rfl) rfl
      with ⟨hheld, -, hbuf⟩ | ⟨hawaited, hother⟩
    · rw [show x.read .awaited c c.data (!(spiReceiveHandler c.sl c.data).2) = .held from hheld]
      exact .driver hwhole htail' hbuf
    · rw [show x.read .awaited c c.data (!(spiReceiveHandler c.sl c.data).2) = .awaited
        from hawaited]
      exact .driver hwhole htail' (Or.inr hother)
  · obtain ⟨hread, hhandle, hrelease⟩ := hcode.head
    obtain ⟨hsl, htorn⟩ := @Torn.stmt patches _ _ _ hcode hs
    rw [Exchange.observe_stmt hread hs hhandle hrelease]
    exact .reading htorn (htail.congr (congrArg _ hsl))

theorem tail_stmt {r : Reply} {rest : List Stmt} (hop : (x.usOpcode, size) ∈ resultObjects)
    (htail : Tail x.usOpcode args c (s :: rest)) (hbuf : Buffer x.usOpcode c r) (t : Config) :
    ReplyInv x.usOpcode args ⟨(exec patches s c).1, (exec patches s c).2 ++ rest⟩
      (x.observe r ⟨c, s :: rest⟩ .stmt t) := by
  cases htail with
  | wait => exact .testing rfl (hbuf.congr rfl rfl)
  | patch h =>
    have hpatches : Only Stmt.driver (exec patches .hehPatch c).2 := by
      simp only [exec]
      split
      · exact Only.flatMap _ driver_spiWriteCode
      · rfl
    exact .driver (.driver hpatches) (.return h) (hbuf.congr rfl rfl)
  | «return» h =>
    have hwait : waitOver c.sl = false := by
      rw [waitOver, h, decide_eq_false (waited_spec hop).1, Bool.false_and]
    simp only [exec, hwait, Bool.false_eq_true, if_false]
    exact .testing h hbuf

theorem testing_stmt {r : Reply} (hwait : c.sl.usRxEventOpcode = x.usOpcode)
    (hbuf : Buffer x.usOpcode c r) (t : Config) :
    ReplyInv x.usOpcode args ⟨(exec patches .hehTest c).1, (exec patches .hehTest c).2 ++ []⟩
      (x.observe r ⟨c, [.hehTest]⟩ .stmt t) := by
  rw [List.append_nil]
  by_cases hflag : c.sl.usEventOrDataReceived ≠ 0
  · simp only [exec, if_pos hflag]
    refine .taken hwait hbuf fun hr => ?_
    subst hr
    exact hbuf.resolve_left hflag
  · simp only [exec, if_neg hflag]
    exact .testing hwait hbuf

/-- The loop looks at the packet it has taken. -/
theorem taken_stmt {r : Reply} (hwait : c.sl.usRxEventOpcode = x.usOpcode)
    (hbuf : Buffer x.usOpcode c r) (hother : r = .awaited → eventIs x.usOpcode c.data = false)
    (t : Config) :
    ReplyInv x.usOpcode args ⟨(exec patches .hehTestType c).1, (exec patches .hehTestType c).2 ++
      hehTail⟩ (x.observe r ⟨c, .hehTestType :: hehTail⟩ .stmt t) := by
  have hobs : x.observe r ⟨c, .hehTestType :: hehTail⟩ .stmt t = r := rfl
  rw [hobs]
  by_cases hev : c.data hciPacketTypeOffset = hciTypeEvnt
  · simp only [exec, if_pos hev]
    cases r with
    | awaited =>
      refine .other hwait (fun hcode => ?_) .unsol
      cases (hother rfl).symm.trans (eventIs_iff.mpr ⟨hev, hcode⟩)
    | held => exact .decoding hwait (Buffer.congr hbuf rfl rfl) (eventIs_iff.mp hbuf.event).2
    | consumed => exact hbuf.elim
    | discarded => exact hbuf.elim
  · simp only [exec, if_neg hev]
    cases r with
    | awaited => exact .data hwait
    | held => exact absurd (eventIs_iff.mp hbuf.event).1 hev
    | consumed => exact hbuf.elim
    | discarded => exact hbuf.elim

/-- A packet for which a callback is missing is not the reply. -/
theorem eventIs_of_callsNull (hop : (x.usOpcode, size) ∈ resultObjects)
    (hnull : CallsNull c.sl c.data) : eventIs x.usOpcode c.data = false := by
  apply Bool.eq_false_iff.mpr
  intro hevent
  have hcode : eventCode c.data = x.usOpcode := (eventIs_iff.mp hevent).2
  exact (waited_spec hop).2.1 (hcode.symm.trans hnull.2.1)

theorem other_stmt {rest : List Stmt} (hop : (x.usOpcode, size) ∈ resultObjects)
    (hwait : c.sl.usRxEventOpcode = x.usOpcode)
    (hne : c.usReceivedEventOpcode ≠ x.usOpcode) (hcode : OtherEvent (s :: rest)) (t : Config) :
    ReplyInv x.usOpcode args ⟨(exec patches s c).1, (exec patches s c).2 ++ (rest ++ hehTail)⟩
      (x.observe .awaited ⟨c, s :: (rest ++ hehTail)⟩ .stmt t) := by
  cases hcode with
  | unsol =>
    have hsame := (hciUnsolEventHandler_sameWait c.sl c.data).1.trans hwait
    have hnext : ∀ code, OtherEvent code →
        ReplyInv x.usOpcode args ⟨(exec patches .hehUnsol c).1, code ++ hehTail⟩ .awaited :=
      fun code hcode => .other hsame hne hcode
    by_cases hnull : CallsNull c.sl c.data
    · rw [show (exec patches .hehUnsol c).2 = [.hang] by simp only [exec, if_pos hnull]]
      have hother : eventIs x.usOpcode c.data = false := eventIs_of_callsNull hop hnull
      exact .hung (.inr hother)
    rcases Bool.eq_false_or_eq_true (hciUnsolEventHandler c.sl c.data).2 with hhandled | hhandled
    · rw [show (exec patches .hehUnsol c).2 = [] by
        simp only [exec, if_neg hnull, hhandled, if_true]]
      exact hnext _ .clear
    · rw [show (exec patches .hehUnsol c).2 = [.hehSwitch] by
        simp only [exec, if_neg hnull, hhandled, Bool.false_eq_true, if_false]]
      exact hnext _ .switch
  | «switch» => exact .other ((hciEventSwitch_sameWait _ _ _).1.trans hwait) hne .clear
  | clear =>
    have hopcode : c.usReceivedEventOpcode ≠ c.sl.usRxEventOpcode := by
      rw [hwait]
      exact hne
    simp only [exec, if_neg hopcode]
    exact .releasing hwait

theorem Held.inTime {op : UInt16} (hwait : c.sl.usRxEventOpcode = op) (h : Held op c) :
    InTime op c.sl c.data := by
  unfold InTime
  split
  · exact h.status ‹_›
  · exact hwait

/-- The loop hands the reply to its switch. -/
theorem decoding_stmt (hop : (x.usOpcode, size) ∈ resultObjects)
    (hwait : c.sl.usRxEventOpcode = x.usOpcode) (hheld : Held x.usOpcode c)
    (hcode : c.usReceivedEventOpcode = x.usOpcode) (t : Config) :
    ReplyInv x.usOpcode args ⟨(exec patches .hehUnsol c).1, (exec patches .hehUnsol c).2 ++
      .hehClearOpcode :: hehTail⟩
      (x.observe .held ⟨c, .hehUnsol :: .hehClearOpcode :: hehTail⟩ .stmt t) := by
  have hrefuses := handler_refuses hop hheld.event (hheld.inTime hwait)
  have hsame := (hciUnsolEventHandler_sameWait c.sl c.data).1.trans hwait
  simp only [exec, if_neg (not_callsNull_of_refused hrefuses), hrefuses, Bool.false_eq_true,
    if_false]
  exact .switching hsame hcode

/-- A statement of main code. -/
theorem ReplyInv.stmt {r : Reply} {rest : List Stmt} (hop : (x.usOpcode, size) ∈ resultObjects)
    (h : ReplyInv x.usOpcode args ⟨c, s :: rest⟩ r) (t : Config)
    (hok : x.ReplyKept (⟨c, s :: rest⟩, r) .stmt) :
    ReplyInv x.usOpcode args ⟨(exec patches s c).1, (exec patches s c).2 ++ rest⟩
      (x.observe r ⟨c, s :: rest⟩ .stmt t) := by
  generalize htodo : s :: rest = todo at h
  cases h with
  | @driver c r code tail hcode htail hbuf =>
    cases code with
    | nil =>
      subst htodo
      exact tail_stmt hop htail hbuf t
    | cons a code =>
      obtain ⟨rfl, rfl⟩ := List.cons.inj htodo
      exact driver_stmt hcode htail hbuf t hok
  | @reading c code tail hcode htail =>
    cases code with
    | nil => cases hcode.ne_nil rfl
    | cons a code =>
      obtain ⟨rfl, rfl⟩ := List.cons.inj htodo
      exact reading_stmt hop hcode htail t hok
  | testing hwait hbuf =>
    obtain ⟨rfl, rfl⟩ := List.cons.inj htodo
    exact testing_stmt hwait hbuf t
  | taken hwait hbuf hother =>
    obtain ⟨rfl, rfl⟩ := List.cons.inj htodo
    exact taken_stmt hwait hbuf hother t
  | @other c code hwait hne hcode =>
    cases code with
    | nil => cases hcode
    | cons a code =>
      obtain ⟨rfl, rfl⟩ := List.cons.inj htodo
      exact other_stmt hop hwait hne hcode t
  | data hwait =>
    obtain ⟨rfl, rfl⟩ := List.cons.inj htodo
    exact .releasing hwait
  | decoding hwait hheld hcode =>
    obtain ⟨rfl, rfl⟩ := List.cons.inj htodo
    exact decoding_stmt hop hwait hheld hcode t
  | @switching c hwait hcode =>
    obtain ⟨rfl, rfl⟩ := List.cons.inj htodo
    have htakes : c.takes x.usOpcode = true := by
      simp only [Core.takes, hcode, hwait, decide_true, Bool.and_self]
    simp only [Exchange.observe, List.head?_cons, htakes, if_true]
    exact .consumed _
  | releasing hwait =>
    obtain ⟨rfl, rfl⟩ := List.cons.inj htodo
    have hresume : Only Stmt.driver spiResumeSpi := rfl
    have hnext : ReplyInv x.usOpcode args ⟨(exec patches .hehRelease c).1,
        spiResumeSpi ++ [.hehPatch, .hehTestReturn]⟩ .awaited :=
      .driver (.driver hresume) (.patch hwait) (Or.inl rfl)
    exact hnext
  | hung hbuf =>
    obtain ⟨rfl, rfl⟩ := List.cons.inj htodo
    exact .hung hbuf
  | consumed s =>
    rw [Exchange.observe_consumed]
    exact .consumed _

end

/-- An interrupt reads a packet, or it changes nothing that matters here. -/
theorem isr_reads {c c' : Core} (h : Isr patches { c with pinLow := true } c') :
    (c.reads = true ∧ c' = Core.irqRead { c with pinLow := true }) ∨
      (c.reads = false ∧ c'.rx = c.rx ∧ c'.sl = c.sl ∧
        c'.usReceivedEventOpcode = c.usReceivedEventOpcode ∧ (c.busy → c'.busy) ∧
        (c.enable = false → c'.enable = false) ∧ c'.coming = c.coming) := by
  rcases Bool.eq_false_or_eq_true c.enable with hen | hen
  · have hmask : c.enable = false → c'.enable = false := by
      intro hc
      cases hen.symm.trans hc
    rcases isr_accepted h hen with ⟨hpow, rfl⟩ | ⟨hidle, rfl⟩ | ⟨hwrite, rfl⟩ | ⟨-, hidle, -, rfl⟩
    · have hpow : c.ulSpiState = .powerup := hpow
      refine .inr ⟨by simp only [Core.reads, hpow, reduceCtorEq, decide_false, Bool.and_false],
        rfl, rfl, rfl, fun hbusy => ?_, hmask, rfl⟩
      rcases hbusy with hb | hb <;> cases hpow.symm.trans hb
    · have hidle : c.ulSpiState = .idle := hidle
      exact .inl ⟨by simp only [Core.reads, hen, hidle, decide_true, Bool.and_self], rfl⟩
    · have hwrite : c.ulSpiState = .writeIrq := hwrite
      refine .inr ⟨by simp only [Core.reads, hwrite, reduceCtorEq, decide_false, Bool.and_false],
        rfl, rfl, rfl, fun hbusy => ?_, hmask, rfl⟩
      rcases hbusy with hb | hb <;> cases hwrite.symm.trans hb
    · have hidle : c.ulSpiState ≠ .idle := hidle
      exact .inr ⟨by simp only [Core.reads, hidle, decide_false, Bool.and_false], rfl, rfl,
        rfl, fun hbusy => hbusy, hmask, rfl⟩
  · rw [isr_refused h hen]
    exact .inr ⟨by simp only [Core.reads, hen, Bool.false_and], rfl, rfl, rfl,
      fun hbusy => hbusy, fun hmasked => hmasked, rfl⟩

theorem Whole.congr {c c' : Core} {code : List Stmt} (h : Whole c code) (hbusy : c.busy → c'.busy) :
    Whole c' code := by
  cases h with
  | driver h => exact .driver h
  | start h => exact .start h
  | select hb h => exact .select (hbusy hb) h
  | header hb h => exact .header (hbusy hb) h

theorem Torn.congr {c c' : Core} {code : List Stmt} (h : Torn c code) (hbusy : c.busy → c'.busy)
    (henable : c.enable = false → c'.enable = false) : Torn c' code := by
  cases h with
  | transfer hb hcode h => exact .transfer (hbusy hb) hcode h
  | close he hcode h => exact .close (henable he) hcode h

/-- Only these parts of the data matter. -/
theorem ReplyInv.congr {op : UInt16} {args : WaitArgs} {c c' : Core} {todo : List Stmt} {r : Reply}
    (h : ReplyInv op args ⟨c, todo⟩ r) (hrx : c'.rx = c.rx) (hsl : c'.sl = c.sl)
    (hrec : c'.usReceivedEventOpcode = c.usReceivedEventOpcode)
    (hbusy : c.busy → c'.busy) (henable : c.enable = false → c'.enable = false) :
    ReplyInv op args ⟨c', todo⟩ r := by
  have hwait : c'.sl.usRxEventOpcode = c.sl.usRxEventOpcode := congrArg _ hsl
  have hflag : c'.sl.usEventOrDataReceived = c.sl.usEventOrDataReceived := congrArg _ hsl
  cases h with
  | driver hcode htail hbuf =>
    exact .driver (hcode.congr hbusy) (htail.congr hwait) (hbuf.congr hrx hflag)
  | reading hcode htail => exact .reading (hcode.congr hbusy henable) (htail.congr hwait)
  | testing hop hbuf => exact .testing (hwait.trans hop) (hbuf.congr hrx hflag)
  | taken hop hbuf hother =>
    refine .taken (hwait.trans hop) (hbuf.congr hrx hflag) fun hr => ?_
    rw [Core.data, hrx]
    exact hother hr
  | other hop hne hcode => exact .other (hwait.trans hop) (by rw [hrec]; exact hne) hcode
  | data hop => exact .data (hwait.trans hop)
  | releasing hop => exact .releasing (hwait.trans hop)
  | hung hbuf => exact .hung (hbuf.congr hrx hflag)
  | decoding hop hheld hcode =>
    exact .decoding (hwait.trans hop) (Buffer.congr (r := .held) hheld hrx hflag) (hrec.trans hcode)
  | switching hop hcode => exact .switching (hwait.trans hop) (hrec.trans hcode)
  | consumed => exact .consumed _

/-- No interrupt reads while main code does. -/
theorem Torn.not_reads {c : Core} {code : List Stmt} (h : Torn c code) : c.reads = false := by
  cases h with
  | transfer hbusy =>
    rcases hbusy with hb | hb <;>
      simp only [Core.reads, hb, reduceCtorEq, decide_false, Bool.and_false]
  | close henable => simp only [Core.reads, henable, Bool.false_and]

/-- An interrupt that reads finds main code outside a read, or before it. -/
theorem Whole.reads {c c' : Core} {code : List Stmt} (h : Whole c code) (hreads : c.reads = true) :
    Whole c' code := by
  have hidle : ¬ c.busy := by
    intro hb
    rcases hb with hb | hb <;>
      simp only [Core.reads, hb, reduceCtorEq, decide_false, Bool.and_false, Bool.false_eq_true]
        at hreads
  cases h with
  | driver h => exact .driver h
  | start h => exact .start h
  | select hb => exact absurd hb hidle
  | header hb => exact absurd hb hidle

section
variable {x : Exchange} {size : Nat} {args : WaitArgs} {c c' : Core} {todo : List Stmt}

/-- A packet read in an interrupt while the reply is awaited: `r` is what becomes
of the reply. -/
theorem ReplyInv.refill {op : UInt16} {r : Reply} (h : ReplyInv op args ⟨c, todo⟩ .awaited)
    (hreads : c.reads = true) (hwait : c'.sl.usRxEventOpcode = c.sl.usRxEventOpcode)
    (hrec : c'.usReceivedEventOpcode = c.usReceivedEventOpcode)
    (hbuf : Buffer op c' r) (hother : r = .awaited → eventIs op c'.data = false)
    (hhandles : todo.head?.any Stmt.handles = true → r = .awaited) :
    ReplyInv op args ⟨c', todo⟩ r := by
  generalize hq : Reply.awaited = q at h
  cases h with
  | driver hcode htail => exact .driver (hcode.reads hreads) (htail.congr hwait) hbuf
  | reading hcode => cases hreads.symm.trans hcode.not_reads
  | testing hop => exact .testing (hwait.trans hop) hbuf
  | taken hop => exact .taken (hwait.trans hop) hbuf hother
  | other hop hne hcode =>
    rw [hhandles (by cases hcode <;> rfl)]
    exact .other (hwait.trans hop) (by rw [hrec]; exact hne) hcode
  | data hop =>
    rw [hhandles rfl]
    exact .data (hwait.trans hop)
  | releasing hop =>
    rw [hhandles rfl]
    exact .releasing (hwait.trans hop)
  | hung => exact .hung hbuf
  | decoding => cases hq
  | switching => cases hq
  | consumed => cases hq

theorem ReplyInv.ne_discarded {op : UInt16} {r : Reply} (h : ReplyInv op args ⟨c, todo⟩ r) :
    r ≠ .discarded := by
  intro hr
  subst hr
  generalize hq : Reply.discarded = q at h
  cases h with
  | driver _ _ hbuf => subst hq; exact hbuf
  | testing _ hbuf => subst hq; exact hbuf
  | taken _ hbuf => subst hq; exact hbuf
  | hung hbuf => subst hq; exact hbuf
  | reading | other | data | releasing | decoding | switching | consumed => cases hq

/-- An interrupt that reads a packet. -/
theorem ReplyInv.read {r : Reply} (hop : (x.usOpcode, size) ∈ resultObjects)
    (h : ReplyInv x.usOpcode args ⟨c, todo⟩ r) (hreads : c.reads = true)
    (hc' : c' = Core.irqRead { c with pinLow := true })
    (hok : x.ReplyKept (⟨c, todo⟩, r) .edge) (t : Config) :
    ReplyInv x.usOpcode args ⟨c', todo⟩ (x.observe r ⟨c, todo⟩ .edge t) := by
  obtain ⟨hnot, hans, hhandles⟩ := hok hreads
  cases r with
  | awaited =>
    have hsame : SameWait c.sl c'.sl := by
      rw [hc']
      exact spiReceiveHandler_sameWait c.sl c.nextData
    have hdata : c'.data = c.nextData := by rw [hc']; rfl
    have hrec : c'.usReceivedEventOpcode = c.usReceivedEventOpcode := by rw [hc']; rfl
    have hobs : x.observe .awaited ⟨c, todo⟩ .edge t =
        x.read .awaited c c'.data (!(spiReceiveHandler c.sl c'.data).2) := by
      rw [hdata]
      simp only [Exchange.observe, hreads, if_true, if_neg hnot]
      rfl
    rw [← hdata] at hans hhandles
    rw [hobs]
    rcases Exchange.read_buffer hop hans (by rw [hc']; rfl) with
      ⟨hheld, hevent, hbuf⟩ | ⟨hawaited, hother⟩
    · rw [hheld]
      refine h.refill hreads hsame.1 hrec hbuf Reply.noConfusion fun hhead => ?_
      cases (hhandles rfl hevent).symm.trans hhead
    · rw [hawaited]
      exact h.refill hreads hsame.1 hrec (Or.inr hother) (fun _ => hother) fun _ => rfl
  | held => exact absurd rfl hnot
  | consumed =>
    rw [Exchange.observe_consumed]
    exact .consumed _
  | discarded => exact absurd rfl h.ne_discarded

theorem ReplyInv.edge {r : Reply} (hop : (x.usOpcode, size) ∈ resultObjects)
    (h : ReplyInv x.usOpcode args ⟨c, todo⟩ r) (hisr : Isr patches { c with pinLow := true } c')
    (hok : x.ReplyKept (⟨c, todo⟩, r) .edge) (t : Config) :
    ReplyInv x.usOpcode args ⟨c', todo⟩ (x.observe r ⟨c, todo⟩ .edge t) := by
  rcases isr_reads hisr with ⟨hreads, hc'⟩ | ⟨hreads, hrx, hsl, hrec, hbusy, henable, -⟩
  · exact h.read hop hreads hc' hok t
  · have hobs : x.observe r ⟨c, todo⟩ .edge t = r := by
      simp only [Exchange.observe, hreads, Bool.false_eq_true, if_false]
    rw [hobs]
    exact h.congr hrx hsl hrec hbusy henable

end

/-! Runs. -/

/-- The reply is not lost: it is never discarded, the loop's next four statements
consume it where it is held at the loop's test, and the command returns only when
it is consumed. -/
def Exchange.ReplySafe (x : Exchange) (patches : Mem → List SpiFrame) (s : Config × Reply) : Prop :=
  s.2 ≠ .discarded ∧
    (s.2 = .held → s.1.todo = [.hehTest] →
      (mainAlone x.observe (fun _ => true) patches 4 s).map Prod.snd = some .consumed) ∧
    (s.1.todo = [] → s.2 = .consumed)

theorem Tail.ne_nil {op : UInt16} {args : WaitArgs} {c : Core} {tail : List Stmt}
    (h : Tail op args c tail) : tail ≠ [] := by
  cases h <;> exact List.cons_ne_nil _ _

/-- At the loop's test nothing but the test is left to do. -/
theorem ReplyInv.at_test {op : UInt16} {args : WaitArgs} {c : Core} {r : Reply}
    (h : ReplyInv op args ⟨c, [.hehTest]⟩ r) (hr : r = .held) :
    c.sl.usRxEventOpcode = op ∧ Held op c := by
  generalize htodo : [Stmt.hehTest] = todo at h
  cases h with
  | @driver c r code tail _ htail =>
    cases code with
    | nil => subst htodo; cases htail
    | cons a code =>
      have hnil := (List.cons.inj htodo).2.symm
      exact absurd (List.append_eq_nil_iff.mp hnil).2 htail.ne_nil
  | reading => cases hr
  | testing hop hbuf => subst hr; exact ⟨hop, hbuf⟩
  | taken | decoding | switching | hung => cases htodo
  | other | data | releasing | consumed => cases hr

/-- The loop takes a reply that is held. -/
theorem ReplyInv.consumes {x : Exchange} {size : Nat} {args : WaitArgs} {c : Core}
    (hop : (x.usOpcode, size) ∈ resultObjects)
    (h : ReplyInv x.usOpcode args ⟨c, [.hehTest]⟩ .held) :
    (mainAlone x.observe (fun _ => true) patches 4 (⟨c, [.hehTest]⟩, .held)).map Prod.snd =
      some .consumed := by
  obtain ⟨hwait, hheld⟩ := h.at_test rfl
  obtain ⟨hev, hcode⟩ := eventIs_iff.mp hheld.event
  have hev : c.data hciPacketTypeOffset = hciTypeEvnt := hev
  have hrefuses : hciUnsolEventHandler c.sl c.data = (c.sl, false) :=
    (hciUnsolEventHandler_refused (handler_refuses hop hheld.event (hheld.inTime hwait))).1
  have htest : exec patches .hehTest c = (c, .hehTestType :: hehTail) := by
    simp only [exec, if_pos hheld.flag]
    rfl
  have htype : exec patches .hehTestType c =
      ({ c with usReceivedEventOpcode := x.usOpcode }, [.hehUnsol, .hehClearOpcode]) := by
    simp only [exec, if_pos hev, hcode]
  have hunsol : exec patches .hehUnsol { c with usReceivedEventOpcode := x.usOpcode } =
      ({ c with usReceivedEventOpcode := x.usOpcode }, [.hehSwitch]) := by
    have hsame : hciUnsolEventHandler c.sl
        (Core.data { c with usReceivedEventOpcode := x.usOpcode }) = (c.sl, false) := hrefuses
    have hcalls : ¬ CallsNull c.sl (Core.data { c with usReceivedEventOpcode := x.usOpcode }) :=
      not_callsNull_of_refused (congrArg Prod.snd hsame)
    simp only [exec, if_neg hcalls, hsame, Bool.false_eq_true, if_false]
  have htakes : Core.takes { c with usReceivedEventOpcode := x.usOpcode } x.usOpcode = true := by
    simp only [Core.takes, hwait, decide_true, Bool.and_self]
  simp only [mainAlone, if_true, htest, htype, hunsol, Exchange.observe, List.cons_append,
    List.nil_append, List.head?_cons, htakes, Option.map_some]

theorem ReplyInv.returned {op : UInt16} {args : WaitArgs} {c : Core} {r : Reply}
    (h : ReplyInv op args ⟨c, []⟩ r) : r = .consumed := by
  generalize htodo : ([] : List Stmt) = todo at h
  cases h with
  | driver _ htail => exact absurd (List.append_eq_nil_iff.mp htodo.symm).2 htail.ne_nil
  | reading _ htail => exact absurd (List.append_eq_nil_iff.mp htodo.symm).2 htail.ne_nil
  | other _ _ hcode => cases hcode <;> cases htodo
  | testing | taken | data | releasing | hung | decoding | switching => cases htodo
  | consumed => rfl

theorem ReplyInv.safe {x : Exchange} {size : Nat} {args : WaitArgs} {s : Config × Reply}
    (hop : (x.usOpcode, size) ∈ resultObjects) (h : ReplyInv x.usOpcode args s.1 s.2) :
    x.ReplySafe patches s := by
  obtain ⟨⟨c, todo⟩, r⟩ := s
  refine ⟨h.ne_discarded, ?_, ?_⟩
  · intro hr htodo
    subst hr htodo
    exact h.consumes hop
  · intro htodo
    subst htodo
    exact h.returned

theorem ReplyInv.step {x : Exchange} {size : Nat} {args : WaitArgs} {s t : Config} {r : Reply}
    {l : Label} (hop : (x.usOpcode, size) ∈ resultObjects) (h : ReplyInv x.usOpcode args s r)
    (hcall : ∀ k, l ≠ .call k) (hs : SpiStep patches s l t) (hok : x.ReplyKept (s, r) l) :
    ReplyInv x.usOpcode args t (x.observe r s l t) := by
  cases hs with
  | stmt c s rest => exact h.stmt hop _ hok
  | call c k => exact absurd rfl (hcall k)
  | edge todo hpin hisr => exact h.edge hop hisr hok _
  | rise c todo => exact h.congr rfl rfl rfl (fun hbusy => hbusy) fun hmasked => hmasked

theorem ReplyInv.run {x : Exchange} {size : Nat} {args : WaitArgs} {s t : Config × Reply}
    {ls : List Label} (hop : (x.usOpcode, size) ∈ resultObjects)
    (h : ReplyInv x.usOpcode args s.1 s.2) (hcall : ∀ k, .call k ∉ ls)
    (hrun : Run (guarded x.ReplyKept (watch (SpiStep patches) x.observe)) s ls t) :
    ReplyInv x.usOpcode args t.1 t.2 := by
  apply hrun.invariant (P := fun s => ReplyInv x.usOpcode args s.1 s.2) h
  intro a l b hl ha ⟨hok, hstep, hobs⟩
  rw [hobs]
  apply ha.step hop _ hstep hok
  intro k hk
  exact hcall k (hk ▸ hl)

/-- **No command reply is lost**, for every opcode that is waited for, in every run
of the command that meets the condition, if no old event with that opcode is
waiting at the call. -/
theorem replySafe_of_run {f : SpiFrame} {op : UInt16} {size : Nat} {args : WaitArgs} {c : Core}
    {ls : List Label} {s : Config × Reply} (hop : (op, size) ∈ resultObjects)
    (hfresh : c.sl.usEventOrDataReceived = 0 ∨ eventIs op c.data = false)
    (hcall : ∀ k, .call k ∉ ls)
    (hrun : Run (guarded (Exchange.mk f op c.bus).ReplyKept
      (watch (SpiStep patches) (Exchange.mk f op c.bus).observe))
      (⟨c, (Call.command f op args).code⟩, .awaited) ls s) :
    (Exchange.mk f op c.bus).ReplySafe patches s := by
  have hstart : ReplyInv op args ⟨c, (Call.command f op args).code⟩ .awaited :=
    .driver (.driver (driver_spiWriteCode f)) .wait hfresh
  exact (ReplyInv.run (x := ⟨f, op, c.bus⟩) hop hstart hcall hrun).safe hop

/-- The packet with the reply of `socket`. -/
def socketPacket : Mem :=
  fun i => if i < spiHeaderSize then 0 else
    eventFrame hciCmndSocket 0 [3, 0, 0, 0] (i - spiHeaderSize)

/-- The idle driver, with that packet to come. -/
def socketCore : Core := { idleCore with coming := fun _ => socketPacket }

/-- `socket`, with the one-byte frame for its command. -/
def socketExchange : Exchange := ⟨oneByteFrame, hciCmndSocket, []⟩

/-- No packet is read by the statement. -/
def Stmt.readsNothing : Stmt → Bool
  | readHeader | receiveHandler => false
  | _ => true

theorem kept_of_tested {x : Exchange} {s t : Config × Reply} {ls : List Label}
    (h : Run (guarded (fun s _ => s.1.todo.head?.all Stmt.readsNothing = true)
      (watch (SpiStep patches) x.observe)) s ls t) (hls : ∀ l ∈ ls, l = .stmt) :
    Run (guarded x.ReplyKept (watch (SpiStep patches) x.observe)) s ls t := by
  apply h.mono
  intro a l b hl ⟨htest, hstep⟩
  obtain rfl := hls l hl
  refine ⟨⟨fun hhead => ?_, fun hhead => ?_⟩, hstep⟩
  · rw [hhead] at htest
    cases htest
  · rw [hhead] at htest
    cases htest

theorem kept_edge {x : Exchange} {c c' : Core} {todo : List Stmt} {r : Reply} (n : Nat)
    (hok : x.ReplyKept (⟨c, todo⟩, r) .edge) (hpin : c.pinLow = false)
    (hisr : Code.runAlone (exec patches) n { c with pinLow := true } wlanIrqHandler = (c', [])) :
    Run (guarded x.ReplyKept (watch (SpiStep patches) x.observe)) (⟨c, todo⟩, r) [.edge]
      (⟨c', todo⟩, x.observe r ⟨c, todo⟩ .edge ⟨c', todo⟩) :=
  Run.single ⟨hok, .edge todo hpin (Code.finishes_of_runAlone n hisr), rfl⟩

theorem kept_rise {x : Exchange} (c : Core) (todo : List Stmt) (r : Reply) :
    Run (guarded x.ReplyKept (watch (SpiStep patches) x.observe)) (⟨c, todo⟩, r) [.rise]
      (⟨{ c with pinLow := false }, todo⟩, r) :=
  Run.single ⟨trivial, .rise c todo, rfl⟩

/-- The driver at the loop's test, the frame being out. -/
def waitingCore : Core :=
  { socketCore with
    tx := oneByteFrame
    bus := .csEnable :: (oneByteFrame.wire.map .tx ++ [.csDisable])
    sl := { socketCore.sl with usRxEventOpcode := hciCmndSocket } }

/-- The driver behind the interrupt that reads the reply. -/
def heldCore : Core :=
  (Code.runAlone (exec fun _ => []) 60 { waitingCore with pinLow := true } wlanIrqHandler).1

/-- The rest of the loop. -/
def socketEnd : Option (Config × Reply) :=
  mainAlone socketExchange.observe Stmt.readsNothing (fun _ => []) 10
    (⟨heldCore, [.hehTest]⟩, .held)

theorem socketEnd_isSome : socketEnd.isSome = true := by decide +kernel

/-- The reply comes when the loop waits for it: `socket` returns the descriptor 3. -/
theorem replySafe_socket : (socketEnd.get socketEnd_isSome).1.core.args.ret.mem 0 = 3 ∧
    socketExchange.ReplySafe (fun _ => []) (socketEnd.get socketEnd_isSome) := by
  have hop : (hciCmndSocket, 4) ∈ resultObjects := by decide
  have henable : Run (guarded socketExchange.ReplyKept
      (watch (SpiStep fun _ => []) socketExchange.observe))
      (⟨socketCore, (Call.command oneByteFrame hciCmndSocket socketCore.args).code⟩, .awaited)
      (List.replicate 9 .stmt) _ := kept_of_tested (run_tested 9 rfl) (by simp)
  have hout := (henable.append (kept_edge 30 nofun rfl rfl)).append (kept_rise _ _ _)
  have hwait : Run (guarded socketExchange.ReplyKept
      (watch (SpiStep fun _ => []) socketExchange.observe)) _ _
      (⟨waitingCore, [.hehTest]⟩, .awaited) :=
    hout.append (kept_of_tested (run_tested 4 rfl) (by simp))
  have hheld : Run (guarded socketExchange.ReplyKept
      (watch (SpiStep fun _ => []) socketExchange.observe)) _ _
      (⟨heldCore, [.hehTest]⟩, .held) :=
    hwait.append (kept_edge 60 (fun _ => ⟨nofun, fun _ _ => ⟨rfl, rfl⟩, fun _ _ => rfl⟩) rfl rfl)
  have hend := hheld.append
    (kept_of_tested (run_tested 10 (Option.some_get socketEnd_isSome).symm) (by simp))
  exact ⟨by decide +kernel, @replySafe_of_run _ oneByteFrame hciCmndSocket 4 socketCore.args
    socketCore _ _ hop (Or.inl rfl) (by simp) hend⟩

/-- The counterexample: the reply of `socket` comes when `SpiWrite` has returned
and the opcode is not yet published. -/
theorem not_replySafe : ¬ ∀ (patches : Mem → List SpiFrame) (f : SpiFrame) (op : UInt16)
    (size : Nat) (args : WaitArgs) (c : Core) (ls : List Label) (s : Config × Reply),
    (op, size) ∈ resultObjects →
    (c.sl.usEventOrDataReceived = 0 ∨ eventIs op c.data = false) → (∀ k, .call k ∉ ls) →
    Run (watch (SpiStep patches) (Exchange.mk f op c.bus).observe)
      (⟨c, (Call.command f op args).code⟩, .awaited) ls s →
    (Exchange.mk f op c.bus).ReplySafe patches s := by
  intro h
  have henable : Run (watch (SpiStep fun _ => []) socketExchange.observe)
      (⟨socketCore, (Call.command oneByteFrame hciCmndSocket socketCore.args).code⟩, .awaited)
      (List.replicate 9 .stmt) _ := run_mainAlone 9 rfl
  have hsent := (henable.append (run_edge _ _ 30 rfl rfl)).append (run_rise _ _ _)
  have hreturned := hsent.append (run_mainAlone 3 rfl)
  have hlost := (hreturned.append (run_edge _ _ 60 rfl rfl)).append (run_mainAlone 1 rfl)
  have hsafe := h _ oneByteFrame hciCmndSocket 4 socketCore.args socketCore _ _ (by decide)
    (Or.inl rfl) (by simp) hlost
  exact hsafe.1 rfl

end SpiderL3S
