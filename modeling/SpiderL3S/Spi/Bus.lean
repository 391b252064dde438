import SpiderL3S.Spi.Reply

/- What the device sees of the driver. `Peer` is the device's side of the bus: it cuts
   what passes into transfers, one for each assertion of the chip select, and takes no
   part in a byte outside of one, in a second assertion, or in bytes that go both ways
   in one transfer. `Place` says at which point of a transfer each place in the code
   is. While no interrupt comes in the middle of a frame that main code clocks out, none
   between the frame and its deassertion, and no frame goes out twice, every step keeps
   that (`Place.step`): whatever the order of calls and interrupts, the device sees whole
   transfers, the frames as they were handed to `SpiWrite` and the packets as it had them,
   and no transfer in another (`bus_whole`). -/
namespace SpiderL3S

open Runs Code

variable {patches : Mem → List SpiFrame}

/-! The device's side. -/

/-- The bytes of one assertion of the chip select. Nothing yet is a transfer out. -/
inductive Transfer
  | out (bytes : List UInt8)
  | into (bytes : List UInt8)
  deriving DecidableEq, Repr

/-- The transfers the device has seen, and the one under way. -/
structure Peer where
  past : List Transfer
  now : Option Transfer
  deriving DecidableEq, Repr

/-- What the device makes of one event, if it is one that may come. -/
def Peer.see (p : Peer) : BusEvent → Option Peer
  | .csEnable =>
    match p.now with
    | none => some { p with now := some (.out []) }
    | some _ => none
  | .csDisable =>
    match p.now with
    | none => none
    | some t => some ⟨p.past ++ [t], none⟩
  | .tx b =>
    match p.now with
    | some (.out bytes) => some { p with now := some (.out (bytes ++ [b])) }
    | _ => none
  | .rx b =>
    match p.now with
    | some (.into bytes) => some { p with now := some (.into (bytes ++ [b])) }
    | some (.out []) => some { p with now := some (.into [b]) }
    | _ => none

def Peer.follow (p : Peer) (bus : List BusEvent) : Option Peer := bus.foldlM Peer.see p

/-- A device that has seen nothing. -/
def Peer.start : Peer := ⟨[], none⟩

def Transfer.out? : Transfer → Option (List UInt8)
  | out bytes => some bytes
  | into _ => none

def Transfer.into? : Transfer → Option (List UInt8)
  | out _ => none
  | into bytes => some bytes

/-- What the device has been sent. -/
def Peer.heard (p : Peer) : List (List UInt8) := p.past.filterMap Transfer.out?

/-- What the device has sent. -/
def Peer.said (p : Peer) : List (List UInt8) := p.past.filterMap Transfer.into?

/-- The bytes of a packet that the host asks for. -/
def packetBytes (packet : Mem) : List UInt8 :=
  packet.slice 0 (headersSizeEvnt + dataToRecv packet)

/-- A transfer in which these bytes have been read. -/
def Transfer.reading : List UInt8 → Transfer
  | [] => .out []
  | bytes => .into bytes

theorem Peer.follow_append (p : Peer) (a b : List BusEvent) :
    p.follow (a ++ b) = (p.follow a).bind fun q => q.follow b := List.foldlM_append

theorem Peer.follow_cons (p : Peer) (e : BusEvent) (bus : List BusEvent) :
    p.follow (e :: bus) = (p.see e).bind fun q => q.follow bus := List.foldlM_cons

theorem Peer.follow_single (p : Peer) (e : BusEvent) : p.follow [e] = p.see e := by
  rw [follow_cons]
  cases p.see e <;> rfl

theorem Peer.see_rx (past : List Transfer) (bytes : List UInt8) (b : UInt8) :
    Peer.see ⟨past, some (.reading bytes)⟩ (.rx b) =
      some ⟨past, some (.reading (bytes ++ [b]))⟩ := by
  cases bytes with
  | nil => rfl
  | cons a bytes => rfl

/-- Bytes read in one transfer. -/
theorem Peer.follow_rx (past : List Transfer) (bytes more : List UInt8) :
    Peer.follow ⟨past, some (.reading bytes)⟩ (more.map .rx) =
      some ⟨past, some (.reading (bytes ++ more))⟩ := by
  induction more generalizing bytes with
  | nil => rw [List.append_nil]; rfl
  | cons b more ih =>
    rw [List.map_cons, follow_cons, see_rx]
    show Peer.follow _ _ = _
    rw [ih, List.append_assoc, List.singleton_append]

/-- Bytes written in one transfer. -/
theorem Peer.follow_tx (past : List Transfer) (bytes more : List UInt8) :
    Peer.follow ⟨past, some (.out bytes)⟩ (more.map .tx) =
      some ⟨past, some (.out (bytes ++ more))⟩ := by
  induction more generalizing bytes with
  | nil => rw [List.append_nil]; rfl
  | cons b more ih =>
    rw [List.map_cons, follow_cons]
    show Peer.follow ⟨past, some (.out (bytes ++ [b]))⟩ _ = _
    rw [ih, List.append_assoc, List.singleton_append]

theorem packetBytes_ne_nil (packet : Mem) : packetBytes packet ≠ [] := by
  intro h
  have hlen : (packetBytes packet).length = headersSizeEvnt + dataToRecv packet :=
    Mem.slice_length _ _ _
  rw [h, headersSizeEvnt, List.length_nil] at hlen
  omega

theorem reading_packetBytes (packet : Mem) :
    Transfer.reading (packetBytes packet) = .into (packetBytes packet) := by
  cases h : packetBytes packet with
  | nil => exact absurd h (packetBytes_ne_nil packet)
  | cons b bytes => rfl

/-- An interrupt that reads a packet is one transfer. -/
theorem Peer.follow_packet (past : List Transfer) (packet : Mem) :
    Peer.follow ⟨past, none⟩ (.csEnable :: ((packetBytes packet).map .rx ++ [.csDisable])) =
      some ⟨past ++ [.into (packetBytes packet)], none⟩ := by
  rw [follow_cons]
  show Peer.follow ⟨past, some (.reading [])⟩ _ = _
  rw [follow_append, follow_rx, List.nil_append, reading_packetBytes]
  rfl

/-- A frame that goes out under a chip select that is asserted. -/
theorem Peer.follow_frame (past : List Transfer) (f : SpiFrame) :
    Peer.follow ⟨past, some (.out [])⟩ (f.wire.map .tx ++ [.csDisable]) =
      some ⟨past ++ [.out f.wire], none⟩ := by
  rw [follow_append, follow_tx]
  rfl

/-! The condition on a step. -/

/-- The frames that `SpiWrite` has accepted, updated by one step. -/
def framesAccepted (frames : List SpiFrame) (s : Config) (l : Label) (_ : Config) :
    List SpiFrame :=
  match l, s.todo.head? with
  | .stmt, some (.swTestInitialized f) => frames ++ [f]
  | _, _ => frames

/-- No frame is clocked out twice, no interrupt comes between a frame and its
deassertion, and the first frame has the four bytes that `SpiFirstWrite` sends first. -/
def BusHeld (s : Config) (l : Label) : Prop :=
  FrameHeld s l ∧
    match l with
    | .edge => s.core.enable = true → s.todo.head? ≠ some .csDisable
    | .stmt => ∀ f, s.todo.head? = some (.swTestInitialized f) →
        s.core.ulSpiState = .initialized → 4 ≤ f.size
    | _ => True

/-! Code by what it does to the bus. -/

/-- The statement does nothing to the bus while no frame waits, nor does the code it
calls, but for a read of a packet. -/
def Stmt.offBus : Stmt → Bool
  | csEnable | csDisable | writeSync .. | readHeader | readSync .. | readDataCont
  | swTestInitialized _ | swSpinIdle | swSetTx _ => false
  | setState s => s = .initialized || s = .idle
  | _ => true

/-- The end of the read of a packet. -/
def readTail : List Stmt := [.setState .readEot, .readDataCont] ++ spiTriggerRxProcessing

/-- Code between two transfers. -/
inductive Base : List Stmt → Prop
  | nil : Base []
  | offBus {s : Stmt} {rest : List Stmt} (hs : s.offBus = true) (h : Base rest) : Base (s :: rest)
  | read {rest : List Stmt} (h : Base rest) : Base (spiRead ++ rest)
  | write (f : SpiFrame) {rest : List Stmt} (h : Base rest) :
      Base (.swTestInitialized f :: .swSpinDone :: rest)

theorem Base.append {a b : List Stmt} (ha : Base a) (hb : Base b) : Base (a ++ b) := by
  induction ha with
  | nil => exact hb
  | offBus hs _ ih => exact .offBus hs ih
  | read _ ih =>
    rw [List.append_assoc]
    exact .read ih
  | write f _ ih => exact .write f ih

theorem Base.of_offBus {code : List Stmt} (h : Only Stmt.offBus code) : Base code := by
  induction code with
  | nil => exact .nil
  | cons s code ih =>
    obtain ⟨hs, hrest⟩ := Only.cons_iff.mp h
    exact .offBus hs (ih hrest)

theorem Stmt.offBus_of_calm {s : Stmt} (h : s.calm = true) : s.offBus = true := by
  cases s <;> first | rfl | cases h

theorem base_spiWriteCode (f : SpiFrame) : Base (spiWriteCode f) :=
  .offBus rfl (.offBus rfl (.write f .nil))

theorem base_patches (frames : List SpiFrame) : Base (frames.flatMap spiWriteCode) := by
  induction frames with
  | nil => exact .nil
  | cons f frames ih =>
    rw [List.flatMap_cons]
    exact (base_spiWriteCode f).append ih

theorem Call.base (k : Call) : Base k.code := by
  cases k with
  | wlanInterruptEnable => exact .of_offBus rfl
  | wlanInterruptDisable => exact .of_offBus rfl
  | spiResumeSpi => exact .of_offBus rfl
  | spiWrite f => exact base_spiWriteCode f
  | command f op args => exact (base_spiWriteCode f).append (.of_offBus rfl)
  | simpleLinkWaitData args => exact .of_offBus rfl

/-- A statement off the bus, no frame waiting. -/
theorem exec_offBus {s : Stmt} {c : Core} (hs : s.offBus = true) (hstate : c.ulSpiState ≠ .writeIrq)
    (hpin : s = .swTestPin → c.pinLow = false) :
    Base (exec patches s c).2 ∧ (exec patches s c).1.ulSpiState ≠ .writeIrq ∧
      (exec patches s c).1.bus = c.bus ∧ (exec patches s c).1.coming = c.coming := by
  cases s with
  | setState s =>
    refine ⟨.nil, ?_, rfl, rfl⟩
    rintro rfl
    cases hs
  | irqTestIdle =>
    refine ⟨?_, hstate, rfl, rfl⟩
    simp only [exec]
    split
    · exact .read .nil
    · exact .of_offBus rfl
  | irqTestWriteIrq =>
    refine ⟨?_, hstate, rfl, rfl⟩
    simp only [exec, if_neg hstate]
    exact .nil
  | swTestPin =>
    refine ⟨?_, hstate, rfl, rfl⟩
    simp only [exec, hpin rfl, Bool.false_eq_true, if_false]
    exact .nil
  | hehPatch =>
    refine ⟨?_, hstate, rfl, rfl⟩
    simp only [exec]
    split
    · exact base_patches _
    · exact .nil
  | receiveHandler => exact ⟨.of_offBus (only_receiveHandler patches c rfl), hstate, rfl, rfl⟩
  | hehUnsol => exact ⟨.of_offBus (only_hehUnsol patches c rfl), hstate, rfl, rfl⟩
  | wieTestMissed | wieTestPin | irqTestEnable | irqTestPowerup | testMagic | swTestMagic
  | swTestPowerup | swSpinInitialized | swSpinDone | hehTest | hehTestType | hehTestReturn =>
    refine ⟨?_, hstate, rfl, rfl⟩
    simp only [exec]
    split <;> exact .of_offBus rfl
  | wieSetEnable | wieClearMissed | widClearEnable | irqSetMissed | irqSetProcess
  | irqClearProcess | hehSwitch | hehClearOpcode | hehData | hehRelease =>
    exact ⟨.nil, hstate, rfl, rfl⟩
  | hang | waitEvent | waitData => exact ⟨.of_offBus rfl, hstate, rfl, rfl⟩
  | _ => cases hs

/-! Places in the code. -/

/-- The transfers of the past are these frames, and the packets that came before
`coming`. -/
structure Tallied (coming₀ : Nat → Mem) (frames : List SpiFrame) (coming : Nat → Mem)
    (past : List Transfer) : Prop where
  sent : past.filterMap Transfer.out? = frames.map SpiFrame.wire
  read : ∃ k, past.filterMap Transfer.into? =
      (List.range k).map (fun i => packetBytes (coming₀ i)) ∧
    ∀ n, coming n = coming₀ (n + k)

theorem Tallied.packet {coming₀ coming : Nat → Mem} {frames : List SpiFrame}
    {past : List Transfer} (h : Tallied coming₀ frames coming past) :
    Tallied coming₀ frames (fun n => coming (n + 1))
      (past ++ [.into (packetBytes (coming 0))]) := by
  obtain ⟨hsent, k, hread, hcoming⟩ := h
  have hpacket : coming 0 = coming₀ k := by rw [hcoming 0, Nat.zero_add]
  refine ⟨?_, k + 1, ?_, ?_⟩
  · rw [List.filterMap_append, hsent]
    exact List.append_nil _
  · rw [List.filterMap_append, hread, List.range_succ, List.map_append, hpacket]
    rfl
  · intro n
    rw [hcoming, Nat.add_right_comm, Nat.add_assoc]

theorem Tallied.frame {coming₀ coming : Nat → Mem} {frames : List SpiFrame}
    {past : List Transfer} (h : Tallied coming₀ frames coming past) (f : SpiFrame) :
    Tallied coming₀ (frames ++ [f]) coming (past ++ [.out f.wire]) := by
  obtain ⟨hsent, k, hread, hcoming⟩ := h
  refine ⟨?_, k, ?_, hcoming⟩
  · rw [List.filterMap_append, hsent, List.map_append]
    rfl
  · rw [List.filterMap_append, hread]
    exact List.append_nil _

/-- The packets to come, with the one that is being read. -/
def Core.upcoming (c : Core) : Nat → Mem
  | 0 => c.packet
  | n + 1 => c.coming n

/-- Code that clocks out the frame from its byte `p` on. -/
inductive Clocks (f : SpiFrame) : Nat → List Stmt → Prop
  | done {p : Nat} (hp : p = f.size.toNat) : Clocks f p []
  | last {p n : Nat} (hsize : p + n = f.size.toNat) : Clocks f p [.writeSync f p n]
  | first {p n m : Nat} (hsize : p + n + m = f.size.toNat) :
      Clocks f p [.writeSync f p n, .writeSync f (p + n) m]

/-- The transfer that is under way at a place in the code. -/
inductive Place (coming₀ : Nat → Mem) : Config → List SpiFrame → Peer → Prop
  | away {c : Core} {todo : List Stmt} {frames : List SpiFrame} {past : List Transfer}
      (htodo : Base todo) (hstate : c.ulSpiState ≠ .writeIrq)
      (h : Tallied coming₀ frames c.coming past) : Place coming₀ ⟨c, todo⟩ frames ⟨past, none⟩
  -- the read of a packet
  | readSelect {c : Core} {rest : List Stmt} {frames : List SpiFrame} {past : List Transfer}
      (hrest : Base rest) (hbusy : c.busy) (h : Tallied coming₀ frames c.coming past) :
      Place coming₀ ⟨c, .csEnable :: .readHeader :: (readTail ++ rest)⟩ frames ⟨past, none⟩
  | readStart {c : Core} {rest : List Stmt} {frames : List SpiFrame} {past : List Transfer}
      (hrest : Base rest) (hbusy : c.busy) (h : Tallied coming₀ frames c.coming past) :
      Place coming₀ ⟨c, .readHeader :: (readTail ++ rest)⟩ frames ⟨past, some (.reading [])⟩
  | header {c : Core} {rest : List Stmt} {frames : List SpiFrame} {past : List Transfer}
      {p n : Nat} (hsize : p + n = headersSizeEvnt)
      (hrx : ∃ rx : Mem, c.rx = rx.store 0 (c.packet.slice 0 p)) (hrest : Base rest)
      (hbusy : c.busy) (h : Tallied coming₀ frames c.upcoming past) :
      Place coming₀ ⟨c, .readSync p n :: (readTail ++ rest)⟩ frames
        ⟨past, some (.reading (c.packet.slice 0 p))⟩
  | between {c : Core} {rest : List Stmt} {frames : List SpiFrame} {past : List Transfer}
      (hlen : dataToRecv c.rx = dataToRecv c.packet) (hrest : Base rest) (hbusy : c.busy)
      (h : Tallied coming₀ frames c.upcoming past) :
      Place coming₀ ⟨c, readTail ++ rest⟩ frames
        ⟨past, some (.reading (c.packet.slice 0 headersSizeEvnt))⟩
  | dataCont {c : Core} {rest : List Stmt} {frames : List SpiFrame} {past : List Transfer}
      (hlen : dataToRecv c.rx = dataToRecv c.packet) (hrest : Base rest) (hbusy : c.busy)
      (h : Tallied coming₀ frames c.upcoming past) :
      Place coming₀ ⟨c, .readDataCont :: (spiTriggerRxProcessing ++ rest)⟩ frames
        ⟨past, some (.reading (c.packet.slice 0 headersSizeEvnt))⟩
  | data {c : Core} {code rest : List Stmt} {frames : List SpiFrame} {past : List Transfer}
      {p n : Nat} (hsize : p + n = headersSizeEvnt + dataToRecv c.packet)
      (hcode : code = [] ∨ code = [.setState .readEot]) (hrest : Base rest) (hbusy : c.busy)
      (h : Tallied coming₀ frames c.upcoming past) :
      Place coming₀ ⟨c, .readSync p n :: (code ++ (spiTriggerRxProcessing ++ rest))⟩ frames
        ⟨past, some (.reading (c.packet.slice 0 p))⟩
  | read {c : Core} {code rest : List Stmt} {frames : List SpiFrame} {past : List Transfer}
      (hcode : code = [] ∨ code = [.setState .readEot]) (hrest : Base rest) (hbusy : c.busy)
      (h : Tallied coming₀ frames c.upcoming past) :
      Place coming₀ ⟨c, code ++ (spiTriggerRxProcessing ++ rest)⟩ frames
        ⟨past, some (.into (packetBytes c.packet))⟩
  -- the last frame
  | disable {c : Core} {rest : List Stmt} {frames : List SpiFrame} {past : List Transfer}
      (f : SpiFrame) (hrest : Base rest) (hstate : c.ulSpiState ≠ .writeIrq)
      (h : Tallied coming₀ frames c.coming past) :
      Place coming₀ ⟨c, .widClearEnable :: .swSpinIdle :: .setState .writeIrq :: .swSetTx f ::
        .csEnable :: (writeTail ++ rest)⟩ (frames ++ [f]) ⟨past, none⟩
  | spin {c : Core} {rest : List Stmt} {frames : List SpiFrame} {past : List Transfer}
      (f : SpiFrame) (hrest : Base rest) (henable : c.enable = false)
      (h : Tallied coming₀ frames c.coming past) :
      Place coming₀ ⟨c, .swSpinIdle :: .setState .writeIrq :: .swSetTx f :: .csEnable ::
        (writeTail ++ rest)⟩ (frames ++ [f]) ⟨past, none⟩
  | claim {c : Core} {rest : List Stmt} {frames : List SpiFrame} {past : List Transfer}
      (f : SpiFrame) (hrest : Base rest) (henable : c.enable = false)
      (h : Tallied coming₀ frames c.coming past) :
      Place coming₀ ⟨c, .setState .writeIrq :: .swSetTx f :: .csEnable :: (writeTail ++ rest)⟩
        (frames ++ [f]) ⟨past, none⟩
  | claimed {c : Core} {rest : List Stmt} {frames : List SpiFrame} {past : List Transfer}
      (f : SpiFrame) (hrest : Base rest) (henable : c.enable = false)
      (hstate : c.ulSpiState = .writeIrq) (h : Tallied coming₀ frames c.coming past) :
      Place coming₀ ⟨c, .swSetTx f :: .csEnable :: (writeTail ++ rest)⟩ (frames ++ [f]) ⟨past, none⟩
  | select {c : Core} {rest : List Stmt} {frames : List SpiFrame} {past : List Transfer}
      (hrest : Base rest) (henable : c.enable = false) (hstate : c.ulSpiState = .writeIrq)
      (h : Tallied coming₀ frames c.coming past) :
      Place coming₀ ⟨c, .csEnable :: (writeTail ++ rest)⟩ (frames ++ [c.tx]) ⟨past, none⟩
  | waiting {c : Core} {code rest : List Stmt} {frames : List SpiFrame} {past : List Transfer}
      (hcode : Only Stmt.calm code) (hrest : Base rest) (hstate : c.ulSpiState = .writeIrq)
      (h : Tallied coming₀ frames c.coming past) :
      Place coming₀ ⟨c, code ++ .swSpinDone :: rest⟩ (frames ++ [c.tx]) ⟨past, some (.out [])⟩
  | first {c : Core} {code rest : List Stmt} {frames : List SpiFrame} {past : List Transfer}
      {f : SpiFrame} (hcode : Clocks f 0 code) (hrest : Base rest)
      (hstate : c.ulSpiState = .initialized) (h : Tallied coming₀ frames c.coming past) :
      Place coming₀ ⟨c, .csEnable :: (code ++ .setState .idle :: .csDisable :: rest)⟩
        (frames ++ [f]) ⟨past, none⟩
  | clocking {c : Core} {code rest : List Stmt} {frames : List SpiFrame} {past : List Transfer}
      {f : SpiFrame} {p : Nat} (hcode : Clocks f p code) (hrest : Base rest)
      (hstate : c.ulSpiState = .writeIrq ∨ c.ulSpiState = .initialized)
      (h : Tallied coming₀ frames c.coming past) :
      Place coming₀ ⟨c, code ++ .setState .idle :: .csDisable :: rest⟩ (frames ++ [f])
        ⟨past, some (.out (f.bytes 0 p))⟩
  -- the end of either
  | close {c : Core} {rest : List Stmt} {frames : List SpiFrame} {past : List Transfer}
      {t : Transfer} (hrest : Base rest) (hstate : c.ulSpiState ≠ .writeIrq)
      (h : Tallied coming₀ frames c.coming (past ++ [t])) :
      Place coming₀ ⟨c, .csDisable :: rest⟩ frames ⟨past, some t⟩

/-- A step adds to the bus what the device follows to a place of the step's end. -/
def LeadsTo (coming₀ : Nat → Mem) (bus : List BusEvent) (p : Peer) (t : Config)
    (frames : List SpiFrame) : Prop :=
  ∃ new q, t.core.bus = bus ++ new ∧ p.follow new = some q ∧ Place coming₀ t frames q

section
variable {coming₀ : Nat → Mem} {c c' : Core} {s : Stmt} {rest todo : List Stmt}
  {frames : List SpiFrame} {past : List Transfer} {p q : Peer} {t : Config}

theorem LeadsTo.still (h : Place coming₀ t frames p) : LeadsTo coming₀ t.core.bus p t frames :=
  ⟨[], p, (List.append_nil _).symm, rfl, h⟩

theorem LeadsTo.event {bus : List BusEvent} {e : BusEvent} (hbus : t.core.bus = bus ++ [e])
    (hsee : p.see e = some q) (h : Place coming₀ t frames q) : LeadsTo coming₀ bus p t frames :=
  ⟨[e], q, hbus, (p.follow_single e).trans hsee, h⟩

theorem framesAccepted_offBus (hs : s.offBus = true) (c : Core) (rest : List Stmt) (t : Config) :
    framesAccepted frames ⟨c, s :: rest⟩ .stmt t = frames := by
  cases s with
  | swTestInitialized => cases hs
  | _ => rfl

/-! One statement. -/

/-- A statement between two transfers. -/
theorem between_stmt (hs : s.offBus = true) (hrest : Base rest) (hstate : c.ulSpiState ≠ .writeIrq)
    (h : Tallied coming₀ frames c.coming past) (hok : BusHeld ⟨c, s :: rest⟩ .stmt) (t : Config) :
    LeadsTo coming₀ c.bus ⟨past, none⟩ ⟨(exec patches s c).1, (exec patches s c).2 ++ rest⟩
      (framesAccepted frames ⟨c, s :: rest⟩ .stmt t) := by
  have hpin : s = .swTestPin → c.pinLow = false := by
    rintro rfl
    exact Bool.eq_false_iff.mpr fun hlow => hstate (hok.1 rfl hlow)
  obtain ⟨hpush, hstate', hbus, hcoming⟩ := @exec_offBus patches s c hs hstate hpin
  rw [framesAccepted_offBus hs, ← hbus]
  rw [← hcoming] at h
  exact .still (.away (hpush.append hrest) hstate' h)

/-- `SpiWrite` takes the frame. -/
theorem accept_stmt (f : SpiFrame) (hrest : Base rest) (hstate : c.ulSpiState ≠ .writeIrq)
    (h : Tallied coming₀ frames c.coming past)
    (hok : BusHeld ⟨c, .swTestInitialized f :: .swSpinDone :: rest⟩ .stmt) :
    LeadsTo coming₀ c.bus ⟨past, none⟩
      ⟨(exec patches (.swTestInitialized f) c).1,
        (exec patches (.swTestInitialized f) c).2 ++ .swSpinDone :: rest⟩ (frames ++ [f]) := by
  by_cases hinit : c.ulSpiState = .initialized
  · simp only [exec, if_pos hinit]
    have hfour : 4 ≤ f.size := hok.2 f rfl hinit
    have hsize : 0 + 4 + (f.size - 4).toNat = f.size.toNat := by
      rw [UInt16.toNat_sub_of_le _ _ hfour]
      have := UInt16.le_iff_toNat_le.mp hfour
      change 4 ≤ f.size.toNat at this
      change 0 + 4 + (f.size.toNat - 4) = f.size.toNat
      omega
    exact .still (.first (.first hsize) (.offBus rfl hrest) hinit h)
  · simp only [exec, if_neg hinit]
    exact .still (.disable f hrest hstate h)

theorem Mem.slice_zero_succ (m : Mem) (n : Nat) : m.slice 0 (n + 1) = m.slice 0 n ++ [m n] := by
  rw [← Mem.slice_append, Nat.zero_add]
  rfl

/-- A byte of the header. -/
theorem headerByte_stmt {p n : Nat} (hsize : p + n = headersSizeEvnt)
    (hrx : ∃ rx : Mem, c.rx = rx.store 0 (c.packet.slice 0 p)) (hrest : Base rest)
    (hbusy : c.busy) (h : Tallied coming₀ frames c.upcoming past) :
    LeadsTo coming₀ c.bus ⟨past, some (.reading (c.packet.slice 0 p))⟩
      ⟨(exec patches (.readSync p n) c).1,
        (exec patches (.readSync p n) c).2 ++ (readTail ++ rest)⟩ frames := by
  obtain ⟨rx, hrx⟩ := hrx
  cases n with
  | zero =>
    obtain rfl : p = headersSizeEvnt := hsize
    have hlen : dataToRecv c.rx = dataToRecv c.packet := by
      rw [hrx]
      exact spiReadHeader_dataToRecv rx c.packet
    exact .still (.between hlen hrest hbusy h)
  | succ n =>
    have hnext : p + 1 + n = headersSizeEvnt := by omega
    have hstored : c.rx.store p [c.packet p] = rx.store 0 (c.packet.slice 0 (p + 1)) := by
      have hlen : 0 + (c.packet.slice 0 p).length = p := by rw [Mem.slice_length, Nat.zero_add]
      rw [hrx, Mem.slice_zero_succ, ← Mem.store_store, hlen]
    refine .event (e := .rx (c.packet p)) rfl (Peer.see_rx past _ _) ?_
    rw [← Mem.slice_zero_succ]
    exact @Place.header coming₀ { c with
      rx := c.rx.store p [c.packet p], bus := c.bus ++ [.rx (c.packet p)] }
      _ _ _ _ _ hnext ⟨rx, hstored⟩ hrest hbusy h

/-- A byte of the rest of the packet. -/
theorem dataByte_stmt {p n : Nat} {code : List Stmt}
    (hsize : p + n = headersSizeEvnt + dataToRecv c.packet)
    (hcode : code = [] ∨ code = [.setState .readEot]) (hrest : Base rest) (hbusy : c.busy)
    (h : Tallied coming₀ frames c.upcoming past) :
    LeadsTo coming₀ c.bus ⟨past, some (.reading (c.packet.slice 0 p))⟩
      ⟨(exec patches (.readSync p n) c).1,
        (exec patches (.readSync p n) c).2 ++ (code ++ (spiTriggerRxProcessing ++ rest))⟩
      frames := by
  cases n with
  | zero =>
    obtain rfl : p = headersSizeEvnt + dataToRecv c.packet := hsize
    have hall : Transfer.reading (c.packet.slice 0 (headersSizeEvnt + dataToRecv c.packet)) =
        .into (packetBytes c.packet) := reading_packetBytes c.packet
    rw [hall]
    exact .still (.read hcode hrest hbusy h)
  | succ n =>
    have hnext : p + 1 + n = headersSizeEvnt + dataToRecv c.packet := by omega
    refine .event (e := .rx (c.packet p)) rfl (Peer.see_rx past _ _) ?_
    rw [← Mem.slice_zero_succ]
    exact @Place.data coming₀ { c with
      rx := c.rx.store p [c.packet p], bus := c.bus ++ [.rx (c.packet p)] }
      _ _ _ _ _ _ hnext hcode hrest hbusy h

/-- The statements behind the read of a packet. -/
theorem read_stmt {code : List Stmt} (hcode : code = [] ∨ code = [.setState .readEot])
    (hrest : Base rest) (hbusy : c.busy) (h : Tallied coming₀ frames c.upcoming past)
    (htodo : s :: todo = code ++ (spiTriggerRxProcessing ++ rest)) :
    LeadsTo coming₀ c.bus ⟨past, some (.into (packetBytes c.packet))⟩
      ⟨(exec patches s c).1, (exec patches s c).2 ++ todo⟩
      (framesAccepted frames ⟨c, s :: todo⟩ .stmt t) := by
  rcases hcode with rfl | rfl
  · obtain ⟨rfl, rfl⟩ := List.cons.inj htodo
    have hstate : c.ulSpiState ≠ .writeIrq := by
      intro hwrite
      rcases hbusy with hb | hb <;> cases hwrite.symm.trans hb
    exact .still (.close (.offBus rfl (.offBus rfl (.offBus rfl hrest))) hstate h.packet)
  · obtain ⟨rfl, rfl⟩ := List.cons.inj htodo
    exact .still (@Place.read coming₀ { c with ulSpiState := .readEot } _ _ _ _ (.inl rfl) hrest
      (.inr rfl) h)

/-- A byte of the frame. -/
theorem frameByte_stmt {f : SpiFrame} {i : Nat} {code : List Stmt} (hcode : Clocks f i code)
    (hrest : Base rest) (hstate : c.ulSpiState = .writeIrq ∨ c.ulSpiState = .initialized)
    (h : Tallied coming₀ frames c.coming past)
    (htodo : s :: todo = code ++ .setState .idle :: .csDisable :: rest) :
    LeadsTo coming₀ c.bus ⟨past, some (.out (f.bytes 0 i))⟩
      ⟨(exec patches s c).1, (exec patches s c).2 ++ todo⟩
      (framesAccepted (frames ++ [f]) ⟨c, s :: todo⟩ .stmt t) := by
  have hbyte : ∀ {next : List Stmt}, Clocks f (i + 1) next →
      LeadsTo coming₀ c.bus ⟨past, some (.out (f.bytes 0 i))⟩
        ⟨{ c with bus := c.bus ++ [.tx (f.byte i)] },
          next ++ .setState .idle :: .csDisable :: rest⟩ (frames ++ [f]) := by
    intro next hnext
    refine .event (e := .tx (f.byte i)) rfl rfl ?_
    have hsent : f.bytes 0 i ++ [f.byte i] = f.bytes 0 (i + 1) := by
      rw [SpiFrame.bytes_snoc, Nat.zero_add]
    rw [hsent]
    exact @Place.clocking coming₀ { c with bus := c.bus ++ [.tx (f.byte i)] }
      _ _ _ _ _ _ hnext hrest hstate h
  cases hcode with
  | done hp =>
    obtain ⟨rfl, rfl⟩ := List.cons.inj htodo
    have hout : Tallied coming₀ (frames ++ [f]) c.coming (past ++ [.out (f.bytes 0 i)]) := by
      rw [hp]
      exact h.frame f
    exact .still (@Place.close coming₀ { c with ulSpiState := .idle } _ _ _ _ hrest
      SpiState.noConfusion hout)
  | @last n hsize =>
    obtain ⟨rfl, rfl⟩ := List.cons.inj htodo
    cases n with
    | zero => exact .still (.clocking (.done hsize) hrest hstate h)
    | succ n =>
      have hnext : i + 1 + n = f.size.toNat := by
        rw [Nat.add_right_comm]
        exact hsize
      exact hbyte (.last hnext)
  | @first n m hsize =>
    obtain ⟨rfl, rfl⟩ := List.cons.inj htodo
    cases n with
    | zero => exact .still (.clocking (.last hsize) hrest hstate h)
    | succ n =>
      have hmore : i + (n + 1) = i + 1 + n := Nat.add_right_comm i n 1
      rw [hmore] at hsize ⊢
      exact hbyte (.first hsize)

theorem exec_calm_coming (hs : s.calm = true) (c : Core) :
    (exec patches s c).1.coming = c.coming := by
  cases s <;> first | rfl | cases hs

/-- A statement while the frame waits under its chip select. -/
theorem waiting_place_stmt {code : List Stmt} (hcode : Only Stmt.calm code) (hrest : Base rest)
    (hstate : c.ulSpiState = .writeIrq) (h : Tallied coming₀ frames c.coming past)
    (htodo : s :: todo = code ++ .swSpinDone :: rest) :
    LeadsTo coming₀ c.bus ⟨past, some (.out [])⟩
      ⟨(exec patches s c).1, (exec patches s c).2 ++ todo⟩
      (framesAccepted (frames ++ [c.tx]) ⟨c, s :: todo⟩ .stmt t) := by
  cases code with
  | nil =>
    obtain ⟨rfl, rfl⟩ := List.cons.inj htodo
    simp only [exec, hstate, reduceCtorEq, if_false]
    exact .still (@Place.waiting coming₀ c [] _ _ _ rfl hrest hstate h)
  | cons s' code =>
    obtain ⟨rfl, rfl⟩ := List.cons.inj htodo
    obtain ⟨hs, hcode⟩ := Only.cons_iff.mp hcode
    obtain ⟨hstate', htx, hbus, hpush⟩ := @exec_calm patches s c hs hstate
    rw [← @exec_calm_coming patches s hs c] at h
    rw [framesAccepted_offBus (Stmt.offBus_of_calm hs), ← hbus, ← htx]
    rcases hpush with hpush | hpush
    · have htail : Base (code ++ .swSpinDone :: rest) :=
        (Base.of_offBus (hcode.mono fun _ => Stmt.offBus_of_calm)).append (.offBus rfl hrest)
      have hclocks : Clocks c.tx 0 [.writeSync c.tx 0 c.tx.size.toNat] := .last (Nat.zero_add _)
      rw [hpush, htx]
      exact .still (.clocking hclocks htail (.inl hstate') h)
    · have hwait := Place.waiting (hpush.append hcode) hrest hstate' h
      rw [List.append_assoc] at hwait
      exact .still hwait

/-- **One statement.** -/
theorem Place.stmt (h : Place coming₀ ⟨c, s :: todo⟩ frames p)
    (hok : BusHeld ⟨c, s :: todo⟩ .stmt) :
    LeadsTo coming₀ c.bus p ⟨(exec patches s c).1, (exec patches s c).2 ++ todo⟩
      (framesAccepted frames ⟨c, s :: todo⟩ .stmt t) := by
  generalize hall : s :: todo = all at h
  cases h with
  | away htodo hstate h =>
    cases htodo with
    | nil => cases hall
    | offBus hs hrest =>
      obtain ⟨rfl, rfl⟩ := List.cons.inj hall
      exact between_stmt hs hrest hstate h hok t
    | read hrest =>
      obtain ⟨rfl, rfl⟩ := List.cons.inj hall
      exact .still (@Place.readSelect coming₀ { c with ulSpiState := .readIrq } _ _ _ hrest
        (.inl rfl) h)
    | write f hrest =>
      obtain ⟨rfl, rfl⟩ := List.cons.inj hall
      exact accept_stmt f hrest hstate h hok
  | readSelect hrest hbusy h =>
    obtain ⟨rfl, rfl⟩ := List.cons.inj hall
    exact .event (e := .csEnable) rfl rfl
      (@Place.readStart coming₀ { c with bus := c.bus ++ [.csEnable] } _ _ _ hrest hbusy h)
  | readStart hrest hbusy h =>
    obtain ⟨rfl, rfl⟩ := List.cons.inj hall
    have hsame : Core.upcoming
        { c with packet := c.coming 0, coming := fun n => c.coming (n + 1) } = c.coming := by
      funext n
      cases n <;> rfl
    rw [← hsame] at h
    exact .still (@Place.header coming₀
      { c with packet := c.coming 0, coming := fun n => c.coming (n + 1) } _ _ _ 0 _ rfl
      ⟨c.rx, rfl⟩ hrest hbusy h)
  | header hsize hrx hrest hbusy h =>
    obtain ⟨rfl, rfl⟩ := List.cons.inj hall
    exact headerByte_stmt hsize hrx hrest hbusy h
  | between hlen hrest hbusy h =>
    obtain ⟨rfl, rfl⟩ := List.cons.inj hall
    exact .still (@Place.dataCont coming₀ { c with ulSpiState := .readEot } _ _ _ hlen hrest
      (.inr rfl) h)
  | dataCont hlen hrest hbusy h =>
    obtain ⟨rfl, rfl⟩ := List.cons.inj hall
    simp only [exec, hlen]
    refine .still (.data rfl ?_ hrest hbusy h)
    split
    · exact .inr rfl
    · exact .inl rfl
  | data hsize hcode hrest hbusy h =>
    obtain ⟨rfl, rfl⟩ := List.cons.inj hall
    exact dataByte_stmt hsize hcode hrest hbusy h
  | read hcode hrest hbusy h =>
    rw [← hall]
    exact read_stmt hcode hrest hbusy h hall
  | disable f hrest hstate h =>
    obtain ⟨rfl, rfl⟩ := List.cons.inj hall
    exact .still (@Place.spin coming₀ { c with enable := false } _ _ _ f hrest rfl h)
  | spin f hrest henable h =>
    obtain ⟨rfl, rfl⟩ := List.cons.inj hall
    simp only [exec]
    split
    · exact .still (.claim f hrest henable h)
    · exact .still (.spin f hrest henable h)
  | claim f hrest henable h =>
    obtain ⟨rfl, rfl⟩ := List.cons.inj hall
    exact .still (@Place.claimed coming₀ { c with ulSpiState := .writeIrq } _ _ _ f hrest henable
      rfl h)
  | claimed f hrest henable hstate h =>
    obtain ⟨rfl, rfl⟩ := List.cons.inj hall
    exact .still (@Place.select coming₀ { c with tx := f } _ _ _ hrest henable hstate h)
  | select hrest henable hstate h =>
    obtain ⟨rfl, rfl⟩ := List.cons.inj hall
    exact .event (e := .csEnable) rfl rfl
      (@Place.waiting coming₀ { c with bus := c.bus ++ [.csEnable] }
        [.wieSetEnable, .wieTestMissed, .swTestPin] _ _ _ rfl hrest hstate h)
  | waiting hcode hrest hstate h =>
    rw [← hall]
    exact waiting_place_stmt hcode hrest hstate h hall
  | first hcode hrest hstate h =>
    obtain ⟨rfl, rfl⟩ := List.cons.inj hall
    exact .event (e := .csEnable) rfl rfl
      (@Place.clocking coming₀ { c with bus := c.bus ++ [.csEnable] } _ _ _ _ _ 0 hcode hrest
        (.inr hstate) h)
  | clocking hcode hrest hstate h =>
    rw [← hall]
    exact frameByte_stmt hcode hrest hstate h hall
  | @close _ _ _ past t hrest hstate h =>
    obtain ⟨rfl, rfl⟩ := List.cons.inj hall
    exact .event (e := .csDisable) rfl rfl
      (@Place.away coming₀ { c with bus := c.bus ++ [.csDisable] } _ _ _ hrest hstate h)

/-! One interrupt. -/

/-- These three flags do not matter. -/
theorem Place.marks (h : Place coming₀ ⟨c, todo⟩ frames p) (process missed pinLow : Bool) :
    Place coming₀ ⟨{ c with process, missed, pinLow }, todo⟩ frames p := by
  cases h with
  | away htodo hstate h => exact .away htodo hstate h
  | readSelect hrest hbusy h => exact .readSelect hrest hbusy h
  | readStart hrest hbusy h => exact .readStart hrest hbusy h
  | header hsize hrx hrest hbusy h =>
    exact @Place.header coming₀ { c with process, missed, pinLow } _ _ _ _ _ hsize hrx hrest hbusy h
  | between hlen hrest hbusy h =>
    exact @Place.between coming₀ { c with process, missed, pinLow } _ _ _ hlen hrest hbusy h
  | dataCont hlen hrest hbusy h =>
    exact @Place.dataCont coming₀ { c with process, missed, pinLow } _ _ _ hlen hrest hbusy h
  | data hsize hcode hrest hbusy h =>
    exact @Place.data coming₀ { c with process, missed, pinLow } _ _ _ _ _ _ hsize hcode hrest
      hbusy h
  | read hcode hrest hbusy h =>
    exact @Place.read coming₀ { c with process, missed, pinLow } _ _ _ _ hcode hrest hbusy h
  | disable f hrest hstate h => exact .disable f hrest hstate h
  | spin f hrest henable h => exact .spin f hrest henable h
  | claim f hrest henable h => exact .claim f hrest henable h
  | claimed f hrest henable hstate h => exact .claimed f hrest henable hstate h
  | select hrest henable hstate h =>
    exact @Place.select coming₀ { c with process, missed, pinLow } _ _ _ hrest henable hstate h
  | waiting hcode hrest hstate h =>
    exact @Place.waiting coming₀ { c with process, missed, pinLow } _ _ _ _ hcode hrest hstate h
  | first hcode hrest hstate h => exact .first hcode hrest hstate h
  | clocking hcode hrest hstate h => exact .clocking hcode hrest hstate h
  | close hrest hstate h => exact .close hrest hstate h

/-- An accepted interrupt between two transfers is none or the read of a packet. -/
theorem between_edge (hen : c.enable = true) (hstate : c.ulSpiState ≠ .writeIrq)
    (h : Tallied coming₀ frames c.coming past) (hisr : Isr patches { c with pinLow := true } c') :
    ∃ new past', c'.bus = c.bus ++ new ∧ Peer.follow ⟨past, none⟩ new = some ⟨past', none⟩ ∧
      c'.ulSpiState ≠ .writeIrq ∧ Tallied coming₀ frames c'.coming past' := by
  rcases isr_accepted hisr hen with ⟨-, rfl⟩ | ⟨-, rfl⟩ | ⟨hwrite, -⟩ | ⟨-, -, -, rfl⟩
  · exact ⟨[], past, (List.append_nil _).symm, rfl, SpiState.noConfusion, h⟩
  · exact ⟨_, _, rfl, Peer.follow_packet past (c.coming 0), SpiState.noConfusion, h.packet⟩
  · exact absurd hwrite hstate
  · exact ⟨[], past, (List.append_nil _).symm, rfl, hstate, h⟩

/-- In the middle of a transfer that main code makes, an accepted interrupt does nothing. -/
theorem isr_elsewhere (hen : c.enable = true) (hpow : c.ulSpiState ≠ .powerup)
    (hidle : c.ulSpiState ≠ .idle) (hwrite : c.ulSpiState ≠ .writeIrq)
    (hisr : Isr patches { c with pinLow := true } c') :
    c' = { c with process := false, missed := c.missed, pinLow := true } := by
  rcases isr_accepted hisr hen with ⟨h, -⟩ | ⟨h, -⟩ | ⟨h, -⟩ | ⟨-, -, -, rfl⟩
  · exact absurd h hpow
  · exact absurd h hidle
  · exact absurd h hwrite
  · rfl

theorem Place.marked (h : Place coming₀ ⟨c, todo⟩ frames p) (process missed pinLow : Bool)
    (hc' : c' = { c with process, missed, pinLow }) :
    LeadsTo coming₀ c.bus p ⟨c', todo⟩ frames := by
  subst hc'
  exact .still (h.marks process missed pinLow)

theorem isr_busy (hen : c.enable = true) (hbusy : c.busy)
    (hisr : Isr patches { c with pinLow := true } c') :
    c' = { c with process := false, missed := c.missed, pinLow := true } := by
  rcases hbusy with hb | hb
  · exact isr_elsewhere hen (by rw [hb]; nofun) (by rw [hb]; nofun) (by rw [hb]; nofun) hisr
  · exact isr_elsewhere hen (by rw [hb]; nofun) (by rw [hb]; nofun) (by rw [hb]; nofun) hisr

theorem isr_initialized (hen : c.enable = true) (hinit : c.ulSpiState = .initialized)
    (hisr : Isr patches { c with pinLow := true } c') :
    c' = { c with process := false, missed := c.missed, pinLow := true } :=
  isr_elsewhere hen (by rw [hinit]; nofun) (by rw [hinit]; nofun) (by rw [hinit]; nofun) hisr

theorem Clocks.head {f : SpiFrame} {i : Nat} {code : List Stmt} (h : Clocks f i code) :
    (code ++ .setState .idle :: .csDisable :: rest).head?.any Stmt.clocks = true := by
  cases h <;> rfl

/-- **One interrupt that is accepted.** -/
theorem Place.accepted (h : Place coming₀ ⟨c, todo⟩ frames p) (hok : BusHeld ⟨c, todo⟩ .edge)
    (hen : c.enable = true) (hisr : Isr patches { c with pinLow := true } c') :
    LeadsTo coming₀ c.bus p ⟨c', todo⟩ frames := by
  have hmasked (hoff : c.enable = false) : False := Bool.noConfusion (hen.symm.trans hoff)
  generalize hs : (⟨c, todo⟩ : Config) = s at h
  cases h with
  | away htodo hstate h =>
    cases hs
    obtain ⟨new, past', hbus, hfollow, hstate', h⟩ := between_edge hen hstate h hisr
    exact ⟨new, _, hbus, hfollow, .away htodo hstate' h⟩
  | disable f hrest hstate h =>
    cases hs
    obtain ⟨new, past', hbus, hfollow, hstate', h⟩ := between_edge hen hstate h hisr
    exact ⟨new, _, hbus, hfollow, .disable f hrest hstate' h⟩
  | readSelect hrest hbusy h =>
    cases hs
    exact (Place.readSelect hrest hbusy h).marked _ _ _ (isr_busy hen hbusy hisr)
  | readStart hrest hbusy h =>
    cases hs
    exact (Place.readStart hrest hbusy h).marked _ _ _ (isr_busy hen hbusy hisr)
  | header hsize hrx hrest hbusy h =>
    cases hs
    exact (Place.header hsize hrx hrest hbusy h).marked _ _ _ (isr_busy hen hbusy hisr)
  | between hlen hrest hbusy h =>
    cases hs
    exact (Place.between hlen hrest hbusy h).marked _ _ _ (isr_busy hen hbusy hisr)
  | dataCont hlen hrest hbusy h =>
    cases hs
    exact (Place.dataCont hlen hrest hbusy h).marked _ _ _ (isr_busy hen hbusy hisr)
  | data hsize hcode hrest hbusy h =>
    cases hs
    exact (Place.data hsize hcode hrest hbusy h).marked _ _ _ (isr_busy hen hbusy hisr)
  | read hcode hrest hbusy h =>
    cases hs
    exact (Place.read hcode hrest hbusy h).marked _ _ _ (isr_busy hen hbusy hisr)
  | spin f hrest henable => cases hs; exact absurd henable hmasked
  | claim f hrest henable => cases hs; exact absurd henable hmasked
  | claimed f hrest henable => cases hs; exact absurd henable hmasked
  | select hrest henable => cases hs; exact absurd henable hmasked
  | @waiting c' code rest frames past hcode hrest hstate h =>
    cases hs
    -- the interrupt clocks the frame out
    obtain rfl := isr_writeIrq hisr hen hstate
    have htail : Base (code ++ .swSpinDone :: rest) :=
      (Base.of_offBus (hcode.mono fun _ => Stmt.offBus_of_calm)).append (.offBus rfl hrest)
    exact ⟨_, _, rfl, Peer.follow_frame past c.tx, .away htail SpiState.noConfusion (h.frame c.tx)⟩
  | first hcode hrest hstate h =>
    cases hs
    exact (Place.first hcode hrest hstate h).marked _ _ _ (isr_initialized hen hstate hisr)
  | clocking hcode hrest hstate h =>
    cases hs
    rcases hstate with hwrite | hinit
    · exact absurd (hok.1 hen hwrite) (Bool.not_eq_false _ ▸ hcode.head)
    · have hplace := Place.clocking hcode hrest (.inr hinit) h
      exact hplace.marked _ _ _ (isr_initialized hen hinit hisr)
  | close hrest hstate h =>
    cases hs
    exact absurd rfl (hok.2 hen)

theorem Place.edge (h : Place coming₀ ⟨c, todo⟩ frames p) (hok : BusHeld ⟨c, todo⟩ .edge)
    (hisr : Isr patches { c with pinLow := true } c') :
    LeadsTo coming₀ c.bus p ⟨c', todo⟩ frames := by
  rcases Bool.eq_false_or_eq_true c.enable with hen | hen
  · exact h.accepted hok hen hisr
  · exact h.marked c.process true true (isr_refused hisr hen)

/-- With nothing left to do, no transfer is under way. -/
theorem Place.returned (h : Place coming₀ ⟨c, todo⟩ frames p) (hdone : todo = []) :
    ∃ past, p = ⟨past, none⟩ ∧ c.ulSpiState ≠ .writeIrq ∧
      Tallied coming₀ frames c.coming past := by
  cases h with
  | away _ hstate h => exact ⟨_, rfl, hstate, h⟩
  | read | waiting | clocking => cases (List.append_eq_nil_iff.mp hdone).2
  | _ => cases hdone

/-- **One step** of the machine, the condition met. -/
theorem Place.step {l : Label} {a b : Config} (h : Place coming₀ a frames p) (hok : BusHeld a l)
    (hs : SpiStep patches a l b) :
    LeadsTo coming₀ a.core.bus p b (framesAccepted frames a l b) := by
  cases hs with
  | stmt c s rest => exact h.stmt hok
  | call c k =>
    obtain ⟨past, rfl, hstate, h⟩ := h.returned rfl
    exact .still (.away k.base hstate h)
  | edge todo hpin hisr => exact h.edge hok hisr
  | rise c todo => exact h.marked c.process c.missed false rfl

end

/-! The frames that are handed over. -/

/-- The frames that a call hands to `SpiWrite` itself. -/
def Call.frames : Call → List SpiFrame
  | spiWrite f => [f]
  | command f _ _ => [f]
  | _ => []

/-- The frames handed to `SpiWrite` so far, by calls and for requests of a patch,
updated by one step. -/
def framesIssued (patches : Mem → List SpiFrame) (frames : List SpiFrame) (s : Config)
    (l : Label) (_ : Config) : List SpiFrame :=
  match l, s.todo.head? with
  | .call k, _ => frames ++ k.frames
  | .stmt, some .hehPatch =>
    if s.core.data hciPacketTypeOffset = hciTypeEvnt ∧
        s.core.usReceivedEventOpcode = hciEvntPatchesReq then
      frames ++ patches s.core.data
    else frames
  | _, _ => frames

def Stmt.frame? : Stmt → Option SpiFrame
  | swTestInitialized f => some f
  | _ => none

/-- The frames that `SpiWrite` has not accepted yet. -/
def owed (todo : List Stmt) : List SpiFrame := todo.filterMap Stmt.frame?

/-- A statement of the waiting loop. -/
def Stmt.waits : Stmt → Bool
  | waitEvent .. | waitData _ | hehTest | hehTestType | hehUnsol | hehSwitch | hehClearOpcode
  | hehData | hehRelease | hehPatch | hehTestReturn => true
  | _ => false

/-- Behind the waiting loop no frame is left. -/
def Settled : List Stmt → Prop
  | [] => True
  | s :: rest => (s.waits = true → owed rest = []) ∧ Settled rest

theorem owed_append (a b : List Stmt) : owed (a ++ b) = owed a ++ owed b := List.filterMap_append

theorem Settled.append {a b : List Stmt} (ha : Only (!Stmt.waits ·) a) (hb : Settled b) :
    Settled (a ++ b) := by
  induction a with
  | nil => exact hb
  | cons s a ih =>
    obtain ⟨hs, ha⟩ := Only.cons_iff.mp ha
    refine ⟨fun hwaits => ?_, ih ha⟩
    rw [hwaits] at hs
    cases hs

theorem Settled.append_none {a b : List Stmt} (ha : owed a = []) (hnone : owed b = [])
    (hb : Settled b) : Settled (a ++ b) := by
  induction a with
  | nil => exact hb
  | cons s a ih =>
    have hrest : owed a = [] := by
      rw [owed, List.filterMap_cons] at ha
      cases hs : s.frame? with
      | none =>
        rw [hs] at ha
        exact ha
      | some f =>
        rw [hs] at ha
        cases ha
    have hall : owed (a ++ b) = [] := by rw [owed_append, hrest, hnone, List.append_nil]
    exact ⟨fun _ => hall, ih hrest⟩

theorem owed_spiWriteCode (f : SpiFrame) : owed (spiWriteCode f) = [f] := rfl

theorem owed_patches (frames : List SpiFrame) : owed (frames.flatMap spiWriteCode) = frames := by
  induction frames with
  | nil => rfl
  | cons f frames ih =>
    rw [List.flatMap_cons, owed_append, owed_spiWriteCode, ih]
    rfl

/-- Only a request of a patch puts frames into the code. -/
theorem exec_owed {s : Stmt} (c : Core) (hs : s ≠ .hehPatch) :
    owed (exec patches s c).2 = [] ∧
      (s.waits = false → Only (!Stmt.waits ·) (exec patches s c).2) := by
  cases s with
  | writeSync f ptr left => cases left <;> exact ⟨rfl, fun _ => rfl⟩
  | readSync ptr left => cases left <;> exact ⟨rfl, fun _ => rfl⟩
  | hehPatch => exact absurd rfl hs
  | waitEvent | waitData | hehSwitch | hehClearOpcode | hehData | hehRelease =>
    exact ⟨rfl, fun hwaits => by cases hwaits⟩
  | hehUnsol =>
    simp only [exec]
    refine ⟨?_, fun hwaits => by cases hwaits⟩
    split
    · rfl
    · split <;> rfl
  | hehTest | hehTestType | hehTestReturn =>
    simp only [exec]
    refine ⟨?_, fun hwaits => by cases hwaits⟩
    split <;> rfl
  | wieTestMissed | wieTestPin | irqTestEnable | irqTestPowerup | irqTestIdle | irqTestWriteIrq
  | testMagic | swTestMagic | swTestPowerup | swSpinInitialized | swTestInitialized | swSpinIdle
  | swTestPin | swSpinDone | readDataCont =>
    simp only [exec]
    split <;> exact ⟨rfl, fun _ => rfl⟩
  | receiveHandler =>
    simp only [exec]
    split
    · exact ⟨rfl, fun _ => rfl⟩
    · split <;> exact ⟨rfl, fun _ => rfl⟩
  | _ => exact ⟨rfl, fun _ => rfl⟩

theorem Call.settled (k : Call) : Settled k.code ∧ owed k.code = k.frames := by
  cases k with
  | wlanInterruptEnable => exact ⟨⟨nofun, nofun, trivial⟩, rfl⟩
  | wlanInterruptDisable => exact ⟨⟨nofun, trivial⟩, rfl⟩
  | spiResumeSpi => exact ⟨⟨nofun, nofun, trivial⟩, rfl⟩
  | spiWrite f => exact ⟨⟨nofun, nofun, nofun, nofun, trivial⟩, rfl⟩
  | command f op args => exact ⟨⟨nofun, nofun, nofun, nofun, fun _ => rfl, trivial⟩, rfl⟩
  | simpleLinkWaitData args => exact ⟨⟨fun _ => rfl, trivial⟩, rfl⟩

/-- The frames handed over are those accepted and those that are left in the code. -/
theorem issued_stmt {c : Core} {s : Stmt} {rest : List Stmt} {accepted : List SpiFrame}
    (hsettled : Settled (s :: rest)) (t : Config) :
    Settled ((exec patches s c).2 ++ rest) ∧
      framesAccepted accepted ⟨c, s :: rest⟩ .stmt t ++ owed ((exec patches s c).2 ++ rest) =
        framesIssued patches (accepted ++ owed (s :: rest)) ⟨c, s :: rest⟩ .stmt t := by
  obtain ⟨hnone, hrest⟩ := hsettled
  by_cases hpatch : s = .hehPatch
  · subst hpatch
    have hnone := hnone rfl
    simp only [exec, framesIssued, List.head?_cons]
    split
    · refine ⟨hrest.append (.flatMap _ fun _ => rfl), ?_⟩
      rw [owed_append, owed_patches, hnone, List.append_nil]
      show accepted ++ _ = accepted ++ owed rest ++ _
      rw [hnone, List.append_nil]
    · exact ⟨hrest, rfl⟩
  · obtain ⟨hpush, honly⟩ := @exec_owed patches s c hpatch
    constructor
    · cases hwaits : s.waits with
      | false => exact hrest.append (honly hwaits)
      | true => exact hrest.append_none hpush (hnone hwaits)
    · rw [owed_append, hpush, List.nil_append]
      cases s with
      | hehPatch => exact absurd rfl hpatch
      | swTestInitialized f => exact List.append_assoc _ _ _
      | _ => rfl

theorem issued_step {s t : Config} {l : Label} (hs : SpiStep patches s l t)
    (hsettled : Settled s.todo) (accepted : List SpiFrame) :
    Settled t.todo ∧ framesAccepted accepted s l t ++ owed t.todo =
      framesIssued patches (accepted ++ owed s.todo) s l t := by
  cases hs with
  | stmt c a rest => exact issued_stmt hsettled _
  | call c k =>
    obtain ⟨hcode, howed⟩ := k.settled
    refine ⟨hcode, ?_⟩
    rw [howed]
    show accepted ++ k.frames = accepted ++ [] ++ k.frames
    rw [List.append_nil]
  | edge todo hpin hisr => exact ⟨hsettled, rfl⟩
  | rise c todo => exact ⟨hsettled, rfl⟩

/-! Over runs. -/

/-- The machine with the frames handed over, the condition met. -/
def busStep (patches : Mem → List SpiFrame) :
    Config × List SpiFrame → Label → Config × List SpiFrame → Prop :=
  guarded (fun s => BusHeld s.1) (watch (SpiStep patches) (framesIssued patches))

/-- The device follows the bus, and a frame handed over is accepted or left in the code. -/
def Follows (coming₀ : Nat → Mem) (s : Config × List SpiFrame) : Prop :=
  ∃ accepted p, Peer.start.follow s.1.core.bus = some p ∧ Place coming₀ s.1 accepted p ∧
    Settled s.1.todo ∧ accepted ++ owed s.1.todo = s.2

theorem Follows.run {coming₀ : Nat → Mem} {s t : Config × List SpiFrame} {ls : List Label}
    (hrun : Run (busStep patches) s ls t) (h : Follows coming₀ s) : Follows coming₀ t := by
  apply hrun.invariant h
  intro a l b _ ⟨accepted, p, hfollow, hplace, hsettled, howed⟩ ⟨hok, hstep, hobs⟩
  obtain ⟨new, q, hbus, hnew, hnext⟩ := hplace.step hok hstep
  obtain ⟨hsettled', howed'⟩ := issued_step hstep hsettled accepted
  refine ⟨_, q, ?_, hnext, hsettled', ?_⟩
  · rw [hbus, Peer.follow_append, hfollow]
    exact hnew
  · rw [howed', howed, hobs]

/-- The frames sent are the first of these, and the packets read are the first. -/
def Heard (coming₀ : Nat → Mem) (frames : List SpiFrame) (past : List Transfer) : Prop :=
  (∃ pending, past.filterMap Transfer.out? ++ pending = frames.map SpiFrame.wire) ∧
    ∃ k, past.filterMap Transfer.into? = (List.range k).map fun i => packetBytes (coming₀ i)

section
variable {coming₀ coming : Nat → Mem} {frames : List SpiFrame} {past : List Transfer}

theorem Tallied.heard (h : Tallied coming₀ frames coming past) : Heard coming₀ frames past := by
  obtain ⟨hsent, k, hread, -⟩ := h
  exact ⟨⟨[], by rw [List.append_nil, hsent]⟩, k, hread⟩

/-- A frame is on its way. -/
theorem Tallied.heard_pending (h : Tallied coming₀ frames coming past) (f : SpiFrame) :
    Heard coming₀ (frames ++ [f]) past := by
  obtain ⟨hsent, k, hread, -⟩ := h
  refine ⟨⟨[f.wire], ?_⟩, k, hread⟩
  rw [hsent, List.map_append]
  rfl

/-- The transfer that is about to end does not count yet. -/
theorem Tallied.heard_open {t : Transfer} (h : Tallied coming₀ frames coming (past ++ [t])) :
    Heard coming₀ frames past := by
  obtain ⟨hsent, k, hread, -⟩ := h
  rw [List.filterMap_append] at hsent hread
  cases t with
  | out bytes =>
    exact ⟨⟨[bytes], hsent⟩, k, (List.append_nil _).symm.trans hread⟩
  | into bytes =>
    refine ⟨⟨[], hsent⟩, ?_⟩
    cases k with
    | zero => cases (List.append_eq_nil_iff.mp hread).2
    | succ k =>
      rw [List.range_succ, List.map_append] at hread
      exact ⟨k, (List.append_inj' hread rfl).1⟩

theorem Place.heard {s : Config} {p : Peer} (h : Place coming₀ s frames p) :
    Heard coming₀ frames p.past := by
  cases h with
  | away _ _ h | readSelect _ _ h | readStart _ _ h => exact h.heard
  | header _ _ _ _ h | between _ _ _ h | dataCont _ _ _ h | data _ _ _ _ h | read _ _ _ h =>
    exact h.heard
  | disable _ _ _ h | spin _ _ _ h | claim _ _ _ h | claimed _ _ _ _ h => exact h.heard_pending _
  | select _ _ _ h | waiting _ _ _ h | first _ _ _ h | clocking _ _ _ h => exact h.heard_pending _
  | close _ _ h => exact h.heard_open

end

/-- **The device sees whole transfers.** In every run of calls and interrupts, in any
order, from a driver for which no frame waits: if no frame is clocked out twice and no
interrupt comes between a frame and its deassertion, the device follows all that passes
on the bus; what it has heard are the first of the frames that were handed to `SpiWrite`
and what it has said are its first packets, each once and in order; and when all calls
have returned no transfer is under way and it has heard every frame. -/
theorem bus_whole {c : Core} (hbus : c.bus = []) (hstate : c.ulSpiState ≠ .writeIrq)
    {ls : List Label} {s : Config × List SpiFrame}
    (hrun : Run (busStep patches) (⟨c, []⟩, []) ls s) :
    ∃ p, Peer.start.follow s.1.core.bus = some p ∧
      (∃ pending, p.heard ++ pending = s.2.map SpiFrame.wire) ∧
      (∃ k, p.said = (List.range k).map fun i => packetBytes (c.coming i)) ∧
      (s.1.todo = [] → p.now = none ∧ p.heard = s.2.map SpiFrame.wire ∧
        ∀ n, s.1.core.coming n = c.coming (n + p.said.length)) := by
  have hstart : Tallied c.coming [] c.coming [] := ⟨rfl, 0, rfl, fun _ => rfl⟩
  have hfollows : Follows c.coming (⟨c, []⟩, []) :=
    ⟨[], Peer.start, by rw [hbus]; rfl, .away .nil hstate hstart, trivial, rfl⟩
  obtain ⟨accepted, p, hfollow, hplace, -, howed⟩ := hfollows.run hrun
  obtain ⟨⟨pending, hheard⟩, hsaid⟩ := hplace.heard
  refine ⟨p, hfollow, ⟨pending ++ (owed s.1.todo).map SpiFrame.wire, ?_⟩, hsaid, ?_⟩
  · rw [← List.append_assoc, Peer.heard, hheard, ← List.map_append, howed]
  · intro hdone
    obtain ⟨past, rfl, -, hsent, k, hread, hcoming⟩ := hplace.returned hdone
    have hall : accepted = s.2 := by
      rw [hdone] at howed
      exact (List.append_nil _).symm.trans howed
    refine ⟨rfl, by rw [← hall]; exact hsent, ?_⟩
    intro n
    have hlen : (Peer.said ⟨past, none⟩).length = k := by
      rw [Peer.said, hread, List.length_map, List.length_range]
    rw [hcoming, hlen]

/-- The condition asks nothing of the statement. -/
def Stmt.unasked : Stmt → Bool
  | swTestPin | swTestInitialized _ => false
  | _ => true

theorem busHeld_of_unasked {s : Config} (h : s.todo.head?.all Stmt.unasked = true) :
    BusHeld s .stmt := by
  have hasked {a : Stmt} (ha : s.todo.head? = some a) : a.unasked = true := by
    rw [ha] at h
    exact h
  constructor
  · intro ha
    cases hasked ha
  · intro f ha
    cases hasked ha

theorem busStep_mainAlone (n : Nat) {s t : Config × List SpiFrame}
    (h : mainAlone (framesIssued patches) Stmt.unasked patches n s = some t) :
    Run (busStep patches) s (List.replicate n .stmt) t := by
  apply (run_tested n h).mono
  intro a l b hl ⟨hunasked, hstep⟩
  obtain rfl := List.eq_of_mem_replicate hl
  exact ⟨busHeld_of_unasked hunasked, hstep⟩

theorem busStep_edge {c c' : Core} (todo : List Stmt) (frames : List SpiFrame) (n : Nat)
    (hok : BusHeld ⟨c, todo⟩ .edge) (hpin : c.pinLow = false)
    (hisr : Code.runAlone (exec patches) n { c with pinLow := true } wlanIrqHandler = (c', [])) :
    Run (busStep patches) (⟨c, todo⟩, frames) [.edge] (⟨c', todo⟩, frames) :=
  Run.single ⟨hok, .edge todo hpin (Code.finishes_of_runAlone n hisr), rfl⟩

theorem busStep_rise (c : Core) (todo : List Stmt) (frames : List SpiFrame) :
    Run (busStep patches) (⟨c, todo⟩, frames) [.rise]
      (⟨{ c with pinLow := false }, todo⟩, frames) :=
  Run.single ⟨⟨trivial, trivial⟩, .rise c todo, rfl⟩

/-- The frame is out, in the interrupt that answers the chip select. -/
def answeredCore : Core :=
  { idleCore with
    tx := oneByteFrame
    bus := .csEnable :: (oneByteFrame.wire.map .tx ++ [.csDisable]) }

/-- The next interrupt reads a packet. -/
def packetCore : Core :=
  (Code.runAlone (exec fun _ => []) 60 { answeredCore with pinLow := true } wlanIrqHandler).1

theorem bus_whole_answered : ∃ p, Peer.start.follow packetCore.bus = some p ∧ p.now = none ∧
    p.heard = [oneByteFrame.wire] ∧
    ∃ k, p.said = (List.range k).map fun i => packetBytes (idleCore.coming i) := by
  have hcall : Run (busStep fun _ => []) (⟨idleCore, []⟩, []) [.call (.spiWrite oneByteFrame)]
      (⟨idleCore, spiWriteCode oneByteFrame⟩, [oneByteFrame]) :=
    Run.single ⟨⟨trivial, trivial⟩, .call idleCore (.spiWrite oneByteFrame), rfl⟩
  have haccept : Run (busStep fun _ => [])
      (⟨idleCore, [.swTestInitialized oneByteFrame, .swSpinDone]⟩, [oneByteFrame]) [.stmt]
      (⟨idleCore, .widClearEnable :: .swSpinIdle :: .setState .writeIrq ::
        .swSetTx oneByteFrame :: .csEnable :: writeTail⟩, [oneByteFrame]) :=
    Run.single ⟨⟨nofun, fun _ _ => nofun⟩, .stmt _ _ _, rfl⟩
  have hselect := (hcall.append (busStep_mainAlone 2 rfl)).append
    (haccept.append (busStep_mainAlone 6 rfl))
  have hout := (hselect.append (busStep_edge _ _ 30 ⟨fun _ _ => rfl, nofun⟩ rfl rfl)).append
    (busStep_rise _ _ _)
  have hmissed := hout.append (busStep_mainAlone 1 rfl)
  have htest : Run (busStep fun _ => []) (⟨answeredCore, [.swTestPin, .swSpinDone]⟩, [oneByteFrame])
      [.stmt] (⟨answeredCore, [.swSpinDone]⟩, [oneByteFrame]) :=
    Run.single ⟨⟨nofun, fun _ => nofun⟩, .stmt _ _ _, rfl⟩
  have hreturned := (hmissed.append htest).append (busStep_mainAlone 1 rfl)
  have hread := hreturned.append (busStep_edge [] _ 60 ⟨nofun, nofun⟩ rfl rfl)
  obtain ⟨p, hfollow, -, hsaid, hdone⟩ := bus_whole rfl (by decide) hread
  obtain ⟨hnow, hheard, -⟩ := hdone rfl
  exact ⟨p, hfollow, hnow, hheard, hsaid⟩

end SpiderL3S
