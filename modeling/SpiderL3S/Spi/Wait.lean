import SpiderL3S.Calls
import SpiderL3S.Socket
import SpiderL3S.Unsol
import SpiderL3S.Spi.Reply

/- A command as the packets see it. The machine of the driver goes statement by statement,
   with interrupts between any two of them; `hciEventHandler` takes one packet after the
   other. `WaitStep` stands between them: a packet is heard at once, and what the handler
   keeps is gone through in one round of the loop. `Stands` says which of its states a
   place in the code is, and every step of the machine is then none or one of its steps,
   as long as no packet is read over one that is held (`Stands.step`). `WaitState.Reached`
   says which packets bring the wait to a state, so a command that returns has done what
   `hciEventHandler` does to the packets that came in its wait. -/
namespace SpiderL3S

open Runs Code

variable {patches : Mem → List SpiFrame}

/-! The wait, packet by packet. -/

/-- One round of the loop on the packet in the buffer. -/
def hciRound (sl : SLInfo) (args : WaitArgs) (data : Mem) : SLInfo × WaitArgs × Bool :=
  let (sl, args) := hciPacketReceived sl args data
  let sl := { sl with usEventOrDataReceived := 0 }
  (sl, args, waitOver sl)

/-- A command before its wait, in it with the buffer free or with a packet in it, and
behind it. -/
inductive WaitState
  | before (sl : SLInfo)
  | polling (sl : SLInfo) (args : WaitArgs)
  | held (sl : SLInfo) (args : WaitArgs) (data : Mem)
  | ended (sl : SLInfo) (args : WaitArgs)

inductive WaitLabel
  | packet (data : Mem)
  | publish (usOpcode : UInt16) (args : WaitArgs)
  | round

inductive WaitStep : WaitState → WaitLabel → WaitState → Prop
  | early (sl : SLInfo) (data : Mem) :
      WaitStep (.before sl) (.packet data) (.before (spiReceiveHandler sl data).1)
  | publish (sl : SLInfo) (usOpcode : UInt16) (args : WaitArgs) :
      WaitStep (.before sl) (.publish usOpcode args)
        (.polling { sl with usRxEventOpcode := usOpcode } args)
  | released {sl sl' : SLInfo} (args : WaitArgs) {data : Mem}
      (h : spiReceiveHandler sl data = (sl', true)) :
      WaitStep (.polling sl args) (.packet data) (.polling sl' args)
  | kept {sl sl' : SLInfo} (args : WaitArgs) {data : Mem}
      (h : spiReceiveHandler sl data = (sl', false)) :
      WaitStep (.polling sl args) (.packet data) (.held sl' args data)
  | next {sl sl' : SLInfo} {args args' : WaitArgs} {data : Mem}
      (h : hciRound sl args data = (sl', args', false)) :
      WaitStep (.held sl args data) .round (.polling sl' args')
  | last {sl sl' : SLInfo} {args args' : WaitArgs} {data : Mem}
      (h : hciRound sl args data = (sl', args', true)) :
      WaitStep (.held sl args data) .round (.ended sl' args')
  | late (sl : SLInfo) (args : WaitArgs) (data : Mem) :
      WaitStep (.ended sl args) (.packet data) (.ended (spiReceiveHandler sl data).1 args)

def WaitLabel.packet? : WaitLabel → Option Mem
  | packet data => some data
  | _ => none

/-- The packets of a run. -/
def packetsOf (ls : List WaitLabel) : List Mem := ls.filterMap WaitLabel.packet?

/-- The globals behind packets that only the interrupt sees. -/
def receiveAll (sl : SLInfo) (packets : List Mem) : SLInfo :=
  packets.foldl (fun sl data => (spiReceiveHandler sl data).1) sl

theorem receiveAll_snoc (sl : SLInfo) (packets : List Mem) (data : Mem) :
    receiveAll sl (packets ++ [data]) = (spiReceiveHandler (receiveAll sl packets) data).1 :=
  List.foldl_concat _ _ _ _

theorem deliver_released {sl sl' : SLInfo} (args : WaitArgs) {data : Mem}
    (h : spiReceiveHandler sl data = (sl', true)) : deliver sl args data = (sl', args, false) := by
  rw [deliver, h]

theorem deliver_kept {sl sl' : SLInfo} (args : WaitArgs) {data : Mem}
    (h : spiReceiveHandler sl data = (sl', false)) :
    deliver sl args data = hciRound sl' args data := by
  rw [deliver, h]
  rfl

/-- One packet more. -/
theorem hciEventHandler_snoc {sl sl' : SLInfo} {args args' : WaitArgs} {packets : List Mem}
    (h : hciEventHandler sl args packets = (sl', args', false)) (data : Mem) :
    hciEventHandler sl args (packets ++ [data]) = deliver sl' args' data := by
  induction packets generalizing sl args with
  | nil =>
    cases h
    exact hciEventHandler_single _ _ _
  | cons p packets ih =>
    rw [List.cons_append]
    cases hd : deliver sl args p with
    | mk sl₁ rest =>
      obtain ⟨args₁, ended⟩ := rest
      rw [hciEventHandler, hd] at h
      cases ended with
      | false => rw [hciEventHandler_cons hd, ih h]
      | true => cases h

/-- What a run of packets has come to, by its state. -/
def WaitState.Reached (sl₀ : SLInfo) (op : UInt16) (args₀ : WaitArgs) (packets : List Mem) :
    WaitState → Prop
  | before sl => sl = receiveAll sl₀ packets
  | polling sl args => ∃ early waited, packets = early ++ waited ∧
      hciEventHandler { receiveAll sl₀ early with usRxEventOpcode := op } args₀ waited =
        (sl, args, false)
  | held sl args data => ∃ early waited sl', packets = early ++ (waited ++ [data]) ∧
      hciEventHandler { receiveAll sl₀ early with usRxEventOpcode := op } args₀ waited =
        (sl', args, false) ∧ spiReceiveHandler sl' data = (sl, false)
  | ended sl args => ∃ early waited late sl', packets = early ++ (waited ++ late) ∧
      hciEventHandler { receiveAll sl₀ early with usRxEventOpcode := op } args₀ waited =
        (sl', args, true) ∧ sl = receiveAll sl' late

theorem WaitState.Reached.step {sl₀ : SLInfo} {op : UInt16} {args₀ : WaitArgs} {packets : List Mem}
    {w w' : WaitState} {l : WaitLabel} (h : w.Reached sl₀ op args₀ packets) (hs : WaitStep w l w')
    (hpublish : ∀ op' args', l = .publish op' args' → op' = op ∧ args' = args₀) :
    w'.Reached sl₀ op args₀ (packets ++ packetsOf [l]) := by
  cases hs with
  | early sl data =>
    obtain rfl : sl = _ := h
    exact (receiveAll_snoc _ _ _).symm
  | publish sl op' args' =>
    obtain ⟨rfl, rfl⟩ := hpublish op' args' rfl
    obtain rfl : sl = _ := h
    exact ⟨packets, [], rfl, rfl⟩
  | released args hreleased =>
    obtain ⟨early, waited, rfl, hwait⟩ := h
    refine ⟨early, waited ++ [_], List.append_assoc _ _ _, ?_⟩
    rw [hciEventHandler_snoc hwait, deliver_released _ hreleased]
  | kept args hkept =>
    obtain ⟨early, waited, rfl, hwait⟩ := h
    exact ⟨early, waited, _, List.append_assoc _ _ _, hwait, hkept⟩
  | next hround =>
    obtain ⟨early, waited, sl', rfl, hwait, hkept⟩ := h
    refine ⟨early, waited ++ [_], List.append_nil _, ?_⟩
    rw [hciEventHandler_snoc hwait, deliver_kept _ hkept, hround]
  | @last _ sl₁ _ _ data hround =>
    obtain ⟨early, waited, sl', rfl, hwait, hkept⟩ := h
    refine ⟨early, waited ++ [data], [], sl₁, ?_, ?_, rfl⟩
    · rw [List.append_nil]
      exact List.append_nil _
    · rw [hciEventHandler_snoc hwait, deliver_kept _ hkept, hround]
  | late sl args data =>
    obtain ⟨early, waited, late, sl', rfl, hwait, rfl⟩ := h
    refine ⟨early, waited, late ++ [data], sl', ?_, hwait, (receiveAll_snoc _ _ _).symm⟩
    simp only [packetsOf, List.filterMap_cons, List.filterMap_nil, WaitLabel.packet?,
      List.append_assoc]

/-! Places in the code. -/

/-- What is left to do between two packets. -/
inductive LoopTail : List Stmt → Prop
  | patch : LoopTail [.hehPatch, .hehTestReturn]
  | test : LoopTail [.hehTestReturn]

/-- The state of the wait, as the loop is about to find it. -/
inductive Loops (c : Core) : WaitState → Prop
  | polling (hgoes : waitOver c.sl = false) (hfree : c.sl.usEventOrDataReceived = 0) :
      Loops c (.polling c.sl c.args)
  | held (hgoes : waitOver c.sl = false) (hheld : c.sl.usEventOrDataReceived ≠ 0) :
      Loops c (.held c.sl c.args c.data)
  | ended (hover : waitOver c.sl = true) : Loops c (.ended c.sl c.args)

/-- The packet that a round is about, at the statements of the round. -/
structure InRound (c : Core) (sl : SLInfo) : Prop where
  flag : c.sl.usEventOrDataReceived ≠ 0
  event : IsEvent c.data
  code : c.usReceivedEventOpcode = eventCode c.data
  start : hciUnsolEventHandler sl c.data = (c.sl, false)

/-- The state of the wait at a place in the code. -/
inductive Stands (op : UInt16) (args : WaitArgs) : Config → WaitState → Prop
  | before {c : Core} {code : List Stmt} (hcode : Whole c code) :
      Stands op args ⟨c, code ++ [.waitEvent op args]⟩ (.before c.sl)
  | beforeReading {c : Core} {code : List Stmt} (hcode : Torn c code) :
      Stands op args ⟨c, code ++ [.waitEvent op args]⟩ (.before c.sl)
  | looping {c : Core} {code tail : List Stmt} {w : WaitState} (hcode : Whole c code)
      (htail : LoopTail tail) (hw : Loops c w) : Stands op args ⟨c, code ++ tail⟩ w
  | reading {c : Core} {code tail : List Stmt} {w : WaitState} (hcode : Torn c code)
      (htail : LoopTail tail) (hw : Loops c w) (hfree : c.sl.usEventOrDataReceived = 0) :
      Stands op args ⟨c, code ++ tail⟩ w
  | testing {c : Core} {w : WaitState} (hw : Loops c w) (hgoes : waitOver c.sl = false) :
      Stands op args ⟨c, [.hehTest]⟩ w
  | taken {c : Core} (hflag : c.sl.usEventOrDataReceived ≠ 0) :
      Stands op args ⟨c, .hehTestType :: hehTail⟩ (.held c.sl c.args c.data)
  | unsol {c : Core} (hflag : c.sl.usEventOrDataReceived ≠ 0) (hevent : IsEvent c.data)
      (hcode : c.usReceivedEventOpcode = eventCode c.data) :
      Stands op args ⟨c, .hehUnsol :: .hehClearOpcode :: hehTail⟩ (.held c.sl c.args c.data)
  | switch {c : Core} {sl : SLInfo} (h : InRound c sl) :
      Stands op args ⟨c, .hehSwitch :: .hehClearOpcode :: hehTail⟩ (.held sl c.args c.data)
  | clear {c : Core} {sl : SLInfo} {args' : WaitArgs} (hflag : c.sl.usEventOrDataReceived ≠ 0)
      (h : hciPacketReceived sl args' c.data =
        (if c.usReceivedEventOpcode = c.sl.usRxEventOpcode then
          { c.sl with usRxEventOpcode := 0 } else c.sl, c.args)) :
      Stands op args ⟨c, .hehClearOpcode :: hehTail⟩ (.held sl args' c.data)
  | data {c : Core} (hflag : c.sl.usEventOrDataReceived ≠ 0) (hdata : ¬ IsEvent c.data) :
      Stands op args ⟨c, .hehData :: hehTail⟩ (.held c.sl c.args c.data)
  | releasing {c : Core} {sl : SLInfo} {args' : WaitArgs}
      (hflag : c.sl.usEventOrDataReceived ≠ 0)
      (h : hciPacketReceived sl args' c.data = (c.sl, c.args)) :
      Stands op args ⟨c, hehTail⟩ (.held sl args' c.data)
  | hung {c : Core} {sl : SLInfo} {args' : WaitArgs} (hflag : c.sl.usEventOrDataReceived ≠ 0) :
      Stands op args ⟨c, .hang :: .hehClearOpcode :: hehTail⟩ (.held sl args' c.data)
  | returned {c : Core} : Stands op args ⟨c, []⟩ (.ended c.sl c.args)

/-! What the driver does to the wait. -/

/-- The statement leaves the arguments of the loop alone. -/
def Stmt.keepsArgs : Stmt → Bool
  | waitEvent .. | waitData _ | hehSwitch | hehData => false
  | _ => true

theorem exec_keepsArgs {s : Stmt} (c : Core) (hs : s.keepsArgs = true) :
    (exec patches s c).1.args = c.args := by
  cases s with
  | writeSync f ptr left => cases left <;> rfl
  | readSync ptr left => cases left <;> rfl
  | waitEvent | waitData | hehSwitch | hehData => cases hs
  | _ => rfl

theorem Stmt.keepsArgs_of_driver {s : Stmt} (h : s.driver = true) : s.keepsArgs = true := by
  cases s <;> first | rfl | cases h

theorem Whole.keepsArgs {c : Core} {s : Stmt} {code : List Stmt} (h : Whole c (s :: code)) :
    s.keepsArgs = true := by
  generalize hall : s :: code = all at h
  cases h with
  | driver h =>
    subst hall
    exact Stmt.keepsArgs_of_driver (Only.cons_iff.mp h).1
  | start h =>
    obtain ⟨rfl, -⟩ := List.cons.inj hall
    rfl
  | select hbusy h =>
    obtain ⟨rfl, -⟩ := List.cons.inj hall
    rfl
  | header hbusy h =>
    obtain ⟨rfl, -⟩ := List.cons.inj hall
    rfl

theorem Torn.keepsArgs {c : Core} {s : Stmt} {code : List Stmt} (h : Torn c (s :: code)) :
    s.keepsArgs = true := by
  generalize hall : s :: code = all at h
  cases h with
  | @transfer pre rest hbusy hpre h =>
    cases pre with
    | nil =>
      obtain ⟨rfl, -⟩ := List.cons.inj hall
      rfl
    | cons a pre =>
      obtain ⟨rfl, -⟩ := List.cons.inj hall
      have hs := (Only.cons_iff.mp hpre).1
      cases s <;> first | rfl | cases hs
  | @close pre rest henable hpre h =>
    cases pre with
    | nil =>
      obtain ⟨rfl, -⟩ := List.cons.inj hall
      rfl
    | cons a pre =>
      obtain ⟨rfl, -⟩ := List.cons.inj hall
      have hs := (Only.cons_iff.mp hpre).1
      cases s <;> first | rfl | cases hs

theorem Loops.congr {c c' : Core} {w : WaitState} (h : Loops c w) (hrx : c'.rx = c.rx)
    (hsl : c'.sl = c.sl) (hargs : c'.args = c.args) : Loops c' w := by
  have hdata : c'.data = c.data := by rw [Core.data, Core.data, hrx]
  cases h with
  | polling hgoes hfree =>
    rw [← hsl, ← hargs]
    rw [← hsl] at hgoes hfree
    exact .polling hgoes hfree
  | held hgoes hheld =>
    rw [← hsl, ← hargs, ← hdata]
    rw [← hsl] at hgoes hheld
    exact .held hgoes hheld
  | ended hover =>
    rw [← hsl, ← hargs]
    rw [← hsl] at hover
    exact .ended hover

/-- In a free buffer the bytes do not matter. -/
theorem Loops.congr_free {c c' : Core} {w : WaitState} (h : Loops c w)
    (hfree : c.sl.usEventOrDataReceived = 0) (hsl : c'.sl = c.sl) (hargs : c'.args = c.args) :
    Loops c' w := by
  cases h with
  | polling hgoes hfree =>
    rw [← hsl] at hgoes hfree
    rw [← hsl, ← hargs]
    exact .polling hgoes hfree
  | held _ hheld => exact absurd hfree hheld
  | ended hover =>
    rw [← hsl] at hover
    rw [← hsl, ← hargs]
    exact .ended hover

/-- The flag says what the handler has done with the packet. -/
theorem spiReceiveHandler_marks {sl sl' : SLInfo} {data : Mem} {released : Bool}
    (h : spiReceiveHandler sl data = (sl', released)) :
    sl'.usEventOrDataReceived = if released then 0 else 1 := by
  by_cases hevent : IsEvent data
  · rw [spiReceiveHandler_event sl hevent] at h
    split at h
    · obtain ⟨rfl, rfl⟩ := Prod.mk.inj h
      rfl
    · obtain ⟨rfl, rfl⟩ := Prod.mk.inj h
      rfl
  · rw [spiReceiveHandler_other sl hevent] at h
    obtain ⟨rfl, rfl⟩ := Prod.mk.inj h
    rfl

theorem waitOver_congr {sl sl' : SLInfo} (h : SameWait sl sl') : waitOver sl' = waitOver sl := by
  rw [waitOver, waitOver, h.1, h.2]

/-- A packet is heard between two rounds. -/
theorem Loops.hear {c c' : Core} {w : WaitState} (h : Loops c w)
    (hfree : c.sl.usEventOrDataReceived = 0)
    (hsl : c'.sl = (spiReceiveHandler c.sl c'.data).1) (hargs : c'.args = c.args) :
    ∃ w', WaitStep w (.packet c'.data) w' ∧ Loops c' w' := by
  have hwait : waitOver c'.sl = waitOver c.sl := by
    rw [hsl]
    exact waitOver_congr (spiReceiveHandler_sameWait c.sl c'.data)
  cases h with
  | polling hgoes =>
    cases hheard : spiReceiveHandler c.sl c'.data with
    | mk sl' released =>
      have hsl : c'.sl = sl' := hsl.trans (congrArg Prod.fst hheard)
      have hflag := spiReceiveHandler_marks hheard
      cases released with
      | true =>
        rw [← hsl] at hheard hflag
        refine ⟨_, .released c.args hheard, ?_⟩
        rw [← hargs]
        exact .polling (hwait.trans hgoes) hflag
      | false =>
        rw [← hsl] at hheard hflag
        refine ⟨_, .kept c.args hheard, ?_⟩
        rw [← hargs]
        refine .held (hwait.trans hgoes) ?_
        rw [hflag]
        decide
  | held _ hheld => exact absurd hfree hheld
  | ended hover =>
    refine ⟨_, .late c.sl c.args c'.data, ?_⟩
    rw [← hsl, ← hargs]
    exact .ended (hwait.trans hover)

/-! One statement. -/

/-- The packets that a step reads. -/
def packetsRead (s : Config) (l : Label) : List Mem :=
  match l with
  | .edge => if s.core.reads then [s.core.nextData] else []
  | .stmt =>
    match s.todo.head? with
    | some .receiveHandler => [s.core.data]
    | _ => []
  | _ => []

/-- No packet is read over one that is held, and none is held where the wait begins. -/
def OneAtATime (s : Config) : Label → Prop
  | .edge => s.core.reads = true → s.core.sl.usEventOrDataReceived = 0
  | .stmt => ∀ a ∈ s.todo.head?, a = .readHeader ∨ (∃ op args, a = .waitEvent op args) →
      s.core.sl.usEventOrDataReceived = 0
  | _ => True

/-- What a step of the machine is to the wait. -/
def Matches (op : UInt16) (args : WaitArgs) (w : WaitState) (heard : List Mem) (t : Config) :
    Prop :=
  ∃ ls w', Run WaitStep w ls w' ∧ Stands op args t w' ∧ packetsOf ls = heard ∧
    ∀ op' args', .publish op' args' ∈ ls → op' = op ∧ args' = args

theorem Matches.none {op : UInt16} {args : WaitArgs} {w : WaitState} {t : Config}
    (h : Stands op args t w) : Matches op args w [] t :=
  ⟨[], w, .nil w, h, rfl, fun _ _ hmem => absurd hmem List.not_mem_nil⟩

theorem Matches.packet {op : UInt16} {args : WaitArgs} {w w' : WaitState} {data : Mem} {t : Config}
    (hstep : WaitStep w (.packet data) w') (h : Stands op args t w') :
    Matches op args w [data] t := by
  refine ⟨[.packet data], w', .single hstep, h, rfl, ?_⟩
  intro op' args' hmem
  cases List.mem_singleton.mp hmem

theorem Matches.round {op : UInt16} {args : WaitArgs} {w w' : WaitState} {t : Config}
    (hstep : WaitStep w .round w') (h : Stands op args t w') : Matches op args w [] t := by
  refine ⟨[.round], w', .single hstep, h, rfl, ?_⟩
  intro op' args' hmem
  cases List.mem_singleton.mp hmem

/-- What the observer adds. -/
def heardAt : Stmt → Core → List Mem
  | .receiveHandler, c => [c.data]
  | _, _ => []

theorem heardAt_of_ne {s : Stmt} (c : Core) (h : s ≠ .receiveHandler) : heardAt s c = [] := by
  cases s with
  | receiveHandler => exact absurd rfl h
  | _ => rfl

theorem packetsRead_stmt (c : Core) (s : Stmt) (rest : List Stmt) :
    packetsRead ⟨c, s :: rest⟩ .stmt = heardAt s c := by
  cases s <;> rfl

section
variable {op : UInt16} {args : WaitArgs} {c : Core} {s : Stmt} {code tail : List Stmt}
  {w : WaitState}

/-- Main code hands a packet to the callback. -/
theorem receiveHandler_sl (c : Core) :
    (exec patches .receiveHandler c).1.sl =
        (spiReceiveHandler c.sl (exec patches .receiveHandler c).1.data).1 ∧
      (exec patches .receiveHandler c).1.data = c.data ∧
      (exec patches .receiveHandler c).1.args = c.args := ⟨rfl, rfl, rfl⟩

theorem Torn.handed (h : Torn c (.receiveHandler :: code)) :
    Whole (exec patches .receiveHandler c).1 ((exec patches .receiveHandler c).2 ++ code) := by
  have hresume : Only Stmt.driver (exec patches .receiveHandler c).2 :=
    only_receiveHandler patches c rfl
  exact .driver (hresume.append h.receiveHandler)

theorem before_stmt (hcode : Whole c (s :: code)) :
    Matches op args (.before c.sl) (heardAt s c)
      ⟨(exec patches s c).1, (exec patches s c).2 ++ (code ++ [.waitEvent op args])⟩ := by
  rw [← List.append_assoc, heardAt_of_ne c hcode.head.1]
  by_cases hs : s = .readHeader
  · subst hs
    obtain ⟨hsl, htorn⟩ := @Whole.readHeader patches _ _ hcode
    rw [← hsl]
    exact .none (.beforeReading htorn)
  · obtain ⟨-, hsl, hwhole⟩ := @Whole.stmt patches _ _ _ hcode hs
    rw [← hsl]
    exact .none (.before hwhole)

theorem beforeReading_stmt (hcode : Torn c (s :: code)) :
    Matches op args (.before c.sl) (heardAt s c)
      ⟨(exec patches s c).1, (exec patches s c).2 ++ (code ++ [.waitEvent op args])⟩ := by
  rw [← List.append_assoc]
  by_cases hs : s = .receiveHandler
  · subst hs
    exact .packet (.early c.sl c.data) (.before hcode.handed)
  · obtain ⟨hsl, htorn⟩ := @Torn.stmt patches _ _ _ hcode hs
    rw [heardAt_of_ne c hs, ← hsl]
    exact .none (.beforeReading htorn)

theorem looping_stmt (hcode : Whole c (s :: code)) (htail : LoopTail tail) (hw : Loops c w)
    (hok : OneAtATime ⟨c, s :: (code ++ tail)⟩ .stmt) :
    Matches op args w (heardAt s c)
      ⟨(exec patches s c).1, (exec patches s c).2 ++ (code ++ tail)⟩ := by
  rw [← List.append_assoc, heardAt_of_ne c hcode.head.1]
  have hargs := @exec_keepsArgs patches s c hcode.keepsArgs
  by_cases hs : s = .readHeader
  · subst hs
    have hfree := hok _ rfl (.inl rfl)
    obtain ⟨hsl, htorn⟩ := @Whole.readHeader patches _ _ hcode
    exact .none (.reading htorn htail (hw.congr_free hfree hsl hargs) (by rw [hsl]; exact hfree))
  · obtain ⟨hrx, hsl, hwhole⟩ := @Whole.stmt patches _ _ _ hcode hs
    exact .none (.looping hwhole htail (hw.congr hrx hsl hargs))

theorem reading_loop_stmt (hcode : Torn c (s :: code)) (htail : LoopTail tail) (hw : Loops c w)
    (hfree : c.sl.usEventOrDataReceived = 0) :
    Matches op args w (heardAt s c)
      ⟨(exec patches s c).1, (exec patches s c).2 ++ (code ++ tail)⟩ := by
  rw [← List.append_assoc]
  by_cases hs : s = .receiveHandler
  · subst hs
    obtain ⟨hsl, hdata, hargs⟩ := @receiveHandler_sl patches c
    obtain ⟨w', hstep, hw'⟩ := hw.hear hfree hsl hargs
    exact .packet hstep (.looping hcode.handed htail hw')
  · have hargs := @exec_keepsArgs patches s c hcode.keepsArgs
    obtain ⟨hsl, htorn⟩ := @Torn.stmt patches _ _ _ hcode hs
    rw [heardAt_of_ne c hs]
    exact .none (.reading htorn htail (hw.congr_free hfree hsl hargs) (by rw [hsl]; exact hfree))

/-- Between two pieces of the driver. -/
theorem tail_wait_stmt {rest : List Stmt} (htail : LoopTail (s :: rest)) (hw : Loops c w) :
    Matches op args w (heardAt s c)
      ⟨(exec patches s c).1, (exec patches s c).2 ++ rest⟩ := by
  cases htail with
  | patch =>
    have hpatches : Only Stmt.driver (exec patches .hehPatch c).2 := by
      simp only [exec]
      split
      · exact Only.flatMap _ driver_spiWriteCode
      · rfl
    exact .none (.looping (.driver hpatches) .test (hw.congr rfl rfl rfl))
  | test =>
    by_cases hover : waitOver c.sl = true
    · simp only [exec, hover, if_true]
      cases hw with
      | polling hgoes => cases hover.symm.trans hgoes
      | held hgoes => cases hover.symm.trans hgoes
      | ended => exact .none .returned
    · simp only [exec, if_neg hover]
      exact .none (.testing hw (Bool.eq_false_iff.mpr hover))

/-- The wait begins. -/
theorem publish_stmt (hop : op ≠ 0)
    (hok : OneAtATime ⟨c, [.waitEvent op args]⟩ .stmt) :
    Matches op args (.before c.sl) (heardAt (.waitEvent op args) c)
      ⟨(exec patches (.waitEvent op args) c).1,
        (exec patches (.waitEvent op args) c).2 ++ []⟩ := by
  have hfree := hok _ rfl (.inr ⟨op, args, rfl⟩)
  have hgoes : waitOver { c.sl with usRxEventOpcode := op } = false := by
    rw [waitOver, decide_eq_false hop, Bool.false_and]
  refine ⟨[.publish op args], _, .single (.publish c.sl op args), .testing ?_ hgoes, rfl, ?_⟩
  · exact .polling hgoes hfree
  · intro op' args' hmem
    cases List.mem_singleton.mp hmem
    exact ⟨rfl, rfl⟩

theorem testing_wait_stmt (hw : Loops c w) (hgoes : waitOver c.sl = false) :
    Matches op args w (heardAt .hehTest c)
      ⟨(exec patches .hehTest c).1, (exec patches .hehTest c).2 ++ []⟩ := by
  rw [List.append_nil]
  by_cases hflag : c.sl.usEventOrDataReceived ≠ 0
  · simp only [exec, if_pos hflag]
    cases hw with
    | polling _ hfree => exact absurd hfree hflag
    | held _ _ => exact .none (.taken hflag)
    | ended hover => cases hover.symm.trans hgoes
  · simp only [exec, if_neg hflag]
    exact .none (.testing hw hgoes)

theorem taken_wait_stmt (hflag : c.sl.usEventOrDataReceived ≠ 0) :
    Matches op args (.held c.sl c.args c.data) (heardAt .hehTestType c)
      ⟨(exec patches .hehTestType c).1, (exec patches .hehTestType c).2 ++ hehTail⟩ := by
  by_cases hev : c.data hciPacketTypeOffset = hciTypeEvnt
  · simp only [exec, if_pos hev]
    exact .none (@Stands.unsol _ _ { c with usReceivedEventOpcode := eventCode c.data } hflag hev
      rfl)
  · simp only [exec, if_neg hev]
    exact .none (@Stands.data _ _ { c with usReceivedEventOpcode := c.usReceivedEventOpcode }
      hflag hev)

theorem unsol_stmt (hflag : c.sl.usEventOrDataReceived ≠ 0) (hevent : IsEvent c.data)
    (hcode : c.usReceivedEventOpcode = eventCode c.data) :
    Matches op args (.held c.sl c.args c.data) (heardAt .hehUnsol c)
      ⟨(exec patches .hehUnsol c).1,
        (exec patches .hehUnsol c).2 ++ .hehClearOpcode :: hehTail⟩ := by
  have hflag' : (hciUnsolEventHandler c.sl c.data).1.usEventOrDataReceived ≠ 0 := by
    rw [hciUnsolEventHandler_flag]
    exact hflag
  by_cases hnull : CallsNull c.sl c.data
  · simp only [exec, if_pos hnull]
    exact .none (@Stands.hung _ _ { c with sl := (hciUnsolEventHandler c.sl c.data).1 } c.sl
      c.args hflag')
  cases hhandled : (hciUnsolEventHandler c.sl c.data).2 with
  | true =>
    simp only [exec, if_neg hnull, hhandled, if_true]
    refine .none (@Stands.clear _ _ { c with sl := (hciUnsolEventHandler c.sl c.data).1 } c.sl
      c.args hflag' ?_)
    have hevent : c.data hciPacketTypeOffset = hciTypeEvnt := hevent
    show hciPacketReceived c.sl c.args c.data = _
    rw [hciPacketReceived, if_pos hevent]
    dsimp only
    rw [hhandled, if_pos rfl, hcode]
  | false =>
    simp only [exec, if_neg hnull, hhandled, Bool.false_eq_true, if_false]
    exact .none (@Stands.switch _ _ { c with sl := (hciUnsolEventHandler c.sl c.data).1 } c.sl
      ⟨hflag', hevent, hcode, Prod.ext rfl hhandled⟩)

/-- What is stored where it was read changes nothing. -/
theorem Mem.store_slice (m : Mem) (p n : Nat) : m.store p (m.slice p n) = m := by
  funext i
  by_cases hi : p ≤ i ∧ i < p + n
  · obtain ⟨hle, hlt⟩ := hi
    rw [Mem.store_in _ hle (by rwa [Mem.slice_length]), Mem.slice_getD _ (by omega),
      Nat.add_sub_of_le hle]
  · rw [Mem.store_out _ (by rwa [Mem.slice_length])]

/-- What is decoded is the packet itself. -/
theorem decode_eq (hcode : c.usReceivedEventOpcode = eventCode c.data) :
    c.decode = hciEventSwitch c.sl c.args.ret c.data := by
  have hsame :
      c.data.store hciEventOpcodeOffset (uint16Bytes c.usReceivedEventOpcode) = c.data := by
    rw [hcode, eventCode, uint16Bytes_stream]
    exact Mem.store_slice c.data hciEventOpcodeOffset 2
  rw [Core.decode, hsame]

theorem switch_stmt {sl : SLInfo} (h : InRound c sl) :
    Matches op args (.held sl c.args c.data) (heardAt .hehSwitch c)
      ⟨(exec patches .hehSwitch c).1,
        (exec patches .hehSwitch c).2 ++ .hehClearOpcode :: hehTail⟩ := by
  obtain ⟨hflag, hevent, hcode, hstart⟩ := h
  have hevent : c.data hciPacketTypeOffset = hciTypeEvnt := hevent
  have hflag' : c.decode.1.usEventOrDataReceived ≠ 0 := by
    rw [decode_eq hcode, hciEventSwitch_flag]
    exact hflag
  refine .none (@Stands.clear _ _
    { c with sl := c.decode.1, args := { c.args with ret := c.decode.2 } } sl c.args hflag' ?_)
  show hciPacketReceived sl c.args c.data = _
  rw [hciPacketReceived, if_pos hevent, hstart]
  dsimp only
  rw [if_neg Bool.false_ne_true, decode_eq hcode, hcode]

theorem clear_stmt {sl : SLInfo} {args' : WaitArgs} (hflag : c.sl.usEventOrDataReceived ≠ 0)
    (h : hciPacketReceived sl args' c.data =
      (if c.usReceivedEventOpcode = c.sl.usRxEventOpcode then
        { c.sl with usRxEventOpcode := 0 } else c.sl, c.args)) :
    Matches op args (.held sl args' c.data) (heardAt .hehClearOpcode c)
      ⟨(exec patches .hehClearOpcode c).1, (exec patches .hehClearOpcode c).2 ++ hehTail⟩ := by
  refine .none (@Stands.releasing _ _ { c with
    sl := if c.usReceivedEventOpcode = c.sl.usRxEventOpcode then
      { c.sl with usRxEventOpcode := 0 } else c.sl } sl args' ?_ h)
  show (if _ then _ else _ : SLInfo).usEventOrDataReceived ≠ 0
  split
  · exact hflag
  · exact hflag

theorem data_stmt (hflag : c.sl.usEventOrDataReceived ≠ 0) (hdata : ¬ IsEvent c.data) :
    Matches op args (.held c.sl c.args c.data) (heardAt .hehData c)
      ⟨(exec patches .hehData c).1, (exec patches .hehData c).2 ++ hehTail⟩ := by
  have hdata : ¬ c.data hciPacketTypeOffset = hciTypeEvnt := hdata
  refine .none (@Stands.releasing _ _ { c with
    sl := (hciDataReceived c.sl c.args c.data).1
    args := (hciDataReceived c.sl c.args c.data).2 } c.sl c.args hflag ?_)
  show hciPacketReceived c.sl c.args c.data = _
  rw [hciPacketReceived, if_neg hdata]

/-- The packet is released, and the round is over. -/
theorem release_stmt {sl : SLInfo} {args' : WaitArgs}
    (h : hciPacketReceived sl args' c.data = (c.sl, c.args)) :
    Matches op args (.held sl args' c.data) (heardAt .hehRelease c)
      ⟨(exec patches .hehRelease c).1,
        (exec patches .hehRelease c).2 ++ (spiResumeSpi ++ [.hehPatch, .hehTestReturn])⟩ := by
  have hresume : Only Stmt.driver spiResumeSpi := rfl
  have hround : hciRound sl args' c.data = ({ c.sl with usEventOrDataReceived := 0 }, c.args,
      waitOver { c.sl with usEventOrDataReceived := 0 }) := by
    rw [hciRound, h]
  have hstands : ∀ {w : WaitState}, Loops (exec patches .hehRelease c).1 w →
      Stands op args ⟨(exec patches .hehRelease c).1,
        (exec patches .hehRelease c).2 ++ (spiResumeSpi ++ [.hehPatch, .hehTestReturn])⟩ w :=
    fun hw => @Stands.looping _ _ _ spiResumeSpi _ _ (.driver hresume) .patch hw
  cases hover : waitOver { c.sl with usEventOrDataReceived := 0 } with
  | true =>
    rw [hover] at hround
    exact .round (.last hround) (hstands (.ended hover))
  | false =>
    rw [hover] at hround
    exact .round (.next hround) (hstands (.polling hover rfl))

/-- A statement of main code. -/
theorem Stands.stmt {rest : List Stmt} (hop : op ≠ 0) (h : Stands op args ⟨c, s :: rest⟩ w)
    (hok : OneAtATime ⟨c, s :: rest⟩ .stmt) :
    Matches op args w (heardAt s c) ⟨(exec patches s c).1, (exec patches s c).2 ++ rest⟩ := by
  generalize htodo : s :: rest = todo at h
  cases h with
  | @before c code hcode =>
    cases code with
    | nil =>
      obtain ⟨rfl, rfl⟩ := List.cons.inj htodo
      exact publish_stmt hop hok
    | cons a code =>
      obtain ⟨rfl, rfl⟩ := List.cons.inj htodo
      exact before_stmt hcode
  | @beforeReading c code hcode =>
    cases code with
    | nil => cases hcode.ne_nil rfl
    | cons a code =>
      obtain ⟨rfl, rfl⟩ := List.cons.inj htodo
      exact beforeReading_stmt hcode
  | @looping c code tail w hcode htail hw =>
    cases code with
    | nil =>
      subst htodo
      exact tail_wait_stmt htail hw
    | cons a code =>
      obtain ⟨rfl, rfl⟩ := List.cons.inj htodo
      exact looping_stmt hcode htail hw hok
  | @reading c code tail w hcode htail hw hfree =>
    cases code with
    | nil => cases hcode.ne_nil rfl
    | cons a code =>
      obtain ⟨rfl, rfl⟩ := List.cons.inj htodo
      exact reading_loop_stmt hcode htail hw hfree
  | testing hw hgoes =>
    obtain ⟨rfl, rfl⟩ := List.cons.inj htodo
    exact testing_wait_stmt hw hgoes
  | taken hflag =>
    obtain ⟨rfl, rfl⟩ := List.cons.inj htodo
    exact taken_wait_stmt hflag
  | unsol hflag hevent hcode =>
    obtain ⟨rfl, rfl⟩ := List.cons.inj htodo
    exact unsol_stmt hflag hevent hcode
  | «switch» h =>
    obtain ⟨rfl, rfl⟩ := List.cons.inj htodo
    exact switch_stmt h
  | clear hflag h =>
    obtain ⟨rfl, rfl⟩ := List.cons.inj htodo
    exact clear_stmt hflag h
  | data hflag hdata =>
    obtain ⟨rfl, rfl⟩ := List.cons.inj htodo
    exact data_stmt hflag hdata
  | releasing hflag h =>
    obtain ⟨rfl, rfl⟩ := List.cons.inj htodo
    exact release_stmt h
  | hung hflag =>
    obtain ⟨rfl, rfl⟩ := List.cons.inj htodo
    exact .none (.hung hflag)
  | returned => cases htodo

end

/-! One interrupt. -/

/-- An interrupt leaves the arguments of the loop alone. -/
theorem isr_args {c c' : Core} (h : Isr patches { c with pinLow := true } c') :
    c'.args = c.args := by
  cases hen : c.enable with
  | true =>
    rcases isr_accepted h hen with ⟨-, rfl⟩ | ⟨-, rfl⟩ | ⟨-, rfl⟩ | ⟨-, -, -, rfl⟩ <;> rfl
  | false => rw [isr_refused h hen]

section
variable {op : UInt16} {args : WaitArgs} {c c' : Core} {todo : List Stmt} {w : WaitState}

/-- Only these parts of the data matter. -/
theorem Stands.congr (h : Stands op args ⟨c, todo⟩ w) (hrx : c'.rx = c.rx) (hsl : c'.sl = c.sl)
    (hargs : c'.args = c.args) (hrec : c'.usReceivedEventOpcode = c.usReceivedEventOpcode)
    (hbusy : c.busy → c'.busy) (henable : c.enable = false → c'.enable = false) :
    Stands op args ⟨c', todo⟩ w := by
  have hdata : c'.data = c.data := by rw [Core.data, Core.data, hrx]
  cases h with
  | before hcode =>
    rw [← hsl]
    exact .before (hcode.congr hbusy)
  | beforeReading hcode =>
    rw [← hsl]
    exact .beforeReading (hcode.congr hbusy henable)
  | looping hcode htail hw => exact .looping (hcode.congr hbusy) htail (hw.congr hrx hsl hargs)
  | reading hcode htail hw hfree =>
    exact .reading (hcode.congr hbusy henable) htail (hw.congr hrx hsl hargs)
      (by rw [hsl]; exact hfree)
  | testing hw hgoes => exact .testing (hw.congr hrx hsl hargs) (by rw [hsl]; exact hgoes)
  | taken hflag =>
    rw [← hsl] at hflag
    rw [← hsl, ← hargs, ← hdata]
    exact .taken hflag
  | unsol hflag hevent hcode =>
    rw [← hsl] at hflag
    rw [← hdata] at hevent hcode
    rw [← hsl, ← hargs, ← hdata]
    exact .unsol hflag hevent (hrec.trans hcode)
  | «switch» h =>
    obtain ⟨hflag, hevent, hcode, hstart⟩ := h
    rw [← hsl] at hflag hstart
    rw [← hdata] at hevent hcode hstart
    rw [← hargs, ← hdata]
    exact .switch ⟨hflag, hevent, hrec.trans hcode, hstart⟩
  | clear hflag h =>
    rw [← hsl] at hflag
    rw [← hdata, ← hsl, ← hargs, ← hrec] at h
    rw [← hdata]
    exact .clear hflag h
  | data hflag hevent =>
    rw [← hsl] at hflag
    rw [← hdata] at hevent
    rw [← hsl, ← hargs, ← hdata]
    exact .data hflag hevent
  | releasing hflag h =>
    rw [← hsl] at hflag
    rw [← hdata, ← hsl, ← hargs] at h
    rw [← hdata]
    exact .releasing hflag h
  | hung hflag =>
    rw [← hsl] at hflag
    rw [← hdata]
    exact .hung hflag
  | returned =>
    rw [← hsl, ← hargs]
    exact .returned

/-- An interrupt that reads a packet. -/
theorem Stands.hear (h : Stands op args ⟨c, todo⟩ w) (hreads : c.reads = true)
    (hfree : c.sl.usEventOrDataReceived = 0)
    (hsl : c'.sl = (spiReceiveHandler c.sl c'.data).1) (hargs : c'.args = c.args) :
    Matches op args w [c'.data] ⟨c', todo⟩ := by
  have hwait : waitOver c'.sl = waitOver c.sl := by
    rw [hsl]
    exact waitOver_congr (spiReceiveHandler_sameWait c.sl c'.data)
  cases h with
  | before hcode =>
    refine .packet (.early c.sl c'.data) ?_
    rw [← hsl]
    exact .before (hcode.reads hreads)
  | beforeReading hcode => cases hreads.symm.trans hcode.not_reads
  | looping hcode htail hw =>
    obtain ⟨w', hstep, hw'⟩ := hw.hear hfree hsl hargs
    exact .packet hstep (.looping (hcode.reads hreads) htail hw')
  | reading hcode => cases hreads.symm.trans hcode.not_reads
  | testing hw hgoes =>
    obtain ⟨w', hstep, hw'⟩ := hw.hear hfree hsl hargs
    exact .packet hstep (.testing hw' (hwait.trans hgoes))
  | taken hflag => exact absurd hfree hflag
  | unsol hflag => exact absurd hfree hflag
  | «switch» h => exact absurd hfree h.flag
  | clear hflag => exact absurd hfree hflag
  | data hflag => exact absurd hfree hflag
  | releasing hflag => exact absurd hfree hflag
  | hung hflag => exact absurd hfree hflag
  | returned =>
    refine .packet (.late c.sl c.args c'.data) ?_
    rw [← hsl, ← hargs]
    exact .returned

end

/-! The whole command. -/

/-- **Every step of the machine is none or one of the wait's**, and the wait hears the
packets that it reads. -/
theorem Stands.step {op : UInt16} {args : WaitArgs} (hop : op ≠ 0) {s t : Config} {w : WaitState}
    {l : Label} (h : Stands op args s w) (hcall : ∀ k, l ≠ .call k) (hs : SpiStep patches s l t)
    (hok : OneAtATime s l) : Matches op args w (packetsRead s l) t := by
  cases hs with
  | stmt c a rest =>
    rw [packetsRead_stmt]
    exact h.stmt hop hok
  | call c k => exact absurd rfl (hcall k)
  | @edge c c' todo hpin hisr =>
    rcases isr_reads hisr with ⟨hreads, hc'⟩ | ⟨hreads, hrx, hsl, hrec, hbusy, henable, -⟩
    · have hdata : c'.data = c.nextData := by rw [hc']; rfl
      have hsl : c'.sl = (spiReceiveHandler c.sl c'.data).1 := by rw [hdata, hc']; rfl
      rw [packetsRead, if_pos hreads, ← hdata]
      exact h.hear hreads (hok hreads) hsl (isr_args hisr)
    · rw [packetsRead, hreads, if_neg Bool.false_ne_true]
      exact .none (h.congr hrx hsl (isr_args hisr) hrec hbusy henable)
  | rise c todo =>
    exact .none (h.congr rfl rfl rfl rfl (fun hbusy => hbusy) fun hmasked => hmasked)

theorem packetsOf_append (ls ks : List WaitLabel) :
    packetsOf (ls ++ ks) = packetsOf ls ++ packetsOf ks := List.filterMap_append

/-- The packets of a run bring the wait to its state. -/
theorem WaitState.Reached.run {sl₀ : SLInfo} {op : UInt16} {args₀ : WaitArgs} {w w' : WaitState}
    {ls : List WaitLabel} (hrun : Run WaitStep w ls w')
    (hpublish : ∀ op' args', .publish op' args' ∈ ls → op' = op ∧ args' = args₀) :
    ∀ {packets : List Mem}, w.Reached sl₀ op args₀ packets →
      w'.Reached sl₀ op args₀ (packets ++ packetsOf ls) := by
  induction hrun with
  | nil w =>
    intro packets h
    rw [packetsOf, List.filterMap_nil, List.append_nil]
    exact h
  | @cons w u w' l ls hstep _ ih =>
    intro packets h
    have hfirst := h.step hstep fun op' args' hl => hpublish op' args' (hl ▸ List.mem_cons_self)
    have hrest := ih (fun op' args' hmem => hpublish op' args' (List.mem_cons_of_mem l hmem)) hfirst
    rw [List.append_assoc, ← packetsOf_append] at hrest
    exact hrest

/-- With nothing left to do, the wait is over. -/
theorem Stands.returned_over {op : UInt16} {args : WaitArgs} {s : Config} {w : WaitState}
    (h : Stands op args s w) (hdone : s.todo = []) : w = .ended s.core.sl s.core.args := by
  cases h with
  | returned => rfl
  | before => exact absurd (List.append_eq_nil_iff.mp hdone).2 (List.cons_ne_nil _ _)
  | beforeReading => exact absurd (List.append_eq_nil_iff.mp hdone).2 (List.cons_ne_nil _ _)
  | looping _ htail =>
    obtain ⟨-, rfl⟩ := List.append_eq_nil_iff.mp hdone
    cases htail
  | reading _ htail =>
    obtain ⟨-, rfl⟩ := List.append_eq_nil_iff.mp hdone
    cases htail
  | testing | taken | unsol | «switch» | clear | data | releasing | hung => cases hdone

end SpiderL3S
