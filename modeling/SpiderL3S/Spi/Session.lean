import SpiderL3S.Spi.Wait

/- Commands one behind the other, on the machine of the driver. `Session` is the same
   with no machine: each command takes the globals as the ones before it left them, goes
   through the packets that came in its wait, and the interrupt has those before and
   behind. An observer keeps for each call the packets that were read since, and its
   result; the machine and the session then come to the same, over every run
   (`session_refines`), and so each call gets a reply that was read in its own turn
   (`session_replies`). -/
namespace SpiderL3S

open Runs Code

variable {patches : Mem → List SpiFrame}

/-- A call of a command: the packets read from it to the next call, and what it returned. -/
structure CommandTurn where
  frame : SpiFrame
  usOpcode : UInt16
  args : WaitArgs
  packets : List Mem
  result : Option WaitArgs

/-- The packets before the first call, and the calls, the last one first. -/
structure SessionLog where
  early : List Mem
  turns : List CommandTurn

/-- More packets, for the last call. -/
def SessionLog.hear (log : SessionLog) (heard : List Mem) : SessionLog :=
  match log.turns with
  | [] => { log with early := log.early ++ heard }
  | turn :: older => { log with turns := { turn with packets := turn.packets ++ heard } :: older }

/-- The last call returns. -/
def SessionLog.finish (log : SessionLog) (args : WaitArgs) : SessionLog :=
  match log.turns with
  | [] => log
  | turn :: older => { log with turns := { turn with result := some args } :: older }

/-- The log, updated by one step: a call returns where nothing is left to do. -/
def SessionLog.observe (log : SessionLog) (s : Config) (l : Label) (t : Config) : SessionLog :=
  match l with
  | .call (.command f usOpcode args) =>
    { log with turns := ⟨f, usOpcode, args, [], none⟩ :: log.turns }
  | _ =>
    let log := log.hear (packetsRead s l)
    if t.todo.isEmpty && !s.todo.isEmpty then log.finish t.core.args else log

/-- The calls without the machine. -/
inductive Session (sl₀ : SLInfo) (early : List Mem) : List CommandTurn → SLInfo → Prop
  | start : Session sl₀ early [] (receiveAll sl₀ early)
  | turn {older : List CommandTurn} {sl sl' : SLInfo} {f : SpiFrame} {op : UInt16}
      {args args' : WaitArgs} {before waited late : List Mem} (h : Session sl₀ early older sl)
      (hwait : hciEventHandler { receiveAll sl before with usRxEventOpcode := op } args waited =
        (sl', args', true)) :
      Session sl₀ early (⟨f, op, args, before ++ (waited ++ late), some args'⟩ :: older)
        (receiveAll sl' late)

/-- Runs in which packets come one at a time, with the log of the calls. -/
def sessionStep (patches : Mem → List SpiFrame) :
    Config × SessionLog → Label → Config × SessionLog → Prop :=
  guarded (fun s => OneAtATime s.1) (watch (SpiStep patches) SessionLog.observe)

/-- A call of a command that waits for an event. -/
def Label.commands : Label → Prop
  | call (.command _ usOpcode _) => usOpcode ≠ 0
  | call _ => False
  | _ => True

/-- Between two calls, or within one. -/
inductive SessionInv (sl₀ : SLInfo) : Config × SessionLog → Prop
  | between {c : Core} {log : SessionLog} (h : Session sl₀ log.early log.turns c.sl) :
      SessionInv sl₀ (⟨c, []⟩, log)
  | within {s : Config} {early : List Mem} {older : List CommandTurn} {sl : SLInfo} {f : SpiFrame}
      {op : UInt16} {args : WaitArgs} {packets : List Mem} {w : WaitState}
      (h : Session sl₀ early older sl) (hop : op ≠ 0) (hstands : Stands op args s w)
      (hreached : w.Reached sl op args packets) (htodo : s.todo ≠ []) :
      SessionInv sl₀ (s, ⟨early, ⟨f, op, args, packets, none⟩ :: older⟩)

/-- A packet between two calls goes to the last one. -/
theorem Session.hear {sl₀ sl : SLInfo} {log : SessionLog}
    (h : Session sl₀ log.early log.turns sl) (data : Mem) :
    Session sl₀ (log.hear [data]).early (log.hear [data]).turns (spiReceiveHandler sl data).1 := by
  obtain ⟨early, turns⟩ := log
  cases h with
  | start =>
    rw [← receiveAll_snoc]
    exact .start
  | @turn older sl sl' f op args args' before waited late h hwait =>
    rw [← receiveAll_snoc]
    have hall : before ++ (waited ++ late) ++ [data] = before ++ (waited ++ (late ++ [data])) := by
      rw [List.append_assoc, List.append_assoc]
    show Session sl₀ early
      (⟨f, op, args, before ++ (waited ++ late) ++ [data], some args'⟩ :: older) _
    rw [hall]
    exact .turn h hwait

theorem SessionLog.hear_nil (log : SessionLog) : log.hear [] = log := by
  obtain ⟨early, turns⟩ := log
  cases turns with
  | nil =>
    show SessionLog.mk (early ++ []) [] = _
    rw [List.append_nil]
  | cons turn older =>
    show SessionLog.mk early ({ turn with packets := turn.packets ++ [] } :: older) = _
    rw [List.append_nil]

theorem observe_of_ne_call {log : SessionLog} {s t : Config} {l : Label}
    (hcall : ∀ k, l ≠ .call k) :
    log.observe s l t =
      if t.todo.isEmpty && !s.todo.isEmpty then
        (log.hear (packetsRead s l)).finish t.core.args
      else log.hear (packetsRead s l) := by
  cases l with
  | call k => exact absurd rfl (hcall k)
  | stmt | edge | rise => rfl

theorem observe_running {log : SessionLog} {s t : Config} {l : Label} (hcall : ∀ k, l ≠ .call k)
    (htodo : t.todo ≠ []) : log.observe s l t = log.hear (packetsRead s l) := by
  rw [observe_of_ne_call hcall, List.isEmpty_eq_false_iff.mpr htodo]
  rfl

theorem observe_returned {log : SessionLog} {s t : Config} {l : Label} (hcall : ∀ k, l ≠ .call k)
    (hs : s.todo ≠ []) (ht : t.todo = []) :
    log.observe s l t = (log.hear (packetsRead s l)).finish t.core.args := by
  rw [observe_of_ne_call hcall, List.isEmpty_eq_false_iff.mpr hs, ht]
  rfl

/-- Between two calls only packets count. -/
theorem observe_between {log : SessionLog} {s t : Config} {l : Label} (hcall : ∀ k, l ≠ .call k)
    (hs : s.todo = []) : log.observe s l t = log.hear (packetsRead s l) := by
  rw [observe_of_ne_call hcall, hs, List.isEmpty_nil, Bool.not_true, Bool.and_false]
  rfl

/-- A step within a call. -/
theorem SessionInv.step_within {sl₀ : SLInfo} {s t : Config} {early : List Mem}
    {older : List CommandTurn} {sl : SLInfo} {f : SpiFrame} {op : UInt16} {args : WaitArgs}
    {packets : List Mem} {w : WaitState} {l : Label} (h : Session sl₀ early older sl) (hop : op ≠ 0)
    (hstands : Stands op args s w) (hreached : w.Reached sl op args packets) (htodo : s.todo ≠ [])
    (hs : SpiStep patches s l t) (hok : OneAtATime s l) :
    SessionInv sl₀
      (t, SessionLog.observe ⟨early, ⟨f, op, args, packets, none⟩ :: older⟩ s l t) := by
  have hcall : ∀ k, l ≠ .call k := by
    rintro k rfl
    cases hs
    exact htodo rfl
  obtain ⟨ks, w', hrun, hstands', hheard, hpublish⟩ := hstands.step hop hcall hs hok
  have hnext := hreached.run hrun hpublish
  cases ht : t.todo with
  | nil =>
    obtain ⟨c, todo⟩ := t
    obtain rfl : todo = [] := ht
    rw [observe_returned hcall htodo rfl, ← hheard]
    rw [hstands'.returned_over rfl] at hnext
    obtain ⟨before, waited, late, sl', hall, hwait, hsl⟩ := hnext
    refine .between ?_
    show Session sl₀ early (⟨f, op, args, packets ++ packetsOf ks, some c.args⟩ :: older) c.sl
    rw [hall, hsl]
    exact .turn h hwait
  | cons a rest =>
    have hne : t.todo ≠ [] := by
      rw [ht]
      exact List.cons_ne_nil a rest
    rw [observe_running hcall hne, ← hheard]
    exact .within h hop hstands' hnext hne

/-- **One step** of the machine keeps to the session. -/
theorem SessionInv.step {sl₀ : SLInfo} {a b : Config × SessionLog} {l : Label}
    (h : SessionInv sl₀ a) (hl : l.commands) (hs : sessionStep patches a l b) :
    SessionInv sl₀ b := by
  obtain ⟨t, log'⟩ := b
  obtain ⟨hok, hstep, hobs⟩ := hs
  change log' = a.2.observe a.1 l t at hobs
  subst hobs
  cases h with
  | within h hop hstands hreached htodo =>
    exact SessionInv.step_within h hop hstands hreached htodo hstep hok
  | @between c log h =>
    change SpiStep patches ⟨c, []⟩ l t at hstep
    cases hstep with
    | call c k =>
      cases k with
      | command f op args =>
        have hstart : Stands op args ⟨c, (Call.command f op args).code⟩ (.before c.sl) :=
          .before (.driver (driver_spiWriteCode f))
        exact .within h hl hstart rfl (List.append_ne_nil_of_right_ne_nil _ (List.cons_ne_nil _ _))
      | _ => cases hl
    | @edge c c' _ hpin hisr =>
      rw [observe_between (l := .edge) (fun _ => Label.noConfusion) rfl]
      rcases isr_reads hisr with ⟨hreads, hc'⟩ | ⟨hreads, -, hsl, -⟩
      · have hheard : packetsRead ⟨c, []⟩ .edge = [c.nextData] := if_pos hreads
        rw [hheard]
        refine .between ?_
        rw [hc']
        exact h.hear c.nextData
      · have hheard : packetsRead ⟨c, []⟩ .edge = [] := by
          rw [packetsRead, hreads]
          rfl
        rw [hheard, SessionLog.hear_nil]
        refine .between ?_
        rw [hsl]
        exact h
    | rise c =>
      rw [observe_between (l := .rise) (fun _ => Label.noConfusion) rfl]
      have hheard : packetsRead ⟨c, []⟩ .rise = [] := rfl
      rw [hheard, SessionLog.hear_nil]
      exact .between h

theorem SessionInv.run {c : Core} {ls : List Label} {s : Config × SessionLog}
    (hls : ∀ l ∈ ls, l.commands) (hrun : Run (sessionStep patches) (⟨c, []⟩, ⟨[], []⟩) ls s) :
    SessionInv c.sl s := by
  apply hrun.invariant (P := SessionInv c.sl) (.between .start)
  intro a l b hl h hstep
  exact h.step (hls l hl) hstep

theorem SessionInv.returned {sl₀ : SLInfo} {s : Config × SessionLog} (h : SessionInv sl₀ s)
    (hdone : s.1.todo = []) : Session sl₀ s.2.early s.2.turns s.1.core.sl := by
  cases h with
  | between h => exact h
  | within _ _ _ _ htodo => exact absurd hdone htodo

/-- **The machine and the session come to the same.** In every run of commands and
interrupts in which packets come one at a time: when all calls have returned, each call has
returned what the wait for its event makes of packets read in its turn, on the globals that
the calls before it left, and the globals are those of the session. -/
theorem session_refines {c : Core} {ls : List Label} {s : Config × SessionLog}
    (hls : ∀ l ∈ ls, l.commands) (hrun : Run (sessionStep patches) (⟨c, []⟩, ⟨[], []⟩) ls s)
    (hdone : s.1.todo = []) : Session c.sl s.2.early s.2.turns s.1.core.sl :=
  (SessionInv.run hls hrun).returned hdone

/-! The replies. -/

theorem receiveAll_sameWait (sl : SLInfo) (packets : List Mem) :
    SameWait sl (receiveAll sl packets) := by
  induction packets generalizing sl with
  | nil => exact ⟨rfl, rfl⟩
  | cons data packets ih =>
    have hfirst := spiReceiveHandler_sameWait sl data
    have hrest := ih (spiReceiveHandler sl data).1
    exact ⟨hrest.1.trans hfirst.1, hrest.2.trans hfirst.2⟩

/-- What comes behind the end of a wait is left. -/
theorem hciEventHandler_append {sl sl' : SLInfo} {args args' : WaitArgs} {packets : List Mem}
    (h : hciEventHandler sl args packets = (sl', args', true)) (more : List Mem) :
    hciEventHandler sl args (packets ++ more) = (sl', args', true) := by
  induction packets generalizing sl args with
  | nil => cases h
  | cons data packets ih =>
    rw [List.cons_append]
    cases hd : deliver sl args data with
    | mk sl₁ rest =>
      obtain ⟨args₁, ended⟩ := rest
      rw [hciEventHandler, hd] at h ⊢
      cases ended with
      | false => exact ih h
      | true => exact h

/-- An event that answers `op`, or stores nothing in a wait for it. -/
structure Undisturbing (op : UInt16) (data : Mem) : Prop where
  event : IsEvent data
  answers : eventCode data = op → ¬ (sendClass op = true ∧ sendStatus data = errorSocketInactive)
  others : eventCode data ≠ op → strayReply data = false

/-- A wait that has returned holds the fields of a reply that came in it. -/
theorem simpleLinkWaitEvent_returned {op : UInt16} {size : Nat} (hop : (op, size) ∈ resultObjects)
    {sl sl' : SLInfo} (hpending : sl.usRxDataPending = 0) (mem : Mem) {packets : List Mem}
    (hpackets : ∀ p ∈ packets, Undisturbing op p) {args : WaitArgs}
    (h : simpleLinkWaitEvent sl op mem packets = (sl', args, true)) :
    ∃ reply ∈ packets, eventCode reply = op ∧ args.ret.mem = mem.store 0 (replyBytes reply) := by
  obtain ⟨-, -, hne, -⟩ := resultObjects_spec _ hop
  cases hfind : packets.find? (fun p => eventCode p = op) with
  | none =>
    -- without a reply the wait goes on
    have hframes : ∀ f ∈ packets, IsEvent f ∧ eventCode f ≠ op := by
      intro f hf
      exact ⟨(hpackets f hf).event, of_decide_eq_false (Bool.eq_false_iff.mpr
        (List.find?_eq_none.mp hfind f hf))⟩
    obtain ⟨sl₁, args₁, hrun, -⟩ := @hciEventHandler_others op hne [] packets hframes
      { sl with usRxEventOpcode := op } ⟨⟨0, mem, []⟩, none⟩ rfl
    rw [List.append_nil] at hrun
    rw [simpleLinkWaitEvent, hrun] at h
    cases h
  | some reply =>
    obtain ⟨hreply, frames, more, rfl, hbefore⟩ := List.find?_eq_some_iff_append.mp hfind
    have hcode : eventCode reply = op := of_decide_eq_true hreply
    have hothers : ∀ f ∈ frames, eventCode f ≠ op := by
      intro f hf
      have hnot := hbefore f hf
      simpa using hnot
    have hquiet : Quiet frames := by
      intro f hf
      have hf' := hpackets f (List.mem_append_left _ hf)
      exact ⟨hf'.event, hf'.others (hothers f hf)⟩
    have hmem : reply ∈ frames ++ reply :: more :=
      List.mem_append_right _ List.mem_cons_self
    have hanswer := hpackets reply hmem
    have hend : EndsWait sl reply := ⟨hpending, by rw [hcode]; exact hanswer.answers hcode⟩
    obtain ⟨sl₁, args₁, hwait, hstored, -⟩ :=
      simpleLinkWaitEvent_quiet hop mem hquiet hothers hanswer.event hcode hend
    have hall := hciEventHandler_append hwait more
    rw [List.append_assoc, List.singleton_append] at hall
    have hsame : args₁ = args := (Prod.mk.inj (Prod.mk.inj (hall.symm.trans h)).2).1
    exact ⟨reply, hmem, hcode, hsame ▸ hstored⟩

/-- No data is waited for between two calls. -/
theorem Session.pending {sl₀ sl : SLInfo} {early : List Mem} {turns : List CommandTurn}
    (h : Session sl₀ early turns sl) (hidle : sl₀.usRxDataPending = 0) :
    sl.usRxDataPending = 0 := by
  cases h with
  | start => exact (receiveAll_sameWait sl₀ early).2.trans hidle
  | turn _ hwait =>
    exact (receiveAll_sameWait _ _).2.trans (hciEventHandler_idle hwait).2

/-- A turn whose packets are events, none of which stores in a wait for another one. -/
structure CommandTurn.Quiet (turn : CommandTurn) : Prop where
  opcode : ∃ size, (turn.usOpcode, size) ∈ resultObjects
  args : ∃ mem, turn.args = ⟨⟨0, mem, []⟩, none⟩
  packets : ∀ p ∈ turn.packets, Undisturbing turn.usOpcode p

/-- The call has returned the fields of a reply that was read in its turn. -/
def CommandTurn.Replied (turn : CommandTurn) : Prop :=
  ∃ args, turn.result = some args ∧ ∃ reply ∈ turn.packets, eventCode reply = turn.usOpcode ∧
    args.ret.mem = turn.args.ret.mem.store 0 (replyBytes reply)

theorem Session.replied {sl₀ sl : SLInfo} {early : List Mem} {turns : List CommandTurn}
    (h : Session sl₀ early turns sl) (hidle : sl₀.usRxDataPending = 0)
    (hquiet : ∀ turn ∈ turns, turn.Quiet) : ∀ turn ∈ turns, turn.Replied := by
  induction h with
  | start => exact fun _ hmem => absurd hmem List.not_mem_nil
  | @turn older sl sl' f op args args' before waited late h hwait ih =>
    intro turn hmem
    rcases List.mem_cons.mp hmem with rfl | hmem
    · obtain ⟨⟨size, hop⟩, ⟨mem, hargs⟩, hpackets⟩ := hquiet _ List.mem_cons_self
      have hwaited : ∀ p ∈ waited, Undisturbing op p := fun p hp =>
        hpackets p (List.mem_append_right _ (List.mem_append_left _ hp))
      obtain rfl : args = ⟨⟨0, mem, []⟩, none⟩ := hargs
      have hpending : (receiveAll sl before).usRxDataPending = 0 :=
        (receiveAll_sameWait sl before).2.trans (h.pending hidle)
      obtain ⟨reply, hreply, hcode, hstored⟩ :=
        simpleLinkWaitEvent_returned hop hpending mem hwaited hwait
      exact ⟨args', rfl, reply, List.mem_append_right _ (List.mem_append_left _ hreply), hcode,
        hstored⟩
    · exact ih (fun t ht => hquiet t (List.mem_cons_of_mem _ ht)) turn hmem

/-- **Every call gets its own reply**, over every run of commands: in a run that begins with
nothing waited for, in which packets come one at a time and no turn has one that stores in
another call's wait, each call that has returned holds the fields of an event with its
opcode that was read in its turn. -/
theorem session_replies {c : Core} (hidle : c.sl.usRxDataPending = 0) {ls : List Label}
    {s : Config × SessionLog} (hls : ∀ l ∈ ls, l.commands)
    (hrun : Run (sessionStep patches) (⟨c, []⟩, ⟨[], []⟩) ls s) (hdone : s.1.todo = [])
    (hquiet : ∀ turn ∈ s.2.turns, turn.Quiet) : ∀ turn ∈ s.2.turns, turn.Replied :=
  ((SessionInv.run hls hrun).returned hdone).replied hidle hquiet

/-- The statement neither reads a packet nor begins a wait. -/
def Stmt.minds : Stmt → Bool
  | readHeader | waitEvent .. => false
  | _ => true

theorem oneAtATime_of_minds {s : Config} (h : s.todo.head?.all Stmt.minds = true) :
    OneAtATime s .stmt := by
  intro a ha hbegins
  have hminds : a.minds = true := Option.all_eq_true _ _ |>.mp h a ha
  rcases hbegins with rfl | ⟨op, args, rfl⟩
  · cases hminds
  · cases hminds

theorem sessionStep_mainAlone (n : Nat) {s t : Config × SessionLog}
    (h : mainAlone SessionLog.observe Stmt.minds patches n s = some t) :
    Run (sessionStep patches) s (List.replicate n .stmt) t := by
  apply (run_tested n h).mono
  intro a l b hl ⟨hminds, hstep⟩
  obtain rfl := List.eq_of_mem_replicate hl
  exact ⟨oneAtATime_of_minds hminds, hstep⟩

theorem sessionStep_edge {c c' : Core} (todo : List Stmt) (log : SessionLog) (n : Nat)
    (hok : c.reads = true → c.sl.usEventOrDataReceived = 0) (hpin : c.pinLow = false)
    (hisr : Code.runAlone (exec patches) n { c with pinLow := true } wlanIrqHandler = (c', [])) :
    Run (sessionStep patches) (⟨c, todo⟩, log) [.edge]
      (⟨c', todo⟩, log.observe ⟨c, todo⟩ .edge ⟨c', todo⟩) :=
  Run.single ⟨hok, .edge todo hpin (Code.finishes_of_runAlone n hisr), rfl⟩

theorem sessionStep_rise (c : Core) (todo : List Stmt) (log : SessionLog) :
    Run (sessionStep patches) (⟨c, todo⟩, log) [.rise]
      (⟨{ c with pinLow := false }, todo⟩,
        log.observe ⟨c, todo⟩ .rise ⟨{ c with pinLow := false }, todo⟩) :=
  Run.single ⟨trivial, .rise c todo, rfl⟩

/-- A call of `socket`, with its result object. -/
def socketCommand : Call := .command oneByteFrame hciCmndSocket ⟨⟨0, fun _ => 0, []⟩, none⟩

/-- The call, with the packets read in it so far. -/
def socketTurn (packets : List Mem) (result : Option WaitArgs) : SessionLog :=
  ⟨[], [⟨oneByteFrame, hciCmndSocket, ⟨⟨0, fun _ => 0, []⟩, none⟩, packets, result⟩]⟩

/-- The rest of the loop, behind the interrupt that reads the reply. -/
def socketRest : Option (Config × SessionLog) :=
  mainAlone SessionLog.observe Stmt.minds (fun _ => []) 10
    (⟨heldCore, [.hehTest]⟩, socketTurn [waitingCore.nextData] none)

theorem socketRest_isSome : socketRest.isSome = true := by decide +kernel

/-- `socket`, whose reply comes when the loop waits for it. -/
theorem socket_session : ∃ ls, (∀ l ∈ ls, Label.commands l) ∧
    Run (sessionStep fun _ => []) (⟨socketCore, []⟩, ⟨[], []⟩) ls
      (socketRest.get socketRest_isSome) := by
  have hcall : Run (sessionStep fun _ => []) (⟨socketCore, []⟩, ⟨[], []⟩) [.call socketCommand]
      (⟨socketCore, socketCommand.code⟩, socketTurn [] none) :=
    Run.single ⟨trivial, .call socketCore socketCommand, rfl⟩
  have henable := hcall.append (sessionStep_mainAlone 9 rfl)
  have hout := (henable.append (sessionStep_edge _ _ 30 nofun rfl rfl)).append
    (sessionStep_rise _ _ _)
  have hsent : Run (sessionStep fun _ => []) _ _
      (⟨{ waitingCore with sl := socketCore.sl },
        [.waitEvent hciCmndSocket ⟨⟨0, fun _ => 0, []⟩, none⟩]⟩, socketTurn [] none) :=
    hout.append (sessionStep_mainAlone 3 rfl)
  have hpublish : Run (sessionStep fun _ => []) (⟨{ waitingCore with sl := socketCore.sl },
      [.waitEvent hciCmndSocket ⟨⟨0, fun _ => 0, []⟩, none⟩]⟩, socketTurn [] none) [.stmt]
      (⟨waitingCore, [.hehTest]⟩, socketTurn [] none) :=
    .single ⟨fun _ _ _ => rfl, .stmt _ _ [], rfl⟩
  have hheld : Run (sessionStep fun _ => []) _ _
      (⟨heldCore, [.hehTest]⟩, socketTurn [waitingCore.nextData] none) :=
    (hsent.append hpublish).append (sessionStep_edge _ _ 60 (fun _ => rfl) rfl rfl)
  have hend := hheld.append
    (sessionStep_mainAlone 10 (Option.some_get socketRest_isSome).symm)
  refine ⟨_, ?_, hend⟩
  intro l hl
  simp only [List.mem_append, List.mem_singleton, List.mem_replicate] at hl
  rcases hl with (((((((rfl | ⟨-, rfl⟩) | rfl) | rfl) | ⟨-, rfl⟩) | rfl) | rfl) | ⟨-, rfl⟩)
  · show hciCmndSocket ≠ 0
    decide
  all_goals trivial

theorem socketRest_done : (socketRest.get socketRest_isSome).1.todo = [] := rfl

theorem socketRest_log : (socketRest.get socketRest_isSome).2 =
    socketTurn [waitingCore.nextData] (some (socketRest.get socketRest_isSome).1.core.args) := rfl

theorem session_refines_socket : ∃ s : Config × SessionLog, s.1.todo = [] ∧
    s.2 = socketTurn [waitingCore.nextData] (some s.1.core.args) ∧
      Session socketCore.sl s.2.early s.2.turns s.1.core.sl := by
  obtain ⟨ls, hls, hrun⟩ := socket_session
  exact ⟨_, socketRest_done, socketRest_log, session_refines hls hrun socketRest_done⟩

theorem session_replies_socket : ∃ s : Config × SessionLog, s.1.todo = [] ∧
    s.2 = socketTurn [waitingCore.nextData] (some s.1.core.args) ∧
      ∀ turn ∈ s.2.turns, turn.Replied := by
  obtain ⟨ls, hls, hrun⟩ := socket_session
  have hop : (hciCmndSocket, 4) ∈ resultObjects := by decide
  have hreply : Undisturbing hciCmndSocket waitingCore.nextData := by
    refine ⟨by decide, ?_, fun hother => absurd (by decide) hother⟩
    intro _ hand
    exact absurd hand.1 (by decide)
  refine ⟨_, socketRest_done, socketRest_log,
    session_replies rfl hls hrun socketRest_done ?_⟩
  rw [socketRest_log]
  intro turn hturn
  obtain rfl := List.mem_singleton.mp hturn
  refine ⟨⟨4, hop⟩, ⟨_, rfl⟩, ?_⟩
  intro p hp
  obtain rfl := List.mem_singleton.mp hp
  exact hreply

end SpiderL3S
