import SpiderL3S.App.Spider

/- The ARP wait of `NTP.c`. The first `NTP_get_time` sends its request, resets the
   ARP flag of `Spider_L3.c` and loops on it; the events fall between any two of
   its statements, and also while `sendto` is at work. `ArpNews` keeps what has
   been heard since `sendto` began and since the reset.

   The loop goes on while the flag says done, so it leaves at once when nothing
   has come, and not at all when the answer has: a test does what is asked of the
   wait exactly if the answer has come before it and the last event behind the
   reset, if there is one, is not the answer (`arpWait_iff`). -/
namespace SpiderL3S

open Code Runs

/-! `NTP_get_time` up to the end of its wait. -/

abbrev spiderArpFlagInit : UInt8 := 1

/-- `Spider_Chk_ARP_EVENT`. -/
def spiderChkArpEvent (flags : Flags) : UInt8 := flags .spiderARPFlag

inductive NtpStmt where
  | sendtoBegins
  | sendtoReturns
  /-- `if(first_send)`. -/
  | ifFirstSend
  /-- `Spider_Start_ARP_EVENT`. -/
  | spiderStartArpEvent
  /-- `while( Spider_Chk_ARP_EVENT() == SPIDER_ARP_FLAG_DONE) {}`. -/
  | whileArpDone
  /-- `first_send = 0`. -/
  | clearFirstSend
  /-- The code behind the wait, which is `ntpGetTime`. -/
  | behindWait
  deriving DecidableEq, Repr

open NtpStmt in
def ntpCode : List NtpStmt := [sendtoBegins, sendtoReturns, ifFirstSend, behindWait]

/-- The flags of `Spider_L3.c`, and the static of the function. -/
structure NtpData where
  flags : Flags
  firstSend : UInt8

open NtpStmt in
/-- One statement: the data behind it, and what it puts in front of the rest. -/
def NtpStmt.exec : NtpStmt → NtpData → NtpData × List NtpStmt
  | ifFirstSend, d =>
    (d, if d.firstSend ≠ 0 then [spiderStartArpEvent, whileArpDone, clearFirstSend] else [])
  | spiderStartArpEvent, d =>
    ({ d with flags := d.flags.set .spiderARPFlag spiderArpFlagInit }, [])
  | whileArpDone, d =>
    (d, if spiderChkArpEvent d.flags = spiderArpFlagDone then [whileArpDone] else [])
  | clearFirstSend, d => ({ d with firstSend := 0 }, [])
  | _, d => (d, [])

/-! The system. -/

structure NtpCall where
  data : NtpData
  todo : List NtpStmt

/-- The first call, on any flags. -/
def NtpCall.first (flags : Flags) : NtpCall := ⟨⟨flags, 1⟩, ntpCode⟩

/-- The callback comes between two statements. -/
def NtpCall.receive (c : NtpCall) (sl : SLInfo) (data : Mem) : NtpCall :=
  { c with data.flags := (asyncCalls sl data).foldl spiderAsyncCallback c.data.flags }

inductive NtpLabel where
  | stmt (s : NtpStmt)
  /-- A frame, and the globals of the driver it arrives at. -/
  | frame (sl : SLInfo) (data : Mem)

inductive NtpStep : NtpCall → NtpLabel → NtpCall → Prop where
  | stmt {d : NtpData} {s : NtpStmt} {rest : List NtpStmt} :
      NtpStep ⟨d, s :: rest⟩ (.stmt s) ⟨(s.exec d).1, (s.exec d).2 ++ rest⟩
  | frame {c : NtpCall} {sl : SLInfo} (data : Mem) (hcb : sl.sWlanCB = true) :
      NtpStep c (.frame sl data) (c.receive sl data)

/-! What has been heard. -/

inductive ArpEvent where
  | waiting
  | done
  deriving DecidableEq, Repr

def arpEvent (data : Mem) : Option ArpEvent :=
  if eventCode data = hciEvntAsyncArpDone then some .done
  else if eventCode data = hciEvntAsyncArpWaiting then some .waiting
  else none

/-- What has been heard of ARP: whether a done has come since `sendto` began, the
last event since then, and the last one since the flag was reset. -/
structure ArpNews where
  doneSeen : Bool
  last : Option ArpEvent
  sinceReset : Option ArpEvent
  deriving DecidableEq, Repr

def ArpNews.none : ArpNews := ⟨false, .none, .none⟩

def ArpNews.hear (news : ArpNews) : Option ArpEvent → ArpNews
  | some event => ⟨news.doneSeen || event = .done, event, event⟩
  | .none => news

def ArpNews.observe (news : ArpNews) (_ : NtpCall) (l : NtpLabel) (_ : NtpCall) : ArpNews :=
  match l with
  | .frame _ data => news.hear (arpEvent data)
  | .stmt .sendtoBegins => .none
  | .stmt .spiderStartArpEvent => { news with sinceReset := .none }
  | .stmt _ => news

/-- What is asked of a test of the loop: it leaves only behind a done, and behind a
last event that is a done it leaves. -/
def WaitsForArp (x : NtpCall × ArpNews) (l : NtpLabel) : Prop :=
  l = .stmt .whileArpDone →
    (spiderChkArpEvent x.1.data.flags ≠ spiderArpFlagDone → x.2.doneSeen = true) ∧
      (x.2.last = some .done → spiderChkArpEvent x.1.data.flags ≠ spiderArpFlagDone)

/-- At a test of the loop a done has come, and the last event since the reset is not
one: the reset has covered it, or a waiting behind it. -/
def DoneCovered (x : NtpCall × ArpNews) (l : NtpLabel) : Prop :=
  l = .stmt .whileArpDone → x.2.doneSeen = true ∧ x.2.sinceReset ≠ some .done

/-! The flag. -/

/-- What an event leaves in the flag. -/
def arpFlagAfter (code : UInt16) (before : UInt8) : UInt8 :=
  if code = hciEvntAsyncArpDone then spiderArpFlagDone
  else if code = hciEvntAsyncArpWaiting then spiderArpFlagProc
  else before

theorem spiderAsyncCallback_arpFlag (flags : Flags) (call : WlanCall) :
    spiderAsyncCallback flags call .spiderARPFlag =
      arpFlagAfter call.eventType (flags .spiderARPFlag) := by
  unfold spiderAsyncCallback arpFlagAfter
  obtain ⟨code, data⟩ := call
  dsimp only
  split_ifs <;> subst_vars <;> first | rfl | contradiction

theorem arpFlagAfter_quiet (code : UInt16) (before : UInt8) (hcode : code ∉ wlanEvents) :
    arpFlagAfter code before = before := by
  have hdone : code ≠ hciEvntAsyncArpDone := by
    intro h
    apply hcode
    rw [h]
    decide
  have hwaiting : code ≠ hciEvntAsyncArpWaiting := by
    intro h
    apply hcode
    rw [h]
    decide
  rw [arpFlagAfter, if_neg hdone, if_neg hwaiting]

/-- What the flag shows behind the reset. -/
def arpFlagShown : Option ArpEvent → UInt8
  | .none => spiderArpFlagInit
  | some .waiting => spiderArpFlagProc
  | some .done => spiderArpFlagDone

theorem arpFlagShown_done_iff (event : Option ArpEvent) :
    arpFlagShown event = spiderArpFlagDone ↔ event = some .done := by
  rcases event with - | - | - <;> decide

/-- One frame, whatever its code and its bytes. -/
theorem receive_arpFlag {sl : SLInfo} (hcb : sl.sWlanCB = true) (data : Mem) {c : NtpCall}
    {news : ArpNews} (h : c.data.flags .spiderARPFlag = arpFlagShown news.sinceReset) :
    (c.receive sl data).data.flags .spiderARPFlag =
      arpFlagShown (news.hear (arpEvent data)).sinceReset := by
  show (asyncCalls sl data).foldl spiderAsyncCallback c.data.flags .spiderARPFlag = _
  rw [foldl_asyncCallback_flag spiderAsyncCallback_arpFlag arpFlagAfter_quiet hcb, arpFlagAfter,
    arpEvent, h]
  split
  · rfl
  · split <;> rfl

open NtpStmt in
/-- The code behind a statement. -/
def NtpStmt.behind : NtpStmt → List NtpStmt
  | sendtoBegins => [sendtoReturns, ifFirstSend, behindWait]
  | sendtoReturns => [ifFirstSend, behindWait]
  | ifFirstSend => [behindWait]
  | spiderStartArpEvent => [whileArpDone, clearFirstSend, behindWait]
  | whileArpDone => [clearFirstSend, behindWait]
  | clearFirstSend => [behindWait]
  | behindWait => []

/-- In the loop the flag shows the last event since the reset; and what has come
since the reset has come since `sendto` began. -/
structure ArpInv (x : NtpCall × ArpNews) : Prop where
  placed : ∀ s rest, x.1.todo = s :: rest → rest = s.behind
  flag : ∀ rest, x.1.todo = .whileArpDone :: rest →
    x.1.data.flags .spiderARPFlag = arpFlagShown x.2.sinceReset
  last : ∀ event, x.2.sinceReset = some event → x.2.last = some event

theorem ArpNews.last_observe_stmt {news : ArpNews}
    (h : ∀ event, news.sinceReset = some event → news.last = some event) (s : NtpStmt)
    (a b : NtpCall) (event : ArpEvent)
    (hevent : (news.observe a (.stmt s) b).sinceReset = some event) :
    (news.observe a (.stmt s) b).last = some event := by
  cases s with
  | sendtoBegins | spiderStartArpEvent => cases hevent
  | _ => exact h event hevent

theorem ArpInv.stmt {d : NtpData} {news : ArpNews} {s : NtpStmt} {rest : List NtpStmt}
    {t : NtpCall} (h : ArpInv (⟨d, s :: rest⟩, news)) :
    ArpInv (⟨(s.exec d).1, (s.exec d).2 ++ rest⟩, news.observe ⟨d, s :: rest⟩ (.stmt s) t) := by
  have hflag : s = .whileArpDone → d.flags .spiderARPFlag = arpFlagShown news.sinceReset := by
    intro hs
    exact h.flag rest (by rw [hs])
  obtain rfl : rest = s.behind := h.placed s rest rfl
  refine ⟨?_, ?_, ArpNews.last_observe_stmt h.last s ⟨d, s :: s.behind⟩ t⟩
  · intro s' rest' htodo
    cases s with
    | ifFirstSend | whileArpDone =>
      rw [NtpStmt.exec] at htodo
      split at htodo <;> cases htodo <;> rfl
    | behindWait => cases htodo
    | _ => cases htodo; rfl
  · intro rest' htodo
    cases s with
    | spiderStartArpEvent => exact Flags.set_self d.flags .spiderARPFlag spiderArpFlagInit
    | whileArpDone => exact hflag rfl
    | ifFirstSend =>
      rw [NtpStmt.exec] at htodo
      split at htodo <;> cases htodo
    | _ => cases htodo

theorem ArpInv.frame {c t : NtpCall} {news : ArpNews} {sl : SLInfo} (hcb : sl.sWlanCB = true)
    (data : Mem) (h : ArpInv (c, news)) :
    ArpInv (c.receive sl data, news.observe c (.frame sl data) t) := by
  refine ⟨h.placed, ?_, ?_⟩
  · intro rest htodo
    exact receive_arpFlag hcb data (h.flag rest htodo)
  · intro event hevent
    change (news.hear (arpEvent data)).sinceReset = _ at hevent
    show (news.hear (arpEvent data)).last = _
    cases heard : arpEvent data with
    | none =>
      rw [heard] at hevent
      exact h.last event hevent
    | some _ =>
      rw [heard] at hevent
      exact hevent

theorem ArpInv.step {x y : NtpCall × ArpNews} {l : NtpLabel} (h : ArpInv x)
    (hs : watch NtpStep ArpNews.observe x l y) : ArpInv y := by
  obtain ⟨c, news⟩ := x
  obtain ⟨t, news'⟩ := y
  obtain ⟨hstep, hnews⟩ := hs
  dsimp only at hstep hnews
  subst hnews
  cases hstep with
  | stmt => exact h.stmt
  | frame data hcb => exact h.frame hcb data

/-- At a test of the loop, what the flag shows decides. -/
theorem waitsForArp_iff {x y : NtpCall × ArpNews} {l : NtpLabel} (h : ArpInv x)
    (hs : watch NtpStep ArpNews.observe x l y) : WaitsForArp x l ↔ DoneCovered x l := by
  apply imp_congr_right
  intro hl
  subst hl
  obtain ⟨c, news⟩ := x
  obtain ⟨t, news'⟩ := y
  obtain ⟨hstep, -⟩ := hs
  dsimp only at hstep
  cases hstep with
  | @stmt d _ rest =>
    have hshown : spiderChkArpEvent d.flags = arpFlagShown news.sinceReset := h.flag rest rfl
    show (spiderChkArpEvent d.flags ≠ _ → news.doneSeen = true) ∧
      (news.last = some .done → spiderChkArpEvent d.flags ≠ _) ↔ _
    rw [hshown, ne_eq, arpFlagShown_done_iff]
    constructor
    · intro hwaits
      obtain ⟨hleaves, hspins⟩ := hwaits
      have hreset : news.sinceReset ≠ some .done := by
        intro hdone
        exact hspins (h.last _ hdone) hdone
      exact ⟨hleaves hreset, hreset⟩
    · intro hdone
      exact ⟨fun _ => hdone.1, fun _ => hdone.2⟩

/-- **The wait for ARP leaves behind a done that is covered.** In every interleaving
of event frames with the first call, on any flags, every test of the loop does
what is asked of it exactly if at every test a done has come since `sendto` began
and is not the last event since the reset. -/
theorem arpWait_iff (flags : Flags) {ls : List NtpLabel} {x : NtpCall × ArpNews} :
    Run (fun a l b => watch NtpStep ArpNews.observe a l b ∧ WaitsForArp a l)
        (.first flags, .none) ls x ↔
      Run (guarded DoneCovered (watch NtpStep ArpNews.observe)) (.first flags, .none) ls x := by
  apply Run.demand_iff (P := ArpInv)
  · refine ⟨?_, ?_, ?_⟩
    · intro s rest htodo
      cases htodo
      rfl
    · intro rest htodo
      cases htodo
    · intro event hevent
      cases hevent
  · intro a l b ha _
    exact ha.step
  · intro a l b
    exact waitsForArp_iff

/-- **The first request does not wait.** No event comes at all, and the loop leaves
at its first test. -/
theorem not_arpWait :
    ¬ ∀ (flags : Flags) (ls : List NtpLabel) (x y : NtpCall × ArpNews) (l : NtpLabel),
      Run (watch NtpStep ArpNews.observe) (.first flags, .none) ls x →
      watch NtpStep ArpNews.observe x l y → WaitsForArp x l := by
  intro h
  let start : NtpData := ⟨fun _ => 0, 1⟩
  let reset : NtpData := { start with flags := start.flags.set .spiderARPFlag spiderArpFlagInit }
  have hbegin : watch NtpStep ArpNews.observe (.first start.flags, .none) (.stmt .sendtoBegins)
      (⟨start, NtpStmt.behind .sendtoBegins⟩, .none) := ⟨.stmt, rfl⟩
  have hreturn : watch NtpStep ArpNews.observe (⟨start, NtpStmt.behind .sendtoBegins⟩, .none)
      (.stmt .sendtoReturns) (⟨start, NtpStmt.behind .sendtoReturns⟩, .none) := ⟨.stmt, rfl⟩
  have hfirst : watch NtpStep ArpNews.observe (⟨start, NtpStmt.behind .sendtoReturns⟩, .none)
      (.stmt .ifFirstSend)
      (⟨start, .spiderStartArpEvent :: NtpStmt.behind .spiderStartArpEvent⟩, .none) := ⟨.stmt, rfl⟩
  have hreset : watch NtpStep ArpNews.observe
      (⟨start, .spiderStartArpEvent :: NtpStmt.behind .spiderStartArpEvent⟩, .none)
      (.stmt .spiderStartArpEvent)
      (⟨reset, .whileArpDone :: NtpStmt.behind .whileArpDone⟩, .none) := ⟨.stmt, rfl⟩
  have hrun := Run.cons hbegin (.cons hreturn (.cons hfirst (.single hreset)))
  have hflag : reset.flags .spiderARPFlag = spiderArpFlagInit :=
    Flags.set_self start.flags .spiderARPFlag spiderArpFlagInit
  have htest : watch NtpStep ArpNews.observe
      (⟨reset, .whileArpDone :: NtpStmt.behind .whileArpDone⟩, .none) (.stmt .whileArpDone)
      (⟨reset, (NtpStmt.exec .whileArpDone reset).2 ++ NtpStmt.behind .whileArpDone⟩, .none) :=
    ⟨.stmt, rfl⟩
  have hwaits := h _ _ _ _ _ hrun htest rfl
  have hleaves : spiderChkArpEvent reset.flags ≠ spiderArpFlagDone := by
    rw [spiderChkArpEvent, hflag]
    decide
  cases hwaits.1 hleaves

end SpiderL3S
