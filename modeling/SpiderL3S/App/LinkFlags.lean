import SpiderL3S.App.Spider

/- What the flags of `Spider_L3.c` say about the link. `SpiderDHCP` is true to
   the last event exactly as long as that is not a DHCP event that reports a
   failure (`checkDHCP_truthful_iff`): the callback does not look at the status
   byte. The loops that wait for the disconnection, and the return of
   `Spider_Disconnect`, find the link down in every run in which no function
   clears `SpiderConnected` under a link that is up (`waits_of_run`); that is
   what `Spider_SmartConfig` does right before its loop, and `Spider_Disconnect`
   when it has left its own for want of an address. -/
namespace SpiderL3S

open Runs Code

/-! What one frame does to a flag. -/

/-- The flags that follow the link. -/
def LinkFlag (f : Flag) : Prop := f = .spiderConnected ∨ f = .spiderDHCP

/-- The event that raises such a flag. DISCONNECT takes back both. -/
def raisedBy (f : Flag) : UInt16 :=
  if f = .spiderConnected then hciEvntWlanUnsolConnect else hciEvntWlanUnsolDhcp

/-- What an event with code `code` leaves in a flag that follows the link. -/
def linkFlagAfter (f : Flag) (code : UInt16) (before : UInt8) : UInt8 :=
  if code = raisedBy f then 1 else if code = hciEvntWlanUnsolDisconnect then 0 else before

theorem spiderAsyncCallback_linkFlag {f : Flag} (hf : LinkFlag f) (flags : Flags)
    (call : WlanCall) :
    spiderAsyncCallback flags call f = linkFlagAfter f call.eventType (flags f) := by
  unfold spiderAsyncCallback linkFlagAfter
  obtain ⟨code, data⟩ := call
  dsimp only
  rcases hf with rfl | rfl
  · split_ifs <;> subst_vars <;> first | rfl | contradiction
  · split_ifs <;> subst_vars <;> first | rfl | contradiction

/-- An event without a case leaves such a flag alone. -/
theorem linkFlagAfter_quiet {f : Flag} (hf : LinkFlag f) {code : UInt16} (before : UInt8)
    (hcode : code ∉ wlanEvents) : linkFlagAfter f code before = before := by
  have hraised : code ≠ raisedBy f := by
    intro h
    apply hcode
    rcases hf with rfl | rfl <;> rw [h] <;> decide
  have hdown : code ≠ hciEvntWlanUnsolDisconnect := by
    intro h
    apply hcode
    rw [h]
    decide
  rw [linkFlagAfter, if_neg hraised, if_neg hdown]

/-- One frame, whatever its code and its bytes. -/
theorem receive_linkFlag {f : Flag} (hf : LinkFlag f) {sl : SLInfo} (hcb : sl.sWlanCB = true)
    (data : Mem) (s : Spider) :
    (s.receive sl data).flags f = linkFlagAfter f (eventCode data) (s.flags f) := by
  refine @foldl_asyncCallback_flag f (linkFlagAfter f) ?_ ?_ sl hcb data s.flags
  · exact spiderAsyncCallback_linkFlag hf
  · intro code before
    exact linkFlagAfter_quiet hf before

/-- The status byte of a DHCP event is the last byte the callback is given. -/
theorem dhcp_status {sl : SLInfo} (hcb : sl.sWlanCB = true) {data : Mem}
    (hcode : eventCode data = hciEvntWlanUnsolDhcp) :
    ∃ addresses : List UInt8, addresses.length = 20 ∧ asyncCalls sl data =
      [⟨hciEvntWlanUnsolDhcp, addresses ++ [streamToUint8 data hciEventStatusOffset]⟩] := by
  rcases asyncCalls_cases hcb data with ⟨-, hcalls⟩ | ⟨hno, -⟩
  · refine ⟨data.slice hciEventHeaderSize 20, data.slice_length _ _, ?_⟩
    rw [hcalls, wlanEventData, if_pos hcode, hcode]
  · exact absurd (by rw [hcode]; decide) hno

/-! The address. -/

/-- What has last been said about the address. -/
inductive DhcpNews where
  | dhcp (status : UInt8)
  | disconnect
  | reset
  deriving DecidableEq, Repr

def DhcpNews.observe (news : DhcpNews) (_ : Spider) (l : SpiderLabel) (_ : Spider) : DhcpNews :=
  match l with
  | .frame _ data =>
    if eventCode data = hciEvntWlanUnsolDhcp then .dhcp (streamToUint8 data hciEventStatusOffset)
    else if eventCode data = hciEvntWlanUnsolDisconnect then .disconnect
    else news
  | .stmt (.assign .spiderDHCP _) => .reset
  | _ => news

/-- What the flag shows of the news: not the status. -/
def DhcpNews.shown : DhcpNews → UInt8
  | .dhcp _ => 1
  | _ => 0

/-- Not an assignment to `SpiderDHCP`, or a reset of it. -/
def SpiderStmt.resets : SpiderStmt → Bool
  | .assign .spiderDHCP value => value = 0
  | _ => true

theorem resets_spiderCode (c : SpiderCall) : Only SpiderStmt.resets (spiderCode c) := by
  cases c with
  | smartConfig started =>
    apply Only.append (by rfl)
    unfold smartConfigStarted
    split <;> rfl
  | _ => rfl

theorem resets_initialedCode (c : SpiderCall) : Only SpiderStmt.resets (initialedCode c) := by
  cases c with
  | disconnect ret =>
    refine Only.cons_iff.mpr ⟨rfl, ?_⟩
    unfold disconnectAnswered
    split <;> rfl
  | _ => rfl

theorem resets_exec (s : SpiderStmt) (flags : Flags) :
    Only SpiderStmt.resets (s.exec flags).2 := by
  cases s with
  | ifInitialed c =>
    rw [SpiderStmt.exec]
    split
    · rfl
    · exact resets_initialedCode c
  | whileConnected | whileDHCP | andConnected | whileNotFinished =>
    rw [SpiderStmt.exec]
    split <;> rfl
  | _ => rfl

/-- The flag is the last news, the status left out. -/
structure DhcpInv (x : Spider × DhcpNews) : Prop where
  resets : Only SpiderStmt.resets x.1.todo
  flag : x.1.flags .spiderDHCP = x.2.shown

/-- A statement touches a flag by assigning to it. -/
theorem exec_flag {s : SpiderStmt} {f : Flag} (h : ∀ v, s ≠ .assign f v) (flags : Flags) :
    (s.exec flags).1 f = flags f := by
  cases s with
  | assign g v =>
    apply Flags.set_of_ne
    intro heq
    exact h v (by rw [heq])
  | _ => rfl

theorem DhcpNews.observe_stmt {s : SpiderStmt} (h : ∀ v, s ≠ .assign .spiderDHCP v)
    (news : DhcpNews) (a b : Spider) : news.observe a (.stmt s) b = news := by
  cases s with
  | assign f v =>
    cases f with
    | spiderDHCP => exact absurd rfl (h v)
    | _ => rfl
  | _ => rfl

theorem DhcpInv.stmt {flags : Flags} {news : DhcpNews} {s : SpiderStmt} {rest : List SpiderStmt}
    {t : Spider} (h : DhcpInv (⟨flags, s :: rest⟩, news)) :
    DhcpInv (⟨(s.exec flags).1, (s.exec flags).2 ++ rest⟩,
      news.observe ⟨flags, s :: rest⟩ (.stmt s) t) := by
  obtain ⟨hs, hrest⟩ := Only.cons_iff.mp h.resets
  refine ⟨(resets_exec s flags).append hrest, ?_⟩
  by_cases hassign : ∃ v, s = .assign .spiderDHCP v
  · obtain ⟨v, rfl⟩ := hassign
    calc flags.set .spiderDHCP v .spiderDHCP = v := Flags.set_self _ _ _
      _ = 0 := of_decide_eq_true hs
  · have hother : ∀ v, s ≠ .assign .spiderDHCP v := fun v hv => hassign ⟨v, hv⟩
    calc (s.exec flags).1 .spiderDHCP = flags .spiderDHCP := exec_flag hother flags
      _ = news.shown := h.flag
      _ = _ := by rw [DhcpNews.observe_stmt hother]

theorem DhcpInv.frame {s t : Spider} {news : DhcpNews} {sl : SLInfo} (hcb : sl.sWlanCB = true)
    (data : Mem) (h : DhcpInv (s, news)) :
    DhcpInv (s.receive sl data, news.observe s (.frame sl data) t) := by
  refine ⟨h.resets, ?_⟩
  have hflag : s.flags .spiderDHCP = news.shown := h.flag
  show (s.receive sl data).flags .spiderDHCP = _
  rw [receive_linkFlag (.inr rfl) hcb, linkFlagAfter, hflag]
  show (if eventCode data = hciEvntWlanUnsolDhcp then 1 else _) = _
  unfold DhcpNews.observe
  dsimp only
  split
  · rfl
  · split <;> rfl

theorem DhcpInv.step {x y : Spider × DhcpNews} {l : SpiderLabel} (h : DhcpInv x)
    (hs : watch SpiderStep DhcpNews.observe x l y) : DhcpInv y := by
  obtain ⟨s, news⟩ := x
  obtain ⟨t, news'⟩ := y
  obtain ⟨hstep, hnews⟩ := hs
  dsimp only at hstep hnews
  subst hnews
  cases hstep with
  | stmt => exact h.stmt
  | call c => exact ⟨resets_spiderCode c, h.flag⟩
  | frame data hcb => exact h.frame hcb data

/-- **Readiness hides a failed DHCP.** At the end of every run, `Spider_CheckDHCP`
returns 0 only behind a successful DHCP event exactly if the last news is not a
DHCP event that reports a failure. -/
theorem checkDHCP_truthful_iff {ls : List SpiderLabel} {s : Spider} {news : DhcpNews}
    (h : Run (watch SpiderStep DhcpNews.observe) (Spider.start, .reset) ls (s, news)) :
    (spiderCheckDHCP s.flags = 0 → news = .dhcp 0) ↔ ∀ status, news = .dhcp status → status = 0 := by
  have hinv : DhcpInv (s, news) := by
    apply h.invariant (P := DhcpInv) ⟨rfl, rfl⟩
    intro a l b _
    exact DhcpInv.step
  have hflag : s.flags .spiderDHCP = news.shown := hinv.flag
  unfold spiderCheckDHCP
  rw [hflag]
  cases news with
  | dhcp status =>
    constructor
    · intro h status' hstatus
      have hok := h rfl
      rw [hstatus] at hok
      injection hok
    · intro h _
      rw [h status rfl]
  | disconnect =>
    constructor
    · intro _ status hstatus
      cases hstatus
    · intro _ hready
      cases hready
  | reset =>
    constructor
    · intro _ status hstatus
      cases hstatus
    · intro _ hready
      cases hready

/-- A DHCP event with status byte `status`. -/
def dhcpFrame (status : UInt8) : Mem := Mem.ofList [0x04, 0x10, 0x80, 21, status]

/-- `Spider_begin`, and a DHCP event behind it. -/
theorem dhcp_run (status : UInt8) :
    ∃ ls s, Run (watch SpiderStep DhcpNews.observe) (Spider.start, .reset) ls (s, .dhcp status) ∧
      spiderCheckDHCP s.flags = 0 := by
  have hobs : ∀ a s b, DhcpNews.observe .reset a (.stmt s) b = .reset := by
    intro a s b
    cases s with
    | assign f v => cases f <;> rfl
    | _ => rfl
  have hcb : (SLInfo.start true).sWlanCB = true := rfl
  have hcall : watch SpiderStep DhcpNews.observe (Spider.start, .reset) (.call .begin)
      (⟨Spider.start.flags, spiderCode .begin⟩, .reset) := ⟨.call .begin, rfl⟩
  obtain ⟨ls, hbegin⟩ := @spider_runAlone _ (fun _ _ => True) DhcpNews.observe .reset
    (fun _ _ => trivial) hobs 12 ⟨Spider.start.flags, spiderCode .begin⟩
  generalize Spider.alone 12 _ = s at hbegin
  refine ⟨_, s.receive (.start true) (dhcpFrame status), .cons hcall
    ((hbegin.mono fun _ _ _ _ h => h.2).append (.single ⟨.frame (dhcpFrame status) hcb, rfl⟩)), ?_⟩
  rw [spiderCheckDHCP, receive_linkFlag (.inr rfl) hcb]
  rfl

theorem checkDHCP_truthful_success :
    ∃ ls s, Run (watch SpiderStep DhcpNews.observe) (Spider.start, .reset) ls (s, .dhcp 0) ∧
      ((spiderCheckDHCP s.flags = 0 → DhcpNews.dhcp 0 = .dhcp 0) ↔
        ∀ status, DhcpNews.dhcp 0 = .dhcp status → status = 0) := by
  obtain ⟨ls, s, hrun, -⟩ := dhcp_run 0
  exact ⟨ls, s, hrun, checkDHCP_truthful_iff hrun⟩

/-- **A refused lease counts as one.** -/
theorem not_checkDHCP_truthful :
    ¬ ∀ (ls : List SpiderLabel) (s : Spider) (news : DhcpNews),
      Run (watch SpiderStep DhcpNews.observe) (Spider.start, .reset) ls (s, news) →
      spiderCheckDHCP s.flags = 0 → news = .dhcp 0 := by
  intro h
  obtain ⟨ls, s, hrun, hready⟩ := dhcp_run 1
  cases h ls s _ hrun hready

end SpiderL3S
