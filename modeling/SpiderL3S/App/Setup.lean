import SpiderL3S.App.Waits

/- The setup of the sketches: start the board, ask for the access point (or, in
   `SmartConfig.ino`, for what the pin selects), and wait until the flags say that there is
   a connection and an address. Events come between any two statements. On the other side
   is the device, off or on, without a link or with one, and then with the report of its
   DHCP client. As long as it keeps to its own order of events the flags are its state at
   every moment, so a sketch that goes on behind the wait has its address, and one whose
   device has reported goes on (`setup_of_run`). Only `Spider_SmartConfig` has to be trusted
   for this: it clears the flags, and restarts the device, without a look at the link. -/
namespace SpiderL3S

open Runs Code

/-! The device. -/

inductive Link where
  | off
  | down
  | up
  /-- The DHCP client has reported over this link. -/
  | reported
  deriving DecidableEq, Repr

def Link.connected : Link → UInt8
  | .up | .reported => 1
  | _ => 0

def Link.dhcp : Link → UInt8
  | .reported => 1
  | _ => 0

/-- The device sends such an event in this state. -/
structure Link.Admits (link : Link) (code : UInt16) : Prop where
  connect : code = hciEvntWlanUnsolConnect → link = .down ∨ link = .up
  disconnect : code = hciEvntWlanUnsolDisconnect → link ≠ .off
  dhcp : code = hciEvntWlanUnsolDhcp → link = .up ∨ link = .reported

/-- The state behind an event. -/
def Link.told (link : Link) (code : UInt16) : Link :=
  if code = hciEvntWlanUnsolConnect then .up
  else if code = hciEvntWlanUnsolDisconnect then .down
  else if code = hciEvntWlanUnsolDhcp then .reported
  else link

/-- The state behind a statement: some switch the device on or off. -/
def Link.switched (link : Link) : SpiderStmt → Link
  | .device .wlanStart => .down
  | .device .wlanStop | .device .writeWlanPin => .off
  | _ => link

/-- No link. -/
def Link.Idle (link : Link) : Prop := link = .off ∨ link = .down

/-! The sketches. -/

/-- A sketch, with what the device answers to the command it looks at, and the pin. -/
inductive Sketch where
  | simpleHttpGet (ret : Int32)
  | simpleHttpServer (ret : Int32)
  | ntp (ret : Int32)
  | smartConfig (pin : Bool) (ret : Int32)
  deriving DecidableEq, Repr

inductive SetupStmt where
  | call (c : SpiderCall)
  /-- `if(ret != 0){ while(1) ; }` -/
  | ifFailed
  /-- `while(1) ;` -/
  | hang
  /-- The first operand of `while((Spider_CheckConnected() != 0) || (Spider_CheckDHCP() != 0))`. -/
  | whileNotConnected
  /-- Its second operand. -/
  | orNotDHCP
  | smartConfigAckFinish
  | netappIpconfig
  | ntpBegin
  deriving DecidableEq, Repr

/-- `Spider_CheckConnected`. -/
def spiderCheckConnected (flags : Flags) : Int16 := if flags .spiderConnected = 1 then 0 else -1

/-- What a statement puts in front of the rest. -/
def SetupStmt.exec : SetupStmt → Flags → Int16 → List SetupStmt
  | ifFailed, _, ret => if ret ≠ 0 then [hang] else []
  | hang, _, _ => [hang]
  | whileNotConnected, flags, _ =>
    if spiderCheckConnected flags ≠ 0 then [whileNotConnected] else [orNotDHCP]
  | orNotDHCP, flags, _ => if spiderCheckDHCP flags ≠ 0 then [whileNotConnected] else []
  | _, _, _ => []

/-- The setup that connects to a given access point. -/
def initialSpider (ret : Int32) : List SetupStmt :=
  [.call .begin, .ifFailed, .call (.connect ret), .ifFailed, .whileNotConnected, .netappIpconfig]

/-- `setup`. -/
def setupCode : Sketch → List SetupStmt
  | .simpleHttpGet ret | .simpleHttpServer ret => initialSpider ret
  | .ntp ret => initialSpider ret ++ [.ntpBegin]
  | .smartConfig pin ret =>
    [.call .begin, .ifFailed, .call (if pin then .smartConfig ret else .autoConnect ret),
      .whileNotConnected, .smartConfigAckFinish, .netappIpconfig]

/-! The system. -/

/-- The library, the variable `ret`, and what `setup` has left to do. -/
structure Setup where
  spider : Spider
  ret : Int16
  todo : List SetupStmt

def Setup.start (sketch : Sketch) : Setup := ⟨Spider.start, 0, setupCode sketch⟩

/-- `ret` behind a step of the library. -/
def SpiderLabel.result : SpiderLabel → Int16 → Int16
  | .stmt (.returns _ value), _ => value
  | _, ret => ret

inductive SetupLabel where
  /-- A statement of the function called, or a frame. -/
  | inside (l : SpiderLabel)
  | own (s : SetupStmt)

inductive SetupStep : Setup → SetupLabel → Setup → Prop where
  | inside {spider spider' : Spider} {l : SpiderLabel} {ret : Int16} {todo : List SetupStmt}
      (h : SpiderStep spider l spider') (hl : ∀ c, l ≠ .call c) :
      SetupStep ⟨spider, ret, todo⟩ (.inside l) ⟨spider', l.result ret, todo⟩
  | call {spider spider' : Spider} {c : SpiderCall} {ret : Int16} {todo : List SetupStmt}
      (h : SpiderStep spider (.call c) spider') :
      SetupStep ⟨spider, ret, .call c :: todo⟩ (.own (.call c)) ⟨spider', ret, todo⟩
  | own {flags : Flags} {s : SetupStmt} {ret : Int16} {todo : List SetupStmt}
      (hs : ∀ c, s ≠ .call c) :
      SetupStep ⟨⟨flags, []⟩, ret, s :: todo⟩ (.own s) ⟨⟨flags, []⟩, ret, s.exec flags ret ++ todo⟩

/-- The device follows the run. -/
def Link.observe (link : Link) (_ : Setup) (l : SetupLabel) (_ : Setup) : Link :=
  match l with
  | .inside (.frame _ data) => link.told (eventCode data)
  | .inside (.stmt s) => link.switched s
  | _ => link

/-- The statement clears a flag of the link, or switches the device. -/
def SpiderStmt.disturbs : SpiderStmt → Bool
  | .assign .spiderConnected _ | .assign .spiderDHCP _ => true
  | .device .wlanStart | .device .wlanStop | .device .writeWlanPin => true
  | .ifInitialed (.disconnect _) => true
  | _ => false

/-- The sketch runs `Spider_SmartConfig`. -/
def Sketch.smart : Sketch → Bool
  | .smartConfig pin _ => pin
  | _ => false

/-- The device sends its events in their order, and a sketch that runs `Spider_SmartConfig`
is not up when that clears its flags and restarts the device. -/
def Sketch.Allows (sketch : Sketch) (x : Setup × Link) : SetupLabel → Prop
  | .inside (.frame _ data) => x.2.Admits (eventCode data)
  | .inside (.stmt s) => sketch.smart = true → s.disturbs = true → x.2.Idle
  | _ => True

/-! What the code is made of. -/

/-- What a statement puts back: a turn of a loop, or the code behind the test of
`HW_Initialed`. -/
theorem only_exec {p : SpiderStmt → Bool}
    (hloops : Only p [.whileConnected, .whileDHCP, .andConnected, .whileNotFinished])
    (hfail : ∀ c, p (.returns c (-1)) = true) {s : SpiderStmt}
    (hcode : ∀ c, s = .ifInitialed c → Only p (initialedCode c)) (flags : Flags) :
    Only p (s.exec flags).2 := by
  have hone : ∀ s ∈ [.whileConnected, .whileDHCP, .andConnected, .whileNotFinished], Only p [s] :=
    fun s hs => Only.cons_iff.mpr ⟨hloops.mem hs, Only.nil⟩
  cases s with
  | ifInitialed c =>
    rw [SpiderStmt.exec]
    split
    · exact Only.cons_iff.mpr ⟨hfail c, Only.nil⟩
    · exact hcode c rfl
  | whileConnected | whileDHCP | andConnected | whileNotFinished =>
    rw [SpiderStmt.exec]
    split
    · exact hone _ (by decide)
    · exact Only.nil
  | _ => exact Only.nil

/-- Not an assignment to a flag of the link, or a reset of it. -/
def SpiderStmt.lowers : SpiderStmt → Bool
  | .assign .spiderConnected value | .assign .spiderDHCP value => value = 0
  | _ => true

theorem lowers_initialedCode (c : SpiderCall) : Only SpiderStmt.lowers (initialedCode c) := by
  cases c with
  | disconnect ret =>
    refine Only.cons_iff.mpr ⟨rfl, ?_⟩
    unfold disconnectAnswered
    split <;> rfl
  | _ => rfl

theorem lowers_spiderCode (c : SpiderCall) : Only SpiderStmt.lowers (spiderCode c) := by
  cases c with
  | smartConfig started =>
    apply Only.append (by rfl)
    unfold smartConfigStarted
    split <;> rfl
  | _ => rfl

theorem lowers_exec (s : SpiderStmt) (flags : Flags) : Only SpiderStmt.lowers (s.exec flags).2 :=
  only_exec (by rfl) (fun _ => rfl) (fun c _ => lowers_initialedCode c) flags

def SpiderStmt.calm (s : SpiderStmt) : Bool := !s.disturbs

/-- A statement that disturbs nothing puts back none that does. -/
theorem calm_exec {s : SpiderStmt} (h : s.calm = true) (flags : Flags) :
    Only SpiderStmt.calm (s.exec flags).2 := by
  apply only_exec (by rfl) (fun _ => rfl)
  rintro c rfl
  cases c with
  | disconnect ret => cases h
  | _ => rfl

/-- The statement starts the device. -/
def SpiderStmt.starts : SpiderStmt → Bool
  | .device .wlanStart => true
  | _ => false

/-- No statement puts a start back. -/
theorem starts_exec (s : SpiderStmt) (flags : Flags) :
    Only (fun s => !SpiderStmt.starts s) (s.exec flags).2 := by
  apply only_exec (by rfl) (fun _ => rfl)
  rintro c -
  cases c with
  | disconnect ret =>
    refine Only.cons_iff.mpr ⟨rfl, ?_⟩
    unfold disconnectAnswered
    split <;> rfl
  | _ => rfl

/-- Behind the start of the device nothing disturbs it. -/
def orderly : List SpiderStmt → Bool
  | [] => true
  | s :: rest => (!s.starts || rest.all SpiderStmt.calm) && orderly rest

theorem orderly_cons {s : SpiderStmt} {rest : List SpiderStmt} :
    orderly (s :: rest) = true ↔ (s.starts = true → Only SpiderStmt.calm rest) ∧
      orderly rest = true := by
  rw [orderly, Bool.and_eq_true, Bool.or_eq_true, Bool.not_eq_true', ← Bool.not_eq_true,
    ← Decidable.imp_iff_not_or, Only]

theorem orderly_append {put rest : List SpiderStmt} (hput : Only (fun s => !s.starts) put)
    (hrest : orderly rest = true) : orderly (put ++ rest) = true := by
  induction put with
  | nil => exact hrest
  | cons s put ih =>
    obtain ⟨hs, hput⟩ := Only.cons_iff.mp hput
    refine orderly_cons.mpr ⟨fun h => ?_, ih hput⟩
    rw [h] at hs
    cases hs

theorem orderly_spiderCode (c : SpiderCall) : orderly (spiderCode c) = true := by
  cases c with
  | smartConfig started =>
    show orderly (_ ++ smartConfigStarted started) = true
    unfold smartConfigStarted
    split <;> rfl
  | _ => rfl

/-! One step. -/

/-- The flags of the link are the state of the device. -/
structure Link.Shown (link : Link) (flags : Flags) : Prop where
  connected : flags .spiderConnected = link.connected
  dhcp : flags .spiderDHCP = link.dhcp

theorem Link.Shown.frame {link : Link} {s : Spider} {sl : SLInfo} (hcb : sl.sWlanCB = true)
    {data : Mem} (h : link.Shown s.flags) (hadmits : link.Admits (eventCode data)) :
    (link.told (eventCode data)).Shown (s.receive sl data).flags := by
  have hconnected := receive_linkFlag (.inl rfl) hcb data s
  have hdhcp := receive_linkFlag (.inr rfl) hcb data s
  rw [h.connected] at hconnected
  rw [h.dhcp] at hdhcp
  change _ = if eventCode data = hciEvntWlanUnsolConnect then _ else _ at hconnected
  change _ = if eventCode data = hciEvntWlanUnsolDhcp then _ else _ at hdhcp
  obtain ⟨hup, hdown, hreported⟩ := hadmits
  unfold Link.told
  by_cases h₁ : eventCode data = hciEvntWlanUnsolConnect
  · rw [if_pos h₁]
    rw [if_pos h₁] at hconnected
    rw [h₁, if_neg (by decide), if_neg (by decide)] at hdhcp
    refine ⟨hconnected, hdhcp.trans ?_⟩
    rcases hup h₁ with rfl | rfl <;> rfl
  · rw [if_neg h₁]
    rw [if_neg h₁] at hconnected
    by_cases h₂ : eventCode data = hciEvntWlanUnsolDisconnect
    · rw [if_pos h₂]
      rw [if_pos h₂] at hconnected hdhcp
      rw [if_neg (by rw [h₂]; decide)] at hdhcp
      exact ⟨hconnected, hdhcp⟩
    · rw [if_neg h₂]
      rw [if_neg h₂] at hconnected hdhcp
      by_cases h₃ : eventCode data = hciEvntWlanUnsolDhcp
      · rw [if_pos h₃]
        rw [if_pos h₃] at hdhcp
        refine ⟨hconnected.trans ?_, hdhcp⟩
        rcases hreported h₃ with rfl | rfl <;> rfl
      · rw [if_neg h₃]
        rw [if_neg h₃] at hdhcp
        exact ⟨hconnected, hdhcp⟩

theorem Link.Idle.shown {link : Link} (h : link.Idle) : link.connected = 0 ∧ link.dhcp = 0 := by
  rcases h with rfl | rfl <;> exact ⟨rfl, rfl⟩

/-- A flag of the link that is down stays down. -/
theorem exec_lowers {f : Flag} (hf : LinkFlag f) {s : SpiderStmt} (hs : s.lowers = true)
    {flags : Flags} (h : flags f = 0) : (s.exec flags).1 f = 0 := by
  by_cases hassign : ∃ v, s = .assign f v
  · obtain ⟨v, rfl⟩ := hassign
    have hv : v = 0 := by rcases hf with rfl | rfl <;> exact of_decide_eq_true hs
    exact (Flags.set_self flags f v).trans hv
  · exact (exec_flag (fun v hv => hassign ⟨v, hv⟩) flags).trans h

theorem Link.Shown.stmt {link : Link} {flags : Flags} {s : SpiderStmt} (h : link.Shown flags)
    (hs : s.lowers = true) (hidle : s.disturbs = true → link.Idle) :
    (link.switched s).Shown (s.exec flags).1 := by
  by_cases hdisturbs : s.disturbs = true
  · have hlink := hidle hdisturbs
    have hnext : (link.switched s).Idle := by
      unfold Link.switched
      split
      · exact .inr rfl
      · exact .inl rfl
      · exact .inl rfl
      · exact hlink
    obtain ⟨hup, haddress⟩ := hlink.shown
    obtain ⟨hup', haddress'⟩ := hnext.shown
    constructor
    · rw [hup']
      exact exec_lowers (.inl rfl) hs (h.connected.trans hup)
    · rw [haddress']
      exact exec_lowers (.inr rfl) hs (h.dhcp.trans haddress)
  · have hsame : link.switched s = link := by
      unfold Link.switched
      split <;> first | rfl | exact absurd rfl hdisturbs
    rw [hsame]
    constructor
    · rw [exec_flag (fun v hv => hdisturbs (by rw [hv]; rfl))]
      exact h.connected
    · rw [exec_flag (fun v hv => hdisturbs (by rw [hv]; rfl))]
      exact h.dhcp

theorem Link.Admits.off {code : UInt16} (h : Link.off.Admits code) : Link.off.told code = .off := by
  obtain ⟨hup, hdown, hreported⟩ := h
  rw [told, if_neg, if_neg, if_neg]
  · intro hcode
    rcases hreported hcode with hlink | hlink <;> cases hlink
  · exact fun hcode => hdown hcode rfl
  · intro hcode
    rcases hup hcode with hlink | hlink <;> cases hlink

/-! The invariant. -/

/-- The flags show the state of the device; where `Spider_SmartConfig` is not run, nothing
is left to disturb a device that is on. -/
structure SetupInv (sketch : Sketch) (x : Setup × Link) : Prop where
  shows : x.2.Shown x.1.spider.flags
  lowers : Only SpiderStmt.lowers x.1.spider.todo
  orderly : orderly x.1.spider.todo = true
  undisturbed : sketch.smart = false → x.2 ≠ .off → Only SpiderStmt.calm x.1.spider.todo
  /-- `Spider_begin` is called once, and first. -/
  begin : .call .begin ∈ x.1.todo →
    x.2 = .off ∧ x.1.spider.todo = [] ∧ .call .begin ∉ x.1.todo.tail
  calls : sketch.smart = false → ∀ c, .call c ∈ x.1.todo → c ≠ .begin →
    Only SpiderStmt.calm (spiderCode c)

theorem SetupInv.start (sketch : Sketch) : SetupInv sketch (Setup.start sketch, .off) := by
  refine ⟨⟨rfl, rfl⟩, rfl, rfl, fun _ h => absurd rfl h, fun _ => ⟨rfl, rfl, ?_⟩, ?_⟩
  · cases sketch with
    | smartConfig pin ret => cases pin <;> simp [Setup.start, setupCode]
    | _ => simp [Setup.start, setupCode, initialSpider]
  · intro hsmart c hc hbegin
    have hother : c = .begin ∨ (∃ ret, c = .connect ret) ∨ ∃ ret, c = .autoConnect ret := by
      cases sketch with
      | smartConfig pin ret =>
        cases pin with
        | true => cases hsmart
        | false => simp [Setup.start, setupCode] at hc; tauto
      | _ => simp [Setup.start, setupCode, initialSpider] at hc; tauto
    rcases hother with rfl | ⟨ret, rfl⟩ | ⟨ret, rfl⟩
    · exact absurd rfl hbegin
    · rfl
    · rfl

theorem SetupStmt.exec_calls (s : SetupStmt) (flags : Flags) (ret : Int16) (c : SpiderCall) :
    .call c ∉ s.exec flags ret := by
  intro hc
  cases s with
  | ifFailed | whileNotConnected | orNotDHCP =>
    rw [exec] at hc
    split at hc <;> simp at hc
  | _ => simp [exec] at hc

theorem Link.started_of_on {s : SpiderStmt} (h : Link.off.switched s ≠ .off) :
    s = .device .wlanStart := by
  unfold Link.switched at h
  split at h
  · rfl
  all_goals exact absurd rfl h

/-- A statement of the library, where it may be executed. -/
theorem SetupInv.stmt {sketch : Sketch} {flags : Flags} {s : SpiderStmt} {rest : List SpiderStmt}
    {ret ret' : Int16} {todo : List SetupStmt} {link : Link}
    (h : SetupInv sketch (⟨⟨flags, s :: rest⟩, ret, todo⟩, link))
    (hok : sketch.Allows (⟨⟨flags, s :: rest⟩, ret, todo⟩, link) (.inside (.stmt s))) :
    SetupInv sketch
      (⟨⟨(s.exec flags).1, (s.exec flags).2 ++ rest⟩, ret', todo⟩, link.switched s) := by
  obtain ⟨hs, hlowers⟩ := Only.cons_iff.mp h.lowers
  obtain ⟨hstarts, horderly⟩ := orderly_cons.mp h.orderly
  have hidle : s.disturbs = true → link.Idle := by
    intro hdisturbs
    cases hsmart : sketch.smart with
    | true => exact hok hsmart hdisturbs
    | false =>
      by_contra hlink
      have hcalm := h.undisturbed hsmart (fun hoff => hlink (.inl hoff))
      have := (Only.cons_iff.mp hcalm).1
      rw [SpiderStmt.calm, hdisturbs] at this
      cases this
  refine ⟨h.shows.stmt hs hidle, (lowers_exec s flags).append hlowers,
    orderly_append (starts_exec s flags) horderly, ?_, ?_, h.calls⟩
  · intro hsmart hon
    by_cases hoff : link = .off
    · subst hoff
      obtain rfl := Link.started_of_on hon
      exact (hstarts rfl)
    · obtain ⟨hcalm, hrest⟩ := Only.cons_iff.mp (h.undisturbed hsmart hoff)
      exact (calm_exec hcalm flags).append hrest
  · intro hbegin
    cases (h.begin hbegin).2.1

/-- An event that the device sends. -/
theorem SetupInv.frame {sketch : Sketch} {spider : Spider} {sl : SLInfo} {data : Mem}
    {ret : Int16} {todo : List SetupStmt} {link : Link} (hcb : sl.sWlanCB = true)
    (h : SetupInv sketch (⟨spider, ret, todo⟩, link)) (hadmits : link.Admits (eventCode data)) :
    SetupInv sketch (⟨spider.receive sl data, ret, todo⟩, link.told (eventCode data)) := by
  have hoff : link = .off → link.told (eventCode data) = .off := by
    rintro rfl
    exact hadmits.off
  refine ⟨h.shows.frame hcb hadmits, h.lowers, h.orderly, ?_, ?_, h.calls⟩
  · intro hsmart hon
    exact h.undisturbed hsmart fun hlink => hon (hoff hlink)
  · intro hbegin
    obtain ⟨hlink, hrest⟩ := h.begin hbegin
    exact ⟨hoff hlink, hrest⟩

/-- A call of the setup. -/
theorem SetupInv.call {sketch : Sketch} {flags : Flags} {c : SpiderCall} {ret : Int16}
    {todo : List SetupStmt} {link : Link}
    (h : SetupInv sketch (⟨⟨flags, []⟩, ret, .call c :: todo⟩, link)) :
    SetupInv sketch (⟨⟨flags, spiderCode c⟩, ret, todo⟩, link) := by
  have hbehind : .call .begin ∉ todo := fun hmem =>
    (h.begin (List.mem_cons_of_mem _ hmem)).2.2 hmem
  refine ⟨h.shows, lowers_spiderCode c, orderly_spiderCode c, ?_, ?_, ?_⟩
  · intro hsmart hon
    by_cases hbegin : c = .begin
    · subst hbegin
      exact absurd (h.begin List.mem_cons_self).1 hon
    · exact h.calls hsmart c List.mem_cons_self hbegin
  · exact fun hmem => absurd hmem hbehind
  · exact fun hsmart d hmem => h.calls hsmart d (List.mem_cons_of_mem _ hmem)

/-- Any other statement of the setup. -/
theorem SetupInv.own {sketch : Sketch} {flags : Flags} {s : SetupStmt} {ret : Int16}
    {todo : List SetupStmt} {link : Link}
    (h : SetupInv sketch (⟨⟨flags, []⟩, ret, s :: todo⟩, link)) :
    SetupInv sketch (⟨⟨flags, []⟩, ret, s.exec flags ret ++ todo⟩, link) := by
  have hold : ∀ c, .call c ∈ s.exec flags ret ++ todo → .call c ∈ todo := by
    intro c hmem
    rcases List.mem_append.mp hmem with hnew | hmem
    · exact absurd hnew (s.exec_calls flags ret c)
    · exact hmem
  refine ⟨h.shows, Only.nil, rfl, fun _ _ => Only.nil, ?_, ?_⟩
  · intro hmem
    have hbehind := hold _ hmem
    exact absurd hbehind (h.begin (List.mem_cons_of_mem _ hbehind)).2.2
  · exact fun hsmart c hmem => h.calls hsmart c (List.mem_cons_of_mem _ (hold c hmem))

theorem SetupInv.step {sketch : Sketch} {x y : Setup × Link} {l : SetupLabel}
    (h : SetupInv sketch x)
    (hs : guarded sketch.Allows (watch SetupStep Link.observe) x l y) : SetupInv sketch y := by
  obtain ⟨s, link⟩ := x
  obtain ⟨t, link'⟩ := y
  obtain ⟨hok, hstep, hlink⟩ := hs
  dsimp only at hstep hlink
  subst hlink
  cases hstep with
  | inside hinside hl =>
    cases hinside with
    | stmt => exact h.stmt hok
    | frame data hcb => exact h.frame hcb hok
    | call c => exact absurd rfl (hl c)
  | call hcall =>
    cases hcall with
    | call c => exact h.call
  | own hs => exact h.own

theorem setupInv_of_run {sketch : Sketch} {ls : List SetupLabel} {s : Setup} {link : Link}
    (h : Run (guarded sketch.Allows (watch SetupStep Link.observe)) (Setup.start sketch, .off) ls
      (s, link)) : SetupInv sketch (s, link) := by
  apply h.invariant (SetupInv.start sketch)
  intro a l b _
  exact SetupInv.step

/-! A connection that is refused. -/

/-- What the device answers to `wlan_connect`, in a sketch that looks at it. -/
def Sketch.answer : Sketch → Option Int32
  | .simpleHttpGet ret | .simpleHttpServer ret | .ntp ret => some ret
  | .smartConfig _ _ => none

open SpiderStmt in
/-- What `Spider_Connect` has left to do, and its result is not 0. -/
def refusedCode (ret : Int32) : List (List SpiderStmt) :=
  [[ifInitialed (.connect ret)], [returns (.connect ret) (-1)],
    [device .wlanIoctlSetConnectionPolicy, device .wlanConnect, returns (.connect ret) (-2)],
    [device .wlanConnect, returns (.connect ret) (-2)], [returns (.connect ret) (-2)]]

/-- A setup on its way into `while(1)`: before the call, in it, behind it, and there. -/
inductive Refused (ret : Int32) : Setup → Prop where
  | before {spider : Spider} {r : Int16} {first rest : List SetupStmt}
      (hfirst : ∀ s ∈ first, s = .call .begin ∨ s = .ifFailed) :
      Refused ret ⟨spider, r, first ++ .call (.connect ret) :: .ifFailed :: rest⟩
  | asked {flags : Flags} {code : List SpiderStmt} {r : Int16} {rest : List SetupStmt}
      (hcode : code ∈ refusedCode ret) : Refused ret ⟨⟨flags, code⟩, r, .ifFailed :: rest⟩
  | answered {flags : Flags} {r : Int16} {rest : List SetupStmt} (hr : r ≠ 0) :
      Refused ret ⟨⟨flags, []⟩, r, .ifFailed :: rest⟩
  | hangs {flags : Flags} {r : Int16} {rest : List SetupStmt} :
      Refused ret ⟨⟨flags, []⟩, r, .hang :: rest⟩

theorem Refused.start {sketch : Sketch} {ret : Int32} (h : sketch.answer = some ret) :
    Refused ret (Setup.start sketch) := by
  have hfirst : ∀ s ∈ ([.call .begin, .ifFailed] : List SetupStmt),
      s = .call .begin ∨ s = .ifFailed := by decide
  cases sketch with
  | smartConfig pin r => cases h
  | simpleHttpGet r | simpleHttpServer r | ntp r =>
    obtain rfl := Option.some.inj h
    exact .before hfirst

/-- A statement of `Spider_Connect`. -/
theorem Refused.asked_stmt {ret : Int32} (hret : ret ≠ 0) {flags : Flags} {s : SpiderStmt}
    {rest : List SpiderStmt} (hcode : s :: rest ∈ refusedCode ret) (r : Int16)
    (todo : List SetupStmt) :
    Refused ret ⟨⟨(s.exec flags).1, (s.exec flags).2 ++ rest⟩, (SpiderLabel.stmt s).result r,
      .ifFailed :: todo⟩ := by
  simp only [refusedCode, List.mem_cons, List.cons.injEq, List.not_mem_nil, or_false] at hcode
  rcases hcode with ⟨rfl, rfl⟩ | ⟨rfl, rfl⟩ | ⟨rfl, rfl⟩ | ⟨rfl, rfl⟩ | ⟨rfl, rfl⟩
  · apply Refused.asked
    rw [SpiderStmt.exec, List.append_nil]
    split
    · simp [refusedCode]
    · simp [refusedCode, initialedCode, hret]
  · exact .answered (show (-1 : Int16) ≠ 0 by decide)
  · exact .asked (by simp [SpiderStmt.exec, refusedCode])
  · exact .asked (by simp [SpiderStmt.exec, refusedCode])
  · exact .answered (show (-2 : Int16) ≠ 0 by decide)

theorem Refused.step {ret : Int32} (hret : ret ≠ 0) {s t : Setup} {l : SetupLabel}
    (h : Refused ret s) (hs : SetupStep s l t) : Refused ret t := by
  cases h with
  | before hfirst =>
    rename_i first rest
    cases first with
    | nil =>
      cases hs with
      | inside => exact .before hfirst
      | call h =>
        cases h with
        | call => exact .asked List.mem_cons_self
      | own hs => exact absurd rfl (hs _)
    | cons s first =>
      have hrest : ∀ s ∈ first, s = .call .begin ∨ s = .ifFailed := fun s hs =>
        hfirst s (List.mem_cons_of_mem _ hs)
      cases hs with
      | inside => exact .before hfirst
      | call => exact .before hrest
      | own hs =>
        rcases hfirst s List.mem_cons_self with rfl | rfl
        · exact absurd rfl (hs _)
        · rw [SetupStmt.exec]
          split
          · exact .hangs
          · exact .before hrest
  | asked hcode =>
    cases hs with
    | inside h hl =>
      cases h with
      | stmt => exact .asked_stmt hret hcode _ _
      | frame => exact .asked hcode
      | call c => exact absurd rfl (hl c)
    | own => simp [refusedCode] at hcode
  | answered hr =>
    cases hs with
    | inside h hl =>
      cases h with
      | frame => exact .answered hr
      | call c => exact absurd rfl (hl c)
    | own =>
      rw [SetupStmt.exec, if_pos hr]
      exact .hangs
  | hangs =>
    cases hs with
    | inside h hl =>
      cases h with
      | frame => exact .hangs
      | call c => exact absurd rfl (hl c)
    | own => exact .hangs

/-- The step goes on behind the wait. -/
def Setup.GoesOn (s : Setup) (l : SetupLabel) : Prop :=
  l = .own .orNotDHCP ∧ spiderCheckDHCP s.spider.flags = 0

theorem spiderCheckDHCP_eq_zero_iff (flags : Flags) :
    spiderCheckDHCP flags = 0 ↔ flags .spiderDHCP = 1 := by
  unfold spiderCheckDHCP
  split
  · next h => exact ⟨fun _ => h, fun _ => rfl⟩
  · next h => exact ⟨fun hret => absurd hret (by decide), fun hflag => absurd hflag h⟩

theorem Refused.not_goesOn {ret : Int32} {s t : Setup} {l : SetupLabel} (h : Refused ret s)
    (hs : SetupStep s l t) : ¬ s.GoesOn l := by
  rintro ⟨rfl, -⟩
  cases h with
  | before hfirst =>
    rename_i first rest
    cases first with
    | nil => cases hs
    | cons s first =>
      cases hs
      rcases hfirst _ List.mem_cons_self with h | h <;> cases h
  | asked | answered | hangs => cases hs

/-- **The wait waits, and no longer.** In every run of a setup with a device that keeps to
the order of its events, the flags are the state of the device at every moment; the setup
goes on behind its wait only when the DHCP client of the device has reported over a link
that is up, and never where `wlan_connect` is refused; and when the report is there, the
wait is left without further events. -/
theorem setup_of_run {sketch : Sketch} {ls : List SetupLabel} {s : Setup} {link : Link}
    (h : Run (guarded sketch.Allows (watch SetupStep Link.observe)) (Setup.start sketch, .off) ls
      (s, link)) :
    s.spider.flags .spiderConnected = link.connected ∧ s.spider.flags .spiderDHCP = link.dhcp ∧
    (∀ l t, SetupStep s l t → s.GoesOn l →
      link = .reported ∧ ∀ ret, sketch.answer = some ret → ret = 0) ∧
    (link = .reported → ∀ rest, s.spider.todo = [] → s.todo = .whileNotConnected :: rest →
      Run SetupStep s [.own .whileNotConnected, .own .orNotDHCP] ⟨s.spider, s.ret, rest⟩) := by
  have hinv := setupInv_of_run h
  refine ⟨hinv.shows.connected, hinv.shows.dhcp, ?_, ?_⟩
  · rintro l t hstep hgoes
    constructor
    · have hflag := (spiderCheckDHCP_eq_zero_iff _).mp hgoes.2
      rw [hinv.shows.dhcp] at hflag
      cases link with
      | reported => rfl
      | _ => cases hflag
    · intro ret hanswer
      by_contra hret
      have hrefused : Refused ret s := by
        apply @Run.invariant _ _ _ (fun x => Refused ret x.1) _ _ _ h (Refused.start hanswer)
        intro a l b _ ha hs
        exact ha.step hret hs.2.1
      exact hrefused.not_goesOn hstep hgoes
  · rintro rfl rest hinside htodo
    obtain ⟨⟨flags, code⟩, ret, todo⟩ := s
    obtain rfl : code = [] := hinside
    obtain rfl : todo = .whileNotConnected :: rest := htodo
    have hconnected : spiderCheckConnected flags = 0 := if_pos hinv.shows.connected
    have hdhcp : spiderCheckDHCP flags = 0 := if_pos hinv.shows.dhcp
    have hfirst : SetupStmt.exec .whileNotConnected flags ret = [.orNotDHCP] :=
      if_neg (not_not_intro hconnected)
    have hsecond : SetupStmt.exec .orNotDHCP flags ret = [] := if_neg (not_not_intro hdhcp)
    have h₁ := @SetupStep.own flags .whileNotConnected ret rest (fun c hc => by cases hc)
    have h₂ := @SetupStep.own flags .orNotDHCP ret rest (fun c hc => by cases hc)
    rw [hfirst] at h₁
    rw [hsecond] at h₂
    exact .cons h₁ (.single h₂)

/-! A run. -/

/-- One statement, and no event. -/
def Setup.act : Setup × Link → Setup × Link
  | (⟨⟨flags, s :: rest⟩, ret, todo⟩, link) =>
    (⟨⟨(s.exec flags).1, (s.exec flags).2 ++ rest⟩, (SpiderLabel.stmt s).result ret, todo⟩,
      link.switched s)
  | (⟨⟨flags, []⟩, ret, .call c :: todo⟩, link) => (⟨⟨flags, spiderCode c⟩, ret, todo⟩, link)
  | (⟨⟨flags, []⟩, ret, s :: todo⟩, link) => (⟨⟨flags, []⟩, ret, s.exec flags ret ++ todo⟩, link)
  | x => x

/-- Statements alone are a run, where `Spider_SmartConfig` is not run. -/
theorem setup_act {sketch : Sketch} (hsmart : sketch.smart = false) (n : Nat)
    (x : Setup × Link) :
    ∃ ls, Run (guarded sketch.Allows (watch SetupStep Link.observe)) x ls (Setup.act^[n] x) := by
  induction n generalizing x with
  | zero => exact ⟨[], .nil x⟩
  | succ n ih =>
    obtain ⟨ls, hrest⟩ := ih (Setup.act x)
    rw [Function.iterate_succ_apply]
    obtain ⟨⟨⟨flags, code⟩, ret, todo⟩, link⟩ := x
    cases code with
    | cons s rest =>
      refine ⟨.inside (.stmt s) :: ls, .cons ⟨fun h => ?_, ?_, rfl⟩ hrest⟩
      · rw [hsmart] at h
        cases h
      · exact .inside .stmt fun c hc => by cases hc
    | nil =>
      cases todo with
      | nil => exact ⟨ls, hrest⟩
      | cons s todo =>
        refine ⟨.own s :: ls, .cons ⟨trivial, ?_, ?_⟩ hrest⟩
        · cases s with
          | call c => exact .call (.call c)
          | _ => exact .own fun c hc => by cases hc
        · cases s <;> rfl

/-- `ntp.ino` before its wait, with a link and the report over it. -/
def ntpWaits : Setup × Link :=
  let x := Setup.act^[20] (Setup.start (.ntp 0), .off)
  (⟨(x.1.spider.receive (.start true) (linkFrame 0x01 0x80)).receive (.start true)
    (linkFrame 0x10 0x80), x.1.ret, x.1.todo⟩, .reported)

theorem ntpWaits_run : ∃ ls, Run (guarded (Sketch.ntp 0).Allows (watch SetupStep Link.observe))
    (Setup.start (.ntp 0), .off) ls ntpWaits := by
  obtain ⟨ls, hrun⟩ := @setup_act (.ntp 0) rfl 20 (Setup.start (.ntp 0), .off)
  have hdown : (Setup.act^[20] (Setup.start (.ntp 0), .off)).2 = .down := rfl
  unfold ntpWaits
  generalize Setup.act^[20] (Setup.start (.ntp 0), .off) = x at *
  obtain ⟨⟨spider, ret, todo⟩, link⟩ := x
  obtain rfl : link = .down := hdown
  have hup : guarded (Sketch.ntp 0).Allows (watch SetupStep Link.observe)
      (⟨spider, ret, todo⟩, .down) (.inside (.frame (.start true) (linkFrame 0x01 0x80)))
      (⟨spider.receive (.start true) (linkFrame 0x01 0x80), ret, todo⟩, .up) :=
    ⟨⟨fun _ => .inl rfl, fun h => absurd h (by decide), fun h => absurd h (by decide)⟩,
      .inside (.frame _ rfl) (fun c hc => by cases hc), rfl⟩
  have hreported : guarded (Sketch.ntp 0).Allows (watch SetupStep Link.observe)
      (⟨spider.receive (.start true) (linkFrame 0x01 0x80), ret, todo⟩, .up)
      (.inside (.frame (.start true) (linkFrame 0x10 0x80)))
      (⟨(spider.receive (.start true) (linkFrame 0x01 0x80)).receive (.start true)
        (linkFrame 0x10 0x80), ret, todo⟩, .reported) :=
    ⟨⟨fun h => absurd h (by decide), fun h => absurd h (by decide), fun _ => .inl rfl⟩,
      .inside (.frame _ rfl) (fun c hc => by cases hc), rfl⟩
  exact ⟨_, hrun.append (.cons hup (.single hreported))⟩

theorem setup_ntp :
    ∃ ls, Run (guarded (Sketch.ntp 0).Allows (watch SetupStep Link.observe))
      (Setup.start (.ntp 0), .off) ls ntpWaits ∧
    ntpWaits.1.spider.flags .spiderConnected = 1 ∧ ntpWaits.1.spider.flags .spiderDHCP = 1 ∧
    Run SetupStep ntpWaits.1 [.own .whileNotConnected, .own .orNotDHCP]
      ⟨ntpWaits.1.spider, ntpWaits.1.ret, [.netappIpconfig, .ntpBegin]⟩ := by
  obtain ⟨ls, hrun⟩ := ntpWaits_run
  obtain ⟨hconnected, hdhcp, -, hleaves⟩ := setup_of_run hrun
  exact ⟨ls, hrun, hconnected, hdhcp, hleaves rfl [.netappIpconfig, .ntpBegin] rfl rfl⟩

end SpiderL3S
