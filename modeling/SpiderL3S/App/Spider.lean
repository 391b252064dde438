import Mathlib.Logic.Function.Basic
import SpiderL3S.Lib.Code
import SpiderL3S.Lib.Runs
import SpiderL3S.Unsol

/- `Spider_L3.c`: the flags of the module, the callback that sets them, and the
   functions that reset them and wait for them. A frame reaches the callback
   through `hciUnsolEventHandler`, between any two statements of a function:
   `SpiderStep` is one statement of the function that is running, the call of
   one, or one frame. The globals of the driver may be anything when a frame
   arrives, but for the callback, which `wlan_init` installs. A call brings with
   it what the device answers to the one command whose result it looks at. -/
namespace SpiderL3S

open Code Runs

/-! The flags and the callback. -/

inductive Flag where
  | hwInitialed
  | smartConfigFinished
  | stopSmartConfig
  | spiderConnected
  | spiderDHCP
  | spiderCanShutDown
  | spiderARPFlag
  deriving DecidableEq, Repr

abbrev Flags := Flag → UInt8

/-- One assignment to a flag. -/
def Flags.set (flags : Flags) (flag : Flag) (value : UInt8) : Flags :=
  Function.update flags flag value

abbrev spiderArpFlagProc : UInt8 := 2
abbrev spiderArpFlagDone : UInt8 := 3

/-- `Spider_AsyncCallback`. It does not look at the data. -/
def spiderAsyncCallback (flags : Flags) (call : WlanCall) : Flags :=
  let lEventType := call.eventType
  if lEventType = hciEvntWlanAsyncSimpleConfigDone then
    (flags.set .smartConfigFinished 1).set .stopSmartConfig 1
  else if lEventType = hciEvntWlanUnsolConnect then flags.set .spiderConnected 1
  else if lEventType = hciEvntWlanUnsolDisconnect then
    (flags.set .spiderConnected 0).set .spiderDHCP 0
  else if lEventType = hciEvntWlanUnsolDhcp then flags.set .spiderDHCP 1
  else if lEventType = hciEventCc3000CanShutDown then flags.set .spiderCanShutDown 1
  else if lEventType = hciEvntAsyncArpDone then flags.set .spiderARPFlag spiderArpFlagDone
  else if lEventType = hciEvntAsyncArpWaiting then flags.set .spiderARPFlag spiderArpFlagProc
  else flags

/-- `Spider_CheckDHCP`. -/
def spiderCheckDHCP (flags : Flags) : Int16 := if flags .spiderDHCP = 1 then 0 else -1

theorem Flags.set_self (flags : Flags) (f : Flag) (v : UInt8) : flags.set f v f = v := by
  rw [Flags.set, Function.update_self]

theorem Flags.set_of_ne (flags : Flags) {f g : Flag} (h : g ≠ f) (v : UInt8) :
    flags.set f v g = flags g := by
  rw [Flags.set, Function.update_of_ne h]

/-- What one frame does to a flag, whatever its code and its bytes: what the
callback does with its code, which is nothing for an event without a case. -/
theorem foldl_asyncCallback_flag {f : Flag} {after : UInt16 → UInt8 → UInt8}
    (hcall : ∀ flags call, spiderAsyncCallback flags call f = after call.eventType (flags f))
    (hquiet : ∀ code before, code ∉ wlanEvents → after code before = before)
    {sl : SLInfo} (hcb : sl.sWlanCB = true) (data : Mem) (flags : Flags) :
    (asyncCalls sl data).foldl spiderAsyncCallback flags f = after (eventCode data) (flags f) := by
  rcases asyncCalls_cases hcb data with ⟨-, hcalls⟩ | ⟨hcode, hcalls⟩
  · rw [hcalls]
    exact hcall flags _
  · rw [hquiet _ _ hcode]
    rcases hcalls with hcalls | hcalls
    · rw [hcalls]
      rfl
    · rw [hcalls]
      calc spiderAsyncCallback flags ⟨hciEventCc3000CanShutDown, []⟩ f
          = after hciEventCc3000CanShutDown (flags f) := hcall flags _
        _ = flags f := hquiet _ _ (by decide)

/-! The functions. -/

/-- A call of the application, with the device's answer where the function tests
one. -/
inductive SpiderCall where
  | begin
  | close
  | smartConfig (started : Int32)
  | autoConnect (ret : Int32)
  | disconnect (ret : Int32)
  | connect (ret : Int32)
  deriving DecidableEq, Repr

/-- What a function asks of the layers below. None of it touches a flag. -/
inductive DeviceCall where
  | cc3000Init
  | wlanInit
  | wlanStart
  | wlanStop
  | wlanSetEventMask
  | wlanConnect
  | wlanDisconnect
  | wlanIoctlSetConnectionPolicy
  | wlanIoctlDelProfile
  | wlanSmartConfigSetPrefix
  | wlanSmartConfigStart
  | nvmemCreateEntry
  | aesWriteKey
  | writeWlanPin
  | spiClose
  deriving DecidableEq, Repr

inductive SpiderStmt where
  | assign (flag : Flag) (value : UInt8)
  | device (call : DeviceCall)
  /-- `if(HW_Initialed != 1) return -1;`, and the rest of the function. -/
  | ifInitialed (call : SpiderCall)
  /-- `while(SpiderConnected == 1)`. -/
  | whileConnected
  /-- The first operand of `while((SpiderDHCP != 0) && (SpiderConnected != 0))`. -/
  | whileDHCP
  /-- Its second operand. -/
  | andConnected
  /-- `while(SmartConfigFinished == 0)`. -/
  | whileNotFinished
  | returns (call : SpiderCall) (value : Int16)
  deriving DecidableEq, Repr

open SpiderStmt in
/-- `Spider_SmartConfig` behind the start of the process. -/
def smartConfigStarted (started : Int32) : List SpiderStmt :=
  if started ≠ 0 then [returns (.smartConfig started) (-1)]
  else
    [whileNotFinished, device .wlanIoctlSetConnectionPolicy, device .wlanStop,
      device .wlanStart, device .wlanSetEventMask, returns (.smartConfig started) 0]

open SpiderStmt in
/-- `Spider_Disconnect` behind the command. -/
def disconnectAnswered (ret : Int32) : List SpiderStmt :=
  if ret ≠ 0 then [returns (.disconnect ret) (-2)]
  else
    [whileDHCP, assign .smartConfigFinished 0, assign .stopSmartConfig 0,
      assign .spiderConnected 0, assign .spiderDHCP 0, assign .spiderCanShutDown 0,
      returns (.disconnect ret) 0]

open SpiderStmt in
/-- The code behind the test of `HW_Initialed`. -/
def initialedCode : SpiderCall → List SpiderStmt
  | .autoConnect ret =>
    [whileConnected, device .wlanIoctlSetConnectionPolicy,
      returns (.autoConnect ret) (if ret ≠ 0 then -2 else 0)]
  | .disconnect ret => device .wlanDisconnect :: disconnectAnswered ret
  | .connect ret =>
    [device .wlanIoctlSetConnectionPolicy, device .wlanConnect,
      returns (.connect ret) (if ret ≠ 0 then -2 else 0)]
  | _ => []

open SpiderStmt in
/-- The code of a function. -/
def spiderCode : SpiderCall → List SpiderStmt
  | .begin =>
    [assign .hwInitialed 0, assign .smartConfigFinished 0, assign .stopSmartConfig 0,
      assign .spiderConnected 0, assign .spiderDHCP 0, assign .spiderCanShutDown 0,
      device .cc3000Init, device .wlanInit, device .wlanStart, device .wlanSetEventMask,
      assign .hwInitialed 1, returns .begin 0]
  | .close =>
    [device .writeWlanPin, device .spiClose, assign .hwInitialed 0,
      assign .smartConfigFinished 0, assign .stopSmartConfig 0, assign .spiderConnected 0,
      assign .spiderDHCP 0, assign .spiderCanShutDown 0, returns .close 0]
  | .smartConfig started =>
    [assign .smartConfigFinished 0, assign .spiderConnected 0, assign .spiderDHCP 0,
      assign .spiderCanShutDown 0, device .wlanIoctlSetConnectionPolicy,
      device .wlanIoctlDelProfile, whileConnected, device .nvmemCreateEntry,
      device .aesWriteKey, device .wlanSmartConfigSetPrefix, device .wlanSmartConfigStart] ++
      smartConfigStarted started
  | c => [ifInitialed c]

/-- One statement: the flags behind it, and what it puts in front of the rest. -/
def SpiderStmt.exec : SpiderStmt → Flags → Flags × List SpiderStmt
  | assign flag value, flags => (flags.set flag value, [])
  | device _, flags => (flags, [])
  | ifInitialed call, flags =>
    (flags, if flags .hwInitialed ≠ 1 then [returns call (-1)] else initialedCode call)
  | whileConnected, flags => (flags, if flags .spiderConnected = 1 then [whileConnected] else [])
  | whileDHCP, flags => (flags, if flags .spiderDHCP ≠ 0 then [andConnected] else [])
  | andConnected, flags => (flags, if flags .spiderConnected ≠ 0 then [whileDHCP] else [])
  | whileNotFinished, flags =>
    (flags, if flags .smartConfigFinished = 0 then [whileNotFinished] else [])
  | returns _ _, flags => (flags, [])

/-! The system. -/

/-- The flags, and what the function that is running has left to do. -/
structure Spider where
  flags : Flags
  todo : List SpiderStmt

/-- Before the first call. -/
def Spider.start : Spider := ⟨fun _ => 0, []⟩

/-- The callback comes between two statements. -/
def Spider.receive (s : Spider) (sl : SLInfo) (data : Mem) : Spider :=
  { s with flags := (asyncCalls sl data).foldl spiderAsyncCallback s.flags }

inductive SpiderLabel where
  | stmt (s : SpiderStmt)
  | call (c : SpiderCall)
  /-- A frame, and the globals of the driver it arrives at. -/
  | frame (sl : SLInfo) (data : Mem)

inductive SpiderStep : Spider → SpiderLabel → Spider → Prop where
  | stmt {flags : Flags} {s : SpiderStmt} {rest : List SpiderStmt} :
      SpiderStep ⟨flags, s :: rest⟩ (.stmt s) ⟨(s.exec flags).1, (s.exec flags).2 ++ rest⟩
  | call {flags : Flags} (c : SpiderCall) : SpiderStep ⟨flags, []⟩ (.call c) ⟨flags, spiderCode c⟩
  | frame {s : Spider} {sl : SLInfo} (data : Mem) (hcb : sl.sWlanCB = true) :
      SpiderStep s (.frame sl data) (s.receive sl data)

/-- Up to `n` statements, and nothing between them. -/
def Spider.alone (n : Nat) (s : Spider) : Spider :=
  ⟨(runAlone SpiderStmt.exec n s.flags s.todo).1, (runAlone SpiderStmt.exec n s.flags s.todo).2⟩

/-- Statements alone are a run, under a guard that lets them pass and an observer
that they do not concern. -/
theorem spider_runAlone {ω : Type} {ok : Spider × ω → SpiderLabel → Prop}
    {obs : ω → Spider → SpiderLabel → Spider → ω} {w : ω} (hok : ∀ a s, ok (a, w) (.stmt s))
    (hobs : ∀ a s b, obs w a (.stmt s) b = w) (n : Nat) (s : Spider) :
    ∃ ls, Run (guarded ok (watch SpiderStep obs)) (s, w) ls (s.alone n, w) := by
  induction n generalizing s with
  | zero => exact ⟨[], .nil _⟩
  | succ n ih =>
    obtain ⟨flags, todo⟩ := s
    cases todo with
    | nil => exact ⟨[], .nil _⟩
    | cons s rest =>
      obtain ⟨ls, hrun⟩ := ih ⟨(s.exec flags).1, (s.exec flags).2 ++ rest⟩
      exact ⟨.stmt s :: ls, .cons ⟨hok _ s, .stmt, (hobs _ s _).symm⟩ hrun⟩

end SpiderL3S
