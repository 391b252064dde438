import SpiderL3S.App.Leaks
import SpiderL3S.Web.Client

/- The client of `SimpleHttpGet.ino`. Its `loop` looks up the host of one URL, and then
   fetches the page again and again: it begins a `Host_Info` with the address, connects,
   sends the request, reads what comes for a while and closes. `HttpGet.turn` is one call
   of `loop`, and `trace` keeps the calls it makes.

   In every run, which ends where a store goes astray, every connection is made to port 80
   of the address that was looked up last, and of no address more than 31 times
   (`addresses_of_run`); and every call of `loop` closes what it opens (`noSocket_of_run`). -/
namespace SpiderL3S

open Runs Ledger CString

/-! `WebClient.c`. -/

abbrev webCliServerConnFail : Int16 := -6

/-- `WebClient_Get_HostIP`: the result, and the four bytes it stores if it is 0. -/
def webClientGetHostIP (url_link : List UInt8) (a : Answers) : Int16 × Option (List UInt8) :=
  match hostName url_link with
  | none => (webCliHostStrFail, none)
  | some name =>
    if a.gethostbynameRet (UInt16.ofNat name.length) < 0 then (webCliHostIpFail, none)
    else (webCliOk, some (addressBytes a.outputAddress))

/-- `WebClient_Connect`, where `connect` returns `status`. It passes through an `int`. -/
def webClientConnect (status : Int32) : Int16 :=
  if status.toInt16 < 0 then webCliServerConnFail else status.toInt16

/-! The receive loop. -/

/-- A turn of the receive loop: whether there is data, what `WebClient_RecvData` returns
and what is then in `ret_data` and behind it, and the clock in it. A receive brings no more
than the 100 bytes it asks for. -/
structure GetTurn where
  available : Bool
  ret : Int16
  retData : List UInt8
  now : UInt32
  after : UInt32

def tempField : List UInt8 := ascii ['t', 'e', 'm', 'p', '=', '"']

/-- `sscanf(str1, "%d", &temp)`, into an `int` that is 0. -/
def scanTemp (s : List UInt8) : Int := ((scanInt s).map fun n => n.bmod 65536).getD 0

/-- `sizeof(ret_data)`. -/
abbrev retDataSize : Nat := 100

/-- What the loop prints of a chunk. The store to `*str2` is made wherever `str2` points:
`some none` is where that is not in `ret_data`, because the number is not closed there. -/
def readTemp (retData : List UInt8) : Option (Option Int) :=
  (strstr retData tempField).map fun str =>
    let str1 := str.drop tempField.length
    match strstr str1 (ascii ['"']) with
    | some str2 =>
      if retData.length - str2.length < retDataSize then
        some (scanTemp (str1.take (str1.length - str2.length)))
      else none
    | none => none

/-- The loop, up to its timeout: the numbers printed. `none` is where it goes on, or has
stored through a null pointer or behind `ret_data`. -/
def receiveLoop (break_tmr : UInt32) (temps : List Int) : List GetTurn → Option (List Int)
  | [] => none
  | l :: turns =>
    let received := l.available ∧ 0 < l.ret
    let break_tmr := if received then l.now + 1500 else break_tmr
    match if received then readTemp l.retData else none with
    | some none => none
    | some (some temp) =>
      if break_tmr < l.after then some (temps ++ [temp])
      else receiveLoop break_tmr (temps ++ [temp]) turns
    | none => if break_tmr < l.after then some temps else receiveLoop break_tmr temps turns

/-! The sketch. -/

inductive GetState where
  | connectBegin
  | connectServer
  deriving DecidableEq, Repr

/-- What the sketch does to the network. -/
inductive GetCall where
  | getHostIP (result : Int16 × Option (List UInt8))
  | beginIP (a : Answers)
  | connect (socket : Int32) (addr : Sockaddr) (ret : Int16)
  | sendRequest (socket : Int32) (ret : Int16)
  | close (socket : Int32) (a : Answers)

/-- The globals of the sketch, and the calls made so far. -/
structure HttpGet where
  appSt : GetState
  ip : List UInt8
  hostInf : HostInfo
  taskTimer : UInt32
  connCount : UInt8
  getCount : Int16
  printed : List Int
  trace : List GetCall

def HttpGet.start : HttpGet :=
  { appSt := .connectBegin
    ip := [0, 0, 0, 0]
    hostInf := ⟨0, .zero⟩
    taskTimer := 0
    connCount := 0
    getCount := 0
    printed := []
    trace := [] }

/-- One call of `loop`: the clock at its test, where it sets the timer and where the
receive loop begins, and what the calls in it are answered. -/
structure LoopTurn where
  now : UInt32
  later : UInt32
  begun : UInt32
  answers : Answers
  connect : Int32
  sendRequest : Int16
  turns : List GetTurn

/-- `CONNECT_SERVER`, from the request on. -/
def HttpGet.fetch (s : HttpGet) (l : LoopTurn) : Option HttpGet :=
  let socket := s.hostInf.hostSocket
  if l.sendRequest ≠ 0 then
    some { s with
      taskTimer := l.later + 1000
      trace := s.trace ++ [.sendRequest socket l.sendRequest, .close socket l.answers] }
  else
    match receiveLoop (l.begun + 800) [] l.turns with
    | none => none
    | some temps =>
      some { s with
        getCount := s.getCount + 1
        printed := s.printed ++ temps
        taskTimer := l.later + 100
        trace := s.trace ++ [.sendRequest socket l.sendRequest, .close socket l.answers] }

/-- One call of `loop`. `none` is where the receive loop does not end, or stores out of
bounds. -/
def HttpGet.turn (url_link : List UInt8) (s : HttpGet) (l : LoopTurn) : Option HttpGet :=
  if s.taskTimer < l.now then
    match s.appSt with
    | .connectBegin =>
      let r := webClientGetHostIP url_link l.answers
      let s : HttpGet := { s with ip := r.2.getD [0, 0, 0, 0], trace := s.trace ++ [.getHostIP r] }
      if r.1 ≠ 0 then some { s with taskTimer := l.later + 1000 }
      else some { s with appSt := .connectServer, taskTimer := l.later + 100 }
    | .connectServer =>
      let (ret, info, _) := webClientBeginIP (s.ip.getD 0 0) (s.ip.getD 1 0) (s.ip.getD 2 0)
        (s.ip.getD 3 0) 80 l.answers
      let s : HttpGet := { s with hostInf := info, trace := s.trace ++ [.beginIP l.answers] }
      if ret ≠ 0 then
        some { s with
          taskTimer := l.later + 1000
          trace := s.trace ++ [.close info.hostSocket l.answers] }
      else
        let ret := webClientConnect l.connect
        let s : HttpGet := { s with trace := s.trace ++ [.connect info.hostSocket info.hostAddr ret] }
        if ret ≠ 0 then
          some { s with
            appSt := .connectBegin
            taskTimer := l.later + 1000
            trace := s.trace ++ [.close info.hostSocket l.answers] }
        else if s.connCount > 29 then
          HttpGet.fetch { s with appSt := .connectBegin, connCount := 0 } l
        else HttpGet.fetch { s with connCount := s.connCount + 1 } l
  else some s

def GetStep (url_link : List UInt8) (s : HttpGet) (l : LoopTurn) (t : HttpGet) : Prop :=
  s.turn url_link l = some t

/-! What the trace says. -/

/-- The address that was looked up last. -/
def lookedUp (trace : List GetCall) : Option (List UInt8) :=
  trace.foldl (fun last call =>
    match call with
    | .getHostIP (ret, ip) => if ret = 0 then ip else last
    | _ => last) none

/-- The connections since it was looked up. -/
def connectsSince (trace : List GetCall) : Nat :=
  trace.foldl (fun n call =>
    match call with
    | .getHostIP (ret, _) => if ret = 0 then 0 else n
    | .connect .. => n + 1
    | _ => n) 0

/-- Every connection is made to port 80 of the address looked up last. -/
def ConnectsRight (trace : List GetCall) : Prop :=
  ∀ pre socket addr ret post, trace = pre ++ .connect socket addr ret :: post →
    ∃ ip, lookedUp pre = some ip ∧ addr = .host 80 ip

/-! One call of `loop`. -/

/-- What `WebClient_Begin_IP` does with the address of the sketch. -/
def HttpGet.begun (s : HttpGet) (a : Answers) : Int16 × HostInfo × List SocketOp :=
  webClientBeginIP (s.ip.getD 0 0) (s.ip.getD 1 0) (s.ip.getD 2 0) (s.ip.getD 3 0) 80 a

/-- One call of `loop` does nothing before its time; or it looks the host up; or it begins
a connection, which does not come to a socket, is refused, or is used. In each of
these it is closed. -/
inductive Looped (url_link : List UInt8) (s : HttpGet) (l : LoopTurn) (t : HttpGet) : Prop
  | idle (hsame : t = s)
  | lookup (hstate : s.appSt = .connectBegin)
      (htrace : t.trace = s.trace ++ [.getHostIP (webClientGetHostIP url_link l.answers)])
      (hcount : t.connCount = s.connCount) (hinfo : t.hostInf = s.hostInf)
      (hnext : t.appSt = .connectServer →
        webClientGetHostIP url_link l.answers = (webCliOk, some t.ip))
  | noSocket (hstate : s.appSt = .connectServer) (hinfo : t.hostInf = (s.begun l.answers).2.1)
      (htrace : t.trace = s.trace ++ [.beginIP l.answers, .close t.hostInf.hostSocket l.answers])
      (hcount : t.connCount = s.connCount) (hip : t.ip = s.ip)
  | refused (hstate : s.appSt = .connectServer) (hok : (s.begun l.answers).1 = webCliOk)
      (hinfo : t.hostInf = (s.begun l.answers).2.1) (ret : Int16)
      (htrace : t.trace = s.trace ++ [.beginIP l.answers,
        .connect t.hostInf.hostSocket t.hostInf.hostAddr ret, .close t.hostInf.hostSocket l.answers])
      (hcount : t.connCount = s.connCount) (hnext : t.appSt = .connectBegin)
  | fetched (hstate : s.appSt = .connectServer) (hok : (s.begun l.answers).1 = webCliOk)
      (hinfo : t.hostInf = (s.begun l.answers).2.1) (ret : Int16)
      (htrace : t.trace = s.trace ++ [.beginIP l.answers,
        .connect t.hostInf.hostSocket t.hostInf.hostAddr ret,
        .sendRequest t.hostInf.hostSocket l.sendRequest, .close t.hostInf.hostSocket l.answers])
      (hnext : if s.connCount > 29 then t.appSt = .connectBegin ∧ t.connCount = 0
        else t.appSt = .connectServer ∧ t.connCount = s.connCount + 1 ∧ t.ip = s.ip)

/-- What the request leaves alone, and the calls it adds. -/
theorem fetch_spec {s t : HttpGet} {l : LoopTurn} (h : s.fetch l = some t) :
    t.trace = s.trace ++ [.sendRequest s.hostInf.hostSocket l.sendRequest,
        .close s.hostInf.hostSocket l.answers] ∧
      t.hostInf = s.hostInf ∧ t.appSt = s.appSt ∧ t.connCount = s.connCount ∧ t.ip = s.ip := by
  rw [HttpGet.fetch] at h
  split at h
  · obtain rfl := Option.some.inj h
    exact ⟨rfl, rfl, rfl, rfl, rfl⟩
  · split at h
    · cases h
    · obtain rfl := Option.some.inj h
      exact ⟨rfl, rfl, rfl, rfl, rfl⟩

/-- A look-up that succeeds has an address. -/
theorem webClientGetHostIP_ok {url_link : List UInt8} {a : Answers}
    (h : (webClientGetHostIP url_link a).1 = webCliOk) (ip : List UInt8) :
    webClientGetHostIP url_link a = (webCliOk, some ((webClientGetHostIP url_link a).2.getD ip)) := by
  have hname : webCliHostStrFail ≠ webCliOk := by decide
  have hip : webCliHostIpFail ≠ webCliOk := by decide
  rw [webClientGetHostIP] at h ⊢
  split at h
  · exact absurd h hname
  · split at h
    · exact absurd h hip
    · next hfound => rw [if_neg hfound]; rfl

theorem looped_of_turn {url_link : List UInt8} {s t : HttpGet} {l : LoopTurn}
    (h : s.turn url_link l = some t) : Looped url_link s l t := by
  rw [HttpGet.turn] at h
  split at h
  swap
  · exact .idle (Option.some.inj h).symm
  cases hstate : s.appSt with
  | connectBegin =>
    rw [hstate] at h
    dsimp only at h
    split at h
    · obtain rfl := Option.some.inj h
      refine .lookup hstate rfl rfl rfl ?_
      intro hnext
      cases hnext
    · next hok =>
      obtain rfl := Option.some.inj h
      refine .lookup hstate rfl rfl rfl ?_
      intro _
      exact webClientGetHostIP_ok (Decidable.not_not.mp hok) _
  | connectServer =>
    have hbegin : webClientBeginIP (s.ip.getD 0 0) (s.ip.getD 1 0) (s.ip.getD 2 0)
        (s.ip.getD 3 0) 80 l.answers = s.begun l.answers := rfl
    rw [hstate, hbegin] at h
    cases hbegun : s.begun l.answers with
    | mk ret rest =>
      obtain ⟨info, ops⟩ := rest
      rw [hbegun] at h
      dsimp only at h
      have hinfo : info = (s.begun l.answers).2.1 := by rw [hbegun]
      split at h
      · obtain rfl := Option.some.inj h
        exact .noSocket hstate hinfo (by simp) rfl rfl
      · next hok =>
        have hok' : (s.begun l.answers).1 = webCliOk := by
          rw [hbegun]
          exact Decidable.not_not.mp hok
        split at h
        · obtain rfl := Option.some.inj h
          exact .refused hstate hok' hinfo _ (by simp; rfl) rfl rfl
        · split at h
          · next hmany =>
            obtain ⟨htrace, hkept, hnext, hcount, -⟩ := fetch_spec h
            refine .fetched hstate hok' (hkept.trans hinfo) (webClientConnect l.connect) ?_ ?_
            · rw [htrace, hkept]
              simp
            · rw [if_pos hmany]
              exact ⟨hnext, hcount⟩
          · next hmany =>
            obtain ⟨htrace, hkept, hnext, hcount, hip⟩ := fetch_spec h
            refine .fetched hstate hok' (hkept.trans hinfo) (webClientConnect l.connect) ?_ ?_
            · rw [htrace, hkept]
              simp
            · rw [if_neg hmany]
              exact ⟨hnext, hcount, hip⟩

/-! The addresses. -/

/-- A call that is no look-up and no connection. -/
def GetCall.Aside : GetCall → Prop
  | beginIP _ => True
  | sendRequest .. => True
  | close .. => True
  | _ => False

theorem lookedUp_aside (trace : List GetCall) {call : GetCall} (h : call.Aside) :
    lookedUp (trace ++ [call]) = lookedUp trace := by
  rw [lookedUp, List.foldl_append]
  cases call with
  | getHostIP | connect => exact h.elim
  | beginIP | sendRequest | close => rfl

theorem connectsSince_aside (trace : List GetCall) {call : GetCall} (h : call.Aside) :
    connectsSince (trace ++ [call]) = connectsSince trace := by
  rw [connectsSince, List.foldl_append]
  cases call with
  | getHostIP | connect => exact h.elim
  | beginIP | sendRequest | close => rfl

/-- A call behind the trace is the only one that is new. -/
theorem ConnectsRight.snoc {trace : List GetCall} (h : ConnectsRight trace) {call : GetCall}
    (hcall : ∀ socket addr ret, call = .connect socket addr ret →
      ∃ ip, lookedUp trace = some ip ∧ addr = .host 80 ip) : ConnectsRight (trace ++ [call]) := by
  intro pre socket addr ret post hsplit
  rcases List.eq_nil_or_concat post with rfl | ⟨post', last, rfl⟩
  · obtain ⟨rfl, hlast⟩ := List.append_inj' hsplit rfl
    exact hcall socket addr ret (List.cons.inj hlast).1
  · have hshort : trace = pre ++ .connect socket addr ret :: post' := by
      rw [List.concat_eq_append, ← List.cons_append, ← List.append_assoc] at hsplit
      exact (List.append_inj' hsplit rfl).1
    exact h pre socket addr ret post' hshort

theorem ConnectsRight.aside {trace : List GetCall} (h : ConnectsRight trace) {call : GetCall}
    (hcall : call.Aside) : ConnectsRight (trace ++ [call]) := by
  apply h.snoc
  rintro socket addr ret rfl
  exact hcall.elim

/-- A `Host_Info` that was begun has the address it was begun with. -/
theorem begun_address {s : HttpGet} {a : Answers} (hlength : s.ip.length = 4)
    (hok : (s.begun a).1 = webCliOk) : (s.begun a).2.1.hostAddr = .host 80 s.ip := by
  have hip : [s.ip.getD 0 0, s.ip.getD 1 0, s.ip.getD 2 0, s.ip.getD 3 0] = s.ip := by
    obtain ⟨i, j, k, l, hs⟩ := List.length_eq_four.mp hlength
    rw [hs]
    rfl
  have hsocket : webCliGetSocketFail ≠ webCliOk := by decide
  have hoption : webCliSetSocketToFail ≠ webCliOk := by decide
  rw [HttpGet.begun, webClientBeginIP, hip, webClientOpen] at hok ⊢
  split at hok
  · exact absurd hok hsocket
  · split at hok
    · exact absurd hok hoption
    · next hopen hset => rw [if_neg hopen, if_neg hset]

/-- What the sketch keeps of the address: it connects only behind a look-up, and counts
its connections. -/
structure Addressed (s : HttpGet) : Prop where
  right : ConnectsRight s.trace
  count : s.connCount.toNat ≤ 30
  since : connectsSince s.trace ≤ s.connCount.toNat ∨
    s.appSt = .connectBegin ∧ connectsSince s.trace ≤ 31
  address : s.appSt = .connectServer → lookedUp s.trace = some s.ip ∧ s.ip.length = 4

theorem Addressed.turn {url_link : List UInt8} {s t : HttpGet} {l : LoopTurn} (hs : Addressed s)
    (h : s.turn url_link l = some t) : Addressed t := by
  have hbegin : (GetCall.beginIP l.answers).Aside := trivial
  have hsend : ∀ socket, (GetCall.sendRequest socket l.sendRequest).Aside := fun _ => trivial
  have hclose : ∀ socket, (GetCall.close socket l.answers).Aside := fun _ => trivial
  -- a connection behind `begun` goes where the last look-up says
  have hconnect : s.appSt = .connectServer → (s.begun l.answers).1 = webCliOk →
      t.hostInf = (s.begun l.answers).2.1 → ∀ ret,
      ConnectsRight (s.trace ++ [.beginIP l.answers] ++
        [.connect t.hostInf.hostSocket t.hostInf.hostAddr ret]) := by
    intro hstate hok hinfo ret
    obtain ⟨hlooked, hlength⟩ := hs.address hstate
    apply (hs.right.aside hbegin).snoc
    rintro socket addr ret' heq
    obtain ⟨-, rfl, -⟩ := GetCall.connect.inj heq
    refine ⟨s.ip, ?_, ?_⟩
    · rw [lookedUp_aside _ hbegin, hlooked]
    · rw [hinfo, begun_address hlength hok]
  have hconnects : ∀ socket addr ret, connectsSince (s.trace ++ [.beginIP l.answers] ++
      [.connect socket addr ret]) = connectsSince s.trace + 1 := by
    intro socket addr ret
    rw [← connectsSince_aside s.trace hbegin]
    conv_lhs => rw [connectsSince, List.foldl_append]
    rfl
  have hcountSince : s.appSt = .connectServer → connectsSince s.trace ≤ s.connCount.toNat := by
    intro hstate
    rcases hs.since with hsince | ⟨hbegin, -⟩
    · exact hsince
    · rw [hstate] at hbegin
      cases hbegin
  cases looped_of_turn h with
  | idle hsame =>
    rw [hsame]
    exact hs
  | lookup hstate htrace hcount hinfo hnext =>
    have hafter : connectsSince t.trace =
        if (webClientGetHostIP url_link l.answers).1 = 0 then 0 else connectsSince s.trace := by
      rw [htrace]
      conv_lhs => rw [connectsSince, List.foldl_append]
      rfl
    refine ⟨?_, ?_, ?_, ?_⟩
    · rw [htrace]
      apply hs.right.snoc
      intro socket addr ret heq
      cases heq
    · rw [hcount]
      exact hs.count
    · by_cases hserver : t.appSt = .connectServer
      · left
        rw [hafter, hnext hserver, if_pos rfl]
        exact Nat.zero_le _
      · have hbegin : t.appSt = .connectBegin := by
          cases hstate' : t.appSt with
          | connectBegin => rfl
          | connectServer => exact absurd hstate' hserver
        right
        refine ⟨hbegin, ?_⟩
        have hcount30 := hs.count
        rw [hafter]
        split
        · exact Nat.zero_le _
        · rcases hs.since with hsince | ⟨-, hsince⟩ <;> omega
    · intro hserver
      have hlooked := hnext hserver
      refine ⟨?_, ?_⟩
      · rw [htrace, hlooked]
        conv_lhs => rw [lookedUp, List.foldl_append]
        rfl
      · rw [webClientGetHostIP] at hlooked
        split at hlooked
        · cases hlooked
        · split at hlooked
          · cases hlooked
          · obtain ⟨-, hip⟩ := Prod.mk.inj hlooked
            rw [← Option.some.inj hip]
            rfl
  | noSocket hstate hinfo htrace hcount hip =>
    obtain ⟨hlooked, hlength⟩ := hs.address hstate
    have hsplit : t.trace = s.trace ++ [.beginIP l.answers] ++
        [.close t.hostInf.hostSocket l.answers] := by
      rw [htrace, List.append_assoc]
      rfl
    refine ⟨?_, ?_, .inl ?_, ?_⟩
    · rw [hsplit]
      exact (hs.right.aside hbegin).aside (hclose _)
    · rw [hcount]
      exact hs.count
    · rw [hsplit, connectsSince_aside _ (hclose _), connectsSince_aside _ hbegin, hcount]
      exact hcountSince hstate
    · intro _
      rw [hsplit, lookedUp_aside _ (hclose _), lookedUp_aside _ hbegin, hip]
      exact ⟨hlooked, hlength⟩
  | refused hstate hok hinfo ret htrace hcount hnext =>
    have hsplit : t.trace = s.trace ++ [.beginIP l.answers] ++
        [.connect t.hostInf.hostSocket t.hostInf.hostAddr ret] ++
        [.close t.hostInf.hostSocket l.answers] := by
      rw [htrace]
      simp only [List.append_assoc, List.cons_append, List.nil_append]
    have hsince := hcountSince hstate
    have hcount30 := hs.count
    refine ⟨?_, ?_, .inr ⟨hnext, ?_⟩, ?_⟩
    · rw [hsplit]
      exact (hconnect hstate hok hinfo ret).aside (hclose _)
    · rw [hcount]
      exact hcount30
    · rw [hsplit, connectsSince_aside _ (hclose _), hconnects]
      omega
    · intro hserver
      rw [hnext] at hserver
      cases hserver
  | fetched hstate hok hinfo ret htrace hnext =>
    have hsplit : t.trace = s.trace ++ [.beginIP l.answers] ++
        [.connect t.hostInf.hostSocket t.hostInf.hostAddr ret] ++
        [.sendRequest t.hostInf.hostSocket l.sendRequest] ++
        [.close t.hostInf.hostSocket l.answers] := by
      rw [htrace]
      simp only [List.append_assoc, List.cons_append, List.nil_append]
    have hright : ConnectsRight t.trace := by
      rw [hsplit]
      exact ((hconnect hstate hok hinfo ret).aside (hsend _)).aside (hclose _)
    have hsince : connectsSince t.trace ≤ s.connCount.toNat + 1 := by
      rw [hsplit, connectsSince_aside _ (hclose _), connectsSince_aside _ (hsend _), hconnects]
      exact Nat.succ_le_succ (hcountSince hstate)
    have hcount30 := hs.count
    by_cases hmany : s.connCount > 29
    · rw [if_pos hmany] at hnext
      obtain ⟨hbegun, hcount⟩ := hnext
      refine ⟨hright, ?_, .inr ⟨hbegun, by omega⟩, ?_⟩
      · rw [hcount]
        exact Nat.zero_le _
      · intro hserver
        rw [hbegun] at hserver
        cases hserver
    · rw [if_neg hmany] at hnext
      obtain ⟨hserver, hcount, hip⟩ := hnext
      have hfew : s.connCount.toNat ≤ 29 := UInt8.le_iff_toNat_le.mp (UInt8.not_lt.mp hmany)
      have hone : t.connCount.toNat = s.connCount.toNat + 1 := by
        rw [hcount, UInt8.toNat_add]
        exact Nat.mod_eq_of_lt (Nat.lt_of_le_of_lt (Nat.succ_le_succ hfew) (by decide))
      obtain ⟨hlooked, hlength⟩ := hs.address hstate
      refine ⟨hright, by omega, .inl (by omega), ?_⟩
      intro _
      refine ⟨?_, ?_⟩
      · rw [hsplit, lookedUp_aside _ (hclose _), lookedUp_aside _ (hsend _), lookedUp,
          List.foldl_append]
        show lookedUp (s.trace ++ [.beginIP l.answers]) = some t.ip
        rw [lookedUp_aside _ hbegin, hlooked, hip]
      · rw [hip]
        exact hlength

theorem addressed_start : Addressed .start := by
  refine ⟨?_, by decide, .inl (Nat.le_refl 0), ?_⟩
  · intro pre socket addr ret post hsplit
    exact absurd (congrArg List.length hsplit) (by simp [HttpGet.start])
  · intro hserver
    cases hserver

/-- **Every connection is made where the last look-up says**, to port 80, and no more than
31 of them are made before the host is looked up again: in every run of the sketch, with
any answers of the device, and of the server up to a chunk that leaves a number open. -/
theorem addresses_of_run {url_link : List UInt8} {ls : List LoopTurn} {t : HttpGet}
    (h : Run (GetStep url_link) .start ls t) :
    ConnectsRight t.trace ∧ connectsSince t.trace ≤ 31 := by
  have haddressed : Addressed t := by
    apply h.invariant addressed_start
    intro s l u _ hs hstep
    exact hs.turn hstep
  refine ⟨haddressed.right, ?_⟩
  have hcount := haddressed.count
  rcases haddressed.since with hsince | ⟨-, hsince⟩ <;> omega

/-- A call at time `now`, with a device that hands out socket 0 and a server that sends a
number. -/
def tempTurn (now : UInt32) : LoopTurn :=
  ⟨now, now + 1700, now, .success 0, 0, 0,
    [⟨true, 9, tempField ++ ascii ['2', '5', '"'], now, now⟩,
      ⟨false, 0, [], now + 1600, now + 1600⟩]⟩

def getUrl : List UInt8 := ascii ['h', 't', 't', 'p', ':', '/', '/', 'h', '/']

/-- A look-up and two connections, with a number from each. -/
theorem addresses_temp :
    ∃ t, Run (GetStep getUrl) .start [tempTurn 1, tempTurn 2000, tempTurn 4000] t ∧
      t.printed = [25, 25] ∧ ConnectsRight t.trace ∧ connectsSince t.trace ≤ 31 := by
  have hend : (follow (HttpGet.turn getUrl) .start
      [tempTurn 1, tempTurn 2000, tempTurn 4000]).any (·.printed = [25, 25]) = true := by
    decide +kernel
  obtain ⟨t, ht, hprinted⟩ := (Option.any_eq_true _ _).mp hend
  have hrun := Run.of_follow ht
  exact ⟨t, hrun, of_decide_eq_true hprinted, addresses_of_run hrun⟩

/-! The socket. -/

/-- What a call does to descriptors. -/
def GetCall.ops : GetCall → List SocketOp
  | beginIP a => (webClientBeginIP 0 0 0 0 80 a).2.2
  | close socket a => (webClientClose ⟨socket, .zero⟩ a).2
  | _ => []

def HttpGet.ops (s : HttpGet) : List SocketOp := s.trace.flatMap GetCall.ops

/-- The sketch among the holders of sockets, between two calls of `loop`: it holds none. -/
def HttpGet.app (s : HttpGet) : App :=
  { ntp := .start
    returned := 0
    hosts := Function.update noHosts 0 s.hostInf
    begun := 0
    ops := s.ops }

/-- What is done to descriptors does not depend on the address. -/
theorem webClientOpen_ops (ip ip' : List UInt8) (port port' : UInt16) (a : Answers) :
    (webClientOpen ip port a).2.2 = (webClientOpen ip' port' a).2.2 := by
  rw [webClientOpen, webClientOpen]
  split
  · rfl
  · split <;> rfl

/-- A `Host_Info` that was not begun has no socket. -/
theorem begun_failed {s : HttpGet} {a : Answers} (h : (s.begun a).1 ≠ webCliOk) :
    (s.begun a).2.1.hostSocket < 0 := by
  have hnone : (-1 : Int32) < 0 := by decide
  rw [HttpGet.begun, webClientBeginIP, webClientOpen] at h ⊢
  split at h
  · next hopen => rw [if_pos hopen]; exact hnone
  · next hopen =>
    split at h
    · next hset => rw [if_neg hopen, if_pos hset]; exact hnone
    · exact absurd rfl h

/-- A connection is two calls that the account of the sockets permits. -/
theorem app_begun {s t : HttpGet} {l : LoopTurn} (hinfo : t.hostInf = (s.begun l.answers).2.1)
    (hops : t.ops = s.ops ++ (s.begun l.answers).2.2 ++ [.closed t.hostInf.hostSocket]) :
    Run (guarded KeepsSockets AppStep) s.app
      [.webClientBeginIP 0 (s.ip.getD 0 0) (s.ip.getD 1 0) (s.ip.getD 2 0) (s.ip.getD 3 0) 80
        l.answers, .webClientClose 0 l.answers] t.app := by
  let begun := s.app.next (.webClientBeginIP 0 (s.ip.getD 0 0) (s.ip.getD 1 0) (s.ip.getD 2 0)
    (s.ip.getD 3 0) 80 l.answers)
  have hhost : begun.hosts 0 = t.hostInf := by
    show Function.update s.app.hosts 0 (s.begun l.answers).2.1 0 = _
    rw [Function.update_self, hinfo]
  have hbegun : begun.begun = if (s.begun l.answers).1 = webCliOk then {0} else 0 := rfl
  refine .cons ⟨trivial, Multiset.notMem_zero 0, rfl⟩ (.single (s := begun) ⟨trivial, ?_, ?_⟩)
  · by_cases hok : (s.begun l.answers).1 = webCliOk
    · left
      rw [hbegun, if_pos hok]
      exact Multiset.mem_singleton_self 0
    · right
      rw [hhost, hinfo]
      exact begun_failed hok
  · have hnone : begun.begun.erase 0 = 0 := by
      rw [hbegun]
      split
      · exact Multiset.erase_singleton 0
      · exact Multiset.erase_of_notMem (Multiset.notMem_zero 0)
    have hhosts : begun.hosts = Function.update noHosts 0 t.hostInf := by
      show Function.update (Function.update noHosts 0 s.hostInf) 0 (s.begun l.answers).2.1 = _
      rw [Function.update_idem, hinfo]
    rw [App.next, hnone, hhost, hhosts, HttpGet.app, hops]
    rfl

/-- A call of `loop` is a run of the account. -/
theorem turn_getApp {url_link : List UInt8} {s t : HttpGet} {l : LoopTurn}
    (h : s.turn url_link l = some t) :
    ∃ cs, Run (guarded KeepsSockets AppStep) s.app cs t.app := by
  have happend : ∀ calls, t.trace = s.trace ++ calls →
      t.ops = s.ops ++ calls.flatMap GetCall.ops := by
    intro calls htrace
    rw [HttpGet.ops, htrace, List.flatMap_append]
    rfl
  have hops : (s.begun l.answers).2.2 = (webClientBeginIP 0 0 0 0 80 l.answers).2.2 :=
    webClientOpen_ops ..
  cases looped_of_turn h with
  | idle hsame =>
    rw [hsame]
    exact ⟨[], .nil _⟩
  | lookup hstate htrace hcount hinfo hnext =>
    have hsame : t.app = s.app := by
      rw [HttpGet.app, HttpGet.app, hinfo, happend _ htrace]
      exact congrArg _ (List.append_nil _)
    rw [hsame]
    exact ⟨[], .nil _⟩
  | noSocket hstate hinfo htrace hcount hip =>
    refine ⟨_, app_begun hinfo ?_⟩
    rw [happend _ htrace, hops, List.append_assoc]
    rfl
  | refused hstate hok hinfo ret htrace hcount hnext =>
    refine ⟨_, app_begun hinfo ?_⟩
    rw [happend _ htrace, hops, List.append_assoc]
    rfl
  | fetched hstate hok hinfo ret htrace hnext =>
    refine ⟨_, app_begun hinfo ?_⟩
    rw [happend _ htrace, hops, List.append_assoc]
    rfl

/-- **The client leaks no socket.** In every run of the sketch no socket is open
between two calls of `loop`, however the last one ended; and if the device hands out no
descriptor that is still open, none is closed twice. -/
theorem noSocket_of_run {url_link : List UInt8} {ls : List LoopTurn} {t : HttpGet}
    (h : Run (GetStep url_link) .start ls t) :
    openSockets t.ops = 0 ∧ (Fresh 0 (ledger t.ops) → ClosedOnce t.ops) := by
  have haccount : Accounted t.app := by
    have hstart : Accounted HttpGet.start.app := ⟨rfl, trivial⟩
    apply h.invariant (P := fun s => Accounted s.app) hstart
    intro s l u _ hs hstep
    obtain ⟨cs, hrun⟩ := turn_getApp hstep
    apply hrun.invariant hs
    intro a c b _ ha hcall
    exact ha.step hcall
  have hnone : Ntp.start.ntpSocket < 0 := by decide
  have hntp : descriptor t.app.ntp.ntpSocket = 0 := descriptor_of_neg hnone
  refine ⟨?_, haccount.closedOnce⟩
  calc openSockets t.ops = t.app.held := haccount.held
    _ = 0 := by
      rw [App.held, hntp]
      rfl

/-- A look-up and a connection that is closed. -/
theorem noSocket_temp :
    ∃ t, Run (GetStep getUrl) .start [tempTurn 1, tempTurn 2000] t ∧
      openSockets t.ops = 0 ∧ (Fresh 0 (ledger t.ops) → ClosedOnce t.ops) := by
  have hsome : (follow (HttpGet.turn getUrl) .start
      [tempTurn 1, tempTurn 2000]).isSome = true := by decide +kernel
  obtain ⟨t, ht⟩ := Option.isSome_iff_exists.mp hsome
  have hrun := Run.of_follow ht
  exact ⟨t, hrun, noSocket_of_run hrun⟩

end SpiderL3S
