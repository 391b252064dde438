import SpiderL3S.Lib.Ledger
import SpiderL3S.Web.Request
import SpiderL3S.App.Ntp

/- Who holds the device's sockets. `WebServer.c` and `WebClient.c` open sockets
   as `NTP.c` does, and each hands its socket to another kind of holder: what it
   returns, a `Host_Info` of the sketch, or a static. `AppStep` is one call of
   the sketch, with any answers of the device; the sketch closes a `Host_Info`
   before it uses it again, and what was returned to it once. What the calls have
   done to descriptors is a ledger (`ledger`), and the holders are to account for
   everything that is outstanding in it (`App.held`).

   They do in every run in which `NTP_begin` gets to `socket` only without a
   socket of its own, and the statuses that pass through an `int` survive it
   (`noLeak_of_run`): `NTP_begin` overwrites `ntp_socket` and closes nothing. -/
namespace SpiderL3S

open Runs Ledger CString

/-! `WebServer.c`. -/

/-- `WebServer_begin`. The descriptor passes through an `int`. -/
def webServerBegin (a : Answers) : Int16 × List SocketOp :=
  let httpd := a.socket.toInt16
  if httpd < 0 then (-1, openedBy a.socket)
  else if a.setsockoptRet < 0 then (-1, openedBy a.socket ++ [.closed httpd.toInt32])
  else if a.bind < 0 then (-2, openedBy a.socket ++ [.closed httpd.toInt32])
  else if a.listen < 0 then (-3, openedBy a.socket ++ [.closed httpd.toInt32])
  else (httpd, openedBy a.socket)

/-- `WebServer_wait_connect`. -/
def webServerWaitConnect (a : Answers) : Int16 × List SocketOp :=
  let client_sock := (acceptRet a.accept).toInt16
  if client_sock < 0 then (client_sock, openedBy a.accept)
  else if a.setsockoptRet < 0 then (-1, openedBy a.accept ++ [.closed client_sock.toInt32])
  else (client_sock, openedBy a.accept)

/-- `WebServer_close`. -/
def webServerClose (server_socket : Int16) (a : Answers) : Int16 × List SocketOp :=
  (a.closesocket.toInt16, [.closed server_socket.toInt32])

/-- `WebServer_close_connect`. -/
def webServerCloseConnect (socket : Int16) (a : Answers) : Int16 × List SocketOp :=
  (a.closesocket.toInt16, [.closed socket.toInt32])

/-! `WebClient.c`. -/

structure HostInfo where
  hostSocket : Int32
  hostAddr : Sockaddr
  deriving DecidableEq, Repr

abbrev webCliOk : Int16 := 0
abbrev webCliError : Int16 := -1
abbrev webCliHostStrFail : Int16 := -2
abbrev webCliHostIpFail : Int16 := -3
abbrev webCliGetSocketFail : Int16 := -4
abbrev webCliSetSocketToFail : Int16 := -5
abbrev defaultWebPort : UInt16 := 80

/-- Between `"http://"` and the next `/`. -/
def hostName (url_link : List UInt8) : Option (List UInt8) := do
  let sp1 := (← strstr url_link (ascii ['h', 't', 't', 'p', ':', '/', '/'])).drop 7
  let sp2 ← strstr sp1 (ascii ['/'])
  return sp1.take (sp1.length - sp2.length)

/-- What both functions do from `socket` on: the result, the `Host_Info`, and what
has been done to descriptors. -/
def webClientOpen (ip : List UInt8) (port : UInt16) (a : Answers) :
    Int16 × HostInfo × List SocketOp :=
  if a.socket < 0 then (webCliGetSocketFail, ⟨-1, .zero⟩, [])
  else if a.setsockoptRet < 0 then
    (webCliSetSocketToFail, ⟨-1, .zero⟩, [.opened a.socket, .closed a.socket])
  else (webCliOk, ⟨a.socket, .host port ip⟩, [.opened a.socket])

/-- `WebClient_Begin_URL`. -/
def webClientBeginURL (url_link : List UInt8) (a : Answers) : Int16 × HostInfo × List SocketOp :=
  match hostName url_link with
  | none => (webCliHostStrFail, ⟨-1, .zero⟩, [])
  | some name =>
    if a.gethostbynameRet (UInt16.ofNat name.length) < 0 then
      (webCliHostIpFail, ⟨-1, .zero⟩, [])
    else webClientOpen (addressBytes a.outputAddress) defaultWebPort a

/-- `WebClient_Begin_IP`. -/
def webClientBeginIP (ip1 ip2 ip3 ip4 : UInt8) (port : UInt16) (a : Answers) :
    Int16 × HostInfo × List SocketOp :=
  webClientOpen [ip1, ip2, ip3, ip4] port a

/-- `WebClient_Close`. The `Host_Info` is left as it is. -/
def webClientClose (info : HostInfo) (a : Answers) : Int16 × List SocketOp :=
  (if a.closesocket ≠ 0 then webCliError else webCliOk, [.closed info.hostSocket])

/-! The sketch. -/

/-- A call, with the device's answers in it. A `Host_Info` of the sketch goes by
a number. -/
inductive AppCall where
  | ntpBegin (Loc_GMT : Int16) (ServerAddr : List UInt8) (a : Answers)
  | webServerBegin (a : Answers)
  | webServerWaitConnect (a : Answers)
  | webServerClose (server_socket : Int16) (a : Answers)
  | webServerCloseConnect (socket : Int16) (a : Answers)
  | webClientBeginURL (info : Nat) (url_link : List UInt8) (a : Answers)
  | webClientBeginIP (info : Nat) (ip1 ip2 ip3 ip4 : UInt8) (port : UInt16) (a : Answers)
  | webClientClose (info : Nat) (a : Answers)

/-- The holders: the statics of `NTP.c`, the descriptors that were returned and
not closed, and the `Host_Info`s with those that were begun and not closed. `ops`
is what has been done to descriptors so far. -/
structure App where
  ntp : Ntp
  returned : Multiset Int16
  hosts : Nat → HostInfo
  begun : Multiset Nat
  ops : List SocketOp

/-- Before the first call. Nothing is known of the `Host_Info`s. -/
def App.start (hosts : Nat → HostInfo) : App := ⟨.start, 0, hosts, 0, []⟩

/-- The sketch takes what `WebServer_begin` or `WebServer_wait_connect` returns. -/
def App.takes (s : App) (r : Int16 × List SocketOp) : App :=
  { s with
    returned := if 0 ≤ r.1 then r.1 ::ₘ s.returned else s.returned
    ops := s.ops ++ r.2 }

/-- It closes a descriptor that was returned to it. -/
def App.closes (s : App) (sd : Int16) (r : Int16 × List SocketOp) : App :=
  { s with returned := s.returned.erase sd, ops := s.ops ++ r.2 }

/-- It begins a `Host_Info`. -/
def App.begins (s : App) (info : Nat) (r : Int16 × HostInfo × List SocketOp) : App :=
  { s with
    hosts := Function.update s.hosts info r.2.1
    begun := if r.1 = webCliOk then info ::ₘ s.begun else s.begun
    ops := s.ops ++ r.2.2 }

def App.next (s : App) : AppCall → App
  | .ntpBegin Loc_GMT ServerAddr a =>
    let r := SpiderL3S.ntpBegin s.ntp Loc_GMT ServerAddr a
    { s with ntp := r.2.1, ops := s.ops ++ r.2.2 }
  | .webServerBegin a => s.takes (SpiderL3S.webServerBegin a)
  | .webServerWaitConnect a => s.takes (SpiderL3S.webServerWaitConnect a)
  | .webServerClose sd a => s.closes sd (SpiderL3S.webServerClose sd a)
  | .webServerCloseConnect sd a => s.closes sd (SpiderL3S.webServerCloseConnect sd a)
  | .webClientBeginURL info url_link a =>
    s.begins info (SpiderL3S.webClientBeginURL url_link a)
  | .webClientBeginIP info ip1 ip2 ip3 ip4 port a =>
    s.begins info (SpiderL3S.webClientBeginIP ip1 ip2 ip3 ip4 port a)
  | .webClientClose info a =>
    { s with
      begun := s.begun.erase info
      ops := s.ops ++ (SpiderL3S.webClientClose (s.hosts info) a).2 }

/-- What the sketch keeps to: it closes what it has been returned and a
`Host_Info` that it has begun, or a number that is no descriptor, and begins a
`Host_Info` that is not in use. -/
def App.Permits (s : App) : AppCall → Prop
  | .webServerClose sd _ => sd ∈ s.returned ∨ sd < 0
  | .webServerCloseConnect sd _ => sd ∈ s.returned ∨ sd < 0
  | .webClientBeginURL info _ _ => info ∉ s.begun
  | .webClientBeginIP info _ _ _ _ _ _ => info ∉ s.begun
  | .webClientClose info _ => info ∈ s.begun ∨ (s.hosts info).hostSocket < 0
  | _ => True

def AppStep (s : App) (c : AppCall) (t : App) : Prop := s.Permits c ∧ t = s.next c

/-! The account. -/

/-- What an operation enters; a negative number is no descriptor. -/
def SocketOp.entry : SocketOp → Option (Entry Int32)
  | .opened sd => if 0 ≤ sd then some (.acquired sd) else none
  | .closed sd => if 0 ≤ sd then some (.released sd) else none

def ledger (ops : List SocketOp) : List (Entry Int32) := ops.filterMap SocketOp.entry

/-- The descriptors the device has opened and the host has not asked to close. -/
def openSockets (ops : List SocketOp) : Multiset Int32 := outstanding 0 (ledger ops)

/-- The descriptor a number is, if it is one. -/
def descriptor (sd : Int32) : Multiset Int32 := if 0 ≤ sd then {sd} else 0

/-- What the holders hold. -/
def App.held (s : App) : Multiset Int32 :=
  descriptor s.ntp.ntpSocket + s.returned.map Int16.toInt32 +
    s.begun.map fun info => (s.hosts info).hostSocket

/-- A descriptor has a holder. -/
def App.Holds (s : App) (sd : Int32) : Prop :=
  (∃ ret ∈ s.returned, ret.toInt32 = sd) ∨ (∃ info ∈ s.begun, (s.hosts info).hostSocket = sd) ∨
    s.ntp.ntpSocket = sd

/-- No descriptor is closed twice without being opened in between. -/
def ClosedOnce (ops : List SocketOp) : Prop :=
  ∀ (sd : Int32) (pre mid post : List SocketOp), 0 ≤ sd →
    ops = pre ++ .closed sd :: (mid ++ .closed sd :: post) → .opened sd ∈ mid

/-- An `int` keeps the status: a descriptor is itself in it, and an error is one. -/
def Fits (status : Int32) : Prop :=
  if 0 ≤ status then status.toInt16.toInt32 = status else status.toInt16 < 0

instance (status : Int32) : Decidable (Fits status) :=
  inferInstanceAs
    (Decidable (if 0 ≤ status then status.toInt16.toInt32 = status else status.toInt16 < 0))

/-- The call loses no descriptor: `NTP_begin` does not get to `socket` while it has
one, and an `int` keeps what `WebServer.c` passes through it. -/
def KeepsSockets (s : App) : AppCall → Prop
  | .ntpBegin _ ServerAddr a =>
    a.gethostbynameRet (UInt16.ofNat ServerAddr.length) < 0 ∨ s.ntp.ntpSocket < 0
  | .webServerBegin a => Fits a.socket
  | .webServerWaitConnect a => Fits a.accept
  | _ => True

/-- The operations take one account to the other, and close only what is open. -/
def Settles (held : Multiset Int32) (ops : List SocketOp) (held' : Multiset Int32) : Prop :=
  Covered held (ledger ops) ∧ outstanding held (ledger ops) = held'

theorem ledger_append (ops ops' : List SocketOp) :
    ledger (ops ++ ops') = ledger ops ++ ledger ops' := List.filterMap_append

theorem settles_nil (held : Multiset Int32) : Settles held [] held := ⟨trivial, rfl⟩

theorem settles_closed {held : Multiset Int32} {sd : Int32} (hsd : 0 ≤ sd) (hmem : sd ∈ held) :
    Settles held [.closed sd] (held.erase sd) := by
  have hledger : ledger [.closed sd] = [.released sd] := by
    simp [ledger, SocketOp.entry, hsd]
  rw [Settles, hledger]
  exact ⟨⟨hmem, trivial⟩, rfl⟩

/-- A number that is no descriptor closes nothing. -/
theorem settles_closed_neg (held : Multiset Int32) {sd : Int32} (hsd : sd < 0) :
    Settles held [.closed sd] held := by
  have hledger : ledger [.closed sd] = [] := by
    simp [ledger, SocketOp.entry, Int32.not_le.mpr hsd]
  rw [Settles, hledger]
  exact ⟨trivial, rfl⟩

/-- The ways through a function that opens a socket: the device refuses it, a call
behind it fails, or the descriptor is handed to its holder. -/
inductive OpenPath : Multiset Int32 → List SocketOp → Prop where
  | refused : OpenPath 0 []
  | undone {sd : Int32} (hsd : 0 ≤ sd) : OpenPath 0 [.opened sd, .closed sd]
  | handed {sd : Int32} (hsd : 0 ≤ sd) : OpenPath {sd} [.opened sd]

theorem OpenPath.settles {handed : Multiset Int32} {ops : List SocketOp}
    (h : OpenPath handed ops) (held : Multiset Int32) : Settles held ops (handed + held) := by
  cases h with
  | refused =>
    rw [Multiset.zero_add]
    exact settles_nil held
  | @undone sd hsd =>
    have hledger : ledger [.opened sd, .closed sd] = [.acquired sd, .released sd] := by
      simp [ledger, SocketOp.entry, hsd]
    rw [Settles, hledger]
    refine ⟨⟨Multiset.mem_cons_self sd held, trivial⟩, ?_⟩
    show (sd ::ₘ held).erase sd = 0 + held
    rw [Multiset.erase_cons_head, Multiset.zero_add]
  | @handed sd hsd =>
    have hledger : ledger [.opened sd] = [.acquired sd] := by
      simp [ledger, SocketOp.entry, hsd]
    rw [Settles, hledger]
    exact ⟨trivial, (Multiset.singleton_add sd held).symm⟩

/-! The ways through the five functions. -/

theorem descriptor_of_neg {sd : Int32} (h : sd < 0) : descriptor sd = 0 :=
  if_neg (Int32.not_le.mpr h)

theorem descriptor_of_nonneg {sd : Int32} (h : 0 ≤ sd) : descriptor sd = {sd} := if_pos h

/-- `NTP_begin`, from `socket` on. -/
theorem ntpBegin_path (ntp : Ntp) (Loc_GMT : Int16) {ServerAddr : List UInt8} {a : Answers}
    (hname : ¬ a.gethostbynameRet (UInt16.ofNat ServerAddr.length) < 0) :
    OpenPath (descriptor (ntpBegin ntp Loc_GMT ServerAddr a).2.1.ntpSocket)
      (ntpBegin ntp Loc_GMT ServerAddr a).2.2 := by
  rw [ntpBegin, if_neg hname]
  split
  · exact .refused
  · next hsocket =>
    have hsd : 0 ≤ a.socket := Int32.not_lt.mp hsocket
    split
    · exact .undone hsd
    · show OpenPath (descriptor a.socket) [.opened a.socket]
      rw [descriptor_of_nonneg hsd]
      exact .handed hsd

/-- An `int` that is to hold a status, and what the device has opened with it. -/
theorem fits_cases {status : Int32} (h : Fits status) :
    (status.toInt16 < 0 ∧ openedBy status = []) ∨
      (0 ≤ status.toInt16 ∧ 0 ≤ status ∧ openedBy status = [.opened status] ∧
        status.toInt16.toInt32 = status) := by
  rw [Fits] at h
  split at h
  · next hsd =>
    right
    refine ⟨?_, hsd, if_pos hsd, h⟩
    rw [Int16.le_iff_toInt_le, ← Int16.toInt_toInt32 status.toInt16, h]
    exact Int32.le_iff_toInt_le.mp hsd
  · next hsd => exact .inl ⟨h, if_neg hsd⟩

/-- What a function that returns its descriptor hands over. -/
def returnedDescriptor (ret : Int16) : Multiset Int32 := if 0 ≤ ret then {ret.toInt32} else 0

theorem webServerBegin_path {a : Answers} (hfits : Fits a.socket) :
    OpenPath (returnedDescriptor (webServerBegin a).1) (webServerBegin a).2 := by
  rw [webServerBegin]
  rcases fits_cases hfits with ⟨hneg, hopened⟩ | ⟨hpos, hsd, hopened, hkept⟩
  · rw [if_pos hneg, hopened]
    exact .refused
  · rw [if_neg (Int16.not_lt.mpr hpos), hopened, hkept]
    split
    · exact .undone hsd
    · split
      · exact .undone hsd
      · split
        · exact .undone hsd
        · rw [returnedDescriptor, if_pos hpos, hkept]
          exact .handed hsd

theorem webServerWaitConnect_path {a : Answers} (hfits : Fits a.accept) :
    OpenPath (returnedDescriptor (webServerWaitConnect a).1) (webServerWaitConnect a).2 := by
  rw [webServerWaitConnect, acceptRet, Int16.toInt16_toInt32]
  rcases fits_cases hfits with ⟨hneg, hopened⟩ | ⟨hpos, hsd, hopened, hkept⟩
  · rw [if_pos hneg, hopened, returnedDescriptor, if_neg (Int16.not_le.mpr hneg)]
    exact .refused
  · rw [if_neg (Int16.not_lt.mpr hpos), hopened, hkept]
    split
    · exact .undone hsd
    · rw [returnedDescriptor, if_pos hpos, hkept]
      exact .handed hsd

/-- What a function that fills a `Host_Info` hands over. -/
def begunDescriptor (r : Int16 × HostInfo × List SocketOp) : Multiset Int32 :=
  if r.1 = webCliOk then {r.2.1.hostSocket} else 0

theorem webClientOpen_path (ip : List UInt8) (port : UInt16) (a : Answers) :
    OpenPath (begunDescriptor (webClientOpen ip port a)) (webClientOpen ip port a).2.2 := by
  rw [webClientOpen]
  split
  · exact .refused
  · next hsocket =>
    split
    · exact .undone (Int32.not_lt.mp hsocket)
    · exact .handed (Int32.not_lt.mp hsocket)

theorem webClientBeginURL_path (url_link : List UInt8) (a : Answers) :
    OpenPath (begunDescriptor (webClientBeginURL url_link a)) (webClientBeginURL url_link a).2.2 := by
  rw [webClientBeginURL]
  split
  · exact .refused
  · split
    · exact .refused
    · exact webClientOpen_path _ _ a

/-! The account of a run. -/

/-- The holders account for what is open, and nothing else was closed. -/
structure Accounted (s : App) : Prop where
  held : openSockets s.ops = s.held
  covered : Covered 0 (ledger s.ops)

theorem accounted_start (hosts : Nat → HostInfo) : Accounted (App.start hosts) := ⟨rfl, trivial⟩

/-- A call whose operations settle the account keeps it. -/
theorem Accounted.settle {s t : App} (h : Accounted s) {ops : List SocketOp}
    (hops : t.ops = s.ops ++ ops) (hsettles : Settles s.held ops t.held) : Accounted t := by
  obtain ⟨hcovered, hheld⟩ := hsettles
  refine ⟨?_, ?_⟩
  · calc openSockets t.ops = outstanding (openSockets s.ops) (ledger ops) := by
          rw [openSockets, hops, ledger_append, outstanding_append, openSockets]
      _ = t.held := by rw [h.held, hheld]
  · rw [hops, ledger_append, covered_append]
    refine ⟨h.covered, ?_⟩
    show Covered (openSockets s.ops) (ledger ops)
    rw [h.held]
    exact hcovered

/-- What is held is a descriptor. -/
theorem Accounted.nonneg {s : App} (h : Accounted s) {sd : Int32} (hsd : sd ∈ s.held) :
    0 ≤ sd := by
  rw [← h.held, openSockets] at hsd
  obtain ⟨op, -, hop⟩ := List.mem_filterMap.mp
    ((mem_outstanding hsd).resolve_left (Multiset.notMem_zero sd))
  cases op with
  | opened sd' =>
    rw [SocketOp.entry] at hop
    split at hop
    · next hpos =>
      cases hop
      exact hpos
    · cases hop
  | closed sd' =>
    rw [SocketOp.entry] at hop
    split at hop <;> cases hop

theorem Accounted.ntpBegin {s : App} (h : Accounted s) (Loc_GMT : Int16)
    (ServerAddr : List UInt8) (a : Answers)
    (hkeep : KeepsSockets s (.ntpBegin Loc_GMT ServerAddr a)) :
    Accounted (s.next (.ntpBegin Loc_GMT ServerAddr a)) := by
  apply h.settle rfl
  by_cases hname : a.gethostbynameRet (UInt16.ofNat ServerAddr.length) < 0
  · have hsame : (SpiderL3S.ntpBegin s.ntp Loc_GMT ServerAddr a).2.1.ntpSocket = s.ntp.ntpSocket ∧
        (SpiderL3S.ntpBegin s.ntp Loc_GMT ServerAddr a).2.2 = [] := by
      rw [SpiderL3S.ntpBegin, if_pos hname]
      exact ⟨rfl, rfl⟩
    have hheld : (s.next (.ntpBegin Loc_GMT ServerAddr a)).held = s.held := by
      rw [App.held, App.held]
      show descriptor (SpiderL3S.ntpBegin s.ntp Loc_GMT ServerAddr a).2.1.ntpSocket + _ + _ = _
      rw [hsame.1]
      rfl
    rw [hheld, hsame.2]
    exact settles_nil s.held
  · -- the socket it gets is the only one it has then
    have hnone : descriptor s.ntp.ntpSocket = 0 := descriptor_of_neg (hkeep.resolve_left hname)
    have hpath := (ntpBegin_path s.ntp Loc_GMT hname).settles s.held
    rw [App.held, hnone, Multiset.zero_add, ← Multiset.add_assoc] at hpath
    rw [App.held, hnone, Multiset.zero_add]
    exact hpath

theorem Accounted.takes {s : App} (h : Accounted s) {r : Int16 × List SocketOp}
    (hpath : OpenPath (returnedDescriptor r.1) r.2) : Accounted (s.takes r) := by
  apply h.settle rfl
  have hheld : (s.takes r).held = returnedDescriptor r.1 + s.held := by
    rw [App.held, App.held, returnedDescriptor]
    show descriptor s.ntp.ntpSocket +
      (if 0 ≤ r.1 then r.1 ::ₘ s.returned else s.returned).map Int16.toInt32 + _ = _
    split
    · rw [Multiset.map_cons, Multiset.singleton_add, Multiset.add_cons, Multiset.cons_add]
      rfl
    · rw [Multiset.zero_add]
      rfl
  rw [hheld]
  exact hpath.settles s.held

theorem Accounted.closes {s : App} (h : Accounted s) {sd : Int16} {ret : Int16}
    (hpermit : sd ∈ s.returned ∨ sd < 0) :
    Accounted (s.closes sd (ret, [.closed sd.toInt32])) := by
  apply h.settle rfl
  by_cases hmem : sd ∈ s.returned
  · have hheld : sd.toInt32 ∈ s.held := by
      rw [App.held, Multiset.mem_add, Multiset.mem_add]
      exact .inl (.inr (Multiset.mem_map_of_mem _ hmem))
    have hrest : (s.closes sd (ret, [.closed sd.toInt32])).held = s.held.erase sd.toInt32 := by
      have hsplit : s.returned = sd ::ₘ s.returned.erase sd := (Multiset.cons_erase hmem).symm
      rw [App.held, App.held]
      show descriptor s.ntp.ntpSocket + (s.returned.erase sd).map Int16.toInt32 + _ = _
      conv_rhs => rw [hsplit, Multiset.map_cons, Multiset.add_cons, Multiset.cons_add,
        Multiset.erase_cons_head]
      rfl
    rw [hrest]
    exact settles_closed (h.nonneg hheld) hheld
  · have hneg : sd.toInt32 < 0 := by
      rw [Int32.lt_iff_toInt_lt, Int16.toInt_toInt32]
      exact Int16.lt_iff_toInt_lt.mp (hpermit.resolve_left hmem)
    have hrest : (s.closes sd (ret, [.closed sd.toInt32])).held = s.held := by
      rw [App.held, App.held]
      show _ + (s.returned.erase sd).map Int16.toInt32 + _ = _
      rw [Multiset.erase_of_notMem hmem]
      rfl
    rw [hrest]
    exact settles_closed_neg s.held hneg

theorem Accounted.begins {s : App} (h : Accounted s) {info : Nat}
    (hfree : info ∉ s.begun) {r : Int16 × HostInfo × List SocketOp}
    (hpath : OpenPath (begunDescriptor r) r.2.2) : Accounted (s.begins info r) := by
  apply h.settle rfl
  -- the `Host_Info`s in use are others
  have hothers : (s.begun.map fun i => (Function.update s.hosts info r.2.1 i).hostSocket) =
      s.begun.map fun i => (s.hosts i).hostSocket := by
    apply Multiset.map_congr rfl
    intro i hi
    rw [Function.update_of_ne (ne_of_mem_of_not_mem hi hfree)]
  have hheld : (s.begins info r).held = begunDescriptor r + s.held := by
    rw [App.held, App.held, begunDescriptor]
    show _ + Multiset.map (fun i => (Function.update s.hosts info r.2.1 i).hostSocket)
      (if r.1 = webCliOk then info ::ₘ s.begun else s.begun) = _
    split
    · rw [Multiset.map_cons, hothers, Function.update_self, Multiset.singleton_add,
        Multiset.add_cons]
      rfl
    · rw [hothers, Multiset.zero_add]
      rfl
  rw [hheld]
  exact hpath.settles s.held

theorem Accounted.webClientClose {s : App} (h : Accounted s) {info : Nat} (a : Answers)
    (hpermit : info ∈ s.begun ∨ (s.hosts info).hostSocket < 0) :
    Accounted (s.next (.webClientClose info a)) := by
  apply h.settle rfl
  by_cases hmem : info ∈ s.begun
  · have hheld : (s.hosts info).hostSocket ∈ s.held := by
      rw [App.held, Multiset.mem_add]
      exact .inr (Multiset.mem_map_of_mem _ hmem)
    have hrest : (s.next (.webClientClose info a)).held =
        s.held.erase (s.hosts info).hostSocket := by
      have hsplit : s.begun = info ::ₘ s.begun.erase info := (Multiset.cons_erase hmem).symm
      rw [App.held, App.held]
      show _ + (s.begun.erase info).map _ = _
      conv_rhs => rw [hsplit, Multiset.map_cons, Multiset.add_cons, Multiset.erase_cons_head]
      rfl
    rw [hrest]
    exact settles_closed (h.nonneg hheld) hheld
  · have hrest : (s.next (.webClientClose info a)).held = s.held := by
      rw [App.held, App.held]
      show _ + (s.begun.erase info).map _ = _
      rw [Multiset.erase_of_notMem hmem]
      rfl
    rw [hrest]
    exact settles_closed_neg s.held (hpermit.resolve_left hmem)

theorem Accounted.step {s t : App} {c : AppCall} (h : Accounted s)
    (hs : guarded KeepsSockets AppStep s c t) : Accounted t := by
  obtain ⟨hkeep, hpermit, rfl⟩ := hs
  cases c with
  | ntpBegin Loc_GMT ServerAddr a => exact h.ntpBegin Loc_GMT ServerAddr a hkeep
  | webServerBegin a => exact h.takes (webServerBegin_path hkeep)
  | webServerWaitConnect a => exact h.takes (webServerWaitConnect_path hkeep)
  | webServerClose sd a => exact h.closes hpermit
  | webServerCloseConnect sd a => exact h.closes hpermit
  | webClientBeginURL info url_link a => exact h.begins hpermit (webClientBeginURL_path url_link a)
  | webClientBeginIP info ip1 ip2 ip3 ip4 port a =>
    exact h.begins hpermit (webClientOpen_path [ip1, ip2, ip3, ip4] port a)
  | webClientClose info a => exact h.webClientClose a hpermit

theorem Accounted.holds {s : App} (h : Accounted s) {sd : Int32} (hsd : sd ∈ openSockets s.ops) :
    s.Holds sd := by
  rw [h.held, App.held, Multiset.mem_add, Multiset.mem_add] at hsd
  rcases hsd with (hntp | hreturned) | hbegun
  · right
    right
    rw [descriptor] at hntp
    split at hntp
    · exact (Multiset.mem_singleton.mp hntp).symm
    · exact absurd hntp (Multiset.notMem_zero sd)
  · exact .inl (Multiset.mem_map.mp hreturned)
  · exact .inr (.inl (Multiset.mem_map.mp hbegun))

theorem Accounted.closedOnce {s : App} (h : Accounted s) (hfresh : Fresh 0 (ledger s.ops)) :
    ClosedOnce s.ops := by
  intro sd pre mid post hsd hops
  have hclosed : SocketOp.entry (.closed sd) = some (.released sd) := if_pos hsd
  have hledger : ledger s.ops =
      ledger pre ++ .released sd :: (ledger mid ++ .released sd :: ledger post) := by
    rw [hops, ledger_append]
    simp only [ledger, List.filterMap_cons, hclosed, List.filterMap_append]
  have hcovered := h.covered
  rw [hledger] at hcovered hfresh
  obtain ⟨op, hop, hentry⟩ := List.mem_filterMap.mp (acquired_between hcovered hfresh)
  cases op with
  | opened sd' =>
    rw [SocketOp.entry] at hentry
    split at hentry
    · cases hentry
      exact hop
    · cases hentry
  | closed sd' =>
    rw [SocketOp.entry] at hentry
    split at hentry <;> cases hentry

/-- **No socket is leaked** in a run in which `NTP_begin` gets to `socket` only
without a socket of its own, and every status fits in the `int` it passes through.
If the device hands out no descriptor that is still open, none is closed twice. -/
theorem noLeak_of_run {hosts : Nat → HostInfo} {ls : List AppCall} {t : App}
    (h : Run (guarded KeepsSockets AppStep) (App.start hosts) ls t) :
    (∀ sd ∈ openSockets t.ops, t.Holds sd) ∧ (Fresh 0 (ledger t.ops) → ClosedOnce t.ops) := by
  have haccount : Accounted t := by
    apply h.invariant (accounted_start hosts)
    intro a l b _ ha hs
    exact ha.step hs
  refine ⟨?_, haccount.closedOnce⟩
  intro sd hsd
  exact haccount.holds hsd

/-- A sketch that has begun nothing. -/
def noHosts (_ : Nat) : HostInfo := ⟨-1, .zero⟩

/-- A clock, a server, and a client that comes and goes. -/
def session : List AppCall :=
  [.ntpBegin 8 [] (.success 0), .webServerBegin (.success 1),
    .webClientBeginIP 0 10 0 0 1 80 (.success 2), .webClientClose 0 (.success 0)]

theorem noLeak_session :
    (∀ sd ∈ openSockets (session.foldl App.next (App.start noHosts)).ops,
      (session.foldl App.next (App.start noHosts)).Holds sd) ∧
      (Fresh 0 (ledger (session.foldl App.next (App.start noHosts)).ops) →
        ClosedOnce (session.foldl App.next (App.start noHosts)).ops) := by
  have hrun : Run (guarded KeepsSockets AppStep) (App.start noHosts) session
      (session.foldl App.next (App.start noHosts)) :=
    .cons ⟨.inr (by decide), trivial, rfl⟩ (.cons ⟨show Fits 1 by decide, trivial, rfl⟩
      (.cons ⟨trivial, Multiset.notMem_zero 0, rfl⟩
        (.cons ⟨trivial, .inl (by decide), rfl⟩ (.nil _))))
  exact noLeak_of_run hrun

/-- **The clock leaks its socket.** `NTP_begin` called a second time leaves
descriptor 0 open, and nobody holds it. -/
theorem not_noLeak :
    ∃ t, Run AppStep (App.start noHosts)
        [.ntpBegin 8 [] (.success 0), .ntpBegin 8 [] (.success 1)] t ∧
      Fresh 0 (ledger t.ops) ∧ 0 ∈ openSockets t.ops ∧ ¬ t.Holds 0 := by
  refine ⟨_, .cons ⟨trivial, rfl⟩ (.cons ⟨trivial, rfl⟩ (.nil _)), ?_, ?_, ?_⟩
  · exact ⟨by decide, by decide, trivial⟩
  · decide
  · intro hholds
    rcases hholds with ⟨ret, hret, -⟩ | ⟨info, hinfo, -⟩ | hntp
    · exact Multiset.notMem_zero ret hret
    · exact Multiset.notMem_zero info hinfo
    · exact absurd hntp (by decide)

end SpiderL3S
