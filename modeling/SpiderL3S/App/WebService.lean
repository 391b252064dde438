import SpiderL3S.App.Leaks
import SpiderL3S.Web.Client

/- The server of `SimpleHttpServer.ino`. `WebService` runs one state of its machine each
   time it is called behind its timer: it opens the server, waits for a client, reads
   its request, answers it and closes the connection. `WebService.turn` is one call, with
   the device's answers and the readings of the clock in it; the calls it makes are
   kept, in order, in `trace`.

   Over it, `respond` says what the server is for: what a request is answered with, and
   what it leaves the output at. The main results are about every run in which no request
   carries credentials, for which the sketch has no room. The trace is a row of
   connections, each answered with `respond` and closed, and the part of one that is open
   (`serving_of_run`); and the sockets of the server and its client are the only ones
   open (`sockets_of_run`). -/
namespace SpiderL3S

open Runs Ledger CString

/-! The sketch. -/

inductive AppState where
  | initServer
  | waitConnect
  | handleRequest
  | handleGetResponse
  | handlePostResponse
  | handleBadResponse
  | closeClientConn
  deriving DecidableEq, Repr

/-- What the sketch does to the network. -/
inductive ServiceCall where
  | begin (a : Answers)
  | waitConnect (a : Answers)
  | processRequest (socket : Int16) (start : UInt32) (polls : List Poll)
  | putResponse (socket : Int16) (resp_buf : List UInt8)
  | closeConnect (socket : Int16) (a : Answers)

/-- The statics of `WebService`, `CONTROL_STATE` and the pin it drives (`true` is HIGH),
and the calls made so far. `file` and `content` are the arrays. -/
structure WebService where
  appSt : AppState
  httpServerSocket : Int16
  clientSocket : Int16
  taskTimer : UInt32
  file : List UInt8
  content : List UInt8
  controlState : Bool
  led : Bool
  trace : List ServiceCall

/-- Behind `setup`. -/
def WebService.start : WebService :=
  { appSt := .initServer
    httpServerSocket := -1
    clientSocket := -1
    taskTimer := 0
    file := List.replicate 30 0
    content := List.replicate 15 0
    controlState := false
    led := false
    trace := [] }

/-- One call of `WebService`: the clock at its test and where it sets the timer, the
device's answers, what the request loop sees, and the memory behind the two arrays. -/
structure ServiceTurn where
  now : UInt32
  later : UInt32
  answers : Answers
  start : UInt32
  polls : List Poll
  behindFile : List UInt8
  behindContent : List UInt8

def serviceSizes : Sizes := ⟨5, 30, 15, 0⟩

def favicon : List UInt8 := ascii ['f', 'a', 'v', 'i', 'c', 'o', 'n']
def highText : List UInt8 := ascii ['H', 'I', 'G', 'H']
def lowText : List UInt8 := ascii ['L', 'O', 'W']

/-- A text through a cleared pool: `strncpy_P` and `strlen`. -/
def pooled (size : Nat) (s : String) : List UInt8 := text (strncpy (ascii s.toList) size ++ [0])

/-- `WebServer_put_notfound`, piece by piece. -/
def webServerPutNotfound : List (List UInt8) :=
  ["HTTP/1.0 404 Not Found\r\n", "Content-Type: text/html\r\n", "Connection: close\r\n\r\n"].map
    (pooled 50)

/-- The page, piece by piece. -/
def webpage (controlState : Bool) : List (List UInt8) :=
  ["HTTP/1.1 200 OK\r\n", "Content-Type: text/html\r\n", "Connection: close\r\n\r\n",
    "<html>\r\n<body>\r\n\r\n"].map (pooled 100) ++
  [ascii ("Input variable :".toList) ++ (if controlState then highText else lowText) ++ [cr, lf]] ++
  ["<form method=\"post\">", "<input type=\"hidden\" name=\"var\" value=\"HIGH\">",
    "<input type=\"submit\" style=\"height:30px; width:100px\" value=\"HIGH\">\r\n</form>\r\n",
    "<form method=\"post\">", "<input type=\"hidden\" name=\"var\" value=\"LOW\">",
    "<input type=\"submit\" style=\"height:30px; width:100px\" value=\"LOW\">\r\n</form>\r\n",
    "</html>\r\n</body>\r\n\r\n"].map (pooled 100)

/-- An array of the sketch behind its `memset` and the parser's stores. -/
def storedArray (size : Nat) (w : Writes) : List UInt8 := (w.applyTo fun _ => 0).slice 0 size

/-- One call of `WebService`. `none` is where `WebServer_process_request` goes on. What it
stores at `auth_dummy` and behind it is left out. -/
def WebService.turn (s : WebService) (l : ServiceTurn) : Option WebService :=
  if s.taskTimer < l.now then
    match s.appSt with
    | .initServer =>
      let http_server_socket := (webServerBegin l.answers).1
      some { s with
        httpServerSocket := http_server_socket
        appSt := if 0 ≤ http_server_socket then .waitConnect else .initServer
        trace := s.trace ++ [.begin l.answers] }
    | .waitConnect =>
      let client_socket := (webServerWaitConnect l.answers).1
      some { s with
        clientSocket := client_socket
        appSt := if 0 ≤ client_socket then .handleRequest else .waitConnect
        trace := s.trace ++ [.waitConnect l.answers] }
    | .handleRequest =>
      match webServerProcessRequest serviceSizes l.start l.polls with
      | (_, none) => none
      | (r, some _) =>
        some { s with
          file := storedArray 30 r.filename
          content := storedArray 15 r.content
          appSt := .handleGetResponse
          trace := s.trace ++ [.processRequest s.clientSocket l.start l.polls] }
    | .handleGetResponse | .handlePostResponse =>
      if (strstr (s.file ++ l.behindFile) favicon).isSome then
        some { s with
          taskTimer := l.later + 100
          appSt := .closeClientConn
          trace := s.trace ++ webServerPutNotfound.map (.putResponse s.clientSocket) }
      else
        let content := s.content ++ l.behindContent
        let controlState := if (strstr content highText).isSome then true else s.controlState
        let controlState := if (strstr content lowText).isSome then false else controlState
        some { s with
          controlState
          led := controlState
          taskTimer := l.later + 100
          appSt := .closeClientConn
          trace := s.trace ++ (webpage controlState).map (.putResponse s.clientSocket) }
    | .handleBadResponse => some s
    | .closeClientConn =>
      some { s with
        clientSocket := -1
        appSt := .waitConnect
        trace := s.trace ++ [.closeConnect s.clientSocket l.answers] }
  else some s

def ServiceStep (s : WebService) (l : ServiceTurn) (t : WebService) : Prop := s.turn l = some t

/-- No credentials are stored: there is one byte for them, with other statics behind it. -/
def ServiceTurn.NoCredentials (s : WebService) (l : ServiceTurn) : Prop :=
  s.appSt = .handleRequest → (webServerProcessRequest serviceSizes l.start l.polls).1.auth = []

instance (s : WebService) : DecidablePred (ServiceTurn.NoCredentials s) := fun _ =>
  inferInstanceAs (Decidable (_ → _))

/-- What does not go wrong in the C functions below: an `int` keeps the descriptors, and no
credentials are stored. -/
def ServiceTurn.Kept (s : WebService) (l : ServiceTurn) : Prop :=
  match s.appSt with
  | .initServer => Fits l.answers.socket
  | .waitConnect => Fits l.answers.accept
  | .handleRequest => (webServerProcessRequest serviceSizes l.start l.polls).1.auth = []
  | _ => True

instance (s : WebService) : DecidablePred (ServiceTurn.Kept s) := fun l => by
  unfold ServiceTurn.Kept
  cases s.appSt <;> infer_instance

/-! What the server is for. -/

/-- What a request asks the output to be: `LOW` counts before `HIGH`. -/
def commanded (controlState : Bool) (content : List UInt8) : Bool :=
  if (strstr content lowText).isSome then false
  else if (strstr content highText).isSome then true
  else controlState

/-- The output behind a request, and the answer to it. -/
def respond (controlState : Bool) (file content : List UInt8) : Bool × List (List UInt8) :=
  if (strstr file favicon).isSome then (controlState, webServerPutNotfound)
  else (commanded controlState content, webpage (commanded controlState content))

/-- A client, from its connection to its answer: the tries that failed before it, the one
that did not, what came from it, and the memory that was read behind its fields. -/
structure Client where
  waits : List Answers
  accepted : Answers
  start : UInt32
  polls : List Poll
  behindFile : List UInt8
  behindContent : List UInt8

namespace Client

def socket (c : Client) : Int16 := (webServerWaitConnect c.accepted).1

def request (c : Client) : Request := (webServerProcessRequest serviceSizes c.start c.polls).1

/-- The file name it asks for, as the sketch reads it. -/
def file (c : Client) : List UInt8 := storedArray 30 c.request.filename ++ c.behindFile

def content (c : Client) : List UInt8 := storedArray 15 c.request.content ++ c.behindContent

/-- It is the first that is accepted. -/
structure Admitted (c : Client) : Prop where
  waits : ∀ a ∈ c.waits, (webServerWaitConnect a).1 < 0
  accepted : 0 ≤ c.socket

/-- The calls up to its request. -/
def arrival (c : Client) : List ServiceCall :=
  c.waits.map .waitConnect ++ [.waitConnect c.accepted]

def reading (c : Client) : List ServiceCall :=
  c.arrival ++ [.processRequest c.socket c.start c.polls]

/-- And up to its answer. -/
def answering (c : Client) (controlState : Bool) : List ServiceCall :=
  c.reading ++ (respond controlState c.file c.content).2.map (.putResponse c.socket)

end Client

/-- The output behind a row of clients. -/
def outputAfter (controlState : Bool) (clients : List Client) : Bool :=
  clients.foldl (fun control c => (respond control c.file c.content).1) controlState

/-- The calls of a row of clients, each with the answer to its `closesocket`. -/
def clientCalls (controlState : Bool) : List (Client × Answers) → List ServiceCall
  | [] => []
  | (c, closed) :: clients =>
    c.answering controlState ++ [.closeConnect c.socket closed] ++
      clientCalls (respond controlState c.file c.content).1 clients

/-! The trace. -/

/-- The part of the trace that belongs to the client being served, by state. `control` is
the output behind the clients before. -/
def OpenPart (s : WebService) (control : Bool) (calls : List ServiceCall) : Prop :=
  match s.appSt with
  | .waitConnect =>
    s.clientSocket < 0 ∧ s.controlState = control ∧
      ∃ waits : List Answers, (∀ a ∈ waits, (webServerWaitConnect a).1 < 0) ∧
        calls = waits.map .waitConnect
  | .handleRequest =>
    ∃ c : Client, c.Admitted ∧ s.clientSocket = c.socket ∧ s.controlState = control ∧
      calls = c.arrival
  | .handleGetResponse =>
    ∃ c : Client, c.Admitted ∧ s.clientSocket = c.socket ∧ s.controlState = control ∧
      calls = c.reading ∧ s.file = storedArray 30 c.request.filename ∧
      s.content = storedArray 15 c.request.content
  | .closeClientConn =>
    ∃ c : Client, c.Admitted ∧ s.clientSocket = c.socket ∧
      s.controlState = (respond control c.file c.content).1 ∧ calls = c.answering control
  | _ => False

/-- The server is not open yet; or it is, and has served some clients. -/
inductive Serving (s : WebService) : Prop
  | starting (failed : List Answers) (hstate : s.appSt = .initServer)
      (hfailed : ∀ a ∈ failed, (webServerBegin a).1 < 0) (hcontrol : s.controlState = false)
      (hserver : s.httpServerSocket < 0) (hclient : s.clientSocket < 0)
      (htrace : s.trace = failed.map .begin) : Serving s
  | serving (failed : List Answers) (a : Answers) (clients : List (Client × Answers))
      (calls : List ServiceCall) (hfailed : ∀ b ∈ failed, (webServerBegin b).1 < 0)
      (hbegun : 0 ≤ (webServerBegin a).1) (hserver : s.httpServerSocket = (webServerBegin a).1)
      (hadmitted : ∀ c ∈ clients, c.1.Admitted)
      (hopen : OpenPart s (outputAfter false (clients.map Prod.fst)) calls)
      (htrace : s.trace = failed.map .begin ++ .begin a :: (clientCalls false clients ++ calls)) :
      Serving s

theorem clientCalls_snoc (control : Bool) (clients : List (Client × Answers)) (c : Client)
    (closed : Answers) :
    clientCalls control (clients ++ [(c, closed)]) = clientCalls control clients ++
      (c.answering (outputAfter control (clients.map Prod.fst)) ++
        [.closeConnect c.socket closed]) := by
  induction clients generalizing control with
  | nil =>
    simp only [List.nil_append, clientCalls, List.append_nil, List.map_nil]
    rfl
  | cons d clients ih =>
    obtain ⟨d, dClosed⟩ := d
    rw [List.cons_append, clientCalls, ih, clientCalls, ← List.append_assoc]
    rfl

/-- What the sketch does with a request is what `respond` says. -/
theorem turn_response {s t : WebService} {l : ServiceTurn} (htime : s.taskTimer < l.now)
    (hstate : s.appSt = .handleGetResponse) (h : s.turn l = some t) :
    let r := respond s.controlState (s.file ++ l.behindFile) (s.content ++ l.behindContent)
    t.controlState = r.1 ∧ t.trace = s.trace ++ r.2.map (.putResponse s.clientSocket) ∧
      t.appSt = .closeClientConn ∧ t.clientSocket = s.clientSocket ∧
      t.httpServerSocket = s.httpServerSocket ∧
      (t.led = r.1 ∨ t.led = s.led ∧ r.1 = s.controlState) := by
  rw [WebService.turn, if_pos htime, hstate] at h
  dsimp only at h
  rw [respond]
  by_cases hicon : (strstr (s.file ++ l.behindFile) favicon).isSome = true
  · rw [if_pos hicon] at h ⊢
    obtain rfl := Option.some.inj h
    exact ⟨rfl, rfl, rfl, rfl, rfl, .inr ⟨rfl, rfl⟩⟩
  · rw [if_neg hicon] at h ⊢
    obtain rfl := Option.some.inj h
    exact ⟨rfl, rfl, rfl, rfl, rfl, .inl rfl⟩

/-- A server that is open goes on with the next part. -/
theorem Serving.advance {s t : WebService} {failed : List Answers} {a : Answers}
    {clients : List (Client × Answers)} {calls next : List ServiceCall}
    (hfailed : ∀ b ∈ failed, (webServerBegin b).1 < 0) (hbegun : 0 ≤ (webServerBegin a).1)
    (hadmitted : ∀ c ∈ clients, c.1.Admitted)
    (htrace : s.trace = failed.map .begin ++ .begin a :: (clientCalls false clients ++ calls))
    (hserver : t.httpServerSocket = (webServerBegin a).1)
    (hnext : t.trace = s.trace ++ next)
    (hopen : OpenPart t (outputAfter false (clients.map Prod.fst)) (calls ++ next)) : Serving t := by
  refine .serving failed a clients (calls ++ next) hfailed hbegun hserver hadmitted hopen ?_
  rw [hnext, htrace]
  simp only [List.append_assoc, List.cons_append]

/-- One call of `WebService`. -/
theorem Serving.turn {s t : WebService} {l : ServiceTurn} (h : Serving s) (hs : s.turn l = some t) :
    Serving t := by
  by_cases htime : s.taskTimer < l.now
  swap
  · rw [WebService.turn, if_neg htime] at hs
    obtain rfl := Option.some.inj hs
    exact h
  cases h with
  | starting failed hstate hfailed hcontrol hserver hclient htrace =>
    rw [WebService.turn, if_pos htime, hstate] at hs
    obtain rfl := Option.some.inj hs
    by_cases hbegun : 0 ≤ (webServerBegin l.answers).1
    · refine .serving failed l.answers [] [] hfailed hbegun rfl (by simp) ?_ ?_
      · rw [OpenPart]
        dsimp only
        rw [if_pos hbegun]
        exact ⟨hclient, hcontrol, [], by simp, rfl⟩
      · rw [htrace]
        rfl
    · refine .starting (failed ++ [l.answers]) (if_neg hbegun) ?_ hcontrol
        (Int16.not_le.mp hbegun) hclient ?_
      · intro b hb
        rcases List.mem_append.mp hb with hold | hnew
        · exact hfailed b hold
        · rw [List.mem_singleton.mp hnew]
          exact Int16.not_le.mp hbegun
      · rw [htrace, List.map_append]
        rfl
  | serving failed a clients calls hfailed hbegun hserver hadmitted hopen htrace =>
    cases hstate : s.appSt with
    | initServer =>
      rw [OpenPart, hstate] at hopen
      exact hopen.elim
    | handlePostResponse =>
      rw [OpenPart, hstate] at hopen
      exact hopen.elim
    | handleBadResponse =>
      rw [OpenPart, hstate] at hopen
      exact hopen.elim
    | waitConnect =>
      rw [OpenPart, hstate] at hopen
      obtain ⟨hclient, hcontrol, waits, hwaits, rfl⟩ := hopen
      rw [WebService.turn, if_pos htime, hstate] at hs
      obtain rfl := Option.some.inj hs
      refine .advance hfailed hbegun hadmitted htrace hserver rfl ?_
      by_cases haccepted : 0 ≤ (webServerWaitConnect l.answers).1
      · rw [OpenPart]
        dsimp only
        rw [if_pos haccepted]
        exact ⟨⟨waits, l.answers, 0, [], [], []⟩, ⟨hwaits, haccepted⟩, rfl, hcontrol, rfl⟩
      · rw [OpenPart]
        dsimp only
        rw [if_neg haccepted]
        refine ⟨Int16.not_le.mp haccepted, hcontrol, waits ++ [l.answers], ?_, by simp⟩
        intro b hb
        rcases List.mem_append.mp hb with hold | hnew
        · exact hwaits b hold
        · rw [List.mem_singleton.mp hnew]
          exact Int16.not_le.mp haccepted
    | handleRequest =>
      rw [OpenPart, hstate] at hopen
      obtain ⟨c, hc, hsocket, hcontrol, rfl⟩ := hopen
      rw [WebService.turn, if_pos htime, hstate] at hs
      dsimp only at hs
      cases hrequest : webServerProcessRequest serviceSizes l.start l.polls with
      | mk r ret =>
        rw [hrequest] at hs
        cases ret with
        | none => cases hs
        | some ret =>
          obtain rfl := Option.some.inj hs
          refine .advance hfailed hbegun hadmitted htrace hserver rfl ?_
          refine ⟨{ c with start := l.start, polls := l.polls }, ⟨hc.waits, hc.accepted⟩, hsocket,
            hcontrol, ?_, ?_, ?_⟩
          · rw [hsocket]
            rfl
          · rw [Client.request, hrequest]
          · rw [Client.request, hrequest]
    | handleGetResponse =>
      rw [OpenPart, hstate] at hopen
      obtain ⟨c, hc, hsocket, hcontrol, rfl, hfile, hcontent⟩ := hopen
      obtain ⟨hout, hput, hclose, hkept, hserver', -⟩ := turn_response htime hstate hs
      refine .advance hfailed hbegun hadmitted htrace (hserver'.trans hserver) hput ?_
      rw [OpenPart, hclose]
      refine ⟨{ c with behindFile := l.behindFile, behindContent := l.behindContent },
        ⟨hc.waits, hc.accepted⟩, hkept.trans hsocket, ?_, ?_⟩
      · rw [hout, hfile, hcontent, hcontrol]
        rfl
      · rw [hfile, hcontent, hcontrol, hsocket]
        rfl
    | closeClientConn =>
      rw [OpenPart, hstate] at hopen
      obtain ⟨c, hc, hsocket, hcontrol, rfl⟩ := hopen
      rw [WebService.turn, if_pos htime, hstate] at hs
      obtain rfl := Option.some.inj hs
      refine .serving failed a (clients ++ [(c, l.answers)]) [] hfailed hbegun hserver ?_ ?_ ?_
      · intro d hd
        rcases List.mem_append.mp hd with hold | hnew
        · exact hadmitted d hold
        · rw [List.mem_singleton.mp hnew]
          exact hc
      · have hnone : (-1 : Int16) < 0 := by decide
        refine ⟨hnone, ?_, [], by simp, rfl⟩
        rw [List.map_append, outputAfter, List.foldl_append]
        exact hcontrol
      · rw [htrace, clientCalls_snoc, hsocket]
        simp only [List.append_assoc, List.cons_append, List.append_nil]

theorem Serving.start : Serving .start := by
  have hnone : (-1 : Int16) < 0 := by decide
  exact .starting [] rfl (by simp) rfl hnone hnone rfl

/-- The pin shows the output. -/
theorem turn_led {s t : WebService} {l : ServiceTurn} (hled : s.led = s.controlState)
    (hs : s.turn l = some t) : t.led = t.controlState := by
  rw [WebService.turn] at hs
  split at hs
  · split at hs
    · obtain rfl := Option.some.inj hs
      exact hled
    · obtain rfl := Option.some.inj hs
      exact hled
    · split at hs
      · cases hs
      · obtain rfl := Option.some.inj hs
        exact hled
    · split at hs
      · obtain rfl := Option.some.inj hs
        exact hled
      · obtain rfl := Option.some.inj hs
        rfl
    · split at hs
      · obtain rfl := Option.some.inj hs
        exact hled
      · obtain rfl := Option.some.inj hs
        rfl
    · obtain rfl := Option.some.inj hs
      exact hled
    · obtain rfl := Option.some.inj hs
      exact hled
  · obtain rfl := Option.some.inj hs
    exact hled

/-- **Every client is served, one after the other.** In every run of the sketch in which no
request carries credentials the calls are the tries to open the server, and then a row of
clients: each one accepted, read once, answered whole with what `respond` says for the
output behind the clients before it, and closed, before the next is accepted; and a part of
the calls of one that is being served. The pin shows the output throughout. -/
theorem serving_of_run {ls : List ServiceTurn} {t : WebService}
    (h : Run (guarded ServiceTurn.NoCredentials ServiceStep) .start ls t) :
    Serving t ∧ t.led = t.controlState := by
  apply h.invariant (P := fun s => Serving s ∧ s.led = s.controlState)
  · exact ⟨.start, rfl⟩
  · intro s l u _ hserving hs
    exact ⟨hserving.1.turn hs.2, turn_led hserving.2 hs.2⟩

/-- The request of the first of the two forms. -/
def highRequest : List UInt8 :=
  ascii "POST / HTTP/1.1\r\nContent-Length:8\r\n\r\nvar=HIGH".toList

/-- A call at time `now`, with a device that hands out `sd` and a client that sends
`highRequest`. -/
def highTurn (now : UInt32) (sd : Int32) : ServiceTurn :=
  ⟨now, now, .success sd, now,
    [⟨now, some ⟨highRequest, by decide +kernel⟩, now⟩, ⟨now + 100, none, 0⟩], [], []⟩

/-- The server is opened, a client connects on socket 1, and is read, answered and closed. -/
def highTurns : List ServiceTurn :=
  [highTurn 1 0, highTurn 2 1, highTurn 3 0, highTurn 4 0, highTurn 105 0]

/-- A client that asks for HIGH is served, and the pin is HIGH behind it. -/
theorem serving_high :
    ∃ t, Run (guarded ServiceTurn.NoCredentials ServiceStep) .start highTurns t ∧
      t.led = true ∧ Serving t ∧ t.led = t.controlState := by
  have hend : (follow (fun s l => if ServiceTurn.NoCredentials s l then s.turn l else none) .start
      highTurns).any (·.led) = true := by decide +kernel
  obtain ⟨t, ht, hhigh⟩ := (Option.any_eq_true _ _).mp hend
  have hrun := Run.of_follow_allowed ht
  exact ⟨t, hrun, hhigh, serving_of_run hrun⟩

/-! The sockets. -/

/-- What a call does to descriptors. -/
def ServiceCall.ops : ServiceCall → List SocketOp
  | begin a => (webServerBegin a).2
  | waitConnect a => (webServerWaitConnect a).2
  | closeConnect socket a => (webServerCloseConnect socket a).2
  | processRequest .. => []
  | putResponse .. => []

def WebService.ops (s : WebService) : List SocketOp := s.trace.flatMap ServiceCall.ops

/-- A socket that was returned and is kept. -/
def keptSocket (socket : Int16) : Multiset Int16 := if 0 ≤ socket then {socket} else 0

/-- The sketch among the holders of sockets: it holds its two statics. -/
def WebService.app (s : WebService) : App :=
  { ntp := .start
    returned := keptSocket s.httpServerSocket + keptSocket s.clientSocket
    hosts := noHosts
    begun := 0
    ops := s.ops }

theorem ops_snoc (s : WebService) (calls : List ServiceCall) :
    (s.trace ++ calls).flatMap ServiceCall.ops = s.ops ++ calls.flatMap ServiceCall.ops :=
  List.flatMap_append

theorem ops_putResponse (socket : Int16) (pieces : List (List UInt8)) :
    (pieces.map (ServiceCall.putResponse socket)).flatMap ServiceCall.ops = [] := by
  rw [List.flatMap_eq_nil_iff]
  intro call hcall
  obtain ⟨piece, -, rfl⟩ := List.mem_map.mp hcall
  rfl

theorem keptSocket_of_neg {socket : Int16} (h : socket < 0) : keptSocket socket = 0 :=
  if_neg (Int16.not_le.mpr h)

theorem app_congr {s t : WebService} (hserver : t.httpServerSocket = s.httpServerSocket)
    (hclient : t.clientSocket = s.clientSocket) (hops : t.ops = s.ops) : t.app = s.app := by
  rw [WebService.app, WebService.app, hserver, hclient, hops]

/-- A turn is a call that the account of the sockets permits, or does nothing to them. -/
theorem turn_app {s t : WebService} {l : ServiceTurn} (hserving : Serving s) (hkept : l.Kept s)
    (hs : s.turn l = some t) :
    t.app = s.app ∨ ∃ c, guarded KeepsSockets AppStep s.app c t.app := by
  by_cases htime : s.taskTimer < l.now
  swap
  · rw [WebService.turn, if_neg htime] at hs
    exact .inl (congrArg WebService.app (Option.some.inj hs).symm)
  cases hstate : s.appSt with
  | initServer =>
    have hserver : s.httpServerSocket < 0 := by
      cases hserving with
      | starting _ _ _ _ hserver => exact hserver
      | serving _ _ _ _ _ _ _ _ hopen =>
        rw [OpenPart, hstate] at hopen
        exact hopen.elim
    rw [ServiceTurn.Kept, hstate] at hkept
    rw [WebService.turn, if_pos htime, hstate] at hs
    obtain rfl := Option.some.inj hs
    refine .inr ⟨.webServerBegin l.answers, hkept, trivial, ?_⟩
    simp only [WebService.app, App.next, App.takes, WebService.ops, ops_snoc, App.mk.injEq, true_and,
      List.flatMap_cons, List.flatMap_nil, List.append_nil, ServiceCall.ops, and_true]
    rw [keptSocket_of_neg hserver, Multiset.zero_add, keptSocket]
    split
    · rw [Multiset.singleton_add]
    · rw [Multiset.zero_add]
  | waitConnect =>
    have hclient : s.clientSocket < 0 := by
      cases hserving with
      | starting _ hinit =>
        rw [hstate] at hinit
        cases hinit
      | serving _ _ _ _ _ _ _ _ hopen =>
        rw [OpenPart, hstate] at hopen
        exact hopen.1
    rw [ServiceTurn.Kept, hstate] at hkept
    rw [WebService.turn, if_pos htime, hstate] at hs
    obtain rfl := Option.some.inj hs
    refine .inr ⟨.webServerWaitConnect l.answers, hkept, trivial, ?_⟩
    simp only [WebService.app, App.next, App.takes, WebService.ops, ops_snoc, App.mk.injEq, true_and,
      List.flatMap_cons, List.flatMap_nil, List.append_nil, ServiceCall.ops, and_true]
    rw [keptSocket_of_neg hclient, Multiset.add_zero]
    conv_lhs => rw [keptSocket.eq_def (webServerWaitConnect l.answers).1]
    split
    · rw [Multiset.add_comm, Multiset.singleton_add]
    · rw [Multiset.add_zero]
  | handleRequest =>
    rw [WebService.turn, if_pos htime, hstate] at hs
    dsimp only at hs
    split at hs
    · cases hs
    · obtain rfl := Option.some.inj hs
      exact .inl (app_congr rfl rfl ((ops_snoc s _).trans (List.append_nil _)))
  | handleGetResponse =>
    obtain ⟨-, htrace, -, hclient, hserver, -⟩ := turn_response htime hstate hs
    refine .inl (app_congr hserver hclient ?_)
    rw [WebService.ops, htrace, ops_snoc, ops_putResponse, List.append_nil]
  | handlePostResponse =>
    cases hserving with
    | starting _ hinit =>
      rw [hstate] at hinit
      cases hinit
    | serving _ _ _ _ _ _ _ _ hopen =>
      rw [OpenPart, hstate] at hopen
      exact hopen.elim
  | handleBadResponse =>
    rw [WebService.turn, if_pos htime, hstate] at hs
    exact .inl (congrArg WebService.app (Option.some.inj hs).symm)
  | closeClientConn =>
    have hpermits : s.clientSocket ∈ s.app.returned ∨ s.clientSocket < 0 := by
      by_cases hclient : 0 ≤ s.clientSocket
      · left
        show s.clientSocket ∈ keptSocket s.httpServerSocket + keptSocket s.clientSocket
        rw [keptSocket.eq_def s.clientSocket, if_pos hclient]
        exact Multiset.mem_add.mpr (.inr (Multiset.mem_singleton_self _))
      · exact .inr (Int16.not_le.mp hclient)
    have hnone : (-1 : Int16) < 0 := by decide
    rw [WebService.turn, if_pos htime, hstate] at hs
    obtain rfl := Option.some.inj hs
    refine .inr ⟨.webServerCloseConnect s.clientSocket l.answers, trivial, hpermits, ?_⟩
    simp only [WebService.app, App.next, App.closes, WebService.ops, ops_snoc, App.mk.injEq,
      true_and, List.flatMap_cons, List.flatMap_nil, List.append_nil, ServiceCall.ops, and_true]
    rw [keptSocket_of_neg hnone, Multiset.add_zero, keptSocket.eq_def s.clientSocket]
    split
    · rw [Multiset.erase_add_right_pos _ (Multiset.mem_singleton_self _),
        Multiset.erase_singleton, Multiset.add_zero]
    · next hclient =>
      rw [Multiset.add_zero, Multiset.erase_of_notMem]
      intro hmem
      rw [keptSocket] at hmem
      split at hmem
      · next hserver =>
        rw [Multiset.mem_singleton.mp hmem] at hclient
        exact hclient hserver
      · exact Multiset.notMem_zero _ hmem

/-- The sketch accounts for its sockets. -/
theorem accounted_of_run {ls : List ServiceTurn} {t : WebService}
    (h : Run (guarded ServiceTurn.Kept ServiceStep) .start ls t) : Accounted t.app := by
  have hboth : Serving t ∧ Accounted t.app := by
    apply h.invariant (P := fun s => Serving s ∧ Accounted s.app)
    · exact ⟨.start, rfl, trivial⟩
    · intro s l u _ hs hstep
      refine ⟨hs.1.turn hstep.2, ?_⟩
      rcases turn_app hs.1 hstep.1 hstep.2 with hsame | ⟨c, hcall⟩
      · rw [hsame]
        exact hs.2
      · exact hs.2.step hcall
  exact hboth.2

/-- The descriptor of a socket that is kept. -/
theorem map_keptSocket (socket : Int16) :
    (keptSocket socket).map Int16.toInt32 = returnedDescriptor socket := by
  rw [keptSocket, returnedDescriptor]
  split <;> rfl

/-- **The sketch leaks no socket.** In every run in which the statuses fit in an `int`
and no request carries credentials, the sockets that are open are the two that the
statics hold, as far as these are descriptors; and if the device hands out no
descriptor that is still open, none is closed twice. -/
theorem sockets_of_run {ls : List ServiceTurn} {t : WebService}
    (h : Run (guarded ServiceTurn.Kept ServiceStep) .start ls t) :
    openSockets t.ops =
        returnedDescriptor t.httpServerSocket + returnedDescriptor t.clientSocket ∧
      (Fresh 0 (ledger t.ops) → ClosedOnce t.ops) := by
  have haccount := accounted_of_run h
  have hnone : Ntp.start.ntpSocket < 0 := by decide
  have hntp : descriptor t.app.ntp.ntpSocket = 0 := descriptor_of_neg hnone
  refine ⟨?_, haccount.closedOnce⟩
  calc openSockets t.ops = t.app.held := haccount.held
    _ = (keptSocket t.httpServerSocket + keptSocket t.clientSocket).map Int16.toInt32 := by
      rw [App.held, hntp, Multiset.zero_add]
      exact Multiset.add_zero _
    _ = _ := by rw [Multiset.map_add, map_keptSocket, map_keptSocket]

/-- The server and a client, whose socket 1 is closed behind its answer. -/
theorem sockets_high :
    ∃ t, Run (guarded ServiceTurn.Kept ServiceStep) .start highTurns t ∧ t.clientSocket = -1 ∧
      openSockets t.ops =
          returnedDescriptor t.httpServerSocket + returnedDescriptor t.clientSocket ∧
        (Fresh 0 (ledger t.ops) → ClosedOnce t.ops) := by
  have hend : (follow (fun s l => if ServiceTurn.Kept s l then s.turn l else none) .start
      highTurns).any (fun t => t.led && decide (t.clientSocket = -1)) = true := by decide +kernel
  obtain ⟨t, ht, hhigh⟩ := (Option.any_eq_true _ _).mp hend
  have hrun := Run.of_follow_allowed ht
  exact ⟨t, hrun, of_decide_eq_true (Bool.and_eq_true_iff.mp hhigh).2, sockets_of_run hrun⟩

end SpiderL3S
