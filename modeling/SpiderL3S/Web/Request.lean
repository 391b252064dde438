import SpiderL3S.Lib.CString
import SpiderL3S.Common

/- `WebServer.c`: `WebServer_process_request` and what it reads. The parser takes
   one byte at a time through three states. In the last one every byte goes into
   a 50-byte fifo, which is searched for two header fields whenever it ends in
   CR LF, and through a 4-byte window that recognises the end of the header.

   The four buffers the caller passes are logs of the bytes stored to them, each
   with its index, oldest first. The locals are held as the source declares them:
   the counters are `unsigned char`, `content_length` is an `int` of 16 bits. -/
namespace SpiderL3S

/-! Bytes. -/

abbrev sp : UInt8 := 0x20
abbrev cr : UInt8 := 0x0D
abbrev lf : UInt8 := 0x0A

def ascii (s : List Char) : List UInt8 := s.map fun c => UInt8.ofNat c.toNat

/-- `"Authorization: Basic "`. -/
def authorizationBasic : List UInt8 :=
  ascii ['A', 'u', 't', 'h', 'o', 'r', 'i', 'z', 'a', 't', 'i', 'o', 'n', ':', ' ',
    'B', 'a', 's', 'i', 'c', ' ']

/-- `"Content-Length:"`. -/
def contentLengthField : List UInt8 :=
  ascii ['C', 'o', 'n', 't', 'e', 'n', 't', '-', 'L', 'e', 'n', 'g', 't', 'h', ':']

/-- The end of the header. -/
def blankLine : List UInt8 := [cr, lf, cr, lf]

/-! The parser. -/

inductive ParseState where
  | getMethod
  | getFilename
  | getContent
  deriving DecidableEq, Repr

/-- The size arguments. -/
structure Sizes where
  methodSize : UInt8
  filenameSize : UInt8
  contentSize : UInt8
  authSize : UInt8
  deriving DecidableEq, Repr

/-- The bytes stored to a buffer, each with its index. -/
abbrev Writes := List (UInt8 × Nat)

/-- What the stores of a log leave in memory. -/
def Writes.applyTo (m : Mem) (w : Writes) : Mem :=
  w.foldl (fun m p => fun i => if i = p.2 then p.1 else m i) m

theorem Writes.applyTo_zipIdx (m : Mem) (bs : List UInt8) :
    Writes.applyTo m bs.zipIdx = m.store 0 bs := by
  induction bs using List.reverseRecOn with
  | nil => exact (Mem.store_nil m 0).symm
  | append_singleton bs b ih =>
    have hlast : ([b].zipIdx (0 + bs.length)) = [(b, bs.length)] := by simp
    have hmem : List.foldl (fun m p => fun i => if i = p.2 then p.1 else m i) m bs.zipIdx =
        m.store 0 bs := ih
    rw [List.zipIdx_append, hlast, Writes.applyTo, List.foldl_append, hmem, ← Mem.store_store,
      Nat.zero_add]
    funext i
    by_cases hi : i = bs.length
    · rw [Mem.store_in _ (by omega) (by simp; omega), hi, Nat.sub_self]
      exact if_pos rfl
    · rw [Mem.store_out _ (by simp; omega)]
      exact if_neg hi

/-- The locals of `WebServer_process_request` that live across bytes, and its
four output buffers. -/
structure Request where
  state : ParseState
  strFifo : List UInt8
  contentHead : List UInt8
  contentLength : Int
  methodPtr : UInt8
  filenamePtr : UInt8
  contentPtr : UInt8
  method : Writes
  filename : Writes
  content : Writes
  auth : Writes
  deriving DecidableEq, Repr

def Request.start : Request :=
  { state := .getMethod
    strFifo := List.replicate 50 sp
    contentHead := List.replicate 4 0
    contentLength := 0
    methodPtr := 0
    filenamePtr := 0
    contentPtr := 0
    method := []
    filename := []
    content := []
    auth := [] }

/-- The word behind `"Authorization: Basic "` in a line. -/
def authToken (line : List UInt8) : Option (List UInt8) :=
  (CString.strstr line authorizationBasic).bind fun str =>
    CString.scanWord (str.drop authorizationBasic.length)

/-- What `sscanf(str, "Authorization: Basic %s", auth)` stores: the word and its
terminator. -/
def authWrites (line : List UInt8) : Writes :=
  match authToken line with
  | some token => (token ++ [0]).zipIdx
  | none => []

/-- `content_length` behind a line: `sscanf(str, "Content-Length:%d", ..)` sets it
to the low 16 bits of the number, or leaves it. -/
def readLength (contentLength : Int) (line : List UInt8) : Int :=
  match (CString.strstr line contentLengthField).bind fun str =>
      CString.scanInt (str.drop contentLengthField.length) with
  | some n => n.bmod 65536
  | none => contentLength

/-- `memcpy(&a[0], &a[1], sizeof(a) - 1)`, copying forward. -/
def shiftDown (a : List UInt8) : List UInt8 := a.drop 1 ++ a.drop (a.length - 1)

/-- The fifo takes a byte; a full line is searched and the fifo cleared. -/
def pushFifo (r : Request) (data : UInt8) : Request :=
  let fifo := r.strFifo.set 49 data
  if fifo.getD 48 0 = cr ∧ fifo.getD 49 0 = lf then
    let line := (fifo.set 48 0).set 49 0
    { r with
      strFifo := List.replicate 50 sp
      contentLength := readLength r.contentLength line
      auth := r.auth ++ authWrites line }
  else { r with strFifo := shiftDown fifo }

/-- One turn of the loop over the received bytes, and whether it returns. -/
def processByte (sz : Sizes) (r : Request) (data : UInt8) : Request × Bool :=
  match r.state with
  | .getMethod =>
    if data ≠ sp then
      if r.methodPtr < sz.methodSize then
        ({ r with
           method := r.method ++ [(data, r.methodPtr.toNat)]
           methodPtr := r.methodPtr + 1 }, false)
      else (r, false)
    else ({ r with state := .getFilename }, false)
  | .getFilename =>
    if data ≠ sp then
      if r.filenamePtr < sz.filenameSize then
        ({ r with
           filename := r.filename ++ [(data, r.filenamePtr.toNat)]
           filenamePtr := r.filenamePtr + 1 }, false)
      else (r, false)
    else ({ r with state := .getContent }, false)
  | .getContent =>
    let r := pushFifo r data
    if r.contentHead = blankLine then
      if r.contentPtr < sz.contentSize ∧ (r.contentPtr.toNat : Int) < r.contentLength then
        ({ r with
           content := r.content ++ [(data, r.contentPtr.toNat)]
           contentPtr := r.contentPtr + 1 }, false)
      else (r, true)
    else ({ r with contentHead := (shiftDown r.contentHead).set 3 data }, false)

/-- The loop over the bytes of `data_pool`. -/
def processBytes (sz : Sizes) (r : Request) : List UInt8 → Request × Bool
  | [] => (r, false)
  | data :: rest =>
    match processByte sz r data with
    | (r, true) => (r, true)
    | (r, false) => processBytes sz r rest

/-! The receive loop. -/

/-- What one turn of the loop sees: `millis()` at its test, the result of `recv`
(`none` where it is negative) with the bytes it has put into `data_pool`, and
`millis()` behind it. -/
structure Poll where
  now : UInt32
  ret : Option { chunk : List UInt8 // chunk.length ≤ 100 }
  after : UInt32

abbrev webserverRequestTimeout : UInt32 := 100

/-- `while(millis() < tmr)`. The result is `none` while the loop still runs. -/
def requestLoop (sz : Sizes) (r : Request) (tmr : UInt32) : List Poll → Request × Option Int
  | [] => (r, none)
  | poll :: polls =>
    if poll.now < tmr then
      match poll.ret with
      | none => (r, some (-1))
      | some chunk =>
        if chunk.val.length > 0 then
          match processBytes sz r chunk.val with
          | (r, true) => (r, some 0)
          | (r, false) => requestLoop sz r (poll.after + webserverRequestTimeout) polls
        else requestLoop sz r tmr polls
    else (r, some 0)

/-- `WebServer_process_request`, entered when `millis()` reads `start`. -/
def webServerProcessRequest (sz : Sizes) (start : UInt32) (polls : List Poll) :
    Request × Option Int :=
  requestLoop sz .start (start + webserverRequestTimeout) polls

/-! What the loop hands to the parser. -/

/-- The bytes received up to the first failure or idle timeout. -/
def receivedBytes (tmr : UInt32) : List Poll → List UInt8
  | [] => []
  | poll :: polls =>
    if poll.now < tmr then
      match poll.ret with
      | none => []
      | some chunk =>
        if chunk.val.length > 0 then
          chunk.val ++ receivedBytes (poll.after + webserverRequestTimeout) polls
        else receivedBytes tmr polls
    else []

/-- The stream of a run. -/
def received (start : UInt32) (polls : List Poll) : List UInt8 :=
  receivedBytes (start + webserverRequestTimeout) polls

section
variable {sz : Sizes} {r r' : Request} {data : UInt8}

theorem processBytes_cons_of_return (h : processByte sz r data = (r', true)) (rest : List UInt8) :
    processBytes sz r (data :: rest) = (r', true) := by
  rw [processBytes, h]

theorem processBytes_cons (h : processByte sz r data = (r', false)) (rest : List UInt8) :
    processBytes sz r (data :: rest) = processBytes sz r' rest := by
  rw [processBytes, h]

theorem processBytes_append_of_return {a : List UInt8} (h : processBytes sz r a = (r', true))
    (b : List UInt8) : processBytes sz r (a ++ b) = (r', true) := by
  induction a generalizing r with
  | nil => cases h
  | cons d a ih =>
    cases hd : processByte sz r d with
    | mk r₁ returned =>
      cases returned with
      | true =>
        rw [processBytes_cons_of_return hd] at h
        rw [List.cons_append, processBytes_cons_of_return hd, h]
      | false =>
        rw [processBytes_cons hd] at h
        rw [List.cons_append, processBytes_cons hd, ih h]

theorem processBytes_append {a : List UInt8} (h : processBytes sz r a = (r', false))
    (b : List UInt8) : processBytes sz r (a ++ b) = processBytes sz r' b := by
  induction a generalizing r with
  | nil =>
    cases h
    rfl
  | cons d a ih =>
    cases hd : processByte sz r d with
    | mk r₁ returned =>
      cases returned with
      | true =>
        rw [processBytes_cons_of_return hd] at h
        cases h
      | false =>
        rw [processBytes_cons hd] at h
        rw [List.cons_append, processBytes_cons hd, ih h]

end

/-- **The chunks do not matter.** The loop leaves the parser where the received
bytes leave it, however `recv` splits them and whenever the loop ends. -/
theorem requestLoop_eq (sz : Sizes) (r : Request) (tmr : UInt32) (polls : List Poll) :
    (requestLoop sz r tmr polls).1 = (processBytes sz r (receivedBytes tmr polls)).1 := by
  induction polls generalizing r tmr with
  | nil => rfl
  | cons poll polls ih =>
    simp only [requestLoop, receivedBytes]
    by_cases htime : poll.now < tmr
    · rw [if_pos htime, if_pos htime]
      cases poll.ret with
      | none => rfl
      | some chunk =>
        dsimp only
        by_cases hlen : chunk.val.length > 0
        · rw [if_pos hlen, if_pos hlen]
          cases hchunk : processBytes sz r chunk.val with
          | mk r' returned =>
            cases returned with
            | true => rw [processBytes_append_of_return hchunk]
            | false =>
              rw [processBytes_append hchunk]
              exact ih r' _
        · rw [if_neg hlen, if_neg hlen]
          exact ih r tmr
    · rw [if_neg htime, if_neg htime]
      rfl

theorem webServerProcessRequest_eq (sz : Sizes) (start : UInt32) (polls : List Poll) :
    (webServerProcessRequest sz start polls).1 =
      (processBytes sz .start (received start polls)).1 :=
  requestLoop_eq sz .start _ polls

/-- Every stream is received by some run. -/
theorem exists_polls (s : List UInt8) : ∃ polls, received 0 polls = s := by
  suffices h : ∀ tmr : UInt32, 0 < tmr → ∃ polls, receivedBytes tmr polls = s from h 100 (by decide)
  induction s with
  | nil => exact fun tmr _ => ⟨[], rfl⟩
  | cons d s ih =>
    intro tmr htmr
    obtain ⟨polls, hpolls⟩ := ih (0 + webserverRequestTimeout) (by decide)
    refine ⟨⟨0, some ⟨[d], by simp⟩, 0⟩ :: polls, ?_⟩
    simp only [receivedBytes, if_pos htmr, List.length_singleton, gt_iff_lt, Nat.lt_one_iff,
      if_true, List.singleton_append, hpolls]

end SpiderL3S
