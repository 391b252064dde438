import Mathlib.Data.List.GetD
import SpiderL3S.Lib.Window
import SpiderL3S.Web.Request

/- What the request parser is about, without its buffers. A stream behind the
   second space is a row of lines, of which the fifo shows the last 48 bytes each
   (`Lines`), and a header up to the first blank line with a body behind it
   (`Scan`). `Scan.read` reads a stream up to the byte on which the parser
   returns. The main results say that the parser of the source, with its fifo,
   its 4-byte window and its counters, does the same on every stream
   (`processBytes_read`), and what it has stored when it starts from the
   beginning (`processBytes_start`). -/
namespace SpiderL3S

/-! Lines, header and body. -/

/-- The bytes behind the last CR LF, and of every line before it what the fifo
held when it was searched. -/
structure Lines where
  line : List UInt8
  windows : List (List UInt8)

def Lines.next (l : Lines) (d : UInt8) : Lines :=
  if l.line.getLast? = some cr ∧ d = lf then
    ⟨[], l.windows ++ [Window.last sp 48 l.line.dropLast]⟩
  else ⟨l.line ++ [d], l.windows⟩

/-- The length that the searched lines announce. -/
def announced (windows : List (List UInt8)) : Int := windows.foldl readLength 0

/-- A stream behind the second space, split behind its first blank line. -/
structure Scan where
  lines : Lines
  head : List UInt8
  body : List UInt8

def Scan.start : Scan := ⟨⟨[], []⟩, [], []⟩

def Scan.next (s : Scan) (d : UInt8) : Scan :=
  if blankLine <:+ s.head then { s with lines := s.lines.next d, body := s.body ++ [d] }
  else { s with lines := s.lines.next d, head := s.head ++ [d] }

/-- The parser returns on `d`: the header is over, and the buffer is full or the
announced body complete. -/
def Scan.Full (size : UInt8) (s : Scan) (d : UInt8) : Prop :=
  blankLine <:+ s.head ∧ ¬ (s.body.length < size.toNat ∧
    (s.body.length : Int) < announced (s.lines.next d).windows)

instance (size : UInt8) (s : Scan) (d : UInt8) : Decidable (s.Full size d) :=
  inferInstanceAs (Decidable (_ ∧ ¬ (_ ∧ _)))

/-- The scan behind a byte: on the one the parser returns on, only the lines go
on. -/
def Scan.after (size : UInt8) (s : Scan) (d : UInt8) : Scan :=
  if s.Full size d then { s with lines := s.lines.next d } else s.next d

/-- The stream is read up to the byte on which the parser returns; that byte
still completes a line. -/
def Scan.read (size : UInt8) (s : Scan) : List UInt8 → Scan × Bool
  | [] => (s, false)
  | d :: rest =>
    if s.Full size d then (s.after size d, true) else (s.after size d).read size rest

/-! The parser's buffers show these. -/

theorem readLength_append_nul (n : Int) (w : List UInt8) :
    readLength n (w ++ [0, 0]) = readLength n w := by
  rw [readLength, CString.strstr_append_nul, readLength]

theorem authWrites_append_nul (w : List UInt8) : authWrites (w ++ [0, 0]) = authWrites w := by
  rw [authWrites, authToken, CString.strstr_append_nul, authWrites, authToken]

/-- The fifo shows the last 49 bytes of the line, and one stale byte. -/
def FifoShows (fifo : List UInt8) (line : List UInt8) : Prop :=
  ∃ x, fifo = Window.last sp 49 line ++ [x]

/-- Cells behind a window of its length. -/
theorem getD_window (x : UInt8) (k : Nat) (line tail : List UInt8) (i : Nat) :
    (Window.last x k line ++ tail).getD (k + i) 0 = tail.getD i 0 := by
  rw [List.getD_append_right _ _ _ _ (by rw [Window.last_length]; omega), Window.last_length,
    Nat.add_sub_cancel_left]

theorem set_window (x : UInt8) (k : Nat) (line tail : List UInt8) (i : Nat) (d : UInt8) :
    (Window.last x k line ++ tail).set (k + i) d = Window.last x k line ++ tail.set i d := by
  rw [List.set_append_right _ _ (by rw [Window.last_length]; omega), Window.last_length,
    Nat.add_sub_cancel_left]

/-- A carriage return stands in front of the new byte when the line ends in one. -/
theorem getD_carriageReturn (line : List UInt8) (d : UInt8) :
    (Window.last sp 49 line ++ [d]).getD 48 0 = cr ↔ line.getLast? = some cr := by
  rcases List.eq_nil_or_concat line with hnil | ⟨front, c, hline⟩
  · -- an empty line shows padding there
    rw [hnil, Window.last_nil, List.getD_append _ _ _ _ (by simp)]
    exact iff_of_false (by decide) (by decide)
  · have hshow : Window.last sp 49 (front ++ [c]) ++ [d] = Window.last sp 48 front ++ [c, d] := by
      rw [Window.last_snoc, List.append_assoc]
      rfl
    rw [hline, List.concat_eq_append, hshow, getD_window sp 48 front [c, d] 0,
      List.getLast?_concat]
    exact Option.some_inj.symm

/-- A line feed behind a carriage return: the line is examined without its end, and
the fifo is padded again. -/
theorem pushFifo_close {r : Request} {l : Lines} (hfifo : FifoShows r.strFifo l.line)
    (hlength : r.contentLength = announced l.windows)
    (hauth : r.auth = l.windows.flatMap authWrites) (hcr : l.line.getLast? = some cr) :
    pushFifo r lf = { r with
      strFifo := List.replicate 50 sp
      contentLength := announced (l.next lf).windows
      auth := (l.next lf).windows.flatMap authWrites } := by
  obtain ⟨x, hx⟩ := hfifo
  obtain ⟨line, hline⟩ : ∃ line, l.line = line ++ [cr] :=
    ⟨_, (List.dropLast_append_getLast? cr hcr).symm⟩
  have hset : r.strFifo.set 49 lf = Window.last sp 48 line ++ [cr, lf] := by
    rw [hx, set_window sp 49 l.line [x] 0 lf, hline, Window.last_snoc, List.append_assoc]
    rfl
  have hnext : l.next lf = ⟨[], l.windows ++ [Window.last sp 48 line]⟩ := by
    rw [Lines.next, if_pos ⟨hcr, rfl⟩, hline, List.dropLast_concat]
  have hcr48 : (Window.last sp 48 line ++ [cr, lf]).getD 48 0 = cr :=
    getD_window sp 48 line [cr, lf] 0
  have hlf49 : (Window.last sp 48 line ++ [cr, lf]).getD 49 0 = lf :=
    getD_window sp 48 line [cr, lf] 1
  have hclear : ((Window.last sp 48 line ++ [cr, lf]).set 48 0).set 49 0 =
      Window.last sp 48 line ++ [0, 0] := by
    rw [set_window sp 48 line [cr, lf] 0, set_window sp 48 line _ 1]
    rfl
  unfold pushFifo
  dsimp only
  rw [hset, hlf49, hcr48, if_pos ⟨rfl, rfl⟩, hclear, readLength_append_nul,
    authWrites_append_nul, hlength, hauth, hnext]
  simp only [announced, List.foldl_append, List.foldl_cons, List.foldl_nil, List.flatMap_append,
    List.flatMap_cons, List.flatMap_nil, List.append_nil]

/-- Any other byte moves the fifo on by one. -/
theorem pushFifo_open {r : Request} {l : Lines} (hfifo : FifoShows r.strFifo l.line) {d : UInt8}
    (hopen : ¬ (l.line.getLast? = some cr ∧ d = lf)) :
    pushFifo r d = { r with strFifo := Window.last sp 49 (l.line ++ [d]) ++ [d] } := by
  obtain ⟨x, hx⟩ := hfifo
  have hset : r.strFifo.set 49 d = Window.last sp 49 l.line ++ [d] := by
    rw [hx]
    exact set_window sp 49 l.line [x] 0 d
  have hlast : (Window.last sp 49 l.line ++ [d]).getD 49 0 = d := getD_window sp 49 l.line [d] 0
  have hshift : shiftDown (Window.last sp 49 l.line ++ [d]) =
      Window.last sp 49 (l.line ++ [d]) ++ [d] := by
    rw [shiftDown, ← Window.last_shift, List.length_append, Window.last_length,
      List.length_singleton, List.drop_append, Window.last_length,
      List.drop_eq_nil_of_le (by rw [Window.last_length])]
    rfl
  unfold pushFifo
  dsimp only
  rw [hset, hlast, if_neg (fun h => hopen ⟨(getD_carriageReturn _ _).mp h.1, h.2⟩), hshift]

/-- What a byte does to the fifo is what it does to the line. -/
theorem pushFifo_next {r : Request} {l : Lines} (hfifo : FifoShows r.strFifo l.line)
    (hlength : r.contentLength = announced l.windows)
    (hauth : r.auth = l.windows.flatMap authWrites) (d : UInt8) :
    ∃ fifo, FifoShows fifo (l.next d).line ∧
      pushFifo r d = { r with
        strFifo := fifo
        contentLength := announced (l.next d).windows
        auth := (l.next d).windows.flatMap authWrites } := by
  by_cases hclose : l.line.getLast? = some cr ∧ d = lf
  · obtain ⟨hcr, rfl⟩ := hclose
    have hline : (l.next lf).line = [] := by rw [Lines.next, if_pos ⟨hcr, rfl⟩]
    refine ⟨List.replicate 50 sp, ⟨sp, ?_⟩, pushFifo_close hfifo hlength hauth hcr⟩
    rw [hline, Window.last_nil]
    rfl
  · have hnext : l.next d = ⟨l.line ++ [d], l.windows⟩ := by rw [Lines.next, if_neg hclose]
    refine ⟨Window.last sp 49 (l.line ++ [d]) ++ [d], ⟨d, by rw [hnext]⟩, ?_⟩
    rw [pushFifo_open hfifo hclose, hnext, ← hlength, ← hauth]

/-- The parser in its last state shows a scan: fifo, window, announced length and
stored body. -/
structure Shows (r : Request) (s : Scan) : Prop where
  state : r.state = .getContent
  fifo : FifoShows r.strFifo s.lines.line
  head : r.contentHead = Window.last 0 4 s.head
  length : r.contentLength = announced s.lines.windows
  auth : r.auth = s.lines.windows.flatMap authWrites
  ptr : r.contentPtr.toNat = s.body.length
  content : r.content = s.body.zipIdx

theorem Shows.blank {r : Request} {s : Scan} (h : Shows r s) :
    r.contentHead = blankLine ↔ blankLine <:+ s.head := by
  have hlen : blankLine.length = 4 := rfl
  rw [h.head, Window.last_eq_iff_suffix hlen]
  intro y hy
  cases hy
  decide

/-- The window of the header moves on by one byte. -/
theorem contentHead_next (head : List UInt8) (d : UInt8) :
    (shiftDown (Window.last 0 4 head)).set 3 d = Window.last 0 4 (head ++ [d]) := by
  have hone : ((Window.last 0 4 head).drop 3).length = 1 := by
    rw [List.length_drop, Window.last_length]
  obtain ⟨b, hb⟩ := List.length_eq_one_iff.mp hone
  rw [shiftDown, Window.last_length, hb, Window.last_shift,
    List.drop_append_of_le_length (by rw [Window.last_length]; decide),
    List.set_append_right _ _ (by rw [List.length_drop, Window.last_length]), List.length_drop,
    Window.last_length]
  rfl

/-- A byte that is stored grows the buffer, and the counter with it. -/
theorem storePtr_next {ptr size : UInt8} {body : List UInt8} (hptr : ptr.toNat = body.length)
    (hroom : body.length < size.toNat) (d : UInt8) :
    (ptr + 1).toNat = (body ++ [d]).length ∧
      body.zipIdx ++ [(d, ptr.toNat)] = (body ++ [d]).zipIdx := by
  have hsize := size.toNat_lt
  constructor
  · rw [UInt8.toNat_add, hptr, List.length_append, List.length_singleton]
    simp only [UInt8.reduceToNat]
    omega
  · rw [hptr, List.zipIdx_append]
    simp

/-- One byte: the parser does what the scan does. -/
theorem processByte_read {sz : Sizes} {r : Request} {s : Scan} (h : Shows r s) (d : UInt8) :
    ∃ r', processByte sz r d = (r', decide (s.Full sz.contentSize d)) ∧
      Shows r' (s.after sz.contentSize d) ∧ r'.method = r.method ∧ r'.filename = r.filename := by
  obtain ⟨fifo, hfifo, hpush⟩ := pushFifo_next h.fifo h.length h.auth d
  have hbyte := h.blank
  unfold processByte
  rw [h.state]
  dsimp only
  rw [hpush]
  dsimp only
  by_cases hblank : blankLine <:+ s.head
  · rw [if_pos (hbyte.mpr hblank)]
    have hroom_iff : (r.contentPtr < sz.contentSize ∧
          (r.contentPtr.toNat : Int) < announced (s.lines.next d).windows) ↔
        s.body.length < sz.contentSize.toNat ∧
          (s.body.length : Int) < announced (s.lines.next d).windows := by
      rw [UInt8.lt_iff_toNat_lt, h.ptr]
    by_cases hroom : s.body.length < sz.contentSize.toNat ∧
        (s.body.length : Int) < announced (s.lines.next d).windows
    · have hnot : ¬ s.Full sz.contentSize d := fun hfull => hfull.2 hroom
      rw [if_pos (hroom_iff.mpr hroom), Scan.after, if_neg hnot, Scan.next, if_pos hblank]
      refine ⟨_, Prod.ext rfl (decide_eq_false hnot).symm, ?_, rfl, rfl⟩
      obtain ⟨hptr, hlog⟩ := storePtr_next h.ptr hroom.1 d
      refine ⟨h.state, hfifo, h.head, rfl, rfl, hptr, ?_⟩
      show r.content ++ [(d, r.contentPtr.toNat)] = (s.body ++ [d]).zipIdx
      rw [h.content, hlog]
    · have hfull : s.Full sz.contentSize d := ⟨hblank, hroom⟩
      rw [if_neg (fun hptr => hroom (hroom_iff.mp hptr)), Scan.after, if_pos hfull]
      refine ⟨_, Prod.ext rfl (decide_eq_true hfull).symm, ?_, rfl, rfl⟩
      exact ⟨h.state, hfifo, h.head, rfl, rfl, h.ptr, h.content⟩
  · have hnot : ¬ s.Full sz.contentSize d := fun hfull => hblank hfull.1
    rw [if_neg (fun hb => hblank (hbyte.mp hb)), Scan.after, if_neg hnot, Scan.next, if_neg hblank]
    refine ⟨_, Prod.ext rfl (decide_eq_false hnot).symm, ?_, rfl, rfl⟩
    refine ⟨h.state, hfifo, ?_, rfl, rfl, h.ptr, h.content⟩
    show (shiftDown r.contentHead).set 3 d = Window.last 0 4 (s.head ++ [d])
    rw [h.head]
    exact contentHead_next s.head d

/-- **The parser reads a stream as the scan does.** -/
theorem processBytes_read {sz : Sizes} {r : Request} {s : Scan} (h : Shows r s)
    (stream : List UInt8) :
    ∃ r', processBytes sz r stream = (r', (s.read sz.contentSize stream).2) ∧
      Shows r' (s.read sz.contentSize stream).1 ∧
      r'.method = r.method ∧ r'.filename = r.filename := by
  induction stream generalizing r s with
  | nil => exact ⟨r, rfl, h, rfl, rfl⟩
  | cons d stream ih =>
    obtain ⟨r₁, hbyte, hshows₁, hmethod₁, hfilename₁⟩ := @processByte_read sz r s h d
    rw [Scan.read]
    by_cases hfull : s.Full sz.contentSize d
    · rw [decide_eq_true hfull] at hbyte
      rw [if_pos hfull]
      exact ⟨r₁, processBytes_cons_of_return hbyte stream, hshows₁, hmethod₁, hfilename₁⟩
    · rw [decide_eq_false hfull] at hbyte
      rw [if_neg hfull]
      obtain ⟨r₂, hrest, hshows₂, hmethod₂, hfilename₂⟩ := ih hshows₁
      refine ⟨r₂, ?_, hshows₂, hmethod₂.trans hmethod₁, hfilename₂.trans hfilename₁⟩
      rw [processBytes_cons hbyte, hrest]

/-! The two words in front. -/

/-- The stream behind its first space. -/
def behindSpace (stream : List UInt8) : List UInt8 := (stream.dropWhile (· ≠ sp)).drop 1

def firstWord (stream : List UInt8) : List UInt8 := stream.takeWhile (· ≠ sp)

/-- The stream behind the request target. -/
def contentPart (stream : List UInt8) : List UInt8 := behindSpace (behindSpace stream)

/-- A stream is a word, or a word, a space and the rest. -/
theorem firstWord_cases (stream : List UInt8) :
    (sp ∉ firstWord stream) ∧ (stream = firstWord stream ++ sp :: behindSpace stream ∨
      (stream = firstWord stream ∧ behindSpace stream = [])) := by
  have hword : sp ∉ firstWord stream := by
    intro h
    simpa using List.mem_takeWhile_imp h
  refine ⟨hword, ?_⟩
  have hsplit :=
    (List.takeWhile_append_dropWhile (p := fun b => decide (b ≠ sp)) (l := stream)).symm
  cases hrest : stream.dropWhile (fun b => decide (b ≠ sp)) with
  | nil =>
    rw [hrest, List.append_nil] at hsplit
    exact .inr ⟨hsplit, by rw [behindSpace, hrest]; rfl⟩
  | cons b rest =>
    have hb : b = sp := by
      have hnot := List.head?_dropWhile_not (fun b => decide (b ≠ sp)) stream
      rw [hrest] at hnot
      simpa using hnot
    subst hb
    left
    rw [hrest] at hsplit
    rw [behindSpace, hrest]
    exact hsplit

/-- A word goes to a buffer while the buffer has room. `withBuffer log ptr` is the
parser with this buffer and its counter. -/
theorem processBytes_word {sz : Sizes} {size : UInt8} {withBuffer : Writes → UInt8 → Request}
    (hbyte : ∀ log ptr d, d ≠ sp → processByte sz (withBuffer log ptr) d =
      (if ptr < size then withBuffer (log ++ [(d, ptr.toNat)]) (ptr + 1) else withBuffer log ptr,
        false))
    {word : List UInt8} (hword : sp ∉ word) :
    ∀ (stored : List UInt8) (ptr : UInt8), ptr.toNat = stored.length →
      stored.length ≤ size.toNat →
      ∃ ptr', processBytes sz (withBuffer stored.zipIdx ptr) word =
        (withBuffer (stored ++ word.take (size.toNat - stored.length)).zipIdx ptr', false) := by
  induction word with
  | nil =>
    intro stored ptr _ _
    exact ⟨ptr, by simp [processBytes]⟩
  | cons d word ih =>
    intro stored ptr hptr hle
    have hd : d ≠ sp := fun h => hword (h ▸ List.mem_cons_self)
    have hrest : sp ∉ word := fun h => hword (List.mem_cons_of_mem d h)
    have hstep := hbyte stored.zipIdx ptr d hd
    by_cases hroom : stored.length < size.toNat
    · have hlt : ptr < size := by
        rw [UInt8.lt_iff_toNat_lt, hptr]
        exact hroom
      obtain ⟨hnext, hlog⟩ := storePtr_next hptr hroom d
      obtain ⟨ptr', hrun⟩ := ih hrest (stored ++ [d]) (ptr + 1) hnext (by
        rw [List.length_append, List.length_singleton]
        omega)
      refine ⟨ptr', ?_⟩
      rw [if_pos hlt, hlog] at hstep
      obtain ⟨room, hcount⟩ : ∃ room, size.toNat - stored.length = room + 1 :=
        ⟨size.toNat - stored.length - 1, by omega⟩
      have hroom' : size.toNat - (stored ++ [d]).length = room := by
        rw [List.length_append, List.length_singleton]
        omega
      rw [processBytes_cons hstep, hrun, hroom', hcount, List.take_succ_cons, List.append_assoc,
        List.singleton_append]
    · have hge : ¬ ptr < size := by
        rw [UInt8.lt_iff_toNat_lt, hptr]
        exact hroom
      obtain ⟨ptr', hrun⟩ := ih hrest stored ptr hptr hle
      have hzero : size.toNat - stored.length = 0 := by omega
      rw [if_neg hge] at hstep
      rw [hzero, List.take_zero] at hrun
      exact ⟨ptr', by rw [processBytes_cons hstep, hrun, hzero, List.take_zero]⟩

theorem Shows.start {r : Request} (hstate : r.state = .getContent)
    (hfifo : r.strFifo = List.replicate 50 sp) (hhead : r.contentHead = List.replicate 4 0)
    (hlength : r.contentLength = 0) (hptr : r.contentPtr = 0) (hcontent : r.content = [])
    (hauth : r.auth = []) : Shows r Scan.start := by
  refine ⟨hstate, ⟨sp, ?_⟩, ?_, hlength, hauth, ?_, hcontent⟩
  · rw [hfifo]
    rfl
  · rw [hhead]
    rfl
  · rw [hptr]
    rfl

/-- What a run from the beginning reads of a stream. -/
def scanOf (sz : Sizes) (stream : List UInt8) : Scan :=
  (Scan.start.read sz.contentSize (contentPart stream)).1

/-- The parser behind the method, in the method state. -/
theorem processBytes_firstWord (sz : Sizes) {word : List UInt8} (hword : sp ∉ word) :
    ∃ ptr, processBytes sz .start word = ({ Request.start with
      method := (word.take sz.methodSize.toNat).zipIdx
      methodPtr := ptr }, false) := by
  have hbyte : ∀ log ptr d, d ≠ sp →
      processByte sz { Request.start with method := log, methodPtr := ptr } d =
        (if ptr < sz.methodSize then
          { Request.start with method := log ++ [(d, ptr.toNat)], methodPtr := ptr + 1 }
        else { Request.start with method := log, methodPtr := ptr }, false) := by
    intro log ptr d hd
    simp only [processByte, Request.start, if_pos hd]
    split <;> rfl
  obtain ⟨ptr, hrun⟩ := @processBytes_word sz sz.methodSize (fun log ptr =>
    { Request.start with method := log, methodPtr := ptr }) hbyte word hword [] 0 rfl
    (Nat.zero_le _)
  exact ⟨ptr, hrun⟩

/-- The parser behind the request target, in the filename state. -/
theorem processBytes_secondWord (sz : Sizes) (r : Request) (hstate : r.state = .getFilename)
    (hlog : r.filename = []) (hptr : r.filenamePtr = 0) {word : List UInt8} (hword : sp ∉ word) :
    ∃ ptr, processBytes sz r word = ({ r with
      filename := (word.take sz.filenameSize.toNat).zipIdx
      filenamePtr := ptr }, false) := by
  have hbyte : ∀ log ptr d, d ≠ sp →
      processByte sz { r with filename := log, filenamePtr := ptr } d =
        (if ptr < sz.filenameSize then
          { r with filename := log ++ [(d, ptr.toNat)], filenamePtr := ptr + 1 }
        else { r with filename := log, filenamePtr := ptr }, false) := by
    intro log ptr d hd
    simp only [processByte, hstate, if_pos hd]
    split <;> rfl
  obtain ⟨ptr, hrun⟩ := @processBytes_word sz sz.filenameSize (fun log ptr =>
    { r with filename := log, filenamePtr := ptr }) hbyte word hword [] 0 rfl (Nat.zero_le _)
  refine ⟨ptr, ?_⟩
  have hr : ({ r with filename := [], filenamePtr := 0 } : Request) = r := by
    rw [← hlog, ← hptr]
  simp only [List.zipIdx_nil, List.nil_append, List.length_nil, Nat.sub_zero, hr] at hrun
  exact hrun

/-- What the parser stores behind the first space. -/
theorem processBytes_target (sz : Sizes) (method : Writes) (methodPtr : UInt8)
    (rest : List UInt8) :
    let r := (processBytes sz
      { Request.start with state := .getFilename, method, methodPtr } rest).1
    r.method = method ∧
      r.filename = ((firstWord rest).take sz.filenameSize.toNat).zipIdx ∧
      r.content = (Scan.start.read sz.contentSize (behindSpace rest)).1.body.zipIdx ∧
      r.auth =
        (Scan.start.read sz.contentSize (behindSpace rest)).1.lines.windows.flatMap authWrites := by
  intro r
  obtain ⟨hword, hsplit⟩ := firstWord_cases rest
  obtain ⟨p, hrun⟩ := processBytes_secondWord sz
    { Request.start with state := .getFilename, method, methodPtr } rfl rfl rfl hword
  rcases hsplit with hrest | ⟨hrest, hnone⟩
  · -- a second space: the scan begins
    have hshows : Shows { Request.start with
        state := .getContent
        method, methodPtr
        filename := ((firstWord rest).take sz.filenameSize.toNat).zipIdx
        filenamePtr := p } Scan.start := Shows.start rfl rfl rfl rfl rfl rfl rfl
    obtain ⟨r', hread, hshows', hmethod, hfilename⟩ :=
      @processBytes_read sz _ _ hshows (behindSpace rest)
    have hall : processBytes sz
        { Request.start with state := .getFilename, method, methodPtr } rest =
          (r', (Scan.start.read sz.contentSize (behindSpace rest)).2) := by
      conv_lhs => rw [hrest]
      rw [processBytes_append hrun, ← hread]
      exact processBytes_cons rfl _
    have hr : r = r' := congrArg Prod.fst hall
    rw [hr]
    exact ⟨hmethod, hfilename, hshows'.content, hshows'.auth⟩
  · rw [← hrest] at hrun
    have hr : r = _ := congrArg Prod.fst hrun
    rw [hr, hnone, ← hrest]
    exact ⟨rfl, rfl, rfl, rfl⟩

/-- **What the parser has stored of a stream**: the two words, cut to their
buffers, what the lines it read give away, and the body it read. -/
theorem processBytes_start (sz : Sizes) (stream : List UInt8) :
    (processBytes sz .start stream).1.method =
        ((firstWord stream).take sz.methodSize.toNat).zipIdx ∧
      (processBytes sz .start stream).1.filename =
        ((firstWord (behindSpace stream)).take sz.filenameSize.toNat).zipIdx ∧
      (processBytes sz .start stream).1.content = (scanOf sz stream).body.zipIdx ∧
      (processBytes sz .start stream).1.auth =
        (scanOf sz stream).lines.windows.flatMap authWrites := by
  obtain ⟨hword, hsplit⟩ := firstWord_cases stream
  obtain ⟨p, hrun⟩ := processBytes_firstWord sz hword
  rcases hsplit with hstream | ⟨hstream, hnone⟩
  · -- a first space: the parser goes on to the target
    have hreach : processBytes sz .start stream = processBytes sz
        { Request.start with
          state := .getFilename
          method := ((firstWord stream).take sz.methodSize.toNat).zipIdx
          methodPtr := p } (behindSpace stream) := by
      conv_lhs => rw [hstream]
      rw [processBytes_append hrun]
      exact processBytes_cons rfl _
    rw [hreach]
    exact processBytes_target sz _ p (behindSpace stream)
  · have hcontent : contentPart stream = [] := by
      rw [contentPart, hnone]
      rfl
    rw [← hstream] at hrun
    rw [scanOf, hcontent, hnone, hrun, ← hstream]
    exact ⟨rfl, by simp [firstWord, Request.start], rfl, rfl⟩

end SpiderL3S
