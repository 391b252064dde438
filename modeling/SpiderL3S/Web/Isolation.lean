import SpiderL3S.Web.Header

/- Whether a body can change what the header has said. The lines of the body go
   through the same fifo as those of the header, so a body that contains the text
   of a header field is taken for one. The main result says for which requests no
   body can do it: those of which at most 17 body bytes are stored, one less than
   the shortest line that changes the announced length. -/
namespace SpiderL3S

/-- No two bodies of length `n` behind `head` end with different credentials or
different amounts of stored content, however they are received. -/
def Isolated (sz : Sizes) (head : List UInt8) (n : Nat) : Prop :=
  ∀ body₁ body₂ : List UInt8, body₁.length = n → body₂.length = n →
    ∀ start₁ polls₁ start₂ polls₂, received start₁ polls₁ = head ++ body₁ →
      received start₂ polls₂ = head ++ body₂ →
      let r₁ := (webServerProcessRequest sz start₁ polls₁).1
      let r₂ := (webServerProcessRequest sz start₂ polls₂).1
      (∀ auth : Mem, r₁.auth.applyTo auth = r₂.auth.applyTo auth) ∧
        r₁.content.length = r₂.content.length

/-! Short lines. -/

/-- What `strstr` finds in a window ends in the line. -/
theorem strstr_window {t needle str : List UInt8} (hne : needle ≠ [])
    (hsp : ∀ y ∈ needle.head?, y ≠ sp)
    (h : CString.strstr (Window.last sp 48 t) needle = some str) :
    needle <+: str ∧ str.length ≤ t.length := by
  obtain ⟨hbegin, hend⟩ := CString.strstr_some h
  refine ⟨hbegin, ?_⟩
  obtain ⟨rest, hrest⟩ := CString.text_isPrefix (Window.last sp 48 t)
  obtain ⟨front, hfront⟩ := hend
  have hsuffix : str ++ rest <:+ Window.last sp 48 t :=
    ⟨front, by rw [← hrest, ← hfront, List.append_assoc]⟩
  have hhead : ∀ y ∈ (str ++ rest).head?, y ≠ sp := by
    obtain ⟨tail, rfl⟩ := hbegin
    cases needle with
    | nil => exact absurd rfl hne
    | cons y needle => exact hsp
  have hlen := (Window.suffix_of_suffix_last hhead hsuffix).length_le
  rw [List.length_append] at hlen
  omega

/-- A line of at most 16 bytes leaves the announced length or sets it to a digit. -/
theorem readLength_short (n : Int) {t : List UInt8} (h : t.length ≤ 16) :
    readLength n (Window.last sp 48 t) = n ∨
      (readLength n (Window.last sp 48 t) ≤ 9 ∧ t.length = 16) := by
  unfold readLength
  cases hstr : CString.strstr (Window.last sp 48 t) contentLengthField with
  | none => exact .inl rfl
  | some str =>
    obtain ⟨hbegin, hlen⟩ := strstr_window (by decide) contentLengthField_head hstr
    have hfield : contentLengthField.length = 15 := by decide
    have hrest : (str.drop contentLengthField.length).length ≤ t.length - 15 := by
      rw [List.length_drop, hfield]
      omega
    cases hint : CString.scanInt (str.drop contentLengthField.length) with
    | none =>
      left
      rw [Option.bind_some, hint]
    | some v =>
      right
      have hv := CString.scanInt_natAbs_lt hint
      have hpos : 0 < (str.drop contentLengthField.length).length := by
        rw [List.length_pos_iff]
        intro hnil
        have hempty : CString.scanInt [] = none := by decide
        rw [hnil, hempty] at hint
        cases hint
      have hone : (str.drop contentLengthField.length).length = 1 := by omega
      rw [hone] at hv
      refine ⟨?_, by omega⟩
      rw [Option.bind_some, hint]
      show v.bmod 65536 ≤ 9
      rw [Int.bmod_eq_of_le (by omega) (by omega)]
      omega

/-- A line of at most 20 bytes carries no credentials. -/
theorem authWrites_short {t : List UInt8} (h : t.length ≤ 20) :
    authWrites (Window.last sp 48 t) = [] := by
  apply authWrites_of_not_infix
  intro hin
  have hlen := hin.length_le
  have hfield : authorizationBasic.length = 21 := by decide
  omega

section
variable {l : Lines} {p : List UInt8}

/-- The lines in a few bytes behind a line end are shorter by their own ends. -/
theorem windows_short (hline : l.line = []) :
    ∃ new, (l.run p).windows = l.windows ++ new ∧
      ∀ w ∈ new, ∃ t, w = Window.last sp 48 t ∧ t.length + 2 ≤ p.length := by
  obtain ⟨-, new, hwindows, hnew⟩ := l.run_windows p
  refine ⟨new, hwindows, fun w hw => ?_⟩
  obtain ⟨t, ht, hin⟩ := hnew w hw
  rw [hline, List.nil_append] at hin
  have hlen := hin.length_le
  rw [List.length_append] at hlen
  exact ⟨t, ht, hlen⟩

theorem foldl_readLength_short {ws : List (List UInt8)}
    (h : ∀ w ∈ ws, ∃ t, w = Window.last sp 48 t ∧ t.length ≤ 16) :
    ∀ n : Int, ws.foldl readLength n = n ∨ ws.foldl readLength n ≤ 9 := by
  induction ws with
  | nil => exact fun n => .inl rfl
  | cons w ws ih =>
    intro n
    obtain ⟨t, rfl, ht⟩ := h w List.mem_cons_self
    rw [List.foldl_cons]
    have hrest := ih (fun v hv => h v (List.mem_cons_of_mem _ hv))
    rcases hrest (readLength n (Window.last sp 48 t)) with hsame | hsmall
    · rw [hsame]
      exact (readLength_short n ht).imp id And.left
    · exact .inr hsmall

/-- Seventeen bytes behind a line end announce nothing. -/
theorem announced_seventeen (hline : l.line = []) (hp : p.length ≤ 17) :
    announced (l.run p).windows = announced l.windows := by
  obtain ⟨new, hwindows, hnew⟩ := windows_short (p := p) hline
  rw [hwindows, announced_append]
  refine foldl_readLength (fun w hw n => ?_) _
  obtain ⟨t, rfl, hlen⟩ := hnew w hw
  rcases readLength_short n (t := t) (by omega) with hsame | ⟨-, hsixteen⟩
  · exact hsame
  · omega

/-- Eighteen bytes behind a line end announce nothing or a digit. -/
theorem announced_eighteen (hline : l.line = []) (hp : p.length ≤ 18) :
    announced (l.run p).windows = announced l.windows ∨ announced (l.run p).windows ≤ 9 := by
  obtain ⟨new, hwindows, hnew⟩ := windows_short (p := p) hline
  rw [hwindows, announced_append]
  refine foldl_readLength_short (fun w hw => ?_) _
  obtain ⟨t, ht, hlen⟩ := hnew w hw
  exact ⟨t, ht, by omega⟩

/-- Eighteen bytes behind a line end carry no credentials. -/
theorem authWrites_eighteen (hline : l.line = []) (hp : p.length ≤ 18) :
    (l.run p).windows.flatMap authWrites = l.windows.flatMap authWrites := by
  obtain ⟨new, hwindows, hnew⟩ := windows_short (p := p) hline
  have hnil : new.flatMap authWrites = [] := by
    rw [List.flatMap_eq_nil_iff]
    intro w hw
    obtain ⟨t, rfl, hlen⟩ := hnew w hw
    exact authWrites_short (by omega)
  rw [hwindows, List.flatMap_append, hnil, List.append_nil]

end

/-! Bodies. -/

/-- How much of a body of `n` bytes is stored, if nothing in it is taken for a
header field. -/
def storedLength (size : UInt8) (announcedLength : Int) (n : Nat) : Nat :=
  min n (min size.toNat announcedLength.toNat)

section
variable {size : UInt8} {s : Scan}

/-- Up to 17 bytes are stored as far as they are announced, and the parser returns
within them if they are more. -/
theorem read_seventeen (hblank : blankLine <:+ s.head) (hline : s.lines.line = [])
    (hbody : s.body = []) {b : List UInt8} (hb : b.length ≤ 17) :
    (s.read size b).1.body.length = storedLength size (announced s.lines.windows) b.length ∧
      (s.read size b).2 =
        decide (min size.toNat (announced s.lines.windows).toNat < b.length) := by
  have hann : ∀ p, p <+: b →
      announced (s.lines.run p).windows = announced s.lines.windows := by
    intro p hp
    have hlen := hp.length_le
    exact announced_seventeen hline (by omega)
  obtain ⟨hfirst, hflag⟩ := Scan.read_body size hblank hann (by simp [hbody])
  rw [hbody, List.length_nil, Nat.zero_add] at hflag
  rw [hbody, List.nil_append, List.length_nil, Nat.sub_zero] at hfirst
  refine ⟨?_, hflag⟩
  rw [hfirst, List.length_take, storedLength, Nat.min_comm]

/-- The parser returns on a byte that finds the content full, and does not store
it. -/
theorem read_full (hblank : blankLine <:+ s.head) {front : List UInt8} {d : UInt8}
    (hflag : (s.read size front).2 = false) (hfull : (s.read size front).1.Full size d)
    (rest : List UInt8) :
    (s.read size (front ++ d :: rest)).1.body = (s.read size front).1.body := by
  have hhead := Scan.read_keeps_head size s (b := front) hblank
  have hkeeps := Scan.after_body size (s := (s.read size front).1)
    (by rw [hhead]; exact hblank) d
  rw [if_pos hfull] at hkeeps
  rw [Scan.read_append, if_neg (by rw [hflag]; exact Bool.false_ne_true), Scan.read,
    if_pos hfull, hkeeps]

/-- The eighteenth byte announces at most a digit, so with 17 bytes to store the
parser returns on it. -/
theorem full_eighteen (hblank : blankLine <:+ s.head) (hline : s.lines.line = [])
    {front : List UInt8} {d : UInt8} (hflag : (s.read size front).2 = false)
    (hstored : (s.read size front).1.body.length = 17) (hfront : front.length = 17)
    (hroom : min size.toNat (announced s.lines.windows).toNat ≤ 17) :
    (s.read size front).1.Full size d := by
  have hlines : (s.read size front).1.lines.next d = s.lines.run (front ++ [d]) := by
    rw [Scan.read_all size s hflag, Lines.run_snoc]
  have heighteen := announced_eighteen (p := front ++ [d]) hline (by
    rw [List.length_append, List.length_singleton, hfront])
  refine ⟨by rw [Scan.read_keeps_head size s hblank]; exact hblank, ?_⟩
  rw [hstored, hlines]
  rcases heighteen with hsame | hdigit
  · rw [hsame]
    omega
  · omega

/-- A body of which at most 17 bytes are to be stored is stored as announced. -/
theorem read_short_length (hblank : blankLine <:+ s.head) (hline : s.lines.line = [])
    (hbody : s.body = []) (b : List UInt8)
    (hshort : storedLength size (announced s.lines.windows) b.length ≤ 17) :
    (s.read size b).1.body.length = storedLength size (announced s.lines.windows) b.length := by
  have htake : (b.take 17).length = min 17 b.length := List.length_take
  obtain ⟨hfirst, hflag⟩ := @read_seventeen size s hblank hline hbody (b.take 17) (by omega)
  rw [htake] at hfirst hflag
  cases hrest : b.drop 17 with
  | nil =>
    have hle : b.length ≤ 17 := List.drop_eq_nil_iff.mp hrest
    rw [List.take_of_length_le hle] at hfirst
    rw [hfirst, Nat.min_eq_right hle]
  | cons d rest =>
    have hlt : 17 < b.length := by
      by_contra hle
      rw [List.drop_eq_nil_of_le (by omega)] at hrest
      cases hrest
    have hsplit : b = b.take 17 ++ d :: rest := by rw [← hrest, List.take_append_drop]
    unfold storedLength at hshort hfirst ⊢
    by_cases hstop : min size.toNat (announced s.lines.windows).toNat < min 17 b.length
    · -- the parser returns within the first 17 bytes
      rw [decide_eq_true hstop] at hflag
      rw [hsplit, Scan.read_append, if_pos hflag, hfirst, ← hsplit]
      omega
    · rw [decide_eq_false hstop] at hflag
      have hstored : (s.read size (b.take 17)).1.body.length = 17 := by omega
      have hfull : (s.read size (b.take 17)).1.Full size d :=
        full_eighteen hblank hline hflag hstored (by omega) (by omega)
      have hcut := congrArg List.length (read_full hblank hflag hfull rest)
      rw [← hsplit, hstored] at hcut
      omega

/-- **Short bodies say nothing.** Behind a header, a body of which at most 17
bytes are to be stored is stored as announced and carries no credentials. -/
theorem read_short (hblank : blankLine <:+ s.head) (hline : s.lines.line = []) (hbody : s.body = [])
    (b : List UInt8)
    (hshort : storedLength size (announced s.lines.windows) b.length ≤ 17) :
    (s.read size b).1.body.length = storedLength size (announced s.lines.windows) b.length ∧
      (s.read size b).1.lines.windows.flatMap authWrites =
        s.lines.windows.flatMap authWrites := by
  have hlength := read_short_length hblank hline hbody b hshort
  refine ⟨hlength, ?_⟩
  -- one byte more than is stored has been read
  obtain ⟨p, -, hlines, hp⟩ := Scan.read_lines size (b := b) s
  have hplen := hp hblank
  rw [hbody, List.length_nil, Nat.zero_add, hlength] at hplen
  rw [hlines, authWrites_eighteen hline (by omega)]

/-- A body that looks like no header field is stored as announced. -/
theorem read_plain (hblank : blankLine <:+ s.head) (hline : s.lines.line = []) (hbody : s.body = [])
    (n : Nat) :
    (s.read size (List.replicate n 0x61)).1.body.length =
      storedLength size (announced s.lines.windows) n := by
  have hann : ∀ p, p <+: List.replicate n 0x61 →
      announced (s.lines.run p).windows = announced s.lines.windows := by
    intro p hp
    apply announced_run s.lines
    rw [hline, List.nil_append]
    intro hin
    have hmem : (0x43 : UInt8) ∈ List.replicate n 0x61 :=
      hp.subset (hin.subset (by decide))
    exact absurd (List.eq_of_mem_replicate hmem) (by decide)
  obtain ⟨hfirst, -⟩ := Scan.read_body size hblank hann (by simp [hbody])
  rw [hfirst, hbody, storedLength]
  simp only [List.nil_append, List.length_nil, Nat.sub_zero, List.take_replicate,
    List.length_replicate]
  omega

/-- `"Content-Length:0"`, and its line end. -/
def zeroLength : List UInt8 := contentLengthField ++ [0x30] ++ crlf

/-- A body that begins with this line is cut off on the line feed. -/
theorem read_zeroLength (hblank : blankLine <:+ s.head) (hline : s.lines.line = [])
    (hbody : s.body = []) (hroom : 17 ≤ min size.toNat (announced s.lines.windows).toNat)
    (rest : List UInt8) : (s.read size (zeroLength ++ rest)).1.body.length = 17 := by
  let front : List UInt8 := contentLengthField ++ [0x30] ++ [cr]
  have hfront : front.length = 17 := by decide
  have hsplit : zeroLength ++ rest = front ++ lf :: rest := by
    simp [zeroLength, front]
  obtain ⟨hfirst, hflag⟩ := @read_seventeen size s hblank hline hbody front (Nat.le_of_eq hfront)
  rw [hfront, decide_eq_false (by omega)] at hflag
  rw [hfront, storedLength, Nat.min_eq_left hroom] at hfirst
  have hlines : (s.read size front).1.lines.next lf =
      s.lines.run (contentLengthField ++ [0x30] ++ crlf) := by
    rw [Scan.read_all size s hflag, ← Lines.run_snoc]
    rfl
  have hzero : ∀ n, readLength n (Window.last sp 48 (contentLengthField ++ [0x30])) = 0 := by
    intro n
    have hfound : ((CString.strstr (Window.last sp 48 (contentLengthField ++ [0x30]))
        contentLengthField).bind fun str =>
          CString.scanInt (str.drop contentLengthField.length)) = some 0 := by decide
    rw [readLength, hfound]
    rfl
  have hfull : (s.read size front).1.Full size lf := by
    refine ⟨by rw [Scan.read_keeps_head size s hblank]; exact hblank, ?_⟩
    rw [hlines, Lines.run_line _ (by decide), hline, List.nil_append, announced_append]
    simp only [List.foldl_cons, List.foldl_nil, hzero]
    omega
  rw [hsplit, read_full hblank hflag hfull rest]
  exact hfirst

end

/-- The length a header announces. -/
def announcedLength (head : List UInt8) : Int :=
  announced (behindHeader (contentPart head)).lines.windows

/-- What a run leaves of a request, however it is received. -/
theorem run_request (sz : Sizes) {head : List UInt8} (hhead : HeaderBlock (contentPart head))
    {start : UInt32} {polls : List Poll} {body : List UInt8}
    (hreceived : received start polls = head ++ body) :
    (webServerProcessRequest sz start polls).1.content.length =
        ((behindHeader (contentPart head)).read sz.contentSize body).1.body.length ∧
      (webServerProcessRequest sz start polls).1.auth =
        ((behindHeader (contentPart head)).read
          sz.contentSize body).1.lines.windows.flatMap authWrites := by
  obtain ⟨-, -, hcontent, hauth⟩ := processBytes_start sz (head ++ body)
  rw [webServerProcessRequest_eq, hreceived, hcontent, hauth, scanOf_request sz hhead,
    List.length_zipIdx]
  exact ⟨rfl, rfl⟩

/-- **No body can speak for the header exactly when at most 17 bytes of it are
stored**: for every header, every body length and every content size. -/
theorem isolated_iff (sz : Sizes) {head : List UInt8} (hhead : HeaderBlock (contentPart head))
    (n : Nat) :
    Isolated sz head n ↔ storedLength sz.contentSize (announcedLength head) n ≤ 17 := by
  have hblank : blankLine <:+ (behindHeader (contentPart head)).head := hhead.1
  have hline := behindHeader_line hhead
  have hbody : (behindHeader (contentPart head)).body = [] := rfl
  refine ⟨?_, ?_⟩
  · intro hisolated
    by_contra hlong
    -- from 18 stored bytes on, one body is plain and the other announces zero
    have hn : 18 ≤ n := by
      unfold storedLength at hlong
      omega
    have hzlen : zeroLength.length = 18 := by decide
    obtain ⟨polls₁, hpolls₁⟩ := exists_polls (head ++ List.replicate n 0x61)
    obtain ⟨polls₂, hpolls₂⟩ := exists_polls (head ++ (zeroLength ++ List.replicate (n - 18) 0x61))
    obtain ⟨-, hsame⟩ := hisolated (List.replicate n 0x61)
      (zeroLength ++ List.replicate (n - 18) 0x61) (by simp)
      (by rw [List.length_append, List.length_replicate, hzlen]; omega) 0 polls₁ 0 polls₂ hpolls₁
      hpolls₂
    rw [(run_request sz hhead hpolls₁).1, (run_request sz hhead hpolls₂).1,
      read_plain hblank hline hbody, read_zeroLength hblank hline hbody] at hsame
    · unfold announcedLength at hlong
      omega
    · unfold storedLength announcedLength at hlong
      omega
  · intro hshort body₁ body₂ hlen₁ hlen₂ start₁ polls₁ start₂ polls₂ hreceived₁ hreceived₂
    obtain ⟨hcontent₁, hauth₁⟩ := run_request sz hhead hreceived₁
    obtain ⟨hcontent₂, hauth₂⟩ := run_request sz hhead hreceived₂
    obtain ⟨hstored₁, hkeep₁⟩ := @read_short sz.contentSize _ hblank hline hbody body₁
      (by rw [hlen₁]; exact hshort)
    obtain ⟨hstored₂, hkeep₂⟩ := @read_short sz.contentSize _ hblank hline hbody body₂
      (by rw [hlen₂]; exact hshort)
    refine ⟨?_, ?_⟩
    · intro auth
      rw [hauth₁, hauth₂, hkeep₁, hkeep₂]
    · rw [hcontent₁, hcontent₂, hstored₁, hstored₂, hlen₁, hlen₂]

/-- A request line, a length and a blank line. -/
def postHead (digits : List Char) : List UInt8 :=
  ascii ['P', ' ', '/', ' ', 'V'] ++ crlf ++ contentLengthField ++ ascii digits ++ crlf ++ crlf

/-- With a content buffer of 15 bytes, as in the shipped server, twenty body bytes
are isolated. -/
theorem isolated_post : Isolated ⟨5, 30, 15, 0⟩ (postHead ['2', '0']) 20 :=
  (isolated_iff ⟨5, 30, 15, 0⟩ (by decide) 20).mpr (by decide)

/-- With one of 20 bytes they are not: a body that begins with the line
`Content-Length:0` is cut off after 17 bytes. -/
theorem not_isolated_post :
    ¬ ∀ (sz : Sizes) (head : List UInt8) (n : Nat), HeaderBlock (contentPart head) →
      Isolated sz head n := by
  intro h
  obtain ⟨-, hsame⟩ := h ⟨5, 30, 20, 0⟩ (postHead ['2', '0']) 20 (by decide)
    (List.replicate 20 0x61) (zeroLength ++ [0x61, 0x61]) (by decide) (by decide)
    0 [⟨0, some ⟨postHead ['2', '0'] ++ List.replicate 20 0x61, by decide⟩, 0⟩]
    0 [⟨0, some ⟨postHead ['2', '0'] ++ (zeroLength ++ [0x61, 0x61]), by decide⟩, 0⟩]
    (by decide) (by decide)
  exact absurd hsame (by decide)

end SpiderL3S
