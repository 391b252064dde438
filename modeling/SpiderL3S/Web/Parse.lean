import SpiderL3S.Web.Header

/- The parser on well-formed requests. A request is a request line, header lines
   of which one announces the length of the body, an empty line and the body.
   The main result says that for every such request, however it is received, the
   three buffers get the method, the target and the body, cut to their sizes, and
   nothing else. -/
namespace SpiderL3S

/-- The parts of a request. The header line that announces the length stands
between `before` and `after`. -/
structure HttpRequest where
  method : List UInt8
  target : List UInt8
  version : List UInt8
  before : List (List UInt8)
  spaces : Nat
  digits : List UInt8
  after : List (List UInt8)
  body : List UInt8

namespace HttpRequest

/-- The line that announces the length. -/
def lengthLine (q : HttpRequest) : List UInt8 :=
  contentLengthField ++ (List.replicate q.spaces sp ++ q.digits)

def lines (q : HttpRequest) : List (List UInt8) := q.before ++ [q.lengthLine] ++ q.after

/-- The header behind the target: every line with its end, and an empty line. -/
def header (q : HttpRequest) : List UInt8 :=
  q.version ++ crlf ++ q.lines.flatMap (· ++ crlf) ++ crlf

/-- The bytes in front of the line that announces the length. -/
def front (q : HttpRequest) : List UInt8 :=
  q.method ++ [sp] ++ q.target ++ [sp] ++ q.version ++ crlf ++ q.before.flatMap (· ++ crlf)

def bytes (q : HttpRequest) : List UInt8 :=
  q.method ++ [sp] ++ q.target ++ [sp] ++ q.header ++ q.body

/-- No carriage return, line feed or NUL. -/
def Printable (t : List UInt8) : Prop := ∀ b ∈ t, b ≠ cr ∧ b ≠ lf ∧ b ≠ 0

theorem printable_iff {t : List UInt8} : Printable t ↔ cr ∉ t ∧ lf ∉ t ∧ 0 ∉ t := by
  constructor
  · intro h
    exact ⟨fun hb => (h _ hb).1 rfl, fun hb => (h _ hb).2.1 rfl, fun hb => (h _ hb).2.2 rfl⟩
  · intro ⟨hcr, hlf, hnul⟩ b hb
    exact ⟨fun h => hcr (h ▸ hb), fun h => hlf (h ▸ hb), fun h => hnul (h ▸ hb)⟩

instance (t : List UInt8) : Decidable (Printable t) := decidable_of_iff _ printable_iff.symm

/-- The requests the parser is for. `field` says that the only place of the
stream where the text of the length field occurs is its own line. -/
structure WellFormed (q : HttpRequest) : Prop where
  method_ne : q.method ≠ []
  method_word : sp ∉ q.method
  target_ne : q.target ≠ []
  target_word : sp ∉ q.target
  version : Printable q.version
  lines : ∀ t ∈ q.lines, Printable t
  digits_ne : q.digits ≠ []
  digits : ∀ d ∈ q.digits, CString.isDigit d = true
  value : CString.digitsValue q.digits = q.body.length
  small : q.body.length ≤ 32767
  fits : q.lengthLine.length ≤ 48
  field : ∀ u v, q.bytes = u ++ contentLengthField ++ v → u = q.front
  credentials : ¬ authorizationBasic <:+: q.bytes

/-- No header line is empty. -/
def NoEmptyLine (q : HttpRequest) : Prop := ∀ t ∈ q.lines, t ≠ []

/-! The shape of the stream. -/

theorem header_eq (q : HttpRequest) :
    q.header = (q.version :: q.lines).flatMap (· ++ crlf) ++ crlf := by
  simp [header]

theorem bytes_eq (q : HttpRequest) :
    q.bytes = q.method ++ sp :: (q.target ++ sp :: (q.header ++ q.body)) := by
  simp [bytes]

theorem takeWhile_word {w : List UInt8} (h : sp ∉ w) (rest : List UInt8) :
    firstWord (w ++ sp :: rest) = w ∧ behindSpace (w ++ sp :: rest) = rest := by
  have hall : ∀ b ∈ w, decide (b ≠ sp) = true := by
    intro b hb
    simp only [decide_eq_true_eq]
    exact fun heq => h (heq ▸ hb)
  refine ⟨?_, ?_⟩
  · rw [firstWord, List.takeWhile_append_of_pos hall]
    simp
  · rw [behindSpace, List.dropWhile_append_of_pos hall]
    simp

/-- A blank line that begins behind the first line's text is its end and an empty
line, or lies in what follows. -/
theorem blankLine_step {t x u v : List UInt8} (ht : cr ∉ t)
    (h : t ++ crlf ++ x = u ++ blankLine ++ v) :
    x = crlf ++ v ∨ ∃ u', x = u' ++ blankLine ++ v := by
  rw [List.append_assoc, List.append_assoc] at h
  rcases List.append_eq_append_iff.mp h with ⟨c, -, hc⟩ | ⟨c, htc, hc⟩
  · -- behind the text: on its end, between CR and LF, or further on
    match c with
    | [] => exact .inl (by simpa [blankLine] using hc)
    | [b] =>
      have hlf : lf = cr := by
        simp only [blankLine, List.cons_append, List.nil_append, List.cons.injEq] at hc
        exact hc.2.1
      exact absurd hlf (by decide)
    | b :: b' :: u' =>
      refine .inr ⟨u', ?_⟩
      simp only [List.cons_append, List.nil_append, List.cons.injEq] at hc
      rw [hc.2.2, List.append_assoc]
  · cases c with
    | nil => exact .inl (by simpa [blankLine] using hc.symm)
    | cons b c =>
      -- the text would contain its CR
      have hb : b = cr := by
        simp only [blankLine, List.cons_append, List.cons.injEq] at hc
        exact hc.1.symm
      exact absurd (by rw [htc, hb]; simp) ht

/-- A blank line in a row of non-empty lines and an empty one is its end. The
first line may be empty: nothing stands in front of it. -/
theorem blankLine_at_end {ls : List (List UInt8)} :
    ∀ {first : List UInt8}, (∀ t ∈ first :: ls, cr ∉ t) → (∀ t ∈ ls, t ≠ []) →
      ∀ {u v : List UInt8},
        (first :: ls).flatMap (· ++ crlf) ++ crlf = u ++ blankLine ++ v → v = [] := by
  induction ls with
  | nil =>
    intro first hcr _ u v h
    rw [List.flatMap_cons, List.flatMap_nil, List.append_nil] at h
    rcases blankLine_step (hcr first List.mem_cons_self) h with hend | ⟨u', hin⟩
    · simpa using hend
    · have := congrArg List.length hin
      simp [blankLine] at this
      omega
  | cons t ls ih =>
    intro first hcr hne u v h
    rw [List.flatMap_cons, List.append_assoc] at h
    have ht : cr ∉ t := hcr t (by simp)
    rcases blankLine_step (hcr first List.mem_cons_self) h with hend | ⟨u', hin⟩
    · -- the next line would begin with a CR
      obtain ⟨b, t', rfl⟩ := List.exists_cons_of_ne_nil (hne t List.mem_cons_self)
      simp only [List.flatMap_cons, List.cons_append, List.cons.injEq] at hend
      exact absurd (by rw [hend.1]; simp) ht
    · exact ih (fun s hs => hcr s (List.mem_cons_of_mem first hs))
        (fun s hs => hne s (List.mem_cons_of_mem t hs)) hin

theorem header_headerBlock {q : HttpRequest} (hq : q.WellFormed) (hne : q.NoEmptyLine) :
    HeaderBlock q.header := by
  have hcr : ∀ t ∈ q.version :: q.lines, cr ∉ t := by
    intro t ht hmem
    rcases List.mem_cons.mp ht with rfl | ht
    · exact (hq.version cr hmem).1 rfl
    · exact (hq.lines t ht cr hmem).1 rfl
  have hend : ∀ {u v}, q.header = u ++ blankLine ++ v → v = [] := by
    intro u v h
    rw [header_eq] at h
    exact blankLine_at_end hcr hne h
  refine ⟨?_, ?_⟩
  · rcases List.eq_nil_or_concat (q.version :: q.lines) with hnil | ⟨ls, t, hlast⟩
    · cases hnil
    · rw [header_eq, hlast, List.concat_eq_append, List.flatMap_append]
      exact ⟨ls.flatMap (· ++ crlf) ++ t, by simp [blankLine]⟩
  · intro p hprefix hproper hblank
    obtain ⟨v, hv⟩ := hprefix
    obtain ⟨u, hu⟩ := hblank
    subst hu
    have hnil := hend hv.symm
    rw [hnil, List.append_nil] at hv
    exact hproper hv

/-! What the lines give away. -/

/-- A part of the stream that ends before the length line, or begins behind its
start, does not contain the field. -/
theorem WellFormed.not_field {q : HttpRequest} (hq : q.WellFormed) {u t v : List UInt8}
    (hsplit : q.bytes = u ++ t ++ v)
    (hplace : u.length + t.length ≤ q.front.length ∨ q.front.length < u.length) :
    ¬ contentLengthField <:+: t := by
  intro hfield
  obtain ⟨x, y, hxy⟩ := hfield
  subst hxy
  have hfront : u ++ x = q.front := hq.field (u ++ x) (y ++ v) (by rw [hsplit]; simp)
  have hlen := congrArg List.length hfront
  have hfield : contentLengthField.length = 15 := by decide
  simp only [List.length_append] at hlen hplace
  omega

theorem WellFormed.not_credentials {q : HttpRequest} (hq : q.WellFormed) {u t v : List UInt8}
    (hsplit : q.bytes = u ++ t ++ v) : ¬ authorizationBasic <:+: t := fun h =>
  hq.credentials (h.trans ⟨u, v, hsplit.symm⟩)

/-- The lines other than the length line, and where they lie. -/
theorem WellFormed.other_lines {q : HttpRequest} (hq : q.WellFormed) :
    ∀ t ∈ q.version :: q.before ++ (q.after ++ [[]]), ¬ contentLengthField <:+: t := by
  intro t ht
  have hfield : contentLengthField.length = 15 := by decide
  simp only [List.cons_append, List.mem_cons, List.mem_append, List.not_mem_nil, or_false] at ht
  rcases ht with rfl | hbefore | hafter | rfl
  · refine hq.not_field (u := q.method ++ [sp] ++ q.target ++ [sp])
      (v := crlf ++ q.lines.flatMap (· ++ crlf) ++ crlf ++ q.body) (by simp [bytes, header])
      (.inl ?_)
    simp only [front, List.length_append]
    omega
  · obtain ⟨ls, ls', hls⟩ := List.append_of_mem hbefore
    refine hq.not_field
      (u := q.method ++ [sp] ++ q.target ++ [sp] ++ q.version ++ crlf ++ ls.flatMap (· ++ crlf))
      (v := crlf ++ ls'.flatMap (· ++ crlf) ++ q.lengthLine ++ crlf ++
        q.after.flatMap (· ++ crlf) ++ crlf ++ q.body)
      (by simp [bytes, header, HttpRequest.lines, hls]) (.inl ?_)
    simp only [front, hls, List.length_append, List.flatMap_append, List.flatMap_cons]
    omega
  · obtain ⟨ls, ls', hls⟩ := List.append_of_mem hafter
    refine hq.not_field
      (u := q.front ++ q.lengthLine ++ crlf ++ ls.flatMap (· ++ crlf))
      (v := crlf ++ ls'.flatMap (· ++ crlf) ++ crlf ++ q.body)
      (by simp [bytes, header, HttpRequest.lines, front, hls]) (.inr ?_)
    simp only [lengthLine, List.length_append, hfield]
    omega
  · intro h
    have := h.length_le
    rw [hfield] at this
    simp at this

/-- The length line is read as the length of the body. -/
theorem WellFormed.readLength_lengthLine {q : HttpRequest} (hq : q.WellFormed) (n : Int) :
    readLength n (Window.last sp 48 q.lengthLine) = q.body.length := by
  have hwindow : Window.last sp 48 q.lengthLine =
      List.replicate (48 - q.lengthLine.length) sp ++ q.lengthLine :=
    Window.last_of_length_le hq.fits
  generalize 48 - q.lengthLine.length = k at hwindow
  have hnul : ∀ b ∈ List.replicate k sp ++ contentLengthField ++
      (List.replicate q.spaces sp ++ q.digits), b ≠ 0 := by
    intro b hb
    simp only [List.mem_append, List.mem_replicate] at hb
    rcases hb with (⟨-, rfl⟩ | hb) | ⟨-, rfl⟩ | hb
    · decide
    · intro hzero
      exact absurd (hzero ▸ hb) (by decide)
    · decide
    · intro hzero
      exact absurd (hq.digits 0 (hzero ▸ hb)) (by decide)
  have hfirst : ∀ p' s', List.replicate k sp ++ contentLengthField ++
      (List.replicate q.spaces sp ++ q.digits) = p' ++ contentLengthField ++ s' →
      (List.replicate k sp).length ≤ p'.length := by
    intro p' s' heq
    by_contra hshort
    -- the text would begin in the padding
    rw [List.append_assoc, List.append_assoc] at heq
    have hget := congrArg (fun l => l[p'.length]?) heq
    rw [List.getElem?_append_left (by omega), List.getElem?_append_right (Nat.le_refl _),
      Nat.sub_self, List.getElem?_replicate_of_lt (by simpa using hshort)] at hget
    have hbegin : (contentLengthField ++ s')[0]? = some 0x43 := rfl
    exact absurd (hget.trans hbegin) (by decide)
  have hfound := CString.strstr_first hnul hfirst
  have hline : List.replicate k sp ++ q.lengthLine =
      List.replicate k sp ++ contentLengthField ++ (List.replicate q.spaces sp ++ q.digits) := by
    rw [lengthLine, List.append_assoc]
  rw [readLength, hwindow, hline, hfound, Option.bind_some, List.drop_left,
    CString.scanInt_digits q.spaces hq.digits_ne hq.digits, hq.value]
  have hsmall := hq.small
  exact Int.bmod_eq_of_le (by omega) (by omega)

/-- The windows behind the header: one for each line, and an empty one. -/
theorem WellFormed.behindHeader {q : HttpRequest} (hq : q.WellFormed) :
    (SpiderL3S.behindHeader q.header).lines =
      ⟨[], (q.version :: q.lines ++ [[]]).map (Window.last sp 48)⟩ := by
  have hlf : ∀ t ∈ q.version :: q.lines ++ [[]], lf ∉ t := by
    intro t ht hmem
    simp only [List.cons_append, List.mem_cons, List.mem_append, List.not_mem_nil,
      or_false] at ht
    rcases ht with rfl | ht | rfl
    · exact (hq.version lf hmem).2.1 rfl
    · exact (hq.lines t ht lf hmem).2.1 rfl
    · cases hmem
  have hheader : q.header = (q.version :: q.lines ++ [[]]).flatMap (· ++ crlf) := by
    rw [header_eq, List.flatMap_append]
    simp
  show Lines.run ⟨[], []⟩ q.header = _
  rw [hheader, Lines.run_lines _ hlf, List.nil_append]

theorem WellFormed.announced_header {q : HttpRequest} (hq : q.WellFormed) :
    announced (SpiderL3S.behindHeader q.header).lines.windows = q.body.length := by
  have hquiet : ∀ ls : List (List UInt8),
      (∀ t ∈ ls, t ∈ q.version :: q.before ++ (q.after ++ [[]])) → ∀ n : Int,
        (ls.map (Window.last sp 48)).foldl readLength n = n := by
    intro ls hls n
    refine foldl_readLength (fun w hw n => ?_) n
    obtain ⟨t, ht, rfl⟩ := List.mem_map.mp hw
    exact readLength_of_not_infix n (hq.other_lines t (hls t ht))
  have hsplit : q.version :: q.lines ++ [[]] =
      (q.version :: q.before) ++ (q.lengthLine :: (q.after ++ [[]])) := by
    simp [HttpRequest.lines]
  rw [hq.behindHeader, announced, hsplit, List.map_append, List.foldl_append,
    hquiet _ (fun t ht => List.mem_append_left _ ht), List.map_cons, List.foldl_cons,
    hq.readLength_lengthLine, hquiet _ (fun t ht => List.mem_append_right _ ht)]

/-- No line of the header carries credentials. -/
theorem WellFormed.authWrites_header {q : HttpRequest} (hq : q.WellFormed) :
    (SpiderL3S.behindHeader q.header).lines.windows.flatMap authWrites = [] := by
  rw [hq.behindHeader, List.flatMap_eq_nil_iff]
  intro w hw
  obtain ⟨t, ht, rfl⟩ := List.mem_map.mp hw
  apply authWrites_of_not_infix
  simp only [List.cons_append, List.mem_cons, List.mem_append, List.not_mem_nil, or_false] at ht
  rcases ht with rfl | hline | rfl
  · exact hq.not_credentials (u := q.method ++ [sp] ++ q.target ++ [sp])
      (v := crlf ++ q.lines.flatMap (· ++ crlf) ++ crlf ++ q.body) (by simp [bytes, header])
  · obtain ⟨ls, ls', hls⟩ := List.append_of_mem hline
    exact hq.not_credentials
      (u := q.method ++ [sp] ++ q.target ++ [sp] ++ q.version ++ crlf ++ ls.flatMap (· ++ crlf))
      (v := crlf ++ ls'.flatMap (· ++ crlf) ++ crlf ++ q.body) (by simp [bytes, header, hls])
  · decide

theorem bytes_split (q : HttpRequest) :
    q.bytes = q.method ++ [sp] ++ q.target ++ [sp] ++ q.header ++ q.body ++ [] := by
  simp [bytes]

/-- The body is stored as far as there is room for it. -/
theorem WellFormed.scan_body {q : HttpRequest} (hq : q.WellFormed) (hne : q.NoEmptyLine)
    (size : UInt8) :
    ((SpiderL3S.behindHeader q.header).read size q.body).1.body =
      q.body.take (min size.toNat q.body.length) := by
  have hblock := header_headerBlock hq hne
  have hline := behindHeader_line hblock
  have hplace : ¬ contentLengthField <:+: q.body := hq.not_field q.bytes_split (.inr (by
    simp only [front, header, HttpRequest.lines, List.length_append, List.flatMap_append,
      List.flatMap_cons, List.length_cons, List.length_nil]
    omega))
  have hann : ∀ p, p <+: q.body →
      announced ((SpiderL3S.behindHeader q.header).lines.run p).windows = q.body.length := by
    intro p hp
    rw [announced_run, hq.announced_header]
    rw [hline, List.nil_append]
    exact fun hin => hplace (hin.trans hp.isInfix)
  obtain ⟨hbody, -⟩ := Scan.read_body size hblock.1 hann (Nat.zero_le _)
  rw [hbody]
  show [] ++ q.body.take (min size.toNat (q.body.length : Int).toNat - 0) = _
  rw [List.nil_append, Nat.sub_zero, Int.toNat_natCast]

/-- Nothing goes to `auth`. -/
theorem WellFormed.scan_auth {q : HttpRequest} (hq : q.WellFormed) (hne : q.NoEmptyLine)
    (size : UInt8) :
    ((SpiderL3S.behindHeader q.header).read size q.body).1.lines.windows.flatMap authWrites =
      [] := by
  have hline := behindHeader_line (header_headerBlock hq hne)
  obtain ⟨p, hp, hlines, -⟩ := Scan.read_lines size (b := q.body)
    (SpiderL3S.behindHeader q.header)
  rw [hlines, authWrites_run, hq.authWrites_header]
  rw [hline, List.nil_append]
  exact fun hin => hq.not_credentials q.bytes_split (hin.trans hp.isInfix)

end HttpRequest

open HttpRequest

/-- **The parser gets every well-formed request right**, for all buffer sizes and
however the stream is received: the first bytes of method, target and body that
fit go to their buffers, in order and from index 0, and nothing else does. Nothing
goes to `auth`. -/
theorem webServerProcessRequest_wellFormed (sz : Sizes) {q : HttpRequest} (hq : q.WellFormed)
    (hne : q.NoEmptyLine) (start : UInt32) (polls : List Poll)
    (hreceived : received start polls = q.bytes) :
    let r := (webServerProcessRequest sz start polls).1
    r.method = (q.method.take (min q.method.length sz.methodSize.toNat)).zipIdx ∧
      r.filename = (q.target.take (min q.target.length sz.filenameSize.toNat)).zipIdx ∧
      r.content = (q.body.take (min q.body.length sz.contentSize.toNat)).zipIdx ∧
      r.auth = [] := by
  obtain ⟨hmethod, hfilename, hcontent, hauth⟩ := processBytes_start sz q.bytes
  obtain ⟨hfirst, hrest⟩ := takeWhile_word hq.method_word
    (q.target ++ sp :: (q.header ++ q.body))
  obtain ⟨hsecond, hbehind⟩ := takeWhile_word hq.target_word (q.header ++ q.body)
  rw [← bytes_eq] at hfirst hrest
  have htake : ∀ (l : List UInt8) (k : Nat), l.take k = l.take (min l.length k) := by
    intro l k
    rw [Nat.min_comm, ← List.take_take, List.take_length]
  have hscan : scanOf sz q.bytes =
      ((SpiderL3S.behindHeader q.header).read sz.contentSize q.body).1 := by
    rw [scanOf, contentPart, hrest, hbehind, Scan.read_header _ (header_headerBlock hq hne)]
  rw [webServerProcessRequest_eq, hreceived]
  refine ⟨?_, ?_, ?_, ?_⟩
  · rw [hmethod, hfirst, htake]
  · rw [hfilename, hrest, hsecond, htake]
  · rw [hcontent, hscan, hq.scan_body hne, Nat.min_comm]
  · rw [hauth, hscan, hq.scan_auth hne]

/-- The length field occurs in its own line only, if it does so at no other
offset. -/
theorem HttpRequest.field_of_offsets {q : HttpRequest}
    (h : ∀ k < q.bytes.length + 1, contentLengthField <+: q.bytes.drop k → k = q.front.length) :
    ∀ u v, q.bytes = u ++ contentLengthField ++ v → u = q.front := by
  apply occurs_of_offsets _ h
  exact ⟨q.lengthLine ++ crlf ++ q.after.flatMap (· ++ crlf) ++ crlf ++ q.body, by
    simp [bytes, header, HttpRequest.lines, front]⟩

/-- `POST /x V`, a header line, the length of the body, and the body `ab`. -/
def postRequest (first : List Char) : HttpRequest :=
  { method := ascii ['P', 'O', 'S', 'T']
    target := ascii ['/', 'x']
    version := ascii ['V']
    before := [ascii first]
    spaces := 1
    digits := ascii ['2']
    after := []
    body := ascii ['a', 'b'] }

theorem postRequest_wellFormed {first : List Char} (h : first = ['H', ':', 'i'] ∨ first = []) :
    (postRequest first).WellFormed := by
  rcases h with rfl | rfl
  all_goals
    exact
      { method_ne := by decide
        method_word := by decide
        target_ne := by decide
        target_word := by decide
        version := by decide
        lines := by decide
        digits_ne := by decide
        digits := List.all_eq_true.mp (by decide)
        value := by decide
        small := by decide
        fits := by decide
        field := field_of_offsets (by decide)
        credentials := by decide }

theorem webServerProcessRequest_post :
    let r := (webServerProcessRequest ⟨3, 30, 15, 0⟩ 0
      [⟨0, some ⟨(postRequest ['H', ':', 'i']).bytes, by decide⟩, 0⟩]).1
    r.method = (ascii ['P', 'O', 'S']).zipIdx ∧ r.filename = (ascii ['/', 'x']).zipIdx ∧
      r.content = (ascii ['a', 'b']).zipIdx ∧ r.auth = [] :=
  webServerProcessRequest_wellFormed ⟨3, 30, 15, 0⟩ (postRequest_wellFormed (.inl rfl)) (by
    intro t ht
    revert t
    decide) 0 _ (by decide)

/-- An empty header line ends the header: a request with one in front of its
length line has no content. -/
theorem not_webServerProcessRequest_emptyLine :
    ¬ ∀ (sz : Sizes) (q : HttpRequest), q.WellFormed → ∀ (start : UInt32) (polls : List Poll),
      received start polls = q.bytes →
      let r := (webServerProcessRequest sz start polls).1
      r.method = (q.method.take (min q.method.length sz.methodSize.toNat)).zipIdx ∧
        r.filename = (q.target.take (min q.target.length sz.filenameSize.toNat)).zipIdx ∧
        r.content = (q.body.take (min q.body.length sz.contentSize.toNat)).zipIdx := by
  intro h
  obtain ⟨-, -, hcontent⟩ := h ⟨5, 30, 15, 0⟩ (postRequest []) (postRequest_wellFormed (.inr rfl)) 0
    [⟨0, some ⟨(postRequest []).bytes, by decide⟩, 0⟩] (by decide)
  exact absurd hcontent (by decide)

end SpiderL3S
