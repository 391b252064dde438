import SpiderL3S.Web.Header

/- The credentials of a request. When the line `Authorization: Basic ..` ends, the
   fifo shows its last 48 bytes, and 21 of them are the name of the field. A longer
   line has lost its beginning by then, and the parser does not recognise it.

   So `auth` gets the whole token exactly if it has at most 27 bytes, and no NUL
   among them (`authHolds_iff`); behind a longer one nothing is stored at all. -/
namespace SpiderL3S

open CString

/-- The parts of a request with credentials: everything in front of their line, the
token, the rest of the header, and the body. -/
structure AuthRequest where
  front : List UInt8
  token : List UInt8
  after : List UInt8
  body : List UInt8

namespace AuthRequest

def line (q : AuthRequest) : List UInt8 := authorizationBasic ++ q.token

def head (q : AuthRequest) : List UInt8 := q.front ++ (q.line ++ crlf ++ q.after)

def bytes (q : AuthRequest) : List UInt8 := q.head ++ q.body

/-- The requests in question. `front` ends with a line of its own, behind the request
target, and `field` says that the field occurs nowhere else in the stream. -/
structure WellFormed (q : AuthRequest) (authSize : UInt8) : Prop where
  begins : crlf <:+ contentPart q.front
  header : HeaderBlock (contentPart q.head)
  token_ne : q.token ≠ []
  token_word : ∀ b ∈ q.token, isSpace b = false
  sized : q.token.length < authSize.toNat
  field : ∀ u v, q.bytes = u ++ authorizationBasic ++ v → u = q.front

end AuthRequest

/-- Whatever `auth` has held before, it holds the token then, and its terminator. -/
def AuthHolds (token : List UInt8) (w : Writes) : Prop :=
  ∀ auth : Mem, (w.applyTo auth).slice 0 (token.length + 1) = token ++ [0]

/-! The window. -/

theorem authorizationBasic_length : authorizationBasic.length = 21 := by decide

/-- A short line is seen whole, and its token read up to a NUL. -/
theorem authToken_short {token : List UInt8} (hword : ∀ b ∈ token, isSpace b = false)
    (hshort : token.length ≤ 27) :
    authToken (Window.last sp 48 (authorizationBasic ++ token)) =
      if text token = [] then none else some (text token) := by
  have hlen : (authorizationBasic ++ token).length ≤ 48 := by
    rw [List.length_append, authorizationBasic_length]
    omega
  have hnul : ∀ k, ∀ b ∈ List.replicate k sp ++ authorizationBasic, b ≠ 0 := by
    intro k b hb
    rcases List.mem_append.mp hb with hb | hb
    · rw [List.eq_of_mem_replicate hb]
      decide
    · have hall : authorizationBasic.all (· ≠ 0) = true := by decide
      exact of_decide_eq_true (List.all_eq_true.mp hall b hb)
  have hfirst : ∀ k p' s', List.replicate k sp ++ authorizationBasic ++ text token =
      p' ++ authorizationBasic ++ s' → (List.replicate k sp).length ≤ p'.length := by
    intro k p' s' heq
    rw [List.length_replicate]
    by_contra hless
    -- the field would begin with a space of the padding
    have hbyte := congrArg (fun l => l[p'.length]?) heq
    rw [List.append_assoc, List.getElem?_append_left (by rw [List.length_replicate]; omega),
      List.getElem?_replicate, if_pos (by omega), List.append_assoc,
      List.getElem?_append_right (Nat.le_refl _), Nat.sub_self] at hbyte
    exact absurd (Option.some.inj hbyte) (by decide)
  rw [authToken, Window.last_of_length_le hlen, ← List.append_assoc,
    strstr_first_text (hnul _) (hfirst _)]
  show scanWord ((authorizationBasic ++ text token).drop authorizationBasic.length) = _
  rw [List.drop_left]
  by_cases hempty : text token = []
  · rw [if_pos hempty, hempty]
    rfl
  · rw [if_neg hempty]
    exact scanWord_word hempty fun b hb => hword b ((text_isPrefix token).subset hb)

/-- Of a long line the window shows an end. -/
theorem last_of_lt_length {t : List UInt8} (h : 48 < t.length) :
    ∃ u, u ≠ [] ∧ t = u ++ Window.last sp 48 t := by
  refine ⟨t.take (t.length - 48), ?_, ?_⟩
  · rw [Ne, List.take_eq_nil_iff]
    intro hnil
    rcases hnil with hnil | hnil
    · omega
    · rw [hnil] at h
      exact absurd h (by decide)
  · rw [Window.last, Window.rtake_append_of_le (by omega), List.rtake]
    exact (List.take_append_drop _ _).symm

/-! The stores. -/

namespace AuthRequest.WellFormed

variable {q : AuthRequest} {size : UInt8}

/-- The field does not occur in a part of the stream that ends before its line does, or
begins behind the beginning of its line. -/
theorem not_infix (hq : q.WellFormed size) {a b c : List UInt8} (hsplit : q.bytes = a ++ b ++ c)
    (hplace : a.length + b.length ≤ q.front.length ∨ q.front.length < a.length) :
    ¬ authorizationBasic <:+: b := by
  intro hin
  obtain ⟨u, v, huv⟩ := hin
  have hfront : a ++ u = q.front := by
    apply hq.field (a ++ u) (v ++ c)
    rw [hsplit, ← huv]
    simp only [List.append_assoc]
  have hlen := congrArg List.length hfront
  have hlen' := congrArg List.length huv
  simp only [List.length_append, authorizationBasic_length] at hlen hlen'
  omega

theorem line_no_lf (hq : q.WellFormed size) : lf ∉ q.line := by
  intro hmem
  rcases List.mem_append.mp hmem with hfield | htoken
  · exact absurd hfield (by decide)
  · exact absurd (hq.token_word lf htoken) (by decide)

/-- What the lines in front of the body, and a part of the body, give away. -/
theorem authWrites_lines (hq : q.WellFormed size) {p : List UInt8} (hp : p <+: q.body) :
    (Lines.run ⟨[], []⟩ (contentPart q.head ++ p)).windows.flatMap authWrites =
      authWrites (Window.last sp 48 q.line) := by
  obtain ⟨pre, hpre⟩ := hq.begins
  obtain ⟨rest, hrest⟩ := hp
  obtain ⟨target, htarget⟩ := contentPart_suffix q.front
  have hfront : contentPart q.front ≠ [] := by
    intro hnil
    rw [hnil] at hpre
    simp at hpre
  -- the field occurs neither in front of its line nor behind it
  have hbefore : ¬ authorizationBasic <:+: contentPart q.front := by
    apply hq.not_infix (a := target) (c := q.line ++ crlf ++ q.after ++ q.body)
    · simp only [bytes, head, htarget, List.append_assoc]
    · rw [← List.length_append, htarget]
      exact .inl (Nat.le_refl _)
  have hbehind : ¬ authorizationBasic <:+: q.after ++ p := by
    apply hq.not_infix (a := q.front ++ q.line ++ crlf) (c := rest)
    · simp only [bytes, head, ← hrest, List.append_assoc]
    · simp only [List.length_append, List.length_cons]
      omega
  have hsplit : contentPart q.head ++ p =
      contentPart q.front ++ ((q.line ++ crlf) ++ (q.after ++ p)) := by
    rw [head, contentPart_append hfront]
    simp only [List.append_assoc]
  have hline : (Lines.run ⟨[], []⟩ (contentPart q.front)).line = [] := by
    rw [← hpre]
    exact Lines.run_crlf _ _
  rw [hsplit, Lines.run_append, Lines.run_append, Lines.run_line _ hq.line_no_lf, hline,
    List.nil_append, authWrites_run _ hbehind, List.flatMap_append, authWrites_run _ hbefore]
  simp

/-- What the parser stores to `auth`: what the line gives away when it ends. -/
theorem auth_eq {sz : Sizes} (hq : q.WellFormed size) {start : UInt32} {polls : List Poll}
    (hreceived : received start polls = q.bytes) :
    (webServerProcessRequest sz start polls).1.auth = authWrites (Window.last sp 48 q.line) := by
  obtain ⟨p, hp, hlines, -⟩ := Scan.read_lines sz.contentSize (b := q.body)
    (behindHeader (contentPart q.head))
  obtain ⟨-, -, -, hauth⟩ := processBytes_start sz q.bytes
  have hrun : (behindHeader (contentPart q.head)).lines.run p =
      Lines.run ⟨[], []⟩ (contentPart q.head ++ p) := (Lines.run_append _ _ _).symm
  rw [webServerProcessRequest_eq, hreceived, hauth, bytes, scanOf_request sz hq.header, hlines,
    hrun, hq.authWrites_lines hp]

/-- Of a long line nothing is stored. -/
theorem authWrites_long (hq : q.WellFormed size) (hlong : 27 < q.token.length) :
    authWrites (Window.last sp 48 q.line) = [] := by
  have hlen : 48 < q.line.length := by
    rw [line, List.length_append, authorizationBasic_length]
    omega
  obtain ⟨u, hne, hu⟩ := last_of_lt_length hlen
  apply authWrites_eq_nil
  apply hq.not_infix (a := q.front ++ u) (c := crlf ++ q.after ++ q.body)
  · conv_lhs => rw [bytes, head, hu]
    simp only [List.append_assoc]
  · have hpos := List.length_pos_iff.mpr hne
    rw [List.length_append]
    omega

end AuthRequest.WellFormed

/-- A short token is stored up to its first NUL. -/
theorem authWrites_short_line {token : List UInt8} (hword : ∀ b ∈ token, isSpace b = false)
    (hshort : token.length ≤ 27) :
    authWrites (Window.last sp 48 (authorizationBasic ++ token)) =
      if text token = [] then [] else (text token ++ [0]).zipIdx := by
  rw [authWrites, authToken_short hword hshort]
  by_cases hempty : text token = []
  · rw [if_pos hempty, if_pos hempty]
  · rw [if_neg hempty, if_neg hempty]

theorem authHolds_token (token : List UInt8) : AuthHolds token (token ++ [0]).zipIdx := by
  intro auth
  have hlen : token.length + 1 = (token ++ [0]).length := by simp
  rw [Writes.applyTo_zipIdx, hlen]
  exact Mem.slice_store auth 0 _

/-- Too few bytes leave something in its place. -/
theorem not_authHolds_of_length_le {token bs : List UInt8} (h : bs.length ≤ token.length) :
    ¬ AuthHolds token bs.zipIdx := by
  intro hholds
  have hslice := congrArg (fun l => l.getD token.length 0) (hholds fun _ => 1)
  rw [Writes.applyTo_zipIdx, Mem.slice_getD _ (Nat.lt_succ_self _), Mem.store_out _ (by omega),
    List.getD_append_right _ _ _ _ (Nat.le_refl _), Nat.sub_self] at hslice
  exact absurd hslice (by decide)

theorem text_length_lt {token : List UInt8} (h : 0 ∈ token) :
    (text token).length < token.length := by
  apply Nat.lt_of_le_of_ne (text_isPrefix token).length_le
  intro heq
  have hsame := (text_isPrefix token).eq_of_length heq
  rw [← hsame] at h
  exact text_no_nul 0 h rfl

/-- **Long credentials are not recognised.** For every request with one line of
credentials, every size of `auth` the token fits in, and however the stream is
received, `auth` holds the token exactly if it has at most 27 bytes and no NUL. -/
theorem authHolds_iff (sz : Sizes) {q : AuthRequest} (hq : q.WellFormed sz.authSize)
    (start : UInt32) (polls : List Poll) (hreceived : received start polls = q.bytes) :
    AuthHolds q.token (webServerProcessRequest sz start polls).1.auth ↔
      q.token.length ≤ 27 ∧ 0 ∉ q.token := by
  rw [hq.auth_eq hreceived]
  by_cases hshort : q.token.length ≤ 27
  · rw [AuthRequest.line, authWrites_short_line hq.token_word hshort]
    by_cases hnul : 0 ∈ q.token
    · refine iff_of_false ?_ fun h => h.2 hnul
      have hlt := text_length_lt hnul
      split
      · exact @not_authHolds_of_length_le _ [] (Nat.zero_le _)
      · apply not_authHolds_of_length_le
        rw [List.length_append, List.length_singleton]
        exact hlt
    · have htext : text q.token = q.token :=
        text_of_no_nul fun b hb heq => hnul (heq ▸ hb)
      rw [htext, if_neg hq.token_ne]
      exact iff_of_true (authHolds_token _) ⟨hshort, hnul⟩
  · rw [hq.authWrites_long (Nat.lt_of_not_le hshort)]
    exact iff_of_false (@not_authHolds_of_length_le _ [] (Nat.zero_le _)) fun h => hshort h.1

/-- `G / V` with a token of `n` letters. -/
def lettersRequest (n : Nat) : AuthRequest :=
  { front := ascii ['G', ' ', '/', ' ', 'V'] ++ crlf
    token := List.replicate n 0x51
    after := crlf
    body := [] }

theorem lettersRequest_wellFormed {n : Nat} (h : n = 4 ∨ n = 28) :
    (lettersRequest n).WellFormed 64 := by
  rcases h with rfl | rfl
  all_goals
    exact
      { begins := by decide
        header := by decide
        token_ne := by decide
        token_word := by
          intro b hb
          rw [List.eq_of_mem_replicate hb]
          decide
        sized := by decide
        field := occurs_of_offsets (List.prefix_append _ _ |>.trans (List.prefix_append _ _))
          (by decide) }

/-- Four letters are stored whole. -/
theorem authHolds_four :
    AuthHolds (lettersRequest 4).token
      (webServerProcessRequest ⟨5, 30, 15, 64⟩ 0
        [⟨0, some ⟨(lettersRequest 4).bytes, by decide⟩, 0⟩]).1.auth :=
  (authHolds_iff ⟨5, 30, 15, 64⟩ (lettersRequest_wellFormed (.inl rfl)) 0 _ (by decide)).mpr
    ⟨by decide, by decide⟩

/-- **Twenty-eight letters are not seen.** Nothing is stored to a buffer of 64. -/
theorem not_authHolds :
    ¬ ∀ (sz : Sizes) (q : AuthRequest), q.WellFormed sz.authSize →
      ∀ (start : UInt32) (polls : List Poll), received start polls = q.bytes →
        AuthHolds q.token (webServerProcessRequest sz start polls).1.auth := by
  intro h
  have hholds := h ⟨5, 30, 15, 64⟩ (lettersRequest 28) (lettersRequest_wellFormed (.inr rfl)) 0
    [⟨0, some ⟨(lettersRequest 28).bytes, by decide⟩, 0⟩] (by decide)
  have hq := lettersRequest_wellFormed (.inr rfl)
  rw [hq.auth_eq (by decide), hq.authWrites_long (by decide)] at hholds
  exact @not_authHolds_of_length_le _ [] (Nat.zero_le _) hholds

end SpiderL3S
