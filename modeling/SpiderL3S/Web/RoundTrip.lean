import SpiderL3S.Web.Client
import SpiderL3S.Web.Parse

/- The two ends of the web modules. `WebClient_SendRequest` writes a request, and
   `WebServer_process_request` reads one. A `Url` is what the client is meant for: a
   host and a path, with no byte that would end the URL, a word or a line. What the
   client makes of it is a header of three lines without a body (`request_eq`), and
   the server finds the method and the path in it, whatever the chunks it comes in
   (`webServerProcessRequest_url`). -/
namespace SpiderL3S

open CString

abbrev slash : UInt8 := 0x2F

/-- What stands between `"http://"` and the path, and the path with its `/`. -/
structure Url where
  host : List UInt8
  path : List UInt8
  host_word : ∀ b ∈ host, b ∉ [0, sp, cr, lf, slash]
  path_slash : path.head? = some slash
  path_word : ∀ b ∈ path, b ∉ [0, sp]

namespace Url

def httpScheme : List UInt8 := ascii ['h', 't', 't', 'p', ':', '/', '/']

def bytes (u : Url) : List UInt8 := httpScheme ++ (u.host ++ u.path)

variable (u : Url)

theorem host_path_no_nul : ∀ b ∈ u.host ++ u.path, b ≠ 0 := by
  intro b hb hzero
  subst hzero
  rcases List.mem_append.mp hb with hhost | hpath
  · exact u.host_word 0 hhost (by simp)
  · exact u.path_word 0 hpath (by simp)

/-- The host ends at the first `/`. -/
theorem splitURL_bytes : splitURL u.bytes = some (u.host ++ u.path, u.path) := by
  have hscheme : strstr u.bytes httpScheme = some u.bytes := by
    apply strstr_first (p := [])
    · intro b hb
      rcases List.mem_append.mp hb with hb | hb
      · have hall : httpScheme.all (· ≠ 0) = true := by decide
        exact of_decide_eq_true (List.all_eq_true.mp hall b hb)
      · exact u.host_path_no_nul b hb
    · intro p' _ _
      exact Nat.zero_le p'.length
  obtain ⟨rest, hrest⟩ : ∃ rest, u.path = slash :: rest := by
    obtain ⟨b, rest, hpath⟩ := List.exists_cons_of_ne_nil (l := u.path) fun hnil => by
      have hslash := u.path_slash
      rw [hnil] at hslash
      cases hslash
    have hb := u.path_slash
    rw [hpath] at hb
    exact ⟨rest, by rw [hpath, Option.some.inj hb]⟩
  have hsplit : u.host ++ u.path = u.host ++ ascii ['/'] ++ rest := by
    rw [hrest, List.append_assoc]
    rfl
  have hslash : strstr (u.host ++ u.path) (ascii ['/']) = some u.path := by
    rw [hsplit, strstr_first, hrest]
    · rfl
    · rw [← hsplit]
      exact u.host_path_no_nul
    · intro p' s' heq
      by_contra hshort
      -- a `/` in the host
      have hin : slash ∈ u.host := by
        rcases List.append_eq_append_iff.mp ((List.append_assoc _ _ _).symm.trans
          (heq.trans (List.append_assoc _ _ _))) with ⟨c, hp, -⟩ | ⟨c, hhost, hc⟩
        · rw [hp, List.length_append] at hshort
          omega
        · cases c with
          | nil =>
            rw [hhost, List.append_nil] at hshort
            omega
          | cons b c =>
            have hb : slash = b := (List.cons.inj hc).1
            rw [hhost, ← hb]
            simp
      exact u.host_word slash hin (by simp)
  have hdrop : u.bytes.drop 7 = u.host ++ u.path := @List.drop_left _ httpScheme _
  show (strstr u.bytes httpScheme).bind _ = _
  rw [hscheme]
  show (strstr (u.bytes.drop 7) (ascii ['/'])).bind _ = _
  rw [hdrop, hslash]
  rfl

/-! The request. -/

def httpVersion : List UInt8 := ascii ['H', 'T', 'T', 'P', '/', '1', '.', '1']

def hostLine : List UInt8 := ascii ['H', 'o', 's', 't', ':', ' '] ++ u.host

def connectionLine : List UInt8 :=
  ascii ['C', 'o', 'n', 'n', 'e', 'c', 't', 'i', 'o', 'n', ':', ' ', 'c', 'l', 'o', 's', 'e']

def getMethod : List UInt8 := ascii ['G', 'E', 'T']

/-- The lines behind the path. -/
def headerLines : List (List UInt8) := [httpVersion, u.hostLine, connectionLine]

def header : List UInt8 := u.headerLines.flatMap (· ++ crlf) ++ crlf

def request : List UInt8 := getMethod ++ sp :: (u.path ++ sp :: u.header)

/-- The five pieces are the request. -/
theorem request_eq :
    (webClientSendRequest u.bytes).map List.flatten = some u.request := by
  have hhost : (u.host ++ u.path).take ((u.host ++ u.path).length - u.path.length) = u.host := by
    rw [List.length_append, Nat.add_sub_cancel, List.take_left]
  have hfnt : webGetMsgFnt = getMethod ++ [sp] := by decide
  have hmid : webGetMsgMid =
      sp :: (httpVersion ++ crlf ++ ascii ['H', 'o', 's', 't', ':', ' ']) := by
    decide
  have hend : webGetMsgEnd = crlf ++ connectionLine ++ blankLine := by decide
  rw [webClientSendRequest, u.splitURL_bytes]
  show some (requestPieces (u.host ++ u.path) u.path).flatten = _
  rw [requestPieces, hhost, hfnt, hmid, hend]
  simp [request, header, headerLines, hostLine, blankLine]

/-! The header. -/

theorem not_mem_host {b : UInt8} (h : b ∈ [0, sp, cr, lf, slash]) : b ∉ u.host :=
  fun hb => u.host_word b hb h

/-- The lines are lines. -/
theorem not_mem_lines {b : UInt8} (hb : b ∈ [cr, lf]) : ∀ t ∈ u.headerLines, b ∉ t := by
  obtain ⟨hversion, hfield, hconnection⟩ : b ∉ httpVersion ∧
      b ∉ ascii ['H', 'o', 's', 't', ':', ' '] ∧ b ∉ connectionLine := by
    rcases List.mem_cons.mp hb with rfl | hb
    · decide +kernel
    · rw [List.mem_singleton.mp hb]
      decide +kernel
  have hhost : b ∉ u.host := u.not_mem_host ((show [cr, lf] ⊆ [0, sp, cr, lf, slash] by decide) hb)
  simp only [headerLines, List.mem_cons, List.not_mem_nil, or_false]
  rintro t (rfl | rfl | rfl)
  · exact hversion
  · rw [hostLine, List.mem_append, not_or]
    exact ⟨hfield, hhost⟩
  · exact hconnection

/-- The header ends in the first blank line it has. -/
theorem header_headerBlock : HeaderBlock u.header := by
  have hcr := u.not_mem_lines (b := cr) (by decide)
  have hne : ∀ t ∈ [u.hostLine, connectionLine], t ≠ [] := by
    simp only [List.mem_cons, List.not_mem_nil, or_false]
    rintro t (rfl | rfl)
    · exact List.cons_ne_nil _ _
    · exact List.cons_ne_nil _ _
  have hend : ∀ {x v}, u.header = x ++ blankLine ++ v → v = [] := fun h =>
    HttpRequest.blankLine_at_end hcr hne h
  refine ⟨⟨httpVersion ++ crlf ++ u.hostLine ++ crlf ++ connectionLine, by
    simp [header, headerLines, blankLine]⟩, ?_⟩
  intro p hprefix hproper hblank
  obtain ⟨v, hv⟩ := hprefix
  obtain ⟨x, rfl⟩ := hblank
  have hnil := hend hv.symm
  rw [hnil, List.append_nil] at hv
  exact hproper hv

/-- A line with one space at most carries no credentials. -/
theorem not_authorization {t : List UInt8} (h : t.count sp ≤ 1) : ¬ authorizationBasic <:+: t := by
  intro hin
  have hcount : authorizationBasic.count sp ≤ t.count sp := hin.sublist.count_le sp
  have htwo : authorizationBasic.count sp = 2 := by decide
  omega

theorem count_sp_lines : ∀ t ∈ u.headerLines, t.count sp ≤ 1 := by
  have hhost : u.host.count sp = 0 := List.count_eq_zero.mpr (u.not_mem_host (by decide))
  simp only [headerLines, List.mem_cons, List.not_mem_nil, or_false]
  rintro t (rfl | rfl | rfl)
  · decide
  · rw [hostLine, List.count_append, hhost]
    decide
  · decide

/-- What the lines of the header give away is nothing. -/
theorem authWrites_header : (behindHeader u.header).lines.windows.flatMap authWrites = [] := by
  have hlf : ∀ t ∈ u.headerLines ++ [[]], lf ∉ t := by
    intro t ht
    rcases List.mem_append.mp ht with hline | hempty
    · exact u.not_mem_lines (by decide) t hline
    · rw [List.mem_singleton.mp hempty]
      exact List.not_mem_nil
  have hheader : u.header = (u.headerLines ++ [[]]).flatMap (· ++ crlf) := by
    rw [header, List.flatMap_append]
    simp
  have hlines : (behindHeader u.header).lines.windows =
      (u.headerLines ++ [[]]).map (Window.last sp 48) := by
    show (Lines.run ⟨[], []⟩ u.header).windows = _
    rw [hheader, Lines.run_lines _ hlf, List.nil_append]
  rw [hlines, List.flatMap_eq_nil_iff]
  intro w hw
  obtain ⟨t, ht, rfl⟩ := List.mem_map.mp hw
  apply authWrites_of_not_infix
  rcases List.mem_append.mp ht with hline | hempty
  · exact not_authorization (u.count_sp_lines t hline)
  · rw [List.mem_singleton.mp hempty]
    decide

/-! The server. -/

/-- What the parser has stored behind the request: the method and the path. -/
theorem processBytes_request (sz : Sizes) :
    let r := (processBytes sz .start u.request).1
    r.method = (getMethod.take sz.methodSize.toNat).zipIdx ∧
      r.filename = (u.path.take sz.filenameSize.toNat).zipIdx ∧
      r.content = [] ∧ r.auth = [] := by
  obtain ⟨hmethod, hfilename, hcontent, hauth⟩ := processBytes_start sz u.request
  have hpath : sp ∉ u.path := fun hb => u.path_word sp hb (by decide)
  obtain ⟨hfirst, hrest⟩ := HttpRequest.takeWhile_word (w := getMethod) (by decide)
    (u.path ++ sp :: u.header)
  obtain ⟨hsecond, hbehind⟩ := HttpRequest.takeWhile_word hpath u.header
  have hscan : scanOf sz u.request = behindHeader u.header := by
    have hread := Scan.read_header sz.contentSize u.header_headerBlock []
    rw [List.append_nil] at hread
    rw [scanOf, contentPart, request, hrest, hbehind, hread]
    rfl
  rw [← request] at hfirst hrest
  rw [hscan] at hcontent hauth
  refine ⟨?_, ?_, hcontent, hauth.trans u.authWrites_header⟩
  · rw [hmethod, hfirst]
  · rw [hfilename, hrest, hsecond]

end Url

/-- **What the client asks for, the server is asked for.** For every URL, what
`WebClient_SendRequest` writes, in whatever chunks it comes in, leaves the method
`GET` and the path in the server's buffers, each cut to its size, and neither content
nor credentials. -/
theorem webServerProcessRequest_url (sz : Sizes) (u : Url) {start : UInt32} {polls : List Poll}
    (h : some (received start polls) = (webClientSendRequest u.bytes).map List.flatten) :
    let r := (webServerProcessRequest sz start polls).1
    r.method = (Url.getMethod.take sz.methodSize.toNat).zipIdx ∧
      r.filename = (u.path.take sz.filenameSize.toNat).zipIdx ∧
      r.content = [] ∧ r.auth = [] := by
  have hreceived : received start polls = u.request := Option.some.inj (h.trans u.request_eq)
  rw [webServerProcessRequest_eq, hreceived]
  exact u.processBytes_request sz

theorem host_h_word : ∀ b ∈ ([0x68] : List UInt8), b ∉ [0, sp, cr, lf, slash] := by
  intro b hb
  rw [List.mem_singleton.mp hb]
  decide +kernel

theorem path_x_word : ∀ b ∈ ([slash, 0x78] : List UInt8), b ∉ [0, sp] := by
  intro b hb
  rcases List.mem_cons.mp hb with rfl | hb
  · decide +kernel
  · rw [List.mem_singleton.mp hb]
    decide +kernel

/-- `http://h/x`. -/
def shortUrl : Url := ⟨[0x68], [slash, 0x78], host_h_word, rfl, path_x_word⟩

/-- `shortUrl` in one chunk, to buffers of 2, 9, 9 and 9 bytes. -/
theorem webServerProcessRequest_shortUrl :
    let r := (webServerProcessRequest ⟨2, 9, 9, 9⟩ 0
      [⟨0, some ⟨shortUrl.request, by decide⟩, 0⟩]).1
    r.method = (Url.getMethod.take 2).zipIdx ∧ r.filename = (shortUrl.path.take 9).zipIdx ∧
      r.content = [] ∧ r.auth = [] :=
  webServerProcessRequest_url ⟨2, 9, 9, 9⟩ shortUrl
    (by rw [shortUrl.request_eq]; decide)

end SpiderL3S
