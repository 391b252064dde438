import SpiderL3S.Lib.CString
import SpiderL3S.Web.Request

/- The request of `WebClient.c`. `WebClient_SendRequest` sends it in five pieces, and
   `WebClient_Get` puts it together in a buffer of 500 bytes first: it copies each
   piece behind the one before with all the room that is left, and moves `ptr` by
   the length of the piece. Behind the path it copies the rest of the URL, not the
   host alone, and the next piece covers what is too much.

   The two send the same bytes exactly if the whole request fits in the buffer
   (`sameRequest_iff`): behind its end the room is a difference below zero, of 16
   unsigned bits. -/
namespace SpiderL3S

open CString

def webGetMsgFnt : List UInt8 := ascii ['G', 'E', 'T', ' ']

def webGetMsgMid : List UInt8 :=
  ascii [' ', 'H', 'T', 'T', 'P', '/', '1', '.', '1'] ++ [cr, lf] ++
    ascii ['H', 'o', 's', 't', ':', ' ']

def webGetMsgEnd : List UInt8 :=
  [cr, lf] ++ ascii ['C', 'o', 'n', 'n', 'e', 'c', 't', 'i', 'o', 'n', ':', ' ', 'c', 'l', 'o',
    's', 'e'] ++ blankLine

/-- `sp1`, behind `"http://"`, and `sp2`, from the next `/` on. -/
def splitURL (url_link : List UInt8) : Option (List UInt8 × List UInt8) := do
  let sp1 := (← strstr url_link (ascii ['h', 't', 't', 'p', ':', '/', '/'])).drop 7
  let sp2 ← strstr sp1 (ascii ['/'])
  return (sp1, sp2)

/-! `WebClient_SendRequest`. -/

def requestPieces (sp1 sp2 : List UInt8) : List (List UInt8) :=
  [webGetMsgFnt, sp2, webGetMsgMid, sp1.take (sp1.length - sp2.length), webGetMsgEnd]

/-- What is sent, where every `send` succeeds. -/
def webClientSendRequest (url_link : List UInt8) : Option (List (List UInt8)) := do
  let (sp1, sp2) ← splitURL url_link
  return requestPieces sp1 sp2

/-! `WebClient_Get`. -/

abbrev sendBufferSize : UInt16 := 500

/-- The locals `ptr` and `send_buffer`, and every offset stored to so far. -/
structure GetRequest where
  ptr : Int16
  sendBuffer : Mem
  written : List Nat

/-- Behind the `memset`. -/
def GetRequest.start (stack : Mem) : GetRequest :=
  { ptr := 0
    sendBuffer := stack.store 0 (List.replicate sendBufferSize.toNat 0)
    written := List.range' 0 sendBufferSize.toNat }

/-- `strncpy(&send_buffer[ptr], src, (sizeof(send_buffer) - ptr)); ptr += len;`. -/
def GetRequest.copy (g : GetRequest) (src : List UInt8) (len : Nat) : GetRequest :=
  let offset := g.ptr.toUInt16
  let bytes := strncpy src (sendBufferSize - offset).toNat
  { ptr := (offset + UInt16.ofNat len).toInt16
    sendBuffer := g.sendBuffer.store offset.toNat bytes
    written := g.written ++ List.range' offset.toNat bytes.length }

/-- The request as it is sent. -/
def webClientGet (stack : Mem) (url_link : List UInt8) : Option GetRequest := do
  let (sp1, sp2) ← splitURL url_link
  let g := (GetRequest.start stack).copy webGetMsgFnt webGetMsgFnt.length
  let g := g.copy sp2 sp2.length
  let g := g.copy webGetMsgMid webGetMsgMid.length
  let g := g.copy sp1 (sp1.length - sp2.length)
  return g.copy webGetMsgEnd webGetMsgEnd.length

/-- `send(info->host_socket, send_buffer, ptr, 0)`: how many bytes it reads. -/
def GetRequest.sent (g : GetRequest) : Nat := g.ptr.toInt.toNat

/-- **The same request.** If both accept the URL, what `WebClient_Get` sends is what the
pieces of the other are together, and it keeps to its buffer. -/
def SameRequest : Option GetRequest → Option (List (List UInt8)) → Prop
  | some g, some pieces =>
    g.sendBuffer.slice 0 g.sent = pieces.flatten ∧
      (∀ i ∈ g.written, i < 500) ∧ ∀ i, i < g.sent → i < 500
  | _, _ => True

/-! Building the request. -/

/-- The buffer holds `done` so far, and nothing has been stored outside it. -/
structure Built (g : GetRequest) (done : List UInt8) : Prop where
  ptr : g.ptr.toUInt16.toNat = done.length
  bytes : g.sendBuffer.slice 0 done.length = done
  inside : ∀ i ∈ g.written, i < 500

theorem Built.start (stack : Mem) : Built (.start stack) [] := by
  refine ⟨rfl, rfl, ?_⟩
  intro i hi
  have hrange := List.mem_range'_1.mp hi
  exact Nat.lt_of_lt_of_le hrange.2 (by decide)

/-- A piece that fits is put behind the ones before. -/
theorem Built.copy {g : GetRequest} {done src : List UInt8} {len : Nat} (h : Built g done)
    (hlen : len ≤ src.length) (hroom : done.length + len ≤ 500) :
    Built (g.copy src len) (done ++ src.take len) := by
  have htake : (src.take len).length = len := by
    rw [List.length_take, Nat.min_eq_left hlen]
  have hsize : (sendBufferSize - g.ptr.toUInt16).toNat = 500 - done.length := by
    rw [UInt16.toNat_sub, h.ptr]
    show (65536 - done.length + 500) % 65536 = _
    omega
  refine ⟨?_, ?_, ?_⟩
  · show (g.ptr.toUInt16 + UInt16.ofNat len).toNat = _
    rw [List.length_append, htake, UInt16.toNat_add, h.ptr, UInt16.toNat_ofNat']
    omega
  · have hbytes := Mem.slice_store_append g.sendBuffer 0 done.length
      (strncpy src (sendBufferSize - g.ptr.toUInt16).toNat) (k := len)
      (by rw [strncpy_length, hsize]; omega)
    rw [Nat.zero_add, h.bytes, strncpy_take hlen (by rw [hsize]; omega)] at hbytes
    show (g.sendBuffer.store g.ptr.toUInt16.toNat _).slice 0 _ = _
    rw [List.length_append, htake, h.ptr]
    exact hbytes
  · intro i hi
    rcases List.mem_append.mp hi with hold | hnew
    · exact h.inside i hold
    · have hrange := (List.mem_range'_1.mp hnew).2
      rw [strncpy_length, hsize, h.ptr] at hrange
      omega

/-- Once built, the request is sent whole. -/
theorem Built.sent {g : GetRequest} {done : List UInt8} (h : Built g done)
    (hroom : done.length ≤ 500) : g.sent = done.length := by
  have hptr := int16_toInt g.ptr
  rw [h.ptr, if_pos (by omega)] at hptr
  rw [GetRequest.sent, hptr, Int.toNat_natCast]

theorem splitURL_some {url_link sp1 sp2 : List UInt8} (h : splitURL url_link = some (sp1, sp2)) :
    sp2.length ≤ sp1.length := by
  obtain ⟨str, -, h⟩ := Option.bind_eq_some_iff.mp h
  obtain ⟨sp2', hslash, h⟩ := Option.bind_eq_some_iff.mp h
  obtain ⟨rfl, rfl⟩ := Prod.mk.inj (Option.some.inj h)
  obtain ⟨-, hsuffix⟩ := strstr_some hslash
  exact Nat.le_trans hsuffix.length_le (text_isPrefix _).length_le

/-- The pieces around the URL's. -/
theorem webGetMsg_length :
    webGetMsgFnt.length = 4 ∧ webGetMsgMid.length = 17 ∧ webGetMsgEnd.length = 23 := by decide

theorem pieces_length {sp1 sp2 : List UInt8} (h : sp2.length ≤ sp1.length) :
    (requestPieces sp1 sp2).flatten.length = 44 + sp1.length := by
  obtain ⟨hfnt, hmid, hend⟩ := webGetMsg_length
  simp only [requestPieces, List.flatten_cons, List.flatten_nil, List.length_append,
    List.length_nil, List.length_take, hfnt, hmid, hend]
  omega

/-- What is sent comes from the buffer, so a request that is sent whole fits in it. -/
theorem SameRequest.fits {stack : Mem} {url_link sp1 sp2 : List UInt8}
    (hurl : splitURL url_link = some (sp1, sp2))
    (h : SameRequest (webClientGet stack url_link) (webClientSendRequest url_link)) :
    sp1.length ≤ 456 := by
  rw [webClientGet, webClientSendRequest, hurl] at h
  obtain ⟨hbytes, -, hreads⟩ := h
  have hlength := congrArg List.length hbytes
  rw [Mem.slice_length, pieces_length (splitURL_some hurl)] at hlength
  have hlast := hreads 500
  omega

/-- A request that fits is built, piece by piece. -/
theorem sameRequest_of_fits (stack : Mem) {url_link sp1 sp2 : List UInt8}
    (hurl : splitURL url_link = some (sp1, sp2)) (hfits : sp1.length ≤ 456) :
    SameRequest (webClientGet stack url_link) (webClientSendRequest url_link) := by
  obtain ⟨hfnt, hmid, hend⟩ := webGetMsg_length
  have hle := splitURL_some hurl
  have htotal := pieces_length hle
  have hhost : (sp1.take (sp1.length - sp2.length)).length = sp1.length - sp2.length := by
    rw [List.length_take]
    omega
  have h₁ := (Built.start stack).copy (Nat.le_refl webGetMsgFnt.length)
    (by rw [List.length_nil]; omega)
  have h₂ := h₁.copy (Nat.le_refl sp2.length)
    (by simp only [List.length_append, List.length_nil, List.take_length]; omega)
  have h₃ := h₂.copy (Nat.le_refl webGetMsgMid.length)
    (by simp only [List.length_append, List.length_nil, List.take_length]; omega)
  -- behind the path the rest of the URL is copied, and `ptr` moves by the host alone
  have h₄ := h₃.copy (Nat.sub_le sp1.length sp2.length)
    (by simp only [List.length_append, List.length_nil, List.take_length]; omega)
  have h₅ := h₄.copy (Nat.le_refl webGetMsgEnd.length)
    (by simp only [List.length_append, List.length_nil, List.take_length, hhost]; omega)
  simp only [List.take_length, List.nil_append, List.append_assoc] at h₅
  have hflat : webGetMsgFnt ++ (sp2 ++ (webGetMsgMid ++
      (sp1.take (sp1.length - sp2.length) ++ webGetMsgEnd))) =
        (requestPieces sp1 sp2).flatten := by
    simp only [requestPieces, List.flatten_cons, List.flatten_nil, List.append_nil]
  rw [hflat] at h₅
  have hsent := h₅.sent (by omega)
  rw [webClientGet, webClientSendRequest, hurl]
  refine ⟨?_, h₅.inside, ?_⟩
  · rw [hsent]
    exact h₅.bytes
  · intro i hi
    rw [hsent] at hi
    omega

/-- **The two requests are the same as far as the buffer goes.** For every URL, and
whatever the stack has held, `WebClient_Get` keeps to its buffer and sends what
`WebClient_SendRequest` does exactly if both refuse the URL or at most 456 bytes
lie behind its `"http://"`. -/
theorem sameRequest_iff (stack : Mem) (url_link : List UInt8) :
    SameRequest (webClientGet stack url_link) (webClientSendRequest url_link) ↔
      ∀ sp1 sp2, splitURL url_link = some (sp1, sp2) → sp1.length ≤ 456 := by
  constructor
  · intro hsame sp1 sp2 hurl
    exact hsame.fits hurl
  · intro hfits
    cases hurl : splitURL url_link with
    | none =>
      rw [webClientGet, webClientSendRequest, hurl]
      trivial
    | some split => exact sameRequest_of_fits stack hurl (hfits _ _ hurl)

/-- `http://h/`, and `n` times the letter `a`. -/
def longURL (n : Nat) : List UInt8 :=
  ascii ['h', 't', 't', 'p', ':', '/', '/'] ++ (0x68 :: 0x2F :: List.replicate n 0x61)

theorem splitURL_longURL (n : Nat) :
    splitURL (longURL n) = some (0x68 :: 0x2F :: List.replicate n 0x61,
      0x2F :: List.replicate n 0x61) := by
  have hletters : ∀ b ∈ List.replicate n (0x61 : UInt8), b ≠ 0 := by
    intro b hb
    rw [List.eq_of_mem_replicate hb]
    decide
  have hrest : ∀ b ∈ (0x68 :: 0x2F :: List.replicate n 0x61 : List UInt8), b ≠ 0 := by
    intro b hb
    rcases List.mem_cons.mp hb with rfl | hb
    · decide
    · rcases List.mem_cons.mp hb with rfl | hb
      · decide
      · exact hletters b hb
  have hscheme : strstr (longURL n) (ascii ['h', 't', 't', 'p', ':', '/', '/']) =
      some (longURL n) := by
    apply strstr_first (p := [])
    · intro b hb
      rcases List.mem_append.mp hb with hb | hb
      · have hall : (ascii ['h', 't', 't', 'p', ':', '/', '/']).all (· ≠ 0) = true := by decide
        exact of_decide_eq_true (List.all_eq_true.mp hall b hb)
      · exact hrest b hb
    · intro p' _ _
      exact Nat.zero_le p'.length
  have hslash : strstr (0x68 :: 0x2F :: List.replicate n 0x61) (ascii ['/']) =
      some (0x2F :: List.replicate n 0x61) := by
    refine @strstr_first [0x68] (ascii ['/']) _ hrest ?_
    intro p' s' heq
    cases p' with
    | nil => exact absurd (List.cons.inj heq).1 (by decide)
    | cons _ p' => exact Nat.succ_le_succ (Nat.zero_le p'.length)
  have hdrop : (longURL n).drop 7 = 0x68 :: 0x2F :: List.replicate n 0x61 := rfl
  rw [splitURL, hscheme]
  show (strstr ((longURL n).drop 7) (ascii ['/'])).bind _ = _
  rw [hdrop, hslash]
  rfl

/-- **A long URL runs over the buffer.** The path has 456 bytes. -/
theorem not_sameRequest :
    ¬ ∀ (stack : Mem) (url_link : List UInt8),
      SameRequest (webClientGet stack url_link) (webClientSendRequest url_link) := by
  intro h
  have hfits := (h (fun _ => 0) (longURL 455)).fits (splitURL_longURL 455)
  rw [List.length_cons, List.length_cons, List.length_replicate] at hfits
  exact absurd hfits (by decide)

end SpiderL3S
