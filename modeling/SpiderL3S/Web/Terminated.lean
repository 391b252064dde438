import SpiderL3S.Web.Bounds
import SpiderL3S.Web.Header

/- The fields as C strings. The caller clears the buffers and uses them as strings
   afterwards, and the parser stores up to the size of each: a field that is as long
   as its buffer leaves no room for a terminator. Of the content this needs that the
   lines read so far announce more, at every byte that is stored.

   Each of the three ends inside its buffer exactly if none of them fills it with
   bytes other than NUL (`terminated_iff`). -/
namespace SpiderL3S

/-- The buffer, cleared before the stores, has a NUL below its size. -/
def HasNul (size : UInt8) (w : Writes) : Prop :=
  ∃ i < size.toNat, w.applyTo (fun _ => 0) i = 0

/-- Method, file name and content are C strings inside their buffers. -/
def Terminated (sz : Sizes) (r : Request) : Prop :=
  HasNul sz.methodSize r.method ∧ HasNul sz.filenameSize r.filename ∧
    HasNul sz.contentSize r.content

/-- The first bytes of a text take up a buffer, and none of them is NUL. -/
def TakesUp (size : UInt8) (bs : List UInt8) : Prop :=
  size.toNat ≤ bs.length ∧ 0 ∉ bs.take size.toNat

/-- A body behind a scan goes to the buffer up to its end: at each byte, the lines up
to it announce more than what has been stored. -/
def Fills (size : UInt8) (s : Scan) (body : List UInt8) : Prop :=
  size.toNat ≤ s.body.length + body.length ∧ ∀ k, s.body.length + k < size.toNat →
    ((s.body.length + k : Nat) : Int) < announced (s.lines.run (body.take (k + 1))).windows

/-! Buffers. -/

theorem hasNul_iff {bs : List UInt8} {size : UInt8} (hle : bs.length ≤ size.toNat) :
    HasNul size bs.zipIdx ↔ bs.length < size.toNat ∨ 0 ∈ bs := by
  unfold HasNul
  rw [Writes.applyTo_zipIdx]
  constructor
  · intro h
    obtain ⟨i, hi, hzero⟩ := h
    by_cases hin : i < bs.length
    · right
      rw [Mem.store_in _ (Nat.zero_le i) (by omega), Nat.sub_zero,
        List.getD_eq_getElem _ _ hin] at hzero
      rw [← hzero]
      exact List.getElem_mem hin
    · exact .inl (by omega)
  · intro h
    rcases h with hshort | hnul
    · exact ⟨bs.length, hshort, Mem.store_out _ (by omega)⟩
    · obtain ⟨i, hi, hzero⟩ := List.getElem_of_mem hnul
      refine ⟨i, by omega, ?_⟩
      rw [Mem.store_in _ (Nat.zero_le i) (by omega), Nat.sub_zero, List.getD_eq_getElem _ _ hi]
      exact hzero

/-- A word that is cut to its buffer. -/
theorem hasNul_take_iff (size : UInt8) (bs : List UInt8) :
    HasNul size (bs.take size.toNat).zipIdx ↔ ¬ TakesUp size bs := by
  rw [hasNul_iff (List.length_take_le _ _), List.length_take]
  unfold TakesUp
  constructor
  · intro h htakes
    rcases h with hshort | hnul
    · have hlong := htakes.1
      omega
    · exact htakes.2 hnul
  · intro h
    by_cases hshort : bs.length < size.toNat
    · exact .inl (by omega)
    · right
      by_contra hnul
      exact h ⟨by omega, hnul⟩

/-! The body. -/

/-- What a scan stores is the beginning of what it reads. -/
theorem Scan.read_body_prefix (size : UInt8) {b : List UInt8} :
    ∀ {s : Scan}, blankLine <:+ s.head → (s.read size b).1.body <+: s.body ++ b := by
  induction b with
  | nil =>
    intro s _
    rw [List.append_nil]
    exact List.prefix_rfl
  | cons d b ih =>
    intro s hblank
    rw [Scan.read, Scan.after_body size hblank]
    by_cases hfull : s.Full size d
    · rw [if_pos hfull, if_pos hfull]
      exact List.prefix_append _ _
    · rw [if_neg hfull, if_neg hfull]
      have hrest := ih (s := ⟨s.lines.next d, s.head, s.body ++ [d]⟩) hblank
      rwa [List.append_assoc, List.singleton_append] at hrest

/-- The buffer is full behind a body exactly if the body goes to it up to its end. -/
theorem Scan.read_fills (size : UInt8) {b : List UInt8} :
    ∀ {s : Scan}, blankLine <:+ s.head →
      (size.toNat ≤ (s.read size b).1.body.length ↔ Fills size s b) := by
  induction b with
  | nil =>
    intro s _
    constructor
    · intro h
      change size.toNat ≤ s.body.length at h
      exact ⟨h, fun k hk => absurd hk (by omega)⟩
    · exact fun h => h.1
  | cons d b ih =>
    intro s hblank
    rw [Scan.read, Scan.after_body size hblank]
    by_cases hfull : s.Full size d
    · rw [if_pos hfull, if_pos hfull]
      constructor
      · intro h
        change size.toNat ≤ s.body.length at h
        exact ⟨Nat.le_add_right_of_le h, fun k hk => absurd hk (by omega)⟩
      · intro h
        -- with room left, the length announced at this byte is too small
        by_contra hroom
        exact hfull.2 ⟨Nat.lt_of_not_le hroom, h.2 0 (Nat.lt_of_not_le hroom)⟩
    · rw [if_neg hfull, if_neg hfull, ih (s := ⟨s.lines.next d, s.head, s.body ++ [d]⟩) hblank]
      have hnext : s.body.length < size.toNat ∧
          (s.body.length : Int) < announced (s.lines.next d).windows := by
        by_contra hno
        exact hfull ⟨hblank, hno⟩
      have hlen : (s.body ++ [d]).length = s.body.length + 1 := by simp
      unfold Fills
      rw [hlen, List.length_cons, Nat.add_assoc, Nat.add_comm 1 b.length]
      apply and_congr_right
      intro _
      constructor
      · intro h k hk
        cases k with
        | zero => exact hnext.2
        | succ k =>
          have hlater := h k (by omega)
          rwa [Nat.add_assoc, Nat.add_comm 1 k] at hlater
      · intro h k hk
        have hlater := h (k + 1) (by omega)
        rwa [← Nat.add_assoc, Nat.add_right_comm] at hlater

/-- A stream has a header, or no blank line at all. -/
theorem header_cases (c : List UInt8) :
    (∃ head body, c = head ++ body ∧ HeaderBlock head) ∨ ∀ p, p <+: c → ¬ blankLine <:+ p := by
  induction c using List.reverseRecOn with
  | nil =>
    right
    intro p hp hblank
    rw [List.prefix_nil.mp hp] at hblank
    exact absurd hblank (by decide)
  | append_singleton c d ih =>
    rcases ih with ⟨head, body, rfl, hhead⟩ | hnone
    · exact .inl ⟨head, body ++ [d], List.append_assoc _ _ _, hhead⟩
    · have hproper : ∀ p, p <+: c ++ [d] → p ≠ c ++ [d] → ¬ blankLine <:+ p := by
        intro p hp hne
        rcases List.prefix_concat_iff.mp hp with heq | hp
        · exact absurd heq hne
        · exact hnone p hp
      by_cases hblank : blankLine <:+ c ++ [d]
      · exact .inl ⟨c ++ [d], [], (List.append_nil _).symm, hblank, hproper⟩
      · right
        intro p hp
        by_cases heq : p = c ++ [d]
        · rwa [heq]
        · exact hproper p hp heq

/-- The content of a request with a header. -/
theorem hasNul_body (size : UInt8) {head : List UInt8} (h : HeaderBlock head) (body : List UInt8) :
    HasNul size ((behindHeader head).read size body).1.body.zipIdx ↔
      ¬ (Fills size (behindHeader head) body ∧ 0 ∉ body.take size.toNat) := by
  have hroom : ((behindHeader head).read size body).1.body.length ≤ size.toNat :=
    Scan.read_room size _ (Nat.zero_le _)
  have hstored : ((behindHeader head).read size body).1.body <+: body :=
    Scan.read_body_prefix size h.1
  rw [hasNul_iff hroom, ← Scan.read_fills size h.1]
  have htake : size.toNat ≤ ((behindHeader head).read size body).1.body.length →
      ((behindHeader head).read size body).1.body = body.take size.toNat := by
    intro hfull
    rw [List.prefix_iff_eq_take.mp hstored, Nat.le_antisymm hroom hfull]
  constructor
  · intro hnul hboth
    rcases hnul with hshort | hnul
    · exact absurd hboth.1 (Nat.not_le_of_lt hshort)
    · rw [htake hboth.1] at hnul
      exact hboth.2 hnul
  · intro hnot
    by_cases hfull : size.toNat ≤ ((behindHeader head).read size body).1.body.length
    · right
      rw [htake hfull]
      by_contra hnul
      exact hnot ⟨hfull, hnul⟩
    · exact .inl (Nat.lt_of_not_le hfull)

/-- **The fields are C strings exactly if none fills its buffer.** For every stream,
however it is received, and all sizes: the first word of the stream must not take
up the method's buffer, nor the second one the file name's, and a body behind the
header must not fill the content's without a NUL. -/
theorem terminated_iff (sz : Sizes) (hsize : 0 < sz.contentSize) (start : UInt32)
    (polls : List Poll) :
    Terminated sz (webServerProcessRequest sz start polls).1 ↔
      ¬ TakesUp sz.methodSize (firstWord (received start polls)) ∧
      ¬ TakesUp sz.filenameSize (firstWord (behindSpace (received start polls))) ∧
      ∀ head body, contentPart (received start polls) = head ++ body → HeaderBlock head →
        ¬ (Fills sz.contentSize (behindHeader head) body ∧
          0 ∉ body.take sz.contentSize.toNat) := by
  obtain ⟨hmethod, hfilename, hcontent, -⟩ := processBytes_start sz (received start polls)
  rw [webServerProcessRequest_eq, Terminated, hmethod, hfilename, hcontent, hasNul_take_iff,
    hasNul_take_iff]
  refine and_congr_right fun _ => and_congr_right fun _ => ?_
  have hread : ∀ head body, contentPart (received start polls) = head ++ body → HeaderBlock head →
      scanOf sz (received start polls) = ((behindHeader head).read sz.contentSize body).1 := by
    intro head body hsplit hhead
    rw [scanOf, hsplit, Scan.read_header _ hhead]
  constructor
  · intro hnul head body hsplit hhead
    rw [hread head body hsplit hhead, hasNul_body _ hhead] at hnul
    exact hnul
  · intro hfits
    rcases header_cases (contentPart (received start polls)) with
      ⟨head, body, hsplit, hhead⟩ | hnone
    · rw [hread head body hsplit hhead, hasNul_body _ hhead]
      exact hfits head body hsplit hhead
    · -- no header is complete, and nothing is stored
      have hscan := Scan.read_head sz.contentSize Scan.start fun p hp _ => hnone p hp
      rw [scanOf, hscan, hasNul_iff (Nat.zero_le _)]
      exact .inl (UInt8.lt_iff_toNat_lt.mp hsize)

/-- A stream has one header. -/
theorem HeaderBlock.unique {head head' body body' : List UInt8} (h : HeaderBlock head)
    (h' : HeaderBlock head') (hsame : head ++ body = head' ++ body') :
    head = head' ∧ body = body' := by
  have hall : head <+: head' ++ body' := ⟨body, hsame⟩
  have heq : head = head' := by
    rcases List.prefix_or_prefix_of_prefix hall (List.prefix_append head' body') with hp | hp
    · by_contra hne
      exact h'.2 head hp hne h.1
    · by_contra hne
      exact h.2 head' hp (Ne.symm hne) h'.1
  exact ⟨heq, List.append_cancel_left (heq ▸ hsame)⟩

/-- The header fields of a form, and what it posts. -/
def formHeader : List UInt8 := ascii "HTTP/1.1\r\nContent-Length:8\r\n\r\n".toList
def formBody : List UInt8 := ascii "var=HIGH".toList

def formPolls : List Poll :=
  [⟨0, some ⟨ascii "POST / ".toList ++ formHeader ++ formBody, by decide +kernel⟩, 0⟩]

/-- A form is posted, with a body of eight bytes. -/
theorem terminated_form :
    Terminated ⟨5, 30, 15, 0⟩ (webServerProcessRequest ⟨5, 30, 15, 0⟩ 0 formPolls).1 := by
  apply (terminated_iff ⟨5, 30, 15, 0⟩ (by decide) 0 _).mpr
  have hheader : HeaderBlock formHeader := by decide +kernel
  refine ⟨fun h => absurd h.1 (by decide +kernel), fun h => absurd h.1 (by decide +kernel), ?_⟩
  intro head body hsplit hhead
  have hform : contentPart (received 0 formPolls) = formHeader ++ formBody := by decide +kernel
  obtain ⟨rfl, rfl⟩ := hheader.unique hhead (hform.symm.trans hsplit)
  exact fun hboth => absurd hboth.1.1 (by decide +kernel)

/-- **A long method has no end.** The shipped server gives the method five bytes, and a
client sends `OPTIONS`. -/
theorem not_terminated :
    ¬ ∀ (sz : Sizes), 0 < sz.methodSize → 0 < sz.filenameSize → 0 < sz.contentSize →
      ∀ (start : UInt32) (polls : List Poll),
        Terminated sz (webServerProcessRequest sz start polls).1 := by
  intro h
  obtain ⟨hmethod, -, -⟩ := h ⟨5, 30, 15, 0⟩ (by decide) (by decide) (by decide) 0
    [⟨0, some ⟨ascii ['O', 'P', 'T', 'I', 'O', 'N', 'S'], by decide⟩, 0⟩]
  have hnul := (@hasNul_iff (ascii ['O', 'P', 'T', 'I', 'O']) 5 (by decide)).mp hmethod
  exact absurd hnul (by decide)

end SpiderL3S
