import SpiderL3S.Web.Scan

/- How a scan reads a stream part by part. A row of bytes without a line feed
   completes no line; a line and its CR LF add one window. The first blank line
   splits a stream into the header, during which the parser never returns, and
   the body, of which it stores what the buffer and the announced length leave
   room for, as long as the lines in it announce nothing else. -/
namespace SpiderL3S

abbrev crlf : List UInt8 := [cr, lf]

/-! Lines. -/

def Lines.run (l : Lines) (c : List UInt8) : Lines := c.foldl Lines.next l

theorem Lines.run_append (l : Lines) (a b : List UInt8) : l.run (a ++ b) = (l.run a).run b := by
  simp only [Lines.run, List.foldl_append]

theorem Lines.run_snoc (l : Lines) (c : List UInt8) (d : UInt8) :
    l.run (c ++ [d]) = (l.run c).next d := by
  rw [Lines.run_append]
  rfl

/-- Without a line feed the line only grows. -/
theorem Lines.run_of_no_lf (l : Lines) {c : List UInt8} (h : lf ∉ c) :
    l.run c = ⟨l.line ++ c, l.windows⟩ := by
  induction c using List.reverseRecOn with
  | nil => rw [List.append_nil]; rfl
  | append_singleton c d ih =>
    have hc : lf ∉ c := fun hmem => h (List.mem_append_left _ hmem)
    have hd : d ≠ lf := fun heq => h (by simp [heq])
    rw [Lines.run_snoc, ih hc, Lines.next, if_neg (fun hclose => hd hclose.2), List.append_assoc]

/-- A line and its end. -/
theorem Lines.run_line (l : Lines) {t : List UInt8} (h : lf ∉ t) :
    l.run (t ++ crlf) = ⟨[], l.windows ++ [Window.last sp 48 (l.line ++ t)]⟩ := by
  have hlf : lf ∉ t ++ [cr] := by
    rw [List.mem_append, List.mem_singleton]
    intro hmem
    rcases hmem with hmem | heq
    · exact h hmem
    · exact absurd heq (by decide)
  have hsplit : t ++ crlf = (t ++ [cr]) ++ [lf] := by simp
  rw [hsplit, Lines.run_snoc, Lines.run_of_no_lf l hlf, Lines.next, ← List.append_assoc]
  dsimp only
  rw [List.getLast?_concat, if_pos ⟨rfl, rfl⟩, List.dropLast_concat]

theorem Lines.run_lines (ls : List (List UInt8)) (hlf : ∀ t ∈ ls, lf ∉ t)
    (windows : List (List UInt8)) :
    Lines.run ⟨[], windows⟩ (ls.flatMap (· ++ crlf)) =
      ⟨[], windows ++ ls.map (Window.last sp 48)⟩ := by
  induction ls generalizing windows with
  | nil => simp [Lines.run]
  | cons t ls ih =>
    rw [List.flatMap_cons, Lines.run_append, Lines.run_line _ (hlf t List.mem_cons_self),
      ih (fun u hu => hlf u (List.mem_cons_of_mem t hu)), List.map_cons, List.append_assoc]
    rfl

/-- Behind a CR LF the line is empty. -/
theorem Lines.run_crlf (l : Lines) (c : List UInt8) : (l.run (c ++ crlf)).line = [] := by
  have hsplit : c ++ crlf = (c ++ [cr]) ++ [lf] := by simp
  rw [hsplit, Lines.run_snoc, Lines.run_snoc]
  generalize l.run c = m
  have hcr : m.next cr = ⟨m.line ++ [cr], m.windows⟩ := by
    rw [Lines.next, if_neg (fun h => absurd h.2 (by decide))]
  rw [hcr, Lines.next, List.getLast?_concat, if_pos ⟨rfl, rfl⟩]

/-- Every window shows a line that lies in the stream with its CR LF. -/
theorem Lines.run_windows (l : Lines) (c : List UInt8) :
    (l.run c).line <:+ l.line ++ c ∧ ∃ new, (l.run c).windows = l.windows ++ new ∧
      ∀ w ∈ new, ∃ t, w = Window.last sp 48 t ∧ t ++ crlf <:+: l.line ++ c := by
  induction c using List.reverseRecOn with
  | nil => exact ⟨by simp [Lines.run], [], by simp [Lines.run], by simp⟩
  | append_singleton c d ih =>
    obtain ⟨hline, new, hwindows, hnew⟩ := ih
    have hgrow : l.line ++ (c ++ [d]) = (l.line ++ c) ++ [d] := (List.append_assoc _ _ _).symm
    rw [Lines.run_snoc, Lines.next, hgrow]
    by_cases hclose : (l.run c).line.getLast? = some cr ∧ d = lf
    · obtain ⟨hcr, rfl⟩ := hclose
      rw [if_pos ⟨hcr, rfl⟩]
      refine ⟨List.nil_suffix, new ++ [Window.last sp 48 (l.run c).line.dropLast], ?_, ?_⟩
      · rw [hwindows, List.append_assoc]
      · intro w hw
        rcases List.mem_append.mp hw with hold | hlast
        · obtain ⟨t, ht, hin⟩ := hnew w hold
          exact ⟨t, ht, hin.trans (List.prefix_append _ _).isInfix⟩
        · refine ⟨(l.run c).line.dropLast, List.mem_singleton.mp hlast, ?_⟩
          obtain ⟨q, hq⟩ := hline
          have hdrop : (l.run c).line.dropLast ++ [cr] = (l.run c).line :=
            List.dropLast_append_getLast? cr hcr
          refine ⟨q, [], ?_⟩
          rw [← hq, ← hdrop]
          simp
    · rw [if_neg hclose]
      obtain ⟨q, hq⟩ := hline
      refine ⟨⟨q, by rw [← hq, List.append_assoc]⟩, new, hwindows, ?_⟩
      intro w hw
      obtain ⟨t, ht, hin⟩ := hnew w hw
      exact ⟨t, ht, hin.trans (List.prefix_append _ _).isInfix⟩

/-! What a line gives away. -/

theorem contentLengthField_head : ∀ y ∈ contentLengthField.head?, y ≠ sp := by
  intro y hy
  obtain rfl := Option.some.inj hy
  decide

theorem authorizationBasic_head : ∀ y ∈ authorizationBasic.head?, y ≠ sp := by
  intro y hy
  obtain rfl := Option.some.inj hy
  decide

/-- A line without the field announces nothing. -/
theorem readLength_of_not_infix (n : Int) {t : List UInt8} (h : ¬ contentLengthField <:+: t) :
    readLength n (Window.last sp 48 t) = n := by
  have hnone : CString.strstr (Window.last sp 48 t) contentLengthField = none :=
    CString.strstr_eq_none fun hin => h (Window.infix_of_infix_last (by decide)
      contentLengthField_head (List.infix_refl _) hin)
  rw [readLength, hnone]
  rfl

/-- A window without the field carries no credentials. -/
theorem authWrites_eq_nil {w : List UInt8} (h : ¬ authorizationBasic <:+: w) :
    authWrites w = [] := by
  rw [authWrites, authToken, CString.strstr_eq_none h]
  rfl

/-- Nor does a line without it. -/
theorem authWrites_of_not_infix {t : List UInt8} (h : ¬ authorizationBasic <:+: t) :
    authWrites (Window.last sp 48 t) = [] := by
  apply authWrites_eq_nil
  intro hin
  exact h (Window.infix_of_infix_last (by decide) authorizationBasic_head (List.infix_refl _) hin)

theorem announced_append (a b : List (List UInt8)) :
    announced (a ++ b) = b.foldl readLength (announced a) := by
  simp only [announced, List.foldl_append]

/-- Lines that announce nothing leave the announced length. -/
theorem foldl_readLength {ws : List (List UInt8)} (h : ∀ w ∈ ws, ∀ n, readLength n w = n)
    (n : Int) : ws.foldl readLength n = n := by
  induction ws with
  | nil => rfl
  | cons w ws ih =>
    rw [List.foldl_cons, h w List.mem_cons_self n]
    exact ih fun v hv => h v (List.mem_cons_of_mem _ hv)

/-- A stream without the field leaves the announced length. -/
theorem announced_run (l : Lines) {c : List UInt8} (h : ¬ contentLengthField <:+: l.line ++ c) :
    announced (l.run c).windows = announced l.windows := by
  obtain ⟨-, new, hwindows, hnew⟩ := l.run_windows c
  rw [hwindows, announced_append]
  refine foldl_readLength (fun w hw n => ?_) _
  obtain ⟨t, rfl, hin⟩ := hnew w hw
  exact readLength_of_not_infix n
    fun hfield => h (hfield.trans ((List.prefix_append t crlf).isInfix.trans hin))

/-- A stream without the credentials field adds nothing to `auth`. -/
theorem authWrites_run (l : Lines) {c : List UInt8} (h : ¬ authorizationBasic <:+: l.line ++ c) :
    (l.run c).windows.flatMap authWrites = l.windows.flatMap authWrites := by
  obtain ⟨-, new, hwindows, hnew⟩ := l.run_windows c
  have hnil : new.flatMap authWrites = [] := by
    rw [List.flatMap_eq_nil_iff]
    intro w hw
    obtain ⟨t, rfl, hin⟩ := hnew w hw
    exact authWrites_of_not_infix
      fun hfield => h (hfield.trans ((List.prefix_append t crlf).isInfix.trans hin))
  rw [hwindows, List.flatMap_append, hnil, List.append_nil]

/-- A text occurs in one place only, if it does so at no other offset. -/
theorem occurs_of_offsets {bytes needle front : List UInt8} (hfront : front <+: bytes)
    (h : ∀ k < bytes.length + 1, needle <+: bytes.drop k → k = front.length) :
    ∀ u v, bytes = u ++ needle ++ v → u = front := by
  intro u v huv
  have hu : u <+: bytes := ⟨needle ++ v, by rw [huv, List.append_assoc]⟩
  have hlen : u.length = front.length := by
    refine h u.length (Nat.lt_succ_of_le hu.length_le) ⟨v, ?_⟩
    rw [huv, List.append_assoc, List.drop_left]
  rw [List.prefix_iff_eq_take.mp hu, List.prefix_iff_eq_take.mp hfront, hlen]

/-! Header and body. -/

theorem Scan.read_append (size : UInt8) (s : Scan) (a b : List UInt8) :
    s.read size (a ++ b) =
      if (s.read size a).2 then s.read size a else (s.read size a).1.read size b := by
  induction a generalizing s with
  | nil => rfl
  | cons d a ih =>
    rw [List.cons_append, Scan.read, Scan.read]
    by_cases hfull : s.Full size d
    · rw [if_pos hfull, if_pos hfull]
      rfl
    · rw [if_neg hfull, if_neg hfull]
      exact ih _

/-- Before the blank line is complete, every byte is read. -/
theorem Scan.read_head (size : UInt8) (s : Scan) {c : List UInt8}
    (h : ∀ p, p <+: c → p ≠ c → ¬ blankLine <:+ s.head ++ p) :
    s.read size c = (⟨s.lines.run c, s.head ++ c, s.body⟩, false) := by
  induction c generalizing s with
  | nil => simp [Scan.read, Lines.run]
  | cons d c ih =>
    have hopen : ¬ blankLine <:+ s.head := by
      have := h [] List.nil_prefix (by simp)
      rwa [List.append_nil] at this
    have hfull : ¬ s.Full size d := fun hf => hopen hf.1
    have hnext : s.after size d = ⟨s.lines.next d, s.head ++ [d], s.body⟩ := by
      rw [Scan.after, if_neg hfull, Scan.next, if_neg hopen]
    rw [Scan.read, if_neg hfull, hnext, ih]
    · simp only [List.append_assoc, List.singleton_append]
      rfl
    · intro p hp hne
      have := h (d :: p) ((List.prefix_cons_inj d).mpr hp) (by simpa using hne)
      simpa using this

/-- A header: it ends in the first blank line it has. -/
def HeaderBlock (c : List UInt8) : Prop :=
  blankLine <:+ c ∧ ∀ p, p <+: c → p ≠ c → ¬ blankLine <:+ p

theorem headerBlock_iff (c : List UInt8) :
    HeaderBlock c ↔ blankLine <:+ c ∧ ∀ k < c.length, ¬ blankLine <:+ c.take k := by
  refine and_congr_right fun _ => ⟨?_, ?_⟩
  · intro h k hk
    apply h _ (List.take_prefix k c)
    intro heq
    have := congrArg List.length heq
    rw [List.length_take] at this
    omega
  · intro h p hp hne
    rw [List.prefix_iff_eq_take.mp hp]
    refine h _ (Nat.lt_of_le_of_ne hp.length_le fun heq => hne ?_)
    exact hp.eq_of_length heq

instance (c : List UInt8) : Decidable (HeaderBlock c) := decidable_of_iff' _ (headerBlock_iff c)

/-- The scan behind a header. -/
def behindHeader (c : List UInt8) : Scan := ⟨Lines.run ⟨[], []⟩ c, c, []⟩

theorem Scan.read_header (size : UInt8) {c : List UInt8} (h : HeaderBlock c) (body : List UInt8) :
    Scan.start.read size (c ++ body) = (behindHeader c).read size body := by
  have hread := Scan.read_head size Scan.start (c := c) (by simpa [Scan.start] using h.2)
  rw [Scan.read_append, hread]
  rfl

theorem behindHeader_line {c : List UInt8} (h : HeaderBlock c) :
    (behindHeader c).lines.line = [] := by
  obtain ⟨⟨q, hq⟩, -⟩ := h
  have hsplit : c = (q ++ crlf) ++ crlf := by
    rw [← hq]
    simp [blankLine]
  rw [behindHeader, hsplit]
  exact Lines.run_crlf _ _

/-- In the body, a byte is stored or is the last one read. -/
theorem Scan.after_body (size : UInt8) {s : Scan} (h : blankLine <:+ s.head) (d : UInt8) :
    s.after size d =
      ⟨s.lines.next d, s.head, if s.Full size d then s.body else s.body ++ [d]⟩ := by
  unfold Scan.after Scan.next
  by_cases hfull : s.Full size d
  · rw [if_pos hfull, if_pos hfull]
  · rw [if_neg hfull, if_neg hfull, if_pos h]

/-- The body that is stored, while the lines in it announce nothing else. -/
theorem Scan.read_body (size : UInt8) {n : Int} {b : List UInt8} :
    ∀ {s : Scan}, blankLine <:+ s.head →
      (∀ p, p <+: b → announced (s.lines.run p).windows = n) →
      s.body.length ≤ min size.toNat n.toNat →
      (s.read size b).1.body = s.body ++ b.take (min size.toNat n.toNat - s.body.length) ∧
        (s.read size b).2 = decide (min size.toNat n.toNat < s.body.length + b.length) := by
  induction b with
  | nil =>
    intro s _ _ hle
    refine ⟨by simp [Scan.read], ?_⟩
    simp only [Scan.read, List.length_nil, Nat.add_zero]
    exact (decide_eq_false (by omega)).symm
  | cons d b ih =>
    intro s hblank hann hle
    have hd : announced (s.lines.next d).windows = n := hann [d] (by simp)
    rw [Scan.read, Scan.after_body size hblank]
    by_cases hroom : s.body.length < min size.toNat n.toNat
    · have hfull : ¬ s.Full size d := by
        intro hfull
        have hnot := hfull.2
        rw [hd] at hnot
        omega
      rw [if_neg hfull, if_neg hfull]
      have hann' : ∀ p, p <+: b → announced ((s.lines.next d).run p).windows = n := fun p hp =>
        hann (d :: p) ((List.prefix_cons_inj d).mpr hp)
      obtain ⟨hbody, hflag⟩ := ih (s := ⟨s.lines.next d, s.head, s.body ++ [d]⟩) hblank hann' (by
        rw [List.length_append, List.length_singleton]
        omega)
      obtain ⟨room, hcount⟩ : ∃ room, min size.toNat n.toNat - s.body.length = room + 1 :=
        ⟨min size.toNat n.toNat - s.body.length - 1, by omega⟩
      have hroom' : min size.toNat n.toNat - (s.body ++ [d]).length = room := by
        rw [List.length_append, List.length_singleton]
        omega
      rw [hbody, hflag, hroom', hcount]
      refine ⟨by simp, ?_⟩
      simp only [List.length_append, List.length_cons, List.length_nil]
      congr 1
      rw [eq_iff_iff]
      omega
    · have hfull : s.Full size d := by
        refine ⟨hblank, ?_⟩
        rw [hd]
        omega
      have hzero : min size.toNat n.toNat - s.body.length = 0 := by omega
      rw [if_pos hfull, if_pos hfull, hzero]
      refine ⟨by simp, ?_⟩
      symm
      rw [decide_eq_true_eq, List.length_cons]
      omega

/-- The lines a scan has read are those of a part of the stream, in the body at
most one byte longer than what it has stored. -/
theorem Scan.read_lines (size : UInt8) {b : List UInt8} :
    ∀ s : Scan, ∃ p, p <+: b ∧ (s.read size b).1.lines = s.lines.run p ∧
      (blankLine <:+ s.head → s.body.length + p.length ≤ (s.read size b).1.body.length + 1) := by
  induction b with
  | nil => exact fun s => ⟨[], List.nil_prefix, rfl, fun _ => by simp [Scan.read]⟩
  | cons d b ih =>
    intro s
    rw [Scan.read]
    by_cases hfull : s.Full size d
    · rw [if_pos hfull]
      refine ⟨[d], by simp, ?_, ?_⟩
      · rw [Scan.after_body size hfull.1]
        rfl
      · intro hblank
        rw [Scan.after_body size hblank, if_pos hfull]
        simp
    · rw [if_neg hfull]
      obtain ⟨p, hp, hlines, hlen⟩ := ih (s.after size d)
      refine ⟨d :: p, (List.prefix_cons_inj d).mpr hp, ?_, ?_⟩
      · rw [hlines, Scan.after, if_neg hfull, Scan.next]
        split <;> rfl
      · intro hblank
        have hafter := Scan.after_body size hblank d
        rw [if_neg hfull] at hafter
        have hbody := hlen (by rw [hafter]; exact hblank)
        have hgrown : (s.after size d).body.length = s.body.length + 1 := by
          rw [hafter, List.length_append, List.length_singleton]
        rw [List.length_cons]
        omega

/-- A scan that the parser does not return from has read every line. -/
theorem Scan.read_all (size : UInt8) {b : List UInt8} :
    ∀ s : Scan, (s.read size b).2 = false → (s.read size b).1.lines = s.lines.run b := by
  induction b with
  | nil => exact fun s _ => rfl
  | cons d b ih =>
    intro s hflag
    rw [Scan.read] at hflag ⊢
    by_cases hfull : s.Full size d
    · rw [if_pos hfull] at hflag
      cases hflag
    · rw [if_neg hfull] at hflag ⊢
      rw [ih _ hflag, Scan.after, if_neg hfull, Scan.next]
      split <;> rfl

/-- Reading the body leaves the header. -/
theorem Scan.read_keeps_head (size : UInt8) {b : List UInt8} :
    ∀ s : Scan, blankLine <:+ s.head → (s.read size b).1.head = s.head := by
  induction b with
  | nil => exact fun s _ => rfl
  | cons d b ih =>
    intro s hblank
    have hafter : (s.after size d).head = s.head := by rw [Scan.after_body size hblank]
    rw [Scan.read]
    split
    · exact hafter
    · rw [ih _ (by rw [hafter]; exact hblank), hafter]

/-! The content part of a stream. -/

theorem behindSpace_append {a : List UInt8} (h : sp ∈ a) (b : List UInt8) :
    behindSpace (a ++ b) = behindSpace a ++ b := by
  unfold behindSpace
  have hne : a.dropWhile (fun c => decide (c ≠ sp)) ≠ [] := by
    intro hnil
    rw [List.dropWhile_eq_nil_iff] at hnil
    simpa using hnil sp h
  obtain ⟨c, rest, hrest⟩ := List.exists_cons_of_ne_nil hne
  rw [List.dropWhile_append, hrest]
  rfl

theorem behindSpace_of_not_mem {a : List UInt8} (h : sp ∉ a) : behindSpace a = [] := by
  have hnil : a.dropWhile (fun c => decide (c ≠ sp)) = [] := by
    rw [List.dropWhile_eq_nil_iff]
    intro c hc
    simp only [decide_eq_true_eq]
    exact fun heq => h (heq ▸ hc)
  rw [behindSpace, hnil]
  rfl

theorem contentPart_suffix (a : List UInt8) : contentPart a <:+ a := by
  have hbehind : ∀ l, behindSpace l <:+ l := fun l =>
    (List.drop_suffix 1 _).trans (List.dropWhile_suffix _)
  exact (hbehind _).trans (hbehind a)

/-- What follows a complete request line follows its content part. -/
theorem contentPart_append {a : List UInt8} (h : contentPart a ≠ []) (b : List UInt8) :
    contentPart (a ++ b) = contentPart a ++ b := by
  have hsecond : sp ∈ behindSpace a := by
    by_contra hno
    exact h (behindSpace_of_not_mem hno)
  have hfirst : sp ∈ a := by
    by_contra hno
    rw [behindSpace_of_not_mem hno] at hsecond
    cases hsecond
  rw [contentPart, behindSpace_append hfirst, behindSpace_append hsecond, contentPart]

theorem HeaderBlock.ne_nil {c : List UInt8} (h : HeaderBlock c) : c ≠ [] := by
  intro hc
  subst hc
  have hlen := h.1.length_le
  exact absurd hlen (by decide)

/-- What is read of a request: the body, behind its header. -/
theorem scanOf_request (sz : Sizes) {head : List UInt8} (h : HeaderBlock (contentPart head))
    (body : List UInt8) :
    scanOf sz (head ++ body) =
      ((behindHeader (contentPart head)).read sz.contentSize body).1 := by
  rw [scanOf, contentPart_append h.ne_nil, Scan.read_header _ h]

end SpiderL3S
