import SpiderL3S.Web.Scan

/- The bounds of the four output buffers. Method, file name and content are
   filled behind a comparison with their sizes, so their stores stay inside on
   every stream. `auth` is filled by `sscanf` with no width and `auth_size` is
   never read: the main result says which streams keep it inside all the same. -/
namespace SpiderL3S

/-- Every store is below `size`. -/
def InBounds (w : Writes) (size : UInt8) : Prop := ∀ p ∈ w, p.2 < size.toNat

instance (w : Writes) (size : UInt8) : Decidable (InBounds w size) :=
  inferInstanceAs (Decidable (∀ p ∈ w, _))

/-- Every store to each of the four buffers is below the size given for it. -/
def WritesInBounds (sz : Sizes) (r : Request) : Prop :=
  InBounds r.method sz.methodSize ∧ InBounds r.filename sz.filenameSize ∧
    InBounds r.content sz.contentSize ∧ InBounds r.auth sz.authSize

theorem zipIdx_inBounds {bs : List UInt8} {size : UInt8} (h : bs.length ≤ size.toNat) :
    InBounds bs.zipIdx size := by
  intro p hp
  have := List.snd_lt_of_mem_zipIdx hp
  omega

theorem take_zipIdx_inBounds (bs : List UInt8) (size : UInt8) :
    InBounds (bs.take size.toNat).zipIdx size :=
  zipIdx_inBounds (List.length_take_le _ _)

/-- A scan never stores more body than there is room for. -/
theorem Scan.read_room (size : UInt8) {b : List UInt8} :
    ∀ s : Scan, s.body.length ≤ size.toNat → (s.read size b).1.body.length ≤ size.toNat := by
  induction b with
  | nil => exact fun s h => h
  | cons d b ih =>
    intro s h
    have hafter : (s.after size d).body.length ≤ size.toNat := by
      unfold Scan.after
      by_cases hfull : s.Full size d
      · rw [if_pos hfull]
        exact h
      · rw [if_neg hfull]
        unfold Scan.next
        by_cases hblank : blankLine <:+ s.head
        · -- not full, so there is room for one more
          rw [if_pos hblank]
          have hroom : s.body.length < size.toNat := by
            by_contra hno
            exact hfull ⟨hblank, fun hr => hno hr.1⟩
          rw [List.length_append, List.length_singleton]
          exact hroom
        · rw [if_neg hblank]
          exact h
    rw [Scan.read]
    by_cases hfull : s.Full size d
    · rw [if_pos hfull]
      exact hafter
    · rw [if_neg hfull]
      exact ih _ hafter

/-- The credentials of a line fit when the word is shorter than the buffer. -/
theorem authWrites_inBounds (line : List UInt8) (size : UInt8) :
    InBounds (authWrites line) size ↔
      ∀ token, authToken line = some token → token.length < size.toNat := by
  unfold authWrites
  cases htoken : authToken line with
  | none => simp [InBounds]
  | some token =>
    simp only [Option.some.injEq, forall_eq']
    refine ⟨?_, ?_⟩
    · intro h
      -- the terminator is stored behind the word
      apply h (0, token.length)
      rw [List.zipIdx_append, List.mem_append]
      right
      simp
    · intro h
      apply zipIdx_inBounds
      rw [List.length_append, List.length_singleton]
      exact h

/-- The lines the parser searches for header fields in a stream. -/
def searchedLines (sz : Sizes) (stream : List UInt8) : List (List UInt8) :=
  (scanOf sz stream).lines.windows

/-- **The request parser stays inside its buffers exactly on the streams whose
credentials are shorter than `auth_size`**, for every size, every stream and every
way of receiving it. -/
theorem writesInBounds_iff (sz : Sizes) (start : UInt32) (polls : List Poll) :
    WritesInBounds sz (webServerProcessRequest sz start polls).1 ↔
      ∀ line ∈ searchedLines sz (received start polls),
        ∀ token, authToken line = some token → token.length < sz.authSize.toNat := by
  obtain ⟨hmethod, hfilename, hcontent, hauth⟩ := processBytes_start sz (received start polls)
  rw [webServerProcessRequest_eq, WritesInBounds, hmethod, hfilename, hcontent, hauth]
  have hbody : InBounds (scanOf sz (received start polls)).body.zipIdx sz.contentSize :=
    zipIdx_inBounds (Scan.read_room sz.contentSize Scan.start (Nat.zero_le _))
  have hlines : InBounds ((scanOf sz (received start polls)).lines.windows.flatMap authWrites)
        sz.authSize ↔
      ∀ line ∈ searchedLines sz (received start polls), InBounds (authWrites line) sz.authSize := by
    refine ⟨?_, ?_⟩
    · intro h line hline p hp
      exact h p (List.mem_flatMap.mpr ⟨line, hline, hp⟩)
    · intro h p hp
      obtain ⟨line, hline, hmem⟩ := List.mem_flatMap.mp hp
      exact h line hline p hmem
  rw [hlines]
  refine ⟨?_, ?_⟩
  · intro ⟨_, _, _, h⟩ line hline
    exact (authWrites_inBounds line sz.authSize).mp (h line hline)
  · intro h
    exact ⟨take_zipIdx_inBounds _ _, take_zipIdx_inBounds _ _, hbody,
      fun line hline => (authWrites_inBounds line sz.authSize).mpr (h line hline)⟩

/-- The shipped server passes `auth_size` 0, and a client sends credentials. -/
theorem not_writesInBounds :
    ¬ ∀ (sz : Sizes) (start : UInt32) (polls : List Poll),
      WritesInBounds sz (webServerProcessRequest sz start polls).1 := by
  intro h
  obtain ⟨-, -, -, hauth⟩ := h ⟨5, 30, 15, 0⟩ 0
    [⟨0, some ⟨ascii ['G', ' ', '/', ' ', 'V'] ++ [cr, lf] ++ authorizationBasic ++
      ascii ['Q', 'Q', '=', '='] ++ [cr, lf], by decide⟩, 0⟩]
  exact absurd (hauth (0x51, 0) (by decide)) (by decide)

end SpiderL3S
