import SpiderL3S.Tx.Commands

/- `nvmem_write_patch` of `nvmem.c`: a file is written in portions of 32 bytes. The loop
   keeps the bytes that are left in 32 bits, the offset in the file in 16, and of the
   result of `nvmem_write` only the low byte, which it tests and returns.

   So the offset goes back to 0 behind 65536 bytes, and an error code with a low byte
   of zero is none. The whole file is written, up to the first error, exactly if
   neither comes up (`patchWritten_iff`). -/
namespace SpiderL3S

/-- A call of `nvmem_write`. -/
structure NvmemWrite where
  ulFileId : UInt32
  ulLength : UInt32
  ulEntryOffset : UInt32
  buff : Mem

/-- The bytes it writes. -/
def NvmemWrite.bytes (w : NvmemWrite) : List UInt8 := w.buff.slice 0 w.ulLength.toNat

/-! The function. -/

/-- The locals of `nvmem_write_patch`, and the calls made so far. -/
structure PatchLoop where
  status : UInt8
  offset : UInt16
  spLength : UInt32
  spDataPtr : Mem
  writes : List NvmemWrite

/-- `status = nvmem_write(ulFileId, ulLength, offset, spDataPtr)`; `results` are the
results of the calls, in turn. -/
def PatchLoop.write (ulFileId ulLength : UInt32) (results : Nat → UInt32) (s : PatchLoop) :
    PatchLoop :=
  { s with
    status := (results s.writes.length).toUInt8
    writes := s.writes ++ [⟨ulFileId, ulLength, s.offset.toUInt32, s.spDataPtr⟩] }

/-- One turn of the loop. -/
def PatchLoop.turn (ulFileId : UInt32) (results : Nat → UInt32) (s : PatchLoop) : PatchLoop :=
  let s := s.write ulFileId spPortionSize results
  { s with
    offset := s.offset + spPortionSize.toUInt16
    spLength := s.spLength - spPortionSize
    spDataPtr := s.spDataPtr.drop spPortionSize.toNat }

/-- The loop over the full portions. -/
def writePortions (ulFileId : UInt32) (results : Nat → UInt32) (s : PatchLoop) : PatchLoop :=
  if _h : s.status = 0 ∧ spPortionSize ≤ s.spLength then
    writePortions ulFileId results (s.turn ulFileId results)
  else s
  termination_by s.spLength.toNat
  decreasing_by
    have hle : 32 ≤ s.spLength.toNat := UInt32.le_iff_toNat_le.mp _h.2
    show (s.spLength - spPortionSize).toNat < _
    rw [UInt32.toNat_sub_of_le _ _ _h.2]
    show s.spLength.toNat - 32 < _
    omega

/-- `nvmem_write_patch`: its result, and the calls it makes. -/
def nvmemWritePatch (ulFileId spLength : UInt32) (spData : Mem) (results : Nat → UInt32) :
    UInt8 × List NvmemWrite :=
  let s := writePortions ulFileId results ⟨0, 0, spLength, spData, []⟩
  if s.status ≠ 0 then (s.status, s.writes)
  else if s.spLength ≠ 0 then
    let s := s.write ulFileId s.spLength results
    (s.status, s.writes)
  else (s.status, s.writes)

/-! What it is for. -/

/-- Consecutive portions are written, all of the data if no call fails, and none behind
one that does. -/
structure PatchWritten (spLength : UInt32) (spData : Mem) (results : Nat → UInt32)
    (outcome : UInt8 × List NvmemWrite) : Prop where
  consecutive : ∀ i w, outcome.2[i]? = some w →
    w.ulEntryOffset.toNat = 32 * i ∧ w.ulLength.toNat ≤ 32 ∧ w.buff = spData.drop (32 * i)
  whole : (∀ i < outcome.2.length, results i = 0) →
    outcome.2.flatMap NvmemWrite.bytes = spData.slice 0 spLength.toNat ∧ outcome.1 = 0
  stops : ∀ i < outcome.2.length, results i ≠ 0 → i + 1 = outcome.2.length ∧ outcome.1 ≠ 0

/-- How many portions there are. -/
def portionCount (spLength : UInt32) : Nat := (spLength.toNat + 31) / 32

/-- The call for portion `i`. -/
def portionWrite (ulFileId spLength : UInt32) (spData : Mem) (i : Nat) : NvmemWrite :=
  { ulFileId
    ulLength := UInt32.ofNat (min 32 (spLength.toNat - 32 * i))
    ulEntryOffset := (UInt16.ofNat (32 * i)).toUInt32
    buff := spData.drop (32 * i) }

/-! The calls. -/

/-- `k` full portions have been written, and no call but the last has been seen to fail. -/
structure Portioned (ulFileId spLength : UInt32) (spData : Mem) (results : Nat → UInt32) (k : Nat)
    (s : PatchLoop) : Prop where
  status : s.status = if k = 0 then 0 else (results (k - 1)).toUInt8
  offset : s.offset = UInt16.ofNat (32 * k)
  left : s.spLength.toNat + 32 * k = spLength.toNat
  data : s.spDataPtr = spData.drop (32 * k)
  writes : s.writes = (List.range k).map (portionWrite ulFileId spLength spData)
  quiet : ∀ i, i + 1 < k → (results i).toUInt8 = 0

variable {ulFileId spLength : UInt32} {spData : Mem} {results : Nat → UInt32}

/-- Where the status is 0, none has been seen to fail. -/
theorem Portioned.all_quiet {k : Nat} {s : PatchLoop}
    (h : Portioned ulFileId spLength spData results k s) (hstatus : s.status = 0) :
    ∀ i < k, (results i).toUInt8 = 0 := by
  intro i hi
  by_cases hlast : i + 1 = k
  · have hresult := h.status
    rw [if_neg (by omega), hstatus, ← hlast, Nat.add_sub_cancel] at hresult
    exact hresult.symm
  · exact h.quiet i (by omega)

/-- The next call is the one for the next portion. -/
theorem Portioned.write {k : Nat} {s : PatchLoop}
    (h : Portioned ulFileId spLength spData results k s) {ulLength : UInt32}
    (hlen : ulLength.toNat = min 32 s.spLength.toNat) :
    (s.write ulFileId ulLength results).status = (results k).toUInt8 ∧
      (s.write ulFileId ulLength results).writes =
        (List.range (k + 1)).map (portionWrite ulFileId spLength spData) := by
  have hcount : s.writes.length = k := by rw [h.writes, List.length_map, List.length_range]
  have hleft : spLength.toNat - 32 * k = s.spLength.toNat := by
    have := h.left
    omega
  have hcall : portionWrite ulFileId spLength spData k =
      ⟨ulFileId, ulLength, s.offset.toUInt32, s.spDataPtr⟩ := by
    rw [portionWrite, hleft, ← hlen, UInt32.ofNat_toNat, h.offset, h.data]
  refine ⟨?_, ?_⟩
  · show (results s.writes.length).toUInt8 = _
    rw [hcount]
  · rw [List.range_succ, List.map_append, ← h.writes, List.map_singleton, hcall]
    rfl

theorem Portioned.turn {k : Nat} {s : PatchLoop}
    (h : Portioned ulFileId spLength spData results k s)
    (hgo : s.status = 0 ∧ spPortionSize ≤ s.spLength) :
    Portioned ulFileId spLength spData results (k + 1) (s.turn ulFileId results) := by
  have hle : 32 ≤ s.spLength.toNat := UInt32.le_iff_toNat_le.mp hgo.2
  have hleft := h.left
  have hportion : spPortionSize.toNat = min 32 s.spLength.toNat := (Nat.min_eq_left hle).symm
  obtain ⟨hstatus, hwrites⟩ := h.write hportion
  refine ⟨?_, ?_, ?_, ?_, hwrites, ?_⟩
  · rw [if_neg (Nat.succ_ne_zero k), Nat.add_sub_cancel]
    exact hstatus
  · show s.offset + 32 = _
    rw [h.offset, Nat.mul_succ, UInt16.ofNat_add]
    rfl
  · show (s.spLength - spPortionSize).toNat + _ = _
    rw [UInt32.toNat_sub_of_le _ _ hgo.2]
    show s.spLength.toNat - 32 + _ = _
    omega
  · show s.spDataPtr.drop 32 = _
    rw [h.data]
    funext i
    rw [Mem.drop, Mem.drop, Mem.drop]
    congr 1
    omega
  · exact fun i hi => h.all_quiet hgo.1 i (Nat.lt_of_succ_lt_succ hi)

/-- Where the loop ends. -/
theorem writePortions_spec {k : Nat} {s : PatchLoop}
    (h : Portioned ulFileId spLength spData results k s) :
    ∃ n, Portioned ulFileId spLength spData results n (writePortions ulFileId results s) ∧
      ¬ ((writePortions ulFileId results s).status = 0 ∧
        spPortionSize ≤ (writePortions ulFileId results s).spLength) := by
  fun_induction writePortions ulFileId results s generalizing k with
  | case1 s hgo ih => exact ih (h.turn hgo)
  | case2 s hstop => exact ⟨k, h, hstop⟩

/-- `n` calls are made: up to the last portion, or to one whose result has a low byte
other than zero. -/
structure StopsAt (spLength : UInt32) (results : Nat → UInt32) (n : Nat) : Prop where
  le : n ≤ portionCount spLength
  quiet : ∀ i, i + 1 < n → (results i).toUInt8 = 0
  ends : n = portionCount spLength ∨ (0 < n ∧ (results (n - 1)).toUInt8 ≠ 0)

/-- The result and the calls where there are `n`. -/
def patchOutcome (ulFileId spLength : UInt32) (spData : Mem) (results : Nat → UInt32) (n : Nat) :
    UInt8 × List NvmemWrite :=
  (if n = 0 then 0 else (results (n - 1)).toUInt8,
    (List.range n).map (portionWrite ulFileId spLength spData))

/-- The loop ends in the middle at a result that shows. -/
theorem Portioned.stopsAt_error {n : Nat} {s : PatchLoop}
    (h : Portioned ulFileId spLength spData results n s) (hstatus : s.status ≠ 0) :
    StopsAt spLength results n := by
  have hleft := h.left
  have hresult := h.status
  have hpos : n ≠ 0 := by
    intro hzero
    rw [if_pos hzero] at hresult
    exact hstatus hresult
  rw [if_neg hpos] at hresult
  refine ⟨?_, h.quiet, .inr ⟨Nat.pos_of_ne_zero hpos, hresult ▸ hstatus⟩⟩
  unfold portionCount
  omega

/-- The calls, and the result: some of the portions in turn, up to the last or to one
whose result has a low byte other than zero, which is returned. -/
theorem nvmemWritePatch_spec (ulFileId spLength : UInt32) (spData : Mem)
    (results : Nat → UInt32) :
    ∃ n, StopsAt spLength results n ∧ nvmemWritePatch ulFileId spLength spData results =
      patchOutcome ulFileId spLength spData results n := by
  have hstart : Portioned ulFileId spLength spData results 0 ⟨0, 0, spLength, spData, []⟩ := by
    refine ⟨rfl, rfl, rfl, ?_, rfl, fun i hi => absurd hi (Nat.not_lt_zero _)⟩
    funext i
    rw [Mem.drop, Nat.mul_zero, Nat.zero_add]
  obtain ⟨n, h, hstop⟩ := writePortions_spec hstart
  unfold nvmemWritePatch
  generalize writePortions ulFileId results ⟨0, 0, spLength, spData, []⟩ = s at h hstop
  dsimp only
  have hleft := h.left
  by_cases hstatus : s.status = 0
  · have hsmall : s.spLength.toNat < 32 := by
      by_contra hbig
      exact hstop ⟨hstatus, UInt32.le_iff_toNat_le.mpr (Nat.le_of_not_lt hbig)⟩
    rw [if_neg (not_not_intro hstatus)]
    by_cases hnone : s.spLength = 0
    · have hzero : s.spLength.toNat = 0 := congrArg UInt32.toNat hnone
      have hcount : n = portionCount spLength := by
        unfold portionCount
        omega
      rw [if_neg (not_not_intro hnone), h.status, h.writes]
      exact ⟨n, ⟨hcount.le, h.quiet, .inl hcount⟩, rfl⟩
    · have hpos : s.spLength.toNat ≠ 0 := fun h => hnone (UInt32.toNat_inj.mp h)
      have hcount : n + 1 = portionCount spLength := by
        unfold portionCount
        omega
      obtain ⟨hresult, hwrites⟩ := h.write (Nat.min_eq_right hsmall.le).symm
      rw [if_pos hnone, hresult, hwrites]
      exact ⟨n + 1, ⟨hcount.le, fun i hi => h.all_quiet hstatus i (by omega), .inl hcount⟩, rfl⟩
  · rw [if_pos hstatus, h.status, h.writes]
    exact ⟨n, h.stopsAt_error hstatus, rfl⟩

/-! When all is written. -/

/-- The first result that is not 0, of those of the portions, has a low byte that is
not. -/
def ErrorSeen (spLength : UInt32) (results : Nat → UInt32) : Prop :=
  ∀ i < portionCount spLength, (∀ j < i, results j = 0) → results i ≠ 0 → (results i).toUInt8 ≠ 0

/-- No portion behind 65536 bytes is come to. -/
def OffsetFits (spLength : UInt32) (results : Nat → UInt32) : Prop :=
  spLength.toNat ≤ 65536 ∨ ∃ i < 2048, results i ≠ 0

/-- All the portions are the data. -/
theorem portions_bytes (ulFileId spLength : UInt32) (spData : Mem) {n : Nat}
    (h : n ≤ portionCount spLength) :
    ((List.range n).map (portionWrite ulFileId spLength spData)).flatMap NvmemWrite.bytes =
      spData.slice 0 (min (32 * n) spLength.toNat) := by
  have hlen := spLength.toNat_lt
  induction n with
  | zero => rw [Nat.mul_zero, Nat.zero_min]; rfl
  | succ n ih =>
    unfold portionCount at h
    have hbytes : (portionWrite ulFileId spLength spData n).bytes =
        spData.slice (32 * n) (min 32 (spLength.toNat - 32 * n)) := by
      rw [NvmemWrite.bytes, portionWrite, Mem.drop_slice, Nat.add_zero,
        UInt32.toNat_ofNat_of_lt' (by show _ < 4294967296; omega)]
    have happend := spData.slice_append 0 (32 * n) (min 32 (spLength.toNat - 32 * n))
    rw [Nat.zero_add] at happend
    rw [List.range_succ, List.map_append, List.flatMap_append, ih (by unfold portionCount; omega),
      List.map_singleton, List.flatMap_singleton, hbytes, Nat.min_eq_left (by omega), happend]
    congr 1
    omega

/-- A portion is written at the offset it has in the data, as long as 16 bits hold it. -/
theorem portionWrite_offset (ulFileId spLength : UInt32) (spData : Mem) (i : Nat) :
    (portionWrite ulFileId spLength spData i).ulEntryOffset.toNat = 32 * i ↔ i < 2048 := by
  rw [portionWrite, UInt16.toNat_toUInt32, UInt16.toNat_ofNat']
  show 32 * i % 65536 = _ ↔ _
  omega

section Outcome
variable {n : Nat}

/-- Where it ends early, the last result shows. -/
theorem StopsAt.early (h : StopsAt spLength results n) (hlt : n < portionCount spLength) :
    0 < n ∧ results (n - 1) ≠ 0 := by
  rcases h.ends with hall | ⟨hpos, hlow⟩
  · exact absurd hall hlt.ne
  · refine ⟨hpos, fun hzero => hlow ?_⟩
    rw [hzero]
    rfl

/-- A portion is come to if none in front of it fails. -/
theorem StopsAt.reaches (h : StopsAt spLength results n) {i : Nat} (hi : i < portionCount spLength)
    (hzero : ∀ j < i, results j = 0) : i < n := by
  by_contra hbehind
  obtain ⟨hpos, hlast⟩ := h.early (by omega)
  exact hlast (hzero (n - 1) (by omega))

theorem StopsAt.all (h : StopsAt spLength results n) (hzero : ∀ i < n, results i = 0) :
    n = portionCount spLength := by
  by_contra hless
  exact absurd (h.reaches (Nat.lt_of_le_of_ne h.le hless) hzero) (Nat.lt_irrefl n)

/-- Where errors show, there is no call behind a result that is not 0. -/
theorem StopsAt.error_last (h : StopsAt spLength results n) (hseen : ErrorSeen spLength results)
    {i : Nat} (hi : i < n) (hne : results i ≠ 0) : i + 1 = n ∧ (results i).toUInt8 ≠ 0 := by
  induction i using Nat.strong_induction_on with
  | _ i ih =>
    have hfirst : ∀ j < i, results j = 0 := by
      intro j hj
      by_contra hne'
      have := (ih j hj (by omega) hne').1
      omega
    have hlow := hseen i (Nat.lt_of_lt_of_le hi h.le) hfirst hne
    refine ⟨?_, hlow⟩
    by_contra hbehind
    exact hlow (h.quiet i (by omega))

theorem patchOutcome_length (ulFileId spLength : UInt32) (spData : Mem) (results : Nat → UInt32)
    (n : Nat) : (patchOutcome ulFileId spLength spData results n).2.length = n := by
  rw [patchOutcome, List.length_map, List.length_range]

theorem patchOutcome_call {i : Nat} (hi : i < n) :
    (patchOutcome ulFileId spLength spData results n).2[i]? =
      some (portionWrite ulFileId spLength spData i) := by
  rw [patchOutcome, List.getElem?_map, List.getElem?_range hi]
  rfl

theorem patchOutcome_result (hn : n ≠ 0) :
    (patchOutcome ulFileId spLength spData results n).1 = (results (n - 1)).toUInt8 := if_neg hn

/-- An error that does not show is not returned. -/
theorem StopsAt.errorSeen (h : StopsAt spLength results n)
    (hwritten : PatchWritten spLength spData results
      (patchOutcome ulFileId spLength spData results n)) : ErrorSeen spLength results := by
  intro i hi hfirst hne hlow
  have hin := h.reaches hi hfirst
  obtain ⟨hlast, hret⟩ := hwritten.stops i (by rwa [patchOutcome_length]) hne
  rw [patchOutcome_length] at hlast
  subst hlast
  exact hret ((patchOutcome_result (Nat.succ_ne_zero i)).trans hlow)

/-- Portion 2048 is written at offset 0. -/
theorem StopsAt.offsetFits (h : StopsAt spLength results n)
    (hwritten : PatchWritten spLength spData results
      (patchOutcome ulFileId spLength spData results n)) : OffsetFits spLength results := by
  by_cases hshort : spLength.toNat ≤ 65536
  · exact .inl hshort
  · refine .inr ?_
    by_contra hnone
    have hzero : ∀ i < 2048, results i = 0 := fun i hi => by
      by_contra hne
      exact hnone ⟨i, hi, hne⟩
    have hcount : 2048 < portionCount spLength := by
      unfold portionCount
      omega
    have hoffset := (hwritten.consecutive 2048 _
      (patchOutcome_call (h.reaches hcount hzero))).1
    exact absurd ((portionWrite_offset _ _ _ _).mp hoffset) (Nat.lt_irrefl _)

/-- No call is behind portion 2047. -/
theorem StopsAt.lt_of_offsetFits (h : StopsAt spLength results n)
    (hseen : ErrorSeen spLength results) (hfits : OffsetFits spLength results) {i : Nat}
    (hi : i < n) : i < 2048 := by
  have hle := h.le
  rcases hfits with hshort | ⟨j, hj, hne⟩
  · unfold portionCount at hle
    omega
  · by_contra hbehind
    have := (h.error_last hseen (by omega) hne).1
    omega

theorem StopsAt.patchWritten (h : StopsAt spLength results n) (hseen : ErrorSeen spLength results)
    (hfits : OffsetFits spLength results) :
    PatchWritten spLength spData results (patchOutcome ulFileId spLength spData results n) := by
  refine ⟨?_, ?_, ?_⟩
  · intro i w hw
    have hi : i < n := by
      have hlt := (List.getElem?_eq_some_iff.mp hw).1
      rwa [patchOutcome_length] at hlt
    obtain rfl := Option.some.inj ((patchOutcome_call hi).symm.trans hw)
    refine ⟨(portionWrite_offset _ _ _ _).mpr (h.lt_of_offsetFits hseen hfits hi), ?_, rfl⟩
    rw [portionWrite, UInt32.toNat_ofNat']
    exact Nat.le_trans (Nat.mod_le _ _) (Nat.min_le_left _ _)
  · intro hzero
    rw [patchOutcome_length] at hzero
    refine ⟨?_, ?_⟩
    · have hall := h.all hzero
      unfold portionCount at hall
      rw [patchOutcome, portions_bytes ulFileId spLength spData h.le, Nat.min_eq_right (by omega)]
    · by_cases hnone : n = 0
      · exact if_pos hnone
      · rw [patchOutcome_result hnone, hzero (n - 1) (by omega)]
        rfl
  · intro i hi hne
    rw [patchOutcome_length] at hi
    obtain ⟨hlast, hlow⟩ := h.error_last hseen hi hne
    rw [patchOutcome_length]
    refine ⟨hlast, ?_⟩
    subst hlast
    rwa [patchOutcome_result (Nat.succ_ne_zero i)]

end Outcome

/-- **The whole file, up to the first error.** For every length, all data and every
sequence of results, the portions are written in turn, all of them if none fails and
none behind one that does, exactly if the first error shows in its low byte, and no
portion behind 65536 bytes is come to. -/
theorem patchWritten_iff (ulFileId spLength : UInt32) (spData : Mem) (results : Nat → UInt32) :
    PatchWritten spLength spData results (nvmemWritePatch ulFileId spLength spData results) ↔
      ErrorSeen spLength results ∧ OffsetFits spLength results := by
  obtain ⟨n, hstops, houtcome⟩ := nvmemWritePatch_spec ulFileId spLength spData results
  rw [houtcome]
  constructor
  · intro hwritten
    exact ⟨hstops.errorSeen hwritten, hstops.offsetFits hwritten⟩
  · rintro ⟨hseen, hfits⟩
    exact hstops.patchWritten hseen hfits

/-- An error code with a low byte of zero is none: the second portion is written behind
it, and 0 is returned. -/
theorem not_patchWritten :
    ¬ ∀ (ulFileId spLength : UInt32) (spData : Mem) (results : Nat → UInt32),
      PatchWritten spLength spData results (nvmemWritePatch ulFileId spLength spData results) := by
  intro h
  have hwritten := (patchWritten_iff 4 64 (Mem.ofList []) (fun _ => 0xFFFFFF00)).mp (h _ _ _ _)
  exact hwritten.1 0 (by decide) (fun j hj => absurd hj (Nat.not_lt_zero j)) (by decide) (by decide)

end SpiderL3S
