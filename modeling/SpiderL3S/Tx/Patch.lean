import SpiderL3S.Tx.Bounds

/- What of a patch reaches the device. `hci_patch_send` sends a patch of up to 1000
   bytes in one frame, and a longer one in portions. The first frame carries the header
   and a portion behind the SPI header. The later frames are put together at `data_ptr`,
   behind the SPI header of the first, and handed to `SpiWrite` at that address: its five
   header bytes cover the length of the portion and its first three bytes, and the frame
   takes up five bytes that lie behind the portion.

   So what a later frame carries is the portion moved up by three (`behind`), and the
   patch is delivered exactly if it has no later portion, or if the bytes of each later
   one repeat so that the move does not show (`Coincides`, `patchDelivered_iff`). -/
namespace SpiderL3S

/-! Header and portions. -/

/-- Packet type, opcode and length. -/
def patchHeader (ucOpcode : UInt8) (usDataLength : UInt16) : List UInt8 :=
  hciTypePatch :: ucOpcode :: uint16Bytes (usDataLength + 2)

/-- A portion with its length. -/
def portionBytes (portion : List UInt8) : List UInt8 :=
  uint16Bytes (UInt16.ofNat portion.length) ++ portion

/-- The frames carry the header and then portions that are the patch together, the first
portion with the header and each other one by itself. -/
def PatchDelivered (ucOpcode : UInt8) (patch : Mem) (usDataLength : UInt16)
    (frames : List SpiFrame) : Prop :=
  ∃ first rest, frames.map SpiFrame.hci =
      (patchHeader ucOpcode usDataLength ++ portionBytes first) :: rest.map portionBytes ∧
    (first :: rest).flatten = patch.slice 0 usDataLength.toNat

/-- The `n` bytes of a patch behind the first portion, in portions. -/
def laterPortions (patch : Mem) (n : Nat) : List (List UInt8) :=
  if n = 0 then []
  else
    let usTransLength := min n slPatchPortionSize
    patch.slice 0 usTransLength :: laterPortions (patch.drop usTransLength) (n - usTransLength)
  termination_by n
  decreasing_by simp only [slPatchPortionSize]; omega

/-- What lies behind the SPI header of a later frame when it is clocked out: the portion
without its first three bytes, and behind it what has been there before. -/
def behind (stale portion : List UInt8) : List UInt8 :=
  portion.drop 3 ++ stale.drop (portion.length - 3)

/-- What the later frames carry. -/
def carried : List UInt8 → List (List UInt8) → List (List UInt8)
  | _, [] => []
  | stale, portion :: rest =>
    (behind stale portion).take (portion.length + 2) :: carried (behind stale portion) rest

/-- What the first frame leaves there: the high byte of its length 1000, its portion, and
one byte that has been in the buffer before. -/
def staleBytes (tx patch : Mem) : List UInt8 := 3 :: (patch.slice 0 slPatchPortionSize ++ [tx 1011])

/-- The `length` bytes of the patch from `offset` on, behind that length. -/
def portionMem (patch : Mem) (offset length : Nat) : Mem := fun i =>
  if i < 2 then (uint16Bytes (UInt16.ofNat length)).getD i 0 else patch (offset + (i - 2))

/-- Every byte of the portion with its length is the patch byte three further on in the
portion, and the last ones, with none so far on, are those of `before` in their place. -/
def Repeats (before patch : Mem) (offset length : Nat) : Prop :=
  ∀ i < length + 2, portionMem patch offset length i =
    if i + 3 < length then patch (offset + (i + 3)) else before i

instance (before patch : Mem) (offset length : Nat) :
    Decidable (Repeats before patch offset length) := by
  unfold Repeats
  infer_instance

/-- What lies behind the SPI header when the `k`-th later portion comes: what the first frame
has left there, or the portion of 1000 bytes before it. -/
def portionBefore (tx patch : Mem) : Nat → Mem
  | 0 => Mem.ofList (staleBytes tx patch)
  | k + 1 => portionMem patch (1000 * (k + 1)) 1000

/-- The bytes of every later portion repeat, with its length and the end of the portion
before it, so that nothing shows of being moved up by three. -/
def Coincides (tx patch : Mem) (usDataLength : UInt16) : Prop :=
  ∀ k < (usDataLength.toNat - 1) / 1000,
    Repeats (portionBefore tx patch k) patch (1000 * (k + 1))
      (min (usDataLength.toNat - 1000 * (k + 1)) 1000)

instance (tx patch : Mem) (usDataLength : UInt16) :
    Decidable (Coincides tx patch usDataLength) := by
  unfold Coincides
  infer_instance

theorem staleBytes_length (tx patch : Mem) : (staleBytes tx patch).length = 1002 := by
  rw [staleBytes, List.length_cons, List.length_append, Mem.slice_length]
  rfl

/-! The portions. -/

theorem laterPortions_flatten (patch : Mem) (n : Nat) :
    (laterPortions patch n).flatten = patch.slice 0 n := by
  fun_induction laterPortions patch n with
  | case1 patch => rfl
  | case2 patch n hpos usTransLength ih =>
    have hle : usTransLength ≤ n := Nat.min_le_left _ _
    have happend := patch.slice_append 0 usTransLength (n - usTransLength)
    rw [Nat.zero_add, Nat.add_sub_cancel' hle] at happend
    rw [List.flatten_cons, ih, Mem.drop_slice, Nat.add_zero]
    exact happend

/-- Few bytes are one portion. -/
theorem laterPortions_single (patch : Mem) {n : Nat} (hpos : n ≠ 0) (hle : n ≤ slPatchPortionSize) :
    laterPortions patch n = [patch.slice 0 n] := by
  rw [laterPortions, if_neg hpos]
  dsimp only
  rw [Nat.min_eq_left hle, Nat.sub_self, laterPortions, if_pos rfl]

theorem laterPortions_length (patch : Mem) (n : Nat) :
    ∀ portion ∈ laterPortions patch n, portion.length ≤ slPatchPortionSize := by
  fun_induction laterPortions patch n with
  | case1 patch =>
    intro portion hportion
    cases hportion
  | case2 patch n hpos usTransLength ih =>
    intro portion hportion
    rcases List.mem_cons.mp hportion with rfl | hportion
    · rw [Mem.slice_length]
      exact Nat.min_le_right _ _
    · exact ih portion hportion

/-- Behind a later portion there is always as much in the buffer. -/
theorem behind_length {stale portion : List UInt8} (hstale : stale.length = 1002)
    (hlen : portion.length ≤ slPatchPortionSize) : (behind stale portion).length = 1002 := by
  have hthousand : slPatchPortionSize = 1000 := rfl
  rw [behind, List.length_append, List.length_drop, List.length_drop]
  omega

/-- The later frames have the lengths of their portions. -/
theorem carried_length {stale : List UInt8} (hstale : stale.length = 1002)
    {later : List (List UInt8)} (hlen : ∀ portion ∈ later, portion.length ≤ slPatchPortionSize) :
    (carried stale later).map List.length = (later.map portionBytes).map List.length := by
  induction later generalizing stale with
  | nil => rfl
  | cons portion rest ih =>
    have hle := hlen portion List.mem_cons_self
    have hthousand : slPatchPortionSize = 1000 := rfl
    have hbehind := behind_length hstale hle
    simp only [carried, List.map_cons, portionBytes, List.length_take, List.length_append,
      uint16Bytes_length]
    rw [ih hbehind fun p hp => hlen p (List.mem_cons_of_mem _ hp), hbehind,
      Nat.min_eq_left (by omega), Nat.add_comm]

theorem portionBytes_inj {a b : List UInt8} (h : portionBytes a = portionBytes b) : a = b :=
  (List.append_inj h rfl).2

/-- Two ways to send the same bytes in frames of the same lengths are one. -/
theorem map_portionBytes_inj {a b : List (List UInt8)}
    (hlength : (a.map portionBytes).map List.length = (b.map portionBytes).map List.length)
    (hflatten : a.flatten = b.flatten) : a = b := by
  apply List.eq_iff_flatten_eq.mpr
  refine ⟨hflatten, ?_⟩
  have hadd : List.length ∘ portionBytes = (2 + ·) ∘ List.length := by
    funext portion
    rw [Function.comp_apply, portionBytes, List.length_append]
    rfl
  rw [List.map_map, List.map_map, hadd, ← List.map_map, ← List.map_map] at hlength
  exact List.map_injective_iff.mpr (fun x y h => Nat.add_left_cancel h) hlength

/-! The condition on the bytes. -/

theorem Mem.slice_eq_iff {m m' : Mem} {n : Nat} :
    m.slice 0 n = m'.slice 0 n ↔ ∀ i < n, m i = m' i := by
  simp only [Mem.slice, Nat.zero_add, List.map_inj_left, List.mem_range]

theorem portionBytes_slice (patch : Mem) (offset length : Nat) :
    portionBytes (patch.slice offset length) =
      (portionMem patch offset length).slice 0 (length + 2) := by
  rw [portionBytes, Mem.slice_length, Nat.add_comm length 2, ← Mem.slice_append]
  congr 1
  apply List.map_congr_left
  intro i _
  show _ = if 0 + 2 + i < 2 then _ else _
  rw [if_neg (by omega)]
  congr 2
  omega

/-- What is behind the SPI header, byte by byte. -/
theorem behind_slice (stale patch : Mem) (offset : Nat) {length : Nat} (hlen : length ≤ 1000) :
    behind (stale.slice 0 1002) (patch.slice offset length) =
      Mem.slice (fun i => if i + 3 < length then patch (offset + (i + 3)) else stale i) 0 1002 := by
  apply List.ext_getElem
  · rw [behind, List.length_append, List.length_drop, List.length_drop, Mem.slice_length,
      Mem.slice_length, Mem.slice_length]
    omega
  · intro i hi hi'
    rw [Mem.slice_length] at hi'
    simp only [behind, Mem.slice_length, List.getElem_append, List.length_drop]
    by_cases hin : i < length - 3
    · rw [dif_pos hin]
      simp only [Mem.slice, List.getElem_drop, List.getElem_map, List.getElem_range, Nat.zero_add]
      rw [if_pos (by omega), Nat.add_comm 3 i]
    · rw [dif_neg hin]
      simp only [Mem.slice, List.getElem_drop, List.getElem_map, List.getElem_range, Nat.zero_add]
      rw [if_neg (by omega)]
      congr 1
      omega

theorem repeats_iff (stale patch : Mem) (offset : Nat) {length : Nat} (hlen : length ≤ 1000) :
    (behind (stale.slice 0 1002) (patch.slice offset length)).take (length + 2) =
        portionBytes (patch.slice offset length) ↔ Repeats stale patch offset length := by
  rw [behind_slice stale patch offset hlen, Mem.take_slice _ (by omega), portionBytes_slice,
    Mem.slice_eq_iff]
  exact forall₂_congr fun i _ => eq_comm

/-- The later frames, one portion after the other. Behind one that coincides lies that portion. -/
theorem carried_eq_iff (patch : Mem) (n offset : Nat) (stale : Nat → Mem)
    (hstale : ∀ k, stale (k + 1) = portionMem patch (offset + 1000 * k) 1000) :
    carried ((stale 0).slice 0 1002) (laterPortions (patch.drop offset) n) =
        (laterPortions (patch.drop offset) n).map portionBytes ↔
      ∀ k < (n + 999) / 1000,
        Repeats (stale k) patch (offset + 1000 * k) (min (n - 1000 * k) 1000) := by
  induction n using Nat.strongRecOn generalizing offset stale with
  | ind n ih =>
    rw [laterPortions]
    by_cases hpos : n = 0
    · subst hpos
      rw [if_pos rfl]
      exact iff_of_true rfl fun k hk => absurd hk (Nat.not_lt_zero k)
    rw [if_neg hpos]
    have hthousand : slPatchPortionSize = 1000 := rfl
    have hoffset : ∀ k, offset + 1000 * (k + 1) = offset + 1000 + 1000 * k := by
      intro k
      rw [Nat.mul_succ, Nat.add_comm (1000 * k), Nat.add_assoc]
    have hdrop : (patch.drop offset).drop (min n 1000) = patch.drop (offset + min n 1000) := by
      funext i
      exact congrArg patch (Nat.add_assoc _ _ _).symm
    have hfirst := repeats_iff (stale 0) patch offset (Nat.min_le_right n 1000)
    dsimp only
    rw [hthousand, Mem.drop_slice, Nat.add_zero, hdrop, carried, List.map_cons, List.cons_eq_cons,
      Mem.slice_length, hfirst]
    -- the portion, and those behind it
    have hsplit : (∀ k < (n + 999) / 1000,
          Repeats (stale k) patch (offset + 1000 * k) (min (n - 1000 * k) 1000)) ↔
        Repeats (stale 0) patch offset (min n 1000) ∧
          ∀ k < (n - min n 1000 + 999) / 1000, Repeats (stale (k + 1)) patch
            (offset + min n 1000 + 1000 * k) (min (n - min n 1000 - 1000 * k) 1000) := by
      constructor
      · intro h
        refine ⟨h 0 (by omega), ?_⟩
        intro k hk
        have hmin : min n 1000 = 1000 := by omega
        have hnext := h (k + 1) (by omega)
        rw [hmin]
        rwa [show offset + 1000 + 1000 * k = offset + 1000 * (k + 1) by omega, Nat.sub_sub,
          show 1000 + 1000 * k = 1000 * (k + 1) by omega]
      · rintro ⟨h, hrest⟩ k hk
        cases k with
        | zero => exact h
        | succ k =>
          have hmin : min n 1000 = 1000 := by omega
          rw [hmin] at hrest
          have hnext := hrest k (by omega)
          rwa [show offset + 1000 + 1000 * k = offset + 1000 * (k + 1) by omega, Nat.sub_sub,
            show 1000 + 1000 * k = 1000 * (k + 1) by omega] at hnext
    rw [hsplit]
    apply and_congr_right
    intro hrepeats
    by_cases hlast : n ≤ 1000
    · have hrest : n - min n 1000 = 0 := by omega
      rw [hrest, laterPortions, if_pos rfl]
      exact iff_of_true rfl fun k hk => absurd hk (by omega)
    · have hmin : min n 1000 = 1000 := by omega
      rw [hmin] at hrepeats ⊢
      have hbehind : behind ((stale 0).slice 0 1002) (patch.slice offset 1000) =
          (stale 1).slice 0 1002 := by
        have hwhole := (repeats_iff (stale 0) patch offset (Nat.le_refl 1000)).mpr hrepeats
        rw [List.take_of_length_le
          (behind_length (Mem.slice_length _ _ _) (Mem.slice_length _ _ _).le).le,
          portionBytes_slice] at hwhole
        rw [hwhole, hstale 0]
        rfl
      have hstale' : ∀ k, stale (k + 1 + 1) = portionMem patch (offset + 1000 + 1000 * k) 1000 := by
        intro k
        rw [hstale (k + 1), hoffset k]
      have hnext := ih (n - 1000) (by omega) (offset + 1000) (fun k => stale (k + 1)) hstale'
      rw [hbehind]
      exact hnext

/-- The condition on the bytes says that the later frames carry what they should. -/
theorem coincides_iff (tx patch : Mem) (usDataLength : UInt16) :
    carried (staleBytes tx patch) (laterPortions (patch.drop slPatchPortionSize)
        (usDataLength.toNat - slPatchPortionSize)) =
      (laterPortions (patch.drop slPatchPortionSize)
        (usDataLength.toNat - slPatchPortionSize)).map portionBytes ↔
      Coincides tx patch usDataLength := by
  have hthousand : slPatchPortionSize = 1000 := rfl
  have hstale : (portionBefore tx patch 0).slice 0 1002 = staleBytes tx patch := by
    apply List.ext_getElem
    · rw [Mem.slice_length, staleBytes_length]
    · intro i hi hi'
      simp only [Mem.slice, List.getElem_map, List.getElem_range, Nat.zero_add]
      rw [portionBefore, Mem.ofList, List.getD_eq_getElem?_getD, List.getElem?_eq_getElem hi',
        Option.getD_some]
  have hall := carried_eq_iff patch (usDataLength.toNat - 1000) 1000
      (portionBefore tx patch) fun k => by
    rw [portionBefore, show 1000 * (k + 1) = 1000 + 1000 * k by omega]
  rw [hthousand, ← hstale, hall]
  have hcount : (usDataLength.toNat - 1000 + 999) / 1000 = (usDataLength.toNat - 1) / 1000 := by
    omega
  rw [hcount, Coincides]
  refine forall₂_congr fun k _ => ?_
  rw [show 1000 + 1000 * k = 1000 * (k + 1) by omega, Nat.sub_sub,
    show 1000 + 1000 * k = 1000 * (k + 1) by omega]

/-! The later frames. -/

/-- The frame of a later portion, and what it leaves behind. -/
theorem laterFrame_spec (s : Stream) {stale portion : List UInt8}
    (hstale : s.mem.slice 10 1002 = stale) (hlen : portion.length ≤ slPatchPortionSize) :
    let f := spiWrite spiHeaderSize
      ((uint16ToStream { s with ptr := spiHeaderSize } (UInt16.ofNat portion.length)).put portion)
      (UInt16.ofNat portion.length + 2)
    f.hci = (behind stale portion).take (portion.length + 2) ∧
      f.stored.mem.slice 10 1002 = behind stale portion := by
  intro f
  have hthousand : slPatchPortionSize = 1000 := rfl
  have hsize : spiHeaderSize = 5 := rfl
  obtain ⟨spiHeader, hheader, hstored⟩ := spiWrite_stored spiHeaderSize
    ((uint16ToStream { s with ptr := spiHeaderSize } (UInt16.ofNat portion.length)).put portion)
    (UInt16.ofNat portion.length + 2)
  have hmem : f.stored.mem =
      (s.mem.store 5 (portionBytes portion)).store 5 spiHeader := by
    show (spiWrite _ _ _).stored.mem = _
    rw [hstored]
    simp only [uint16ToStream, Stream.put_put]
    rfl
  have hslice : f.stored.mem.slice 10 1002 = behind stale portion := by
    have hkept : ((s.mem.store 5 (portionBytes portion)).store 5 spiHeader).slice 10 1002 =
        (s.mem.store 5 (portionBytes portion)).slice 10 1002 := by
      apply Mem.slice_congr
      intro i _
      exact Mem.store_out _ (by omega)
    have htotal : (portionBytes portion).length = 2 + portion.length := by
      rw [portionBytes, List.length_append]
      rfl
    have hdrop := s.mem.slice_store_drop 5 5 1002 (portionBytes portion) (by omega)
    rw [hmem, hkept, hdrop, hstale, htotal, behind, show 2 + portion.length - 5 = portion.length - 3
      by omega]
    rfl
  refine ⟨?_, hslice⟩
  have hus : f.usLength.toNat = portion.length + 2 := by
    show (UInt16.ofNat portion.length + 2).toNat = _
    simp only [UInt16.toNat_add, UInt16.toNat_ofNat', UInt16.reduceToNat, Nat.reducePow]
    omega
  rw [f.hci_eq (by omega), hus, ← hslice, Mem.take_slice _ (by omega)]
  rfl

/-- The later frames carry what is moved up. -/
theorem patchPortions_hci (s : Stream) (patch : Mem) (n : Nat) {stale : List UInt8}
    (hstale : s.mem.slice 10 1002 = stale) :
    (patchPortions s patch n).map SpiFrame.hci = carried stale (laterPortions patch n) := by
  fun_induction laterPortions patch n generalizing s stale with
  | case1 patch =>
    rw [patchPortions, dif_pos rfl]
    rfl
  | case2 patch n hpos usTransLength ih =>
    have hlen : (patch.slice 0 usTransLength).length = usTransLength := Mem.slice_length _ _ _
    have hle : (patch.slice 0 usTransLength).length ≤ slPatchPortionSize := by
      rw [hlen]
      exact Nat.min_le_right _ _
    obtain ⟨hhci, hbehind⟩ := laterFrame_spec s hstale hle
    rw [hlen] at hhci hbehind
    rw [patchPortions, dif_neg hpos, carried, hlen, ← hhci]
    exact congrArg _ (ih _ hbehind)

/-! The first frame. -/

/-- It stores header and portion in one piece. -/
theorem patchStream_stored (ucOpcode : UInt8) (tx : Mem) (usDataLength usFirst : UInt16)
    (portion : List UInt8) :
    (patchStream ucOpcode tx (usDataLength + 2) usFirst (UInt16.ofNat portion.length) portion).mem =
      tx.store spiHeaderSize (patchHeader ucOpcode usDataLength ++ portionBytes portion) := by
  have hover := Mem.store_over
    (tx.store spiHeaderSize (patchHeader ucOpcode usDataLength)) 9 0
    (uint16Bytes usFirst) (uint16Bytes (UInt16.ofNat portion.length)) (Nat.zero_le _) (Nat.le_refl _)
  rw [List.take_zero, List.nil_append] at hover
  rw [portionBytes, ← List.append_assoc, ← Mem.store_store, ← Mem.store_store]
  simp only [patchStream, uint8ToStream, uint16ToStream, Stream.put_put]
  show (((tx.store 5 (patchHeader ucOpcode usDataLength)).store 9 (uint16Bytes usFirst)).store 9
    (uint16Bytes (UInt16.ofNat portion.length))).store 11 portion = _
  rw [hover]
  rfl

/-- It carries header and portion, and the buffer holds them from there on. -/
theorem firstFrame_spec (ucOpcode : UInt8) (tx : Mem) (usDataLength usFirst : UInt16)
    {portion : List UInt8} (hlen : portion.length ≤ slPatchPortionSize) {n : UInt16}
    (hn : n.toNat = portion.length + 6) :
    let f := spiWrite 0 (patchStream ucOpcode tx (usDataLength + 2) usFirst
      (UInt16.ofNat portion.length) portion) n
    f.hci = patchHeader ucOpcode usDataLength ++ portionBytes portion ∧
      ∀ i, 5 ≤ i → f.stored.mem i =
        tx.store spiHeaderSize (patchHeader ucOpcode usDataLength ++ portionBytes portion) i := by
  intro f
  have hthousand : slPatchPortionSize = 1000 := rfl
  have hsize : spiHeaderSize = 5 := rfl
  obtain ⟨spiHeader, hheader, hstored⟩ := spiWrite_stored 0 (patchStream ucOpcode tx
    (usDataLength + 2) usFirst (UInt16.ofNat portion.length) portion) n
  have hmem : ∀ i, 5 ≤ i → f.stored.mem i =
      tx.store spiHeaderSize (patchHeader ucOpcode usDataLength ++ portionBytes portion) i := by
    intro i hi
    have hout : ¬ (0 ≤ i ∧ i < 0 + spiHeader.length) := by omega
    show (spiWrite _ _ _).stored.mem i = _
    rw [hstored, Stream.put_mem, Mem.store_out _ hout, patchStream_stored]
  refine ⟨?_, hmem⟩
  have hus : f.usLength.toNat = portion.length + 6 := hn
  have htotal : (patchHeader ucOpcode usDataLength ++ portionBytes portion).length =
      portion.length + 6 := by
    simp only [patchHeader, portionBytes, List.length_append, List.length_cons, uint16Bytes_length]
    omega
  rw [f.hci_eq (by omega), hus, ← htotal]
  refine (Mem.slice_congr fun i _ => hmem _ (by omega)).trans ?_
  exact Mem.slice_store _ _ _

/-- What is in the buffer behind the SPI header of a later frame. -/
theorem firstFrame_stale {ucOpcode : UInt8} {tx patch m : Mem} {usDataLength : UInt16}
    (hmem : ∀ i, 5 ≤ i → m i = tx.store spiHeaderSize (patchHeader ucOpcode usDataLength ++
      portionBytes (patch.slice 0 slPatchPortionSize)) i) :
    m.slice 10 1002 = staleBytes tx patch := by
  have hlen : (patch.slice 0 slPatchPortionSize).length = 1000 := Mem.slice_length _ _ _
  have htotal : (patchHeader ucOpcode usDataLength ++
      portionBytes (patch.slice 0 slPatchPortionSize)).length = 1006 := by
    simp only [patchHeader, portionBytes, List.length_append, List.length_cons, uint16Bytes_length,
      hlen]
  have hdrop := tx.slice_store_drop 5 5 1002 (patchHeader ucOpcode usDataLength ++
    portionBytes (patch.slice 0 slPatchPortionSize)) (by omega)
  have hlast : (tx.slice 10 1002).drop 1001 = [tx 1011] := by
    rw [← tx.slice_append 10 1001 1]
    exact List.drop_left' (Mem.slice_length _ _ _)
  have hheader : ∀ portion, (patchHeader ucOpcode usDataLength ++
      (uint16Bytes (UInt16.ofNat 1000) ++ portion)).drop 5 = 3 :: portion := fun _ => rfl
  rw [Mem.slice_congr fun i _ => hmem _ (by omega), hdrop, htotal, portionBytes, hlen, hheader,
    hlast, staleBytes, List.cons_append]

/-! The whole patch. -/

theorem patchDelivered_short (ucOpcode : UInt8) (tx patch : Mem) {usDataLength : UInt16}
    (h : usDataLength.toNat ≤ 1000) :
    PatchDelivered ucOpcode patch usDataLength (hciPatchSend ucOpcode tx patch usDataLength) := by
  have hlen : (patch.slice 0 usDataLength.toNat).length = usDataLength.toNat := Mem.slice_length _ _ _
  have hle : usDataLength ≤ 1000 := UInt16.le_iff_toNat_le.mpr h
  have hn : (usDataLength + 6).toNat = (patch.slice 0 usDataLength.toNat).length + 6 := by
    rw [hlen, UInt16.toNat_add]
    exact Nat.mod_eq_of_lt (Nat.lt_of_le_of_lt (Nat.add_le_add_right h 6) (by decide))
  have hspec := (firstFrame_spec ucOpcode tx usDataLength usDataLength
    (hlen.trans_le h) hn).1
  rw [hlen, UInt16.ofNat_toNat] at hspec
  refine ⟨patch.slice 0 usDataLength.toNat, [], ?_, by simp⟩
  rw [hciPatchSend, if_pos hle]
  exact congrArg (fun b => [b]) hspec

/-- The frames of a patch in portions. -/
theorem hciPatchSend_long (ucOpcode : UInt8) (tx patch : Mem) {usDataLength : UInt16}
    (h : ¬ usDataLength.toNat ≤ 1000) :
    (hciPatchSend ucOpcode tx patch usDataLength).map SpiFrame.hci =
      (patchHeader ucOpcode usDataLength ++ portionBytes (patch.slice 0 slPatchPortionSize)) ::
        carried (staleBytes tx patch) (laterPortions (patch.drop slPatchPortionSize)
          (usDataLength.toNat - slPatchPortionSize)) := by
  have hle : ¬ usDataLength ≤ 1000 := fun h' => h (UInt16.le_iff_toNat_le.mp h')
  have hlen : (patch.slice 0 slPatchPortionSize).length = 1000 := Mem.slice_length _ _ _
  obtain ⟨hhci, hmem⟩ := @firstFrame_spec ucOpcode tx usDataLength
    (usDataLength + 2 + usDataLength / 1000 * 2) _ hlen.le (1000 + 6)
    (by rw [hlen]; decide)
  rw [hlen] at hhci hmem
  rw [hciPatchSend, if_neg hle, List.map_cons]
  exact congrArg₂ _ hhci (patchPortions_hci _ _ _ (firstFrame_stale hmem))

theorem firstPortion_append (patch : Mem) {n : Nat} (h : ¬ n ≤ 1000) :
    patch.slice 0 slPatchPortionSize ++
      (laterPortions (patch.drop slPatchPortionSize) (n - slPatchPortionSize)).flatten =
      patch.slice 0 n := by
  have happend := patch.slice_append 0 1000 (n - 1000)
  rw [Nat.add_sub_cancel' (Nat.le_of_not_le h)] at happend
  rw [laterPortions_flatten, Mem.drop_slice]
  exact happend

/-- **A patch is delivered as far as it has one portion.** For every patch, whatever the
buffer has held, the frames carry the header and the patch in portions exactly if it
has at most 1000 bytes, or if the bytes of its later portions repeat. -/
theorem patchDelivered_iff (ucOpcode : UInt8) (tx patch : Mem) (usDataLength : UInt16) :
    PatchDelivered ucOpcode patch usDataLength (hciPatchSend ucOpcode tx patch usDataLength) ↔
      usDataLength.toNat ≤ 1000 ∨ Coincides tx patch usDataLength := by
  by_cases hshort : usDataLength.toNat ≤ 1000
  · exact iff_of_true (patchDelivered_short ucOpcode tx patch hshort) (.inl hshort)
  · have htotal := firstPortion_append patch hshort
    rw [or_iff_right hshort, PatchDelivered, hciPatchSend_long ucOpcode tx patch hshort,
      ← coincides_iff]
    constructor
    · intro h
      obtain ⟨first, rest, hframes, hflatten⟩ := h
      obtain ⟨hfirst, hrest⟩ := List.cons.inj hframes
      obtain rfl := portionBytes_inj (List.append_cancel_left hfirst)
      -- the frames say how long the portions are, and the patch what they are
      have hlater : rest = laterPortions (patch.drop slPatchPortionSize)
          (usDataLength.toNat - slPatchPortionSize) := by
        apply map_portionBytes_inj
        · rw [← hrest]
          exact carried_length (staleBytes_length tx patch) (laterPortions_length _ _)
        · exact List.append_cancel_left (hflatten.trans htotal.symm)
      rw [hlater] at hrest
      exact hrest
    · intro h
      exact ⟨_, _, congrArg _ h, htotal⟩

/-- **One byte behind the first portion is lost.** The frame of the second portion
carries a byte of the first. -/
theorem not_patchDelivered :
    ¬ ∀ (ucOpcode : UInt8) (tx patch : Mem) (usDataLength : UInt16),
      usDataLength.toNat ≤ 65533 →
      PatchDelivered ucOpcode patch usDataLength (hciPatchSend ucOpcode tx patch usDataLength) := by
  intro h
  have hdelivered := h 1 (Mem.ofList []) (Mem.ofList []) 1001 (by decide)
  rcases (patchDelivered_iff 1 (Mem.ofList []) (Mem.ofList []) 1001).mp hdelivered with
    hshort | hcoincides
  · exact absurd hshort (by decide)
  · -- the length of the second portion should be in place of the high byte of 1000
    have hlength : min (UInt16.toNat 1001 - 1000 * (0 + 1)) 1000 = 1 := by decide
    have hrepeats := hcoincides 0 (by decide)
    rw [hlength] at hrepeats
    have hfirst := hrepeats 0 (by decide)
    rw [if_neg (by decide)] at hfirst
    have hthree : (1 : UInt8) = 3 := hfirst
    exact absurd hthree (by decide)

end SpiderL3S
