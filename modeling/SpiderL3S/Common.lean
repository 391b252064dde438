import Mathlib.Data.List.Range

/- Bytes, buffers and the stream macros of `cc3000_common`. A buffer is a
   total map from the offset to the byte (`Mem`): the source passes bare
   pointers, so what lies behind the end of an object is read and written like
   the object itself, and a bound is a statement about offsets. A write cursor
   (`Stream`) is the pair of a moving pointer and the buffer it writes to, and
   it logs every offset it stores to. Multi-byte values are little endian. -/
namespace SpiderL3S

/-- Memory from a base pointer on. -/
abbrev Mem := Nat → UInt8

/-- Memory as seen from a pointer `n` bytes further. -/
def Mem.drop (m : Mem) (n : Nat) : Mem := fun i => m (n + i)

/-- The `n` bytes of `m` from offset `p` on. -/
def Mem.slice (m : Mem) (p n : Nat) : List UInt8 := (List.range n).map (fun i => m (p + i))

/-- The bytes `bs` stored at offset `p`. -/
def Mem.store (m : Mem) (p : Nat) (bs : List UInt8) : Mem :=
  fun i => if p ≤ i ∧ i < p + bs.length then bs.getD (i - p) 0 else m i

/-- Memory that holds `bs`, and zeros behind it. -/
def Mem.ofList (bs : List UInt8) : Mem := fun i => bs.getD i 0

theorem Mem.slice_length (m : Mem) (p n : Nat) : (m.slice p n).length = n := by
  simp [Mem.slice]

theorem Mem.store_out (m : Mem) {p i : Nat} {bs : List UInt8} (h : ¬ (p ≤ i ∧ i < p + bs.length)) :
    m.store p bs i = m i := by
  simp only [Mem.store, if_neg h]

theorem Mem.store_in (m : Mem) {p i : Nat} {bs : List UInt8} (h₁ : p ≤ i)
    (h₂ : i < p + bs.length) : m.store p bs i = bs.getD (i - p) 0 := by
  simp only [Mem.store, if_pos (And.intro h₁ h₂)]

theorem Mem.store_nil (m : Mem) (p : Nat) : m.store p [] = m := by
  funext i
  exact m.store_out (by simp)

/-- Two stores back to back are one. -/
theorem Mem.store_store (m : Mem) (p : Nat) (a b : List UInt8) :
    (m.store p a).store (p + a.length) b = m.store p (a ++ b) := by
  funext i
  simp only [Mem.store, List.length_append]
  by_cases ha : p ≤ i ∧ i < p + a.length
  · rw [if_neg (by omega), if_pos ha, if_pos (by omega)]
    simp only [List.getD_eq_getElem?_getD]
    rw [List.getElem?_append_left (by omega)]
  · by_cases hb : p + a.length ≤ i ∧ i < p + a.length + b.length
    · rw [if_pos hb, if_pos (by omega)]
      simp only [List.getD_eq_getElem?_getD]
      rw [List.getElem?_append_right (by omega)]
      congr 2
      omega
    · rw [if_neg hb, if_neg ha, if_neg (by omega)]

theorem Mem.slice_append (m : Mem) (p a b : Nat) :
    m.slice p a ++ m.slice (p + a) b = m.slice p (a + b) := by
  simp only [Mem.slice, List.range_add, List.map_append, List.map_map, Nat.add_assoc]
  rfl

theorem Mem.take_slice (m : Mem) {p a n : Nat} (h : n ≤ a) :
    (m.slice p a).take n = m.slice p n := by
  simp only [Mem.slice, ← List.map_take, List.take_range, Nat.min_eq_left h]

theorem Mem.slice_getD (m : Mem) {p n i : Nat} (h : i < n) : (m.slice p n).getD i 0 = m (p + i) := by
  rw [List.getD_eq_getElem?_getD, List.getElem?_eq_getElem (by rwa [Mem.slice_length])]
  simp only [Mem.slice, List.getElem_map, List.getElem_range, Option.getD_some]

theorem Mem.slice_congr {m m' : Mem} {p n : Nat} (h : ∀ i, i < n → m (p + i) = m' (p + i)) :
    m.slice p n = m'.slice p n := by
  apply List.map_congr_left
  intro i hi
  exact h i (List.mem_range.mp hi)

theorem Mem.drop_slice (m : Mem) (a p n : Nat) : (m.drop a).slice p n = m.slice (a + p) n := by
  simp only [Mem.slice, Mem.drop, Nat.add_assoc]

/-- What has been stored is read back. -/
theorem Mem.slice_store (m : Mem) (p : Nat) (bs : List UInt8) :
    (m.store p bs).slice p bs.length = bs := by
  apply List.ext_getElem (Mem.slice_length _ _ _)
  intro i hi hi'
  simp only [Mem.slice, List.getElem_map, List.getElem_range]
  rw [Mem.store_in _ (by omega) (by omega), Nat.add_sub_cancel_left, List.getD_eq_getElem?_getD,
    List.getElem?_eq_getElem hi', Option.getD_some]

/-- A store behind `n` bytes, of which the first `k` belong to them from then on. -/
theorem Mem.slice_store_append (m : Mem) (p n : Nat) (bs : List UInt8) {k : Nat}
    (hk : k ≤ bs.length) :
    (m.store (p + n) bs).slice p (n + k) = m.slice p n ++ bs.take k := by
  rw [← Mem.slice_append]
  congr 1
  · apply Mem.slice_congr
    intro i hi
    exact Mem.store_out m (by omega)
  · rw [← Mem.take_slice _ hk, Mem.slice_store]

/-- A store that begins in front of a slice and ends in it. -/
theorem Mem.slice_store_drop (m : Mem) (p k n : Nat) (bs : List UInt8) (h : bs.length ≤ k + n) :
    (m.store p bs).slice (p + k) n = bs.drop k ++ (m.slice (p + k) n).drop (bs.length - k) := by
  apply List.ext_getElem
  · rw [Mem.slice_length, List.length_append, List.length_drop, List.length_drop, Mem.slice_length]
    omega
  · intro i hi hi'
    rw [Mem.slice_length] at hi
    rw [List.getElem_append]
    by_cases hin : i < (bs.drop k).length
    · rw [dif_pos hin, List.getElem_drop]
      rw [List.length_drop] at hin
      simp only [Mem.slice, List.getElem_map, List.getElem_range]
      rw [Mem.store_in _ (by omega) (by omega), List.getD_eq_getElem?_getD,
        show p + k + i - p = k + i by omega, List.getElem?_eq_getElem (by omega), Option.getD_some]
    · rw [dif_neg hin]
      rw [List.length_drop] at hin
      simp only [Mem.slice, List.getElem_drop, List.getElem_map, List.getElem_range]
      rw [Mem.store_out _ (by omega), List.length_drop]
      congr 1
      omega

/-- A store that begins inside an earlier one and reaches its end cuts it off. -/
theorem Mem.store_over (m : Mem) (p n : Nat) (a b : List UInt8) (hn : n ≤ a.length)
    (hb : a.length ≤ n + b.length) : (m.store p a).store (p + n) b = m.store p (a.take n ++ b) := by
  funext i
  have htake : (a.take n).length = n := by rw [List.length_take, Nat.min_eq_left hn]
  simp only [Mem.store, List.length_append, htake]
  by_cases hlo : p + n ≤ i ∧ i < p + n + b.length
  · rw [if_pos hlo, if_pos (by omega)]
    simp only [List.getD_eq_getElem?_getD]
    rw [List.getElem?_append_right (by omega), htake]
    congr 2
    omega
  · rw [if_neg hlo]
    by_cases hin : p ≤ i ∧ i < p + n
    · rw [if_pos (by omega), if_pos (by omega)]
      simp only [List.getD_eq_getElem?_getD]
      rw [List.getElem?_append_left (by omega), List.getElem?_take_of_lt (by omega)]
    · rw [if_neg (by omega), if_neg (by omega)]

/-! Reading a stream. -/

def streamToUint8 (p : Mem) (offset : Nat) : UInt8 := p offset

def streamToUint16 (p : Mem) (offset : Nat) : UInt16 :=
  ((p (offset + 1)).toUInt16 <<< 8) + (p offset).toUInt16

def streamToUint32 (p : Mem) (offset : Nat) : UInt32 :=
  ((p (offset + 3)).toUInt32 <<< 24) + ((p (offset + 2)).toUInt32 <<< 16) +
    ((p (offset + 1)).toUInt32 <<< 8) + (p offset).toUInt32

/-- What `UINT16_TO_STREAM` and a 16-bit store put in memory. -/
def uint16Bytes (u16 : UInt16) : List UInt8 := [u16.toUInt8, (u16 >>> 8).toUInt8]

/-- What `UINT32_TO_STREAM` and a 32-bit store put in memory. -/
def uint32Bytes (u32 : UInt32) : List UInt8 :=
  [u32.toUInt8, (u32 >>> 8).toUInt8, (u32 >>> 16).toUInt8, (u32 >>> 24).toUInt8]

@[simp] theorem uint16Bytes_length (v : UInt16) : (uint16Bytes v).length = 2 := rfl

theorem streamToUint32_toNat (p : Mem) (o : Nat) :
    (streamToUint32 p o).toNat = (p o).toNat + (p (o + 1)).toNat * 256 +
      (p (o + 2)).toNat * 65536 + (p (o + 3)).toNat * 16777216 := by
  have h0 := (p o).toNat_lt
  have h1 := (p (o + 1)).toNat_lt
  have h2 := (p (o + 2)).toNat_lt
  have h3 := (p (o + 3)).toNat_lt
  simp only [streamToUint32, UInt32.toNat_add, UInt32.toNat_shiftLeft, UInt8.toNat_toUInt32,
    Nat.shiftLeft_eq, UInt32.reduceToNat, Nat.reduceMod, Nat.reducePow]
  omega

theorem streamToUint16_toNat (p : Mem) (o : Nat) :
    (streamToUint16 p o).toNat = (p o).toNat + (p (o + 1)).toNat * 256 := by
  have h0 := (p o).toNat_lt
  have h1 := (p (o + 1)).toNat_lt
  simp only [streamToUint16, UInt16.toNat_add, UInt16.toNat_shiftLeft, UInt8.toNat_toUInt16,
    Nat.shiftLeft_eq, UInt16.reduceToNat, Nat.reduceMod, Nat.reducePow]
  omega

/-- Byte `k` of a 32-bit value. -/
theorem uint32_byte (v : UInt32) (k : UInt32) (hk : k.toNat < 32) :
    ((v >>> k).toUInt8).toNat = v.toNat >>> k.toNat % 256 := by
  simp only [UInt32.toNat_toUInt8, UInt32.toNat_shiftRight, Nat.mod_eq_of_lt hk, Nat.reducePow]

/-- A signed word and its bits as an unsigned one. -/
theorem int32_toInt (x : Int32) :
    x.toInt = if 2 * x.toUInt32.toNat < 4294967296 then (x.toUInt32.toNat : Int)
      else (x.toUInt32.toNat : Int) - 4294967296 := by
  have h := BitVec.toInt_eq_toNat_cond x.toBitVec
  simp only [Nat.reducePow] at h
  exact h

theorem int16_toInt (x : Int16) :
    x.toInt = if 2 * x.toUInt16.toNat < 65536 then (x.toUInt16.toNat : Int)
      else (x.toUInt16.toNat : Int) - 65536 := by
  have h := BitVec.toInt_eq_toNat_cond x.toBitVec
  simp only [Nat.reducePow] at h
  exact h

/-- A 32-bit value read from a stream and stored again is the same four bytes. -/
theorem uint32Bytes_stream (p : Mem) (o : Nat) :
    uint32Bytes (streamToUint32 p o) = [p o, p (o + 1), p (o + 2), p (o + 3)] := by
  have h0 := (p o).toNat_lt
  have h1 := (p (o + 1)).toNat_lt
  have h2 := (p (o + 2)).toNat_lt
  have h3 := (p (o + 3)).toNat_lt
  have hv := streamToUint32_toNat p o
  generalize streamToUint32 p o = v at hv ⊢
  simp only [uint32Bytes, List.cons.injEq, and_true]
  refine ⟨?_, ?_, ?_, ?_⟩ <;> apply UInt8.toNat_inj.mp
  · rw [UInt32.toNat_toUInt8, hv]; omega
  · rw [uint32_byte v 8 (by decide), hv, show (8 : UInt32).toNat = 8 from rfl,
      Nat.shiftRight_eq_div_pow]; omega
  · rw [uint32_byte v 16 (by decide), hv, show (16 : UInt32).toNat = 16 from rfl,
      Nat.shiftRight_eq_div_pow]; omega
  · rw [uint32_byte v 24 (by decide), hv, show (24 : UInt32).toNat = 24 from rfl,
      Nat.shiftRight_eq_div_pow]; omega

theorem uint16Bytes_stream (p : Mem) (o : Nat) :
    uint16Bytes (streamToUint16 p o) = [p o, p (o + 1)] := by
  have h0 := (p o).toNat_lt
  have h1 := (p (o + 1)).toNat_lt
  have hv := streamToUint16_toNat p o
  generalize streamToUint16 p o = v at hv ⊢
  simp only [uint16Bytes, List.cons.injEq, and_true]
  constructor <;> apply UInt8.toNat_inj.mp
  · rw [UInt16.toNat_toUInt8, hv]; omega
  · simp only [UInt16.toNat_toUInt8, UInt16.toNat_shiftRight, Nat.shiftRight_eq_div_pow, hv,
      UInt16.reduceToNat, Nat.reduceMod, Nat.reducePow]
    omega

theorem uint16Bytes_inj {v w : UInt16} (h : uint16Bytes v = uint16Bytes w) : v = w := by
  obtain ⟨hlo, hhi⟩ := List.cons.inj h
  have hlo := congrArg UInt8.toNat hlo
  have hhi := congrArg UInt8.toNat (List.cons.inj hhi).1
  have hv := v.toNat_lt
  have hw := w.toNat_lt
  simp only [UInt16.toNat_toUInt8, UInt16.toNat_shiftRight, Nat.shiftRight_eq_div_pow,
    UInt16.reduceToNat, Nat.reduceMod, Nat.reducePow] at hlo hhi
  apply UInt16.toNat_inj.mp
  omega

theorem uint32Bytes_inj {v w : UInt32} (h : uint32Bytes v = uint32Bytes w) : v = w := by
  have hv := v.toNat_lt
  have hw := w.toNat_lt
  simp only [uint32Bytes, List.cons.injEq, and_true] at h
  obtain ⟨h0, h1, h2, h3⟩ := h
  have h0 := congrArg UInt8.toNat h0
  have h1 := congrArg UInt8.toNat h1
  have h2 := congrArg UInt8.toNat h2
  have h3 := congrArg UInt8.toNat h3
  simp only [UInt32.toNat_toUInt8, UInt32.toNat_shiftRight, Nat.shiftRight_eq_div_pow,
    UInt32.reduceToNat, Nat.reduceMod, Nat.reducePow] at h0 h1 h2 h3
  apply UInt32.toNat_inj.mp
  omega

/-- A 16-bit field that holds the bytes of `v` is read as `v`. -/
theorem streamToUint16_of_slice {m : Mem} {o : Nat} {v : UInt16}
    (h : m.slice o 2 = uint16Bytes v) : streamToUint16 m o = v := by
  apply uint16Bytes_inj
  calc uint16Bytes (streamToUint16 m o) = [m o, m (o + 1)] := uint16Bytes_stream m o
    _ = m.slice o 2 := rfl
    _ = uint16Bytes v := h

theorem streamToUint32_of_slice {m : Mem} {o : Nat} {v : UInt32}
    (h : m.slice o 4 = uint32Bytes v) : streamToUint32 m o = v := by
  apply uint32Bytes_inj
  calc uint32Bytes (streamToUint32 m o) = [m o, m (o + 1), m (o + 2), m (o + 3)] :=
      uint32Bytes_stream m o
    _ = m.slice o 4 := rfl
    _ = uint32Bytes v := h

theorem streamToUint32_congr {m m' : Mem} {o o' : Nat} (h : ∀ i, i < 4 → m (o + i) = m' (o' + i)) :
    streamToUint32 m o = streamToUint32 m' o' := by
  have h0 : m o = m' o' := h 0 (by decide)
  simp only [streamToUint32, h0, h 1 (by decide), h 2 (by decide), h 3 (by decide)]

/-! Writing a stream. -/

/-- A write cursor: the pointer, the memory it writes to, and every offset
stored to so far. -/
structure Stream where
  ptr : Nat
  mem : Mem
  written : List Nat

/-- Store bytes at the pointer and move it behind them. -/
def Stream.put (s : Stream) (bs : List UInt8) : Stream :=
  { ptr := s.ptr + bs.length
    mem := s.mem.store s.ptr bs
    written := s.written ++ List.range' s.ptr bs.length }

/-- Store bytes at the pointer and leave it where it is. -/
def Stream.poke (s : Stream) (bs : List UInt8) : Stream := { s.put bs with ptr := s.ptr }

def uint8ToStream (s : Stream) (v : UInt8) : Stream := s.put [v]
def uint16ToStream (s : Stream) (v : UInt16) : Stream := s.put (uint16Bytes v)
def uint32ToStream (s : Stream) (v : UInt32) : Stream := s.put (uint32Bytes v)

/-- `ARRAY_TO_STREAM(p, a, l)`. The counter is 16 bits wide and is compared with
`l` as a long: a negative `l` stores nothing, and from 65536 on the loop never
ends. `error` then carries what its first 65536 turns have stored. -/
def arrayToStream (p : Stream) (a : Mem) (l : Int) : Except Stream Stream :=
  if l < 65536 then .ok (p.put (a.slice 0 l.toNat)) else .error (p.put (a.slice 0 65536))

@[simp] theorem Stream.put_ptr (s : Stream) (bs : List UInt8) :
    (s.put bs).ptr = s.ptr + bs.length := rfl
@[simp] theorem Stream.put_mem (s : Stream) (bs : List UInt8) :
    (s.put bs).mem = s.mem.store s.ptr bs := rfl
@[simp] theorem Stream.put_written (s : Stream) (bs : List UInt8) :
    (s.put bs).written = s.written ++ List.range' s.ptr bs.length := rfl
@[simp] theorem Stream.poke_ptr (s : Stream) (bs : List UInt8) : (s.poke bs).ptr = s.ptr := rfl
@[simp] theorem Stream.poke_mem (s : Stream) (bs : List UInt8) :
    (s.poke bs).mem = s.mem.store s.ptr bs := rfl
@[simp] theorem Stream.poke_written (s : Stream) (bs : List UInt8) :
    (s.poke bs).written = s.written ++ List.range' s.ptr bs.length := rfl

/-- A chain of stores is one store of all the bytes. -/
theorem Stream.put_put (s : Stream) (a b : List UInt8) : (s.put a).put b = s.put (a ++ b) := by
  simp only [Stream.put, Mem.store_store, List.length_append, List.append_assoc, Stream.mk.injEq,
    Nat.add_assoc, true_and]
  rw [List.range'_append_1]

theorem Stream.put_nil (s : Stream) : s.put [] = s := by
  simp [Stream.put, Mem.store_nil]

end SpiderL3S
