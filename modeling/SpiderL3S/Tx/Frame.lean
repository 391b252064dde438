import SpiderL3S.Hci
import SpiderL3S.Spi.Receive

/- From the arguments of a command to the bytes on the SPI: `hci_command_send`,
   `hci_data_send`, `hci_data_command_send`, `hci_patch_send` and the part of
   `SpiWrite` that lays out the frame. All of them write to `wlan_tx_buffer`,
   whose offset 0 is the first SPI header byte and whose last byte holds the
   magic number. A `Packet` is what a command function amounts to: the
   argument bytes it stores and the length it declares, with no buffer in
   sight; the lemmas say which offsets a packet's run stores and clocks out,
   and which bytes reach the wire. -/
namespace SpiderL3S

abbrev cc3000TxBufferSize : Nat := 211
abbrev headersSizeData : Nat := spiHeaderSize + 5
abbrev slPatchPortionSize : Nat := 1000

/-! The frame as `SpiWrite` lays it out. -/

/-- A call of `SpiWrite` at offset `pUserBuffer`: the length it is given and the
buffer when it reaches the test of the magic number. -/
structure SpiFrame where
  pUserBuffer : Nat
  usLength : UInt16
  stored : Stream

/-- The pad byte that makes header and payload together even. -/
def ucPad (usLength : UInt16) : UInt16 := if usLength &&& 1 = 0 then 1 else 0

/-- `SpiWrite` up to the test of the magic number. -/
def spiWrite (pUserBuffer : Nat) (s : Stream) (usLength : UInt16) : SpiFrame :=
  let padded := usLength + ucPad usLength
  let s := uint8ToStream { s with ptr := pUserBuffer } 1
  let s := uint8ToStream s ((padded &&& 0xFF00) >>> 8).toUInt8
  let s := uint8ToStream s (padded &&& 0x00FF).toUInt8
  let s := uint8ToStream s 0
  let s := uint8ToStream s 0
  { pUserBuffer, usLength, stored := s }

/-- The number of bytes to clock out: the length with header and pad byte, in
16 bits. -/
def SpiFrame.size (f : SpiFrame) : UInt16 := f.usLength + (5 + ucPad f.usLength)

/-- The magic number is gone, and `SpiWrite` never leaves its loop. -/
def SpiFrame.Overrun (f : SpiFrame) : Prop :=
  f.stored.mem (cc3000TxBufferSize - 1) ≠ cc3000BufferMagicNumber

instance (f : SpiFrame) : Decidable f.Overrun :=
  inferInstanceAs (Decidable (f.stored.mem (cc3000TxBufferSize - 1) ≠ cc3000BufferMagicNumber))

/-- The offsets clocked out. -/
def SpiFrame.clocked (f : SpiFrame) : List Nat :=
  if f.Overrun then [] else List.range' f.pUserBuffer f.size.toNat

/-- The bytes clocked out from the HCI type byte on, the pad byte left out. -/
def SpiFrame.hci (f : SpiFrame) : List UInt8 :=
  f.stored.mem.slice (f.pUserBuffer + spiHeaderSize)
    (min (f.size.toNat - spiHeaderSize) f.usLength.toNat)

/-- How a command function leaves the transmit path: it returns without a
frame, it never ends a copying loop, or it hands a frame to `SpiWrite`. -/
inductive Outcome
  | returned
  | stuck (stored : Stream)
  | frame (f : SpiFrame)

/-- The offsets stored to. -/
def Outcome.written : Outcome → List Nat
  | returned => []
  | stuck stored => stored.written
  | frame f => f.stored.written

/-- The offsets clocked out. -/
def Outcome.clocked : Outcome → List Nat
  | frame f => f.clocked
  | _ => []

/-! The HCI layer. `s` is the buffer with the arguments in place. -/

def hciCommandSend (usOpcode : UInt16) (s : Stream) (ucArgsLength : UInt8) : Outcome :=
  let stream := uint8ToStream { s with ptr := spiHeaderSize } hciTypeCmnd
  let stream := uint16ToStream stream usOpcode
  let stream := uint8ToStream stream ucArgsLength
  .frame (spiWrite 0 stream (ucArgsLength.toUInt16 + 4))

def hciDataSend (ucOpcode : UInt8) (s : Stream) (usArgsLength usDataLength usTailLength : UInt16) :
    Outcome :=
  let stream := uint8ToStream { s with ptr := spiHeaderSize } hciTypeData
  let stream := uint8ToStream stream ucOpcode
  let stream := uint8ToStream stream usArgsLength.toUInt8
  let stream := uint16ToStream stream (usArgsLength + usDataLength + usTailLength)
  .frame (spiWrite 0 stream (5 + usArgsLength + usDataLength + usTailLength))

def hciDataCommandSend (usOpcode : UInt16) (s : Stream) (ucArgsLength : UInt8)
    (ucDataLength : UInt16) : Outcome :=
  let stream := uint8ToStream { s with ptr := spiHeaderSize } hciTypeData
  let stream := uint8ToStream stream usOpcode.toUInt8
  let stream := uint8ToStream stream ucArgsLength
  let stream := uint16ToStream stream (ucArgsLength.toUInt16 + ucDataLength)
  .frame (spiWrite 0 stream (ucArgsLength.toUInt16 + ucDataLength + 5))

/-- The portions behind the first one of `hci_patch_send`: `data_ptr` is the
buffer behind the SPI header, and each portion's length, bytes and SPI header
are all stored from there. -/
def patchPortions (s : Stream) (patch : Mem) (usDataLength : Nat) : List SpiFrame :=
  if _h : usDataLength = 0 then []
  else
    let usTransLength := min usDataLength slPatchPortionSize
    let s := uint16ToStream { s with ptr := spiHeaderSize } (UInt16.ofNat usTransLength)
    let s := s.put (patch.slice 0 usTransLength)
    let f := spiWrite spiHeaderSize s (UInt16.ofNat usTransLength + 2)
    f :: patchPortions f.stored (patch.drop usTransLength) (usDataLength - usTransLength)
  termination_by usDataLength
  decreasing_by simp only [slPatchPortionSize]; omega

/-- `hci_patch_send`: the frames it hands to `SpiWrite`, as long as `SpiWrite`
returns. -/
def hciPatchSend (ucOpcode : UInt8) (tx : Mem) (patch : Mem) (usDataLength : UInt16) :
    List SpiFrame :=
  let stream := uint8ToStream { ptr := spiHeaderSize, mem := tx, written := [] } hciTypePatch
  let stream := uint8ToStream stream ucOpcode
  let stream := uint16ToStream stream (usDataLength + 2)
  if usDataLength ≤ 1000 then
    let stream := stream.poke (uint16Bytes usDataLength)
    let stream := uint16ToStream stream usDataLength
    let stream := { stream with ptr := spiHeaderSize + hciPatchHeaderSize }.put
      (patch.slice 0 usDataLength.toNat)
    [spiWrite 0 stream (usDataLength + 6)]
  else
    let usTransLength := usDataLength / 1000
    let stream := stream.poke (uint16Bytes (usDataLength + 2 + usTransLength * 2))
    let stream := uint16ToStream stream 1000
    let stream := { stream with ptr := spiHeaderSize + hciPatchHeaderSize }.put
      (patch.slice 0 slPatchPortionSize)
    let f := spiWrite 0 stream (1000 + 6)
    f :: patchPortions f.stored (patch.drop slPatchPortionSize) (usDataLength.toNat - 1000)

/-! Filling the arguments in. -/

/-- `ARRAY_TO_STREAM` and what comes after it. -/
def afterArray (p : Stream) (a : Mem) (l : Int) (next : Stream → Outcome) : Outcome :=
  match arrayToStream p a l with
  | .ok p => next p
  | .error p => .stuck p

/-- One store of a command function: some bytes, or an array copied with
`ARRAY_TO_STREAM`. -/
inductive Piece
  | bytes (bs : List UInt8)
  | array (a : Mem) (l : Int)

/-- The bytes a piece contributes when its copying loop ends. -/
def Piece.content : Piece → List UInt8
  | bytes bs => bs
  | array a l => a.slice 0 l.toNat

/-- The copying loop ends. -/
def Piece.Ends : Piece → Prop
  | bytes _ => True
  | array _ l => l < 65536

instance (p : Piece) : Decidable p.Ends := by cases p <;> unfold Piece.Ends <;> infer_instance

/-- Store the pieces one after the other and go on. -/
def writePieces (s : Stream) : List Piece → (Stream → Outcome) → Outcome
  | [], next => next s
  | .bytes bs :: ps, next => writePieces (s.put bs) ps next
  | .array a l :: ps, next => afterArray s a l fun s => writePieces s ps next

/-- What a command function amounts to, with no buffer in sight: the HCI
header, the argument pieces, and the argument length it declares. -/
structure Packet where
  header : List UInt8
  pieces : List Piece
  declared : UInt16
  header_le : header.length ≤ hciDataHeaderSize

/-- The argument bytes of a packet. -/
def Packet.args (r : Packet) : List UInt8 := r.pieces.flatMap Piece.content

/-- The buffer with the cursor behind a header of the given size. -/
def txArgs (header : Nat) (tx : Mem) : Stream :=
  { ptr := spiHeaderSize + header, mem := tx, written := [] }

/-- Header and frame once the arguments are in place. -/
def sendFrame (header : List UInt8) (declared : UInt16) (s : Stream) : Outcome :=
  let s := { s with ptr := spiHeaderSize }.put header
  .frame (spiWrite 0 s (declared + UInt16.ofNat header.length))

/-- A packet written to the transmit buffer `tx`. -/
def Packet.run (r : Packet) (tx : Mem) : Outcome :=
  writePieces (txArgs r.header.length tx) r.pieces (sendFrame r.header r.declared)

def commandHeader (usOpcode : UInt16) (ucArgsLength : UInt8) : List UInt8 :=
  hciTypeCmnd :: (uint16Bytes usOpcode ++ [ucArgsLength])

def dataHeader (ucOpcode argsLength : UInt8) (declared : UInt16) : List UInt8 :=
  hciTypeData :: ucOpcode :: argsLength :: uint16Bytes declared

/-- A packet of `hci_command_send`. -/
def Packet.command (usOpcode : UInt16) (pieces : List Piece) (ucArgsLength : UInt8) : Packet :=
  { header := commandHeader usOpcode ucArgsLength, pieces, declared := ucArgsLength.toUInt16
    header_le := Nat.le_succ 4 }

/-- A packet of `hci_data_send` and `hci_data_command_send`. -/
def Packet.data (ucOpcode : UInt8) (pieces : List Piece) (argsLength : UInt8)
    (declared : UInt16) : Packet :=
  { header := dataHeader ucOpcode argsLength declared, pieces, declared
    header_le := Nat.le_refl 5 }

theorem hciCommandSend_eq (usOpcode : UInt16) (s : Stream) (ucArgsLength : UInt8) :
    hciCommandSend usOpcode s ucArgsLength =
      sendFrame (commandHeader usOpcode ucArgsLength) ucArgsLength.toUInt16 s := by
  simp only [hciCommandSend, uint8ToStream, uint16ToStream, Stream.put_put]
  rfl

theorem hciDataSend_eq (ucOpcode : UInt8) (s : Stream) (a d t : UInt16) :
    hciDataSend ucOpcode s a d t =
      sendFrame (dataHeader ucOpcode a.toUInt8 (a + d + t)) (a + d + t) s := by
  have hlen : 5 + a + d + t = a + d + t + 5 := by
    rw [UInt16.add_assoc 5, UInt16.add_assoc 5, UInt16.add_comm 5]
  simp only [hciDataSend, uint8ToStream, uint16ToStream, Stream.put_put, hlen]
  rfl

theorem hciDataCommandSend_eq (usOpcode : UInt16) (s : Stream) (a : UInt8) (d : UInt16) :
    hciDataCommandSend usOpcode s a d =
      sendFrame (dataHeader usOpcode.toUInt8 a (a.toUInt16 + d)) (a.toUInt16 + d) s := by
  simp only [hciDataCommandSend, uint8ToStream, uint16ToStream, Stream.put_put]
  rfl

/-! What a packet's run stores. -/

/-- Every copying loop of the packet ends. -/
def Packet.Ends (r : Packet) : Prop := ∀ p ∈ r.pieces, p.Ends

instance (r : Packet) : Decidable r.Ends := by unfold Packet.Ends; infer_instance

theorem writePieces_ends (ps : List Piece) (h : ∀ p ∈ ps, p.Ends) (s : Stream)
    (next : Stream → Outcome) :
    writePieces s ps next = next (s.put (ps.flatMap Piece.content)) := by
  induction ps generalizing s with
  | nil => rw [writePieces, List.flatMap_nil, Stream.put_nil]
  | cons p ps ih =>
    have hps : ∀ q ∈ ps, q.Ends := fun q hq => h q (List.mem_cons_of_mem p hq)
    cases p with
    | bytes bs =>
      rw [writePieces, ih hps, Stream.put_put]
      rfl
    | array a l =>
      have hl : l < 65536 := h _ List.mem_cons_self
      rw [writePieces, afterArray, arrayToStream, if_pos hl]
      simp only [ih hps, Stream.put_put]
      rfl

/-- A copying loop that never ends has stored its first 65536 bytes. -/
theorem writePieces_stuck (ps : List Piece) (h : ∃ p ∈ ps, ¬ p.Ends) (s : Stream)
    (next : Stream → Outcome) :
    ∃ bs : List UInt8, writePieces s ps next = .stuck (s.put bs) ∧ 65536 ≤ bs.length := by
  induction ps generalizing s with
  | nil =>
    obtain ⟨p, hp, -⟩ := h
    cases hp
  | cons p ps ih =>
    have hrest : p.Ends → ∃ q ∈ ps, ¬ q.Ends := by
      intro hp
      obtain ⟨q, hq, hne⟩ := h
      rcases List.mem_cons.mp hq with rfl | hq
      · exact absurd hp hne
      · exact ⟨q, hq, hne⟩
    cases p with
    | bytes bs =>
      obtain ⟨rest, hrun, hlen⟩ := ih (hrest trivial) (s.put bs)
      refine ⟨bs ++ rest, ?_, ?_⟩
      · rw [writePieces, hrun, Stream.put_put]
      · rw [List.length_append]; omega
    | array a l =>
      by_cases hl : l < 65536
      · obtain ⟨rest, hrun, hlen⟩ := ih (hrest hl) (s.put (a.slice 0 l.toNat))
        refine ⟨a.slice 0 l.toNat ++ rest, ?_, ?_⟩
        · rw [writePieces, afterArray, arrayToStream, if_pos hl]
          simp only [hrun, Stream.put_put]
        · rw [List.length_append]; omega
      · refine ⟨a.slice 0 65536, ?_, ?_⟩
        · rw [writePieces, afterArray, arrayToStream, if_neg hl]
        · rw [Mem.slice_length]

/-- The frame a packet hands to `SpiWrite`. -/
def Packet.toFrame (r : Packet) (tx : Mem) : SpiFrame :=
  let s := (txArgs r.header.length tx).put r.args
  let s := { s with ptr := spiHeaderSize }.put r.header
  spiWrite 0 s (r.declared + UInt16.ofNat r.header.length)

theorem Packet.run_ends (r : Packet) (h : r.Ends) (tx : Mem) :
    r.run tx = .frame (r.toFrame tx) := writePieces_ends r.pieces h _ _

theorem Packet.run_stuck (r : Packet) (h : ¬ r.Ends) (tx : Mem) :
    ∃ bs : List UInt8, r.run tx = .stuck ((txArgs r.header.length tx).put bs) ∧
      65536 ≤ bs.length :=
  writePieces_stuck r.pieces (by simpa only [Packet.Ends, not_forall, exists_prop] using h) _ _

/-- `SpiWrite` stores its five header bytes and nothing else. -/
theorem spiWrite_stored (pUserBuffer : Nat) (s : Stream) (n : UInt16) :
    ∃ spiHeader : List UInt8, spiHeader.length = spiHeaderSize ∧
      (spiWrite pUserBuffer s n).stored = { s with ptr := pUserBuffer }.put spiHeader := by
  refine ⟨[1, (((n + ucPad n) &&& 0xFF00) >>> 8).toUInt8, ((n + ucPad n) &&& 0x00FF).toUInt8, 0, 0],
    rfl, ?_⟩
  simp only [spiWrite, uint8ToStream, Stream.put_put]
  rfl

/-- The offsets a packet stores to: arguments, HCI header, SPI header. -/
theorem Packet.mem_written (r : Packet) (tx : Mem) (i : Nat) :
    i ∈ (r.toFrame tx).stored.written ↔ i < spiHeaderSize + r.header.length + r.args.length := by
  obtain ⟨spiHeader, hlen, hstored⟩ := spiWrite_stored 0
    ({ (txArgs r.header.length tx).put r.args with ptr := spiHeaderSize }.put r.header)
    (r.declared + UInt16.ofNat r.header.length)
  have hsize : spiHeaderSize = 5 := rfl
  rw [Packet.toFrame, hstored]
  simp only [Stream.put_written, txArgs, List.nil_append, List.mem_append, List.mem_range'_1, hlen]
  omega

/-- What is in the buffer behind the SPI header when the frame is clocked out. -/
theorem Packet.toFrame_mem (r : Packet) (tx : Mem) {i : Nat} (hi : spiHeaderSize ≤ i) :
    (r.toFrame tx).stored.mem i =
      ((tx.store (spiHeaderSize + r.header.length) r.args).store spiHeaderSize r.header) i := by
  obtain ⟨spiHeader, hlen, hstored⟩ := spiWrite_stored 0
    ({ (txArgs r.header.length tx).put r.args with ptr := spiHeaderSize }.put r.header)
    (r.declared + UInt16.ofNat r.header.length)
  rw [Packet.toFrame, hstored]
  simp only [Stream.put_mem]
  rw [Mem.store_out _ (by omega)]
  rfl

/-- The byte at the place of the magic number: an argument byte, if there are
that many, and else what it was. -/
theorem Packet.toFrame_magic (r : Packet) (tx : Mem) :
    (r.toFrame tx).stored.mem (cc3000TxBufferSize - 1) =
      r.args.getD (205 - r.header.length) (tx (cc3000TxBufferSize - 1)) := by
  have hle := r.header_le
  have hsize : spiHeaderSize = 5 := rfl
  have hdata : hciDataHeaderSize = 5 := rfl
  have hbuf : cc3000TxBufferSize - 1 = 210 := rfl
  rw [r.toFrame_mem tx (by omega), Mem.store_out _ (by omega), hbuf]
  by_cases hin : 210 < spiHeaderSize + r.header.length + r.args.length
  · have hidx : 210 - (spiHeaderSize + r.header.length) = 205 - r.header.length := by omega
    rw [Mem.store_in _ (by omega) hin, hidx]
    simp only [List.getD_eq_getElem?_getD]
    rw [List.getElem?_eq_getElem (by omega)]
    rfl
  · rw [Mem.store_out _ (by omega)]
    simp only [List.getD_eq_getElem?_getD]
    rw [List.getElem?_eq_none (by omega)]
    rfl

theorem ucPad_toNat (n : UInt16) : (ucPad n).toNat = (n.toNat + 1) % 2 := by
  have hand : (n &&& 1 = 0) ↔ n.toNat % 2 = 0 := by
    rw [← UInt16.toNat_inj, UInt16.toNat_and, show (1 : UInt16).toNat = 1 from rfl,
      Nat.and_one_is_mod]
    rfl
  unfold ucPad
  by_cases h : n.toNat % 2 = 0
  · rw [if_pos (hand.mpr h), show (1 : UInt16).toNat = 1 from rfl]; omega
  · rw [if_neg (fun h' => h (hand.mp h')), show (0 : UInt16).toNat = 0 from rfl]; omega

theorem SpiFrame.size_toNat (f : SpiFrame) :
    f.size.toNat = (f.usLength.toNat + 5 + (f.usLength.toNat + 1) % 2) % 65536 := by
  simp only [SpiFrame.size, UInt16.toNat_add, ucPad_toNat, UInt16.reduceToNat, Nat.reducePow]
  omega

/-- A frame whose size fits in 16 bits has all of its packet. -/
theorem SpiFrame.hci_eq (f : SpiFrame) (h : f.usLength.toNat ≤ 65529) :
    f.hci = f.stored.mem.slice (f.pUserBuffer + spiHeaderSize) f.usLength.toNat := by
  have hsize : spiHeaderSize = 5 := rfl
  have hsizeLe : f.usLength.toNat ≤ f.size.toNat - spiHeaderSize := by
    rw [f.size_toNat]
    omega
  rw [SpiFrame.hci, Nat.min_eq_right hsizeLe]

theorem Packet.toFrame_usLength (r : Packet) (tx : Mem) :
    (r.toFrame tx).usLength.toNat = (r.declared.toNat + r.header.length) % 65536 := by
  have hle := r.header_le
  have hdata : hciDataHeaderSize = 5 := rfl
  simp only [Packet.toFrame, spiWrite, UInt16.toNat_add, UInt16.toNat_ofNat', Nat.reducePow]
  omega

end SpiderL3S
