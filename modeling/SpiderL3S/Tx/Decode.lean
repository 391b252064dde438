import SpiderL3S.Lib.Regions
import SpiderL3S.Spi.Irq
import SpiderL3S.Tx.Stale

/- The device's end of a command. `unpack` takes the SPI header and the HCI header
   off what is clocked out; a `Schema` then says where the arguments of an opcode
   stand. A word stands at its position. A byte string stands at a fixed place, or
   where an offset word at position `p` points to: `p` plus the word. `decodeFrame` reads
   all of them, with nothing known of the call. A frame that declares what it
   stores is unpacked into its opcode and its arguments (`Packet.unpack_wire`). -/
namespace SpiderL3S

open Regions

/-! The headers. -/

structure HciPacket where
  type : UInt8
  opcode : UInt16
  args : List UInt8
  deriving DecidableEq, Repr

/-- Takes the SPI header off. The length in it counts the pad byte. -/
def unpackSpi : List UInt8 → Option (List UInt8)
  | magic :: hi :: lo :: busy0 :: busy1 :: hci =>
    if [magic, busy0, busy1] = [1, 0, 0] ∧ hi.toNat * 256 + lo.toNat = hci.length then some hci
    else none
  | _ => none

/-- As many arguments as are declared. -/
def declaredArgs (type : UInt8) (opcode : UInt16) (n : Nat) (rest : List UInt8) :
    Option HciPacket :=
  if n ≤ rest.length then some ⟨type, opcode, rest.take n⟩ else none

/-- Takes the HCI header off. The opcode of a data packet has one byte; the byte
behind it is the length of the arguments without the data. -/
def unpackHci : List UInt8 → Option HciPacket
  | type :: b0 :: b1 :: b2 :: rest =>
    if type = hciTypeCmnd then
      declaredArgs type (streamToUint16 (Mem.ofList [b0, b1]) 0) b2.toNat rest
    else if type = hciTypeData then
      match rest with
      | b3 :: rest =>
        declaredArgs type b0.toUInt16 (streamToUint16 (Mem.ofList [b2, b3]) 0).toNat rest
      | [] => none
    else none
  | _ => none

def unpack (wire : List UInt8) : Option HciPacket := (unpackSpi wire).bind unpackHci

/-! The arguments. -/

/-- The word at an argument position. -/
def wordAt (args : List UInt8) (p : Nat) : UInt32 := streamToUint32 (Mem.ofList args) p

/-- Where a byte string is found: at a fixed place, or through the offset word at
`p`. Its length is then the word at `lengthAt`, and `index` counts the strings of
that length in front of it. -/
inductive Locator where
  | inline (p n : Nat)
  | offset (p lengthAt index : Nat)
  deriving DecidableEq, Repr

def Locator.region (args : List UInt8) : Locator → Region
  | inline p n => ⟨p, n⟩
  | offset p lengthAt index =>
    ⟨p + (wordAt args p).toNat + index * (wordAt args lengthAt).toNat, (wordAt args lengthAt).toNat⟩

/-- The positions of the scalar arguments, and the byte strings. -/
structure Schema where
  words : List Nat
  strings : List Locator

def Schema.regions (s : Schema) (args : List UInt8) : List Region :=
  s.strings.map (Locator.region args)

/-- What is read out of a packet. -/
structure Decoded where
  opcode : UInt16
  words : List UInt32
  strings : List (List UInt8)
  deriving DecidableEq, Repr

def Schema.read (s : Schema) (p : HciPacket) : Decoded where
  opcode := p.opcode
  words := s.words.map (wordAt p.args)
  strings := (s.regions p.args).map fun r => r.read p.args

/-- The arguments of `wlan_add_profile`, by the security type. -/
def addProfileSchema : UInt32 → Option Schema
  | 0 => some ⟨[0, 8, 20], [.inline 14 6, .offset 4 8 0]⟩
  | 1 =>
    some ⟨[0, 8, 20, 28, 32], [.inline 14 6, .offset 4 8 0, .offset 24 28 0, .offset 24 28 1,
      .offset 24 28 2, .offset 24 28 3]⟩
  | 2 => some ⟨[0, 8, 20, 24, 28, 32, 40], [.inline 14 6, .offset 4 8 0, .offset 36 40 0]⟩
  | 3 => some ⟨[0, 8, 20, 24, 28, 32, 40], [.inline 14 6, .offset 4 8 0, .offset 36 40 0]⟩
  | _ => none

/-- Where the arguments of a packet stand, for the opcodes with byte strings. -/
def schemaOf (p : HciPacket) : Option Schema :=
  if p.type = hciTypeCmnd then
    if p.opcode = hciCmndWlanConnect then
      some ⟨[4, 8, 16], [.inline 22 6, .offset 0 4 0, .offset 12 16 0]⟩
    else if p.opcode = hciCmndWlanIoctlAddProfile then addProfileSchema (wordAt p.args 0)
    else if p.opcode = hciCmndBind ∨ p.opcode = hciCmndConnect then
      some ⟨[0, 8], [.offset 4 8 0]⟩
    else if p.opcode = hciCmndSetsockopt then some ⟨[0, 4, 8, 16], [.offset 12 16 0]⟩
    else if p.opcode = hciCmndGethostname then some ⟨[4], [.offset 0 4 0]⟩
    else if p.opcode = hciCmndMdnsAdvertise then some ⟨[0, 8], [.offset 4 8 0]⟩
    else none
  else if p.opcode = hciCmndNvmemWrite ∨ p.opcode = hciCmndSend then
    some ⟨[0, 8, 12], [.offset 4 8 0]⟩
  else if p.opcode = hciCmndSendto then
    some ⟨[0, 8, 12, 20], [.offset 4 8 0, .offset 16 20 0]⟩
  else none

def decodeFrame (wire : List UInt8) : Option Decoded := do
  let p ← unpack wire
  let s ← schemaOf p
  return s.read p

/-! What is clocked out. -/

theorem SpiFrame.wire_eq (f : SpiFrame) :
    f.wire = f.stored.mem.slice f.pUserBuffer f.size.toNat := by
  rw [SpiFrame.wire, SpiFrame.bytes, Mem.slice, List.range_eq_range']
  rfl

/-- The two length bytes of the SPI header. -/
theorem spiLength_toNat (n : UInt16) :
    ((n &&& 0xFF00) >>> 8).toUInt8.toNat * 256 + (n &&& 0x00FF).toUInt8.toNat = n.toNat := by
  have hlt := n.toNat_lt
  have hhi : (n.toNat &&& 0xFF00) >>> 8 = n.toNat / 256 := by
    rw [Nat.shiftRight_and_distrib, Nat.shiftRight_eq_div_pow]
    show n.toNat / 256 &&& 255 = _
    rw [Nat.and_two_pow_sub_one_eq_mod _ 8, Nat.mod_eq_of_lt (by omega)]
  have hlo : n.toNat &&& 0x00FF = n.toNat % 256 := Nat.and_two_pow_sub_one_eq_mod _ 8
  simp only [UInt16.toNat_toUInt8, UInt16.toNat_shiftRight, UInt16.toNat_and, UInt16.reduceToNat,
    Nat.reduceMod, Nat.reducePow, hhi, hlo]
  omega

/-- The SPI header, as it stands in front of the frame. -/
theorem Packet.spiHeader_eq (r : Packet) (tx : Mem) :
    ∃ hi lo : UInt8, (r.toFrame tx).stored.mem.slice 0 spiHeaderSize = [1, hi, lo, 0, 0] ∧
      hi.toNat * 256 + lo.toNat =
        ((r.toFrame tx).usLength + ucPad (r.toFrame tx).usLength).toNat := by
  refine ⟨_, _, ?_, spiLength_toNat _⟩
  simp only [Packet.toFrame, spiWrite, uint8ToStream, Stream.put_put, Stream.put_mem]
  exact Mem.slice_store _ 0 _

/-- A packet that declares what it stores sends its header and its arguments. -/
theorem Packet.hci_of_exact (r : Packet) (tx : Mem) (h : r.Exact)
    (hroom : r.header.length + r.args.length ≤ 205) : (r.toFrame tx).hci = r.header ++ r.args := by
  have hexact := h.1
  rw [r.hci_stale tx (Nat.le_of_eq hexact) (by omega), hexact, Nat.sub_self]
  exact List.append_nil _

/-- The frame of such a packet: SPI header, HCI header, arguments, and what the
buffer held at the pad byte. -/
theorem Packet.wire_eq (r : Packet) (tx : Mem) (h : r.Exact)
    (hroom : r.header.length + r.args.length ≤ 205) :
    ∃ (hi lo : UInt8) (pad : List UInt8),
      (r.toFrame tx).wire = [1, hi, lo, 0, 0] ++ (r.header ++ r.args ++ pad) ∧
        hi.toNat * 256 + lo.toNat = (r.header ++ r.args ++ pad).length := by
  have hexact := h.1
  have hsize : spiHeaderSize = 5 := rfl
  have hlength := r.toFrame_usLength tx
  have hpad := ucPad_toNat (r.toFrame tx).usLength
  have hclocked := SpiFrame.size_toNat (r.toFrame tx)
  obtain ⟨hi, lo, hheader, hcount⟩ := r.spiHeader_eq tx
  have hhci := r.hci_of_exact tx h hroom
  refine ⟨hi, lo, (r.toFrame tx).stored.mem.slice (spiHeaderSize + (r.toFrame tx).usLength.toNat)
    (ucPad (r.toFrame tx).usLength).toNat, ?_, ?_⟩
  · have hall : (r.toFrame tx).size.toNat = spiHeaderSize +
        ((r.toFrame tx).usLength.toNat + (ucPad (r.toFrame tx).usLength).toNat) := by omega
    have hstart : (r.toFrame tx).pUserBuffer = 0 := rfl
    rw [SpiFrame.hci_eq _ (by omega), hstart, Nat.zero_add] at hhci
    rw [SpiFrame.wire_eq, hstart, hall, ← Mem.slice_append, ← Mem.slice_append, Nat.zero_add,
      hheader, hhci]
  · rw [hcount, UInt16.toNat_add, List.length_append, List.length_append, Mem.slice_length]
    omega

/-! Unpacking. -/

theorem unpackSpi_frame {hi lo : UInt8} {hci : List UInt8}
    (h : hi.toNat * 256 + lo.toNat = hci.length) :
    unpackSpi ([1, hi, lo, 0, 0] ++ hci) = some hci := by
  show (if [(1 : UInt8), 0, 0] = [1, 0, 0] ∧ _ then some hci else none) = some hci
  rw [if_pos ⟨rfl, h⟩]

theorem declaredArgs_eq (type : UInt8) (opcode : UInt16) (args pad : List UInt8) :
    declaredArgs type opcode args.length (args ++ pad) = some ⟨type, opcode, args⟩ := by
  rw [declaredArgs, if_pos (by rw [List.length_append]; omega), List.take_left]

theorem unpackHci_command (op : UInt16) {n : UInt8} {args pad : List UInt8}
    (h : args.length = n.toNat) :
    unpackHci (commandHeader op n ++ args ++ pad) = some ⟨hciTypeCmnd, op, args⟩ := by
  have hop : streamToUint16 (Mem.ofList (uint16Bytes op)) 0 = op := streamToUint16_of_slice rfl
  calc unpackHci (commandHeader op n ++ args ++ pad)
      = declaredArgs hciTypeCmnd (streamToUint16 (Mem.ofList (uint16Bytes op)) 0) n.toNat
          (args ++ pad) := rfl
    _ = _ := by rw [hop, ← h, declaredArgs_eq]

theorem unpackHci_data (op a : UInt8) {n : UInt16} {args pad : List UInt8}
    (h : args.length = n.toNat) :
    unpackHci (dataHeader op a n ++ args ++ pad) = some ⟨hciTypeData, op.toUInt16, args⟩ := by
  have hn : streamToUint16 (Mem.ofList (uint16Bytes n)) 0 = n := streamToUint16_of_slice rfl
  calc unpackHci (dataHeader op a n ++ args ++ pad)
      = declaredArgs hciTypeData op.toUInt16 (streamToUint16 (Mem.ofList (uint16Bytes n)) 0).toNat
          (args ++ pad) := rfl
    _ = _ := by rw [hn, ← h, declaredArgs_eq]

theorem unpack_command {op : UInt16} {ps : List Piece} {n : UInt8} (tx : Mem)
    (h : piecesLength ps = n.toNat) (hroom : piecesLength ps ≤ 201) :
    unpack ((Packet.command op ps n).toFrame tx).wire =
      some ⟨hciTypeCmnd, op, ps.flatMap Piece.content⟩ := by
  have hdeclared : (Packet.command op ps n).declared.toNat = n.toNat := UInt8.toNat_toUInt16 n
  have hargs : (Packet.command op ps n).args.length = piecesLength ps := rfl
  have hheader : (Packet.command op ps n).header.length = 4 := rfl
  have hexact : (Packet.command op ps n).Exact := by
    rw [Packet.Exact, hargs, hheader, hdeclared]
    omega
  obtain ⟨hi, lo, pad, hwire, hcount⟩ := Packet.wire_eq _ tx hexact (by omega)
  rw [hwire, unpack, unpackSpi_frame hcount]
  exact unpackHci_command op h

theorem unpack_data {op a : UInt8} {ps : List Piece} {n : UInt16} (tx : Mem)
    (h : piecesLength ps = n.toNat) (hroom : piecesLength ps ≤ 200) :
    unpack ((Packet.data op ps a n).toFrame tx).wire =
      some ⟨hciTypeData, op.toUInt16, ps.flatMap Piece.content⟩ := by
  have hargs : (Packet.data op ps a n).args.length = piecesLength ps := rfl
  have hheader : (Packet.data op ps a n).header.length = 5 := rfl
  have hexact : (Packet.data op ps a n).Exact := by
    refine ⟨h, ?_⟩
    show n.toNat + 5 < 65536
    omega
  obtain ⟨hi, lo, pad, hwire, hcount⟩ := Packet.wire_eq _ tx hexact (by omega)
  rw [hwire, unpack, unpackSpi_frame hcount]
  exact unpackHci_data op a h

end SpiderL3S
