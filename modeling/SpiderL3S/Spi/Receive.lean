import SpiderL3S.Hci

/- Reading a packet into `wlan_rx_buffer`. `SpiReadHeader` reads ten bytes and
   `SpiReadDataCont` what their length field asks for, rounded up so that the
   whole transfer is even; nothing compares that with the size of the buffer,
   whose last byte is the magic number. The device's bytes are a `Mem`: what it
   clocks out from the assertion of CS on. The main result says for which lengths
   the buffer holds the packet, for events, for data, and for the data frames a
   receive call of a given length can bring. -/
namespace SpiderL3S

abbrev cc3000RxBufferSize : Nat := 211
abbrev headersSizeEvnt : Nat := spiHeaderSize + 5
abbrev cc3000BufferMagicNumber : UInt8 := 0xDE

/-! The fields of the header that lies in a buffer behind the SPI header. -/

def packetType (buf : Mem) : UInt8 := streamToUint8 (buf.drop spiHeaderSize) hciPacketTypeOffset

/-- The length field of a data packet: the arguments and the payload. -/
def dataLength (buf : Mem) : UInt16 := streamToUint16 (buf.drop spiHeaderSize) hciDataLengthOffset

/-- The length field of an event. -/
def eventLength (buf : Mem) : UInt8 := streamToUint8 (buf.drop spiHeaderSize) hciEventLengthOffset

/-- `data_to_recv`: how many bytes `SpiReadDataCont` reads behind the header. The
16-bit argument of the read cuts the `long`. -/
def dataToRecv (buf : Mem) : Nat :=
  let n : Int :=
    if packetType buf = hciTypeData then
      let n : Int := (dataLength buf).toNat
      if (headersSizeEvnt + n) % 2 = 0 then n + 1 else n
    else if packetType buf = hciTypeEvnt then
      let n : Int := (eventLength buf).toNat - 1
      if (headersSizeEvnt + n) % 2 ≠ 0 then n + 1 else n
    else 0
  (n % 65536).toNat

/-- `SpiReadDataSynchronous` with the buffer behind what has been read. -/
def spiReadDataSynchronous (buf : Stream) (packet : Mem) (size : Nat) : Stream :=
  buf.put (packet.slice buf.ptr size)

def spiReadHeader (buf : Stream) (packet : Mem) : Stream :=
  spiReadDataSynchronous buf packet headersSizeEvnt

def spiReadDataCont (buf : Stream) (packet : Mem) : Stream :=
  spiReadDataSynchronous buf packet (dataToRecv buf.mem)

/-- A whole packet, read into a buffer with contents `rx`. -/
def spiReadPacket (rx : Mem) (packet : Mem) : Stream :=
  spiReadDataCont (spiReadHeader ⟨0, rx, []⟩ packet) packet

/-- Every store is below the magic number, which survives. -/
def RxInside (rx packet : Mem) : Prop :=
  (∀ i ∈ (spiReadPacket rx packet).written, i < cc3000RxBufferSize - 1) ∧
    (spiReadPacket rx packet).mem (cc3000RxBufferSize - 1) = cc3000BufferMagicNumber

/-! What is written. -/

/-- The length depends on the header only. -/
theorem dataToRecv_congr {m m' : Mem} (h : ∀ i < headersSizeEvnt, m i = m' i) :
    dataToRecv m = dataToRecv m' := by
  have htype : packetType m = packetType m' := h 5 (by decide)
  have hevent : eventLength m = eventLength m' := h 8 (by decide)
  have hlow : m.drop 5 3 = m'.drop 5 3 := h 8 (by decide)
  have hhigh : m.drop 5 4 = m'.drop 5 4 := h 9 (by decide)
  have hdata : dataLength m = dataLength m' := by
    show (((m.drop 5 4).toUInt16 <<< 8) + (m.drop 5 3).toUInt16) = _
    rw [hlow, hhigh]
    rfl
  unfold dataToRecv
  rw [htype, hevent, hdata]

theorem spiReadHeader_dataToRecv (rx packet : Mem) :
    dataToRecv (spiReadHeader ⟨0, rx, []⟩ packet).mem = dataToRecv packet := by
  apply dataToRecv_congr
  intro i hi
  show rx.store 0 (packet.slice 0 headersSizeEvnt) i = packet i
  rw [Mem.store_in _ (Nat.zero_le i) (by rw [Mem.slice_length]; omega), Mem.slice,
    List.getD_eq_getElem?_getD, List.getElem?_map, List.getElem?_range (by omega)]
  simp

/-- A packet is stored from the start of the buffer on, in one piece. -/
theorem spiReadPacket_eq (rx packet : Mem) :
    spiReadPacket rx packet =
      Stream.put ⟨0, rx, []⟩ (packet.slice 0 (headersSizeEvnt + dataToRecv packet)) := by
  have happend := Mem.slice_append packet 0 headersSizeEvnt (dataToRecv packet)
  unfold spiReadPacket spiReadDataCont
  rw [spiReadHeader_dataToRecv, ← happend, ← Stream.put_put]
  rfl

theorem rxInside_iff_dataToRecv {rx : Mem}
    (hmagic : rx (cc3000RxBufferSize - 1) = cc3000BufferMagicNumber) (packet : Mem) :
    RxInside rx packet ↔ headersSizeEvnt + dataToRecv packet ≤ cc3000RxBufferSize - 1 := by
  rw [RxInside, spiReadPacket_eq]
  simp only [Stream.put_written, Stream.put_mem, List.nil_append, Mem.slice_length,
    List.mem_range'_1, Nat.zero_add]
  refine ⟨?_, ?_⟩
  · intro ⟨hinside, _⟩
    have hlast := hinside (headersSizeEvnt + dataToRecv packet - 1)
      ⟨Nat.zero_le _, by unfold headersSizeEvnt; omega⟩
    omega
  · intro hle
    refine ⟨fun i hi => by omega, ?_⟩
    rw [Mem.store_out, hmagic]
    rw [Mem.slice_length]
    omega

/-! The lengths that fit. -/

/-- The data frames a conforming device sends for a receive of `len`: at most 24
argument bytes, and a payload of what it has reported, which is at most `len`. -/
def ConformingData (len : Int) (packet : Mem) : Prop :=
  packetType packet = hciTypeData ∧
    ∃ args n : Nat, args ≤ 24 ∧ 0 < n ∧ (n : Int) ≤ len ∧ (dataLength packet).toNat = args + n

theorem dataToRecv_evnt {packet : Mem} (h : packetType packet = hciTypeEvnt) :
    dataToRecv packet = (eventLength packet).toNat - 1 + ((eventLength packet).toNat - 1) % 2 := by
  have hlen := (eventLength packet).toNat_lt
  have hheader : headersSizeEvnt = 10 := rfl
  unfold dataToRecv
  rw [if_neg (by rw [h]; decide), if_pos h]
  dsimp only
  split <;> omega

theorem dataToRecv_data {packet : Mem} (h : packetType packet = hciTypeData) :
    dataToRecv packet = (dataLength packet).toNat + ((dataLength packet).toNat + 1) % 2 := by
  have hlen := (dataLength packet).toNat_lt
  have hheader : headersSizeEvnt = 10 := rfl
  unfold dataToRecv
  rw [if_pos h]
  dsimp only
  split <;> omega

theorem rxInside_evnt {rx : Mem}
    (hmagic : rx (cc3000RxBufferSize - 1) = cc3000BufferMagicNumber) {packet : Mem}
    (h : packetType packet = hciTypeEvnt) :
    RxInside rx packet ↔ (eventLength packet).toNat ≤ 201 := by
  rw [rxInside_iff_dataToRecv hmagic, dataToRecv_evnt h]
  simp only [headersSizeEvnt, spiHeaderSize, cc3000RxBufferSize]
  omega

theorem rxInside_data {rx : Mem}
    (hmagic : rx (cc3000RxBufferSize - 1) = cc3000BufferMagicNumber) {packet : Mem}
    (h : packetType packet = hciTypeData) :
    RxInside rx packet ↔ (dataLength packet).toNat ≤ 199 := by
  rw [rxInside_iff_dataToRecv hmagic, dataToRecv_data h]
  simp only [headersSizeEvnt, spiHeaderSize, cc3000RxBufferSize]
  omega

/-- The packet behind the SPI header, as the callback is handed it, is one that the buffer
holds. -/
def RxFits (data : Mem) : Prop :=
  (data hciPacketTypeOffset = hciTypeEvnt → (data hciEventLengthOffset).toNat ≤ 201) ∧
    (data hciPacketTypeOffset = hciTypeData →
      (streamToUint16 data hciDataLengthOffset).toNat ≤ 199)

instance (data : Mem) : Decidable (RxFits data) := inferInstanceAs (Decidable (_ ∧ _))

theorem rxInside_iff_rxFits {rx : Mem}
    (hmagic : rx (cc3000RxBufferSize - 1) = cc3000BufferMagicNumber) (packet : Mem) :
    RxInside rx packet ↔ RxFits (packet.drop spiHeaderSize) := by
  have hkinds : hciTypeEvnt ≠ hciTypeData := by decide
  by_cases hevent : packetType packet = hciTypeEvnt
  · rw [rxInside_evnt hmagic hevent]
    refine ⟨fun h => ⟨fun _ => h, fun hdata => ?_⟩, fun h => h.1 hevent⟩
    exact absurd (hevent.symm.trans hdata) hkinds
  by_cases hdata : packetType packet = hciTypeData
  · rw [rxInside_data hmagic hdata]
    exact ⟨fun h => ⟨fun h' => absurd h' hevent, fun _ => h⟩, fun h => h.2 hdata⟩
  -- nothing is read behind the header of another packet
  rw [rxInside_iff_dataToRecv hmagic]
  refine iff_of_true ?_ ⟨fun h => absurd h hevent, fun h => absurd h hdata⟩
  have hnone : dataToRecv packet = 0 := by
    unfold dataToRecv
    rw [if_neg hdata, if_neg hevent]
    rfl
  rw [hnone]
  decide

/-- A data frame with these argument and payload lengths. -/
def dataFrame (args n : Nat) : Mem :=
  Mem.ofList ([0, 0, 0, 0, 0, hciTypeData, 0, UInt8.ofNat args] ++
    uint16Bytes (UInt16.ofNat (args + n)))

/-- **Which packets the receive buffer holds.** An event fits exactly up to the
length field 201, a data packet exactly up to 199, and the data frames that a
receive of `len` bytes can bring all fit exactly up to `len` 175. -/
theorem rxInside_lengths {rx : Mem}
    (hmagic : rx (cc3000RxBufferSize - 1) = cc3000BufferMagicNumber) :
    (∀ packet, packetType packet = hciTypeEvnt →
        (RxInside rx packet ↔ (eventLength packet).toNat ≤ 201)) ∧
      (∀ packet, packetType packet = hciTypeData →
        (RxInside rx packet ↔ (dataLength packet).toNat ≤ 199)) ∧
      ∀ len : Int, (∀ packet, ConformingData len packet → RxInside rx packet) ↔ len ≤ 175 := by
  refine ⟨fun packet => rxInside_evnt hmagic, fun packet => rxInside_data hmagic, ?_⟩
  intro len
  refine ⟨?_, ?_⟩
  · intro hall
    by_contra hlong
    have hframe : ConformingData len (dataFrame 24 176) :=
      ⟨by decide, 24, 176, by decide, by decide, by omega, by decide⟩
    have hfits := (rxInside_data hmagic hframe.1).mp (hall _ hframe)
    exact absurd hfits (by decide)
  · intro hlen packet ⟨hdata, args, n, hargs, _, hn, hlength⟩
    rw [rxInside_data hmagic hdata, hlength]
    omega

theorem rxInside_lengths_spiOpen :
    (∀ packet, packetType packet = hciTypeEvnt →
        (RxInside (Mem.store (fun _ => 0) 210 [0xDE]) packet ↔ (eventLength packet).toNat ≤ 201)) ∧
      (∀ packet, packetType packet = hciTypeData →
        (RxInside (Mem.store (fun _ => 0) 210 [0xDE]) packet ↔ (dataLength packet).toNat ≤ 199)) ∧
      ∀ len : Int, (∀ packet, ConformingData len packet →
        RxInside (Mem.store (fun _ => 0) 210 [0xDE]) packet) ↔ len ≤ 175 :=
  rxInside_lengths (by decide)

/-- A receive of 200 bytes can bring a frame of 224, whose bytes reach the magic
number. -/
theorem not_rxInside_lengths :
    ¬ ∀ rx : Mem, rx (cc3000RxBufferSize - 1) = cc3000BufferMagicNumber →
      (∀ packet, packetType packet = hciTypeEvnt → RxInside rx packet) ∧
        ∀ len : Int, ∀ packet, ConformingData len packet → RxInside rx packet := by
  intro h
  have hmagic : Mem.store (fun _ => 0) 210 [0xDE] (cc3000RxBufferSize - 1) =
      cc3000BufferMagicNumber := by decide
  obtain ⟨-, hdata⟩ := h _ hmagic
  have hinside := hdata 200 (dataFrame 24 200)
    ⟨by decide, 24, 200, by decide, by decide, by decide, by decide⟩
  exact absurd ((rxInside_iff_dataToRecv hmagic _).mp hinside) (by decide)

end SpiderL3S
