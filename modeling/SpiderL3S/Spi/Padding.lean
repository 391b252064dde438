import SpiderL3S.Tx.Frame

/- The pad byte, seen from both ends. `SpiWrite` pads an HCI packet of even length, so
   that the packet and the five bytes of its SPI header are even together
   (`SpiFrame.size_iff`). `SpiReadDataCont` computes the pad byte of what it reads from
   the length field: the ten bytes of the header are counted with it, and the branch for
   events has taken the status byte, one of the ten, off the length before. That branch
   rounds up to even; the one for data rounds up to odd (`transferEven_iff`). -/
namespace SpiderL3S

/-- SPI header and HCI packet, rounded up to an even number of bytes. -/
def evenTotal (n : Nat) : Nat := spiHeaderSize + n + (spiHeaderSize + n) % 2

/-- The length of an HCI packet, from its type byte on. -/
def hciLength (packet : Mem) : Nat :=
  if packetType packet = hciTypeData then hciDataHeaderSize + (dataLength packet).toNat
  else 4 + (eventLength packet).toNat

/-- An event with its status byte, or a data packet. -/
def Received (packet : Mem) : Prop :=
  (packetType packet = hciTypeEvnt ∧ 1 ≤ (eventLength packet).toNat) ∨
    (packetType packet = hciTypeData ∧ (dataLength packet).toNat < 65535)

/-- The frame of `SpiWrite` is even, as long as its size fits in 16 bits. -/
theorem SpiFrame.size_iff (f : SpiFrame) :
    f.size.toNat = evenTotal f.usLength.toNat ↔ f.usLength.toNat ≤ 65529 := by
  have hlen := f.usLength.toNat_lt
  have hheader : spiHeaderSize = 5 := rfl
  rw [f.size_toNat, evenTotal]
  omega

/-- What is clocked in: ten bytes, and what the length field asks for. -/
theorem spiReadPacket_clocked (rx packet : Mem) :
    (spiReadPacket rx packet).written.length = headersSizeEvnt + dataToRecv packet := by
  rw [spiReadPacket_eq, Stream.put_written, List.nil_append, List.length_range', Mem.slice_length]

theorem transferEven_evnt (rx : Mem) {packet : Mem} (h : packetType packet = hciTypeEvnt)
    (hlen : 1 ≤ (eventLength packet).toNat) :
    (spiReadPacket rx packet).written.length = evenTotal (hciLength packet) := by
  have hheader : spiHeaderSize = 5 := rfl
  have hten : headersSizeEvnt = 10 := rfl
  have hdata : ¬ packetType packet = hciTypeData := by rw [h]; decide
  rw [spiReadPacket_clocked, dataToRecv_evnt h, hciLength, if_neg hdata, evenTotal]
  omega

/-- A data packet is clocked in with one byte too many or one too few. -/
theorem transferOdd_data (rx : Mem) {packet : Mem} (h : packetType packet = hciTypeData) :
    (spiReadPacket rx packet).written.length % 2 = 1 := by
  have hten : headersSizeEvnt = 10 := rfl
  rw [spiReadPacket_clocked, dataToRecv_data h]
  omega

/-- **The padding is right for events and never for data.** `SpiWrite` makes every
frame even whose size fits in 16 bits, and a packet is read with exactly the even
number of bytes if and only if it is an event. -/
theorem transferEven_iff (rx : Mem) {packet : Mem} (h : Received packet) :
    (∀ f : SpiFrame, f.usLength.toNat ≤ 65529 → f.size.toNat = evenTotal f.usLength.toNat) ∧
      ((spiReadPacket rx packet).written.length = evenTotal (hciLength packet) ↔
        packetType packet = hciTypeEvnt) := by
  refine ⟨fun f => f.size_iff.mpr, ?_⟩
  rcases h with ⟨hevnt, hlen⟩ | ⟨hdata, -⟩
  · exact iff_of_true (transferEven_evnt rx hevnt hlen) hevnt
  · have hodd := transferOdd_data rx hdata
    have hnot : ¬ packetType packet = hciTypeEvnt := by rw [hdata]; decide
    refine iff_of_false ?_ hnot
    intro heven
    have htotal : evenTotal (hciLength packet) % 2 = 0 := by
      rw [evenTotal]
      omega
    omega

/-- The header of the reply to `socket`: a status byte and four more. -/
def socketEvent : Mem := Mem.ofList [0, 0, 0, 0, 0, hciTypeEvnt, 0x01, 0x10, 5]

theorem transferEven_socket :
    (∀ f : SpiFrame, f.usLength.toNat ≤ 65529 → f.size.toNat = evenTotal f.usLength.toNat) ∧
      ((spiReadPacket (Mem.ofList []) socketEvent).written.length =
          evenTotal (hciLength socketEvent) ↔ packetType socketEvent = hciTypeEvnt) :=
  transferEven_iff (Mem.ofList []) (.inl (by decide))

/-- A data packet of nine bytes is read with one byte too many. -/
theorem not_transferEven :
    ¬ ∀ rx packet : Mem, Received packet →
      (spiReadPacket rx packet).written.length = evenTotal (hciLength packet) := by
  intro h
  have heven := h (Mem.ofList []) (dataFrame 4 0) (.inr (by decide))
  rw [spiReadPacket_clocked] at heven
  exact absurd heven (by decide)

end SpiderL3S
