import SpiderL3S.Tx.Bounds

/- Which calls put only their own bytes on the wire. Two runs of one call on
   different contents of `wlan_tx_buffer` are compared: what is clocked out from
   the HCI type byte to the last argument byte must be the same, and the declared
   length must cover the stored arguments and nothing else. Both come down to
   one equation between the number of bytes stored and the number declared. -/
namespace SpiderL3S

/-- The bytes sent from the HCI type byte to the last argument byte. -/
def Outcome.sent : Outcome → List UInt8
  | frame f => if f.Overrun then [] else f.hci
  | _ => []

/-- The stores of the call are the headers and the declared arguments. -/
def SpiFrame.Exact (f : SpiFrame) : Prop :=
  ∀ i, i ∈ f.stored.written ↔ i < spiHeaderSize + f.usLength.toNat

/-- No stale byte is sent: two runs on different buffers send the same, and a
frame that is sent declares as many argument bytes as the call stored. -/
def Command.NoStale (c : Command) : Prop :=
  ∀ tx tx', TxOpen tx → TxOpen tx' →
    (c.build tx).sent = (c.build tx').sent ∧
      ∀ f, c.build tx = .frame f → ¬ f.Overrun → f.Exact

/-- The packet is sent: its copying loops end, and an argument byte that is
stored over the magic number is that number. -/
def Packet.Sent (r : Packet) : Prop :=
  r.Ends ∧ r.args.getD (205 - r.header.length) cc3000BufferMagicNumber = cc3000BufferMagicNumber

/-- As many argument bytes are stored as declared. -/
def Packet.Exact (r : Packet) : Prop :=
  r.args.length = r.declared.toNat ∧ r.declared.toNat + r.header.length < 65536

/-! One packet. -/

theorem Packet.overrun_iff (r : Packet) (tx : Mem) (htx : TxOpen tx) :
    ¬ (r.toFrame tx).Overrun ↔
      r.args.getD (205 - r.header.length) cc3000BufferMagicNumber = cc3000BufferMagicNumber := by
  rw [SpiFrame.Overrun, not_not, r.toFrame_magic tx, htx]

theorem Packet.exact_iff (r : Packet) (tx : Mem) : (r.toFrame tx).Exact ↔ r.Exact := by
  have hle := r.header_le
  have hdata : hciDataHeaderSize = 5 := rfl
  have hlt := r.declared.toNat_lt
  have hend : (r.toFrame tx).Exact ↔
      r.header.length + r.args.length = (r.declared.toNat + r.header.length) % 65536 := by
    simp only [SpiFrame.Exact, r.mem_written tx, r.toFrame_usLength tx]
    constructor
    · intro hall
      have hlo := hall (spiHeaderSize + (r.header.length + r.args.length))
      have hhi := hall (spiHeaderSize + (r.declared.toNat + r.header.length) % 65536)
      omega
    · intro heq i
      omega
  rw [hend, Packet.Exact]
  omega

/-- Header and arguments are the same in every buffer. -/
theorem Packet.stored_eq (r : Packet) (tx tx' : Mem) {i : Nat} (hlo : spiHeaderSize ≤ i)
    (hhi : i < spiHeaderSize + r.header.length + r.args.length) :
    (tx.store (spiHeaderSize + r.header.length) r.args).store spiHeaderSize r.header i =
      (tx'.store (spiHeaderSize + r.header.length) r.args).store spiHeaderSize r.header i := by
  by_cases hin : i < spiHeaderSize + r.header.length
  · rw [Mem.store_in _ hlo hin, Mem.store_in _ hlo hin]
  · have hout : ¬ (spiHeaderSize ≤ i ∧ i < spiHeaderSize + r.header.length) := fun h => hin h.2
    rw [Mem.store_out _ hout, Mem.store_out _ hout, Mem.store_in _ (by omega) hhi,
      Mem.store_in _ (by omega) hhi]

/-- A packet that declares what it stores sends the same bytes from any buffer. -/
theorem Packet.hci_eq (r : Packet) (h : r.Exact) (tx tx' : Mem) :
    (r.toFrame tx).hci = (r.toFrame tx').hci := by
  have hle := r.header_le
  have hdata : hciDataHeaderSize = 5 := rfl
  have hsize : spiHeaderSize = 5 := rfl
  have hexact := h.1
  have hshort := h.2
  have hlength := r.toFrame_usLength tx
  have hsame : (r.toFrame tx').usLength = (r.toFrame tx).usLength := rfl
  have hstart : (r.toFrame tx).pUserBuffer = 0 := rfl
  have hstart' : (r.toFrame tx').pUserBuffer = 0 := rfl
  simp only [SpiFrame.hci, SpiFrame.size, hsame, hstart, hstart', Nat.zero_add]
  apply Mem.slice_congr
  intro i hi
  rw [r.toFrame_mem tx (by omega), r.toFrame_mem tx' (by omega)]
  exact r.stored_eq tx tx' (by omega) (by omega)

/-- A packet that declares more than it stores sends what the buffer held
behind its arguments. -/
theorem Packet.hci_stale (r : Packet) (tx : Mem) (h : r.args.length ≤ r.declared.toNat)
    (hshort : r.declared.toNat + r.header.length < 65530) :
    (r.toFrame tx).hci = r.header ++ r.args ++
      tx.slice (spiHeaderSize + r.header.length + r.args.length)
        (r.declared.toNat - r.args.length) := by
  have hsize : spiHeaderSize = 5 := rfl
  have hlength := r.toFrame_usLength tx
  have hstart : (r.toFrame tx).pUserBuffer = 0 := rfl
  have hcount : (r.toFrame tx).usLength.toNat =
      r.header.length + r.args.length + (r.declared.toNat - r.args.length) := by omega
  have hbytes : (r.toFrame tx).stored.mem.slice spiHeaderSize
        (r.header.length + r.args.length + (r.declared.toNat - r.args.length)) =
      ((tx.store (spiHeaderSize + r.header.length) r.args).store spiHeaderSize r.header).slice
        spiHeaderSize (r.header.length + r.args.length + (r.declared.toNat - r.args.length)) :=
    Mem.slice_congr fun i _ => r.toFrame_mem tx (by omega)
  rw [SpiFrame.hci_eq _ (by omega), hcount, hstart, Nat.zero_add, hbytes, ← Mem.slice_append,
    ← Mem.slice_append, Mem.slice_store]
  congr 1
  · congr 1
    exact (Mem.slice_congr fun i _ => Mem.store_out _ (by omega)).trans (Mem.slice_store _ _ _)
  · rw [← Nat.add_assoc]
    apply Mem.slice_congr
    intro i _
    rw [Mem.store_out _ (by omega), Mem.store_out _ (by omega)]

theorem Packet.noStale_iff_exact (r : Packet) :
    (∀ tx tx', TxOpen tx → TxOpen tx' → (r.run tx).sent = (r.run tx').sent ∧
      ∀ f, r.run tx = .frame f → ¬ f.Overrun → f.Exact) ↔ (r.Sent → r.Exact) := by
  constructor
  · intro hall ⟨hends, hmagic⟩
    have htx : TxOpen (fun _ => cc3000BufferMagicNumber) := rfl
    obtain ⟨-, hframe⟩ := hall _ _ htx htx
    exact (r.exact_iff _).mp (hframe _ (r.run_ends hends _) ((r.overrun_iff _ htx).mpr hmagic))
  · intro h tx tx' htx htx'
    by_cases hends : r.Ends
    · rw [r.run_ends hends tx, r.run_ends hends tx']
      simp only [Outcome.sent, Outcome.frame.injEq]
      by_cases hmagic :
          r.args.getD (205 - r.header.length) cc3000BufferMagicNumber = cc3000BufferMagicNumber
      · have hexact := h ⟨hends, hmagic⟩
        rw [if_neg ((r.overrun_iff tx htx).mpr hmagic),
          if_neg ((r.overrun_iff tx' htx').mpr hmagic)]
        refine ⟨r.hci_eq hexact tx tx', ?_⟩
        intro f hf _
        subst hf
        exact (r.exact_iff tx).mpr hexact
      · have hover := not_not.mp (mt (r.overrun_iff tx htx).mp hmagic)
        have hover' := not_not.mp (mt (r.overrun_iff tx' htx').mp hmagic)
        rw [if_pos hover, if_pos hover']
        refine ⟨rfl, ?_⟩
        intro f hf hpass
        subst hf
        exact absurd hover hpass
    · obtain ⟨bs, hrun, -⟩ := r.run_stuck hends tx
      obtain ⟨bs', hrun', -⟩ := r.run_stuck hends tx'
      rw [hrun, hrun']
      exact ⟨rfl, fun _ => Outcome.noConfusion⟩

/-! The condition of each command function. -/

/-- The call hands its frame to the SPI: it does not return early, its copying
loops end, and an argument byte stored over the magic number is that number. -/
def Command.Sent (c : Command) : Prop := ∃ r, c.packet = some r ∧ r.Sent

/-- The arguments for which a call declares the length it stores. A function
that is not named does so always. -/
def Command.Exact : Command → Prop
  | wlanConnect _ _ ssidLen _ key keyLen =>
    28 + ssidLen.toInt.toNat + wlanConnectKeyStored key keyLen ≤ 255 ∧
      256 ∣ (ssidLen.toInt - ssidLen.toInt.toNat) +
        (keyLen.toInt - wlanConnectKeyStored key keyLen)
  | wlanAddProfile ulSecType _ ulSsidLen _ _ ulTxKeyLen _ _ _ ulPassPhraseLen argLen =>
    match ulSecType.toNat with
    | 0 => 24 + ulSsidLen.toNat ≤ 255
    | 1 => 36 + ulSsidLen.toNat + 4 * ulTxKeyLen.toNat ≤ 255
    | 2 | 3 => 44 + ulSsidLen.toNat + ulPassPhraseLen.toNat ≤ 255
    | _ => argLen.toNat % 256 = 4
  | select _ _ _ _ timeout => timeout ≠ none
  | setsockopt _ _ _ _ optlen => 20 + optlen.toNat ≤ 255
  | send _ _ _ len _ => len.toInt ≤ 65514 ∧ 65536 ∣ len.toInt - len.toInt.toNat
  | sendto _ _ _ len _ _ tolen =>
    len.toInt.toNat + tolen.toInt32.toInt.toNat ≤ 65506 ∧
      65536 ∣ (len.toInt - len.toInt.toNat) +
        (tolen.toInt32.toInt - tolen.toInt32.toInt.toNat)
  | netappTimeoutValues _ _ _ _ => False
  | nvmemWrite _ ulLength _ _ => ulLength.toNat % 65536 ≤ 65514
  | _ => True

theorem noStale_packet (c : Command) (r : Packet) (h : c.packet = some r) :
    c.NoStale ↔ (c.Sent → r.Exact) := by
  have hrun : ∀ tx, c.build tx = r.run tx := by
    intro tx
    rw [build_eq_packet, h]
    rfl
  have hsent : c.Sent ↔ r.Sent := by
    simp only [Command.Sent, h, Option.some.injEq, exists_eq_left']
  simp only [Command.NoStale, hrun, hsent]
  exact r.noStale_iff_exact

theorem noStale_returned (c : Command) (h : c.packet = none) : c.NoStale := by
  intro tx tx' _ _
  rw [build_eq_packet, build_eq_packet, h]
  exact ⟨rfl, fun _ => Outcome.noConfusion⟩

theorem not_sent_returned (c : Command) (h : c.packet = none) : ¬ c.Sent := by
  intro ⟨r, hr, _⟩
  rw [h] at hr
  cases hr

/-- A call that returns without a frame meets any condition on what it sends. -/
theorem noStale_iff_returned (c : Command) (h : c.packet = none) {p : Prop} :
    c.NoStale ↔ (c.Sent → p) :=
  iff_of_true (noStale_returned c h) fun hsent => absurd hsent (not_sent_returned c h)

theorem noStale_command (c : Command) {op : UInt16} {ps : List Piece} {n : UInt8}
    (h : c.packet = some (.command op ps n)) {p : Prop} (hp : piecesLength ps = n.toNat ↔ p) :
    c.NoStale ↔ (c.Sent → p) := by
  have hn := n.toNat_lt
  have hargs : (Packet.command op ps n).args.length = piecesLength ps := rfl
  have hheader : (Packet.command op ps n).header.length = 4 := rfl
  have hdeclared : (Packet.command op ps n).declared.toNat = n.toNat := UInt8.toNat_toUInt16 n
  have hexact : (Packet.command op ps n).Exact ↔ p := by
    rw [Packet.Exact, hargs, hheader, hdeclared, ← hp]
    omega
  rw [noStale_packet c _ h, hexact]

theorem noStale_data (c : Command) {op a : UInt8} {ps : List Piece} {n : UInt16}
    (h : c.packet = some (.data op ps a n)) {p : Prop}
    (hp : (piecesLength ps = n.toNat ∧ n.toNat + 5 < 65536) ↔ p) :
    c.NoStale ↔ (c.Sent → p) := by
  rw [noStale_packet c _ h]
  exact imp_congr_right fun _ => hp

theorem wlanAddProfile_noStale (a : UInt32) (b : Mem) (c : UInt32) (d : Option Mem)
    (e f g h : UInt32) (i : Mem) (j : UInt32) (k : UInt16) :
    (Command.wlanAddProfile a b c d e f g h i j k).NoStale ↔
      ((Command.wlanAddProfile a b c d e f g h i j k).Sent →
        (Command.wlanAddProfile a b c d e f g h i j k).Exact) := by
  have hc := c.toNat_lt
  have hf := f.toNat_lt
  have hj := j.toNat_lt
  apply noStale_command _ rfl
  simp only [wlanAddProfilePieces, Command.Exact]
  generalize a.toNat = n
  rcases n with _ | _ | _ | _ | n <;>
    simp only [piecesLength_uint32, piecesLength_uint16, piecesLength_array, piecesLength_nil,
      UInt16.toNat_toUInt8, UInt32.toNat_toUInt16, UInt32.toNat_add, UInt32.toNat_mul,
      UInt32.reduceToNat, Nat.reducePow, ethAlen, Int.toNat_natCast] <;>
    omega

theorem send_noStale (res : Int16) (sd : Int32) (buf : Mem) (len flags : Int32) :
    (Command.send res sd buf len flags).NoStale ↔
      ((Command.send res sd buf len flags).Sent → (Command.send res sd buf len flags).Exact) := by
  have hlen := int32_toInt len
  have hlt := len.toUInt32.toNat_lt
  by_cases h : 0 ≠ res
  · have hpacket : (Command.send res sd buf len flags).packet = none := by
      simp only [Command.packet, if_pos h]
    exact noStale_iff_returned _ hpacket
  · apply noStale_data _ (by simp only [Command.packet, if_neg h]; rfl)
    show _ ↔ len.toInt ≤ 65514 ∧ 65536 ∣ len.toInt - len.toInt.toNat
    simp only [piecesLength_uint32, piecesLength_array, piecesLength_nil,
      UInt16.toNat_add, UInt32.toNat_toUInt16, UInt16.reduceToNat, Nat.reducePow]
    split at hlen <;> omega

theorem sendto_noStale (res : Int16) (sd : Int32) (buf : Mem) (len flags : Int32) (dest : Mem)
    (tolen : UInt32) :
    (Command.sendto res sd buf len flags dest tolen).NoStale ↔
      ((Command.sendto res sd buf len flags dest tolen).Sent →
        (Command.sendto res sd buf len flags dest tolen).Exact) := by
  have hlen := int32_toInt len
  have hlt := len.toUInt32.toNat_lt
  have htolen := int32_toInt tolen.toInt32
  have htlt := tolen.toNat_lt
  rw [UInt32.toUInt32_toInt32] at htolen
  by_cases h : 0 ≠ res
  · have hpacket : (Command.sendto res sd buf len flags dest tolen).packet = none := by
      simp only [Command.packet, if_pos h]
    exact noStale_iff_returned _ hpacket
  · apply noStale_data _ (by simp only [Command.packet, if_neg h]; rfl)
    show _ ↔ len.toInt.toNat + tolen.toInt32.toInt.toNat ≤ 65506 ∧
      65536 ∣ (len.toInt - len.toInt.toNat) +
        (tolen.toInt32.toInt - tolen.toInt32.toInt.toNat)
    simp only [piecesLength_uint32, piecesLength_array, piecesLength_nil,
      UInt16.toNat_add, UInt32.toNat_toUInt16, UInt16.reduceToNat, Nat.reducePow]
    split at hlen <;> split at htolen <;> omega

theorem nvmemWrite_noStale (ulFileId ulLength ulEntryOffset : UInt32) (buff : Mem) (c : Command)
    (hc : c.packet = some (nvmemWritePacket ulFileId ulLength ulEntryOffset buff)) :
    c.NoStale ↔ (c.Sent → ulLength.toNat % 65536 ≤ 65514) := by
  apply noStale_data c hc
  simp only [piecesLength_uint32, piecesLength_bytes, piecesLength_nil, Mem.slice_length,
    UInt16.toNat_add, UInt32.toNat_toUInt16, UInt16.reduceToNat, Nat.reducePow]
  omega

theorem wlanConnect_noStale (ulSecType : UInt32) (ssid : Mem) (ssidLen : Int32)
    (bssid key : Option Mem) (keyLen : Int32) :
    (Command.wlanConnect ulSecType ssid ssidLen bssid key keyLen).NoStale ↔
      ((Command.wlanConnect ulSecType ssid ssidLen bssid key keyLen).Sent →
        (Command.wlanConnect ulSecType ssid ssidLen bssid key keyLen).Exact) := by
  have hd := wlanConnect_declared ssidLen keyLen
  apply noStale_command _ rfl
  show _ ↔ 28 + ssidLen.toInt.toNat + wlanConnectKeyStored key keyLen ≤ 255 ∧
    256 ∣ (ssidLen.toInt - ssidLen.toInt.toNat) +
      (keyLen.toInt - wlanConnectKeyStored key keyLen)
  simp only [piecesLength_append, wlanConnectKey_length, piecesLength_uint32,
    piecesLength_uint16, piecesLength_array, piecesLength_nil, ethAlen]
  omega

theorem setsockopt_noStale (sd level optname : Int32) (optval : Mem) (optlen : UInt32) :
    (Command.setsockopt sd level optname optval optlen).NoStale ↔
      ((Command.setsockopt sd level optname optval optlen).Sent →
        (Command.setsockopt sd level optname optval optlen).Exact) := by
  have ho := optlen.toNat_lt
  apply noStale_command _ rfl
  show _ ↔ 20 + optlen.toNat ≤ 255
  simp only [piecesLength_uint32, piecesLength_array, piecesLength_nil,
    UInt32.toNat_toUInt8, UInt32.toNat_add, UInt32.reduceToNat, Nat.reducePow,
    Int.toNat_natCast]
  omega

/-- A name of up to 230 characters: the length is declared in one byte. -/
theorem gethostbyname_noStale (hostname : Mem) (usNameLen : UInt16) :
    (Command.gethostbyname hostname usNameLen).NoStale ↔
      ((Command.gethostbyname hostname usNameLen).Sent → True) := by
  by_cases h : usNameLen > hostnameMaxLength
  · have hpacket : (Command.gethostbyname hostname usNameLen).packet = none := by
      simp only [Command.packet, if_pos h]
    exact noStale_iff_returned _ hpacket
  · have hn : ¬ 230 < usNameLen.toNat := fun h' => h (UInt16.lt_iff_toNat_lt.mpr h')
    apply noStale_command _ (by simp only [Command.packet, if_neg h]; rfl)
    refine iff_of_true ?_ trivial
    simp only [piecesLength_uint32, piecesLength_array, piecesLength_nil,
      UInt16.toNat_toUInt8, UInt16.toNat_sub, UInt16.toNat_add, UInt16.reduceToNat,
      Nat.reducePow, Int.toNat_natCast]
    omega

theorem mdnsAdvertiser_noStale (mdnsEnabled : UInt16) (name : Mem) (length : UInt16) :
    (Command.mdnsAdvertiser mdnsEnabled name length).NoStale ↔
      ((Command.mdnsAdvertiser mdnsEnabled name length).Sent → True) := by
  by_cases h : length > mdnsDeviceServiceMaxLength
  · have hpacket : (Command.mdnsAdvertiser mdnsEnabled name length).packet = none := by
      simp only [Command.packet, if_pos h]
    exact noStale_iff_returned _ hpacket
  · have hn : ¬ 32 < length.toNat := fun h' => h (UInt16.lt_iff_toNat_lt.mpr h')
    apply noStale_command _ (by simp only [Command.packet, if_neg h]; rfl)
    refine iff_of_true ?_ trivial
    simp only [piecesLength_uint32, piecesLength_array, piecesLength_nil,
      UInt16.toNat_toUInt8, UInt16.toNat_add, UInt16.reduceToNat, Nat.reducePow,
      Int.toNat_natCast]
    omega

/-- **Which calls send no stale byte.** A call sends the same bytes from every
buffer, and declares what it stores, exactly when its arguments are those of
`Command.Exact`, or nothing is sent. -/
theorem noStale_iff (c : Command) : c.NoStale ↔ (c.Sent → c.Exact) := by
  cases c with
  | wlanAddProfile a b c d e f g h i j k => exact wlanAddProfile_noStale a b c d e f g h i j k
  | send a b c d e => exact send_noStale a b c d e
  | sendto a b c d e f g => exact sendto_noStale a b c d e f g
  | nvmemWrite a b c d => exact nvmemWrite_noStale a b c d _ rfl
  | nvmemSetMacAddress mac =>
    rw [nvmemWrite_noStale nvmemMacFileid macAddrLen 0 mac _ rfl]
    exact imp_congr_right fun _ => iff_of_true (by decide) trivial
  | wlanConnect a b c d e f => exact wlanConnect_noStale a b c d e f
  | setsockopt a b c d e => exact setsockopt_noStale a b c d e
  | gethostbyname hostname n => exact gethostbyname_noStale hostname n
  | mdnsAdvertiser mdnsEnabled name n => exact mdnsAdvertiser_noStale mdnsEnabled name n
  | wlanSetEventMask ulMask =>
    cases h : (Command.wlanSetEventMask ulMask).packet with
    | none => exact noStale_iff_returned _ h
    | some r =>
      obtain ⟨m, rfl⟩ := wlanSetEventMask_packet h
      exact noStale_command _ h (iff_of_true rfl trivial)
  | wlanSmartConfigSetPrefix p =>
    cases p with
    | none => exact noStale_iff_returned _ rfl
    | some p => exact noStale_command _ rfl (iff_of_true (piecesLength_array _ _ _) trivial)
  | select nfds readsds writesds exceptsds timeout =>
    -- 44 bytes are declared, the timeout is the last 8 of them
    apply noStale_command _ rfl
    cases timeout with
    | none =>
      exact iff_of_false (fun h => absurd (show 36 = 44 from h) (by decide)) (fun h => h rfl)
    | some t => exact iff_of_true rfl (Option.some_ne_none t)
  | netappTimeoutValues a b c d =>
    -- four words are stored, five are declared
    apply noStale_command _ rfl
    exact iff_of_false (fun h => absurd (show 16 = 20 from h) (by decide)) id
  | _ =>
    -- the other commands store and declare a fixed number of bytes
    apply noStale_command _ rfl
    simp only [Command.Exact, piecesLength_uint8, piecesLength_uint32, piecesLength_array,
      piecesLength_nil]
    decide

/-- What `netapp_timeout_values` sends behind its 20 own bytes: the four bytes
that earlier commands left at offset 25. -/
theorem netappTimeoutValues_sent (a b c d : UInt32) (tx : Mem) (htx : TxOpen tx) :
    ((Command.netappTimeoutValues a b c d).build tx).sent =
      commandHeader hciNetappSetTimers 20 ++ (uint32Bytes (minTimerSet a) ++
        (uint32Bytes (minTimerSet b) ++ (uint32Bytes (minTimerSet c) ++
          (uint32Bytes (minTimerSet d) ++ [])))) ++ tx.slice 25 4 := by
  let r := Packet.command hciNetappSetTimers [.uint32 (minTimerSet a), .uint32 (minTimerSet b),
    .uint32 (minTimerSet c), .uint32 (minTimerSet d)] 20
  have hends : r.Ends := by simp [r, Packet.Ends, Packet.command, Piece.uint32, Piece.Ends]
  have hargs : r.args.length = 16 := rfl
  have hdeclared : r.declared.toNat = 20 := rfl
  have hheader : r.header.length = 4 := rfl
  have hpass : ¬ (r.toFrame tx).Overrun := (r.overrun_iff tx htx).mpr rfl
  have hrun : (Command.netappTimeoutValues a b c d).build tx = .frame (r.toFrame tx) := by
    rw [build_eq_packet]
    exact r.run_ends hends tx
  rw [hrun, Outcome.sent, if_neg hpass, r.hci_stale tx (by omega) (by omega)]
  rfl

/-- `netapp_timeout_values` stores 16 bytes and declares 20: two buffers that
differ in byte 25 send different bytes. -/
theorem not_noStale : ¬ ∀ c : Command, c.NoStale := by
  intro h
  let tx : Mem := fun _ => 0xDE
  let tx' : Mem := fun i => if i = 25 then 0 else 0xDE
  have htx : TxOpen tx := rfl
  have htx' : TxOpen tx' := rfl
  have hsame := (h (.netappTimeoutValues 0 0 0 0) tx tx' htx htx').1
  rw [netappTimeoutValues_sent _ _ _ _ _ htx, netappTimeoutValues_sent _ _ _ _ _ htx'] at hsame
  exact absurd (List.append_cancel_left hsame) (by decide)

end SpiderL3S
