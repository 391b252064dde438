import SpiderL3S.Tx.Packets

/- Which calls keep the transmit buffer whole. A packet's frame touches the
   offsets below its end and clocks out the offsets below its size, so it stays
   under the magic number exactly when two lengths do: that of the arguments it
   stores, and the one it declares, which the SPI layer counts in 16 bits. For
   each command function the two become a bound on its own lengths. -/
namespace SpiderL3S

/-- The frame is not caught in the overrun loop of `SpiWrite`. -/
def Outcome.Passes : Outcome → Prop
  | frame f => ¬ f.Overrun
  | _ => True

/-- Every offset stored to and every offset clocked out is below the magic
number's, and `SpiWrite` finds the magic number. -/
def Outcome.Inside (o : Outcome) : Prop :=
  (∀ i ∈ o.written, i < cc3000TxBufferSize - 1) ∧
    (∀ i ∈ o.clocked, i < cc3000TxBufferSize - 1) ∧ o.Passes

/-- `SpiOpen` has put the magic number behind the buffer. -/
def TxOpen (tx : Mem) : Prop := tx (cc3000TxBufferSize - 1) = cc3000BufferMagicNumber

/-- The call stays inside the buffer whatever the buffer held before. -/
def Command.Inside (c : Command) : Prop := ∀ tx, TxOpen tx → (c.build tx).Inside

/-- A length in bytes that `SpiWrite` clocks out below the magic number. From
65530 on the sum with header and pad byte wraps around to almost nothing. -/
def SpiLengthFits (usLength : Nat) : Prop := usLength ≤ 205 ∨ 65530 ≤ usLength

/-- The stored arguments end below the magic number, and so does the declared
length. -/
def Packet.Fits (r : Packet) : Prop :=
  r.header.length + r.args.length ≤ 205 ∧
    SpiLengthFits ((r.declared.toNat + r.header.length) % 65536)

/-! One packet. -/

theorem clocked_fits_iff (f : SpiFrame) (hstart : f.pUserBuffer = 0) (h : ¬ f.Overrun) :
    (∀ i ∈ f.clocked, i < cc3000TxBufferSize - 1) ↔ SpiLengthFits f.usLength.toNat := by
  have hlt := f.usLength.toNat_lt
  have hbuf : cc3000TxBufferSize - 1 = 210 := rfl
  have hsize : (∀ i ∈ f.clocked, i < cc3000TxBufferSize - 1) ↔ f.size.toNat ≤ 210 := by
    simp only [SpiFrame.clocked, if_neg h, hstart, List.mem_range'_1, hbuf]
    constructor
    · intro hall
      by_contra hbig
      have := hall 210 ⟨Nat.zero_le _, by omega⟩
      omega
    · intro hle i hi
      omega
  rw [hsize, f.size_toNat, SpiLengthFits]
  omega

theorem Packet.inside_of_ends (r : Packet) (h : r.Ends) (tx : Mem) (htx : TxOpen tx) :
    (r.run tx).Inside ↔ r.Fits := by
  have hle := r.header_le
  have hsize : spiHeaderSize = 5 := rfl
  have hdata : hciDataHeaderSize = 5 := rfl
  have hbuf : cc3000TxBufferSize - 1 = 210 := rfl
  have hwritten : (∀ i ∈ (r.toFrame tx).stored.written, i < cc3000TxBufferSize - 1) ↔
      r.header.length + r.args.length ≤ 205 := by
    simp only [r.mem_written tx, hbuf]
    constructor
    · intro hall
      by_contra hbig
      have := hall 210 (by omega)
      omega
    · intro hfits i hi
      omega
  rw [r.run_ends h tx]
  simp only [Outcome.Inside, Outcome.written, Outcome.clocked, Outcome.Passes, hwritten]
  have hpass : r.header.length + r.args.length ≤ 205 → ¬ (r.toFrame tx).Overrun := by
    intro hfits
    rw [SpiFrame.Overrun, r.toFrame_magic tx, not_not, List.getD_eq_getElem?_getD,
      List.getElem?_eq_none (by omega), Option.getD_none]
    exact htx
  constructor
  · rintro ⟨hw, hc, hp⟩
    refine ⟨hw, ?_⟩
    rw [clocked_fits_iff _ rfl hp, r.toFrame_usLength tx] at hc
    exact hc
  · rintro ⟨hw, hc⟩
    refine ⟨hw, ?_, hpass hw⟩
    rw [clocked_fits_iff _ rfl (hpass hw), r.toFrame_usLength tx]
    exact hc

theorem not_ends_length {ps : List Piece} (h : ¬ ∀ p ∈ ps, p.Ends) :
    65536 ≤ (ps.flatMap Piece.content).length := by
  simp only [not_forall] at h
  obtain ⟨p, hp, hends⟩ := h
  have hlen : 65536 ≤ p.content.length := by
    cases p with
    | bytes bs => exact absurd trivial hends
    | array a l =>
      have hl : ¬ l < 65536 := hends
      rw [Piece.content, Mem.slice_length]
      omega
  calc 65536 ≤ p.content.length := hlen
    _ ≤ (ps.map Piece.content).flatten.length :=
      (List.sublist_flatten_of_mem (List.mem_map_of_mem hp)).length_le
    _ = (ps.flatMap Piece.content).length := by rw [← List.flatMap_def]

/-- A packet keeps the buffer whole exactly when it fits. -/
theorem Packet.inside_iff (r : Packet) (tx : Mem) (htx : TxOpen tx) :
    (r.run tx).Inside ↔ r.Fits := by
  by_cases h : r.Ends
  · exact r.inside_of_ends h tx htx
  · obtain ⟨bs, hrun, hlen⟩ := r.run_stuck h tx
    have hle := r.header_le
    have hdata : hciDataHeaderSize = 5 := rfl
    have hsize : spiHeaderSize = 5 := rfl
    constructor
    · intro hin
      rw [hrun] at hin
      have hmem : 210 ∈ ((txArgs r.header.length tx).put bs).written := by
        simp only [Stream.put_written, txArgs, List.nil_append, List.mem_range'_1]
        omega
      exact absurd (hin.1 210 hmem) (Nat.lt_irrefl _)
    · intro hfits
      have := not_ends_length h
      have hargs : r.args.length = (r.pieces.flatMap Piece.content).length := rfl
      have := hfits.1
      omega

/-! The bound of each command function. -/

/-- The number of key bytes `wlan_connect` stores. -/
def wlanConnectKeyStored (key : Option Mem) (keyLen : Int32) : Nat :=
  if key.isSome then keyLen.toInt.toNat else 0

/-- The lengths a call may be given. A function that is not named stores a fixed
number of bytes, or refuses longer ones itself. -/
def Command.Fits : Command → Prop
  | wlanConnect _ _ ssidLen _ key keyLen =>
    28 + ssidLen.toInt.toNat + wlanConnectKeyStored key keyLen ≤ 201 ∧
      (28 + ssidLen.toInt + keyLen.toInt) % 256 ≤ 201
  | wlanAddProfile ulSecType _ ulSsidLen _ _ ulTxKeyLen _ _ _ ulPassPhraseLen argLen =>
    match ulSecType.toNat with
    | 0 => 24 + ulSsidLen.toNat ≤ 201
    | 1 => 36 + ulSsidLen.toNat + 4 * ulTxKeyLen.toNat ≤ 201
    | 2 | 3 => 44 + ulSsidLen.toNat + ulPassPhraseLen.toNat ≤ 201
    | _ => argLen.toNat % 256 ≤ 201
  | gethostbyname _ usNameLen => usNameLen.toNat ≤ 193 ∨ 230 < usNameLen.toNat
  | setsockopt _ _ _ _ optlen => 20 + optlen.toNat ≤ 201
  | send res _ _ len _ =>
    res ≠ 0 ∨ (len.toInt ≤ 184 ∧ (len.toInt % 65536 ≤ 184 ∨ 65509 ≤ len.toInt % 65536))
  | sendto res _ _ len _ _ tolen =>
    res ≠ 0 ∨ (24 + len.toInt.toNat + tolen.toInt32.toInt.toNat ≤ 200 ∧
      ((len.toInt + tolen.toNat) % 65536 ≤ 176 ∨ 65501 ≤ (len.toInt + tolen.toNat) % 65536))
  | nvmemWrite _ ulLength _ _ => ulLength.toNat % 65536 ≤ 184
  | _ => True

theorem inside_iff_packet (c : Command) (r : Packet) (h : c.packet = some r) :
    c.Inside ↔ r.Fits := by
  have hrun : ∀ tx, c.build tx = r.run tx := by
    intro tx
    rw [build_eq_packet, h]
    rfl
  simp only [Command.Inside, hrun]
  constructor
  · intro hall
    exact (r.inside_iff (fun _ => cc3000BufferMagicNumber) rfl).mp (hall _ rfl)
  · intro hfits tx htx
    exact (r.inside_iff tx htx).mpr hfits

theorem inside_returned (c : Command) (h : c.packet = none) : c.Inside := by
  intro tx _
  rw [build_eq_packet, h]
  exact ⟨fun _ hi => (List.not_mem_nil hi).elim, fun _ hi => (List.not_mem_nil hi).elim, trivial⟩

/-- The number of bytes some pieces store. -/
def piecesLength (ps : List Piece) : Nat := (ps.flatMap Piece.content).length

@[simp] theorem piecesLength_nil : piecesLength [] = 0 := rfl

theorem piecesLength_cons (p : Piece) (ps : List Piece) :
    piecesLength (p :: ps) = p.content.length + piecesLength ps := by
  rw [piecesLength, List.flatMap_cons, List.length_append]
  rfl

@[simp] theorem piecesLength_append (ps qs : List Piece) :
    piecesLength (ps ++ qs) = piecesLength ps + piecesLength qs := by
  simp only [piecesLength, List.flatMap_append, List.length_append]

@[simp] theorem piecesLength_uint8 (v : UInt8) (ps : List Piece) :
    piecesLength (.uint8 v :: ps) = 1 + piecesLength ps := piecesLength_cons _ _
@[simp] theorem piecesLength_uint16 (v : UInt16) (ps : List Piece) :
    piecesLength (.uint16 v :: ps) = 2 + piecesLength ps := piecesLength_cons _ _
@[simp] theorem piecesLength_uint32 (v : UInt32) (ps : List Piece) :
    piecesLength (.uint32 v :: ps) = 4 + piecesLength ps := piecesLength_cons _ _
@[simp] theorem piecesLength_bytes (bs : List UInt8) (ps : List Piece) :
    piecesLength (.bytes bs :: ps) = bs.length + piecesLength ps := piecesLength_cons _ _
@[simp] theorem piecesLength_array (a : Mem) (l : Int) (ps : List Piece) :
    piecesLength (.array a l :: ps) = l.toNat + piecesLength ps := by
  rw [piecesLength_cons, Piece.content, Mem.slice_length]

theorem command_fits (op : UInt16) (ps : List Piece) (n : UInt8) :
    (Packet.command op ps n).Fits ↔ piecesLength ps ≤ 201 ∧ n.toNat ≤ 201 := by
  have hn := n.toNat_lt
  have hargs : (Packet.command op ps n).args.length = piecesLength ps := rfl
  have hheader : (Packet.command op ps n).header.length = 4 := rfl
  have hdeclared : (Packet.command op ps n).declared.toNat = n.toNat := UInt8.toNat_toUInt16 n
  rw [Packet.Fits, SpiLengthFits, hargs, hheader, hdeclared]
  omega

theorem data_fits (op a : UInt8) (ps : List Piece) (n : UInt16) :
    (Packet.data op ps a n).Fits ↔
      piecesLength ps ≤ 200 ∧ SpiLengthFits ((n.toNat + 5) % 65536) := by
  have hargs : (Packet.data op ps a n).args.length = piecesLength ps := rfl
  have hheader : (Packet.data op ps a n).header.length = 5 := rfl
  have hdeclared : (Packet.data op ps a n).declared.toNat = n.toNat := rfl
  rw [Packet.Fits, hargs, hheader, hdeclared]
  constructor <;> intro ⟨h₁, h₂⟩ <;> exact ⟨by omega, h₂⟩

theorem inside_command (c : Command) {op : UInt16} {ps : List Piece} {n : UInt8}
    (h : c.packet = some (.command op ps n)) :
    c.Inside ↔ piecesLength ps ≤ 201 ∧ n.toNat ≤ 201 :=
  (inside_iff_packet c _ h).trans (command_fits op ps n)

theorem inside_data (c : Command) {op a : UInt8} {ps : List Piece} {n : UInt16}
    (h : c.packet = some (.data op ps a n)) :
    c.Inside ↔ piecesLength ps ≤ 200 ∧ SpiLengthFits ((n.toNat + 5) % 65536) :=
  (inside_iff_packet c _ h).trans (data_fits op a ps n)

theorem wlanConnectKey_length (key : Option Mem) (keyLen : Int32) :
    piecesLength (wlanConnectKey key keyLen) = wlanConnectKeyStored key keyLen := by
  unfold wlanConnectKey wlanConnectKeyStored
  by_cases h : keyLen = 0
  · subst h
    cases key <;> rfl
  · rw [if_pos h]
    cases key with
    | none => rfl
    | some k => simp

/-- The lengths `wlan_connect` adds up, in eight bits. -/
theorem wlanConnect_declared (ssidLen keyLen : Int32) :
    ((wlanConnectParamLen + ssidLen + keyLen - 1).toUInt32.toUInt8.toNat : Int) =
      (28 + ssidLen.toInt + keyLen.toInt) % 256 := by
  have hs := int32_toInt ssidLen
  have hk := int32_toInt keyLen
  have hparams : wlanConnectParamLen.toUInt32.toNat = 29 := rfl
  have hone : (Int32.toUInt32 1).toNat = 1 := rfl
  simp only [Int32.toUInt32_sub, Int32.toUInt32_add, UInt32.toNat_toUInt8, UInt32.toNat_sub,
    UInt32.toNat_add, Nat.reducePow]
  split at hs <;> split at hk <;> omega

theorem wlanAddProfile_inside (a : UInt32) (b : Mem) (c : UInt32) (d : Option Mem)
    (e f g h : UInt32) (i : Mem) (j : UInt32) (k : UInt16) :
    (Command.wlanAddProfile a b c d e f g h i j k).Inside ↔
      (Command.wlanAddProfile a b c d e f g h i j k).Fits := by
  have hc := c.toNat_lt
  have hf := f.toNat_lt
  have hj := j.toNat_lt
  rw [inside_command _ rfl]
  simp only [wlanAddProfilePieces, Command.Fits]
  generalize a.toNat = n
  rcases n with _ | _ | _ | _ | n <;>
    simp only [piecesLength_uint32, piecesLength_uint16, piecesLength_array, piecesLength_nil,
      UInt16.toNat_toUInt8, UInt32.toNat_toUInt16, UInt32.toNat_add, UInt32.toNat_mul,
      UInt32.reduceToNat, Nat.reducePow, ethAlen, Int.toNat_natCast] <;>
    omega

theorem send_inside (res : Int16) (sd : Int32) (buf : Mem) (len flags : Int32) :
    (Command.send res sd buf len flags).Inside ↔ (Command.send res sd buf len flags).Fits := by
  have hlen := int32_toInt len
  have hlt := len.toUInt32.toNat_lt
  by_cases h : 0 ≠ res
  · have hpacket : (Command.send res sd buf len flags).packet = none := by
      simp only [Command.packet, if_pos h]
    exact ⟨fun _ => .inl (Ne.symm h), fun _ => inside_returned _ hpacket⟩
  · have hres : ¬ res ≠ 0 := fun h' => h (Ne.symm h')
    rw [inside_data _ (by simp only [Command.packet, if_neg h]; rfl)]
    simp only [Command.Fits, hres, false_or, piecesLength_uint32, piecesLength_array,
      piecesLength_nil, SpiLengthFits, UInt16.toNat_add, UInt32.toNat_toUInt16,
      UInt16.reduceToNat, Nat.reducePow]
    split at hlen <;> omega

theorem sendto_inside (res : Int16) (sd : Int32) (buf : Mem) (len flags : Int32) (dest : Mem)
    (tolen : UInt32) :
    (Command.sendto res sd buf len flags dest tolen).Inside ↔
      (Command.sendto res sd buf len flags dest tolen).Fits := by
  have hlen := int32_toInt len
  have hlt := len.toUInt32.toNat_lt
  have ht := tolen.toNat_lt
  by_cases h : 0 ≠ res
  · have hpacket : (Command.sendto res sd buf len flags dest tolen).packet = none := by
      simp only [Command.packet, if_pos h]
    exact ⟨fun _ => .inl (Ne.symm h), fun _ => inside_returned _ hpacket⟩
  · have hres : ¬ res ≠ 0 := fun h' => h (Ne.symm h')
    rw [inside_data _ (by simp only [Command.packet, if_neg h]; rfl)]
    simp only [Command.Fits, hres, false_or, piecesLength_uint32, piecesLength_array,
      piecesLength_nil, SpiLengthFits, UInt16.toNat_add, UInt32.toNat_toUInt16,
      UInt16.reduceToNat, Nat.reducePow]
    split at hlen <;> omega

theorem nvmemWrite_inside (ulFileId ulLength ulEntryOffset : UInt32) (buff : Mem) (c : Command)
    (hc : c.packet = some (nvmemWritePacket ulFileId ulLength ulEntryOffset buff)) :
    c.Inside ↔ ulLength.toNat % 65536 ≤ 184 := by
  rw [inside_data c hc]
  simp only [piecesLength_uint32, piecesLength_bytes, piecesLength_nil, Mem.slice_length,
    SpiLengthFits, UInt16.toNat_add, UInt32.toNat_toUInt16, UInt16.reduceToNat, Nat.reducePow]
  omega

/-- With a mask that is not swallowed, `wlan_set_event_mask` sends one word. -/
theorem wlanSetEventMask_packet {ulMask : UInt32} {r : Packet}
    (h : (Command.wlanSetEventMask ulMask).packet = some r) :
    ∃ m, r = .command hciCmndEventMask [.uint32 m] 4 := by
  simp only [Command.packet] at h
  split at h
  · split at h
    · cases h
    · exact ⟨_, (Option.some.inj h).symm⟩
  · exact ⟨_, (Option.some.inj h).symm⟩

theorem select_inside (a : Int32) (b c d : Option UInt32) (e : Option (Int32 × Int32)) :
    (Command.select a b c d e).Inside := by
  rw [inside_command _ rfl]
  cases e <;>
    simp only [selectTimeoutPieces, piecesLength_append, piecesLength_uint32, piecesLength_nil] <;>
    decide

theorem wlanConnect_inside (ulSecType : UInt32) (ssid : Mem) (ssidLen : Int32)
    (bssid key : Option Mem) (keyLen : Int32) :
    (Command.wlanConnect ulSecType ssid ssidLen bssid key keyLen).Inside ↔
      (Command.wlanConnect ulSecType ssid ssidLen bssid key keyLen).Fits := by
  have hd := wlanConnect_declared ssidLen keyLen
  rw [inside_command _ rfl]
  simp only [Command.Fits, piecesLength_append, wlanConnectKey_length, piecesLength_uint32,
    piecesLength_uint16, piecesLength_array, piecesLength_nil, ethAlen]
  omega

theorem setsockopt_inside (sd level optname : Int32) (optval : Mem) (optlen : UInt32) :
    (Command.setsockopt sd level optname optval optlen).Inside ↔
      (Command.setsockopt sd level optname optval optlen).Fits := by
  have ho := optlen.toNat_lt
  rw [inside_command _ rfl]
  simp only [Command.Fits, piecesLength_uint32, piecesLength_array, piecesLength_nil,
    UInt32.toNat_toUInt8, UInt32.toNat_add, UInt32.reduceToNat, Nat.reducePow,
    Int.toNat_natCast]
  omega

/-- The check admits 230 characters, the buffer has room for fewer. -/
theorem gethostbyname_inside (hostname : Mem) (usNameLen : UInt16) :
    (Command.gethostbyname hostname usNameLen).Inside ↔
      (Command.gethostbyname hostname usNameLen).Fits := by
  by_cases h : usNameLen > hostnameMaxLength
  · have hn : 230 < usNameLen.toNat := UInt16.lt_iff_toNat_lt.mp h
    have hpacket : (Command.gethostbyname hostname usNameLen).packet = none := by
      simp only [Command.packet, if_pos h]
    exact iff_of_true (inside_returned _ hpacket) (.inr hn)
  · have hn : ¬ 230 < usNameLen.toNat := fun h' => h (UInt16.lt_iff_toNat_lt.mpr h')
    rw [inside_command _ (by simp only [Command.packet, if_neg h]; rfl)]
    simp only [Command.Fits, piecesLength_uint32, piecesLength_array, piecesLength_nil,
      UInt16.toNat_toUInt8, UInt16.toNat_sub, UInt16.toNat_add, UInt16.reduceToNat,
      Nat.reducePow, Int.toNat_natCast]
    omega

theorem mdnsAdvertiser_inside (mdnsEnabled : UInt16) (name : Mem) (length : UInt16) :
    (Command.mdnsAdvertiser mdnsEnabled name length).Inside := by
  by_cases h : length > mdnsDeviceServiceMaxLength
  · exact inside_returned _ (by simp only [Command.packet, if_pos h])
  · have hn : ¬ 32 < length.toNat := fun h' => h (UInt16.lt_iff_toNat_lt.mpr h')
    rw [inside_command _ (by simp only [Command.packet, if_neg h]; rfl)]
    simp only [piecesLength_uint32, piecesLength_array, piecesLength_nil,
      UInt16.toNat_toUInt8, UInt16.toNat_add, UInt16.reduceToNat, Nat.reducePow,
      Int.toNat_natCast]
    omega

theorem wlanSetEventMask_inside (ulMask : UInt32) : (Command.wlanSetEventMask ulMask).Inside := by
  cases h : (Command.wlanSetEventMask ulMask).packet with
  | none => exact inside_returned _ h
  | some r =>
    obtain ⟨m, rfl⟩ := wlanSetEventMask_packet h
    rw [inside_command _ h]
    exact ⟨Nat.le_of_ble_eq_true rfl, Nat.le_of_ble_eq_true rfl⟩

theorem command_inside_iff (c : Command) : c.Inside ↔ c.Fits := by
  cases c with
  | wlanAddProfile a b c d e f g h i j k => exact wlanAddProfile_inside a b c d e f g h i j k
  | send a b c d e => exact send_inside a b c d e
  | sendto a b c d e f g => exact sendto_inside a b c d e f g
  | nvmemWrite a b c d => exact nvmemWrite_inside a b c d _ rfl
  | nvmemSetMacAddress mac =>
    rw [nvmemWrite_inside nvmemMacFileid macAddrLen 0 mac _ rfl]
    exact iff_of_true (by decide) trivial
  | wlanConnect a b c d e f => exact wlanConnect_inside a b c d e f
  | setsockopt a b c d e => exact setsockopt_inside a b c d e
  | gethostbyname hostname n => exact gethostbyname_inside hostname n
  | mdnsAdvertiser a b n => exact iff_of_true (mdnsAdvertiser_inside a b n) trivial
  | wlanSetEventMask ulMask => exact iff_of_true (wlanSetEventMask_inside ulMask) trivial
  | wlanSmartConfigSetPrefix p =>
    refine iff_of_true ?_ trivial
    cases p with
    | none => exact inside_returned _ rfl
    | some p =>
      rw [inside_command _ rfl, piecesLength_array]
      decide
  | select a b c d e => exact iff_of_true (select_inside a b c d e) trivial
  | _ =>
    -- the other commands have a fixed length
    rw [inside_command _ rfl]
    simp only [Command.Fits, piecesLength_uint8, piecesLength_uint32, piecesLength_array,
      piecesLength_nil]
    decide

/-! Patches. -/

/-- `hci_patch_send` stays inside the buffer in all its frames. -/
def PatchInside (ucOpcode : UInt8) (patch : Mem) (usDataLength : UInt16) : Prop :=
  ∀ tx, TxOpen tx → ∀ f ∈ hciPatchSend ucOpcode tx patch usDataLength, (Outcome.frame f).Inside

/-- The stream of the first frame: the header with its lengths, then a portion of
the patch. -/
def patchStream (ucOpcode : UInt8) (tx : Mem) (usLength usFirst usPortion : UInt16)
    (portion : List UInt8) : Stream :=
  let stream := uint8ToStream { ptr := spiHeaderSize, mem := tx, written := [] } hciTypePatch
  let stream := uint8ToStream stream ucOpcode
  let stream := uint16ToStream stream usLength
  let stream := uint16ToStream (stream.poke (uint16Bytes usFirst)) usPortion
  { stream with ptr := spiHeaderSize + hciPatchHeaderSize }.put portion

section
variable (ucOpcode : UInt8) (tx : Mem) (usLength usFirst usPortion : UInt16)
  (portion : List UInt8) (n : UInt16)

/-- It fills the buffer without a gap. -/
theorem patchStream_written (i : Nat) :
    i ∈ (spiWrite 0 (patchStream ucOpcode tx usLength usFirst usPortion portion) n).stored.written ↔
      i < 11 + portion.length := by
  have hsize : spiHeaderSize = 5 := rfl
  have hpatch : hciPatchHeaderSize = 6 := rfl
  obtain ⟨spiHeader, hlen, hstored⟩ := spiWrite_stored 0
    (patchStream ucOpcode tx usLength usFirst usPortion portion) n
  rw [hstored]
  simp only [patchStream, uint8ToStream, uint16ToStream, Stream.put_written, Stream.put_ptr,
    Stream.poke_written, Stream.poke_ptr, List.nil_append, List.mem_append, List.mem_range'_1,
    List.length_singleton, uint16Bytes_length, hlen]
  omega

theorem patchStream_mem {i : Nat} (h : 11 + portion.length ≤ i) :
    (spiWrite 0 (patchStream ucOpcode tx usLength usFirst usPortion portion) n).stored.mem i =
      tx i := by
  have hsize : spiHeaderSize = 5 := rfl
  have hpatch : hciPatchHeaderSize = 6 := rfl
  obtain ⟨spiHeader, hlen, hstored⟩ := spiWrite_stored 0
    (patchStream ucOpcode tx usLength usFirst usPortion portion) n
  -- everything is stored in front of `i`
  have hout : ∀ (m : Mem) {p : Nat} {bs : List UInt8}, p + bs.length ≤ i → m.store p bs i = m i :=
    fun m p bs hle => Mem.store_out m (by omega)
  rw [hstored]
  simp only [patchStream, uint8ToStream, uint16ToStream, Stream.put_mem, Stream.put_ptr,
    Stream.poke_mem, Stream.poke_ptr, List.length_singleton, uint16Bytes_length]
  rw [hout, hout, hout, hout, hout, hout, hout]
  all_goals
    simp only [List.length_singleton, uint16Bytes_length, hlen, hsize, hpatch]
    omega

end

/-- The first frame of a patch: up to 1000 patch bytes behind a header of six. -/
theorem patch_first (ucOpcode : UInt8) (tx patch : Mem) (n : UInt16) :
    ∃ f rest, hciPatchSend ucOpcode tx patch n = f :: rest ∧ f.pUserBuffer = 0 ∧
      (n.toNat ≤ 1000 → rest = [] ∧ f.usLength.toNat = n.toNat + 6) ∧
      (∀ i, i ∈ f.stored.written ↔ i < 11 + min n.toNat 1000) ∧
      (11 + min n.toNat 1000 ≤ 210 → f.stored.mem 210 = tx 210) := by
  unfold hciPatchSend
  by_cases h : n ≤ 1000
  · have hn : n.toNat ≤ 1000 := UInt16.le_iff_toNat_le.mp h
    have hlen : (patch.slice 0 n.toNat).length = min n.toNat 1000 := by
      rw [Mem.slice_length, Nat.min_eq_left hn]
    rw [if_pos h]
    refine ⟨_, _, rfl, rfl, ?_, ?_, ?_⟩
    · intro _
      refine ⟨rfl, ?_⟩
      simp only [spiWrite, UInt16.toNat_add, UInt16.reduceToNat, Nat.reducePow]
      omega
    · intro i
      rw [← hlen]
      exact patchStream_written ucOpcode tx (n + 2) n n (patch.slice 0 n.toNat) (n + 6) i
    · intro hle
      rw [← hlen] at hle
      exact patchStream_mem ucOpcode tx (n + 2) n n (patch.slice 0 n.toNat) (n + 6) hle
  · have hn : ¬ n.toNat ≤ 1000 := fun h' => h (UInt16.le_iff_toNat_le.mpr h')
    have hlen : (patch.slice 0 slPatchPortionSize).length = min n.toNat 1000 := by
      rw [Mem.slice_length, Nat.min_eq_right (Nat.le_of_not_le hn)]
    rw [if_neg h]
    refine ⟨_, _, rfl, rfl, fun h' => absurd h' hn, ?_, fun _ => by omega⟩
    intro i
    rw [← hlen]
    exact patchStream_written ucOpcode tx (n + 2) (n + 2 + n / 1000 * 2) 1000
      (patch.slice 0 slPatchPortionSize) (1000 + 6) i

theorem patch_inside_iff (ucOpcode : UInt8) (patch : Mem) (n : UInt16) :
    PatchInside ucOpcode patch n ↔ n.toNat ≤ 199 := by
  have hbuf : cc3000TxBufferSize - 1 = 210 := rfl
  constructor
  · intro hall
    obtain ⟨f, rest, hsend, -, -, hwritten, -⟩ :=
      patch_first ucOpcode (fun _ => cc3000BufferMagicNumber) patch n
    by_contra hbig
    have hin := hall (fun _ => cc3000BufferMagicNumber) rfl f (hsend ▸ List.mem_cons_self)
    have hmem : 210 ∈ f.stored.written := (hwritten 210).mpr (by omega)
    exact absurd (hin.1 210 hmem) (Nat.lt_irrefl _)
  · intro hle tx htx f hf
    obtain ⟨g, rest, hsend, hstart, hshort, hwritten, hmagic⟩ := patch_first ucOpcode tx patch n
    obtain ⟨hrest, hlength⟩ := hshort (by omega)
    have hfg : f = g := by
      rw [hsend, hrest] at hf
      exact List.mem_singleton.mp hf
    subst hfg
    have hpass : ¬ f.Overrun := by
      rw [SpiFrame.Overrun, not_not, hbuf, hmagic (by omega)]
      exact htx
    refine ⟨?_, ?_, hpass⟩
    · intro i hi
      have := (hwritten i).mp hi
      omega
    · exact (clocked_fits_iff f hstart hpass).mpr (.inl (by omega))

/-! A run of calls. -/

/-- The transmit buffer behind a call. -/
def Outcome.after (tx : Mem) : Outcome → Mem
  | returned => tx
  | stuck stored => stored.mem
  | frame f => f.stored.mem

/-- The outcomes of calls made one after the other. -/
def txRun : List Command → Mem → List Outcome
  | [], _ => []
  | c :: cs, tx => c.build tx :: txRun cs ((c.build tx).after tx)

/-- A call that stays inside leaves the magic number where it was. -/
theorem Outcome.Inside.after {o : Outcome} (h : o.Inside) {tx : Mem} (htx : TxOpen tx)
    (hstuck : ∀ s, o ≠ .stuck s) : TxOpen (o.after tx) := by
  cases o with
  | returned => exact htx
  | stuck s => exact absurd rfl (hstuck s)
  | frame f => exact not_not.mp h.2.2

theorem build_not_stuck (c : Command) (tx : Mem) (htx : TxOpen tx) (h : (c.build tx).Inside)
    (s : Stream) : c.build tx ≠ .stuck s := by
  rw [build_eq_packet] at h ⊢
  cases hpacket : c.packet with
  | none => exact Outcome.noConfusion
  | some r =>
    rw [hpacket] at h
    by_cases hends : r.Ends
    · rw [Packet.runOption, r.run_ends hends tx]
      exact Outcome.noConfusion
    · have hfits := (r.inside_iff tx htx).mp h
      have hlong : 65536 ≤ r.args.length := not_ends_length hends
      have := hfits.1
      omega

/-- From `SpiOpen` on, calls with lengths that fit all stay inside the buffer. -/
theorem txRun_inside (cs : List Command) (h : ∀ c ∈ cs, c.Fits) (tx : Mem) (htx : TxOpen tx) :
    ∀ o ∈ txRun cs tx, o.Inside := by
  induction cs generalizing tx with
  | nil =>
    intro o ho
    cases ho
  | cons c cs ih =>
    have hc : (c.build tx).Inside := (command_inside_iff c).mpr (h c List.mem_cons_self) tx htx
    intro o ho
    rcases List.mem_cons.mp ho with rfl | ho
    · exact hc
    · exact ih (fun d hd => h d (List.mem_cons_of_mem c hd)) _
        (hc.after htx (build_not_stuck c tx htx hc)) o ho

/-! Every call and every patch. -/

/-- Every call and every patch stays inside the transmit buffer. -/
def TxInside : Prop :=
  (∀ c : Command, c.Inside) ∧ ∀ ucOpcode patch usDataLength, PatchInside ucOpcode patch usDataLength

/-- **Which frames stay inside `wlan_tx_buffer`.** A call does exactly when its
lengths are those of `Command.Fits`, a patch when it has at most 199 bytes. -/
theorem txInside_iff (c : Command) (ucOpcode : UInt8) (patch : Mem) (usDataLength : UInt16) :
    (c.Inside ↔ c.Fits) ∧
      (PatchInside ucOpcode patch usDataLength ↔ usDataLength.toNat ≤ 199) :=
  ⟨command_inside_iff c, patch_inside_iff ucOpcode patch usDataLength⟩

/-- `gethostbyname` accepts a name of 230 bytes, which ends 36 bytes behind the
magic number. -/
theorem not_txInside : ¬ TxInside := by
  intro h
  have hfits := (command_inside_iff (.gethostbyname (fun _ => 0x61) 230)).mp (h.1 _)
  rcases hfits with hshort | hlong
  · exact absurd hshort (by decide)
  · exact absurd hlong (by decide)

end SpiderL3S
