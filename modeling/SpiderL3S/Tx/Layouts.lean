import SpiderL3S.Tx.Decode

/- What the device reads out of the calls that carry byte strings is what the
   caller passed. `Command.meant` says what that is, from the arguments alone;
   `Laid` is what makes a schema read it: its words are the words, and the regions
   it finds hold the strings, one behind the other. Each layout is shown to be laid
   so, at every length. The exception is `sendto`, which announces eight bytes of
   address and copies as many as its caller names (`decodable_iff`). -/
namespace SpiderL3S

open Regions

/-- What a call with byte strings means to say: opcode, scalar arguments, byte
strings. The pointers are not NULL. -/
def Command.meant : Command → Option Decoded
  | wlanConnect ulSecType ssid ssidLen (some bssid) (some key) keyLen =>
    some ⟨hciCmndWlanConnect, [ssidLen.toUInt32, ulSecType, keyLen.toUInt32],
      [bssid.slice 0 6, ssid.slice 0 ssidLen.toInt.toNat, key.slice 0 keyLen.toInt.toNat]⟩
  | wlanAddProfile ulSecType ucSsid ulSsidLen (some ucBssid) ulPriority
      ulPairwiseCipherOrTxKeyLen ulGroupCipherTxKeyIndex ulKeyMgmt ucPfOrKey ulPassPhraseLen _ =>
    match ulSecType.toNat with
    | 0 =>
      some ⟨hciCmndWlanIoctlAddProfile, [ulSecType, ulSsidLen, ulPriority],
        [ucBssid.slice 0 6, ucSsid.slice 0 ulSsidLen.toNat]⟩
    | 1 =>
      let l := ulPairwiseCipherOrTxKeyLen.toNat
      some ⟨hciCmndWlanIoctlAddProfile,
        [ulSecType, ulSsidLen, ulPriority, ulPairwiseCipherOrTxKeyLen, ulGroupCipherTxKeyIndex],
        [ucBssid.slice 0 6, ucSsid.slice 0 ulSsidLen.toNat, ucPfOrKey.slice 0 l,
          ucPfOrKey.slice l l, ucPfOrKey.slice (2 * l) l, ucPfOrKey.slice (3 * l) l]⟩
    | 2 | 3 =>
      some ⟨hciCmndWlanIoctlAddProfile,
        [ulSecType, ulSsidLen, ulPriority, ulPairwiseCipherOrTxKeyLen, ulGroupCipherTxKeyIndex,
          ulKeyMgmt, ulPassPhraseLen],
        [ucBssid.slice 0 6, ucSsid.slice 0 ulSsidLen.toNat,
          ucPfOrKey.slice 0 ulPassPhraseLen.toNat]⟩
    | _ => none
  | bind sd addr => some ⟨hciCmndBind, [sd.toUInt32, 8], [addr.slice 0 8]⟩
  | connect sd addr => some ⟨hciCmndConnect, [sd.toUInt32, 8], [addr.slice 0 8]⟩
  | setsockopt sd level optname optval optlen =>
    some ⟨hciCmndSetsockopt, [sd.toUInt32, level.toUInt32, optname.toUInt32, optlen],
      [optval.slice 0 optlen.toNat]⟩
  | gethostbyname hostname usNameLen =>
    some ⟨hciCmndGethostname, [usNameLen.toUInt32], [hostname.slice 0 usNameLen.toNat]⟩
  | mdnsAdvertiser mdnsEnabled deviceServiceName n =>
    some ⟨hciCmndMdnsAdvertise, [mdnsEnabled.toUInt32, n.toUInt32],
      [deviceServiceName.slice 0 n.toNat]⟩
  | nvmemWrite ulFileId ulLength ulEntryOffset buff =>
    some ⟨hciCmndNvmemWrite, [ulFileId, ulLength, ulEntryOffset], [buff.slice 0 ulLength.toNat]⟩
  | send _ sd buf len flags =>
    some ⟨hciCmndSend, [sd.toUInt32, len.toUInt32, flags.toUInt32],
      [buf.slice 0 len.toInt.toNat]⟩
  | sendto _ sd buf len flags dest _ =>
    some ⟨hciCmndSendto, [sd.toUInt32, len.toUInt32, flags.toUInt32, 8],
      [buf.slice 0 len.toInt.toNat, dest.slice 0 8]⟩
  | _ => none

/-- The lengths are lengths, and the frame fits in the buffer, which leaves 201
bytes for the arguments of a command and 200 for those of a data packet. -/
def Command.HasRoom : Command → Prop
  | wlanConnect _ _ ssidLen _ _ keyLen =>
    0 ≤ ssidLen.toInt ∧ 0 ≤ keyLen.toInt ∧ 28 + ssidLen.toInt + keyLen.toInt ≤ 201
  | wlanAddProfile ulSecType _ ulSsidLen _ _ ulTxKeyLen _ _ _ ulPassPhraseLen _ =>
    match ulSecType.toNat with
    | 0 => 24 + ulSsidLen.toNat ≤ 201
    | 1 => 36 + ulSsidLen.toNat + 4 * ulTxKeyLen.toNat ≤ 201
    | _ => 44 + ulSsidLen.toNat + ulPassPhraseLen.toNat ≤ 201
  | setsockopt _ _ _ _ optlen => 20 + optlen.toNat ≤ 201
  | gethostbyname _ usNameLen => 8 + usNameLen.toNat ≤ 201
  | mdnsAdvertiser _ _ n => 12 + n.toNat ≤ 201
  | nvmemWrite _ ulLength _ _ => 16 + ulLength.toNat ≤ 200
  | send _ _ _ len _ => 0 ≤ len.toInt ∧ 16 + len.toInt ≤ 200
  | sendto _ _ _ len _ _ tolen => 0 ≤ len.toInt ∧ 24 + len.toInt + tolen.toNat ≤ 200
  | _ => True

/-- The device decodes `d` from what is clocked out: the strings have no byte in
common and lie in the declared arguments. -/
def Decodes (wire : List UInt8) (d : Decoded) : Prop :=
  decodeFrame wire = some d ∧ ∃ p s, unpack wire = some p ∧ schemaOf p = some s ∧
    (s.regions p.args).Pairwise Region.Apart ∧ ∀ r ∈ s.regions p.args, r.Within p.args.length

/-- Whatever the buffer held before, the call hands over a frame that says `d`. -/
def Command.Decodable (c : Command) (d : Decoded) : Prop :=
  ∀ tx, TxOpen tx → ∃ f, c.build tx = .frame f ∧ ¬ f.Overrun ∧ Decodes f.wire d

/-- `sendto` is given the eight bytes of address that it announces. -/
def Command.WholeAddress : Command → Prop
  | sendto _ _ _ _ _ _ tolen => 8 ≤ tolen.toNat
  | _ => True

/-! Laid out for a schema. -/

/-- The locator leads to the bytes, and they are in the arguments. -/
structure Found (args : List UInt8) (loc : Locator) (place : Nat × List UInt8) : Prop where
  region : loc.region args = ⟨place.1, place.2.length⟩
  placed : Placed args place.1 place.2

/-- The schema reads the words and the strings, which stand at the places given,
one behind the other. -/
structure Laid (s : Schema) (args : List UInt8) (words : List UInt32)
    (places : List (Nat × List UInt8)) : Prop where
  words : s.words.map (wordAt args) = words
  found : List.Forall₂ (Found args) s.strings places
  ordered : places.Pairwise fun x y => x.1 + x.2.length ≤ y.1

section
variable {s : Schema} {args : List UInt8} {words : List UInt32} {places : List (Nat × List UInt8)}

theorem regions_of_found {locs : List Locator} (h : List.Forall₂ (Found args) locs places) :
    locs.map (Locator.region args) = places.map fun x => ⟨x.1, x.2.length⟩ := by
  induction h with
  | nil => rfl
  | cons hfound _ ih => rw [List.map_cons, List.map_cons, hfound.region, ih]

theorem strings_of_found {locs : List Locator} (h : List.Forall₂ (Found args) locs places) :
    (locs.map (Locator.region args)).map (fun r => r.read args) = places.map Prod.snd := by
  induction h with
  | nil => rfl
  | cons hfound _ ih =>
    rw [List.map_cons, List.map_cons, List.map_cons, hfound.region, hfound.placed.read, ih]

theorem Laid.apart (h : Laid s args words places) : (s.regions args).Pairwise Region.Apart := by
  rw [Schema.regions, regions_of_found h.found, List.pairwise_map]
  exact h.ordered.imp .inl

theorem within_of_found {locs : List Locator} (h : List.Forall₂ (Found args) locs places) :
    ∀ loc ∈ locs, (loc.region args).Within args.length := by
  induction h with
  | nil =>
    intro loc hloc
    cases hloc
  | cons hfound _ ih =>
    intro loc hloc
    rcases List.mem_cons.mp hloc with rfl | hrest
    · rw [hfound.region]
      exact hfound.placed.within
    · exact ih loc hrest

theorem Laid.within (h : Laid s args words places) :
    ∀ r ∈ s.regions args, r.Within args.length := by
  intro r hr
  obtain ⟨loc, hloc, rfl⟩ := List.mem_map.mp hr
  exact within_of_found h.found loc hloc

theorem Laid.decodes {p : HciPacket} {wire : List UInt8} (h : Laid s p.args words places)
    (hunpack : unpack wire = some p) (hschema : schemaOf p = some s) :
    Decodes wire ⟨p.opcode, words, places.map Prod.snd⟩ := by
  refine ⟨?_, p, s, hunpack, hschema, h.apart, h.within⟩
  have hread : s.read p = ⟨p.opcode, words, places.map Prod.snd⟩ := by
    rw [Schema.read, h.words, Schema.regions, strings_of_found h.found]
  simp only [decodeFrame, hunpack, hschema, hread, Option.bind_eq_bind, Option.bind_some,
    Option.pure_def]

end

/-! Pieces. -/

/-- The bytes of some pieces. -/
abbrev laidOut (ps : List Piece) : List UInt8 := ps.flatMap Piece.content

theorem slice_of_placed {args bs : List UInt8} {p : Nat} (h : Placed args p bs) :
    (Mem.ofList args).slice p bs.length = bs := by
  obtain ⟨front, back, rfl, rfl⟩ := h
  apply List.ext_getElem (Mem.slice_length _ _ _)
  intro i hi hi'
  simp only [Mem.slice, Mem.ofList, List.getElem_map, List.getElem_range,
    List.getD_eq_getElem?_getD]
  rw [List.getElem?_append_right (by omega), Nat.add_sub_cancel_left,
    List.getElem?_append_left hi', List.getElem?_eq_getElem hi', Option.getD_some]

section
variable {ps : List Piece} {p lengthAt index n start : Nat} {v l : UInt32} {piece string : Piece}
  {bs : List UInt8}

theorem placed_piece (i : Nat) (h : ps[i]? = some piece) (hp : piecesLength (ps.take i) = p) :
    Placed (laidOut ps) p piece.content := by
  rw [← hp]
  exact placed_flatMap Piece.content h

/-- A word that is stored is read at its place. -/
theorem wordAt_piece (i : Nat) (h : ps[i]? = some (.uint32 v))
    (hp : piecesLength (ps.take i) = p) : wordAt (laidOut ps) p = v :=
  streamToUint32_of_slice (slice_of_placed (placed_piece i h hp))

theorem words_cons {args : List UInt8} {positions : List Nat} {words : List UInt32}
    (h : wordAt args p = v) (hs : positions.map (wordAt args) = words) :
    (p :: positions).map (wordAt args) = v :: words := by
  rw [List.map_cons, h, hs]

theorem found_inline (i : Nat) (hstring : ps[i]? = some string) (hbs : string.content = bs)
    (hstart : piecesLength (ps.take i) = p) (hlength : n = bs.length) :
    Found (laidOut ps) (.inline p n) (p, bs) := by
  subst hbs
  exact ⟨congrArg (Region.mk p) hlength, placed_piece i hstring hstart⟩

/-- An offset word leads to a piece if it counts the bytes up to it, from its own
place on. -/
theorem found_offset (i : Nat) (hstring : ps[i]? = some string) (hbs : string.content = bs)
    (hstart : piecesLength (ps.take i) = start)
    (hoffset : wordAt (laidOut ps) p = v) (hlength : wordAt (laidOut ps) lengthAt = l)
    (hv : p + v.toNat + index * l.toNat = start) (hl : l.toNat = bs.length) :
    Found (laidOut ps) (.offset p lengthAt index) (start, bs) := by
  subst hbs
  refine ⟨?_, placed_piece i hstring hstart⟩
  show Region.mk (p + (wordAt _ p).toNat + index * (wordAt _ lengthAt).toNat) _ = _
  rw [hoffset, hlength, hv, hl]

end

/-! From the call to the wire. -/

section
variable {c : Command} {s : Schema} {words : List UInt32} {places : List (Nat × List UInt8)}
  {ps : List Piece}

/-- A packet with room in the buffer is handed over whole. -/
theorem built_of_room {r : Packet} (hpacket : c.packet = some r)
    (hroom : r.header.length + r.args.length ≤ 205) {tx : Mem} (htx : TxOpen tx) :
    c.build tx = .frame (r.toFrame tx) ∧ ¬ (r.toFrame tx).Overrun := by
  have hends : r.Ends := by
    by_contra hstuck
    have hlong : 65536 ≤ r.args.length := not_ends_length hstuck
    omega
  refine ⟨?_, ?_⟩
  · calc c.build tx = r.run tx := by rw [build_eq_packet, hpacket]; rfl
      _ = .frame (r.toFrame tx) := r.run_ends hends tx
  · rw [r.overrun_iff tx htx, List.getD_eq_getElem?_getD, List.getElem?_eq_none (by omega)]
    rfl

theorem decodable_command {op : UInt16} {n : UInt8} {k : Nat}
    (hpacket : c.packet = some (.command op ps n)) (hlength : piecesLength ps = k)
    (hroom : k ≤ 201) (hdeclared : n.toNat = k)
    (hschema : schemaOf ⟨hciTypeCmnd, op, laidOut ps⟩ = some s)
    (hlaid : Laid s (laidOut ps) words places) :
    c.Decodable ⟨op, words, places.map Prod.snd⟩ := by
  intro tx htx
  rw [← hlength] at hroom hdeclared
  have hbuffer : (Packet.command op ps n).header.length + (Packet.command op ps n).args.length ≤
      205 := by
    show 4 + piecesLength ps ≤ 205
    omega
  obtain ⟨hbuild, hpass⟩ := built_of_room hpacket hbuffer htx
  exact ⟨_, hbuild, hpass, Laid.decodes hlaid (unpack_command tx hdeclared.symm hroom) hschema⟩

theorem decodable_data {op : UInt16} {a : UInt8} {n : UInt16} {k : Nat}
    (hpacket : c.packet = some (.data op.toUInt8 ps a n)) (hlength : piecesLength ps = k)
    (hroom : k ≤ 200) (hdeclared : n.toNat = k) (hop : op.toUInt8.toUInt16 = op)
    (hschema : schemaOf ⟨hciTypeData, op, laidOut ps⟩ = some s)
    (hlaid : Laid s (laidOut ps) words places) :
    c.Decodable ⟨op, words, places.map Prod.snd⟩ := by
  intro tx htx
  rw [← hlength] at hroom hdeclared
  have hbuffer : (Packet.data op.toUInt8 ps a n).header.length +
      (Packet.data op.toUInt8 ps a n).args.length ≤ 205 := by
    show 5 + piecesLength ps ≤ 205
    omega
  have hunpack : unpack ((Packet.data op.toUInt8 ps a n).toFrame tx).wire =
      some ⟨hciTypeData, op, laidOut ps⟩ := by
    rw [unpack_data tx hdeclared.symm hroom, hop]
  obtain ⟨hbuild, hpass⟩ := built_of_room hpacket hbuffer htx
  exact ⟨_, hbuild, hpass, Laid.decodes hlaid hunpack hschema⟩

end

/-! The layouts. -/

/-- `bind` and `connect`. -/
theorem laid_sockaddr (sd : UInt32) (addr : Mem) :
    Laid ⟨[0, 8], [.offset 4 8 0]⟩
      (laidOut [.uint32 sd, .uint32 8, .uint32 8, .array addr 8]) [sd, 8] [(12, addr.slice 0 8)] := by
  refine ⟨?_, ?_, List.pairwise_singleton _ _⟩
  · exact words_cons (wordAt_piece 0 rfl rfl) (words_cons (wordAt_piece 2 rfl rfl) rfl)
  · exact .cons (found_offset 3 rfl rfl rfl (wordAt_piece 1 rfl rfl) (wordAt_piece 2 rfl rfl)
      rfl rfl) .nil

theorem bind_decodable (sd : Int32) (addr : Mem) :
    (Command.bind sd addr).Decodable ⟨hciCmndBind, [sd.toUInt32, 8], [addr.slice 0 8]⟩ :=
  decodable_command rfl (show piecesLength _ = 20 from rfl) (by decide) rfl rfl
    (laid_sockaddr sd.toUInt32 addr)

theorem connect_decodable (sd : Int32) (addr : Mem) :
    (Command.connect sd addr).Decodable ⟨hciCmndConnect, [sd.toUInt32, 8], [addr.slice 0 8]⟩ :=
  decodable_command rfl (show piecesLength _ = 20 from rfl) (by decide) rfl rfl
    (laid_sockaddr sd.toUInt32 addr)

theorem setsockopt_decodable (sd level optname : Int32) (optval : Mem) (optlen : UInt32)
    (hroom : 20 + optlen.toNat ≤ 201) :
    (Command.setsockopt sd level optname optval optlen).Decodable
      ⟨hciCmndSetsockopt, [sd.toUInt32, level.toUInt32, optname.toUInt32, optlen],
        [optval.slice 0 optlen.toNat]⟩ := by
  have hlaid : Laid ⟨[0, 4, 8, 16], [.offset 12 16 0]⟩
      (laidOut [.uint32 sd.toUInt32, .uint32 level.toUInt32, .uint32 optname.toUInt32, .uint32 8,
        .uint32 optlen, .array optval optlen.toNat])
      [sd.toUInt32, level.toUInt32, optname.toUInt32, optlen]
      [(20, optval.slice 0 optlen.toNat)] := by
    refine ⟨?_, ?_, List.pairwise_singleton _ _⟩
    · exact words_cons (wordAt_piece 0 rfl rfl) (words_cons (wordAt_piece 1 rfl rfl)
        (words_cons (wordAt_piece 2 rfl rfl) (words_cons (wordAt_piece 4 rfl rfl) rfl)))
    · exact .cons (found_offset 5 rfl rfl rfl (wordAt_piece 3 rfl rfl) (wordAt_piece 4 rfl rfl)
        (by simp) (Mem.slice_length _ _ _).symm) .nil
  apply decodable_command rfl _ hroom _ rfl hlaid
  · simp only [piecesLength_uint32, piecesLength_array, piecesLength_nil, Int.toNat_natCast]
    omega
  · simp only [UInt32.toNat_toUInt8, UInt32.toNat_add, UInt32.reduceToNat, Nat.reducePow]
    omega

theorem gethostbyname_decodable (hostname : Mem) (usNameLen : UInt16)
    (hroom : 8 + usNameLen.toNat ≤ 201) :
    (Command.gethostbyname hostname usNameLen).Decodable
      ⟨hciCmndGethostname, [usNameLen.toUInt32], [hostname.slice 0 usNameLen.toNat]⟩ := by
  have hlaid : Laid ⟨[4], [.offset 0 4 0]⟩
      (laidOut [.uint32 8, .uint32 usNameLen.toUInt32, .array hostname usNameLen.toNat])
      [usNameLen.toUInt32] [(8, hostname.slice 0 usNameLen.toNat)] := by
    refine ⟨?_, ?_, List.pairwise_singleton _ _⟩
    · exact words_cons (wordAt_piece 1 rfl rfl) rfl
    · exact .cons (found_offset 2 rfl rfl rfl (wordAt_piece 0 rfl rfl) (wordAt_piece 1 rfl rfl)
        (by simp) (by simp [Mem.slice_length])) .nil
  have haccepted : ¬ usNameLen > hostnameMaxLength := by
    intro hlong
    have hlt : 230 < usNameLen.toNat := UInt16.lt_iff_toNat_lt.mp hlong
    omega
  apply decodable_command (by rw [Command.packet, if_neg haccepted]) _ hroom _ rfl hlaid
  · simp only [piecesLength_uint32, piecesLength_array, piecesLength_nil, Int.toNat_natCast]
    omega
  · simp only [UInt16.toNat_toUInt8, UInt16.toNat_sub, UInt16.toNat_add, UInt16.reduceToNat,
      Nat.reducePow]
    omega

theorem mdnsAdvertiser_decodable (mdnsEnabled : UInt16) (deviceServiceName : Mem) (n : UInt16)
    (haccepted : ¬ n > mdnsDeviceServiceMaxLength) (hroom : 12 + n.toNat ≤ 201) :
    (Command.mdnsAdvertiser mdnsEnabled deviceServiceName n).Decodable
      ⟨hciCmndMdnsAdvertise, [mdnsEnabled.toUInt32, n.toUInt32],
        [deviceServiceName.slice 0 n.toNat]⟩ := by
  have hlaid : Laid ⟨[0, 8], [.offset 4 8 0]⟩
      (laidOut [.uint32 mdnsEnabled.toUInt32, .uint32 8, .uint32 n.toUInt32,
        .array deviceServiceName n.toNat])
      [mdnsEnabled.toUInt32, n.toUInt32] [(12, deviceServiceName.slice 0 n.toNat)] := by
    refine ⟨?_, ?_, List.pairwise_singleton _ _⟩
    · exact words_cons (wordAt_piece 0 rfl rfl) (words_cons (wordAt_piece 2 rfl rfl) rfl)
    · exact .cons (found_offset 3 rfl rfl rfl (wordAt_piece 1 rfl rfl) (wordAt_piece 2 rfl rfl)
        (by simp) (by simp [Mem.slice_length])) .nil
  apply decodable_command (by rw [Command.packet, if_neg haccepted]) _ hroom _ rfl hlaid
  · simp only [piecesLength_uint32, piecesLength_array, piecesLength_nil, Int.toNat_natCast]
    omega
  · simp only [UInt16.toNat_toUInt8, UInt16.toNat_add, UInt16.reduceToNat, Nat.reducePow]
    omega

theorem nvmemWrite_decodable (ulFileId ulLength ulEntryOffset : UInt32) (buff : Mem)
    (hroom : 16 + ulLength.toNat ≤ 200) :
    (Command.nvmemWrite ulFileId ulLength ulEntryOffset buff).Decodable
      ⟨hciCmndNvmemWrite, [ulFileId, ulLength, ulEntryOffset],
        [buff.slice 0 ulLength.toNat]⟩ := by
  -- the `size_t` of `memcpy` keeps a length that fits in the buffer
  have hkept : ulLength.toUInt16.toNat = ulLength.toNat := by
    rw [UInt32.toNat_toUInt16]
    omega
  have hlaid : Laid ⟨[0, 8, 12], [.offset 4 8 0]⟩
      (laidOut [.uint32 ulFileId, .uint32 12, .uint32 ulLength, .uint32 ulEntryOffset,
        .bytes (buff.slice 0 ulLength.toUInt16.toNat)])
      [ulFileId, ulLength, ulEntryOffset] [(16, buff.slice 0 ulLength.toNat)] := by
    refine ⟨?_, ?_, List.pairwise_singleton _ _⟩
    · exact words_cons (wordAt_piece 0 rfl rfl) (words_cons (wordAt_piece 2 rfl rfl)
        (words_cons (wordAt_piece 3 rfl rfl) rfl))
    · rw [hkept]
      exact .cons (found_offset 4 rfl rfl rfl (wordAt_piece 1 rfl rfl) (wordAt_piece 2 rfl rfl)
        (by simp) (Mem.slice_length _ _ _).symm) .nil
  apply decodable_data rfl _ hroom _ rfl rfl hlaid
  · simp only [piecesLength_uint32, piecesLength_bytes, piecesLength_nil, Mem.slice_length, hkept]
    omega
  · simp only [UInt16.toNat_add, hkept, UInt16.reduceToNat, Nat.reducePow]
    omega

/-- A length that is not negative, and its word. -/
theorem length_word {len : Int32} (h : 0 ≤ len.toInt) :
    len.toUInt32.toNat = len.toInt.toNat := by
  have hlen := int32_toInt len
  have hlt := len.toUInt32.toNat_lt
  split at hlen <;> omega

theorem send_decodable (sd : Int32) (buf : Mem) (len flags : Int32) (hlen : 0 ≤ len.toInt)
    (hroom : 16 + len.toInt ≤ 200) :
    (Command.send 0 sd buf len flags).Decodable
      ⟨hciCmndSend, [sd.toUInt32, len.toUInt32, flags.toUInt32],
        [buf.slice 0 len.toInt.toNat]⟩ := by
  have hword := length_word hlen
  have hlaid : Laid ⟨[0, 8, 12], [.offset 4 8 0]⟩
      (laidOut [.uint32 sd.toUInt32, .uint32 12, .uint32 len.toUInt32, .uint32 flags.toUInt32,
        .array buf len.toInt])
      [sd.toUInt32, len.toUInt32, flags.toUInt32] [(16, buf.slice 0 len.toInt.toNat)] := by
    refine ⟨?_, ?_, List.pairwise_singleton _ _⟩
    · exact words_cons (wordAt_piece 0 rfl rfl) (words_cons (wordAt_piece 2 rfl rfl)
        (words_cons (wordAt_piece 3 rfl rfl) rfl))
    · exact .cons (found_offset 4 rfl rfl rfl (wordAt_piece 1 rfl rfl) (wordAt_piece 2 rfl rfl)
        (by simp) (by rw [hword, Mem.slice_length])) .nil
  apply decodable_data rfl (k := 16 + len.toInt.toNat) _ _ _ rfl rfl hlaid
  · simp only [piecesLength_uint32, piecesLength_array, piecesLength_nil]
    omega
  · omega
  · simp only [UInt16.toNat_add, UInt32.toNat_toUInt16, hword, UInt16.reduceToNat, Nat.reducePow]
    omega

/-- A key of no bytes is not stored at all. -/
theorem laidOut_key (front : List Piece) (key : Mem) (keyLen : Int32) :
    laidOut (front ++ wlanConnectKey (some key) keyLen) =
      laidOut (front ++ [.array key keyLen.toInt]) := by
  have hkey : laidOut (wlanConnectKey (some key) keyLen) = laidOut [.array key keyLen.toInt] := by
    unfold wlanConnectKey
    by_cases h : keyLen = 0
    · subst h
      rfl
    · rw [if_pos h]
  calc laidOut (front ++ wlanConnectKey (some key) keyLen)
      = laidOut front ++ laidOut (wlanConnectKey (some key) keyLen) := List.flatMap_append
    _ = laidOut front ++ laidOut [.array key keyLen.toInt] := by rw [hkey]
    _ = laidOut (front ++ [.array key keyLen.toInt]) := List.flatMap_append.symm

/-- The key lies behind the name. -/
theorem keyOffset_toNat {ssidLen : Int32} (hssid : 0 ≤ ssidLen.toInt) :
    (0x00000010 + ssidLen).toUInt32.toNat = 16 + ssidLen.toInt.toNat := by
  have hword := length_word hssid
  have hlt := ssidLen.toInt_lt
  have hbase : (0x00000010 : Int32).toUInt32.toNat = 16 := rfl
  rw [Int32.toUInt32_add, UInt32.toNat_add, hbase, hword]
  omega

theorem wlanConnect_laid (ulSecType : UInt32) (ssid : Mem) {ssidLen : Int32} (bssid key : Mem)
    {keyLen : Int32} (hssid : 0 ≤ ssidLen.toInt) (hkey : 0 ≤ keyLen.toInt) :
    Laid ⟨[4, 8, 16], [.inline 22 6, .offset 0 4 0, .offset 12 16 0]⟩
      (laidOut ([.uint32 0x0000001c, .uint32 ssidLen.toUInt32, .uint32 ulSecType,
        .uint32 (0x00000010 + ssidLen).toUInt32, .uint32 keyLen.toUInt32, .uint16 0,
        .array bssid ethAlen, .array ssid ssidLen.toInt] ++ wlanConnectKey (some key) keyLen))
      [ssidLen.toUInt32, ulSecType, keyLen.toUInt32]
      [(22, bssid.slice 0 6), (28, ssid.slice 0 ssidLen.toInt.toNat),
        (28 + ssidLen.toInt.toNat, key.slice 0 keyLen.toInt.toNat)] := by
  have hssidWord := length_word hssid
  have hkeyWord := length_word hkey
  have hoffset := keyOffset_toNat hssid
  rw [laidOut_key]
  refine ⟨?_, ?_, ?_⟩
  · exact words_cons (wordAt_piece 1 rfl rfl) (words_cons (wordAt_piece 2 rfl rfl)
      (words_cons (wordAt_piece 4 rfl rfl) rfl))
  · refine .cons (found_inline 6 rfl rfl rfl rfl) (.cons (found_offset 7 rfl rfl rfl
      (wordAt_piece 0 rfl rfl) (wordAt_piece 1 rfl rfl) ?_ ?_) (.cons (found_offset 8 rfl rfl ?_
        (wordAt_piece 3 rfl rfl) (wordAt_piece 4 rfl rfl) ?_ ?_) .nil))
    · rw [Nat.zero_mul]
      rfl
    · rw [hssidWord, Mem.slice_length]
    · show piecesLength [_, _, _, _, _, _, _, _] = _
      simp only [piecesLength_uint32, piecesLength_uint16, piecesLength_array, piecesLength_nil,
        ethAlen]
      omega
    · omega
    · rw [hkeyWord, Mem.slice_length]
  · simp [Mem.slice_length]

theorem wlanConnect_decodable (ulSecType : UInt32) (ssid : Mem) (ssidLen : Int32) (bssid key : Mem)
    (keyLen : Int32) (hssid : 0 ≤ ssidLen.toInt) (hkey : 0 ≤ keyLen.toInt)
    (hroom : 28 + ssidLen.toInt + keyLen.toInt ≤ 201) :
    (Command.wlanConnect ulSecType ssid ssidLen (some bssid) (some key) keyLen).Decodable
      ⟨hciCmndWlanConnect, [ssidLen.toUInt32, ulSecType, keyLen.toUInt32],
        [bssid.slice 0 6, ssid.slice 0 ssidLen.toInt.toNat,
          key.slice 0 keyLen.toInt.toNat]⟩ := by
  have hdeclared := wlanConnect_declared ssidLen keyLen
  apply decodable_command rfl (k := 28 + ssidLen.toInt.toNat + keyLen.toInt.toNat) _ _ _ rfl
    (wlanConnect_laid ulSecType ssid bssid key hssid hkey)
  · have hstored : wlanConnectKeyStored (some key) keyLen = keyLen.toInt.toNat := if_pos rfl
    simp only [piecesLength_append, wlanConnectKey_length, hstored, piecesLength_uint32,
      piecesLength_uint16, piecesLength_array, piecesLength_nil, ethAlen]
    omega
  · omega
  · omega

/-- The security type chooses the schema of `wlan_add_profile`. -/
theorem schemaOf_addProfile {args : List UInt8} {ulSecType : UInt32} {s : Schema}
    (h : wordAt args 0 = ulSecType) (hs : addProfileSchema ulSecType = some s) :
    schemaOf ⟨hciTypeCmnd, hciCmndWlanIoctlAddProfile, args⟩ = some s := by
  rw [← hs, ← h]
  rfl

/-- `wlan_add_profile` for a network without a key. -/
theorem openProfile_decodable (ucSsid : Mem) (ulSsidLen : UInt32) (ucBssid : Mem)
    (ulPriority f g h : UInt32) (i : Mem) (j : UInt32) (k : UInt16)
    (hroom : 24 + ulSsidLen.toNat ≤ 201) :
    (Command.wlanAddProfile 0 ucSsid ulSsidLen (some ucBssid) ulPriority f g h i j k).Decodable
      ⟨hciCmndWlanIoctlAddProfile, [0, ulSsidLen, ulPriority],
        [ucBssid.slice 0 6, ucSsid.slice 0 ulSsidLen.toNat]⟩ := by
  have hlaid : Laid ⟨[0, 8, 20], [.inline 14 6, .offset 4 8 0]⟩
      (laidOut [.uint32 0, .uint32 0x00000014, .uint32 ulSsidLen, .uint16 0,
        .array ucBssid ethAlen, .uint32 ulPriority, .array ucSsid ulSsidLen.toNat])
      [0, ulSsidLen, ulPriority]
      [(14, ucBssid.slice 0 6), (24, ucSsid.slice 0 ulSsidLen.toNat)] := by
    refine ⟨?_, ?_, ?_⟩
    · exact words_cons (wordAt_piece 0 rfl rfl) (words_cons (wordAt_piece 2 rfl rfl)
        (words_cons (wordAt_piece 5 rfl rfl) rfl))
    · refine .cons (found_inline 4 rfl rfl rfl rfl) (.cons (found_offset 6 rfl rfl rfl
        (wordAt_piece 1 rfl rfl) (wordAt_piece 2 rfl rfl) ?_ ?_) .nil)
      · rw [Nat.zero_mul]
        rfl
      · rw [Mem.slice_length]
    · simp [Mem.slice_length]
  apply decodable_command rfl _ hroom _
    (schemaOf_addProfile (wordAt_piece 0 rfl rfl) rfl) hlaid
  · simp only [piecesLength_uint32, piecesLength_uint16, piecesLength_array, piecesLength_nil,
      ethAlen, Int.toNat_natCast]
    omega
  · simp only [wlanAddProfilePieces, UInt32.reduceToNat, UInt16.toNat_toUInt8,
      UInt32.toNat_toUInt16, UInt32.toNat_add, Nat.reducePow]
    omega

/-- The pieces of a profile with four WEP keys, which stand one behind the other in
the caller's array. -/
def wepPieces (ucSsid : Mem) (ulSsidLen : UInt32) (ucBssid : Mem)
    (ulPriority l ulGroupCipherTxKeyIndex : UInt32) (ucPfOrKey : Mem) : List Piece :=
  [.uint32 1, .uint32 0x00000020, .uint32 ulSsidLen, .uint16 0, .array ucBssid ethAlen,
    .uint32 ulPriority, .uint32 (0x0000000C + ulSsidLen), .uint32 l,
    .uint32 ulGroupCipherTxKeyIndex, .array ucSsid ulSsidLen.toNat,
    .array (ucPfOrKey.drop (0 * l).toNat) l.toNat, .array (ucPfOrKey.drop (1 * l).toNat) l.toNat,
    .array (ucPfOrKey.drop (2 * l).toNat) l.toNat, .array (ucPfOrKey.drop (3 * l).toNat) l.toNat]

theorem wepKey_content (ucPfOrKey : Mem) {l i : UInt32} (hi : i.toNat ≤ 3) (hl : l.toNat ≤ 201) :
    (Piece.array (ucPfOrKey.drop (i * l).toNat) l.toNat).content =
      ucPfOrKey.slice (i.toNat * l.toNat) l.toNat := by
  have hsmall : i.toNat * l.toNat < 4294967296 :=
    calc i.toNat * l.toNat ≤ 3 * l.toNat := Nat.mul_le_mul_right _ hi
      _ < 4294967296 := by omega
  rw [Piece.content, Mem.drop_slice, Nat.add_zero, Int.toNat_natCast, UInt32.toNat_mul,
    Nat.mod_eq_of_lt hsmall]

theorem wepProfile_laid (ucSsid : Mem) (ulSsidLen : UInt32) (ucBssid : Mem)
    (ulPriority l ulGroupCipherTxKeyIndex : UInt32) (ucPfOrKey : Mem)
    (hroom : 36 + ulSsidLen.toNat + 4 * l.toNat ≤ 201) :
    Laid ⟨[0, 8, 20, 28, 32], [.inline 14 6, .offset 4 8 0, .offset 24 28 0,
        .offset 24 28 1, .offset 24 28 2, .offset 24 28 3]⟩
      (laidOut (wepPieces ucSsid ulSsidLen ucBssid ulPriority l ulGroupCipherTxKeyIndex ucPfOrKey))
      [1, ulSsidLen, ulPriority, l, ulGroupCipherTxKeyIndex]
      [(14, ucBssid.slice 0 6), (36, ucSsid.slice 0 ulSsidLen.toNat),
        (36 + ulSsidLen.toNat, ucPfOrKey.slice 0 l.toNat),
        (36 + ulSsidLen.toNat + l.toNat, ucPfOrKey.slice l.toNat l.toNat),
        (36 + ulSsidLen.toNat + 2 * l.toNat, ucPfOrKey.slice (2 * l.toNat) l.toNat),
        (36 + ulSsidLen.toNat + 3 * l.toNat, ucPfOrKey.slice (3 * l.toNat) l.toNat)] := by
  have hoffset : (0x0000000C + ulSsidLen).toNat = 12 + ulSsidLen.toNat := by
    simp only [UInt32.toNat_add, UInt32.reduceToNat, Nat.reducePow]
    omega
  have hl : l.toNat ≤ 201 := by omega
  have hkey0 := wepKey_content ucPfOrKey (i := 0) (by decide) hl
  have hkey1 := wepKey_content ucPfOrKey (i := 1) (by decide) hl
  have hkey2 := wepKey_content ucPfOrKey (i := 2) (by decide) hl
  have hkey3 := wepKey_content ucPfOrKey (i := 3) (by decide) hl
  rw [show (0 : UInt32).toNat = 0 from rfl, Nat.zero_mul] at hkey0
  rw [show (1 : UInt32).toNat = 1 from rfl, Nat.one_mul] at hkey1
  refine ⟨?_, ?_, ?_⟩
  · exact words_cons (wordAt_piece 0 rfl rfl) (words_cons (wordAt_piece 2 rfl rfl)
      (words_cons (wordAt_piece 5 rfl rfl) (words_cons (wordAt_piece 7 rfl rfl)
        (words_cons (wordAt_piece 8 rfl rfl) rfl))))
  · -- the keys share one offset and one length; the `i`th lies `i` lengths behind
    refine .cons (found_inline 4 rfl rfl rfl rfl) (.cons (found_offset 9 rfl rfl rfl
      (wordAt_piece 1 rfl rfl) (wordAt_piece 2 rfl rfl) ?_ ?_)
      (.cons (found_offset 10 rfl hkey0 ?_ (wordAt_piece 6 rfl rfl) (wordAt_piece 7 rfl rfl) ?_ ?_)
      (.cons (found_offset 11 rfl hkey1 ?_ (wordAt_piece 6 rfl rfl) (wordAt_piece 7 rfl rfl) ?_ ?_)
      (.cons (found_offset 12 rfl hkey2 ?_ (wordAt_piece 6 rfl rfl) (wordAt_piece 7 rfl rfl) ?_ ?_)
      (.cons (found_offset 13 rfl hkey3 ?_ (wordAt_piece 6 rfl rfl) (wordAt_piece 7 rfl rfl)
        ?_ ?_) .nil)))))
    all_goals
      simp only [wepPieces, List.take_succ_cons, List.take_zero, piecesLength_uint32,
        piecesLength_uint16, piecesLength_array, piecesLength_nil, ethAlen, Int.toNat_natCast,
        Mem.slice_length, hoffset, UInt32.reduceToNat] <;> omega
  · simp [Mem.slice_length]
    omega

/-- `wlan_add_profile` with four WEP keys. -/
theorem wepProfile_decodable (ucSsid : Mem) (ulSsidLen : UInt32) (ucBssid : Mem)
    (ulPriority l ulGroupCipherTxKeyIndex h : UInt32) (ucPfOrKey : Mem) (j : UInt32) (k : UInt16)
    (hroom : 36 + ulSsidLen.toNat + 4 * l.toNat ≤ 201) :
    (Command.wlanAddProfile 1 ucSsid ulSsidLen (some ucBssid) ulPriority l
      ulGroupCipherTxKeyIndex h ucPfOrKey j k).Decodable
      ⟨hciCmndWlanIoctlAddProfile, [1, ulSsidLen, ulPriority, l, ulGroupCipherTxKeyIndex],
        [ucBssid.slice 0 6, ucSsid.slice 0 ulSsidLen.toNat, ucPfOrKey.slice 0 l.toNat,
          ucPfOrKey.slice l.toNat l.toNat, ucPfOrKey.slice (2 * l.toNat) l.toNat,
          ucPfOrKey.slice (3 * l.toNat) l.toNat]⟩ := by
  apply decodable_command rfl _ hroom _ (schemaOf_addProfile (wordAt_piece 0 rfl rfl) rfl)
    (wepProfile_laid ucSsid ulSsidLen ucBssid ulPriority l ulGroupCipherTxKeyIndex ucPfOrKey hroom)
  · simp only [wepPieces, piecesLength_uint32, piecesLength_uint16, piecesLength_array,
      piecesLength_nil, ethAlen, Int.toNat_natCast]
    omega
  · simp only [wlanAddProfilePieces, UInt32.reduceToNat, UInt16.toNat_toUInt8,
      UInt32.toNat_toUInt16, UInt32.toNat_add, UInt32.toNat_mul, Nat.reducePow]
    omega

/-- The pieces of a profile with a pass phrase. -/
def wpaPieces (ulSecType : UInt32) (ucSsid : Mem) (ulSsidLen : UInt32) (ucBssid : Mem)
    (ulPriority f g h : UInt32) (ucPfOrKey : Mem) (ulPassPhraseLen : UInt32) : List Piece :=
  [.uint32 ulSecType, .uint32 0x00000028, .uint32 ulSsidLen, .uint16 0, .array ucBssid ethAlen,
    .uint32 ulPriority, .uint32 f, .uint32 g, .uint32 h, .uint32 (0x00000008 + ulSsidLen),
    .uint32 ulPassPhraseLen, .array ucSsid ulSsidLen.toNat,
    .array ucPfOrKey ulPassPhraseLen.toNat]

theorem wpaProfile_laid (ulSecType : UInt32) (ucSsid : Mem) (ulSsidLen : UInt32) (ucBssid : Mem)
    (ulPriority f g h : UInt32) (ucPfOrKey : Mem) (ulPassPhraseLen : UInt32)
    (hroom : 44 + ulSsidLen.toNat + ulPassPhraseLen.toNat ≤ 201) :
    Laid ⟨[0, 8, 20, 24, 28, 32, 40], [.inline 14 6, .offset 4 8 0, .offset 36 40 0]⟩
      (laidOut (wpaPieces ulSecType ucSsid ulSsidLen ucBssid ulPriority f g h ucPfOrKey
        ulPassPhraseLen))
      [ulSecType, ulSsidLen, ulPriority, f, g, h, ulPassPhraseLen]
      [(14, ucBssid.slice 0 6), (44, ucSsid.slice 0 ulSsidLen.toNat),
        (44 + ulSsidLen.toNat, ucPfOrKey.slice 0 ulPassPhraseLen.toNat)] := by
  have hoffset : (0x00000008 + ulSsidLen).toNat = 8 + ulSsidLen.toNat := by
    simp only [UInt32.toNat_add, UInt32.reduceToNat, Nat.reducePow]
    omega
  refine ⟨?_, ?_, ?_⟩
  · exact words_cons (wordAt_piece 0 rfl rfl) (words_cons (wordAt_piece 2 rfl rfl)
      (words_cons (wordAt_piece 5 rfl rfl) (words_cons (wordAt_piece 6 rfl rfl)
        (words_cons (wordAt_piece 7 rfl rfl) (words_cons (wordAt_piece 8 rfl rfl)
          (words_cons (wordAt_piece 10 rfl rfl) rfl))))))
  · refine .cons (found_inline 4 rfl rfl rfl rfl) (.cons (found_offset 11 rfl rfl rfl
      (wordAt_piece 1 rfl rfl) (wordAt_piece 2 rfl rfl) ?_ ?_)
      (.cons (found_offset 12 rfl rfl ?_ (wordAt_piece 9 rfl rfl) (wordAt_piece 10 rfl rfl)
        ?_ ?_) .nil))
    all_goals
      simp only [wpaPieces, List.take_succ_cons, List.take_zero, piecesLength_uint32,
        piecesLength_uint16, piecesLength_array, piecesLength_nil, ethAlen, Int.toNat_natCast,
        Mem.slice_length, hoffset, UInt32.reduceToNat] <;> omega
  · simp [Mem.slice_length]
    omega

/-- `wlan_add_profile` with a pass phrase. -/
theorem wpaProfile_decodable {ulSecType : UInt32} (hsec : ulSecType = 2 ∨ ulSecType = 3)
    (ucSsid : Mem) (ulSsidLen : UInt32) (ucBssid : Mem) (ulPriority f g h : UInt32)
    (ucPfOrKey : Mem) (ulPassPhraseLen : UInt32) (k : UInt16)
    (hroom : 44 + ulSsidLen.toNat + ulPassPhraseLen.toNat ≤ 201) :
    (Command.wlanAddProfile ulSecType ucSsid ulSsidLen (some ucBssid) ulPriority f g h ucPfOrKey
      ulPassPhraseLen k).Decodable
      ⟨hciCmndWlanIoctlAddProfile, [ulSecType, ulSsidLen, ulPriority, f, g, h, ulPassPhraseLen],
        [ucBssid.slice 0 6, ucSsid.slice 0 ulSsidLen.toNat,
          ucPfOrKey.slice 0 ulPassPhraseLen.toNat]⟩ := by
  have hlaid := wpaProfile_laid ulSecType ucSsid ulSsidLen ucBssid ulPriority f g h ucPfOrKey
    ulPassPhraseLen hroom
  have hlength : piecesLength (wpaPieces ulSecType ucSsid ulSsidLen ucBssid ulPriority f g h
      ucPfOrKey ulPassPhraseLen) = 44 + ulSsidLen.toNat + ulPassPhraseLen.toNat := by
    simp only [wpaPieces, piecesLength_uint32, piecesLength_uint16, piecesLength_array,
      piecesLength_nil, ethAlen, Int.toNat_natCast]
    omega
  have hdeclared : (44 + ulSsidLen + ulPassPhraseLen).toUInt16.toUInt8.toNat =
      44 + ulSsidLen.toNat + ulPassPhraseLen.toNat := by
    simp only [UInt32.reduceToNat, UInt16.toNat_toUInt8, UInt32.toNat_toUInt16, UInt32.toNat_add,
      Nat.reducePow]
    omega
  rcases hsec with rfl | rfl
  · exact decodable_command rfl hlength hroom hdeclared
      (schemaOf_addProfile (wordAt_piece 0 rfl rfl) rfl) hlaid
  · exact decodable_command rfl hlength hroom hdeclared
      (schemaOf_addProfile (wordAt_piece 0 rfl rfl) rfl) hlaid

/-! `sendto`. -/

/-- The pieces of `sendto`. -/
def sendtoPieces (sd : Int32) (buf : Mem) (len flags : Int32) (dest : Mem) (tolen : UInt32) :
    List Piece :=
  [.uint32 sd.toUInt32, .uint32 20, .uint32 len.toUInt32, .uint32 flags.toUInt32,
    .uint32 (len.toUInt32 + 4 + 4), .uint32 8, .array buf len.toInt,
    .array dest tolen.toInt32.toInt]

section
variable {len : Int32} {tolen : UInt32}

theorem tolen_toInt (h : tolen.toNat ≤ 200) : tolen.toInt32.toInt = tolen.toNat := by
  have htolen := int32_toInt tolen.toInt32
  rw [UInt32.toUInt32_toInt32] at htolen
  split at htolen <;> omega

theorem addrOffset_toNat (hlen : 0 ≤ len.toInt) (hroom : len.toInt ≤ 200) :
    (len.toUInt32 + 4 + 4).toNat = len.toInt.toNat + 8 := by
  simp only [UInt32.toNat_add, length_word hlen, UInt32.reduceToNat, Nat.reducePow]
  omega

theorem sendtoPieces_length (sd : Int32) (buf : Mem) (flags : Int32) (dest : Mem)
    (h : tolen.toNat ≤ 200) :
    piecesLength (sendtoPieces sd buf len flags dest tolen) =
      24 + len.toInt.toNat + tolen.toNat := by
  simp only [sendtoPieces, piecesLength_uint32, piecesLength_array, piecesLength_nil,
    tolen_toInt h, Int.toNat_natCast]
  omega

theorem sendto_declared (hlen : 0 ≤ len.toInt) (hroom : 24 + len.toInt + tolen.toNat ≤ 200) :
    (24 + len.toUInt32.toUInt16 + tolen.toUInt16).toNat =
      24 + len.toInt.toNat + tolen.toNat := by
  simp only [UInt16.toNat_add, UInt32.toNat_toUInt16, length_word hlen, UInt16.reduceToNat,
    Nat.reducePow]
  omega

/-- Where the device looks for the address, and for how much of it. -/
theorem sendto_region (sd : Int32) (buf : Mem) (flags : Int32) (dest : Mem) (hlen : 0 ≤ len.toInt)
    (hroom : len.toInt ≤ 200) :
    (Locator.offset 16 20 0).region (laidOut (sendtoPieces sd buf len flags dest tolen)) =
      ⟨24 + len.toInt.toNat, 8⟩ := by
  have hat : wordAt (laidOut (sendtoPieces sd buf len flags dest tolen)) 16 =
      len.toUInt32 + 4 + 4 := wordAt_piece 4 rfl rfl
  have hcount : wordAt (laidOut (sendtoPieces sd buf len flags dest tolen)) 20 = 8 :=
    wordAt_piece 5 rfl rfl
  rw [Locator.region, hat, hcount, addrOffset_toNat hlen hroom]
  show Region.mk (16 + (len.toInt.toNat + 8) + 0 * 8) 8 = _
  congr 1
  omega

theorem sendto_laid (sd : Int32) (buf : Mem) (flags : Int32) (dest : Mem) (hlen : 0 ≤ len.toInt)
    (hroom : 24 + len.toInt + tolen.toNat ≤ 200) (hwhole : 8 ≤ tolen.toNat) :
    Laid ⟨[0, 8, 12, 20], [.offset 4 8 0, .offset 16 20 0]⟩
      (laidOut (sendtoPieces sd buf len flags dest tolen))
      [sd.toUInt32, len.toUInt32, flags.toUInt32, 8]
      [(24, buf.slice 0 len.toInt.toNat), (24 + len.toInt.toNat, dest.slice 0 8)] := by
  have hword := length_word hlen
  refine ⟨?_, ?_, ?_⟩
  · exact words_cons (wordAt_piece 0 rfl rfl) (words_cons (wordAt_piece 2 rfl rfl)
      (words_cons (wordAt_piece 3 rfl rfl) (words_cons (wordAt_piece 5 rfl rfl) rfl)))
  · have haddress : Placed (laidOut (sendtoPieces sd buf len flags dest tolen))
        (24 + len.toInt.toNat) (dest.slice 0 8) := by
      have hpiece : (Piece.array dest tolen.toInt32.toInt).content = dest.slice 0 tolen.toNat := by
        rw [Piece.content, tolen_toInt (by omega), Int.toNat_natCast]
      have hstart : piecesLength ((sendtoPieces sd buf len flags dest tolen).take 7) =
          24 + len.toInt.toNat := by
        simp only [sendtoPieces, List.take_succ_cons, List.take_zero, piecesLength_uint32,
          piecesLength_array, piecesLength_nil]
        omega
      have hplaced := (placed_piece 7 rfl hstart).take 8
      rw [hpiece, Mem.take_slice _ hwhole] at hplaced
      exact hplaced
    refine .cons (found_offset 6 rfl rfl rfl (wordAt_piece 1 rfl rfl) (wordAt_piece 2 rfl rfl)
      ?_ ?_) (.cons ⟨?_, haddress⟩ .nil)
    · rw [Nat.zero_mul]
      rfl
    · rw [hword, Mem.slice_length]
    · exact sendto_region sd buf flags dest hlen (by omega)
  · simp [Mem.slice_length]

theorem sendto_schema (args : List UInt8) :
    schemaOf ⟨hciTypeData, hciCmndSendto, args⟩ =
      some ⟨[0, 8, 12, 20], [.offset 4 8 0, .offset 16 20 0]⟩ := rfl

/-- **The address of `sendto`** is decoded exactly if the caller gives all of the
eight bytes that are announced. -/
theorem sendto_decodable_iff (sd : Int32) (buf : Mem) (flags : Int32) (dest : Mem)
    (hlen : 0 ≤ len.toInt) (hroom : 24 + len.toInt + tolen.toNat ≤ 200) :
    (Command.sendto 0 sd buf len flags dest tolen).Decodable
      ⟨hciCmndSendto, [sd.toUInt32, len.toUInt32, flags.toUInt32, 8],
        [buf.slice 0 len.toInt.toNat, dest.slice 0 8]⟩ ↔ 8 ≤ tolen.toNat := by
  have hpacket : (Command.sendto 0 sd buf len flags dest tolen).packet =
      some (.data hciCmndSendto.toUInt8 (sendtoPieces sd buf len flags dest tolen) 24
        (24 + len.toUInt32.toUInt16 + tolen.toUInt16)) := rfl
  have hlength : piecesLength (sendtoPieces sd buf len flags dest tolen) =
      24 + len.toInt.toNat + tolen.toNat := sendtoPieces_length sd buf flags dest (by omega)
  have hdeclared := sendto_declared hlen hroom
  constructor
  · intro hdecodable
    let tx : Mem := fun _ => cc3000BufferMagicNumber
    obtain ⟨f, hbuild, -, -, p, s, hunpack, hschema, -, hwithin⟩ := hdecodable tx rfl
    have hbuffer : 5 + piecesLength (sendtoPieces sd buf len flags dest tolen) ≤ 205 := by omega
    obtain ⟨hframe, -⟩ := built_of_room hpacket hbuffer (show TxOpen tx from rfl)
    obtain rfl := Outcome.frame.inj (hbuild.symm.trans hframe)
    have hargs : unpack ((Packet.data hciCmndSendto.toUInt8
        (sendtoPieces sd buf len flags dest tolen) 24
        (24 + len.toUInt32.toUInt16 + tolen.toUInt16)).toFrame tx).wire =
        some ⟨hciTypeData, hciCmndSendto, laidOut (sendtoPieces sd buf len flags dest tolen)⟩ :=
      unpack_data tx (hlength.trans hdeclared.symm) (by omega)
    obtain rfl := Option.some.inj (hunpack.symm.trans hargs)
    obtain rfl := Option.some.inj (hschema.symm.trans (sendto_schema _))
    -- the region of the address ends inside the declared arguments
    have haddress := hwithin _ (List.mem_map_of_mem (List.mem_cons_of_mem _ List.mem_cons_self))
    rw [sendto_region sd buf flags dest hlen (by omega)] at haddress
    change 24 + len.toInt.toNat + 8 ≤ piecesLength _ at haddress
    omega
  · intro hwhole
    exact decodable_data hpacket hlength (by omega) hdeclared rfl (sendto_schema _)
      (sendto_laid sd buf flags dest hlen hroom hwhole)

end

/-! All the calls. -/

theorem addProfile_decodable {ulSecType : UInt32} {ucSsid : Mem} {ulSsidLen : UInt32}
    {ucBssid : Option Mem} {ulPriority f g h : UInt32} {ucPfOrKey : Mem} {j : UInt32} {k : UInt16}
    {d : Decoded}
    (hmeant : (Command.wlanAddProfile ulSecType ucSsid ulSsidLen ucBssid ulPriority f g h ucPfOrKey
      j k).meant = some d)
    (hroom : (Command.wlanAddProfile ulSecType ucSsid ulSsidLen ucBssid ulPriority f g h ucPfOrKey
      j k).HasRoom) :
    (Command.wlanAddProfile ulSecType ucSsid ulSsidLen ucBssid ulPriority f g h ucPfOrKey
      j k).Decodable d := by
  cases ucBssid with
  | none => cases hmeant
  | some ucBssid =>
    by_cases hopen : ulSecType = 0
    · subst hopen
      cases hmeant
      exact openProfile_decodable ucSsid ulSsidLen ucBssid ulPriority f g h ucPfOrKey j k hroom
    · by_cases hwep : ulSecType = 1
      · subst hwep
        cases hmeant
        exact wepProfile_decodable ucSsid ulSsidLen ucBssid ulPriority f g h ucPfOrKey j k hroom
      · by_cases hwpa : ulSecType = 2 ∨ ulSecType = 3
        · rcases hwpa with rfl | rfl
          · cases hmeant
            exact wpaProfile_decodable (.inl rfl) ucSsid ulSsidLen ucBssid ulPriority f g h
              ucPfOrKey j k hroom
          · cases hmeant
            exact wpaProfile_decodable (.inr rfl) ucSsid ulSsidLen ucBssid ulPriority f g h
              ucPfOrKey j k hroom
        · -- no case of the switch
          obtain ⟨htwo, hthree⟩ := not_or.mp hwpa
          rw [Command.meant] at hmeant
          split at hmeant
          · next hzero => exact absurd (UInt32.toNat_inj.mp hzero) hopen
          · next hone => exact absurd (UInt32.toNat_inj.mp hone) hwep
          · next htwo' => exact absurd (UInt32.toNat_inj.mp htwo') htwo
          · next hthree' => exact absurd (UInt32.toNat_inj.mp hthree') hthree
          · cases hmeant

/-- **Variable-length commands are decodable.** From a call with byte strings that
has room in the buffer and builds a frame, the device decodes the opcode, the
scalar arguments and the strings, whatever the lengths; from `sendto` exactly if
the caller gives a whole address. -/
theorem decodable_iff (c : Command) {d : Decoded} (hmeant : c.meant = some d) (hroom : c.HasRoom)
    (hbuilds : c.packet ≠ none) : c.Decodable d ↔ c.WholeAddress := by
  cases c with
  | wlanConnect ulSecType ssid ssidLen bssid key keyLen =>
    cases bssid with
    | none => cases hmeant
    | some bssid =>
      cases key with
      | none => cases hmeant
      | some key =>
        cases hmeant
        obtain ⟨hssid, hkey, hroom⟩ := hroom
        exact iff_of_true
          (wlanConnect_decodable ulSecType ssid ssidLen bssid key keyLen hssid hkey hroom) trivial
  | wlanAddProfile ulSecType ucSsid ulSsidLen ucBssid ulPriority f g h ucPfOrKey j k =>
    exact iff_of_true (addProfile_decodable hmeant hroom) trivial
  | bind sd addr =>
    cases hmeant
    exact iff_of_true (bind_decodable sd addr) trivial
  | connect sd addr =>
    cases hmeant
    exact iff_of_true (connect_decodable sd addr) trivial
  | setsockopt sd level optname optval optlen =>
    cases hmeant
    exact iff_of_true (setsockopt_decodable sd level optname optval optlen hroom) trivial
  | gethostbyname hostname usNameLen =>
    cases hmeant
    exact iff_of_true (gethostbyname_decodable hostname usNameLen hroom) trivial
  | mdnsAdvertiser mdnsEnabled deviceServiceName n =>
    cases hmeant
    have haccepted : ¬ n > mdnsDeviceServiceMaxLength := by
      intro hlong
      exact hbuilds (by rw [Command.packet, if_pos hlong])
    exact iff_of_true
      (mdnsAdvertiser_decodable mdnsEnabled deviceServiceName n haccepted hroom) trivial
  | nvmemWrite ulFileId ulLength ulEntryOffset buff =>
    cases hmeant
    exact iff_of_true (nvmemWrite_decodable ulFileId ulLength ulEntryOffset buff hroom) trivial
  | send res sd buf len flags =>
    cases hmeant
    have hres : 0 = res := by
      by_contra hne
      exact hbuilds (by rw [Command.packet, if_pos hne])
    subst hres
    exact iff_of_true (send_decodable sd buf len flags hroom.1 hroom.2) trivial
  | sendto res sd buf len flags dest tolen =>
    cases hmeant
    have hres : 0 = res := by
      by_contra hne
      exact hbuilds (by rw [Command.packet, if_pos hne])
    subst hres
    exact sendto_decodable_iff sd buf flags dest hroom.1 hroom.2
  | _ => cases hmeant

/-- Joining a WPA2 network by its name and its key. -/
theorem decodable_joinNetwork :
    (Command.wlanConnect 3 (Mem.ofList [0x6E, 0x65, 0x74]) 3 (some bssidZero)
      (some (Mem.ofList [0x6B, 0x65, 0x79, 0x31])) 4).Decodable
      ⟨hciCmndWlanConnect, [3, 3, 4],
        [[0, 0, 0, 0, 0, 0], [0x6E, 0x65, 0x74], [0x6B, 0x65, 0x79, 0x31]]⟩ ↔ True :=
  decodable_iff _ rfl ⟨by decide, by decide, by decide⟩ (Option.some_ne_none _)

/-- **`sendto` announces more than it copies.** With four bytes of address the
device is told to read eight, behind the end of the arguments. -/
theorem not_decodable_shortAddress :
    ∃ c d, Command.meant c = some d ∧ c.HasRoom ∧ c.packet ≠ none ∧ ¬ c.Decodable d := by
  let dest : Mem := Mem.ofList [2, 0, 0, 80, 10, 0, 0, 1]
  refine ⟨.sendto 0 0 (Mem.ofList [0x68, 0x69]) 2 0 dest 4, _, rfl, ⟨by decide, by decide⟩,
    Option.some_ne_none _, ?_⟩
  intro hdecodable
  have hwhole : 8 ≤ (4 : UInt32).toNat :=
    (sendto_decodable_iff 0 (Mem.ofList [0x68, 0x69]) 0 dest (by decide) (by decide)).mp hdecodable
  exact absurd hwhole (by decide)

end SpiderL3S
