import SpiderL3S.Tx.Commands

/- What each command function stores and declares, as a `Packet`: the pieces
   in the order of the stores and the length passed to the send function.
   `Command.build_eq` connects the two: a call stores its pieces behind the
   header and hands the frame to `SpiWrite`. -/
namespace SpiderL3S

def Piece.uint8 (v : UInt8) : Piece := .bytes [v]
def Piece.uint16 (v : UInt16) : Piece := .bytes (uint16Bytes v)
def Piece.uint32 (v : UInt32) : Piece := .bytes (uint32Bytes v)

/-- The key of `wlan_connect`: stored when there is one and its length is not zero. -/
def wlanConnectKey (key : Option Mem) (keyLen : Int32) : List Piece :=
  if keyLen ≠ 0 then
    match key with
    | some key => [.array key keyLen.toInt]
    | none => []
  else []

/-- The timeout of `select`: stored when there is one. -/
def selectTimeoutPieces : Option (Int32 × Int32) → List Piece
  | some (tvSec, tvUsec) =>
    [.uint32 (selectTimeout tvSec tvUsec).1.toUInt32,
      .uint32 (selectTimeout tvSec tvUsec).2.toUInt32]
  | none => []

/-- The pieces of `wlan_add_profile` behind the security type, and the length
it declares before the cut to eight bits. -/
def wlanAddProfilePieces (ulSecType : UInt32) (ucSsid : Mem) (ulSsidLen : UInt32)
    (ucBssid : Option Mem) (ulPriority ulPairwiseCipherOrTxKeyLen ulGroupCipherTxKeyIndex
      ulKeyMgmt : UInt32) (ucPfOrKey : Mem) (ulPassPhraseLen : UInt32) (argLen : UInt16) :
    List Piece × UInt16 :=
  match ulSecType.toNat with
  | 0 =>
    ([.uint32 0x00000014, .uint32 ulSsidLen, .uint16 0, .array (ucBssid.getD bssidZero) ethAlen,
      .uint32 ulPriority, .array ucSsid ulSsidLen.toNat],
      (24 + ulSsidLen).toUInt16)
  | 1 =>
    let l := ulPairwiseCipherOrTxKeyLen
    ([.uint32 0x00000020, .uint32 ulSsidLen, .uint16 0, .array (ucBssid.getD bssidZero) ethAlen,
      .uint32 ulPriority, .uint32 (0x0000000C + ulSsidLen), .uint32 l,
      .uint32 ulGroupCipherTxKeyIndex, .array ucSsid ulSsidLen.toNat,
      .array (ucPfOrKey.drop (0 * l).toNat) l.toNat, .array (ucPfOrKey.drop (1 * l).toNat) l.toNat,
      .array (ucPfOrKey.drop (2 * l).toNat) l.toNat, .array (ucPfOrKey.drop (3 * l).toNat) l.toNat],
      (36 + ulSsidLen + l * 4).toUInt16)
  | 2 | 3 =>
    ([.uint32 0x00000028, .uint32 ulSsidLen, .uint16 0, .array (ucBssid.getD bssidZero) ethAlen,
      .uint32 ulPriority, .uint32 ulPairwiseCipherOrTxKeyLen, .uint32 ulGroupCipherTxKeyIndex,
      .uint32 ulKeyMgmt, .uint32 (0x00000008 + ulSsidLen), .uint32 ulPassPhraseLen,
      .array ucSsid ulSsidLen.toNat, .array ucPfOrKey ulPassPhraseLen.toNat],
      (44 + ulSsidLen + ulPassPhraseLen).toUInt16)
  | _ => ([], argLen)

def nvmemWritePacket (ulFileId ulLength ulEntryOffset : UInt32) (buff : Mem) : Packet :=
  .data hciCmndNvmemWrite.toUInt8
    [.uint32 ulFileId, .uint32 12, .uint32 ulLength, .uint32 ulEntryOffset,
      .bytes (buff.slice 0 ulLength.toUInt16.toNat)]
    16 (16 + ulLength.toUInt16)

/-- What a call stores and declares; `none` where it returns without a frame. -/
@[simp] def Command.packet : Command → Option Packet
  | simpleLinkInitStart p =>
    some (.command hciCmndSimpleLinkStart [.uint8 (if p ≠ 0 then 2 else 0)] 1)
  | wlanStartReadBufferSize => some (.command hciCmndReadBufferSize [] 0)
  | wlanConnect ulSecType ssid ssidLen bssid key keyLen =>
    some (.command hciCmndWlanConnect
      ([.uint32 0x0000001c, .uint32 ssidLen.toUInt32, .uint32 ulSecType,
        .uint32 (0x00000010 + ssidLen).toUInt32, .uint32 keyLen.toUInt32, .uint16 0,
        .array (bssid.getD bssidZero) ethAlen, .array ssid ssidLen.toInt] ++
        wlanConnectKey key keyLen)
      (wlanConnectParamLen + ssidLen + keyLen - 1).toUInt32.toUInt8)
  | wlanDisconnect => some (.command hciCmndWlanDisconnect [] 0)
  | wlanIoctlSetConnectionPolicy a b c =>
    some (.command hciCmndWlanIoctlSetConnectionPolicy [.uint32 a, .uint32 b, .uint32 c] 12)
  | wlanAddProfile a b c d e f g h i j k =>
    let profile := wlanAddProfilePieces a b c d e f g h i j k
    some (.command hciCmndWlanIoctlAddProfile (.uint32 a :: profile.1) profile.2.toUInt8)
  | wlanIoctlDelProfile ulIndex =>
    some (.command hciCmndWlanIoctlDelProfile [.uint32 ulIndex] 4)
  | wlanIoctlGetScanResults ulScanTimeout =>
    some (.command hciCmndWlanIoctlGetScanResults [.uint32 ulScanTimeout] 4)
  | wlanIoctlSetScanParams a b c d e f g h aiIntervalList =>
    some (.command hciCmndWlanIoctlSetScanparam
      [.uint32 36, .uint32 a, .uint32 b, .uint32 c, .uint32 d, .uint32 e, .uint32 f.toUInt32,
        .uint32 g, .uint32 h, .array aiIntervalList (4 * 16)] 100)
  | wlanSetEventMask ulMask =>
    let packet := fun ulMask => Packet.command hciCmndEventMask [.uint32 ulMask] 4
    let txComplete := hciEvntWlanTxComplete.toUInt32
    if ulMask &&& txComplete = txComplete then
      if ulMask = txComplete then none
      else some (packet
        (ulMask &&& (~~~hciEvntWlanTxComplete).toUInt32 ||| hciEvntWlanUnsolBase.toUInt32))
    else some (packet ulMask)
  | wlanIoctlStatusget => some (.command hciCmndWlanIoctlStatusget [] 0)
  | wlanSmartConfigStart algoEncryptedFlag =>
    some (.command hciCmndWlanIoctlSimpleConfigStart [.uint32 algoEncryptedFlag] 4)
  | wlanSmartConfigStop => some (.command hciCmndWlanIoctlSimpleConfigStop [] 0)
  | wlanSmartConfigSetPrefix none => none
  | wlanSmartConfigSetPrefix (some p) =>
    some (.command hciCmndWlanIoctlSimpleConfigSetPrefix
      [.array (p.store 0 [0x54, 0x54, 0x54]) 3] 3)
  | socket domain type protocol =>
    some (.command hciCmndSocket
      [.uint32 domain.toUInt32, .uint32 type.toUInt32, .uint32 protocol.toUInt32] 12)
  | closesocket sd => some (.command hciCmndCloseSocket [.uint32 sd.toUInt32] 4)
  | accept sd => some (.command hciCmndAccept [.uint32 sd.toUInt32] 4)
  | bind sd addr =>
    some (.command hciCmndBind [.uint32 sd.toUInt32, .uint32 8, .uint32 8, .array addr 8] 20)
  | listen sd backlog =>
    some (.command hciCmndListen [.uint32 sd.toUInt32, .uint32 backlog.toUInt32] 8)
  | gethostbyname hostname n =>
    if n > hostnameMaxLength then none
    else some (.command hciCmndGethostname
      [.uint32 8, .uint32 n.toUInt32, .array hostname n.toNat] (9 + n - 1).toUInt8)
  | connect sd addr =>
    some (.command hciCmndConnect [.uint32 sd.toUInt32, .uint32 8, .uint32 8, .array addr 8] 20)
  | select nfds readsds writesds exceptsds timeout =>
    some (.command hciCmndBsdSelect
      ([.uint32 nfds.toUInt32, .uint32 0x14, .uint32 0x14, .uint32 0x14, .uint32 0x14,
        .uint32 (if timeout = none then 1 else 0), .uint32 (readsds.getD 0),
        .uint32 (writesds.getD 0), .uint32 (exceptsds.getD 0)] ++ selectTimeoutPieces timeout) 44)
  | setsockopt sd level optname optval optlen =>
    some (.command hciCmndSetsockopt
      [.uint32 sd.toUInt32, .uint32 level.toUInt32, .uint32 optname.toUInt32, .uint32 8,
        .uint32 optlen, .array optval optlen.toNat] (20 + optlen).toUInt8)
  | getsockopt sd level optname =>
    some (.command hciCmndGetsockopt
      [.uint32 sd.toUInt32, .uint32 level.toUInt32, .uint32 optname.toUInt32] 12)
  | recv sd len flags =>
    some (.command hciCmndRecv
      [.uint32 sd.toUInt32, .uint32 len.toUInt32, .uint32 flags.toUInt32] 12)
  | recvfrom sd len flags =>
    some (.command hciCmndRecvfrom
      [.uint32 sd.toUInt32, .uint32 len.toUInt32, .uint32 flags.toUInt32] 12)
  | send res sd buf len flags =>
    if 0 ≠ res then none
    else some (.data hciCmndSend.toUInt8
      [.uint32 sd.toUInt32, .uint32 12, .uint32 len.toUInt32, .uint32 flags.toUInt32,
        .array buf len.toInt] 16 (16 + len.toUInt32.toUInt16 + 0))
  | sendto res sd buf len flags dest tolen =>
    if 0 ≠ res then none
    else some (.data hciCmndSendto.toUInt8
      [.uint32 sd.toUInt32, .uint32 20, .uint32 len.toUInt32, .uint32 flags.toUInt32,
        .uint32 (len.toUInt32 + 4 + 4), .uint32 8, .array buf len.toInt,
        .array dest tolen.toInt32.toInt] 24 (24 + len.toUInt32.toUInt16 + tolen.toUInt16))
  | mdnsAdvertiser mdnsEnabled deviceServiceName n =>
    if n > mdnsDeviceServiceMaxLength then none
    else some (.command hciCmndMdnsAdvertise
      [.uint32 mdnsEnabled.toUInt32, .uint32 8, .uint32 n.toUInt32,
        .array deviceServiceName n.toNat] (12 + n).toUInt8)
  | getmssvalue sd => some (.command hciCmndGetmssvalue [.uint32 sd.toUInt32] 4)
  | netappDhcp aucIP aucSubnetMask aucDefaultGateway aucDNSServer =>
    some (.command hciNetappDhcp
      [.array aucIP 4, .array aucSubnetMask 4, .array aucDefaultGateway 4, .uint32 0,
        .array aucDNSServer 4] 20)
  | netappTimeoutValues a b c d =>
    some (.command hciNetappSetTimers
      [.uint32 (minTimerSet a), .uint32 (minTimerSet b), .uint32 (minTimerSet c),
        .uint32 (minTimerSet d)] 20)
  | netappPingSend a b c d =>
    some (.command hciNetappPingSend [.uint32 a, .uint32 b, .uint32 c, .uint32 d] 16)
  | netappPingReport => some (.command hciNetappPingReport [] 0)
  | netappPingStop => some (.command hciNetappPingStop [] 0)
  | netappIpconfig => some (.command hciNetappIpconfig [] 0)
  | netappArpFlush => some (.command hciNetappArpFlush [] 0)
  | netappSetDebugLevel ulLevel => some (.command hciNetappSetDebugLevel [.uint32 ulLevel] 4)
  | nvmemRead a b c => some (.command hciCmndNvmemRead [.uint32 a, .uint32 b, .uint32 c] 12)
  | nvmemWrite a b c buff => some (nvmemWritePacket a b c buff)
  | nvmemSetMacAddress mac => some (nvmemWritePacket nvmemMacFileid macAddrLen 0 mac)
  | nvmemGetMacAddress =>
    some (.command hciCmndNvmemRead [.uint32 nvmemMacFileid, .uint32 macAddrLen, .uint32 0] 12)
  | nvmemReadSpVersion => some (.command hciCmndReadSpVersion [] 0)
  | nvmemCreateEntry a b =>
    some (.command hciCmndNvmemCreateEntry [.uint32 a, .uint32 b] 8)

/-- A packet that may be missing. -/
def Packet.runOption (r : Option Packet) (tx : Mem) : Outcome :=
  match r with
  | some r => r.run tx
  | none => .returned

theorem runOption_command (op : UInt16) (pieces : List Piece) (n : UInt8) (tx : Mem) :
    Packet.runOption (some (.command op pieces n)) tx =
      writePieces (cmdArgs tx) pieces (fun s => hciCommandSend op s n) := by
  simp only [hciCommandSend_eq]
  rfl

theorem runOption_data (op : UInt8) (pieces : List Piece) (a : UInt8) (n : UInt16) (tx : Mem) :
    Packet.runOption (some (.data op pieces a n)) tx =
      writePieces (dataArgs tx) pieces (sendFrame (dataHeader op a n) n) := rfl

/-! A store of the source is a piece. -/

@[simp] theorem writePieces_nil (s : Stream) (next : Stream → Outcome) :
    writePieces s [] next = next s := rfl
@[simp] theorem writePieces_uint8 (s : Stream) (v : UInt8) (ps : List Piece)
    (next : Stream → Outcome) :
    writePieces s (.uint8 v :: ps) next = writePieces (uint8ToStream s v) ps next := rfl
@[simp] theorem writePieces_uint16 (s : Stream) (v : UInt16) (ps : List Piece)
    (next : Stream → Outcome) :
    writePieces s (.uint16 v :: ps) next = writePieces (uint16ToStream s v) ps next := rfl
@[simp] theorem writePieces_uint32 (s : Stream) (v : UInt32) (ps : List Piece)
    (next : Stream → Outcome) :
    writePieces s (.uint32 v :: ps) next = writePieces (uint32ToStream s v) ps next := rfl
@[simp] theorem writePieces_array (s : Stream) (a : Mem) (l : Int) (ps : List Piece)
    (next : Stream → Outcome) :
    writePieces s (.array a l :: ps) next = afterArray s a l fun s => writePieces s ps next := rfl

theorem wlanConnect_eq (ulSecType : UInt32) (ssid : Mem) (ssidLen : Int32)
    (bssid key : Option Mem) (keyLen : Int32) (tx : Mem) :
    wlanConnect ulSecType ssid ssidLen bssid key keyLen tx =
      Packet.runOption (Command.wlanConnect ulSecType ssid ssidLen bssid key keyLen).packet tx := by
  simp only [wlanConnect, Command.packet, runOption_command, wlanConnectKey, List.cons_append,
    List.nil_append, writePieces_uint32, writePieces_uint16, writePieces_array]
  by_cases h : keyLen ≠ 0
  · cases key <;> simp only [if_pos h, writePieces_array, writePieces_nil]
  · simp only [if_neg h, writePieces_nil]

theorem wlanAddProfile_eq (a : UInt32) (b : Mem) (c : UInt32) (d : Option Mem) (e f g h : UInt32)
    (i : Mem) (j : UInt32) (k : UInt16) (tx : Mem) :
    wlanAddProfile a b c d e f g h i j k tx =
      Packet.runOption (Command.wlanAddProfile a b c d e f g h i j k).packet tx := by
  simp only [wlanAddProfile, Command.packet, runOption_command, wlanAddProfilePieces]
  generalize a.toNat = n
  rcases n with _ | _ | _ | _ | n <;>
    simp only [writePieces_uint32, writePieces_uint16, writePieces_array, writePieces_nil]

theorem select_eq (nfds : Int32) (r w e : Option UInt32) (timeout : Option (Int32 × Int32))
    (tx : Mem) :
    select nfds r w e timeout tx =
      Packet.runOption (Command.select nfds r w e timeout).packet tx := by
  simp only [select, Command.packet, runOption_command, List.cons_append, List.nil_append,
    writePieces_uint32]
  cases timeout <;> simp only [selectTimeoutPieces, writePieces_uint32, writePieces_nil]

theorem nvmemWrite_eq (ulFileId ulLength ulEntryOffset : UInt32) (buff tx : Mem) :
    nvmemWrite ulFileId ulLength ulEntryOffset buff tx =
      Packet.runOption (some (nvmemWritePacket ulFileId ulLength ulEntryOffset buff)) tx := by
  simp only [nvmemWrite, hciDataCommandSend_eq, nvmemWritePacket, runOption_data,
    writePieces_uint32]
  rfl

theorem simpleLinkRecv_eq (sd len flags : Int32) (opcode : UInt16) (tx : Mem) :
    simpleLinkRecv sd len flags opcode tx =
      Packet.runOption (some (.command opcode
        [.uint32 sd.toUInt32, .uint32 len.toUInt32, .uint32 flags.toUInt32] 12)) tx := by
  simp only [simpleLinkRecv, runOption_command, writePieces_uint32, writePieces_nil]

theorem send_eq (res : Int16) (sd : Int32) (buf : Mem) (len flags : Int32) (tx : Mem) :
    send res sd buf len flags tx =
      Packet.runOption (Command.send res sd buf len flags).packet tx := by
  by_cases h : 0 ≠ res
  · simp only [send, Command.packet, if_pos h]; rfl
  · simp only [send, Command.packet, if_neg h, hciDataSend_eq, runOption_data,
      writePieces_uint32, writePieces_array, writePieces_nil]
    rfl

theorem sendto_eq (res : Int16) (sd : Int32) (buf : Mem) (len flags : Int32) (dest : Mem)
    (tolen : UInt32) (tx : Mem) :
    sendto res sd buf len flags dest tolen tx =
      Packet.runOption (Command.sendto res sd buf len flags dest tolen).packet tx := by
  by_cases h : 0 ≠ res
  · simp only [sendto, Command.packet, if_pos h]; rfl
  · simp only [sendto, Command.packet, if_neg h, hciDataSend_eq, runOption_data,
      writePieces_uint32, writePieces_array, writePieces_nil]
    rfl

theorem wlanSetEventMask_eq (ulMask : UInt32) (tx : Mem) :
    wlanSetEventMask ulMask tx =
      Packet.runOption (Command.wlanSetEventMask ulMask).packet tx := by
  simp only [wlanSetEventMask, Command.packet]
  split
  · split
    · rfl
    · simp only [runOption_command, writePieces_uint32, writePieces_nil]
  · simp only [runOption_command, writePieces_uint32, writePieces_nil]

theorem gethostbyname_eq (hostname : Mem) (n : UInt16) (tx : Mem) :
    gethostbyname hostname n tx =
      Packet.runOption (Command.gethostbyname hostname n).packet tx := by
  simp only [gethostbyname, Command.packet]
  split
  · rfl
  · simp only [runOption_command, writePieces_uint32, writePieces_array, writePieces_nil]

theorem mdnsAdvertiser_eq (mdnsEnabled : UInt16) (name : Mem) (n : UInt16) (tx : Mem) :
    mdnsAdvertiser mdnsEnabled name n tx =
      Packet.runOption (Command.mdnsAdvertiser mdnsEnabled name n).packet tx := by
  simp only [mdnsAdvertiser, Command.packet]
  split
  · rfl
  · simp only [runOption_command, writePieces_uint32, writePieces_array, writePieces_nil]

/-- **A call stores the pieces of its packet and hands the frame to
`SpiWrite`.** -/
theorem build_eq_packet (c : Command) (tx : Mem) :
    c.build tx = Packet.runOption c.packet tx := by
  cases c with
  | wlanConnect a b c d e f => exact wlanConnect_eq a b c d e f tx
  | wlanAddProfile a b c d e f g h i j k => exact wlanAddProfile_eq a b c d e f g h i j k tx
  | wlanSetEventMask a => exact wlanSetEventMask_eq a tx
  | wlanSmartConfigSetPrefix p =>
    cases p with
    | none => rfl
    | some p =>
      simp only [Command.packet, runOption_command, writePieces_array, writePieces_nil]
      rfl
  | gethostbyname a b => exact gethostbyname_eq a b tx
  | select a b c d e => exact select_eq a b c d e tx
  | recv a b c => exact simpleLinkRecv_eq a b c hciCmndRecv tx
  | recvfrom a b c => exact simpleLinkRecv_eq a b c hciCmndRecvfrom tx
  | send a b c d e => exact send_eq a b c d e tx
  | sendto a b c d e f g => exact sendto_eq a b c d e f g tx
  | mdnsAdvertiser a b c => exact mdnsAdvertiser_eq a b c tx
  | nvmemWrite a b c d => exact nvmemWrite_eq a b c d tx
  | nvmemSetMacAddress a => exact nvmemWrite_eq nvmemMacFileid macAddrLen 0 a tx
  -- the rest stores without a branch and sends one command packet
  | _ =>
    simp only [Command.packet, runOption_command, writePieces_uint8, writePieces_uint32,
      writePieces_array, writePieces_nil]
    rfl

end SpiderL3S
