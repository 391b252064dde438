import SpiderL3S.Tx.Frame

/- The functions that build a frame: `wlan.c`, `socket.c`, `netapp.c` and
   `nvmem.c` up to the call of `hci_command_send`, `hci_data_send` or
   `hci_data_command_send`. Each is a pipeline over the write cursor, ended by
   the send function and what SpiWrite makes of it. A pointer that the source
   compares with NULL is an `Option`; one it only reads behind is memory; a
   pointer to a single value is that value. `Command` gathers the calls of
   these functions, and `Command.packet` says for each what it stores and what
   it declares. -/
namespace SpiderL3S

/-- The start of the arguments of a command packet. -/
abbrev cmdArgs (tx : Mem) : Stream := txArgs simpleLinkHciCmndHeaderSize tx

/-- The start of the arguments of a data packet. -/
abbrev dataArgs (tx : Mem) : Stream := txArgs hciDataHeaderSize tx

/-! `wlan.c` -/

abbrev ethAlen : Int := 6
abbrev wlanConnectParamLen : Int32 := 29

/-- `bssid_zero`. -/
def bssidZero : Mem := fun _ => 0

def simpleLinkInitStart (usPatchesAvailableAtHost : UInt16) (tx : Mem) : Outcome :=
  let args := uint8ToStream (cmdArgs tx) (if usPatchesAvailableAtHost ≠ 0 then 2 else 0)
  hciCommandSend hciCmndSimpleLinkStart args 1

/-- The second command of `wlan_start`. -/
def wlanStartReadBufferSize (tx : Mem) : Outcome :=
  hciCommandSend hciCmndReadBufferSize (cmdArgs tx) 0

def wlanConnect (ulSecType : UInt32) (ssid : Mem) (ssidLen : Int32) (bssid key : Option Mem)
    (keyLen : Int32) (tx : Mem) : Outcome :=
  let args := uint32ToStream (cmdArgs tx) 0x0000001c
  let args := uint32ToStream args ssidLen.toUInt32
  let args := uint32ToStream args ulSecType
  let args := uint32ToStream args (0x00000010 + ssidLen).toUInt32
  let args := uint32ToStream args keyLen.toUInt32
  let args := uint16ToStream args 0
  afterArray args (bssid.getD bssidZero) ethAlen fun args =>
  afterArray args ssid ssidLen.toInt fun args =>
  let send := fun args => hciCommandSend hciCmndWlanConnect args
    (wlanConnectParamLen + ssidLen + keyLen - 1).toUInt32.toUInt8
  if keyLen ≠ 0 then
    match key with
    | some key => afterArray args key keyLen.toInt send
    | none => send args
  else send args

def wlanDisconnect (tx : Mem) : Outcome := hciCommandSend hciCmndWlanDisconnect (cmdArgs tx) 0

def wlanIoctlSetConnectionPolicy
    (shouldConnectToOpenAp ulShouldUseFastConnect ulUseProfiles : UInt32) (tx : Mem) : Outcome :=
  let args := uint32ToStream (cmdArgs tx) shouldConnectToOpenAp
  let args := uint32ToStream args ulShouldUseFastConnect
  let args := uint32ToStream args ulUseProfiles
  hciCommandSend hciCmndWlanIoctlSetConnectionPolicy args 12

/-- `wlan_add_profile`. A security type above `WLAN_SEC_WPA2` matches no case
of the switch: `argLen` is what the uninitialised `arg_len` then holds. -/
def wlanAddProfile (ulSecType : UInt32) (ucSsid : Mem) (ulSsidLen : UInt32)
    (ucBssid : Option Mem) (ulPriority ulPairwiseCipherOrTxKeyLen ulGroupCipherTxKeyIndex
      ulKeyMgmt : UInt32) (ucPfOrKey : Mem) (ulPassPhraseLen : UInt32) (argLen : UInt16)
    (tx : Mem) : Outcome :=
  let send := fun (argLen : UInt16) args =>
    hciCommandSend hciCmndWlanIoctlAddProfile args argLen.toUInt8
  let args := uint32ToStream (cmdArgs tx) ulSecType
  match ulSecType.toNat with
  | 0 =>
    let args := uint32ToStream args 0x00000014
    let args := uint32ToStream args ulSsidLen
    let args := uint16ToStream args 0
    afterArray args (ucBssid.getD bssidZero) ethAlen fun args =>
    let args := uint32ToStream args ulPriority
    afterArray args ucSsid ulSsidLen.toNat fun args =>
    send (24 + ulSsidLen).toUInt16 args
  | 1 =>
    let args := uint32ToStream args 0x00000020
    let args := uint32ToStream args ulSsidLen
    let args := uint16ToStream args 0
    afterArray args (ucBssid.getD bssidZero) ethAlen fun args =>
    let args := uint32ToStream args ulPriority
    let args := uint32ToStream args (0x0000000C + ulSsidLen)
    let args := uint32ToStream args ulPairwiseCipherOrTxKeyLen
    let args := uint32ToStream args ulGroupCipherTxKeyIndex
    let l := ulPairwiseCipherOrTxKeyLen
    afterArray args ucSsid ulSsidLen.toNat fun args =>
    afterArray args (ucPfOrKey.drop (0 * l).toNat) l.toNat fun args =>
    afterArray args (ucPfOrKey.drop (1 * l).toNat) l.toNat fun args =>
    afterArray args (ucPfOrKey.drop (2 * l).toNat) l.toNat fun args =>
    afterArray args (ucPfOrKey.drop (3 * l).toNat) l.toNat fun args =>
    send (36 + ulSsidLen + ulPairwiseCipherOrTxKeyLen * 4).toUInt16 args
  | 2 | 3 =>
    let args := uint32ToStream args 0x00000028
    let args := uint32ToStream args ulSsidLen
    let args := uint16ToStream args 0
    afterArray args (ucBssid.getD bssidZero) ethAlen fun args =>
    let args := uint32ToStream args ulPriority
    let args := uint32ToStream args ulPairwiseCipherOrTxKeyLen
    let args := uint32ToStream args ulGroupCipherTxKeyIndex
    let args := uint32ToStream args ulKeyMgmt
    let args := uint32ToStream args (0x00000008 + ulSsidLen)
    let args := uint32ToStream args ulPassPhraseLen
    afterArray args ucSsid ulSsidLen.toNat fun args =>
    afterArray args ucPfOrKey ulPassPhraseLen.toNat fun args =>
    send (44 + ulSsidLen + ulPassPhraseLen).toUInt16 args
  | _ => send argLen args

def wlanIoctlDelProfile (ulIndex : UInt32) (tx : Mem) : Outcome :=
  hciCommandSend hciCmndWlanIoctlDelProfile (uint32ToStream (cmdArgs tx) ulIndex) 4

def wlanIoctlGetScanResults (ulScanTimeout : UInt32) (tx : Mem) : Outcome :=
  hciCommandSend hciCmndWlanIoctlGetScanResults (uint32ToStream (cmdArgs tx) ulScanTimeout) 4

def wlanIoctlSetScanParams (uiEnable uiMinDwellTime uiMaxDwellTime uiNumOfProbeRequests
    uiChannelMask : UInt32) (iRSSIThreshold : Int32) (uiSNRThreshold uiDefaultTxPower : UInt32)
    (aiIntervalList : Mem) (tx : Mem) : Outcome :=
  let args := uint32ToStream (cmdArgs tx) 36
  let args := uint32ToStream args uiEnable
  let args := uint32ToStream args uiMinDwellTime
  let args := uint32ToStream args uiMaxDwellTime
  let args := uint32ToStream args uiNumOfProbeRequests
  let args := uint32ToStream args uiChannelMask
  let args := uint32ToStream args iRSSIThreshold.toUInt32
  let args := uint32ToStream args uiSNRThreshold
  let args := uint32ToStream args uiDefaultTxPower
  afterArray args aiIntervalList (4 * 16) fun args =>
  hciCommandSend hciCmndWlanIoctlSetScanparam args 100

/-- `wlan_set_event_mask`. The complement of the TX-complete bits is taken in
16 bits, the width of an `int` on the boards of the library. -/
def wlanSetEventMask (ulMask : UInt32) (tx : Mem) : Outcome :=
  let txComplete := hciEvntWlanTxComplete.toUInt32
  let send := fun ulMask => hciCommandSend hciCmndEventMask (uint32ToStream (cmdArgs tx) ulMask) 4
  if ulMask &&& txComplete = txComplete then
    if ulMask = txComplete then .returned
    else send (ulMask &&& (~~~hciEvntWlanTxComplete).toUInt32 ||| hciEvntWlanUnsolBase.toUInt32)
  else send ulMask

def wlanIoctlStatusget (tx : Mem) : Outcome :=
  hciCommandSend hciCmndWlanIoctlStatusget (cmdArgs tx) 0

def wlanSmartConfigStart (algoEncryptedFlag : UInt32) (tx : Mem) : Outcome :=
  hciCommandSend hciCmndWlanIoctlSimpleConfigStart (uint32ToStream (cmdArgs tx) algoEncryptedFlag) 4

def wlanSmartConfigStop (tx : Mem) : Outcome :=
  hciCommandSend hciCmndWlanIoctlSimpleConfigStop (cmdArgs tx) 0

def wlanSmartConfigSetPrefix (cNewPrefix : Option Mem) (tx : Mem) : Outcome :=
  match cNewPrefix with
  | none => .returned
  | some p =>
    let p := p.store 0 [0x54, 0x54, 0x54]
    afterArray (cmdArgs tx) p 3 fun args =>
    hciCommandSend hciCmndWlanIoctlSimpleConfigSetPrefix args 3

/-! `socket.c` -/

def socket (domain type protocol : Int32) (tx : Mem) : Outcome :=
  let args := uint32ToStream (cmdArgs tx) domain.toUInt32
  let args := uint32ToStream args type.toUInt32
  let args := uint32ToStream args protocol.toUInt32
  hciCommandSend hciCmndSocket args 12

def closesocket (sd : Int32) (tx : Mem) : Outcome :=
  hciCommandSend hciCmndCloseSocket (uint32ToStream (cmdArgs tx) sd.toUInt32) 4

def accept (sd : Int32) (tx : Mem) : Outcome :=
  hciCommandSend hciCmndAccept (uint32ToStream (cmdArgs tx) sd.toUInt32) 4

def bind (sd : Int32) (addr : Mem) (tx : Mem) : Outcome :=
  let args := uint32ToStream (cmdArgs tx) sd.toUInt32
  let args := uint32ToStream args 0x00000008
  let args := uint32ToStream args 8
  afterArray args addr 8 fun args => hciCommandSend hciCmndBind args 20

def listen (sd backlog : Int32) (tx : Mem) : Outcome :=
  let args := uint32ToStream (cmdArgs tx) sd.toUInt32
  let args := uint32ToStream args backlog.toUInt32
  hciCommandSend hciCmndListen args 8

abbrev hostnameMaxLength : UInt16 := 230

def gethostbyname (hostname : Mem) (usNameLen : UInt16) (tx : Mem) : Outcome :=
  if usNameLen > hostnameMaxLength then .returned
  else
    let args := uint32ToStream (cmdArgs tx) 8
    let args := uint32ToStream args usNameLen.toUInt32
    afterArray args hostname usNameLen.toNat fun args =>
    hciCommandSend hciCmndGethostname args (9 + usNameLen - 1).toUInt8

def connect (sd : Int32) (addr : Mem) (tx : Mem) : Outcome :=
  let args := uint32ToStream (cmdArgs tx) sd.toUInt32
  let args := uint32ToStream args 0x00000008
  let args := uint32ToStream args 8
  afterArray args addr 8 fun args => hciCommandSend hciCmndConnect args 20

abbrev selectTimeoutMinMicroSeconds : Int32 := 5000

/-- The seconds and microseconds `select` stores for a timeout. -/
def selectTimeout (tvSec tvUsec : Int32) : Int32 × Int32 :=
  if 0 = tvSec ∧ tvUsec < selectTimeoutMinMicroSeconds then (tvSec, selectTimeoutMinMicroSeconds)
  else (tvSec, tvUsec)

def select (nfds : Int32) (readsds writesds exceptsds : Option UInt32)
    (timeout : Option (Int32 × Int32)) (tx : Mem) : Outcome :=
  let isBlocking : UInt32 := if timeout = none then 1 else 0
  let args := uint32ToStream (cmdArgs tx) nfds.toUInt32
  let args := uint32ToStream args 0x00000014
  let args := uint32ToStream args 0x00000014
  let args := uint32ToStream args 0x00000014
  let args := uint32ToStream args 0x00000014
  let args := uint32ToStream args isBlocking
  let args := uint32ToStream args (readsds.getD 0)
  let args := uint32ToStream args (writesds.getD 0)
  let args := uint32ToStream args (exceptsds.getD 0)
  let args := match timeout with
    | some (tvSec, tvUsec) =>
      let args := uint32ToStream args (selectTimeout tvSec tvUsec).1.toUInt32
      uint32ToStream args (selectTimeout tvSec tvUsec).2.toUInt32
    | none => args
  hciCommandSend hciCmndBsdSelect args 44

def setsockopt (sd level optname : Int32) (optval : Mem) (optlen : UInt32) (tx : Mem) : Outcome :=
  let args := uint32ToStream (cmdArgs tx) sd.toUInt32
  let args := uint32ToStream args level.toUInt32
  let args := uint32ToStream args optname.toUInt32
  let args := uint32ToStream args 0x00000008
  let args := uint32ToStream args optlen
  afterArray args optval optlen.toNat fun args =>
  hciCommandSend hciCmndSetsockopt args (20 + optlen).toUInt8

def getsockopt (sd level optname : Int32) (tx : Mem) : Outcome :=
  let args := uint32ToStream (cmdArgs tx) sd.toUInt32
  let args := uint32ToStream args level.toUInt32
  let args := uint32ToStream args optname.toUInt32
  hciCommandSend hciCmndGetsockopt args 12

def simpleLinkRecv (sd len flags : Int32) (opcode : UInt16) (tx : Mem) : Outcome :=
  let args := uint32ToStream (cmdArgs tx) sd.toUInt32
  let args := uint32ToStream args len.toUInt32
  let args := uint32ToStream args flags.toUInt32
  hciCommandSend opcode args 12

def recv (sd len flags : Int32) (tx : Mem) : Outcome := simpleLinkRecv sd len flags hciCmndRecv tx

def recvfrom (sd len flags : Int32) (tx : Mem) : Outcome :=
  simpleLinkRecv sd len flags hciCmndRecvfrom tx

/-- `simple_link_send` with the opcode of `send`. `res` is what
`HostFlowControlConsumeBuff` returns. -/
def send (res : Int16) (sd : Int32) (buf : Mem) (len flags : Int32) (tx : Mem) : Outcome :=
  if 0 ≠ res then .returned
  else
    let uArgSize : UInt16 := 16
    let args := uint32ToStream (dataArgs tx) sd.toUInt32
    let args := uint32ToStream args (uArgSize - 4).toUInt32
    let args := uint32ToStream args len.toUInt32
    let args := uint32ToStream args flags.toUInt32
    let pDataPtr := { args with ptr := headersSizeData + 16 }
    afterArray pDataPtr buf len.toInt fun s =>
    hciDataSend hciCmndSend.toUInt8 s uArgSize len.toUInt32.toUInt16 0

/-- `simple_link_send` with the opcode of `sendto`: the length of the address
arrives as a signed number. -/
def sendto (res : Int16) (sd : Int32) (buf : Mem) (len flags : Int32) (dest : Mem) (tolen : UInt32)
    (tx : Mem) : Outcome :=
  if 0 ≠ res then .returned
  else
    let uArgSize : UInt16 := 24
    let addrOffset := len.toUInt32 + 4 + 4
    let args := uint32ToStream (dataArgs tx) sd.toUInt32
    let args := uint32ToStream args (uArgSize - 4).toUInt32
    let args := uint32ToStream args len.toUInt32
    let args := uint32ToStream args flags.toUInt32
    let args := uint32ToStream args addrOffset
    let args := uint32ToStream args 8
    let pDataPtr := { args with ptr := headersSizeData + 24 }
    afterArray pDataPtr buf len.toInt fun s =>
    afterArray s dest tolen.toInt32.toInt fun s =>
    hciDataSend hciCmndSendto.toUInt8 s uArgSize len.toUInt32.toUInt16 tolen.toUInt16

abbrev mdnsDeviceServiceMaxLength : UInt16 := 32

def mdnsAdvertiser (mdnsEnabled : UInt16) (deviceServiceName : Mem)
    (deviceServiceNameLength : UInt16) (tx : Mem) : Outcome :=
  if deviceServiceNameLength > mdnsDeviceServiceMaxLength then .returned
  else
    let args := uint32ToStream (cmdArgs tx) mdnsEnabled.toUInt32
    let args := uint32ToStream args 8
    let args := uint32ToStream args deviceServiceNameLength.toUInt32
    afterArray args deviceServiceName deviceServiceNameLength.toNat fun args =>
    hciCommandSend hciCmndMdnsAdvertise args (12 + deviceServiceNameLength).toUInt8

def getmssvalue (sd : Int32) (tx : Mem) : Outcome :=
  hciCommandSend hciCmndGetmssvalue (uint32ToStream (cmdArgs tx) sd.toUInt32) 4

/-! `netapp.c` -/

def netappDhcp (aucIP aucSubnetMask aucDefaultGateway aucDNSServer : Mem) (tx : Mem) : Outcome :=
  afterArray (cmdArgs tx) aucIP 4 fun args =>
  afterArray args aucSubnetMask 4 fun args =>
  afterArray args aucDefaultGateway 4 fun args =>
  let args := uint32ToStream args 0
  afterArray args aucDNSServer 4 fun args =>
  hciCommandSend hciNetappDhcp args 20

/-- `MIN_TIMER_SET`. -/
def minTimerSet (t : UInt32) : UInt32 := if 0 ≠ t ∧ t < 10 then 10 else t

def netappTimeoutValues (aucDHCP aucARP aucKeepalive aucInactivity : UInt32) (tx : Mem) : Outcome :=
  let args := uint32ToStream (cmdArgs tx) (minTimerSet aucDHCP)
  let args := uint32ToStream args (minTimerSet aucARP)
  let args := uint32ToStream args (minTimerSet aucKeepalive)
  let args := uint32ToStream args (minTimerSet aucInactivity)
  hciCommandSend hciNetappSetTimers args 20

def netappPingSend (ip ulPingAttempts ulPingSize ulPingTimeout : UInt32) (tx : Mem) : Outcome :=
  let args := uint32ToStream (cmdArgs tx) ip
  let args := uint32ToStream args ulPingAttempts
  let args := uint32ToStream args ulPingSize
  let args := uint32ToStream args ulPingTimeout
  hciCommandSend hciNetappPingSend args 16

def netappPingReport (tx : Mem) : Outcome := hciCommandSend hciNetappPingReport (cmdArgs tx) 0
def netappPingStop (tx : Mem) : Outcome := hciCommandSend hciNetappPingStop (cmdArgs tx) 0
def netappIpconfig (tx : Mem) : Outcome := hciCommandSend hciNetappIpconfig (cmdArgs tx) 0
def netappArpFlush (tx : Mem) : Outcome := hciCommandSend hciNetappArpFlush (cmdArgs tx) 0

def netappSetDebugLevel (ulLevel : UInt32) (tx : Mem) : Outcome :=
  hciCommandSend hciNetappSetDebugLevel (uint32ToStream (cmdArgs tx) ulLevel) 4

/-! `nvmem.c` -/

abbrev nvmemMacFileid : UInt32 := 6
abbrev macAddrLen : UInt32 := 6
abbrev spPortionSize : UInt32 := 32

def nvmemRead (ulFileId ulLength ulOffset : UInt32) (tx : Mem) : Outcome :=
  let args := uint32ToStream (cmdArgs tx) ulFileId
  let args := uint32ToStream args ulLength
  let args := uint32ToStream args ulOffset
  hciCommandSend hciCmndNvmemRead args 12

/-- `nvmem_write`. `memcpy` takes its length as a `size_t`, 16 bits on the
boards of the library. -/
def nvmemWrite (ulFileId ulLength ulEntryOffset : UInt32) (buff : Mem) (tx : Mem) : Outcome :=
  let args := uint32ToStream (dataArgs tx) ulFileId
  let args := uint32ToStream args 12
  let args := uint32ToStream args ulLength
  let args := uint32ToStream args ulEntryOffset
  let s := { args with ptr := spiHeaderSize + hciDataCmdHeaderSize + 16 }.put
    (buff.slice 0 ulLength.toUInt16.toNat)
  hciDataCommandSend hciCmndNvmemWrite s 16 ulLength.toUInt16

def nvmemSetMacAddress (mac : Mem) (tx : Mem) : Outcome :=
  nvmemWrite nvmemMacFileid macAddrLen 0 mac tx

def nvmemGetMacAddress (tx : Mem) : Outcome := nvmemRead nvmemMacFileid macAddrLen 0 tx

def nvmemReadSpVersion (tx : Mem) : Outcome := hciCommandSend hciCmndReadSpVersion (cmdArgs tx) 0

def nvmemCreateEntry (ulFileId ulNewLen : UInt32) (tx : Mem) : Outcome :=
  let args := uint32ToStream (cmdArgs tx) ulFileId
  let args := uint32ToStream args ulNewLen
  hciCommandSend hciCmndNvmemCreateEntry args 8

/-! The calls of all these functions. -/

inductive Command
  | simpleLinkInitStart (usPatchesAvailableAtHost : UInt16)
  | wlanStartReadBufferSize
  | wlanConnect (ulSecType : UInt32) (ssid : Mem) (ssidLen : Int32) (bssid key : Option Mem)
      (keyLen : Int32)
  | wlanDisconnect
  | wlanIoctlSetConnectionPolicy
      (shouldConnectToOpenAp ulShouldUseFastConnect ulUseProfiles : UInt32)
  | wlanAddProfile (ulSecType : UInt32) (ucSsid : Mem) (ulSsidLen : UInt32)
      (ucBssid : Option Mem) (ulPriority ulPairwiseCipherOrTxKeyLen ulGroupCipherTxKeyIndex
        ulKeyMgmt : UInt32) (ucPfOrKey : Mem) (ulPassPhraseLen : UInt32) (argLen : UInt16)
  | wlanIoctlDelProfile (ulIndex : UInt32)
  | wlanIoctlGetScanResults (ulScanTimeout : UInt32)
  | wlanIoctlSetScanParams (uiEnable uiMinDwellTime uiMaxDwellTime uiNumOfProbeRequests
      uiChannelMask : UInt32) (iRSSIThreshold : Int32) (uiSNRThreshold uiDefaultTxPower : UInt32)
      (aiIntervalList : Mem)
  | wlanSetEventMask (ulMask : UInt32)
  | wlanIoctlStatusget
  | wlanSmartConfigStart (algoEncryptedFlag : UInt32)
  | wlanSmartConfigStop
  | wlanSmartConfigSetPrefix (cNewPrefix : Option Mem)
  | socket (domain type protocol : Int32)
  | closesocket (sd : Int32)
  | accept (sd : Int32)
  | bind (sd : Int32) (addr : Mem)
  | listen (sd backlog : Int32)
  | gethostbyname (hostname : Mem) (usNameLen : UInt16)
  | connect (sd : Int32) (addr : Mem)
  | select (nfds : Int32) (readsds writesds exceptsds : Option UInt32)
      (timeout : Option (Int32 × Int32))
  | setsockopt (sd level optname : Int32) (optval : Mem) (optlen : UInt32)
  | getsockopt (sd level optname : Int32)
  | recv (sd len flags : Int32)
  | recvfrom (sd len flags : Int32)
  | send (res : Int16) (sd : Int32) (buf : Mem) (len flags : Int32)
  | sendto (res : Int16) (sd : Int32) (buf : Mem) (len flags : Int32) (dest : Mem)
      (tolen : UInt32)
  | mdnsAdvertiser (mdnsEnabled : UInt16) (deviceServiceName : Mem)
      (deviceServiceNameLength : UInt16)
  | getmssvalue (sd : Int32)
  | netappDhcp (aucIP aucSubnetMask aucDefaultGateway aucDNSServer : Mem)
  | netappTimeoutValues (aucDHCP aucARP aucKeepalive aucInactivity : UInt32)
  | netappPingSend (ip ulPingAttempts ulPingSize ulPingTimeout : UInt32)
  | netappPingReport
  | netappPingStop
  | netappIpconfig
  | netappArpFlush
  | netappSetDebugLevel (ulLevel : UInt32)
  | nvmemRead (ulFileId ulLength ulOffset : UInt32)
  | nvmemWrite (ulFileId ulLength ulEntryOffset : UInt32) (buff : Mem)
  | nvmemSetMacAddress (mac : Mem)
  | nvmemGetMacAddress
  | nvmemReadSpVersion
  | nvmemCreateEntry (ulFileId ulNewLen : UInt32)

/-- The call, on a transmit buffer that holds `tx`. -/
def Command.build : Command → Mem → Outcome
  | simpleLinkInitStart p => SpiderL3S.simpleLinkInitStart p
  | wlanStartReadBufferSize => SpiderL3S.wlanStartReadBufferSize
  | wlanConnect a b c d e f => SpiderL3S.wlanConnect a b c d e f
  | wlanDisconnect => SpiderL3S.wlanDisconnect
  | wlanIoctlSetConnectionPolicy a b c => SpiderL3S.wlanIoctlSetConnectionPolicy a b c
  | wlanAddProfile a b c d e f g h i j k => SpiderL3S.wlanAddProfile a b c d e f g h i j k
  | wlanIoctlDelProfile a => SpiderL3S.wlanIoctlDelProfile a
  | wlanIoctlGetScanResults a => SpiderL3S.wlanIoctlGetScanResults a
  | wlanIoctlSetScanParams a b c d e f g h i =>
    SpiderL3S.wlanIoctlSetScanParams a b c d e f g h i
  | wlanSetEventMask a => SpiderL3S.wlanSetEventMask a
  | wlanIoctlStatusget => SpiderL3S.wlanIoctlStatusget
  | wlanSmartConfigStart a => SpiderL3S.wlanSmartConfigStart a
  | wlanSmartConfigStop => SpiderL3S.wlanSmartConfigStop
  | wlanSmartConfigSetPrefix a => SpiderL3S.wlanSmartConfigSetPrefix a
  | socket a b c => SpiderL3S.socket a b c
  | closesocket a => SpiderL3S.closesocket a
  | accept a => SpiderL3S.accept a
  | bind a b => SpiderL3S.bind a b
  | listen a b => SpiderL3S.listen a b
  | gethostbyname a b => SpiderL3S.gethostbyname a b
  | connect a b => SpiderL3S.connect a b
  | select a b c d e => SpiderL3S.select a b c d e
  | setsockopt a b c d e => SpiderL3S.setsockopt a b c d e
  | getsockopt a b c => SpiderL3S.getsockopt a b c
  | recv a b c => SpiderL3S.recv a b c
  | recvfrom a b c => SpiderL3S.recvfrom a b c
  | send a b c d e => SpiderL3S.send a b c d e
  | sendto a b c d e f g => SpiderL3S.sendto a b c d e f g
  | mdnsAdvertiser a b c => SpiderL3S.mdnsAdvertiser a b c
  | getmssvalue a => SpiderL3S.getmssvalue a
  | netappDhcp a b c d => SpiderL3S.netappDhcp a b c d
  | netappTimeoutValues a b c d => SpiderL3S.netappTimeoutValues a b c d
  | netappPingSend a b c d => SpiderL3S.netappPingSend a b c d
  | netappPingReport => SpiderL3S.netappPingReport
  | netappPingStop => SpiderL3S.netappPingStop
  | netappIpconfig => SpiderL3S.netappIpconfig
  | netappArpFlush => SpiderL3S.netappArpFlush
  | netappSetDebugLevel a => SpiderL3S.netappSetDebugLevel a
  | nvmemRead a b c => SpiderL3S.nvmemRead a b c
  | nvmemWrite a b c d => SpiderL3S.nvmemWrite a b c d
  | nvmemSetMacAddress a => SpiderL3S.nvmemSetMacAddress a
  | nvmemGetMacAddress => SpiderL3S.nvmemGetMacAddress
  | nvmemReadSpVersion => SpiderL3S.nvmemReadSpVersion
  | nvmemCreateEntry a b => SpiderL3S.nvmemCreateEntry a b

end SpiderL3S
