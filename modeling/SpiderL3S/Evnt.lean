import SpiderL3S.Hci

/- `evnt_handler.c`: what an incoming packet does to the driver's globals.
   `hciUnsolEventHandler` classifies an event and takes what is unsolicited; it
   runs first in interrupt context (`spiReceiveHandler`, through
   `hciUnsolicitedEventHandler`) and again in the polling loop. What it refuses
   is decoded by `hciEventSwitch` through the pointer `pRetParams`, which is a
   local of `hci_event_handler` and keeps the place where the last decoded
   reply has left it. `hciEventHandler` is that loop over the packets of one
   wait: `deliver` is one packet, the interrupt first and the loop behind it.

   A packet is the memory from its HCI type byte on; a 32-bit C value is held as
   the unsigned value with the same bits. -/
namespace SpiderL3S

/-- A call of the application's callback `sWlanCB`. -/
structure WlanCall where
  eventType : UInt16
  data : List UInt8
  deriving DecidableEq, Repr

/-- The part of `tSLInformation` that packets read and write, with
`socket_active_status` and the calls of `sWlanCB` made so far. `sWlanCB` says
whether a callback is installed. -/
structure SLInfo where
  usRxEventOpcode : UInt16
  usEventOrDataReceived : UInt16
  usRxDataPending : UInt16
  slTransmitDataError : UInt32
  usNumberOfFreeBuffers : UInt16
  usSlBufferLength : UInt16
  numberOfSentPackets : UInt32
  numberOfReleasedPackets : UInt32
  informHostOnTxComplete : UInt8
  sWlanCB : Bool
  socketActiveStatus : UInt32
  calls : List WlanCall
  deriving DecidableEq, Repr

/-- The globals as `wlan_init` and `wlan_start` set them. -/
def SLInfo.start (sWlanCB : Bool) : SLInfo :=
  { usRxEventOpcode := 0
    usEventOrDataReceived := 0
    usRxDataPending := 0
    slTransmitDataError := 0
    usNumberOfFreeBuffers := 0
    usSlBufferLength := 0
    numberOfSentPackets := 0
    numberOfReleasedPackets := 0
    informHostOnTxComplete := 1
    sWlanCB
    socketActiveStatus := 0xFFFF
    calls := [] }

def SLInfo.callback (sl : SLInfo) (eventType : UInt16) (data : List UInt8) : SLInfo :=
  { sl with calls := sl.calls ++ [⟨eventType, data⟩] }

/-- `if (sWlanCB) sWlanCB(..)`. -/
def SLInfo.tryCallback (sl : SLInfo) (eventType : UInt16) (data : List UInt8) : SLInfo :=
  if sl.sWlanCB then sl.callback eventType data else sl

abbrev socketStatusActive : UInt32 := 0
abbrev socketStatusInactive : UInt32 := 1

/-- A negative descriptor is a large unsigned one, so one comparison is the
whole of `M_IS_VALID_SD`. -/
def setSocketActiveStatus (sl : SLInfo) (sd status : UInt32) : SLInfo :=
  if sd ≤ 7 ∧ (status = socketStatusActive ∨ status = socketStatusInactive) then
    { sl with
      socketActiveStatus := (sl.socketActiveStatus &&& ~~~(1 <<< sd)) ||| (status <<< sd) }
  else sl

def updateSocketActiveStatus (sl : SLInfo) (respParams : Mem) : SLInfo :=
  if streamToUint32 respParams 4 = errorSocketInactive then
    setSocketActiveStatus sl (streamToUint32 respParams 0) socketStatusInactive
  else sl

/-- The buffers a FREE_BUFF event releases, summed over its handles. -/
def releasedBuffers (pEvent : Mem) : UInt32 :=
  (List.range (streamToUint16 pEvent hciEventHeaderSize).toNat).foldl
    (fun temp i => temp + (streamToUint16 pEvent (hciEventHeaderSize + 2 + 4 * i + 2)).toUInt32) 0

def hciEventUnsolFlowcontrolHandler (sl : SLInfo) (pEvent : Mem) : SLInfo :=
  let temp := releasedBuffers pEvent
  { sl with
    usNumberOfFreeBuffers := sl.usNumberOfFreeBuffers + temp.toUInt16
    numberOfReleasedPackets := sl.numberOfReleasedPackets + temp }

def eventCode (event : Mem) : UInt16 := streamToUint16 event hciEventOpcodeOffset

/-- Whether the event is one of those that come "in form of command complete on
data sent". -/
def sendClass (code : UInt16) : Bool :=
  code = hciEvntSend || code = hciEvntSendto || code = hciEvntWrite

/-- The status a SEND, SENDTO or WRITE event carries. -/
def sendStatus (event : Mem) : UInt32 := streamToUint32 event (hciEventHeaderSize + 4)

/-- The switch over the WLAN events; `none` is its default, "event not
supported". -/
def hciWlanUnsolEvent (sl : SLInfo) (event : Mem) : Option SLInfo :=
  let code := eventCode event
  if code ∈ [hciEvntWlanKeepalive, hciEvntWlanUnsolConnect, hciEvntWlanUnsolDisconnect,
      hciEvntWlanUnsolInit, hciEvntWlanAsyncSimpleConfigDone] then
    some (sl.tryCallback code [])
  else if code = hciEvntWlanUnsolDhcp then
    -- five addresses, and behind them the status byte of the event header
    some (sl.tryCallback code
      (event.slice hciEventHeaderSize 20 ++ [streamToUint8 event hciEventStatusOffset]))
  else if code = hciEvntWlanAsyncPingReport then
    some (sl.tryCallback code (event.slice hciEventHeaderSize 20))
  else if code = hciEvntBsdTcpCloseWait then
    some (sl.tryCallback code (event.slice hciEventHeaderSize 1))
  else if code ∈ [hciEvntAsyncArpDone, hciEvntAsyncArpWaiting] then
    some (sl.tryCallback code [])
  else none

/-- `hci_unsol_event_handler`: the globals behind it, and whether it returned 1. It returns
unless `CallsNull`. -/
def hciUnsolEventHandler (sl : SLInfo) (event : Mem) : SLInfo × Bool :=
  let code := eventCode event
  if code &&& hciEvntUnsolBase ≠ 0 ∧ code = hciEvntDataUnsolFreeBuff then
    let sl := hciEventUnsolFlowcontrolHandler sl event
    if sl.numberOfReleasedPackets = sl.numberOfSentPackets ∧ sl.informHostOnTxComplete ≠ 0 then
      (sl.callback hciEventCc3000CanShutDown [], true)
    else (sl, true)
  else if code &&& hciEvntWlanUnsolBase ≠ 0 then
    match hciWlanUnsolEvent sl event with
    | some sl => (sl, true)
    | none => (sl, false)
  else if sendClass code then
    if sendStatus event = errorSocketInactive then
      let sl := { sl with
        slTransmitDataError := (streamToUint8 event hciEventStatusOffset).toUInt32 }
      (updateSocketActiveStatus sl (event.drop hciEventHeaderSize), true)
    else (sl, false)
  else if code ≠ sl.usRxEventOpcode ∧ code ≠ hciEvntPatchesReq then (sl, true)
  else (sl, false)

/-- A FREE_BUFF event that makes up for all packets sent, so that the host is to be told. -/
def ReleasesLast (sl : SLInfo) (event : Mem) : Prop :=
  eventCode event = hciEvntDataUnsolFreeBuff ∧
    sl.numberOfReleasedPackets + releasedBuffers event = sl.numberOfSentPackets ∧
    sl.informHostOnTxComplete ≠ 0

instance (sl : SLInfo) (event : Mem) : Decidable (ReleasesLast sl event) := by
  unfold ReleasesLast
  infer_instance

/-- `hci_unsol_event_handler` does not test `sWlanCB` before that call. Where there is no
callback the call goes to address 0, and does not come back. -/
def CallsNull (sl : SLInfo) (event : Mem) : Prop :=
  sl.sWlanCB = false ∧ ReleasesLast sl event

instance (sl : SLInfo) (event : Mem) : Decidable (CallsNull sl event) := by
  unfold CallsNull
  infer_instance

/-- `hci_unsolicited_event_handler`: whether it released the packet, which it
then follows by `SpiResumeSpi`. -/
def hciUnsolicitedEventHandler (sl : SLInfo) (data : Mem) : SLInfo × Bool :=
  if sl.usEventOrDataReceived ≠ 0 ∧ data hciPacketTypeOffset = hciTypeEvnt then
    match hciUnsolEventHandler sl data with
    | (sl, true) => ({ sl with usEventOrDataReceived := 0 }, true)
    | (sl, false) => (sl, false)
  else (sl, false)

def spiReceiveHandler (sl : SLInfo) (data : Mem) : SLInfo × Bool :=
  hciUnsolicitedEventHandler { sl with usEventOrDataReceived := 1 } data

/-! The decoding switch of `hci_event_handler`. -/

/-- Move the pointer without storing. -/
def Stream.skip (s : Stream) (n : Nat) : Stream := { s with ptr := s.ptr + n }

/-- `STREAM_TO_UINT32(p, offset, *(UINT32 *)pRetParams)`. -/
def retUint32 (ret : Stream) (p : Mem) (offset : Nat) : Stream :=
  ret.poke (uint32Bytes (streamToUint32 p offset))

/-- `STREAM_TO_UINT16(p, offset, *(UINT32 *)pRetParams)`: a 16-bit field stored
as 32 bits. -/
def retUint16Wide (ret : Stream) (p : Mem) (offset : Nat) : Stream :=
  ret.poke (uint32Bytes (streamToUint16 p offset).toUInt32)

/-- The replies that are one status byte. -/
def statusReplies : List UInt16 :=
  [hciCmndWlanConfigurePatch, hciNetappDhcp, hciNetappPingSend, hciNetappPingStop,
   hciNetappArpFlush, hciNetappSetDebugLevel, hciNetappSetTimers, hciEvntNvmemRead,
   hciEvntNvmemCreateEntry, hciCmndNvmemWritePatch, hciNetappPingReport, hciEvntMdnsAdvertise]

/-- The replies that are one 32-bit value. -/
def wordReplies : List UInt16 :=
  [hciCmndSetsockopt, hciCmndWlanConnect, hciCmndWlanIoctlStatusget,
   hciEvntWlanIoctlAddProfile, hciCmndWlanIoctlDelProfile,
   hciCmndWlanIoctlSetConnectionPolicy, hciCmndWlanIoctlSetScanparam,
   hciCmndWlanIoctlSimpleConfigStart, hciCmndWlanIoctlSimpleConfigStop,
   hciCmndWlanIoctlSimpleConfigSetPrefix, hciCmndEventMask, hciEvntWlanDisconnect,
   hciEvntSocket, hciEvntBind, hciCmndListen, hciEvntCloseSocket, hciEvntConnect,
   hciEvntNvmemWrite]

/-- `switch(usReceivedEventOpcode)`: the decoded event `data` goes to the globals
and through `pRetParams`. -/
def hciEventSwitch (sl : SLInfo) (ret : Stream) (data : Mem) : SLInfo × Stream :=
  let code := eventCode data
  let params := data.drop hciEventHeaderSize
  let status := streamToUint8 data hciEventStatusOffset
  if code = hciCmndReadBufferSize then
    ({ sl with
       usNumberOfFreeBuffers := (streamToUint8 params 0).toUInt16
       usSlBufferLength := streamToUint16 params 1 }, ret)
  else if code ∈ statusReplies then (sl, ret.poke [status])
  else if code ∈ wordReplies then (sl, retUint32 ret params 0)
  else if code = hciEvntReadSpVersion then
    (sl, ((ret.poke [status]).skip 1).poke (uint32Bytes (streamToUint32 params 0)))
  else if code = hciEvntBsdGethostbyname then
    (sl, retUint32 ((retUint32 ret params 0).skip 4) params 4)
  else if code = hciEvntGetmssvalue then
    (sl, ret.poke (uint16Bytes (streamToUint16 params 0)))
  else if code = hciEvntAccept then
    let ret := (retUint32 ((retUint32 ret params 0).skip 4) params 4).skip 4
    (sl, ret.poke (params.slice 8 16))
  else if code ∈ [hciEvntRecv, hciEvntRecvfrom] then
    let ret := retUint32 ((retUint32 ((retUint32 ret params 0).skip 4) params 4).skip 4) params 8
    -- the test reads the struct at the advanced pointer
    if streamToUint32 ret.mem (ret.ptr + 4) = errorSocketInactive then
      (setSocketActiveStatus sl (streamToUint32 ret.mem ret.ptr) socketStatusInactive, ret)
    else (sl, ret)
  else if code ∈ [hciEvntSend, hciEvntSendto] then
    (sl, (retUint32 ((retUint32 ret params 0).skip 4) params 4).skip 4)
  else if code = hciEvntSelect then
    let ret := (retUint32 ((retUint32 ret params 0).skip 4) params 4).skip 4
    (sl, retUint32 ((retUint32 ret params 8).skip 4) params 12)
  else if code = hciCmndGetsockopt then
    -- iStatus lies behind the four option bytes
    let ret := { (ret.skip 4).poke [status] with ptr := ret.ptr }
    (sl, ret.poke (params.slice 0 4))
  else if code = hciCmndWlanIoctlGetScanResults then
    let ret := (retUint32 ((retUint32 ret params 0).skip 4) params 4).skip 4
    let ret := (retUint16Wide ((retUint16Wide ret params 8).skip 2) params 10).skip 2
    (sl, ret.poke (params.slice 12 38))
  else if code = hciNetappIpconfig then
    let retParams := ((((ret.put (params.slice 0 4)).put (params.slice 4 4)).put
      (params.slice 8 4)).put (params.slice 12 4)).put (params.slice 16 4)
    let retParams := (retParams.put (params.slice 20 6)).put (params.slice 26 32)
    (sl, { retParams with ptr := ret.ptr })
  else (sl, ret)

/-! The polling loop. -/

/-- The `from` and `fromlen` of a receive: the address bytes and the length
word. -/
structure FromArgs where
  addr : Mem
  fromlen : UInt32

/-- The arguments of `hci_event_handler` as the loop sees them: `pRetParams`,
which the decoding moves, and `from` where it is not NULL. -/
structure WaitArgs where
  ret : Stream
  sender : Option FromArgs

/-- The branch for a packet that is not an event: everything else is taken for
data. -/
def hciDataReceived (sl : SLInfo) (args : WaitArgs) (data : Mem) : SLInfo × WaitArgs :=
  let ucArgsize := streamToUint8 data hciPacketArgsizeOffset
  let usLength := streamToUint16 data hciPacketLengthOffset
  let sender := args.sender.map fun f =>
    let fromlen := streamToUint32 data (hciDataHeaderSize + 4)
    { addr := f.addr.store 0 (data.slice (hciDataHeaderSize + 16) (fromlen.toUInt8).toNat)
      fromlen }
  let ret := args.ret.poke
    (data.slice (hciDataHeaderSize + ucArgsize.toNat) (usLength - ucArgsize.toUInt16).toNat)
  ({ sl with usRxDataPending := 0 }, { ret, sender })

/-- The body of the loop up to the release of the packet. -/
def hciPacketReceived (sl : SLInfo) (args : WaitArgs) (data : Mem) : SLInfo × WaitArgs :=
  if data hciPacketTypeOffset = hciTypeEvnt then
    let (sl, handled) := hciUnsolEventHandler sl data
    let (sl, ret) := if handled then (sl, args.ret) else hciEventSwitch sl args.ret data
    let sl := if eventCode data = sl.usRxEventOpcode then { sl with usRxEventOpcode := 0 } else sl
    (sl, { args with ret })
  else hciDataReceived sl args data

/-- Whether `hci_event_handler` returns after releasing a packet. -/
def waitOver (sl : SLInfo) : Bool := sl.usRxEventOpcode = 0 && sl.usRxDataPending = 0

/-- One packet during a wait. The interrupt hands it to `SpiReceiveHandler`; if
that does not release it, the loop takes it, releases it and may return. A patch
request is answered from here by frames of its own, which leave the globals and
`pRetParams` alone. -/
def deliver (sl : SLInfo) (args : WaitArgs) (data : Mem) : SLInfo × WaitArgs × Bool :=
  match spiReceiveHandler sl data with
  | (sl, true) => (sl, args, false)
  | (sl, false) =>
    let (sl, args) := hciPacketReceived sl args data
    let sl := { sl with usEventOrDataReceived := 0 }
    (sl, args, waitOver sl)

/-- `hci_event_handler` over the packets that arrive, and whether it returned. -/
def hciEventHandler (sl : SLInfo) (args : WaitArgs) : List Mem → SLInfo × WaitArgs × Bool
  | [] => (sl, args, false)
  | data :: packets =>
    match deliver sl args data with
    | (sl, args, true) => (sl, args, true)
    | (sl, args, false) => hciEventHandler sl args packets

/-- `SimpleLinkWaitEvent`, its result object at offset 0 of `mem`. -/
def simpleLinkWaitEvent (sl : SLInfo) (usOpcode : UInt16) (mem : Mem) (packets : List Mem) :
    SLInfo × WaitArgs × Bool :=
  hciEventHandler { sl with usRxEventOpcode := usOpcode } ⟨⟨0, mem, []⟩, none⟩ packets

/-- `SimpleLinkWaitData`. -/
def simpleLinkWaitData (sl : SLInfo) (mem : Mem) (sender : Option FromArgs)
    (packets : List Mem) : SLInfo × WaitArgs × Bool :=
  hciEventHandler { sl with usRxDataPending := 1 } ⟨⟨0, mem, []⟩, sender⟩ packets

end SpiderL3S
