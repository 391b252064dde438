import SpiderL3S.Common

/- The numbers of `hci.h`, under its names: packet types, header sizes and
   offsets, command opcodes, and the event codes the device answers with. Only
   those some function of the model uses are here. An event code that the
   header defines as a command's opcode is defined here the same way. -/
namespace SpiderL3S

/-! Packet types, header sizes and offsets. -/

abbrev hciTypeCmnd : UInt8 := 0x1
abbrev hciTypeData : UInt8 := 0x2
abbrev hciTypePatch : UInt8 := 0x3
abbrev hciTypeEvnt : UInt8 := 0x4

abbrev spiHeaderSize : Nat := 5
abbrev simpleLinkHciCmndHeaderSize : Nat := 4
abbrev hciDataHeaderSize : Nat := 5
abbrev hciEventHeaderSize : Nat := 5
abbrev hciDataCmdHeaderSize : Nat := 5
abbrev hciPatchHeaderSize : Nat := 6
abbrev hciPacketTypeOffset : Nat := 0
abbrev hciPacketArgsizeOffset : Nat := 2
abbrev hciPacketLengthOffset : Nat := 3
abbrev hciEventOpcodeOffset : Nat := 1
abbrev hciEventLengthOffset : Nat := 3
abbrev hciEventStatusOffset : Nat := 4
abbrev hciDataLengthOffset : Nat := 3

/-! Command opcodes. -/

abbrev hciCmndWlanConnect : UInt16 := 0x0001
abbrev hciCmndWlanDisconnect : UInt16 := 0x0002
abbrev hciCmndWlanIoctlSetScanparam : UInt16 := 0x0003
abbrev hciCmndWlanIoctlSetConnectionPolicy : UInt16 := 0x0004
abbrev hciCmndWlanIoctlAddProfile : UInt16 := 0x0005
abbrev hciCmndWlanIoctlDelProfile : UInt16 := 0x0006
abbrev hciCmndWlanIoctlGetScanResults : UInt16 := 0x0007
abbrev hciCmndEventMask : UInt16 := 0x0008
abbrev hciCmndWlanIoctlStatusget : UInt16 := 0x0009
abbrev hciCmndWlanIoctlSimpleConfigStart : UInt16 := 0x000A
abbrev hciCmndWlanIoctlSimpleConfigStop : UInt16 := 0x000B
abbrev hciCmndWlanIoctlSimpleConfigSetPrefix : UInt16 := 0x000C
abbrev hciCmndWlanConfigurePatch : UInt16 := 0x000D
abbrev hciCmndSocket : UInt16 := 0x1001
abbrev hciCmndBind : UInt16 := 0x1002
abbrev hciCmndRecv : UInt16 := 0x1004
abbrev hciCmndAccept : UInt16 := 0x1005
abbrev hciCmndListen : UInt16 := 0x1006
abbrev hciCmndConnect : UInt16 := 0x1007
abbrev hciCmndBsdSelect : UInt16 := 0x1008
abbrev hciCmndSetsockopt : UInt16 := 0x1009
abbrev hciCmndGetsockopt : UInt16 := 0x100A
abbrev hciCmndCloseSocket : UInt16 := 0x100B
abbrev hciCmndRecvfrom : UInt16 := 0x100D
abbrev hciCmndGethostname : UInt16 := 0x1010
abbrev hciCmndMdnsAdvertise : UInt16 := 0x1011
abbrev hciCmndGetmssvalue : UInt16 := 0x1012
abbrev hciCmndSend : UInt16 := 0x0081
abbrev hciCmndSendto : UInt16 := 0x0083
abbrev hciCmndNvmemCreateEntry : UInt16 := 0x0203
abbrev hciCmndNvmemRead : UInt16 := 0x0201
abbrev hciCmndNvmemWrite : UInt16 := 0x0090
abbrev hciCmndNvmemWritePatch : UInt16 := 0x0204
abbrev hciCmndReadSpVersion : UInt16 := 0x0207
abbrev hciCmndReadBufferSize : UInt16 := 0x400B
abbrev hciCmndSimpleLinkStart : UInt16 := 0x4000
abbrev hciNetappDhcp : UInt16 := 0x2001
abbrev hciNetappPingSend : UInt16 := 0x2002
abbrev hciNetappPingReport : UInt16 := 0x2003
abbrev hciNetappPingStop : UInt16 := 0x2004
abbrev hciNetappIpconfig : UInt16 := 0x2005
abbrev hciNetappArpFlush : UInt16 := 0x2006
abbrev hciNetappSetDebugLevel : UInt16 := 0x2008
abbrev hciNetappSetTimers : UInt16 := 0x2009

/-! Codes of the events that answer a command. -/

abbrev hciEvntWlanDisconnect : UInt16 := hciCmndWlanDisconnect
abbrev hciEvntWlanIoctlAddProfile : UInt16 := hciCmndWlanIoctlAddProfile
abbrev hciEvntSocket : UInt16 := hciCmndSocket
abbrev hciEvntBind : UInt16 := hciCmndBind
abbrev hciEvntRecv : UInt16 := hciCmndRecv
abbrev hciEvntAccept : UInt16 := hciCmndAccept
abbrev hciEvntConnect : UInt16 := hciCmndConnect
abbrev hciEvntSelect : UInt16 := hciCmndBsdSelect
abbrev hciEvntCloseSocket : UInt16 := hciCmndCloseSocket
abbrev hciEvntRecvfrom : UInt16 := hciCmndRecvfrom
abbrev hciEvntBsdGethostbyname : UInt16 := hciCmndGethostname
abbrev hciEvntMdnsAdvertise : UInt16 := hciCmndMdnsAdvertise
abbrev hciEvntGetmssvalue : UInt16 := hciCmndGetmssvalue
abbrev hciEvntNvmemCreateEntry : UInt16 := hciCmndNvmemCreateEntry
abbrev hciEvntNvmemRead : UInt16 := hciCmndNvmemRead
abbrev hciEvntReadSpVersion : UInt16 := hciCmndReadSpVersion
abbrev hciEvntSend : UInt16 := 0x1003
abbrev hciEvntWrite : UInt16 := 0x100E
abbrev hciEvntSendto : UInt16 := 0x100F
abbrev hciEvntPatchesReq : UInt16 := 0x1000
abbrev hciEvntNvmemWrite : UInt16 := 0x0202

/-! Codes of the events the device sends on its own. -/

abbrev hciEvntUnsolBase : UInt16 := 0x4000
abbrev hciEvntDataUnsolFreeBuff : UInt16 := 0x4100
abbrev hciEvntWlanUnsolBase : UInt16 := 0x8000
abbrev hciEvntWlanUnsolConnect : UInt16 := 0x8001
abbrev hciEvntWlanUnsolDisconnect : UInt16 := 0x8002
abbrev hciEvntWlanUnsolInit : UInt16 := 0x8004
abbrev hciEvntWlanTxComplete : UInt16 := 0x8008
abbrev hciEvntWlanUnsolDhcp : UInt16 := 0x8010
abbrev hciEvntWlanAsyncPingReport : UInt16 := 0x8040
abbrev hciEvntWlanAsyncSimpleConfigDone : UInt16 := 0x8080
abbrev hciEvntWlanKeepalive : UInt16 := 0x8200
abbrev hciEvntAsyncArpDone : UInt16 := 0x8400
abbrev hciEvntBsdTcpCloseWait : UInt16 := 0x8800
abbrev hciEvntAsyncArpWaiting : UInt16 := 0x8900
abbrev hciEventCc3000CanShutDown : UInt16 := 0x0099

/-- `ERROR_SOCKET_INACTIVE`, -57 as a 32-bit value. -/
abbrev errorSocketInactive : UInt32 := 0xFFFFFFC7

end SpiderL3S
