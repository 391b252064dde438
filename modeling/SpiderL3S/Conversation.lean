import SpiderL3S.Calls
import SpiderL3S.Lib.Runs
import SpiderL3S.Tx.Layouts
import SpiderL3S.Tx.Patch

/- What passes between the host and the device. A command function hands its frame to
   `SpiWrite` and waits for the event that answers it. The device may ask for a patch in
   any wait, and `hci_unsol_handle_patch_request` answers from there with a frame of its
   own. `converse` runs a list of calls on one transmit buffer and keeps all that
   passes, in order.

   `ChatStep` is the protocol, from neither end: one command at a time, events until the
   one that answers it, and behind every request the patch of its type, before anything
   else. Every conversation is a run of it that ends where it began (`converse_spec`), and
   every call holds the fields of its own reply. -/
namespace SpiderL3S

open Runs

/-! Patches. -/

abbrev hciEventPatchesDrvReq : UInt8 := 1
abbrev hciEventPatchesFwReq : UInt8 := 2
abbrev hciEventPatchesBootloadReq : UInt8 := 3

/-- What a callback of the application returns, where `none` is `NULL`, and the length it
stores. -/
structure PatchSource where
  patch : Option Mem
  ucLength : UInt32

/-- The three callbacks, as far as `wlan_init` was given them. -/
structure Patches where
  sDriverPatches : Option PatchSource
  sFWPatches : Option PatchSource
  sBootLoaderPatches : Option PatchSource

/-- One case of the switch. -/
def answerPatch (ucOpcode : UInt8) (source : Option PatchSource) (tx : Mem) : List SpiFrame :=
  match source with
  | some ⟨some patch, ucLength⟩ => hciPatchSend ucOpcode tx patch ucLength.toUInt16
  | _ => hciPatchSend ucOpcode tx (Mem.ofList []) 0

/-- `hci_unsol_handle_patch_request`. -/
def hciUnsolHandlePatchRequest (p : Patches) (tx event_hdr : Mem) : List SpiFrame :=
  let params := event_hdr hciEventHeaderSize
  if params = hciEventPatchesDrvReq then answerPatch hciEventPatchesDrvReq p.sDriverPatches tx
  else if params = hciEventPatchesFwReq then answerPatch hciEventPatchesFwReq p.sFWPatches tx
  else if params = hciEventPatchesBootloadReq then
    answerPatch hciEventPatchesBootloadReq p.sBootLoaderPatches tx
  else []

inductive Passed where
  | sent (wire : List UInt8)
  | received (data : Mem)

/-- `SpiWrite` for one frame after the other: the buffer behind them, what is clocked out,
and whether it returns from all of them. -/
def spiWrites (tx : Mem) : List SpiFrame → Mem × List Passed × Bool
  | [] => (tx, [], true)
  | f :: frames =>
    if f.Overrun then (f.stored.mem, [], false)
    else
      let (tx, passed, written) := spiWrites f.stored.mem frames
      (tx, .sent f.wire :: passed, written)

/-- The frames a packet leads to behind `SpiResumeSpi`, if the interrupt has not taken it. -/
def patchAnswers (p : Patches) (sl : SLInfo) (tx data : Mem) : List SpiFrame :=
  if (spiReceiveHandler sl data).2 = false ∧ data hciPacketTypeOffset = hciTypeEvnt ∧
      eventCode data = hciEvntPatchesReq then
    hciUnsolHandlePatchRequest p tx data
  else []

structure Wait where
  sl : SLInfo
  args : WaitArgs
  tx : Mem
  passed : List Passed
  returned : Bool

/-- `hci_event_handler` with the frames that are sent from it. It stays where an interrupt
does not come back. -/
def waitPassing (p : Patches) (sl : SLInfo) (args : WaitArgs) (tx : Mem) : List Mem → Wait
  | [] => ⟨sl, args, tx, [], false⟩
  | data :: packets =>
    if ComesBack sl data then
      let (sl', args', ended) := deliver sl args data
      let (tx', answers, written) := spiWrites tx (patchAnswers p sl tx data)
      let passed := .received data :: answers
      if written = false then ⟨sl', args', tx', passed, false⟩
      else if ended then ⟨sl', args', tx', passed, true⟩
      else
        let w := waitPassing p sl' args' tx' packets
        { w with passed := passed ++ w.passed }
    else ⟨sl, args, tx, [.received data], false⟩

/-- The event a command function waits for, if it waits for one and for nothing else. -/
def Command.awaits : Command → Option UInt16
  | simpleLinkInitStart _ => some hciCmndSimpleLinkStart
  | wlanStartReadBufferSize => some hciCmndReadBufferSize
  | wlanConnect .. => some hciCmndWlanConnect
  | wlanDisconnect => some hciCmndWlanDisconnect
  | wlanIoctlSetConnectionPolicy .. => some hciCmndWlanIoctlSetConnectionPolicy
  | wlanAddProfile .. => some hciCmndWlanIoctlAddProfile
  | wlanIoctlDelProfile _ => some hciCmndWlanIoctlDelProfile
  | wlanIoctlGetScanResults _ => some hciCmndWlanIoctlGetScanResults
  | wlanIoctlSetScanParams .. => some hciCmndWlanIoctlSetScanparam
  | wlanSetEventMask _ => some hciCmndEventMask
  | wlanIoctlStatusget => some hciCmndWlanIoctlStatusget
  | wlanSmartConfigStart _ => some hciCmndWlanIoctlSimpleConfigStart
  | wlanSmartConfigStop => some hciCmndWlanIoctlSimpleConfigStop
  | wlanSmartConfigSetPrefix _ => some hciCmndWlanIoctlSimpleConfigSetPrefix
  | socket .. => some hciCmndSocket
  | closesocket _ => some hciCmndCloseSocket
  | accept _ => some hciCmndAccept
  | bind .. => some hciCmndBind
  | listen .. => some hciCmndListen
  | gethostbyname .. => some hciEvntBsdGethostbyname
  | connect .. => some hciCmndConnect
  | select .. => some hciEvntSelect
  | setsockopt .. => some hciCmndSetsockopt
  | getsockopt .. => some hciCmndGetsockopt
  | mdnsAdvertiser .. => some hciEvntMdnsAdvertise
  | getmssvalue _ => some hciEvntGetmssvalue
  | netappDhcp .. => some hciNetappDhcp
  | netappTimeoutValues .. => some hciNetappSetTimers
  | netappPingSend .. => some hciNetappPingSend
  | netappPingReport => some hciNetappPingReport
  | netappPingStop => some hciNetappPingStop
  | netappIpconfig => some hciNetappIpconfig
  | netappArpFlush => some hciNetappArpFlush
  | netappSetDebugLevel _ => some hciNetappSetDebugLevel
  | nvmemWrite .. => some hciEvntNvmemWrite
  | nvmemSetMacAddress _ => some hciEvntNvmemWrite
  | nvmemReadSpVersion => some hciCmndReadSpVersion
  | nvmemCreateEntry .. => some hciCmndNvmemCreateEntry
  -- a receive and a read go on to wait for data, and a send has its own way to wait
  | recv .. | recvfrom .. | send .. | sendto .. | nvmemRead .. | nvmemGetMacAddress => none

/-- A call of a command function: its result object, and the packets that arrive in it,
the last of which is to answer it. -/
structure CommandCall where
  command : Command
  opcode : UInt16
  awaits : command.awaits = some opcode
  mem : Mem
  events : List Mem
  reply : Mem

/-- What the calls leave: the globals, the buffer, what has passed, and the result
objects. -/
structure Conversation where
  sl : SLInfo
  tx : Mem
  passed : List Passed
  results : List Mem

/-- One call. `none` is where it does not return. -/
def CommandCall.run (p : Patches) (sl : SLInfo) (tx : Mem) (c : CommandCall) :
    Option Conversation :=
  match c.command.build tx with
  | .returned => some ⟨sl, tx, [], [c.mem]⟩
  | .stuck _ => none
  | .frame f =>
    if f.Overrun then none
    else
      let w := waitPassing p { sl with usRxEventOpcode := c.opcode } ⟨⟨0, c.mem, []⟩, none⟩
        f.stored.mem (c.events ++ [c.reply])
      if w.returned then some ⟨w.sl, w.tx, .sent f.wire :: w.passed, [w.args.ret.mem]⟩ else none

/-- Calls one behind the other. -/
def converse (p : Patches) (sl : SLInfo) (tx : Mem) : List CommandCall → Option Conversation
  | [] => some ⟨sl, tx, [], []⟩
  | c :: calls => do
    let first ← c.run p sl tx
    let rest ← converse p first.sl first.tx calls
    return { rest with
      passed := first.passed ++ rest.passed
      results := first.results ++ rest.results }

/-! The protocol. -/

inductive Message where
  | command (q : HciPacket)
  | patch (type : UInt8) (bytes : List UInt8)
  | event (data : Mem)

/-- The code of the event that answers a command. -/
def HciPacket.replyCode (q : HciPacket) : UInt16 :=
  if q.type = hciTypeData then hciEvntNvmemWrite else q.opcode

/-- The type of patch that an event asks for. -/
def asksPatch (data : Mem) : Option UInt8 :=
  let type := data hciEventHeaderSize
  if eventCode data = hciEvntPatchesReq ∧
      type ∈ [hciEventPatchesDrvReq, hciEventPatchesFwReq, hciEventPatchesBootloadReq] then
    some type
  else none

/-- The bytes a callback has. -/
def PatchSource.bytes : Option PatchSource → List UInt8
  | some ⟨some patch, ucLength⟩ => patch.slice 0 ucLength.toUInt16.toNat
  | _ => []

def Patches.bytes (p : Patches) (type : UInt8) : List UInt8 :=
  if type = hciEventPatchesDrvReq then PatchSource.bytes p.sDriverPatches
  else if type = hciEventPatchesFwReq then PatchSource.bytes p.sFWPatches
  else PatchSource.bytes p.sBootLoaderPatches

/-- Nothing is asked; a command waits for its reply; and it does, and a patch is asked
for. -/
inductive Floor where
  | idle
  | waiting (code : UInt16)
  | asked (code : UInt16) (type : UInt8)

/-- Who may say what. -/
inductive ChatStep (p : Patches) : Floor → Message → Floor → Prop
  | command (q : HciPacket) : ChatStep p .idle (.command q) (.waiting q.replyCode)
  | reply {data : Mem} : ChatStep p (.waiting (eventCode data)) (.event data) .idle
  | asks {code : UInt16} {data : Mem} {type : UInt8} (hcode : eventCode data ≠ code)
      (hasks : asksPatch data = some type) :
      ChatStep p (.waiting code) (.event data) (.asked code type)
  | other {code : UInt16} {data : Mem} (hcode : eventCode data ≠ code)
      (hasks : asksPatch data = none) : ChatStep p (.waiting code) (.event data) (.waiting code)
  | patch {code : UInt16} {type : UInt8} :
      ChatStep p (.asked code type) (.patch type (p.bytes type)) (.waiting code)

/-- The device's end of a patch frame. -/
def unpackPatch (wire : List UInt8) : Option (UInt8 × List UInt8) :=
  match unpackSpi wire with
  | some (packetType :: type :: l0 :: l1 :: n0 :: n1 :: rest) =>
    let length := (streamToUint16 (Mem.ofList [l0, l1]) 0).toNat
    let portion := (streamToUint16 (Mem.ofList [n0, n1]) 0).toNat
    if packetType = hciTypePatch ∧ length = portion + 2 ∧ portion ≤ rest.length then
      some (type, rest.take portion)
    else none
  | _ => none

/-- What passes, read by either end. -/
def Passed.read : Passed → Option Message
  | sent wire =>
    match unpackPatch wire with
    | some (type, bytes) => some (.patch type bytes)
    | none => (unpack wire).map .command
  | received data => some (.event data)

/-- The commands among the messages. -/
def commandsIn (msgs : List Message) : List HciPacket :=
  msgs.filterMap fun m =>
    match m with
    | .command q => some q
    | _ => none

/-- The events. -/
def eventsIn (msgs : List Message) : List Mem :=
  msgs.filterMap fun m =>
    match m with
    | .event data => some data
    | _ => none

/-! A patch on the wire. -/

/-- The patch of a callback fits in the transmit buffer. -/
def PatchSource.Fits (source : Option PatchSource) : Prop := (PatchSource.bytes source).length ≤ 199

instance PatchSource.decidableFits (source : Option PatchSource) :
    Decidable (PatchSource.Fits source) :=
  inferInstanceAs (Decidable (_ ≤ _))

structure Patches.Fit (p : Patches) : Prop where
  driver : PatchSource.Fits p.sDriverPatches
  firmware : PatchSource.Fits p.sFWPatches
  bootLoader : PatchSource.Fits p.sBootLoaderPatches

/-- The frame of a short patch, as a packet without a header. -/
def patchPacket (ucOpcode : UInt8) (patch : List UInt8) : Packet where
  header := []
  pieces := [.bytes (patchHeader ucOpcode (UInt16.ofNat patch.length) ++ portionBytes patch)]
  declared := UInt16.ofNat patch.length + 6
  header_le := Nat.zero_le _

theorem patchPacket_args (ucOpcode : UInt8) (patch : List UInt8) :
    (patchPacket ucOpcode patch).args =
      patchHeader ucOpcode (UInt16.ofNat patch.length) ++ portionBytes patch :=
  List.append_nil _

theorem patchPacket_length (ucOpcode : UInt8) (patch : List UInt8) :
    (patchPacket ucOpcode patch).args.length = patch.length + 6 := by
  rw [patchPacket_args]
  simp only [patchHeader, portionBytes, List.length_append, List.length_cons, uint16Bytes_length]
  omega

/-- What `SpiWrite` clocks out depends on the buffer and the length only. -/
theorem spiWrite_congr {s s' : Stream} (h : s.mem = s'.mem) (n : UInt16) :
    (spiWrite 0 s n).stored.mem = (spiWrite 0 s' n).stored.mem ∧
      (spiWrite 0 s n).wire = (spiWrite 0 s' n).wire := by
  have hmem : (spiWrite 0 s n).stored.mem = (spiWrite 0 s' n).stored.mem := by
    simp only [spiWrite, uint8ToStream, Stream.put_mem, Stream.put_put, h]
  refine ⟨hmem, ?_⟩
  rw [SpiFrame.wire_eq, SpiFrame.wire_eq, hmem]
  rfl

theorem hciPatchSend_packet (ucOpcode : UInt8) (tx patch : Mem) {usDataLength : UInt16}
    (h : usDataLength.toNat ≤ 199) :
    ∃ f, hciPatchSend ucOpcode tx patch usDataLength = [f] ∧
      f.stored.mem =
        ((patchPacket ucOpcode (patch.slice 0 usDataLength.toNat)).toFrame tx).stored.mem ∧
      f.wire = ((patchPacket ucOpcode (patch.slice 0 usDataLength.toNat)).toFrame tx).wire := by
  have hle : usDataLength ≤ 1000 := UInt16.le_iff_toNat_le.mpr (Nat.le_trans h (by decide))
  have hof : UInt16.ofNat (patch.slice 0 usDataLength.toNat).length = usDataLength := by
    rw [Mem.slice_length, UInt16.ofNat_toNat]
  have hstored := patchStream_stored ucOpcode tx usDataLength usDataLength
    (patch.slice 0 usDataLength.toNat)
  have hdeclared : (patchPacket ucOpcode (patch.slice 0 usDataLength.toNat)).declared +
      UInt16.ofNat 0 = usDataLength + 6 := by
    show UInt16.ofNat _ + 6 + 0 = _
    rw [hof, UInt16.add_zero]
  refine ⟨spiWrite 0 (patchStream ucOpcode tx (usDataLength + 2) usDataLength usDataLength
    (patch.slice 0 usDataLength.toNat)) (usDataLength + 6), ?_, ?_⟩
  · rw [hciPatchSend, if_pos hle]
    rfl
  · rw [Packet.toFrame, show (patchPacket _ _).header = [] from rfl, List.length_nil, hdeclared]
    apply spiWrite_congr
    rw [hof] at hstored
    rw [hstored, patchPacket_args, hof, Stream.put_nil]
    rfl

/-- The other end reads the type and the bytes. -/
theorem unpackPatch_wire (ucOpcode : UInt8) {patch : List UInt8} (h : patch.length ≤ 199)
    (tx : Mem) :
    unpackPatch ((patchPacket ucOpcode patch).toFrame tx).wire = some (ucOpcode, patch) := by
  have hlength := patchPacket_length ucOpcode patch
  have hof : (UInt16.ofNat patch.length).toNat = patch.length :=
    UInt16.toNat_ofNat_of_lt (Nat.lt_of_le_of_lt h (by decide))
  have hadd : ∀ k : UInt16, k.toNat ≤ 6 → (UInt16.ofNat patch.length + k).toNat =
      patch.length + k.toNat := by
    intro k hk
    rw [UInt16.toNat_add, hof]
    omega
  have hdeclared : (patchPacket ucOpcode patch).declared.toNat = patch.length + 6 :=
    hadd 6 (by decide)
  have hexact : (patchPacket ucOpcode patch).Exact := by
    refine ⟨by rw [hlength, hdeclared], ?_⟩
    show (patchPacket ucOpcode patch).declared.toNat + 0 < 65536
    omega
  obtain ⟨hi, lo, pad, hwire, hcount⟩ := Packet.wire_eq _ tx hexact (by
    show 0 + (patchPacket ucOpcode patch).args.length ≤ 205
    omega)
  have hwords : ∀ n : UInt16, streamToUint16 (Mem.ofList (uint16Bytes n)) 0 = n := fun n =>
    streamToUint16_of_slice rfl
  rw [unpackPatch, hwire, unpackSpi_frame hcount, patchPacket_args]
  show (if hciTypePatch = hciTypePatch ∧
      (streamToUint16 (Mem.ofList (uint16Bytes (UInt16.ofNat patch.length + 2))) 0).toNat =
        (streamToUint16 (Mem.ofList (uint16Bytes (UInt16.ofNat patch.length))) 0).toNat + 2 ∧
      (streamToUint16 (Mem.ofList (uint16Bytes (UInt16.ofNat patch.length))) 0).toNat ≤
        (patch ++ pad).length then
    some (ucOpcode, (patch ++ pad).take
      (streamToUint16 (Mem.ofList (uint16Bytes (UInt16.ofNat patch.length))) 0).toNat) else none) = _
  rw [hwords, hwords, hof, hadd 2 (by decide), if_pos ⟨rfl, rfl, by simp⟩, List.take_left]

/-- It leaves the magic number alone. -/
theorem patchPacket_open (ucOpcode : UInt8) {patch : List UInt8} (h : patch.length ≤ 199) {tx : Mem}
    (htx : TxOpen tx) : TxOpen ((patchPacket ucOpcode patch).toFrame tx).stored.mem := by
  have hlength := patchPacket_length ucOpcode patch
  have hbuf : cc3000TxBufferSize - 1 = 210 := rfl
  rw [TxOpen, Packet.toFrame_magic, List.getD_eq_getElem?_getD, List.getElem?_eq_none]
  · exact htx
  · show _ ≤ 205 - 0
    omega

/-- What one case of the switch sends: one frame, which holds the patch of the callback. -/
theorem answerPatch_spec (ucOpcode : UInt8) {source : Option PatchSource}
    (hfits : PatchSource.Fits source) {tx : Mem} (htx : TxOpen tx) :
    ∃ f, answerPatch ucOpcode source tx = [f] ∧ TxOpen f.stored.mem ∧
      unpackPatch f.wire = some (ucOpcode, PatchSource.bytes source) := by
  have hsend : ∀ (patch : Mem) (usDataLength : UInt16),
      (patch.slice 0 usDataLength.toNat).length ≤ 199 →
      ∃ f, hciPatchSend ucOpcode tx patch usDataLength = [f] ∧ TxOpen f.stored.mem ∧
        unpackPatch f.wire = some (ucOpcode, patch.slice 0 usDataLength.toNat) := by
    intro patch usDataLength hlength
    have hshort : usDataLength.toNat ≤ 199 := by rwa [Mem.slice_length] at hlength
    obtain ⟨f, hf, hmem, hwire⟩ := hciPatchSend_packet ucOpcode tx patch hshort
    refine ⟨f, hf, ?_, ?_⟩
    · rw [hmem]
      exact patchPacket_open ucOpcode hlength htx
    · rw [hwire]
      exact unpackPatch_wire ucOpcode hlength tx
  match source, hfits with
  | some ⟨some patch, _⟩, hfits => exact hsend patch _ hfits
  | some ⟨none, _⟩, _ => exact hsend (Mem.ofList []) 0 (Nat.zero_le _)
  | none, _ => exact hsend (Mem.ofList []) 0 (Nat.zero_le _)

/-- A request is answered with the patch of its type, and nothing else is. -/
theorem patchRequest_spec {p : Patches} (hp : p.Fit) {tx : Mem} (htx : TxOpen tx) {data : Mem}
    (hcode : eventCode data = hciEvntPatchesReq) :
    (asksPatch data = none ∧ hciUnsolHandlePatchRequest p tx data = []) ∨
      ∃ type f, asksPatch data = some type ∧ hciUnsolHandlePatchRequest p tx data = [f] ∧
        TxOpen f.stored.mem ∧ unpackPatch f.wire = some (type, p.bytes type) := by
  have hfw : hciEventPatchesFwReq ≠ hciEventPatchesDrvReq := by decide
  have hbootDrv : hciEventPatchesBootloadReq ≠ hciEventPatchesDrvReq := by decide
  have hbootFw : hciEventPatchesBootloadReq ≠ hciEventPatchesFwReq := by decide
  rw [hciUnsolHandlePatchRequest, asksPatch]
  generalize data hciEventHeaderSize = type
  by_cases hdriver : type = hciEventPatchesDrvReq
  · subst hdriver
    right
    obtain ⟨f, hf, hopen, hunpack⟩ := answerPatch_spec hciEventPatchesDrvReq hp.driver htx
    refine ⟨_, f, if_pos ⟨hcode, by simp⟩, ?_, hopen, hunpack⟩
    rw [if_pos rfl, hf]
  · rw [if_neg hdriver]
    by_cases hfirmware : type = hciEventPatchesFwReq
    · subst hfirmware
      right
      obtain ⟨f, hf, hopen, hunpack⟩ := answerPatch_spec hciEventPatchesFwReq hp.firmware htx
      refine ⟨_, f, if_pos ⟨hcode, by simp⟩, ?_, hopen, ?_⟩
      · rw [if_pos rfl, hf]
      · rw [hunpack, Patches.bytes, if_neg hfw, if_pos rfl]
    · rw [if_neg hfirmware]
      by_cases hboot : type = hciEventPatchesBootloadReq
      · subst hboot
        right
        obtain ⟨f, hf, hopen, hunpack⟩ :=
          answerPatch_spec hciEventPatchesBootloadReq hp.bootLoader htx
        refine ⟨_, f, if_pos ⟨hcode, by simp⟩, ?_, hopen, ?_⟩
        · rw [if_pos rfl, hf]
        · rw [hunpack, Patches.bytes, if_neg hbootDrv, if_neg hbootFw]
      · left
        rw [if_neg hboot]
        refine ⟨if_neg ?_, rfl⟩
        rintro ⟨-, hmem⟩
        simp only [List.mem_cons, List.not_mem_nil, or_false] at hmem
        exact hmem.elim hdriver fun h => h.elim hfirmware hboot

/-! One packet of a wait. -/

/-- The interrupt leaves a request to the loop. -/
theorem spiReceiveHandler_request (sl : SLInfo) {data : Mem} (hdata : IsEvent data)
    (hcode : eventCode data = hciEvntPatchesReq) : (spiReceiveHandler sl data).2 = false := by
  have hclass : hciEvntPatchesReq &&& hciEvntWlanUnsolBase = 0 := by decide
  have hsend : sendClass hciEvntPatchesReq = false := by decide
  have hflow : hciEvntPatchesReq ≠ hciEvntDataUnsolFreeBuff := by decide
  have hrefused : (hciUnsolEventHandler { sl with usEventOrDataReceived := 1 } data).2 = false := by
    have hend := hciUnsolEventHandler_unsol { sl with usEventOrDataReceived := 1 } data
    generalize hciUnsolEventHandler { sl with usEventOrDataReceived := 1 } data = r at hend ⊢
    cases hend with
    | freeBuff _ hcode' _ => exact absurd (hcode.symm.trans hcode') hflow
    | wlan hmem => exact absurd hclass (hcode ▸ wlanEvents_class hmem)
    | unsupported _ _ => rfl
    | sendInactive hsend' _ =>
      exact absurd (hcode ▸ hsend') (by rw [hsend]; exact Bool.false_ne_true)
    | sendOther _ _ => rfl
    | ignored _ _ _ _ hpatch => exact absurd hcode hpatch
    | waited _ _ _ _ => rfl
  rw [spiReceiveHandler_event sl hdata, hrefused]
  rfl

/-- What passes with a packet that does not end the wait is the event, and the patch that
it asks for, if it does. -/
theorem patchAnswers_spec {p : Patches} (hp : p.Fit) (sl : SLInfo) {tx : Mem} (htx : TxOpen tx)
    {data : Mem} (hdata : IsEvent data) {code : UInt16} (hcode : eventCode data ≠ code) :
    ∃ tx' answers msgs, spiWrites tx (patchAnswers p sl tx data) = (tx', answers, true) ∧
      TxOpen tx' ∧ (Passed.received data :: answers).map Passed.read = msgs.map some ∧
      Run (ChatStep p) (.waiting code) msgs (.waiting code) ∧ commandsIn msgs = [] ∧
      eventsIn msgs = [data] := by
  have hquiet : asksPatch data = none → patchAnswers p sl tx data = [] →
      ∃ tx' answers msgs, spiWrites tx (patchAnswers p sl tx data) = (tx', answers, true) ∧
        TxOpen tx' ∧ (Passed.received data :: answers).map Passed.read = msgs.map some ∧
        Run (ChatStep p) (.waiting code) msgs (.waiting code) ∧ commandsIn msgs = [] ∧
        eventsIn msgs = [data] := by
    intro hasks hanswers
    rw [hanswers]
    exact ⟨tx, [], [.event data], rfl, htx, rfl, .single (.other hcode hasks), rfl, rfl⟩
  by_cases hrequest : eventCode data = hciEvntPatchesReq
  · have hpatch : patchAnswers p sl tx data = hciUnsolHandlePatchRequest p tx data :=
      if_pos ⟨spiReceiveHandler_request sl hdata hrequest, hdata, hrequest⟩
    rcases patchRequest_spec hp htx hrequest with
      ⟨hasks, hnone⟩ | ⟨type, f, hasks, hf, hopen, hread⟩
    · exact hquiet hasks (hpatch.trans hnone)
    · have hfree : ¬ f.Overrun := not_not_intro hopen
      refine ⟨f.stored.mem, [.sent f.wire], [.event data, .patch type (p.bytes type)], ?_, hopen, ?_,
        ?_, rfl, rfl⟩
      · rw [hpatch, hf, spiWrites, if_neg hfree]
        rfl
      · simp only [List.map_cons, Passed.read, hread, List.map_nil]
      · exact .cons (.asks hcode hasks) (.single .patch)
  · refine hquiet (if_neg fun h => hrequest h.1) (if_neg fun h => hrequest h.2.2)

/-! A whole wait. -/

/-- **A wait is the protocol's.** It does what `hci_event_handler` does, and what passes
in it are the events up to the reply, and behind every request its patch. -/
theorem waitPassing_spec {p : Patches} (hp : p.Fit) {code : UInt16} (hne : code ≠ 0)
    (hcode' : code ≠ hciEvntPatchesReq) {frames : List Mem} {reply : Mem}
    (hframes : ∀ f ∈ frames, IsEvent f ∧ eventCode f ≠ code) (hcode : eventCode reply = code)
    (hfits : ∀ f ∈ frames ++ [reply], RxFits f) :
    ∀ {sl : SLInfo} (args : WaitArgs) {tx : Mem}, sl.usRxEventOpcode = code →
      sl.sWlanCB = true → TxOpen tx →
      ∃ tx' passed msgs,
        waitPassing p sl args tx (frames ++ [reply]) =
          (let (sl', args', returned) := hciEventHandler sl args (frames ++ [reply])
           ⟨sl', args', tx', passed, returned⟩) ∧
        TxOpen tx' ∧ passed.map Passed.read = msgs.map some ∧
        Run (ChatStep p) (.waiting code) msgs .idle ∧ commandsIn msgs = [] ∧
        eventsIn msgs = frames ++ [reply] := by
  induction frames with
  | nil =>
    intro sl args tx hwait hcb htx
    have hback : ComesBack sl reply := comesBack_of_installed hcb (hfits reply List.mem_cons_self)
    have hanswers : patchAnswers p sl tx reply = [] :=
      if_neg fun h => hcode' (hcode.symm.trans h.2.2)
    refine ⟨tx, [.received reply], [.event reply], ?_, htx, rfl, ?_, rfl, rfl⟩
    · rw [List.nil_append, waitPassing, if_pos hback, hanswers, hciEventHandler]
      cases deliver sl args reply with
      | mk sl' rest =>
        obtain ⟨args', ended⟩ := rest
        cases ended <;> rfl
    · subst hcode
      exact .single .reply
  | cons f frames ih =>
    intro sl args tx hwait hcb htx
    obtain ⟨hevent, hother⟩ := hframes f List.mem_cons_self
    have hback : ComesBack sl f := comesBack_of_installed hcb (hfits f List.mem_cons_self)
    obtain ⟨sl₁, args₁, hdeliver, hsame, -⟩ := deliver_other hne args hevent hother hwait
    have hcb₁ := deliver_sWlanCB sl args f
    rw [hdeliver] at hcb₁
    obtain ⟨tx₁, answers, msgs₁, hwrites, hopen, hread₁, hrun₁, hnone₁,
      hevents₁⟩ :=
      patchAnswers_spec hp sl htx hevent hother
    obtain ⟨tx₂, passed, msgs₂, hpassing, hopen₂, hread₂, hrun₂, hnone₂, hevents₂⟩ :=
      ih (fun g hg => hframes g (List.mem_cons_of_mem f hg))
        (fun g hg => hfits g (List.mem_cons_of_mem f hg)) args₁ (hsame.1.trans hwait)
        (hcb₁.trans hcb) hopen
    refine ⟨tx₂, .received f :: answers ++ passed, msgs₁ ++ msgs₂, ?_, hopen₂, ?_,
      hrun₁.append hrun₂, ?_, ?_⟩
    · rw [List.cons_append, waitPassing, if_pos hback, hdeliver, hwrites, hciEventHandler, hdeliver]
      dsimp only
      rw [if_neg (by simp), if_neg (by simp), hpassing]
    · rw [List.map_append, List.map_append, hread₁, hread₂]
    · rw [commandsIn, List.filterMap_append]
      exact List.append_eq_nil_iff.mpr ⟨hnone₁, hnone₂⟩
    · rw [eventsIn, List.filterMap_append]
      show eventsIn msgs₁ ++ eventsIn msgs₂ = [f] ++ (frames ++ [reply])
      rw [hevents₁, hevents₂]

/-! A call. -/

/-- What a call says: its header and its arguments, read by the other end. -/
def CommandCall.meaning (c : CommandCall) : Option HciPacket :=
  c.command.packet.bind fun r => unpackHci (r.header ++ r.args)

/-- A call that fits in the buffer and declares what it stores, with quiet events and then
its reply in its wait, which fit in theirs. -/
structure CommandCall.Orderly (c : CommandCall) : Prop where
  packet : ∃ r, c.command.packet = some r ∧ r.args.length = r.declared.toNat ∧
    r.header.length + r.args.length ≤ 205
  quiet : Quiet c.events
  others : ∀ f ∈ c.events, eventCode f ≠ c.opcode
  isReply : IsEvent c.reply ∧ eventCode c.reply = c.opcode
  sized : ∀ f ∈ c.events ++ [c.reply], RxFits f

/-- What it waits for is an event of the table, and comes as a reply. -/
theorem awaits_reply {c : Command} {op : UInt16} (h : c.awaits = some op) :
    (∃ size, (op, size) ∈ resultObjects) ∧ sendClass op = false := by
  have htable : ∀ code ∈ resultObjects.map Prod.fst,
      sendClass code = false → (∃ size, (code, size) ∈ resultObjects) ∧ sendClass code = false := by
    intro code hcode hsend
    obtain ⟨r, hr, rfl⟩ := List.mem_map.mp hcode
    exact ⟨⟨r.2, hr⟩, hsend⟩
  apply htable op
  · cases c <;> cases h <;> decide
  · cases c <;> cases h <;> decide

/-- It is what answers the packet. -/
theorem awaits_packet {c : Command} {op : UInt16} {r : Packet} (h : c.awaits = some op)
    (hr : c.packet = some r) :
    (∃ ps n, r = .command op ps n) ∨
      ∃ ps a n, r = .data hciCmndNvmemWrite.toUInt8 ps a n ∧ op = hciEvntNvmemWrite := by
  have hif : ∀ (cond : Prop) [Decidable cond] (op : UInt16) (ps : List Piece) (n : UInt8),
      (if cond then none else some (Packet.command op ps n)) = some r →
      ∃ ps n, r = Packet.command op ps n := by
    intro cond _ op ps n hsome
    split at hsome
    · cases hsome
    · exact ⟨ps, n, (Option.some.inj hsome).symm⟩
  cases c with
  | recv | recvfrom | send | sendto | nvmemRead | nvmemGetMacAddress => cases h
  | nvmemWrite | nvmemSetMacAddress =>
    cases h
    exact .inr ⟨_, _, _, (Option.some.inj hr).symm, rfl⟩
  | gethostbyname | mdnsAdvertiser =>
    cases h
    exact .inl (hif _ _ _ _ hr)
  | wlanSmartConfigSetPrefix cNewPrefix =>
    cases h
    cases cNewPrefix with
    | none => cases hr
    | some _ => exact .inl ⟨_, _, (Option.some.inj hr).symm⟩
  | wlanSetEventMask ulMask =>
    cases h
    rw [Command.packet] at hr
    dsimp only at hr
    split at hr
    · exact .inl (hif _ _ _ _ hr)
    · exact .inl ⟨_, _, (Option.some.inj hr).symm⟩
  | _ =>
    cases h
    exact .inl ⟨_, _, (Option.some.inj hr).symm⟩

/-- The frame of a command is no patch. -/
theorem unpackPatch_other {wire : List UInt8} {type : UInt8} {hci : List UInt8}
    (hwire : unpackSpi wire = some (type :: hci)) (htype : type ≠ hciTypePatch) :
    unpackPatch wire = none := by
  rw [unpackPatch, hwire]
  split
  · next heq =>
    obtain ⟨rfl, -⟩ := List.cons.inj (Option.some.inj heq)
    exact if_neg fun h => htype h.1
  · rfl

/-- What a call sends is read as what it says, and the reply to it is what it waits for. -/
theorem CommandCall.Orderly.sent {c : CommandCall} (h : c.Orderly) {tx : Mem} (htx : TxOpen tx) :
    ∃ f q, c.command.build tx = .frame f ∧ ¬ f.Overrun ∧ TxOpen f.stored.mem ∧
      (Passed.sent f.wire).read = some (.command q) ∧ c.meaning = some q ∧ q.replyCode = c.opcode := by
  obtain ⟨r, hr, hlength, hroom⟩ := h.packet
  obtain ⟨hbuild, hfree⟩ := built_of_room hr hroom htx
  have hexact : r.Exact := ⟨hlength, by omega⟩
  obtain ⟨hi, lo, pad, hwire, hcount⟩ := Packet.wire_eq r tx hexact hroom
  have hspi := unpackSpi_frame hcount
  rw [← hwire] at hspi
  have hmeans : c.meaning = unpackHci (r.header ++ r.args) := by rw [CommandCall.meaning, hr]; rfl
  have hread : ∀ q, r.header ++ r.args ++ pad ≠ [] →
      (r.header ++ r.args ++ pad).head? ≠ some hciTypePatch →
      unpackHci (r.header ++ r.args ++ pad) = some q →
      (Passed.sent (r.toFrame tx).wire).read = some (.command q) := by
    intro q hcons hhead hunpack
    obtain ⟨type, hci, heq⟩ := List.exists_cons_of_ne_nil hcons
    rw [heq] at hspi hhead
    have htype : type ≠ hciTypePatch := fun htype => hhead (congrArg some htype)
    rw [Passed.read, unpackPatch_other hspi htype]
    show (unpack _).map Message.command = _
    rw [unpack, hspi, Option.bind_some, ← heq, hunpack]
    rfl
  refine ⟨r.toFrame tx, ?_⟩
  have hcommand : hciTypeCmnd ≠ hciTypePatch := by decide
  have hdata : hciTypeData ≠ hciTypePatch := by decide
  have hkinds : hciTypeCmnd ≠ hciTypeData := by decide
  rcases awaits_packet c.awaits hr with ⟨ps, n, rfl⟩ | ⟨ps, a, n, rfl, hop⟩
  · have hargs : (ps.flatMap Piece.content).length = n.toNat := by
      rw [← UInt8.toNat_toUInt16]
      exact hlength
    refine ⟨⟨hciTypeCmnd, c.opcode, ps.flatMap Piece.content⟩, hbuild, hfree, not_not.mp hfree, ?_,
      ?_, ?_⟩
    · exact hread _ (List.cons_ne_nil _ _) (fun h => hcommand (Option.some.inj h))
        (unpackHci_command c.opcode hargs)
    · rw [hmeans]
      have hunpack := @unpackHci_command c.opcode _ _ [] hargs
      rw [List.append_nil] at hunpack
      exact hunpack
    · rw [HciPacket.replyCode, if_neg hkinds]
  · refine ⟨⟨hciTypeData, hciCmndNvmemWrite, ps.flatMap Piece.content⟩, hbuild, hfree,
      not_not.mp hfree, ?_, ?_, ?_⟩
    · exact hread _ (List.cons_ne_nil _ _) (fun h => hdata (Option.some.inj h))
        (unpackHci_data _ a hlength)
    · rw [hmeans]
      have hunpack := @unpackHci_data hciCmndNvmemWrite.toUInt8 a _ _ [] hlength
      rw [List.append_nil] at hunpack
      exact hunpack
    · rw [HciPacket.replyCode, if_pos rfl, hop]

/-- **A call is the protocol's**, from its command to its reply, and holds the fields of the
reply. -/
theorem CommandCall.Orderly.run {p : Patches} (hp : p.Fit) {c : CommandCall} (h : c.Orderly)
    {sl : SLInfo} (hlisten : sl.Listening) {tx : Mem} (htx : TxOpen tx) :
    ∃ conv q msgs, c.run p sl tx = some conv ∧ conv.sl.Listening ∧ TxOpen conv.tx ∧
      conv.sl = (simpleLinkWaitEvent sl c.opcode c.mem (c.events ++ [c.reply])).1 ∧
      conv.results = [c.mem.store 0 (replyBytes c.reply)] ∧
      conv.passed.map Passed.read = msgs.map some ∧ Run (ChatStep p) .idle msgs .idle ∧
      c.meaning = some q ∧ commandsIn msgs = [q] ∧ eventsIn msgs = c.events ++ [c.reply] := by
  obtain ⟨⟨size, hop⟩, hsend⟩ := awaits_reply c.awaits
  obtain ⟨-, -, hne, -, -, hpatch⟩ := resultObjects_spec _ hop
  obtain ⟨f, q, hbuild, hfree, hopen, hread, hmeans, hreplyCode⟩ := h.sent htx
  have hframes : ∀ f ∈ c.events, IsEvent f ∧ eventCode f ≠ c.opcode := fun f hf =>
    ⟨(h.quiet f hf).1, h.others f hf⟩
  have hend : EndsWait sl c.reply := by
    refine ⟨hlisten.idle.2, ?_⟩
    rw [h.isReply.2, hsend]
    exact fun hlost => Bool.false_ne_true hlost.1
  obtain ⟨sl', args, hwait, hmem, -, hidle'⟩ := simpleLinkWaitEvent_quiet hop c.mem h.quiet h.others
    h.isReply.1 h.isReply.2 hend
  obtain ⟨tx', passed, msgs, hpassing, hopen', hread', hrun, hnone, hevents⟩ :=
    @waitPassing_spec _ hp _ hne hpatch _ _ hframes h.isReply.2 h.sized
      { sl with usRxEventOpcode := c.opcode } ⟨⟨0, c.mem, []⟩, none⟩ _ rfl hlisten.callback hopen
  have hcb := simpleLinkWaitEvent_sWlanCB sl c.opcode c.mem (c.events ++ [c.reply])
  rw [hwait] at hcb
  have hsl : (simpleLinkWaitEvent sl c.opcode c.mem (c.events ++ [c.reply])).1 = sl' := by
    rw [hwait]
  rw [simpleLinkWaitEvent] at hwait
  rw [hwait] at hpassing
  refine ⟨⟨sl', tx', .sent f.wire :: passed, [args.ret.mem]⟩, q, .command q :: msgs, ?_,
    ⟨hidle', hcb.trans hlisten.callback⟩, hopen', hsl.symm, ?_, ?_,
    .cons (.command q) (hreplyCode ▸ hrun), hmeans, ?_, ?_⟩
  · rw [CommandCall.run, hbuild]
    dsimp only
    rw [if_neg hfree, hpassing]
    rfl
  · rw [hmem]
  · rw [List.map_cons, hread, hread']
    rfl
  · exact congrArg (q :: ·) hnone
  · exact hevents

/-- `SpiOpen`, as far as the transmit buffer goes. -/
def spiOpen (tx : Mem) : Mem := tx.store (cc3000TxBufferSize - 1) [cc3000BufferMagicNumber]

/-- The events up to the reply of a command. -/
structure Arrivals where
  events : List Mem
  reply : Mem

/-- They are quiet ones, and the reply is to `code`. -/
structure Arrivals.For (arrivals : Arrivals) (code : UInt16) : Prop where
  quiet : Quiet arrivals.events
  others : ∀ f ∈ arrivals.events, eventCode f ≠ code
  isReply : IsEvent arrivals.reply ∧ eventCode arrivals.reply = code

/-- They fit in the receive buffer. -/
def Arrivals.Fit (arrivals : Arrivals) : Prop :=
  ∀ f ∈ arrivals.events ++ [arrivals.reply], RxFits f

/-- The two commands of `wlan_start`. Both pass a null pointer for the result. -/
def startCalls (usPatchesAvailableAtHost : UInt16) (init size : Arrivals) : List CommandCall :=
  [⟨.simpleLinkInitStart usPatchesAvailableAtHost, hciCmndSimpleLinkStart, rfl, Mem.ofList [],
      init.events, init.reply⟩,
    ⟨.wlanStartReadBufferSize, hciCmndReadBufferSize, rfl, Mem.ofList [], size.events, size.reply⟩]

/-- `wlan_start`, once the device has answered the enable pin on its interrupt line. -/
def wlanStart (p : Patches) (sl : SLInfo) (tx : Mem) (usPatchesAvailableAtHost : UInt16)
    (init size : Arrivals) : Option Conversation :=
  converse p sl.restart (spiOpen tx) (startCalls usPatchesAvailableAtHost init size)

theorem spiOpen_open (tx : Mem) : TxOpen (spiOpen tx) :=
  @Mem.store_in tx _ _ [cc3000BufferMagicNumber] (Nat.le_refl _) (Nat.lt_succ_self _)

end SpiderL3S
