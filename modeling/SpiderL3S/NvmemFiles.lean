import SpiderL3S.Conversation
import SpiderL3S.Lib.Files
import SpiderL3S.Nvmem
import SpiderL3S.Security.SmartConfig

/- The files of the device, through `nvmem_write` and `nvmem_read`. What the device does
   is what `nvmem.c` says of it (`NvmemServed`): a write it confirms is done where the
   frame says, one it does not may have spoilt its own file, and a read that succeeds
   carries what is in the file. What the host knows of the files is then what `Files`
   says of a store: every run of calls is a run of the store, with the results as they
   were returned (`nvmem_refines`). So what was written and has not been written over is
   what is read (`nvmem_stored`), and the calls of `nvmem_write_patch` are one write
   (`nvmemWritePatch_stores`). -/
namespace SpiderL3S

open Runs

/-! The calls. -/

inductive NvmemCall where
  | write (ulFileId ulLength ulEntryOffset : UInt32) (buff : Mem)
  | read (ulFileId ulLength ulOffset : UInt32) (buff : Mem)

def NvmemCall.command : NvmemCall → Command
  | write ulFileId ulLength ulEntryOffset buff => .nvmemWrite ulFileId ulLength ulEntryOffset buff
  | read ulFileId ulLength ulOffset _ => .nvmemRead ulFileId ulLength ulOffset

/-- `nvmem_write` behind its frame: the globals and `iRes`. -/
def nvmemWriteWaits (sl : SLInfo) (events : List Mem) : Option (SLInfo × UInt32) :=
  let iRes := Mem.ofList (uint32Bytes 0xFFFFFFFF)
  match simpleLinkWaitEvent sl hciEvntNvmemWrite iRes events with
  | (sl, args, true) => some (sl, streamToUint32 args.ret.mem 0)
  | (_, _, false) => none

/-- What a call leaves: the globals, its result, and the caller's buffer. -/
structure NvmemResult where
  sl : SLInfo
  ret : UInt32
  buff : Mem

/-- What a call does behind its frame. -/
def NvmemCall.waits (c : NvmemCall) (sl : SLInfo) (events packets : List Mem) :
    Option NvmemResult :=
  match c with
  | write _ _ _ buff => (nvmemWriteWaits sl events).map fun (sl, iRes) => ⟨sl, iRes, buff⟩
  | read _ _ _ buff =>
    (nvmemReadWaits sl buff events packets).map fun (sl, args, ucStatus) =>
      ⟨sl, ucStatus, args.ret.mem⟩

/-- A call: the transmit buffer it finds, the events and packets that arrive in it, and
what comes of it. -/
structure NvmemTurn where
  call : NvmemCall
  tx : Mem
  arrivals : Arrivals
  packets : List Mem
  wire : List UInt8
  ret : UInt32
  buff : Mem

/-- The host's part: the call sends `wire`, and returns. -/
def NvmemTurn.Made (l : NvmemTurn) (sl sl' : SLInfo) : Prop :=
  ∃ f, l.call.command.build l.tx = .frame f ∧ ¬ f.Overrun ∧ f.wire = l.wire ∧
    l.call.waits sl (l.arrivals.events ++ [l.arrivals.reply]) l.packets = some ⟨sl', l.ret, l.buff⟩

/-! The device. -/

abbrev DeviceFiles := Files.Store UInt32 UInt8

/-- Quiet events, and then a data frame. -/
structure DataArrives (packets : List Mem) (packet : Mem) : Prop where
  split : ∃ frames, Quiet frames ∧ packets = frames ++ [packet]
  isData : ¬ IsEvent packet

/-- The device's part: what it does with a frame, and what it sends. -/
inductive NvmemServed (files : DeviceFiles) (wire : List UInt8) (arrivals : Arrivals)
    (packets : List Mem) (files' : DeviceFiles) : Prop
  | write {id n p : UInt32} {bytes : List UInt8}
      (hwire : decodeFrame wire = some ⟨hciCmndNvmemWrite, [id, n, p], [bytes]⟩)
      (harrivals : arrivals.For hciEvntNvmemWrite)
      (hfiles : if streamToUint32 arrivals.reply hciEventHeaderSize = 0 then
          files' = Files.write files id p.toNat bytes
        else ∀ j, j ≠ id → files' j = files j)
  | read {id n p : UInt32} {packet : Mem}
      (hwire : unpack wire =
        some ⟨hciTypeCmnd, hciCmndNvmemRead, uint32Bytes id ++ uint32Bytes n ++ uint32Bytes p⟩)
      (harrivals : arrivals.For hciCmndNvmemRead) (hpackets : DataArrives packets packet)
      (hdata : streamToUint8 arrivals.reply hciEventStatusOffset = 0 →
        dataBytes packet = Files.read files id p.toNat n.toNat)
      (hfiles : files' = files)

/-- Host and device together. -/
def NvmemStep (x : SLInfo × DeviceFiles) (l : NvmemTurn) (y : SLInfo × DeviceFiles) : Prop :=
  l.Made x.1 y.1 ∧ NvmemServed x.2 l.wire l.arrivals l.packets y.2

/-! What the host knows. -/

/-- What a call has done to the files, by its result. -/
def NvmemTurn.op (l : NvmemTurn) : Files.Op UInt32 UInt8 :=
  match l.call with
  | .write ulFileId ulLength ulEntryOffset buff =>
    if l.ret = 0 then .wrote ulFileId ulEntryOffset.toNat (buff.slice 0 ulLength.toNat)
    else .spoilt ulFileId
  | .read ulFileId ulLength ulOffset _ =>
    if l.ret = 0 then .got ulFileId ulOffset.toNat (l.buff.slice 0 ulLength.toNat) else .failed

/-- The call finds an open buffer, and its frame fits in it. -/
def NvmemTurn.Fits (l : NvmemTurn) : Prop :=
  TxOpen l.tx ∧
    match l.call with
    | .write _ ulLength _ _ => ulLength.toNat ≤ 184
    | .read .. => True

/-! One call. -/

/-- The frame of a read. -/
theorem nvmemRead_unpack (ulFileId ulLength ulOffset : UInt32) {tx : Mem} (htx : TxOpen tx) :
    ∃ f, (Command.nvmemRead ulFileId ulLength ulOffset).build tx = .frame f ∧ ¬ f.Overrun ∧
      unpack f.wire = some ⟨hciTypeCmnd, hciCmndNvmemRead,
        uint32Bytes ulFileId ++ uint32Bytes ulLength ++ uint32Bytes ulOffset⟩ := by
  have hlength : piecesLength [.uint32 ulFileId, .uint32 ulLength, .uint32 ulOffset] = 12 := rfl
  have hroom : (Packet.command hciCmndNvmemRead
      [.uint32 ulFileId, .uint32 ulLength, .uint32 ulOffset] 12).header.length +
      (Packet.command hciCmndNvmemRead
      [.uint32 ulFileId, .uint32 ulLength, .uint32 ulOffset] 12).args.length ≤ 205 := by
    show 4 + piecesLength [.uint32 ulFileId, .uint32 ulLength, .uint32 ulOffset] ≤ 205
    omega
  obtain ⟨hbuild, hfree⟩ := built_of_room (c := .nvmemRead ulFileId ulLength ulOffset) rfl hroom htx
  refine ⟨_, hbuild, hfree, ?_⟩
  have hunpack := @unpack_command hciCmndNvmemRead _ 12 tx hlength (by omega)
  rw [hunpack]
  rfl

/-- The wait of a write returns the word of the reply. -/
theorem nvmemWriteWaits_eq {sl : SLInfo} (hidle : sl.Idle) {arrivals : Arrivals}
    (h : arrivals.For hciEvntNvmemWrite) :
    ∃ sl', nvmemWriteWaits sl (arrivals.events ++ [arrivals.reply]) =
        some (sl', streamToUint32 arrivals.reply hciEventHeaderSize) ∧ sl'.Idle := by
  have hop : (hciEvntNvmemWrite, 4) ∈ resultObjects := by decide
  have hsend : sendClass hciEvntNvmemWrite = false := by decide
  have hend : EndsWait sl arrivals.reply := by
    refine ⟨hidle.2, ?_⟩
    rw [h.isReply.2, hsend]
    exact fun hlost => Bool.false_ne_true hlost.1
  obtain ⟨sl', args, hwait, hmem, -, hidle'⟩ := simpleLinkWaitEvent_quiet hop
    (Mem.ofList (uint32Bytes 0xFFFFFFFF)) h.quiet h.others h.isReply.1 h.isReply.2 hend
  refine ⟨sl', ?_, hidle'⟩
  have hfields : replyBytes arrivals.reply =
      (arrivals.reply.drop hciEventHeaderSize).slice 0 4 := by
    rw [replyBytes, h.isReply.2]
    rfl
  rw [nvmemWriteWaits, hwait]
  dsimp only
  rw [hmem, streamToUint32_fields _ hfields (Nat.le_refl 4)]

/-- The waits of a read return the status byte, with the data in the buffer. -/
theorem nvmemReadWaits_eq {sl : SLInfo} (hidle : sl.Idle) (buff : Mem) {arrivals : Arrivals}
    (h : arrivals.For hciCmndNvmemRead) {packets : List Mem} {packet : Mem}
    (hdata : DataArrives packets packet) :
    ∃ sl' args, nvmemReadWaits sl buff (arrivals.events ++ [arrivals.reply]) packets =
        some (sl', args, (streamToUint8 arrivals.reply hciEventStatusOffset).toUInt32) ∧
      args.ret.mem = buff.store 0 (dataBytes packet) ∧ sl'.Idle := by
  have hop : (hciCmndNvmemRead, 1) ∈ resultObjects := by decide
  have hsend : sendClass hciCmndNvmemRead = false := by decide
  have hend : EndsWait sl arrivals.reply := by
    refine ⟨hidle.2, ?_⟩
    rw [h.isReply.2, hsend]
    exact fun hlost => Bool.false_ne_true hlost.1
  obtain ⟨sl₁, args₁, hwait, hmem, -, hidle₁⟩ := simpleLinkWaitEvent_quiet hop (Mem.ofList [0xFF])
    h.quiet h.others h.isReply.1 h.isReply.2 hend
  obtain ⟨frames, hquiet, rfl⟩ := hdata.split
  obtain ⟨sl₂, args₂, hwait₂, hbuff, hidle₂⟩ :=
    simpleLinkWaitData_quiet hidle₁.1 buff none hquiet hdata.isData
  have hfields : replyBytes arrivals.reply =
      [streamToUint8 arrivals.reply hciEventStatusOffset] := by
    rw [replyBytes, h.isReply.2]
    rfl
  have hstatus : args₁.ret.mem 0 = streamToUint8 arrivals.reply hciEventStatusOffset := by
    rw [hmem, hfields]
    exact Mem.store_in _ (Nat.le_refl 0) (Nat.zero_lt_one)
  refine ⟨sl₂, args₂, ?_, hbuff, hidle₂⟩
  rw [nvmemReadWaits, hwait]
  dsimp only
  rw [hwait₂, hstatus]

/-- A status byte that is zero. -/
theorem toUInt32_eq_zero {b : UInt8} : b.toUInt32 = 0 ↔ b = 0 := by
  rw [← UInt32.toNat_inj, ← UInt8.toNat_inj, UInt8.toNat_toUInt32]
  rfl

/-- A read has no byte strings, so it is not taken for a write. -/
theorem decodeFrame_read {wire args : List UInt8}
    (h : unpack wire = some ⟨hciTypeCmnd, hciCmndNvmemRead, args⟩) : decodeFrame wire = none := by
  have hschema : schemaOf ⟨hciTypeCmnd, hciCmndNvmemRead, args⟩ = none := rfl
  rw [decodeFrame, h, Option.bind_eq_bind, Option.bind_some, hschema]
  rfl

/-- What a turn with the device does is what the store says of it. -/
theorem NvmemStep.refines {x y : SLInfo × DeviceFiles} {l : NvmemTurn} (hidle : x.1.Idle)
    (hfits : l.Fits) (h : NvmemStep x l y) : Files.Step x.2 l.op y.2 ∧ y.1.Idle := by
  obtain ⟨⟨f, hbuild, hfree, hwire, hwaits⟩, hserved⟩ := h
  obtain ⟨htx, hroom⟩ := hfits
  rw [NvmemTurn.op]
  cases hcall : l.call with
  | write ulFileId ulLength ulEntryOffset buff =>
    rw [hcall] at hbuild hwaits hroom
    obtain ⟨f', hbuild', -, hdecodes, -⟩ :=
      nvmemWrite_decodable ulFileId ulLength ulEntryOffset buff
        (by show 16 + ulLength.toNat ≤ 200; exact Nat.add_le_add_left hroom 16) l.tx htx
    obtain rfl : f' = f := Outcome.frame.inj (hbuild'.symm.trans hbuild)
    rw [hwire] at hdecodes
    cases hserved with
    | @write id n p bytes hmeans harrivals hfiles =>
      obtain ⟨sl', hret, hidle'⟩ := nvmemWriteWaits_eq hidle harrivals
      rw [NvmemCall.waits, hret] at hwaits
      obtain ⟨hsl, hword, -⟩ := NvmemResult.mk.inj (Option.some.inj hwaits)
      obtain ⟨-, hwords, hstrings⟩ := Decoded.mk.inj (Option.some.inj (hdecodes.symm.trans hmeans))
      simp only [List.cons.injEq, and_true] at hwords hstrings
      obtain ⟨rfl, rfl, rfl⟩ := hwords
      subst hstrings
      refine ⟨?_, hsl ▸ hidle'⟩
      dsimp only
      rw [← hword]
      split at hfiles
      · next hdone =>
        rw [if_pos hdone, hfiles]
        exact .wrote _ _ _
      · next hfailed =>
        rw [if_neg hfailed]
        exact .spoilt hfiles
    | read hmeans =>
      rw [decodeFrame_read hmeans] at hdecodes
      cases hdecodes
  | read ulFileId ulLength ulOffset buff =>
    rw [hcall] at hbuild hwaits
    obtain ⟨f', hbuild', -, hunpack⟩ := nvmemRead_unpack ulFileId ulLength ulOffset htx
    obtain rfl : f' = f := Outcome.frame.inj (hbuild'.symm.trans hbuild)
    rw [hwire] at hunpack
    cases hserved with
    | write hmeans =>
      rw [decodeFrame_read hunpack] at hmeans
      cases hmeans
    | @read id n p packet hmeans harrivals hpackets hdata hfiles =>
      obtain ⟨sl', args, hret, hbuff, hidle'⟩ := nvmemReadWaits_eq hidle buff harrivals hpackets
      rw [NvmemCall.waits, hret] at hwaits
      obtain ⟨hsl, hstatus, hbuff'⟩ := NvmemResult.mk.inj (Option.some.inj hwaits)
      obtain ⟨-, -, hargs⟩ := HciPacket.mk.inj (Option.some.inj (hunpack.symm.trans hmeans))
      obtain ⟨hfirst, hoffset⟩ := List.append_inj' hargs rfl
      obtain ⟨hid, hlength⟩ := List.append_inj' hfirst rfl
      obtain rfl := uint32Bytes_inj hid
      obtain rfl := uint32Bytes_inj hlength
      obtain rfl := uint32Bytes_inj hoffset
      refine ⟨?_, hsl ▸ hidle'⟩
      dsimp only
      rw [hfiles]
      by_cases hok : l.ret = 0
      · have hbytes := hdata (toUInt32_eq_zero.mp (hstatus.trans hok))
        have hread : l.buff.slice 0 ulLength.toNat =
            Files.read x.2 ulFileId ulOffset.toNat ulLength.toNat := by
          have hlen : (Files.read x.2 ulFileId ulOffset.toNat ulLength.toNat).length =
              ulLength.toNat := Files.read_length
          have hslice := Mem.slice_store buff 0
            (Files.read x.2 ulFileId ulOffset.toNat ulLength.toNat)
          rw [hlen] at hslice
          rw [← hbuff', hbuff, hbytes, hslice]
        rw [if_pos hok, hread]
        exact .got _ _ _
      · rw [if_neg hok]
        exact .failed

/-- The host's view of the files is true. Whatever the transmit buffer held, and whatever
quiet events came in the calls: a run of calls with a device that serves them as it is
documented is a run of the store, where a call that returned 0 has done what it says
and a read that returned 0 has brought what is there. -/
theorem nvmem_refines {x y : SLInfo × DeviceFiles} {ls : List NvmemTurn} (hidle : x.1.Idle)
    (hfits : ∀ l ∈ ls, l.Fits) (h : Run NvmemStep x ls y) :
    Run Files.Step x.2 (ls.map NvmemTurn.op) y.2 ∧ y.1.Idle := by
  induction h with
  | nil x => exact ⟨.nil x.2, hidle⟩
  | cons hstep _ ih =>
    obtain ⟨hop, hidle'⟩ := hstep.refines hidle (hfits _ List.mem_cons_self)
    obtain ⟨hops, hend⟩ := ih hidle' fun l hl => hfits l (List.mem_cons_of_mem _ hl)
    exact ⟨.cons hop hops, hend⟩

/-- What a write has done that returned 0, and what a read has brought. -/
theorem op_of_write {l : NvmemTurn} {ulFileId ulLength ulEntryOffset : UInt32} {buff : Mem}
    (hcall : l.call = .write ulFileId ulLength ulEntryOffset buff) (hret : l.ret = 0) :
    l.op = .wrote ulFileId ulEntryOffset.toNat (buff.slice 0 ulLength.toNat) := by
  rw [NvmemTurn.op, hcall]
  exact if_pos hret

theorem op_of_read {l : NvmemTurn} {ulFileId ulLength ulOffset : UInt32} {buff : Mem}
    (hcall : l.call = .read ulFileId ulLength ulOffset buff) (hret : l.ret = 0) :
    l.op = .got ulFileId ulOffset.toNat (l.buff.slice 0 ulLength.toNat) := by
  rw [NvmemTurn.op, hcall]
  exact if_pos hret

/-- **What was written is read.** A read that returns 0 brings the bytes of the last write
to its place that returned 0, whatever calls came between, if these left the place
alone. -/
theorem nvmem_stored {x y : SLInfo × DeviceFiles} {first last : NvmemTurn}
    {between : List NvmemTurn} (hidle : x.1.Idle)
    (hfits : ∀ l ∈ first :: (between ++ [last]), l.Fits)
    (h : Run NvmemStep x (first :: (between ++ [last])) y)
    {ulFileId ulLength ulOffset : UInt32} {buff into : Mem}
    (hwrite : first.call = .write ulFileId ulLength ulOffset buff) (hwritten : first.ret = 0)
    (hspares : ∀ l ∈ between, l.op.Spares ulFileId ulOffset.toNat ulLength.toNat)
    (hread : last.call = .read ulFileId ulLength ulOffset into) (hgot : last.ret = 0) :
    last.buff.slice 0 ulLength.toNat = buff.slice 0 ulLength.toNat := by
  obtain ⟨hops, -⟩ := nvmem_refines hidle hfits h
  rw [List.map_cons, List.map_append, List.map_singleton, op_of_write hwrite hwritten,
    op_of_read hread hgot] at hops
  apply Files.got_of_run hops
  · intro op hop
    obtain ⟨l, hl, rfl⟩ := List.mem_map.mp hop
    rw [Mem.slice_length]
    exact hspares l hl
  · rw [Mem.slice_length, Mem.slice_length]

/-! A device that serves. -/

/-- A write that is confirmed. -/
theorem write_served {sl : SLInfo} (hidle : sl.Idle) (files : DeviceFiles) {tx : Mem}
    (htx : TxOpen tx) {ulFileId ulLength ulEntryOffset : UInt32} (hroom : ulLength.toNat ≤ 184)
    (buff : Mem) {arrivals : Arrivals} (h : arrivals.For hciEvntNvmemWrite)
    (hzero : streamToUint32 arrivals.reply hciEventHeaderSize = 0) :
    ∃ l sl', NvmemStep (sl, files) l (sl', Files.write files ulFileId ulEntryOffset.toNat
        (buff.slice 0 ulLength.toNat)) ∧
      l.call = .write ulFileId ulLength ulEntryOffset buff ∧ l.ret = 0 ∧ l.Fits ∧ sl'.Idle := by
  obtain ⟨f, hbuild, hfree, hdecodes, -⟩ :=
    nvmemWrite_decodable ulFileId ulLength ulEntryOffset buff
      (by show 16 + ulLength.toNat ≤ 200; exact Nat.add_le_add_left hroom 16) tx htx
  obtain ⟨sl', hret, hidle'⟩ := nvmemWriteWaits_eq hidle h
  refine ⟨⟨.write ulFileId ulLength ulEntryOffset buff, tx, arrivals, [], f.wire, 0, buff⟩, sl',
    ⟨⟨f, hbuild, hfree, rfl, ?_⟩, .write hdecodes h ?_⟩, rfl, rfl, ⟨htx, hroom⟩, hidle'⟩
  · rw [NvmemCall.waits, hret, hzero]
    rfl
  · rw [if_pos hzero]

/-- A read that succeeds. -/
theorem read_served {sl : SLInfo} (hidle : sl.Idle) {files : DeviceFiles} {tx : Mem}
    (htx : TxOpen tx) {ulFileId ulLength ulOffset : UInt32} (buff : Mem) {arrivals : Arrivals}
    (h : arrivals.For hciCmndNvmemRead)
    (hzero : streamToUint8 arrivals.reply hciEventStatusOffset = 0) {packets : List Mem}
    {packet : Mem} (hpackets : DataArrives packets packet)
    (hdata : dataBytes packet = Files.read files ulFileId ulOffset.toNat ulLength.toNat) :
    ∃ l sl', NvmemStep (sl, files) l (sl', files) ∧
      l.call = .read ulFileId ulLength ulOffset buff ∧ l.ret = 0 ∧ l.Fits ∧ sl'.Idle := by
  obtain ⟨f, hbuild, hfree, hunpack⟩ := nvmemRead_unpack ulFileId ulLength ulOffset htx
  obtain ⟨sl', args, hret, -, hidle'⟩ := nvmemReadWaits_eq hidle buff h hpackets
  refine ⟨⟨.read ulFileId ulLength ulOffset buff, tx, arrivals, packets, f.wire, 0, args.ret.mem⟩,
    sl', ⟨⟨f, hbuild, hfree, rfl, ?_⟩, .read hunpack h hpackets (fun _ => hdata) rfl⟩, rfl, rfl,
    ⟨htx, trivial⟩, hidle'⟩
  rw [NvmemCall.waits, hret, hzero]
  rfl

/-- The events of a call that the device answers at once, with success. -/
def writeConfirmed : Arrivals := ⟨[], eventFrame hciEvntNvmemWrite 0 [0, 0, 0, 0]⟩
def readConfirmed : Arrivals := ⟨[], eventFrame hciCmndNvmemRead 0 []⟩

theorem writeConfirmed_for : writeConfirmed.For hciEvntNvmemWrite := by
  refine ⟨?_, ?_, by decide⟩
  · intro f hf
    exact absurd hf List.not_mem_nil
  · intro f hf
    exact absurd hf List.not_mem_nil

theorem readConfirmed_for : readConfirmed.For hciCmndNvmemRead := by
  refine ⟨?_, ?_, by decide⟩
  · intro f hf
    exact absurd hf List.not_mem_nil
  · intro f hf
    exact absurd hf List.not_mem_nil

/-- A frame that carries the bytes, and nothing before it. -/
theorem dataArrives_carries (bs : List UInt8) : DataArrives [carries bs] (carries bs) := by
  have hdata : hciTypeData ≠ hciTypeEvnt := by decide
  refine ⟨⟨[], ?_, rfl⟩, fun hevent => hdata hevent⟩
  intro f hf
  exact absurd hf List.not_mem_nil

def noFiles : DeviceFiles := fun _ _ => 0

/-- Two bytes of file 14, written and read. -/
theorem nvmem_stored_two :
    ∃ x y first last into, Run NvmemStep x [first, last] y ∧
      first.call = .write 14 2 4 (Mem.ofList [0xAB, 0xCD]) ∧ last.call = .read 14 2 4 into ∧
      last.buff.slice 0 (2 : UInt32).toNat =
        (Mem.ofList [0xAB, 0xCD]).slice 0 (2 : UInt32).toNat := by
  have hidle : (SLInfo.start true).Idle := ⟨rfl, rfl⟩
  have hroom : (2 : UInt32).toNat ≤ 184 := by decide
  have hwritten : streamToUint32 writeConfirmed.reply hciEventHeaderSize = 0 := by decide
  have hread : streamToUint8 readConfirmed.reply hciEventStatusOffset = 0 := by decide
  obtain ⟨first, sl, hfirst, hcall₁, hret₁, hfits₁, hidle₁⟩ :=
    @write_served _ hidle noFiles _ (spiOpen_open (Mem.ofList [])) 14 2 4 hroom
      (Mem.ofList [0xAB, 0xCD]) _ writeConfirmed_for hwritten
  have hbytes : dataBytes (carries [0xAB, 0xCD]) = Files.read (Files.write noFiles 14
      (4 : UInt32).toNat ((Mem.ofList [0xAB, 0xCD]).slice 0 (2 : UInt32).toNat)) 14
      (4 : UInt32).toNat (2 : UInt32).toNat := by
    rw [dataBytes_carries (by decide)]
    exact Files.read_write.symm
  obtain ⟨last, sl', hlast, hcall₂, hret₂, hfits₂, -⟩ := read_served hidle₁
    (spiOpen_open (Mem.ofList [])) (Mem.ofList []) readConfirmed_for hread
    (dataArrives_carries [0xAB, 0xCD]) hbytes
  have hrun := Run.cons hfirst (.single hlast)
  refine ⟨_, _, first, last, Mem.ofList [], hrun, hcall₁, hcall₂, ?_⟩
  have hfits : ∀ l ∈ first :: ([] ++ [last]), l.Fits := by
    intro l hl
    rcases List.mem_cons.mp hl with rfl | hl
    · exact hfits₁
    · rw [List.mem_singleton.mp hl]
      exact hfits₂
  have hspares : ∀ l ∈ ([] : List NvmemTurn),
      l.op.Spares 14 (4 : UInt32).toNat (2 : UInt32).toNat :=
    fun l hl => absurd hl List.not_mem_nil
  exact nvmem_stored hidle hfits hrun hcall₁ hret₁ hspares hcall₂ hret₂

/-! A patch. -/

def NvmemWrite.call (w : NvmemWrite) : NvmemCall :=
  .write w.ulFileId w.ulLength w.ulEntryOffset w.buff

/-- The calls of `nvmem_write_patch`, where they return what they do. -/
structure PatchCalls (ulFileId spLength : UInt32) (spData : Mem) (ls : List NvmemTurn)
    (status : UInt8) : Prop where
  opened : ∀ l ∈ ls, TxOpen l.tx
  calls : ∃ writes, nvmemWritePatch ulFileId spLength spData
      (fun i => (ls.map NvmemTurn.ret).getD i 0) = (status, writes) ∧
    ls.map NvmemTurn.call = writes.map NvmemWrite.call

/-- The place of a portion, up to 65536 bytes. -/
theorem portionWrite_op {ulFileId spLength : UInt32} (spData : Mem)
    (hshort : spLength.toNat ≤ 65536) {i : Nat} (hi : i < portionCount spLength) {l : NvmemTurn}
    (hret : l.ret = 0)
    (hcall : l.call = (portionWrite ulFileId spLength spData i).call) :
    l.op = .wrote ulFileId (32 * i) (spData.slice (32 * i) (min 32 (spLength.toNat - 32 * i))) := by
  have hfew : i < 2048 := by
    unfold portionCount at hi
    omega
  have hoffset := (portionWrite_offset ulFileId spLength spData i).mpr hfew
  have hlength : (portionWrite ulFileId spLength spData i).ulLength.toNat =
      min 32 (spLength.toNat - 32 * i) :=
    UInt32.toNat_ofNat_of_lt' (Nat.lt_of_le_of_lt (Nat.min_le_left _ _) (by decide))
  rw [NvmemTurn.op, hcall]
  show (if l.ret = 0 then _ else _) = _
  rw [if_pos hret, hoffset, hlength]
  exact congrArg _ (Mem.drop_slice _ _ _ _)

/-- The portions in turn are one write. -/
theorem portions_write {ulFileId spLength : UInt32} {spData : Mem} {n : Nat}
    (hn : n ≤ portionCount spLength) {s t : DeviceFiles}
    (h : Run Files.Step s ((List.range n).map fun i => .wrote ulFileId (32 * i)
      (spData.slice (32 * i) (min 32 (spLength.toNat - 32 * i)))) t) :
    t = Files.write s ulFileId 0 (spData.slice 0 (min (32 * n) spLength.toNat)) := by
  induction n generalizing t with
  | zero =>
    cases h
    rw [Nat.mul_zero, Nat.zero_min]
    exact Files.write_nil.symm
  | succ n ih =>
    rw [List.range_succ, List.map_append] at h
    obtain ⟨u, hbefore, hlast⟩ := h.of_append
    unfold portionCount at hn
    have hu := ih (by unfold portionCount; omega) hbefore
    cases hlast with
    | cons hstep hnil =>
      cases hnil
      cases hstep with
      | wrote =>
        have happend := spData.slice_append 0 (32 * n) (min 32 (spLength.toNat - 32 * n))
        have hfull : min (32 * n) spLength.toNat = 32 * n := by omega
        have hwrites : Files.write (Files.write s ulFileId 0 (spData.slice 0 (32 * n))) ulFileId
            (0 + (spData.slice 0 (32 * n)).length)
            (spData.slice (32 * n) (min 32 (spLength.toNat - 32 * n))) = _ := Files.write_append
        rw [Mem.slice_length, Nat.zero_add] at hwrites
        rw [Nat.zero_add] at happend
        rw [hu, hfull, hwrites, happend]
        congr 2
        omega

/-- Nothing happens to another file. -/
theorem other_files {ulFileId : UInt32} {s t : DeviceFiles} {ops : List (Files.Op UInt32 UInt8)}
    (h : Run Files.Step s ops t)
    (hops : ∀ op ∈ ops, op = .spoilt ulFileId ∨ ∃ p bs, op = .wrote ulFileId p bs) {j : UInt32}
    (hj : j ≠ ulFileId) : t j = s j := by
  apply h.invariant (P := fun u => u j = s j) rfl
  intro a op b hop ha hstep
  rcases hops op hop with rfl | ⟨p, bs, rfl⟩
  · cases hstep with
    | spoilt hother => exact (hother j hj).trans ha
  · cases hstep with
    | wrote => exact (Files.write_other hj).trans ha

/-- **A patch that is reported written is in the file.** If the device's error codes show
in their low byte, a file of at most 65536 bytes for which `nvmem_write_patch` returns
0 holds the data from its start on, whatever came in between; and no other file has
changed, whatever it returns. -/
theorem nvmemWritePatch_stores {x y : SLInfo × DeviceFiles} {ls : List NvmemTurn}
    (hidle : x.1.Idle) (h : Run NvmemStep x ls y) {ulFileId spLength : UInt32} {spData : Mem}
    {status : UInt8} (hcalls : PatchCalls ulFileId spLength spData ls status)
    (hshort : spLength.toNat ≤ 65536)
    (hcodes : ∀ l ∈ ls, l.ret ≠ 0 → l.ret.toUInt8 ≠ 0) :
    (∀ j, j ≠ ulFileId → y.2 j = x.2 j) ∧
      (status = 0 → y.2 = Files.write x.2 ulFileId 0 (spData.slice 0 spLength.toNat)) := by
  obtain ⟨writes, hpatch, hmade⟩ := hcalls.calls
  obtain ⟨n, hstops, houtcome⟩ := nvmemWritePatch_spec ulFileId spLength spData
    (fun i => (ls.map NvmemTurn.ret).getD i 0)
  rw [hpatch, patchOutcome] at houtcome
  obtain ⟨hstatus, rfl⟩ := Prod.mk.inj houtcome
  have hlength : ls.length = n := by
    simpa using congrArg List.length hmade
  have hcall : ∀ i (hi : i < ls.length),
      ls[i].call = (portionWrite ulFileId spLength spData i).call := by
    intro i hi
    have hi' := congrArg (fun calls => calls[i]?) hmade
    simp only [List.getElem?_map, List.getElem?_eq_getElem hi, Option.map_some,
      List.getElem?_range (hlength ▸ hi)] at hi'
    exact Option.some.inj hi'
  have hret : ∀ i (hi : i < ls.length), (ls.map NvmemTurn.ret).getD i 0 = ls[i].ret := by
    intro i hi
    rw [List.getD_eq_getElem _ _ (by rwa [List.length_map]), List.getElem_map]
  have hfits : ∀ l ∈ ls, l.Fits := by
    intro l hl
    obtain ⟨i, hi, rfl⟩ := List.getElem_of_mem hl
    refine ⟨hcalls.opened _ hl, ?_⟩
    rw [hcall i hi]
    show (UInt32.ofNat _).toNat ≤ 184
    have hportion : min 32 (spLength.toNat - 32 * i) ≤ 32 := Nat.min_le_left _ _
    rw [UInt32.toNat_ofNat_of_lt' (Nat.lt_of_le_of_lt hportion (by decide))]
    omega
  obtain ⟨hops, -⟩ := nvmem_refines hidle hfits h
  refine ⟨fun j hj => other_files hops ?_ hj, ?_⟩
  · intro op hop
    obtain ⟨l, hl, rfl⟩ := List.mem_map.mp hop
    obtain ⟨i, hi, rfl⟩ := List.getElem_of_mem hl
    rw [NvmemTurn.op, hcall i hi]
    show (if _ then _ else _) = _ ∨ _
    split
    · exact .inr ⟨_, _, rfl⟩
    · exact .inl rfl
  · intro hdone
    -- an error would have shown, in the middle or in the result
    have hzero : ∀ i < n, (ls.map NvmemTurn.ret).getD i 0 = 0 := by
      intro i hi
      have hlow : ((ls.map NvmemTurn.ret).getD i 0).toUInt8 = 0 := by
        by_cases hmiddle : i + 1 < n
        · exact hstops.quiet i hmiddle
        · have hlast : n - 1 = i := by omega
          rw [hdone, if_neg (by omega), hlast] at hstatus
          exact hstatus.symm
      rw [hret i (hlength ▸ hi)] at hlow ⊢
      by_contra hne
      exact hcodes _ (List.getElem_mem _) hne hlow
    have hall := hstops.all hzero
    have hwrotes : ls.map NvmemTurn.op = (List.range n).map fun i => .wrote ulFileId (32 * i)
        (spData.slice (32 * i) (min 32 (spLength.toNat - 32 * i))) := by
      apply List.ext_getElem
      · rw [List.length_map, List.length_map, List.length_range, hlength]
      · intro i hi hi'
        rw [List.length_map] at hi
        rw [List.getElem_map, List.getElem_map, List.getElem_range]
        apply portionWrite_op spData hshort (by omega) _ (hcall i hi)
        rw [← hret i hi]
        exact hzero i (by omega)
    rw [hwrotes] at hops
    have hwhole : min (32 * n) spLength.toNat = spLength.toNat := by
      rw [hall]
      unfold portionCount
      omega
    rw [portions_write hall.le hops, hwhole]

/-- Two bytes are one portion. -/
theorem nvmemWritePatch_stores_two :
    ∃ x y ls status, Run NvmemStep x ls y ∧
      PatchCalls 1 2 (Mem.ofList [0xAB, 0xCD]) ls status ∧
      ((∀ j, j ≠ 1 → y.2 j = x.2 j) ∧ (status = 0 →
        y.2 = Files.write x.2 1 0 ((Mem.ofList [0xAB, 0xCD]).slice 0 (2 : UInt32).toNat))) := by
  have hidle : (SLInfo.start true).Idle := ⟨rfl, rfl⟩
  have hroom : (2 : UInt32).toNat ≤ 184 := by decide
  have hwritten : streamToUint32 writeConfirmed.reply hciEventHeaderSize = 0 := by decide
  obtain ⟨l, sl, hstep, hcall, hret, hfits, -⟩ :=
    @write_served _ hidle noFiles _ (spiOpen_open (Mem.ofList [])) 1 2 0 hroom
      (Mem.ofList [0xAB, 0xCD]) _ writeConfirmed_for hwritten
  obtain ⟨n, hstops, houtcome⟩ := nvmemWritePatch_spec 1 2 (Mem.ofList [0xAB, 0xCD])
    (fun i => ([l].map NvmemTurn.ret).getD i 0)
  have hone : n = 1 := by
    have hle : n ≤ 1 := hstops.le
    rcases hstops.ends with hall | ⟨hpos, -⟩
    · exact hall
    · omega
  have hcalls : PatchCalls 1 2 (Mem.ofList [0xAB, 0xCD]) [l] 0 := by
    refine ⟨?_, [portionWrite 1 2 (Mem.ofList [0xAB, 0xCD]) 0], ?_, ?_⟩
    · intro m hm
      rw [List.mem_singleton.mp hm]
      exact hfits.1
    · rw [houtcome, hone]
      show ((([l].map NvmemTurn.ret).getD 0 0).toUInt8, _) = _
      rw [List.map_singleton, List.getD_cons_zero, hret]
      rfl
    · have hall : (Mem.ofList [0xAB, 0xCD]).drop (32 * 0) = Mem.ofList [0xAB, 0xCD] := by
        funext i
        rw [Mem.drop, Nat.mul_zero, Nat.zero_add]
      rw [List.map_singleton, hcall, List.map_singleton, NvmemWrite.call, portionWrite, hall]
      rfl
  have hrun : Run NvmemStep _ [l] _ := .single hstep
  refine ⟨_, _, [l], 0, hrun, hcalls, nvmemWritePatch_stores hidle hrun hcalls (by decide) ?_⟩
  intro m hm hne
  rw [List.mem_singleton.mp hm] at hne
  exact absurd hret hne

/-! Smart Config. -/

/-- `aes_write_key`. -/
def aesWriteKey (key : Mem) : NvmemCall := .write 12 16 0 key

/-- `aes_read_key`, and the second read of `wlan_smart_config_process`. -/
def aesReadKeyCall (key : Mem) : NvmemCall := .read 12 16 0 key
def profileRead (profileArray : Mem) : NvmemCall := .read 13 67 0 profileArray

/-- What arrives in a read. -/
def NvmemTurn.reply (l : NvmemTurn) : NvmemReply :=
  ⟨l.arrivals.events ++ [l.arrivals.reply], l.packets⟩

theorem Mem.block_toList (m : Mem) (p : Nat) : (m.block p).toList = m.slice p 16 := by
  apply List.ext_getElem
  · rw [Vector.length_toList, Mem.slice_length]
  · intro i hi hi'
    simp only [Mem.block, Vector.getElem_toList, Vector.getElem_ofFn, Mem.slice, List.getElem_map,
      List.getElem_range]

/-- A read that is made and returns 0. -/
theorem NvmemTurn.Made.reads {l : NvmemTurn} {sl sl' : SLInfo} (h : l.Made sl sl')
    {ulFileId ulLength ulOffset : UInt32} {buff : Mem}
    (hcall : l.call = .read ulFileId ulLength ulOffset buff) (hret : l.ret = 0) :
    ∃ args, nvmemReadWaits sl buff l.reply.events l.reply.packets = some (sl', args, 0) ∧
      args.ret.mem = l.buff := by
  obtain ⟨-, -, -, -, hwaits⟩ := h
  rw [hcall, NvmemCall.waits, hret, Option.map_eq_some_iff] at hwaits
  obtain ⟨⟨sl₁, args, ucStatus⟩, hreads, heq⟩ := hwaits
  obtain ⟨rfl, rfl, hbuff⟩ := NvmemResult.mk.inj heq
  exact ⟨args, hreads, hbuff⟩

/-- A read that returns 0 brings what is there, and the files are as they were. -/
theorem NvmemStep.got {x y : SLInfo × DeviceFiles} {l : NvmemTurn} (hidle : x.1.Idle)
    (hfits : l.Fits) (h : NvmemStep x l y) {ulFileId ulLength ulOffset : UInt32} {buff : Mem}
    (hcall : l.call = .read ulFileId ulLength ulOffset buff) (hret : l.ret = 0) :
    l.buff.slice 0 ulLength.toNat = Files.read x.2 ulFileId ulOffset.toNat ulLength.toNat ∧
      y.2 = x.2 := by
  obtain ⟨hop, -⟩ := h.refines hidle hfits
  rw [op_of_read hcall hret] at hop
  generalize hbytes : l.buff.slice 0 ulLength.toNat = bs at hop
  generalize x.2 = s at hop ⊢
  generalize y.2 = t at hop ⊢
  cases hop with
  | got k p n =>
    have hn : n = ulLength.toNat := by
      have hlength := congrArg List.length hbytes
      rw [Mem.slice_length, Files.read_length] at hlength
      exact hlength.symm
    rw [hn]
    exact ⟨rfl, rfl⟩

/-- **Smart Config, from the key on.** A key that `aes_write_key` has stored is the one
that decrypts the profile: after any calls that leave it alone, if file 13 holds the
profile of a network under that key and both reads return 0,
`wlan_smart_config_process` adds this network, with its passphrase. -/
theorem smartConfig_stored {x u v z : SLInfo × DeviceFiles} {stored keyRead fileRead : NvmemTurn}
    {between : List NvmemTurn} (hidle : x.1.Idle)
    (hfits : ∀ l ∈ stored :: (between ++ [keyRead, fileRead]), l.Fits)
    (h : Run NvmemStep x (stored :: between) u) (hkeyRead : NvmemStep u keyRead v)
    (hfileRead : NvmemStep v fileRead z) {written key profileArray : Mem}
    (hwrite : stored.call = aesWriteKey written) (hspares : ∀ l ∈ between, l.op.Spares 12 0 16)
    (hread : keyRead.call = aesReadKeyCall key)
    (hprofile : fileRead.call = profileRead profileArray)
    (hok : stored.ret = 0 ∧ keyRead.ret = 0 ∧ fileRead.ret = 0)
    {ssid p : List UInt8} {secType : UInt8} (hssid : ssid.length ≤ 32) (hp : p.length ≤ 32)
    (hprint : Printable p)
    (htype : secType = wlanSecUnsec ∨ secType = wlanSecWpa ∨ secType = wlanSecWpa2)
    (hfile : Files.read u.2 13 0 (ssid.length + 35) =
      profileFile ssid secType (written.block 0) p) (expandedKey : Mem) :
    ∃ a, wlanSmartConfigProcess u.1 key profileArray expandedKey keyRead.reply fileRead.reply =
        some (.adds a) ∧ AddsProfile ssid secType p a := by
  obtain ⟨hstored, hkeyOk, hfileOk⟩ := hok
  have hkeyFits := hfits keyRead (by simp)
  have hfileFits := hfits fileRead (by simp)
  have hbefore : ∀ l ∈ stored :: between, l.Fits := by
    intro l hl
    rw [← List.cons_append] at hfits
    exact hfits l (List.mem_append_left _ hl)
  obtain ⟨hops, hidleU⟩ := nvmem_refines hidle hbefore h
  obtain ⟨hkeyOp, hidleV⟩ := hkeyRead.refines hidleU hkeyFits
  -- the key is the one that was written
  have hkey : keyRead.buff.slice 0 16 = (written.block 0).toList := by
    have hall := hops.append (.single hkeyOp)
    rw [List.map_cons, op_of_write hwrite hstored, op_of_read hread hkeyOk] at hall
    refine (Files.got_of_run hall ?_ ?_).trans (written.block_toList 0).symm
    · intro op hop
      obtain ⟨l, hl, rfl⟩ := List.mem_map.mp hop
      rw [Mem.slice_length]
      exact hspares l hl
    · rw [Mem.slice_length, Mem.slice_length]
  -- and the file is the one that is there
  have hgot : fileRead.buff.slice 0 (ssid.length + 35) =
      profileFile ssid secType (written.block 0) p := by
    obtain ⟨-, hsame⟩ := hkeyRead.got hidleU hkeyFits hread hkeyOk
    obtain ⟨hall, -⟩ := hfileRead.got hidleV hfileFits hprofile hfileOk
    have hroom : ssid.length + 35 ≤ (67 : UInt32).toNat := by
      show ssid.length + 35 ≤ 67
      omega
    calc fileRead.buff.slice 0 (ssid.length + 35)
      _ = (fileRead.buff.slice 0 (67 : UInt32).toNat).take (ssid.length + 35) :=
        (Mem.take_slice _ hroom).symm
      _ = (Files.read v.2 13 0 (67 : UInt32).toNat).take (ssid.length + 35) := congrArg _ hall
      _ = Files.read v.2 13 0 (ssid.length + 35) := (Files.read_take hroom).symm
      _ = profileFile ssid secType (written.block 0) p := hsame ▸ hfile
  obtain ⟨keyArgs, hkeyReads, hkeyBuff⟩ := hkeyRead.1.reads hread hkeyOk
  obtain ⟨profileArgs, hfileReads, hfileBuff⟩ := hfileRead.1.reads hprofile hfileOk
  rw [← hkeyBuff] at hkey
  rw [← hfileBuff] at hgot
  have hfields := holdsProfile hssid hgot
  have hheld := hfields.holdsKey expandedKey (Mem.block_eq hkey) hp
  obtain ⟨a, hadds, ha⟩ := hheld.addsProfile hp hprint htype
  rw [hheld.length, ← hfields.length] at hadds
  refine ⟨a, ?_, ha⟩
  rw [wlanSmartConfigProcess, aesReadKey, hkeyReads]
  dsimp only
  rw [if_neg (by decide), hfileReads]
  dsimp only
  rw [if_neg (by decide), hadds]

/-- A read of what is in a file is answered with it. -/
theorem read_answered {sl : SLInfo} (hidle : sl.Idle) (files : DeviceFiles)
    {ulFileId ulLength ulOffset : UInt32} (hshort : ulLength.toNat < 65536) (buff : Mem) :
    ∃ l sl', NvmemStep (sl, files) l (sl', files) ∧
      l.call = .read ulFileId ulLength ulOffset buff ∧ l.ret = 0 ∧ l.Fits ∧ sl'.Idle := by
  have hzero : streamToUint8 readConfirmed.reply hciEventStatusOffset = 0 := by decide
  apply read_served hidle (spiOpen_open (Mem.ofList [])) buff readConfirmed_for hzero
    (dataArrives_carries (Files.read files ulFileId ulOffset.toNat ulLength.toNat))
  exact dataBytes_carries (Files.read_length.trans_lt hshort)

/-- The profile of the network "net" with the passphrase "secret". -/
def netProfile (key : Mem) : List UInt8 :=
  profileFile [0x6e, 0x65, 0x74] wlanSecWpa (key.block 0) [0x73, 0x65, 0x63, 0x72, 0x65, 0x74]

/-- Its key is stored, with its profile in file 13. -/
theorem smartConfig_stored_net :
    ∃ x u v z stored keyRead fileRead a, Run NvmemStep x [stored] u ∧ NvmemStep u keyRead v ∧
      NvmemStep v fileRead z ∧ stored.call = aesWriteKey (Mem.ofList [1]) ∧
      wlanSmartConfigProcess u.1 (Mem.ofList []) (Mem.ofList []) (Mem.ofList [])
        keyRead.reply fileRead.reply = some (.adds a) ∧
      AddsProfile [0x6e, 0x65, 0x74] wlanSecWpa [0x73, 0x65, 0x63, 0x72, 0x65, 0x74] a := by
  have hidle : (SLInfo.start true).Idle := ⟨rfl, rfl⟩
  have hlen : (netProfile (Mem.ofList [1])).length = 38 := by
    simp only [netProfile, profileFile, List.cons_append, List.nil_append, List.length_cons,
      List.length_append, encrypted_length]
  have hroom : (16 : UInt32).toNat ≤ 184 := by decide
  have hwritten : streamToUint32 writeConfirmed.reply hciEventHeaderSize = 0 := by decide
  obtain ⟨stored, sl₁, hstored, hcall₁, hret₁, hfits₁, hidle₁⟩ :=
    @write_served _ hidle (Files.write noFiles 13 0 (netProfile (Mem.ofList [1]))) _
      (spiOpen_open (Mem.ofList [])) 12 16 0 hroom (Mem.ofList [1]) _ writeConfirmed_for hwritten
  obtain ⟨keyRead, sl₂, hkeyRead, hcall₂, hret₂, hfits₂, hidle₂⟩ :=
    @read_answered _ hidle₁ (Files.write (Files.write noFiles 13 0 (netProfile (Mem.ofList [1])))
      12 (0 : UInt32).toNat ((Mem.ofList [1]).slice 0 (16 : UInt32).toNat)) 12 16 0 (by decide)
      (Mem.ofList [])
  obtain ⟨fileRead, sl₃, hfileRead, hcall₃, hret₃, hfits₃, -⟩ :=
    @read_answered _ hidle₂ (Files.write (Files.write noFiles 13 0 (netProfile (Mem.ofList [1])))
      12 (0 : UInt32).toNat ((Mem.ofList [1]).slice 0 (16 : UInt32).toNat)) 13 67 0 (by decide)
      (Mem.ofList [])
  have hfile : Files.read (Files.write (Files.write noFiles 13 0 (netProfile (Mem.ofList [1])))
      12 (0 : UInt32).toNat ((Mem.ofList [1]).slice 0 (16 : UInt32).toNat)) 13 0 (3 + 35) =
      netProfile (Mem.ofList [1]) := by
    rw [Files.read_write_apart (.inl (by decide))]
    have hread := @Files.read_write _ _ _ noFiles 13 0 (netProfile (Mem.ofList [1]))
    rwa [hlen] at hread
  have hfits : ∀ l ∈ stored :: ([] ++ [keyRead, fileRead]), l.Fits := by
    intro l hl
    simp only [List.nil_append, List.mem_cons, List.not_mem_nil, or_false] at hl
    rcases hl with rfl | rfl | rfl
    · exact hfits₁
    · exact hfits₂
    · exact hfits₃
  have hprint : Printable [0x73, 0x65, 0x63, 0x72, 0x65, 0x74] := by decide +kernel
  have hssid : ([0x6e, 0x65, 0x74] : List UInt8).length ≤ 32 := by decide
  have hp : ([0x73, 0x65, 0x63, 0x72, 0x65, 0x74] : List UInt8).length ≤ 32 := by decide
  obtain ⟨a, hadds, ha⟩ := smartConfig_stored hidle hfits (.single hstored) hkeyRead hfileRead
    hcall₁ (fun l hl => absurd hl List.not_mem_nil) hcall₂ hcall₃ ⟨hret₁, hret₂, hret₃⟩ hssid hp
    hprint (.inr (.inl rfl)) hfile (Mem.ofList [])
  exact ⟨_, _, _, _, stored, keyRead, fileRead, a, .single hstored, hkeyRead, hfileRead, hcall₁,
    hadds, ha⟩

end SpiderL3S
