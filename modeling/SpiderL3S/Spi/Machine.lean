import SpiderL3S.Lib.Code
import SpiderL3S.Lib.Runs
import SpiderL3S.Evnt
import SpiderL3S.Tx.Frame

/- The SPI driver as a machine: `spider_spi.cpp`, with the waiting loop of
   `evnt_handler.c` above it. Main code is a stack of statements, each a read or a
   write of shared data, so that an interrupt can come between any two of them; a
   loop is a statement that puts itself back. A falling edge of the IRQ pin runs
   `WLAN_IRQ_Handler` to its end, for the hardware does not nest it. The packets
   the device will send are part of the state, and a statement about every state
   is one about every device. Left out: delays, the SPI mode settings, and
   `SpiOpen` and `SpiClose`, which no command calls. -/
namespace SpiderL3S

/-- `ulSpiState`. -/
inductive SpiState
  | powerup
  | initialized
  | idle
  | writeIrq
  | writeFirstPortion
  | writeEot
  | readIrq
  | readFirstPortion
  | readEot
  deriving DecidableEq, Repr

/-- What can be seen on the chip select line and on the bus: a byte of a frame
going out, a byte of a packet coming in. -/
inductive BusEvent
  | csEnable
  | csDisable
  | tx (b : UInt8)
  | rx (b : UInt8)
  deriving DecidableEq, Repr

/-- The shared data. `enable`, `process` and `missed` are the bits of
`WLAN_INT_STATUE_REG`, `tx` is what `pTxPacket` and `usTxPacketLength` name;
`packet` is what the device clocks out in this transfer and `coming` what it will
in the following ones. `args` and `usReceivedEventOpcode` belong to the waiting
loop. -/
structure Core where
  enable : Bool
  process : Bool
  missed : Bool
  ulSpiState : SpiState
  pinLow : Bool
  tx : SpiFrame
  rx : Mem
  packet : Mem
  coming : Nat → Mem
  bus : List BusEvent
  sl : SLInfo
  args : WaitArgs
  usReceivedEventOpcode : UInt16

inductive Stmt
  -- `WlanInterruptEnable`
  | wieSetEnable
  | wieTestMissed
  | wieTestPin
  | wieClearMissed
  -- `WlanInterruptDisable`
  | widClearEnable
  -- `WLAN_IRQ_Handler`
  | irqTestEnable
  | irqSetMissed
  | irqSetProcess
  | irqTestPowerup
  | irqTestIdle
  | irqTestWriteIrq
  | irqClearProcess
  -- what `SpiWrite` and the handler share
  | setState (s : SpiState)
  | csEnable
  | csDisable
  | writeSync (f : SpiFrame) (ptr left : Nat)
  -- the read of a packet
  | readHeader
  | readSync (ptr left : Nat)
  | readDataCont
  | testMagic
  | receiveHandler
  | hang
  -- `SpiWrite`
  | swTestMagic (f : SpiFrame)
  | swTestPowerup
  | swSpinInitialized
  | swTestInitialized (f : SpiFrame)
  | swSpinIdle
  | swSetTx (f : SpiFrame)
  | swTestPin
  | swSpinDone
  -- `SimpleLinkWaitEvent`, `SimpleLinkWaitData` and `hci_event_handler`
  | waitEvent (usOpcode : UInt16) (args : WaitArgs)
  | waitData (args : WaitArgs)
  | hehTest
  | hehTestType
  | hehUnsol
  | hehSwitch
  | hehClearOpcode
  | hehData
  | hehRelease
  | hehPatch
  | hehTestReturn

def wlanInterruptEnable : List Stmt := [.wieSetEnable, .wieTestMissed]
def wlanInterruptDisable : List Stmt := [.widClearEnable]
def spiResumeSpi : List Stmt := wlanInterruptEnable
def spiPauseSpi : List Stmt := wlanInterruptDisable
def wlanIrqHandler : List Stmt := [.irqTestEnable]

/-- Byte `i` of the frame. -/
def SpiFrame.byte (f : SpiFrame) (i : Nat) : UInt8 := f.stored.mem (f.pUserBuffer + i)

def spiWriteDataSynchronous (f : SpiFrame) : List Stmt := [.writeSync f 0 f.size.toNat]

def spiFirstWrite (f : SpiFrame) : List Stmt :=
  [.csEnable, .writeSync f 0 4, .writeSync f 4 (f.size - 4).toNat, .setState .idle, .csDisable]

def spiTriggerRxProcessing : List Stmt :=
  spiPauseSpi ++ [.csDisable, .testMagic, .setState .idle, .receiveHandler]

/-- The handler's branch for `eSPI_STATE_IDLE`. -/
def spiRead : List Stmt :=
  [.setState .readIrq, .csEnable, .readHeader, .setState .readEot, .readDataCont] ++
    spiTriggerRxProcessing

def spiWriteCode (f : SpiFrame) : List Stmt :=
  [.swTestMagic f, .swTestPowerup, .swTestInitialized f, .swSpinDone]

/-- The handler's branch for `eSPI_STATE_WRITE_IRQ`, and that of `SpiWrite` for a
low pin. -/
def spiWriteOut (f : SpiFrame) : List Stmt :=
  spiWriteDataSynchronous f ++ [.setState .idle, .csDisable]

/-- The packet in `wlan_rx_buffer`, from its HCI type byte on. -/
def Core.data (c : Core) : Mem := c.rx.drop spiHeaderSize

/-- `SpiReceiveHandler` calls through a null pointer for that packet. -/
def Core.CallsNull (c : Core) : Prop :=
  c.data hciPacketTypeOffset = hciTypeEvnt ∧ SpiderL3S.CallsNull c.sl c.data

instance (c : Core) : Decidable c.CallsNull := by
  unfold Core.CallsNull
  infer_instance

/-- `SpiReceiveHandler` on that packet. -/
def Core.receive (c : Core) : SLInfo × Bool := spiReceiveHandler c.sl c.data

/-- `switch(usReceivedEventOpcode)`: the opcode is the loop's local one, the fields
are those of the packet in the buffer. -/
def Core.decode (c : Core) : SLInfo × Stream :=
  hciEventSwitch c.sl c.args.ret
    (c.data.store hciEventOpcodeOffset (uint16Bytes c.usReceivedEventOpcode))

section
-- the frames `hci_unsol_handle_patch_request` sends for an event
variable (patches : Mem → List SpiFrame)

/-- One statement: the data behind it, and the statements it puts in front of what
is left to do. -/
def exec : Stmt → Core → Core × List Stmt
  | .wieSetEnable, c => ({ c with enable := true }, [])
  | .wieTestMissed, c => (c, if c.missed then [.wieTestPin, .wieClearMissed] else [])
  | .wieTestPin, c => (c, if c.pinLow && !c.process then wlanIrqHandler else [])
  | .wieClearMissed, c => ({ c with missed := false }, [])
  | .widClearEnable, c => ({ c with enable := false }, [])
  | .irqTestEnable, c =>
    (c, if c.enable then [.irqSetProcess, .irqTestPowerup, .irqClearProcess] else [.irqSetMissed])
  | .irqSetMissed, c => ({ c with missed := true }, [])
  | .irqSetProcess, c => ({ c with process := true }, [])
  | .irqTestPowerup, c =>
    (c, if c.ulSpiState = .powerup then [.setState .initialized] else [.irqTestIdle])
  | .irqTestIdle, c => (c, if c.ulSpiState = .idle then spiRead else [.irqTestWriteIrq])
  | .irqTestWriteIrq, c => (c, if c.ulSpiState = .writeIrq then spiWriteOut c.tx else [])
  | .irqClearProcess, c => ({ c with process := false }, [])
  | .setState s, c => ({ c with ulSpiState := s }, [])
  | .csEnable, c => ({ c with bus := c.bus ++ [.csEnable] }, [])
  | .csDisable, c => ({ c with bus := c.bus ++ [.csDisable] }, [])
  | .writeSync _ _ 0, c => (c, [])
  | .writeSync f ptr (left + 1), c =>
    ({ c with bus := c.bus ++ [.tx (f.byte ptr)] }, [.writeSync f (ptr + 1) left])
  | .readHeader, c =>
    ({ c with packet := c.coming 0, coming := fun n => c.coming (n + 1) },
      [.readSync 0 headersSizeEvnt])
  | .readSync _ 0, c => (c, [])
  | .readSync ptr (left + 1), c =>
    ({ c with rx := c.rx.store ptr [c.packet ptr], bus := c.bus ++ [.rx (c.packet ptr)] },
      [.readSync (ptr + 1) left])
  | .readDataCont, c =>
    (c, .readSync headersSizeEvnt (dataToRecv c.rx) ::
      if packetType c.rx = hciTypeEvnt then [.setState .readEot] else [])
  | .testMagic, c =>
    (c, if c.rx (cc3000RxBufferSize - 1) ≠ cc3000BufferMagicNumber then [.hang] else [])
  | .receiveHandler, c =>
    ({ c with sl := c.receive.1 },
      -- what comes behind a call of address 0 is not the driver's
      if c.CallsNull then [.hang] else if c.receive.2 then spiResumeSpi else [])
  | .hang, c => (c, [.hang])
  | .swTestMagic f, c => (c, if f.Overrun then [.hang] else [])
  | .swTestPowerup, c => (c, if c.ulSpiState = .powerup then [.swSpinInitialized] else [])
  | .swSpinInitialized, c => (c, if c.ulSpiState = .initialized then [] else [.swSpinInitialized])
  | .swTestInitialized f, c =>
    (c, if c.ulSpiState = .initialized then spiFirstWrite f
      else wlanInterruptDisable ++ [.swSpinIdle, .setState .writeIrq, .swSetTx f, .csEnable] ++
        wlanInterruptEnable ++ [.swTestPin])
  | .swSpinIdle, c => (c, if c.ulSpiState = .idle then [] else [.swSpinIdle])
  | .swSetTx f, c => ({ c with tx := f }, [])
  | .swTestPin, c => (c, if c.pinLow then spiWriteOut c.tx else [])
  | .swSpinDone, c => (c, if c.ulSpiState = .idle then [] else [.swSpinDone])
  | .waitEvent op args, c =>
    ({ c with sl := { c.sl with usRxEventOpcode := op }, args, usReceivedEventOpcode := 0 },
      [.hehTest])
  | .waitData args, c =>
    ({ c with sl := { c.sl with usRxDataPending := 1 }, args, usReceivedEventOpcode := 0 },
      [.hehTest])
  | .hehTest, c =>
    (c, if c.sl.usEventOrDataReceived ≠ 0 then
        [.hehTestType, .hehRelease] ++ spiResumeSpi ++ [.hehPatch, .hehTestReturn]
      else [.hehTest])
  | .hehTestType, c =>
    ({ c with
       usReceivedEventOpcode :=
         if c.data hciPacketTypeOffset = hciTypeEvnt then eventCode c.data
         else c.usReceivedEventOpcode },
      if c.data hciPacketTypeOffset = hciTypeEvnt then [.hehUnsol, .hehClearOpcode] else [.hehData])
  | .hehUnsol, c =>
    ({ c with sl := (hciUnsolEventHandler c.sl c.data).1 },
      if CallsNull c.sl c.data then [.hang]
      else if (hciUnsolEventHandler c.sl c.data).2 then [] else [.hehSwitch])
  | .hehSwitch, c => ({ c with sl := c.decode.1, args := { c.args with ret := c.decode.2 } }, [])
  | .hehClearOpcode, c =>
    ({ c with
       sl := if c.usReceivedEventOpcode = c.sl.usRxEventOpcode then
         { c.sl with usRxEventOpcode := 0 } else c.sl }, [])
  | .hehData, c =>
    ({ c with
       sl := (hciDataReceived c.sl c.args c.data).1
       args := (hciDataReceived c.sl c.args c.data).2 }, [])
  | .hehRelease, c => ({ c with sl := { c.sl with usEventOrDataReceived := 0 } }, [])
  | .hehPatch, c =>
    (c, if c.data hciPacketTypeOffset = hciTypeEvnt ∧ c.usReceivedEventOpcode = hciEvntPatchesReq
      then (patches c.data).flatMap spiWriteCode else [])
  | .hehTestReturn, c => (c, if waitOver c.sl then [] else [.hehTest])

/-- What the callback puts in front: nothing, `SpiResumeSpi`, or no return. -/
theorem only_receiveHandler {kind : Stmt → Bool} (c : Core)
    (h : Code.Only kind (.hang :: spiResumeSpi)) :
    Code.Only kind (exec patches .receiveHandler c).2 := by
  obtain ⟨hhang, hresume⟩ := Code.Only.cons_iff.mp h
  simp only [exec]
  split
  · exact Code.Only.cons_iff.mpr ⟨hhang, Code.Only.nil⟩
  · split
    · exact hresume
    · exact Code.Only.nil

/-- What `hci_unsol_event_handler` puts in front, where the loop calls it: the switch for an
event it refuses, or no return. -/
theorem only_hehUnsol {kind : Stmt → Bool} (c : Core) (h : Code.Only kind [.hang, .hehSwitch]) :
    Code.Only kind (exec patches .hehUnsol c).2 := by
  obtain ⟨hhang, hswitch⟩ := Code.Only.cons_iff.mp h
  simp only [exec]
  split
  · exact Code.Only.cons_iff.mpr ⟨hhang, Code.Only.nil⟩
  · split
    · exact Code.Only.nil
    · exact hswitch

/-- What main code may call: the four functions of the driver, a command with the wait for
its event, and the wait for data. A command that brings data, such as `recv`, is one and
then the other, with nothing of the driver between them. -/
inductive Call
  | wlanInterruptEnable
  | wlanInterruptDisable
  | spiResumeSpi
  | spiWrite (f : SpiFrame)
  | command (f : SpiFrame) (usOpcode : UInt16) (args : WaitArgs)
  | simpleLinkWaitData (args : WaitArgs)

def Call.code : Call → List Stmt
  | wlanInterruptEnable => SpiderL3S.wlanInterruptEnable
  | wlanInterruptDisable => SpiderL3S.wlanInterruptDisable
  | spiResumeSpi => SpiderL3S.spiResumeSpi
  | spiWrite f => spiWriteCode f
  | command f usOpcode args => spiWriteCode f ++ [.waitEvent usOpcode args]
  | simpleLinkWaitData args => [.waitData args]

/-- The data and what main code has left to do. -/
structure Config where
  core : Core
  todo : List Stmt

inductive Label
  | stmt
  | call (k : Call)
  | edge
  | rise

/-- A run of the handler that nothing interrupts. -/
def Isr (c c' : Core) : Prop := Code.Finishes (exec patches) c wlanIrqHandler c'

/-- One step: a statement of main code, a call where nothing is left to do, a
falling edge with the interrupt it raises, or the pin going up. -/
inductive SpiStep : Config → Label → Config → Prop
  | stmt (c : Core) (s : Stmt) (rest : List Stmt) :
      SpiStep ⟨c, s :: rest⟩ .stmt ⟨(exec patches s c).1, (exec patches s c).2 ++ rest⟩
  | call (c : Core) (k : Call) : SpiStep ⟨c, []⟩ (.call k) ⟨c, k.code⟩
  | edge {c c' : Core} (todo : List Stmt) (hpin : c.pinLow = false)
      (hisr : Isr patches { c with pinLow := true } c') : SpiStep ⟨c, todo⟩ .edge ⟨c', todo⟩
  | rise (c : Core) (todo : List Stmt) :
      SpiStep ⟨c, todo⟩ .rise ⟨{ c with pinLow := false }, todo⟩

end

/-- The driver as `SpiOpen` leaves it in `wlan_start`, the IRQ pin up. -/
def Core.start (coming : Nat → Mem) (sWlanCB : Bool) (rx : Mem) (tx : SpiFrame)
    (args : WaitArgs) : Core :=
  { enable := true
    process := false
    missed := false
    ulSpiState := .powerup
    pinLow := false
    tx
    rx
    packet := coming 0
    coming
    bus := []
    sl := SLInfo.start sWlanCB
    args
    usReceivedEventOpcode := 0 }

end SpiderL3S
