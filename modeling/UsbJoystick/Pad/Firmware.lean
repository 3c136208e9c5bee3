import UsbJoystick.Lib.Outline
import UsbJoystick.Pad.Relay
import UsbJoystick.Usb.Descriptors

/-!
The whole program of the ATmega16u2: the main loop of `pad.c` with the device side of LUFA, as it is
compiled for the joystick (`LUFAConfig.h`).

The main loop answers the requests of the host in `USB_USBTask` and moves reports in `PAD_Task`. The
interrupt `USB_GEN_vect` may come between any two statements; it changes `USB_DeviceState`, and on a
reset of the bus it configures the control endpoint again, for which it selects it. Both the main
loop and the interrupt work on the registers of the endpoint that is selected (`UENUM`), and the
interrupt does not put back the selection that it found.

Every statement of the source that reads or writes something that an interrupt or the hardware may
change is a statement of its own here.
-/

namespace UsbJoystick.Pad.Firmware

open Lib Usb

/-! ### The state -/

/-- `USB_Request_Header_t`. -/
structure RequestHeader where
  bmRequestType : UInt8
  bRequest : UInt8
  wValue : UInt16
  wIndex : UInt16
  wLength : UInt16
  deriving DecidableEq, Repr

def RequestHeader.zero : RequestHeader := ⟨0, 0, 0, 0, 0⟩

/-- How an endpoint is configured: `UECFG0X`, `UECFG1X` and the bit `EPEN` of `UECONX`. -/
@[ext]
structure EndpointConfig where
  uecfg0x : UInt8
  uecfg1x : UInt8
  epen : Bool
  deriving DecidableEq, Repr

structure Endpoint where
  config : EndpointConfig
  stallrq : Bool -- the bit `STALLRQ` of `UECONX`
  /-- What has been written to the endpoint since its bank was released. -/
  bank : List UInt8
  deriving DecidableEq, Repr

/-- The variables of the program, and the part of the controller that it works with. -/
structure Device where
  deviceState : DeviceState
  configurationNumber : UInt8
  remoteWakeupEnabled : Bool
  controlRequest : RequestHeader
  prevEndpoint : ℕ -- a local of `USB_DeviceTask`
  currentStatus : UInt8 -- a local of `USB_Device_GetStatus`
  dataSend : UInt8
  stateSend : Bool
  ledReport : UInt8
  /-- The bits of `UDADDR`. -/
  uadd : UInt8
  adden : Bool
  /-- The interrupts on suspend and on wake-up are enabled. -/
  suspe : Bool
  wakeupe : Bool
  uenum : ℕ
  endpoints : ℕ → Endpoint
  /-- The flag `RXSTPI` of the control endpoint, with the request in its bank. -/
  setup : Option RequestHeader
  eorsti : Bool -- the flag of a reset that the interrupt has not seen yet

namespace Device

def endpoint (d : Device) : Endpoint := d.endpoints d.uenum

/-- The registers of the selected endpoint are written. -/
def update (d : Device) (f : Endpoint → Endpoint) : Device :=
  { d with endpoints := Function.update d.endpoints d.uenum (f d.endpoint) }

def configure (d : Device) (f : EndpointConfig → EndpointConfig) : Device :=
  d.update fun e => { e with config := f e.config }

/-- `Endpoint_IsSETUPReceived`. The flag is never set for an endpoint of another type. -/
def isSETUPReceived (d : Device) : Bool := d.uenum == 0 && d.setup.isSome

end Device

/-! ### Endpoints -/

def ENDPOINT_TOTAL_ENDPOINTS : ℕ := 5

/-- `ENDPOINT_EPNUM_MASK`. -/
def epnum (address : UInt8) : ℕ := (address &&& 0x0F).toNat

def PAD_IN : ℕ := epnum PAD_IN_EPADDR
def PAD_OUT : ℕ := epnum PAD_OUT_EPADDR

def EP_TYPE_CONTROL : UInt8 := 0x00
def EP_TYPE_INTERRUPT : UInt8 := 0x03
def ALLOC : UInt8 := 0x02

/-- The loop of `Endpoint_BytesToEPSizeMask`, in which `CheckBytes` is doubled at most 12 times
before it overflows. -/
def epSizeMaskLoop (bytes : UInt16) : ℕ → UInt16 → UInt8 → UInt8
  | 0, _, maskVal => maskVal
  | n + 1, checkBytes, maskVal =>
    if checkBytes < bytes then epSizeMaskLoop bytes n (checkBytes <<< 1) (maskVal + 1) else maskVal

def bytesToEPSizeMask (bytes : UInt16) : UInt8 := epSizeMaskLoop bytes 12 8 0 <<< 4

/-- The configuration that `Endpoint_ConfigureEndpoint` asks for, with the endpoint enabled. -/
def endpointConfig (address type : UInt8) (size : UInt16) (banks : ℕ) : EndpointConfig where
  uecfg0x := (type <<< 6) ||| (if address &&& 0x80 = 0 then 0 else 1)
  uecfg1x := ALLOC ||| (if 1 < banks then 0x04 else 0) ||| bytesToEPSizeMask size
  epen := true

def PAD_IN_CONFIG : EndpointConfig :=
  endpointConfig PAD_IN_EPADDR EP_TYPE_INTERRUPT INTERRUPT_EPSIZE 1

def PAD_OUT_CONFIG : EndpointConfig :=
  endpointConfig PAD_OUT_EPADDR EP_TYPE_INTERRUPT INTERRUPT_EPSIZE 1

/-! ### The statements -/

inductive Stmt where
  | usbTask -- `USB_USBTask()`, and the test of `USB_DeviceState` in `USB_DeviceTask`
  | getCurrentEndpoint -- `PrevEndpoint = Endpoint_GetCurrentEndpoint()`
  | selectEndpoint (n : ℕ)
  | selectPrevEndpoint -- `Endpoint_SelectEndpoint(PrevEndpoint)`
  | ifSETUPReceived -- the test before `USB_Device_ProcessControlRequest()`
  | readHeader -- `USB_ControlRequest` is read from the bank
  | switchRequest -- the first test in `USB_Device_ProcessControlRequest` with its `switch`
  | ifUnhandled -- the second test
  | clearSETUP
  | clearIN
  | clearOUT
  | stallTransaction
  | clearStall
  | resetEndpoint (n : ℕ)
  | clearStatusStage -- a turn of one of its loops
  | waitINReady -- a turn of `while (!(Endpoint_IsINReady()))`
  | setDeviceAddress (address : UInt8)
  | enableDeviceAddress
  | setDeviceState (state : DeviceState)
  | setConfigurationNumber (number : UInt8)
  | ifConfigurationNumber -- `if (USB_Device_ConfigurationNumber)` in `USB_Device_SetConfiguration`
  | ifAddressSet -- and its `else`
  | writeConfigurationNumber
  | statusOfDevice
  | statusOfEndpoint
  | writeStatus
  | setRemoteWakeup (enabled : Bool)
  | ifEnabled (set : Bool) -- `if (Endpoint_IsEnabled())` in `USB_Device_ClearSetFeature`
  | writeControlStream (buffer : List UInt8) -- `Endpoint_Write_Control_PStream_LE`
  /-- A turn of the loop of `Endpoint_ConfigureEndpoint_Prv`, for the endpoint `epNum`. -/
  | configureFrom (number : ℕ) (config : EndpointConfig) (epNum : ℕ)
  | readConfig (number : ℕ) (config : EndpointConfig) (epNum : ℕ)
  | disableEndpoint
  | clearAlloc
  | enableEndpoint
  | writeUECFG0X (value : UInt8)
  | writeUECFG1X (value : UInt8)
  | ifConfigured (number : ℕ) (config : EndpointConfig) (epNum : ℕ)
  | padTask -- the test of `USB_DeviceState` in `PAD_Task`
  | ifStateSend -- `if(state_send)` in `SendNextReport`
  | ifReadWriteAllowedIN
  | waitUntilReady -- a turn of `Endpoint_WaitUntilReady`, called by `Endpoint_Write_Stream_LE`
  | writeLoop -- a turn of the loop of `Endpoint_Write_Stream_LE`
  | writeByte
  | sendReport -- `Endpoint_ClearIN()` in `SendNextReport` or in `Endpoint_Write_Stream_LE`
  | clearStateSend -- `state_send = 0`
  | ifOUTReceived -- in `ReceiveNextReport`
  | ifReadWriteAllowedOUT
  | readReport -- `LEDReport = Endpoint_Read_8()`
  | releaseReport -- `Endpoint_ClearOUT()` in `ReceiveNextReport`
  | serialSendByte -- a turn of the loop of `Serial_SendByte`, and the write to `UDR1`
  deriving DecidableEq, Repr

/-- What a statement is told by the hardware. -/
structure Answer where
  yes : Bool := true
  timeout : Bool := false
  byte : UInt8 := 0
  header : RequestHeader := .zero -- what is read from the bank if there is no request in it

/-! ### `USB_Device_ProcessControlRequest` -/

def REQ_GetStatus : UInt8 := 0
def REQ_ClearFeature : UInt8 := 1
def REQ_SetFeature : UInt8 := 3
def REQ_SetAddress : UInt8 := 5
def REQ_GetDescriptor : UInt8 := 6
def REQ_GetConfiguration : UInt8 := 8
def REQ_SetConfiguration : UInt8 := 9

/-- `REQDIR_DEVICETOHOST`; the type `REQTYPE_STANDARD` and the direction to the device are 0. -/
def REQDIR_DEVICETOHOST : UInt8 := 0x80
def REQREC_DEVICE : UInt8 := 0
def REQREC_INTERFACE : UInt8 := 1
def REQREC_ENDPOINT : UInt8 := 2

def FEATURE_SEL_EndpointHalt : UInt8 := 0x00
def FEATURE_SEL_DeviceRemoteWakeup : UInt8 := 0x01
def FEATURE_REMOTE_WAKEUP_ENABLED : UInt8 := 0x02

/-- `Endpoint_ConfigureEndpoint`. -/
def configureEndpoint (address type : UInt8) (size : UInt16) (banks : ℕ) : List Stmt :=
  if epnum address < ENDPOINT_TOTAL_ENDPOINTS then
    [.configureFrom (epnum address) (endpointConfig address type size banks) (epnum address)]
  else []

/-- `EVENT_USB_Device_ConfigurationChanged`. The events of a start of frame do nothing. -/
def eventConfigurationChanged : List Stmt :=
  configureEndpoint PAD_IN_EPADDR EP_TYPE_INTERRUPT INTERRUPT_EPSIZE 1 ++
    configureEndpoint PAD_OUT_EPADDR EP_TYPE_INTERRUPT INTERRUPT_EPSIZE 1

def setAddress (r : RequestHeader) : List Stmt :=
  let deviceAddress := (r.wValue &&& 0x7F).toUInt8
  [.setDeviceAddress deviceAddress, .clearSETUP, .clearStatusStage, .waitINReady,
    .enableDeviceAddress, .setDeviceState (if deviceAddress = 0 then .default else .addressed)]

def setConfiguration (r : RequestHeader) : List Stmt :=
  if FIXED_NUM_CONFIGURATIONS < r.wValue.toUInt8 then []
  else [.clearSETUP, .setConfigurationNumber r.wValue.toUInt8, .clearStatusStage,
    .ifConfigurationNumber] ++ eventConfigurationChanged

def getConfiguration : List Stmt :=
  [.clearSETUP, .writeConfigurationNumber, .clearIN, .clearStatusStage]

/-- `USB_Device_GetDescriptor`, with `USB_Device_GetInternalSerialDescriptor`. -/
def getDescriptorStmts (signature : ℕ → UInt8) (r : RequestHeader) : List Stmt :=
  match getDescriptor signature r.wValue with
  | none => []
  | some buffer => [.clearSETUP, .writeControlStream buffer, .clearOUT]

def getStatus (r : RequestHeader) : List Stmt :=
  let answer := [.clearSETUP, .writeStatus, .clearIN, .clearStatusStage]
  if r.bmRequestType = REQDIR_DEVICETOHOST ||| REQREC_DEVICE then .statusOfDevice :: answer
  else
    let endpointIndex := epnum r.wIndex.toUInt8
    if ENDPOINT_TOTAL_ENDPOINTS ≤ endpointIndex then []
    else [.selectEndpoint endpointIndex, .statusOfEndpoint, .selectEndpoint 0] ++ answer

/-- `USB_Device_ClearSetFeature`. Another feature of an endpoint than its halt is accepted, and
nothing is done. -/
def clearSetFeature (r : RequestHeader) : List Stmt :=
  let done := [.selectEndpoint 0, .clearSETUP, .clearStatusStage]
  let set := r.bRequest == REQ_SetFeature
  if r.bmRequestType &&& 0x1F = REQREC_DEVICE then
    if r.wValue.toUInt8 = FEATURE_SEL_DeviceRemoteWakeup then .setRemoteWakeup set :: done
    else []
  else if r.bmRequestType &&& 0x1F = REQREC_ENDPOINT then
    if r.wValue.toUInt8 = FEATURE_SEL_EndpointHalt then
      let endpointIndex := epnum r.wIndex.toUInt8
      if endpointIndex = 0 ∨ ENDPOINT_TOTAL_ENDPOINTS ≤ endpointIndex then []
      else [.selectEndpoint endpointIndex, .ifEnabled set] ++ done
    else done
  else []

/-- The `switch` of `USB_Device_ProcessControlRequest`. -/
def handler (signature : ℕ → UInt8) (r : RequestHeader) : List Stmt :=
  let is (code direction : UInt8) (recipients : List UInt8) :=
    r.bRequest = code ∧ r.bmRequestType ∈ recipients.map (direction ||| ·)
  if is REQ_GetStatus REQDIR_DEVICETOHOST [REQREC_DEVICE, REQREC_ENDPOINT] then getStatus r
  else if is REQ_ClearFeature 0 [REQREC_DEVICE, REQREC_ENDPOINT] ∨
    is REQ_SetFeature 0 [REQREC_DEVICE, REQREC_ENDPOINT] then clearSetFeature r
  else if is REQ_SetAddress 0 [REQREC_DEVICE] then setAddress r
  else if is REQ_GetDescriptor REQDIR_DEVICETOHOST [REQREC_DEVICE, REQREC_INTERFACE] then
    getDescriptorStmts signature r
  else if is REQ_GetConfiguration REQDIR_DEVICETOHOST [REQREC_DEVICE] then getConfiguration
  else if is REQ_SetConfiguration 0 [REQREC_DEVICE] then setConfiguration r
  else []

/-! ### What a statement does -/

/-- The body of a test, if it succeeds. -/
def orNothing (yes : Bool) (body : List Stmt) : List Stmt := if yes then body else []

/-- `a` waits until the hardware says yes. -/
def await (a : Stmt) (yes : Bool) (next : List Stmt) : List Stmt := if yes then next else [a]

def exec (signature : ℕ → UInt8) (a : Stmt) (i : Answer) (d : Device) : List Stmt × Device :=
  match a with
  | .usbTask => (orNothing (d.deviceState ≠ .unattached)
      [.getCurrentEndpoint, .selectEndpoint 0, .ifSETUPReceived, .selectPrevEndpoint], d)
  | .getCurrentEndpoint => ([], { d with prevEndpoint := d.uenum })
  | .selectEndpoint n => ([], { d with uenum := n })
  | .selectPrevEndpoint => ([], { d with uenum := d.prevEndpoint })
  | .ifSETUPReceived => (orNothing d.isSETUPReceived [.readHeader], d)
  | .readHeader =>
    ([.switchRequest, .ifUnhandled], { d with controlRequest := d.setup.getD i.header })
  | .switchRequest => (orNothing d.isSETUPReceived (handler signature d.controlRequest), d)
  | .ifUnhandled => (orNothing d.isSETUPReceived [.clearSETUP, .stallTransaction], d)
  | .clearSETUP => ([], if d.uenum = 0 then { d with setup := none } else d)
  | .clearIN => ([], d.update fun e => { e with bank := [] })
  | .clearOUT => ([], d)
  | .stallTransaction => ([], d.update fun e => { e with stallrq := true })
  | .clearStall => ([], d.update fun e => { e with stallrq := false })
  | .resetEndpoint n => ([], { d with
      endpoints := Function.update d.endpoints n { d.endpoints n with bank := [] } })
  | .clearStatusStage =>
    let release := if d.controlRequest.bmRequestType &&& REQDIR_DEVICETOHOST = 0 then .clearIN
      else .clearOUT
    (if i.yes then [release] else orNothing (d.deviceState ≠ .unattached) [.clearStatusStage], d)
  | .waitINReady => (await .waitINReady i.yes [], d)
  | .setDeviceAddress address => ([], { d with uadd := address &&& 0x7F })
  | .enableDeviceAddress => ([], { d with adden := true })
  | .setDeviceState state => ([], { d with deviceState := state })
  | .setConfigurationNumber number => ([], { d with configurationNumber := number })
  | .ifConfigurationNumber =>
    (if d.configurationNumber ≠ 0 then [.setDeviceState .configured] else [.ifAddressSet], d)
  | .ifAddressSet => ([.setDeviceState (if d.adden then .configured else .powered)], d)
  | .writeConfigurationNumber =>
    ([], d.update fun e => { e with bank := e.bank ++ [d.configurationNumber] })
  | .statusOfDevice => ([], { d with
      currentStatus := if d.remoteWakeupEnabled then FEATURE_REMOTE_WAKEUP_ENABLED else 0 })
  | .statusOfEndpoint => ([], { d with currentStatus := if d.endpoint.stallrq then 1 else 0 })
  | .writeStatus => ([], d.update fun e => { e with bank := e.bank ++ [d.currentStatus, 0] })
  | .setRemoteWakeup enabled => ([], { d with remoteWakeupEnabled := enabled })
  | .ifEnabled set => (orNothing d.endpoint.config.epen
      (if set then [.stallTransaction] else [.clearStall, .resetEndpoint d.uenum]), d)
  | .writeControlStream buffer => (await (.writeControlStream buffer) i.yes [], d)
  | .configureFrom number config epNum => (if epNum < ENDPOINT_TOTAL_ENDPOINTS
      then [.selectEndpoint epNum, .readConfig number config epNum]
      else [.selectEndpoint number], d)
  | .readConfig number config epNum =>
    -- the other endpoints get back the configuration they have
    let temp := if epNum = number then config else d.endpoint.config
    (if temp.uecfg1x &&& ALLOC = 0 then [.configureFrom number config (epNum + 1)]
      else [.disableEndpoint, .clearAlloc, .enableEndpoint, .writeUECFG0X temp.uecfg0x,
        .writeUECFG1X temp.uecfg1x, .ifConfigured number config epNum], d)
  | .disableEndpoint => ([], d.configure fun c => { c with epen := false })
  | .clearAlloc => ([], d.configure fun c => { c with uecfg1x := c.uecfg1x &&& ~~~ALLOC })
  | .enableEndpoint => ([], d.configure fun c => { c with epen := true })
  | .writeUECFG0X value => ([], d.configure fun c => { c with uecfg0x := value })
  | .writeUECFG1X value => ([], d.configure fun c => { c with uecfg1x := value })
  | .ifConfigured number config epNum =>
    (orNothing i.yes [.configureFrom number config (epNum + 1)], d)
  | .padTask => (orNothing (d.deviceState = .configured)
      [.ifStateSend, .selectEndpoint PAD_OUT, .ifOUTReceived], d)
  | .ifStateSend => (orNothing d.stateSend
      [.selectEndpoint PAD_IN, .ifReadWriteAllowedIN, .clearStateSend], d)
  | .ifReadWriteAllowedIN => (orNothing i.yes [.waitUntilReady, .sendReport], d)
  | .waitUntilReady =>
    (if i.yes then [.writeLoop]
      else orNothing (d.deviceState ≠ .unattached ∧ d.deviceState ≠ .suspended ∧
        d.endpoint.stallrq = false ∧ i.timeout = false) [.waitUntilReady], d)
  | .writeLoop => (if i.yes then [.writeByte] else [.sendReport, .usbTask, .waitUntilReady], d)
  | .writeByte => ([], d.update fun e => { e with bank := e.bank ++ [d.dataSend] })
  | .sendReport => ([], d.update fun e => { e with bank := [] })
  | .clearStateSend => ([], { d with stateSend := false })
  | .ifOUTReceived => (orNothing i.yes [.ifReadWriteAllowedOUT, .releaseReport], d)
  | .ifReadWriteAllowedOUT => (orNothing i.yes [.readReport, .serialSendByte], d)
  | .readReport => ([], { d with ledReport := i.byte })
  | .releaseReport => ([], d)
  | .serialSendByte => (await .serialSendByte i.yes [], d)

/-! ### Interrupts -/

/-- What happens between two statements. -/
inductive Interrupt where
  | usart1Rx (udr1 : UInt8) -- the receive interrupt
  /-- `USB_GEN_vect`, with the flags it finds, and the answers of `Endpoint_IsConfigured`. -/
  | usbGen (suspi wakeupi : Bool) (cfgok : ℕ → Bool)
  | setup (r : RequestHeader) -- the controller receives a request
  /-- The controller sees a reset of the bus. It goes back to the address 0, drops a request and
  empties the banks; how it leaves the endpoints configured is left open. -/
  | reset (config : ℕ → EndpointConfig)

/-- `Endpoint_ConfigureEndpoint_Prv` without interruption, with `n` endpoints left. -/
def configureEndpointPrv (cfgok : ℕ → Bool) (number : ℕ) (config : EndpointConfig) :
    ℕ → ℕ → Device → Device
  | 0, _, d => { d with uenum := number }
  | n + 1, epNum, d =>
    let d := { d with uenum := epNum }
    let temp := if epNum = number then config else d.endpoint.config
    if temp.uecfg1x &&& ALLOC = 0 then configureEndpointPrv cfgok number config n (epNum + 1) d
    else
      let d := d.configure fun _ => { temp with epen := true }
      if cfgok epNum then configureEndpointPrv cfgok number config n (epNum + 1) d else d

/-- On this controller a suspend counts as a disconnection. -/
def onSuspend (suspi : Bool) (d : Device) : Device :=
  if suspi && d.suspe then { d with suspe := false, wakeupe := true, deviceState := .unattached }
  else d

def onWakeUp (wakeupi : Bool) (d : Device) : Device :=
  if wakeupi && d.wakeupe then
    { d with
      wakeupe := false
      suspe := true
      deviceState := if d.configurationNumber ≠ 0 then .configured
        else if d.adden then .addressed else .powered }
  else d

def onReset (cfgok : ℕ → Bool) (d : Device) : Device :=
  if d.eorsti then
    configureEndpointPrv cfgok 0
      (endpointConfig 0 EP_TYPE_CONTROL (.ofNat FIXED_CONTROL_ENDPOINT_SIZE) 1)
      ENDPOINT_TOTAL_ENDPOINTS 0
      { d with
        eorsti := false
        deviceState := .default
        configurationNumber := 0
        suspe := false
        wakeupe := true }
  else d

/-- `ISR(USB_GEN_vect)`. -/
def usbGen (suspi wakeupi : Bool) (cfgok : ℕ → Bool) (d : Device) : Device :=
  onReset cfgok (onWakeUp wakeupi (onSuspend suspi d))

def interrupt : Interrupt → Device → Device
  | .usart1Rx udr1, d => { d with dataSend := udr1, stateSend := true }
  | .usbGen suspi wakeupi cfgok, d => usbGen suspi wakeupi cfgok d
  | .setup r, d => { d with setup := some r }
  | .reset config, d =>
    { d with
      uadd := 0
      adden := false
      endpoints := fun n => ⟨config n, false, []⟩
      setup := none
      eorsti := true }

/-- `main`, after `SetupHardware`. -/
def program (signature : ℕ → UInt8) : Program Device Stmt Answer Interrupt where
  exec := exec signature
  interrupt := interrupt
  body := [.usbTask, .padTask]

/-- What `SetupHardware` leaves. -/
structure Booted (d : Device) : Prop where
  deviceState : d.deviceState = .unattached
  configurationNumber : d.configurationNumber = 0
  stateSend : d.stateSend = false
  bank : ∀ n, (d.endpoints n).bank = []

end UsbJoystick.Pad.Firmware
