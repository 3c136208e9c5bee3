import UsbJoystick.Lib.Records
import UsbJoystick.Usb.Stream
import UsbJoystick.Host.Endpoints

/-!
The descriptors of the joystick, `Descriptors.c`, and what a host gets when it asks for them.

A descriptor is a record that begins with its size and its type; a configuration is the
concatenation of a header, of the interfaces and of their endpoints, and the header and the
interfaces say how many of these follow. A `Configuration` carries the proofs that the numbers are
right, so that those of `PAD_ConfigurationDescriptor` are checked where it is defined.
`Configuration.read` is the inverse of the layout: it accepts exactly the layouts of configurations
and gives these back (`Configuration.read_eq_some_iff`). It stands for any reader of the bytes that
goes by the layout; the reader that the host side of the program calls is in libusb, and is not
modelled.

`getDescriptor` is `USB_Device_GetDescriptor` up to the transfer, which is that of the data stage.
Both together say what the host side of the program builds on: however the transfer goes, the bytes
that have been transferred are a layout of `padConfig` (`configuration_read`).
-/

namespace UsbJoystick.Usb

open Lib

/-! ### Layout -/

def DTYPE_Device : UInt8 := 0x01
def DTYPE_Configuration : UInt8 := 0x02
def DTYPE_String : UInt8 := 0x03
def DTYPE_Interface : UInt8 := 0x04
def DTYPE_Endpoint : UInt8 := 0x05

/-- The bytes of a word in memory, low byte first. -/
def le16 (x : UInt16) : List UInt8 := [x.toUInt8, (x >>> 8).toUInt8]

def ofLe16 (a b : UInt8) : UInt16 := .ofNat (a.toNat + 256 * b.toNat)

/-- `USB_Descriptor_Device_t`, without the header. -/
structure DeviceDescriptor where
  usbSpecification : UInt16
  deviceClass : UInt8
  subClass : UInt8
  protocol : UInt8
  endpoint0Size : UInt8
  vendorID : UInt16
  productID : UInt16
  releaseNumber : UInt16
  manufacturerStrIndex : UInt8
  productStrIndex : UInt8
  serialNumStrIndex : UInt8
  numberOfConfigurations : UInt8
  deriving DecidableEq, Repr

/-- `USB_Descriptor_Configuration_Header_t`. -/
structure ConfigurationHeader where
  totalConfigurationSize : UInt16
  totalInterfaces : UInt8
  configurationNumber : UInt8
  configurationStrIndex : UInt8
  configAttributes : UInt8
  maxPowerConsumption : UInt8
  deriving DecidableEq, Repr

/-- `USB_Descriptor_Interface_t`. -/
structure InterfaceDescriptor where
  interfaceNumber : UInt8
  alternateSetting : UInt8
  totalEndpoints : UInt8
  interfaceClass : UInt8
  subClass : UInt8
  protocol : UInt8
  interfaceStrIndex : UInt8
  deriving DecidableEq, Repr

/-- `USB_Descriptor_Endpoint_t`. -/
structure EndpointDescriptor where
  endpointAddress : UInt8
  attributes : UInt8
  endpointSize : UInt16
  pollingIntervalMS : UInt8
  deriving DecidableEq, Repr

def DeviceDescriptor.bytes (d : DeviceDescriptor) : List UInt8 :=
  [18, DTYPE_Device] ++ le16 d.usbSpecification ++
    [d.deviceClass, d.subClass, d.protocol, d.endpoint0Size] ++
    le16 d.vendorID ++ le16 d.productID ++ le16 d.releaseNumber ++
    [d.manufacturerStrIndex, d.productStrIndex, d.serialNumStrIndex, d.numberOfConfigurations]

/-- The descriptors that a configuration is made of. -/
inductive Descriptor where
  | configuration (h : ConfigurationHeader)
  | interface (i : InterfaceDescriptor)
  | endpoint (e : EndpointDescriptor)
  deriving DecidableEq, Repr

def Descriptor.bytes : Descriptor → List UInt8
  | .configuration h => [9, DTYPE_Configuration] ++ le16 h.totalConfigurationSize ++
      [h.totalInterfaces, h.configurationNumber, h.configurationStrIndex, h.configAttributes,
        h.maxPowerConsumption]
  | .interface i => [9, DTYPE_Interface, i.interfaceNumber, i.alternateSetting, i.totalEndpoints,
      i.interfaceClass, i.subClass, i.protocol, i.interfaceStrIndex]
  | .endpoint e => [7, DTYPE_Endpoint, e.endpointAddress, e.attributes] ++ le16 e.endpointSize ++
      [e.pollingIntervalMS]

abbrev InterfaceTree := InterfaceDescriptor × List EndpointDescriptor

def InterfaceTree.descriptors (t : InterfaceTree) : List Descriptor :=
  .interface t.1 :: t.2.map .endpoint

/-- The descriptors of a configuration in the order in which they are laid out. -/
def layout (h : ConfigurationHeader) (interfaces : List InterfaceTree) : List Descriptor :=
  .configuration h :: interfaces.flatMap InterfaceTree.descriptors

/-- A configuration whose sizes and numbers are right. -/
structure Configuration where
  header : ConfigurationHeader
  interfaces : List InterfaceTree
  totalConfigurationSize_eq : header.totalConfigurationSize.toNat =
    ((layout header interfaces).flatMap Descriptor.bytes).length
  totalInterfaces_eq : header.totalInterfaces.toNat = interfaces.length
  totalEndpoints_eq : ∀ t ∈ interfaces, t.1.totalEndpoints.toNat = t.2.length

def Configuration.bytes (c : Configuration) : List UInt8 :=
  (layout c.header c.interfaces).flatMap Descriptor.bytes

/-! ### Reading a configuration -/

def Descriptor.read : List UInt8 → Option Descriptor
  | [size, type, x₂, x₃, x₄, x₅, x₆, x₇, x₈] =>
    if size = 9 ∧ type = DTYPE_Configuration then
      some (.configuration ⟨ofLe16 x₂ x₃, x₄, x₅, x₆, x₇, x₈⟩)
    else if size = 9 ∧ type = DTYPE_Interface then
      some (.interface ⟨x₂, x₃, x₄, x₅, x₆, x₇, x₈⟩)
    else none
  | [size, type, x₂, x₃, x₄, x₅, x₆] =>
    if size = 7 ∧ type = DTYPE_Endpoint then some (.endpoint ⟨x₂, x₃, ofLe16 x₄ x₅, x₆⟩) else none
  | _ => none

/-- The endpoints in front of the first interface, and the interfaces with their endpoints. -/
def group : List Descriptor → Option (List EndpointDescriptor × List InterfaceTree)
  | [] => some ([], [])
  | .endpoint e :: ds => (group ds).map fun x => (e :: x.1, x.2)
  | .interface i :: ds => (group ds).map fun x => ([], (i, x.1) :: x.2)
  | .configuration _ :: _ => none

def Configuration.ofDescriptors : List Descriptor → Option Configuration
  | .configuration h :: ds =>
    match group ds with
    | some ([], interfaces) =>
      if hwf : h.totalConfigurationSize.toNat =
            ((layout h interfaces).flatMap Descriptor.bytes).length ∧
          h.totalInterfaces.toNat = interfaces.length ∧
          ∀ t ∈ interfaces, t.1.totalEndpoints.toNat = t.2.length
      then some ⟨h, interfaces, hwf.1, hwf.2.1, hwf.2.2⟩ else none
    | _ => none
  | _ => none

/-- The configuration with the layout `l`, if there is one. -/
def Configuration.read (l : List UInt8) : Option Configuration :=
  (records UInt8.toNat l).bind fun rs =>
    (rs.mapM Descriptor.read).bind Configuration.ofDescriptors

lemma ofLe16_le16 (x : UInt16) : ofLe16 x.toUInt8 (x >>> 8).toUInt8 = x := by
  rw [← UInt16.toNat_inj, ofLe16]
  have hx := x.toNat_lt
  simp [Nat.shiftRight_eq_div_pow]
  omega

lemma le16_ofLe16 (a b : UInt8) : le16 (ofLe16 a b) = [a, b] := by
  have ha := a.toNat_lt
  have hb := b.toNat_lt
  have hlow : (ofLe16 a b).toUInt8 = a := by
    rw [← UInt8.toNat_inj, ofLe16]
    simp
  have hhigh : (ofLe16 a b >>> 8).toUInt8 = b := by
    rw [← UInt8.toNat_inj, ofLe16]
    simp [Nat.shiftRight_eq_div_pow]
    omega
  rw [le16, hlow, hhigh]

lemma Descriptor.read_eq_some_iff {l : List UInt8} {d : Descriptor} :
    Descriptor.read l = some d ↔ d.bytes = l := by
  constructor
  · intro h
    unfold Descriptor.read at h
    split at h
    · split_ifs at h with hc hi
      · obtain rfl := Option.some_inj.1 h
        simp [Descriptor.bytes, le16_ofLe16, hc]
      · obtain rfl := Option.some_inj.1 h
        simp [Descriptor.bytes, hi]
    · split_ifs at h with he
      obtain rfl := Option.some_inj.1 h
      simp [Descriptor.bytes, le16_ofLe16, he]
    · cases h
  · rintro rfl
    cases d <;> simp [Descriptor.bytes, Descriptor.read, le16, ofLe16_le16, DTYPE_Configuration,
      DTYPE_Interface]

lemma group_eq_some_iff {ds : List Descriptor} {es : List EndpointDescriptor}
    {is : List InterfaceTree} :
    group ds = some (es, is) ↔ ds = es.map .endpoint ++ is.flatMap InterfaceTree.descriptors := by
  induction ds generalizing es is with
  | nil =>
    cases es with
    | nil => cases is <;> simp [group, InterfaceTree.descriptors]
    | cons e es => simp [group]
  | cons d ds ih =>
    cases d with
    | configuration h =>
      constructor
      · rintro ⟨⟩
      · intro h
        cases es <;> cases is <;> simp [InterfaceTree.descriptors] at h
    | interface i =>
      rw [group, Option.map_eq_some_iff]
      constructor
      · rintro ⟨⟨es', is'⟩, hgroup, heq⟩
        obtain ⟨rfl, rfl⟩ := Prod.mk.inj heq
        simp [ih.1 hgroup, InterfaceTree.descriptors]
      · intro h
        cases es with
        | cons e es => simp at h
        | nil =>
          cases is with
          | nil => simp at h
          | cons t is =>
            obtain ⟨i', es'⟩ := t
            simp only [List.map_nil, List.nil_append, List.flatMap_cons, List.cons_append,
              InterfaceTree.descriptors, List.cons.injEq, Descriptor.interface.injEq] at h
            obtain ⟨rfl, h⟩ := h
            exact ⟨(es', is), ih.2 h, rfl⟩
    | endpoint e =>
      rw [group, Option.map_eq_some_iff]
      constructor
      · rintro ⟨⟨es', is'⟩, hgroup, heq⟩
        obtain ⟨rfl, rfl⟩ := Prod.mk.inj heq
        simp [ih.1 hgroup]
      · intro h
        cases es with
        | nil => cases is <;> simp [InterfaceTree.descriptors] at h
        | cons e' es =>
          simp only [List.map_cons, List.cons_append, List.cons.injEq,
            Descriptor.endpoint.injEq] at h
          obtain ⟨rfl, h⟩ := h
          exact ⟨(es, is), ih.2 h, rfl⟩

lemma Configuration.ofDescriptors_eq_some_iff {ds : List Descriptor} {c : Configuration} :
    Configuration.ofDescriptors ds = some c ↔ ds = layout c.header c.interfaces := by
  constructor
  · intro h
    unfold Configuration.ofDescriptors at h
    split at h
    · split at h
      · next hgroup =>
        split_ifs at h with hwf
        obtain rfl := Option.some_inj.1 h
        rw [layout, group_eq_some_iff.1 hgroup]
        rfl
      · cases h
    · cases h
  · rintro rfl
    have hgroup : group (c.interfaces.flatMap InterfaceTree.descriptors) =
      some ([], c.interfaces) := group_eq_some_iff.2 rfl
    simp only [layout, Configuration.ofDescriptors, hgroup]
    exact dif_pos ⟨c.totalConfigurationSize_eq, c.totalInterfaces_eq, c.totalEndpoints_eq⟩

lemma isRecord_bytes (d : Descriptor) : IsRecord UInt8.toNat d.bytes := by
  cases d <;> rfl

lemma mapM_read_eq_some_iff {rs : List (List UInt8)} {ds : List Descriptor} :
    rs.mapM Descriptor.read = some ds ↔ ds.map Descriptor.bytes = rs := by
  induction rs generalizing ds with
  | nil => cases ds <;> simp
  | cons r rs ih =>
    cases ds with
    | nil => simp [List.mapM_cons, Option.bind_eq_some_iff]
    | cons d ds =>
      simp [List.mapM_cons, Option.bind_eq_some_iff, Descriptor.read_eq_some_iff, ih]

/-- **Reading and laying out are inverse to each other.** What is accepted is the layout of the
configuration that is read, and every configuration can be read from its layout. -/
theorem Configuration.read_eq_some_iff {l : List UInt8} {c : Configuration} :
    Configuration.read l = some c ↔ c.bytes = l := by
  unfold Configuration.read Configuration.bytes
  simp only [Option.bind_eq_some_iff, records_eq_some_iff, mapM_read_eq_some_iff,
    Configuration.ofDescriptors_eq_some_iff]
  constructor
  · rintro ⟨rs, ⟨rfl, -⟩, ds, rfl, rfl⟩
    rw [List.flatMap_def]
  · rintro rfl
    refine ⟨_, ⟨by rw [List.flatMap_def], ?_⟩, _, rfl, rfl⟩
    intro r hr
    obtain ⟨d, -, rfl⟩ := List.mem_map.1 hr
    exact isRecord_bytes d

/-! ### The descriptors of the joystick -/

def FIXED_CONTROL_ENDPOINT_SIZE : ℕ := 8
def FIXED_NUM_CONFIGURATIONS : UInt8 := 1
def NO_DESCRIPTOR : ℕ := 0

def STRING_ID_Language : UInt8 := 0
def STRING_ID_Manufacturer : UInt8 := 1
def STRING_ID_Product : UInt8 := 2
def STRING_ID_Serial : UInt8 := 3

def INTERRUPT_EPSIZE : UInt16 := 1
def PAD_IN_EPADDR : UInt8 := 0x80 ||| 1
def PAD_OUT_EPADDR : UInt8 := 0x00 ||| 2

def PAD_DeviceDescriptor : DeviceDescriptor where
  usbSpecification := 0x0110
  deviceClass := 0xFF
  subClass := 0x00
  protocol := 0x00
  endpoint0Size := .ofNat FIXED_CONTROL_ENDPOINT_SIZE
  vendorID := 0xABCD
  productID := 0x1234
  releaseNumber := 0x0200
  manufacturerStrIndex := STRING_ID_Manufacturer
  productStrIndex := STRING_ID_Product
  serialNumStrIndex := STRING_ID_Serial
  numberOfConfigurations := FIXED_NUM_CONFIGURATIONS

/-- The interfaces of the joystick differ in their number and their endpoint, which is an interrupt
endpoint. -/
def padInterface (interfaceNumber endpointAddress : UInt8) : InterfaceTree :=
  (⟨interfaceNumber, 0, 1, 0xFF, 0x00, 0x00, .ofNat NO_DESCRIPTOR⟩,
    [⟨endpointAddress, 0x03, INTERRUPT_EPSIZE, 0x05⟩])

def PAD_ConfigurationDescriptor : Configuration where
  header := ⟨41, 2, 1, .ofNat NO_DESCRIPTOR, 0x80 ||| 0x40, .ofNat (500 / 2)⟩
  interfaces := [padInterface 0x00 PAD_IN_EPADDR, padInterface 0x01 PAD_OUT_EPADDR]
  totalConfigurationSize_eq := by decide
  totalInterfaces_eq := by decide
  totalEndpoints_eq := by decide

/-- The header and the text of a string descriptor. -/
def stringDescriptor (text : List UInt16) : List UInt8 :=
  [.ofNat (2 + 2 * text.length), DTYPE_String] ++ text.flatMap le16

def LanguageString : List UInt8 := stringDescriptor [0x0409]

/-- `USB_STRING_DESCRIPTOR` of a literal. Its final zero is in memory but not in the size. -/
def wideString (text : String) : List UInt8 :=
  stringDescriptor (text.toList.map fun c => .ofNat c.toNat) ++ le16 0

def ManufacturerString : List UInt8 := wideString "Polytech Lille"
def ProductString : List UInt8 := wideString "LUFA PAD"

/-- `CALLBACK_USB_GetDescriptor`: what is in memory from `*DescriptorAddress` on, and the size. The
number of a device or of a configuration is not looked at. -/
def callbackUsbGetDescriptor (wValue : UInt16) : List UInt8 × ℕ :=
  let descriptorType := (wValue >>> 8).toUInt8
  let descriptorNumber := wValue.toUInt8
  let string (memory : List UInt8) := (memory, (memory.headD 0).toNat)
  if descriptorType = DTYPE_Device then (PAD_DeviceDescriptor.bytes, 18)
  else if descriptorType = DTYPE_Configuration then (PAD_ConfigurationDescriptor.bytes, 41)
  else if descriptorType = DTYPE_String then
    if descriptorNumber = STRING_ID_Language then string LanguageString
    else if descriptorNumber = STRING_ID_Manufacturer then string ManufacturerString
    else if descriptorNumber = STRING_ID_Product then string ProductString
    else ([], NO_DESCRIPTOR)
  else ([], NO_DESCRIPTOR)

def hexDigit (nibble : UInt8) : UInt16 :=
  if 10 ≤ nibble then 0x41 - 10 + nibble.toUInt16 else 0x30 + nibble.toUInt16

/-- The loop of `USB_Device_GetSerialString` over the nibbles of the signature row, low nibble
first, with `n` characters left. -/
def serialLoop (signature : ℕ → UInt8) : ℕ → ℕ → ℕ → List UInt16
  | 0, _, _ => []
  | n + 1, serialCharNum, sigReadAddress =>
    let odd := serialCharNum % 2 = 1
    let serialByte := signature sigReadAddress
    let serialByte := if odd then serialByte >>> 4 else serialByte
    hexDigit (serialByte &&& 0x0F) :: serialLoop signature n (serialCharNum + 1)
      (if odd then sigReadAddress + 1 else sigReadAddress)

/-- The 80 bits from the address 0x0E on, as 20 digits. -/
def serialString (signature : ℕ → UInt8) : List UInt16 := serialLoop signature 20 0 0x0E

def USE_INTERNAL_SERIAL : UInt8 := 0xDC

/-- `USB_Device_GetDescriptor`: the buffer that is sent, if there is one. -/
def getDescriptor (signature : ℕ → UInt8) (wValue : UInt16) : Option (List UInt8) :=
  if wValue = 0x0300 ||| USE_INTERNAL_SERIAL.toUInt16 then
    some (stringDescriptor (serialString signature))
  else
    let (memory, size) := callbackUsbGetDescriptor wValue
    if size = NO_DESCRIPTOR then none else some (memory.take size)

/-! ### What is served -/

lemma length_serialLoop (signature : ℕ → UInt8) (n num addr : ℕ) :
    (serialLoop signature n num addr).length = n := by
  induction n generalizing num addr with
  | zero => rfl
  | succ n ih => simp [serialLoop, ih]

lemma isRecord_stringDescriptor {text : List UInt16} (h : text.length < 127) :
    IsRecord UInt8.toNat (stringDescriptor text) := by
  have hbytes : (text.flatMap le16).length = 2 * text.length := by
    rw [List.length_flatMap]
    simp [le16, mul_comm]
  show (UInt8.ofNat (2 + 2 * text.length)).toNat = ([DTYPE_String] ++ text.flatMap le16).length + 1
  rw [UInt8.toNat_ofNat', Nat.mod_eq_of_lt (by omega), List.length_append, hbytes,
    List.length_singleton]
  omega

/-- The request for the descriptor `number` of a type. -/
def request (type number : UInt8) : UInt16 := ofLe16 number type

lemma request_type (type number : UInt8) : (request type number >>> 8).toUInt8 = type := by
  have h := le16_ofLe16 number type
  simp only [le16, List.cons.injEq, and_true] at h
  exact h.2

lemma request_number (type number : UInt8) : (request type number).toUInt8 = number := by
  have h := le16_ofLe16 number type
  simp only [le16, List.cons.injEq, and_true] at h
  exact h.1

/-- The texts of the string descriptors, by their number. -/
def stringText (signature : ℕ → UInt8) (number : UInt8) : Option (List UInt16) :=
  if number = STRING_ID_Language then some [0x0409]
  else if number = STRING_ID_Manufacturer then
    some ("Polytech Lille".toList.map fun c => .ofNat c.toNat)
  else if number = STRING_ID_Product then some ("LUFA PAD".toList.map fun c => .ofNat c.toNat)
  else if number = USE_INTERNAL_SERIAL then some (serialString signature)
  else none

lemma stringText_length {signature : ℕ → UInt8} {number : UInt8} {text : List UInt16}
    (h : stringText signature number = some text) : text.length < 127 := by
  unfold stringText at h
  split_ifs at h <;> obtain rfl := Option.some_inj.1 h
  · decide
  · decide
  · decide
  · rw [serialString, length_serialLoop]
    decide

/-- **The answer to a request**, by type and number. -/
theorem getDescriptor_request (signature : ℕ → UInt8) (type number : UInt8) :
    getDescriptor signature (request type number) =
      if type = DTYPE_Device then some PAD_DeviceDescriptor.bytes
      else if type = DTYPE_Configuration then some PAD_ConfigurationDescriptor.bytes
      else if type = DTYPE_String then (stringText signature number).map stringDescriptor
      else none := by
  have hserial : request type number = 0x0300 ||| USE_INTERNAL_SERIAL.toUInt16 ↔
      type = DTYPE_String ∧ number = USE_INTERNAL_SERIAL := by
    constructor
    · intro h
      have htype := request_type type number
      have hnumber := request_number type number
      rw [h] at htype hnumber
      exact ⟨htype.symm.trans (by decide), hnumber.symm.trans (by decide)⟩
    · rintro ⟨rfl, rfl⟩
      decide
  unfold getDescriptor callbackUsbGetDescriptor
  simp only [hserial, request_type, request_number]
  by_cases hdevice : type = DTYPE_Device
  · subst hdevice
    rfl
  by_cases hconfiguration : type = DTYPE_Configuration
  · subst hconfiguration
    rfl
  by_cases hstring : type = DTYPE_String
  · subst hstring
    simp only [if_neg hdevice, if_neg hconfiguration, if_true, true_and]
    unfold stringText
    by_cases hnumber : number = USE_INTERNAL_SERIAL
    · subst hnumber
      rfl
    rw [if_neg hnumber, if_neg hnumber]
    by_cases hlanguage : number = STRING_ID_Language
    · subst hlanguage
      rfl
    by_cases hmanufacturer : number = STRING_ID_Manufacturer
    · subst hmanufacturer
      rfl
    by_cases hproduct : number = STRING_ID_Product
    · subst hproduct
      rfl
    · simp [hlanguage, hmanufacturer, hproduct, NO_DESCRIPTOR]
  · simp [hdevice, hconfiguration, hstring, NO_DESCRIPTOR]

/-- **What is served.** Descriptors of a device and of a configuration are served whatever their
number, and four strings. All that is served consists of records that begin with their size, and
says of itself that it is of the type that was asked for. The device descriptor names three
strings; the one for the serial number is not among those that are served. -/
theorem descriptors_served (signature : ℕ → UInt8) :
    (∀ type number, (getDescriptor signature (request type number)).isSome ↔
      type = DTYPE_Device ∨ type = DTYPE_Configuration ∨ type = DTYPE_String ∧
        number ∈ [STRING_ID_Language, STRING_ID_Manufacturer, STRING_ID_Product,
          USE_INTERNAL_SERIAL]) ∧
    (∀ type number d, getDescriptor signature (request type number) = some d →
      d[1]? = some type ∧ (records UInt8.toNat d).isSome) ∧
    ∀ number ∈ [PAD_DeviceDescriptor.manufacturerStrIndex, PAD_DeviceDescriptor.productStrIndex,
        PAD_DeviceDescriptor.serialNumStrIndex],
      (getDescriptor signature (request DTYPE_String number)).isSome ↔
        number ≠ PAD_DeviceDescriptor.serialNumStrIndex := by
  have hserved : ∀ type number, (getDescriptor signature (request type number)).isSome ↔
      type = DTYPE_Device ∨ type = DTYPE_Configuration ∨ type = DTYPE_String ∧
        number ∈ [STRING_ID_Language, STRING_ID_Manufacturer, STRING_ID_Product,
          USE_INTERNAL_SERIAL] := by
    intro type number
    rw [getDescriptor_request]
    split_ifs with hdevice hconfiguration hstring
    · simp [hdevice]
    · simp [hconfiguration]
    · rw [Option.isSome_map]
      unfold stringText
      split_ifs <;> simp_all
    · simp [hdevice, hconfiguration, hstring]
  refine ⟨hserved, ?_, ?_⟩
  · intro type number d h
    rw [getDescriptor_request] at h
    split_ifs at h with hdevice hconfiguration hstring
    · obtain rfl := Option.some_inj.1 h
      exact ⟨by rw [hdevice]; rfl, by decide⟩
    · obtain rfl := Option.some_inj.1 h
      exact ⟨by rw [hconfiguration]; rfl, by decide⟩
    · obtain ⟨text, htext, rfl⟩ := Option.map_eq_some_iff.1 h
      refine ⟨by rw [hstring]; rfl, ?_⟩
      have hrecords := records_eq_some_iff.2 ⟨List.flatten_singleton, List.forall_mem_singleton.2
        (isRecord_stringDescriptor (stringText_length htext))⟩
      rw [hrecords]
      rfl
  · intro number hnumber
    rw [hserved]
    simp only [List.mem_cons, List.not_mem_nil, or_false] at hnumber
    rcases hnumber with rfl | rfl | rfl <;> decide

/-! ### The serial number -/

/-- The digits of a byte determine it. -/
lemma digits_injective (b b' : UInt8) (hlow : hexDigit (b &&& 0x0F) = hexDigit (b' &&& 0x0F))
    (hhigh : hexDigit ((b >>> 4) &&& 0x0F) = hexDigit ((b' >>> 4) &&& 0x0F)) : b = b' := by
  let nibble (c : UInt16) : UInt8 := if c < 0x41 then (c - 0x30).toUInt8 else (c - 0x37).toUInt8
  have hread : ∀ b : UInt8, b =
      (nibble (hexDigit ((b >>> 4) &&& 0x0F)) <<< 4) ||| nibble (hexDigit (b &&& 0x0F)) := by
    have hall : ∀ v : BitVec 8, UInt8.ofBitVec v =
        (nibble (hexDigit ((UInt8.ofBitVec v >>> 4) &&& 0x0F)) <<< 4) |||
          nibble (hexDigit (UInt8.ofBitVec v &&& 0x0F)) := by decide +kernel
    exact fun b => hall b.toBitVec
  rw [hread b, hread b', hlow, hhigh]

lemma serialLoop_eq_iff (signature signature' : ℕ → UInt8) (k num addr : ℕ) (h : num % 2 = 0) :
    serialLoop signature (2 * k) num addr = serialLoop signature' (2 * k) num addr ↔
      ∀ i < k, signature (addr + i) = signature' (addr + i) := by
  induction k generalizing num addr with
  | zero => simp [serialLoop]
  | succ k ih =>
    have hodd : (num + 1) % 2 = 1 := by omega
    have hnext := ih (num + 1 + 1) (addr + 1) (by omega)
    rw [show 2 * (k + 1) = 2 * k + 1 + 1 by ring]
    simp only [serialLoop, h, hodd, zero_ne_one, if_false, if_true, List.cons.injEq, hnext]
    constructor
    · rintro ⟨hlow, hhigh, hrest⟩ i hi
      cases i with
      | zero => exact digits_injective _ _ hlow hhigh
      | succ i =>
        rw [show addr + (i + 1) = addr + 1 + i by ring]
        exact hrest i (by omega)
    · intro hall
      have hfirst := hall 0 (by omega)
      rw [Nat.add_zero] at hfirst
      refine ⟨by rw [hfirst], by rw [hfirst], fun i hi => ?_⟩
      rw [show addr + 1 + i = addr + (i + 1) by ring]
      exact hall (i + 1) (by omega)

lemma flatMap_le16_injective {l l' : List UInt16} (h : l.flatMap le16 = l'.flatMap le16) :
    l = l' := by
  induction l generalizing l' with
  | nil => cases l' with
    | nil => rfl
    | cons y ys => simp [le16] at h
  | cons x xs ih => cases l' with
    | nil => simp [le16] at h
    | cons y ys =>
      simp only [List.flatMap_cons, le16, List.cons_append, List.nil_append,
        List.cons.injEq] at h
      obtain ⟨hlow, hhigh, hrest⟩ := h
      rw [ih hrest, ← ofLe16_le16 x, ← ofLe16_le16 y, hlow, hhigh]

/-- **The serial number identifies the controller**: two have the same string exactly if the ten
bytes of their signature rows are the same. -/
theorem serial_identifies (signature signature' : ℕ → UInt8) :
    getDescriptor signature (request DTYPE_String USE_INTERNAL_SERIAL) =
        getDescriptor signature' (request DTYPE_String USE_INTERNAL_SERIAL) ↔
      ∀ a, 0x0E ≤ a → a < 0x18 → signature a = signature' a := by
  have hdescriptor : ∀ signature, getDescriptor signature (request DTYPE_String USE_INTERNAL_SERIAL)
      = some ([42, DTYPE_String] ++ (serialString signature).flatMap le16) := by
    intro signature
    rw [getDescriptor_request]
    show some (stringDescriptor (serialString signature)) = _
    rw [stringDescriptor, serialString, length_serialLoop]
    rfl
  have hstring : serialString signature = serialString signature' ↔
      ∀ i < 10, signature (0x0E + i) = signature' (0x0E + i) :=
    serialLoop_eq_iff signature signature' 10 0 0x0E rfl
  rw [hdescriptor, hdescriptor, Option.some_inj, List.append_cancel_left_eq]
  constructor
  · intro h a ha ha'
    have hbyte := hstring.1 (flatMap_le16_injective h) (a - 0x0E) (by omega)
    rwa [Nat.add_sub_cancel' ha] at hbyte
  · intro h
    rw [hstring.2 fun i hi => h _ (by omega) (by omega)]

/-! ### What has been read -/

/-- The fields of a configuration that `save_interrupt_endpoints` and `unclaim_active_config` look
at. -/
def Configuration.toHost (c : Configuration) : Host.ConfigDescriptor where
  interface := c.interfaces.attach.map fun t =>
    { bInterfaceNumber := t.1.1.interfaceNumber
      endpoint := t.1.2.map fun e => ⟨e.endpointAddress, e.attributes⟩
      bNumEndpoints_lt := by
        rw [List.length_map, ← c.totalEndpoints_eq t.1 t.2]
        exact t.1.1.totalEndpoints.toNat_lt }
  bNumInterfaces_lt := by
    rw [List.length_map, List.length_attach, ← c.totalInterfaces_eq]
    exact c.header.totalInterfaces.toNat_lt

/-- The size of the whole configuration, from its first bytes. -/
def totalSize : List UInt8 → Option UInt16
  | _ :: _ :: a :: b :: _ => some (ofLe16 a b)
  | _ => none

lemma totalSize_take {l : List UInt8} {n : ℕ} (h : 4 ≤ n) : totalSize (l.take n) = totalSize l := by
  obtain ⟨m, rfl⟩ : ∃ m, n = m + 4 := ⟨n - 4, by omega⟩
  match l with
  | [] | [_] | [_, _] | [_, _, _] => rfl
  | _ :: _ :: _ :: _ :: _ => rfl

/-- **What the transfer gives.** A request for a configuration is answered, and however the transfer
goes, when the host has stopped reading, the size of the configuration is in its bytes if it asked
for at least 4, and they are the layout of a configuration if it asked for all of them: of the one
that the modules on the host side of the program take for that of the joystick. -/
theorem configuration_read (signature : ℕ → UInt8) (number : UInt8) :
    ∃ d, getDescriptor signature (request DTYPE_Configuration number) = some d ∧
      ∀ wLength es t, 0 < wLength →
        (transfer FIXED_CONTROL_ENDPOINT_SIZE wLength).run (.start d wLength) es = some t →
        t.phase ≠ .reading →
        (4 ≤ wLength → totalSize t.got = some (.ofNat d.length)) ∧
        (d.length ≤ wLength →
          (Configuration.read t.got).map Configuration.toHost = some Host.padConfig) := by
  refine ⟨PAD_ConfigurationDescriptor.bytes, by rw [getDescriptor_request]; rfl, ?_⟩
  intro wLength es t hlength hrun hphase
  rw [(run_sound (by decide) hlength hrun).got hphase]
  constructor
  · intro h
    rw [totalSize_take h]
    rfl
  · intro h
    rw [List.take_of_length_le h, Configuration.read_eq_some_iff.2 rfl]
    rfl

/-- The first 9 bytes say how many there are. -/
example : ∃ t, (transfer FIXED_CONTROL_ENDPOINT_SIZE 9).run
      (.start PAD_ConfigurationDescriptor.bytes 9) ((List.replicate 2 .default).flatMap round) =
        some t ∧ t.phase = .acknowledged ∧ totalSize t.got = some 41 :=
  ⟨_, rfl, by decide, by decide⟩

end UsbJoystick.Usb
