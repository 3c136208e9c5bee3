import UsbJoystick.Host.Endpoints

/-!
The way to the joystick: `init_usb` of `libusb/usb_host.c`, with `get_usb_device` and
`unclaim_active_config`.

`get_usb_device` opens the first device whose descriptor can be read and has the product id of the
joystick. A `Handle` is a device that has passed these checks. There are no others: neither the
vendor id nor the configuration is looked at, so that a handle can have any configuration
(`getUsbDevice_singleton`), and it is the configuration that decides on the number of writes to
`endp_list`.

`init_usb` fetches three descriptors of the opened device and does not look at the answers. If one
of them cannot be fetched, the local `config` has no value, and the next statement follows it. What
the program does then is undefined (`InitUsb.undefined`).
-/

namespace UsbJoystick.Host

def ID_PRODUCT : UInt16 := 0x1234

/-- A device of the list, with what libusb answers to the calls about it. A status is an error if
it is not zero. -/
structure Device where
  descriptorStatus : ℤ := 0 -- `libusb_get_device_descriptor`
  idProduct : UInt16
  openStatus : ℤ := 0 -- `libusb_open`
  activeStatus : ℤ := 0 -- `libusb_get_active_config_descriptor`
  active : ConfigDescriptor -- the active configuration, if it is fetched
  driver : ℕ → ℤ := fun _ => 0 -- the `i`-th `libusb_kernel_driver_active`
  detach : ℕ → ℤ := fun _ => 0 -- `libusb_detach_kernel_driver`, for the same interface
  -- `libusb_get_config_descriptor`, first in `init_usb` and then in `save_interrupt_endpoints`
  fetch : ℕ → ℤ := fun _ => 0
  config : ConfigDescriptor -- the configuration `NUM_CONFIG`, if it is fetched
  configStatus : ℤ := 0 -- `libusb_set_configuration`
  claim : ℕ → ℤ := fun _ => 0 -- the `i`-th `libusb_claim_interface`

/-- What the global `handle` is after `get_usb_device` has returned 0. -/
structure Handle extends Device where
  descriptorStatus_eq : descriptorStatus = 0
  idProduct_eq : idProduct = ID_PRODUCT
  openStatus_eq : openStatus = 0

/-! ### The functions -/

inductive Lookup where
  | found (handle : Handle) -- `return 0`
  | notFound -- `return 1`
  | exited (message : String) -- `perror` and `exit(-1)`

/-- The loop of `get_usb_device`. -/
def deviceLoop : List Device → Lookup
  | [] => .notFound
  | device :: rest =>
    if hstatus : device.descriptorStatus = 0 then
      if hid : device.idProduct = ID_PRODUCT then
        if hopen : device.openStatus = 0 then .found ⟨device, hstatus, hid, hopen⟩
        else .exited "Unable to open a device"
      else deviceLoop rest
    else deviceLoop rest

/-- There is no list if `libusb_get_device_list` answers a negative number. -/
def getUsbDevice : Option (List Device) → Lookup
  | none => .exited "libusb_get_device_list"
  | some list => deviceLoop list

/-- The loop of `unclaim_active_config`, from the interface `i` on, with the interfaces that have
been detached. It is an error if the process exits. -/
def unclaimLoop (driver detach : ℕ → ℤ) :
    List Interface → ℕ → List UInt8 → Except (List UInt8) (List UInt8)
  | [], _, detached => .ok detached
  | interd :: rest, i, detached =>
    if driver i ≠ 0 then
      if detach i ≠ 0 then .error detached
      else unclaimLoop driver detach rest (i + 1) (detached ++ [interd.bInterfaceNumber])
    else unclaimLoop driver detach rest (i + 1) detached

def unclaimActiveConfig (handle : Handle) : Except (List UInt8) (List UInt8) :=
  unclaimLoop handle.driver handle.detach handle.active.interface 0 []

/-- `save_interrupt_endpoints`, which takes its device from `handle`, when its descriptor has been
fetched. -/
def Handle.saveInterruptEndpoints (handle : Handle) : Outcome :=
  Host.saveInterruptEndpoints handle.claim handle.config

inductive InitUsb where
  | ready (handle : Handle) (s : Saving) -- `return 0`
  | failed (message : String) -- `return 1`
  | exited (message : String) (s : Saving) -- `exit(-1)`
  | undefined -- `config` is followed without a value

/-- The answer of `libusb_init` is `status`; the text of its error is that of another call. -/
def initUsb (status : ℤ) (bus : Option (List Device)) : InitUsb :=
  if status ≠ 0 then .failed "libusb_get_device_list"
  else match getUsbDevice bus with
    | .exited message => .exited message {}
    | .notFound => .failed "Device not found"
    | .found handle =>
      if handle.activeStatus ≠ 0 then .undefined
      else match unclaimActiveConfig handle with
        | .error _ => .exited "libusb_detach_kernel_driver" {}
        | .ok _ =>
          if handle.fetch 0 ≠ 0 then .undefined
          else if handle.configStatus ≠ 0 then .failed "libusb_set_configuration"
          else if handle.fetch 1 ≠ 0 then .undefined
          else match handle.saveInterruptEndpoints with
            | .exited s => .exited "Claim error" s
            | .returned s => .ready handle s

/-! ### The device that is opened -/

def Device.isPad (device : Device) : Bool :=
  decide (device.descriptorStatus = 0 ∧ device.idProduct = ID_PRODUCT)

/-- **The opened device** is the first one that looks like the joystick. -/
theorem deviceLoop_eq_found_iff (list : List Device) (handle : Handle) :
    deviceLoop list = .found handle ↔ list.find? Device.isPad = some handle.toDevice := by
  induction list with
  | nil => simp [deviceLoop]
  | cons device rest ih =>
    by_cases hpad : device.descriptorStatus = 0 ∧ device.idProduct = ID_PRODUCT
    · obtain ⟨hstatus, hid⟩ := hpad
      rw [List.find?_cons_of_pos (by simp [Device.isPad, hstatus, hid])]
      by_cases hopen : device.openStatus = 0
      · simp only [deviceLoop, hstatus, hid, hopen, dif_pos, Lookup.found.injEq, Option.some_inj]
        constructor
        · rintro rfl
          rfl
        · rintro rfl
          rfl
      · simp only [deviceLoop, hstatus, hid, hopen, dif_pos, dif_neg, not_false_eq_true]
        constructor
        · rintro ⟨⟩
        · intro h
          exact absurd (Option.some_inj.1 h ▸ handle.openStatus_eq) hopen
    · rw [List.find?_cons_of_neg (by simpa [Device.isPad] using hpad), ← ih]
      by_cases hstatus : device.descriptorStatus = 0
      · have hid : device.idProduct ≠ ID_PRODUCT := fun hid => hpad ⟨hstatus, hid⟩
        simp [deviceLoop, hid]
      · simp [deviceLoop, hstatus]

/-- The checks of `get_usb_device` are those that a handle has passed. -/
theorem getUsbDevice_singleton (handle : Handle) :
    getUsbDevice (some [handle.toDevice]) = .found handle := by
  rw [getUsbDevice, deviceLoop_eq_found_iff]
  simp [Device.isPad, handle.descriptorStatus_eq, handle.idProduct_eq]

/-! ### The size of `endp_list` -/

/-- At most 10 of the interfaces, up to the first one whose claim fails, have an interrupt
endpoint. -/
def Device.Fits (device : Device) : Prop :=
  ∀ n < device.config.interface.length, (∀ i < n, device.claim i = 0) →
    (device.config.interface.take (n + 1)).countP Interface.hasInterrupt ≤ 10

instance (device : Device) : Decidable device.Fits :=
  inferInstanceAs (Decidable (∀ n < device.config.interface.length,
    (∀ i < n, device.claim i = 0) → _ ≤ 10))

/-- **The writes to `endp_list`** are in bounds if and only if the configuration fits; whatever the
claims answer, if and only if at most 10 interfaces have an interrupt endpoint. The function itself
does not compare `cpt` with the size of the array. -/
theorem saved_in_bounds_iff (handle : Handle) :
    ((∀ w ∈ handle.saveInterruptEndpoints.saving.writes, w.2 < 10) ↔ handle.Fits) ∧
    ((∀ claim, ∀ w ∈ (saveInterruptEndpoints claim handle.config).saving.writes, w.2 < 10) ↔
      handle.config.interface.countP Interface.hasInterrupt ≤ 10) :=
  ⟨writes_lt_iff handle.claim handle.config 10, writes_lt_iff_of_any_claims handle.config 10⟩

/-- The joystick itself. -/
def pad : Handle :=
  { idProduct := ID_PRODUCT, active := padConfig, config := padConfig
    descriptorStatus_eq := rfl, idProduct_eq := rfl, openStatus_eq := rfl }

theorem saved_in_bounds_pad :
    (∀ w ∈ pad.saveInterruptEndpoints.saving.writes, w.2 < 10) ∧
    ∀ claim, ∀ w ∈ (saveInterruptEndpoints claim padConfig).saving.writes, w.2 < 10 :=
  ⟨(saved_in_bounds_iff pad).1.2 (by decide), (saved_in_bounds_iff pad).2.2 (by decide)⟩

/-- An interface more than `endp_list` has places, with an interrupt endpoint in each. -/
def crowdedConfig : ConfigDescriptor :=
  ⟨(List.range 11).map fun i => ⟨.ofNat i, [⟨.ofNat (0x81 + i), 0x03⟩], by simp⟩, by decide⟩

def crowded : Handle :=
  { idProduct := ID_PRODUCT, active := crowdedConfig, config := crowdedConfig
    descriptorStatus_eq := rfl, idProduct_eq := rfl, openStatus_eq := rfl }

theorem eleventh_endpoint_out_of_bounds :
    ¬ ∀ (bus : Option (List Device)) (handle : Handle), getUsbDevice bus = .found handle →
      ∀ w ∈ handle.saveInterruptEndpoints.saving.writes, w.2 < 10 := by
  intro h
  have hfound := getUsbDevice_singleton crowded
  have hwrite : ((⟨0x8B, 0x03⟩, 10) : Endpoint × ℕ) ∈
      crowded.saveInterruptEndpoints.saving.writes := by decide
  exact absurd (h _ _ hfound _ hwrite) (by decide)

/-! ### The whole of `init_usb` -/

/-- The drivers that are detached, in order, are those that are active. -/
lemma unclaimLoop_eq_ok_iff (driver detach : ℕ → ℤ) (is : List Interface) (i : ℕ)
    (detached l : List UInt8) :
    unclaimLoop driver detach is i detached = .ok l ↔
      (∀ w ∈ is.zipIdx i, driver w.2 ≠ 0 → detach w.2 = 0) ∧
      l = detached ++ ((is.zipIdx i).filter (driver ·.2 ≠ 0)).map (·.1.bInterfaceNumber) := by
  induction is generalizing i detached with
  | nil => simp [unclaimLoop, eq_comm]
  | cons interd rest ih =>
    rw [List.zipIdx_cons, List.forall_mem_cons]
    by_cases hdriver : driver i = 0
    · simp [unclaimLoop, hdriver, ih]
    · by_cases hdetach : detach i = 0
      · simp [unclaimLoop, hdriver, hdetach, ih]
      · simp [unclaimLoop, hdriver, hdetach]

/-- The drivers of the active configuration can be detached. -/
def Device.Detaches (device : Device) : Prop :=
  ∀ w ∈ device.active.interface.zipIdx, device.driver w.2 ≠ 0 → device.detach w.2 = 0

instance (device : Device) : Decidable device.Detaches :=
  inferInstanceAs (Decidable (∀ w ∈ device.active.interface.zipIdx, _))

/-- `init_usb` gets to `unclaim_active_config`. -/
structure Opens (status : ℤ) (bus : Option (List Device)) (handle : Handle) : Prop where
  init : status = 0
  found : getUsbDevice bus = .found handle

/-- It gets past it. -/
structure Unclaims (status : ℤ) (bus : Option (List Device)) (handle : Handle) : Prop
    extends Opens status bus handle where
  active : handle.activeStatus = 0
  detaches : handle.Detaches

/-- It gets to `save_interrupt_endpoints`. -/
structure Reaches (status : ℤ) (bus : Option (List Device)) (handle : Handle) : Prop
    extends Unclaims status bus handle where
  fetched : handle.fetch 0 = 0
  configured : handle.configStatus = 0

/-- The contents of `endp_list` afterwards. There are none after a write outside of it, and nothing
is known of them after undefined behaviour. -/
def InitUsb.endpList : InitUsb → Option (Vector Endpoint 10)
  | .ready _ s => Host.endpList s.writes
  | .failed _ => Host.endpList []
  | .exited _ s => Host.endpList s.writes
  | .undefined => none

lemma unclaimActiveConfig_isOk_iff (handle : Handle) :
    (∃ l, unclaimActiveConfig handle = .ok l) ↔ handle.Detaches := by
  constructor
  · rintro ⟨l, hl⟩
    exact ((unclaimLoop_eq_ok_iff ..).1 hl).1
  · intro h
    exact ⟨_, (unclaimLoop_eq_ok_iff ..).2 ⟨h, rfl⟩⟩

variable {status : ℤ} {bus : Option (List Device)} {handle : Handle}

/-- Without a handle nothing has been written. -/
lemma initUsb_of_not_opens (h : ∀ handle, ¬ Opens status bus handle) :
    (∃ message, initUsb status bus = .failed message) ∨
      ∃ message, initUsb status bus = .exited message {} := by
  rcases ne_or_eq status 0 with hstatus | hstatus
  · exact .inl ⟨_, if_pos hstatus⟩
  rw [initUsb, if_neg (not_not.2 hstatus)]
  cases hfound : getUsbDevice bus with
  | exited message => exact .inr ⟨message, rfl⟩
  | notFound => exact .inl ⟨_, rfl⟩
  | found handle => exact absurd ⟨hstatus, hfound⟩ (h handle)

/-- **What `init_usb` does with a handle.** -/
theorem Opens.initUsb_eq (h : Opens status bus handle) : initUsb status bus =
    if handle.activeStatus = 0 then
      if handle.Detaches then
        if handle.fetch 0 = 0 then
          if handle.configStatus = 0 then
            if handle.fetch 1 = 0 then
              match handle.saveInterruptEndpoints with
              | .exited s => .exited "Claim error" s
              | .returned s => .ready handle s
            else .undefined
          else .failed "libusb_set_configuration"
        else .undefined
      else .exited "libusb_detach_kernel_driver" {}
    else .undefined := by
  simp only [initUsb, if_neg (not_not.2 h.init), h.found, ne_eq, ite_not]
  refine if_congr Iff.rfl ?_ rfl
  by_cases hdetaches : handle.Detaches
  · obtain ⟨l, hl⟩ := (unclaimActiveConfig_isOk_iff handle).2 hdetaches
    rw [hl, if_pos hdetaches]
  · rw [if_neg hdetaches]
    cases hunclaim : unclaimActiveConfig handle with
    | error detached => rfl
    | ok detached =>
      exact absurd ((unclaimActiveConfig_isOk_iff handle).1 ⟨detached, hunclaim⟩) hdetaches

lemma Opens.unique {handle' : Handle} (h : Opens status bus handle)
    (h' : Opens status bus handle') : handle = handle' :=
  Lookup.found.inj (h.found.symm.trans h'.found)

lemma isSome_endpList_saved (handle : Handle) : (match handle.saveInterruptEndpoints with
      | .exited s => InitUsb.exited "Claim error" s
      | .returned s => .ready handle s).endpList.isSome ↔ handle.Fits := by
  rw [Device.Fits, ← writes_lt_iff, ← isSome_endpList_iff]
  change _ ↔ (endpList handle.saveInterruptEndpoints.saving.writes).isSome
  cases handle.saveInterruptEndpoints <;> rfl

/-- **Memory safety of `init_usb`.** It is defined what `init_usb` does, and `endp_list` is intact
after it, if and only if each of the three descriptors can be fetched that it gets to, and the
configuration fits if it gets to that. -/
theorem initUsb_intact_iff (status : ℤ) (bus : Option (List Device)) :
    (initUsb status bus).endpList.isSome ↔
      (∀ handle, Opens status bus handle → handle.activeStatus = 0) ∧
      (∀ handle, Unclaims status bus handle → handle.fetch 0 = 0) ∧
      ∀ handle, Reaches status bus handle → handle.fetch 1 = 0 ∧ handle.Fits := by
  by_cases hopens : ∃ handle, Opens status bus handle
  · obtain ⟨handle, h⟩ := hopens
    -- the conditions speak of no other handle
    have hopen : (∀ handle', Opens status bus handle' → handle'.activeStatus = 0) ↔
        handle.activeStatus = 0 :=
      ⟨fun hall => hall handle h, fun hactive handle' h' => h.unique h' ▸ hactive⟩
    have hunclaim : (∀ handle', Unclaims status bus handle' → handle'.fetch 0 = 0) ↔
        (handle.activeStatus = 0 → handle.Detaches → handle.fetch 0 = 0) := by
      constructor
      · exact fun hall hactive hdetaches => hall handle ⟨h, hactive, hdetaches⟩
      · intro hfetch handle' h'
        obtain rfl := h.unique h'.toOpens
        exact hfetch h'.active h'.detaches
    have hreach : (∀ handle', Reaches status bus handle' →
        handle'.fetch 1 = 0 ∧ handle'.Fits) ↔ (handle.activeStatus = 0 → handle.Detaches →
          handle.fetch 0 = 0 → handle.configStatus = 0 → handle.fetch 1 = 0 ∧ handle.Fits) := by
      constructor
      · exact fun hall hactive hdetaches hfetch hconfig =>
          hall handle ⟨⟨h, hactive, hdetaches⟩, hfetch, hconfig⟩
      · intro hfits handle' h'
        obtain rfl := h.unique h'.toOpens
        exact hfits h'.active h'.detaches h'.fetched h'.configured
    rw [hopen, hunclaim, hreach, h.initUsb_eq]
    split_ifs with hactive hdetaches hfetch hconfig hagain
    · rw [isSome_endpList_saved]
      simp [hactive, hdetaches, hfetch, hconfig, hagain]
    · simp [InitUsb.endpList, hactive, hdetaches, hfetch, hconfig, hagain]
    · simp [InitUsb.endpList, endpList, hactive, hfetch, hconfig]
    · simp [InitUsb.endpList, hactive, hdetaches, hfetch]
    · simp [InitUsb.endpList, endpList, hactive, hdetaches]
    · simp [InitUsb.endpList, hactive]
  · have hnot : ∀ handle, ¬ Opens status bus handle := not_exists.1 hopens
    refine iff_of_true ?_ ⟨fun handle h => absurd h (hnot handle),
      fun handle h => absurd h.toOpens (hnot handle),
      fun handle h => absurd h.toOpens (hnot handle)⟩
    rcases initUsb_of_not_opens hnot with ⟨message, hend⟩ | ⟨message, hend⟩ <;> rw [hend] <;> rfl

/-- A device with the product id of the joystick that is not configured: its active configuration
cannot be fetched. -/
example : initUsb 0 (some [{ pad.toDevice with activeStatus := -5 }]) = .undefined := rfl

/-- **When `init_usb` has returned 0**, all interfaces of the opened device are claimed, and
`endp_list` holds the first interrupt endpoint of every interface that has one, if there are at most
10 of them. -/
theorem initUsb_ready {s : Saving} (h : initUsb status bus = .ready handle s) :
    getUsbDevice bus = .found handle ∧
    s.claimed = handle.config.interface.map Interface.bInterfaceNumber ∧
    endpList s.writes = if handle.config.interface.countP Interface.hasInterrupt ≤ 10
      then some (Vector.ofFn fun i =>
        (handle.config.interface.filterMap Interface.firstInterrupt)[i.1]?.getD ⟨0, 0⟩)
      else none := by
  by_cases hopens : ∃ handle', Opens status bus handle'
  · obtain ⟨handle', hopen⟩ := hopens
    rw [hopen.initUsb_eq] at h
    split_ifs at h
    cases hsave : handle'.saveInterruptEndpoints with
    | exited s' => simp [hsave] at h
    | returned s' =>
      simp only [hsave, InitUsb.ready.injEq] at h
      obtain ⟨rfl, rfl⟩ := h
      have hclaims := saveInterruptEndpoints_of_claims (claims_of_returned hsave)
      obtain rfl := Outcome.returned.inj (hsave.symm.trans hclaims)
      have hwritten := written_turns handle'.config.interface handle'.config.bNumInterfaces_lt
      refine ⟨hopen.found, claimed_turns _, ?_⟩
      rw [hwritten.writes, endpList_zipIdx, length_found]
  · rcases initUsb_of_not_opens (not_exists.1 hopens) with ⟨_, hend⟩ | ⟨_, hend⟩ <;>
      rw [hend] at h <;> cases h

/-- With the joystick alone on the bus. -/
theorem initUsb_ready_pad :
    ∃ s, initUsb 0 (some [pad.toDevice]) = .ready pad s ∧ s.claimed = [0, 1] ∧
      (endpList s.writes).isSome := by
  have h : initUsb 0 (some [pad.toDevice]) =
    .ready pad ⟨2, [(⟨0x81, 0x03⟩, 0), (⟨0x02, 0x03⟩, 1)], [0, 1]⟩ := rfl
  obtain ⟨-, hclaimed, hlist⟩ := initUsb_ready h
  exact ⟨_, h, hclaimed, by rw [hlist]; rfl⟩

end UsbJoystick.Host
