import UsbJoystick.Pad.Firmware

/-!
`PAD_Task` works with its own endpoints.

The statements of `PAD_Task` say nothing about the endpoint they work with: it is the one that
`UENUM` selects, and the configuration is the one that `EVENT_USB_Device_ConfigurationChanged`
wrote. In between, `USB_USBTask` answers any request (also from inside `Endpoint_Write_Stream_LE`),
and `USB_GEN_vect` may select and configure endpoints on its own.

The proof is an outline of the program by the rules of `Lib.Outline`, one lemma for each function of
the source. What the outline says of the registers (`Holds`) is said under a condition `K`, and the
two uses differ in it. With `K` = "configured, and no reset pending" (`Live`) any interrupt may
come: an interrupt that touches the registers also makes `K` false, and only a request brings it
back (`run_ready`). For a time without resets `K` is always true, and then `UENUM` is known as well
(`pad_works_with_its_endpoints`). With a reset the second statement is false, see the end.
-/

namespace UsbJoystick.Pad.Firmware

open Lib Usb

/-! ### What is known of the registers -/

/-- The registers that say which endpoint is worked with, and what it is. -/
structure Regs where
  uenum : ℕ
  config : ℕ → EndpointConfig

def Device.regs (d : Device) : Regs := ⟨d.uenum, fun n => (d.endpoints n).config⟩

/-- Both report endpoints are configured. -/
def Ready (config : ℕ → EndpointConfig) : Prop :=
  config PAD_IN = PAD_IN_CONFIG ∧ config PAD_OUT = PAD_OUT_CONFIG

/-- The endpoint that a statement of `PAD_Task` is meant to work with. -/
def Stmt.wants : Stmt → Option ℕ
  | .ifReadWriteAllowedIN | .waitUntilReady | .writeLoop | .writeByte | .sendReport => some PAD_IN
  | .ifOUTReceived | .ifReadWriteAllowedOUT | .readReport | .releaseReport => some PAD_OUT
  | _ => none

def Stmt.asks : Stmt → Bool
  | .padTask => true
  | a => a.wants.isSome

lemma config_update (endpoints : ℕ → Endpoint) (m : ℕ) (e : Endpoint) :
    (fun n => (Function.update endpoints m e n).config) =
      Function.update (fun n => (endpoints n).config) m e.config :=
  funext fun n => Function.apply_update (fun _ => Endpoint.config) endpoints m e n

lemma config_update_eq {endpoints : ℕ → Endpoint} {m : ℕ} {e : Endpoint}
    (h : e.config = (endpoints m).config) :
    (fun n => (Function.update endpoints m e n).config) = fun n => (endpoints n).config := by
  rw [config_update, h]
  exact Function.update_eq_self m _

lemma regs_configure (d : Device) (f : EndpointConfig → EndpointConfig) :
    (d.configure f).regs =
      ⟨d.uenum, Function.update d.regs.config d.uenum (f (d.regs.config d.uenum))⟩ :=
  congrArg (Regs.mk d.uenum) (config_update _ _ _)

/-! ### Interrupts -/

/-- **What configuring an endpoint does.** If the controller accepts all the configurations, the
endpoint that was asked for is selected at the end. -/
lemma configureEndpointPrv_eq (cfgok : ℕ → Bool) (number : ℕ) (config : EndpointConfig)
    (n epNum : ℕ) (d : Device) :
    ∃ uenum endpoints, configureEndpointPrv cfgok number config n epNum d =
        { d with uenum := uenum, endpoints := endpoints } ∧
      (∀ m, (endpoints m).bank = (d.endpoints m).bank) ∧
      ((∀ m, cfgok m = true) → uenum = number) := by
  induction n generalizing epNum d with
  | zero => exact ⟨number, d.endpoints, rfl, fun _ => rfl, fun _ => rfl⟩
  | succ n ih =>
    -- whichever configuration is written
    have hturn : ∀ temp : EndpointConfig, ∃ uenum endpoints,
        (if temp.uecfg1x &&& ALLOC = 0
          then configureEndpointPrv cfgok number config n (epNum + 1) { d with uenum := epNum }
          else
            let d' := ({ d with uenum := epNum } : Device).configure
              fun _ => { temp with epen := true }
            if cfgok epNum then configureEndpointPrv cfgok number config n (epNum + 1) d'
            else d') = { d with uenum := uenum, endpoints := endpoints } ∧
          (∀ m, (endpoints m).bank = (d.endpoints m).bank) ∧
          ((∀ m, cfgok m = true) → uenum = number) := by
      intro temp
      have hbank : ∀ m, (Function.update d.endpoints epNum
          { d.endpoints epNum with config := { temp with epen := true } } m).bank =
            (d.endpoints m).bank := by
        intro m
        rcases eq_or_ne m epNum with rfl | hm
        · rw [Function.update_self]
        · rw [Function.update_of_ne hm]
      simp only
      split_ifs with halloc hok
      · obtain ⟨uenum, endpoints, hd, hb, hu⟩ := ih (epNum + 1) { d with uenum := epNum }
        exact ⟨uenum, endpoints, hd, hb, hu⟩
      · obtain ⟨uenum, endpoints, hd, hb, hu⟩ := ih (epNum + 1)
          (({ d with uenum := epNum } : Device).configure fun _ => { temp with epen := true })
        exact ⟨uenum, endpoints, hd, fun m => (hb m).trans (hbank m), hu⟩
      · exact ⟨epNum, _, rfl, hbank, fun h => absurd (h epNum) hok⟩
    exact hturn _

/-- On a suspend and on a wake-up the device becomes configured only if it has a configuration. -/
lemma onWakeUp_onSuspend (suspi wakeupi : Bool) (d : Device) :
    ∃ suspe wakeupe state, onWakeUp wakeupi (onSuspend suspi d) =
        { d with suspe := suspe, wakeupe := wakeupe, deviceState := state } ∧
      (state = .configured → d.deviceState = .configured ∨ d.configurationNumber ≠ 0) := by
  have hsuspend : ∃ suspe wakeupe state, onSuspend suspi d =
      { d with suspe := suspe, wakeupe := wakeupe, deviceState := state } ∧
        (state = .configured → d.deviceState = .configured) := by
    unfold onSuspend
    split_ifs
    · exact ⟨_, _, _, rfl, fun h => by cases h⟩
    · exact ⟨_, _, _, rfl, id⟩
  obtain ⟨suspe, wakeupe, state, hd, hstate⟩ := hsuspend
  rw [hd, onWakeUp]
  split_ifs with hwake hnumber hadden
  · exact ⟨_, _, _, rfl, fun _ => Or.inr hnumber⟩
  · exact ⟨_, _, _, rfl, fun h => by cases h⟩
  · exact ⟨_, _, _, rfl, fun h => by cases h⟩
  · exact ⟨_, _, _, rfl, fun h => Or.inl (hstate h)⟩

lemma usbGen_of_not_reset (suspi wakeupi : Bool) (cfgok : ℕ → Bool) {d : Device}
    (h : d.eorsti = false) :
    ∃ suspe wakeupe state, usbGen suspi wakeupi cfgok d =
        { d with suspe := suspe, wakeupe := wakeupe, deviceState := state } ∧
      (state = .configured → d.deviceState = .configured ∨ d.configurationNumber ≠ 0) := by
  obtain ⟨suspe, wakeupe, state, hd, hstate⟩ := onWakeUp_onSuspend suspi wakeupi d
  refine ⟨suspe, wakeupe, state, ?_, hstate⟩
  rw [usbGen, hd, onReset, if_neg]
  simp [h]

/-- After a reset the device has no configuration. -/
lemma usbGen_of_reset (suspi wakeupi : Bool) (cfgok : ℕ → Bool) {d : Device}
    (h : d.eorsti = true) :
    ∃ uenum endpoints, usbGen suspi wakeupi cfgok d =
        { d with
          eorsti := false
          deviceState := .default
          configurationNumber := 0
          suspe := false
          wakeupe := true
          uenum := uenum
          endpoints := endpoints } ∧
      (∀ m, (endpoints m).bank = (d.endpoints m).bank) ∧
      ((∀ m, cfgok m = true) → uenum = 0) := by
  obtain ⟨suspe, wakeupe, state, hd, -⟩ := onWakeUp_onSuspend suspi wakeupi d
  rw [usbGen, hd, onReset, if_pos (by exact h)]
  exact configureEndpointPrv_eq cfgok 0 _ ENDPOINT_TOTAL_ENDPOINTS 0 _

lemma prevEndpoint_interrupt (e : Interrupt) (d : Device) :
    (interrupt e d).prevEndpoint = d.prevEndpoint := by
  cases e with
  | usbGen suspi wakeupi cfgok =>
    cases h : d.eorsti with
    | true =>
      obtain ⟨_, _, hd, -⟩ := usbGen_of_reset suspi wakeupi cfgok h
      rw [interrupt, hd]
    | false =>
      obtain ⟨_, _, _, hd, -⟩ := usbGen_of_not_reset suspi wakeupi cfgok h
      rw [interrupt, hd]
  | _ => rfl

/-- What is known of the registers is known if `K` holds. It does not depend on anything else than
the device state, the configuration number and the flag of a reset, and neither does `E`, which
always holds. Interrupts do not bring about `K` and, if it holds, leave the registers alone. `L`
says that `K` always holds. -/
structure Keeps (R : Interrupt → Device → Prop) (E K : Device → Prop) (L : Prop) : Prop where
  env : ∀ e d, R e d → E d → E (interrupt e d)
  back : ∀ e d, R e d → E d → K (interrupt e d) → K d ∧ (interrupt e d).regs = d.regs
  same_env : ∀ d d', d'.eorsti = d.eorsti → E d → E d'
  same : ∀ d d', (d'.deviceState = .configured → d.deviceState = .configured) →
    d'.configurationNumber = d.configurationNumber → d'.eorsti = d.eorsti → K d' → K d
  total : L → ∀ d, K d

section Outline

variable {signature : ℕ → UInt8} {R : Interrupt → Device → Prop} {E K : Device → Prop} {L : Prop}
  {S : ℕ → Prop} {d : Device} {F F' : Regs → Prop} {C C' : (ℕ → EndpointConfig) → Prop} {k n p : ℕ}

/-- `F` is known of the registers, and `S` of the endpoint that `USB_DeviceTask` has saved. -/
def Holds (E K : Device → Prop) (S : ℕ → Prop) (F : Regs → Prop) (d : Device) : Prop :=
  S d.prevEndpoint ∧ E d ∧ (K d → F d.regs)

lemma Holds.mono (h : ∀ r, F r → F' r) (hd : Holds E K S F d) : Holds E K S F' d :=
  ⟨hd.1, hd.2.1, fun hKd => h _ (hd.2.2 hKd)⟩

/-- What is asked where a statement is executed: `PAD_Task` finds its endpoints configured and, if
that is always known, its statements find the endpoint selected that they want. -/
def Fits (K : Device → Prop) (L : Prop) (a : Stmt) (d : Device) : Prop :=
  (a = .padTask → K d → Ready d.regs.config) ∧
    (L → ∀ n, a.wants = some n → d.uenum = n ∧ Ready d.regs.config)

lemma fits_of_not_asks {a : Stmt} (h : a.asks = false) : Fits K L a d := by
  constructor
  · rintro rfl
    cases h
  · intro _ n hn
    cases a with
    | padTask => cases hn
    | _ => simp [Stmt.asks, hn] at h

lemma Keeps.stable (hK : Keeps R E K L) : (program signature).Stable R (Holds E K S F) := by
  rintro e d he ⟨hS, hE, hF⟩
  refine ⟨?_, hK.env e d he hE, fun hKd => ?_⟩
  · show S (interrupt e d).prevEndpoint
    rwa [prevEndpoint_interrupt]
  · obtain ⟨hKd, hregs⟩ := hK.back e d he hE hKd
    show F (interrupt e d).regs
    rw [hregs]
    exact hF hKd

lemma Keeps.wp_nil (hK : Keeps R E K L) (hd : Holds E K S F d) :
    (program signature).Wp R (Fits K L) (Holds E K S F) [] d :=
  Program.wp_nil hK.stable hd fun _ => id

/-- A statement that leaves the device as it is. -/
lemma Keeps.wp_branch (hK : Keeps R E K L) {a : Stmt} (hfits : ∀ d, Holds E K S F d → Fits K L a d)
    (hsame : ∀ i d, (exec signature a i d).2 = d) {Q : Device → Prop}
    (hexec : ∀ i d, Holds E K S F d →
      (program signature).Wp R (Fits K L) Q (exec signature a i d).1 d)
    (hd : Holds E K S F d) : (program signature).Wp R (Fits K L) Q [a] d := by
  refine Program.wp_stmt hK.stable hd hfits fun i d hd => Or.inr ?_
  show (program signature).Wp R (Fits K L) Q (exec signature a i d).1 (exec signature a i d).2
  rw [hsame]
  exact hexec i d hd

/-- A statement that is executed at once. -/
lemma Keeps.wp_atom (hK : Keeps R E K L) (S' : ℕ → Prop) (F' : Regs → Prop) {a : Stmt}
    (hfits : ∀ d, Holds E K S F d → Fits K L a d)
    (hexec : ∀ i d, (exec signature a i d).1 = [] ∧
      (Holds E K S F d → Holds E K S' F' (exec signature a i d).2))
    (hd : Holds E K S F d) :
    (program signature).Wp R (Fits K L) (Holds E K S' F') [a] d := by
  refine Program.wp_stmt hK.stable hd hfits fun i d hd => Or.inr ?_
  show (program signature).Wp R (Fits K L) _ (exec signature a i d).1 _
  rw [(hexec i d).1]
  exact hK.wp_nil ((hexec i d).2 hd)

lemma Keeps.wp_orNothing (hK : Keeps R E K L) {yes : Bool} {as : List Stmt}
    (h : yes = true → (program signature).Wp R (Fits K L) (Holds E K S F) as d)
    (hd : Holds E K S F d) :
    (program signature).Wp R (Fits K L) (Holds E K S F) (orNothing yes as) d := by
  cases yes
  · exact hK.wp_nil hd
  · exact h rfl

/-! ### Statements that do not configure anything -/

/-- What such a statement leaves alone. It can only change the state of the device to another one
than configured. -/
structure Calm (d d' : Device) : Prop where
  prevEndpoint : d'.prevEndpoint = d.prevEndpoint
  eorsti : d'.eorsti = d.eorsti
  configurationNumber : d'.configurationNumber = d.configurationNumber
  config : d'.regs.config = d.regs.config
  deviceState : d'.deviceState = .configured → d.deviceState = .configured

lemma Calm.refl (d : Device) : Calm d d := ⟨rfl, rfl, rfl, rfl, id⟩

lemma Keeps.of_calm (hK : Keeps R E K L) {d' : Device} (h : Calm d d')
    (hF : F d.regs → F' d'.regs) (hd : Holds E K S F d) : Holds E K S F' d' := by
  obtain ⟨hS, hE, hKF⟩ := hd
  refine ⟨by rwa [h.prevEndpoint], hK.same_env d d' h.eorsti hE, fun hKd => hF (hKF ?_)⟩
  exact hK.same d d' h.deviceState h.configurationNumber h.eorsti hKd

lemma Keeps.calm (hK : Keeps R E K L) {d' : Device} (h : Calm d d')
    (hd : Holds E K S (fun r => C r.config) d) : Holds E K S (fun r => C r.config) d' :=
  hK.of_calm h (fun hC => by rwa [h.config]) hd

def Stmt.tame : Stmt → Bool
  | .selectEndpoint _ | .ifUnhandled | .clearSETUP | .clearIN | .clearOUT | .stallTransaction
  | .clearStall | .resetEndpoint _ | .clearStatusStage | .waitINReady | .setDeviceAddress _
  | .enableDeviceAddress | .writeConfigurationNumber | .statusOfDevice | .statusOfEndpoint
  | .writeStatus | .setRemoteWakeup _ | .ifEnabled _ | .writeControlStream _ => true
  | .setDeviceState state => state ≠ .configured
  | _ => false

lemma asks_of_tame {a : Stmt} (h : a.tame = true) : a.asks = false := by
  cases a <;> first | rfl | cases h

lemma mem_orNothing {b : Stmt} {yes : Bool} {body : List Stmt} (h : b ∈ orNothing yes body) :
    b ∈ body := by
  cases yes
  · cases h
  · exact h

lemma tame_exec (signature : ℕ → UInt8) {a : Stmt} (h : a.tame = true) (i : Answer) (d : Device) :
    (∀ b ∈ (exec signature a i d).1, b.tame = true) ∧ Calm d (exec signature a i d).2 := by
  cases a with
  | selectEndpoint m => exact ⟨List.forall_mem_nil _, rfl, rfl, rfl, rfl, id⟩
  | clearIN | stallTransaction | clearStall | writeConfigurationNumber | writeStatus
  | resetEndpoint =>
    exact ⟨List.forall_mem_nil _, rfl, rfl, rfl, config_update_eq rfl, id⟩
  | clearOUT | setDeviceAddress | enableDeviceAddress | statusOfDevice | statusOfEndpoint
  | setRemoteWakeup => exact ⟨List.forall_mem_nil _, rfl, rfl, rfl, rfl, id⟩
  | setDeviceState state =>
    refine ⟨List.forall_mem_nil _, rfl, rfl, rfl, rfl, fun hstate => ?_⟩
    exact absurd hstate (of_decide_eq_true h)
  | clearSETUP =>
    refine ⟨List.forall_mem_nil _, ?_⟩
    show Calm d (if d.uenum = 0 then { d with setup := none } else d)
    split_ifs
    · exact ⟨rfl, rfl, rfl, rfl, id⟩
    · exact Calm.refl d
  | ifUnhandled =>
    have htame : ∀ b ∈ [Stmt.clearSETUP, .stallTransaction], b.tame = true :=
      List.all_eq_true.1 rfl
    exact ⟨fun b hb => htame b (mem_orNothing hb), Calm.refl d⟩
  | clearStatusStage =>
    refine ⟨?_, Calm.refl d⟩
    simp only [exec, orNothing]
    split_ifs <;> exact List.all_eq_true.1 rfl
  | waitINReady | writeControlStream =>
    refine ⟨?_, Calm.refl d⟩
    simp only [exec, await]
    split_ifs <;> exact List.all_eq_true.1 rfl
  | ifEnabled set =>
    refine ⟨?_, Calm.refl d⟩
    simp only [exec, orNothing]
    split_ifs <;> exact List.all_eq_true.1 rfl
  | _ => cases h

/-- Such statements keep what is known of the configuration. -/
lemma Keeps.wp_tame (hK : Keeps R E K L) {as : List Stmt} (has : ∀ a ∈ as, a.tame = true)
    (hd : Holds E K S (fun r => C r.config) d) :
    (program signature).Wp R (Fits K L) (Holds E K S fun r => C r.config) as d := by
  refine Program.wp_of_class (fun a => a.tame = true) hK.stable ?_ ?_ has hd
  · exact fun a d ha _ => fits_of_not_asks (asks_of_tame ha)
  · intro a i d ha hd
    obtain ⟨htame, hcalm⟩ := tame_exec signature ha i d
    exact ⟨htame, hK.calm hcalm hd⟩

/-! ### The configuration of an endpoint -/

lemma Keeps.wp_select (hK : Keeps R E K L) (C : (ℕ → EndpointConfig) → Prop)
    (hd : Holds E K S (fun r => C r.config) d) :
    (program signature).Wp R (Fits K L) (Holds E K S fun r => r.uenum = n ∧ C r.config)
      [.selectEndpoint n] d := by
  refine hK.wp_atom S _ (fun _ _ => fits_of_not_asks rfl) (fun i d => ⟨rfl, fun hd => ?_⟩) hd
  exact hK.of_calm (d := d) ⟨rfl, rfl, rfl, rfl, id⟩ (fun hC => ⟨rfl, hC⟩) hd

/-- The registers of the endpoint `n` are written. -/
lemma Keeps.wp_configure (hK : Keeps R E K L) (C C' : (ℕ → EndpointConfig) → Prop) {a : Stmt}
    {f : EndpointConfig → EndpointConfig} (ha : a.asks = false)
    (hexec : ∀ i d, exec signature a i d = ([], d.configure f))
    (hC : ∀ config, C config → C' (Function.update config n (f (config n))))
    (hd : Holds E K S (fun r => r.uenum = n ∧ C r.config) d) :
    (program signature).Wp R (Fits K L) (Holds E K S fun r => r.uenum = n ∧ C' r.config) [a] d := by
  refine hK.wp_atom S _ (fun _ _ => fits_of_not_asks ha) (fun i d => ?_) hd
  rw [hexec]
  refine ⟨rfl, fun ⟨hS, hE, hKF⟩ => ⟨hS, hK.same_env d _ rfl hE, fun hKd => ?_⟩⟩
  obtain ⟨hn, h⟩ := hKF (hK.same d (d.configure f) id rfl rfl hKd)
  obtain rfl : d.uenum = n := hn
  rw [regs_configure]
  exact ⟨rfl, hC _ h⟩

/-- The registers of the endpoint `n` are written one after the other. -/
lemma Keeps.wp_rewrite (hK : Keeps R E K L) (c : EndpointConfig) (hepen : c.epen = true)
    (hC : ∀ config v, C config → C (Function.update config n v))
    (hd : Holds E K S (fun r => r.uenum = n ∧ C r.config) d) :
    (program signature).Wp R (Fits K L)
      (Holds E K S fun r => r.uenum = n ∧ C r.config ∧ r.config n = c)
      [.disableEndpoint, .clearAlloc, .enableEndpoint, .writeUECFG0X c.uecfg0x,
        .writeUECFG1X c.uecfg1x] d := by
  let C₁ (config : ℕ → EndpointConfig) := C config ∧ (config n).epen = true
  let C₂ (config : ℕ → EndpointConfig) := C₁ config ∧ (config n).uecfg0x = c.uecfg0x
  refine (hK.wp_configure C C rfl (fun _ _ => rfl) (fun config => hC config _) hd).cons ?_
  intro d hd
  refine (hK.wp_configure C C rfl (fun _ _ => rfl) (fun config => hC config _) hd).cons ?_
  intro d hd
  refine (hK.wp_configure C C₁ rfl (fun _ _ => rfl) ?_ hd).cons ?_
  · exact fun config h => ⟨hC config _ h, by rw [Function.update_self]⟩
  intro d hd
  refine (hK.wp_configure C₁ C₂ rfl (fun _ _ => rfl) ?_ hd).cons ?_
  · rintro config ⟨h, hen⟩
    exact ⟨⟨hC config _ h, by rw [Function.update_self]; exact hen⟩, by rw [Function.update_self]⟩
  intro d hd
  refine hK.wp_configure C₂ (fun config => C config ∧ config n = c) rfl (fun _ _ => rfl) ?_ hd
  rintro config ⟨⟨h, hen⟩, h0⟩
  refine ⟨hC config _ h, ?_⟩
  rw [Function.update_self]
  exact EndpointConfig.ext h0 rfl (hen.trans hepen.symm)

/-- A turn of the loop for the endpoint `k`. The endpoint `n` to be configured gets the
configuration `c`, the others keep theirs. -/
lemma Keeps.wp_turn (hK : Keeps R E K L) (C C' : (ℕ → EndpointConfig) → Prop)
    {c : EndpointConfig} (halloc : c.uecfg1x &&& ALLOC ≠ 0) (hepen : c.epen = true)
    (hk : k < ENDPOINT_TOTAL_ENDPOINTS)
    (hC : ∀ config v, C config → C (Function.update config k v))
    (hC' : ∀ config, C config → (k = n → config n = c) → C' config)
    (hnext : ∀ d, Holds E K S (fun r => C' r.config) d → (program signature).Wp R (Fits K L)
      (Holds E K S fun r => C' r.config) [.configureFrom n c (k + 1)] d)
    (hd : Holds E K S (fun r => C r.config) d) :
    (program signature).Wp R (Fits K L) (Holds E K S fun r => C' r.config)
      [.configureFrom n c k] d := by
  have hfits : ∀ {a : Stmt} {F : Regs → Prop}, a.asks = false →
      ∀ d, Holds E K S F d → Fits K L a d := fun ha _ _ => fits_of_not_asks ha
  refine hK.wp_branch (hfits rfl) (fun _ _ => rfl) (fun i d hd => ?_) hd
  rw [exec, if_pos hk]
  refine (hK.wp_select C hd).cons fun d hd => ?_
  refine hK.wp_branch (hfits rfl) (fun _ _ => rfl) (fun i d hd => ?_) hd
  have htemp : ∀ temp : EndpointConfig, (k = n → temp = c) → (program signature).Wp R (Fits K L)
      (Holds E K S fun r => C' r.config) (if temp.uecfg1x &&& ALLOC = 0
        then [.configureFrom n c (k + 1)]
        else [.disableEndpoint, .clearAlloc, .enableEndpoint, .writeUECFG0X temp.uecfg0x,
          .writeUECFG1X temp.uecfg1x, .ifConfigured n c k]) d := by
    intro temp hkn
    split_ifs with hskip
    · have hne : k ≠ n := fun h => halloc (hkn h ▸ hskip)
      exact hnext d (hd.mono fun r h => hC' r.config h.2 fun h => absurd h hne)
    · refine (hK.wp_rewrite { temp with epen := true } rfl hC hd).append fun d hd => ?_
      have hd : Holds E K S (fun r => C' r.config) d := by
        refine hd.mono fun r ⟨_, h, hrk⟩ => hC' r.config h fun h => ?_
        rw [← h, hrk, hkn h, ← hepen]
      refine hK.wp_branch (hfits rfl) (fun _ _ => rfl) (fun i d hd => ?_) hd
      exact hK.wp_orNothing (fun _ => hnext d hd) hd
  exact htemp _ fun h => if_pos h

/-- **`Endpoint_ConfigureEndpoint_Prv`** configures the endpoint `n`, and nothing that is known of
the endpoints before it is lost. -/
lemma Keeps.wp_configureFrom (hK : Keeps R E K L) (C : (ℕ → EndpointConfig) → Prop)
    {c : EndpointConfig} (halloc : c.uecfg1x &&& ALLOC ≠ 0) (hepen : c.epen = true)
    (hn : n < ENDPOINT_TOTAL_ENDPOINTS)
    (hC : ∀ k config v, n ≤ k → C config → C (Function.update config k v))
    (hd : Holds E K S (fun r => C r.config) d) :
    (program signature).Wp R (Fits K L) (Holds E K S fun r => r.config n = c ∧ C r.config)
      [.configureFrom n c n] d := by
  -- the endpoints after `n`, by induction on how many are left
  have hrest : ∀ j k, k + j = ENDPOINT_TOTAL_ENDPOINTS → n < k → ∀ d,
      Holds E K S (fun r => r.config n = c ∧ C r.config) d → (program signature).Wp R (Fits K L)
        (Holds E K S fun r => r.config n = c ∧ C r.config) [.configureFrom n c k] d := by
    intro j
    induction j with
    | zero =>
      intro k hk hnk d hd
      refine hK.wp_branch (fun _ _ => fits_of_not_asks rfl) (fun _ _ => rfl) (fun i d hd => ?_) hd
      rw [exec, if_neg (by omega)]
      exact (hK.wp_select (fun config => config n = c ∧ C config) hd).mono
        fun d hd => hd.mono fun r h => h.2
    | succ j ih =>
      intro k hk hnk d hd
      refine hK.wp_turn (fun config => config n = c ∧ C config) _ halloc hepen (by omega) ?_
        (fun config h _ => h) (ih (k + 1) (by omega) (by omega)) hd
      rintro config v ⟨hconfig, h⟩
      exact ⟨by rwa [Function.update_of_ne hnk.ne], hC k config v hnk.le h⟩
  refine hK.wp_turn C (fun config => config n = c ∧ C config) halloc hepen hn
    (fun config v => hC n config v le_rfl) (fun config h hconfig => ⟨hconfig rfl, h⟩) ?_ hd
  exact hrest _ (n + 1) (Nat.add_sub_cancel' hn) n.lt_succ_self

/-- **`EVENT_USB_Device_ConfigurationChanged`** configures the report endpoints. -/
lemma Keeps.wp_configurationChanged (hK : Keeps R E K L) (hd : Holds E K S (fun _ => True) d) :
    (program signature).Wp R (Fits K L) (Holds E K S fun r => Ready r.config)
      eventConfigurationChanged d := by
  have hin : (program signature).Wp R (Fits K L)
      (Holds E K S fun r => r.config PAD_IN = PAD_IN_CONFIG ∧ True)
      [.configureFrom PAD_IN PAD_IN_CONFIG PAD_IN] d :=
    hK.wp_configureFrom (fun _ => True) (by decide) rfl (by decide) (fun _ _ _ _ h => h) hd
  refine hin.append fun d hd => ?_
  refine (hK.wp_configureFrom (n := PAD_OUT) (c := PAD_OUT_CONFIG)
    (fun config => config PAD_IN = PAD_IN_CONFIG) (by decide) rfl (by decide) ?_
    (hd.mono fun r h => h.1)).mono ?_
  · intro k config v hk h
    rwa [Function.update_of_ne (show PAD_IN ≠ k from (lt_of_lt_of_le (by decide) hk).ne)]
  · exact fun d hd => hd.mono fun r h => ⟨h.2, h.1⟩

/-! ### `USB_USBTask` -/

/-- `USB_Device_SetConfiguration`. When it stores the number, the endpoints are not configured yet;
at the end they are. -/
lemma Keeps.wp_setConfiguration (hK : Keeps R E K L) (r : RequestHeader)
    (hd : Holds E K S (fun r => Ready r.config) d) :
    (program signature).Wp R (Fits K L) (Holds E K S fun r => Ready r.config)
      (setConfiguration r) d := by
  unfold setConfiguration
  split_ifs with hnumber
  · exact hK.wp_nil hd
  · refine Program.Wp.append (B := Holds E K S fun _ => True) ?_ fun d hd =>
      hK.wp_configurationChanged hd
    refine Program.wp_of_class (fun a => a.tame = true ∨ a = .ifConfigurationNumber ∨
      a = .ifAddressSet ∨ (∃ v, a = .setConfigurationNumber v) ∨ ∃ state, a = .setDeviceState state)
      hK.stable ?_ ?_ ?_ (hd.mono fun _ _ => trivial)
    · rintro a d (h | rfl | rfl | ⟨v, rfl⟩ | ⟨state, rfl⟩) -
      · exact fits_of_not_asks (asks_of_tame h)
      all_goals exact fits_of_not_asks rfl
    · rintro a i d (h | rfl | rfl | ⟨v, rfl⟩ | ⟨state, rfl⟩) hd
      · obtain ⟨htame, hcalm⟩ := tame_exec signature h i d
        exact ⟨fun b hb => Or.inl (htame b hb), hK.of_calm hcalm id hd⟩
      · refine ⟨?_, hd⟩
        show ∀ b ∈ (if d.configurationNumber ≠ 0 then [Stmt.setDeviceState .configured]
          else [.ifAddressSet]), _
        split_ifs <;> simp
      · exact ⟨by simp [program, exec], hd⟩
      · exact ⟨List.forall_mem_nil _, hd.1, hK.same_env d _ rfl hd.2.1, fun _ => trivial⟩
      · exact ⟨List.forall_mem_nil _, hd.1, hK.same_env d _ rfl hd.2.1, fun _ => trivial⟩
    · refine List.forall_mem_cons.2 ⟨Or.inl rfl, List.forall_mem_cons.2 ⟨?_, ?_⟩⟩
      · exact Or.inr (Or.inr (Or.inr (Or.inl ⟨_, rfl⟩)))
      · exact List.forall_mem_cons.2 ⟨Or.inl rfl, List.forall_mem_singleton.2 (Or.inr (Or.inl rfl))⟩

lemma tame_getStatus (r : RequestHeader) : ∀ a ∈ getStatus r, a.tame = true := by
  unfold getStatus
  simp only
  split_ifs <;> exact List.all_eq_true.1 rfl

lemma tame_clearSetFeature (r : RequestHeader) : ∀ a ∈ clearSetFeature r, a.tame = true := by
  unfold clearSetFeature
  simp only
  split_ifs <;> exact List.all_eq_true.1 rfl

lemma tame_setAddress (r : RequestHeader) : ∀ a ∈ setAddress r, a.tame = true := by
  unfold setAddress
  simp only
  split_ifs <;> exact List.all_eq_true.1 rfl

lemma tame_getDescriptor (r : RequestHeader) :
    ∀ a ∈ getDescriptorStmts signature r, a.tame = true := by
  unfold getDescriptorStmts
  split <;> exact List.all_eq_true.1 rfl

/-- The `switch` over the requests. -/
lemma Keeps.wp_handler (hK : Keeps R E K L) (r : RequestHeader)
    (hd : Holds E K S (fun r => Ready r.config) d) :
    (program signature).Wp R (Fits K L) (Holds E K S fun r => Ready r.config)
      (handler signature r) d := by
  unfold handler
  simp only
  split_ifs
  · exact hK.wp_tame (tame_getStatus r) hd
  · exact hK.wp_tame (tame_clearSetFeature r) hd
  · exact hK.wp_tame (tame_setAddress r) hd
  · exact hK.wp_tame (tame_getDescriptor r) hd
  · exact hK.wp_tame (List.all_eq_true.1 rfl) hd
  · exact hK.wp_setConfiguration r hd
  · exact hK.wp_nil hd

/-- `USB_Device_ProcessControlRequest`. -/
lemma Keeps.wp_ifSETUPReceived (hK : Keeps R E K L)
    (hd : Holds E K S (fun r => Ready r.config) d) :
    (program signature).Wp R (Fits K L) (Holds E K S fun r => Ready r.config)
      [.ifSETUPReceived] d := by
  have hfits : ∀ {a : Stmt} {S : ℕ → Prop} {F : Regs → Prop}, a.asks = false →
      ∀ d, Holds E K S F d → Fits K L a d := fun ha _ _ => fits_of_not_asks ha
  refine hK.wp_branch (hfits rfl) (fun _ _ => rfl) (fun i d hd => ?_) hd
  refine hK.wp_orNothing (fun _ => ?_) hd
  refine Program.wp_stmt hK.stable hd (hfits rfl) fun i d hd => Or.inr ?_
  have hread : Holds E K S (fun r => Ready r.config) (exec signature .readHeader i d).2 :=
    hK.calm (d := d) ⟨rfl, rfl, rfl, rfl, id⟩ hd
  have hswitch : (program signature).Wp R (Fits K L) (Holds E K S fun r => Ready r.config)
      [.switchRequest] (exec signature .readHeader i d).2 := by
    refine hK.wp_branch (hfits rfl) (fun _ _ => rfl) (fun i d hd => ?_) hread
    exact hK.wp_orNothing (fun _ => hK.wp_handler _ hd) hd
  exact hswitch.cons fun d hd => hK.wp_tame (List.all_eq_true.1 rfl) hd

/-- The endpoints are configured and, if it is always known, the endpoint `p` is selected. -/
def At (L : Prop) (p : ℕ) (r : Regs) : Prop := Ready r.config ∧ (L → r.uenum = p)

/-- **`USB_USBTask`** keeps the endpoints configured, and selects the endpoint again that was
selected before. -/
lemma Keeps.wp_usbTask (hK : Keeps R E K L) (hd : Holds E K (fun _ => True) (At L p) d) :
    (program signature).Wp R (Fits K L) (Holds E K (fun _ => True) (At L p)) [.usbTask] d := by
  have hfits : ∀ {a : Stmt} {S : ℕ → Prop} {F : Regs → Prop}, a.asks = false →
      ∀ d, Holds E K S F d → Fits K L a d := fun ha _ _ => fits_of_not_asks ha
  refine hK.wp_branch (hfits rfl) (fun _ _ => rfl) (fun i d hd => ?_) hd
  refine hK.wp_orNothing (fun _ => ?_) hd
  -- `PrevEndpoint` is the endpoint `p`
  refine (hK.wp_atom (fun q => L → q = p) (fun r => Ready r.config) (hfits rfl)
    (fun i d => ⟨rfl, fun hd => ?_⟩) hd).cons fun d hd => ?_
  · refine ⟨fun hL => ?_, hK.same_env d _ rfl hd.2.1, fun hKd => ?_⟩
    · exact (hd.2.2 (hK.total hL d)).2 hL
    · exact (hd.2.2 (hK.same d { d with prevEndpoint := d.uenum } id rfl rfl hKd)).1
  refine (hK.wp_select Ready hd).cons fun d hd => ?_
  refine (hK.wp_ifSETUPReceived (hd.mono fun r h => h.2)).cons fun d hd => ?_
  refine hK.wp_atom _ _ (hfits rfl) (fun i d => ⟨rfl, fun hd => ?_⟩) hd
  refine ⟨trivial, hK.same_env d _ rfl hd.2.1, fun hKd => ⟨?_, hd.1⟩⟩
  exact hd.2.2 (hK.same d { d with uenum := d.prevEndpoint } id rfl rfl hKd)

/-! ### `PAD_Task` -/

lemma Keeps.fits (hK : Keeps R E K L) {a : Stmt} (ha : a.wants = some n)
    (hd : Holds E K S (At L n) d) : Fits K L a d := by
  refine ⟨fun h => ?_, fun hL m hm => ?_⟩
  · rw [h] at ha
    cases ha
  · obtain rfl : n = m := Option.some_inj.1 (ha.symm.trans hm)
    obtain ⟨hready, hn⟩ := hd.2.2 (hK.total hL d)
    exact ⟨hn hL, hready⟩

lemma Keeps.wp_selectReport (hK : Keeps R E K L) (hd : Holds E K S (fun r => Ready r.config) d) :
    (program signature).Wp R (Fits K L) (Holds E K S (At L n)) [.selectEndpoint n] d :=
  (hK.wp_select Ready hd).mono fun _ hd => hd.mono fun _ h => ⟨h.2, fun _ => h.1⟩

/-- A statement of `PAD_Task` that is executed at once. -/
lemma Keeps.wp_report (hK : Keeps R E K L) {a : Stmt}
    (hfits : ∀ d, Holds E K S (At L n) d → Fits K L a d)
    (hexec : ∀ i d, (exec signature a i d).1 = [] ∧ Calm d (exec signature a i d).2 ∧
      (exec signature a i d).2.uenum = d.uenum)
    (hd : Holds E K S (At L n) d) :
    (program signature).Wp R (Fits K L) (Holds E K S (At L n)) [a] d := by
  refine hK.wp_atom _ _ hfits (fun i d => ⟨(hexec i d).1, fun hd => ?_⟩) hd
  obtain ⟨-, hcalm, hu⟩ := hexec i d
  refine hK.of_calm hcalm ?_ hd
  rintro ⟨hready, hn⟩
  exact ⟨by rwa [hcalm.config], fun hL => hu.trans (hn hL)⟩

lemma Keeps.wp_sendReport (hK : Keeps R E K L) (hd : Holds E K S (At L PAD_IN) d) :
    (program signature).Wp R (Fits K L) (Holds E K S (At L PAD_IN)) [.sendReport] d :=
  hK.wp_report (fun _ => hK.fits rfl)
    (fun _ _ => ⟨rfl, ⟨rfl, rfl, rfl, config_update_eq rfl, id⟩, rfl⟩) hd

lemma exec_waitUntilReady (signature : ℕ → UInt8) (i : Answer) (d : Device) :
    exec signature .waitUntilReady i d = ([.writeLoop], d) ∨
      i.yes = false ∧ exec signature .waitUntilReady i d = ([.waitUntilReady], d) ∨
      i.yes = false ∧ exec signature .waitUntilReady i d = ([], d) := by
  simp only [exec, orNothing]
  split_ifs <;> simp_all

lemma exec_writeLoop (signature : ℕ → UInt8) (i : Answer) (d : Device) :
    exec signature .writeLoop i d = ([.writeByte], d) ∨
      i.yes = false ∧
        exec signature .writeLoop i d = ([.sendReport, .usbTask] ++ [.waitUntilReady], d) := by
  simp only [exec]
  split_ifs <;> simp_all

/-- **`Endpoint_Write_Stream_LE`**, which may run `USB_USBTask`. -/
lemma Keeps.wp_writeStream (hK : Keeps R E K L)
    (hd : Holds E K (fun _ => True) (At L PAD_IN) d) :
    (program signature).Wp R (Fits K L) (Holds E K (fun _ => True) (At L PAD_IN))
      [.waitUntilReady] d := by
  refine Program.wp_loop (fun a => a = .waitUntilReady ∨ a = .writeLoop) hK.stable ?_ ?_
    (Or.inl rfl) hd
  · rintro a d (rfl | rfl) hd <;> exact hK.fits rfl hd
  · rintro a i d (rfl | rfl) hd
    · show (∃ bs b, (exec signature .waitUntilReady i d).1 = _ ∧ _ ∧ _) ∨
        (program signature).Wp _ _ _ (exec signature .waitUntilReady i d).1 _
      rcases exec_waitUntilReady signature i d with h | ⟨-, h⟩ | ⟨-, h⟩ <;> rw [h]
      · exact Or.inl ⟨[], .writeLoop, rfl, Or.inr rfl, hK.wp_nil hd⟩
      · exact Or.inl ⟨[], .waitUntilReady, rfl, Or.inl rfl, hK.wp_nil hd⟩
      · exact Or.inr (hK.wp_nil hd)
    · show (∃ bs b, (exec signature .writeLoop i d).1 = _ ∧ _ ∧ _) ∨
        (program signature).Wp _ _ _ (exec signature .writeLoop i d).1 _
      rcases exec_writeLoop signature i d with h | ⟨-, h⟩ <;> rw [h]
      · exact Or.inr (hK.wp_report (fun _ => hK.fits rfl)
          (fun _ _ => ⟨rfl, ⟨rfl, rfl, rfl, config_update_eq rfl, id⟩, rfl⟩) hd)
      · refine Or.inl ⟨[.sendReport, .usbTask], .waitUntilReady, rfl, Or.inl rfl, ?_⟩
        exact (hK.wp_sendReport hd).cons fun d hd => hK.wp_usbTask hd

/-- `SendNextReport`. -/
lemma Keeps.wp_sendNextReport (hK : Keeps R E K L)
    (hd : Holds E K (fun _ => True) (fun r => Ready r.config) d) :
    (program signature).Wp R (Fits K L) (Holds E K (fun _ => True) fun r => Ready r.config)
      [.ifStateSend] d := by
  refine hK.wp_branch (fun _ _ => fits_of_not_asks rfl) (fun _ _ => rfl) (fun i d hd => ?_) hd
  refine hK.wp_orNothing (fun _ => ?_) hd
  refine (hK.wp_selectReport hd).cons fun d hd => ?_
  refine Program.Wp.cons (B := Holds E K (fun _ => True) (At L PAD_IN)) ?_ fun d hd => ?_
  · refine hK.wp_branch (fun _ => hK.fits rfl) (fun _ _ => rfl) (fun i d hd => ?_) hd
    refine hK.wp_orNothing (fun _ => ?_) hd
    exact (hK.wp_writeStream hd).cons fun d hd => hK.wp_sendReport hd
  · refine (hK.wp_report (fun _ _ => fits_of_not_asks rfl)
      (fun _ _ => ⟨rfl, ⟨rfl, rfl, rfl, rfl, id⟩, rfl⟩) hd).mono fun _ hd => hd.mono fun _ h => h.1

/-- `ReceiveNextReport`. -/
lemma Keeps.wp_receiveNextReport (hK : Keeps R E K L) (hd : Holds E K S (At L PAD_OUT) d) :
    (program signature).Wp R (Fits K L) (Holds E K S (At L PAD_OUT)) [.ifOUTReceived] d := by
  refine hK.wp_branch (fun _ => hK.fits rfl) (fun _ _ => rfl) (fun i d hd => ?_) hd
  refine hK.wp_orNothing (fun _ => ?_) hd
  refine Program.Wp.cons (B := Holds E K S (At L PAD_OUT)) ?_ fun d hd => ?_
  · refine hK.wp_branch (fun _ => hK.fits rfl) (fun _ _ => rfl) (fun i d hd => ?_) hd
    refine hK.wp_orNothing (fun _ => ?_) hd
    refine (hK.wp_report (fun _ => hK.fits rfl)
      (fun _ _ => ⟨rfl, ⟨rfl, rfl, rfl, rfl, id⟩, rfl⟩) hd).cons fun d hd => ?_
    refine Program.wp_stmt hK.stable hd (fun _ _ => fits_of_not_asks rfl) fun i d hd => ?_
    cases hyes : i.yes with
    | true =>
      right
      simp only [program, exec, await, hyes, if_true]
      exact hK.wp_nil hd
    | false => exact Or.inl ⟨by simp [program, exec, await, hyes], hd⟩
  · exact hK.wp_report (fun _ => hK.fits rfl)
      (fun _ _ => ⟨rfl, ⟨rfl, rfl, rfl, rfl, id⟩, rfl⟩) hd

/-- What `PAD_Task` does when the device is configured. -/
lemma Keeps.wp_reports (hK : Keeps R E K L)
    (hd : Holds E K (fun _ => True) (fun r => Ready r.config) d) :
    (program signature).Wp R (Fits K L) (Holds E K (fun _ => True) fun r => Ready r.config)
      [.ifStateSend, .selectEndpoint PAD_OUT, .ifOUTReceived] d := by
  refine (hK.wp_sendNextReport hd).cons fun d hd => ?_
  refine (hK.wp_selectReport hd).cons fun d hd => ?_
  exact (hK.wp_receiveNextReport hd).mono fun _ hd => hd.mono fun _ h => h.1

/-- **`PAD_Task`.** -/
lemma Keeps.wp_padTask (hK : Keeps R E K L)
    (hd : Holds E K (fun _ => True) (fun r => Ready r.config) d) :
    (program signature).Wp R (Fits K L) (Holds E K (fun _ => True) fun r => Ready r.config)
      [.padTask] d := by
  refine hK.wp_branch (fun d hd => ?_) (fun _ _ => rfl) (fun i d hd => ?_) hd
  · exact ⟨fun _ hKd => hd.2.2 hKd, fun _ n hn => by cases hn⟩
  · exact hK.wp_orNothing (fun _ => hK.wp_reports hd) hd

/-- **The main loop.** -/
lemma Keeps.wp_main (hK : Keeps R E K L)
    (hd : Holds E K (fun _ => True) (fun r => Ready r.config) d) :
    (program signature).Wp R (Fits K L) (Holds E K (fun _ => True) fun r => Ready r.config)
      [.usbTask, .padTask] d := by
  have husb : Holds E K (fun _ => True) (At L d.uenum) d :=
    ⟨trivial, hd.2.1, fun hKd => ⟨hd.2.2 hKd, fun _ => rfl⟩⟩
  exact (hK.wp_usbTask husb).cons fun d hd => hK.wp_padTask (hd.mono fun r h => h.1)

end Outline

/-! ### In which runs it is known -/

/-- The device is configured, or is going to be when it wakes up. -/
def Live (d : Device) : Prop :=
  d.eorsti = false ∧ (d.deviceState = .configured ∨ d.configurationNumber ≠ 0)

lemma keeps_live : Keeps (fun _ _ => True) (fun _ => True) Live False where
  env := fun _ _ _ _ => trivial
  back := by
    rintro e d - - ⟨hreset, hlive⟩
    cases e with
    | usbGen suspi wakeupi cfgok =>
      cases h : d.eorsti with
      | true =>
        obtain ⟨_, _, hd, -⟩ := usbGen_of_reset suspi wakeupi cfgok h
        simp [interrupt, hd] at hlive
      | false =>
        obtain ⟨_, _, state, hd, hstate⟩ := usbGen_of_not_reset suspi wakeupi cfgok h
        simp only [interrupt, hd] at hlive
        refine ⟨⟨h, hlive.elim hstate Or.inr⟩, ?_⟩
        simp only [interrupt, hd]
        rfl
    | reset config => cases hreset
    | _ => exact ⟨⟨hreset, hlive⟩, rfl⟩
  same_env := fun _ _ _ _ => trivial
  same := by
    rintro d d' hstate hnumber hreset ⟨h, hlive⟩
    exact ⟨hreset ▸ h, hlive.imp hstate (fun h => hnumber ▸ h)⟩
  total := False.elim

/-- The bus is not reset. -/
def NoReset (e : Interrupt) (_ : Device) : Prop := ∀ config, e ≠ .reset config

/-- No reset, no interrupt that looks at one. -/
lemma keeps_without_reset : Keeps NoReset (fun d => d.eorsti = false) (fun _ => True) True where
  env := by
    intro e d he h
    cases e with
    | usbGen suspi wakeupi cfgok =>
      obtain ⟨_, _, _, hd, -⟩ := usbGen_of_not_reset suspi wakeupi cfgok h
      rw [interrupt, hd]
      exact h
    | reset config => exact absurd rfl (he config)
    | _ => exact h
  back := by
    intro e d he h _
    refine ⟨trivial, ?_⟩
    cases e with
    | usbGen suspi wakeupi cfgok =>
      obtain ⟨_, _, _, hd, -⟩ := usbGen_of_not_reset suspi wakeupi cfgok h
      rw [interrupt, hd]
      rfl
    | reset config => exact absurd rfl (he config)
    | _ => rfl
  same_env := fun d d' h hd => h.trans hd
  same := fun _ _ _ _ _ _ => trivial
  total := fun _ _ => trivial

section Run

variable {signature : ℕ → UInt8} {d₀ : Device} {c c' : Program.Config Device Stmt}
  {es es₁ : List (Program.Event Answer Interrupt)} {as : List Stmt}

/-- **Configured endpoints.** Whenever `PAD_Task` is about to look at the state of the device, and
the device is configured with no reset pending, the report endpoints are configured. -/
theorem run_ready (hboot : Booted d₀)
    (hrun : (program signature).machine.run ⟨[.usbTask, .padTask], d₀⟩ es = some c)
    (htodo : c.todo = .padTask :: as) (hlive : Live c.state) : Ready c.state.regs.config := by
  let Inv := Holds (fun _ => True) Live (fun _ => True) fun r => Ready r.config
  have hbody : ∀ d, Inv d → (program signature).Wp (fun _ _ => True) (Fits Live False) Inv
      [.usbTask, .padTask] d := fun d hd => keeps_live.wp_main hd
  have hinit : Inv d₀ := by
    refine ⟨trivial, trivial, fun ⟨_, h⟩ => ?_⟩
    rcases h with h | h
    · exact absurd (hboot.deviceState.symm.trans h) (by decide)
    · exact absurd hboot.configurationNumber h
  have hwp : (program signature).Wp (fun _ _ => True) (Fits Live False) Inv c.todo c.state := by
    refine Program.run_wp hbody (hbody d₀ hinit) ?_ hrun
    rintro ⟨c, e⟩ -
    cases e <;> trivial
  rw [htodo] at hwp
  exact hwp.guard.1 rfl hlive

/-- If a statement of `PAD_Task` works with an endpoint, this is the one that it wants, and both
report endpoints are configured. -/
def Works (a : Stmt) (d : Device) : Prop :=
  ∀ n, a.wants = some n → d.uenum = n ∧ Ready d.regs.config

/-- **A call of `PAD_Task`**, with no reset pending, as long as there is none. -/
theorem run_wp_padTask (hboot : Booted d₀)
    (hrun : (program signature).machine.run ⟨[.usbTask, .padTask], d₀⟩ es = some c)
    (htodo : c.todo = .padTask :: as) (hreset : c.state.eorsti = false) :
    (program signature).Wp NoReset Works (fun _ => True) [.padTask] c.state := by
  by_cases hlive : Live c.state
  · have hready := run_ready hboot hrun htodo hlive
    exact (keeps_without_reset.wp_padTask ⟨trivial, hreset, fun _ => hready⟩).weaken
      (fun a d h => h.2 trivial) fun _ _ => trivial
  · -- the device is not configured, and stays so until `PAD_Task` looks at it
    have hstable : (program signature).Stable NoReset fun d => d.eorsti = false ∧ ¬ Live d := by
      intro e d he ⟨hreset, hlive⟩
      refine ⟨keeps_without_reset.env e d he hreset, fun h => hlive ?_⟩
      exact (keeps_live.back e d trivial trivial h).1
    refine Program.wp_stmt hstable ⟨hreset, hlive⟩ (fun d _ n hn => ?_) fun i d hd => Or.inr ?_
    · cases hn
    · have hstate : d.deviceState ≠ .configured := fun h => hd.2 ⟨hd.1, Or.inl h⟩
      have hexec : (program signature).exec .padTask i d = ([], d) := by
        simp [program, exec, orNothing, hstate]
      rw [hexec]
      exact Program.wp_nil hstable hd fun _ _ => trivial

/-- **`PAD_Task` works with its own endpoints.** When it looks at the state of the device and no
reset is pending, then, as long as there is no reset, whenever one of its statements works with an
endpoint, this is the one that it wants, and both report endpoints are configured. -/
theorem pad_works_with_its_endpoints (hboot : Booted d₀)
    (hrun : (program signature).machine.run ⟨[.usbTask, .padTask], d₀⟩ es = some c)
    (htodo : c.todo = [.padTask]) (hreset : c.state.eorsti = false)
    (hrun' : (program signature).machine.run c es₁ = some c')
    (hno : ∀ config, .interrupt (.reset config) ∉ es₁)
    (hbusy : (program signature).machine.Along (fun c _ => c.todo ≠ []) c es₁)
    {a : Stmt} {as : List Stmt} {n : ℕ} (ha : c'.todo = a :: as) (hn : a.wants = some n) :
    c'.state.uenum = n ∧ (c'.state.endpoints PAD_IN).config = PAD_IN_CONFIG ∧
      (c'.state.endpoints PAD_OUT).config = PAD_OUT_CONFIG := by
  have hwp : (program signature).Wp NoReset Works (fun _ => True) c.todo c.state := by
    rw [htodo]
    exact run_wp_padTask hboot hrun htodo hreset
  have hbusy' : (program signature).machine.Along (fun c e =>
      Program.Meets NoReset c e ∧ c.todo ≠ []) c es₁ := by
    intro x hx
    refine ⟨?_, hbusy x hx⟩
    obtain ⟨c, e⟩ := x
    cases e with
    | main i => trivial
    | interrupt e =>
      rintro config rfl
      exact hno config (Machine.mem_of_mem_trace hx)
  have hguard := Program.run_wp_of_busy hwp hbusy' hrun'
  rw [ha] at hguard
  exact hguard.guard n hn

end Run

/-! ### A report on its way -/

section Example

/-- The device as it starts. -/
def bootDevice : Device where
  deviceState := .unattached
  configurationNumber := 0
  remoteWakeupEnabled := false
  controlRequest := .zero
  prevEndpoint := 0
  currentStatus := 0
  dataSend := 0
  stateSend := false
  ledReport := 0
  uadd := 0
  adden := false
  suspe := true
  wakeupe := false
  uenum := 0
  endpoints := fun _ => ⟨⟨0, 0, false⟩, false, []⟩
  setup := none
  eorsti := false

def busReset : List (Program.Event Answer Interrupt) :=
  [.interrupt (.reset fun _ => ⟨0, 0, false⟩), .interrupt (.usbGen false false fun _ => true)]

/-- The bus is reset, and the host sets the configuration. -/
def enumeration : List (Program.Event Answer Interrupt) :=
  busReset ++ .interrupt (.setup ⟨0, REQ_SetConfiguration, 1, 0, 0⟩) ::
    List.replicate 51 (.main {})

/-- A byte is received, and `PAD_Task` comes to the selection of its endpoint. -/
def arrival : List (Program.Event Answer Interrupt) :=
  .interrupt (.usart1Rx 48) :: List.replicate 3 (.main {})

def writing : List (Program.Event Answer Interrupt) := arrival ++ List.replicate 3 (.main {})

/-- The byte is written to the IN endpoint. -/
theorem pad_works_with_its_endpoints_in :
    ∃ c c',
      (program fun _ => 0).machine.run ⟨[.usbTask, .padTask], bootDevice⟩ enumeration = some c ∧
      (program fun _ => 0).machine.run c writing = some c' ∧
      c'.todo.head? = some .writeByte ∧ c'.state.uenum = PAD_IN := by
  have h : ((program fun _ => 0).machine.run ⟨[.usbTask, .padTask], bootDevice⟩ enumeration).map
      (fun c => (c.todo, c.state.eorsti,
        ((program fun _ => 0).machine.run c writing).map fun c' => c'.todo.head?,
        decide (∀ x ∈ (program fun _ => 0).machine.trace c writing, x.1.todo ≠ []))) =
      some ([.padTask], false, some (some .writeByte), true) := by decide +kernel
  obtain ⟨c, hrun, hc⟩ := Option.map_eq_some_iff.1 h
  obtain ⟨htodo, hc⟩ := Prod.mk_inj.1 hc
  obtain ⟨hreset, hc⟩ := Prod.mk_inj.1 hc
  obtain ⟨hrun', htrace⟩ := Prod.mk_inj.1 hc
  obtain ⟨c', hrun', hhead⟩ := Option.map_eq_some_iff.1 hrun'
  obtain ⟨as, has⟩ := List.head?_eq_some_iff.1 hhead
  have hbusy : ∀ x ∈ (program fun _ => 0).machine.trace c writing, x.1.todo ≠ [] :=
    of_decide_eq_true htrace
  refine ⟨c, c', hrun, hrun', hhead, ?_⟩
  exact (pad_works_with_its_endpoints ⟨rfl, rfl, rfl, fun _ => rfl⟩ hrun htodo hreset hrun'
    (by simp [writing, arrival]) hbusy has rfl).1

/-- If there is a reset after the selection, the byte is written to the control endpoint. -/
example : ((program fun _ => 0).machine.run ⟨[.usbTask, .padTask], bootDevice⟩
    (enumeration ++ (arrival ++ (busReset ++ List.replicate 3 (.main {}))))).map
      (fun c => (c.todo.head?, c.state.uenum)) = some (some .writeByte, 0) := by decide +kernel

end Example

end UsbJoystick.Pad.Firmware
