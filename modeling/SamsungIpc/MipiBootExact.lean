import SamsungIpc.BootExact

/-! What the boots over MIPI do: the boot ROM gets the PSI on one device, what the PSI has started gets the
rest on another one. -/

namespace SamsungIpc

open Effect Booting ModemBoot

/-- What is sent of the image behind the PSI. -/
def mipiHead (layout : ImageLayout) (image : Bytes) : Language DeviceWrite :=
  (UploadRoutine.format .ilp32 .xmm626MipiEbl).uploads (layout.ebl.of image) *
    (mipiPortConfig *
      (wrote (xmm626MipiFrame xmm626CommandSecStart (layout.secStart.of image) false) *
        mipiTransfer xmm626FirmwareAddress (layout.firmware.of image)))

/-- The NV data, what is sent behind them, and the commands that start the modem. -/
def mipiTail (nvData : Bytes) (mps : Language DeviceWrite) : Language DeviceWrite :=
  mipiTransfer xmm626NvDataAddress nvData *
    (mps * (wrote (xmm626MipiFrame xmm626CommandSecEnd secEndData true) *
      wrote (xmm626MipiFrame xmm626CommandHwReset hwResetData true)))

/-- The first half of the upload: what is sent of the image. -/
def mipiImageUpload (layout : ImageLayout) (image : Bytes) (locals : BootLocals) : Booting Unit := do
  send locals fun fd => some <$> xmm626MipiEblSend .ilp32 fd (layout.ebl.of image)
  send locals fun fd => ModemBoot.xmm626MipiPortConfigSend .ilp32 fd
  send locals fun fd => ModemBoot.xmm626MipiSecStartSend .ilp32 fd (layout.secStart.of image)
  send locals fun fd => ModemBoot.xmm626MipiFirmwareSend .ilp32 fd (layout.firmware.of image)

/-- The second half, which starts with the NV data. -/
def mipiModemStart (client : Option IpcClient) (mpsStage : BootLocals → Booting Unit)
    (locals : BootLocals) : Booting Unit := do
  stage locals (nvDataSend locals client fun fd data =>
    ModemBoot.xmm626MipiModemDataSend .ilp32 fd data xmm626NvDataAddress)
  mpsStage locals
  send locals fun fd => ModemBoot.xmm626MipiSecEndSend .ilp32 fd
  send locals fun fd => ModemBoot.xmm626MipiHwResetSend .ilp32 fd

/-- What a device sends between the NV data and the end, and how it ends its boot. -/
structure EndsWith (world : BootWorld) (mpsStage finish : BootLocals → Booting Unit)
    (mps : Language DeviceWrite) (word : Int → List ModemEvent) : Prop where
  mps_performs : ∀ locals : BootLocals, 0 ≤ locals.modemBootFd → Performs world (mpsStage locals)
    (Language.map (.wrote locals.modemBootFd) mps) fun _ => True
  finish_performs : ∀ locals : BootLocals, 0 ≤ locals.modemBootFd →
    Performs world (finish locals) (once (word locals.modemBootFd)) fun _ => True

section Mipi

variable {world : BootWorld} {layout : ImageLayout} {locals : BootLocals} {nvData : Bytes}
  {mpsStage finish : BootLocals → Booting Unit} {mps : Language DeviceWrite} {word : Int → List ModemEvent}

theorem mipiUpload_eq (client : Option IpcClient) (image : Bytes) :
    mipiUpload client layout image mpsStage locals =
      mipiImageUpload layout image locals >>= fun _ => mipiModemStart client mpsStage locals := by
  simp only [mipiUpload, mipiImageUpload, mipiModemStart, bind_assoc]

theorem performs_mipiImageUpload (himage : world.Provides layout) (hfd : 0 ≤ locals.modemBootFd) :
    Performs world (mipiImageUpload layout world.image locals)
      (Language.map (.wrote locals.modemBootFd) (mipiHead layout world.image)) fun _ => True := by
  obtain ⟨hlayout, hsize⟩ := himage
  have hebl := layout.ebl.length_of (hsize ▸ hlayout.ebl_fits)
  have hsec := layout.secStart.length_of (hsize ▸ hlayout.secStart_fits)
  have hsecLe := hlayout.secStart_le
  have heblNe := ImageSection.of_ne_nil hlayout.ebl_pos (hsize ▸ hlayout.ebl_fits)
  have hsecNe := ImageSection.of_ne_nil hlayout.secStart_pos (hsize ▸ hlayout.secStart_fits)
  have hfirmwareNe := ImageSection.of_ne_nil hlayout.firmware_pos (hsize ▸ hlayout.firmware_fits)
  simp only [mipiHead, map_mul]
  refine (performs_send (sends_xmm626MipiEblSend hfd heblNe (hebl ▸ hlayout.ebl_le))).bind fun _ _ => ?_
  refine (performs_send (sends_xmm626MipiPortConfigSend hfd)).bind fun _ _ => ?_
  refine (performs_send (sends_xmm626MipiSecStartSend hfd hsecNe (by omega))).bind fun _ _ => ?_
  exact performs_send (sends_xmm626MipiFirmwareSend hfd hfirmwareNe)

theorem performs_mipiUpload (himage : world.Provides layout) (hends : EndsWith world mpsStage finish mps word)
    (hfd : 0 ≤ locals.modemBootFd) (hnv : world.nvData = some nvData) :
    Performs world (mipiUpload world.cfg.client layout world.image mpsStage locals)
      (Language.map (.wrote locals.modemBootFd) (mipiHead layout world.image * mipiTail nvData mps))
      fun _ => True := by
  have htransfer : Sends (ModemBoot.xmm626MipiModemDataSend .ilp32 locals.modemBootFd (some nvData)
      xmm626NvDataAddress) (mipiTransfer xmm626NvDataAddress nvData) :=
    sends_xmm626MipiModemDataSend hfd (BootWorld.nvData_ne_nil hnv) _
  rw [mipiUpload_eq, map_mul, mipiTail, map_mul, map_mul, map_mul]
  refine (performs_mipiImageUpload himage hfd).bind fun _ _ => ?_
  refine (performs_nvDataSend hfd hnv htransfer).bind fun _ _ => ?_
  refine (hends.mps_performs locals hfd).bind fun _ _ => ?_
  refine (performs_send (sends_xmm626MipiSecEndSend hfd)).bind fun _ _ => ?_
  exact performs_send (sends_xmm626MipiHwResetSend hfd)

/-- Without NV data, nothing is sent but parts of the image. -/
theorem strays_mipiUpload (himage : world.Provides layout) (hfd : 0 ≤ locals.modemBootFd)
    (hnv : world.nvData = none) :
    Strays world.environment CutShort (mipiUpload world.cfg.client layout world.image mpsStage locals)
      (Language.map (.wrote locals.modemBootFd) (mipiHead layout world.image)) := by
  rw [mipiUpload_eq]
  exact (performs_mipiImageUpload himage hfd).bind_abandons fun _ _ => (abandons_nvDataSend hnv).bind

/-- The MPS data are sent if they can be read. -/
theorem performs_maguroMpsStage (hfd : 0 ≤ locals.modemBootFd) :
    Performs world (maguroMpsStage locals) (Language.map (.wrote locals.modemBootFd)
      (mipiTransfer xmm626MpsDataAddress world.mpsData.val)) fun _ => True := by
  have hmps : world.mpsData.val ≠ [] :=
    List.ne_nil_of_length_pos (by rw [world.mpsData.property]; decide)
  have hdata : world.Answers (.fileDataRead maguroMpsDataDevice maguroMpsDataSize maguroMpsDataSize 0)
      (some world.mpsData.val) := by
    rintro _ ⟨⟩
    rfl
  have hsend : Performs world (send locals fun fd =>
      ModemBoot.xmm626MipiMpsDataSend .ilp32 fd (some world.mpsData.val)) (Language.map
        (.wrote locals.modemBootFd) (mipiTransfer xmm626MpsDataAddress world.mpsData.val)) fun _ => True :=
    performs_send (sends_xmm626MipiMpsDataSend hfd hmps)
  rw [maguroMpsStage, ← one_mul (Language.map _ _)]
  refine (performs_call (fun _ => rfl) ⟨some world.mpsData.val, hdata⟩).bind_or_abandon
    (fun answer hanswer => ?_) ⟨some world.mpsData.val, [], runs_bootCall.mpr ⟨hdata, rfl⟩, hsend⟩
  cases answer with
  | none => exact .inl (.throw _ _)
  | some data =>
      obtain rfl := hanswer data rfl
      exact .inr hsend

end Mipi

/-- The devices whose modem is booted over MIPI. -/
inductive MipiDevice where
  | maguro
  | piranha

namespace MipiDevice

def imageDevice : MipiDevice → Path
  | maguro => maguroModemImageDevice
  | piranha => piranhaModemImageDevice

def layout : MipiDevice → ImageLayout
  | maguro => galaxys2Image
  | piranha => piranhaImage

def mpsStage : MipiDevice → BootLocals → Booting Unit
  | maguro => maguroMpsStage
  | piranha => fun _ => pure ()

def finish : MipiDevice → BootLocals → Booting Unit
  | maguro => maguroFinish
  | piranha => fun _ => pure ()

def boot : MipiDevice → Option IpcClient → Prog ModemCall (Option Int)
  | maguro => maguroBoot
  | piranha => piranhaBoot

theorem boot_eq (device : MipiDevice) :
    device.boot = mipiBoot device.imageDevice device.layout device.mpsStage device.finish := by
  cases device <;> rfl

theorem layout_sendable (device : MipiDevice) : device.layout.Sendable := by
  cases device with
  | maguro => exact galaxys2Image_sendable
  | piranha => exact piranhaImage_sendable

/-- Only the Galaxy Nexus sends MPS data. -/
def mpsWords (device : MipiDevice) (world : BootWorld) : Language DeviceWrite :=
  match device with
  | maguro => mipiTransfer xmm626MpsDataAddress world.mpsData.val
  | piranha => 1

def finishWord : MipiDevice → Int → List ModemEvent
  | maguro => fun bootFd => [.controlled bootFd .modemBootOff true]
  | piranha => fun _ => []

theorem endsWith (device : MipiDevice) (world : BootWorld) :
    EndsWith world device.mpsStage device.finish (device.mpsWords world) device.finishWord := by
  cases device with
  | maguro =>
      constructor
      · exact fun locals hfd => performs_maguroMpsStage hfd
      · intro locals hfd
        refine (performs_statusWait hfd rfl 4 rfl 99).quiet_bind fun _ _ => ?_
        exact performs_controlRequest hfd rfl
  | piranha =>
      constructor
      · intro locals _
        rw [mpsWords, map_one]
        exact .pure trivial
      · intro locals _
        exact .pure trivial

variable (device : MipiDevice) (world : BootWorld)

/-- What a boot does before it sends the EBL. -/
def openingWords : Language ModemEvent :=
  once [.opened device.imageDevice (world.fdOf device.imageDevice),
      .opened xmm626SecModemBoot0Device (world.fdOf xmm626SecModemBoot0Device),
      .controlled (world.fdOf xmm626SecModemBoot0Device) .modemOff true,
      .controlled (world.fdOf xmm626SecModemBoot0Device) .modemOn true] *
    (Language.map (.wrote (world.fdOf xmm626SecModemBoot0Device))
      ((UploadRoutine.format .ilp32 .xmm626MipiPsi).uploads (device.layout.psi.of world.image)) *
    once [.opened xmm626SecModemBoot1Device (world.fdOf xmm626SecModemBoot1Device)])

/-- What a boot does that succeeds. -/
def bootWords (nvData : Bytes) : Language ModemEvent :=
  device.openingWords world *
    (Language.map (.wrote (world.fdOf xmm626SecModemBoot1Device))
      (mipiHead device.layout world.image * mipiTail nvData (device.mpsWords world)) *
    once (device.finishWord (world.fdOf xmm626SecModemBoot1Device)))

/-- What a boot does without NV data. -/
def headWords : Language ModemEvent :=
  device.openingWords world *
    Language.map (.wrote (world.fdOf xmm626SecModemBoot1Device)) (mipiHead device.layout world.image)

/-- What comes before the EBL. -/
def opening (device : MipiDevice) : Booting (Bytes × BootLocals) := do
  let (image, locals) ← openImage device.imageDevice device.layout.imageSize
  let locals ← openBoot xmm626SecModemBoot0Device locals
  require locals (xmm626KernelSmdk4412Power locals.modemBootFd false)
  require locals (xmm626KernelSmdk4412Power locals.modemBootFd true)
  send locals fun fd => some <$> xmm626MipiPsiSend fd (device.layout.psi.of image)
  Booting.call (.close locals.modemBootFd)
  let locals ← openBoot xmm626SecModemBoot1Device locals
  pure (image, locals)

def body (device : MipiDevice) (client : Option IpcClient) : Booting BootLocals :=
  device.opening >>= fun opened => do
    mipiUpload client device.layout opened.1 device.mpsStage opened.2
    device.finish opened.2
    pure opened.2

theorem boot_client {client : Option IpcClient} (hclient : ¬client.isNone = true) :
    device.boot client = bootEnd device.layout.imageSize (device.body client) := by
  rw [boot_eq, mipiBoot, if_neg hclient, body, opening]
  simp only [bind_assoc]
  refine congrArg (bootEnd _) (bind_congr fun result => ?_)
  obtain ⟨image, locals⟩ := result
  simp only [pure_bind]

/-- The variables behind the opening. -/
def openedLocals : BootLocals :=
  { world.mappedLocals (world.fdOf device.imageDevice) with
    modemBootFd := world.fdOf xmm626SecModemBoot1Device }

variable {device} {world} {nvData : Bytes}

theorem provides (hsize : world.image.length = device.layout.imageSize) :
    world.Provides device.layout := ⟨device.layout_sendable, hsize⟩

theorem performs_opening (hsize : world.image.length = device.layout.imageSize) :
    Performs world device.opening (device.openingWords world) fun opened =>
      opened = (world.image, device.openedLocals world) := by
  have hlayout := device.layout_sendable
  have hpsi := device.layout.psi.length_of (hsize ▸ hlayout.psi_fits)
  have hpsiNe := ImageSection.of_ne_nil hlayout.psi_pos (hsize ▸ hlayout.psi_fits)
  have hboot : (0 : Int) ≤ world.fdOf xmm626SecModemBoot0Device := Int.natCast_nonneg _
  have hclose : Performs world (Booting.call (.close (world.fdOf xmm626SecModemBoot0Device))) 1
      (world.Answers (.close (world.fdOf xmm626SecModemBoot0Device))) :=
    performs_call (fun _ => rfl) ⟨(), trivial⟩
  have hwords : device.openingWords world =
      once [.opened device.imageDevice (world.fdOf device.imageDevice)] *
        (once [.opened xmm626SecModemBoot0Device (world.fdOf xmm626SecModemBoot0Device)] *
          (once [.controlled (world.fdOf xmm626SecModemBoot0Device) .modemOff true] *
            (once [.controlled (world.fdOf xmm626SecModemBoot0Device) .modemOn true] *
              (Language.map (.wrote (world.fdOf xmm626SecModemBoot0Device))
                ((UploadRoutine.format .ilp32 .xmm626MipiPsi).uploads
                  (device.layout.psi.of world.image)) *
                once [.opened xmm626SecModemBoot1Device (world.fdOf xmm626SecModemBoot1Device)])))) := by
    simp only [openingWords, ← mul_assoc, once_mul_once]
    rfl
  rw [hwords]
  refine (performs_openImage _ _).bind fun result hresult => ?_
  subst hresult
  refine (performs_openBoot _ _).bind fun bootLocals hlocals => ?_
  subst hlocals
  refine (performs_xmm626KernelSmdk4412Power hboot false).bind fun _ _ => ?_
  refine (performs_xmm626KernelSmdk4412Power hboot true).bind fun _ _ => ?_
  refine (performs_send (sends_xmm626MipiPsiSend hboot hpsiNe (hpsi ▸ hlayout.psi_le))).bind
    fun _ _ => ?_
  refine hclose.quiet_bind fun _ _ => ?_
  refine (performs_openBoot _ _).bind_quiet fun otherLocals hlocals => ?_
  subst hlocals
  exact .pure rfl

/-- A boot over MIPI restarts the modem, sends it the PSI on the first device and, on the second one, the
other parts of its image, the NV data that can be recovered and the MPS data, and starts it, in this order:
a boot that fails has done a start of that. -/
theorem boots_bootWords (hsize : world.image.length = device.layout.imageSize)
    (hnv : world.nvData = some nvData) :
    Boots world (device.boot world.cfg.client) (device.bootWords world nvData) := by
  have hends := device.endsWith world
  have hboot : (0 : Int) ≤ (device.openedLocals world).modemBootFd := Int.natCast_nonneg _
  rw [boot_client _ world.cfg.client_not_isNone]
  refine boots_bootEnd (P := fun _ => True) ((performs_opening hsize).bind fun opened hopened => ?_)
  subst hopened
  refine (performs_mipiUpload (provides hsize) hends hboot hnv).bind fun _ _ => ?_
  exact (hends.finish_performs _ hboot).bind_quiet fun _ _ => .pure trivial

/-- If no NV data can be recovered, no boot over MIPI succeeds, and none gets behind the firmware. -/
theorem neverBoots_headWords (hsize : world.image.length = device.layout.imageSize)
    (hnv : world.nvData = none) :
    NeverBoots world (device.boot world.cfg.client) (device.headWords world) := by
  have hboot : (0 : Int) ≤ (device.openedLocals world).modemBootFd := Int.natCast_nonneg _
  rw [boot_client _ world.cfg.client_not_isNone]
  refine neverBoots_bootEnd ((performs_opening hsize).bind_strays ?_ fun opened hopened => ?_)
  · exact (performs_mipiImageUpload (provides hsize) hboot).exists_mem
  · subst hopened
    exact (strays_mipiUpload (provides hsize) hboot hnv).bind

end MipiDevice

end SamsungIpc
