import SamsungIpc.BootEvents
import SamsungIpc.NvRedundancy

/-! What the boots of the devices with an XMM626 do, in which order, and what they do of it if one of their
calls fails. -/

namespace SamsungIpc

open Effect Booting ModemBoot

/-! ### Images -/

/-- The parts of an image have the sizes that their senders can send. -/
structure ImageLayout.Sendable (layout : ImageLayout) : Prop where
  psi_pos : 0 < layout.psi.size
  psi_le : layout.psi.size ≤ 2 ^ 16 - 1
  psi_fits : layout.psi.offset + layout.psi.size ≤ layout.imageSize
  ebl_pos : 0 < layout.ebl.size
  ebl_le : layout.ebl.size ≤ 2 ^ 32 - 2
  ebl_fits : layout.ebl.offset + layout.ebl.size ≤ layout.imageSize
  secStart_pos : 0 < layout.secStart.size
  secStart_le : layout.secStart.size ≤ 0x4000
  secStart_fits : layout.secStart.offset + layout.secStart.size ≤ layout.imageSize
  firmware_pos : 0 < layout.firmware.size
  firmware_fits : layout.firmware.offset + layout.firmware.size ≤ layout.imageSize

theorem i9300Image_sendable : i9300Image.Sendable := by
  constructor <;> decide

theorem galaxys2Image_sendable : galaxys2Image.Sendable := by
  constructor <;> decide

theorem piranhaImage_sendable : piranhaImage.Sendable := by
  constructor <;> decide

section Sections

variable {part : ImageSection} {image : Bytes}

theorem ImageSection.length_of (hfits : part.offset + part.size ≤ image.length) :
    (part.of image).length = part.size := by
  rw [ImageSection.of, List.length_take, List.length_drop]
  omega

theorem ImageSection.of_ne_nil (hpos : 0 < part.size)
    (hfits : part.offset + part.size ≤ image.length) : part.of image ≠ [] := by
  apply List.ne_nil_of_length_pos
  rw [part.length_of hfits]
  exact hpos

end Sections

theorem BootWorld.length_nvData {world : BootWorld} {data : Bytes} (hdata : world.nvData = some data) :
    data.length = world.cfg.size := by
  rw [BootWorld.nvData, RedundantCopies.recover] at hdata
  cases hprimary : (world.cfg.copies world.platform world.kernel.files).primary with
  | some other =>
      rw [hprimary] at hdata
      cases hdata
      exact (copies_primary_eq_some_iff.mp hprimary).length_eq
  | none =>
      rw [hprimary] at hdata
      exact (copies_backup_eq_some_iff.mp hdata).length_eq

/-- The NV data that are recovered are not empty. -/
theorem BootWorld.nvData_ne_nil {world : BootWorld} {data : Bytes} (hdata : world.nvData = some data) :
    data ≠ [] := by
  apply List.ne_nil_of_length_pos
  rw [BootWorld.length_nvData hdata]
  exact world.cfg.chunkSize_pos.trans_le world.cfg.chunkSize_le

theorem NvConfig.client_not_isNone (cfg : NvConfig) : ¬cfg.client.isNone = true := Bool.false_ne_true

/-- A world with an image of zeros and these files. -/
def sampleBootWorld (files : FileSystem) : BootWorld where
  fdOf := fun path => if path = xmm626SecModemBoot0Device then 4
    else if path = xmm626SecModemLinkPmDevice then 5 else 3
  image := List.replicate 0x1000000 0
  mpsData := ⟨[0, 0, 0], rfl⟩
  platform := samplePlatform
  cfg := xmm626NvConfig
  kernel := Kernel.boot files

theorem sampleBootWorld_nvData : (sampleBootWorld (sampleDisk 0)).nvData = some (sampleNvData 0) := by
  have hprimary : (xmm626NvConfig.copies samplePlatform (sampleDisk 0)).primary =
      some (sampleNvData 0) := copies_primary_eq_some_iff.mpr sampleDisk_blank
  change (xmm626NvConfig.copies samplePlatform (sampleDisk 0)).recover = _
  rw [RedundantCopies.recover, hprimary]
  rfl

theorem sampleBootWorld_nvData_empty : (sampleBootWorld fun _ => none).nvData = none := rfl

/-! ### Over HSIC -/

/-- The parts of the image, as they are sent. -/
def hsicHead (layout : ImageLayout) (image : Bytes) : Language DeviceWrite :=
  (UploadRoutine.format .ilp32 .xmm626HsicPsi).uploads (layout.psi.of image) *
    ((UploadRoutine.format .ilp32 .xmm626HsicEbl).uploads (layout.ebl.of image) *
      (hsicPortConfig *
        (hsicCommandWrites xmm626CommandSecStart (layout.secStart.of image) *
          hsicTransfer xmm626FirmwareAddress (layout.firmware.of image))))

/-- The NV data, and the commands that start the modem. -/
def hsicTail (nvData : Bytes) : Language DeviceWrite :=
  hsicTransfer xmm626NvDataAddress nvData *
    (hsicCommandWrites xmm626CommandSecEnd secEndData *
      hsicCommandWrites xmm626CommandHwReset hwResetData)

/-- The first half of the upload: all that is sent of the image. -/
def hsicImageUpload (layout : ImageLayout) (image : Bytes) (locals : BootLocals) : Booting Unit := do
  send locals fun fd => some <$> xmm626HsicPsiSend fd (layout.psi.of image)
  send locals fun fd => some <$> xmm626HsicEblSend .ilp32 fd (layout.ebl.of image)
  send locals fun fd => ModemBoot.xmm626HsicPortConfigSend .ilp32 fd
  send locals fun fd => ModemBoot.xmm626HsicSecStartSend .ilp32 fd (layout.secStart.of image)
  send locals fun fd => ModemBoot.xmm626HsicFirmwareSend .ilp32 fd (layout.firmware.of image)

/-- The second half, which starts with the NV data. -/
def hsicModemStart (client : Option IpcClient) (locals : BootLocals) : Booting Unit := do
  stage locals (nvDataSend locals client fun fd data =>
    ModemBoot.xmm626HsicModemDataSend .ilp32 fd data xmm626NvDataAddress)
  send locals fun fd => ModemBoot.xmm626HsicSecEndSend .ilp32 fd
  send locals fun fd => ModemBoot.xmm626HsicHwResetSend .ilp32 fd

/-- The image has the size, and the parts, that a layout says. -/
structure BootWorld.Provides (world : BootWorld) (layout : ImageLayout) : Prop where
  sendable : layout.Sendable
  size : world.image.length = layout.imageSize

section Hsic

variable {world : BootWorld} {layout : ImageLayout} {locals : BootLocals} {nvData : Bytes}

theorem hsicUpload_eq (client : Option IpcClient) (image : Bytes) :
    hsicUpload client layout image locals =
      hsicImageUpload layout image locals >>= fun _ => hsicModemStart client locals := by
  simp only [hsicUpload, hsicImageUpload, hsicModemStart, bind_assoc]

theorem performs_hsicImageUpload (himage : world.Provides layout) (hfd : 0 ≤ locals.modemBootFd) :
    Performs world (hsicImageUpload layout world.image locals)
      (Language.map (.wrote locals.modemBootFd) (hsicHead layout world.image)) fun _ => True := by
  obtain ⟨hlayout, hsize⟩ := himage
  have hpsi := layout.psi.length_of (hsize ▸ hlayout.psi_fits)
  have hebl := layout.ebl.length_of (hsize ▸ hlayout.ebl_fits)
  have hsec := layout.secStart.length_of (hsize ▸ hlayout.secStart_fits)
  have hpsiNe := ImageSection.of_ne_nil hlayout.psi_pos (hsize ▸ hlayout.psi_fits)
  have heblNe := ImageSection.of_ne_nil hlayout.ebl_pos (hsize ▸ hlayout.ebl_fits)
  have hsecNe := ImageSection.of_ne_nil hlayout.secStart_pos (hsize ▸ hlayout.secStart_fits)
  have hfirmwareNe := ImageSection.of_ne_nil hlayout.firmware_pos (hsize ▸ hlayout.firmware_fits)
  simp only [hsicHead, map_mul]
  refine (performs_send (sends_xmm626HsicPsiSend hfd hpsiNe (hpsi ▸ hlayout.psi_le))).bind fun _ _ => ?_
  refine (performs_send (sends_xmm626HsicEblSend hfd heblNe (hebl ▸ hlayout.ebl_le))).bind fun _ _ => ?_
  refine (performs_send (sends_xmm626HsicPortConfigSend hfd)).bind fun _ _ => ?_
  refine (performs_send (sends_xmm626HsicSecStartSend hfd hsecNe (hsec ▸ hlayout.secStart_le))).bind
    fun _ _ => ?_
  exact performs_send (sends_xmm626HsicFirmwareSend hfd hfirmwareNe)

theorem performs_hsicUpload (himage : world.Provides layout) (hfd : 0 ≤ locals.modemBootFd)
    (hnv : world.nvData = some nvData) :
    Performs world (hsicUpload world.cfg.client layout world.image locals)
      (Language.map (.wrote locals.modemBootFd) (hsicHead layout world.image * hsicTail nvData))
      fun _ => True := by
  rw [hsicUpload_eq, map_mul, hsicTail, map_mul, map_mul]
  refine (performs_hsicImageUpload himage hfd).bind fun _ _ => ?_
  have htransfer : Sends (ModemBoot.xmm626HsicModemDataSend .ilp32 locals.modemBootFd (some nvData)
      xmm626NvDataAddress) (hsicTransfer xmm626NvDataAddress nvData) :=
    sends_xmm626HsicModemDataSend hfd (BootWorld.nvData_ne_nil hnv) _
  refine (performs_nvDataSend hfd hnv htransfer).bind fun _ _ => ?_
  refine (performs_send (sends_xmm626HsicSecEndSend hfd)).bind fun _ _ => ?_
  exact performs_send (sends_xmm626HsicHwResetSend hfd)

/-- Without NV data, nothing is sent but parts of the image. -/
theorem strays_hsicUpload (himage : world.Provides layout) (hfd : 0 ≤ locals.modemBootFd)
    (hnv : world.nvData = none) :
    Strays world.environment CutShort (hsicUpload world.cfg.client layout world.image locals)
      (Language.map (.wrote locals.modemBootFd) (hsicHead layout world.image)) := by
  rw [hsicUpload_eq]
  exact (performs_hsicImageUpload himage hfd).bind_abandons fun _ _ => (abandons_nvDataSend hnv).bind

/-- The link goes down and comes up again. -/
def linkRestartWord (linkFd : Int) : List ModemEvent :=
  [.controlled linkFd (.linkControlEnable false) true] ++ hciPowerWord false ++
    [.controlled linkFd (.linkControlActive false) true,
      .controlled linkFd (.linkControlEnable true) true] ++ hciPowerWord true ++
    [.controlled linkFd (.linkControlActive true) true]

theorem performs_linkRestart (hfd : 0 ≤ locals.modemLinkFd) :
    Performs world (linkRestart locals) (once (linkRestartWord locals.modemLinkFd)) fun _ => True := by
  have hwords : once (linkRestartWord locals.modemLinkFd) =
      once [.controlled locals.modemLinkFd (.linkControlEnable false) true] * (once (hciPowerWord false) *
        (once [.controlled locals.modemLinkFd (.linkControlActive false) true] *
          (once [.controlled locals.modemLinkFd (.linkControlEnable true) true] *
            (once (hciPowerWord true) *
              once [.controlled locals.modemLinkFd (.linkControlActive true) true])))) := by
    simp only [once_mul_once]
    rfl
  rw [hwords]
  refine (performs_ignored_hostwakeWait _).quiet_bind fun _ _ => ?_
  refine (performs_controlRequest hfd rfl).bind fun _ _ => ?_
  refine (performs_xmm626KernelSmdk4412HciPower false).bind fun _ _ => ?_
  refine (performs_controlRequest hfd rfl).bind fun _ _ => ?_
  refine (performs_xmm626KernelSmdk4412LinkGetHostwakeWait hfd).quiet_bind fun _ _ => ?_
  refine (performs_controlRequest hfd rfl).bind fun _ _ => ?_
  refine (performs_xmm626KernelSmdk4412HciPower true).bind fun _ _ => ?_
  refine (performs_controlRequest hfd rfl).bind_quiet fun _ _ => ?_
  exact performs_xmm626KernelSmdk4412LinkConnectedWait hfd

/-- How a device restarts its modem, and that it does. -/
structure RestartsWith (restart : BootLocals → Booting Unit) (word : Int → Int → List ModemEvent) :
    Prop where
  performs : ∀ (world : BootWorld) (locals : BootLocals), 0 ≤ locals.modemBootFd →
    0 ≤ locals.modemLinkFd → Performs world (restart locals)
      (once (word locals.modemBootFd locals.modemLinkFd)) fun _ => True

def i9300RestartWord (bootFd _linkFd : Int) : List ModemEvent :=
  hciPowerWord false ++ [.controlled bootFd .modemOn true] ++ hciPowerWord true

def galaxys2RestartWord (bootFd linkFd : Int) : List ModemEvent :=
  [.controlled bootFd .modemOff true, .controlled linkFd (.linkControlEnable false) true] ++
    hciPowerWord false ++
    [.controlled linkFd (.linkControlActive false) true, .controlled bootFd .modemOn true,
      .controlled linkFd (.linkControlEnable true) true] ++ hciPowerWord true ++
    [.controlled linkFd (.linkControlActive true) true]

theorem restartsWith_i9300Restart : RestartsWith i9300Restart i9300RestartWord where
  performs := by
    intro world locals hboot _
    rw [i9300RestartWord, List.append_assoc, ← once_mul_once, ← once_mul_once]
    refine (performs_xmm626KernelSmdk4412HciPower false).bind fun _ _ => ?_
    refine (performs_xmm626KernelSmdk4412Power hboot true).bind fun _ _ => ?_
    exact performs_xmm626KernelSmdk4412HciPower true

theorem restartsWith_galaxys2Restart : RestartsWith galaxys2Restart galaxys2RestartWord where
  performs := by
    intro world locals hboot hlink
    have hwords : once (galaxys2RestartWord locals.modemBootFd locals.modemLinkFd) =
        once [.controlled locals.modemBootFd .modemOff true] *
          (once [.controlled locals.modemLinkFd (.linkControlEnable false) true] *
            (once (hciPowerWord false) *
              (once [.controlled locals.modemLinkFd (.linkControlActive false) true] *
                (once [.controlled locals.modemBootFd .modemOn true] *
                  (once [.controlled locals.modemLinkFd (.linkControlEnable true) true] *
                    (once (hciPowerWord true) *
                      once [.controlled locals.modemLinkFd (.linkControlActive true) true])))))) := by
      simp only [once_mul_once]
      rfl
    rw [hwords]
    refine (performs_xmm626KernelSmdk4412Power hboot false).bind fun _ _ => ?_
    refine (performs_controlRequest hlink rfl).bind fun _ _ => ?_
    refine (performs_xmm626KernelSmdk4412HciPower false).bind fun _ _ => ?_
    refine (performs_controlRequest hlink rfl).bind fun _ _ => ?_
    refine (performs_xmm626KernelSmdk4412Power hboot true).bind fun _ _ => ?_
    refine (performs_controlRequest hlink rfl).bind fun _ _ => ?_
    refine (performs_xmm626KernelSmdk4412HciPower true).bind fun _ _ => ?_
    exact performs_controlRequest hlink rfl

end Hsic

/-- The devices whose modem is booted over HSIC. -/
inductive HsicDevice where
  | i9300
  | n7100
  | n5100
  | galaxys2

namespace HsicDevice

def imageDevice : HsicDevice → Path
  | i9300 => i9300ModemImageDevice
  | n7100 => n7100ModemImageDevice
  | n5100 => n5100ModemImageDevice
  | galaxys2 => galaxys2ModemImageDevice

def layout : HsicDevice → ImageLayout
  | i9300 | n7100 | n5100 => i9300Image
  | galaxys2 => galaxys2Image

def restart : HsicDevice → BootLocals → Booting Unit
  | i9300 | n7100 | n5100 => i9300Restart
  | galaxys2 => galaxys2Restart

def restartWord : HsicDevice → Int → Int → List ModemEvent
  | i9300 | n7100 | n5100 => i9300RestartWord
  | galaxys2 => galaxys2RestartWord

def boot : HsicDevice → Option IpcClient → Prog ModemCall (Option Int)
  | i9300 => i9300Boot
  | n7100 => n7100Boot
  | n5100 => n5100Boot
  | galaxys2 => galaxys2Boot

theorem boot_eq (device : HsicDevice) :
    device.boot = hsicBoot device.imageDevice device.layout device.restart := by
  cases device <;> rfl

theorem layout_sendable (device : HsicDevice) : device.layout.Sendable := by
  cases device with
  | i9300 => exact i9300Image_sendable
  | n7100 => exact i9300Image_sendable
  | n5100 => exact i9300Image_sendable
  | galaxys2 => exact galaxys2Image_sendable

theorem restartsWith_restart (device : HsicDevice) : RestartsWith device.restart device.restartWord := by
  cases device with
  | i9300 => exact restartsWith_i9300Restart
  | n7100 => exact restartsWith_i9300Restart
  | n5100 => exact restartsWith_i9300Restart
  | galaxys2 => exact restartsWith_galaxys2Restart

variable (device : HsicDevice) (world : BootWorld)

/-- What a boot does before the upload. -/
def openingWord : List ModemEvent :=
  [.opened device.imageDevice (world.fdOf device.imageDevice),
    .opened xmm626SecModemBoot0Device (world.fdOf xmm626SecModemBoot0Device),
    .opened xmm626SecModemLinkPmDevice (world.fdOf xmm626SecModemLinkPmDevice)] ++
  device.restartWord (world.fdOf xmm626SecModemBoot0Device) (world.fdOf xmm626SecModemLinkPmDevice)

/-- What a boot does that succeeds. -/
def bootWords (nvData : Bytes) : Language ModemEvent :=
  once (device.openingWord world) *
    (Language.map (.wrote (world.fdOf xmm626SecModemBoot0Device))
      (hsicHead device.layout world.image * hsicTail nvData) *
    once (linkRestartWord (world.fdOf xmm626SecModemLinkPmDevice)))

/-- What a boot does without NV data. -/
def headWords : Language ModemEvent :=
  once (device.openingWord world) *
    Language.map (.wrote (world.fdOf xmm626SecModemBoot0Device)) (hsicHead device.layout world.image)

/-- What comes before the upload. -/
def opening (device : HsicDevice) : Booting (Bytes × BootLocals) := do
  let (image, locals) ← openImage device.imageDevice device.layout.imageSize
  let locals ← openBoot xmm626SecModemBoot0Device locals
  let locals ← openLink xmm626SecModemLinkPmDevice locals
  device.restart locals
  require locals (xmm626KernelSmdk4412LinkConnectedWait locals.modemLinkFd)
  pure (image, locals)

def body (device : HsicDevice) (client : Option IpcClient) : Booting BootLocals :=
  device.opening >>= fun opened => do
    hsicUpload client device.layout opened.1 opened.2
    linkRestart opened.2
    pure opened.2

theorem boot_client {client : Option IpcClient} (hclient : ¬client.isNone = true) :
    device.boot client = bootEnd device.layout.imageSize (device.body client) := by
  rw [boot_eq, hsicBoot, if_neg hclient, body, opening]
  simp only [bind_assoc]
  refine congrArg (bootEnd _) (bind_congr fun result => ?_)
  obtain ⟨image, locals⟩ := result
  simp only [pure_bind]

/-- The variables behind the opening. -/
def openedLocals : BootLocals :=
  { world.mappedLocals (world.fdOf device.imageDevice) with
    modemBootFd := world.fdOf xmm626SecModemBoot0Device
    modemLinkFd := world.fdOf xmm626SecModemLinkPmDevice }

theorem performs_opening : Performs world device.opening (once (device.openingWord world)) fun opened =>
    opened = (world.image, device.openedLocals world) := by
  have hwords : once (device.openingWord world) =
      once [.opened device.imageDevice (world.fdOf device.imageDevice)] *
        (once [.opened xmm626SecModemBoot0Device (world.fdOf xmm626SecModemBoot0Device)] *
          (once [.opened xmm626SecModemLinkPmDevice (world.fdOf xmm626SecModemLinkPmDevice)] *
            once (device.restartWord (world.fdOf xmm626SecModemBoot0Device)
              (world.fdOf xmm626SecModemLinkPmDevice)))) := by
    simp only [once_mul_once]
    rfl
  rw [hwords]
  refine (performs_openImage _ _).bind fun result hresult => ?_
  subst hresult
  refine (performs_openBoot _ _).bind fun bootLocals hboot => ?_
  subst hboot
  refine (performs_openLink _ _).bind fun linkLocals hlink => ?_
  subst hlink
  have hboot : (0 : Int) ≤ world.fdOf xmm626SecModemBoot0Device := Int.natCast_nonneg _
  have hlink : (0 : Int) ≤ world.fdOf xmm626SecModemLinkPmDevice := Int.natCast_nonneg _
  refine (device.restartsWith_restart.performs world _ hboot hlink).bind_quiet fun _ _ => ?_
  refine (performs_xmm626KernelSmdk4412LinkConnectedWait hlink).quiet_bind fun _ _ => ?_
  exact .pure rfl

variable {device} {world} {nvData : Bytes}

theorem provides (hsize : world.image.length = device.layout.imageSize) :
    world.Provides device.layout := ⟨device.layout_sendable, hsize⟩

/-- A boot over HSIC restarts the modem, sends it the parts of its image and the NV data that can be
recovered, starts it and sets up its link, in this order: a boot that fails has done a start of that. -/
theorem boots_bootWords (hsize : world.image.length = device.layout.imageSize)
    (hnv : world.nvData = some nvData) :
    Boots world (device.boot world.cfg.client) (device.bootWords world nvData) := by
  have hboot : (0 : Int) ≤ (device.openedLocals world).modemBootFd := Int.natCast_nonneg _
  have hlink : (0 : Int) ≤ (device.openedLocals world).modemLinkFd := Int.natCast_nonneg _
  rw [boot_client _ world.cfg.client_not_isNone]
  refine boots_bootEnd (P := fun _ => True) ((performs_opening device world).bind fun opened hopened => ?_)
  subst hopened
  refine (performs_hsicUpload (provides hsize) hboot hnv).bind fun _ _ => ?_
  exact (performs_linkRestart hlink).bind_quiet fun _ _ => .pure trivial

/-- If no NV data can be recovered, no boot over HSIC succeeds, and none gets behind the firmware. -/
theorem neverBoots_headWords (hsize : world.image.length = device.layout.imageSize)
    (hnv : world.nvData = none) :
    NeverBoots world (device.boot world.cfg.client) (device.headWords world) := by
  have hboot : (0 : Int) ≤ (device.openedLocals world).modemBootFd := Int.natCast_nonneg _
  rw [boot_client _ world.cfg.client_not_isNone]
  refine neverBoots_bootEnd ((performs_opening device world).bind_strays ?_ fun opened hopened => ?_)
  · exact (performs_hsicImageUpload (provides hsize) hboot).exists_mem
  · subst hopened
    exact (strays_hsicUpload (provides hsize) hboot hnv).bind

end HsicDevice

end SamsungIpc
