import SamsungIpc.BootSenders
import SamsungIpc.HerolteBoot
import SamsungIpc.NvData
import SamsungIpc.PollDescriptors

/-! The boots of the devices with an XMM626: the modem is restarted, the parts of its image are sent to it,
and its link is set up again. A boot is a program over the calls it makes; reading and writing a value of
sysfs, loading the NV data and reading a whole file are calls here. Pauses and the log are left out. -/

namespace SamsungIpc

open Effect

/-- The requests of the kernel driver. -/
inductive ModemControl where
  | modemOn
  | modemOff
  | modemBootOn
  | modemBootOff
  | modemStatus
  | linkControlEnable (enable : Bool)
  | linkControlActive (active : Bool)
  | linkConnected
  | linkGetHostwake
  deriving DecidableEq

/-- What `mmap` returns; the test for a failed one is made for pointers of 32 bits. -/
inductive Mapping where
  | null
  | failed
  | mapped (content : Bytes)

/-- A call of a boot and the type of its answer; `ioctl` and `sysfs_value_write` answer their result. -/
inductive ModemCall : Type → Type where
  | openFile (path : Path) : ModemCall (Except CallErrno Fd)
  | close (fd : Int) : ModemCall Unit
  | mmap (fd : Int) (size : Nat) : ModemCall Mapping
  | munmap (mapping : Mapping) (size : Nat) : ModemCall Unit
  | ioctl (fd : Int) (request : ModemControl) : ModemCall Int
  | write (fd : Int) (bytes : Bytes) : ModemCall Int
  | read (fd : Int) (count : Nat) : ModemCall (Option Bytes)
  | select (fd : Int) : ModemCall Int
  | sysfsValueWrite (path : Path) (value : Int) : ModemCall Int
  | sysfsValueRead (path : Path) : ModemCall Int
  | nvDataLoad : ModemCall (Option Bytes)
  | fileDataRead (path : Path) (size chunkSize offset : Nat) : ModemCall (Option Bytes)

namespace ModemCall

/-- A call on the device behind `fd`. -/
def onDevice (fd : Int) : {β : Type} → DeviceCall β → ModemCall β
  | _, .write bytes => .write fd bytes
  | _, .read count => .read fd count
  | _, .select => .select fd

end ModemCall

/-- The variables of a boot that its end looks at. -/
structure BootLocals where
  modemImageData : Mapping
  modemImageFd : Int
  modemBootFd : Int
  modemLinkFd : Int

def BootLocals.initial : BootLocals := ⟨.null, -1, -1, -1⟩

/-- How a boot leaves its way: `goto error` with these variables, or through a `NULL`. -/
inductive BootEscape where
  | error (locals : BootLocals)
  | fault

def BootEscape.ofSend (locals : BootLocals) : SendExit → BootEscape
  | .error => .error locals
  | .fault => .fault

abbrev Booting := ExceptT BootEscape (Prog ModemCall)

namespace Booting

variable {α : Type}

def call (request : ModemCall α) : Booting α := ExceptT.mk do
  let answer ← Prog.perform request
  pure (.ok answer)

def error (locals : BootLocals) : Booting α := ExceptT.mk (.pure (.error (.error locals)))

/-- A function that is called, and `if (rc < 0) goto error`. -/
def stage (locals : BootLocals) (function : Prog ModemCall (Option Int)) : Booting Unit :=
  ExceptT.mk do
    let result ← (checked function).run
    pure (result.mapError (BootEscape.ofSend locals))

/-- A function whose result is only logged. -/
def ignored (function : Prog ModemCall Int) : Booting Unit := ExceptT.mk do
  let _ ← function
  pure (.ok ())

/-- A function that has a result in any case. -/
def require (locals : BootLocals) (function : Prog ModemCall Int) : Booting Unit :=
  stage locals (some <$> function)

/-- A sender on the boot device. -/
def send (locals : BootLocals) (sender : Int → Prog DeviceCall (Option Int)) : Booting Unit :=
  stage locals ((sender locals.modemBootFd).translate (ModemCall.onDevice locals.modemBootFd))

/-- The descriptor, or `-1`. -/
def openDevice (path : Path) : Booting Int := do
  match ← call (.openFile path) with
  | .ok fd => pure fd
  | .error _ => pure (-1)

end Booting

open Booting

/-! ### `xmm626_kernel_smdk4412.c` -/

def xmm626SecModemBoot1Device : Path := cString "/dev/umts_boot1"

def xmm626SecModemLinkPmDevice : Path := cString "/dev/link_pm"

def xmm626SecModemEhciPowerSysfs : Path := cString "/sys/devices/platform/s5p-ehci/ehci_power"

def xmm626SecModemOhciPowerSysfs : Path := cString "/sys/devices/platform/s5p-ohci/ohci_power"

/-- `!!value`. -/
def boolInt (value : Bool) : Int := if value then 1 else 0

/-- A request, and whether it has failed. -/
def controlRequest (deviceFd : Int) (request : ModemControl) : Prog ModemCall Int :=
  if deviceFd < 0 then pure (-1)
  else do
    let rc ← Prog.perform (.ioctl deviceFd request)
    if rc < 0 then pure (-1) else pure 0

/-- The loop that asks for a status until it is as wanted. -/
def statusLoop (deviceFd : Int) (request : ModemControl) (wanted : Int → Bool) :
    Nat → Prog ModemCall Int
  | 0 => pure (-1)
  | tries + 1 => do
      let status ← Prog.perform (.ioctl deviceFd request)
      if wanted status then pure 0 else statusLoop deviceFd request wanted tries

def statusWait (deviceFd : Int) (request : ModemControl) (wanted : Int → Bool) (tries : Nat) :
    Prog ModemCall Int :=
  if deviceFd < 0 then pure (-1) else statusLoop deviceFd request wanted tries

def xmm626KernelSmdk4412Power (deviceFd : Int) (power : Bool) : Prog ModemCall Int :=
  controlRequest deviceFd (if power then .modemOn else .modemOff)

def xmm626KernelSmdk4412BootPower (deviceFd : Int) (power : Bool) : Prog ModemCall Int :=
  controlRequest deviceFd (if power then .modemBootOn else .modemBootOff)

def xmm626KernelSmdk4412StatusOnlineWait (deviceFd : Int) : Prog ModemCall Int :=
  statusWait deviceFd .modemStatus (fun status => status = stateOnline) 100

/-- It fails if neither of the two buses is switched. -/
def xmm626KernelSmdk4412HciPower (power : Bool) : Prog ModemCall Int := do
  let ehciRc ← Prog.perform (.sysfsValueWrite xmm626SecModemEhciPowerSysfs (boolInt power))
  let ohciRc ← Prog.perform (.sysfsValueWrite xmm626SecModemOhciPowerSysfs (boolInt power))
  if ehciRc < 0 ∧ ohciRc < 0 then pure (-1) else pure 0

def xmm626KernelSmdk4412LinkControlEnable (deviceFd : Int) (enable : Bool) : Prog ModemCall Int :=
  controlRequest deviceFd (.linkControlEnable enable)

def xmm626KernelSmdk4412LinkControlActive (deviceFd : Int) (active : Bool) : Prog ModemCall Int :=
  controlRequest deviceFd (.linkControlActive active)

/-- A request that has failed counts as one that says that there is a link. -/
def xmm626KernelSmdk4412LinkConnectedWait (deviceFd : Int) : Prog ModemCall Int :=
  statusWait deviceFd .linkConnected (fun status => status ≠ 0) 100

def xmm626KernelSmdk4412LinkGetHostwakeWait (deviceFd : Int) : Prog ModemCall Int :=
  statusWait deviceFd .linkGetHostwake (fun status => status ≠ 0) 10

/-! ### Modem images -/

structure ImageSection where
  offset : Nat
  size : Nat

/-- Where the parts of a modem image lie. -/
structure ImageLayout where
  imageSize : Nat
  psi : ImageSection
  ebl : ImageSection
  secStart : ImageSection
  firmware : ImageSection

def ImageSection.of (part : ImageSection) (image : Bytes) : Bytes :=
  (image.drop part.offset).take part.size

/-- The layout of the i9300, and of the devices made like it. -/
def i9300Image : ImageLayout where
  imageSize := 0x1000000
  psi := ⟨0x1000, 0xE000⟩
  ebl := ⟨0xF000, 0x19000⟩
  secStart := ⟨0x9FF800, 0x800⟩
  firmware := ⟨0x28000, 0x9D7800⟩

def galaxys2Image : ImageLayout where
  imageSize := 0x1000000
  psi := ⟨0, 0xF000⟩
  ebl := ⟨0xF000, 0x19000⟩
  secStart := ⟨0x9FF800, 0x800⟩
  firmware := ⟨0x28000, 0x9D8000⟩

def piranhaImage : ImageLayout := { i9300Image with imageSize := 0x1400000 }

/-! ### The ends of a boot -/

def closeIfOpen (fd : Int) : Prog ModemCall Unit :=
  if fd ≥ 0 then Prog.perform (.close fd) else pure ()

/-- A mapping that has failed is not `NULL`, and is given to `munmap`. -/
def unmapIfMapped (mapping : Mapping) (size : Nat) : Prog ModemCall Unit :=
  match mapping with
  | .null => pure ()
  | mapping => Prog.perform (.munmap mapping size)

def releaseLocals (imageSize : Nat) (locals : BootLocals) : Prog ModemCall Unit := do
  unmapIfMapped locals.modemImageData imageSize
  closeIfOpen locals.modemImageFd
  closeIfOpen locals.modemBootFd
  closeIfOpen locals.modemLinkFd

/-- `rc = 0; goto complete; error: rc = -1; complete:` and what follows. -/
def bootEnd (imageSize : Nat) (body : Booting BootLocals) : Prog ModemCall (Option Int) := do
  match ← body.run with
  | .ok locals => do
      releaseLocals imageSize locals
      pure (some 0)
  | .error (.error locals) => do
      releaseLocals imageSize locals
      pure (some (-1))
  | .error .fault => pure none

/-- The image device is open: its image, or `goto error`. -/
def mapImage (imageSize : Nat) (locals : BootLocals) : Booting (Bytes × BootLocals) := do
  match ← call (.mmap locals.modemImageFd imageSize) with
  | .null => error locals
  | .failed => error { locals with modemImageData := .failed }
  | .mapped content => pure (content, { locals with modemImageData := .mapped content })

/-- The modem's image device, opened and mapped. -/
def openImage (imageDevice : Path) (imageSize : Nat) : Booting (Bytes × BootLocals) := do
  let modemImageFd ← openDevice imageDevice
  if modemImageFd < 0 then error .initial
  else mapImage imageSize { BootLocals.initial with modemImageFd := modemImageFd }

/-- `open` into the descriptor of the boot device, and `goto error` if that fails. -/
def openBoot (path : Path) (locals : BootLocals) : Booting BootLocals := do
  let modemBootFd ← openDevice path
  if modemBootFd < 0 then error { locals with modemBootFd := modemBootFd }
  else pure { locals with modemBootFd := modemBootFd }

def openLink (path : Path) (locals : BootLocals) : Booting BootLocals := do
  let modemLinkFd ← openDevice path
  if modemLinkFd < 0 then error { locals with modemLinkFd := modemLinkFd }
  else pure { locals with modemLinkFd := modemLinkFd }

/-- The NV data as they are sent by either bus: `send` is given them with the device. -/
def nvDataSend (locals : BootLocals) (client : Option IpcClient)
    (send : Int → Option Bytes → Prog DeviceCall (Option Int)) : Prog ModemCall (Option Int) :=
  if locals.modemBootFd < 0 then pure (some (-1))
  else if ipcClientNvDataSize client = 0 then pure (some (-1))
  else do
    match ← Prog.perform .nvDataLoad with
    | none => pure (some (-1))
    | some nvData =>
        ended (checked ((send locals.modemBootFd (some nvData)).translate
          (ModemCall.onDevice locals.modemBootFd)))

/-! ### Boots over HSIC

The machines have 32 bits. -/

/-- What is sent over HSIC, from the PSI to the reset. -/
def hsicUpload (client : Option IpcClient) (layout : ImageLayout) (image : Bytes)
    (locals : BootLocals) : Booting Unit := do
  send locals fun fd => some <$> xmm626HsicPsiSend fd (layout.psi.of image)
  send locals fun fd => some <$> xmm626HsicEblSend .ilp32 fd (layout.ebl.of image)
  send locals fun fd => ModemBoot.xmm626HsicPortConfigSend .ilp32 fd
  send locals fun fd => ModemBoot.xmm626HsicSecStartSend .ilp32 fd (layout.secStart.of image)
  send locals fun fd => ModemBoot.xmm626HsicFirmwareSend .ilp32 fd (layout.firmware.of image)
  stage locals (nvDataSend locals client fun fd nvData =>
    ModemBoot.xmm626HsicModemDataSend .ilp32 fd nvData xmm626NvDataAddress)
  send locals fun fd => ModemBoot.xmm626HsicSecEndSend .ilp32 fd
  send locals fun fd => ModemBoot.xmm626HsicHwResetSend .ilp32 fd

/-- The link is taken down and set up again. -/
def linkRestart (locals : BootLocals) : Booting Unit := do
  ignored (xmm626KernelSmdk4412LinkGetHostwakeWait locals.modemLinkFd)
  require locals (xmm626KernelSmdk4412LinkControlEnable locals.modemLinkFd false)
  require locals (xmm626KernelSmdk4412HciPower false)
  require locals (xmm626KernelSmdk4412LinkControlActive locals.modemLinkFd false)
  require locals (xmm626KernelSmdk4412LinkGetHostwakeWait locals.modemLinkFd)
  require locals (xmm626KernelSmdk4412LinkControlEnable locals.modemLinkFd true)
  require locals (xmm626KernelSmdk4412HciPower true)
  require locals (xmm626KernelSmdk4412LinkControlActive locals.modemLinkFd true)
  require locals (xmm626KernelSmdk4412LinkConnectedWait locals.modemLinkFd)

/-- The boots over HSIC differ in how they restart the modem. -/
def hsicBoot (imageDevice : Path) (layout : ImageLayout) (restart : BootLocals → Booting Unit)
    (client : Option IpcClient) : Prog ModemCall (Option Int) :=
  if client.isNone then pure (some (-1))
  else bootEnd layout.imageSize do
    let (image, locals) ← openImage imageDevice layout.imageSize
    let locals ← openBoot xmm626SecModemBoot0Device locals
    let locals ← openLink xmm626SecModemLinkPmDevice locals
    restart locals
    require locals (xmm626KernelSmdk4412LinkConnectedWait locals.modemLinkFd)
    hsicUpload client layout image locals
    linkRestart locals
    pure locals

def i9300Restart (locals : BootLocals) : Booting Unit := do
  require locals (xmm626KernelSmdk4412HciPower false)
  require locals (xmm626KernelSmdk4412Power locals.modemBootFd true)
  require locals (xmm626KernelSmdk4412HciPower true)

def galaxys2Restart (locals : BootLocals) : Booting Unit := do
  require locals (xmm626KernelSmdk4412Power locals.modemBootFd false)
  require locals (xmm626KernelSmdk4412LinkControlEnable locals.modemLinkFd false)
  require locals (xmm626KernelSmdk4412HciPower false)
  require locals (xmm626KernelSmdk4412LinkControlActive locals.modemLinkFd false)
  require locals (xmm626KernelSmdk4412Power locals.modemBootFd true)
  require locals (xmm626KernelSmdk4412LinkControlEnable locals.modemLinkFd true)
  require locals (xmm626KernelSmdk4412HciPower true)
  require locals (xmm626KernelSmdk4412LinkControlActive locals.modemLinkFd true)

def i9300ModemImageDevice : Path := cString "/dev/mmcblk0p7"

def n7100ModemImageDevice : Path := cString "/dev/block/mmcblk0p10"

def n5100ModemImageDevice : Path := cString "/dev/block/platform/dw_mmc/by-name/RADIO"

def galaxys2ModemImageDevice : Path := cString "/dev/block/mmcblk0p8"

def i9300Boot : Option IpcClient → Prog ModemCall (Option Int) :=
  hsicBoot i9300ModemImageDevice i9300Image i9300Restart

def n7100Boot : Option IpcClient → Prog ModemCall (Option Int) :=
  hsicBoot n7100ModemImageDevice i9300Image i9300Restart

def n5100Boot : Option IpcClient → Prog ModemCall (Option Int) :=
  hsicBoot n5100ModemImageDevice i9300Image i9300Restart

def galaxys2Boot : Option IpcClient → Prog ModemCall (Option Int) :=
  hsicBoot galaxys2ModemImageDevice galaxys2Image galaxys2Restart

/-! ### `generic.c` -/

def xmm626KernelLinuxBoot0Device : Path := cString "/dev/xmm6262_boot0"

def xmm626KernelLinuxEhciPowerSysfs : Path :=
  cString "/sys/devices/platform/soc/12580000.ehci/ehci_power"

def xmm626KernelLinuxHostwakePath : Path := cString "/sys/devices/platform/xmm6262/hostwake"

def xmm626KernelLinuxLinkActivePath : Path := cString "/sys/devices/platform/xmm6262/link_active"

def xmm626KernelLinuxPowerPath : Path := cString "/sys/devices/platform/xmm6262/modem_power"

def xmm626KernelLinuxPdaActiveSysfs : Path := cString "/sys/devices/platform/xmm6262/pda_active"

def xmm626KernelLinuxSlavewakeSysfs : Path := cString "/sys/devices/platform/xmm6262/slavewake"

/-- `|` of results that are `0` or `-1`. -/
def orRc (first second : Int) : Int := if first = 0 ∧ second = 0 then 0 else -1

def xmm626KernelLinuxModemPower (power : Bool) : Prog ModemCall Int := do
  let rc ← Prog.perform (.sysfsValueWrite xmm626KernelLinuxPowerPath (boolInt power))
  if rc = -1 then pure rc else pure 0

/-- The slave is woken if the host is awake. -/
def wakeSlave (ohciRc : Int) : Prog ModemCall Int := do
  let hostwake ← Prog.perform (.sysfsValueRead xmm626KernelLinuxHostwakePath)
  if hostwake ≠ 0 then do
    let low ← Prog.perform (.sysfsValueWrite xmm626KernelLinuxSlavewakeSysfs 0)
    let high ← Prog.perform (.sysfsValueWrite xmm626KernelLinuxSlavewakeSysfs 1)
    pure (orRc (orRc ohciRc low) high)
  else pure ohciRc

def xmm626KernelLinuxModemHciPower (power : Bool) : Prog ModemCall Int :=
  if power then do
    let pdaRc ← Prog.perform (.sysfsValueWrite xmm626KernelLinuxPdaActiveSysfs 1)
    let ohciRc ← wakeSlave pdaRc
    let ehciRc ← Prog.perform (.sysfsValueWrite xmm626KernelLinuxEhciPowerSysfs 1)
    let linkRc ← Prog.perform (.sysfsValueWrite xmm626KernelLinuxLinkActivePath 1)
    if ehciRc < 0 ∧ orRc ohciRc linkRc < 0 then pure (-1) else pure 0
  else do
    let ehciRc ← Prog.perform (.sysfsValueWrite xmm626KernelLinuxEhciPowerSysfs 0)
    let ohciRc ← Prog.perform (.sysfsValueWrite xmm626KernelLinuxLinkActivePath 0)
    if ehciRc < 0 ∧ ohciRc < 0 then pure (-1) else pure 0

def partitionsDirnames : List Path :=
  [cString "/dev/disk/by-partlabel/", cString "/dev/block/by-name/"]

def openPartition : List Path → Booting Int
  | [] => pure (-1)
  | path :: paths => do
      match ← call (.openFile path) with
      | .ok fd => pure fd
      | .error errno => if errno.val = ENOENT then openPartition paths else pure (-1)

def openAndroidModemPartitionByName (name : CString) : Booting Int :=
  openPartition (partitionsDirnames.map (· ++ name))

/-- `do … while (rc < 10000)`, of which this many tries are left. -/
def openTries (path : Path) : Nat → Booting Int
  | 0 => pure (-1)
  | tries + 1 => do
      let fd ← openDevice path
      if fd ≥ 0 then pure fd else openTries path tries

def openGenericImage : Booting (Bytes × BootLocals) := do
  let modemImageFd ← openAndroidModemPartitionByName (cString "RADIO")
  if modemImageFd = -1 then error .initial
  else mapImage i9300Image.imageSize { BootLocals.initial with modemImageFd := modemImageFd }

def openGenericBoot (locals : BootLocals) : Booting BootLocals := do
  let modemBootFd ← openTries xmm626KernelLinuxBoot0Device 10000
  if modemBootFd < 0 then error { locals with modemBootFd := modemBootFd }
  else pure { locals with modemBootFd := modemBootFd }

/-- That the modem could not be switched on is only logged. -/
def genericRestart (locals : BootLocals) : Booting Unit := do
  require locals (xmm626KernelLinuxModemPower false)
  require locals (xmm626KernelLinuxModemHciPower false)
  ignored (xmm626KernelLinuxModemPower true)
  require locals (xmm626KernelLinuxModemHciPower true)

def genericBoot (client : Option IpcClient) : Prog ModemCall (Option Int) :=
  if client.isNone then pure (some (-1))
  else bootEnd i9300Image.imageSize do
    let (image, locals) ← openGenericImage
    genericRestart locals
    let locals ← openGenericBoot locals
    hsicUpload client i9300Image image locals
    require locals (xmm626KernelLinuxModemHciPower false)
    require locals (xmm626KernelLinuxModemHciPower true)
    pure locals

/-! ### Boots over MIPI -/

/-- What is sent over MIPI behind the PSI, from the EBL to the reset. -/
def mipiUpload (client : Option IpcClient) (layout : ImageLayout) (image : Bytes)
    (mpsStage : BootLocals → Booting Unit) (locals : BootLocals) : Booting Unit := do
  send locals fun fd => some <$> xmm626MipiEblSend .ilp32 fd (layout.ebl.of image)
  send locals fun fd => ModemBoot.xmm626MipiPortConfigSend .ilp32 fd
  send locals fun fd => ModemBoot.xmm626MipiSecStartSend .ilp32 fd (layout.secStart.of image)
  send locals fun fd => ModemBoot.xmm626MipiFirmwareSend .ilp32 fd (layout.firmware.of image)
  stage locals (nvDataSend locals client fun fd nvData =>
    ModemBoot.xmm626MipiModemDataSend .ilp32 fd nvData xmm626NvDataAddress)
  mpsStage locals
  send locals fun fd => ModemBoot.xmm626MipiSecEndSend .ilp32 fd
  send locals fun fd => ModemBoot.xmm626MipiHwResetSend .ilp32 fd

/-- The boots over MIPI differ in whether there are MPS data, and in how they end. -/
def mipiBoot (imageDevice : Path) (layout : ImageLayout) (mpsStage finish : BootLocals → Booting Unit)
    (client : Option IpcClient) : Prog ModemCall (Option Int) :=
  if client.isNone then pure (some (-1))
  else bootEnd layout.imageSize do
    let (image, locals) ← openImage imageDevice layout.imageSize
    let locals ← openBoot xmm626SecModemBoot0Device locals
    require locals (xmm626KernelSmdk4412Power locals.modemBootFd false)
    require locals (xmm626KernelSmdk4412Power locals.modemBootFd true)
    send locals fun fd => some <$> xmm626MipiPsiSend fd (layout.psi.of image)
    call (.close locals.modemBootFd)
    let locals ← openBoot xmm626SecModemBoot1Device locals
    mipiUpload client layout image mpsStage locals
    finish locals
    pure locals

/-- The path does not start at the root. -/
def maguroModemImageDevice : Path := cString "dev/block/platform/omap/omap_hsmmc.0/by-name/radio"

def maguroMpsDataDevice : Path := cString "/factory/imei/mps_code.dat"

def maguroMpsDataSize : Nat := 3

def piranhaModemImageDevice : Path := cString "/dev/block/mmcblk0p8"

def maguroMpsStage (locals : BootLocals) : Booting Unit := do
  match ← call (.fileDataRead maguroMpsDataDevice maguroMpsDataSize maguroMpsDataSize 0) with
  | none => error locals
  | some mpsData => send locals fun fd => ModemBoot.xmm626MipiMpsDataSend .ilp32 fd mpsData

def maguroFinish (locals : BootLocals) : Booting Unit := do
  require locals (xmm626KernelSmdk4412StatusOnlineWait locals.modemBootFd)
  require locals (xmm626KernelSmdk4412BootPower locals.modemBootFd false)

def maguroBoot : Option IpcClient → Prog ModemCall (Option Int) :=
  mipiBoot maguroModemImageDevice galaxys2Image maguroMpsStage maguroFinish

def piranhaBoot : Option IpcClient → Prog ModemCall (Option Int) :=
  mipiBoot piranhaModemImageDevice piranhaImage (fun _ => pure ()) (fun _ => pure ())

/-! ### Switching the modem off -/

/-- The boot device is opened for the request only. -/
def powerOff (path : Path) (power : Fd → Prog ModemCall Int) : Prog ModemCall Int := do
  match ← Prog.perform (.openFile path) with
  | .error _ => pure (-1)
  | .ok fd => do
      let rc ← power fd
      Prog.perform (.close fd)
      if rc < 0 then pure (-1) else pure 0

def smdk4412PowerOff : Prog ModemCall Int :=
  powerOff xmm626SecModemBoot0Device fun fd => xmm626KernelSmdk4412Power fd false

def i9300PowerOff : Prog ModemCall Int := smdk4412PowerOff

def n7100PowerOff : Prog ModemCall Int := smdk4412PowerOff

def n5100PowerOff : Prog ModemCall Int := smdk4412PowerOff

def galaxys2PowerOff : Prog ModemCall Int := smdk4412PowerOff

def maguroPowerOff : Prog ModemCall Int := smdk4412PowerOff

def piranhaPowerOff : Prog ModemCall Int := smdk4412PowerOff

/-- The descriptor is not used: the power is switched by sysfs. -/
def genericPowerOff : Prog ModemCall Int :=
  powerOff xmm626KernelLinuxBoot0Device fun _ => xmm626KernelLinuxModemPower false

end SamsungIpc
