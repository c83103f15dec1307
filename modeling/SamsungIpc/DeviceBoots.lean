import SamsungIpc.ModemLoader

/-! The boots of all the devices with an XMM626. -/

namespace SamsungIpc

open BlockMemory Effect FrameStream

inductive Xmm626Device where
  | hsic (device : HsicDevice)
  | generic
  | mipi (device : MipiDevice)

namespace Xmm626Device

def boot : Xmm626Device → Option IpcClient → Prog ModemCall (Option Int)
  | hsic device => device.boot
  | generic => genericBoot
  | mipi device => device.boot

def layout : Xmm626Device → ImageLayout
  | hsic device => device.layout
  | generic => i9300Image
  | mipi device => device.layout

/-- What a boot does that succeeds. -/
def bootWords (device : Xmm626Device) (world : BootWorld) (nvData : Bytes) : Language ModemEvent :=
  match device with
  | hsic device => device.bootWords world nvData
  | generic => genericWords world nvData
  | mipi device => device.bootWords world nvData

/-- What a boot does without NV data: no more than sending the firmware. -/
def headWords (device : Xmm626Device) (world : BootWorld) : Language ModemEvent :=
  match device with
  | hsic device => device.headWords world
  | generic => genericHeadWords world
  | mipi device => device.headWords world

/-- The device that the commands are sent to. -/
def commandDevice : Xmm626Device → Path
  | hsic _ => xmm626SecModemBoot0Device
  | generic => xmm626KernelLinuxBoot0Device
  | mipi _ => xmm626SecModemBoot1Device

def commandFormat : Xmm626Device → Format FlashFrame
  | hsic _ | generic => hsicFormat
  | mipi _ => mipiCommandFormat

/-- What is sent before the commands, and where to: the PSI, the EBL and the port configuration. Over MIPI,
the PSI goes to another device than the rest. -/
def loaders (device : Xmm626Device) (world : BootWorld) : Language (Int × DeviceWrite) :=
  match device with
  | hsic device =>
      writesTo (world.fdOf xmm626SecModemBoot0Device) (hsicLoaders device.layout world.image)
  | generic =>
      writesTo (world.fdOf xmm626KernelLinuxBoot0Device) (hsicLoaders i9300Image world.image)
  | mipi device =>
      writesTo (world.fdOf xmm626SecModemBoot0Device)
          ((UploadRoutine.format .ilp32 .xmm626MipiPsi).uploads (device.layout.psi.of world.image)) *
        writesTo (world.fdOf xmm626SecModemBoot1Device) (device.loaders world.image)

/-- What is to be in the modem's memory, and where. -/
def regions (device : Xmm626Device) (world : BootWorld) (nvData : Bytes) : List (Region UInt8) :=
  ⟨xmm626FirmwareAddress.toNat, device.layout.firmware.of world.image⟩ ::
    ⟨xmm626NvDataAddress.toNat, nvData⟩ ::
    match device with
    | mipi .maguro => [⟨xmm626MpsDataAddress.toNat, world.mpsData.val⟩]
    | _ => []

variable (device : Xmm626Device) (world : BootWorld) {nvData : Bytes}

/-- A boot opens its devices, restarts the modem, sends it the parts of its image, the NV data that can be
recovered and the MPS data if it has any, starts it and sets up its link, in this order. Whichever calls
fail, a boot does a start of that, and it reports success only behind all of it. -/
theorem boot_does_exactly (hsize : world.image.length = device.layout.imageSize)
    (hnv : world.nvData = some nvData) :
    Boots world (device.boot world.cfg.client) (device.bootWords world nvData) := by
  cases device with
  | hsic device => exact device.boots_bootWords hsize hnv
  | generic => exact boots_genericWords hsize hnv
  | mipi device => exact device.boots_bootWords hsize hnv

theorem boot_does_exactly_sample :
    Boots (sampleBootWorld (sampleDisk 0)) ((mipi .maguro).boot xmm626NvConfig.client)
      ((mipi .maguro).bootWords (sampleBootWorld (sampleDisk 0)) (sampleNvData 0)) :=
  boot_does_exactly (mipi .maguro) (sampleBootWorld (sampleDisk 0)) List.length_replicate
    sampleBootWorld_nvData

/-- If no NV data can be recovered, no boot reports success, and none gets behind the firmware: the
security section is not closed, and the modem is not started. -/
theorem boot_fails_without_nvData (hsize : world.image.length = device.layout.imageSize)
    (hnv : world.nvData = none) :
    NeverBoots world (device.boot world.cfg.client) (device.headWords world) := by
  cases device with
  | hsic device => exact device.neverBoots_headWords hsize hnv
  | generic => exact neverBoots_genericHeadWords hsize hnv
  | mipi device => exact device.neverBoots_headWords hsize hnv

theorem boot_fails_without_nvData_sample :
    NeverBoots (sampleBootWorld fun _ => none) ((hsic .i9300).boot xmm626NvConfig.client)
      ((hsic .i9300).headWords (sampleBootWorld fun _ => none)) :=
  boot_fails_without_nvData (hsic .i9300) (sampleBootWorld fun _ => none) List.length_replicate
    sampleBootWorld_nvData_empty

/-- All that a boot writes that reports success is the PSI, the EBL, the port configuration and then
commands to the boot device. A loader that obeys them holds the firmware, the recovered NV data and the MPS
data at their addresses, has changed nothing else in its memory, and has been started. -/
theorem boot_loads_modem (hsize : world.image.length = device.layout.imageSize)
    (hnv : world.nvData = some nvData) (hnvSize : world.cfg.size ≤ xmm626NvDataSize) :
    LoadsModem world (device.boot world.cfg.client) (world.fdOf device.commandDevice)
      (device.loaders world) device.commandFormat (device.regions world nvData) := by
  cases device with
  | hsic device => exact device.loadsModem hsize hnv
  | generic => exact loadsModem_genericBoot hsize hnv
  | mipi device =>
      have hloads := device.loadsModem hsize hnv hnvSize
      cases device with
      | maguro => exact hloads
      | piranha => exact hloads

theorem boot_loads_modem_sample :
    LoadsModem (sampleBootWorld (sampleDisk 0)) ((mipi .maguro).boot xmm626NvConfig.client)
      ((sampleBootWorld (sampleDisk 0)).fdOf (mipi .maguro).commandDevice)
      ((mipi .maguro).loaders (sampleBootWorld (sampleDisk 0))) (mipi .maguro).commandFormat
      ((mipi .maguro).regions (sampleBootWorld (sampleDisk 0)) (sampleNvData 0)) :=
  boot_loads_modem (mipi .maguro) (sampleBootWorld (sampleDisk 0)) List.length_replicate
    sampleBootWorld_nvData le_rfl

end Xmm626Device

end SamsungIpc
