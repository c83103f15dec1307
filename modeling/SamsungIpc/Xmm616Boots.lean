import SamsungIpc.HostCalls
import SamsungIpc.ModemBoots

/-! The boots of the devices with an XMM616. On the crespo the modem's memory is written to through a device
that has a position; on the aries it is shared memory, which is mapped and handed over to the modem. Pauses,
the log and the settings of the serial line are left out; the machines have 32 bits. -/

namespace SamsungIpc

open DigitText Effect

/-! ### `utils.c` -/

def ifNameSize : Nat := 16

def iffUp : UInt16 := 1

/-- What is done with a descriptor that is closed at the end. -/
def closing (fd : Int) (body : Prog HostCall Int) : Prog HostCall Int := do
  let rc ← body
  Prog.perform (.close fd)
  pure rc

/-- The flags of a network interface are read, changed and written back. -/
def networkIface (iface : Option CString) (change : UInt16 → UInt16) : Prog HostCall Int :=
  match iface with
  | none => pure (-1)
  | some iface => do
      let fd ← Prog.perform .socket
      if fd < 0 then pure (-1)
      else closing fd do
        match ← Prog.perform (.getFlags fd (iface.take ifNameSize)) with
        | none => pure (-1)
        | some flags => do
            let rc ← Prog.perform (.ioctl fd (.setFlags (iface.take ifNameSize) (change flags)))
            if rc < 0 then pure (-1) else pure 0

def networkIfaceDown (iface : Option CString) : Prog HostCall Int :=
  networkIface iface fun flags => flags &&& ~~~iffUp

/-- The number at the start of a text, behind blanks and a sign. -/
def atoi (text : CString) : Int :=
  let number : Int := ofDigits 10 (digitPrefix hexValue 10 (unsignedPart text))
  if IsNegative text then -number else number

/-- No end is set behind the bytes that were read; a file of sysfs ends in a newline. -/
def sysfsValueRead (path : Option Path) : Prog HostCall Int :=
  match path with
  | none => pure (-1)
  | some path => do
      let fd ← Prog.perform (.openFile path)
      if fd < 0 then pure (-1)
      else closing fd do
        match ← Prog.perform (.read fd 100) with
        | none => pure (-1)
        | some bytes => if bytes.length = 0 then pure (-1) else pure (atoi bytes)

def sysfsStringWrite (path : Option Path) (buffer : Option Bytes) : Prog HostCall Int :=
  match path, buffer with
  | some path, some buffer =>
      if buffer.length = 0 then pure (-1)
      else do
        let fd ← Prog.perform (.openFile path)
        if fd < 0 then pure (-1)
        else closing fd do
          let rc ← Prog.perform (.write fd buffer)
          if rc < buffer.length then pure (-1) else pure 0
  | _, _ => pure (-1)

/-! ### Switching the modems on and off -/

/-- The functions of a client that switch its modem. -/
structure PowerHandlers where
  powerOn : Option (Prog HostCall Int)
  powerOff : Option (Prog HostCall Int)

def crespoPower (request : HostRequest) : Prog HostCall Int := do
  let fd ← Prog.perform (.openFile crespoModemCtlDevice)
  if fd < 0 then pure (-1)
  else do
    let rc ← closing fd (Prog.perform (.ioctl fd request))
    if rc < 0 then pure (-1) else pure 0

def crespoPowerOn : Prog HostCall Int := crespoPower .modemStart

def crespoPowerOff : Prog HostCall Int := crespoPower .modemOff

def ariesModemctlStatusSysfs : Path := cString "/sys/class/modemctl/xmm/status"

def ariesModemctlControlSysfs : Path := cString "/sys/class/modemctl/xmm/control"

/-- Nothing is done if the modem is already as wanted. -/
def ariesPower (wanted : Int) (buffer : Bytes) : Prog HostCall Int := do
  let value ← sysfsValueRead (some ariesModemctlStatusSysfs)
  if value < 0 then pure (-1)
  else if value = wanted then pure 0
  else do
    let rc ← sysfsStringWrite (some ariesModemctlControlSysfs) (some buffer)
    if rc < 0 then pure (-1) else pure 0

def ariesPowerOn : Prog HostCall Int := ariesPower 1 (cString "on\n")

def ariesPowerOff : Prog HostCall Int := ariesPower 0 (cString "off\n")

def ariesPowerHandlers : PowerHandlers := ⟨some ariesPowerOn, some ariesPowerOff⟩

/-! ### `xmm616.c` -/

/-- `while (wc < size)`, with all that is left in each `write`; or a copy, if there is an address. -/
def memorySend (deviceFd : Int) (deviceAddress : Option Nat) (data : Bytes) : Prog HostCall Int :=
  match deviceAddress with
  | some address => do
      Prog.perform (.memcpy address data)
      pure 0
  | none => do
      match ← (psiLoop data).run.translate (HostCall.onDevice deviceFd) with
      | .ok _ => pure 0
      | .error _ => pure (-1)

def xmm616FirmwareSend (client : Option IpcClient) (deviceFd : Int) (deviceAddress : Option Nat)
    (firmwareData : Option Bytes) : Prog HostCall Int :=
  match firmwareData with
  | none => pure (-1)
  | some firmware =>
      if client.isNone ∨ (deviceFd < 0 ∧ deviceAddress.isNone) ∨ firmware.length = 0 then pure (-1)
      else memorySend deviceFd deviceAddress firmware

def xmm616NvDataSend (client : Option IpcClient) (deviceFd : Int) (deviceAddress : Option Nat) :
    Prog HostCall Int :=
  if client.isNone ∨ (deviceFd < 0 ∧ deviceAddress.isNone) then pure (-1)
  else if ipcClientNvDataSize client = 0 then pure (-1)
  else do
    match ← Prog.perform .nvDataLoad with
    | none => pure (-1)
    | some nvData => do
        let rc ← memorySend deviceFd deviceAddress nvData.data
        Prog.perform (.free nvData.address)
        pure rc

/-! ### What the boots have in common -/

/-- The variables of a boot that its end looks at; the crespo maps nothing. -/
structure Xmm616Locals where
  modemImageData : Option HeapBuffer
  /-- `modem_ctl_fd` or `onedram_fd`. -/
  deviceFd : Int
  serialFd : Int
  onedramAddress : SharedMapping

def Xmm616Locals.initial : Xmm616Locals := ⟨none, -1, -1, .null⟩

/-- `goto error` is an exception. -/
abbrev Xmm616Booting := ExceptT Xmm616Locals (Prog HostCall)

namespace Xmm616Booting

variable {α : Type}

def call (request : HostCall α) : Xmm616Booting α := ExceptT.mk do
  let answer ← Prog.perform request
  pure (.ok answer)

def error (locals : Xmm616Locals) : Xmm616Booting α := ExceptT.mk (.pure (.error locals))

/-- A function that is called, and `if (rc < 0) goto error`. -/
def require (locals : Xmm616Locals) (function : Prog HostCall Int) : Xmm616Booting Unit :=
  ExceptT.mk do
    let rc ← function
    pure (if rc < 0 then .error locals else .ok ())

def readImage (path : Path) (size : Nat) : Xmm616Booting (Bytes × Xmm616Locals) := do
  match ← call (.fileDataRead path size 0x1000 0) with
  | none => error .initial
  | some image => pure (image.data, { Xmm616Locals.initial with modemImageData := some image })

def openDevice (path : Path) (locals : Xmm616Locals) : Xmm616Booting Xmm616Locals := do
  let deviceFd ← call (.openFile path)
  if deviceFd < 0 then error { locals with deviceFd := deviceFd }
  else pure { locals with deviceFd := deviceFd }

def openSerial (path : Path) (locals : Xmm616Locals) : Xmm616Booting Xmm616Locals := do
  let serialFd ← call (.openFile path)
  if serialFd < 0 then error { locals with serialFd := serialFd }
  else pure { locals with serialFd := serialFd }

/-- The PSI goes over the serial line. -/
def sendPsi (locals : Xmm616Locals) (psi : Bytes) : Xmm616Booting Unit :=
  require locals
    ((xmm616PsiSend locals.serialFd (some psi)).translate (HostCall.onDevice locals.serialFd))

end Xmm616Booting

open Xmm616Booting

def freeImage (modemImageData : Option HeapBuffer) : Prog HostCall Unit :=
  match modemImageData with
  | none => pure ()
  | some image => Prog.perform (.free image.address)

def closeHostFd (fd : Int) : Prog HostCall Unit :=
  if fd ≥ 0 then Prog.perform (.close fd) else pure ()

/-- A mapping that has failed is not `NULL`, and is given to `munmap`. -/
def unmapOnedram (onedramAddress : SharedMapping) : Prog HostCall Unit :=
  if onedramAddress ≠ .null then Prog.perform (.munmap onedramAddress ariesOnedramMemorySize)
  else pure ()

def Xmm616Locals.release (locals : Xmm616Locals) : Prog HostCall Unit := do
  freeImage locals.modemImageData
  closeHostFd locals.serialFd
  unmapOnedram locals.onedramAddress
  closeHostFd locals.deviceFd

/-- `rc = 0; goto complete; error: rc = -1; complete:` and what follows. -/
def xmm616BootEnd (body : Xmm616Booting Xmm616Locals) : Prog HostCall Int := do
  match ← body.run with
  | .ok locals => do
      locals.release
      pure 0
  | .error locals => do
      locals.release
      pure (-1)

/-! ### `crespo.c` -/

def crespoModemImageDevice : Path := cString "/dev/mtd/mtd5ro"

def crespoModemSerialDevice : Path := xmm616SerialDevice

def crespoModemImageSize : Nat := 0xD80000

def crespoPsiSize : Nat := 0x5000

def crespoModemCtlNvDataOffset : Nat := 0xD80000

def crespoPsi : ImageSection := ⟨0, crespoPsiSize⟩

def crespoFirmware : ImageSection := ⟨crespoPsiSize, crespoModemImageSize - crespoPsiSize⟩

def crespoBoot (client : Option IpcClient) : Prog HostCall Int :=
  if client.isNone then pure (-1)
  else xmm616BootEnd do
    let (image, locals) ← readImage crespoModemImageDevice crespoModemImageSize
    let locals ← openDevice crespoModemCtlDevice locals
    require locals (Prog.perform (.ioctl locals.deviceFd .modemReset))
    let locals ← openSerial crespoModemSerialDevice locals
    sendPsi locals (crespoPsi.of image)
    let _ ← call (.lseek locals.deviceFd 0)
    require locals (xmm616FirmwareSend client locals.deviceFd none (some (crespoFirmware.of image)))
    let _ ← call (.lseek locals.deviceFd crespoModemCtlNvDataOffset)
    require locals (xmm616NvDataSend client locals.deviceFd none)
    pure locals

/-! ### `aries.c` -/

def ariesModemImageDevice : Path := cString "/dev/block/bml12"

def ariesModemSerialDevice : Path := xmm616SerialDevice

def ariesModemIface : CString := cString "svnet0"

def ariesModemImageSize : Nat := 0xA00000

def ariesPsiSize : Nat := 0x5000

def ariesOnedramNvDataOffset : Nat := 0xD80000

def ariesOnedramMagic : Nat := 0x45674567

def ariesOnedramDeinit : Nat := 0xABCDABCD

def ariesPsi : ImageSection := ⟨0, ariesPsiSize⟩

def ariesFirmware : ImageSection := ⟨ariesPsiSize, ariesModemImageSize - ariesPsiSize⟩

/-- The loop that waits until the modem says this word, in the pass with this `i`. -/
def onedramWait (locals : Xmm616Locals) (word : Nat) (i : Nat) : Xmm616Booting Unit := do
  let rc ← call (.select locals.deviceFd)
  if rc ≤ 0 then error locals
  else do
    match ← call (.read locals.deviceFd 4) with
    | none => error locals
    | some bytes =>
        if bytes.length < 4 then error locals
        else if 50 < i then error locals
        else if LittleEndian.decode bytes ≠ word then onedramWait locals word (i + 1)
        else pure ()
  termination_by 51 - i

def mapOnedram (locals : Xmm616Locals) : Xmm616Booting Xmm616Locals := do
  match ← call (.mmap locals.deviceFd ariesOnedramMemorySize) with
  | .null => error locals
  | .failed => error { locals with onedramAddress := .failed }
  | .mapped => pure { locals with onedramAddress := .mapped }

/-- The mapping is given up before the modem gets its memory back and is told to start. -/
def handOver (locals : Xmm616Locals) : Xmm616Booting Unit := do
  require locals (Prog.perform (.ioctl locals.deviceFd .onedramRelSem))
  let rc ← call (.write locals.deviceFd (LittleEndian.encode 4 ariesOnedramMagic))
  if rc < 4 then error locals else onedramWait locals ariesOnedramDeinit 0

/-- The modem is switched on and then off, where the log says that it is switched off and then on. -/
def ariesBoot (client : Option IpcClient) (handlers : Option PowerHandlers) : Prog HostCall Int :=
  match handlers with
  | some ⟨some powerOn, some powerOff⟩ =>
      if client.isNone then pure (-1)
      else xmm616BootEnd do
        let (image, locals) ← readImage ariesModemImageDevice ariesModemImageSize
        let locals ← openDevice ariesOnedramDevice locals
        require locals (networkIfaceDown (some ariesModemIface))
        require locals powerOn
        require locals powerOff
        let locals ← openSerial ariesModemSerialDevice locals
        sendPsi locals (ariesPsi.of image)
        onedramWait locals ariesOnedramInit 0
        let locals ← mapOnedram locals
        require locals (xmm616FirmwareSend client (-1) (some 0) (some (ariesFirmware.of image)))
        require locals (xmm616NvDataSend client (-1) (some ariesOnedramNvDataOffset))
        call (.munmap locals.onedramAddress ariesOnedramMemorySize)
        let locals := { locals with onedramAddress := .null }
        handOver locals
        pure locals
  | _ => pure (-1)

end SamsungIpc
