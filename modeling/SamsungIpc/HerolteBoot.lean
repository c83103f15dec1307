import SamsungIpc.BootDevice

/-! The boot of herolte: the firmware's table of contents, the three uploads, and the handshake. -/

namespace SamsungIpc

open ByteSplice Effect LittleEndian

/-! ### The table of contents -/

/-- `struct firmware_toc_entry`. -/
structure FirmwareTocEntry where
  name : Bytes
  offset : UInt32
  loadaddr : UInt32
  size : UInt32
  crc : UInt32
  entryid : UInt32

def sizeofFirmwareTocEntry : Nat := 32

def sizeofTocName : Nat := 12

def nTocEntries : Nat := 512 / sizeofFirmwareTocEntry

def FirmwareTocEntry.ofBytes (buffer : Bytes) : FirmwareTocEntry where
  name := buffer.take sizeofTocName
  offset := UInt32.ofNat (decode ((buffer.drop 12).take 4))
  loadaddr := UInt32.ofNat (decode ((buffer.drop 16).take 4))
  size := UInt32.ofNat (decode ((buffer.drop 20).take 4))
  crc := UInt32.ofNat (decode ((buffer.drop 24).take 4))
  entryid := UInt32.ofNat (decode ((buffer.drop 28).take 4))

def tocOfBytes (buffer : Bytes) : List FirmwareTocEntry :=
  (List.range nTocEntries).map fun index => .ofBytes (buffer.drop (sizeofFirmwareTocEntry * index))

def findTocEntry (name : CString) : List FirmwareTocEntry → Option FirmwareTocEntry
  | [] => none
  | entry :: toc =>
      -- the first entry with an empty name ends the list
      if entry.name.headD 0 = 0 then none
      else if strncmp (strndup entry.name sizeofTocName) name sizeofTocName = 0 then some entry
      else findTocEntry name toc

/-! ### The boot -/

def maxChunkLen : Nat := 62 * 1024

def xmm626SecModemBoot0Device : Path := cString "/dev/umts_boot0"

def xmm626NvDataPath : Path := cString "/efs/nv_data.bin"

def modemImageDevices : List Path :=
  [cString "/dev/disk/by-partlabel/RADIO", cString "/dev/block/platform/155a0000.ufs/by-name/RADIO"]

namespace Boot

def openAndroidModemPartition : List Path → Boot (Except CallErrno Fd)
  | [] => pure (.error ⟨ENOENT, by decide⟩)
  | path :: paths => do
      let fd ← call (.openFile path (paths ≠ []))
      match fd with
      | .ok fd => pure (.ok fd)
      | .error errno =>
          if errno.val = ENOENT then openAndroidModemPartition paths else pure (.error errno)

/-- The chunks of an upload; there are at most as many as there are bytes. -/
def sendBoot (fuel : Nat) (deviceFd firmwareFd : Fd) :
    Nat → Nat → ModemFirmwarePartitionData → Boot Int
  | 0, _, _ => pure 0
  | chunks + 1, remaining, partition =>
      if remaining > 0 then do
        let len := if remaining < maxChunkLen then remaining else maxChunkLen
        let binary ← dataRead fuel firmwareFd partition.binary len
        match binary with
        | .error errno => pure errno.val
        | .ok binary => do
            let partition := { partition with binary := binary, len := len }
            let sent ← call (.ioctl deviceFd (.dpramSendBoot partition))
            match sent with
            | .error errno => pure errno.val
            | .ok () =>
                sendBoot fuel deviceFd firmwareFd chunks (remaining - len)
                  { partition with
                    mOffset := partition.mOffset + UInt32.ofNat len
                    bOffset := partition.bOffset + UInt32.ofNat len }
      else pure 0

/-- The result, and what is stored through `size` if anything is. -/
def uploadChunk (fuel : Nat) (deviceFd firmwareFd : Fd) (toc : List FirmwareTocEntry)
    (name : CString) : Boot (Int × Option UInt32) := do
  let bootTocEntry := findTocEntry (cString "BOOT") toc
  call (.test (.tocEntry (cString "BOOT")) bootTocEntry.isSome)
  match bootTocEntry with
  | none => pure (-1, none)
  | some bootTocEntry => do
      let currentTocEntry := findTocEntry name toc
      call (.test (.tocEntry name) currentTocEntry.isSome)
      match currentTocEntry with
      | none => pure (-1, none)
      | some currentTocEntry => do
          let sought ← call (.lseek firmwareFd currentTocEntry.offset)
          match sought with
          | .error errno => pure (-errno.val, some currentTocEntry.size)
          | .ok () => do
              let size := currentTocEntry.size
              let rc ← sendBoot fuel deviceFd firmwareFd size.toNat size.toNat {
                binary := List.replicate maxChunkLen 0
                size := size
                mOffset := currentTocEntry.loadaddr - bootTocEntry.loadaddr
                bOffset := currentTocEntry.offset
                mode := 0
                len := 0 }
              pure (rc, some size)

def selectSecureMode (boot0Fd : Fd) (secure : Bool) (sizeBoot sizeMain : UInt32) : Boot Int := do
  let rc ← call (.ioctl boot0Fd (.securityReq {
    mode := if secure then 0 else 2
    sizeBoot := sizeBoot
    sizeMain := sizeMain
    padZero := 0 }))
  match rc with
  | .error _ => pure (-1)
  | .ok () => pure 0

/-- One stage of the handshake: `buf` is sent, and what the modem answers is compared. -/
def handshakeStage (fuel : Nat) (boot0Fd : Fd) (buf expected : UInt32) : Boot Unit := do
  let written ← dataWrite fuel boot0Fd (encode 4 buf.toNat)
  orErrno written
  let answer ← dataRead fuel boot0Fd (encode 4 buf.toNat) 4
  let answer ← orErrno answer
  let passed := UInt32.ofNat (decode answer) = expected
  call (.test (.handshake expected) passed)
  if passed then pure () else fail

end Boot

open Boot

/-- The body of `herolte_boot`; `stack` is what is in the memory of `toc` before. -/
def herolteBootBody (fuel : Nat) (stack : Bytes) : Boot Int := do
  let imagefd ← openAndroidModemPartition modemImageDevices
  let imagefd ← orErrno imagefd
  let toc ← dataRead fuel imagefd stack 512
  let toc ← orErrno toc
  let toc := tocOfBytes toc
  let nvfd ← call (.openFile xmm626NvDataPath false)
  let nvfd ← orErrno nvfd
  let boot0Fd ← call (.openFile xmm626SecModemBoot0Device false)
  let boot0Fd ← orErrno boot0Fd
  let reset ← call (.ioctl boot0Fd .modemReset)
  orErrno reset
  let rc ← selectSecureMode boot0Fd false 0 0
  failIfNegative rc
  let boot ← uploadChunk fuel boot0Fd imagefd toc (cString "BOOT")
  failIfNegative boot.1
  let main ← uploadChunk fuel boot0Fd imagefd toc (cString "MAIN")
  failIfNegative main.1
  let nv ← uploadChunk fuel boot0Fd nvfd toc (cString "NV")
  failIfNegative nv.1
  let rc ← selectSecureMode boot0Fd true (boot.2.getD 0) (main.2.getD 0)
  failIfNegative rc
  let power ← call (.ioctl boot0Fd .modemOn)
  orFail power
  let bootPower ← call (.ioctl boot0Fd .modemBootOn)
  orFail bootPower
  let started ← call (.ioctl boot0Fd .modemDlStart)
  orErrno started
  handshakeStage fuel boot0Fd 0x900d 0xa00d
  handshakeStage fuel boot0Fd 0x9f00 0xaf00
  let bootPower ← call (.ioctl boot0Fd .modemBootOff)
  orFail bootPower
  pure 0

/-- `none` if the run was not followed to its end. -/
def herolteBoot (fuel : Nat) (stack : Bytes) : Prog BootCall (Option Int) := do
  let result ← (herolteBootBody fuel stack).run
  match result with
  | .ok rc => pure (some rc)
  | .error (.exit rc) => pure (some rc)
  | .error .unfinished => pure none

end SamsungIpc
