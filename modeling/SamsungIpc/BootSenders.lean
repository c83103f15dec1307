import SamsungIpc.EffectAttempts
import SamsungIpc.FlashTransfer
import SamsungIpc.ImageUpload

/-! What the boot code sends behind the EBL, as programs over the device's calls: the commands of the two
buses with the replies they wait for, the data transfers, and the senders made of them. The result is
`none` where the code goes through a `NULL` that `calloc` has returned. The tests of `client` for `NULL`
are left out: the boots have made them. -/

namespace SamsungIpc

open ByteSplice Effect Upload

/-! ### Ends of a function -/

/-- How a function leaves its way: `goto error`, or through a `NULL`. -/
inductive SendExit where
  | error
  | fault

abbrev Sender := ExceptT SendExit (Prog DeviceCall)

/-- `rc = 0; goto complete; error: rc = -1`. -/
def endResult : Except SendExit Unit → Option Int
  | .ok () => some 0
  | .error .error => some (-1)
  | .error .fault => none

/-- `if (rc < 0) goto error`. -/
def checkResult : Option Int → Except SendExit Unit
  | none => .error .fault
  | some rc => if rc < 0 then .error .error else .ok ()

/-- The end of a function. -/
def ended {F : Type → Type} (body : ExceptT SendExit (Prog F) Unit) : Prog F (Option Int) := do
  let result ← body.run
  pure (endResult result)

/-- A call, and the test of its result. -/
def checked {F : Type → Type} (function : Prog F (Option Int)) : ExceptT SendExit (Prog F) Unit :=
  ExceptT.mk do
    let rc ← function
    pure (checkResult rc)

namespace Sender

variable {α : Type}

def error : Sender α := ExceptT.mk (.pure (.error .error))

def fault : Sender α := ExceptT.mk (.pure (.error .fault))

/-- Calls that can only `goto error`. -/
def ofUpload (upload : Upload α) : Sender α := ExceptT.mk do
  let result ← upload.run
  pure (result.mapError fun _ => .error)

/-- `rc = read(fd, buffer, count); if (rc < (int) count) goto error`. -/
def readInt (count : Nat) : Sender Bytes := ofUpload do
  match ← call (.read count) with
  | none => Upload.error
  | some bytes => if (bytes.length : Int) < cInt count then Upload.error else pure bytes

/-- `rc = write(fd, buffer, length); if (rc < (int) length) goto error`. -/
def writeInt (bytes : Bytes) : Sender Unit := ofUpload do
  let rc ← call (.write bytes)
  if rc < cInt bytes.length then Upload.error else pure ()

end Sender

open Sender

def xmm626CommandSetPortConfig : UInt16 := 0x86

def xmm626CommandSecStart : UInt16 := 0x204

def xmm626CommandSecEnd : UInt16 := 0x205

def xmm626CommandHwReset : UInt16 := 0x208

def xmm626SecEndMagic : UInt16 := 0x0000

def xmm626HwResetMagic : UInt32 := 0x111001

def xmm626FirmwareAddress : UInt32 := 0x60300000

def xmm626NvDataAddress : UInt32 := 0x60E80000

def xmm626MpsDataAddress : UInt32 := 0x61080000

/-- The bytes of the `unsigned short` that ends the security section. -/
def secEndData : Bytes := LittleEndian.encode 2 xmm626SecEndMagic.toNat

def hwResetData : Bytes := LittleEndian.encode 4 xmm626HwResetMagic.toNat

/-- The size of a block is not zero, or the loop would not end. -/
abbrev ChunkSize := { size : Nat // 0 < size }

namespace ModemBoot

/-! ### Transfers -/

/-- `while (c < size)` over the data, each block of which is one command. -/
def modemDataLoop (send : Bytes → Prog DeviceCall (Option Int)) (chunk : ChunkSize) (data : Bytes)
    (c : Nat) : Sender Unit :=
  if c < data.length then do
    let count := if chunk.val < data.length - c then chunk.val else data.length - c
    checked (send ((data.drop c).take count))
    modemDataLoop send chunk data (c + count)
  else pure ()
  termination_by data.length - c
  decreasing_by
    have := chunk.property
    split <;> omega

def modemDataSend (deviceFd : Int) (data : Option Bytes) (setAddress : Prog DeviceCall (Option Int))
    (send : Bytes → Prog DeviceCall (Option Int)) (chunk : ChunkSize) :
    Prog DeviceCall (Option Int) :=
  match data with
  | none => pure (some (-1))
  | some data =>
      if deviceFd < 0 ∨ data.length = 0 then pure (some (-1))
      else ended do
        checked setAddress
        modemDataLoop send chunk data 0

/-- A sender that tests its arguments and passes them on. -/
def dataSend (deviceFd : Int) (data : Option Bytes)
    (send : Option Bytes → Prog DeviceCall (Option Int)) : Prog DeviceCall (Option Int) :=
  match data with
  | none => pure (some (-1))
  | some data =>
      if deviceFd < 0 ∨ data.length = 0 then pure (some (-1))
      else ended (checked (send (some data)))

/-! ### HSIC -/

/-- The reply to the command `code`. -/
def hsicReplyRead (code : UInt16) (commandDataSize : Nat) : Sender Unit := do
  ofUpload awaitReady
  let header ← readInt xmm626HsicCommandHeaderSize
  ofUpload awaitReady
  let _ ← readInt commandDataSize
  if LittleEndian.decode ((header.drop 2).take 2) ≠ code.toNat then error else pure ()

def hsicCommand (code : UInt16) (frame : Bytes) (commandDataSize : Nat) (ack : Bool) : Sender Unit := do
  writeInt frame
  if ack = false then pure () else hsicReplyRead code commandDataSize

/-- `data` is `none` for `NULL`; otherwise its length is the argument `size`. -/
def xmm626HsicCommandSend (abi : Abi) (deviceFd : Int) (code : UInt16) (data : Option Bytes)
    (commandDataSize : Nat) (ack : Bool) : Prog DeviceCall (Option Int) :=
  match data with
  | none => pure (some (-1))
  | some data =>
      if deviceFd < 0 ∨ data.length = 0 ∨ commandDataSize = 0 ∨ commandDataSize < data.length then
        pure (some (-1))
      else
        let frame := xmm626HsicFrame code data commandDataSize
        match abi.calloc frame.length with
        | none => pure none
        | some _ => ended (hsicCommand code frame commandDataSize ack)

def xmm626HsicPortConfigSize : Nat := 0x4C

def xmm626HsicSetPortConfigSize : Nat := 0x800

def xmm626HsicSecStartSize : Nat := 0x4000

def xmm626HsicSecEndSize : Nat := 0x4000

def xmm626HsicHwResetSize : Nat := 0x4000

def xmm626HsicModemDataSend (abi : Abi) (deviceFd : Int) (data : Option Bytes) (address : UInt32) :
    Prog DeviceCall (Option Int) :=
  modemDataSend deviceFd data
    (xmm626HsicCommandSend abi deviceFd xmm626CommandFlashSetAddress
      (some (LittleEndian.encode 4 address.toNat)) xmm626HsicFlashSetAddressSize true)
    (fun block => xmm626HsicCommandSend abi deviceFd xmm626CommandFlashWriteBlock (some block)
      xmm626HsicFlashWriteBlockSize false)
    ⟨xmm626HsicModemDataChunk, by decide⟩

def xmm626HsicPortConfigSend (abi : Abi) (deviceFd : Int) : Prog DeviceCall (Option Int) :=
  if deviceFd < 0 then pure (some (-1))
  else ended do
    ofUpload awaitReady
    ofUpload awaitReady
    let buffer ← readInt xmm626HsicPortConfigSize
    checked (xmm626HsicCommandSend abi deviceFd xmm626CommandSetPortConfig (some buffer)
      xmm626HsicSetPortConfigSize true)

def xmm626HsicSecStartSend (abi : Abi) (deviceFd : Int) (secData : Option Bytes) :
    Prog DeviceCall (Option Int) :=
  dataSend deviceFd secData fun data => xmm626HsicCommandSend abi deviceFd xmm626CommandSecStart data
    xmm626HsicSecStartSize true

def xmm626HsicSecEndSend (abi : Abi) (deviceFd : Int) : Prog DeviceCall (Option Int) :=
  dataSend deviceFd (some secEndData) fun data => xmm626HsicCommandSend abi deviceFd
    xmm626CommandSecEnd data xmm626HsicSecEndSize true

def xmm626HsicFirmwareSend (abi : Abi) (deviceFd : Int) (firmwareData : Option Bytes) :
    Prog DeviceCall (Option Int) :=
  dataSend deviceFd firmwareData fun data =>
    xmm626HsicModemDataSend abi deviceFd data xmm626FirmwareAddress

def xmm626HsicHwResetSend (abi : Abi) (deviceFd : Int) : Prog DeviceCall (Option Int) :=
  dataSend deviceFd (some hwResetData) fun data => xmm626HsicCommandSend abi deviceFd
    xmm626CommandHwReset data xmm626HsicHwResetSize false

/-! ### MIPI -/

/-- `while (c < length)`. A store behind the end of the buffer goes to the memory there. -/
def mipiReplyLoop (length c : Nat) (buffer : Bytes) : Sender Bytes :=
  if c < length then do
    ofUpload awaitReady
    let block ← readInt 4
    mipiReplyLoop length (c + 4) (splice buffer c block)
  else pure buffer
  termination_by length - c

/-- Reading the rest of a reply into a buffer of `length` bytes, and comparing the command codes. -/
def mipiReplyRead (abi : Abi) (code : UInt16) (length : Nat) : Sender Unit :=
  match abi.calloc length with
  | none => fault
  | some buffer => do
      let buffer ← mipiReplyLoop length abi.sizeBytes
        (splice buffer 0 (LittleEndian.encode abi.sizeBytes length))
      let header := buffer.take xmm626MipiCommandHeaderSize
      if LittleEndian.decode ((header.drop 6).take 2) ≠ code.toNat then error else pure ()

/-- The reply to the command `code`. -/
def mipiReply (abi : Abi) (code : UInt16) : Sender Unit := do
  ofUpload awaitReady
  let stored ← readInt abi.sizeBytes
  if LittleEndian.decode stored = 0 then error
  else
    let length := mipiReplyLength abi (LittleEndian.decode stored)
    if length < abi.sizeBytes then error else mipiReplyRead abi code length

def mipiCommand (abi : Abi) (code : UInt16) (frame : Bytes) (ack : Bool) : Sender Unit := do
  writeInt frame
  if ack = false then pure () else mipiReply abi code

/-- `data` is `none` for `NULL`; otherwise its length is the argument `size`. -/
def xmm626MipiCommandSend (abi : Abi) (deviceFd : Int) (code : UInt16) (data : Option Bytes)
    (ack shortFooter : Bool) : Prog DeviceCall (Option Int) :=
  match data with
  | none => pure (some (-1))
  | some data =>
      if deviceFd < 0 ∨ data.length = 0 then pure (some (-1))
      else
        let frame := xmm626MipiFrame code data shortFooter
        match abi.calloc frame.length with
        | none => pure none
        | some _ => ended (mipiCommand abi code frame ack)

def xmm626MipiModemDataSend (abi : Abi) (deviceFd : Int) (data : Option Bytes) (address : UInt32) :
    Prog DeviceCall (Option Int) :=
  modemDataSend deviceFd data
    (xmm626MipiCommandSend abi deviceFd xmm626CommandFlashSetAddress
      (some (LittleEndian.encode 4 address.toNat)) true false)
    (fun block => xmm626MipiCommandSend abi deviceFd xmm626CommandFlashWriteBlock (some block)
      true true)
    ⟨xmm626MipiModemDataChunk, by decide⟩

/-- The loop that reads the configuration, of which `read` has been read already. -/
def portConfigLoop (length : Nat) (read : Bytes) : Nat → Sender Bytes
  | 0 => pure read
  | passes + 1 =>
      if read.length < length then do
        ofUpload awaitReady
        let block ← readInt (if 4 < length - read.length then 4 else length - read.length)
        portConfigLoop length (read ++ block) passes
      else pure read

/-- A buffer for the configuration, filled. Into `NULL` nothing can be read. -/
def portConfigRead (abi : Abi) (length : Nat) : Sender Bytes :=
  match abi.calloc length with
  | none => do
      ofUpload awaitReady
      error
  | some _ => portConfigLoop length [] length

def xmm626MipiPortConfigSend (abi : Abi) (deviceFd : Int) : Prog DeviceCall (Option Int) :=
  if deviceFd < 0 then pure (some (-1))
  else ended do
    ofUpload awaitReady
    let stored ← readInt abi.sizeBytes
    if LittleEndian.decode stored = 0 then error
    else do
      let buffer ← portConfigRead abi (LittleEndian.decode stored)
      checked (xmm626MipiCommandSend abi deviceFd xmm626CommandSetPortConfig (some buffer) true false)

def xmm626MipiSecStartSend (abi : Abi) (deviceFd : Int) (secData : Option Bytes) :
    Prog DeviceCall (Option Int) :=
  dataSend deviceFd secData fun data =>
    xmm626MipiCommandSend abi deviceFd xmm626CommandSecStart data true false

def xmm626MipiSecEndSend (abi : Abi) (deviceFd : Int) : Prog DeviceCall (Option Int) :=
  dataSend deviceFd (some secEndData) fun data =>
    xmm626MipiCommandSend abi deviceFd xmm626CommandSecEnd data true true

def xmm626MipiFirmwareSend (abi : Abi) (deviceFd : Int) (firmwareData : Option Bytes) :
    Prog DeviceCall (Option Int) :=
  dataSend deviceFd firmwareData fun data =>
    xmm626MipiModemDataSend abi deviceFd data xmm626FirmwareAddress

def xmm626MipiMpsDataSend (abi : Abi) (deviceFd : Int) (mpsData : Option Bytes) :
    Prog DeviceCall (Option Int) :=
  dataSend deviceFd mpsData fun data =>
    xmm626MipiModemDataSend abi deviceFd data xmm626MpsDataAddress

def xmm626MipiHwResetSend (abi : Abi) (deviceFd : Int) : Prog DeviceCall (Option Int) :=
  dataSend deviceFd (some hwResetData) fun data =>
    xmm626MipiCommandSend abi deviceFd xmm626CommandHwReset data false true

end ModemBoot

end SamsungIpc
