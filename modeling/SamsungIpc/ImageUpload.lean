import SamsungIpc.CStrings
import SamsungIpc.EffectRuns
import SamsungIpc.FlashCommand

/-! The upload of the PSI and the EBL, the first two stages of the modem's boot, over the three links. A
`write` may be short. An upload that succeeds has given the device one word of a language: an opening, the
size, the image in pieces, and its checksum. -/

namespace SamsungIpc

open Computability Effect

/-! ### Calls on the device -/

/-- A call and the type of its result: the value returned, or the bytes read (`none` for a negative
result). The sets and the timeouts of `select` are left out. -/
inductive DeviceCall : Type → Type where
  | write (bytes : Bytes) : DeviceCall Int
  | read (count : Nat) : DeviceCall (Option Bytes)
  | select : DeviceCall Int

/-- The bytes given to a `write`, and its result. -/
structure DeviceWrite where
  bytes : Bytes
  rc : Int

namespace DeviceWrite

/-- The bytes the device has taken. -/
def accepted (write : DeviceWrite) : Bytes := write.bytes.take write.rc.toNat

/-- A write that was not short. -/
def whole (bytes : Bytes) : DeviceWrite := ⟨bytes, bytes.length⟩

end DeviceWrite

open DeviceWrite

/-- A `goto error` is an exception, and so is the `-1` of a function whose callers all leave on it. -/
abbrev Upload := ExceptT Unit (Prog DeviceCall)

namespace Upload

variable {α : Type}

def call (request : DeviceCall α) : Upload α := ExceptT.mk do
  let answer ← Prog.perform request
  pure (.ok answer)

def error : Upload α := ExceptT.mk (.pure (.error ()))

/-- `write`, and `goto error` if it is short. -/
def writeWhole (bytes : Bytes) : Upload Unit := do
  let rc ← call (.write bytes)
  if rc < bytes.length then error else pure ()

/-- `select`, and `goto error` if the device is not ready in time. -/
def awaitReady : Upload Unit := do
  let rc ← call .select
  if rc ≤ 0 then error else pure ()

/-- A `read` of one byte, and `goto error` if it is not delivered. -/
def readByte : Upload UInt8 := do
  match ← call (.read 1) with
  | some (byte :: _) => pure byte
  | _ => error

/-- Bytes that are read and not looked at. -/
def skipBytes : Nat → Upload Unit
  | 0 => pure ()
  | count + 1 => do
      awaitReady
      let _ ← readByte
      skipBytes count

end Upload

open Upload

/-- The result of a function with these arguments that ends in `rc = 0; goto complete`. The data are `none`
for `NULL`; otherwise their length is the size that is given with them. -/
def imageSend (deviceFd : Int) (data : Option Bytes) (upload : Bytes → Upload Unit) :
    Prog DeviceCall Int :=
  match data with
  | none => pure (-1)
  | some image =>
      if deviceFd < 0 ∨ image.length = 0 then pure (-1)
      else do
        match ← (upload image).run with
        | .ok _ => pure 0
        | .error _ => pure (-1)

/-! ### XMM626 -/

def xmm626At : Bytes := cString "ATAT"
def xmm626PsiPadding : UInt8 := 0xFF
def xmm626PsiMagic : UInt8 := 0x30

def xmm626CrcCalculate (data : Option Bytes) : UInt8 :=
  match data with
  | none => 0
  | some data => if data.length = 0 then 0 else data.foldl (fun crc byte => crc ^^^ byte) 0

/-- The loop that sends the greeting until `select` says that there is an answer, in the pass with
this `i`. -/
def bootupLoop (greeting : Bytes) (i : Nat) : Upload Unit := do
  writeWhole greeting
  let rc ← call .select
  if rc < 0 then error
  else if 50 < i then error
  else if rc = 0 then bootupLoop greeting (i + 1)
  else pure ()
  termination_by 51 - i

/-- The loop of the tries to read an acknowledgement of `width` bytes. -/
def ackLoop (width : Nat) (isAck : Nat → Bool) : Nat → Upload Unit
  | 0 => error
  | tries + 1 => do
      awaitReady
      match ← call (.read width) with
      | none => ackLoop width isAck tries
      | some bytes =>
          if bytes.length < width then ackLoop width isAck tries
          else if isAck (LittleEndian.decode bytes) then pure ()
          else ackLoop width isAck tries

/-- `while (wc < size)`, where the next `write` is given `count wc` bytes. -/
def imageLoop (image : Bytes) (count : Nat → Nat) (wc : Nat) : Upload Unit :=
  if wc < image.length then do
    let rc ← call (.write ((image.drop wc).take (count wc)))
    if rc ≤ 0 then error else imageLoop image count (wc + rc.toNat)
  else pure ()
  termination_by image.length - wc

def psiLoop (image : Bytes) : Upload Unit := imageLoop image (fun wc => image.length - wc) 0

def eblLoop (image : Bytes) (chunk : Nat) : Upload Unit :=
  imageLoop image
    (fun wc => if chunk < image.length - wc then chunk else image.length - wc) 0

/-! ### XMM626 over MIPI -/

def xmm626MipiEblChunk : Nat := 0xDFC

/-- An `int`, shifted as two's complement. -/
def xmm626MipiCrcCalculate (data : Option Bytes) : UInt32 :=
  (xmm626CrcCalculate data).toUInt32 <<< 24 ||| 0xffffff

def xmm626MipiAckRead (ack : Nat) : Upload Unit := ackLoop 4 (fun value => value &&& 0xffff = ack) 50

/-- `struct xmm626_mipi_psi_header`, with the bytes of the length swapped. -/
def xmm626MipiPsiHeader (psiSize : UInt16) : Bytes :=
  let low : UInt16 := 0xff
  let length := ((psiSize >>> 8) &&& low) ||| ((psiSize &&& low) <<< 8)
  [xmm626PsiPadding] ++ LittleEndian.encode 2 length.toNat ++ [xmm626PsiMagic]

def xmm626MipiPsiSend (deviceFd : Int) (psiData : Option Bytes) : Prog DeviceCall Int :=
  imageSend deviceFd psiData fun image => do
    bootupLoop xmm626At 0
    xmm626MipiAckRead 0xFFFF
    writeWhole (xmm626MipiPsiHeader (UInt16.ofNat image.length))
    psiLoop image
    writeWhole (LittleEndian.encode 4 (xmm626MipiCrcCalculate (some image)).toNat)
    xmm626MipiAckRead 0xDD01

/-- `boot_magic`, four `unsigned short`. -/
def xmm626MipiBootMagic : Bytes := [0, 0, 0x02, 0x02].flatMap (LittleEndian.encode 2)

def xmm626MipiEblSend (abi : Abi) (deviceFd : Int) (eblData : Option Bytes) : Prog DeviceCall Int :=
  imageSend deviceFd eblData fun image => do
    writeWhole (LittleEndian.encode abi.sizeBytes xmm626MipiBootMagic.length)
    writeWhole xmm626MipiBootMagic
    xmm626MipiAckRead 0xAA00
    writeWhole (LittleEndian.encode abi.sizeBytes abi.sizeBytes)
    writeWhole (LittleEndian.encode abi.sizeBytes image.length)
    xmm626MipiAckRead 0xCCCC
    writeWhole (LittleEndian.encode abi.sizeBytes ((image.length + 1) % 2 ^ abi.sizeBits))
    eblLoop image xmm626MipiEblChunk
    writeWhole [xmm626CrcCalculate (some image)]
    xmm626MipiAckRead 0xA551

/-! ### XMM626 over HSIC -/

def xmm626HsicEblChunk : Nat := 0x4000
def xmm626HsicPsiUnknownCount : Nat := 22
def xmm626HsicPsiCrcAckCount : Nat := 2

def xmm626HsicAckRead (ack : Nat) : Upload Unit := ackLoop 2 (fun value => value = ack) 50

/-- `struct xmm626_hsic_psi_header`. -/
def xmm626HsicPsiHeader (psiSize : UInt16) : Bytes :=
  [xmm626PsiMagic] ++ LittleEndian.encode 2 psiSize.toNat ++ [xmm626PsiPadding]

def xmm626HsicPsiSend (deviceFd : Int) (psiData : Option Bytes) : Prog DeviceCall Int :=
  imageSend deviceFd psiData fun image => do
    bootupLoop xmm626At 0
    -- the acknowledgement and the chip id are only logged
    skipBytes 2
    writeWhole (xmm626HsicPsiHeader (UInt16.ofNat image.length))
    psiLoop image
    writeWhole [xmm626CrcCalculate (some image)]
    skipBytes xmm626HsicPsiUnknownCount
    skipBytes xmm626HsicPsiCrcAckCount
    xmm626HsicAckRead 0xAA00

def xmm626HsicEblSend (abi : Abi) (deviceFd : Int) (eblData : Option Bytes) : Prog DeviceCall Int :=
  imageSend deviceFd eblData fun image => do
    writeWhole (LittleEndian.encode abi.sizeBytes image.length)
    xmm626HsicAckRead 0xCCCC
    eblLoop image xmm626HsicEblChunk
    writeWhole [xmm626CrcCalculate (some image)]
    xmm626HsicAckRead 0xA551

/-! ### XMM616 over a serial line -/

def xmm616At : Bytes := cString "AT"
def xmm616AtCount : Nat := 20
def xmm616PsiMagic : UInt8 := 0x30
def xmm616PsiAck : UInt8 := 0x01
def xmm616BootcoreVersion : UInt8 := 0xF0

def atLoop : Nat → Upload Unit
  | 0 => pure ()
  | count + 1 => do
      writeWhole xmm616At
      atLoop count

/-- The loop over the bytes of the PSI, which keeps the checksum. -/
def serialLoop : Bytes → UInt8 → Upload UInt8
  | [], psiCrc => pure psiCrc
  | byte :: image, psiCrc => do
      awaitReady
      writeWhole [byte]
      serialLoop image (psiCrc ^^^ byte)

/-- The loop that waits for the acknowledgement, in the pass with this `i`. -/
def serialAckLoop (i : Nat) : Upload Unit := do
  awaitReady
  let psiAck ← readByte
  if 50 < i then error
  else if psiAck ≠ xmm616PsiAck then serialAckLoop (i + 1)
  else pure ()
  termination_by 51 - i

/-- What follows the bootcore version; the size of the info is only logged. -/
def xmm616PsiTransfer (image : Bytes) : Upload Unit := do
  let _ ← readByte
  writeWhole [xmm616PsiMagic]
  writeWhole (LittleEndian.encode 2 (UInt16.ofNat image.length).toNat)
  let psiCrc ← serialLoop image 0
  awaitReady
  writeWhole [psiCrc]
  serialAckLoop 0

/-- The settings of the line and the pauses are left out. -/
def xmm616PsiSend (serialFd : Int) (psiData : Option Bytes) : Prog DeviceCall Int :=
  imageSend serialFd psiData fun image => do
    atLoop xmm616AtCount
    let version ← readByte
    if version ≠ xmm616BootcoreVersion then error else xmm616PsiTransfer image

end SamsungIpc
