import SamsungIpc.CStrings
import SamsungIpc.LittleEndian

/-! The calls a boot makes, their outcomes, and the log of them. Besides the system calls the log has
the tests that the code itself makes of what it has read. -/

namespace SamsungIpc

open ByteSplice Effect

/-- What `errno` can be after a failed call. -/
abbrev CallErrno := { errno : Errno // 0 < errno }

/-- `struct security_req`. -/
structure SecurityReq where
  mode : UInt32
  sizeBoot : UInt32
  sizeMain : UInt32
  padZero : UInt32

/-- `struct modem_firmware_partition_data`. -/
structure ModemFirmwarePartitionData where
  binary : Bytes
  size : UInt32
  mOffset : UInt32
  bOffset : UInt32
  mode : UInt32
  len : Nat

inductive IoctlRequest where
  | modemOn
  | modemReset
  | modemBootOn
  | modemBootOff
  | modemDlStart
  | securityReq (request : SecurityReq)
  | dpramSendBoot (partition : ModemFirmwarePartitionData)

/-- A step of a boot; `alternative` says that there is another path to open instead of a missing one. -/
inductive BootStep where
  | openFile (path : Path) (alternative : Bool)
  | read (fd : Fd) (count : Nat)
  | write (fd : Fd) (bytes : Bytes)
  | lseek (fd : Fd) (offset : UInt32)
  | ioctl (fd : Fd) (request : IoctlRequest)
  | tocEntry (name : CString)
  | handshake (expected : UInt32)

inductive StepResult where
  | success
  | error (errno : CallErrno)
  /-- A test of the code was negative. -/
  | rejected

structure BootEvent where
  step : BootStep
  result : StepResult

/-- The step has failed. A missing path is no failure where there is another one. -/
def BootEvent.Failed : BootEvent → Prop
  | ⟨_, .success⟩ => False
  | ⟨.openFile _ true, .error errno⟩ => errno.val ≠ ENOENT
  | _ => True

/-- A call and the type of its answer. A test answers nothing; it is a call for the log only. -/
inductive BootCall : Type → Type where
  | openFile (path : Path) (alternative : Bool) : BootCall (Except CallErrno Fd)
  | read (fd : Fd) (count : Nat) : BootCall (Except CallErrno Bytes)
  | write (fd : Fd) (bytes : Bytes) : BootCall (Except CallErrno Nat)
  | lseek (fd : Fd) (offset : UInt32) : BootCall (Except CallErrno Unit)
  | ioctl (fd : Fd) (request : IoctlRequest) : BootCall (Except CallErrno Unit)
  | test (step : BootStep) (passed : Bool) : BootCall Unit

/-- What the environment decides at a call: its error, if it fails, or else the new descriptor, the
bytes that are there to be read, or how many are written. -/
structure BootChoice where
  errno : Option CallErrno
  fd : Fd
  bytes : Bytes
  count : Nat

namespace BootChoice

variable {α : Type} (choice : BootChoice)

def answer (value : α) : Except CallErrno α :=
  match choice.errno with
  | none => .ok value
  | some errno => .error errno

def result : StepResult :=
  match choice.errno with
  | none => .success
  | some errno => .error errno

end BootChoice

def bootHandler : Handler BootCall BootChoice (List BootEvent)
  | _, choice, .openFile path alternative, log =>
      (choice.answer choice.fd, log ++ [⟨.openFile path alternative, choice.result⟩])
  | _, choice, .read fd count, log =>
      (choice.answer (choice.bytes.take count), log ++ [⟨.read fd count, choice.result⟩])
  | _, choice, .write fd bytes, log =>
      (choice.answer (min choice.count bytes.length), log ++ [⟨.write fd bytes, choice.result⟩])
  | _, choice, .lseek fd offset, log =>
      (choice.answer (), log ++ [⟨.lseek fd offset, choice.result⟩])
  | _, choice, .ioctl fd request, log =>
      (choice.answer (), log ++ [⟨.ioctl fd request, choice.result⟩])
  | _, _, .test step passed, log =>
      ((), log ++ [⟨step, if passed then .success else .rejected⟩])

/-- How a boot ends before its end. -/
inductive BootExit where
  /-- `goto exit` with this `rc`. -/
  | exit (rc : Int)
  /-- A loop goes on for longer than the run was followed. -/
  | unfinished

abbrev Boot := ExceptT BootExit (Prog BootCall)

namespace Boot

variable {α : Type}

def call (request : BootCall α) : Boot α := ExceptT.mk do
  let answer ← Prog.perform request
  pure (.ok answer)

/-- `goto exit` with `rc` as it was initialised. -/
def fail : Boot α := ExceptT.mk (pure (.error (.exit (-1))))

/-- `rc = errno; goto exit`. -/
def orErrno : Except CallErrno α → Boot α
  | .ok value => pure value
  | .error errno => ExceptT.mk (pure (.error (.exit errno.val)))

/-- A failed call is only told by `-1`. -/
def orFail : Except CallErrno α → Boot α
  | .ok value => pure value
  | .error _ => fail

/-- `if (rc < 0) goto exit`. -/
def failIfNegative (rc : Int) : Boot Unit := if rc < 0 then fail else pure ()

/-- `data_read` of `utils.c`, of which `fuel` reads are followed: every read is into the start of the
buffer and asks for `count` bytes. -/
def dataReadLoop (fd : Fd) (count : Nat) : Nat → Int → Bytes → Boot (Except CallErrno Bytes)
  | 0, _, _ => ExceptT.mk (pure (.error .unfinished))
  | fuel + 1, remaining, buffer =>
      if remaining > 0 then do
        let rc ← call (.read fd count)
        match rc with
        | .error errno => pure (.error errno)
        | .ok bytes => dataReadLoop fd count fuel (remaining - bytes.length) (splice buffer 0 bytes)
      else pure (.ok buffer)

def dataRead (fuel : Nat) (fd : Fd) (buffer : Bytes) (count : Nat) : Boot (Except CallErrno Bytes) :=
  dataReadLoop fd count fuel count buffer

def dataWriteLoop (fd : Fd) (buffer : Bytes) : Nat → Int → Boot (Except CallErrno Unit)
  | 0, _ => ExceptT.mk (pure (.error .unfinished))
  | fuel + 1, remaining =>
      if remaining > 0 then do
        let rc ← call (.write fd buffer)
        match rc with
        | .error errno => pure (.error errno)
        | .ok count => dataWriteLoop fd buffer fuel (remaining - count)
      else pure (.ok ())

def dataWrite (fuel : Nat) (fd : Fd) (buffer : Bytes) : Boot (Except CallErrno Unit) :=
  dataWriteLoop fd buffer fuel buffer.length

end Boot

end SamsungIpc
