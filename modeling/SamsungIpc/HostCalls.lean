import Mathlib.Data.Finset.Insert
import Mathlib.Data.Finset.Lattice.Lemmas
import SamsungIpc.BlockMemory
import SamsungIpc.CommandOptions
import SamsungIpc.EffectLayers
import SamsungIpc.NvData
import SamsungIpc.SenderExact

/-! The calls of the devices with an XMM616, in a process that keeps account of what it has open, allocated
and mapped, in front of a modem whose memory is filled: through a device that is written to, or through a
shared mapping that the modem is told of when it is complete. -/

namespace SamsungIpc

open BlockMemory DeviceWrite Effect

/-! ### Paths -/

def crespoModemCtlDevice : Path := cString "/dev/modem_ctl"

def xmm616SerialDevice : Path := cString "/dev/s3c2410_serial3"

def ariesOnedramDevice : Path := cString "/dev/onedram"

def ariesOnedramMemorySize : Nat := 0xFFF000

def ariesOnedramInit : Nat := 0x12341234

/-! ### Calls -/

/-- What an open descriptor stands for. -/
inductive HostFile where
  | modemCtl
  | serial
  | onedram
  | attribute (path : Path)
  | socket
  deriving DecidableEq

def hostFile (path : Path) : HostFile :=
  if path = crespoModemCtlDevice then .modemCtl
  else if path = xmm616SerialDevice then .serial
  else if path = ariesOnedramDevice then .onedram
  else .attribute path

/-- The requests of the drivers, and those that set something of a network interface or of a socket. -/
inductive HostRequest where
  | modemReset
  | modemStart
  | modemOff
  | onedramRelSem
  | setFlags (name : CString) (flags : UInt16)
  deriving DecidableEq

/-- What `mmap` returns; the test for a failed one is made for pointers of 32 bits. -/
inductive SharedMapping where
  | null
  | failed
  | mapped
  deriving DecidableEq, Inhabited

/-- A buffer of the heap, and the data in it. -/
structure HeapBuffer where
  address : Nat
  data : Bytes

/-- A call and the type of its answer: a descriptor or a result as it is returned, the bytes that have been
read, a new buffer. A `memcpy` goes into the mapping, at an offset from its start. -/
inductive HostCall : Type → Type where
  | fileDataRead (path : Path) (size chunkSize offset : Nat) : HostCall (Option HeapBuffer)
  | nvDataLoad : HostCall (Option HeapBuffer)
  | free (buffer : Nat) : HostCall Unit
  | openFile (path : Path) : HostCall Int
  | socket : HostCall Int
  | close (fd : Int) : HostCall Unit
  | write (fd : Int) (bytes : Bytes) : HostCall Int
  | read (fd : Int) (count : Nat) : HostCall (Option Bytes)
  | select (fd : Int) : HostCall Int
  | lseek (fd : Int) (offset : Nat) : HostCall Int
  | ioctl (fd : Int) (request : HostRequest) : HostCall Int
  | getFlags (fd : Int) (name : CString) : HostCall (Option UInt16)
  | mmap (fd : Int) (size : Nat) : HostCall SharedMapping
  | munmap (mapping : SharedMapping) (size : Nat) : HostCall Unit
  | memcpy (offset : Nat) (bytes : Bytes) : HostCall Unit

namespace HostCall

/-- A call on the device behind `fd`. -/
def onDevice (fd : Int) : {β : Type} → DeviceCall β → HostCall β
  | _, .write bytes => .write fd bytes
  | _, .read count => .read fd count
  | _, .select => .select fd

end HostCall

/-! ### The process and the modem -/

/-- What is read of files: their content, and the NV data, of the size that the client gives. -/
structure HostSource (client : Option IpcClient) where
  content : Path → Bytes
  nvData : Bytes
  nvData_length : nvData.length = ipcClientNvDataSize client

/-- What the kernel decides at a call; each call takes what it needs. -/
structure HostChoice where
  fd : Nat
  buffer : Nat
  rc : Int
  data : Bytes
  mapping : SharedMapping
  fails : Bool
  deriving Inhabited

/-- What the process has, its buffers by their addresses and its mappings by their sizes, the mappings that
have failed and whose pointer has not been given to `munmap`, and whether it has used something that was not
there. -/
structure HostProcess where
  files : Int → Option HostFile
  buffers : Finset Nat
  mappings : List Nat
  failedMappings : Nat
  misused : Bool

/-- What the modem and the files of the kernel have been given, and what they have said. -/
structure Xmm616Modem where
  /-- The memory of the modem, and where in it the next bytes for `modemCtl` go. -/
  memory : Memory UInt8
  position : Nat
  /-- The offsets to which `lseek` did not go. -/
  failedSeeks : List Nat
  serial : Bytes
  /-- The words that were read from `onedram`, and the bytes that were written to it. -/
  heard : List Nat
  told : Bytes
  released : Bool
  /-- What was to be written to files of sysfs. -/
  attributes : List (Path × Bytes)
  flags : UInt16

structure HostWorld extends HostProcess, Xmm616Modem

/-- These bytes have been taken. -/
def Xmm616Modem.accept (modem : Xmm616Modem) (bytes : Bytes) : HostFile → Xmm616Modem
  | .serial => { modem with serial := modem.serial ++ bytes }
  | .modemCtl => { modem with
      memory := store modem.memory modem.position bytes
      position := modem.position + bytes.length }
  | .onedram => { modem with told := modem.told ++ bytes }
  | _ => modem

/-- What a request does if it succeeds. -/
def HostRequest.effect (request : HostRequest) (modem : Xmm616Modem) : Xmm616Modem :=
  match request with
  | .onedramRelSem => { modem with released := true }
  | .setFlags _ flags => { modem with flags := flags }
  | _ => modem

namespace HostWorld

/-- A process that has nothing open yet, and a modem with this memory. -/
def start (memory : Memory UInt8) (flags : UInt16) : HostWorld where
  files := fun _ => none
  buffers := ∅
  mappings := []
  failedMappings := 0
  misused := false
  memory := memory
  position := 0
  failedSeeks := []
  serial := []
  heard := []
  told := []
  released := false
  attributes := []
  flags := flags

def misuse (s : HostWorld) : HostWorld := { s with misused := true }

/-- A descriptor is not given out while it is in use. -/
def openAs (s : HostWorld) (file : HostFile) (choice : HostChoice) : Int × HostWorld :=
  if choice.fails ∨ s.files choice.fd ≠ none then (-1, s)
  else (choice.fd, { s with
    files := Function.update s.files choice.fd (some file)
    position := if file = .modemCtl then 0 else s.position })

def close (s : HostWorld) (fd : Int) : HostWorld :=
  match s.files fd with
  | none => s.misuse
  | some _ => { s with files := Function.update s.files fd none }

/-- The result of a `write`, and what it does. -/
def write (s : HostWorld) (file : HostFile) (bytes : Bytes) (choice : HostChoice) : Int × HostWorld :=
  let rc := min choice.rc bytes.length
  match file with
  | .attribute path => (rc, { s with attributes := s.attributes ++ [(path, bytes)] })
  | file => (rc, { s with toXmm616Modem := s.toXmm616Modem.accept (bytes.take rc.toNat) file })

def read (s : HostWorld) (file : HostFile) (count : Nat) (choice : HostChoice) : Option Bytes × HostWorld :=
  if choice.fails then (none, s)
  else
    let bytes := choice.data.take count
    (some bytes, if file = .onedram then { s with heard := s.heard ++ [LittleEndian.decode bytes] } else s)

def seek (s : HostWorld) (offset : Nat) (choice : HostChoice) : Int × HostWorld :=
  if choice.fails then (-1, { s with failedSeeks := s.failedSeeks ++ [offset] })
  else (offset, { s with position := offset })

/-- A request that fails has no effect. -/
def request (s : HostWorld) (request : HostRequest) (choice : HostChoice) : Int × HostWorld :=
  if choice.rc < 0 then (-1, s)
  else (choice.rc, { s with toXmm616Modem := request.effect s.toXmm616Modem })

/-- That many bytes are mapped, the modem has said that its memory can be filled, and it has not been given it
back. -/
def Grants (s : HostWorld) (length : Nat) : Prop :=
  (∃ size ∈ s.mappings, length ≤ size) ∧ s.released = false ∧ ariesOnedramInit ∈ s.heard

instance (s : HostWorld) (length : Nat) : Decidable (s.Grants length) :=
  inferInstanceAs (Decidable (_ ∧ _))

/-- A copy into the mapping, which must be there, and whose bounds must be kept. -/
def copy (s : HostWorld) (offset : Nat) (bytes : Bytes) : HostWorld :=
  if s.Grants (offset + bytes.length) then { s with memory := store s.memory offset bytes } else s.misuse

/-- A call on a descriptor that must be open. -/
def onFile {β : Type} (s : HostWorld) (fd : Int) (absent : β) (use : HostFile → β × HostWorld) :
    β × HostWorld :=
  match s.files fd with
  | none => (absent, s.misuse)
  | some file => use file

/-- Data in a new buffer, at an address that is not in use. -/
def allocate (s : HostWorld) (data : Option Bytes) (choice : HostChoice) : Option HeapBuffer × HostWorld :=
  match data with
  | none => (none, s)
  | some data =>
      if choice.fails ∨ choice.buffer ∈ s.buffers then (none, s)
      else (some ⟨choice.buffer, data⟩, { s with buffers := insert choice.buffer s.buffers })

def free (s : HostWorld) (buffer : Nat) : HostWorld :=
  if buffer ∈ s.buffers then { s with buffers := s.buffers.erase buffer } else s.misuse

def map (s : HostWorld) (size : Nat) : SharedMapping → HostWorld
  | .null => s
  | .failed => { s with failedMappings := s.failedMappings + 1 }
  | .mapped => { s with mappings := size :: s.mappings }

/-- A mapping is unmapped as a whole. The pointer of one that has failed may be given to `munmap` once, which
unmaps nothing. -/
def unmap (s : HostWorld) (size : Nat) : SharedMapping → HostWorld
  | .null => s.misuse
  | .failed =>
      if s.failedMappings = 0 then s.misuse else { s with failedMappings := s.failedMappings - 1 }
  | .mapped =>
      if size ∈ s.mappings then { s with mappings := s.mappings.erase size } else s.misuse

variable {client : Option IpcClient}

def handler (source : HostSource client) : Handler HostCall HostChoice HostWorld
  | _, choice, .fileDataRead path size _ offset, s =>
      s.allocate (ByteSplice.slice (source.content path) offset size) choice
  | _, choice, .nvDataLoad, s => s.allocate (some source.nvData) choice
  | _, _, .free buffer, s => ((), s.free buffer)
  | _, choice, .openFile path, s => s.openAs (hostFile path) choice
  | _, choice, .socket, s => s.openAs .socket choice
  | _, _, .close fd, s => ((), s.close fd)
  | _, choice, .write fd bytes, s => s.onFile fd (-1) fun file => s.write file bytes choice
  | _, choice, .read fd count, s => s.onFile fd none fun file => s.read file count choice
  | _, choice, .select fd, s => s.onFile fd (-1) fun _ => (choice.rc, s)
  | _, choice, .lseek fd offset, s => s.onFile fd (-1) fun _ => s.seek offset choice
  | _, choice, .ioctl fd request, s => s.onFile fd (-1) fun _ => s.request request choice
  | _, choice, .getFlags fd _, s =>
      s.onFile fd none fun _ => (if choice.fails then none else some s.flags, s)
  | _, choice, .mmap fd size, s => s.onFile fd .null fun _ => (choice.mapping, s.map size choice.mapping)
  | _, _, .munmap mapping size, s => ((), s.unmap size mapping)
  | _, _, .memcpy offset bytes, s => ((), s.copy offset bytes)

end HostWorld

end SamsungIpc
