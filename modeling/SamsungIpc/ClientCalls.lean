import SamsungIpc.BootDescriptors
import SamsungIpc.ModemLoop
import SamsungIpc.ObjectMemory

/-! The client of `samsung-ipc/ipc.c` over the handlers of the i9300, which is the device that
`ipc_device_detect` always finds. A client, its table of handlers and its transport data are objects of
their own, reached through pointers that may be `NULL` or out of date. The log, the buffers of the payloads
and the temporary ones, and the data of the power and GPRS handlers, which nothing reads, are left out; there
is memory for every object. The machine has 32 bits. -/

namespace SamsungIpc

open ByteSplice Effect ObjectMemory

inductive ObjectKind where
  | client
  | handlers
  | transportData
  deriving DecidableEq

/-- `struct ipc_client`; its type decides on its operations. -/
structure ClientObject where
  type : Int
  handlers : Option Address

/-- `struct ipc_client_handlers`; all of its functions are there. -/
structure HandlersObject where
  transportData : Option Address

/-- `struct i9300_transport_data` is a descriptor. -/
abbrev ClientPart : ObjectKind → Type
  | .client => ClientObject
  | .handlers => HandlersObject
  | .transportData => Int

abbrev ClientMemory := Memory ClientPart

abbrev ClientCall := SumCall ModemCall (MemoryCall ClientPart)

abbrev ClientProg := Prog ClientCall

def ipcClientTypeFmt : Int := 0

def ipcClientTypeRfs : Int := 1

def ipcClientTypeDummy : Int := 2

def allocObject (kind : ObjectKind) (object : ClientPart kind) : ClientProg Address :=
  Prog.perform (.right (.alloc kind object))

def freeObject (kind : ObjectKind) (address : Address) : ClientProg Unit :=
  Prog.perform (.right (.free kind address))

def loadObject (kind : ObjectKind) (address : Address) : ClientProg (ClientPart kind) :=
  Prog.perform (.right (.load kind address))

def storeObject (kind : ObjectKind) (address : Address) (object : ClientPart kind) : ClientProg Unit :=
  Prog.perform (.right (.store kind address object))

/-- A function of the kernel drivers. -/
def onModem {α : Type} (function : Prog ModemCall α) : ClientProg α := function.translate .left

/-! ### `xmm626_kernel_smdk4412.c` -/

def xmm626SecModemIpc0Device : Path := cString "/dev/umts_ipc0"

def xmm626SecModemRfs0Device : Path := cString "/dev/umts_rfs0"

/-- What `open` returns. -/
def openResult : Except CallErrno Fd → Int
  | .ok fd => fd
  | .error _ => -1

def openFd (path : Path) : Prog ModemCall Int := do
  let answer ← Prog.perform (.openFile path)
  pure (openResult answer)

def xmm626KernelSmdk4412Open (type : Int) : Prog ModemCall Int :=
  if type = ipcClientTypeFmt then openFd xmm626SecModemIpc0Device
  else if type = ipcClientTypeRfs then openFd xmm626SecModemRfs0Device
  else pure (-1)

def xmm626KernelSmdk4412Close (fd : Int) : Prog ModemCall Int :=
  if fd < 0 then pure (-1)
  else do
    Prog.perform (.close fd)
    pure 0

/-- The modem must be online or booting. -/
def modemReady (fd : Int) : Prog ModemCall Bool := do
  let status ← Prog.perform (.ioctl fd .modemStatus)
  pure (status = stateOnline ∨ status = stateBooting)

def xmm626KernelSmdk4412Read (fd : Int) (length : Nat) : Prog ModemCall (Option Bytes) :=
  if fd < 0 ∨ length = 0 then pure none
  else do
    let ready ← modemReady fd
    if ready then Prog.perform (.read fd length) else pure none

def xmm626KernelSmdk4412Write (fd : Int) (bytes : Bytes) : Prog ModemCall Int :=
  if fd < 0 ∨ bytes.length = 0 then pure (-1)
  else do
    let ready ← modemReady fd
    if ready then Prog.perform (.write fd bytes) else pure (-1)

/-- Without descriptors of the caller. `select` empties the set if nothing is ready, and leaves it as it is
if it fails. -/
def xmm626KernelSmdk4412PollClient (fd : Int) : Prog ModemCall Int :=
  if fd < 0 then pure (-1)
  else do
    let rc ← Prog.perform (.select fd)
    if rc = 0 then pure rc
    else do
      let ready ← modemReady fd
      if ready then pure rc else pure (-1)

/-! ### `i9300.c` -/

def i9300Open (data : Option Address) (type : Int) : ClientProg Int :=
  match data with
  | none => pure (-1)
  | some data => do
      let fd ← onModem (xmm626KernelSmdk4412Open type)
      storeObject .transportData data fd
      if fd < 0 then pure (-1) else pure 0

def i9300Close (data : Option Address) : ClientProg Int :=
  match data with
  | none => pure (-1)
  | some data => do
      let fd ← loadObject .transportData data
      let _ ← onModem (xmm626KernelSmdk4412Close fd)
      storeObject .transportData data (-1 : Int)
      pure 0

def i9300Read (data : Option Address) (length : Nat) : ClientProg (Option Bytes) :=
  match data with
  | none => pure none
  | some data => do
      let fd ← loadObject .transportData data
      onModem (xmm626KernelSmdk4412Read fd length)

def i9300Write (data : Option Address) (bytes : Bytes) : ClientProg Int :=
  match data with
  | none => pure (-1)
  | some data => do
      let fd ← loadObject .transportData data
      onModem (xmm626KernelSmdk4412Write fd bytes)

def i9300Poll (data : Option Address) : ClientProg Int :=
  match data with
  | none => pure (-1)
  | some data => do
      let fd ← loadObject .transportData data
      onModem (xmm626KernelSmdk4412PollClient fd)

def i9300PowerOn : Int := 0

/-- The new data know no descriptor yet: theirs is zero. -/
def i9300DataCreate : ClientProg Address := allocObject .transportData (0 : Int)

def i9300DataDestroy (data : Option Address) : ClientProg Int :=
  match data with
  | none => pure (-1)
  | some data => do
      freeObject .transportData data
      pure 0

/-! ### Frames over the handlers -/

/-- The test that starts most functions: `client == NULL || client->handlers == NULL`. -/
def withHandlers {α : Type} (client : Option Address) (refused : α)
    (function : ClientObject → Address → HandlersObject → ClientProg α) : ClientProg α :=
  match client with
  | none => pure refused
  | some client => do
      let object ← loadObject .client client
      match object.handlers with
      | none => pure refused
      | some address => do
          let handlers ← loadObject .handlers address
          function object address handlers

def handlersRead (client : Option Address) (length : Nat) : ClientProg (Option Bytes) :=
  withHandlers client none fun _ _ handlers => i9300Read handlers.transportData length

def handlersWrite (client : Option Address) (bytes : Bytes) : ClientProg Int :=
  withHandlers client (-1) fun _ _ handlers => i9300Write handlers.transportData bytes

section Frames

variable {H : Type} (format : HeaderFormat H)

/-- What is sent of a message. -/
def messageFrame (message : IpcMessage) : Bytes :=
  let header := format.headerSetup message
  let buffer := splice (List.replicate (format.length header) 0) 0 (format.toBytes header)
  (splice buffer format.size message.payload).take (format.length header)

/-- `while (count < length)`, of which `left` is to go. -/
def frameWrites (client : Option Address) (left : Bytes) : ClientProg Int :=
  if hleft : left = [] then pure 0
  else do
    let rc ← handlersWrite client left
    if hrc : rc ≤ 0 then pure (-1)
    else
      have : (left.drop rc.toNat).length < left.length := by
        have hpos := List.length_pos_iff.mpr hleft
        rw [List.length_drop]
        omega
      frameWrites client (left.drop rc.toNat)
termination_by left.length

def clientFrameSend (client : Option Address) (message : IpcMessage) : ClientProg Int :=
  frameWrites client (messageFrame format message)

/-- The loop that reads what is missing of a payload, with all that it has been given. -/
def payloadReads (client : Option Address) (missing : Nat) (reads : List (Option Bytes)) :
    ClientProg (List (Option Bytes)) :=
  if hmissing : missing = 0 then pure reads
  else do
    let answer ← handlersRead client missing
    let count := (answer.getD []).length
    if hcount : count = 0 then pure (reads ++ [answer])
    else
      have : missing - count < missing := by omega
      payloadReads client (missing - count) (reads ++ [answer])
termination_by missing

/-- What a receive does with the message, from what the handler has read. -/
def receiptOf (limit : Option Nat) : List (Option Bytes) → Receipt
  | [] => .blocked
  | first :: reads =>
      let buffer := firstRead xmm626Transport first
      if buffer.length < format.size ∨ limit.any (announced format buffer > ·) then .refused
      else
        let run := frameRecv .ilp32 format xmm626Transport limit (first :: reads) ModemLoop.clearedMessage
        .parsed run.message run.status

def clientFrameRecv (limit : Option Nat) (client : Option Address) : ClientProg Receipt := do
  let first ← handlersRead client xmm626DataSize
  let buffer := firstRead xmm626Transport first
  if buffer.length < format.size ∨ limit.any (announced format buffer > ·) then pure .refused
  else do
    let missing := announcedPayload .ilp32 format xmm626Transport buffer - (buffer.length - format.size)
    let reads ← payloadReads client missing []
    pure (receiptOf format limit (first :: reads))

end Frames

/-! ### `ipc.c` -/

def ipcDummyClientCreate : ClientProg (Option Address) := do
  let client ← allocObject .client ⟨ipcClientTypeDummy, none⟩
  pure (some client)

/-- The handlers of the table have no transport data. -/
def ipcTransportClientCreate (type : Int) : ClientProg (Option Address) := do
  let client ← allocObject .client ⟨type, none⟩
  let handlers ← allocObject .handlers ⟨none⟩
  storeObject .client client ⟨type, some handlers⟩
  pure (some client)

def ipcClientCreate (type : Int) : ClientProg (Option Address) :=
  if type = ipcClientTypeRfs ∨ type = ipcClientTypeFmt then ipcTransportClientCreate type
  else if type = ipcClientTypeDummy then ipcDummyClientCreate
  else pure none

/-- `memset` of the client comes before its `free`. -/
def ipcClientDestroy (client : Option Address) : ClientProg Int :=
  match client with
  | none => pure (-1)
  | some client => do
      let object ← loadObject .client client
      match object.handlers with
      | none => pure ()
      | some address => freeObject .handlers address
      storeObject .client client ⟨0, none⟩
      freeObject .client client
      pure 0

/-- `none` is a crash, of the client's operation or for lack of them. -/
def ipcClientBoot (client : Option Address) : ClientProg (Option Int) :=
  match client with
  | none => pure (some (-1))
  | some client => do
      let object ← loadObject .client client
      if object.type = ipcClientTypeFmt then onModem (i9300Boot xmm626NvConfig.client)
      else pure (some (-1))

def ipcClientSend (client : Option Address) (message : IpcMessage) : ClientProg Int :=
  match client with
  | none => pure (-1)
  | some client => do
      let object ← loadObject .client client
      if object.type = ipcClientTypeFmt then clientFrameSend fmtFormat (some client) message
      else if object.type = ipcClientTypeRfs then clientFrameSend rfsFormat (some client) message
      else pure (-1)

def ipcClientRecv (client : Option Address) : ClientProg Receipt :=
  match client with
  | none => pure .refused
  | some client => do
      let object ← loadObject .client client
      if object.type = ipcClientTypeFmt then clientFrameRecv fmtFormat none (some client)
      else if object.type = ipcClientTypeRfs then
        clientFrameRecv rfsFormat (some xmm626DataSizeLimit) (some client)
      else pure .refused

/-- It looks for the function that is missing through the very pointer that is `NULL`. -/
def ipcClientOpen (client : Option Address) : ClientProg (Option Int) :=
  withHandlers client none fun object _ handlers =>
    some <$> i9300Open handlers.transportData object.type

def ipcClientClose (client : Option Address) : ClientProg Int :=
  withHandlers client (-1) fun _ _ handlers => i9300Close handlers.transportData

def ipcClientPoll (client : Option Address) : ClientProg Int :=
  withHandlers client (-1) fun _ _ handlers => i9300Poll handlers.transportData

def ipcClientPowerOn (client : Option Address) : ClientProg Int :=
  withHandlers client (-1) fun _ _ _ => pure i9300PowerOn

def ipcClientPowerOff (client : Option Address) : ClientProg Int :=
  withHandlers client (-1) fun _ _ _ => onModem i9300PowerOff

def ipcClientDataCreate (client : Option Address) : ClientProg Int :=
  withHandlers client (-1) fun _ address _ => do
    let data ← i9300DataCreate
    storeObject .handlers address ⟨some data⟩
    pure 0

/-- The pointer to the data is left as it is. -/
def ipcClientDataDestroy (client : Option Address) : ClientProg Int :=
  withHandlers client (-1) fun _ _ handlers => i9300DataDestroy handlers.transportData

/-! ### What an application calls -/

inductive ClientRequest : Type → Type where
  | create (type : Int) : ClientRequest (Option Address)
  | destroy (client : Option Address) : ClientRequest Int
  | boot (client : Option Address) : ClientRequest (Option Int)
  | send (client : Option Address) (message : IpcMessage) : ClientRequest Int
  | recv (client : Option Address) : ClientRequest Receipt
  | open (client : Option Address) : ClientRequest (Option Int)
  | close (client : Option Address) : ClientRequest Int
  | poll (client : Option Address) : ClientRequest Int
  | powerOn (client : Option Address) : ClientRequest Int
  | powerOff (client : Option Address) : ClientRequest Int
  | dataCreate (client : Option Address) : ClientRequest Int
  | dataDestroy (client : Option Address) : ClientRequest Int

namespace ClientRequest

def body : {β : Type} → ClientRequest β → ClientProg β
  | _, create type => ipcClientCreate type
  | _, destroy client => ipcClientDestroy client
  | _, boot client => ipcClientBoot client
  | _, send client message => ipcClientSend client message
  | _, recv client => ipcClientRecv client
  | _, .open client => ipcClientOpen client
  | _, close client => ipcClientClose client
  | _, poll client => ipcClientPoll client
  | _, powerOn client => ipcClientPowerOn client
  | _, powerOff client => ipcClientPowerOff client
  | _, dataCreate client => ipcClientDataCreate client
  | _, dataDestroy client => ipcClientDataDestroy client

/-- The client that a request is about. -/
def subject : {β : Type} → ClientRequest β → Option Address
  | _, create _ => none
  | _, destroy client | _, boot client | _, send client _ | _, recv client | _, .open client
  | _, close client | _, poll client | _, powerOn client | _, powerOff client | _, dataCreate client
  | _, dataDestroy client => client

end ClientRequest

/-- The descriptors and the mappings, and the objects of the client. -/
abbrev ClientWorld := BootResources × ClientMemory

/-- The kernel's choices, and what may be found where there is no object. -/
abbrev ClientChoice := ModemChoice × ((kind : ObjectKind) → ClientPart kind)

/-- The calls, in a process that has other descriptors open. -/
def clientHandler (others : Finset Int) : Handler ClientCall ClientChoice ClientWorld :=
  (BootResources.handler others).sum Memory.handler

/-- The requests of an application. -/
def clientApi (others : Finset Int) : Handler ClientRequest (Stream' ClientChoice) ClientWorld :=
  (clientHandler others).via ClientRequest.body

/-- The process before it has made a client. -/
def ClientWorld.initial : ClientWorld := (.initial, .empty)

/-- A descriptor has been used that is not the client's, or an object that is not there. -/
def Misused (w : ClientWorld) : Prop := w.1.misused = true ∨ w.2.misused = true

end SamsungIpc
