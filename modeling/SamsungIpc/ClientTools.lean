import SamsungIpc.ClientProtocol
import SamsungIpc.IpcModemRun

/-! The tools that talk to the modem, `tools/ipc-test.c`, `tools/ipc-modem.c` and `tools/ipc-imei.c`, as
programs of requests. What they print is left out. -/

namespace SamsungIpc

open ByteSplice Effect ObjectMemory PointerInspection

/-- How a tool leaves its way: with a status, or for ever, when it crashes, waits for the modem or is still in
its loop at the end of the run. -/
inductive ToolExit where
  | returned (status : Int)
  | lost

abbrev ToolProg := ExceptT ToolExit (Prog ClientRequest)

def request {β : Type} (request : ClientRequest β) : ToolProg β := ExceptT.lift (Prog.perform request)

/-- `none` is a crash, or a wait without end. -/
def orLost {α : Type} : Option α → ToolProg α
  | none => throw .lost
  | some value => pure value

/-- A request that may crash. -/
def attempt (attempted : ClientRequest (Option Int)) : ToolProg Int := do
  let answer ← request attempted
  orLost answer

def failWith (status rc : Int) : ToolProg Unit := if rc < 0 then throw (.returned status) else pure ()

/-- What `ipc_client_recv` returns, if it does. -/
def Receipt.result : Receipt → Option Int
  | .refused => some (-1)
  | .parsed _ (.returned rc) => some rc
  | _ => none

/-! ### `ipc-test.c` -/

namespace IpcTest

/-- The `for` loop, of which so many turns are to go. -/
def pollTurns (client : Option Address) : Nat → ToolProg Unit
  | 0 => pure ()
  | turns + 1 => do
      let rc ← request (.poll client)
      if rc < 0 then pure ()
      else do
        let receipt ← request (.recv client)
        let rc ← orLost receipt.result
        if rc < 0 then pure () else pollTurns client turns

def work (client : Option Address) : ToolProg Unit := do
  failWith 1 (← request (.dataCreate client))
  failWith 1 (← attempt (.boot client))
  failWith 1 (← request (.powerOn client))
  failWith 1 (← attempt (.open client))
  pollTurns client 5
  failWith 1 (← request (.close client))
  failWith 1 (← request (.powerOff client))

def complete (client : Option Address) (status : Int) : Prog ClientRequest (Option Int) := do
  let _ ← Prog.perform (.destroy client)
  pure (some status)

def withClient (client : Option Address) : Prog ClientRequest (Option Int) :=
  if client = none then pure (some 1)
  else do
    match ← (work client).run with
    | .ok _ => complete client 0
    | .error (.returned status) => complete client status
    | .error .lost => pure none

def main : Prog ClientRequest (Option Int) := do
  let client ← Prog.perform (.create ipcClientTypeFmt)
  withClient client

end IpcTest

/-! ### `ipc-modem.c` -/

inductive ModemOption where
  | help
  | debug
  | pin (argument : Bytes)
  | call (argument : Bytes)
  /-- `getopt_long` complains about it. -/
  | unknown

namespace IpcModem

def modemStart (client : Option Address) : ToolProg Int := do
  let _ ← request (.dataCreate client)
  let rc ← attempt (.boot client)
  if rc < 0 then pure (-1)
  else do
    let rc ← attempt (.open client)
    if rc < 0 then pure (-1)
    else do
      let rc ← request (.powerOn client)
      if rc < 0 then pure (-1) else pure 0

def modemStop (client : Option Address) : ToolProg Unit := do
  let _ ← request (.powerOff client)
  let _ ← request (.close client)

/-- The messages that the handling of one message sends. -/
def sendMessages (client : Option Address) : List IpcMessage → ToolProg Unit
  | [] => pure ()
  | message :: messages => do
      let _ ← request (.send client message)
      sendMessages client messages

/-- `behind` is the memory behind each payload. -/
def modemReadTurn (client : Option Address) (behind : Nat → Nat → UInt8) (loop : ReadLoop) :
    ToolProg ReadLoop := do
  let poll ← request (.poll client)
  if poll < 0 then pure loop
  else do
    let receipt ← request (.recv client)
    let next := loop.modemReadLoop ⟨poll, receipt, behind loop.allocated⟩
    sendMessages client (next.modem.sent.drop loop.modem.sent.length)
    pure next

/-- The loop, which is given up after so many turns. -/
def modemReadTurns (client : Option Address) (behind : Nat → Nat → UInt8) : Nat → ReadLoop → ToolProg ReadLoop
  | 0, _ => throw .lost
  | turns + 1, loop => do
      let loop ← modemReadTurn client behind loop
      match loop.status with
      | .stopped (.returned _) => pure loop
      | .stopped _ => throw .lost
      | _ => modemReadTurns client behind turns loop

/-- What the options set, the number and the PIN, or the status with which they end the tool. -/
def parseOptions : List ModemOption → Bytes → Bytes → Except Int (Bytes × Bytes)
  | [], callNumber, simPin => .ok (callNumber, simPin)
  | .help :: _, _, _ => .error 1
  | .pin argument :: options, callNumber, _ =>
      if argument.length < 8 then parseOptions options callNumber argument else .error 1
  | .call argument :: options, _, simPin =>
      if argument.length < 14 then parseOptions options argument simPin else .error 1
  | _ :: options, callNumber, simPin => parseOptions options callNumber simPin

/-- The commands, up to `modem_quit`. -/
def runCommands (client : Option Address) (behind : Nat → Nat → UInt8) (turns : Nat) :
    List CString → ReadLoop → ToolProg Unit
  | [], _ => pure ()
  | argument :: arguments, loop =>
      if strncmp argument (cString "power-on") 8 = 0 then do
        let _ ← request (.powerOn client)
      else if strncmp argument (cString "power-off") 9 = 0 then do
        let _ ← request (.powerOff client)
      else if strncmp argument (cString "boot") 9 = 0 then do
        let _ ← attempt (.boot client)
        runCommands client behind turns arguments loop
      else if strncmp argument (cString "start") 5 = 0 then do
        let rc ← modemStart client
        if rc < 0 then do
          modemStop client
          throw (.returned 1)
        else do
          let loop ← modemReadTurns client behind turns { loop with respData := none, status := .running }
          modemStop client
          runCommands client behind turns arguments loop
      else throw (.returned 1)

def withClient (client : Option Address) (behind : Nat → Nat → UInt8) (turns : Nat) (arguments : List CString)
    (loop : ReadLoop) : Prog ClientRequest (Option Int) :=
  if client = none then pure (some 0)
  else do
    match ← (runCommands client behind turns arguments loop).run with
    | .ok _ => do
        let _ ← Prog.perform (.destroy client)
        pure (some 0)
    | .error (.returned status) => pure (some status)
    | .error .lost => pure none

def main (options : List ModemOption) (arguments : List CString) (behind : Nat → Nat → UInt8)
    (turns : Nat) : Prog ClientRequest (Option Int) :=
  if options.isEmpty ∧ arguments.isEmpty then pure (some 1)
  else
    match parseOptions options [] [] with
    | .error status => pure (some status)
    | .ok (callNumber, simPin) => do
        let client ← Prog.perform (.create ipcClientTypeFmt)
        withClient client behind turns arguments (.initial callNumber simPin)

end IpcModem

/-! ### `common/modem.c` -/

namespace Modem

/-- `_modem_start` -/
def startSteps (client : Option Address) : ToolProg Int := do
  let rc ← request (.dataCreate client)
  if rc < 0 then pure rc
  else do
    let rc ← attempt (.boot client)
    if rc < 0 then pure rc
    else do
      let rc ← request (.powerOn client)
      if rc < 0 then pure rc
      else do
        let rc ← attempt (.open client)
        if rc < 0 then pure rc else request (.powerOn client)

/-- It destroys the client if it fails, and returns what its caller does not take for a failure. -/
def modemStart (client : Option Address) : ToolProg Int := do
  let rc ← startSteps client
  if rc < 0 then do
    let _ ← request (.destroy client)
    pure 1
  else pure 0

def modemStop (client : Option Address) : ToolProg Int := do
  let rc ← request (.close client)
  if rc < 0 then pure rc
  else do
    let rc ← request (.powerOff client)
    if rc < 0 then pure rc else pure 0

end Modem

/-! ### `ipc-imei.c` -/

def ipcMiscMeSn : UInt16 := 0x0A03

namespace IpcImei

/-- The first message of the tool. -/
def imeiRequest : IpcMessage := ⟨1, 0xff, ipcMiscMeSn, ipcTypeGet, some [ipcMiscMeSnSerialNum], 1⟩

/-- `none` is a crash. -/
def ipcImeiResponseHandle (command : UInt16) : Inspector (Option Int) :=
  if command = ipcMiscMeSn then do
    let response ← ipcImeiParseImeiResponse
    pure (response.map Prod.fst)
  else pure (some (-EAGAIN))

/-- The application is asked if it is in charge; `none` is a crash. -/
def applicationResult (loop : ModemLoop) (receipt : Receipt) (behind : Nat → UInt8) : Option Int :=
  match receipt with
  | .parsed message (.returned rc) =>
      if 0 ≤ rc ∧ (loop.currentState = loop.newState ∨ loop.callbackState = .app) then
        (value (ipcImeiResponseHandle message.command) (message.pointer behind)).join
      else some 0
  | _ => some 0

def modemReadTurn (client : Option Address) (behind : Nat → Nat → UInt8) (loop : ModemLoop) :
    ToolProg ModemLoop := do
  let poll ← request (.poll client)
  if poll < 0 then pure loop
  else do
    let receipt ← request (.recv client)
    let appResult ← orLost (applicationResult loop receipt (behind loop.allocated))
    pure (loop.modemReadLoop (.turn ⟨poll, receipt, behind loop.allocated, appResult⟩))

def modemReadTurns (client : Option Address) (behind : Nat → Nat → UInt8) : Nat → ModemLoop → ToolProg Int
  | 0, _ => throw .lost
  | turns + 1, loop => do
      let loop ← modemReadTurn client behind loop
      match loop.status with
      | .stopped (.returned rc) => pure rc
      | .stopped _ => throw .lost
      | _ => modemReadTurns client behind turns loop

def modemReadLoop (client : Option Address) (behind : Nat → Nat → UInt8) (turns : Nat) : ToolProg Int := do
  let _ ← request (.send client imeiRequest)
  modemReadTurns client behind turns (ModemLoop.initial.modemReadLoop (.call Modem.modemStateNormal))

def work (client : Option Address) (behind : Nat → Nat → UInt8) (turns : Nat) : ToolProg Unit := do
  let rc ← Modem.modemStart client
  failWith 1 rc
  let _ ← modemReadLoop client behind turns
  let rc ← Modem.modemStop client
  failWith 1 rc

/-- The client is not destroyed. -/
def withClient (client : Option Address) (behind : Nat → Nat → UInt8) (turns : Nat) :
    Prog ClientRequest (Option Int) :=
  if client = none then pure (some 1)
  else do
    match ← (work client behind turns).run with
    | .ok _ => pure (some 0)
    | .error (.returned status) => pure (some status)
    | .error .lost => pure none

def exUsage : Int := 64

def main (argc : Nat) (behind : Nat → Nat → UInt8) (turns : Nat) : Prog ClientRequest (Option Int) :=
  if argc ≠ 1 then pure (some exUsage)
  else do
    let client ← Prog.perform (.create ipcClientTypeFmt)
    withClient client behind turns

end IpcImei

end SamsungIpc
