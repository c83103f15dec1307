import SamsungIpc.FrameReceive
import SamsungIpc.ModemResponse
import SamsungIpc.StepTrace

/-! `modem_read_loop` of `tools/common/modem.c` as a machine: an input is a call of it or one turn of
its loop, with all that the turn gets from outside. The payload buffers that a receive allocates are
numbered in their order. -/

namespace SamsungIpc

open ByteSplice PointerInspection StepTrace

/-- What became of the message that `ipc_client_recv` was given. -/
inductive Receipt where
  /-- The first read does not return. -/
  | blocked
  /-- There was no header: `-1`, and the message is as it was. -/
  | refused
  /-- The message was set up from a header; its payload, if any, is a new buffer. -/
  | parsed (message : IpcMessage) (status : Status)

inductive CallbackState where
  | utils
  | app
  deriving DecidableEq

inductive LoopStatus where
  /-- Nobody has called `modem_read_loop` yet. -/
  | idle
  | running
  | stopped (status : Status)
  deriving DecidableEq

/-- What one turn gets from outside: the result of the poll, the receipt, the memory behind the
payload, and the result of the application's handler. -/
structure Turn where
  poll : Int
  receipt : Receipt
  behind : Nat → UInt8
  appResult : Int

inductive LoopInput where
  | call (newState : UInt32)
  | turn (turn : Turn)

/-- The static variables of `modem.c`, the loop's own variables, and what became of the payload
buffers. -/
structure ModemLoop where
  currentState : UInt32
  callbackState : CallbackState
  newState : UInt32
  resp : IpcMessage
  /-- The buffer that `resp.data` points to. -/
  respData : Option Nat
  /-- How many buffers have been allocated. -/
  allocated : Nat
  /-- The buffers that were given to `free`. -/
  released : List Nat
  status : LoopStatus

/-- `resp.data`, and what it points to. -/
def IpcMessage.pointer (message : IpcMessage) (behind : Nat → UInt8) : Pointer :=
  message.data.map fun data offset => data.getD offset (behind offset)

namespace ModemLoop

def clearedMessage : IpcMessage := ⟨0, 0, 0, 0, none, 0⟩

/-- The program before its first call of `modem_read_loop`. -/
def initial : ModemLoop where
  currentState := Modem.modemStateLpm
  callbackState := .utils
  newState := 0
  resp := clearedMessage
  respData := none
  allocated := 0
  released := []
  status := .idle

variable (loop : ModemLoop)

def enter (newState : UInt32) : ModemLoop :=
  { loop with newState := newState, resp := clearedMessage, respData := none, status := .running }

def setUp (message : IpcMessage) : ModemLoop :=
  match message.data with
  | none => { loop with resp := message, respData := none }
  | some _ =>
      { loop with
        resp := message
        respData := some loop.allocated
        allocated := loop.allocated + 1 }

/-- `if (resp.data != NULL) free(resp.data)`. -/
def release : ModemLoop := { loop with released := loop.released ++ loop.respData.toList }

def stop (status : Status) : ModemLoop := { loop with status := .stopped status }

/-- The application takes over once the requested state is reached. `none` is a read through
`NULL`. -/
def modemResponseHandle (turn : Turn) : Option (Int × ModemLoop) :=
  if loop.currentState = loop.newState ∨ loop.callbackState = .app then
    some (turn.appResult, { loop with callbackState := .app })
  else
    (value (Modem.modemStartResponseHandle loop.resp.command loop.newState loop.currentState)
      (loop.resp.pointer turn.behind)).map fun (rc, state) => (rc, { loop with currentState := state })

/-- What the loop makes of the result of `modem_response_handle`. -/
def conclude (rc : Int) : ModemLoop :=
  let loop := loop.release
  if rc = -EAGAIN then loop
  else if rc < 0 then loop.stop (.returned rc)
  else if rc = 0 then { loop with callbackState := .app }.stop (.returned 0)
  else loop

/-- The part of a turn behind a successful receive. -/
def respond (turn : Turn) : ModemLoop :=
  match loop.modemResponseHandle turn with
  | none => loop.stop .fault
  | some (rc, loop) => loop.conclude rc

def modemReadLoopTurn (turn : Turn) : ModemLoop :=
  if turn.poll < 0 then loop
  else
    match turn.receipt with
    | .blocked => loop.stop .waiting
    | .refused => loop.release.stop (.returned (-1))
    | .parsed message .waiting => (loop.setUp message).stop .waiting
    | .parsed message .fault => (loop.setUp message).stop .fault
    | .parsed message (.returned rc) =>
        if rc < 0 then (loop.setUp message).release.stop (.returned rc)
        else (loop.setUp message).respond turn

/-- A call or a turn; inputs that do not fit the state change nothing. -/
def modemReadLoop : LoopInput → ModemLoop
  | .call newState =>
      match loop.status with
      | .idle | .stopped (.returned _) => loop.enter newState
      | _ => loop
  | .turn turn =>
      match loop.status with
      | .running => loop.modemReadLoopTurn turn
      | _ => loop

/-! ### What an input does to `current_state` -/

/-- What the library's own handlers are given: the command and the payload. -/
def dispatched : LoopInput → Option (UInt16 × Pointer)
  | .call _ => none
  | .turn turn =>
      match turn.receipt with
      | .parsed message (.returned rc) =>
          if loop.status = .running ∧ 0 ≤ turn.poll ∧ 0 ≤ rc ∧ loop.currentState ≠ loop.newState ∧
              loop.callbackState ≠ .app then
            some (message.command, message.pointer turn.behind)
          else none
      | _ => none

section Steps

variable {loop : ModemLoop} {turn : Turn} {input : LoopInput} {message : IpcMessage}
  {command : UInt16} {pointer : Pointer} {rc : Int} {state : UInt32}

theorem setUp_eq (loop : ModemLoop) (message : IpcMessage) :
    loop.setUp message =
      { loop with
        resp := message
        respData := if message.data.isSome then some loop.allocated else none
        allocated := loop.allocated + if message.data.isSome then 1 else 0 } := by
  unfold setUp
  cases message.data <;> rfl

theorem conclude_eq (loop : ModemLoop) (rc : Int) : ∃ callbackState status,
    loop.conclude rc = { loop.release with callbackState := callbackState, status := status } := by
  unfold conclude
  dsimp only
  split_ifs
  · exact ⟨_, _, rfl⟩
  · exact ⟨_, _, rfl⟩
  · exact ⟨_, _, rfl⟩
  · exact ⟨_, _, rfl⟩

theorem currentState_conclude : (loop.conclude rc).currentState = loop.currentState := by
  obtain ⟨_, _, hconclude⟩ := conclude_eq loop rc
  rw [hconclude]
  rfl

theorem conclude_returned_zero_iff (hrunning : loop.status = .running) :
    (loop.conclude rc).status = .stopped (.returned 0) ↔ rc = 0 := by
  have hagain : (0 : Int) ≠ -EAGAIN := by decide
  unfold conclude
  dsimp only
  split_ifs with heagain hneg hzero
  · change loop.status = _ ↔ _
    rw [hrunning, heagain]
    exact iff_of_false nofun hagain.symm
  · change LoopStatus.stopped (.returned rc) = _ ↔ _
    simp only [LoopStatus.stopped.injEq, Status.returned.injEq]
  · exact iff_of_true rfl hzero
  · change loop.status = _ ↔ _
    rw [hrunning]
    exact iff_of_false nofun hzero

theorem respond_app (hcharge : loop.currentState = loop.newState ∨ loop.callbackState = .app) :
    loop.respond turn = { loop with callbackState := .app }.conclude turn.appResult := by
  unfold respond modemResponseHandle
  rw [if_pos hcharge]

theorem respond_none (hcharge : ¬(loop.currentState = loop.newState ∨ loop.callbackState = .app))
    (hvalue : value
      (Modem.modemStartResponseHandle loop.resp.command loop.newState loop.currentState)
      (loop.resp.pointer turn.behind) = none) : loop.respond turn = loop.stop .fault := by
  unfold respond modemResponseHandle
  rw [if_neg hcharge, hvalue]
  rfl

theorem respond_some (hcharge : ¬(loop.currentState = loop.newState ∨ loop.callbackState = .app))
    (hvalue : value
      (Modem.modemStartResponseHandle loop.resp.command loop.newState loop.currentState)
      (loop.resp.pointer turn.behind) = some (rc, state)) :
    loop.respond turn = { loop with currentState := state }.conclude rc := by
  unfold respond modemResponseHandle
  rw [if_neg hcharge, hvalue]
  rfl

/-- What an input can do, with what decides it. -/
inductive Effects (loop : ModemLoop) : LoopInput → ModemLoop → Prop where
  | nothing {input : LoopInput} (hdispatched : loop.dispatched input = none) :
      Effects loop input loop
  | entered (newState : UInt32)
      (hreturned : loop.status = .idle ∨ ∃ rc, loop.status = .stopped (.returned rc)) :
      Effects loop (.call newState) (loop.enter newState)
  | blocked {turn : Turn} (hrunning : loop.status = .running) (hreceipt : turn.receipt = .blocked) :
      Effects loop (.turn turn) (loop.stop .waiting)
  | refused {turn : Turn} (hrunning : loop.status = .running) (hpoll : 0 ≤ turn.poll)
      (hreceipt : turn.receipt = .refused) :
      Effects loop (.turn turn) (loop.release.stop (.returned (-1)))
  | stuck {turn : Turn} {message : IpcMessage} {status : Status} (hrunning : loop.status = .running)
      (hreceipt : turn.receipt = .parsed message status) (hstatus : ∀ rc, status ≠ .returned rc) :
      Effects loop (.turn turn) ((loop.setUp message).stop status)
  | failed {turn : Turn} {message : IpcMessage} {rc : Int} (hrunning : loop.status = .running)
      (hreceipt : turn.receipt = .parsed message (.returned rc)) (hrc : rc < 0) :
      Effects loop (.turn turn) ((loop.setUp message).release.stop (.returned rc))
  | application {turn : Turn} {message : IpcMessage} {rc : Int} (hrunning : loop.status = .running)
      (hreceipt : turn.receipt = .parsed message (.returned rc))
      (hdispatched : loop.dispatched (.turn turn) = none) :
      Effects loop (.turn turn)
        ({ loop.setUp message with callbackState := .app }.conclude turn.appResult)
  | unanswered {turn : Turn} {message : IpcMessage} {rc : Int} (hrunning : loop.status = .running)
      (hreceipt : turn.receipt = .parsed message (.returned rc))
      (hdispatched : loop.dispatched (.turn turn) =
        some (message.command, message.pointer turn.behind))
      (hvalue : value
        (Modem.modemStartResponseHandle message.command loop.newState loop.currentState)
        (message.pointer turn.behind) = none) :
      Effects loop (.turn turn) ((loop.setUp message).stop .fault)
  | answered {turn : Turn} {message : IpcMessage} {rc result : Int} {state : UInt32}
      (hrunning : loop.status = .running)
      (hreceipt : turn.receipt = .parsed message (.returned rc))
      (hdispatched : loop.dispatched (.turn turn) =
        some (message.command, message.pointer turn.behind))
      (hvalue : value
        (Modem.modemStartResponseHandle message.command loop.newState loop.currentState)
        (message.pointer turn.behind) = some (result, state)) :
      Effects loop (.turn turn) ({ loop.setUp message with currentState := state }.conclude result)

/-- When the library's handlers are given a message. -/
theorem exists_of_dispatched {given : UInt16 × Pointer}
    (hdispatched : loop.dispatched input = some given) : ∃ turn message rc,
    input = .turn turn ∧ turn.receipt = .parsed message (.returned rc) ∧
      loop.status = .running ∧ 0 ≤ turn.poll ∧ 0 ≤ rc ∧ loop.currentState ≠ loop.newState := by
  cases input with
  | call => cases hdispatched
  | turn turn =>
      unfold dispatched at hdispatched
      dsimp only at hdispatched
      split at hdispatched
      · rename_i message rc hreceipt
        split_ifs at hdispatched with hgiven
        obtain ⟨hrunning, hpoll, hrc, hstate, _⟩ := hgiven
        exact ⟨turn, message, rc, rfl, hreceipt, hrunning, hpoll, hrc, hstate⟩
      · cases hdispatched

theorem dispatched_eq_none (hidle : loop.status = .running → ¬0 ≤ turn.poll) :
    loop.dispatched (.turn turn) = none := by
  by_contra hsome
  obtain ⟨given, hgiven⟩ := Option.ne_none_iff_exists'.mp hsome
  obtain ⟨_, _, _, ⟨⟩, _, hrunning, hpoll, _⟩ := exists_of_dispatched hgiven
  exact hidle hrunning hpoll

theorem effects_respond (hrunning : loop.status = .running) (hpoll : 0 ≤ turn.poll)
    (hreceipt : turn.receipt = .parsed message (.returned rc)) (hrc : 0 ≤ rc) :
    Effects loop (.turn turn) ((loop.setUp message).respond turn) := by
  have hsetUp := setUp_eq loop message
  by_cases hcharge : loop.currentState = loop.newState ∨ loop.callbackState = .app
  · have hdispatched : loop.dispatched (.turn turn) = none := by
      simp only [dispatched, hreceipt]
      exact if_neg fun h => hcharge.elim h.2.2.2.1 h.2.2.2.2
    rw [respond_app (by rwa [hsetUp])]
    exact .application hrunning hreceipt hdispatched
  · have hdispatched : loop.dispatched (.turn turn) =
        some (message.command, message.pointer turn.behind) := by
      obtain ⟨hstate, hcallback⟩ := not_or.mp hcharge
      simp only [dispatched, hreceipt]
      exact if_pos ⟨hrunning, hpoll, hrc, hstate, hcallback⟩
    cases hvalue : value
        (Modem.modemStartResponseHandle message.command loop.newState loop.currentState)
        (message.pointer turn.behind) with
    | none =>
        rw [respond_none (by rwa [hsetUp]) (by rwa [hsetUp])]
        exact .unanswered hrunning hreceipt hdispatched hvalue
    | some response =>
        rw [respond_some (by rwa [hsetUp]) (by rwa [hsetUp])]
        exact .answered hrunning hreceipt hdispatched hvalue

theorem effects_modemReadLoopTurn (hrunning : loop.status = .running) :
    Effects loop (.turn turn) (loop.modemReadLoopTurn turn) := by
  unfold modemReadLoopTurn
  split_ifs with hpoll
  · exact .nothing (dispatched_eq_none fun _ => not_le.mpr hpoll)
  cases hreceipt : turn.receipt with
  | blocked => exact .blocked hrunning hreceipt
  | refused => exact .refused hrunning (not_lt.mp hpoll) hreceipt
  | parsed message status =>
      cases status with
      | waiting => exact .stuck hrunning hreceipt nofun
      | fault => exact .stuck hrunning hreceipt nofun
      | returned rc =>
          dsimp only
          split_ifs with hrc
          · exact .failed hrunning hreceipt hrc
          · exact effects_respond hrunning (not_lt.mp hpoll) hreceipt (not_lt.mp hrc)

theorem effects_modemReadLoop (loop : ModemLoop) (input : LoopInput) :
    Effects loop input (loop.modemReadLoop input) := by
  cases input with
  | call newState =>
      cases hstatus : loop.status with
      | idle =>
          simp only [modemReadLoop, hstatus]
          exact .entered newState (.inl hstatus)
      | running =>
          simp only [modemReadLoop, hstatus]
          exact .nothing rfl
      | stopped status =>
          cases status with
          | returned rc =>
              simp only [modemReadLoop, hstatus]
              exact .entered newState (.inr ⟨rc, hstatus⟩)
          | waiting =>
              simp only [modemReadLoop, hstatus]
              exact .nothing rfl
          | fault =>
              simp only [modemReadLoop, hstatus]
              exact .nothing rfl
  | turn turn =>
      by_cases hrunning : loop.status = .running
      · simp only [modemReadLoop, hrunning]
        exact effects_modemReadLoopTurn hrunning
      · have hturn : loop.modemReadLoop (.turn turn) = loop := by
          unfold modemReadLoop
          cases hstatus : loop.status with
          | running => exact absurd hstatus hrunning
          | idle => rfl
          | stopped status => rfl
        rw [hturn]
        exact .nothing (dispatched_eq_none fun h => absurd h hrunning)

/-- The library's handlers are in charge until the requested state is reached. -/
theorem dispatched_ne_newState (hdispatched : loop.dispatched input = some (command, pointer)) :
    loop.currentState ≠ loop.newState := by
  obtain ⟨_, _, _, _, _, _, _, _, hstate⟩ := exists_of_dispatched hdispatched
  exact hstate

/-- An input that the library's handlers do not see leaves `current_state` alone. -/
theorem currentState_of_not_dispatched (hnone : loop.dispatched input = none) :
    (loop.modemReadLoop input).currentState = loop.currentState := by
  have heffects := effects_modemReadLoop loop input
  generalize loop.modemReadLoop input = next at heffects
  cases heffects with
  | nothing => rfl
  | entered => rfl
  | blocked => rfl
  | refused => rfl
  | stuck =>
      rw [setUp_eq]
      rfl
  | failed =>
      rw [setUp_eq]
      rfl
  | application =>
      rw [currentState_conclude, setUp_eq]
  | unanswered _ _ hdispatched => cases hnone.symm.trans hdispatched
  | answered _ _ hdispatched => cases hnone.symm.trans hdispatched

/-- What the loop makes of the answer of the library's handlers. -/
theorem modemReadLoop_dispatched (hdispatched : loop.dispatched input = some (command, pointer)) :
    (loop.modemReadLoop input).currentState = loop.currentState ∧
        (loop.modemReadLoop input).status = .stopped .fault ∧
        value (Modem.modemStartResponseHandle command loop.newState loop.currentState) pointer = none ∨
      ∃ rc state,
        value (Modem.modemStartResponseHandle command loop.newState loop.currentState) pointer =
            some (rc, state) ∧
          (loop.modemReadLoop input).currentState = state ∧
          ((loop.modemReadLoop input).status = .stopped (.returned 0) ↔ rc = 0) := by
  obtain ⟨turn, message, _, rfl, hparsed, _, _, hreceived, _⟩ := exists_of_dispatched hdispatched
  have heffects := effects_modemReadLoop loop (.turn turn)
  generalize loop.modemReadLoop (.turn turn) = next at heffects
  cases heffects with
  | nothing hnone => cases hdispatched.symm.trans hnone
  | blocked _ hreceipt => cases hparsed.symm.trans hreceipt
  | refused _ _ hreceipt => cases hparsed.symm.trans hreceipt
  | stuck _ hreceipt hstatus =>
      cases hparsed.symm.trans hreceipt
      exact absurd rfl (hstatus _)
  | failed _ hreceipt hrc =>
      cases hparsed.symm.trans hreceipt
      exact absurd hrc (not_lt.mpr hreceived)
  | application _ _ hnone => cases hdispatched.symm.trans hnone
  | unanswered _ _ hmessage hvalue =>
      cases hdispatched.symm.trans hmessage
      rw [setUp_eq]
      exact .inl ⟨rfl, rfl, hvalue⟩
  | @answered _ _ _ result state hrunning _ hmessage hvalue =>
      cases hdispatched.symm.trans hmessage
      refine .inr ⟨result, state, hvalue, currentState_conclude, conclude_returned_zero_iff ?_⟩
      rw [setUp_eq]
      exact hrunning

end Steps

end ModemLoop

end SamsungIpc
