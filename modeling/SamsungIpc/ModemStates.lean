import SamsungIpc.ModemLoop

/-! What `current_state` goes through, and what a result of `0` means. -/

namespace SamsungIpc

open PointerInspection StepTrace

namespace Modem

variable {command : UInt16} {pointer : Pointer} {newState currentState : UInt32} {rc : Int}
  {state : UInt32}

/-- A PIN_STATUS message with the given status. -/
def PinStatus (status : UInt8) (command : UInt16) (pointer : Pointer) : Prop :=
  command = ipcSecPinStatus ∧ value (byte 0) pointer = some status

/-- What the library's own handlers can answer, and what `current_state` becomes. -/
inductive Answers (command : UInt16) (pointer : Pointer) (newState currentState : UInt32) :
    Int → UInt32 → Prop where
  | unchanged {rc : Int} (hrc : rc < 0) :
      Answers command pointer newState currentState rc currentState
  | poweredUp (hcommand : command = ipcPwrPhonePwrUp) :
      Answers command pointer newState currentState (-EAGAIN) modemStateLpm
  | phoneState {state : UInt32} (hcommand : command = ipcPwrPhoneState)
      (hstate : value phoneStateWord pointer = some state) :
      Answers command pointer newState currentState (-EAGAIN) state
  | simAbsent (hstatus : PinStatus ipcSecPinStatusCardNotPresent command pointer)
      (hnew : newState ≠ modemStateSimOk) :
      Answers command pointer newState currentState 0 currentState
  | simReady (hstatus : PinStatus ipcSecPinStatusInitComplete command pointer)
      (hcurrent : currentState = modemStateNormal) :
      Answers command pointer newState currentState 0 modemStateSimOk

theorem answers_of_ite {c : Prop} [Decidable c] {p q : Inspector Response}
    (hp : c → value p pointer = some (rc, state) →
      Answers command pointer newState currentState rc state)
    (hq : ¬c → value q pointer = some (rc, state) →
      Answers command pointer newState currentState rc state)
    (hvalue : value (if c then p else q) pointer = some (rc, state)) :
    Answers command pointer newState currentState rc state := by
  split at hvalue
  · exact hp ‹c› hvalue
  · exact hq ‹¬c› hvalue

theorem answers_unchanged {result : Int} (hresult : result < 0)
    (hvalue : value (pure (result, currentState)) pointer = some (rc, state)) :
    Answers command pointer newState currentState rc state := by
  cases hvalue
  exact .unchanged hresult

theorem answers_modemResponseSec
    (hvalue : value (modemResponseSec command newState currentState) pointer = some (rc, state)) :
    Answers command pointer newState currentState rc state := by
  refine answers_of_ite (fun hpin hvalue => ?_) (fun _ => answers_of_ite (fun _ hvalue => ?_) ?_) hvalue
  · obtain ⟨status, hstatus, hvalue⟩ := value_bind_eq_some_iff.mp hvalue
    refine answers_of_ite (fun habsent => ?_) (fun _ => ?_) hvalue
    · refine answers_of_ite (fun _ => answers_unchanged (by decide)) fun hnew hvalue => ?_
      cases hvalue
      exact .simAbsent ⟨hpin, habsent ▸ hstatus⟩ hnew
    · refine answers_of_ite (fun _ hvalue => ?_) (fun _ => ?_)
      · obtain ⟨facilityLock, _, hvalue⟩ := value_bind_eq_some_iff.mp hvalue
        exact answers_of_ite (fun _ => answers_unchanged (by decide))
          (fun _ => answers_unchanged (by decide)) hvalue
      · refine answers_of_ite (fun hcomplete hvalue => ?_) fun _ => answers_unchanged (by decide)
        cases hvalue
        exact .simReady ⟨hpin, hcomplete.1 ▸ hstatus⟩ hcomplete.2
  · obtain ⟨type, _, hvalue⟩ := value_bind_eq_some_iff.mp hvalue
    exact answers_of_ite (fun _ => answers_unchanged (by decide))
      (fun _ => answers_unchanged (by decide)) hvalue
  · exact fun _ => answers_unchanged (by decide)

theorem answers_modemStartResponseHandle
    (hvalue : value (modemStartResponseHandle command newState currentState) pointer =
      some (rc, state)) : Answers command pointer newState currentState rc state := by
  refine answers_of_ite (fun _ hvalue => ?_)
    (fun _ => answers_of_ite (fun _ => answers_modemResponseSec)
      fun _ => answers_unchanged (by decide)) hvalue
  obtain ⟨response, hresponse, hvalue⟩ := value_bind_eq_some_iff.mp hvalue
  unfold modemResponsePwr at hresponse
  split_ifs at hresponse with hup hstate
  · cases hresponse
    cases hvalue
    exact .poweredUp hup
  · obtain ⟨stateN, hstateN, hresponse⟩ := value_bind_eq_some_iff.mp hresponse
    cases hresponse
    cases hvalue
    exact .phoneState hstate hstateN
  · cases hresponse
    cases hvalue
    exact .unchanged (by decide)

theorem value_handle_phoneState (hstate : value phoneStateWord pointer = some state) :
    value (modemStartResponseHandle ipcPwrPhoneState newState currentState) pointer =
      some (-EAGAIN, state) := by
  have hpwr : ipcGroup ipcPwrPhoneState = ipcGroupPwr := by decide
  have hup : ¬ipcPwrPhoneState = ipcPwrPhonePwrUp := by decide
  rw [modemStartResponseHandle, if_pos hpwr, modemResponsePwr, if_neg hup, if_pos rfl, value_bind,
    value_bind, hstate]
  rfl

theorem value_handle_simAbsent (hstatus : PinStatus ipcSecPinStatusCardNotPresent command pointer)
    (hnew : newState ≠ modemStateSimOk) :
    value (modemStartResponseHandle command newState currentState) pointer =
      some (0, currentState) := by
  obtain ⟨rfl, hbyte⟩ := hstatus
  have hpwr : ¬ipcGroup ipcSecPinStatus = ipcGroupPwr := by decide
  have hsec : ipcGroup ipcSecPinStatus = ipcGroupSec := by decide
  rw [modemStartResponseHandle, if_neg hpwr, if_pos hsec, modemResponseSec, if_pos rfl, value_bind,
    hbyte, Option.bind_some, if_pos rfl, if_neg hnew]
  rfl

theorem value_handle_simReady (hstatus : PinStatus ipcSecPinStatusInitComplete command pointer) :
    value (modemStartResponseHandle command newState modemStateNormal) pointer =
      some (0, modemStateSimOk) := by
  obtain ⟨rfl, hbyte⟩ := hstatus
  have hpwr : ¬ipcGroup ipcSecPinStatus = ipcGroupPwr := by decide
  have hsec : ipcGroup ipcSecPinStatus = ipcGroupSec := by decide
  have hpresent : ¬ipcSecPinStatusInitComplete = ipcSecPinStatusCardNotPresent := by decide
  have hlock : ¬ipcSecPinStatusInitComplete = ipcSecPinStatusLockSc := by decide
  rw [modemStartResponseHandle, if_neg hpwr, if_pos hsec, modemResponseSec, if_pos rfl, value_bind,
    hbyte, Option.bind_some, if_neg hpresent, if_neg hlock, if_pos ⟨rfl, rfl⟩]
  rfl

/-- The values of `enum modem_state`. -/
def IsModemState (state : UInt32) : Prop :=
  state = modemStateLpm ∨ state = modemStateNormal ∨ state = modemStateSimOk

instance decidableIsModemState (state : UInt32) : Decidable (IsModemState state) :=
  inferInstanceAs (Decidable (_ ∨ _ ∨ _))

end Modem

namespace ModemLoop

open Modem

variable {loop : ModemLoop} {input : LoopInput}

/-- `current_state` stays one of the states, and becomes SIM_OK by the end of the SIM's
initialisation in NORMAL only. -/
structure StatesKept (loop : ModemLoop) (input : LoopInput) : Prop where
  isModemState : IsModemState (loop.modemReadLoop input).currentState
  simOk : (loop.modemReadLoop input).currentState = modemStateSimOk →
    loop.currentState ≠ modemStateSimOk →
      loop.currentState = modemStateNormal ∧ ∃ command pointer,
        loop.dispatched input = some (command, pointer) ∧
          PinStatus ipcSecPinStatusInitComplete command pointer

/-- A PHONE_STATE message reads as LPM or NORMAL, or as the SIM_OK that is there already. -/
def PhoneStateAllowed (loop : ModemLoop) (input : LoopInput) : Prop :=
  ∀ pointer state, loop.dispatched input = some (ipcPwrPhoneState, pointer) →
    value phoneStateWord pointer = some state →
      state = modemStateLpm ∨ state = modemStateNormal ∨
        state = modemStateSimOk ∧ loop.currentState = modemStateSimOk

theorem statesKept_of_unchanged (hloop : IsModemState loop.currentState)
    (hunchanged : (loop.modemReadLoop input).currentState = loop.currentState) :
    StatesKept loop input where
  isModemState := by rwa [hunchanged]
  simOk hsimOk hbefore := absurd (hunchanged.symm.trans hsimOk) hbefore

theorem statesKept_of_allowed (hloop : IsModemState loop.currentState)
    (hallowed : PhoneStateAllowed loop input) : StatesKept loop input := by
  cases hdispatched : loop.dispatched input with
  | none => exact statesKept_of_unchanged hloop (currentState_of_not_dispatched hdispatched)
  | some dispatched =>
      obtain ⟨command, pointer⟩ := dispatched
      rcases modemReadLoop_dispatched hdispatched with
        ⟨hunchanged, _⟩ | ⟨rc, state, hvalue, hstate, _⟩
      · exact statesKept_of_unchanged hloop hunchanged
      cases answers_modemStartResponseHandle hvalue with
      | unchanged => exact statesKept_of_unchanged hloop hstate
      | simAbsent => exact statesKept_of_unchanged hloop hstate
      | poweredUp =>
          refine ⟨.inl hstate, fun hsimOk => ?_⟩
          exact absurd (hstate.symm.trans hsimOk) (by decide)
      | phoneState hcommand hword =>
          subst hcommand
          rcases hallowed pointer state hdispatched hword with rfl | rfl | ⟨rfl, hbefore⟩
          · refine ⟨.inl hstate, fun hsimOk => ?_⟩
            exact absurd (hstate.symm.trans hsimOk) (by decide)
          · refine ⟨.inr (.inl hstate), fun hsimOk => ?_⟩
            exact absurd (hstate.symm.trans hsimOk) (by decide)
          · exact statesKept_of_unchanged hloop (hstate.trans hbefore.symm)
      | simReady hstatus hcurrent =>
          exact ⟨.inr (.inr hstate), fun _ _ => ⟨hcurrent, command, pointer, hdispatched, hstatus⟩⟩

theorem allowed_of_statesKept (hkept : StatesKept loop input) : PhoneStateAllowed loop input := by
  intro pointer state hdispatched hword
  have hvalue : value (modemStartResponseHandle ipcPwrPhoneState loop.newState loop.currentState)
      pointer = some (-EAGAIN, state) := value_handle_phoneState hword
  have hstate : (loop.modemReadLoop input).currentState = state := by
    rcases modemReadLoop_dispatched hdispatched with
      ⟨_, _, hnone⟩ | ⟨rc, state', hvalue', hstate, _⟩
    · cases hvalue.symm.trans hnone
    · cases hvalue.symm.trans hvalue'
      exact hstate
  rcases hkept.isModemState with hlpm | hnormal | hsimOk
  · exact .inl (hstate.symm.trans hlpm)
  · exact .inr (.inl (hstate.symm.trans hnormal))
  · refine .inr (.inr ⟨hstate.symm.trans hsimOk, ?_⟩)
    by_contra hbefore
    -- a PHONE_STATE message is no PIN_STATUS message
    obtain ⟨_, command, pointer', hdispatched', hpin, _⟩ := hkept.simOk hsimOk hbefore
    cases hdispatched.symm.trans hdispatched'
    exact absurd hpin (by decide)

/-- **`current_state` is a modem state throughout a run exactly when every PHONE_STATE message reads
as one.** The run takes any number of calls, each with any requested state. -/
theorem modemState_kept_iff (inputs : List LoopInput) :
    Throughout modemReadLoop StatesKept initial inputs ↔
      Throughout modemReadLoop PhoneStateAllowed initial inputs :=
  throughout_iff (I := fun loop => IsModemState loop.currentState)
    (fun _ _ hloop => ⟨allowed_of_statesKept, statesKept_of_allowed hloop⟩)
    (fun _ _ hloop hallowed => (statesKept_of_allowed hloop hallowed).isModemState)
    (.inl rfl) inputs

/-- A turn that receives `message`, with `1`s behind the payload. -/
def receiving (message : IpcMessage) : LoopInput :=
  .turn {
    poll := 0
    receipt := .parsed message (.returned 0)
    behind := fun _ => 1
    appResult := 0 }

/-- The modem answers with its one-byte state, NORMAL, in front of other data. -/
theorem phoneState_normal_misread :
    ¬Throughout modemReadLoop StatesKept initial
      [.call modemStateNormal, receiving ⟨0, 0, ipcPwrPhoneState, 2, some [2], 1⟩] := by
  rintro ⟨_, hkept, _⟩
  exact absurd hkept.isModemState (by decide)

/-- A result of `0` from the library's own handlers means that the requested state is reached. -/
def EndsInNewState (loop : ModemLoop) (input : LoopInput) : Prop :=
  loop.dispatched input ≠ none →
    (loop.modemReadLoop input).status = .stopped (.returned 0) →
      (loop.modemReadLoop input).currentState = loop.newState

/-- Where SIM_OK is not requested, no message ends the initialisation: neither one about an absent
card, nor one about a card that is ready in NORMAL. -/
def NoSimEnd (loop : ModemLoop) (input : LoopInput) : Prop :=
  ∀ command pointer, loop.dispatched input = some (command, pointer) →
    loop.newState ≠ modemStateSimOk →
      ¬PinStatus ipcSecPinStatusCardNotPresent command pointer ∧
        ¬(PinStatus ipcSecPinStatusInitComplete command pointer ∧
          loop.currentState = modemStateNormal)

theorem endsInNewState_iff : EndsInNewState loop input ↔ NoSimEnd loop input := by
  constructor
  · intro hends command pointer hdispatched hnew
    have hbefore := dispatched_ne_newState hdispatched
    have hend : ∀ state, value (modemStartResponseHandle command loop.newState loop.currentState)
        pointer = some (0, state) → state = loop.newState := by
      intro state hvalue
      obtain ⟨_, _, hnone⟩ | ⟨rc, state', hvalue', hstate, hzero⟩ :=
        modemReadLoop_dispatched hdispatched
      · cases hvalue.symm.trans hnone
      · cases hvalue.symm.trans hvalue'
        exact hstate.symm.trans (hends (by rw [hdispatched]; nofun) (hzero.mpr rfl))
    refine ⟨fun hstatus => ?_, fun ⟨hstatus, hcurrent⟩ => ?_⟩
    · exact hbefore (hend _ (value_handle_simAbsent hstatus hnew))
    · rw [hcurrent] at hend
      exact hnew (hend _ (value_handle_simReady hstatus)).symm
  · intro hsim hdispatched hzero
    obtain ⟨⟨command, pointer⟩, hmessage⟩ := Option.ne_none_iff_exists'.mp hdispatched
    rcases modemReadLoop_dispatched hmessage with
      ⟨_, hfault, _⟩ | ⟨rc, state, hvalue, hstate, hresult⟩
    · cases hzero.symm.trans hfault
    obtain rfl := hresult.mp hzero
    have hsimEnd := hsim command pointer hmessage
    rw [hstate]
    generalize hrc : (0 : Int) = rc at hvalue
    cases answers_modemStartResponseHandle hvalue with
    | unchanged hneg => exact absurd hrc hneg.ne'
    | poweredUp => exact absurd hrc (by decide)
    | phoneState => exact absurd hrc (by decide)
    | simAbsent hstatus hnew => exact absurd hstatus (hsimEnd hnew).1
    | simReady hstatus hcurrent =>
        by_contra hnew
        exact (hsimEnd (Ne.symm hnew)).2 ⟨hstatus, hcurrent⟩

/-- **The initialisation ends in the requested state throughout a run exactly when no message about
the SIM ends it for another request than SIM_OK.** -/
theorem initialisation_ends_iff (inputs : List LoopInput) :
    Throughout modemReadLoop EndsInNewState initial inputs ↔
      Throughout modemReadLoop NoSimEnd initial inputs :=
  throughout_iff (I := fun _ => True) (fun _ _ _ => endsInNewState_iff) (fun _ _ _ _ => trivial)
    trivial inputs

/-- NORMAL is requested, and there is no SIM card: the loop returns in LPM. -/
theorem absent_sim_ends_in_lpm :
    ¬Throughout modemReadLoop EndsInNewState initial
      [.call modemStateNormal, receiving ⟨0, 0, ipcSecPinStatus, 3, some [0x80, 0], 2⟩] := by
  rintro ⟨_, hends, _⟩
  exact absurd (hends (by decide) (by decide)) (by decide)

end ModemLoop

end SamsungIpc
