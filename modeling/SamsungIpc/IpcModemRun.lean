import SamsungIpc.ModemLoop

/-! Whole runs of the read loop of `tools/ipc-modem.c`: which messages it has sent by then, under which
numbers, and which payloads it has freed. -/

namespace SamsungIpc

open ByteSplice PointerInspection StepTrace

namespace IpcModem

/-- The globals before anything is received. -/
def initial (callNumber simPin : Bytes) : IpcModem where
  state := modemStateLpm
  seq := 0
  inCall := false
  outCall := false
  callDone := false
  callNumber := callNumber
  simPin := simPin
  sent := []

/-! ### The loop -/

/-- What one turn gets from outside. -/
structure Turn where
  poll : Int
  receipt : Receipt
  behind : Nat → UInt8

/-- The globals, the payload that `resp.data` points to, and what became of the payloads, which are
numbered as they are allocated. -/
structure ReadLoop where
  modem : IpcModem
  respData : Option Nat
  allocated : Nat
  released : List Nat
  status : LoopStatus

namespace ReadLoop

def initial (callNumber simPin : Bytes) : ReadLoop where
  modem := IpcModem.initial callNumber simPin
  respData := none
  allocated := 0
  released := []
  status := .running

variable (loop : ReadLoop)

def setUp (message : IpcMessage) : ReadLoop :=
  match message.data with
  | none => { loop with respData := none }
  | some _ => { loop with respData := some loop.allocated, allocated := loop.allocated + 1 }

/-- `if (resp.data != NULL) free(resp.data)`. -/
def release : ReadLoop := { loop with released := loop.released ++ loop.respData.toList }

def stop (status : Status) : ReadLoop := { loop with status := .stopped status }

/-- A receive that fails ends the loop, which returns zero all the same. -/
def modemReadLoop (turn : Turn) : ReadLoop :=
  if loop.status ≠ .running ∨ turn.poll < 0 then loop
  else
    match turn.receipt with
    | .blocked => loop.stop .waiting
    | .refused => loop.stop (.returned 0)
    | .parsed message .waiting => (loop.setUp message).stop .waiting
    | .parsed message .fault => (loop.setUp message).stop .fault
    | .parsed message (.returned rc) =>
        if rc < 0 then (loop.setUp message).stop (.returned 0)
        else
          match value (loop.modem.modemResponseHandle message.command) (message.pointer turn.behind) with
          | none => (loop.setUp message).stop .fault
          | some modem => { loop.setUp message with modem := modem }.release

/-- The message that a turn hands over, with its payload. -/
def handled (turn : Turn) : List (UInt16 × Pointer) :=
  if loop.status ≠ .running ∨ turn.poll < 0 then []
  else
    match turn.receipt with
    | .parsed message (.returned rc) =>
        if rc < 0 then [] else [(message.command, message.pointer turn.behind)]
    | _ => []

end ReadLoop

/-! ### The answer to one message -/

/-- The modem tells the code of its network, by which the tool takes it to be registered. -/
def registers (message : UInt16 × Pointer) : Bool :=
  message.1 = ipcNetServingNetwork && message.2.isSome

/-- The card wants PIN1. -/
def pinAsked (message : UInt16 × Pointer) : Bool :=
  message.1 = ipcSecPinStatus &&
    message.2.any fun memory =>
      memory 0 = ipcSecPinStatusLockSc && memory 1 = ipcSecFacilityLockTypeScPin1Req

/-- A message to the modem, before it gets its number. -/
structure Request where
  command : UInt16
  type : UInt8
  data : Bytes

def Request.payload (request : Request) : Option Bytes :=
  if request.data = [] then none else some request.data

def sendAll (requests : List Request) (modem : IpcModem) : IpcModem :=
  requests.foldl (fun modem request => modem.ipcClientSend request.command request.type request.data)
    modem

def callRequest (number : Bytes) : Request :=
  ⟨ipcCallOutgoing, ipcTypeExec, [0, 1, 0, UInt8.ofNat number.length, 0] ++ clearedField 86 number⟩

def pinRequest (pin : Bytes) : Request :=
  ⟨ipcSecPinStatus, ipcTypeSet, ipcSecPinStatusSetup ipcSecPinTypePin1 (some pin) none⟩

def muteRequest : Request := ⟨ipcSndMicMuteCtrl, ipcTypeSet, [0]⟩

def clockRequest : Request := ⟨ipcSndClockCtrl, ipcTypeExec, [1]⟩

def volumeRequest : Request := ⟨ipcSndSpkrVolumeCtrl, ipcTypeSet, [0x11, 0x04]⟩

def pathRequest : Request := ⟨ipcSndAudioPathCtrl, ipcTypeSet, [1]⟩

def listRequest : Request := ⟨ipcCallList, ipcTypeGet, []⟩

/-- The requests are sent; only `state`, `in_call` and `out_call` may change besides. -/
structure Sends (modem next : IpcModem) (requests : List Request) : Prop where
  seq : next.seq = (modem.sendAll requests).seq
  sent : next.sent = (modem.sendAll requests).sent
  callNumber : next.callNumber = modem.callNumber
  simPin : next.simPin = modem.simPin
  callDone : next.callDone = modem.callDone

/-- What a message makes of the globals: it has requests sent, of which at most one calls and at most one
unlocks the card. -/
structure Reaction (modem next : IpcModem) (message : UInt16 × Pointer) (requests : List Request) :
    Prop where
  seq : next.seq = (modem.sendAll requests).seq
  sent : next.sent = (modem.sendAll requests).sent
  callNumber : next.callNumber = modem.callNumber
  simPin : next.simPin = modem.simPin
  callDone : next.callDone = (modem.callDone || registers message)
  calls : requests.filter (·.command = ipcCallOutgoing) =
    if registers message && !modem.callDone then [callRequest modem.callNumber] else []
  pins : requests.filter (·.command = ipcSecPinStatus) =
    if pinAsked message && modem.simPin ≠ [] then [pinRequest modem.simPin] else []

section Sending

variable {modem next last : IpcModem} {requests more : List Request}

/-- What is sent depends on the number that is reached, and on nothing else. -/
theorem sendAll_congr (hseq : next.seq = modem.seq) (hsent : next.sent = modem.sent) :
    (next.sendAll requests).seq = (modem.sendAll requests).seq ∧
      (next.sendAll requests).sent = (modem.sendAll requests).sent := by
  induction requests generalizing modem next with
  | nil => exact ⟨hseq, hsent⟩
  | cons request requests ih =>
      have hseqGet : next.seqGet.seq = modem.seqGet.seq := by
        simp only [seqGet, hseq]
      refine ih hseqGet ?_
      simp only [ipcClientSend, seqGet, hsent, hseq]

theorem Sends.one (command : UInt16) (type : UInt8) (data : Bytes) :
    Sends modem (modem.ipcClientSend command type data) [⟨command, type, data⟩] :=
  ⟨rfl, rfl, rfl, rfl, rfl⟩

theorem Sends.append (hfirst : Sends modem next requests) (hsecond : Sends next last more) :
    Sends modem last (requests ++ more) := by
  have hcongr := @sendAll_congr (modem.sendAll requests) next more hfirst.seq hfirst.sent
  have happend : modem.sendAll (requests ++ more) = (modem.sendAll requests).sendAll more :=
    List.foldl_append
  refine ⟨?_, ?_, hsecond.callNumber.trans hfirst.callNumber, hsecond.simPin.trans hfirst.simPin,
    hsecond.callDone.trans hfirst.callDone⟩
  · rw [happend, hsecond.seq, hcongr.1]
  · rw [happend, hsecond.sent, hcongr.2]

theorem sends_modemSndNoMicMute : Sends modem modem.modemSndNoMicMute [muteRequest] := .one ..

theorem sends_modemSndClockCtrl : Sends modem modem.modemSndClockCtrl [clockRequest] := .one ..

theorem sends_audio :
    Sends modem modem.modemSndSpkrVolumeCtrl.modemSndAudioPathCtrl [volumeRequest, pathRequest] :=
  (Sends.one ..).append (.one ..)

theorem sends_modemGetCallList : Sends modem modem.modemGetCallList [listRequest, muteRequest] :=
  (Sends.one ..).append sends_modemSndNoMicMute

theorem sends_modemExecCallOut (number : Bytes) :
    Sends modem (modem.modemExecCallOut number)
      [muteRequest, callRequest number, muteRequest, volumeRequest, pathRequest] := by
  let called := modem.modemSndNoMicMute.ipcClientSend ipcCallOutgoing ipcTypeExec
    ([0, 1, 0, UInt8.ofNat number.length, 0] ++ clearedField 86 number)
  have hcalled : Sends modem called [muteRequest, callRequest number] :=
    sends_modemSndNoMicMute.append (.one ..)
  have hflag : Sends called { called with outCall := true } [] := ⟨rfl, rfl, rfl, rfl, rfl⟩
  exact (hcalled.append hflag).append (sends_modemSndNoMicMute.append sends_audio)

end Sending

section Reactions

variable {modem next : IpcModem} {command : UInt16} {pointer : Pointer}

theorem registers_eq_false (hgroup : ipcGroup command ≠ ipcGroupNet) :
    registers (command, pointer) = false := by
  have hcommand : command ≠ ipcNetServingNetwork := by
    rintro rfl
    exact hgroup (by decide)
  simp only [registers, hcommand, decide_false, Bool.false_and]

theorem pinAsked_eq_false (hgroup : ipcGroup command ≠ ipcGroupSec) :
    pinAsked (command, pointer) = false := by
  have hcommand : command ≠ ipcSecPinStatus := by
    rintro rfl
    exact hgroup (by decide)
  simp only [pinAsked, hcommand, decide_false, Bool.false_and]

/-- Requests that neither call nor unlock answer what asks for neither. -/
theorem reaction_of_plain {requests : List Request} (hsends : Sends modem next requests)
    (hregisters : registers (command, pointer) = false) (hpinAsked : pinAsked (command, pointer) = false)
    (hcalls : requests.filter (·.command = ipcCallOutgoing) = [])
    (hpins : requests.filter (·.command = ipcSecPinStatus) = []) :
    Reaction modem next (command, pointer) requests where
  seq := hsends.seq
  sent := hsends.sent
  callNumber := hsends.callNumber
  simPin := hsends.simPin
  callDone := by rw [hsends.callDone, hregisters, Bool.or_false]
  calls := by rw [hcalls, hregisters]; rfl
  pins := by rw [hpins, hpinAsked]; rfl

/-- The state may change without an answer. -/
theorem reaction_of_silent (state : UInt32) (hregisters : registers (command, pointer) = false)
    (hpinAsked : pinAsked (command, pointer) = false) :
    ∃ requests, Reaction modem { modem with state := state } (command, pointer) requests :=
  ⟨[], reaction_of_plain ⟨rfl, rfl, rfl, rfl, rfl⟩ hregisters hpinAsked rfl rfl⟩

theorem reaction_serving (memory : Nat → UInt8) :
    ∃ requests, Reaction modem
      { (if modem.callDone then modem else modem.modemExecCallOut modem.callNumber) with
        callDone := true } (ipcNetServingNetwork, some memory) requests := by
  have hregisters : registers (ipcNetServingNetwork, some memory) = true := rfl
  have hpinAsked : pinAsked (ipcNetServingNetwork, some memory) = false :=
    pinAsked_eq_false (by decide)
  cases hdone : modem.callDone with
  | true =>
      refine ⟨[], rfl, rfl, rfl, rfl, ?_, ?_, ?_⟩
      · rw [hregisters, Bool.or_true]
      · rw [hdone, Bool.not_true, Bool.and_false]
        rfl
      · rw [hpinAsked]
        rfl
  | false =>
      have hsends : Sends modem (modem.modemExecCallOut modem.callNumber) _ :=
        sends_modemExecCallOut modem.callNumber
      refine ⟨[muteRequest, callRequest modem.callNumber, muteRequest, volumeRequest, pathRequest],
        hsends.seq, hsends.sent, hsends.callNumber, hsends.simPin, ?_, ?_, ?_⟩
      · rw [hregisters, Bool.or_true]
      · rw [hregisters, hdone]
        rfl
      · rw [hpinAsked]
        rfl

theorem reaction_modemResponseNet (hgroup : ipcGroup command = ipcGroupNet)
    (hnext : value (modem.modemResponseNet command) pointer = some next) :
    ∃ requests, Reaction modem next (command, pointer) requests := by
  have hpinAsked : pinAsked (command, pointer) = false :=
    pinAsked_eq_false (by rw [hgroup]; decide)
  unfold modemResponseNet at hnext
  by_cases hserving : command = ipcNetServingNetwork
  · subst hserving
    rw [if_neg (by decide), if_pos rfl] at hnext
    cases pointer with
    | none => cases hnext
    | some memory =>
        obtain ⟨_, -, hcalled⟩ := value_bind_eq_some_iff.mp hnext
        obtain rfl := Option.some.inj hcalled
        exact reaction_serving memory
  · have hregisters : registers (command, pointer) = false := by
      simp only [registers, hserving, decide_false, Bool.false_and]
    have hsame : next = modem := by
      rw [if_neg hserving] at hnext
      split_ifs at hnext with hregist
      · obtain ⟨_, -, hsame⟩ := value_bind_eq_some_iff.mp hnext
        exact (Option.some.inj hsame).symm
      · exact (Option.some.inj hnext).symm
    rw [hsame]
    exact reaction_of_silent modem.state hregisters hpinAsked

theorem reaction_modemResponsePwr (hgroup : ipcGroup command = ipcGroupPwr)
    (hnext : value (modem.modemResponsePwr command) pointer = some next) :
    ∃ requests, Reaction modem next (command, pointer) requests := by
  have hregisters : registers (command, pointer) = false :=
    registers_eq_false (by rw [hgroup]; decide)
  have hpinAsked : pinAsked (command, pointer) = false :=
    pinAsked_eq_false (by rw [hgroup]; decide)
  obtain ⟨state, rfl⟩ : ∃ state, next = { modem with state := state } := by
    unfold modemResponsePwr at hnext
    split_ifs at hnext
    · exact ⟨_, (Option.some.inj hnext).symm⟩
    · obtain ⟨state, -, hstate⟩ := value_bind_eq_some_iff.mp hnext
      exact ⟨state, (Option.some.inj hstate).symm⟩
    · exact ⟨modem.state, (Option.some.inj hnext).symm⟩
  exact reaction_of_silent _ hregisters hpinAsked

/-- The PIN is sent when there is one. -/
theorem reaction_unlock {memory : Nat → UInt8} (hlocked : memory 0 = ipcSecPinStatusLockSc)
    (hpin1 : memory 1 = ipcSecFacilityLockTypeScPin1Req) (hpin : modem.simPin ≠ []) :
    ∃ requests, Reaction modem (modem.modemSetSecPinStatus (some modem.simPin) none)
      (ipcSecPinStatus, some memory) requests := by
  have hregisters : registers (ipcSecPinStatus, some memory) = false := rfl
  have hpinAsked : pinAsked (ipcSecPinStatus, some memory) = true := by
    simp [pinAsked, hlocked, hpin1]
  refine ⟨[pinRequest modem.simPin], rfl, rfl, rfl, rfl, ?_, ?_, ?_⟩
  · rw [hregisters, Bool.or_false]
    rfl
  · rw [hregisters]
    rfl
  · rw [hpinAsked, decide_eq_true hpin]
    rfl

/-- Everything else about the card is only noted. -/
theorem reaction_sec_silent (hgroup : ipcGroup command = ipcGroupSec) (state : UInt32)
    (hpinAsked : pinAsked (command, pointer) = true → modem.simPin = []) :
    ∃ requests, Reaction modem { modem with state := state } (command, pointer) requests := by
  have hregisters : registers (command, pointer) = false :=
    registers_eq_false (by rw [hgroup]; decide)
  refine ⟨[], rfl, rfl, rfl, rfl, ?_, ?_, ?_⟩
  · rw [hregisters, Bool.or_false]
  · rw [hregisters]
    rfl
  · rw [if_neg]
    · rfl
    · simpa using hpinAsked

theorem reaction_modemResponseSec (hgroup : ipcGroup command = ipcGroupSec)
    (hnext : value (modem.modemResponseSec command) pointer = some next) :
    ∃ requests, Reaction modem next (command, pointer) requests := by
  unfold modemResponseSec at hnext
  split_ifs at hnext with hstatus htype
  · subst hstatus
    cases pointer with
    | none => cases hnext
    | some memory =>
        rw [value_bind, value_byte, Option.bind_some] at hnext
        split_ifs at hnext with hlocked hready
        · rw [value_bind, value_byte, Option.bind_some] at hnext
          split_ifs at hnext with hasked
          · obtain rfl := Option.some.inj hnext
            exact reaction_unlock hlocked hasked.1 (List.length_pos_iff.mp hasked.2)
          · obtain rfl := Option.some.inj hnext
            refine reaction_sec_silent hgroup modem.state fun hpinAsked => ?_
            simp only [pinAsked, hlocked, Option.any_some, decide_true, Bool.true_and,
              decide_eq_true_eq] at hpinAsked
            by_contra hpin
            exact hasked ⟨hpinAsked, List.length_pos_iff.mpr hpin⟩
        · obtain rfl := Option.some.inj hnext
          exact reaction_sec_silent hgroup _ fun hpinAsked => by simp [pinAsked, hlocked] at hpinAsked
        · obtain rfl := Option.some.inj hnext
          exact reaction_sec_silent hgroup modem.state fun hpinAsked => by
            simp [pinAsked, hlocked] at hpinAsked
  · obtain ⟨_, -, hsame⟩ := value_bind_eq_some_iff.mp hnext
    obtain rfl := Option.some.inj hsame
    exact reaction_sec_silent hgroup modem.state fun hpinAsked => by simp [pinAsked, hstatus] at hpinAsked
  · obtain rfl := Option.some.inj hnext
    exact reaction_sec_silent hgroup modem.state fun hpinAsked => by simp [pinAsked, hstatus] at hpinAsked

theorem reaction_modemResponseSms (hgroup : ipcGroup command = ipcGroupSms)
    (hnext : value (modem.modemResponseSms command) pointer = some next) :
    ∃ requests, Reaction modem next (command, pointer) requests := by
  have hregisters : registers (command, pointer) = false :=
    registers_eq_false (by rw [hgroup]; decide)
  have hpinAsked : pinAsked (command, pointer) = false :=
    pinAsked_eq_false (by rw [hgroup]; decide)
  unfold modemResponseSms at hnext
  split_ifs at hnext
  · obtain rfl := Option.some.inj hnext
    exact ⟨_, reaction_of_plain (.one ..) hregisters hpinAsked rfl rfl⟩
  · obtain rfl := Option.some.inj hnext
    exact ⟨_, reaction_of_plain (.one ..) hregisters hpinAsked rfl rfl⟩
  · obtain rfl := Option.some.inj hnext
    exact reaction_of_silent _ hregisters hpinAsked
  · obtain rfl := Option.some.inj hnext
    exact reaction_of_silent _ hregisters hpinAsked

theorem reaction_modemResponseCall (hgroup : ipcGroup command = ipcGroupCall)
    (hnext : value (modem.modemResponseCall command) pointer = some next) :
    ∃ requests, Reaction modem next (command, pointer) requests := by
  have hregisters : registers (command, pointer) = false :=
    registers_eq_false (by rw [hgroup]; decide)
  have hpinAsked : pinAsked (command, pointer) = false :=
    pinAsked_eq_false (by rw [hgroup]; decide)
  unfold modemResponseCall at hnext
  split_ifs at hnext
  · obtain rfl := Option.some.inj hnext
    have hflag : Sends modem { modem with inCall := true } [] := ⟨rfl, rfl, rfl, rfl, rfl⟩
    have hsends := hflag.append sends_modemGetCallList
    exact ⟨_, reaction_of_plain hsends hregisters hpinAsked rfl rfl⟩
  · obtain ⟨status, -, hstatus⟩ := value_bind_eq_some_iff.mp hnext
    split_ifs at hstatus
    · obtain rfl := Option.some.inj hstatus
      exact ⟨_, reaction_of_plain (sends_modemSndClockCtrl.append (sends_audio.append sends_modemGetCallList))
        hregisters hpinAsked rfl rfl⟩
    · obtain rfl := Option.some.inj hstatus
      exact ⟨_, reaction_of_plain sends_modemSndNoMicMute hregisters hpinAsked rfl rfl⟩
    · obtain rfl := Option.some.inj hstatus
      exact reaction_of_silent _ hregisters hpinAsked
  · obtain rfl := Option.some.inj hnext
    exact reaction_of_silent _ hregisters hpinAsked

/-- Every message has such an answer. -/
theorem reaction_modemResponseHandle
    (hnext : value (modem.modemResponseHandle command) pointer = some next) :
    ∃ requests, Reaction modem next (command, pointer) requests := by
  unfold modemResponseHandle at hnext
  split_ifs at hnext with hnet hpwr hsec hsms hcall hdisp hinCall
  · exact reaction_modemResponseNet hnet hnext
  · exact reaction_modemResponsePwr hpwr hnext
  · exact reaction_modemResponseSec hsec hnext
  · exact reaction_modemResponseSms hsms hnext
  · exact reaction_modemResponseCall hcall hnext
  · obtain rfl := Option.some.inj hnext
    exact ⟨_, reaction_of_plain sends_modemSndNoMicMute (registers_eq_false hnet)
      (pinAsked_eq_false hsec) rfl rfl⟩
  · obtain rfl := Option.some.inj hnext
    exact reaction_of_silent modem.state (registers_eq_false hnet) (pinAsked_eq_false hsec)
  · obtain rfl := Option.some.inj hnext
    exact reaction_of_silent modem.state (registers_eq_false hnet) (pinAsked_eq_false hsec)

end Reactions

/-! ### Whole runs -/

/-- The payloads of the messages with a command. -/
def payloadsOf (command : UInt16) (sent : List IpcMessage) : List (Option Bytes) :=
  (sent.filter (·.command = command)).map (·.data)

/-- The numbers run from 1 to 255, over and over; zero is left out. -/
structure Numbered (modem : IpcModem) : Prop where
  seq : modem.seq.toNat = if modem.sent.length = 0 then 0 else (modem.sent.length - 1) % 255 + 1
  numbers : modem.sent.map (·.mseq) =
    (List.range modem.sent.length).map fun k => UInt8.ofNat (k % 255 + 1)

/-- What the globals are after the messages of a history. -/
structure Accounts (callNumber simPin : Bytes) (modem : IpcModem) (history : List (UInt16 × Pointer)) :
    Prop where
  numbered : Numbered modem
  callNumber_eq : modem.callNumber = callNumber
  simPin_eq : modem.simPin = simPin
  callDone : modem.callDone = history.any registers
  calls : payloadsOf ipcCallOutgoing modem.sent =
    if history.any registers then [(callRequest callNumber).payload] else []
  pins : payloadsOf ipcSecPinStatus modem.sent =
    List.replicate (if simPin = [] then 0 else history.countP pinAsked) (pinRequest simPin).payload

section Runs

variable {modem next : IpcModem} {requests : List Request} {callNumber simPin : Bytes}
  {history : List (UInt16 × Pointer)} {message : UInt16 × Pointer}

theorem toNat_seqGet (hnumbered : Numbered modem) :
    modem.seqGet.seq.toNat = modem.sent.length % 255 + 1 := by
  have hseq := hnumbered.seq
  have hwrap : modem.seq = 0xff ↔ modem.seq.toNat = 255 := by
    rw [← UInt32.toNat_inj]
    rfl
  by_cases hmax : modem.seq = 0xff
  · have hmod : modem.seq.toNat = 255 := hwrap.mp hmax
    have hsum : modem.seqGet.seq.toNat = 1 := by
      simp only [seqGet, if_pos hmax]
      rfl
    rw [hsum]
    split_ifs at hseq <;> omega
  · have hne : modem.seq.toNat ≠ 255 := hwrap.not.mp hmax
    have hlt : modem.seq.toNat < 255 := by
      split_ifs at hseq <;> omega
    have hsum : modem.seqGet.seq.toNat = modem.seq.toNat + 1 := by
      simp only [seqGet, if_neg hmax, UInt32.toNat_add]
      change (modem.seq.toNat + 1) % 2 ^ 32 = _
      omega
    rw [hsum]
    split_ifs at hseq <;> omega

theorem numbered_ipcClientSend (hnumbered : Numbered modem) (command : UInt16) (type : UInt8)
    (data : Bytes) : Numbered (modem.ipcClientSend command type data) := by
  have hseq := toNat_seqGet hnumbered
  have hnumber : modem.seqGet.seq.toUInt8 = UInt8.ofNat (modem.sent.length % 255 + 1) := by
    rw [← hseq, UInt8.ofNat_uInt32ToNat]
  refine ⟨?_, ?_⟩
  · simp only [ipcClientSend, List.length_append, List.length_singleton]
    rw [if_neg (Nat.succ_ne_zero _), Nat.add_sub_cancel]
    exact hseq
  · simp only [ipcClientSend, List.map_append, List.length_append, List.length_singleton,
      List.range_succ, List.map_singleton]
    exact congrArg₂ (· ++ ·) hnumbered.numbers (congrArg (fun number => [number]) hnumber)

theorem numbered_sendAll (hnumbered : Numbered modem) : Numbered (modem.sendAll requests) := by
  induction requests generalizing modem with
  | nil => exact hnumbered
  | cons request requests ih => exact ih (numbered_ipcClientSend hnumbered _ _ _)

theorem payloadsOf_sendAll (command : UInt16) :
    payloadsOf command (modem.sendAll requests).sent =
      payloadsOf command modem.sent ++
        (requests.filter (·.command = command)).map Request.payload := by
  induction requests generalizing modem with
  | nil => exact (List.append_nil _).symm
  | cons request requests ih =>
      refine ih.trans ?_
      by_cases hcommand : request.command = command
      · simp [payloadsOf, ipcClientSend, seqGet, hcommand, Request.payload]
      · simp [payloadsOf, ipcClientSend, seqGet, hcommand]

theorem accounts_initial : Accounts callNumber simPin (initial callNumber simPin) [] where
  numbered := ⟨rfl, rfl⟩
  callNumber_eq := rfl
  simPin_eq := rfl
  callDone := rfl
  calls := rfl
  pins := by
    rw [List.countP_nil, ite_self]
    rfl

/-- One message more. -/
theorem Accounts.react (haccounts : Accounts callNumber simPin modem history)
    (hreaction : Reaction modem next message requests) :
    Accounts callNumber simPin next (history ++ [message]) := by
  obtain ⟨hnumbered, rfl, rfl, hcallDone, hcalls, hpins⟩ := haccounts
  obtain ⟨hseq, hsent, hcallNumber, hsimPin, hdone, hcall, hpin⟩ := hreaction
  have hnumbered' : Numbered (modem.sendAll requests) := numbered_sendAll hnumbered
  refine ⟨⟨?_, ?_⟩, hcallNumber, hsimPin, ?_, ?_, ?_⟩
  · rw [hseq, hsent]
    exact hnumbered'.seq
  · rw [hsent]
    exact hnumbered'.numbers
  · rw [hdone, hcallDone, List.any_append, List.any_cons, List.any_nil, Bool.or_false]
  · rw [hsent, payloadsOf_sendAll, hcalls, hcall, hcallDone, List.any_append, List.any_cons,
      List.any_nil, Bool.or_false]
    cases history.any registers with
    | true => simp
    | false => cases registers message <;> simp
  · rw [hsent, payloadsOf_sendAll, hpins, hpin, List.countP_append, List.countP_singleton]
    by_cases hempty : modem.simPin = []
    · simp [hempty]
    · cases pinAsked message <;> simp [hempty, List.replicate_succ']

/-- A message whose payload is missing where the tool looks for it asks for nothing. -/
theorem Accounts.crash (haccounts : Accounts callNumber simPin modem history) {command : UInt16}
    {pointer : Pointer} (hvalue : value (modem.modemResponseHandle command) pointer = none) :
    Accounts callNumber simPin modem (history ++ [(command, pointer)]) := by
  cases pointer with
  | none =>
      have hregisters : registers (command, none) = false := Bool.and_false _
      have hpinAsked : pinAsked (command, none) = false := Bool.and_false _
      have hsends : Sends modem modem [] := ⟨rfl, rfl, rfl, rfl, rfl⟩
      exact haccounts.react (reaction_of_plain hsends hregisters hpinAsked rfl rfl)
  | some memory =>
      obtain ⟨next, hnext⟩ := exists_value (modem.modemResponseHandle command)
      cases hvalue.symm.trans hnext

theorem ReadLoop.modem_setUp (loop : ReadLoop) (message : IpcMessage) :
    (loop.setUp message).modem = loop.modem := by
  unfold setUp
  cases message.data <;> rfl

theorem ReadLoop.accounts_modemReadLoop (loop : ReadLoop) (turn : Turn)
    (haccounts : Accounts callNumber simPin loop.modem history) :
    Accounts callNumber simPin (loop.modemReadLoop turn).modem (history ++ loop.handled turn) := by
  have hkept : Accounts callNumber simPin loop.modem (history ++ []) := by
    rwa [List.append_nil]
  unfold modemReadLoop handled
  split_ifs with hidle
  · exact hkept
  cases turn.receipt with
  | blocked => exact hkept
  | refused => exact hkept
  | parsed message status =>
      have hsetUp := loop.modem_setUp message
      cases status with
      | waiting => exact hsetUp ▸ hkept
      | fault => exact hsetUp ▸ hkept
      | returned rc =>
          dsimp only
          split_ifs with hrc
          · exact hsetUp ▸ hkept
          · cases hvalue : value (loop.modem.modemResponseHandle message.command)
                (message.pointer turn.behind) with
            | none => exact hsetUp ▸ haccounts.crash hvalue
            | some next =>
                obtain ⟨requests, hreaction⟩ := reaction_modemResponseHandle hvalue
                exact haccounts.react hreaction

/-- **In every run the tool numbers its messages from 1 to 255 over and over, calls once when the modem
has registered and never before or again, and sends its PIN exactly as often as the card asks for it.**
The PIN is not checked against an earlier refusal, and without a number the call is made all the same. -/
theorem run_sends (callNumber simPin : Bytes) (turns : List Turn) :
    let loop := turns.foldl ReadLoop.modemReadLoop (.initial callNumber simPin)
    let history := observed ReadLoop.modemReadLoop ReadLoop.handled (.initial callNumber simPin) turns
    loop.modem.sent.map (·.mseq) =
        (List.range loop.modem.sent.length).map (fun k => UInt8.ofNat (k % 255 + 1)) ∧
      payloadsOf ipcCallOutgoing loop.modem.sent =
        (if history.any registers then [(callRequest callNumber).payload] else []) ∧
      payloadsOf ipcSecPinStatus loop.modem.sent =
        List.replicate (if simPin = [] then 0 else history.countP pinAsked) (pinRequest simPin).payload := by
  intro loop history
  have haccounts : Accounts callNumber simPin loop.modem ([] ++ history) :=
    holds_observed (I := fun loop history => Accounts callNumber simPin (ReadLoop.modem loop) history)
      (fun loop _ turn haccounts => loop.accounts_modemReadLoop turn haccounts) accounts_initial turns
  exact ⟨haccounts.numbered.numbers, haccounts.calls, haccounts.pins⟩

/-! ### The payloads -/

/-- Every payload is freed in its turn; a turn that ends the loop may keep its own. -/
structure ReadLoop.Frees (loop : ReadLoop) : Prop where
  running : loop.status = .running → loop.released = List.range loop.allocated
  stopped : ∃ count, loop.released = List.range count ∧ count ≤ loop.allocated ∧
    loop.allocated ≤ count + 1

theorem ReadLoop.setUp_eq (loop : ReadLoop) (message : IpcMessage) :
    loop.setUp message =
      { loop with
        respData := if message.data.isSome then some loop.allocated else none
        allocated := loop.allocated + if message.data.isSome then 1 else 0 } := by
  unfold setUp
  cases message.data <;> rfl

theorem ReadLoop.frees_stop {loop : ReadLoop} (hreleased : loop.released = List.range loop.allocated)
    (message : IpcMessage) (status : Status) : Frees ((loop.setUp message).stop status) where
  running := nofun
  stopped := by
    rw [setUp_eq]
    refine ⟨loop.allocated, hreleased, Nat.le_add_right _ _, Nat.add_le_add_left ?_ _⟩
    split <;> decide

theorem ReadLoop.frees_release {loop : ReadLoop} (hreleased : loop.released = List.range loop.allocated)
    (message : IpcMessage) (modem : IpcModem) :
    Frees { loop.setUp message with modem := modem }.release := by
  have hall : ({ loop.setUp message with modem := modem }.release).released =
      List.range ({ loop.setUp message with modem := modem }.release).allocated := by
    rw [setUp_eq]
    cases message.data with
    | none => exact (List.append_nil _).trans hreleased
    | some data =>
        change loop.released ++ [loop.allocated] = List.range (loop.allocated + 1)
        rw [hreleased, List.range_succ]
  exact ⟨fun _ => hall, _, hall, le_rfl, Nat.le_succ _⟩

theorem ReadLoop.frees_modemReadLoop (loop : ReadLoop) (turn : Turn) (hfrees : Frees loop) :
    Frees (loop.modemReadLoop turn) := by
  unfold modemReadLoop
  split_ifs with hidle
  · exact hfrees
  have hrunning : loop.status = .running := not_not.mp (not_or.mp hidle).1
  have hreleased := hfrees.running hrunning
  cases turn.receipt with
  | blocked => exact ⟨nofun, hfrees.stopped⟩
  | refused => exact ⟨nofun, hfrees.stopped⟩
  | parsed message status =>
      cases status with
      | waiting => exact frees_stop hreleased message _
      | fault => exact frees_stop hreleased message _
      | returned rc =>
          dsimp only
          split_ifs
          · exact frees_stop hreleased message _
          · cases value (loop.modem.modemResponseHandle message.command)
                (message.pointer turn.behind) with
            | none => exact frees_stop hreleased message _
            | some next => exact frees_release hreleased message next

/-- In every run no payload is freed twice, every payload but the last has been freed, and the last one
too unless its turn has ended the loop. -/
theorem run_frees (callNumber simPin : Bytes) (turns : List Turn) :
    let loop := turns.foldl ReadLoop.modemReadLoop (.initial callNumber simPin)
    loop.released.Nodup ∧ (∀ payload, payload + 1 < loop.allocated → payload ∈ loop.released) ∧
      (loop.status = .running → ∀ payload < loop.allocated, payload ∈ loop.released) := by
  intro loop
  have hfrees : loop.Frees := by
    have hinitial : (ReadLoop.initial callNumber simPin).Frees :=
      ⟨fun _ => rfl, 0, rfl, le_rfl, Nat.zero_le _⟩
    exact @holds_observed _ _ _ _ ReadLoop.handled (fun loop _ => ReadLoop.Frees loop)
      (fun loop _ turn hfrees => loop.frees_modemReadLoop turn hfrees) _ [] hinitial turns
  obtain ⟨count, hreleased, -, hle⟩ := hfrees.stopped
  refine ⟨?_, fun payload hpayload => ?_, fun hrunning payload hpayload => ?_⟩
  · rw [hreleased]
    exact List.nodup_range
  · rw [hreleased]
    exact List.mem_range.mpr (by omega)
  · rw [hfrees.running hrunning]
    exact List.mem_range.mpr hpayload

end Runs

end IpcModem

end SamsungIpc
