import SamsungIpc.FrameHeader
import SamsungIpc.PointerInspection

/-! What the tools do with a received message. A handler casts `resp->data` to the structure it
expects; nothing it is given tells it the size of the payload. The responses of
`tools/common/modem.c`, `tools/ipc-modem.c` and `tools/ipc-imei.c` stand in one namespace each. -/

namespace SamsungIpc

open PointerInspection

def ipcGroupPwr : UInt8 := 0x01

def ipcGroupCall : UInt8 := 0x02

def ipcGroupSms : UInt8 := 0x04

def ipcGroupSec : UInt8 := 0x05

def ipcGroupDisp : UInt8 := 0x07

def ipcGroupNet : UInt8 := 0x08

def ipcPwrPhonePwrUp : UInt16 := 0x0101

def ipcPwrPhoneState : UInt16 := 0x0107

def ipcCallOutgoing : UInt16 := 0x0201

def ipcCallIncoming : UInt16 := 0x0202

def ipcCallStatus : UInt16 := 0x0205

def ipcCallList : UInt16 := 0x0206

def ipcSmsDeviceReady : UInt16 := 0x0407

def ipcSecPinStatus : UInt16 := 0x0501

def ipcSecSimIccType : UInt16 := 0x0507

def ipcNetServingNetwork : UInt16 := 0x0803

def ipcNetRegist : UInt16 := 0x0805

def ipcSndSpkrVolumeCtrl : UInt16 := 0x0901

def ipcSndMicMuteCtrl : UInt16 := 0x0902

def ipcSndAudioPathCtrl : UInt16 := 0x0903

def ipcSndClockCtrl : UInt16 := 0x0909

def ipcTypeExec : UInt8 := 0x01

def ipcTypeGet : UInt8 := 0x02

def ipcTypeSet : UInt8 := 0x03

def ipcSecPinStatusLockSc : UInt8 := 0x03

def ipcSecPinStatusCardNotPresent : UInt8 := 0x80

def ipcSecPinStatusInitComplete : UInt8 := 0x82

def ipcSecFacilityLockTypeScPin1Req : UInt8 := 0x01

def ipcSecSimCardTypeUnknown : UInt8 := 0x00

def ipcSecPinTypePin1 : UInt8 := 0x03

def ipcCallStatusDialing : UInt8 := 0x01

def ipcCallStatusConnected : UInt8 := 0x03

def ipcCallStatusReleased : UInt8 := 0x04

def ipcMiscMeSnSerialNum : UInt8 := 0x01

def EAGAIN : Errno := 11

def ENODEV : Errno := 19

/-- The `int` at the start of the payload, as the machine word it is. -/
def phoneStateWord : Inspector UInt32 := do
  let state ← word 0 4
  pure (UInt32.ofNat state)

/-! ### `tools/common/modem.c` -/

namespace Modem

def modemStateLpm : UInt32 := 1

def modemStateNormal : UInt32 := 2

def modemStateSimOk : UInt32 := 4

/-- The result, and what becomes of `current_state`. -/
abbrev Response := Int × UInt32

def modemResponseSec (command : UInt16) (newState currentState : UInt32) : Inspector Response :=
  if command = ipcSecPinStatus then do
    let status ← byte 0
    if status = ipcSecPinStatusCardNotPresent then
      if newState = modemStateSimOk then pure (-ENODEV, currentState)
      else pure (0, currentState)
    else if status = ipcSecPinStatusLockSc then do
      -- which lock it is only goes to the log
      let _ ← byte 1
      if newState = modemStateSimOk then pure (-EACCES, currentState)
      else pure (-EAGAIN, currentState)
    else if status = ipcSecPinStatusInitComplete ∧ currentState = modemStateNormal then
      pure (0, modemStateSimOk)
    else pure (-EAGAIN, currentState)
  else if command = ipcSecSimIccType then do
    let type ← byte 0
    if type = ipcSecSimCardTypeUnknown ∧ newState = modemStateSimOk then
      pure (-ENODEV, currentState)
    else pure (-EAGAIN, currentState)
  else pure (-EAGAIN, currentState)

def modemResponsePwr (command : UInt16) (currentState : UInt32) : Inspector Response :=
  if command = ipcPwrPhonePwrUp then pure (0, modemStateLpm)
  else if command = ipcPwrPhoneState then do
    let stateN ← phoneStateWord
    pure (0, stateN)
  else pure (0, currentState)

def modemStartResponseHandle (command : UInt16) (newState currentState : UInt32) :
    Inspector Response :=
  if ipcGroup command = ipcGroupPwr then do
    let (rc, state) ← modemResponsePwr command currentState
    if rc = 0 then pure (-EAGAIN, state) else pure (rc, state)
  else if ipcGroup command = ipcGroupSec then modemResponseSec command newState currentState
  else pure (-EAGAIN, currentState)

end Modem

/-! ### `tools/ipc-modem.c` -/

/-- The globals of `ipc-modem.c`, and the messages it has sent. -/
structure IpcModem where
  state : UInt32
  seq : UInt32
  inCall : Bool
  outCall : Bool
  callDone : Bool
  callNumber : Bytes
  simPin : Bytes
  sent : List IpcMessage

/-- `strncpy` into a field that was cleared before. -/
def clearedField (width : Nat) (text : Bytes) : Bytes :=
  text.take width ++ List.replicate (width - text.length) 0

/-- `struct ipc_sec_pin_status_request_data` after its setup. -/
def ipcSecPinStatusSetup (type : UInt8) (pin1 pin2 : Option Bytes) : Bytes :=
  [type, UInt8.ofNat (min (pin1.getD []).length 8), UInt8.ofNat (min (pin2.getD []).length 8)] ++
    clearedField 8 (pin1.getD []) ++ clearedField 8 (pin2.getD [])

namespace IpcModem

def modemStateLpm : UInt32 := 0

def modemStateNormal : UInt32 := 2

def modemStateSimOk : UInt32 := 4

def seqGet (modem : IpcModem) : IpcModem :=
  { modem with seq := (if modem.seq = 0xff then 0 else modem.seq) + 1 }

/-- `ipc_client_send` under a new sequence number. -/
def ipcClientSend (command : UInt16) (type : UInt8) (data : Bytes) (modem : IpcModem) : IpcModem :=
  let modem := modem.seqGet
  { modem with sent := modem.sent ++ [{
      mseq := modem.seq.toUInt8
      aseq := 0xff
      command := command
      type := type
      data := if data = [] then none else some data
      size := data.length }] }

def modemSndNoMicMute : IpcModem → IpcModem := ipcClientSend ipcSndMicMuteCtrl ipcTypeSet [0]

def modemSndClockCtrl : IpcModem → IpcModem := ipcClientSend ipcSndClockCtrl ipcTypeExec [1]

def modemSndSpkrVolumeCtrl : IpcModem → IpcModem :=
  ipcClientSend ipcSndSpkrVolumeCtrl ipcTypeSet [0x11, 0x04]

def modemSndAudioPathCtrl : IpcModem → IpcModem :=
  ipcClientSend ipcSndAudioPathCtrl ipcTypeSet [1]

/-- A voice call without a prefix, in `struct ipc_call_outgoing_data`. -/
def modemExecCallOut (number : Bytes) (modem : IpcModem) : IpcModem :=
  let modem := modem.modemSndNoMicMute
  let modem := modem.ipcClientSend ipcCallOutgoing ipcTypeExec
    ([0, 1, 0, UInt8.ofNat number.length, 0] ++ clearedField 86 number)
  let modem := { modem with outCall := true }
  modem.modemSndNoMicMute.modemSndSpkrVolumeCtrl.modemSndAudioPathCtrl

def modemGetCallList (modem : IpcModem) : IpcModem :=
  (modem.ipcClientSend ipcCallList ipcTypeGet []).modemSndNoMicMute

def modemExecPowerNormal : IpcModem → IpcModem :=
  ipcClientSend ipcPwrPhoneState ipcTypeExec [0x02, 0x02]

def modemSetSmsDeviceReady : IpcModem → IpcModem := ipcClientSend ipcSmsDeviceReady ipcTypeSet []

def modemSetSecPinStatus (pin1 pin2 : Option Bytes) : IpcModem → IpcModem :=
  ipcClientSend ipcSecPinStatus ipcTypeSet (ipcSecPinStatusSetup ipcSecPinTypePin1 pin1 pin2)

def modemResponseSec (command : UInt16) (modem : IpcModem) : Inspector IpcModem :=
  if command = ipcSecPinStatus then do
    let status ← byte 0
    if status = ipcSecPinStatusLockSc then do
      let facilityLock ← byte 1
      if facilityLock = ipcSecFacilityLockTypeScPin1Req ∧ modem.simPin.length > 0 then
        pure (modem.modemSetSecPinStatus (some modem.simPin) none)
      else pure modem
    else if status = ipcSecPinStatusInitComplete ∧ modem.state = modemStateNormal then
      pure { modem with state := modemStateSimOk }
    else pure modem
  else if command = ipcSecSimIccType then do
    -- the type of the card only goes to the log
    let _ ← byte 0
    pure modem
  else pure modem

def modemResponseSms (command : UInt16) (modem : IpcModem) : Inspector IpcModem :=
  if command = ipcSmsDeviceReady then
    if modem.state = modemStateLpm then pure modem.modemExecPowerNormal
    else if modem.state = modemStateSimOk then pure modem.modemSetSmsDeviceReady
    else pure modem
  else pure modem

def modemResponseCall (command : UInt16) (modem : IpcModem) : Inspector IpcModem :=
  if command = ipcCallIncoming then pure { modem with inCall := true }.modemGetCallList
  else if command = ipcCallStatus then do
    let status ← byte 3
    if status = ipcCallStatusDialing then
      pure modem.modemSndClockCtrl.modemSndSpkrVolumeCtrl.modemSndAudioPathCtrl.modemGetCallList
    else if status = ipcCallStatusConnected ∨ status = ipcCallStatusReleased then
      pure modem.modemSndNoMicMute
    else pure modem
  else pure modem

def modemResponsePwr (command : UInt16) (modem : IpcModem) : Inspector IpcModem :=
  if command = ipcPwrPhonePwrUp then pure { modem with state := modemStateLpm }
  else if command = ipcPwrPhoneState then do
    let stateN ← phoneStateWord
    pure { modem with state := stateN }
  else pure modem

def modemResponseNet (command : UInt16) (modem : IpcModem) : Inspector IpcModem :=
  if command = ipcNetRegist then do
    -- the registration status only goes to the terminal
    let _ ← byte 2
    pure modem
  else if command = ipcNetServingNetwork then do
    -- `memcpy` of the network code, which is printed
    let _ ← bytes 3 5
    let modem := if modem.callDone then modem else modem.modemExecCallOut modem.callNumber
    pure { modem with callDone := true }
  else pure modem

def modemResponseHandle (command : UInt16) (modem : IpcModem) : Inspector IpcModem :=
  if ipcGroup command = ipcGroupNet then modem.modemResponseNet command
  else if ipcGroup command = ipcGroupPwr then modem.modemResponsePwr command
  else if ipcGroup command = ipcGroupSec then modem.modemResponseSec command
  else if ipcGroup command = ipcGroupSms then modem.modemResponseSms command
  else if ipcGroup command = ipcGroupCall then modem.modemResponseCall command
  else if ipcGroup command = ipcGroupDisp then
    if modem.inCall then pure modem.modemSndNoMicMute else pure modem
  else pure modem

end IpcModem

/-! ### `tools/ipc-imei.c` -/

/-- `sizeof(data->data)` in `struct ipc_misc_me_sn_response_data`. -/
def sizeofMeSnData : Nat := 32

/-- The string that `ipc_misc_me_sn_extract` allocates, without its `NUL`. -/
def ipcMiscMeSnExtract : Inspector (Option Bytes) := do
  let null ← isNull
  if null then pure none
  else do
    let length ← byte 1
    if length.toNat > sizeofMeSnData then pure none
    else do
      let string ← untilZero 2 length.toNat
      pure (some string)

namespace IpcImei

/-- The result, and the text that is logged as the IMEI; `none` if `strlen` is given `NULL`. -/
def ipcImeiParseImeiResponse : Inspector (Option (Int × Bytes)) := do
  let type ← byte 0
  if type ≠ ipcMiscMeSnSerialNum then pure (some (-EAGAIN, []))
  else do
    let imei ← ipcMiscMeSnExtract
    match imei with
    | none => pure none
    | some imei => pure (some (0, imei.take 15))

end IpcImei

/-! ### What the handlers read -/

/-- `resp->data` for a message of `size` bytes of payload, which lie at the start of `memory`. -/
def payloadPointer (size : Nat) (memory : Nat → UInt8) : Pointer :=
  if size = 0 then none else some memory

/-- The run inspects received bytes only, and has a result. -/
def ReadsReceived {α : Type} (response : Inspector α) (size : Nat) (memory : Nat → UInt8) : Prop :=
  Within size response (fun _ => True) (payloadPointer size memory)

section Reads

variable {α : Type} {size : Nat} {memory : Nat → UInt8}

@[simp] theorem within_byte_payload {offset : Nat} {Q : UInt8 → Prop} :
    Within size (byte offset) Q (payloadPointer size memory) ↔
      offset < size ∧ Q (memory offset) := by
  by_cases hsize : size = 0
  · rw [payloadPointer, if_pos hsize, hsize]
    exact ⟨False.elim, fun h => absurd h.1 (Nat.not_lt_zero offset)⟩
  · rw [payloadPointer, if_neg hsize, within_byte]

theorem within_bytes_payload {offset count : Nat} {Q : List UInt8 → Prop} (hcount : count ≠ 0) :
    Within size (bytes offset count) Q (payloadPointer size memory) ↔
      offset + count ≤ size ∧ Q ((List.range' offset count).map memory) := by
  by_cases hsize : size = 0
  · rw [payloadPointer, if_pos hsize]
    exact ⟨fun h => absurd h (within_bytes_null hcount), fun h => by omega⟩
  · rw [payloadPointer, if_neg hsize, within_bytes]
    exact and_congr_left fun _ => ⟨fun h => h hcount, fun h _ => h⟩

/-- The four-byte integer that the payload starts with. -/
def phoneStateAt (memory : Nat → UInt8) : UInt32 := UInt32.ofNat (wordAt memory 0 4)

@[simp] theorem within_phoneStateWord {Q : UInt32 → Prop} :
    Within size phoneStateWord Q (payloadPointer size memory) ↔
      4 ≤ size ∧ Q (phoneStateAt memory) := by
  simp only [phoneStateWord, word, within_bind, within_bytes_payload (by decide : 4 ≠ 0), within_pure,
    Nat.zero_add, phoneStateAt, wordAt]

/-- How many bytes of payload a handler of SEC messages reads. -/
def secReach (command : UInt16) (memory : Nat → UInt8) : Nat :=
  if command = ipcSecPinStatus then if memory 0 = ipcSecPinStatusLockSc then 2 else 1
  else if command = ipcSecSimIccType then 1
  else 0

def pwrReach (command : UInt16) : Nat := if command = ipcPwrPhoneState then 4 else 0

def callReach (command : UInt16) : Nat := if command = ipcCallStatus then 4 else 0

def netReach (command : UInt16) : Nat :=
  if command = ipcNetRegist then 3 else if command = ipcNetServingNetwork then 8 else 0

/-- A serial number that is too long for its field counts as one that is never received. -/
def ImeiReceived (size : Nat) (memory : Nat → UInt8) : Prop :=
  1 ≤ size ∧ (memory 0 = ipcMiscMeSnSerialNum → 2 ≤ size ∧ (memory 1).toNat ≤ sizeofMeSnData ∧
    (memory 1 ≠ 0 → 2 + zeroSpan memory 2 (memory 1).toNat ≤ size))

variable {command : UInt16}

theorem readsReceived_pure {value : α} : ReadsReceived (pure value) size memory ↔ 0 ≤ size :=
  ⟨fun _ => Nat.zero_le size, fun _ => trivial⟩

theorem readsReceived_byte {offset : Nat} {rest : UInt8 → Inspector α} :
    ReadsReceived (byte offset >>= rest) size memory ↔
      offset + 1 ≤ size ∧ ReadsReceived (rest (memory offset)) size memory := by
  rw [ReadsReceived, within_bind, within_byte_payload]
  rfl

theorem readsReceived_phoneStateWord {rest : UInt32 → Inspector α} :
    ReadsReceived (phoneStateWord >>= rest) size memory ↔
      4 ≤ size ∧ ReadsReceived (rest (phoneStateAt memory)) size memory := by
  rw [ReadsReceived, within_bind, within_phoneStateWord]
  rfl

theorem readsReceived_bytes {offset count : Nat} {rest : Bytes → Inspector α} (hcount : count ≠ 0) :
    ReadsReceived (bytes offset count >>= rest) size memory ↔
      offset + count ≤ size ∧
        ReadsReceived (rest ((List.range' offset count).map memory)) size memory := by
  rw [ReadsReceived, within_bind, within_bytes_payload hcount]
  rfl

theorem readsReceived_ite {c : Prop} [Decidable c] {p q : Inspector α} :
    ReadsReceived (if c then p else q) size memory ↔
      if c then ReadsReceived p size memory else ReadsReceived q size memory := by
  split <;> rfl

theorem Modem.readsReceived_modemResponseSec (newState currentState : UInt32) :
    ReadsReceived (modemResponseSec command newState currentState) size memory ↔
      secReach command memory ≤ size := by
  have hlocked : memory 0 = ipcSecPinStatusLockSc → ¬memory 0 = ipcSecPinStatusCardNotPresent := by
    intro hlock
    rw [hlock]
    decide
  simp only [modemResponseSec, secReach, readsReceived_ite, readsReceived_byte, readsReceived_pure,
    ite_self]
  split_ifs with _ hpresent hlock
  · exact absurd hpresent (hlocked hlock)
  all_goals omega

/-- Both tools answer PWR messages alike, with different results. -/
theorem readsReceived_responsePwr (up same : α) (adopted : UInt32 → α) :
    ReadsReceived (if command = ipcPwrPhonePwrUp then pure up
      else if command = ipcPwrPhoneState then do
        let stateN ← phoneStateWord
        pure (adopted stateN)
      else pure same) size memory ↔ pwrReach command ≤ size := by
  have hup : command = ipcPwrPhonePwrUp → ¬command = ipcPwrPhoneState := by
    rintro rfl
    decide
  simp only [pwrReach, readsReceived_ite, readsReceived_phoneStateWord, readsReceived_pure]
  split_ifs with hcommand hstate
  · exact absurd hstate (hup hcommand)
  all_goals omega

theorem Modem.readsReceived_modemResponsePwr (currentState : UInt32) :
    ReadsReceived (modemResponsePwr command currentState) size memory ↔
      pwrReach command ≤ size := by
  unfold modemResponsePwr
  exact readsReceived_responsePwr _ _ _

theorem IpcModem.readsReceived_modemResponseSec (modem : IpcModem) :
    ReadsReceived (modem.modemResponseSec command) size memory ↔
      secReach command memory ≤ size := by
  simp only [modemResponseSec, secReach, readsReceived_ite, readsReceived_byte, readsReceived_pure,
    ite_self]
  split_ifs <;> omega

theorem IpcModem.readsReceived_modemResponsePwr (modem : IpcModem) :
    ReadsReceived (modem.modemResponsePwr command) size memory ↔ pwrReach command ≤ size := by
  unfold modemResponsePwr
  exact readsReceived_responsePwr _ _ _

theorem IpcModem.readsReceived_modemResponseCall (modem : IpcModem) :
    ReadsReceived (modem.modemResponseCall command) size memory ↔ callReach command ≤ size := by
  have hincoming : command = ipcCallIncoming → ¬command = ipcCallStatus := by
    rintro rfl
    decide
  simp only [modemResponseCall, callReach, readsReceived_ite, readsReceived_byte, readsReceived_pure,
    ite_self]
  split_ifs with hcommand hstatus
  · exact absurd hstatus (hincoming hcommand)
  all_goals omega

theorem IpcModem.readsReceived_modemResponseNet (modem : IpcModem) :
    ReadsReceived (modem.modemResponseNet command) size memory ↔ netReach command ≤ size := by
  simp only [modemResponseNet, netReach, readsReceived_ite, readsReceived_byte,
    readsReceived_bytes (by decide : 5 ≠ 0), readsReceived_pure]
  split_ifs <;> omega

/-- How many bytes of payload `ipc-modem` reads. -/
def handleReach (command : UInt16) (memory : Nat → UInt8) : Nat :=
  if ipcGroup command = ipcGroupNet then netReach command
  else if ipcGroup command = ipcGroupPwr then pwrReach command
  else if ipcGroup command = ipcGroupSec then secReach command memory
  else if ipcGroup command = ipcGroupCall then callReach command
  else 0

theorem IpcModem.readsReceived_modemResponseSms (modem : IpcModem) :
    ReadsReceived (modem.modemResponseSms command) size memory := by
  unfold modemResponseSms
  split_ifs <;> trivial

theorem IpcModem.readsReceived_modemResponseHandle (modem : IpcModem) :
    ReadsReceived (modem.modemResponseHandle command) size memory ↔
      handleReach command memory ≤ size := by
  have hgroups : ipcGroup command = ipcGroupSms → ¬ipcGroup command = ipcGroupCall := by
    intro hgroup
    rw [hgroup]
    decide
  have hsms : ReadsReceived (modem.modemResponseSms command) size memory ↔ 0 ≤ size :=
    iff_of_true modem.readsReceived_modemResponseSms (Nat.zero_le size)
  simp only [modemResponseHandle, handleReach, readsReceived_ite, hsms, readsReceived_modemResponsePwr,
    readsReceived_modemResponseNet, readsReceived_modemResponseSec, readsReceived_modemResponseCall,
    readsReceived_pure]
  split_ifs with _ _ _ hgroup hcall
  · rfl
  · rfl
  · rfl
  · exact absurd hcall (hgroups hgroup)
  all_goals rfl

theorem within_ipcMiscMeSnExtract {Q : Option Bytes → Prop} (hsize : size ≠ 0) :
    Within size ipcMiscMeSnExtract Q (payloadPointer size memory) ↔
      2 ≤ size ∧ if (memory 1).toNat > sizeofMeSnData then Q none
        else (memory 1 ≠ 0 → 2 + zeroSpan memory 2 (memory 1).toNat ≤ size) ∧
          Q (some (textAt memory 2 (memory 1).toNat)) := by
  rw [payloadPointer, if_neg hsize, ipcMiscMeSnExtract, within_bind, within_isNull,
    Option.isNone_some, if_neg Bool.false_ne_true, within_bind, within_byte]
  refine and_congr_right fun _ => ?_
  split_ifs with hlength
  · rfl
  · have hzero : memory 1 = 0 ↔ (memory 1).toNat = 0 := UInt8.toNat_inj.symm
    rw [within_bind, within_untilZero_iff, ne_eq, ne_eq, hzero]
    rfl

theorem IpcImei.readsReceived_ipcImeiParseImeiResponse :
    Within size ipcImeiParseImeiResponse (fun response => response.isSome)
      (payloadPointer size memory) ↔ ImeiReceived size memory := by
  rw [ipcImeiParseImeiResponse, within_bind, within_byte_payload, ImeiReceived, Nat.lt_iff_add_one_le]
  refine and_congr_right fun hsize => ?_
  by_cases htype : memory 0 = ipcMiscMeSnSerialNum
  · rw [if_neg (not_not.mpr htype), within_bind, within_ipcMiscMeSnExtract (by omega)]
    simp only [htype, forall_const]
    refine and_congr_right fun _ => ?_
    split_ifs with hlength
    · exact ⟨fun h => absurd h Bool.false_ne_true, fun h => absurd hlength (not_lt.mpr h.1)⟩
    · exact ⟨fun h => ⟨not_lt.mp hlength, h.1⟩, fun h => ⟨h.2, rfl⟩⟩
  · rw [if_pos htype, within_pure]
    exact ⟨fun _ h => absurd h htype, fun _ => rfl⟩

/-- The same state is adopted in every memory that starts with the received bytes. -/
def AdoptsReceived (adopted : Inspector UInt32) (size : Nat) (memory : Nat → UInt8) : Prop :=
  ∃ state, ∀ other : Nat → UInt8, (∀ offset < size, other offset = memory offset) →
    value adopted (payloadPointer size other) = some state

/-- What reads only received bytes adopts a state that depends on them only. -/
theorem adoptsReceived_of_readsReceived {adopted : Inspector UInt32}
    (hreads : ReadsReceived adopted size memory) : AdoptsReceived adopted size memory := by
  obtain ⟨state, hstate, -⟩ := hreads.value_eq
  refine ⟨state, fun other hagree => ?_⟩
  by_cases hsize : size = 0
  · rw [payloadPointer, if_pos hsize] at hstate ⊢
    exact hstate
  · rw [ReadsReceived, payloadPointer, if_neg hsize] at hreads
    rw [payloadPointer, if_neg hsize] at hstate ⊢
    rw [value, inspect_eq_of_agree hreads hagree]
    exact hstate

theorem value_phoneStateWord (hsize : size ≠ 0) :
    value phoneStateWord (payloadPointer size memory) = some (phoneStateAt memory) := by
  rw [payloadPointer, if_neg hsize, phoneStateWord, value_bind, value_word]
  rfl

theorem toNat_phoneStateAt : (phoneStateAt memory).toNat = wordAt memory 0 4 := by
  have hlt : wordAt memory 0 4 < 2 ^ 32 := wordAt_lt memory 0 4
  rw [phoneStateAt, UInt32.toNat_ofNat', Nat.mod_eq_of_lt hlt]

/-- The fourth byte counts. -/
theorem phoneStateAt_ne {other : Nat → UInt8} (hagree : ∀ offset < 3, other offset = memory offset)
    (hfourth : other 3 ≠ memory 3) : phoneStateAt other ≠ phoneStateAt memory := by
  intro hstate
  have htoNat := congrArg UInt32.toNat hstate
  rw [toNat_phoneStateAt, toNat_phoneStateAt, wordAt_succ other 0 3, wordAt_succ memory 0 3,
    wordAt_congr hagree] at htoNat
  have hbyte := Nat.eq_of_mul_eq_mul_left (Nat.pow_pos (by decide)) (Nat.add_left_cancel htoNat)
  exact hfourth (UInt8.toNat_inj.mp hbyte)

theorem adoptsReceived_phoneStateWord :
    AdoptsReceived phoneStateWord size memory ↔ 4 ≤ size := by
  constructor
  · rintro ⟨state, hstate⟩
    by_contra hshort
    have hmemory := hstate memory fun _ _ => rfl
    by_cases hsize : size = 0
    · rw [payloadPointer, if_pos hsize] at hmemory
      cases hmemory
    · let other : Nat → UInt8 := Function.update memory 3 (memory 3 + 1)
      have hagree : ∀ offset < 3, other offset = memory offset := fun offset hoffset =>
        Function.update_of_ne hoffset.ne _ _
      have hother := hstate other fun offset hoffset => hagree offset (by omega)
      rw [value_phoneStateWord hsize, ← hmemory, value_phoneStateWord hsize, Option.some_inj] at hother
      have hfourth : other 3 ≠ memory 3 := by
        intro hfourth
        rw [show other 3 = memory 3 + 1 from Function.update_self ..] at hfourth
        exact absurd (add_eq_left.mp hfourth) (by decide)
      exact phoneStateAt_ne hagree hfourth hother
  · intro hsize
    exact adoptsReceived_of_readsReceived (within_phoneStateWord.mpr ⟨hsize, trivial⟩)

/-- **The handlers read only what was received exactly when the payload is as large as what they cast
it to.** None of them looks at the size, so the state adopted from a one-byte PHONE_STATE response
depends on three bytes that the modem has not sent. -/
theorem handlers_readReceived_iff (command : UInt16) (size : Nat) (memory : Nat → UInt8)
    (newState currentState : UInt32) (modem : IpcModem) :
    (ReadsReceived (Modem.modemResponseSec command newState currentState) size memory ↔
      secReach command memory ≤ size) ∧
    (ReadsReceived (Modem.modemResponsePwr command currentState) size memory ↔
      pwrReach command ≤ size) ∧
    (ReadsReceived (modem.modemResponseSec command) size memory ↔ secReach command memory ≤ size) ∧
    (ReadsReceived (modem.modemResponseCall command) size memory ↔ callReach command ≤ size) ∧
    (ReadsReceived (modem.modemResponsePwr command) size memory ↔ pwrReach command ≤ size) ∧
    (ReadsReceived (modem.modemResponseNet command) size memory ↔ netReach command ≤ size) ∧
    (Within size IpcImei.ipcImeiParseImeiResponse (fun response => response.isSome)
      (payloadPointer size memory) ↔ ImeiReceived size memory) ∧
    (AdoptsReceived (do
        let response ← Modem.modemResponsePwr ipcPwrPhoneState currentState
        pure response.2) size memory ↔ 4 ≤ size) ∧
    (AdoptsReceived (do
        let modem ← modem.modemResponsePwr ipcPwrPhoneState
        pure modem.state) size memory ↔ 4 ≤ size) :=
  ⟨Modem.readsReceived_modemResponseSec newState currentState,
    Modem.readsReceived_modemResponsePwr currentState,
    IpcModem.readsReceived_modemResponseSec modem,
    IpcModem.readsReceived_modemResponseCall modem,
    IpcModem.readsReceived_modemResponsePwr modem,
    IpcModem.readsReceived_modemResponseNet modem,
    IpcImei.readsReceived_ipcImeiParseImeiResponse,
    adoptsReceived_phoneStateWord, adoptsReceived_phoneStateWord⟩

/-- A PHONE_STATE response with its one-byte state field. -/
theorem phoneState_overreads :
    ¬ReadsReceived (Modem.modemResponsePwr ipcPwrPhoneState Modem.modemStateLpm) 1 (fun _ => 2) ∧
      ¬AdoptsReceived (do
        let response ← Modem.modemResponsePwr ipcPwrPhoneState Modem.modemStateLpm
        pure response.2) 1 (fun _ => 2) := by
  refine ⟨?_, ?_⟩
  · rw [Modem.readsReceived_modemResponsePwr]
    decide
  · exact adoptsReceived_phoneStateWord.not.mpr (by decide)

end Reads

end SamsungIpc
