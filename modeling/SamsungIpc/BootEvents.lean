import SamsungIpc.CommandExact
import SamsungIpc.ModemBoots
import SamsungIpc.NvRecovery

/-! What is seen of a boot from outside: the devices it opens, what it asks of the kernel driver and of
sysfs, and what it writes to the boot device. A boot runs in a world of which only the modem's image, the
MPS data and the files of the NV data are known; every call may fail. -/

namespace SamsungIpc

open Effect Booting

/-- An event of a boot. Opening counts if it succeeds; `done` says whether a request has succeeded. -/
inductive ModemEvent where
  | opened (path : Path) (fd : Fd)
  | controlled (fd : Int) (request : ModemControl) (done : Bool)
  | switched (path : Path) (value : Int)
  | wrote (fd : Int) (write : DeviceWrite)

/-- A request or a write that has not done what it was to do. -/
inductive CutShort : ModemEvent → ModemEvent → Prop where
  | controlled (fd : Int) (request : ModemControl) :
      CutShort (.controlled fd request false) (.controlled fd request true)
  | wrote (fd : Int) {write planned : DeviceWrite} (hcut : CutWrite write planned) :
      CutShort (.wrote fd write) (.wrote fd planned)

/-- The requests that change nothing. -/
def ModemControl.asks : ModemControl → Bool
  | .modemStatus | .linkConnected | .linkGetHostwake => true
  | _ => false

/-- What a boot finds. A path that can be opened is opened with success once at most, so that its
descriptor is known beforehand. -/
structure BootWorld where
  fdOf : Path → Fd
  image : Bytes
  mpsData : { data : Bytes // data.length = maguroMpsDataSize }
  platform : Platform
  cfg : NvConfig
  kernel : Kernel

namespace BootWorld

variable (world : BootWorld)

/-- The NV data that can be recovered from the disk. -/
def nvData : Option Bytes := (world.cfg.copies world.platform world.kernel.files).recover

/-- The answers a call may get. -/
def Answers : {β : Type} → ModemCall β → β → Prop
  | _, .openFile path, answer => ∀ fd, answer = .ok fd → fd = world.fdOf path
  | _, .close _, _ => True
  | _, .mmap .., mapping => ∀ content, mapping = .mapped content → content = world.image
  | _, .munmap .., _ => True
  | _, .ioctl .., _ => True
  | _, .write _ bytes, rc => rc ≤ bytes.length
  | _, .read _ count, answer => ∀ bytes, answer = some bytes → bytes.length ≤ count
  | _, .select _, _ => True
  | _, .sysfsValueWrite .., rc => rc = 0 ∨ rc = -1
  | _, .sysfsValueRead _, _ => True
  | _, .nvDataLoad, answer => ∃ choices : Stream' Nat,
      answer = ((ipcNvDataLoad world.platform world.cfg.client).run choices world.kernel).1
  | _, .fileDataRead .., answer => ∀ data, answer = some data → data = world.mpsData.val

end BootWorld

/-- What is seen of a call. -/
def modemEvents : {β : Type} → ModemCall β → β → List ModemEvent
  | _, .openFile path, .ok fd => [.opened path fd]
  | _, .openFile _, .error _ => []
  | _, .close _, _ => []
  | _, .mmap .., _ => []
  | _, .munmap .., _ => []
  | _, .ioctl fd request, rc => if request.asks then [] else [.controlled fd request (0 ≤ rc)]
  | _, .write fd bytes, rc => [.wrote fd ⟨bytes, rc⟩]
  | _, .read .., _ => []
  | _, .select _, _ => []
  | _, .sysfsValueWrite path value, _ => [.switched path value]
  | _, .sysfsValueRead _, _ => []
  | _, .nvDataLoad, _ => []
  | _, .fileDataRead .., _ => []

def BootWorld.environment (world : BootWorld) : Environment ModemCall ModemEvent where
  Answers := world.Answers
  events := modemEvents

/-- A part of a boot: every run does the start of a word of `L`, every run that ends a whole word. -/
abbrev Performs {ε α : Type} (world : BootWorld) (p : ExceptT ε (Prog ModemCall) α)
    (L : Language ModemEvent) (P : α → Prop) : Prop := Follows world.environment CutShort p L P

/-- A single word. -/
def once (word : List ModemEvent) : Language ModemEvent := {word}

theorem once_mul_once (first second : List ModemEvent) :
    once first * once second = once (first ++ second) := by
  ext word
  constructor
  · rintro ⟨_, rfl, _, rfl, rfl⟩
    rfl
  · rintro rfl
    exact ⟨first, rfl, second, rfl, rfl⟩

variable {world : BootWorld} {α : Type} {locals : BootLocals} {L : Language ModemEvent} {P : α → Prop}

theorem runs_bootCall {request : ModemCall α} {answer : α} {events : List ModemEvent} :
    Runs world.environment (Booting.call request).run (.ok answer) events ↔
      world.Answers request answer ∧ events = modemEvents request answer := by
  refine runs_lift.trans ⟨?_, fun h => ⟨answer, rfl, h.1, h.2⟩⟩
  rintro ⟨_, hsame, hanswer, rfl⟩
  cases hsame
  exact ⟨hanswer, rfl⟩

/-- A call that is not seen. -/
theorem performs_call {request : ModemCall α} (hunseen : ∀ answer, modemEvents request answer = [])
    (hanswer : ∃ answer, world.Answers request answer) :
    Performs world (Booting.call request) 1 (world.Answers request) := by
  obtain ⟨answer, hanswer⟩ := hanswer
  have hquiet : Quiet world.environment (Booting.call request).run := by
    intro result events hrun
    obtain ⟨other, _, _, rfl⟩ := runs_lift.mp hrun
    exact hunseen other
  exact hquiet.follows (fun other events hrun => (runs_bootCall.mp hrun).1)
    ⟨answer, runs_bootCall.mpr ⟨hanswer, (hunseen answer).symm⟩⟩

/-! ### Functions that are called -/

/-- A function all of whose results are known, and the test of its result. -/
theorem performs_require {function : Prog ModemCall Int}
    (hattempts : ∀ rc events, Runs world.environment function rc events → events ∈ begun CutShort L)
    (hemits : ∀ rc events, Runs world.environment function rc events → 0 ≤ rc → events ∈ L)
    (hcompletes : ∃ rc events, Runs world.environment function rc events ∧ 0 ≤ rc) :
    Performs world (require locals function) L fun _ => True := by
  refine follows_mapError ?_ _
  have hruns : ∀ result events, Runs world.environment (checked (some <$> function)).run result events ↔
      ∃ rc, Runs world.environment function rc events ∧ checkResult (some rc) = result := by
    intro result events
    refine runs_map.trans ⟨?_, ?_⟩
    · rintro ⟨_, hsome, rfl⟩
      obtain ⟨rc, hrun, rfl⟩ := runs_map.mp hsome
      exact ⟨rc, hrun, rfl⟩
    · rintro ⟨rc, hrun, rfl⟩
      exact ⟨some rc, runs_map.mpr ⟨rc, hrun, rfl⟩, rfl⟩
  constructor
  · intro value events hrun
    obtain ⟨rc, hrc, hresult⟩ := (hruns _ events).mp hrun
    rw [checkResult] at hresult
    split at hresult
    · cases hresult
    · exact ⟨hemits rc events hrc (not_lt.mp ‹_›), trivial⟩
  · intro result events hrun
    obtain ⟨rc, hrc, _⟩ := (hruns _ events).mp hrun
    exact hattempts rc events hrc
  · obtain ⟨rc, events, hrun, hrc⟩ := hcompletes
    exact ⟨(), events, (hruns _ events).mpr ⟨rc, hrun, if_neg (not_lt.mpr hrc)⟩⟩

/-- A function that is only asked, and can be answered well. -/
theorem performs_require_quiet {function : Prog ModemCall Int} (hquiet : Quiet world.environment function)
    (hcompletes : ∃ rc, Runs world.environment function rc [] ∧ 0 ≤ rc) :
    Performs world (require locals function) 1 fun _ => True := by
  refine performs_require (fun rc events hrun => le_begun (hquiet rc events hrun))
    (fun rc events hrun _ => hquiet rc events hrun) ?_
  obtain ⟨rc, hrun, hrc⟩ := hcompletes
  exact ⟨rc, [], hrun, hrc⟩

/-- The result of a function that is only logged. -/
theorem performs_ignored {function : Prog ModemCall Int}
    (hwords : ∀ rc events, Runs world.environment function rc events → events ∈ L)
    (hcompletes : ∃ rc events, Runs world.environment function rc events) :
    Performs world (ignored function) L fun _ => True where
  emits := by
    intro value events hrun
    obtain ⟨rc, hrc, _⟩ := runs_map.mp hrun
    exact ⟨hwords rc events hrc, trivial⟩
  attempts := by
    intro result events hrun
    obtain ⟨rc, hrc, _⟩ := runs_map.mp hrun
    exact le_begun (hwords rc events hrc)
  completes := by
    obtain ⟨rc, events, hrun⟩ := hcompletes
    exact ⟨(), events, runs_map.mpr ⟨rc, hrun, rfl⟩⟩

/-! ### Requests to the driver -/

section Requests

variable {fd : Int} {request : ModemControl}

theorem runs_controlRequest (hfd : 0 ≤ fd) (hasks : request.asks = false) {rc : Int}
    {events : List ModemEvent} :
    Runs world.environment (controlRequest fd request) rc events ↔
      ∃ answer : Int, events = [.controlled fd request (0 ≤ answer)] ∧
        rc = if answer < 0 then -1 else 0 := by
  have hevents : ∀ answer : Int, modemEvents (.ioctl fd request) answer =
      [.controlled fd request (0 ≤ answer)] := fun answer => by
    rw [modemEvents, if_neg (by rw [hasks]; decide)]
  rw [controlRequest, if_neg (not_lt.mpr hfd)]
  refine runs_bind.trans ⟨?_, ?_⟩
  · rintro ⟨answer, _, second, hask, hrest, rfl⟩
    obtain ⟨_, rfl⟩ := runs_perform.mp hask
    refine ⟨answer, ?_⟩
    split at hrest
    · obtain ⟨rfl, rfl⟩ := hrest
      exact ⟨(List.append_nil _).trans (hevents answer), (if_pos ‹_›).symm⟩
    · obtain ⟨rfl, rfl⟩ := hrest
      exact ⟨(List.append_nil _).trans (hevents answer), (if_neg ‹_›).symm⟩
  · rintro ⟨answer, rfl, rfl⟩
    refine ⟨answer, _, [], runs_perform.mpr ⟨trivial, (hevents answer).symm⟩, ?_, rfl⟩
    split
    · exact ⟨rfl, rfl⟩
    · exact ⟨rfl, rfl⟩

/-- A request is made once; if it fails, the boot does. -/
theorem performs_controlRequest (hfd : 0 ≤ fd) (hasks : request.asks = false) :
    Performs world (require locals (controlRequest fd request)) (once [.controlled fd request true])
      fun _ => True := by
  refine performs_require (fun rc events hrun => ?_) (fun rc events hrun hrc => ?_) ?_
  · obtain ⟨answer, rfl, _⟩ := (runs_controlRequest hfd hasks).mp hrun
    by_cases hanswer : 0 ≤ answer
    · rw [decide_eq_true hanswer]
      exact le_begun rfl
    · rw [decide_eq_false hanswer]
      exact ⟨_, rfl, .cut (.controlled fd request) []⟩
  · obtain ⟨answer, rfl, rfl⟩ := (runs_controlRequest hfd hasks).mp hrun
    by_cases hanswer : 0 ≤ answer
    · rw [decide_eq_true hanswer]
      rfl
    · rw [if_pos (not_le.mp hanswer)] at hrc
      omega
  · exact ⟨0, _, (runs_controlRequest hfd hasks).mpr ⟨0, rfl, rfl⟩, le_rfl⟩

theorem performs_xmm626KernelSmdk4412Power (hfd : 0 ≤ fd) (power : Bool) :
    Performs world (require locals (xmm626KernelSmdk4412Power fd power))
      (once [.controlled fd (if power then .modemOn else .modemOff) true]) fun _ => True :=
  performs_controlRequest hfd (by cases power <;> rfl)

/-- Waiting for a status is not seen. -/
theorem quiet_statusWait (hasks : request.asks = true) (wanted : Int → Bool) (tries : Nat) :
    Quiet world.environment (statusWait fd request wanted tries) := by
  have hloop : Quiet world.environment (statusLoop fd request wanted tries) := by
    induction tries with
    | zero => exact .pure _
    | succ tries ih =>
        refine Quiet.bind (fun answer events hrun => ?_) fun status => .ite (.pure _) ih
        obtain ⟨_, rfl⟩ := runs_perform.mp hrun
        exact if_pos hasks
  exact .ite (.pure _) hloop

theorem performs_statusWait (hfd : 0 ≤ fd) (hasks : request.asks = true) {wanted : Int → Bool}
    (status : Int) (hwanted : wanted status = true) (tries : Nat) :
    Performs world (require locals (statusWait fd request wanted (tries + 1))) 1 fun _ => True := by
  refine performs_require_quiet (quiet_statusWait hasks wanted _) ⟨0, ?_, le_rfl⟩
  rw [statusWait, if_neg (not_lt.mpr hfd)]
  refine runs_bind.mpr ⟨status, [], [], runs_perform.mpr ⟨trivial, (if_pos hasks).symm⟩, ?_, rfl⟩
  rw [if_pos hwanted]
  exact ⟨rfl, rfl⟩

theorem performs_xmm626KernelSmdk4412LinkConnectedWait (hfd : 0 ≤ fd) :
    Performs world (require locals (xmm626KernelSmdk4412LinkConnectedWait fd)) 1 fun _ => True :=
  performs_statusWait hfd rfl 1 rfl 99

theorem performs_xmm626KernelSmdk4412LinkGetHostwakeWait (hfd : 0 ≤ fd) :
    Performs world (require locals (xmm626KernelSmdk4412LinkGetHostwakeWait fd)) 1 fun _ => True :=
  performs_statusWait hfd rfl 1 rfl 9

/-- The first wait for the host to be woken may fail. -/
theorem performs_ignored_hostwakeWait (fd : Int) :
    Performs world (ignored (xmm626KernelSmdk4412LinkGetHostwakeWait fd)) 1 fun _ => True := by
  have hquiet : Quiet world.environment (xmm626KernelSmdk4412LinkGetHostwakeWait fd) :=
    quiet_statusWait rfl _ _
  refine performs_ignored hquiet ?_
  rw [xmm626KernelSmdk4412LinkGetHostwakeWait, statusWait]
  split
  · exact ⟨_, _, rfl, rfl⟩
  · refine ⟨0, [], runs_bind.mpr ⟨1, [], [], runs_perform.mpr ⟨trivial, rfl⟩, ?_, rfl⟩⟩
    exact ⟨rfl, rfl⟩

end Requests

/-! ### Switching by sysfs -/

section Switches

theorem notes_sysfsValueWrite (path : Path) (value : Int) :
    Notes world.environment (Prog.perform (.sysfsValueWrite path value))
      (once [.switched path value]) := by
  intro rc events hrun
  exact (runs_perform.mp hrun).2

theorem runs_sysfsValueWrite (path : Path) (value : Int) :
    Runs world.environment (Prog.perform (.sysfsValueWrite path value)) 0 [.switched path value] :=
  runs_perform.mpr ⟨.inl rfl, rfl⟩

/-- A run that fails does what one does that succeeds. -/
theorem performs_require_notes {function : Prog ModemCall Int}
    (hnotes : Notes world.environment function L)
    (hcompletes : ∃ word, Runs world.environment function 0 word) :
    Performs world (require locals function) L fun _ => True := by
  obtain ⟨word, hrun⟩ := hcompletes
  exact performs_require (fun rc events hrun => le_begun (hnotes rc events hrun))
    (fun rc events hrun _ => hnotes rc events hrun) ⟨0, word, hrun, le_rfl⟩

/-- Both buses are switched, and one of them is enough. -/
def hciPowerWord (power : Bool) : List ModemEvent :=
  [.switched xmm626SecModemEhciPowerSysfs (boolInt power),
    .switched xmm626SecModemOhciPowerSysfs (boolInt power)]

theorem performs_xmm626KernelSmdk4412HciPower (power : Bool) :
    Performs world (require locals (xmm626KernelSmdk4412HciPower power)) (once (hciPowerWord power))
      fun _ => True := by
  refine performs_require_notes ?_ ?_
  · refine Notes.mono ((notes_sysfsValueWrite _ _).bind fun ehciRc => (notes_sysfsValueWrite _ _).bind_quiet
      fun ohciRc => .ite (.pure _) (.pure _)) (once_mul_once _ _).le
  · exact ⟨_, runs_bind.mpr ⟨0, _, _, runs_sysfsValueWrite _ _,
      runs_bind.mpr ⟨0, _, [], runs_sysfsValueWrite _ _, ⟨rfl, rfl⟩, rfl⟩, rfl⟩⟩

end Switches

/-! ### Transfers -/

section Transfers

variable {fd : Int} {function : Prog DeviceCall (Option Int)} {M : Language DeviceWrite}

theorem comap_onDevice (fd : Int) : world.environment.comap (ModemCall.onDevice fd) =
    deviceEnvironment.rename (.wrote fd) := by
  rw [Environment.comap, Environment.rename, Environment.mk.injEq]
  constructor
  · funext β request answer
    cases request <;> rfl
  · funext β request answer
    cases request <;> rfl

/-- What a sender writes is seen as written to the boot device. -/
theorem performs_translate (hsends : Sends function M) :
    Performs world (checked (function.translate (ModemCall.onDevice fd))) (Language.map (.wrote fd) M)
      fun _ => True := by
  refine hsends.renamed (fun write planned hcut => .wrote fd hcut) fun result events => ?_
  have hruns : ∀ rc events, Runs world.environment (function.translate (ModemCall.onDevice fd)) rc events ↔
      ∃ log, Runs deviceEnvironment function rc log ∧ events = log.map (.wrote fd) := by
    intro rc events
    rw [runs_translate, comap_onDevice, runs_rename]
  refine runs_map.trans ⟨?_, ?_⟩
  · rintro ⟨rc, hrun, rfl⟩
    obtain ⟨log, hlog, rfl⟩ := (hruns rc events).mp hrun
    exact ⟨log, runs_map.mpr ⟨rc, hlog, rfl⟩, rfl⟩
  · rintro ⟨log, hlog, rfl⟩
    obtain ⟨rc, hrun, rfl⟩ := runs_map.mp hlog
    exact ⟨rc, (hruns rc _).mpr ⟨log, hrun, rfl⟩, rfl⟩

theorem performs_send {sender : Int → Prog DeviceCall (Option Int)}
    (hsends : Sends (sender locals.modemBootFd) M) :
    Performs world (send locals sender) (Language.map (.wrote locals.modemBootFd) M) fun _ => True :=
  follows_mapError (performs_translate hsends) _

theorem answers_nvDataLoad {answer : Option Bytes} :
    world.Answers .nvDataLoad answer ↔ answer = world.nvData := by
  constructor
  · rintro ⟨choices, rfl⟩
    exact load_eq_recover choices
  · rintro rfl
    exact ⟨Stream'.const 0, (load_eq_recover _).symm⟩

theorem ipcClientNvDataSize_client (cfg : NvConfig) : ipcClientNvDataSize cfg.client ≠ 0 := by
  have hpos := cfg.chunkSize_pos
  have hle := cfg.chunkSize_le
  change cfg.size ≠ 0
  omega

/-- The NV data that are sent are those that can be recovered. -/
theorem performs_nvDataSend {send : Int → Option Bytes → Prog DeviceCall (Option Int)} {data : Bytes}
    (hfd : 0 ≤ locals.modemBootFd) (hdata : world.nvData = some data)
    (hsends : Sends (send locals.modemBootFd (some data)) M) :
    Performs world (stage locals (nvDataSend locals world.cfg.client send))
      (Language.map (.wrote locals.modemBootFd) M) fun _ => True := by
  refine follows_mapError ?_ _
  have hperforms : Performs world (checked ((send locals.modemBootFd (some data)).translate
      (ModemCall.onDevice locals.modemBootFd))) (Language.map (.wrote locals.modemBootFd) M) fun _ => True :=
    performs_translate hsends
  have hended := follows_checked_ended hperforms
  have hruns : ∀ rc events, Runs world.environment (nvDataSend locals world.cfg.client send) rc events ↔
      Runs world.environment (ended (checked ((send locals.modemBootFd (some data)).translate
        (ModemCall.onDevice locals.modemBootFd)))) rc events := by
    intro rc events
    rw [nvDataSend, if_neg (not_lt.mpr hfd), if_neg (ipcClientNvDataSize_client _)]
    refine runs_bind.trans ⟨?_, fun hrun => ?_⟩
    · rintro ⟨answer, _, second, hload, hrun, rfl⟩
      obtain ⟨hanswer, rfl⟩ := runs_perform.mp hload
      obtain rfl := (answers_nvDataLoad.mp hanswer).trans hdata
      exact hrun
    · exact ⟨some data, [], events, runs_perform.mpr ⟨answers_nvDataLoad.mpr hdata.symm, rfl⟩, hrun, rfl⟩
  refine hended.of_runs (fun value events => ?_) fun exit events hrun => ?_
  · simp only [checked, ExceptT.run_mk, runs_map, hruns]
  · obtain ⟨rc, hrc, hresult⟩ := runs_map.mp hrun
    exact ⟨_, runs_map.mpr ⟨rc, (hruns rc events).mp hrc, hresult⟩⟩

/-- Without NV data a boot ends here. -/
theorem abandons_nvDataSend {send : Int → Option Bytes → Prog DeviceCall (Option Int)}
    (hdata : world.nvData = none) :
    Abandons world.environment (stage locals (nvDataSend locals world.cfg.client send)) := by
  have hruns : ∀ rc events, Runs world.environment (nvDataSend locals world.cfg.client send) rc events →
      rc = some (-1) ∧ events = [] := by
    intro rc events hrun
    rw [nvDataSend] at hrun
    split at hrun
    · exact ⟨hrun.1.symm, hrun.2⟩
    · rw [if_neg (ipcClientNvDataSize_client _)] at hrun
      obtain ⟨answer, _, second, hload, hrest, rfl⟩ := runs_bind.mp hrun
      obtain ⟨hanswer, rfl⟩ := runs_perform.mp hload
      obtain rfl := (answers_nvDataLoad.mp hanswer).trans hdata
      exact ⟨hrest.1.symm, hrest.2⟩
  intro result events hrun
  obtain ⟨_, hchecked, rfl⟩ := runs_map.mp hrun
  obtain ⟨rc, hrc, rfl⟩ := runs_map.mp hchecked
  obtain ⟨rfl, rfl⟩ := hruns rc events hrc
  exact ⟨rfl, _, rfl⟩

end Transfers

/-! ### Opening and mapping -/

section Opening

variable {path : Path}

theorem runs_openDevice {result : Except BootEscape Int} {events : List ModemEvent} :
    Runs world.environment (openDevice path).run result events ↔
      result = .ok (-1) ∧ events = [] ∨
      result = .ok (world.fdOf path : Int) ∧ events = [.opened path (world.fdOf path)] := by
  constructor
  · intro hrun
    obtain ⟨_, first, second, hfirst, hrest, rfl⟩ := runs_bind.mp hrun
    obtain ⟨answer, rfl, hanswer, rfl⟩ := runs_lift.mp hfirst
    cases answer with
    | ok fd =>
        obtain rfl := hanswer fd rfl
        exact .inr ⟨hrest.1.symm, congrArg _ hrest.2⟩
    | error errno => exact .inl ⟨hrest.1.symm, congrArg _ hrest.2⟩
  · rintro (⟨rfl, rfl⟩ | ⟨rfl, rfl⟩)
    · have hcall : Runs world.environment (Booting.call (.openFile path)).run
          (.ok (.error ⟨ENOENT, by decide⟩)) [] := runs_bootCall.mpr ⟨nofun, rfl⟩
      exact runs_except_bind_ok.mpr ⟨_, [], [], hcall, ⟨rfl, rfl⟩, rfl⟩
    · have hcall : Runs world.environment (Booting.call (.openFile path)).run
          (.ok (.ok (world.fdOf path))) [.opened path (world.fdOf path)] :=
        runs_bootCall.mpr ⟨fun _ hok => (Except.ok.inj hok).symm, rfl⟩
      exact runs_except_bind_ok.mpr ⟨_, _, [], hcall, ⟨rfl, rfl⟩, rfl⟩

theorem openedFd_nonneg (world : BootWorld) (path : Path) : ¬(world.fdOf path : Int) < 0 := by omega

/-- One of these devices is opened. -/
def openedOne (world : BootWorld) (paths : List Path) : Language ModemEvent :=
  {word | ∃ path ∈ paths, word = [.opened path (world.fdOf path)]}

theorem openedOne_singleton (world : BootWorld) (path : Path) :
    openedOne world [path] = once [.opened path (world.fdOf path)] := by
  ext word
  constructor
  · rintro ⟨_, hpath, rfl⟩
    rw [List.mem_singleton.mp hpath]
    rfl
  · rintro rfl
    exact ⟨path, List.mem_singleton_self path, rfl⟩

/-- What opening one of these devices can end with. -/
def OpensOne (world : BootWorld) (paths : List Path) (opening : Booting Int) : Prop :=
  ∀ result events, Runs world.environment opening.run result events →
    result = .ok (-1) ∧ events = [] ∨
    ∃ path ∈ paths, result = .ok (world.fdOf path : Int) ∧ events = [.opened path (world.fdOf path)]

/-- A device that is opened, if a boot does not go on without it. -/
theorem performs_opening {opening : Booting Int} {paths : List Path} {rest : Int → Booting α}
    (hopens : OpensOne world paths opening)
    (hcan : ∃ path ∈ paths, Runs world.environment opening.run (.ok (world.fdOf path : Int))
      [.opened path (world.fdOf path)])
    (hrest : ∀ path ∈ paths, Performs world (rest (world.fdOf path)) L P)
    (hfailed : Abandons world.environment (rest (-1))) :
    Performs world (opening >>= rest) (openedOne world paths * L) P where
  emits := by
    intro value events hrun
    obtain ⟨fd, first, second, hopen, hsecond, rfl⟩ := runs_except_bind_ok.mp hrun
    rcases hopens _ first hopen with ⟨hfd, rfl⟩ | ⟨path, hpath, hfd, rfl⟩
    · cases hfd
      obtain ⟨_, _, herror⟩ := hfailed _ second hsecond
      cases herror
    · cases hfd
      obtain ⟨hmem, hvalue⟩ := (hrest path hpath).emits value second hsecond
      exact ⟨Language.append_mem_mul ⟨path, hpath, rfl⟩ hmem, hvalue⟩
  attempts := by
    obtain ⟨device, hdevice, _⟩ := hcan
    intro result events hrun
    obtain ⟨fd, first, second, hopen, hsecond, rfl⟩ := runs_bind.mp hrun
    rcases hopens _ first hopen with ⟨rfl, rfl⟩ | ⟨path, hpath, rfl, rfl⟩
    · obtain ⟨rfl, _⟩ := hfailed result second hsecond
      obtain ⟨word, hword⟩ := (hrest device hdevice).exists_mem
      exact nil_mem_begun ⟨_, Language.append_mem_mul ⟨device, hdevice, rfl⟩ hword⟩
    · exact append_mem_begun_mul ⟨path, hpath, rfl⟩ ((hrest path hpath).attempts result second hsecond)
  completes := by
    obtain ⟨path, hpath, hopen⟩ := hcan
    obtain ⟨value, events, hrun⟩ := (hrest path hpath).completes
    exact ⟨value, _, runs_bind_ok hopen hrun⟩

theorem performs_openDevice {rest : Int → Booting α}
    (hrest : Performs world (rest (world.fdOf path)) L P)
    (hfailed : Abandons world.environment (rest (-1))) :
    Performs world (openDevice path >>= rest) (once [.opened path (world.fdOf path)] * L) P := by
  rw [← openedOne_singleton]
  refine performs_opening (fun result events hrun => ?_) ?_ (fun device hdevice => ?_) hfailed
  · rcases runs_openDevice.mp hrun with hfailure | hopened
    · exact .inl hfailure
    · exact .inr ⟨path, List.mem_singleton_self path, hopened⟩
  · exact ⟨path, List.mem_singleton_self path, runs_openDevice.mpr (.inr ⟨rfl, rfl⟩)⟩
  · rw [List.mem_singleton.mp hdevice]
    exact hrest

theorem performs_openBoot (path : Path) (locals : BootLocals) :
    Performs world (openBoot path locals) (once [.opened path (world.fdOf path)]) fun opened =>
      opened = { locals with modemBootFd := world.fdOf path } := by
  rw [openBoot, ← mul_one (once _)]
  refine performs_openDevice ?_ ?_
  · rw [if_neg (openedFd_nonneg world path)]
    exact .pure rfl
  · rw [if_pos (by decide)]
    exact .throw _ _

theorem performs_openLink (path : Path) (locals : BootLocals) :
    Performs world (openLink path locals) (once [.opened path (world.fdOf path)]) fun opened =>
      opened = { locals with modemLinkFd := world.fdOf path } := by
  rw [openLink, ← mul_one (once _)]
  refine performs_openDevice ?_ ?_
  · rw [if_neg (openedFd_nonneg world path)]
    exact .pure rfl
  · rw [if_pos (by decide)]
    exact .throw _ _

/-- The variables behind the mapping of the image. -/
def BootWorld.mappedLocals (world : BootWorld) (imageFd : Fd) : BootLocals :=
  { BootLocals.initial with modemImageData := .mapped world.image, modemImageFd := imageFd }

theorem performs_mapImage (imageSize : Nat) (fd : Fd) :
    Performs world (mapImage imageSize { BootLocals.initial with modemImageFd := fd }) 1 fun result =>
      result = (world.image, world.mappedLocals fd) := by
  have himage : world.Answers (.mmap (fd : Int) imageSize) (.mapped world.image) := by
    rintro content ⟨⟩
    rfl
  rw [mapImage, ← one_mul (1 : Language ModemEvent)]
  refine (performs_call (fun _ => rfl) ⟨.mapped world.image, himage⟩).bind_or_abandon
    (fun mapping hmapping => ?_) ⟨.mapped world.image, [], runs_bootCall.mpr ⟨himage, rfl⟩, .pure rfl⟩
  cases mapping with
  | null => exact .inl (.throw _ _)
  | failed => exact .inl (.throw _ _)
  | mapped content =>
      obtain rfl := hmapping content rfl
      exact .inr (.pure rfl)

theorem performs_openImage (imageDevice : Path) (imageSize : Nat) :
    Performs world (openImage imageDevice imageSize)
      (once [.opened imageDevice (world.fdOf imageDevice)]) fun result =>
      result = (world.image, world.mappedLocals (world.fdOf imageDevice)) := by
  rw [openImage, ← mul_one (once _)]
  refine performs_openDevice ?_ ?_
  · rw [if_neg (openedFd_nonneg world imageDevice)]
    exact performs_mapImage imageSize _
  · rw [if_pos (by decide)]
    exact .throw _ _

end Opening

/-! ### Whole boots -/

/-- Every run of the boot does the start of a word of `L`, every run that reports success a whole word,
and it can succeed. -/
structure Boots (world : BootWorld) (boot : Prog ModemCall (Option Int)) (L : Language ModemEvent) :
    Prop where
  begins : ∀ result events, Runs world.environment boot result events → events ∈ begun CutShort L
  succeeds : ∀ events, Runs world.environment boot (some 0) events → events ∈ L
  completes : ∃ events, Runs world.environment boot (some 0) events

theorem quiet_releaseLocals (imageSize : Nat) (locals : BootLocals) :
    Quiet world.environment (releaseLocals imageSize locals) := by
  have hclose : ∀ fd, Quiet world.environment (closeIfOpen fd) := fun fd =>
    .ite (fun _ _ hrun => (runs_perform.mp hrun).2) (.pure _)
  have hunmap : Quiet world.environment (unmapIfMapped locals.modemImageData imageSize) := by
    unfold unmapIfMapped
    split
    · exact .pure _
    · exact fun _ _ hrun => (runs_perform.mp hrun).2
  exact hunmap.bind fun _ => (hclose _).bind fun _ => (hclose _).bind fun _ => hclose _

theorem exists_runs_releaseLocals (imageSize : Nat) (locals : BootLocals) :
    Runs world.environment (releaseLocals imageSize locals) () [] := by
  have hclose : ∀ fd, Runs world.environment (closeIfOpen fd) () [] := by
    intro fd
    rw [closeIfOpen]
    split
    · exact runs_perform.mpr ⟨trivial, rfl⟩
    · exact ⟨rfl, rfl⟩
  have hunmap : Runs world.environment (unmapIfMapped locals.modemImageData imageSize) () [] := by
    unfold unmapIfMapped
    split
    · exact ⟨rfl, rfl⟩
    · exact runs_perform.mpr ⟨trivial, rfl⟩
  refine runs_bind.mpr ⟨(), [], [], hunmap, runs_bind.mpr ⟨(), [], [], hclose _, ?_, rfl⟩, rfl⟩
  exact runs_bind.mpr ⟨(), [], [], hclose _, hclose _, rfl⟩

/-- What the result says about how the boot left its way. -/
def escapeResult : Except BootEscape BootLocals → Option Int
  | .ok _ => some 0
  | .error (.error _) => some (-1)
  | .error .fault => none

/-- The end of a boot is not seen. -/
theorem runs_bootEnd {imageSize : Nat} {body : Booting BootLocals} {result : Option Int}
    {events : List ModemEvent} :
    Runs world.environment (bootEnd imageSize body) result events ↔
      ∃ exit, Runs world.environment body.run exit events ∧ escapeResult exit = result := by
  have hend : ∀ (locals : BootLocals) (rc result : Option Int) (second : List ModemEvent),
      Runs world.environment (do
        releaseLocals imageSize locals
        pure rc) result second ↔ rc = result ∧ second = [] := by
    intro locals rc result second
    refine runs_map.trans ⟨?_, ?_⟩
    · rintro ⟨value, hrun, rfl⟩
      exact ⟨rfl, quiet_releaseLocals imageSize locals value second hrun⟩
    · rintro ⟨rfl, rfl⟩
      exact ⟨(), exists_runs_releaseLocals imageSize locals, rfl⟩
  refine runs_bind.trans ⟨?_, ?_⟩
  · rintro ⟨exit, first, second, hfirst, hsecond, rfl⟩
    obtain ⟨hresult, rfl⟩ : escapeResult exit = result ∧ second = [] := by
      match exit with
      | .ok locals => exact (hend locals _ result second).mp hsecond
      | .error (.error locals) => exact (hend locals _ result second).mp hsecond
      | .error .fault => exact hsecond
    exact ⟨exit, (List.append_nil first).symm ▸ hfirst, hresult⟩
  · rintro ⟨exit, hrun, rfl⟩
    refine ⟨exit, events, [], hrun, ?_, (List.append_nil events).symm⟩
    match exit with
    | .ok locals => exact (hend locals _ _ []).mpr ⟨rfl, rfl⟩
    | .error (.error locals) => exact (hend locals _ _ []).mpr ⟨rfl, rfl⟩
    | .error .fault => exact ⟨rfl, rfl⟩

theorem boots_bootEnd {imageSize : Nat} {body : Booting BootLocals} {P : BootLocals → Prop}
    (hbody : Performs world body L P) : Boots world (bootEnd imageSize body) L where
  begins := by
    intro result events hrun
    obtain ⟨exit, hexit, _⟩ := runs_bootEnd.mp hrun
    exact hbody.attempts exit events hexit
  succeeds := by
    intro events hrun
    obtain ⟨exit, hexit, hresult⟩ := runs_bootEnd.mp hrun
    match exit with
    | .ok locals => exact (hbody.emits locals events hexit).1
    | .error (.error _) => cases hresult
    | .error .fault => cases hresult
  completes := by
    obtain ⟨locals, events, hrun⟩ := hbody.completes
    exact ⟨events, runs_bootEnd.mpr ⟨_, hrun, rfl⟩⟩

/-- No run of the boot reports success, and every one does the start of a word of `L`. -/
def NeverBoots (world : BootWorld) (boot : Prog ModemCall (Option Int)) (L : Language ModemEvent) : Prop :=
  ∀ result events, Runs world.environment boot result events →
    result ≠ some 0 ∧ events ∈ begun CutShort L

theorem neverBoots_bootEnd {imageSize : Nat} {body : Booting BootLocals}
    (hbody : Strays world.environment CutShort body L) :
    NeverBoots world (bootEnd imageSize body) L := by
  intro result events hrun
  obtain ⟨exit, hexit, rfl⟩ := runs_bootEnd.mp hrun
  obtain ⟨hmem, escape, rfl⟩ := hbody exit events hexit
  refine ⟨?_, hmem⟩
  cases escape with
  | error locals => exact nofun
  | fault => exact nofun

end SamsungIpc
