import SamsungIpc.HerolteBoot

/-! What becomes of a boot step that fails. The rules below follow a boot from a log without failures:
a piece of it ends without one, or with one that the next test of a result sees, or with one that no
test sees. -/

namespace SamsungIpc

open Effect Boot

/-- The steps whose failure `herolte_boot` reports. -/
def BootStep.Reported : BootStep → Prop
  | .openFile .. | .read .. | .write .. => False
  | .lseek .. | .tocEntry _ | .handshake _ => True
  | .ioctl _ request =>
      match request with
      | .modemOn | .modemBootOn | .modemBootOff | .securityReq _ => True
      | .modemReset | .modemDlStart | .dpramSendBoot _ => False

/-- A failed step is the last one and makes the result negative; `0` means that none has failed. -/
structure FailuresReported (result : Option Int) (log : List BootEvent) : Prop where
  last : ∀ before event after, log = before ++ event :: after → event.Failed → after = []
  negative : ∀ rc ∈ result, (∃ event ∈ log, event.Failed) → rc < 0
  zero_iff : ∀ rc ∈ result, rc = 0 ↔ ∀ event ∈ log, ¬event.Failed

def Clean (log : List BootEvent) : Prop := ∀ event ∈ log, ¬event.Failed

/-- The last step of the log, and no other one, has failed. -/
def EndsIn (kind : BootStep → Prop) (log : List BootEvent) : Prop :=
  ∃ before event, log = before ++ [event] ∧ Clean before ∧ event.Failed ∧ kind event.step

/-- There are steps behind a failure that is not reported. -/
def Overrun (log : List BootEvent) : Prop :=
  ∃ before event after, log = before ++ event :: after ∧ after ≠ [] ∧ event.Failed ∧
    ¬event.step.Reported

/-- How a boot ends. -/
inductive Verdict : Option Int → List BootEvent → Prop where
  | clean {result : Option Int} {log : List BootEvent} (hlog : Clean log)
      (hresult : ∀ rc ∈ result, rc = 0) : Verdict result log
  | reported {rc : Int} {log : List BootEvent} (hlog : EndsIn BootStep.Reported log) (hrc : rc < 0) :
      Verdict (some rc) log
  | positive {rc : Int} {log : List BootEvent} (hlog : EndsIn (¬·.Reported) log) (hrc : 0 < rc) :
      Verdict (some rc) log
  | overrun {result : Option Int} {log : List BootEvent} (hlog : Overrun log) : Verdict result log

theorem Clean.append {log : List BootEvent} {event : BootEvent} (hlog : Clean log)
    (hevent : ¬event.Failed) : Clean (log ++ [event]) := by
  intro e he
  rcases List.mem_append.mp he |>.imp_right List.mem_singleton.mp with he | rfl
  · exact hlog e he
  · exact hevent

theorem EndsIn.mem {kind : BootStep → Prop} {log : List BootEvent} (hlog : EndsIn kind log) :
    ∃ event ∈ log, event.Failed ∧ kind event.step := by
  obtain ⟨before, event, rfl, _, hfailed, hkind⟩ := hlog
  exact ⟨event, List.mem_append_right _ (List.mem_singleton_self _), hfailed, hkind⟩

/-- Behind the only failure of a log, there is nothing. -/
theorem EndsIn.failed_eq {kind : BootStep → Prop} {log before after : List BootEvent}
    {event : BootEvent} (hlog : EndsIn kind log) (hsplit : log = before ++ event :: after)
    (hfailed : event.Failed) : after = [] ∧ kind event.step := by
  obtain ⟨start, last, rfl, hstart, hlast, hkind⟩ := hlog
  rcases List.eq_nil_or_concat after with rfl | ⟨inner, final, rfl⟩
  · obtain ⟨rfl, hevent⟩ := List.append_inj' hsplit rfl
    cases hevent
    exact ⟨rfl, hkind⟩
  · have hsplit' : start ++ [last] = (before ++ event :: inner) ++ [final] := by
      rw [hsplit, List.append_assoc, List.cons_append, List.concat_eq_append]
    obtain ⟨rfl, _⟩ := List.append_inj' hsplit' rfl
    exact absurd hfailed (hstart event (List.mem_append_right _ List.mem_cons_self))

theorem Verdict.failuresReported_iff {result : Option Int} {log : List BootEvent}
    (hverdict : Verdict result log) :
    FailuresReported result log ↔ ∀ event ∈ log, event.Failed → event.step.Reported := by
  cases hverdict with
  | clean hlog hresult =>
      refine iff_of_true ⟨?_, ?_, ?_⟩ fun event hevent hfailed => absurd hfailed (hlog event hevent)
      · rintro before event after rfl hfailed
        exact absurd hfailed (hlog event (List.mem_append_right _ List.mem_cons_self))
      · rintro rc _ ⟨event, hevent, hfailed⟩
        exact absurd hfailed (hlog event hevent)
      · exact fun rc hrc => iff_of_true (hresult rc hrc) hlog
  | @reported rc _ hlog hrc =>
      obtain ⟨event, hevent, hfailed, _⟩ := hlog.mem
      refine iff_of_true ⟨fun _ _ _ hsplit h => (hlog.failed_eq hsplit h).1, ?_, ?_⟩ ?_
      · rintro _ ⟨⟩ _
        exact hrc
      · rintro _ ⟨⟩
        exact iff_of_false hrc.ne fun hclean => hclean event hevent hfailed
      · intro event hevent hfailed
        obtain ⟨before, after, hsplit⟩ := List.append_of_mem hevent
        exact (hlog.failed_eq hsplit hfailed).2
  | @positive rc _ hlog hrc =>
      obtain ⟨event, hevent, hfailed, hkind⟩ := hlog.mem
      refine iff_of_false (fun hreported => ?_) fun hall => hkind (hall event hevent hfailed)
      exact absurd (hreported.negative rc rfl ⟨event, hevent, hfailed⟩) hrc.not_gt
  | overrun hlog =>
      obtain ⟨before, event, after, rfl, hafter, hfailed, hkind⟩ := hlog
      refine iff_of_false (fun hreported => ?_) fun hall => ?_
      · exact hafter (hreported.last before event after rfl hfailed)
      · exact hkind (hall event (List.mem_append_right _ List.mem_cons_self) hfailed)

/-! ### Rules -/

namespace Boot

variable {α β : Type} {log : List BootEvent}

/-- Every run from the log ends with `Q`. -/
def Ends (p : Boot α) (Q : Except BootExit α → List BootEvent → Prop) (log : List BootEvent) : Prop :=
  wp bootHandler (fun _ => True) p.run Q log

theorem ends_pure {value : α} {Q : Except BootExit α → List BootEvent → Prop}
    (hvalue : Q (.ok value) log) : Ends (pure value) Q log := ⟨trivial, hvalue⟩

theorem ends_fail {Q : Except BootExit α → List BootEvent → Prop}
    (hexit : Q (.error (.exit (-1))) log) : Ends fail Q log := ⟨trivial, hexit⟩

theorem ends_bind {p : Boot α} {rest : α → Boot β} {Q : Except BootExit β → List BootEvent → Prop}
    (hp : Ends p (fun result log' =>
      match result with
      | .ok value => Ends (rest value) Q log'
      | .error exit => Q (.error exit) log') log) : Ends (p >>= rest) Q log := by
  refine wp_except_bind.mpr (wp_mono hp fun result log' hresult => ?_)
  cases result with
  | ok value => exact hresult
  | error exit => exact ⟨trivial, hresult⟩

theorem ends_mono {p : Boot α} {Q R : Except BootExit α → List BootEvent → Prop} (hp : Ends p Q log)
    (hQR : ∀ result log', Q result log' → R result log') : Ends p R log := wp_mono hp hQR

theorem ends_call {request : BootCall α} {Q : Except BootExit α → List BootEvent → Prop}
    (hcall : ∀ choice, Q (.ok (bootHandler α choice request log).1)
      (bootHandler α choice request log).2) : Ends (call request) Q log :=
  ⟨trivial, fun choice => ⟨trivial, hcall choice⟩⟩

/-- Every call is logged. -/
theorem bootHandler_log (choice : BootChoice) (request : BootCall α) (log : List BootEvent) :
    ∃ event, (bootHandler α choice request log).2 = log ++ [event] := by
  cases request with
  | openFile => exact ⟨_, rfl⟩
  | read => exact ⟨_, rfl⟩
  | write => exact ⟨_, rfl⟩
  | lseek => exact ⟨_, rfl⟩
  | ioctl => exact ⟨_, rfl⟩
  | test => exact ⟨_, rfl⟩

theorem overrun_ends (hlog : Overrun log) (p : Boot α) : Ends p (fun _ => Overrun) log := by
  refine wp_of_kept (fun _ choice request s hs => ?_) hlog
  obtain ⟨before, event, after, rfl, hafter, hfailed, hkind⟩ := hs
  obtain ⟨next, hnext⟩ := bootHandler_log choice request (before ++ event :: after)
  rw [hnext, List.append_assoc, List.cons_append]
  have hbehind : after ++ [next] ≠ [] := List.append_ne_nil_of_left_ne_nil hafter _
  exact ⟨before, event, after ++ [next], rfl, hbehind, hfailed, hkind⟩

/-- The program begins with a call. -/
def Starts (p : Boot α) : Prop :=
  ∃ (γ : Type) (request : BootCall γ) (next : γ → Prog BootCall (Except BootExit α)),
    p.run = .call request next

theorem overrun_of_starts {p : Boot α} (hstarts : Starts p) (hlog : EndsIn (¬·.Reported) log) :
    Ends p (fun _ => Overrun) log := by
  obtain ⟨γ, request, next, hrun⟩ := hstarts
  obtain ⟨before, event, rfl, _, hfailed, hkind⟩ := hlog
  rw [Ends, hrun]
  refine ⟨trivial, fun choice => ?_⟩
  obtain ⟨first, hfirst⟩ := bootHandler_log choice request (before ++ [event])
  refine overrun_ends (p := ExceptT.mk (next _)) ?_
  rw [hfirst, List.append_assoc]
  exact ⟨before, event, [first], rfl, List.cons_ne_nil _ _, hfailed, hkind⟩

/-- What `herolte_boot` returns when a piece of it leaves. -/
def exitResult : BootExit → Option Int
  | .exit rc => some rc
  | .unfinished => none

/-- From a log without failures, the program ends without one and with `Q`, or it leaves with a
verdict; there may be a failure that it has run over. -/
def Sound (p : Boot α) (Q : α → Prop) : Prop :=
  ∀ log, Clean log → Ends p (fun result log' =>
    match result with
    | .ok value => Clean log' ∧ Q value ∨ Overrun log'
    | .error exit => Verdict (exitResult exit) log') log

/-- The program answers an error exactly when its last call has failed, which is of this kind. -/
def FailsBy (kind : BootStep → Prop) (p : Boot (Except CallErrno α)) : Prop :=
  ∀ log, Clean log → Ends p (fun result log' =>
    match result with
    | .ok (.ok _) => Clean log'
    | .ok (.error _) => EndsIn kind log'
    | .error exit => exit = .unfinished ∧ Clean log') log

/-- The program answers `0` without a failure, a negative value behind one that is reported, and a
positive one behind another. -/
def Signals (p : Boot α) (rc : α → Int) : Prop :=
  ∀ log, Clean log → Ends p (fun result log' =>
    match result with
    | .ok value =>
        Clean log' ∧ rc value = 0 ∨ EndsIn BootStep.Reported log' ∧ rc value < 0 ∨
          EndsIn (¬·.Reported) log' ∧ 0 < rc value
    | .error exit => exit = .unfinished ∧ Clean log') log

variable {Q : β → Prop}

theorem verdict_unfinished (hlog : Clean log) : Verdict (exitResult .unfinished) log :=
  .clean hlog nofun

/-- What follows a call starts from a log without failures, or from one that its failure ends. -/
theorem FailsBy.bind {kind : BootStep → Prop} {p : Boot (Except CallErrno α)}
    {next : Except CallErrno α → Boot β} {R : Except BootExit β → List BootEvent → Prop}
    (hp : FailsBy kind p) (hlog : Clean log)
    (hok : ∀ value log', Clean log' → Ends (next (.ok value)) R log')
    (herror : ∀ errno log', EndsIn kind log' → Ends (next (.error errno)) R log')
    (hunfinished : ∀ log', Clean log' → R (.error .unfinished) log') : Ends (p >>= next) R log := by
  refine ends_bind (ends_mono (hp log hlog) fun result log' hresult => ?_)
  cases result with
  | ok answer =>
      cases answer with
      | ok value => exact hok value log' hresult
      | error errno => exact herror errno log' hresult
  | error exit =>
      obtain ⟨rfl, hclean⟩ := hresult
      exact hunfinished log' hclean

theorem sound_pure {value : α} {Q : α → Prop} (hvalue : Q value) : Sound (pure value) Q :=
  fun _ hlog => ends_pure (.inl ⟨hlog, hvalue⟩)

theorem sound_bind {p : Boot α} {P : α → Prop} {rest : α → Boot β} (hp : Sound p P)
    (hrest : ∀ value, P value → Sound (rest value) Q) : Sound (p >>= rest) Q := by
  intro log hlog
  refine ends_bind (ends_mono (hp log hlog) fun result log' hresult => ?_)
  cases result with
  | ok value =>
      rcases hresult with ⟨hclean, hvalue⟩ | hoverrun
      · exact hrest value hvalue log' hclean
      · exact ends_mono (overrun_ends hoverrun (rest value)) fun result _ h => by
          cases result with
          | ok => exact .inr h
          | error => exact .overrun h
  | error exit => exact hresult

theorem sound_orErrno {p : Boot (Except CallErrno α)} {rest : α → Boot β}
    (hp : FailsBy (¬·.Reported) p) (hrest : ∀ value, Sound (rest value) Q) :
    Sound (p >>= fun result => orErrno result >>= rest) Q := by
  intro log hlog
  refine hp.bind hlog hrest (fun errno log' hends => ?_) fun log' => verdict_unfinished
  exact ends_bind ⟨trivial, .positive hends errno.property⟩

theorem sound_orFail {p : Boot (Except CallErrno α)} {rest : α → Boot β}
    (hp : FailsBy BootStep.Reported p) (hrest : ∀ value, Sound (rest value) Q) :
    Sound (p >>= fun result => orFail result >>= rest) Q := by
  intro log hlog
  refine hp.bind hlog hrest (fun errno log' hends => ?_) fun log' => verdict_unfinished
  exact ends_bind (ends_fail (.reported hends (by decide)))

/-- The test of a result lets a failure pass that made it positive, and the boot goes on. -/
theorem sound_failIfNegative {p : Boot α} {rc : α → Int} {rest : α → Boot β} (hp : Signals p rc)
    (hstarts : ∀ value, Starts (rest value)) (hrest : ∀ value, Sound (rest value) Q) :
    Sound (p >>= fun value => failIfNegative (rc value) >>= fun _ => rest value) Q := by
  intro log hlog
  refine ends_bind (ends_mono (hp log hlog) fun result log' hresult => ?_)
  cases result with
  | ok value =>
      rcases hresult with ⟨hclean, hzero⟩ | ⟨hreported, hneg⟩ | ⟨hhidden, hpos⟩
      · dsimp only
        rw [failIfNegative, if_neg (by omega)]
        exact ends_bind (ends_pure (hrest value log' hclean))
      · dsimp only
        rw [failIfNegative, if_pos hneg]
        exact ends_bind (ends_fail (.reported hreported (by decide)))
      · dsimp only
        rw [failIfNegative, if_neg (by omega)]
        refine ends_bind (ends_pure (ends_mono (overrun_of_starts (hstarts value) hhidden) ?_))
        intro result _ h
        cases result with
        | ok => exact .inr h
        | error => exact .overrun h
  | error exit =>
      obtain ⟨rfl, hclean⟩ := hresult
      exact verdict_unfinished hclean

/-- A failed call ends the program with its error. -/
theorem failsBy_bind {kind : BootStep → Prop} {p : Boot (Except CallErrno α)}
    {next : Except CallErrno α → Boot (Except CallErrno β)} (hp : FailsBy kind p)
    (herror : ∀ errno, next (.error errno) = pure (.error errno))
    (hok : ∀ value, FailsBy kind (next (.ok value))) : FailsBy kind (p >>= next) := by
  intro log hlog
  refine hp.bind hlog hok (fun errno log' hends => ?_) fun log' hclean => ⟨rfl, hclean⟩
  rw [herror]
  exact ends_pure hends

theorem signals_pure {value : α} {rc : α → Int} (hvalue : rc value = 0) : Signals (pure value) rc :=
  fun _ hlog => ends_pure (.inl ⟨hlog, hvalue⟩)

/-- A failed call ends the program with a result whose sign fits. -/
theorem signals_bind {kind : BootStep → Prop} {p : Boot (Except CallErrno α)}
    {next : Except CallErrno α → Boot β} {rc : β → Int} (hp : FailsBy kind p)
    (herror : ∀ errno, ∃ value, next (.error errno) = pure value ∧ ∀ log, EndsIn kind log →
      EndsIn BootStep.Reported log ∧ rc value < 0 ∨ EndsIn (¬·.Reported) log ∧ 0 < rc value)
    (hok : ∀ value, Signals (next (.ok value)) rc) : Signals (p >>= next) rc := by
  intro log hlog
  refine hp.bind hlog hok (fun errno log' hends => ?_) fun log' hclean => ⟨rfl, hclean⟩
  obtain ⟨value, hvalue, hsign⟩ := herror errno
  rw [hvalue]
  exact ends_pure (.inr (hsign log' hends))

/-! ### The pieces of the boot -/

/-- A step without an alternative fails with its call. -/
theorem failsBy_call {kind : BootStep → Prop} {request : BootCall (Except CallErrno α)}
    {step : BootStep} {value : BootChoice → α}
    (hrequest : ∀ choice log, bootHandler _ choice request log =
      (choice.answer (value choice), log ++ [⟨step, choice.result⟩]))
    (hstep : ∀ errno, (BootEvent.mk step (.error errno)).Failed) (hkind : kind step) :
    FailsBy kind (call request) := by
  intro log hlog
  refine ends_call fun choice => ?_
  rw [hrequest]
  cases herrno : choice.errno with
  | none =>
      simp only [BootChoice.answer, BootChoice.result, herrno]
      exact hlog.append (by simp [BootEvent.Failed])
  | some errno =>
      simp only [BootChoice.answer, BootChoice.result, herrno]
      exact ⟨log, _, rfl, hlog, hstep errno, hkind⟩

theorem failsBy_dataReadLoop (fd : Fd) (count fuel : Nat) (remaining : Int) (buffer : Bytes) :
    FailsBy (¬·.Reported) (dataReadLoop fd count fuel remaining buffer) := by
  induction fuel generalizing remaining buffer with
  | zero => exact fun log hlog => ⟨trivial, rfl, hlog⟩
  | succ fuel ih =>
      unfold dataReadLoop
      split_ifs
      · have hread : FailsBy (¬·.Reported) (call (.read fd count)) :=
          failsBy_call (fun _ _ => rfl) (fun _ => trivial) id
        exact failsBy_bind hread (fun _ => rfl) fun bytes => ih _ _
      · exact fun log hlog => ends_pure hlog

theorem failsBy_dataRead (fuel : Nat) (fd : Fd) (buffer : Bytes) (count : Nat) :
    FailsBy (¬·.Reported) (dataRead fuel fd buffer count) :=
  failsBy_dataReadLoop fd count fuel count buffer

theorem failsBy_dataWriteLoop (fd : Fd) (buffer : Bytes) (fuel : Nat) (remaining : Int) :
    FailsBy (¬·.Reported) (dataWriteLoop fd buffer fuel remaining) := by
  induction fuel generalizing remaining with
  | zero => exact fun log hlog => ⟨trivial, rfl, hlog⟩
  | succ fuel ih =>
      unfold dataWriteLoop
      split_ifs
      · have hwrite : FailsBy (¬·.Reported) (call (.write fd buffer)) :=
          failsBy_call (fun _ _ => rfl) (fun _ => trivial) id
        exact failsBy_bind hwrite (fun _ => rfl) fun count => ih _
      · exact fun log hlog => ends_pure hlog

/-- A path that is missing is a failure only if it is the last one. -/
theorem failsBy_openAndroidModemPartition {paths : List Path} (hpaths : paths ≠ []) :
    FailsBy (¬·.Reported) (openAndroidModemPartition paths) := by
  induction paths with
  | nil => exact absurd rfl hpaths
  | cons path paths ih =>
      intro log hlog
      refine ends_bind (ends_call fun choice => ?_)
      cases herrno : choice.errno with
      | none =>
          simp only [bootHandler, BootChoice.answer, BootChoice.result, herrno]
          exact ends_pure (hlog.append (by simp [BootEvent.Failed]))
      | some errno =>
          simp only [bootHandler, BootChoice.answer, BootChoice.result, herrno]
          by_cases hlast : paths = []
          · subst hlast
            have hends : EndsIn (¬·.Reported)
                (log ++ [⟨.openFile path (decide (([] : List Path) ≠ [])), .error errno⟩]) :=
              ⟨log, _, rfl, hlog, trivial, id⟩
            split_ifs
            · exact ends_pure hends
            · exact ends_pure hends
          · rw [decide_eq_true hlast]
            split_ifs with hmissing
            · exact ih hlast _ (hlog.append fun hfailed => hfailed hmissing)
            · exact ends_pure ⟨log, _, rfl, hlog, hmissing, id⟩

theorem signals_sendBoot (fuel : Nat) (deviceFd firmwareFd : Fd) (chunks remaining : Nat)
    (partition : ModemFirmwarePartitionData) :
    Signals (sendBoot fuel deviceFd firmwareFd chunks remaining partition) id := by
  induction chunks generalizing remaining partition with
  | zero => exact signals_pure rfl
  | succ chunks ih =>
      have hsend : ∀ partition, FailsBy (¬·.Reported)
          (call (.ioctl deviceFd (.dpramSendBoot partition))) := fun _ =>
        failsBy_call (fun _ _ => rfl) (fun _ => trivial) id
      unfold sendBoot
      by_cases hmore : remaining > 0
      · rw [if_pos hmore]
        -- both calls end the upload with their `errno`
        have herrno : ∀ errno : CallErrno, ∃ value : Int, (pure errno.val : Boot Int) = pure value ∧
            ∀ log, EndsIn (¬·.Reported) log →
              EndsIn BootStep.Reported log ∧ value < 0 ∨ EndsIn (¬·.Reported) log ∧ 0 < value :=
          fun errno => ⟨errno.val, rfl, fun _ hends => .inr ⟨hends, errno.property⟩⟩
        refine signals_bind (failsBy_dataRead fuel firmwareFd _ _) herrno fun binary => ?_
        exact signals_bind (hsend _) herrno fun _ => ih _ _
      · rw [if_neg hmore]
        exact signals_pure rfl

theorem signals_uploadChunk (fuel : Nat) (deviceFd firmwareFd : Fd) (toc : List FirmwareTocEntry)
    (name : CString) : Signals (uploadChunk fuel deviceFd firmwareFd toc name) (·.1) := by
  intro log hlog
  have hmissing : ∀ {before : List BootEvent} {entry : CString}, Clean before →
      EndsIn BootStep.Reported (before ++ [⟨.tocEntry entry, .rejected⟩]) := fun hbefore =>
    ⟨_, _, rfl, hbefore, trivial, trivial⟩
  have hfound : ∀ {before : List BootEvent} {entry : CString}, Clean before →
      Clean (before ++ [⟨.tocEntry entry, .success⟩]) := fun hbefore => hbefore.append id
  refine ends_bind (ends_call fun _ => ?_)
  cases findTocEntry (cString "BOOT") toc with
  | none => exact ends_pure (.inr (.inl ⟨hmissing hlog, by decide⟩))
  | some bootTocEntry =>
      refine ends_bind (ends_call fun _ => ?_)
      cases findTocEntry name toc with
      | none => exact ends_pure (.inr (.inl ⟨hmissing (hfound hlog), by decide⟩))
      | some currentTocEntry =>
          have hseek : FailsBy BootStep.Reported (call (.lseek firmwareFd currentTocEntry.offset)) :=
            failsBy_call (fun _ _ => rfl) (fun _ => trivial) trivial
          refine signals_bind hseek (fun errno => ⟨(-errno.val, some currentTocEntry.size), rfl,
            fun _ hends => .inl ⟨hends, Int.neg_neg_of_pos errno.property⟩⟩) (fun _ log' hclean => ?_) _
              (hfound (hfound hlog))
          refine ends_bind (ends_mono (signals_sendBoot _ _ _ _ _ _ log' hclean) ?_)
          intro result log'' hsent
          cases result with
          | error exit => exact hsent
          | ok rc => exact ends_pure hsent

theorem starts_uploadChunk (fuel : Nat) (deviceFd firmwareFd : Fd) (toc : List FirmwareTocEntry)
    (name : CString) : Starts (uploadChunk fuel deviceFd firmwareFd toc name) := ⟨_, _, _, rfl⟩

theorem Starts.bind {p : Boot α} {rest : α → Boot β} (hstarts : Starts p) : Starts (p >>= rest) := by
  obtain ⟨γ, request, next, hrun⟩ := hstarts
  refine ⟨γ, request, fun answer => (ExceptT.mk (next answer) >>= rest).run, ?_⟩
  change p.run.bind _ = _
  rw [hrun]
  rfl

theorem signals_selectSecureMode (boot0Fd : Fd) (secure : Bool) (sizeBoot sizeMain : UInt32) :
    Signals (selectSecureMode boot0Fd secure sizeBoot sizeMain) id := by
  have hioctl : ∀ request, FailsBy BootStep.Reported (call (.ioctl boot0Fd (.securityReq request))) :=
    fun _ => failsBy_call (fun _ _ => rfl) (fun _ => trivial) trivial
  exact signals_bind (hioctl _) (fun _ => ⟨-1, rfl, fun _ hends => .inl ⟨hends, by decide⟩⟩)
    fun _ => signals_pure rfl

theorem sound_handshakeStage (fuel : Nat) (boot0Fd : Fd) (buf expected : UInt32) :
    Sound (handshakeStage fuel boot0Fd buf expected) (fun _ => True) := by
  refine sound_orErrno (failsBy_dataWriteLoop _ _ _ _) fun _ => ?_
  refine sound_orErrno (failsBy_dataRead _ _ _ _) fun answer => ?_
  intro log hlog
  refine ends_bind (ends_call fun _ => ?_)
  by_cases hpassed : UInt32.ofNat (LittleEndian.decode answer) = expected
  · have hclean : Clean (log ++ [⟨.handshake expected, .success⟩]) := hlog.append id
    rw [decide_eq_true hpassed]
    dsimp only
    rw [if_pos hpassed]
    exact ends_pure (.inl ⟨hclean, trivial⟩)
  · have hends : EndsIn BootStep.Reported (log ++ [⟨.handshake expected, .rejected⟩]) :=
      ⟨log, _, rfl, hlog, trivial, trivial⟩
    rw [decide_eq_false hpassed]
    dsimp only
    rw [if_neg hpassed]
    exact ends_fail (.reported hends (by decide))

end Boot

theorem sound_herolteBootBody (fuel : Nat) (stack : Bytes) :
    Sound (herolteBootBody fuel stack) (· = 0) := by
  have hopen : ∀ path, FailsBy (¬·.Reported) (call (.openFile path false)) := fun _ =>
    failsBy_call (fun _ _ => rfl) (fun _ => trivial) id
  have hioctl : ∀ {kind : BootStep → Prop} {fd : Fd} {request : IoctlRequest},
      kind (.ioctl fd request) → FailsBy kind (call (.ioctl fd request)) := fun hkind =>
    failsBy_call (fun _ _ => rfl) (fun _ => trivial) hkind
  refine sound_orErrno (failsBy_openAndroidModemPartition (List.cons_ne_nil _ _)) fun imagefd => ?_
  refine sound_orErrno (failsBy_dataRead _ _ _ _) fun toc => ?_
  refine sound_orErrno (hopen _) fun nvfd => ?_
  refine sound_orErrno (hopen _) fun boot0Fd => ?_
  refine sound_orErrno (hioctl id) fun _ => ?_
  refine sound_failIfNegative (signals_selectSecureMode _ _ _ _)
    (fun _ => (starts_uploadChunk _ _ _ _ _).bind) fun _ => ?_
  refine sound_failIfNegative (signals_uploadChunk _ _ _ _ _)
    (fun _ => (starts_uploadChunk _ _ _ _ _).bind) fun boot => ?_
  refine sound_failIfNegative (signals_uploadChunk _ _ _ _ _)
    (fun _ => (starts_uploadChunk _ _ _ _ _).bind) fun main => ?_
  refine sound_failIfNegative (signals_uploadChunk _ _ _ _ _) (fun _ => ⟨_, _, _, rfl⟩) fun nv => ?_
  refine sound_failIfNegative (signals_selectSecureMode _ _ _ _) (fun _ => ⟨_, _, _, rfl⟩) fun _ => ?_
  refine sound_orFail (hioctl trivial) fun _ => ?_
  refine sound_orFail (hioctl trivial) fun _ => ?_
  refine sound_orErrno (hioctl id) fun _ => ?_
  refine sound_bind (sound_handshakeStage _ _ _ _) fun _ _ => ?_
  refine sound_bind (sound_handshakeStage _ _ _ _) fun _ _ => ?_
  exact sound_orFail (hioctl trivial) fun _ => sound_pure rfl

theorem verdict_herolteBoot (fuel : Nat) (stack : Bytes) (choices : Stream' BootChoice) :
    Verdict (exec bootHandler (herolteBoot fuel stack) choices []).1
      (exec bootHandler (herolteBoot fuel stack) choices []).2 := by
  have hbody := sound_herolteBootBody fuel stack [] (List.forall_mem_nil _)
  refine wp_exec (Q := Verdict) (wp_bind.mpr (wp_mono hbody fun result log hresult => ?_)) choices
  cases result with
  | ok rc =>
      refine ⟨trivial, ?_⟩
      rcases hresult with ⟨hclean, rfl⟩ | hoverrun
      · exact .clean hclean fun rc hrc => (Option.mem_some_iff.mp hrc).symm
      · exact .overrun hoverrun
  | error exit =>
      cases exit with
      | exit rc => exact ⟨trivial, hresult⟩
      | unfinished => exact ⟨trivial, hresult⟩

/-- **A failed boot step stops the boot and is reported exactly when it is one whose result is turned
into `-1` or `-errno`.** The others end in a positive `errno`, which every test lets pass. -/
theorem herolteBoot_reports_iff (fuel : Nat) (stack : Bytes) (choices : Stream' BootChoice) :
    let run := exec bootHandler (herolteBoot fuel stack) choices []
    FailuresReported run.1 run.2 ↔ ∀ event ∈ run.2, event.Failed → event.step.Reported :=
  (verdict_herolteBoot fuel stack choices).failuresReported_iff

/-- An entry for one byte of firmware. -/
def sampleTocEntry (name : CString) : Bytes :=
  name ++ List.replicate (20 - name.length) 0 ++ [1] ++ List.replicate 11 0

/-- The first read of the upload of BOOT fails with `EIO`, and every other call succeeds. -/
def failedBootRead : Stream' BootChoice := fun index => {
  errno := if index = 9 then some ⟨5, by decide⟩ else none
  fd := 3
  bytes :=
    if index = 1 then
      [cString "BOOT", cString "MAIN", cString "NV"].flatMap sampleTocEntry ++ List.replicate 416 0
    else if index = 25 then [0x0d, 0xa0, 0, 0]
    else if index = 28 then [0x00, 0xaf, 0, 0]
    else [0]
  count := 4 }

set_option maxRecDepth 10000 in
/-- The boot goes on without BOOT, powers the modem on, and returns `0`. -/
theorem herolteBoot_without_boot :
    ¬FailuresReported (exec bootHandler (herolteBoot 3 []) failedBootRead []).1
      (exec bootHandler (herolteBoot 3 []) failedBootRead []).2 := by
  intro hreported
  have hresult : (exec bootHandler (herolteBoot 3 []) failedBootRead []).1 = some 0 := by decide
  have hread : (exec bootHandler (herolteBoot 3 []) failedBootRead []).2[9]? =
      some ⟨.read 3 1, .error ⟨5, by decide⟩⟩ := by rfl
  have hnegative := hreported.negative 0 hresult ⟨_, List.mem_of_getElem? hread, trivial⟩
  exact absurd hnegative (lt_irrefl 0)

end SamsungIpc
