import SamsungIpc.ClientTools

/-! What the tools do to their client and to descriptors: one keeps to the protocol in every run, and two
leave it exactly when their start has failed. -/

namespace SamsungIpc

open Effect ObjectMemory

/-! ### `ipc-test.c` -/

namespace IpcTest

variable {ref : ClientRef} {data : Address} {fd : Fd}

theorem follows_complete {phase : ClientPhase} {status : Int} (hphase : phase ≠ .gone)
    (hown : phase.own = ∅) :
    (complete (some ref.client) status).Follows (clientProtocol ref)
      (fun status behind => status = none ∨ behind = .gone) phase := by
  refine ⟨⟨rfl, hphase, hown⟩, ?_⟩
  rintro _ _ ⟨-, rfl⟩
  exact .inr rfl

theorem follows_pollTurns (turns : Nat) :
    (pollTurns (some ref.client) turns).run.Follows (clientProtocol ref)
      (fun exit behind => exit = .error .lost ∨ exit = .ok () ∧ behind = .opened data fd)
      (.opened data fd) := by
  induction turns with
  | zero => exact .inr ⟨rfl, rfl⟩
  | succ turns ih =>
      refine ⟨⟨rfl, nofun, trivial⟩, ?_⟩
      rintro rc _ rfl
      change Prog.Follows _ _ (ite (rc < 0) _ _) _
      refine .ite (fun _ => .inr ⟨rfl, rfl⟩) fun _ => ?_
      refine ⟨⟨rfl, nofun, trivial⟩, ?_⟩
      rintro receipt _ rfl
      have hcontinue : ∀ rc : Int, Prog.Follows (clientProtocol ref)
          (fun exit behind => exit = .error .lost ∨ exit = .ok () ∧ behind = .opened data fd)
          (ExceptT.run (if rc < 0 then pure () else pollTurns (some ref.client) turns))
          (.opened data fd) := by
        intro rc
        split_ifs
        · exact .inr ⟨rfl, rfl⟩
        · exact ih
      cases receipt with
      | blocked => exact .inl rfl
      | refused => exact hcontinue (-1)
      | parsed message status =>
          cases status with
          | waiting => exact .inl rfl
          | fault => exact .inl rfl
          | returned rc => exact hcontinue rc

/-- On the way to the end nothing is open, or the loop has been left for good. -/
theorem follows_work :
    (work (some ref.client)).run.Follows (clientProtocol ref)
      (fun exit behind => exit = .error .lost ∨ behind ≠ .gone ∧ behind.own = ∅) .blank := by
  refine ⟨⟨rfl, nofun, rfl⟩, ?_⟩
  rintro _ _ ⟨rfl, data, rfl⟩
  refine ⟨⟨rfl, nofun, trivial⟩, ?_⟩
  rintro _ _ ⟨rfl | rfl, rfl⟩
  · refine ⟨⟨rfl, nofun, trivial⟩, ?_⟩
    rintro _ _ ⟨rfl, rfl⟩
    refine ⟨⟨rfl, nofun, trivial⟩, ?_⟩
    rintro _ _ (⟨rfl, fd, rfl⟩ | ⟨rfl, rfl⟩)
    · change Prog.Follows _ _ (ExceptT.run (pollTurns (some ref.client) 5 >>= _)) _
      refine Prog.Follows.except_bind (follows_pollTurns 5) ?_ ?_
      · rintro _ _ (hlost | ⟨-, rfl⟩)
        · cases hlost
        refine ⟨⟨rfl, nofun, trivial⟩, ?_⟩
        rintro _ _ ⟨rfl, rfl⟩
        refine ⟨⟨rfl, nofun, trivial⟩, ?_⟩
        rintro rc _ rfl
        change Prog.Follows _ _ (ExceptT.run (failWith 1 rc)) _
        unfold failWith
        split_ifs
        · exact .inr ⟨nofun, rfl⟩
        · exact .inr ⟨nofun, rfl⟩
      · rintro exit _ (hlost | ⟨hreturned, -⟩)
        · exact .inl (congrArg Except.error (Except.error.inj hlost))
        · cases hreturned
    · exact .inr ⟨nofun, rfl⟩
  · exact .inr ⟨nofun, rfl⟩

theorem follows_withClient :
    (withClient (some ref.client)).Follows (clientProtocol ref)
      (fun status behind => status = none ∨ behind = .gone) .blank := by
  refine Prog.Follows.bind (@follows_work ref) ?_
  rintro exit behind (rfl | ⟨hphase, hown⟩)
  · exact .inl rfl
  · cases exit with
    | ok _ => exact follows_complete hphase hown
    | error exit =>
        cases exit with
        | returned status => exact follows_complete hphase hown
        | lost => exact .inl rfl

/-- Whatever the kernel answers and the modem sends, the tool misuses neither its client nor a descriptor, and
once it has returned all its descriptors are closed and its client is freed. -/
theorem main_releases (others : Finset Int) (choices : Stream' (Stream' ClientChoice)) :
    let run := exec (clientApi others) main choices .initial
    ¬Misused run.2 ∧ (run.1 ≠ none → run.2.1.own = ∅ ∧
      run.2.2.content .client 0 = none ∧ run.2.2.content .handlers 1 = none) := by
  intro run
  have hrun : ∃ phase, (run.1 = none ∨ phase = .gone) ∧
      StandsIn (firstClient ipcClientTypeFmt (.inl rfl)) phase run.2 :=
    wp_exec (@wp_create_application others _ _ (.inl rfl) _ _ follows_withClient) choices
  clear_value run
  obtain ⟨phase, hfinish, hstands⟩ := hrun
  refine ⟨hstands.not_misused, fun hreturned => ?_⟩
  obtain rfl := hfinish.resolve_left hreturned
  exact ⟨congrArg BootResources.own hstands.resources, hstands.client, hstands.handlers⟩

end IpcTest

/-! ### Runs with notes -/

section Notes

variable {ν α β : Type} {note : ν → ∀ {β : Type}, ClientRequest β → β → ν} {others : Finset Int}
  {ref : ClientRef} {phase : ClientPhase} {w : ClientWorld} {n : ν} {request : ClientRequest β}
  {next : β → Prog ClientRequest α} {Q : α → ClientWorld × ν → Prop}

/-- A request that the protocol allows leads on. -/
theorem wp_allowed (hstands : StandsIn ref phase w) (hsubject : request.subject = some ref.client)
    (hallows : phase.Allows ref request)
    (hnext : ∀ answer behind w', phase.Leads request answer behind → StandsIn ref behind w' →
      wp ((clientApi others).watch note) (fun _ => True) (next answer) Q (w', note n request answer)) :
    wp ((clientApi others).watch note) (fun _ => True) (.call request next) Q (w, n) := by
  refine wp_watch_call (I := Proper) trivial (wp_mono (wp_request hstands hsubject hallows) ?_)
  rintro answer w' ⟨behind, hleads, hstands'⟩
  exact hnext answer behind w' hleads hstands'

/-- A request that is a misuse. -/
theorem wp_misusing
    (hmisuses : wp (clientHandler others) (fun _ => True) request.body (fun _ w' => Misused w') w)
    (hnext : ∀ answer w', Misused w' →
      wp ((clientApi others).watch note) (fun _ => True) (next answer) Q (w', note n request answer)) :
    wp ((clientApi others).watch note) (fun _ => True) (.call request next) Q (w, n) :=
  wp_watch_call trivial (wp_mono hmisuses hnext)

/-- What has been misused and noted stays so. -/
theorem wp_noted (failed : ν → Prop)
    (hkept : ∀ n, failed n → ∀ {β : Type} (request : ClientRequest β) answer, failed (note n request answer))
    {p : Prog ClientRequest α} {s : ClientWorld × ν} (hs : Misused s.1 ∧ failed s.2) :
    wp ((clientApi others).watch note) (fun _ => True) p (fun _ s' => Misused s'.1 ∧ failed s'.2) s := by
  refine wp_of_kept (R := fun s : ClientWorld × ν => Misused s.1 ∧ failed s.2) ?_ hs
  rintro _ choices request ⟨w, n⟩ ⟨hmisused, hfailed⟩
  exact ⟨wp_exec (wp_misused hmisused) choices, hkept n hfailed request _⟩

end Notes

/-! ### `ipc-modem.c` -/

namespace IpcModem

/-- The last request has made the data; a boot right behind one that made the data has failed. -/
structure StartNotes where
  created : Bool
  bootFailed : Bool

def StartNotes.note (notes : StartNotes) : {β : Type} → ClientRequest β → β → StartNotes
  | _, .dataCreate _, _ => { notes with created := true }
  | _, .boot _, rc => ⟨false, notes.bootFailed || (notes.created && rc.any (· < 0))⟩
  | _, _, _ => { notes with created := false }

section Starts

variable {others : Finset Int} {ref : ClientRef} {phase : ClientPhase} {w : ClientWorld}
  {notes : StartNotes} {data : Address} {fd : Fd}

/-- The client is in the phase, no start has failed, and none is on its way. -/
structure Well (ref : ClientRef) (phase : ClientPhase) (s : ClientWorld × StartNotes) : Prop where
  stands : StandsIn ref phase s.1
  started : s.2.bootFailed = false
  uncreated : s.2.created = false

/-- A start has failed, and something has been misused. -/
structure Failed (s : ClientWorld × StartNotes) : Prop where
  misused : Misused s.1
  noted : s.2.bootFailed = true

theorem wp_modemStart (hphase : phase ≠ .gone) (hown : phase.own = ∅) (hwell : Well ref phase (w, notes)) :
    wp ((clientApi others).watch StartNotes.note) (fun _ => True) (modemStart (some ref.client)).run
      (fun exit s => exit = .ok (-1) ∧ (∃ data, StandsIn ref (.fresh data) s.1 ∧ s.2.bootFailed = true) ∨
        exit = .ok (-1) ∧ (∃ data, Well ref (.shut data) s) ∨
        exit = .ok 0 ∧ ∃ data fd, Well ref (.opened data fd) s) (w, notes) := by
  refine wp_allowed hwell.stands rfl ⟨hphase, hown⟩ ?_
  rintro _ _ w ⟨rfl, data, rfl⟩ hfresh
  refine wp_allowed hfresh rfl ⟨nofun, trivial⟩ ?_
  rintro _ _ w ⟨rfl | rfl, rfl⟩ hfresh
  · have hstarted : (notes.bootFailed || (true && (some (0 : Int)).any (· < 0))) = false := by
      rw [hwell.started]
      rfl
    refine wp_allowed hfresh rfl ⟨nofun, trivial⟩ ?_
    rintro _ _ w (⟨rfl, fd, rfl⟩ | ⟨rfl, rfl⟩) hstands
    · refine wp_allowed hstands rfl ⟨nofun, trivial⟩ ?_
      rintro _ _ w ⟨rfl, rfl⟩ hopened
      exact ⟨trivial, .inr (.inr ⟨rfl, data, fd, hopened, hstarted, rfl⟩)⟩
    · exact ⟨trivial, .inr (.inl ⟨rfl, data, hstands, hstarted, rfl⟩)⟩
  · refine ⟨trivial, .inl ⟨rfl, data, hfresh, ?_⟩⟩
    change (notes.bootFailed || (true && (some (-1 : Int)).any (· < 0))) = true
    rw [hwell.started]
    rfl

theorem wp_sendMessages (messages : List IpcMessage) (hwell : Well ref (.opened data fd) (w, notes)) :
    wp ((clientApi others).watch StartNotes.note) (fun _ => True)
      (sendMessages (some ref.client) messages).run
      (fun exit s => exit = .ok () ∧ Well ref (.opened data fd) s) (w, notes) := by
  induction messages generalizing w notes with
  | nil => exact ⟨trivial, rfl, hwell⟩
  | cons message messages ih =>
      refine wp_allowed hwell.stands rfl ⟨nofun, .inl trivial⟩ ?_
      rintro _ _ w rfl hopened
      exact ih ⟨hopened, hwell.started, rfl⟩

theorem wp_modemReadTurn (behind : Nat → Nat → UInt8) (loop : ReadLoop)
    (hwell : Well ref (.opened data fd) (w, notes)) :
    wp ((clientApi others).watch StartNotes.note) (fun _ => True)
      (modemReadTurn (some ref.client) behind loop).run
      (fun exit s => (∃ loop, exit = .ok loop) ∧ Well ref (.opened data fd) s) (w, notes) := by
  refine wp_allowed hwell.stands rfl ⟨nofun, trivial⟩ ?_
  rintro poll _ w rfl hopened
  change wp _ _ (ExceptT.run (if poll < 0 then _ else _)) _ _
  split_ifs
  · exact ⟨trivial, ⟨loop, rfl⟩, hopened, hwell.started, rfl⟩
  · refine wp_allowed hopened rfl ⟨nofun, trivial⟩ ?_
    rintro receipt _ w rfl hopened
    refine wp_except_bind.mpr (wp_mono (wp_sendMessages _ ⟨hopened, hwell.started, rfl⟩) ?_)
    rintro _ s ⟨rfl, hwell'⟩
    exact ⟨trivial, ⟨_, rfl⟩, hwell'⟩

theorem wp_modemReadTurns (behind : Nat → Nat → UInt8) (turns : Nat) (loop : ReadLoop)
    (hwell : Well ref (.opened data fd) (w, notes)) :
    wp ((clientApi others).watch StartNotes.note) (fun _ => True)
      (modemReadTurns (some ref.client) behind turns loop).run
      (fun _ s => Well ref (.opened data fd) s) (w, notes) := by
  induction turns generalizing w notes loop with
  | zero => exact ⟨trivial, hwell⟩
  | succ turns ih =>
      refine wp_except_bind.mpr (wp_mono (wp_modemReadTurn behind loop hwell) ?_)
      rintro _ ⟨w, notes⟩ ⟨⟨loop, rfl⟩, hwell'⟩
      dsimp only
      cases hstatus : loop.status with
      | idle => exact ih loop hwell'
      | running => exact ih loop hwell'
      | stopped status =>
          cases status with
          | waiting => exact ⟨trivial, hwell'⟩
          | fault => exact ⟨trivial, hwell'⟩
          | returned rc => exact ⟨trivial, hwell'⟩

/-- Stopping after a start closes what the start has opened. -/
theorem wp_modemStop (hphase : (∃ fd, phase = .opened data fd) ∨ phase = .shut data)
    (hwell : Well ref phase (w, notes)) :
    wp ((clientApi others).watch StartNotes.note) (fun _ => True) (modemStop (some ref.client)).run
      (fun exit s => exit = .ok () ∧ Well ref (.shut data) s) (w, notes) := by
  have husable : phase.Usable := by
    rcases hphase with ⟨fd, rfl⟩ | rfl
    · trivial
    · trivial
  refine wp_allowed hwell.stands rfl ⟨husable.ne_gone, trivial⟩ ?_
  rintro _ _ w rfl hstands
  refine wp_allowed hstands rfl ⟨husable.ne_gone, husable⟩ ?_
  rintro _ behind w hcloses hshut
  have hbehind : behind = .shut data := by
    rcases hphase with ⟨fd, rfl⟩ | rfl
    · exact hcloses.2
    · exact hcloses.2
  rw [hbehind] at hshut
  exact ⟨trivial, rfl, hshut, hwell.started, rfl⟩

/-- After a boot that failed there is nothing to stop, and the standard input is closed. -/
theorem wp_modemStop_fresh (hstands : StandsIn ref (.fresh data) w) (hnoted : notes.bootFailed = true) :
    wp ((clientApi others).watch StartNotes.note) (fun _ => True) (modemStop (some ref.client)).run
      (fun exit s => exit = .ok () ∧ Failed s) (w, notes) := by
  refine wp_allowed hstands rfl ⟨nofun, trivial⟩ ?_
  rintro _ _ w rfl hfresh
  refine wp_misusing (wp_ipcClientClose_unusable hfresh id) ?_
  intro _ w hmisused
  exact ⟨trivial, rfl, hmisused, hnoted⟩

/-- Nothing has gone wrong, or what has gone wrong has been noted. -/
def Settled (ref : ClientRef) (s : ClientWorld × StartNotes) : Prop := (∃ phase, Well ref phase s) ∨ Failed s

theorem Settled.misused_iff {s : ClientWorld × StartNotes} (hsettled : Settled ref s) :
    Misused s.1 ↔ s.2.bootFailed = true := by
  rcases hsettled with ⟨phase, hwell⟩ | hfailed
  · refine iff_of_false hwell.stands.not_misused ?_
    rw [hwell.started]
    exact Bool.false_ne_true
  · exact iff_of_true hfailed.misused hfailed.noted

/-- The commands end with a client that has nothing open, unless they end the tool. -/
theorem wp_runCommands (behind : Nat → Nat → UInt8) (turns : Nat) (arguments : List CString)
    (loop : ReadLoop) (hphase : phase ≠ .gone) (hown : phase.own = ∅) (hwell : Well ref phase (w, notes)) :
    wp ((clientApi others).watch StartNotes.note) (fun _ => True)
      (runCommands (some ref.client) behind turns arguments loop).run
      (fun exit s => exit = .ok () ∧ (∃ phase, phase ≠ .gone ∧ phase.own = ∅ ∧ Well ref phase s) ∨
        (∃ reason, exit = .error reason) ∧ Settled ref s) (w, notes) := by
  induction arguments generalizing w notes loop phase with
  | nil => exact ⟨trivial, .inl ⟨rfl, phase, hphase, hown, hwell⟩⟩
  | cons argument arguments ih =>
      rw [runCommands]
      split_ifs
      · refine wp_allowed hwell.stands rfl ⟨hphase, trivial⟩ ?_
        rintro _ _ w ⟨-, rfl⟩ hstands
        exact ⟨trivial, .inl ⟨rfl, _, hphase, hown, hstands, hwell.started, rfl⟩⟩
      · refine wp_allowed hwell.stands rfl ⟨hphase, trivial⟩ ?_
        rintro _ _ w rfl hstands
        exact ⟨trivial, .inl ⟨rfl, _, hphase, hown, hstands, hwell.started, rfl⟩⟩
      · refine wp_allowed hwell.stands rfl ⟨hphase, trivial⟩ ?_
        rintro _ _ w ⟨hrc, rfl⟩ hstands
        have hstarted : ∀ rc : Option Int,
            (notes.bootFailed || (notes.created && rc.any (· < 0))) = false := by
          intro rc
          rw [hwell.started, hwell.uncreated]
          rfl
        rcases hrc with rfl | rfl
        · exact ih loop hphase hown ⟨hstands, hstarted _, rfl⟩
        · exact ih loop hphase hown ⟨hstands, hstarted _, rfl⟩
      · refine wp_except_bind.mpr (wp_mono (wp_modemStart hphase hown hwell) ?_)
        rintro _ ⟨w, notes⟩ (⟨rfl, data, hfresh, hnoted⟩ | ⟨rfl, data, hshut⟩ | ⟨rfl, data, fd, hopened⟩)
        · refine wp_except_bind.mpr (wp_mono (wp_modemStop_fresh hfresh hnoted) ?_)
          rintro _ s ⟨rfl, hfailed⟩
          exact ⟨trivial, .inr ⟨⟨_, rfl⟩, .inr hfailed⟩⟩
        · refine wp_except_bind.mpr (wp_mono (wp_modemStop (.inr rfl) hshut) ?_)
          rintro _ s ⟨rfl, hshut'⟩
          exact ⟨trivial, .inr ⟨⟨_, rfl⟩, .inl ⟨_, hshut'⟩⟩⟩
        · refine wp_except_bind.mpr (wp_mono (wp_modemReadTurns behind turns _ hopened) ?_)
          rintro exit ⟨w, notes⟩ hopened'
          cases exit with
          | error reason => exact ⟨trivial, .inr ⟨⟨reason, rfl⟩, .inl ⟨_, hopened'⟩⟩⟩
          | ok loop =>
              refine wp_except_bind.mpr (wp_mono (wp_modemStop (.inl ⟨fd, rfl⟩) hopened') ?_)
              rintro _ ⟨w, notes⟩ ⟨rfl, hshut⟩
              exact @ih (.shut data) w notes loop nofun rfl hshut
      · exact ⟨trivial, .inr ⟨⟨_, rfl⟩, .inl ⟨phase, hwell⟩⟩⟩

theorem wp_withClient (behind : Nat → Nat → UInt8) (turns : Nat) (arguments : List CString)
    (loop : ReadLoop) (hwell : Well ref .blank (w, notes)) :
    wp ((clientApi others).watch StartNotes.note) (fun _ => True)
      (withClient (some ref.client) behind turns arguments loop)
      (fun _ s => Settled ref s) (w, notes) := by
  have hblank : ClientPhase.blank ≠ .gone := nofun
  refine wp_bind.mpr (wp_mono (wp_runCommands behind turns arguments loop hblank rfl hwell) ?_)
  rintro _ ⟨w, notes⟩ (⟨rfl, phase, hphase, hown, hwell'⟩ | ⟨⟨reason, rfl⟩, hsettled⟩)
  · refine wp_allowed hwell'.stands rfl ⟨hphase, hown⟩ ?_
    rintro _ _ w ⟨rfl, rfl⟩ hgone
    exact ⟨trivial, .inl ⟨.gone, hgone, hwell'.started, rfl⟩⟩
  · cases reason with
    | returned status => exact ⟨trivial, hsettled⟩
    | lost => exact ⟨trivial, hsettled⟩

end Starts

/-- In every run, whatever the options and the commands are, the tool misuses its client or a descriptor
exactly if the boot of a `start` fails. -/
theorem misused_iff_bootFailed (others : Finset Int) (options : List ModemOption) (arguments : List CString)
    (behind : Nat → Nat → UInt8) (turns : Nat) (choices : Stream' (Stream' ClientChoice)) :
    let run := exec ((clientApi others).watch StartNotes.note) (main options arguments behind turns) choices
      (.initial, ⟨false, false⟩)
    Misused run.2.1 ↔ run.2.2.bootFailed = true := by
  have hinitial : ¬Misused .initial := not_misused_of_proper ⟨rfl, rfl⟩
  have hmain : wp ((clientApi others).watch StartNotes.note) (fun _ => True)
      (main options arguments behind turns) (fun _ s => Misused s.1 ↔ s.2.bootFailed = true)
      (.initial, ⟨false, false⟩) := by
    unfold main
    split_ifs
    · exact ⟨trivial, iff_of_false hinitial nofun⟩
    · cases parseOptions options [] [] with
      | error status => exact ⟨trivial, iff_of_false hinitial nofun⟩
      | ok parsed =>
          refine wp_watch_call trivial (wp_mono (stands_create (.inl rfl)) ?_)
          rintro _ w ⟨rfl, hstands⟩
          refine wp_mono (wp_withClient behind turns arguments _ ⟨hstands, rfl, rfl⟩) ?_
          exact fun _ _ hsettled => hsettled.misused_iff
  exact wp_exec hmain choices

end IpcModem

/-! ### `ipc-imei.c` -/

namespace IpcImei

/-- A boot or an opening has failed. -/
def startFailed (failed : Bool) : {β : Type} → ClientRequest β → β → Bool
  | _, .boot _, rc | _, .open _, rc => failed || rc.any (· < 0)
  | _, _, _ => failed

section Starts

variable {others : Finset Int} {ref : ClientRef} {w : ClientWorld} {data : Address} {fd : Fd}

theorem startFailed_of_failed {failed : Bool} (hfailed : failed = true) {β : Type}
    (request : ClientRequest β) (answer : β) : startFailed failed request answer = true := by
  rw [hfailed]
  cases request <;> rfl

theorem wp_startSteps (hstands : StandsIn ref .blank w) :
    wp ((clientApi others).watch startFailed) (fun _ => True) (Modem.startSteps (some ref.client)).run
      (fun exit s => exit = .ok (-1) ∧ s.2 = true ∧ (∃ phase, phase ≠ .gone ∧ phase.own = ∅ ∧
          StandsIn ref phase s.1) ∨
        exit = .ok 0 ∧ s.2 = false ∧ ∃ data fd, StandsIn ref (.opened data fd) s.1) (w, false) := by
  refine wp_allowed hstands rfl ⟨nofun, rfl⟩ ?_
  rintro _ _ w ⟨rfl, data, rfl⟩ hfresh
  refine wp_allowed hfresh rfl ⟨nofun, trivial⟩ ?_
  rintro _ _ w ⟨rfl | rfl, rfl⟩ hfresh
  · refine wp_allowed hfresh rfl ⟨nofun, trivial⟩ ?_
    rintro _ _ w ⟨rfl, rfl⟩ hfresh
    refine wp_allowed hfresh rfl ⟨nofun, trivial⟩ ?_
    rintro _ _ w (⟨rfl, fd, rfl⟩ | ⟨rfl, rfl⟩) hstands
    · refine wp_allowed hstands rfl ⟨nofun, trivial⟩ ?_
      rintro _ _ w ⟨rfl, rfl⟩ hopened
      exact ⟨trivial, .inr ⟨rfl, rfl, data, fd, hopened⟩⟩
    · exact ⟨trivial, .inl ⟨rfl, rfl, .shut data, nofun, rfl, hstands⟩⟩
  · exact ⟨trivial, .inl ⟨rfl, rfl, .fresh data, nofun, rfl, hfresh⟩⟩

/-- A start that fails leaves nothing of the client. -/
theorem wp_modemStart (hstands : StandsIn ref .blank w) :
    wp ((clientApi others).watch startFailed) (fun _ => True) (Modem.modemStart (some ref.client)).run
      (fun exit s => exit = .ok 1 ∧ s.2 = true ∧ StandsIn ref .gone s.1 ∨
        exit = .ok 0 ∧ s.2 = false ∧ ∃ data fd, StandsIn ref (.opened data fd) s.1) (w, false) := by
  refine wp_except_bind.mpr (wp_mono (wp_startSteps hstands) ?_)
  rintro _ ⟨w, failed⟩ (⟨rfl, hfailed, phase, hphase, hown, hstands'⟩ | ⟨rfl, hfailed, hopened⟩)
  · refine wp_allowed hstands' rfl ⟨hphase, hown⟩ ?_
    rintro _ _ w ⟨rfl, rfl⟩ hgone
    exact ⟨trivial, .inl ⟨rfl, hfailed, hgone⟩⟩
  · exact ⟨trivial, .inr ⟨rfl, hfailed, hopened⟩⟩

theorem wp_modemReadTurn (behind : Nat → Nat → UInt8) (loop : ModemLoop)
    (hopened : StandsIn ref (.opened data fd) w) :
    wp ((clientApi others).watch startFailed) (fun _ => True)
      (modemReadTurn (some ref.client) behind loop).run
      (fun _ s => StandsIn ref (.opened data fd) s.1 ∧ s.2 = false) (w, false) := by
  refine wp_allowed hopened rfl ⟨nofun, trivial⟩ ?_
  rintro poll _ w rfl hopened
  change wp _ _ (ExceptT.run (if poll < 0 then _ else _)) _ _
  split_ifs
  · exact ⟨trivial, hopened, rfl⟩
  · refine wp_allowed hopened rfl ⟨nofun, trivial⟩ ?_
    rintro receipt _ w rfl hopened
    change wp _ _ (ExceptT.run (orLost (applicationResult loop receipt (behind loop.allocated)) >>= _)) _ _
    cases applicationResult loop receipt (behind loop.allocated) with
    | none => exact ⟨trivial, hopened, rfl⟩
    | some appResult => exact ⟨trivial, hopened, rfl⟩

theorem wp_modemReadTurns (behind : Nat → Nat → UInt8) (turns : Nat) (loop : ModemLoop)
    (hopened : StandsIn ref (.opened data fd) w) :
    wp ((clientApi others).watch startFailed) (fun _ => True)
      (modemReadTurns (some ref.client) behind turns loop).run
      (fun _ s => StandsIn ref (.opened data fd) s.1 ∧ s.2 = false) (w, false) := by
  induction turns generalizing w loop with
  | zero => exact ⟨trivial, hopened, rfl⟩
  | succ turns ih =>
      refine wp_except_bind.mpr (wp_mono (wp_modemReadTurn behind loop hopened) ?_)
      rintro exit ⟨w, failed⟩ ⟨hopened', rfl⟩
      cases exit with
      | error reason => exact ⟨trivial, hopened', rfl⟩
      | ok loop =>
          dsimp only
          cases hstatus : loop.status with
          | idle => exact ih loop hopened'
          | running => exact ih loop hopened'
          | stopped status =>
              cases status with
              | waiting => exact ⟨trivial, hopened', rfl⟩
              | fault => exact ⟨trivial, hopened', rfl⟩
              | returned rc => exact ⟨trivial, hopened', rfl⟩

theorem wp_modemStop (hopened : StandsIn ref (.opened data fd) w) :
    wp ((clientApi others).watch startFailed) (fun _ => True) (Modem.modemStop (some ref.client)).run
      (fun _ s => StandsIn ref (.shut data) s.1 ∧ s.2 = false) (w, false) := by
  refine wp_allowed hopened rfl ⟨nofun, trivial⟩ ?_
  rintro _ _ w ⟨rfl, rfl⟩ hshut
  refine wp_allowed hshut rfl ⟨nofun, trivial⟩ ?_
  rintro rc _ w rfl hshut
  change wp _ _ (ExceptT.run (if rc < 0 then _ else _)) _ _
  split_ifs
  · exact ⟨trivial, hshut, rfl⟩
  · exact ⟨trivial, hshut, rfl⟩

/-- The tool goes on with a client that a failed start has destroyed. -/
theorem wp_work (behind : Nat → Nat → UInt8) (turns : Nat) (hstands : StandsIn ref .blank w) :
    wp ((clientApi others).watch startFailed) (fun _ => True) (work (some ref.client) behind turns).run
      (fun _ s => Misused s.1 ↔ s.2 = true) (w, false) := by
  have hwell : ∀ {phase : ClientPhase} {s : ClientWorld × Bool}, StandsIn ref phase s.1 ∧ s.2 = false →
      (Misused s.1 ↔ s.2 = true) := by
    rintro phase ⟨w, failed⟩ ⟨hstands, rfl⟩
    exact iff_of_false hstands.not_misused Bool.false_ne_true
  refine wp_except_bind.mpr (wp_mono (wp_modemStart hstands) ?_)
  rintro _ ⟨w, failed⟩ (⟨rfl, hfailed, hgone⟩ | ⟨rfl, rfl, data, fd, hopened⟩)
  · refine wp_misusing (wp_gone hgone rfl) ?_
    intro _ w hmisused
    refine wp_mono (wp_noted (fun failed => failed = true) (fun _ h _ => startFailed_of_failed h)
      ⟨hmisused, ?_⟩) ?_
    · exact hfailed
    · exact fun _ _ h => iff_of_true h.1 h.2
  · refine wp_allowed hopened rfl ⟨nofun, .inl trivial⟩ ?_
    rintro _ _ w rfl hopened
    change wp _ _ (ExceptT.run (modemReadTurns (some ref.client) behind turns _ >>= _)) _ _
    refine wp_except_bind.mpr (wp_mono (wp_modemReadTurns behind turns _ hopened) ?_)
    rintro exit ⟨w, failed⟩ ⟨hopened', rfl⟩
    cases exit with
    | error reason => exact ⟨trivial, hwell ⟨hopened', rfl⟩⟩
    | ok rc =>
        refine wp_except_bind.mpr (wp_mono (wp_modemStop hopened') ?_)
        rintro exit ⟨w, failed⟩ ⟨hshut, rfl⟩
        cases exit with
        | error reason => exact ⟨trivial, hwell ⟨hshut, rfl⟩⟩
        | ok rc =>
            change wp _ _ (ExceptT.run (failWith 1 rc)) _ _
            unfold failWith
            split_ifs
            · exact ⟨trivial, hwell ⟨hshut, rfl⟩⟩
            · exact ⟨trivial, hwell ⟨hshut, rfl⟩⟩

theorem wp_withClient (behind : Nat → Nat → UInt8) (turns : Nat) (hstands : StandsIn ref .blank w) :
    wp ((clientApi others).watch startFailed) (fun _ => True) (withClient (some ref.client) behind turns)
      (fun _ s => Misused s.1 ↔ s.2 = true) (w, false) := by
  refine wp_bind.mpr (wp_mono (wp_work behind turns hstands) ?_)
  rintro exit s hiff
  cases exit with
  | ok _ => exact ⟨trivial, hiff⟩
  | error reason =>
      cases reason with
      | returned status => exact ⟨trivial, hiff⟩
      | lost => exact ⟨trivial, hiff⟩

end Starts

/-- In every run the tool misuses its client or a descriptor exactly if the boot or the opening of its start
fails: it does not take the result of the start for a failure, and goes on with a client that is freed. -/
theorem misused_iff_startFailed (others : Finset Int) (argc : Nat) (behind : Nat → Nat → UInt8) (turns : Nat)
    (choices : Stream' (Stream' ClientChoice)) :
    let run := exec ((clientApi others).watch startFailed) (main argc behind turns) choices (.initial, false)
    Misused run.2.1 ↔ run.2.2 = true := by
  have hmain : wp ((clientApi others).watch startFailed) (fun _ => True) (main argc behind turns)
      (fun _ s => Misused s.1 ↔ s.2 = true) (.initial, false) := by
    unfold main
    split_ifs
    · exact ⟨trivial, iff_of_false (not_misused_of_proper ⟨rfl, rfl⟩) Bool.false_ne_true⟩
    · refine wp_watch_call trivial (wp_mono (stands_create (.inl rfl)) ?_)
      rintro _ w ⟨rfl, hstands⟩
      have hclient := @wp_withClient others _ w behind turns hstands
      exact hclient
  exact wp_exec hmain choices

end IpcImei

end SamsungIpc
