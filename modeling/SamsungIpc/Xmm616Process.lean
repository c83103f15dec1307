import SamsungIpc.Xmm616Boots

/-! What the functions under the boots of the devices with an XMM616 do with the descriptors, the buffers and
the mapping of the process, and what is left of that at the end of a boot. -/

namespace SamsungIpc

open BlockMemory DeviceWrite Effect Xmm616Booting

/-- Nothing has been misused, what has been given back to the modem is not mapped, and the modem is as
described. -/
structure Safe (J : Xmm616Modem → Prop) (s : HostWorld) : Prop where
  clean : s.misused = false
  unmapped : s.released = true → s.mappings = []
  modem : J s.toXmm616Modem

variable {client : Option IpcClient} {source : HostSource client} {J : Xmm616Modem → Prop} {s : HostWorld}
  {α β : Type}

/-- The process with another modem in front of it. -/
abbrev HostWorld.facing (s : HostWorld) (modem : Xmm616Modem) : HostWorld := ⟨s.toHostProcess, modem⟩

theorem Safe.facing {modem : Xmm616Modem} (hs : Safe J s) (hmodem : J modem)
    (hreleased : modem.released = s.released) : Safe J (s.facing modem) where
  clean := hs.clean
  unmapped := fun h => hs.unmapped (hreleased ▸ h)
  modem := hmodem

/-- The process with one more buffer. -/
abbrev HostWorld.withBuffer (s : HostWorld) (buffer : Nat) : HostWorld :=
  { s with buffers := insert buffer s.buffers }

theorem Safe.withBuffer (hs : Safe J s) (buffer : Nat) : Safe J (s.withBuffer buffer) :=
  ⟨hs.clean, hs.unmapped, hs.modem⟩

/-- What comes of data for which there may be a buffer. -/
theorem allocate_some (data : Bytes) (choice : HostChoice) :
    s.allocate (some data) choice = (none, s) ∨ choice.buffer ∉ s.buffers ∧
      s.allocate (some data) choice = (some ⟨choice.buffer, data⟩, s.withBuffer choice.buffer) := by
  rw [HostWorld.allocate]
  split
  · exact .inl rfl
  · rename_i hgiven
    exact .inr ⟨(not_or.mp hgiven).2, rfl⟩

/-- A buffer that is freed is gone. -/
theorem free_withBuffer {buffer : Nat} (hfresh : buffer ∉ s.buffers) :
    (s.withBuffer buffer).free buffer = s := by
  rw [HostWorld.free, if_pos (Finset.mem_insert_self ..)]
  dsimp only
  rw [Finset.erase_insert hfresh]

/-! ### Functions that leave the process as it was -/

/-- Every run from `s` is safe, and ends with the process as it was and the modem as described. -/
abbrev Acts (source : HostSource client) (J : Xmm616Modem → Prop) (p : Prog HostCall α)
    (R : α → Xmm616Modem → Prop) (s : HostWorld) : Prop :=
  wp (HostWorld.handler source) (Safe J) p
    (fun value s' => s'.toHostProcess = s.toHostProcess ∧ R value s'.toXmm616Modem) s

section Acts

variable {R : α → Xmm616Modem → Prop} {p : Prog HostCall α}

theorem acts_pure {value : α} (hs : Safe J s) (hvalue : R value s.toXmm616Modem) :
    Acts source J (pure value) R s := ⟨hs, rfl, hvalue⟩

theorem Acts.bind {rest : α → Prog HostCall β} {R' : β → Xmm616Modem → Prop} (hp : Acts source J p R s)
    (hrest : ∀ value modem, R value modem → Safe J (s.facing modem) →
      Acts source J (rest value) R' (s.facing modem)) : Acts source J (p >>= rest) R' s := by
  refine wp_bind.mpr (wp_mono (wp_keeping hp) fun value s' hend => ?_)
  obtain ⟨process, modem⟩ := s'
  obtain ⟨hsafe, rfl, hvalue⟩ := hend
  exact hrest value modem hvalue hsafe

theorem Acts.mono {R' : α → Xmm616Modem → Prop} (hp : Acts source J p R s)
    (hR : ∀ value modem, R value modem → R' value modem) : Acts source J p R' s :=
  wp_mono hp fun value _ hend => ⟨hend.1, hR value _ hend.2⟩

theorem Acts.ite {condition : Prop} [Decidable condition] {first second : Prog HostCall α}
    (hfirst : condition → Acts source J first R s) (hsecond : ¬condition → Acts source J second R s) :
    Acts source J (if condition then first else second) R s := by
  split
  · exact hfirst ‹_›
  · exact hsecond ‹_›

/-- A call that changes nothing but the modem. -/
theorem acts_call {request : HostCall α} (hs : Safe J s)
    (hcall : ∀ choice, ∃ modem, (HostWorld.handler source α choice request s).2 = s.facing modem ∧
      Safe J (s.facing modem) ∧ R (HostWorld.handler source α choice request s).1 modem) :
    Acts source J (Prog.perform request) R s := by
  refine ⟨hs, fun choice => ?_⟩
  obtain ⟨modem, hsame, hsafe, hvalue⟩ := hcall choice
  rw [hsame]
  exact ⟨hsafe, rfl, hvalue⟩

end Acts

/-! ### Calls on an open descriptor -/

section Descriptors

variable {fd : Int} {file : HostFile}

theorem onFile_open {absent : β} {use : HostFile → β × HostWorld} (hfile : s.files fd = some file) :
    s.onFile fd absent use = use file := by
  rw [HostWorld.onFile, hfile]

theorem acts_select (hs : Safe J s) (hfile : s.files fd = some file) :
    Acts source J (Prog.perform (.select fd)) (fun _ modem => modem = s.toXmm616Modem) s := by
  refine acts_call hs fun choice => ⟨s.toXmm616Modem, ?_, hs, rfl⟩
  exact congrArg Prod.snd (onFile_open hfile)

/-- A word that is read from the modem is noted. -/
theorem acts_read {count : Nat} (hs : Safe J s) (hfile : s.files fd = some file)
    (hheard : file = .onedram → ∀ word, J { s.toXmm616Modem with heard := s.heard ++ [word] }) :
    Acts source J (Prog.perform (.read fd count))
      (fun answer modem => (answer = none ∨ file ≠ .onedram) ∧ modem = s.toXmm616Modem ∨
        file = .onedram ∧ ∃ bytes, answer = some bytes ∧
          modem = { s.toXmm616Modem with heard := s.heard ++ [LittleEndian.decode bytes] }) s := by
  refine acts_call hs fun choice => ?_
  rw [show HostWorld.handler source _ choice (.read fd count) s = s.read file count choice from
    onFile_open hfile, HostWorld.read]
  split
  · exact ⟨s.toXmm616Modem, rfl, hs, .inl ⟨.inl rfl, rfl⟩⟩
  · by_cases honedram : file = .onedram
    · dsimp only
      rw [if_pos honedram]
      exact ⟨_, rfl, hs.facing (hheard honedram _) rfl, .inr ⟨honedram, _, rfl, rfl⟩⟩
    · dsimp only
      rw [if_neg honedram]
      exact ⟨s.toXmm616Modem, rfl, hs, .inl ⟨.inr honedram, rfl⟩⟩

theorem acts_getFlags {name : CString} (hs : Safe J s) (hfile : s.files fd = some file) :
    Acts source J (Prog.perform (.getFlags fd name))
      (fun answer modem => modem = s.toXmm616Modem ∧ ∀ flags, answer = some flags → flags = s.flags) s := by
  refine acts_call hs fun choice => ⟨s.toXmm616Modem, congrArg Prod.snd (onFile_open hfile), hs, rfl, ?_⟩
  rw [show HostWorld.handler source _ choice (.getFlags fd name) s =
    (if choice.fails then none else some s.flags, s) from onFile_open hfile]
  intro flags hflags
  dsimp only at hflags
  split at hflags
  · cases hflags
  · exact (Option.some.inj hflags).symm

theorem acts_ioctl {request : HostRequest} (hs : Safe J s) (hfile : s.files fd = some file)
    (hdone : Safe J (s.facing (request.effect s.toXmm616Modem))) :
    Acts source J (Prog.perform (.ioctl fd request))
      (fun rc modem => rc < 0 ∧ modem = s.toXmm616Modem ∨
        0 ≤ rc ∧ modem = request.effect s.toXmm616Modem) s := by
  refine acts_call hs fun choice => ?_
  rw [show HostWorld.handler source _ choice (.ioctl fd request) s = s.request request choice from
    onFile_open hfile, HostWorld.request]
  split
  · exact ⟨s.toXmm616Modem, rfl, hs, .inl ⟨Int.negSucc_lt_zero 0, rfl⟩⟩
  · exact ⟨_, rfl, hdone, .inr ⟨not_lt.mp ‹_›, rfl⟩⟩

end Descriptors

/-! ### A descriptor for a while -/

/-- The process with one more open descriptor. -/
def HostWorld.holding (s : HostWorld) (fd : Int) (file : HostFile) : HostWorld :=
  { s with files := Function.update s.files fd (some file) }

theorem Safe.holding (hs : Safe J s) (fd : Int) (file : HostFile) : Safe J (s.holding fd file) :=
  ⟨hs.clean, hs.unmapped, hs.modem⟩

theorem files_holding (fd : Int) (file : HostFile) : (s.holding fd file).files fd = some file :=
  Function.update_self ..

section Temporary

variable {opening : HostCall Int} {fd : Int} {R : Int → Xmm616Modem → Prop} (file : HostFile)

/-- What opening a file may come to; the position of the modem's memory is where it has been. -/
theorem wp_opening (hopening : ∀ choice, HostWorld.handler source _ choice opening s = s.openAs file choice)
    (hposition : file = .modemCtl → s.position = 0) (hs : Safe J s) :
    wp (HostWorld.handler source) (Safe J) (Prog.perform opening)
      (fun fd s' => fd = -1 ∧ s' = s ∨ 0 ≤ fd ∧ s.files fd = none ∧ s' = s.holding fd file) s := by
  refine ⟨hs, fun choice => ?_⟩
  rw [hopening, HostWorld.openAs]
  split
  · exact ⟨hs, .inl ⟨rfl, rfl⟩⟩
  · rename_i hopened
    obtain ⟨_, hfresh⟩ := not_or.mp hopened
    have hkept : (if file = .modemCtl then 0 else s.position) = s.position := by
      split
      · exact (hposition ‹_›).symm
      · rfl
    dsimp only
    rw [hkept]
    exact ⟨hs.holding _ file, .inr ⟨Int.natCast_nonneg _, not_not.mp hfresh, rfl⟩⟩

/-- Behind the use of a descriptor that is closed then, the process is as it was without it. -/
theorem wp_closing {body : Prog HostCall Int} (hfresh : s.files fd = none)
    (hbody : Acts source J body R (s.holding fd file)) :
    wp (HostWorld.handler source) (Safe J) (closing fd body)
      (fun rc s' => s'.toHostProcess = s.toHostProcess ∧ R rc s'.toXmm616Modem) (s.holding fd file) := by
  refine wp_bind.mpr (wp_mono (wp_keeping hbody) fun rc s' hend => ?_)
  obtain ⟨process, modem⟩ := s'
  obtain ⟨hsafe, rfl, hvalue⟩ := hend
  have hclose : ((s.holding fd file).facing modem).close fd = s.facing modem := by
    have hrestored : Function.update (Function.update s.files fd (some file)) fd none = s.files := by
      rw [Function.update_idem, ← hfresh, Function.update_eq_self]
    rw [HostWorld.close, files_holding fd file]
    dsimp only [HostWorld.holding]
    rw [hrestored]
  refine ⟨hsafe, fun choice => ?_⟩
  rw [show (HostWorld.handler source _ choice (.close fd) ((s.holding fd file).facing modem)).2 =
    ((s.holding fd file).facing modem).close fd from rfl, hclose]
  have hend : Safe J (s.facing modem) := ⟨hsafe.clean, hsafe.unmapped, hsafe.modem⟩
  exact ⟨hend, rfl, hvalue⟩

/-- A function that opens a file, uses it and closes it. -/
theorem acts_temporary {body : Int → Prog HostCall Int}
    (hopening : ∀ choice, HostWorld.handler source _ choice opening s = s.openAs file choice)
    (hposition : file = .modemCtl → s.position = 0) (hs : Safe J s)
    (hbody : ∀ fd, s.files fd = none → Acts source J (body fd) R (s.holding fd file))
    (hfailed : R (-1) s.toXmm616Modem) :
    Acts source J (do
      let fd ← Prog.perform opening
      if fd < 0 then pure (-1) else closing fd (body fd)) R s := by
  refine wp_bind.mpr (wp_mono (wp_opening file hopening hposition hs) fun fd s' hopened => ?_)
  rcases hopened with ⟨rfl, rfl⟩ | ⟨hfd, hfresh, rfl⟩
  · exact acts_pure hs hfailed
  · rw [if_neg (not_lt.mpr hfd)]
    exact wp_closing file hfresh (hbody fd hfresh)

end Temporary

/-! ### Functions -/

section Functions

/-- The flags of the interface are changed, or nothing is. -/
theorem acts_networkIface (iface : CString) (change : UInt16 → UInt16) (hs : Safe J s)
    (hchanged : J { s.toXmm616Modem with flags := change s.flags }) :
    Acts source J (networkIface (some iface) change)
      (fun rc modem => rc < 0 ∧ modem = s.toXmm616Modem ∨
        0 ≤ rc ∧ modem = { s.toXmm616Modem with flags := change s.flags }) s := by
  refine acts_temporary .socket (fun _ => rfl) nofun hs (fun fd hfresh => ?_)
    (.inl ⟨Int.negSucc_lt_zero 0, rfl⟩)
  have hfile := files_holding (s := s) fd .socket
  refine (acts_getFlags (hs.holding fd .socket) hfile).bind fun answer modem hanswer hsafe => ?_
  obtain ⟨rfl, hflags⟩ := hanswer
  cases answer with
  | none => exact acts_pure hsafe (.inl ⟨Int.negSucc_lt_zero 0, rfl⟩)
  | some flags =>
      obtain rfl := hflags flags rfl
      refine Acts.bind (acts_ioctl hsafe hfile ?_) fun rc modem hrc hsafe => ?_
      · exact hsafe.facing hchanged rfl
      refine .ite (fun hfailed => acts_pure hsafe (.inl ⟨Int.negSucc_lt_zero 0, ?_⟩))
        fun hdone => acts_pure hsafe (.inr ⟨le_rfl, ?_⟩)
      · rcases hrc with ⟨_, rfl⟩ | ⟨hrc, _⟩
        · rfl
        · exact absurd hfailed (not_lt.mpr hrc)
      · rcases hrc with ⟨hrc, _⟩ | ⟨_, rfl⟩
        · exact absurd hrc hdone
        · rfl

theorem acts_sysfsValueRead {path : Path} (hpath : hostFile path = .attribute path) (hs : Safe J s) :
    Acts source J (sysfsValueRead (some path)) (fun _ modem => modem = s.toXmm616Modem) s := by
  refine acts_temporary (.attribute path) (fun _ => ?_) nofun hs (fun fd hfresh => ?_) rfl
  · rw [← hpath]
    rfl
  · refine Acts.bind (acts_read (hs.holding fd _) (files_holding fd _) nofun) ?_
    intro answer modem hanswer hsafe
    obtain rfl : modem = s.toXmm616Modem := by
      rcases hanswer with ⟨_, hsame⟩ | ⟨honedram, _⟩
      · exact hsame
      · cases honedram
    cases answer with
    | none => exact acts_pure hsafe rfl
    | some bytes => exact .ite (fun _ => acts_pure hsafe rfl) fun _ => acts_pure hsafe rfl

/-- The text is asked to be written, or nothing is. -/
theorem acts_sysfsStringWrite {path : Path} {buffer : Bytes} (hpath : hostFile path = .attribute path)
    (hs : Safe J s) (hasked : J { s.toXmm616Modem with attributes := s.attributes ++ [(path, buffer)] }) :
    Acts source J (sysfsStringWrite (some path) (some buffer))
      (fun _ modem => modem = s.toXmm616Modem ∨
        modem = { s.toXmm616Modem with attributes := s.attributes ++ [(path, buffer)] }) s := by
  refine .ite (fun _ => acts_pure hs (.inl rfl)) fun _ => ?_
  refine acts_temporary (.attribute path) (fun _ => ?_) nofun hs (fun fd hfresh => ?_) (.inl rfl)
  · rw [← hpath]
    rfl
  · have hwrite : Acts source J (Prog.perform (.write fd buffer))
        (fun _ modem => modem = { s.toXmm616Modem with attributes := s.attributes ++ [(path, buffer)] })
        (s.holding fd (.attribute path)) := by
      refine acts_call (hs.holding fd _) fun choice => ⟨_, ?_, (hs.holding fd _).facing hasked rfl, rfl⟩
      exact congrArg Prod.snd (onFile_open (files_holding fd _))
    refine hwrite.bind fun rc modem hmodem hsafe => ?_
    exact .ite (fun _ => acts_pure hsafe (.inr hmodem)) fun _ => acts_pure hsafe (.inr hmodem)

theorem acts_ariesPower {wanted : Int} {buffer : Bytes} (hs : Safe J s)
    (hasked : J { s.toXmm616Modem with
      attributes := s.attributes ++ [(ariesModemctlControlSysfs, buffer)] }) :
    Acts source J (ariesPower wanted buffer)
      (fun _ modem => modem = s.toXmm616Modem ∨ modem = { s.toXmm616Modem with
        attributes := s.attributes ++ [(ariesModemctlControlSysfs, buffer)] }) s := by
  refine (acts_sysfsValueRead (by decide) hs).bind fun value modem hmodem hsafe => ?_
  subst hmodem
  refine .ite (fun _ => acts_pure hsafe (.inl rfl)) fun _ => ?_
  refine .ite (fun _ => acts_pure hsafe (.inl rfl)) fun _ => ?_
  refine (acts_sysfsStringWrite (by decide) hsafe hasked).bind fun rc modem hmodem hsafe => ?_
  exact .ite (fun _ => acts_pure hsafe hmodem) fun _ => acts_pure hsafe hmodem

/-- Switching the modem of the crespo. -/
theorem acts_crespoPower {request : HostRequest} (hposition : s.position = 0) (hs : Safe J s)
    (hdone : Safe J (s.facing (request.effect s.toXmm616Modem))) :
    Acts source J (crespoPower request) (fun rc _ => rc = 0 ∨ rc = -1) s := by
  refine wp_bind.mpr (wp_mono (wp_opening .modemCtl (fun _ => rfl) (fun _ => hposition) hs) ?_)
  intro fd s' hopened
  rcases hopened with ⟨rfl, rfl⟩ | ⟨hfd, hfresh, rfl⟩
  · exact acts_pure (R := fun rc _ => rc = 0 ∨ rc = -1) hs (.inr rfl)
  · rw [if_neg (not_lt.mpr hfd)]
    have hcall : Acts source J (Prog.perform (.ioctl fd request)) (fun _ _ => True)
        (s.holding fd .modemCtl) :=
      (acts_ioctl (hs.holding fd _) (files_holding fd _) (hdone.holding fd _)).mono fun _ _ _ => trivial
    refine wp_bind.mpr (wp_mono (wp_keeping (wp_closing .modemCtl hfresh hcall)) fun rc s'' hend => ?_)
    obtain ⟨process, modem⟩ := s''
    obtain ⟨hsafe, rfl, _⟩ := hend
    exact Acts.ite (R := fun rc _ => rc = 0 ∨ rc = -1) (fun _ => acts_pure hsafe (.inr rfl))
      fun _ => acts_pure hsafe (.inl rfl)

end Functions

/-! ### Programs on one device -/

section Devices

variable {fd : Int} {file : HostFile} {modem : Xmm616Modem}

/-- A file that takes bytes one after the other, and of which nothing else is noted. -/
def HostFile.Streams (file : HostFile) : Prop := file = .serial ∨ file = .modemCtl

theorem accept_nil (hstreams : file.Streams) : modem.accept [] file = modem := by
  rcases hstreams with rfl | rfl
  · rw [Xmm616Modem.accept, List.append_nil]
  · rw [Xmm616Modem.accept, store_nil]
    rfl

theorem accept_append (hstreams : file.Streams) (first second : Bytes) :
    modem.accept (first ++ second) file = (modem.accept first file).accept second file := by
  rcases hstreams with rfl | rfl
  · simp only [Xmm616Modem.accept, List.append_assoc]
  · simp only [Xmm616Modem.accept, store_append, List.length_append, Nat.add_assoc]

theorem released_accept (bytes : Bytes) : (modem.accept bytes file).released = modem.released := by
  cases file <;> rfl

/-- The bytes that a device has taken are in the state of the modem. -/
theorem records_onDevice (hstreams : file.Streams) :
    (HostWorld.handler source).Records (HostCall.onDevice fd) deviceEnvironment
      (fun s log => s.facing (s.toXmm616Modem.accept (log.flatMap accepted) file))
      (fun s => s.files fd = some file) where
  answers := by
    intro s hfile β request choice
    cases request with
    | write bytes =>
        rw [show (HostWorld.handler source _ choice (HostCall.onDevice fd (.write bytes)) s) =
          s.write file bytes choice from onFile_open hfile]
        rcases hstreams with rfl | rfl
        · exact min_le_right ..
        · exact min_le_right ..
    | read count =>
        rw [show (HostWorld.handler source _ choice (HostCall.onDevice fd (.read count)) s) =
          s.read file count choice from onFile_open hfile, HostWorld.read]
        intro bytes hbytes
        split at hbytes
        · cases hbytes
        · rw [← Option.some.inj hbytes]
          exact List.length_take_le ..
    | select => trivial
  notes := by
    intro s hfile β request choice
    cases request with
    | write bytes =>
        rw [show (HostWorld.handler source _ choice (HostCall.onDevice fd (.write bytes)) s) =
          s.write file bytes choice from onFile_open hfile]
        rcases hstreams with rfl | rfl
        · exact congrArg (fun taken => s.facing (s.toXmm616Modem.accept taken .serial))
            (List.append_nil _).symm
        · exact congrArg (fun taken => s.facing (s.toXmm616Modem.accept taken .modemCtl))
            (List.append_nil _).symm
    | read count =>
        have hother : file ≠ .onedram := by rcases hstreams with rfl | rfl <;> nofun
        rw [show (HostWorld.handler source _ choice (HostCall.onDevice fd (.read count)) s) =
          s.read file count choice from onFile_open hfile]
        refine Eq.trans ?_ (congrArg s.facing (accept_nil hstreams)).symm
        rw [HostWorld.read]
        by_cases hfails : choice.fails = true
        · rw [if_pos hfails]
        · rw [if_neg hfails]
          dsimp only
          rw [if_neg hother]
    | select =>
        rw [show (HostWorld.handler source _ choice (HostCall.onDevice fd .select) s) = (choice.rc, s) from
          onFile_open hfile]
        exact (congrArg s.facing (accept_nil hstreams)).symm
  keeps := fun s log hfile => hfile
  note_nil := fun s => congrArg s.facing (accept_nil hstreams)
  note_append := by
    intro s first second
    rw [List.flatMap_append, accept_append hstreams]

/-- What a program on a device does to the modem is what it has it take. -/
theorem acts_onDevice {p : Prog DeviceCall α} (hstreams : file.Streams) (hs : Safe J s)
    (hfile : s.files fd = some file)
    (hJ : ∀ result log, Runs deviceEnvironment p result log → ∀ started, started <+: log →
      J (s.toXmm616Modem.accept (started.flatMap accepted) file)) :
    Acts source J (p.translate (HostCall.onDevice fd))
      (fun value modem => ∃ log, Runs deviceEnvironment p value log ∧
        modem = s.toXmm616Modem.accept (log.flatMap accepted) file) s := by
  refine wp_mono (wp_of_records (records_onDevice hstreams) hfile (Stream'.const default) ?_) ?_
  · intro result log hrun started hstarted
    exact hs.facing (hJ result log hrun started hstarted) (released_accept _)
  · intro value s' hend
    obtain ⟨log, hrun, rfl⟩ := hend
    exact ⟨rfl, log, hrun, rfl⟩

end Devices

end SamsungIpc
