import SamsungIpc.Xmm616Process

/-! The stages of a boot of a device with an XMM616: what its variables stand for after each of them, and that
the end of the boot leaves nothing of it. -/

namespace SamsungIpc

open BlockMemory Effect Xmm616Booting

/-! ### What the variables of a boot stand for -/

def Xmm616Locals.files (locals : Xmm616Locals) (device : HostFile) (fd : Int) : Option HostFile :=
  if fd < 0 then none
  else if fd = locals.deviceFd then some device
  else if fd = locals.serialFd then some .serial
  else none

def Xmm616Locals.buffers (locals : Xmm616Locals) : Finset Nat :=
  match locals.modemImageData with
  | none => ∅
  | some image => {image.address}

/-- The variables name what the process has, each descriptor once. -/
structure Xmm616Locals.Holds (locals : Xmm616Locals) (device : HostFile) (process : HostProcess) : Prop where
  files_eq : process.files = locals.files device
  distinct : 0 ≤ locals.serialFd → locals.serialFd ≠ locals.deviceFd
  buffers_eq : process.buffers = locals.buffers
  mappings_eq : process.mappings = if locals.onedramAddress = .mapped then [ariesOnedramMemorySize] else []
  failed_eq : process.failedMappings = if locals.onedramAddress = .failed then 1 else 0

/-- Nothing is open, allocated or mapped. -/
structure HostProcess.Idle (process : HostProcess) : Prop where
  files_eq : ∀ fd, process.files fd = none
  buffers_eq : process.buffers = ∅
  mappings_eq : process.mappings = []
  failed_eq : process.failedMappings = 0

variable {client : Option IpcClient} {source : HostSource client} {J : Xmm616Modem → Prop} {s : HostWorld}
  {device : HostFile} {locals : Xmm616Locals} {process : HostProcess} {α β : Type} {memory : Memory UInt8}
  {flags : UInt16}

theorem idle_start : (HostWorld.start memory flags).toHostProcess.Idle := ⟨fun _ => rfl, rfl, rfl, rfl⟩

theorem safe_start (hJ : J (HostWorld.start memory flags).toXmm616Modem) : Safe J (.start memory flags) :=
  ⟨rfl, fun _ => rfl, hJ⟩

namespace Xmm616Locals.Holds

theorem file_device (hs : locals.Holds device process) (hfd : 0 ≤ locals.deviceFd) :
    process.files locals.deviceFd = some device := by
  rw [hs.files_eq, files, if_neg (not_lt.mpr hfd), if_pos rfl]

theorem file_serial (hs : locals.Holds device process) (hfd : 0 ≤ locals.serialFd) :
    process.files locals.serialFd = some .serial := by
  rw [hs.files_eq, files, if_neg (not_lt.mpr hfd), if_neg (hs.distinct hfd), if_pos rfl]

/-- What is mapped can be filled once the modem has said so. -/
theorem grants {length : Nat} (hs : locals.Holds device s.toHostProcess)
    (hmapping : locals.onedramAddress = .mapped) (hreleased : s.released = false)
    (hinit : ariesOnedramInit ∈ s.heard) (hlength : length ≤ ariesOnedramMemorySize) : s.Grants length := by
  have hmappings : s.mappings = [ariesOnedramMemorySize] := hs.mappings_eq.trans (if_pos hmapping)
  refine ⟨⟨ariesOnedramMemorySize, ?_, hlength⟩, hreleased, hinit⟩
  rw [hmappings]
  exact List.mem_singleton_self _

/-- A variable that is not set names nothing. -/
theorem files_initial (fd : Int) : initial.files device fd = none := by
  rw [files]
  by_cases hneg : fd < 0
  · rw [if_pos hneg]
  · have hother : fd ≠ -1 := by omega
    rw [if_neg hneg]
    exact (if_neg hother).trans (if_neg hother)

theorem initial_iff : initial.Holds device process ↔ process.Idle := by
  constructor
  · exact fun hs => ⟨fun fd => (congrFun hs.files_eq fd).trans (files_initial fd), hs.buffers_eq,
      hs.mappings_eq, hs.failed_eq⟩
  · exact fun hidle => ⟨funext fun fd => (hidle.files_eq fd).trans (files_initial fd).symm, nofun,
      hidle.buffers_eq, hidle.mappings_eq, hidle.failed_eq⟩

variable {fd : Int}

theorem open_device (hs : locals.Holds device process) (hunset : locals.deviceFd = -1) (hfd : 0 ≤ fd)
    (hfresh : process.files fd = none) : ({ locals with deviceFd := fd } : Xmm616Locals).Holds device
      { process with files := Function.update process.files fd (some device) } where
  files_eq := by
    funext other
    dsimp only
    by_cases hother : other = fd
    · rw [hother, Function.update_self, files, if_neg (not_lt.mpr hfd), if_pos rfl]
    · rw [Function.update_of_ne hother, hs.files_eq, files, files, if_neg hother, hunset]
      by_cases hneg : other < 0
      · rw [if_pos hneg, if_pos hneg]
      · rw [if_neg hneg, if_neg hneg, if_neg (by omega)]
  distinct := by
    intro hserial hsame
    have hfile := hs.file_serial hserial
    rw [show locals.serialFd = fd from hsame, hfresh] at hfile
    cases hfile
  buffers_eq := hs.buffers_eq
  mappings_eq := hs.mappings_eq
  failed_eq := hs.failed_eq

theorem open_serial (hs : locals.Holds device process) (hunset : locals.serialFd = -1) (hfd : 0 ≤ fd)
    (hfresh : process.files fd = none) : ({ locals with serialFd := fd } : Xmm616Locals).Holds device
      { process with files := Function.update process.files fd (some .serial) } := by
  have hdevice : fd ≠ locals.deviceFd := by
    rintro rfl
    rw [hs.file_device hfd] at hfresh
    cases hfresh
  refine ⟨?_, fun _ => hdevice, hs.buffers_eq, hs.mappings_eq, hs.failed_eq⟩
  funext other
  dsimp only
  by_cases hother : other = fd
  · rw [hother, Function.update_self, files, if_neg (not_lt.mpr hfd), if_neg hdevice, if_pos rfl]
  · rw [Function.update_of_ne hother, hs.files_eq, files, files, if_neg hother, hunset]
    by_cases hneg : other < 0
    · rw [if_pos hneg, if_pos hneg]
    · rw [if_neg hneg, if_neg hneg, if_neg (show other ≠ -1 by omega)]

theorem close_device (hs : locals.Holds device process) (hfd : 0 ≤ locals.deviceFd) :
    ({ locals with deviceFd := -1 } : Xmm616Locals).Holds device
      { process with files := Function.update process.files locals.deviceFd none } where
  files_eq := by
    funext other
    dsimp only
    by_cases hother : other = locals.deviceFd
    · have hserial : locals.deviceFd ≠ locals.serialFd := fun hsame => hs.distinct (hsame ▸ hfd) hsame.symm
      rw [hother, Function.update_self, files, if_neg (not_lt.mpr hfd)]
      dsimp only
      rw [if_neg (by omega), if_neg hserial]
    · rw [Function.update_of_ne hother, hs.files_eq, files, files, if_neg hother]
      by_cases hneg : other < 0
      · rw [if_pos hneg, if_pos hneg]
      · dsimp only
        rw [if_neg hneg, if_neg hneg, if_neg (show other ≠ -1 by omega)]
  distinct := by
    intro hserial
    dsimp only at hserial ⊢
    omega
  buffers_eq := hs.buffers_eq
  mappings_eq := hs.mappings_eq
  failed_eq := hs.failed_eq

theorem close_serial (hs : locals.Holds device process) (hfd : 0 ≤ locals.serialFd) :
    ({ locals with serialFd := -1 } : Xmm616Locals).Holds device
      { process with files := Function.update process.files locals.serialFd none } where
  files_eq := by
    funext other
    dsimp only
    by_cases hother : other = locals.serialFd
    · rw [hother, Function.update_self, files, if_neg (not_lt.mpr hfd), if_neg (hs.distinct hfd)]
      dsimp only
      rw [if_neg (by omega)]
    · rw [Function.update_of_ne hother, hs.files_eq, files, files, if_neg hother]
      by_cases hneg : other < 0
      · rw [if_pos hneg, if_pos hneg]
      · dsimp only
        rw [if_neg hneg, if_neg hneg, if_neg (show other ≠ -1 by omega)]
  distinct := nofun
  buffers_eq := hs.buffers_eq
  mappings_eq := hs.mappings_eq
  failed_eq := hs.failed_eq

end Xmm616Locals.Holds

/-! ### Stages -/

/-- How a part of a boot leaves the process and the modem: `held value` are the variables that go with its
value. -/
def Leaves (device : HostFile) (held : α → Xmm616Locals) (P : α → Xmm616Modem → Prop) :
    Except Xmm616Locals α → HostWorld → Prop
  | .ok value, s => (held value).Holds device s.toHostProcess ∧ P value s.toXmm616Modem
  | .error locals, s => locals.Holds device s.toHostProcess

/-- Every run from `s` is safe, and ends as described. -/
abbrev Stages (source : HostSource client) (J : Xmm616Modem → Prop) (device : HostFile) (p : Xmm616Booting α)
    (held : α → Xmm616Locals) (P : α → Xmm616Modem → Prop) (s : HostWorld) : Prop :=
  wp (HostWorld.handler source) (Safe J) p.run (Leaves device held P) s

theorem Stages.bind {p : Xmm616Booting α} {rest : α → Xmm616Booting β} {held : α → Xmm616Locals}
    {P : α → Xmm616Modem → Prop} {held' : β → Xmm616Locals} {Q : β → Xmm616Modem → Prop}
    (hp : Stages source J device p held P s)
    (hrest : ∀ value s', Safe J s' → (held value).Holds device s'.toHostProcess →
      P value s'.toXmm616Modem → Stages source J device (rest value) held' Q s') :
    Stages source J device (p >>= rest) held' Q s := by
  refine wp_except_bind.mpr (wp_mono (wp_keeping hp) fun result s' hend => ?_)
  obtain ⟨hsafe, hresult⟩ := hend
  cases result with
  | ok value => exact hrest value s' hsafe hresult.1 hresult.2
  | error locals => exact ⟨hsafe, hresult⟩

theorem Stages.mono {p : Xmm616Booting α} {held : α → Xmm616Locals} {P Q : α → Xmm616Modem → Prop}
    (hp : Stages source J device p held P s) (hPQ : ∀ value modem, P value modem → Q value modem) :
    Stages source J device p held Q s := by
  refine wp_mono hp fun result s' hend => ?_
  cases result with
  | ok value => exact ⟨hend.1, hPQ value _ hend.2⟩
  | error locals => exact hend

theorem stages_pure {value : α} {held : α → Xmm616Locals} {P : α → Xmm616Modem → Prop} (hs : Safe J s)
    (hheld : (held value).Holds device s.toHostProcess) (hvalue : P value s.toXmm616Modem) :
    Stages source J device (pure value) held P s := ⟨hs, hheld, hvalue⟩

theorem stages_error {held : α → Xmm616Locals} {P : α → Xmm616Modem → Prop} (hs : Safe J s)
    (hheld : locals.Holds device s.toHostProcess) :
    Stages source J device (Xmm616Booting.error locals : Xmm616Booting α) held P s := ⟨hs, hheld⟩

/-- A call that leaves the process as it is. -/
theorem stages_call {request : HostCall α} {R : α → Xmm616Modem → Prop}
    (hheld : locals.Holds device s.toHostProcess) (hcall : Acts source J (Prog.perform request) R s) :
    Stages source J device (call request) (fun _ => locals) R s := by
  refine wp_bind.mpr (wp_mono (wp_keeping hcall) fun answer s' hend => ?_)
  obtain ⟨hsafe, hsame, hanswer⟩ := hend
  exact ⟨hsafe, hsame ▸ hheld, hanswer⟩

theorem stages_require {function : Prog HostCall Int} {R : Int → Xmm616Modem → Prop}
    {P : Xmm616Modem → Prop} (hheld : locals.Holds device s.toHostProcess)
    (hfunction : Acts source J function R s) (hR : ∀ rc modem, R rc modem → 0 ≤ rc → P modem) :
    Stages source J device (require locals function) (fun _ => locals) (fun _ => P) s := by
  refine wp_bind.mpr (wp_mono (wp_keeping hfunction) fun rc s' hend => ?_)
  obtain ⟨hsafe, hsame, hvalue⟩ := hend
  have hkept : locals.Holds device s'.toHostProcess := hsame ▸ hheld
  by_cases hfailed : rc < 0
  · rw [if_pos hfailed]
    exact ⟨hsafe, hkept⟩
  · rw [if_neg hfailed]
    exact ⟨hsafe, hkept, hR rc _ hvalue (not_lt.mp hfailed)⟩

/-! ### What changes the process -/

/-- The image is what its device starts with. -/
theorem stages_readImage {path : Path} {size : Nat} (hs : Safe J s) (hidle : s.toHostProcess.Idle) :
    Stages source J device (readImage path size) Prod.snd
      (fun result modem => modem = s.toXmm616Modem ∧
        ByteSplice.slice (source.content path) 0 size = some result.1 ∧ ∃ address,
        result.2 = { Xmm616Locals.initial with modemImageData := some ⟨address, result.1⟩ }) s := by
  have hinitial : Xmm616Locals.initial.Holds device s.toHostProcess :=
    Xmm616Locals.Holds.initial_iff.mpr hidle
  refine wp_except_bind.mpr ⟨hs, fun choice => ?_⟩
  rw [show HostWorld.handler source _ choice (.fileDataRead path size 0x1000 0) s =
    s.allocate (ByteSplice.slice (source.content path) 0 size) choice from rfl]
  cases hslice : ByteSplice.slice (source.content path) 0 size with
  | none => exact ⟨hs, stages_error hs hinitial⟩
  | some image =>
      rcases allocate_some (s := s) image choice with hrefused | ⟨_, hgiven⟩
      · rw [hrefused]
        exact ⟨hs, stages_error hs hinitial⟩
      · rw [hgiven]
        have hsafe := hs.withBuffer choice.buffer
        have hbuffers : insert choice.buffer s.buffers = {choice.buffer} := by
          rw [hidle.buffers_eq, LawfulSingleton.insert_empty_eq]
        refine ⟨hsafe, stages_pure hsafe ?_ ⟨rfl, rfl, _, rfl⟩⟩
        exact ⟨hinitial.files_eq, hinitial.distinct, hbuffers, hinitial.mappings_eq, hinitial.failed_eq⟩

/-- Opening one of the devices of a boot. -/
theorem stages_opening {path : Path} {set : Int → Xmm616Locals} {file : HostFile}
    {rest : Int → Xmm616Booting Xmm616Locals} (hpath : hostFile path = file)
    (hposition : file = .modemCtl → s.position = 0) (hs : Safe J s)
    (hheld : (set (-1)).Holds device s.toHostProcess)
    (hopened : ∀ fd, 0 ≤ fd → s.files fd = none →
      (set fd).Holds device { s.toHostProcess with files := Function.update s.files fd (some file) })
    (hrest : ∀ fd, rest fd = if fd < 0 then Xmm616Booting.error (set fd) else pure (set fd)) :
    Stages source J device (call (.openFile path) >>= rest) id
      (fun result modem => modem = s.toXmm616Modem ∧ ∃ fd, 0 ≤ fd ∧ result = set fd) s := by
  have hopening : ∀ choice, HostWorld.handler source _ choice (.openFile path) s = s.openAs file choice :=
    fun _ => hpath ▸ rfl
  have hcall : wp (HostWorld.handler source) (Safe J) (call (.openFile path)).run
      (fun result s' => ∃ fd, result = .ok fd ∧
        (fd = -1 ∧ s' = s ∨ 0 ≤ fd ∧ s.files fd = none ∧ s' = s.holding fd file)) s :=
    wp_bind.mpr (wp_mono (wp_keeping (wp_opening file hopening hposition hs)) fun fd s' hend =>
      ⟨hend.1, fd, rfl, hend.2⟩)
  refine wp_except_bind.mpr (wp_mono hcall fun result s' hend => ?_)
  obtain ⟨fd, rfl, hend⟩ := hend
  dsimp only
  rw [hrest]
  rcases hend with ⟨rfl, rfl⟩ | ⟨hfd, hfresh, rfl⟩
  · exact stages_error hs hheld
  · rw [if_neg (not_lt.mpr hfd)]
    exact stages_pure (hs.holding fd file) (hopened fd hfd hfresh) ⟨rfl, fd, hfd, rfl⟩

theorem stages_openDevice {path : Path} (hpath : hostFile path = device)
    (hposition : device = .modemCtl → s.position = 0) (hs : Safe J s)
    (hheld : locals.Holds device s.toHostProcess) (hunset : locals.deviceFd = -1) :
    Stages source J device (openDevice path locals) id
      (fun result modem => modem = s.toXmm616Modem ∧
        ∃ fd, 0 ≤ fd ∧ result = { locals with deviceFd := fd }) s := by
  refine stages_opening hpath hposition hs ?_ (fun fd hfd hfresh => hheld.open_device hunset hfd hfresh)
    fun _ => rfl
  rw [← hunset]
  exact hheld

theorem stages_openSerial {path : Path} (hpath : hostFile path = .serial) (hs : Safe J s)
    (hheld : locals.Holds device s.toHostProcess) (hunset : locals.serialFd = -1) :
    Stages source J device (openSerial path locals) id
      (fun result modem => modem = s.toXmm616Modem ∧
        ∃ fd, 0 ≤ fd ∧ result = { locals with serialFd := fd }) s := by
  refine stages_opening hpath nofun hs ?_ (fun fd hfd hfresh => hheld.open_serial hunset hfd hfresh)
    fun _ => rfl
  rw [← hunset]
  exact hheld

theorem stages_mapOnedram (hs : Safe J s) (hgranted : s.released = false)
    (hheld : locals.Holds device s.toHostProcess) (hfd : 0 ≤ locals.deviceFd)
    (hunmapped : locals.onedramAddress = .null) :
    Stages source J device (mapOnedram locals) id
      (fun result modem => modem = s.toXmm616Modem ∧
        result = { locals with onedramAddress := .mapped }) s := by
  have hmappings : s.mappings = [] := by rw [hheld.mappings_eq, hunmapped]; rfl
  have hfailed : s.failedMappings = 0 := by rw [hheld.failed_eq, hunmapped]; rfl
  refine wp_except_bind.mpr ⟨hs, fun choice => ?_⟩
  rw [show HostWorld.handler source _ choice (.mmap locals.deviceFd ariesOnedramMemorySize) s =
    (choice.mapping, s.map ariesOnedramMemorySize choice.mapping) from onFile_open (hheld.file_device hfd)]
  cases choice.mapping with
  | null => exact ⟨hs, stages_error hs hheld⟩
  | failed =>
      have hsafe : Safe J (s.map ariesOnedramMemorySize .failed) := ⟨hs.clean, hs.unmapped, hs.modem⟩
      have hcount : s.failedMappings + 1 = 1 := congrArg (· + 1) hfailed
      exact ⟨hsafe, stages_error hsafe
        ⟨hheld.files_eq, hheld.distinct, hheld.buffers_eq, hmappings, hcount⟩⟩
  | mapped =>
      have hkept : ¬(s.map ariesOnedramMemorySize .mapped).released = true := by
        rw [show (s.map ariesOnedramMemorySize .mapped).released = s.released from rfl, hgranted]
        exact Bool.false_ne_true
      have hsafe : Safe J (s.map ariesOnedramMemorySize .mapped) :=
        ⟨hs.clean, fun hreleased => absurd hreleased hkept, hs.modem⟩
      have hmapped : ariesOnedramMemorySize :: s.mappings = [ariesOnedramMemorySize] :=
        congrArg (ariesOnedramMemorySize :: ·) hmappings
      exact ⟨hsafe, stages_pure hsafe
        ⟨hheld.files_eq, hheld.distinct, hheld.buffers_eq, hmapped, hfailed⟩ ⟨rfl, rfl⟩⟩

/-! ### The end of a boot -/

section Release

variable (source)

/-- Giving up the mapping, or the pointer of one that has failed. -/
theorem wp_munmap (hs : Safe J s) (hheld : locals.Holds device s.toHostProcess)
    (hset : locals.onedramAddress ≠ .null) :
    wp (HostWorld.handler source) (Safe J)
      (Prog.perform (.munmap locals.onedramAddress ariesOnedramMemorySize))
      (fun _ s' => ({ locals with onedramAddress := .null } : Xmm616Locals).Holds device s'.toHostProcess ∧
        s'.toXmm616Modem = s.toXmm616Modem) s := by
  refine ⟨hs, fun choice => ?_⟩
  have hmappings := hheld.mappings_eq
  have hfailed := hheld.failed_eq
  rw [show (HostWorld.handler source _ choice (.munmap locals.onedramAddress ariesOnedramMemorySize) s) =
    ((), s.unmap ariesOnedramMemorySize locals.onedramAddress) from rfl]
  cases hmapping : locals.onedramAddress with
  | null => exact absurd hmapping hset
  | failed =>
      rw [hmapping] at hmappings hfailed
      have hcount : s.failedMappings = 1 := hfailed
      have hunmap : s.unmap ariesOnedramMemorySize .failed = { s with failedMappings := 0 } := by
        rw [HostWorld.unmap, hcount, if_neg Nat.one_ne_zero]
      rw [hunmap]
      have hsafe : Safe J { s with failedMappings := 0 } := ⟨hs.clean, hs.unmapped, hs.modem⟩
      exact ⟨hsafe, ⟨hheld.files_eq, hheld.distinct, hheld.buffers_eq, hmappings, rfl⟩, rfl⟩
  | mapped =>
      rw [hmapping] at hmappings hfailed
      have hmapped : s.mappings = [ariesOnedramMemorySize] := hmappings
      have hunmap : s.unmap ariesOnedramMemorySize .mapped = { s with mappings := [] } := by
        rw [HostWorld.unmap, hmapped, if_pos (List.mem_singleton_self _), List.erase_cons_head]
      rw [hunmap]
      have hsafe : Safe J { s with mappings := [] } := ⟨hs.clean, fun _ => rfl, hs.modem⟩
      exact ⟨hsafe, ⟨hheld.files_eq, hheld.distinct, hheld.buffers_eq, rfl, hfailed⟩, rfl⟩

theorem wp_freeImage (hs : Safe J s) (hheld : locals.Holds device s.toHostProcess) :
    wp (HostWorld.handler source) (Safe J) (freeImage locals.modemImageData)
      (fun _ s' => ({ locals with modemImageData := none } : Xmm616Locals).Holds device s'.toHostProcess ∧
        s'.toXmm616Modem = s.toXmm616Modem) s := by
  have hbuffers := hheld.buffers_eq
  rw [Xmm616Locals.buffers] at hbuffers
  cases himage : locals.modemImageData with
  | none =>
      rw [himage] at hbuffers
      exact ⟨hs, ⟨hheld.files_eq, hheld.distinct, hbuffers, hheld.mappings_eq, hheld.failed_eq⟩, rfl⟩
  | some image =>
      rw [himage] at hbuffers
      have hone : s.buffers = {image.address} := hbuffers
      have hfree : s.free image.address = { s with buffers := ∅ } := by
        rw [HostWorld.free, hone, if_pos (Finset.mem_singleton_self _), Finset.erase_singleton]
      refine ⟨hs, fun choice => ?_⟩
      rw [show (HostWorld.handler source _ choice (.free image.address) s) =
        ((), s.free image.address) from rfl, hfree]
      have hsafe : Safe J { s with buffers := ∅ } := ⟨hs.clean, hs.unmapped, hs.modem⟩
      exact ⟨hsafe, ⟨hheld.files_eq, hheld.distinct, rfl, hheld.mappings_eq, hheld.failed_eq⟩, rfl⟩

theorem wp_closeSerial (hs : Safe J s) (hheld : locals.Holds device s.toHostProcess) :
    wp (HostWorld.handler source) (Safe J) (closeHostFd locals.serialFd)
      (fun _ s' => ({ locals with serialFd := -1 } : Xmm616Locals).Holds device s'.toHostProcess ∧
        s'.toXmm616Modem = s.toXmm616Modem) s := by
  rw [closeHostFd]
  split
  · rename_i hfd
    refine ⟨hs, fun choice => ?_⟩
    have hclose : s.close locals.serialFd =
        { s with files := Function.update s.files locals.serialFd none } := by
      rw [HostWorld.close, hheld.file_serial hfd]
    rw [show (HostWorld.handler source _ choice (.close locals.serialFd) s) =
      ((), s.close locals.serialFd) from rfl, hclose]
    have hsafe : Safe J { s with files := Function.update s.files locals.serialFd none } :=
      ⟨hs.clean, hs.unmapped, hs.modem⟩
    exact ⟨hsafe, hheld.close_serial hfd, rfl⟩
  · rename_i hfd
    have hunset : ¬(0 : Int) ≤ -1 := by decide
    refine ⟨hs, ⟨?_, fun hserial => absurd hserial hunset, hheld.buffers_eq, hheld.mappings_eq,
      hheld.failed_eq⟩, rfl⟩
    rw [hheld.files_eq]
    funext fd
    rw [Xmm616Locals.files, Xmm616Locals.files]
    by_cases hneg : fd < 0
    · rw [if_pos hneg, if_pos hneg]
    · dsimp only
      rw [if_neg hneg, if_neg hneg, if_neg (show fd ≠ locals.serialFd by omega),
        if_neg (show fd ≠ -1 by omega)]

theorem wp_unmapOnedram (hs : Safe J s) (hheld : locals.Holds device s.toHostProcess) :
    wp (HostWorld.handler source) (Safe J) (unmapOnedram locals.onedramAddress)
      (fun _ s' => ({ locals with onedramAddress := .null } : Xmm616Locals).Holds device s'.toHostProcess ∧
        s'.toXmm616Modem = s.toXmm616Modem) s := by
  rw [unmapOnedram]
  split
  · exact wp_munmap source hs hheld ‹_›
  · rename_i hnull
    have hmappings := hheld.mappings_eq
    have hfailed := hheld.failed_eq
    rw [not_not.mp hnull] at hmappings hfailed
    exact ⟨hs, ⟨hheld.files_eq, hheld.distinct, hheld.buffers_eq, hmappings, hfailed⟩, rfl⟩

theorem wp_closeDevice (hs : Safe J s) (hheld : locals.Holds device s.toHostProcess) :
    wp (HostWorld.handler source) (Safe J) (closeHostFd locals.deviceFd)
      (fun _ s' => ({ locals with deviceFd := -1 } : Xmm616Locals).Holds device s'.toHostProcess ∧
        s'.toXmm616Modem = s.toXmm616Modem) s := by
  rw [closeHostFd]
  split
  · rename_i hfd
    refine ⟨hs, fun choice => ?_⟩
    have hclose : s.close locals.deviceFd =
        { s with files := Function.update s.files locals.deviceFd none } := by
      rw [HostWorld.close, hheld.file_device hfd]
    rw [show (HostWorld.handler source _ choice (.close locals.deviceFd) s) =
      ((), s.close locals.deviceFd) from rfl, hclose]
    have hsafe : Safe J { s with files := Function.update s.files locals.deviceFd none } :=
      ⟨hs.clean, hs.unmapped, hs.modem⟩
    exact ⟨hsafe, hheld.close_device hfd, rfl⟩
  · rename_i hfd
    refine ⟨hs, ⟨?_, ?_, hheld.buffers_eq, hheld.mappings_eq, hheld.failed_eq⟩, rfl⟩
    · rw [hheld.files_eq]
      funext fd
      rw [Xmm616Locals.files, Xmm616Locals.files]
      by_cases hneg : fd < 0
      · rw [if_pos hneg, if_pos hneg]
      · dsimp only
        rw [if_neg hneg, if_neg hneg, if_neg (show fd ≠ locals.deviceFd by omega),
          if_neg (show fd ≠ -1 by omega)]
    · intro hserial
      dsimp only at hserial ⊢
      omega

/-- Whatever the variables name is given up, and nothing else. -/
theorem wp_release (hs : Safe J s) (hheld : locals.Holds device s.toHostProcess) :
    wp (HostWorld.handler source) (Safe J) locals.release
      (fun _ s' => s'.toHostProcess.Idle ∧ s'.toXmm616Modem = s.toXmm616Modem) s := by
  have hfree := wp_keeping (wp_freeImage source hs hheld)
  refine wp_bind.mpr (wp_mono hfree fun _ s₁ h₁ => ?_)
  obtain ⟨hs₁, hheld₁, hsame₁⟩ := h₁
  have hserial := wp_keeping (wp_closeSerial source hs₁ hheld₁)
  refine wp_bind.mpr (wp_mono hserial fun _ s₂ h₂ => ?_)
  obtain ⟨hs₂, hheld₂, hsame₂⟩ := h₂
  have hunmap := wp_keeping (wp_unmapOnedram source hs₂ hheld₂)
  refine wp_bind.mpr (wp_mono hunmap fun _ s₃ h₃ => ?_)
  obtain ⟨hs₃, hheld₃, hsame₃⟩ := h₃
  have hdevice := wp_closeDevice source hs₃ hheld₃
  refine wp_mono hdevice fun _ s₄ h₄ => ?_
  obtain ⟨hheld₄, hsame₄⟩ := h₄
  refine ⟨Xmm616Locals.Holds.initial_iff.mp hheld₄, ?_⟩
  calc s₄.toXmm616Modem
    _ = s₃.toXmm616Modem := hsame₄
    _ = s₂.toXmm616Modem := hsame₃
    _ = s₁.toXmm616Modem := hsame₂
    _ = s.toXmm616Modem := hsame₁

end Release

/-- How a boot ends: with its status, and with nothing left of it. -/
def EndsIdle (P : Xmm616Modem → Prop) (rc : Int) (s : HostWorld) : Prop :=
  s.toHostProcess.Idle ∧ (rc = 0 ∧ P s.toXmm616Modem ∨ rc = -1)

theorem EndsIdle.mono {P Q : Xmm616Modem → Prop} {rc : Int} (hend : EndsIdle P rc s)
    (hPQ : ∀ modem, P modem → Q modem) : EndsIdle Q rc s :=
  ⟨hend.1, hend.2.imp_left fun hdone => ⟨hdone.1, hPQ _ hdone.2⟩⟩

theorem wp_xmm616BootEnd (device : HostFile) {body : Xmm616Booting Xmm616Locals} {P : Xmm616Modem → Prop}
    (hbody : Stages source J device body id (fun _ => P) s) :
    wp (HostWorld.handler source) (Safe J) (xmm616BootEnd body) (EndsIdle P) s := by
  refine wp_bind.mpr (wp_mono (wp_keeping hbody) fun result s' hend => ?_)
  obtain ⟨hsafe, hresult⟩ := hend
  cases result with
  | ok locals =>
      refine wp_bind.mpr (wp_mono (wp_keeping (wp_release source hsafe hresult.1)) fun _ s'' hreleased => ?_)
      exact ⟨hreleased.1, hreleased.2.1, .inl ⟨rfl, hreleased.2.2 ▸ hresult.2⟩⟩
  | error locals =>
      refine wp_bind.mpr (wp_mono (wp_keeping (wp_release source hsafe hresult)) fun _ s'' hreleased => ?_)
      exact ⟨hreleased.1, hreleased.2.1, .inr rfl⟩

end SamsungIpc
