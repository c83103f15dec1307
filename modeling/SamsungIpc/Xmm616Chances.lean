import Mathlib.Data.Fintype.EquivFin
import SamsungIpc.AriesLoading
import SamsungIpc.EffectChances

/-! When the boots of the devices with an XMM616 can succeed. -/

namespace SamsungIpc

open BlockMemory DeviceWrite Effect Upload Xmm616Booting

/-! ### Programs on a device -/

section Uploads

variable {α β : Type}

/-- The upload can end with this value. -/
def CanEnd (p : Upload α) (value : α) : Prop := ∃ log, Runs deviceEnvironment p.run (.ok value) log

theorem CanEnd.bind {p : Upload α} {rest : α → Upload β} {value : α} {result : β} (hp : CanEnd p value)
    (hrest : CanEnd (rest value) result) : CanEnd (p >>= rest) result := by
  obtain ⟨first, hfirst⟩ := hp
  obtain ⟨second, hsecond⟩ := hrest
  exact ⟨first ++ second, runs_bind_ok hfirst hsecond⟩

theorem canEnd_pure (value : α) : CanEnd (pure value : Upload α) value := ⟨[], rfl, rfl⟩

theorem canEnd_of_canRead {p : Upload α} {value : α} (hp : CanRead p value) : CanEnd p value := ⟨[], hp⟩

theorem canEnd_writeWhole (bytes : Bytes) : CanEnd (writeWhole bytes) () := ⟨_, runs_writeWhole bytes⟩

theorem canEnd_atLoop (count : Nat) : CanEnd (atLoop count) () := by
  induction count with
  | zero => exact canEnd_pure ()
  | succ count ih => exact (canEnd_writeWhole _).bind ih

theorem canEnd_serialLoop (image : Bytes) (psiCrc : UInt8) :
    ∃ crc, CanEnd (serialLoop image psiCrc) crc := by
  induction image generalizing psiCrc with
  | nil => exact ⟨psiCrc, canEnd_pure psiCrc⟩
  | cons byte image ih =>
      obtain ⟨crc, hrest⟩ := ih (psiCrc ^^^ byte)
      exact ⟨crc, (canEnd_of_canRead canRead_awaitReady).bind ((canEnd_writeWhole _).bind hrest)⟩

/-- The modem can acknowledge the PSI at once. -/
theorem canEnd_serialAckLoop : CanEnd (serialAckLoop 0) () := by
  rw [serialAckLoop]
  refine (canEnd_of_canRead canRead_awaitReady).bind
    ((canEnd_of_canRead (canRead_readByte xmm616PsiAck)).bind ?_)
  rw [if_neg (by decide), if_neg (by decide)]
  exact canEnd_pure ()

theorem canEnd_xmm616PsiTransfer (image : Bytes) : CanEnd (xmm616PsiTransfer image) () := by
  obtain ⟨crc, hloop⟩ := canEnd_serialLoop image 0
  refine (canEnd_of_canRead (canRead_readByte 0)).bind ?_
  refine (canEnd_writeWhole _).bind ((canEnd_writeWhole _).bind (hloop.bind ?_))
  exact (canEnd_of_canRead canRead_awaitReady).bind ((canEnd_writeWhole _).bind canEnd_serialAckLoop)

theorem runs_xmm616PsiSend {fd : Int} {psi : Bytes} (hfd : 0 ≤ fd) (hpsi : psi ≠ []) :
    ∃ log, Runs deviceEnvironment (xmm616PsiSend fd (some psi)) 0 log := by
  have hupload : CanEnd (do
      atLoop xmm616AtCount
      let version ← readByte
      if version ≠ xmm616BootcoreVersion then error else xmm616PsiTransfer psi) () := by
    refine (canEnd_atLoop _).bind ((canEnd_of_canRead (canRead_readByte xmm616BootcoreVersion)).bind ?_)
    rw [if_neg (not_not.mpr rfl)]
    exact canEnd_xmm616PsiTransfer psi
  obtain ⟨log, hrun⟩ := hupload
  exact ⟨log, (runs_imageSend_iff hfd hpsi).mpr ⟨.ok (), hrun, rfl⟩⟩

end Uploads

variable {client : Option IpcClient} {source : HostSource client} {J : Xmm616Modem → Prop} {s : HostWorld}
  {device : HostFile} {locals : Xmm616Locals} {α β : Type}

/-- The kernel can give every answer that a device may give. -/
theorem may_onDevice {fd : Int} {file : HostFile} {p : Prog DeviceCall α} {value : α}
    (hstreams : file.Streams) (hfile : s.files fd = some file)
    (hrun : ∃ log, Runs deviceEnvironment p value log) :
    may (HostWorld.handler source) (p.translate (HostCall.onDevice fd))
      (fun result _ => result = value) s := by
  obtain ⟨log, hrun⟩ := hrun
  refine may_of_records (records_onDevice hstreams) ?_ hfile hrun
  intro s hfile β request answer hanswer
  cases request with
  | write bytes =>
      refine ⟨{ (default : HostChoice) with rc := answer }, ?_⟩
      have htaken : min answer (bytes.length : Int) = answer := min_eq_left hanswer
      rw [show HostWorld.handler source _ _ (HostCall.onDevice fd (.write bytes)) s =
        s.write file bytes _ from onFile_open hfile]
      rcases hstreams with rfl | rfl
      · exact htaken
      · exact htaken
  | read count =>
      cases answer with
      | none =>
          refine ⟨{ (default : HostChoice) with fails := true }, ?_⟩
          rw [show HostWorld.handler source _ _ (HostCall.onDevice fd (.read count)) s =
            s.read file count _ from onFile_open hfile]
          rfl
      | some bytes =>
          refine ⟨{ (default : HostChoice) with data := bytes, fails := false }, ?_⟩
          rw [show HostWorld.handler source _ _ (HostCall.onDevice fd (.read count)) s =
            s.read file count _ from onFile_open hfile]
          exact congrArg some (List.take_of_length_le (hanswer bytes rfl))
  | select =>
      refine ⟨{ (default : HostChoice) with rc := answer }, ?_⟩
      exact congrArg Prod.fst (onFile_open hfile)

/-! ### Functions and parts of a boot -/

/-- The function can succeed. -/
abbrev MaySucceed (source : HostSource client) (function : Prog HostCall Int) (s : HostWorld) : Prop :=
  may (HostWorld.handler source) function (fun rc _ => 0 ≤ rc) s

/-- The boot can go on behind this part. -/
abbrev GoesOn (source : HostSource client) (p : Xmm616Booting α) (s : HostWorld) : Prop :=
  may (HostWorld.handler source) p.run (fun result _ => ∃ value, result = .ok value) s

section Functions

variable {fd : Int} {file : HostFile} {data : Bytes}

/-- There is an address that is not in use. -/
theorem HostWorld.exists_allocate (s : HostWorld) (data : Bytes) : ∃ choice : HostChoice,
    s.allocate (some data) choice = (some ⟨choice.buffer, data⟩, s.withBuffer choice.buffer) := by
  obtain ⟨buffer, hfresh⟩ := Infinite.exists_notMem_finset s.buffers
  exact ⟨⟨0, buffer, 0, [], .null, false⟩, if_neg (not_or.mpr ⟨Bool.false_ne_true, hfresh⟩)⟩

theorem maySucceed_ioctl {request : HostRequest} (hfile : s.files fd = some file) :
    MaySucceed source (Prog.perform (.ioctl fd request)) s := by
  refine ⟨default, ?_⟩
  rw [show HostWorld.handler source _ default (.ioctl fd request) s = s.request request default from
    onFile_open hfile]
  exact le_rfl

theorem maySucceed_memorySend_device (hdata : data ≠ []) (hfile : s.files fd = some .modemCtl) :
    MaySucceed source (memorySend fd none data) s := by
  obtain ⟨_, hrun⟩ := (transmits_psiLoop le_rfl (List.length_pos_iff.mpr hdata)).completes
  refine may_bind.mpr (may_mono (may_onDevice (.inr rfl) hfile hrun) ?_)
  rintro _ s' rfl
  exact le_rfl

theorem maySucceed_memorySend_mapped {address : Nat} :
    MaySucceed source (memorySend fd (some address) data) s :=
  ⟨default, le_rfl⟩

theorem maySucceed_xmm616NvDataSend {address : Option Nat} (hclient : ¬client.isNone = true)
    (htarget : 0 ≤ fd ∨ address.isSome) (hsize : ipcClientNvDataSize client ≠ 0)
    (hsend : ∀ buffer, MaySucceed source (memorySend fd address source.nvData) (s.withBuffer buffer)) :
    MaySucceed source (xmm616NvDataSend client fd address) s := by
  rw [xmm616NvDataSend, if_neg (not_or.mpr ⟨hclient, target_given htarget⟩), if_neg hsize]
  obtain ⟨choice, hgiven⟩ := s.exists_allocate source.nvData
  refine may_bind.mpr ⟨choice, ?_⟩
  rw [show HostWorld.handler source _ choice .nvDataLoad s = s.allocate (some source.nvData) choice from rfl,
    hgiven]
  exact may_bind.mpr (may_mono (hsend choice.buffer) fun rc s' hrc => ⟨default, hrc⟩)

end Functions

section Parts

variable {held : α → Xmm616Locals} {P : α → Xmm616Modem → Prop}

theorem GoesOn.bind {p : Xmm616Booting α} {rest : α → Xmm616Booting β}
    (hall : Stages source J device p held P s) (hp : GoesOn source p s)
    (hrest : ∀ value s', Safe J s' → (held value).Holds device s'.toHostProcess →
      P value s'.toXmm616Modem → GoesOn source (rest value) s') : GoesOn source (p >>= rest) s := by
  change may _ (p.run >>= ExceptT.bindCont rest) _ s
  refine may_bind.mpr (may_mono (may_of_wp hall hp) fun result s' hend => ?_)
  obtain ⟨hsafe, hleaves, value, rfl⟩ := hend
  exact hrest value s' hsafe hleaves.1 hleaves.2

/-- A part that can go on from anywhere. -/
theorem GoesOn.before {p : Xmm616Booting α} {rest : α → Xmm616Booting β} (hp : GoesOn source p s)
    (hrest : ∀ value s', GoesOn source (rest value) s') : GoesOn source (p >>= rest) s := by
  change may _ (p.run >>= ExceptT.bindCont rest) _ s
  refine may_bind.mpr (may_mono hp ?_)
  rintro _ s' ⟨value, rfl⟩
  exact hrest value s'

theorem goesOn_call {request : HostCall α} : GoesOn source (call request) s := ⟨default, _, rfl⟩

theorem goesOn_require {function : Prog HostCall Int} (hfunction : MaySucceed source function s) :
    GoesOn source (require locals function) s :=
  may_bind.mpr (may_mono hfunction fun _ _ hrc => ⟨(), if_neg (not_lt.mpr hrc)⟩)

/-- A function that is called and may succeed. -/
theorem GoesOn.require_bind {function : Prog HostCall Int} {R : Int → Xmm616Modem → Prop}
    {rest : Unit → Xmm616Booting β} (hheld : locals.Holds device s.toHostProcess)
    (hall : Acts source J function R s) (hfunction : MaySucceed source function s)
    (hrest : ∀ rc s', Safe J s' → locals.Holds device s'.toHostProcess → 0 ≤ rc → R rc s'.toXmm616Modem →
      GoesOn source (rest ()) s') : GoesOn source (require locals function >>= rest) s := by
  refine GoesOn.bind (stages_require (P := fun modem => ∃ rc, 0 ≤ rc ∧ R rc modem) hheld hall
    fun rc _ hvalue hrc => ⟨rc, hrc, hvalue⟩) (goesOn_require hfunction) fun _ s' hs' hheld' hvalue => ?_
  obtain ⟨rc, hrc, hvalue⟩ := hvalue
  exact hrest rc s' hs' hheld' hrc hvalue

theorem goesOn_readImage {path : Path} {size : Nat} {image : Bytes}
    (himage : ByteSplice.slice (source.content path) 0 size = some image) :
    GoesOn source (readImage path size) s := by
  change may _ (Prog.perform _ >>= _) _ s
  obtain ⟨choice, hgiven⟩ := s.exists_allocate image
  refine ⟨choice, ?_⟩
  rw [show HostWorld.handler source _ choice (.fileDataRead path size 0x1000 0) s =
    s.allocate (ByteSplice.slice (source.content path) 0 size) choice from rfl, himage, hgiven]
  exact ⟨_, rfl⟩

/-- There is a descriptor that is not in use. -/
theorem Xmm616Locals.Holds.exists_fresh {process : HostProcess} (hs : locals.Holds device process) :
    ∃ fd : Nat, process.files fd = none := by
  refine ⟨locals.deviceFd.toNat + locals.serialFd.toNat + 1, ?_⟩
  rw [hs.files_eq, Xmm616Locals.files, if_neg (by omega), if_neg (by omega), if_neg (by omega)]

theorem goesOn_opening {path : Path} {set : Int → Xmm616Locals} {rest : Int → Xmm616Booting Xmm616Locals}
    (hheld : locals.Holds device s.toHostProcess)
    (hrest : ∀ fd, rest fd = if fd < 0 then Xmm616Booting.error (set fd) else pure (set fd)) :
    GoesOn source (call (.openFile path) >>= rest) s := by
  obtain ⟨fd, hfresh⟩ := hheld.exists_fresh
  have hopened : (s.openAs (hostFile path) ⟨fd, 0, 0, [], .null, false⟩).1 = (fd : Int) :=
    congrArg Prod.fst (if_neg (not_or.mpr ⟨Bool.false_ne_true, not_not.mpr hfresh⟩))
  have hcall : may (HostWorld.handler source) (call (.openFile path)).run
      (fun result _ => result = .ok (fd : Int)) s := ⟨_, congrArg Except.ok hopened⟩
  change may _ ((call (.openFile path)).run >>= ExceptT.bindCont rest) _ s
  refine may_bind.mpr (may_mono hcall ?_)
  rintro _ s' rfl
  change may _ (rest fd).run _ s'
  rw [hrest, if_neg (not_lt.mpr (Int.natCast_nonneg fd))]
  exact ⟨_, rfl⟩

/-- How a boot begins, if there is enough of the image. -/
theorem goesOn_imageOpened {path devicePath : Path} {size : Nat}
    {rest : Bytes × Xmm616Locals → Xmm616Booting β} {next : Bytes → Xmm616Locals → Xmm616Booting β}
    (hrest : ∀ image locals, rest (image, locals) = openDevice devicePath locals >>= next image)
    (hsize : size ≤ (source.content path).length) (hs : Safe J s) (hidle : s.toHostProcess.Idle)
    (hpath : hostFile devicePath = device) (hposition : device = .modemCtl → s.position = 0)
    (hnext : ∀ image locals s', Safe J s' → locals.Holds device s'.toHostProcess →
      ByteSplice.slice (source.content path) 0 size = some image →
      0 ≤ locals.deviceFd → locals.serialFd = -1 → locals.onedramAddress = .null →
      GoesOn source (next image locals) s') : GoesOn source (readImage path size >>= rest) s := by
  have hwhole : ByteSplice.slice (source.content path) 0 size = some ((source.content path).take size) := by
    rw [ByteSplice.slice, if_pos (by omega), List.drop_zero]
  refine GoesOn.bind (stages_readImage hs hidle) (goesOn_readImage hwhole)
    fun value s₁ hs₁ (hheld₁ : value.2.Holds device s₁.toHostProcess) hvalue => ?_
  obtain ⟨image, locals₁⟩ := value
  obtain ⟨hmodem₁, himage, _, hlocals₁⟩ := hvalue
  have hposition₁ : device = .modemCtl → s₁.position = 0 := fun hdevice => by
    rw [hmodem₁]
    exact hposition hdevice
  have hunset : locals₁.deviceFd = -1 := congrArg Xmm616Locals.deviceFd hlocals₁
  rw [hrest]
  refine GoesOn.bind (stages_openDevice hpath hposition₁ hs₁ hheld₁ hunset)
    (goesOn_opening hheld₁ fun _ => rfl) fun locals₂ s₂ hs₂ hheld₂ hvalue => ?_
  obtain ⟨hmodem₂, fd, hfd, hlocals₂⟩ := hvalue
  refine hnext image locals₂ s₂ hs₂ hheld₂ himage ?_ ?_ ?_
  · rw [hlocals₂]
    exact hfd
  · rw [hlocals₂]
    exact congrArg Xmm616Locals.serialFd hlocals₁
  · rw [hlocals₂]
    exact congrArg Xmm616Locals.onedramAddress hlocals₁

/-- How the PSI is sent. -/
theorem goesOn_psiSent {path : Path} {psi : Bytes} {rest : Xmm616Locals → Xmm616Booting β}
    (hpos : 0 < psi.length) (hsize : psi.length ≤ 2 ^ 16 - 1) (hs : Safe J s)
    (hheld : locals.Holds device s.toHostProcess) (hpath : hostFile path = .serial)
    (hunset : locals.serialFd = -1) (hJ : ∀ bytes, J { s.toXmm616Modem with serial := bytes })
    (hrest : ∀ locals' s', Safe J s' → locals'.Holds device s'.toHostProcess →
      locals'.deviceFd = locals.deviceFd → locals'.onedramAddress = locals.onedramAddress →
      GoesOn source (rest locals') s') :
    GoesOn source
      (do
        let locals ← openSerial path locals
        sendPsi locals psi
        rest locals) s := by
  refine GoesOn.bind (stages_openSerial hpath hs hheld hunset) (goesOn_opening hheld fun _ => rfl)
    fun locals₁ s₁ hs₁ (hheld₁ : locals₁.Holds device s₁.toHostProcess) hvalue => ?_
  obtain ⟨hmodem₁, fd, hfd, hlocals₁⟩ := hvalue
  have hfd₁ : 0 ≤ locals₁.serialFd := hlocals₁ ▸ hfd
  have hpsi := List.ne_nil_of_length_pos hpos
  have hfile := hheld₁.file_serial hfd₁
  have hsent : MaySucceed source
      ((xmm616PsiSend locals₁.serialFd (some psi)).translate (HostCall.onDevice locals₁.serialFd)) s₁ := by
    refine may_mono (may_onDevice (.inl rfl) hfile (runs_xmm616PsiSend hfd₁ hpsi)) ?_
    rintro _ s' rfl
    exact le_rfl
  have hJ₁ : ∀ bytes, J { s₁.toXmm616Modem with serial := bytes } := hmodem₁ ▸ hJ
  refine GoesOn.require_bind hheld₁ (acts_xmm616PsiSend hpsi hsize hfd₁ hs₁ hfile hJ₁) hsent
    fun _ s₂ hs₂ hheld₂ _ _ => ?_
  refine hrest locals₁ s₂ hs₂ hheld₂ ?_ ?_
  · rw [hlocals₁]
  · rw [hlocals₁]

/-- The end of a boot changes nothing of its success. -/
theorem may_xmm616BootEnd {body : Xmm616Booting Xmm616Locals} (hbody : GoesOn source body s) :
    may (HostWorld.handler source) (xmm616BootEnd body) (fun rc _ => rc = 0) s := by
  refine may_bind.mpr (may_mono hbody ?_)
  rintro _ s' ⟨locals, rfl⟩
  exact may_bind.mpr (may_mono (may_true _) fun _ _ _ => rfl)

end Parts

/-! ### The crespo -/

section Crespo

theorem goesOn_crespoMemory {firmware : Bytes} (hclient : ¬client.isNone = true) (hfirmware : firmware ≠ [])
    (hsize : ipcClientNvDataSize client ≠ 0) (hs : Safe (fun _ => True) s)
    (hheld : locals.Holds .modemCtl s.toHostProcess) (hfd : 0 ≤ locals.deviceFd) :
    GoesOn source
      (do
        let _ ← call (.lseek locals.deviceFd 0)
        require locals (xmm616FirmwareSend client locals.deviceFd none (some firmware))
        let _ ← call (.lseek locals.deviceFd crespoModemCtlNvDataOffset)
        require locals (xmm616NvDataSend client locals.deviceFd none)
        pure locals) s := by
  have hnvData := source.nvData_ne_nil hsize
  rw [xmm616FirmwareSend_eq hclient hfirmware (.inl hfd)]
  refine GoesOn.bind (stages_call hheld (acts_lseek hs (hheld.file_device hfd) trivial trivial)) goesOn_call
    fun _ s₁ hs₁ hheld₁ _ => ?_
  refine GoesOn.require_bind hheld₁
    (acts_memorySend_device hfirmware hs₁ (hheld₁.file_device hfd) fun _ _ => trivial)
    (maySucceed_memorySend_device hfirmware (hheld₁.file_device hfd)) fun _ s₂ hs₂ hheld₂ _ _ => ?_
  refine GoesOn.bind (stages_call hheld₂ (acts_lseek hs₂ (hheld₂.file_device hfd) trivial trivial))
    goesOn_call fun _ s₃ hs₃ hheld₃ _ => ?_
  have hfile : s₃.files locals.deviceFd = some .modemCtl := hheld₃.file_device hfd
  refine GoesOn.require_bind (R := fun _ _ => True) hheld₃
    (acts_xmm616NvDataSend hs₃ trivial fun buffer _ =>
      (acts_memorySend_device hnvData (hs₃.withBuffer buffer) hfile fun _ _ => trivial).mono
        fun _ _ _ => trivial)
    (maySucceed_xmm616NvDataSend hclient (.inl hfd) hsize fun _ => maySucceed_memorySend_device hnvData hfile)
    fun _ _ _ _ _ _ => ?_
  exact ⟨locals, rfl⟩

theorem may_crespoBoot (source : HostSource client) (memory : Memory UInt8) (flags : UInt16)
    (hable : CrespoAble source) :
    may (HostWorld.handler source) (crespoBoot client) (fun rc _ => rc = 0) (.start memory flags) := by
  have hclient := not_isNone_of_nvDataSize hable.2
  have hstart : Safe (fun _ => True) (.start memory flags) := safe_start trivial
  rw [crespoBoot, if_neg hclient]
  refine may_xmm616BootEnd ?_
  refine goesOn_imageOpened (fun _ _ => rfl) hable.1 hstart idle_start rfl (fun _ => rfl) ?_
  intro image locals s hs hheld himage hfd hunset _
  obtain ⟨hpsi, hpsiLength⟩ := crespoPsi.of_slice himage (by decide)
  obtain ⟨hfirmware, hfirmwareLength⟩ := crespoFirmware.of_slice himage (by decide)
  refine GoesOn.require_bind hheld (acts_ioctl hs (hheld.file_device hfd) (hs.facing trivial rfl))
    (maySucceed_ioctl (hheld.file_device hfd)) fun _ s₁ hs₁ hheld₁ _ _ => ?_
  rw [hpsi, hfirmware]
  refine goesOn_psiSent (by rw [hpsiLength]; decide) (by rw [hpsiLength]; decide) hs₁ hheld₁ rfl hunset
    (fun _ => trivial) fun locals₂ s₂ hs₂ hheld₂ hsame _ => ?_
  have hne : crespoFirmware.of (source.content crespoModemImageDevice) ≠ [] :=
    List.ne_nil_of_length_pos (by rw [hfirmwareLength]; decide)
  exact goesOn_crespoMemory hclient hne hable.2 hs₂ hheld₂ (hsame ▸ hfd)

/-- The boot can succeed if and only if there is enough of the image and there are NV data. -/
theorem crespoBoot_succeeds_iff (source : HostSource client) (memory : Memory UInt8) (flags : UInt16) :
    (∃ choices, (exec (HostWorld.handler source) (crespoBoot client) choices (.start memory flags)).1 = 0) ↔
      CrespoAble source := by
  constructor
  · rintro ⟨choices, hrc⟩
    obtain ⟨_, ⟨_, hable, _⟩ | hfailed⟩ := wp_exec (wp_crespoBoot source memory flags) choices
    · exact hable
    · exact absurd (hrc.symm.trans hfailed) (by decide)
  · exact fun hable => exists_exec_of_may (may_crespoBoot source memory flags hable)

end Crespo

/-! ### The aries -/

section Aries

/-- A function that opens a file, uses it and closes it. -/
theorem may_temporary (file : HostFile) (value : Int) {fd : Nat} {opening : HostCall Int}
    {body : Int → Prog HostCall Int}
    (hopening : ∀ choice, HostWorld.handler source _ choice opening s = s.openAs file choice)
    (hfresh : s.files fd = none)
    (hbody : ∀ s', s'.files fd = some file →
      may (HostWorld.handler source) (body fd) (fun rc _ => rc = value) s') :
    may (HostWorld.handler source) (do
      let fd ← Prog.perform opening
      if fd < 0 then pure (-1) else closing fd (body fd)) (fun rc _ => rc = value) s := by
  have hopened : HostWorld.handler source _ ⟨fd, 0, 0, [], .null, false⟩ opening s =
      ((fd : Int), { s with
        files := Function.update s.files fd (some file)
        position := if file = .modemCtl then 0 else s.position }) := by
    rw [hopening]
    exact if_neg (not_or.mpr ⟨Bool.false_ne_true, not_not.mpr hfresh⟩)
  refine may_bind.mpr ⟨⟨fd, 0, 0, [], .null, false⟩, ?_⟩
  rw [hopened]
  change may _ (if (fd : Int) < 0 then pure (-1) else closing fd (body fd)) _ _
  rw [if_neg (not_lt.mpr (Int.natCast_nonneg fd))]
  refine may_bind.mpr (may_mono (hbody _ (Function.update_self ..)) ?_)
  rintro rc s' rfl
  exact ⟨default, rfl⟩

theorem maySucceed_networkIface (iface : CString) (change : UInt16 → UInt16)
    (hheld : locals.Holds device s.toHostProcess) :
    MaySucceed source (networkIface (some iface) change) s := by
  obtain ⟨fd, hfresh⟩ := hheld.exists_fresh
  refine may_mono (may_temporary .socket 0 (fun _ => rfl) hfresh fun s' hfile => ?_) ?_
  · refine may_bind.mpr ⟨default, ?_⟩
    rw [show HostWorld.handler source _ default (.getFlags fd (iface.take ifNameSize)) s' =
      (some s'.flags, s') from onFile_open hfile]
    refine may_bind.mpr (may_mono (maySucceed_ioctl hfile) fun rc s'' hrc => ?_)
    rw [if_neg (not_lt.mpr hrc)]
    rfl
  · rintro rc s' rfl
    exact le_rfl

/-- The modem can be as wanted already. -/
theorem maySucceed_ariesPower {wanted : Int} {buffer : Bytes} (text : CString) (htext : atoi text = wanted)
    (hlength : 0 < text.length ∧ text.length ≤ 100) (hwanted : 0 ≤ wanted)
    (hheld : locals.Holds device s.toHostProcess) : MaySucceed source (ariesPower wanted buffer) s := by
  obtain ⟨fd, hfresh⟩ := hheld.exists_fresh
  have hread : may (HostWorld.handler source) (sysfsValueRead (some ariesModemctlStatusSysfs))
      (fun value _ => value = wanted) s := by
    refine may_temporary (.attribute ariesModemctlStatusSysfs) _ (fun _ => rfl) hfresh fun s' hfile => ?_
    refine may_bind.mpr ⟨⟨0, 0, 0, text, .null, false⟩, ?_⟩
    have hanswer : HostWorld.handler source _ ⟨0, 0, 0, text, .null, false⟩ (.read fd 100) s' =
        (some text, s') := by
      refine (onFile_open hfile).trans ?_
      rw [HostWorld.read, if_neg Bool.false_ne_true]
      dsimp only
      rw [List.take_of_length_le hlength.2, if_neg (by simp)]
    rw [hanswer]
    change may _ (if text.length = 0 then pure (-1) else pure (atoi text)) _ _
    rw [if_neg hlength.1.ne']
    exact htext
  refine may_bind.mpr (may_mono hread ?_)
  rintro value s' rfl
  rw [if_neg (not_lt.mpr hwanted), if_pos rfl]
  exact le_rfl

theorem GoesOn.call_bind {request : HostCall α} {rest : α → Xmm616Booting β} {choice : HostChoice}
    {answer : α} {s' : HostWorld}
    (hanswer : HostWorld.handler source _ choice request s = (answer, s'))
    (hrest : GoesOn source (rest answer) s') : GoesOn source (call request >>= rest) s := by
  change may _ ((call request).run >>= ExceptT.bindCont rest) _ s
  refine may_bind.mpr ⟨choice, ?_⟩
  rw [hanswer]
  exact hrest

/-- The modem can say the word at once. -/
theorem goesOn_onedramWait {word : Nat} (hword : LittleEndian.decode (LittleEndian.encode 4 word) = word)
    (hheld : locals.Holds .onedram s.toHostProcess) (hfd : 0 ≤ locals.deviceFd) :
    GoesOn source (onedramWait locals word 0) s := by
  have hfile : s.files locals.deviceFd = some .onedram := hheld.file_device hfd
  rw [onedramWait]
  have hselect :
      HostWorld.handler source _ ⟨0, 0, 1, [], .null, false⟩ (.select locals.deviceFd) s = (1, s) :=
    onFile_open hfile
  refine GoesOn.call_bind hselect ?_
  rw [if_neg (by decide)]
  have hread : HostWorld.handler source _ ⟨0, 0, 0, LittleEndian.encode 4 word, .null, false⟩
      (.read locals.deviceFd 4) s =
        (some (LittleEndian.encode 4 word), { s with heard := s.heard ++ [word] }) := by
    refine (onFile_open hfile).trans ?_
    rw [HostWorld.read, if_neg Bool.false_ne_true]
    dsimp only
    rw [List.take_of_length_le (LittleEndian.length_encode 4 word).le, if_pos rfl, hword]
  refine GoesOn.call_bind hread ?_
  dsimp only
  rw [if_neg (by rw [LittleEndian.length_encode]; decide), if_neg (by decide), if_neg (not_not.mpr hword)]
  exact ⟨_, rfl⟩

theorem goesOn_mapOnedram (hheld : locals.Holds .onedram s.toHostProcess) (hfd : 0 ≤ locals.deviceFd) :
    GoesOn source (mapOnedram locals) s := by
  have hmap : HostWorld.handler source _ ⟨0, 0, 0, [], .mapped, false⟩
      (.mmap locals.deviceFd ariesOnedramMemorySize) s = (.mapped, s.map ariesOnedramMemorySize .mapped) :=
    onFile_open (hheld.file_device hfd)
  refine GoesOn.call_bind hmap ?_
  exact ⟨_, rfl⟩

theorem goesOn_handOver (hs : Safe (fun _ => True) s) (hheld : locals.Holds .onedram s.toHostProcess)
    (hfd : 0 ≤ locals.deviceFd) (hunmapped : locals.onedramAddress = .null) :
    GoesOn source (handOver locals) s := by
  have hmappings : s.mappings = [] := by rw [hheld.mappings_eq, hunmapped]; rfl
  have hreleased : Safe (fun _ => True) (s.facing (HostRequest.onedramRelSem.effect s.toXmm616Modem)) :=
    ⟨hs.clean, fun _ => hmappings, trivial⟩
  refine GoesOn.require_bind hheld (acts_ioctl hs (hheld.file_device hfd) hreleased)
    (maySucceed_ioctl (hheld.file_device hfd)) fun _ s₁ hs₁ hheld₁ _ _ => ?_
  have hwrite : HostWorld.handler source _ ⟨0, 0, 4, [], .null, false⟩
      (.write locals.deviceFd (LittleEndian.encode 4 ariesOnedramMagic)) s₁ =
        (4, s₁.facing (s₁.toXmm616Modem.accept (LittleEndian.encode 4 ariesOnedramMagic) .onedram)) :=
    onFile_open (hheld₁.file_device hfd)
  refine GoesOn.call_bind hwrite ?_
  rw [if_neg (by decide)]
  exact goesOn_onedramWait (by decide) hheld₁ hfd

theorem goesOn_ariesMemory {firmware : Bytes} (hclient : ¬client.isNone = true) (hfirmware : firmware ≠ [])
    (hbound : 0 + firmware.length ≤ ariesOnedramMemorySize)
    (hfits : ariesOnedramNvDataOffset + ipcClientNvDataSize client ≤ ariesOnedramMemorySize)
    (hsize : ipcClientNvDataSize client ≠ 0) (hs : Safe (fun _ => True) s)
    (hheld : locals.Holds .onedram s.toHostProcess) (hfd : 0 ≤ locals.deviceFd)
    (hunmapped : locals.onedramAddress = .null) (hreleased : s.released = false) :
    GoesOn source
      (do
        onedramWait locals ariesOnedramInit 0
        let locals ← mapOnedram locals
        require locals (xmm616FirmwareSend client (-1) (some 0) (some firmware))
        require locals (xmm616NvDataSend client (-1) (some ariesOnedramNvDataOffset))
        call (.munmap locals.onedramAddress ariesOnedramMemorySize)
        let locals := { locals with onedramAddress := .null }
        handOver locals
        pure locals) s := by
  rw [xmm616FirmwareSend_eq hclient hfirmware (.inr rfl)]
  refine GoesOn.bind (stages_onedramWait hs hheld hfd fun _ => trivial)
    (goesOn_onedramWait (by decide) hheld hfd) fun _ s₁ hs₁ hheld₁ hgranted => ?_
  obtain ⟨words, hlast, hmodem₁⟩ := hgranted
  have hreleased₁ : s₁.released = false := (congrArg Xmm616Modem.released hmodem₁).trans hreleased
  refine GoesOn.bind (stages_mapOnedram hs₁ hreleased₁ hheld₁ hfd hunmapped) (goesOn_mapOnedram hheld₁ hfd)
    fun locals₂ s₂ hs₂ (hheld₂ : locals₂.Holds .onedram s₂.toHostProcess) hmapped => ?_
  obtain ⟨hmodem₂, hlocals₂⟩ := hmapped
  have hfd₂ : 0 ≤ locals₂.deviceFd := hlocals₂ ▸ hfd
  have hmapping : locals₂.onedramAddress = .mapped := congrArg Xmm616Locals.onedramAddress hlocals₂
  have hgrants₂ : ∀ length ≤ ariesOnedramMemorySize, s₂.Grants length := fun _ hlength =>
    hheld₂.grants_saying hmapping (hmodem₂.trans hmodem₁) hreleased hlast hlength
  refine GoesOn.require_bind hheld₂ (acts_memorySend_mapped hs₂ (hgrants₂ _ hbound) trivial)
    maySucceed_memorySend_mapped fun _ s₃ hs₃ hheld₃ _ hmodem₃ => ?_
  have hgrants₃ : s₃.Grants (ariesOnedramNvDataOffset + source.nvData.length) := by
    refine hheld₃.grants hmapping ?_ ?_ ?_
    · rw [hmodem₃]
      exact (hgrants₂ _ hbound).2.1
    · rw [hmodem₃]
      exact (hgrants₂ _ hbound).2.2
    · rw [source.nvData_length]
      exact hfits
  refine GoesOn.require_bind (R := fun _ _ => True) hheld₃
    (acts_xmm616NvDataSend hs₃ trivial fun buffer _ =>
      (acts_memorySend_mapped (hs₃.withBuffer buffer) hgrants₃ trivial).mono fun _ _ _ => trivial)
    (maySucceed_xmm616NvDataSend hclient (.inr rfl) hsize fun _ => maySucceed_memorySend_mapped)
    fun _ s₄ hs₄ hheld₄ _ _ => ?_
  refine GoesOn.bind (stages_munmap hs₄ hheld₄ hmapping) goesOn_call fun _ s₅ hs₅ hheld₅ _ => ?_
  exact (goesOn_handOver hs₅ hheld₅ hfd₂ rfl).before fun _ _ => ⟨_, rfl⟩

theorem may_ariesBoot (source : HostSource client) (memory : Memory UInt8) (flags : UInt16)
    (hfits : ariesOnedramNvDataOffset + ipcClientNvDataSize client ≤ ariesOnedramMemorySize)
    (hable : AriesAble source) :
    may (HostWorld.handler source) (ariesBoot client (some ariesPowerHandlers)) (fun rc _ => rc = 0)
      (.start memory flags) := by
  have hclient := not_isNone_of_nvDataSize hable.2
  have hstart : Safe (fun modem => modem.released = false) (.start memory flags) := safe_start rfl
  change may _ (ite _ _ _) _ _
  rw [if_neg hclient]
  refine may_xmm616BootEnd ?_
  refine goesOn_imageOpened (fun _ _ => rfl) hable.1 hstart idle_start rfl (fun h => absurd h (by decide)) ?_
  intro image locals s hs hheld himage hfd hunset hunmapped
  obtain ⟨hpsi, hpsiLength⟩ := ariesPsi.of_slice himage (by decide)
  obtain ⟨hfirmware, hfirmwareLength⟩ := ariesFirmware.of_slice himage (by decide)
  refine GoesOn.require_bind hheld (acts_networkIface _ _ hs hs.modem) (maySucceed_networkIface _ _ hheld)
    fun _ s₁ hs₁ hheld₁ _ _ => ?_
  have hon : MaySucceed source ariesPowerOn s₁ :=
    maySucceed_ariesPower (cString "1") (by decide) (by decide) (by decide) hheld₁
  refine GoesOn.require_bind hheld₁ (acts_ariesPower hs₁ hs₁.modem) hon fun _ s₂ hs₂ hheld₂ _ _ => ?_
  have hoff : MaySucceed source ariesPowerOff s₂ :=
    maySucceed_ariesPower (cString "0") (by decide) (by decide) (by decide) hheld₂
  refine GoesOn.require_bind hheld₂ (acts_ariesPower hs₂ hs₂.modem) hoff fun _ s₃ hs₃ hheld₃ _ _ => ?_
  rw [hpsi, hfirmware]
  refine goesOn_psiSent (by rw [hpsiLength]; decide) (by rw [hpsiLength]; decide) hs₃ hheld₃ rfl hunset
    (fun _ => hs₃.modem) fun locals₄ s₄ hs₄ hheld₄ hsame hsameMapping => ?_
  have hne : ariesFirmware.of (source.content ariesModemImageDevice) ≠ [] :=
    List.ne_nil_of_length_pos (by rw [hfirmwareLength]; decide)
  have hbound : 0 + (ariesFirmware.of (source.content ariesModemImageDevice)).length ≤
      ariesOnedramMemorySize := by
    rw [hfirmwareLength]
    decide
  exact goesOn_ariesMemory hclient hne hbound hfits hable.2 ⟨hs₄.clean, hs₄.unmapped, trivial⟩ hheld₄
    (hsame ▸ hfd) (hsameMapping.trans hunmapped) hs₄.modem

/-- An image and NV data of zeros. -/
def blankHostSource : HostSource xmm626NvConfig.client where
  content := fun _ => List.replicate ariesModemImageSize 0
  nvData := List.replicate xmm626NvDataSize 0
  nvData_length := List.length_replicate

theorem ariesAble_blank : AriesAble blankHostSource := ⟨(List.length_replicate).ge, by decide⟩

/-- In a run in which the memory of the modem is loaded. -/
theorem ariesBoot_loads_blank : ∃ choices,
    (exec (HostWorld.handler blankHostSource) (ariesBoot xmm626NvConfig.client (some ariesPowerHandlers))
      choices (.start (fun _ => none) iffUp)).1 = 0 ∧
    ariesOnedramNvDataOffset + ipcClientNvDataSize xmm626NvConfig.client ≤ ariesOnedramMemorySize ∧
    BootsSafely blankHostSource (ariesBoot xmm626NvConfig.client (some ariesPowerHandlers))
      (AriesProgress blankHostSource fun _ => none) (AriesLoaded blankHostSource (fun _ => none) iffUp)
      (.start (fun _ => none) iffUp) choices := by
  obtain ⟨choices, hrc⟩ := exists_exec_of_may
    (may_ariesBoot blankHostSource (fun _ => none) iffUp (by decide) ariesAble_blank)
  exact ⟨choices, hrc, by decide, ariesBoot_loads blankHostSource (fun _ => none) iffUp (by decide) choices⟩

/-- The boot can succeed if and only if there is enough of the image and there are NV data, where these
fit. -/
theorem ariesBoot_succeeds_iff (source : HostSource client) (memory : Memory UInt8) (flags : UInt16)
    (hfits : ariesOnedramNvDataOffset + ipcClientNvDataSize client ≤ ariesOnedramMemorySize) :
    (∃ choices, (exec (HostWorld.handler source) (ariesBoot client (some ariesPowerHandlers)) choices
      (.start memory flags)).1 = 0) ↔ AriesAble source := by
  constructor
  · rintro ⟨choices, hrc⟩
    obtain ⟨_, ⟨_, hable, _⟩ | hfailed⟩ := wp_exec (wp_ariesBoot source memory flags hfits) choices
    · exact hable
    · exact absurd (hrc.symm.trans hfailed) (by decide)
  · exact fun hable => exists_exec_of_may (may_ariesBoot source memory flags hfits hable)

theorem ariesBoot_succeeds_blank :
    ∃ choices, (exec (HostWorld.handler blankHostSource)
      (ariesBoot xmm626NvConfig.client (some ariesPowerHandlers)) choices
      (.start (fun _ => none) iffUp)).1 = 0 := by
  exact (ariesBoot_succeeds_iff blankHostSource (fun _ => none) iffUp (by decide)).mpr ariesAble_blank

end Aries

end SamsungIpc
