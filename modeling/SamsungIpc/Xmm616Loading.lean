import SamsungIpc.BootExact
import SamsungIpc.Xmm616Stages

/-! What the boots of the devices with an XMM616 leave in the modem: whatever the calls answer and however
short the writes are, its memory holds what was sent so far, and all of it at its place when a boot
succeeds. -/

namespace SamsungIpc

open BlockMemory DeviceWrite Effect Xmm616Booting

/-! ### What a device takes of an upload -/

section Uploads

variable {data : Bytes} {log word : List DeviceWrite}

/-- A word that was begun is taken up to some byte. -/
theorem accepted_begun (hbegun : Begun CutWrite log word) :
    log.flatMap accepted <+: word.flatMap accepted := by
  induction hbegun with
  | nil word => exact List.nil_prefix
  | @cut event whole hcut word =>
      have hwhole : whole = DeviceWrite.whole event.bytes := hcut
      rw [List.flatMap_cons, List.flatMap_nil, List.append_nil, List.flatMap_cons, hwhole, accepted_whole]
      exact (List.take_prefix _ _).trans (List.prefix_append _ _)
  | cons event hrest ih =>
      rw [List.flatMap_cons, List.flatMap_cons]
      exact (List.prefix_append_right_inj _).mpr ih

/-- The loop over all that is left has the device take the data from their start on. -/
theorem accepted_psiLoop {result : Except Unit Unit} (hdata : data ≠ [])
    (hrun : Runs deviceEnvironment (psiLoop data).run result log) :
    log.flatMap accepted <+: data ∧ (result = .ok () → log.flatMap accepted = data) := by
  have hpos : 0 < data.length := List.length_pos_iff.mpr hdata
  constructor
  · obtain ⟨word, hword, hbegun⟩ := attempts_imageLoop (fun wc _ => Nat.sub_le _ wc) hpos 0 result log hrun
    have htaken := accepted_begun hbegun
    rw [hword.1, List.drop_zero] at htaken
    exact htaken
  · rintro rfl
    exact (emits_psiLoop le_rfl () log hrun).1.1

/-- All that goes over the serial line: the greetings, the size, the PSI and its checksum. -/
def psiBytes (psi : Bytes) : Bytes :=
  (List.replicate xmm616AtCount xmm616At).flatten ++ [xmm616PsiMagic] ++
    LittleEndian.encode 2 psi.length ++ psi ++ [xorSum psi]

theorem accepted_wrote {bytes : Bytes} (hlog : log ∈ wrote bytes) : log.flatMap accepted = bytes := by
  obtain rfl := hlog
  rw [List.flatMap_cons, List.flatMap_nil, List.append_nil, accepted_whole]

theorem accepted_wrote_pow {bytes : Bytes} {count : Nat} (hlog : log ∈ wrote bytes ^ count) :
    log.flatMap accepted = (List.replicate count bytes).flatten := by
  induction count generalizing log with
  | zero =>
      rw [pow_zero] at hlog
      obtain rfl := hlog
      rfl
  | succ count ih =>
      rw [pow_succ'] at hlog
      obtain ⟨first, hfirst, rest, hrest, rfl⟩ := hlog
      rw [List.flatMap_append, accepted_wrote hfirst, ih hrest, List.replicate_succ, List.flatten_cons]

/-- The two bytes that announce a size are its encoding. -/
theorem encode_announced {size : Nat} {low high : UInt8} (hsize : size = 256 * high.toNat + low.toNat) :
    LittleEndian.encode 2 size = [low, high] := by
  have hlow : UInt8.ofNat size = low := by
    apply UInt8.toNat_inj.mp
    rw [UInt8.toNat_ofNat', hsize, Nat.mul_add_mod, Nat.mod_eq_of_lt low.toNat_lt]
  have hhigh : UInt8.ofNat (size / 256) = high := by
    have hquotient : size / 256 = high.toNat := by
      have := low.toNat_lt
      omega
    rw [hquotient, UInt8.ofNat_toNat]
  rw [LittleEndian.encode, LittleEndian.encode, LittleEndian.encode, hlow, hhigh]

theorem accepted_uploads {psi : Bytes}
    (hlog : log ∈ (UploadRoutine.format .ilp32 .xmm616Psi).uploads psi) :
    log.flatMap accepted = psiBytes psi := by
  obtain ⟨_, ⟨ats, hats, magic, hmagic, rfl⟩, _, ⟨_, ⟨writes, rfl, hwrites⟩, _,
    ⟨image, himage, crc, hcrc, rfl⟩, rfl⟩, rfl⟩ := hlog
  have hsize : (writes.map whole).flatMap accepted = LittleEndian.encode 2 psi.length := by
    cases hwrites with
    | @cons bytes _ rest _ hannounces hrest =>
        cases hrest with
        | nil =>
            obtain ⟨low, high, rfl, hlength⟩ := hannounces
            rw [encode_announced hlength, List.map_cons, List.map_nil, List.flatMap_cons, List.flatMap_nil,
              List.append_nil, accepted_whole]
  simp only [List.flatMap_append, accepted_wrote_pow hats, accepted_wrote hmagic, hsize, himage.1,
    accepted_wrote hcrc, psiBytes, List.append_assoc]
  rfl

end Uploads

/-! ### Runs of a boot -/

variable {client : Option IpcClient} {source : HostSource client} {J : Xmm616Modem → Prop} {s : HostWorld}
  {device : HostFile} {locals : Xmm616Locals}

/-- In a run nothing is misused, what has been given back to the modem is not mapped, and the modem is as `J`
says at any time. When it is over nothing is open, allocated or mapped, and behind a success the modem is as
`P` says. -/
def BootsSafely (source : HostSource client) (boot : Prog HostCall Int) (J P : Xmm616Modem → Prop)
    (start : HostWorld) (choices : Stream' HostChoice) : Prop :=
  let run := exec (HostWorld.handler source) boot choices start
  (∀ s ∈ stops (HostWorld.handler source) boot choices start,
    s.misused = false ∧ (s.released = true → s.mappings = []) ∧ J s.toXmm616Modem) ∧
    EndsIdle P run.1 run.2

theorem bootsSafely_of_wp {boot : Prog HostCall Int} {P : Xmm616Modem → Prop}
    (hboot : wp (HostWorld.handler source) (Safe J) boot (EndsIdle P) s) (choices : Stream' HostChoice) :
    BootsSafely source boot J P s choices := by
  refine ⟨fun s' hstop => ?_, wp_exec hboot choices⟩
  have hsafe := wp_stops hboot choices s' hstop
  exact ⟨hsafe.clean, hsafe.unmapped, hsafe.modem⟩

/-! ### The senders -/

section Senders

variable {fd : Int} {data : Bytes}

theorem acts_xmm616PsiSend {psi : Bytes} (hpsi : psi ≠ []) (hsize : psi.length ≤ 2 ^ 16 - 1) (hfd : 0 ≤ fd)
    (hs : Safe J s) (hfile : s.files fd = some .serial)
    (hJ : ∀ bytes, J { s.toXmm616Modem with serial := bytes }) :
    Acts source J ((xmm616PsiSend fd (some psi)).translate (HostCall.onDevice fd))
      (fun rc modem => ∃ bytes, modem = { s.toXmm616Modem with serial := s.serial ++ bytes } ∧
        (0 ≤ rc → bytes = psiBytes psi)) s := by
  refine (acts_onDevice (.inl rfl) hs hfile fun _ _ _ _ _ => hJ _).mono fun rc modem hend => ?_
  obtain ⟨log, hrun, rfl⟩ := hend
  refine ⟨log.flatMap accepted, rfl, fun hrc => ?_⟩
  obtain ⟨result, _, hresult⟩ := (runs_imageSend_iff hfd hpsi).mp hrun
  have hzero : rc = 0 := by
    cases result with
    | ok value => exact hresult.symm
    | error exit =>
        obtain rfl : -1 = rc := hresult
        exact absurd hrc (by decide)
  subst hzero
  exact accepted_uploads (xmm616PsiSend_exact hsize hrun)

/-- Through the device, the data go from the position of the device on. -/
theorem acts_memorySend_device (hdata : data ≠ []) (hs : Safe J s) (hfile : s.files fd = some .modemCtl)
    (hJ : ∀ part, part <+: data → J (s.toXmm616Modem.accept part .modemCtl)) :
    Acts source J (memorySend fd none data)
      (fun rc modem => ∃ part, part <+: data ∧ modem = s.toXmm616Modem.accept part .modemCtl ∧
        (0 ≤ rc → part = data)) s := by
  have hstarted : ∀ result log, Runs deviceEnvironment (psiLoop data).run result log →
      ∀ started, started <+: log → J (s.toXmm616Modem.accept (started.flatMap accepted) .modemCtl) := by
    intro result log hrun started hstarted
    obtain ⟨rest, rfl⟩ := hstarted
    have htaken := (accepted_psiLoop hdata hrun).1
    rw [List.flatMap_append] at htaken
    exact hJ _ ((List.prefix_append _ _).trans htaken)
  refine (acts_onDevice (.inr rfl) hs hfile hstarted).bind fun result modem hend hsafe => ?_
  obtain ⟨log, hrun, rfl⟩ := hend
  obtain ⟨htaken, hwhole⟩ := accepted_psiLoop hdata hrun
  cases result with
  | ok value => exact acts_pure hsafe ⟨_, htaken, rfl, fun _ => hwhole rfl⟩
  | error exit => exact acts_pure hsafe ⟨_, htaken, rfl, fun hrc => absurd hrc (by decide)⟩

/-- Through the mapping, the data are copied to their address, which must be theirs to fill. -/
theorem acts_memorySend_mapped {address : Nat} (hs : Safe J s) (hgrants : s.Grants (address + data.length))
    (hJ : J { s.toXmm616Modem with memory := store s.memory address data }) :
    Acts source J (memorySend fd (some address) data)
      (fun _ modem => modem = { s.toXmm616Modem with memory := store s.memory address data }) s := by
  have hcopy : Acts source J (Prog.perform (.memcpy address data))
      (fun _ modem => modem = { s.toXmm616Modem with memory := store s.memory address data }) s := by
    refine acts_call hs fun choice => ⟨_, ?_, hs.facing hJ rfl, rfl⟩
    exact if_pos hgrants
  exact hcopy.bind fun _ modem hmodem hsafe => acts_pure hsafe hmodem

theorem target_given {address : Option Nat} (htarget : 0 ≤ fd ∨ address.isSome) :
    ¬(fd < 0 ∧ address.isNone = true) := by
  rw [Option.isSome_iff_ne_none] at htarget
  rintro ⟨hneg, hnull⟩
  rcases htarget with hfd | haddress
  · omega
  · exact haddress (Option.isNone_iff_eq_none.mp hnull)

theorem xmm616FirmwareSend_eq {address : Option Nat} (hclient : ¬client.isNone = true) (hdata : data ≠ [])
    (htarget : 0 ≤ fd ∨ address.isSome) :
    xmm616FirmwareSend client fd address (some data) = memorySend fd address data := by
  refine if_neg ?_
  rw [List.length_eq_zero_iff]
  exact not_or.mpr ⟨hclient, not_or.mpr ⟨target_given htarget, hdata⟩⟩

theorem HostSource.nvData_ne_nil (source : HostSource client) (hsize : ipcClientNvDataSize client ≠ 0) :
    source.nvData ≠ [] := by
  apply List.ne_nil_of_length_pos
  rw [source.nvData_length]
  exact Nat.pos_of_ne_zero hsize

/-- A client that has NV data is there. -/
theorem not_isNone_of_nvDataSize (hsize : ipcClientNvDataSize client ≠ 0) : ¬client.isNone = true := by
  intro hnone
  rw [Option.isNone_iff_eq_none] at hnone
  subst hnone
  exact hsize rfl

/-- The NV data are in a buffer while they are sent. -/
theorem acts_xmm616NvDataSend {address : Option Nat} {R : Int → Xmm616Modem → Prop} (hs : Safe J s)
    (hfailed : R (-1) s.toXmm616Modem)
    (hsend : ∀ buffer, ipcClientNvDataSize client ≠ 0 →
      Acts source J (memorySend fd address source.nvData) R (s.withBuffer buffer)) :
    Acts source J (xmm616NvDataSend client fd address) R s := by
  refine .ite (fun _ => acts_pure hs hfailed) fun _ => .ite (fun _ => acts_pure hs hfailed) fun hsize => ?_
  refine wp_bind.mpr ⟨hs, fun choice => ?_⟩
  rw [show HostWorld.handler source _ choice .nvDataLoad s = s.allocate (some source.nvData) choice from rfl]
  rcases allocate_some (s := s) source.nvData choice with hrefused | ⟨hfresh, hgiven⟩
  · rw [hrefused]
    exact ⟨hs, acts_pure hs hfailed⟩
  · rw [hgiven]
    refine ⟨hs.withBuffer _, wp_bind.mpr (wp_mono (wp_keeping (hsend choice.buffer hsize)) ?_)⟩
    intro rc s' hend
    obtain ⟨process, modem⟩ := s'
    obtain ⟨hloaded, rfl, hvalue⟩ := hend
    have hfree : ((s.facing modem).withBuffer choice.buffer).free choice.buffer = s.facing modem :=
      free_withBuffer hfresh
    refine ⟨hloaded, fun answer => ?_⟩
    rw [show (HostWorld.handler source _ answer (.free choice.buffer)
      ((s.facing modem).withBuffer choice.buffer)).2 = s.facing modem from hfree]
    have hend : Safe J (s.facing modem) := ⟨hloaded.clean, hloaded.unmapped, hloaded.modem⟩
    exact ⟨hend, rfl, hvalue⟩

end Senders

/-! ### Parts that the boots share -/

section Shared

variable {β : Type} {path devicePath : Path} {size : Nat} {held : β → Xmm616Locals}
  {P : β → Xmm616Modem → Prop}

theorem length_of_slice {content image : Bytes} (himage : ByteSplice.slice content 0 size = some image) :
    size ≤ content.length := by
  rw [ByteSplice.slice] at himage
  split at himage
  · omega
  · cases himage

/-- A part of an image is that part of what the image was read from. -/
theorem ImageSection.of_slice (part : ImageSection) {content image : Bytes}
    (himage : ByteSplice.slice content 0 size = some image) (hfits : part.offset + part.size ≤ size) :
    part.of image = part.of content ∧ (part.of content).length = part.size := by
  rw [ByteSplice.slice] at himage
  split at himage
  · rename_i hlong
    obtain rfl : content.take size = image := by
      rw [← Option.some.inj himage, List.drop_zero]
    have hlength : (part.of content).length = part.size := part.length_of (by omega)
    refine ⟨?_, hlength⟩
    rw [ImageSection.of, ImageSection.of, List.drop_take, List.take_take, min_eq_left (by omega)]
  · cases himage

/-- How a boot begins. -/
theorem stages_imageOpened {rest : Bytes × Xmm616Locals → Xmm616Booting β}
    {next : Bytes → Xmm616Locals → Xmm616Booting β}
    (hrest : ∀ image locals, rest (image, locals) = openDevice devicePath locals >>= next image)
    (hs : Safe J s) (hidle : s.toHostProcess.Idle) (hpath : hostFile devicePath = device)
    (hposition : device = .modemCtl → s.position = 0)
    (hnext : ∀ image locals s', Safe J s' → locals.Holds device s'.toHostProcess →
      s'.toXmm616Modem = s.toXmm616Modem → ByteSplice.slice (source.content path) 0 size = some image →
      0 ≤ locals.deviceFd → locals.serialFd = -1 → locals.onedramAddress = .null →
      Stages source J device (next image locals) held P s') :
    Stages source J device (readImage path size >>= rest) held P s := by
  refine (stages_readImage hs hidle).bind fun value s₁ hs₁ hheld₁ hvalue => ?_
  obtain ⟨image, locals₁⟩ := value
  obtain ⟨hmodem₁, himage, _, hlocals₁⟩ := hvalue
  have hposition₁ : device = .modemCtl → s₁.position = 0 := fun hdevice => by
    rw [hmodem₁]
    exact hposition hdevice
  have hunset : locals₁.deviceFd = -1 := congrArg Xmm616Locals.deviceFd hlocals₁
  rw [hrest]
  refine (stages_openDevice hpath hposition₁ hs₁ hheld₁ hunset).bind fun locals₂ s₂ hs₂ hheld₂ hvalue => ?_
  obtain ⟨hmodem₂, fd, hfd, hlocals₂⟩ := hvalue
  refine hnext image locals₂ s₂ hs₂ hheld₂ (hmodem₂.trans hmodem₁) himage ?_ ?_ ?_
  · rw [hlocals₂]
    exact hfd
  · rw [hlocals₂, hlocals₁]
    rfl
  · rw [hlocals₂, hlocals₁]
    rfl

/-- How the PSI is sent. -/
theorem stages_psiSent {psi : Bytes} {rest : Xmm616Locals → Xmm616Booting β} (hpos : 0 < psi.length)
    (hsize : psi.length ≤ 2 ^ 16 - 1) (hs : Safe J s) (hheld : locals.Holds device s.toHostProcess)
    (hpath : hostFile path = .serial) (hunset : locals.serialFd = -1)
    (hJ : ∀ bytes, J { s.toXmm616Modem with serial := bytes })
    (hrest : ∀ locals' s', Safe J s' → locals'.Holds device s'.toHostProcess →
      s'.toXmm616Modem = { s.toXmm616Modem with serial := s.serial ++ psiBytes psi } →
      locals'.deviceFd = locals.deviceFd → locals'.onedramAddress = locals.onedramAddress →
      Stages source J device (rest locals') held P s') :
    Stages source J device
      (do
        let locals ← openSerial path locals
        sendPsi locals psi
        rest locals) held P s := by
  refine (stages_openSerial hpath hs hheld hunset).bind
    fun locals₁ s₁ hs₁ (hheld₁ : locals₁.Holds device s₁.toHostProcess) hvalue => ?_
  obtain ⟨hmodem₁, fd, hfd, hlocals₁⟩ := hvalue
  have hfd₁ : 0 ≤ locals₁.serialFd := hlocals₁ ▸ hfd
  have hJ₁ : ∀ bytes, J { s₁.toXmm616Modem with serial := bytes } := hmodem₁ ▸ hJ
  have hsend : Acts source J _ _ s₁ := acts_xmm616PsiSend (List.ne_nil_of_length_pos hpos) hsize hfd₁ hs₁
    (hheld₁.file_serial hfd₁) hJ₁
  refine (stages_require (P := (· = { s₁.toXmm616Modem with serial := s₁.serial ++ psiBytes psi })) hheld₁
    hsend ?_).bind fun _ s₂ hs₂ hheld₂ hmodem₂ => ?_
  · rintro rc modem ⟨bytes, rfl, hbytes⟩ hrc
    rw [hbytes hrc]
  refine hrest locals₁ s₂ hs₂ hheld₂ ?_ ?_ ?_
  · rw [hmodem₂, hmodem₁]
  · rw [hlocals₁]
  · rw [hlocals₁]

end Shared

/-! ### The crespo -/

section Crespo

/-- What is sent of the crespo's image. -/
def HostSource.crespoPart (source : HostSource client) (part : ImageSection) : Bytes :=
  part.of (source.content crespoModemImageDevice)

/-- There is enough of the image, and there are NV data to be sent. -/
def CrespoAble (source : HostSource client) : Prop :=
  crespoModemImageSize ≤ (source.content crespoModemImageDevice).length ∧ ipcClientNvDataSize client ≠ 0

/-- Where the NV data go: to their place, or behind the firmware if the device did not seek. -/
def crespoNvPlace (modem : Xmm616Modem) : Nat :=
  if crespoModemCtlNvDataOffset ∈ modem.failedSeeks then crespoFirmware.size
  else crespoModemCtlNvDataOffset

/-- The memory has got the start of the firmware, and of the NV data if the firmware is complete. -/
def CrespoFills (source : HostSource client) (memory : Memory UInt8) (modem : Xmm616Modem) : Prop :=
  ∃ first second, first <+: source.crespoPart crespoFirmware ∧ second <+: source.nvData ∧
    (second ≠ [] → first = source.crespoPart crespoFirmware) ∧
    modem.memory = store (store memory 0 first) (crespoNvPlace modem) second

/-- The PSI has gone over the serial line, and the memory has got the firmware and the NV data. -/
def CrespoLoaded (source : HostSource client) (memory : Memory UInt8) (modem : Xmm616Modem) : Prop :=
  modem.serial = psiBytes (source.crespoPart crespoPsi) ∧
    modem.memory = store (store memory 0 (source.crespoPart crespoFirmware)) (crespoNvPlace modem)
      source.nvData

variable {memory : Memory UInt8}

theorem CrespoFills.of_firmware {modem : Xmm616Modem} {part : Bytes}
    (hpart : part <+: source.crespoPart crespoFirmware) (hmemory : modem.memory = store memory 0 part) :
    CrespoFills source memory modem :=
  ⟨part, [], hpart, List.nil_prefix, fun hnil => absurd rfl hnil, hmemory.trans (store_nil _ _).symm⟩

theorem CrespoFills.of_memory {modem : Xmm616Modem} (hmemory : modem.memory = memory) :
    CrespoFills source memory modem :=
  .of_firmware List.nil_prefix (hmemory.trans (store_nil _ _).symm)

/-- A file that does not seek goes on from where it is. -/
theorem acts_lseek {fd : Int} {file : HostFile} {offset : Nat} (hs : Safe J s)
    (hfile : s.files fd = some file)
    (hfailed : J { s.toXmm616Modem with failedSeeks := s.failedSeeks ++ [offset] })
    (hsought : J { s.toXmm616Modem with position := offset }) :
    Acts source J (Prog.perform (.lseek fd offset))
      (fun _ modem => modem = { s.toXmm616Modem with failedSeeks := s.failedSeeks ++ [offset] } ∨
        modem = { s.toXmm616Modem with position := offset }) s := by
  refine acts_call hs fun choice => ?_
  rw [show HostWorld.handler source _ choice (.lseek fd offset) s = s.seek offset choice from
    onFile_open hfile, HostWorld.seek]
  split
  · exact ⟨_, rfl, hs.facing hfailed rfl, .inl rfl⟩
  · exact ⟨_, rfl, hs.facing hsought rfl, .inr rfl⟩

/-- The device takes the firmware from the start of the memory on. -/
theorem acts_crespoFirmware {fd : Int} (hclient : ¬client.isNone = true) (hfd : 0 ≤ fd)
    (hfirmware : source.crespoPart crespoFirmware ≠ []) (hs : Safe (CrespoFills source memory) s)
    (hfile : s.files fd = some .modemCtl) (hmemory : s.memory = memory) (hposition : s.position = 0) :
    Acts source (CrespoFills source memory)
      (xmm616FirmwareSend client fd none (some (source.crespoPart crespoFirmware)))
      (fun rc modem => 0 ≤ rc →
        modem = s.toXmm616Modem.accept (source.crespoPart crespoFirmware) .modemCtl) s := by
  rw [xmm616FirmwareSend_eq hclient hfirmware (.inl hfd)]
  refine (acts_memorySend_device hfirmware hs hfile fun part hpart => ?_).mono ?_
  · refine .of_firmware hpart ?_
    rw [← hmemory, ← hposition]
    rfl
  · rintro rc modem ⟨part, _, rfl, hwhole⟩ hrc
    rw [hwhole hrc]

/-- Behind the firmware, the device takes the NV data at their place. -/
theorem acts_crespoNvData {fd : Int} (hs : Safe (CrespoFills source memory) s)
    (hfile : s.files fd = some .modemCtl)
    (hmemory : s.memory = store memory 0 (source.crespoPart crespoFirmware))
    (hposition : s.position = crespoNvPlace s.toXmm616Modem) :
    Acts source (CrespoFills source memory) (xmm616NvDataSend client fd none)
      (fun rc modem => 0 ≤ rc → ipcClientNvDataSize client ≠ 0 ∧
        modem = s.toXmm616Modem.accept source.nvData .modemCtl) s := by
  refine acts_xmm616NvDataSend hs (fun hrc => absurd hrc (by decide)) fun buffer hsize => ?_
  have hloaded := hs.withBuffer buffer
  refine (acts_memorySend_device (source.nvData_ne_nil hsize) hloaded hfile fun part hpart => ?_).mono ?_
  · refine ⟨_, part, List.prefix_rfl, hpart, fun _ => rfl, ?_⟩
    rw [← hmemory]
    exact congrArg (store s.memory · part) hposition
  · rintro rc modem ⟨part, _, rfl, hwhole⟩ hrc
    rw [hwhole hrc]
    exact ⟨hsize, rfl⟩

/-- Whether the device seeks to the place of the NV data or not, it is then where they go. -/
theorem stages_crespoSeek (hs : Safe (CrespoFills source memory) s)
    (hheld : locals.Holds .modemCtl s.toHostProcess) (hfd : 0 ≤ locals.deviceFd)
    (hmemory : s.memory = store memory 0 (source.crespoPart crespoFirmware))
    (hposition : s.position = crespoFirmware.size) (hseeks : crespoModemCtlNvDataOffset ∉ s.failedSeeks) :
    Stages source (CrespoFills source memory) .modemCtl
      (call (.lseek locals.deviceFd crespoModemCtlNvDataOffset)) (fun _ => locals)
      (fun _ modem => modem.memory = store memory 0 (source.crespoPart crespoFirmware) ∧
        modem.position = crespoNvPlace modem ∧ modem.serial = s.serial) s := by
  have hfills : ∀ seeks position, CrespoFills source memory
      { s.toXmm616Modem with failedSeeks := seeks, position := position } :=
    fun _ _ => .of_firmware List.prefix_rfl hmemory
  refine (stages_call hheld (acts_lseek hs (hheld.file_device hfd) (hfills _ _) (hfills _ _))).mono ?_
  rintro rc modem (rfl | rfl)
  · have hfailed : crespoModemCtlNvDataOffset ∈ s.failedSeeks ++ [crespoModemCtlNvDataOffset] :=
      List.mem_append_right _ (List.mem_singleton_self _)
    exact ⟨hmemory, hposition.trans (if_pos hfailed).symm, rfl⟩
  · exact ⟨hmemory, (if_neg hseeks).symm, rfl⟩

/-- What the boot does behind the PSI. -/
theorem stages_crespoMemory (hclient : ¬client.isNone = true)
    (hlength : (source.crespoPart crespoFirmware).length = crespoFirmware.size)
    (hs : Safe (CrespoFills source memory) s) (hheld : locals.Holds .modemCtl s.toHostProcess)
    (hfd : 0 ≤ locals.deviceFd) (hmemory : s.memory = memory) (hposition : s.position = 0)
    (hseeks : s.failedSeeks = []) (hserial : s.serial = psiBytes (source.crespoPart crespoPsi)) :
    Stages source (CrespoFills source memory) .modemCtl
      (do
        let _ ← call (.lseek locals.deviceFd 0)
        require locals
          (xmm616FirmwareSend client locals.deviceFd none (some (source.crespoPart crespoFirmware)))
        let _ ← call (.lseek locals.deviceFd crespoModemCtlNvDataOffset)
        require locals (xmm616NvDataSend client locals.deviceFd none)
        pure locals) id
      (fun _ modem => ipcClientNvDataSize client ≠ 0 ∧ CrespoLoaded source memory modem) s := by
  have hseek : Acts source (CrespoFills source memory) (Prog.perform (.lseek locals.deviceFd 0)) _ s :=
    acts_lseek hs (hheld.file_device hfd) (.of_memory hmemory) (.of_memory hmemory)
  refine (stages_call hheld hseek).bind fun _ s₁ hs₁ hheld₁ hmodem₁ => ?_
  have hstart : s₁.memory = memory ∧ s₁.position = 0 ∧ crespoModemCtlNvDataOffset ∉ s₁.failedSeeks ∧
      s₁.serial = psiBytes (source.crespoPart crespoPsi) := by
    rcases hmodem₁ with hmodem₁ | hmodem₁
    · rw [hmodem₁, hseeks]
      exact ⟨hmemory, hposition, (by decide : crespoModemCtlNvDataOffset ∉ [0]), hserial⟩
    · rw [hmodem₁, hseeks]
      exact ⟨hmemory, rfl, List.not_mem_nil, hserial⟩
  obtain ⟨hmemory₁, hposition₁, hseeks₁, hserial₁⟩ := hstart
  have hfirmware : source.crespoPart crespoFirmware ≠ [] :=
    List.ne_nil_of_length_pos (by rw [hlength]; decide)
  have hsend := acts_crespoFirmware hclient hfd hfirmware hs₁ (hheld₁.file_device hfd) hmemory₁ hposition₁
  refine (stages_require hheld₁ hsend fun _ _ hsent hrc => hsent hrc).bind fun _ s₂ hs₂ hheld₂ hmodem₂ => ?_
  have hmemory₂ : s₂.memory = store memory 0 (source.crespoPart crespoFirmware) := by
    rw [hmodem₂, ← hmemory₁, ← hposition₁]
    rfl
  have hposition₂ : s₂.position = crespoFirmware.size := by
    calc s₂.position
      _ = s₁.position + (source.crespoPart crespoFirmware).length := congrArg Xmm616Modem.position hmodem₂
      _ = crespoFirmware.size := by rw [hposition₁, hlength, Nat.zero_add]
  have hseeks₂ : crespoModemCtlNvDataOffset ∉ s₂.failedSeeks := by
    rw [hmodem₂]
    exact hseeks₁
  refine (stages_crespoSeek hs₂ hheld₂ hfd hmemory₂ hposition₂ hseeks₂).bind
    fun _ s₃ hs₃ hheld₃ hplaced => ?_
  obtain ⟨hmemory₃, hposition₃, hserial₃⟩ := hplaced
  have hsend := acts_crespoNvData hs₃ (hheld₃.file_device hfd) hmemory₃ hposition₃
  refine (stages_require hheld₃ hsend fun _ _ hsent hrc => hsent hrc).bind fun _ s₄ hs₄ hheld₄ hsent => ?_
  obtain ⟨hsize, hmodem₄⟩ := hsent
  refine stages_pure hs₄ hheld₄ ⟨hsize, ?_⟩
  rw [hmodem₄]
  constructor
  · calc s₃.serial
      _ = s₂.serial := hserial₃
      _ = s₁.serial := by rw [hmodem₂]; rfl
      _ = psiBytes (source.crespoPart crespoPsi) := hserial₁
  · rw [← hmemory₃]
    exact congrArg (store s₃.memory · source.nvData) hposition₃

theorem wp_crespoBoot (source : HostSource client) (memory : Memory UInt8) (flags : UInt16) :
    wp (HostWorld.handler source) (Safe (CrespoFills source memory)) (crespoBoot client)
      (EndsIdle fun modem => CrespoAble source ∧ CrespoLoaded source memory modem)
      (.start memory flags) := by
  have hstart : Safe (CrespoFills source memory) (.start memory flags) := safe_start (.of_memory rfl)
  rw [crespoBoot]
  split
  · exact ⟨hstart, idle_start, .inr rfl⟩
  rename_i hclient
  refine wp_xmm616BootEnd .modemCtl ?_
  refine stages_imageOpened (fun _ _ => rfl) hstart idle_start rfl (fun _ => rfl) ?_
  intro image locals s hs hheld hmodem himage hfd hunset _
  obtain ⟨hpsi, hpsiLength⟩ := crespoPsi.of_slice himage (by decide)
  obtain ⟨hfirmware, hfirmwareLength⟩ := crespoFirmware.of_slice himage (by decide)
  have hreset : Acts source (CrespoFills source memory)
      (Prog.perform (.ioctl locals.deviceFd .modemReset)) _ s :=
    acts_ioctl hs (hheld.file_device hfd) (hs.facing hs.modem rfl)
  refine (stages_require (P := (· = s.toXmm616Modem)) hheld hreset ?_).bind
    fun _ s₁ hs₁ hheld₁ hmodem₁ => ?_
  · rintro rc modem (⟨_, hsame⟩ | ⟨_, hsame⟩) _
    · exact hsame
    · exact hsame
  have hmemory₁ : s₁.memory = memory := by rw [hmodem₁, hmodem]; rfl
  rw [hpsi, hfirmware]
  refine stages_psiSent (by rw [hpsiLength]; decide) (by rw [hpsiLength]; decide) hs₁ hheld₁ rfl hunset
    (fun _ => .of_memory hmemory₁) fun locals₂ s₂ hs₂ hheld₂ hmodem₂ hsame _ => ?_
  have hfd₂ : 0 ≤ locals₂.deviceFd := hsame ▸ hfd
  rw [hmodem₁, hmodem] at hmodem₂
  refine (stages_crespoMemory hclient hfirmwareLength hs₂ hheld₂ hfd₂ (congrArg Xmm616Modem.memory hmodem₂)
    (congrArg Xmm616Modem.position hmodem₂) (congrArg Xmm616Modem.failedSeeks hmodem₂)
    (congrArg Xmm616Modem.serial hmodem₂)).mono ?_
  rintro _ modem ⟨hsize, hloaded⟩
  exact ⟨⟨length_of_slice himage, hsize⟩, hloaded⟩

/-- Whatever the calls answer and however short the writes are, the memory of the modem has got no more than a
start of what is sent, in its order, and all of it when the boot succeeds. -/
theorem crespoBoot_loads (source : HostSource client) (memory : Memory UInt8) (flags : UInt16)
    (choices : Stream' HostChoice) :
    BootsSafely source (crespoBoot client) (CrespoFills source memory) (CrespoLoaded source memory)
      (.start memory flags) choices :=
  bootsSafely_of_wp (wp_mono (wp_crespoBoot source memory flags) fun _ _ hend => hend.mono fun _ => And.right)
    choices

/-- Switching the modem leaves what is in it alone. -/
theorem crespoPower_keeps (source : HostSource client) (memory : Memory UInt8) (flags : UInt16)
    {request : HostRequest} (hrequest : request = .modemStart ∨ request = .modemOff)
    (choices : Stream' HostChoice) :
    BootsSafely source (crespoPower request) (· = (HostWorld.start memory flags).toXmm616Modem)
      (fun _ => True) (.start memory flags) choices := by
  have hstart : Safe (· = (HostWorld.start memory flags).toXmm616Modem) (.start memory flags) :=
    safe_start rfl
  have hdone : Safe (· = (HostWorld.start memory flags).toXmm616Modem)
      ((HostWorld.start memory flags).facing
        (request.effect (HostWorld.start memory flags).toXmm616Modem)) := by
    rcases hrequest with rfl | rfl
    · exact hstart
    · exact hstart
  refine bootsSafely_of_wp (wp_mono (acts_crespoPower rfl hstart hdone) fun rc s hend => ?_) choices
  obtain ⟨hprocess, hrc⟩ := hend
  refine ⟨hprocess ▸ idle_start, ?_⟩
  rcases hrc with rfl | rfl
  · exact .inl ⟨rfl, trivial⟩
  · exact .inr rfl

theorem crespoPowerOnOff_keep (source : HostSource client) (memory : Memory UInt8) (flags : UInt16)
    (choices : Stream' HostChoice) :
    BootsSafely source crespoPowerOn (· = (HostWorld.start memory flags).toXmm616Modem)
      (fun _ => True) (.start memory flags) choices ∧
    BootsSafely source crespoPowerOff (· = (HostWorld.start memory flags).toXmm616Modem)
      (fun _ => True) (.start memory flags) choices :=
  ⟨crespoPower_keeps source memory flags (.inl rfl) choices,
    crespoPower_keeps source memory flags (.inr rfl) choices⟩

end Crespo

end SamsungIpc
