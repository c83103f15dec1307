import SamsungIpc.Xmm616Loading

/-! What the boot of the aries leaves in the modem: its memory is filled through the mapping after it has said
that it may be, and it gets the memory back, and the word to start, when it is complete. -/

namespace SamsungIpc

open BlockMemory Effect Xmm616Booting

variable {client : Option IpcClient} {source : HostSource client} {J : Xmm616Modem → Prop} {s : HostWorld}
  {locals : Xmm616Locals} {memory : Memory UInt8}

/-! ### What the modem says -/

/-- The modem has said these words. -/
def Xmm616Modem.saying (modem : Xmm616Modem) (words : List Nat) : Xmm616Modem :=
  { modem with heard := modem.heard ++ words }

theorem saying_saying (modem : Xmm616Modem) (first second : List Nat) :
    (modem.saying first).saying second = modem.saying (first ++ second) := by
  rw [Xmm616Modem.saying, Xmm616Modem.saying, Xmm616Modem.saying, List.append_assoc]

/-- What is mapped can be filled behind the word of the modem that it may be. -/
theorem Xmm616Locals.Holds.grants_saying {modem : Xmm616Modem} {words : List Nat} {length : Nat}
    (hheld : locals.Holds .onedram s.toHostProcess) (hmapping : locals.onedramAddress = .mapped)
    (hmodem : s.toXmm616Modem = modem.saying words) (hreleased : modem.released = false)
    (hlast : words.getLast? = some ariesOnedramInit) (hlength : length ≤ ariesOnedramMemorySize) :
    s.Grants length := by
  refine hheld.grants hmapping ?_ ?_ hlength
  · rw [hmodem]
    exact hreleased
  · rw [hmodem]
    exact List.mem_append_right _ (List.mem_of_getLast? hlast)

/-- The wait ends behind the word that is waited for. -/
theorem stages_onedramWait {word i : Nat} (hs : Safe J s) (hheld : locals.Holds .onedram s.toHostProcess)
    (hfd : 0 ≤ locals.deviceFd) (hsaid : ∀ words, J (s.toXmm616Modem.saying words)) :
    Stages source J .onedram (onedramWait locals word i) (fun _ => locals)
      (fun _ modem => ∃ words, words.getLast? = some word ∧ modem = s.toXmm616Modem.saying words) s := by
  induction hleft : 51 - i using Nat.strong_induction_on generalizing i s with
  | _ left ih =>
      rw [onedramWait]
      refine (stages_call hheld (acts_select hs (hheld.file_device hfd))).bind
        fun rc s₁ hs₁ hheld₁ hmodem₁ => ?_
      split
      · exact stages_error hs₁ hheld₁
      have hsaid₁ : ∀ said, J (s₁.toXmm616Modem.saying [said]) := by
        rw [hmodem₁]
        exact fun said => hsaid [said]
      refine (stages_call hheld₁ (acts_read hs₁ (hheld₁.file_device hfd) fun _ => hsaid₁)).bind
        fun answer s₂ hs₂ hheld₂ hanswer => ?_
      cases answer with
      | none => exact stages_error hs₂ hheld₂
      | some bytes =>
          have hmodem₂ : s₂.toXmm616Modem = s.toXmm616Modem.saying [LittleEndian.decode bytes] := by
            rcases hanswer with ⟨hother, _⟩ | ⟨_, read, hread, hmodem₂⟩
            · exact absurd hother (by simp)
            · rw [hmodem₂, Option.some.inj hread, ← hmodem₁]
              rfl
          dsimp only
          split
          · exact stages_error hs₂ hheld₂
          split
          · exact stages_error hs₂ hheld₂
          rename_i hpasses
          split
          · have hsaid₂ : ∀ words, J (s₂.toXmm616Modem.saying words) := by
              intro words
              rw [hmodem₂, saying_saying]
              exact hsaid _
            refine (ih (51 - (i + 1)) (by omega) hs₂ hheld₂ hsaid₂ rfl).mono ?_
            rintro _ modem ⟨words, hlast, rfl⟩
            refine ⟨LittleEndian.decode bytes :: words, ?_, ?_⟩
            · rw [List.getLast?_cons, hlast]
              rfl
            · rw [hmodem₂, saying_saying]
              rfl
          · rename_i hword
            have hlast : [LittleEndian.decode bytes].getLast? = some word := congrArg some (not_not.mp hword)
            exact stages_pure hs₂ hheld₂ ⟨_, hlast, hmodem₂⟩

/-! ### What the boot gives the modem -/

def HostSource.ariesPart (source : HostSource client) (part : ImageSection) : Bytes :=
  part.of (source.content ariesModemImageDevice)

/-- The memory of the modem with the firmware in it. -/
def HostSource.ariesFirmwareIn (source : HostSource client) (memory : Memory UInt8) : Memory UInt8 :=
  store memory 0 (source.ariesPart ariesFirmware)

/-- The memory of the modem with all in it that it needs. -/
def HostSource.ariesFilled (source : HostSource client) (memory : Memory UInt8) : Memory UInt8 :=
  store (source.ariesFirmwareIn memory) ariesOnedramNvDataOffset source.nvData

/-- The modem is switched on and off again. -/
def ariesSwitched : List (Path × Bytes) :=
  [(ariesModemctlControlSysfs, cString "on\n"), (ariesModemctlControlSysfs, cString "off\n")]

/-- How far a boot has come: the modem gets its memory back when it is complete, and is not told to start
before that. -/
structure AriesProgress (source : HostSource client) (memory : Memory UInt8) (modem : Xmm616Modem) :
    Prop where
  fills : modem.memory = memory ∨ modem.memory = source.ariesFirmwareIn memory ∨
    modem.memory = source.ariesFilled memory
  complete : modem.released = true → modem.memory = source.ariesFilled memory
  started : modem.told ≠ [] → modem.released = true
  switched : modem.attributes.Sublist ariesSwitched

/-- What a boot leaves in the modem if it succeeds. -/
structure AriesLoaded (source : HostSource client) (memory : Memory UInt8) (flags : UInt16)
    (modem : Xmm616Modem) : Prop where
  psi_sent : modem.serial = psiBytes (source.ariesPart ariesPsi)
  filled : modem.memory = source.ariesFilled memory
  granted : ariesOnedramInit ∈ modem.heard
  handed_over : modem.released = true
  told_eq : modem.told = LittleEndian.encode 4 ariesOnedramMagic
  answered : modem.heard.getLast? = some ariesOnedramDeinit
  iface_down : modem.flags = flags &&& ~~~iffUp

/-- There is enough of the image, and there are NV data to be copied. -/
def AriesAble (source : HostSource client) : Prop :=
  ariesModemImageSize ≤ (source.content ariesModemImageDevice).length ∧ ipcClientNvDataSize client ≠ 0

/-- Before the modem gets its memory back. -/
theorem AriesProgress.of_kept {modem : Xmm616Modem} (hreleased : modem.released = false)
    (htold : modem.told = []) (hswitched : modem.attributes.Sublist ariesSwitched)
    (hfills : modem.memory = memory ∨ modem.memory = source.ariesFirmwareIn memory ∨
      modem.memory = source.ariesFilled memory) : AriesProgress source memory modem where
  fills := hfills
  complete := fun h => absurd (hreleased.symm.trans h) Bool.false_ne_true
  started := fun h => absurd htold h
  switched := hswitched

/-! ### Behind the PSI -/

theorem stages_munmap {device : HostFile} (hs : Safe J s) (hheld : locals.Holds device s.toHostProcess)
    (hmapping : locals.onedramAddress = .mapped) :
    Stages source J device (call (.munmap locals.onedramAddress ariesOnedramMemorySize))
      (fun _ => { locals with onedramAddress := .null }) (fun _ modem => modem = s.toXmm616Modem) s :=
  have hset : locals.onedramAddress ≠ .null := by
    rw [hmapping]
    nofun
  wp_bind.mpr (wp_mono (wp_keeping (wp_munmap source hs hheld hset)) fun _ _ hend => hend)

/-- Telling the modem something. -/
theorem acts_tell {fd : Int} {bytes : Bytes} (hs : Safe J s) (hfile : s.files fd = some .onedram)
    (htold : ∀ part, J { s.toXmm616Modem with told := part }) :
    Acts source J (Prog.perform (.write fd bytes))
      (fun rc modem => modem = { s.toXmm616Modem with told := s.told ++ bytes.take rc.toNat }) s := by
  refine acts_call hs fun choice => ?_
  rw [show HostWorld.handler source _ choice (.write fd bytes) s = s.write .onedram bytes choice from
    onFile_open hfile]
  exact ⟨_, rfl, hs.facing (htold _) rfl, rfl⟩

/-- The modem gets its complete memory back, is told to start, and says that it is done. -/
theorem stages_handOver (hs : Safe (AriesProgress source memory) s)
    (hheld : locals.Holds .onedram s.toHostProcess) (hfd : 0 ≤ locals.deviceFd)
    (hunmapped : locals.onedramAddress = .null) (hfilled : s.memory = source.ariesFilled memory)
    (htold : s.told = []) :
    Stages source (AriesProgress source memory) .onedram (handOver locals) (fun _ => locals)
      (fun _ modem => ∃ words, words.getLast? = some ariesOnedramDeinit ∧
        modem = { s.toXmm616Modem with
          heard := s.heard ++ words
          released := true
          told := LittleEndian.encode 4 ariesOnedramMagic }) s := by
  have hprogress : ∀ heard told, AriesProgress source memory { s.toXmm616Modem with
      heard := heard, released := true, told := told } := fun _ _ =>
    ⟨.inr (.inr hfilled), fun _ => hfilled, fun _ => rfl, hs.modem.switched⟩
  have hmappings : s.mappings = [] := by rw [hheld.mappings_eq, hunmapped]; rfl
  have hreleased : Safe (AriesProgress source memory)
      (s.facing (HostRequest.onedramRelSem.effect s.toXmm616Modem)) :=
    ⟨hs.clean, fun _ => hmappings, hprogress _ _⟩
  refine (stages_require (P := (· = { s.toXmm616Modem with released := true })) hheld
    (acts_ioctl hs (hheld.file_device hfd) hreleased) ?_).bind fun _ s₁ hs₁ hheld₁ hmodem₁ => ?_
  · rintro rc modem (⟨hfailed, _⟩ | ⟨_, hmodem⟩) hrc
    · exact absurd hfailed (not_lt.mpr hrc)
    · exact hmodem
  have hprogress₁ : ∀ part, AriesProgress source memory { s₁.toXmm616Modem with told := part } := by
    rw [hmodem₁]
    exact fun part => hprogress _ part
  refine (stages_call hheld₁ (acts_tell hs₁ (hheld₁.file_device hfd) hprogress₁)).bind
    fun rc s₂ hs₂ hheld₂ hmodem₂ => ?_
  split
  · exact stages_error hs₂ hheld₂
  rename_i hwhole
  have htold₂ : s₂.toXmm616Modem = { s.toXmm616Modem with
      released := true
      told := LittleEndian.encode 4 ariesOnedramMagic } := by
    have htake : (LittleEndian.encode 4 ariesOnedramMagic).take rc.toNat =
        LittleEndian.encode 4 ariesOnedramMagic := by
      apply List.take_of_length_le
      rw [LittleEndian.length_encode]
      omega
    rw [hmodem₂, hmodem₁, htake, htold]
    rfl
  have hsaid : ∀ words, AriesProgress source memory (s₂.toXmm616Modem.saying words) := by
    rw [htold₂]
    exact fun words => hprogress _ _
  refine (stages_onedramWait hs₂ hheld₂ hfd hsaid).mono ?_
  rintro _ modem ⟨words, hlast, rfl⟩
  refine ⟨words, hlast, ?_⟩
  rw [htold₂]
  rfl

/-- What the boot does behind the PSI. -/
theorem stages_ariesMemory (hclient : ¬client.isNone = true)
    (hfits : ariesOnedramNvDataOffset + ipcClientNvDataSize client ≤ ariesOnedramMemorySize)
    (hlength : (source.ariesPart ariesFirmware).length = ariesFirmware.size)
    (hs : Safe (AriesProgress source memory) s) (hheld : locals.Holds .onedram s.toHostProcess)
    (hfd : 0 ≤ locals.deviceFd) (hunmapped : locals.onedramAddress = .null) (hmemory : s.memory = memory)
    (hreleased : s.released = false) (htold : s.told = []) :
    Stages source (AriesProgress source memory) .onedram
      (do
        onedramWait locals ariesOnedramInit 0
        let locals ← mapOnedram locals
        require locals (xmm616FirmwareSend client (-1) (some 0) (some (source.ariesPart ariesFirmware)))
        require locals (xmm616NvDataSend client (-1) (some ariesOnedramNvDataOffset))
        call (.munmap locals.onedramAddress ariesOnedramMemorySize)
        let locals := { locals with onedramAddress := .null }
        handOver locals
        pure locals) id
      (fun _ modem => ipcClientNvDataSize client ≠ 0 ∧
        ∃ heard, ariesOnedramInit ∈ heard ∧ heard.getLast? = some ariesOnedramDeinit ∧
          modem = { s.toXmm616Modem with
          memory := source.ariesFilled memory
          heard := heard
          released := true
          told := LittleEndian.encode 4 ariesOnedramMagic }) s := by
  have hprogress : ∀ heard filled, filled = memory ∨ filled = source.ariesFirmwareIn memory ∨
      filled = source.ariesFilled memory →
      AriesProgress source memory { s.toXmm616Modem with heard := heard, memory := filled } :=
    fun _ _ hfills => .of_kept hreleased htold hs.modem.switched hfills
  have hsaid : ∀ words, AriesProgress source memory (s.toXmm616Modem.saying words) :=
    fun _ => hprogress _ _ (.inl hmemory)
  refine (stages_onedramWait hs hheld hfd hsaid).bind fun _ s₁ hs₁ hheld₁ hgranted => ?_
  obtain ⟨words, hlast, hmodem₁⟩ := hgranted
  have hreleased₁ : s₁.released = false := (congrArg Xmm616Modem.released hmodem₁).trans hreleased
  have hinit : ariesOnedramInit ∈ s.heard ++ words :=
    List.mem_append_right _ (List.mem_of_getLast? hlast)
  refine (stages_mapOnedram hs₁ hreleased₁ hheld₁ hfd hunmapped).bind
    fun locals₂ s₂ hs₂ (hheld₂ : locals₂.Holds .onedram s₂.toHostProcess) hmapped => ?_
  obtain ⟨hmodem₂, hlocals₂⟩ := hmapped
  have hmapping : locals₂.onedramAddress = .mapped := congrArg Xmm616Locals.onedramAddress hlocals₂
  have hgrants₂ : ∀ length ≤ ariesOnedramMemorySize, s₂.Grants length := fun _ hlength =>
    hheld₂.grants_saying hmapping (hmodem₂.trans hmodem₁) hreleased hlast hlength
  have hfirmware : source.ariesPart ariesFirmware ≠ [] :=
    List.ne_nil_of_length_pos (by rw [hlength]; decide)
  have hbound : 0 + (source.ariesPart ariesFirmware).length ≤ ariesOnedramMemorySize := by
    rw [hlength]
    decide
  have hstored₂ : AriesProgress source memory { s₂.toXmm616Modem with
      memory := store s₂.memory 0 (source.ariesPart ariesFirmware) } := by
    rw [hmodem₂, hmodem₁]
    exact hprogress _ _ (.inr (.inl (congrArg (store · 0 _) hmemory)))
  rw [xmm616FirmwareSend_eq hclient hfirmware (.inr rfl)]
  refine (stages_require (P := (· = { s₂.toXmm616Modem with
      memory := store s₂.memory 0 (source.ariesPart ariesFirmware) })) hheld₂
    (acts_memorySend_mapped hs₂ (hgrants₂ _ hbound) hstored₂) fun _ _ hmodem _ => hmodem).bind
      fun _ s₃ hs₃ hheld₃ hmodem₃ => ?_
  have hfirmwareIn : s₃.toXmm616Modem = { s.toXmm616Modem with
      heard := s.heard ++ words
      memory := source.ariesFirmwareIn memory } := by
    rw [hmodem₃, hmodem₂, hmodem₁, HostSource.ariesFirmwareIn, ← hmemory]
    rfl
  have hgrants₃ : s₃.Grants (ariesOnedramNvDataOffset + source.nvData.length) := by
    refine hheld₃.grants hmapping ?_ ?_ ?_
    · rw [hfirmwareIn]
      exact hreleased
    · rw [hfirmwareIn]
      exact hinit
    · rw [source.nvData_length]
      exact hfits
  have hstored₃ : AriesProgress source memory { s₃.toXmm616Modem with
      memory := store s₃.memory ariesOnedramNvDataOffset source.nvData } := by
    rw [hfirmwareIn]
    exact hprogress _ _ (.inr (.inr rfl))
  have hsend : Acts source (AriesProgress source memory)
      (xmm616NvDataSend client (-1) (some ariesOnedramNvDataOffset)) (fun rc modem => 0 ≤ rc →
        ipcClientNvDataSize client ≠ 0 ∧ modem = { s₃.toXmm616Modem with
          memory := store s₃.memory ariesOnedramNvDataOffset source.nvData }) s₃ := by
    refine acts_xmm616NvDataSend hs₃ (fun hrc => absurd hrc (by decide)) fun buffer hsize => ?_
    exact (acts_memorySend_mapped (hs₃.withBuffer buffer) hgrants₃ hstored₃).mono
      fun _ _ hmodem _ => ⟨hsize, hmodem⟩
  refine (stages_require hheld₃ hsend fun _ _ hsent hrc => hsent hrc).bind fun _ s₄ hs₄ hheld₄ hsent => ?_
  obtain ⟨hsize, hmodem₄⟩ := hsent
  refine (stages_munmap hs₄ hheld₄ hmapping).bind fun _ s₅ hs₅ hheld₅ hmodem₅ => ?_
  have hfilled : s₅.toXmm616Modem = { s.toXmm616Modem with
      heard := s.heard ++ words
      memory := source.ariesFilled memory } := by
    rw [hmodem₅, hmodem₄, hfirmwareIn]
    rfl
  have hfd₂ : 0 ≤ locals₂.deviceFd := hlocals₂ ▸ hfd
  have htold₅ : s₅.told = [] := (congrArg Xmm616Modem.told hfilled).trans htold
  refine (stages_handOver hs₅ hheld₅ hfd₂ rfl (congrArg Xmm616Modem.memory hfilled) htold₅).bind
    fun _ s₆ hs₆ hheld₆ hdone => ?_
  obtain ⟨answer, hanswer, hmodem₆⟩ := hdone
  refine stages_pure hs₆ hheld₆ ⟨hsize, s₅.heard ++ answer, ?_, ?_, ?_⟩
  · rw [hfilled]
    exact List.mem_append_left _ hinit
  · rw [List.getLast?_append, hanswer]
    rfl
  · rw [hmodem₆, hfilled]

/-! ### The boot -/

/-- The modem before it says anything. -/
def ariesBefore (memory : Memory UInt8) (flags : UInt16) (attributes : List (Path × Bytes)) (serial : Bytes) :
    Xmm616Modem :=
  { (HostWorld.start memory flags).toXmm616Modem with attributes := attributes, serial := serial }

theorem AriesProgress.before {attributes : List (Path × Bytes)} (flags : UInt16) (serial : Bytes)
    (hswitched : attributes.Sublist ariesSwitched) :
    AriesProgress source memory (ariesBefore memory flags attributes serial) :=
  .of_kept rfl rfl hswitched (.inl rfl)

/-- Switching the modem asks for no more than that. -/
theorem stages_ariesPower {flags : UInt16} {wanted : Int} {buffer : Bytes} {attributes : List (Path × Bytes)}
    (hs : Safe (AriesProgress source memory) s) (hheld : locals.Holds .onedram s.toHostProcess)
    (hmodem : s.toXmm616Modem = ariesBefore memory flags attributes [])
    (hswitched : (attributes ++ [(ariesModemctlControlSysfs, buffer)]).Sublist ariesSwitched) :
    Stages source (AriesProgress source memory) .onedram (require locals (ariesPower wanted buffer))
      (fun _ => locals)
      (fun _ modem => ∃ asked, asked.Sublist (attributes ++ [(ariesModemctlControlSysfs, buffer)]) ∧
        modem = ariesBefore memory flags asked []) s := by
  have hasked : AriesProgress source memory { s.toXmm616Modem with
      attributes := s.attributes ++ [(ariesModemctlControlSysfs, buffer)] } := by
    rw [hmodem]
    exact .before flags [] hswitched
  refine stages_require hheld (acts_ariesPower hs hasked) ?_
  rintro rc modem (rfl | rfl) _
  · exact ⟨_, List.sublist_append_left _ _, hmodem⟩
  · rw [hmodem]
    exact ⟨_, List.Sublist.refl _, rfl⟩

theorem wp_ariesBoot (source : HostSource client) (memory : Memory UInt8) (flags : UInt16)
    (hfits : ariesOnedramNvDataOffset + ipcClientNvDataSize client ≤ ariesOnedramMemorySize) :
    wp (HostWorld.handler source) (Safe (AriesProgress source memory))
      (ariesBoot client (some ariesPowerHandlers))
      (EndsIdle fun modem => AriesAble source ∧ AriesLoaded source memory flags modem)
      (.start memory flags) := by
  have hstart : Safe (AriesProgress source memory) (.start memory flags) :=
    safe_start (.before flags [] (List.nil_sublist _))
  change wp _ _ (ite _ _ _) _ _
  split
  · exact ⟨hstart, idle_start, .inr rfl⟩
  rename_i hclient
  refine wp_xmm616BootEnd .onedram ?_
  refine stages_imageOpened (fun _ _ => rfl) hstart idle_start rfl (fun h => absurd h (by decide)) ?_
  intro image locals s hs hheld hmodem himage hfd hunset hunmapped
  obtain ⟨hpsi, hpsiLength⟩ := ariesPsi.of_slice himage (by decide)
  obtain ⟨hfirmware, hfirmwareLength⟩ := ariesFirmware.of_slice himage (by decide)
  have hmodem : s.toXmm616Modem = ariesBefore memory flags [] [] := hmodem
  have hchanged : AriesProgress source memory { s.toXmm616Modem with flags := s.flags &&& ~~~iffUp } := by
    rw [hmodem]
    exact .before (flags &&& ~~~iffUp) [] (List.nil_sublist _)
  refine (stages_require (P := (· = ariesBefore memory (flags &&& ~~~iffUp) [] [])) hheld
    (acts_networkIface ariesModemIface (fun flags => flags &&& ~~~iffUp) hs hchanged) ?_).bind
      fun _ s₁ hs₁ hheld₁ hmodem₁ => ?_
  · rintro rc modem (⟨hfailed, _⟩ | ⟨_, rfl⟩) hrc
    · exact absurd hfailed (not_lt.mpr hrc)
    · rw [hmodem]
      rfl
  have hon : [(ariesModemctlControlSysfs, cString "on\n")].Sublist ariesSwitched :=
    List.sublist_append_left [_] [_]
  refine (stages_ariesPower hs₁ hheld₁ hmodem₁ hon).bind fun _ s₂ hs₂ hheld₂ hswitched => ?_
  obtain ⟨attributes, hattributes, hmodem₂⟩ := hswitched
  have hoff := hattributes.append (List.Sublist.refl [(ariesModemctlControlSysfs, cString "off\n")])
  refine (stages_ariesPower hs₂ hheld₂ hmodem₂ hoff).bind fun _ s₃ hs₃ hheld₃ hswitched => ?_
  obtain ⟨asked, hasked, hmodem₃⟩ := hswitched
  have hprogress : ∀ serial, AriesProgress source memory { s₃.toXmm616Modem with serial := serial } := by
    rw [hmodem₃]
    exact fun serial => .before _ serial (hasked.trans hoff)
  rw [hpsi, hfirmware]
  refine stages_psiSent (by rw [hpsiLength]; decide) (by rw [hpsiLength]; decide) hs₃ hheld₃ rfl hunset
    hprogress fun locals₄ s₄ hs₄ hheld₄ hmodem₄ hsame hsameMapping => ?_
  have hfd₄ : 0 ≤ locals₄.deviceFd := hsame ▸ hfd
  rw [hmodem₃] at hmodem₄
  refine (stages_ariesMemory hclient hfits hfirmwareLength hs₄ hheld₄ hfd₄ (hsameMapping.trans hunmapped)
    (congrArg Xmm616Modem.memory hmodem₄) (congrArg Xmm616Modem.released hmodem₄)
    (congrArg Xmm616Modem.told hmodem₄)).mono ?_
  rintro locals₅ modem ⟨hsize, heard, hinit, hdeinit, rfl⟩
  rw [hmodem₄]
  exact ⟨⟨length_of_slice himage, hsize⟩, rfl, rfl, hinit, rfl, rfl, hdeinit, rfl⟩

/-- Whatever the calls answer and the modem says, its memory is filled while it is mapped and the modem has
said that it may be. It does not get it back before it is complete, and is not told to start before that. -/
theorem ariesBoot_loads (source : HostSource client) (memory : Memory UInt8) (flags : UInt16)
    (hfits : ariesOnedramNvDataOffset + ipcClientNvDataSize client ≤ ariesOnedramMemorySize)
    (choices : Stream' HostChoice) :
    BootsSafely source (ariesBoot client (some ariesPowerHandlers)) (AriesProgress source memory)
      (AriesLoaded source memory flags) (.start memory flags) choices :=
  bootsSafely_of_wp (wp_mono (wp_ariesBoot source memory flags hfits) fun _ _ hend =>
    hend.mono fun _ => And.right) choices

end SamsungIpc
