import SamsungIpc.BootExact

/-! What the boot of the generic device does: it looks for the image's partition by its name, and drives the
modem by sysfs. -/

namespace SamsungIpc

open Effect Booting ModemBoot

section Generic

variable {world : BootWorld} {locals : BootLocals} {nvData : Bytes}

theorem opensOne_openPartition (paths : List Path) : OpensOne world paths (openPartition paths) := by
  induction paths with
  | nil => exact fun result events hrun => .inl ⟨hrun.1.symm, hrun.2⟩
  | cons path paths ih =>
      intro result events hrun
      obtain ⟨_, first, second, hfirst, hrest, rfl⟩ := runs_bind.mp hrun
      obtain ⟨answer, rfl, hanswer, rfl⟩ := runs_lift.mp hfirst
      cases answer with
      | ok fd =>
          obtain rfl := hanswer fd rfl
          exact .inr ⟨path, List.mem_cons_self, hrest.1.symm, congrArg _ hrest.2⟩
      | error errno =>
          change Runs world.environment (if errno.val = ENOENT then openPartition paths
            else pure (-1)).run result second at hrest
          split at hrest
          · rcases ih result second hrest with hfailed | ⟨other, hother, hopened⟩
            · exact .inl hfailed
            · exact .inr ⟨other, List.mem_cons_of_mem _ hother, hopened⟩
          · exact .inl ⟨hrest.1.symm, hrest.2⟩

theorem opensOne_openTries (path : Path) (tries : Nat) : OpensOne world [path] (openTries path tries) := by
  induction tries with
  | zero => exact fun result events hrun => .inl ⟨hrun.1.symm, hrun.2⟩
  | succ tries ih =>
      intro result events hrun
      obtain ⟨fd, first, second, hfirst, hrest, rfl⟩ := runs_bind.mp hrun
      rcases runs_openDevice.mp hfirst with ⟨rfl, rfl⟩ | ⟨rfl, rfl⟩
      · exact ih result second hrest
      · change Runs world.environment (if (world.fdOf path : Int) ≥ 0 then pure (world.fdOf path : Int)
          else openTries path tries).run result second at hrest
        rw [if_pos (Int.natCast_nonneg _)] at hrest
        obtain ⟨rfl, rfl⟩ := hrest
        exact .inr ⟨path, List.mem_singleton_self path, rfl, rfl⟩

theorem runs_openTries (path : Path) (tries : Nat) :
    Runs world.environment (openTries path (tries + 1)).run (.ok (world.fdOf path : Int))
      [.opened path (world.fdOf path)] := by
  refine runs_except_bind_ok.mpr ⟨_, _, [], runs_openDevice.mpr (.inr ⟨rfl, rfl⟩), ?_, rfl⟩
  rw [if_pos (Int.natCast_nonneg _)]
  exact ⟨rfl, rfl⟩

/-- Where the partition with the image may be. -/
def radioPartitions : List Path := partitionsDirnames.map (· ++ cString "RADIO")

theorem performs_openGenericImage :
    Performs world openGenericImage (openedOne world radioPartitions) fun result =>
      ∃ fd, result = (world.image, world.mappedLocals fd) := by
  rw [openGenericImage, ← mul_one (openedOne _ _)]
  refine performs_opening (opensOne_openPartition radioPartitions) ?_ (fun path _ => ?_) ?_
  · have hcall : Runs world.environment (Booting.call (.openFile (radioPartitions.head (by decide)))).run
        (.ok (.ok (world.fdOf (radioPartitions.head (by decide))))) _ :=
      runs_bootCall.mpr ⟨fun _ hok => (Except.ok.inj hok).symm, rfl⟩
    exact ⟨_, List.head_mem _, runs_except_bind_ok.mpr ⟨_, _, [], hcall, ⟨rfl, rfl⟩, rfl⟩⟩
  · rw [if_neg (by omega)]
    exact (performs_mapImage _ _).weaken fun result hresult => ⟨_, hresult⟩
  · rw [if_pos rfl]
    exact .throw _ _

theorem performs_openGenericBoot (locals : BootLocals) :
    Performs world (openGenericBoot locals)
      (once [.opened xmm626KernelLinuxBoot0Device (world.fdOf xmm626KernelLinuxBoot0Device)])
      fun opened => opened = { locals with modemBootFd := world.fdOf xmm626KernelLinuxBoot0Device } := by
  rw [openGenericBoot, ← openedOne_singleton, ← mul_one (openedOne _ _)]
  refine performs_opening (opensOne_openTries _ _) ⟨_, List.mem_singleton_self _, runs_openTries _ _⟩
    (fun path hpath => ?_) ?_
  · rw [List.mem_singleton.mp hpath, if_neg (openedFd_nonneg world _)]
    exact .pure rfl
  · rw [if_pos (by decide)]
    exact .throw _ _

def modemPowerWord (power : Bool) : List ModemEvent :=
  [.switched xmm626KernelLinuxPowerPath (boolInt power)]

theorem notes_xmm626KernelLinuxModemPower (power : Bool) :
    Notes world.environment (xmm626KernelLinuxModemPower power) (once (modemPowerWord power)) :=
  (notes_sysfsValueWrite _ _).bind_quiet fun _ => .ite (.pure _) (.pure _)

theorem runs_xmm626KernelLinuxModemPower (power : Bool) :
    Runs world.environment (xmm626KernelLinuxModemPower power) 0 (modemPowerWord power) :=
  runs_bind.mpr ⟨0, _, [], runs_sysfsValueWrite _ _, ⟨rfl, rfl⟩, rfl⟩

def slaveWakeWord : List ModemEvent :=
  [.switched xmm626KernelLinuxSlavewakeSysfs 0, .switched xmm626KernelLinuxSlavewakeSysfs 1]

def hciOffWord : List ModemEvent :=
  [.switched xmm626KernelLinuxEhciPowerSysfs 0, .switched xmm626KernelLinuxLinkActivePath 0]

/-- The slave is woken, or not. -/
def hciOnWords : Language ModemEvent :=
  once [.switched xmm626KernelLinuxPdaActiveSysfs 1] * ((1 + once slaveWakeWord) *
    once [.switched xmm626KernelLinuxEhciPowerSysfs 1, .switched xmm626KernelLinuxLinkActivePath 1])

theorem runs_sysfsValueRead (path : Path) (value : Int) :
    Runs world.environment (Prog.perform (.sysfsValueRead path)) value [] :=
  runs_perform.mpr ⟨trivial, rfl⟩

theorem notes_wakeSlave (ohciRc : Int) :
    Notes world.environment (wakeSlave ohciRc) (1 + once slaveWakeWord) := by
  have hread : Notes world.environment (Prog.perform (.sysfsValueRead xmm626KernelLinuxHostwakePath)) 1 :=
    fun _ _ hrun => (runs_perform.mp hrun).2
  have hawake : 1 ≤ 1 + once slaveWakeWord := le_self_add
  have hasleep : once slaveWakeWord ≤ 1 + once slaveWakeWord := le_add_self
  rw [wakeSlave, ← one_mul (1 + once slaveWakeWord)]
  refine hread.bind fun hostwake => ?_
  split
  · refine Notes.mono ?_ hasleep
    rw [slaveWakeWord, ← List.singleton_append, ← once_mul_once]
    exact (notes_sysfsValueWrite _ _).bind fun low =>
      (notes_sysfsValueWrite _ _).bind_quiet fun high => .pure _
  · exact (Notes.pure _).mono hawake

theorem performs_xmm626KernelLinuxModemHciPower_on :
    Performs world (require locals (xmm626KernelLinuxModemHciPower true)) hciOnWords fun _ => True := by
  have hpower : xmm626KernelLinuxModemHciPower true = (do
      let pdaRc ← Prog.perform (.sysfsValueWrite xmm626KernelLinuxPdaActiveSysfs 1)
      let ohciRc ← wakeSlave pdaRc
      let ehciRc ← Prog.perform (.sysfsValueWrite xmm626KernelLinuxEhciPowerSysfs 1)
      let linkRc ← Prog.perform (.sysfsValueWrite xmm626KernelLinuxLinkActivePath 1)
      if ehciRc < 0 ∧ orRc ohciRc linkRc < 0 then pure (-1) else pure 0) := rfl
  rw [hpower]
  refine performs_require_notes ?_ ?_
  · refine (notes_sysfsValueWrite _ _).bind fun pdaRc => (notes_wakeSlave pdaRc).bind fun ohciRc => ?_
    rw [← List.singleton_append, ← once_mul_once]
    exact (notes_sysfsValueWrite _ _).bind fun ehciRc =>
      (notes_sysfsValueWrite _ _).bind_quiet fun linkRc => .ite (.pure _) (.pure _)
  · refine ⟨_, runs_bind.mpr ⟨0, _, _, runs_sysfsValueWrite _ _, runs_bind.mpr ⟨0, [], _, ?_,
      runs_bind.mpr ⟨0, _, _, runs_sysfsValueWrite _ _,
        runs_bind.mpr ⟨0, _, [], runs_sysfsValueWrite _ _, ⟨rfl, rfl⟩, rfl⟩, rfl⟩, rfl⟩, rfl⟩⟩
    exact runs_bind.mpr ⟨0, [], [], runs_sysfsValueRead _ 0, ⟨rfl, rfl⟩, rfl⟩

theorem performs_xmm626KernelLinuxModemHciPower_off :
    Performs world (require locals (xmm626KernelLinuxModemHciPower false)) (once hciOffWord)
      fun _ => True := by
  have hpower : xmm626KernelLinuxModemHciPower false = (do
      let ehciRc ← Prog.perform (.sysfsValueWrite xmm626KernelLinuxEhciPowerSysfs 0)
      let ohciRc ← Prog.perform (.sysfsValueWrite xmm626KernelLinuxLinkActivePath 0)
      if ehciRc < 0 ∧ ohciRc < 0 then pure (-1) else pure 0) := rfl
  rw [hpower]
  refine performs_require_notes ?_ ?_
  · rw [hciOffWord, ← List.singleton_append, ← once_mul_once]
    exact (notes_sysfsValueWrite _ _).bind fun ehciRc =>
      (notes_sysfsValueWrite _ _).bind_quiet fun ohciRc => .ite (.pure _) (.pure _)
  · exact ⟨_, runs_bind.mpr ⟨0, _, _, runs_sysfsValueWrite _ _,
      runs_bind.mpr ⟨0, _, [], runs_sysfsValueWrite _ _, ⟨rfl, rfl⟩, rfl⟩, rfl⟩⟩

theorem performs_genericRestart :
    Performs world (genericRestart locals)
      (once (modemPowerWord false ++ hciOffWord ++ modemPowerWord true) * hciOnWords) fun _ => True := by
  rw [← once_mul_once, ← once_mul_once, mul_assoc, mul_assoc]
  refine (performs_require_notes (notes_xmm626KernelLinuxModemPower false)
    ⟨_, runs_xmm626KernelLinuxModemPower false⟩).bind fun _ _ => ?_
  refine performs_xmm626KernelLinuxModemHciPower_off.bind fun _ _ => ?_
  refine (performs_ignored (notes_xmm626KernelLinuxModemPower true)
    ⟨0, _, runs_xmm626KernelLinuxModemPower true⟩).bind fun _ _ => ?_
  exact performs_xmm626KernelLinuxModemHciPower_on

/-- What a boot of the generic device does before the upload. -/
def genericOpeningWords (world : BootWorld) : Language ModemEvent :=
  openedOne world radioPartitions *
    (once (modemPowerWord false ++ hciOffWord ++ modemPowerWord true) * hciOnWords *
      once [.opened xmm626KernelLinuxBoot0Device (world.fdOf xmm626KernelLinuxBoot0Device)])

/-- What it does that succeeds. -/
def genericWords (world : BootWorld) (nvData : Bytes) : Language ModemEvent :=
  genericOpeningWords world *
    (Language.map (.wrote (world.fdOf xmm626KernelLinuxBoot0Device))
      (hsicHead i9300Image world.image * hsicTail nvData) * (once hciOffWord * hciOnWords))

/-- What it does without NV data. -/
def genericHeadWords (world : BootWorld) : Language ModemEvent :=
  genericOpeningWords world *
    Language.map (.wrote (world.fdOf xmm626KernelLinuxBoot0Device)) (hsicHead i9300Image world.image)

/-- What comes before the upload. -/
def genericOpening : Booting (Bytes × BootLocals) := do
  let (image, locals) ← openGenericImage
  genericRestart locals
  let locals ← openGenericBoot locals
  pure (image, locals)

def genericBody (client : Option IpcClient) : Booting BootLocals :=
  genericOpening >>= fun opened => do
    hsicUpload client i9300Image opened.1 opened.2
    require opened.2 (xmm626KernelLinuxModemHciPower false)
    require opened.2 (xmm626KernelLinuxModemHciPower true)
    pure opened.2

theorem genericBoot_client {client : Option IpcClient} (hclient : ¬client.isNone = true) :
    genericBoot client = bootEnd i9300Image.imageSize (genericBody client) := by
  rw [genericBoot, if_neg hclient, genericBody, genericOpening]
  simp only [bind_assoc]
  refine congrArg (bootEnd _) (bind_congr fun result => ?_)
  obtain ⟨image, locals⟩ := result
  simp only [pure_bind]

theorem performs_genericOpening :
    Performs world genericOpening (genericOpeningWords world) fun opened =>
      opened.1 = world.image ∧ opened.2.modemBootFd = world.fdOf xmm626KernelLinuxBoot0Device := by
  refine performs_openGenericImage.bind fun result hresult => ?_
  obtain ⟨imageFd, rfl⟩ := hresult
  refine performs_genericRestart.bind fun _ _ => ?_
  refine (performs_openGenericBoot _).bind_quiet fun opened hopened => ?_
  subst hopened
  exact .pure ⟨rfl, rfl⟩

/-- The generic device takes the first partition it can open, and does not mind that the modem could not
be switched on. -/
theorem boots_genericWords (hsize : world.image.length = i9300Image.imageSize)
    (hnv : world.nvData = some nvData) :
    Boots world (genericBoot world.cfg.client) (genericWords world nvData) := by
  have hboot : (0 : Int) ≤ world.fdOf xmm626KernelLinuxBoot0Device := Int.natCast_nonneg _
  rw [genericBoot_client world.cfg.client_not_isNone]
  refine boots_bootEnd (P := fun _ => True) (performs_genericOpening.bind fun opened hopened => ?_)
  obtain ⟨himage, hfd⟩ := hopened
  rw [himage, ← hfd]
  refine (performs_hsicUpload ⟨i9300Image_sendable, hsize⟩ (hfd ▸ hboot) hnv).bind fun _ _ => ?_
  refine performs_xmm626KernelLinuxModemHciPower_off.bind fun _ _ => ?_
  exact performs_xmm626KernelLinuxModemHciPower_on.bind_quiet fun _ _ => .pure trivial

theorem neverBoots_genericHeadWords (hsize : world.image.length = i9300Image.imageSize)
    (hnv : world.nvData = none) :
    NeverBoots world (genericBoot world.cfg.client) (genericHeadWords world) := by
  have hboot : (0 : Int) ≤ world.fdOf xmm626KernelLinuxBoot0Device := Int.natCast_nonneg _
  have himage : world.Provides i9300Image := ⟨i9300Image_sendable, hsize⟩
  rw [genericBoot_client world.cfg.client_not_isNone]
  refine neverBoots_bootEnd (performs_genericOpening.bind_strays ?_ fun opened hopened => ?_)
  · let locals := { BootLocals.initial with modemBootFd := world.fdOf xmm626KernelLinuxBoot0Device }
    have hupload : Performs world (hsicImageUpload i9300Image world.image locals)
        (Language.map (.wrote locals.modemBootFd) (hsicHead i9300Image world.image)) fun _ => True :=
      performs_hsicImageUpload himage hboot
    exact hupload.exists_mem
  · obtain ⟨hcontent, hfd⟩ := hopened
    rw [hcontent, ← hfd]
    exact (strays_hsicUpload himage (hfd ▸ hboot) hnv).bind

end Generic

end SamsungIpc
