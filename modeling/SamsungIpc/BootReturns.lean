import SamsungIpc.DeviceBoots
import SamsungIpc.EffectCalls

/-! The boots over HSIC return, whatever the modem answers: their buffers have sizes that the code fixes and
that a `calloc` can give. That it gives them is taken for granted: the code does not check what it gets. -/

namespace SamsungIpc

open Effect Booting

/-- The function does not go through a `NULL`. -/
abbrev NeverFaults {F : Type → Type} {α : Type} (body : ExceptT SendExit (Prog F) α) : Prop :=
  EscapesOnly (· = .error) body

/-- Nor does this part of a boot. -/
abbrev BootNeverFaults {α : Type} (body : Booting α) : Prop := EscapesOnly (· ≠ .fault) body

/-- The function returns. -/
abbrev AlwaysReturns {F : Type → Type} (function : Prog F (Option Int)) : Prop :=
  function.Yields (· ≠ none)

/-- A boot returns, and says whether it has succeeded. -/
abbrev ReturnsStatus (boot : Prog ModemCall (Option Int)) : Prop :=
  boot.Yields fun result => result = some 0 ∨ result = some (-1)

section Functions

variable {F : Type → Type} {α : Type} {locals : BootLocals}

theorem alwaysReturns_some (rc : Int) : AlwaysReturns (pure (some rc) : Prog F (Option Int)) := nofun

theorem alwaysReturns_map (function : Prog F Int) : AlwaysReturns (some <$> function) :=
  function.yields_true.bind fun _ _ => nofun

theorem neverFaults_ofUpload (upload : Upload α) : NeverFaults (Sender.ofUpload upload) := by
  refine Prog.Yields.bind (Prog.yields_true upload.run) fun result _ => ?_
  cases result with
  | ok value => exact nofun
  | error exit =>
      intro other hother
      exact (Except.error.inj hother).symm

theorem neverFaults_readInt (count : Nat) : NeverFaults (Sender.readInt count) := neverFaults_ofUpload _

theorem neverFaults_checked {function : Prog F (Option Int)} (hfunction : AlwaysReturns function) :
    NeverFaults (checked function) := by
  refine Prog.Yields.bind hfunction fun rc hrc => ?_
  cases rc with
  | none => exact absurd rfl hrc
  | some rc =>
      intro exit hexit
      rw [checkResult] at hexit
      split_ifs at hexit
      exact (Except.error.inj hexit).symm

theorem alwaysReturns_ended {body : ExceptT SendExit (Prog F) Unit} (hbody : NeverFaults body) :
    AlwaysReturns (ended body) := by
  refine Prog.Yields.bind hbody fun result hresult => ?_
  cases result with
  | ok value => exact nofun
  | error exit =>
      obtain rfl := hresult exit rfl
      exact nofun

theorem bootNeverFaults_stage {function : Prog ModemCall (Option Int)}
    (hfunction : AlwaysReturns function) : BootNeverFaults (stage locals function) := by
  refine Prog.Yields.bind (neverFaults_checked hfunction) fun result hresult => ?_
  cases result with
  | ok value => exact nofun
  | error exit =>
      obtain rfl := hresult exit rfl
      intro other hother
      rw [← Except.error.inj hother]
      exact nofun

theorem bootNeverFaults_require (function : Prog ModemCall Int) :
    BootNeverFaults (require locals function) := bootNeverFaults_stage (alwaysReturns_map function)

theorem bootNeverFaults_ignored (function : Prog ModemCall Int) :
    BootNeverFaults (ignored function) :=
  function.yields_true.bind fun _ _ => nofun

theorem bootNeverFaults_send {sender : Int → Prog DeviceCall (Option Int)}
    (hsender : ∀ fd, AlwaysReturns (sender fd)) : BootNeverFaults (Booting.send locals sender) :=
  bootNeverFaults_stage ((hsender _).translate _)

theorem bootNeverFaults_call (request : ModemCall α) : BootNeverFaults (Booting.call request) :=
  fun _ => nofun

theorem bootNeverFaults_error : BootNeverFaults (Booting.error locals : Booting α) := by
  intro exit hexit
  rw [← Except.error.inj hexit]
  exact nofun

theorem returnsStatus_bootEnd {imageSize : Nat} {body : Booting BootLocals}
    (hbody : BootNeverFaults body) : ReturnsStatus (bootEnd imageSize body) := by
  refine Prog.Yields.bind hbody fun exit hexit => ?_
  cases exit with
  | ok locals => exact (releaseLocals imageSize locals).yields_true.bind fun _ _ => .inl rfl
  | error escape =>
      cases escape with
      | error locals => exact (releaseLocals imageSize locals).yields_true.bind fun _ _ => .inr rfl
      | fault => exact absurd rfl (hexit _ rfl)

end Functions

/-! ### Senders over HSIC -/

section Senders

variable {deviceFd : Int}

theorem neverFaults_hsicCommand (code : UInt16) (frame : Bytes) (commandDataSize : Nat) (ack : Bool) :
    NeverFaults (ModemBoot.hsicCommand code frame commandDataSize ack) := by
  have hreply : NeverFaults (ModemBoot.hsicReplyRead code commandDataSize) := by
    refine (neverFaults_ofUpload _).bind fun _ => (neverFaults_readInt _).bind fun header => ?_
    refine (neverFaults_ofUpload _).bind fun _ => (neverFaults_readInt _).bind fun _ => ?_
    refine .ite (fun _ => ?_) fun _ => .pure _
    intro exit hexit
    exact (Except.error.inj hexit).symm
  exact (neverFaults_ofUpload _).bind fun _ => .ite (fun _ => .pure _) fun _ => hreply

/-- The sizes of the commands leave no doubt about the memory. -/
theorem alwaysReturns_xmm626HsicCommandSend (code : UInt16) (data : Option Bytes) {commandDataSize : Nat}
    (hsize : commandDataSize ≤ 0x100000) (ack : Bool) :
    AlwaysReturns (ModemBoot.xmm626HsicCommandSend .ilp32 deviceFd code data commandDataSize ack) := by
  cases data with
  | none => exact alwaysReturns_some _
  | some data =>
      rw [ModemBoot.xmm626HsicCommandSend]
      refine .ite (fun _ => alwaysReturns_some _) fun hargs => ?_
      have hle : data.length ≤ commandDataSize := by
        simp only [not_or, not_lt] at hargs
        exact hargs.2.2.2
      have hlength : (xmm626HsicFrame code data commandDataSize).length < 2 ^ 31 := by
        rw [length_xmm626HsicFrame hle]
        omega
      dsimp only
      rw [Abi.calloc_of_lt hlength]
      exact alwaysReturns_ended (neverFaults_hsicCommand _ _ _ _)

theorem neverFaults_modemDataLoop {send : Bytes → Prog DeviceCall (Option Int)}
    (hsend : ∀ block, AlwaysReturns (send block)) (chunk : ChunkSize) (data : Bytes) (c : Nat) :
    NeverFaults (ModemBoot.modemDataLoop send chunk data c) := by
  induction hleft : data.length - c using Nat.strong_induction_on generalizing c with
  | h left ih =>
      rw [ModemBoot.modemDataLoop]
      have hpos := chunk.property
      refine .ite (fun hmore => ?_) fun _ => .pure _
      refine (neverFaults_checked (hsend _)).bind fun _ => ih _ ?_ _ rfl
      split <;> omega

theorem alwaysReturns_dataSend {send : Option Bytes → Prog DeviceCall (Option Int)}
    (hsend : ∀ data, AlwaysReturns (send data)) (data : Option Bytes) :
    AlwaysReturns (ModemBoot.dataSend deviceFd data send) := by
  cases data with
  | none => exact alwaysReturns_some _
  | some data =>
      exact .ite (fun _ => alwaysReturns_some _)
        fun _ => alwaysReturns_ended (neverFaults_checked (hsend _))

theorem alwaysReturns_xmm626HsicModemDataSend (data : Option Bytes) (address : UInt32) :
    AlwaysReturns (ModemBoot.xmm626HsicModemDataSend .ilp32 deviceFd data address) := by
  have haddress : AlwaysReturns (ModemBoot.xmm626HsicCommandSend .ilp32 deviceFd
      xmm626CommandFlashSetAddress (some (LittleEndian.encode 4 address.toNat))
      xmm626HsicFlashSetAddressSize true) := alwaysReturns_xmm626HsicCommandSend _ _ (by decide) _
  have hblock : ∀ block : Bytes, AlwaysReturns (ModemBoot.xmm626HsicCommandSend .ilp32 deviceFd
      xmm626CommandFlashWriteBlock (some block) xmm626HsicFlashWriteBlockSize false) :=
    fun block => alwaysReturns_xmm626HsicCommandSend _ _ (by decide) _
  cases data with
  | none => exact alwaysReturns_some _
  | some data =>
      refine .ite (fun _ => alwaysReturns_some _) fun _ => alwaysReturns_ended ?_
      exact (neverFaults_checked haddress).bind fun _ => neverFaults_modemDataLoop hblock _ _ _

theorem alwaysReturns_xmm626HsicPortConfigSend :
    AlwaysReturns (ModemBoot.xmm626HsicPortConfigSend .ilp32 deviceFd) := by
  refine .ite (fun _ => alwaysReturns_some _) fun _ => alwaysReturns_ended ?_
  refine (neverFaults_ofUpload _).bind fun _ => (neverFaults_ofUpload _).bind fun _ => ?_
  refine (neverFaults_readInt _).bind fun _ => neverFaults_checked ?_
  exact alwaysReturns_xmm626HsicCommandSend _ _ (by decide) _

end Senders

/-! ### Boots over HSIC -/

section Boots

variable {locals : BootLocals} {client : Option IpcClient}

theorem bootNeverFaults_hsicUpload (layout : ImageLayout) (image : Bytes) :
    BootNeverFaults (hsicUpload client layout image locals) := by
  have hcommand : ∀ (fd : Int) (code : UInt16) (data : Option Bytes) (size : Nat) (ack : Bool),
      size ≤ 0x100000 → AlwaysReturns (ModemBoot.xmm626HsicCommandSend .ilp32 fd code data size ack) :=
    fun _ code data _ ack hsize => alwaysReturns_xmm626HsicCommandSend code data hsize ack
  have hnvData : AlwaysReturns (nvDataSend locals client fun fd nvData =>
      ModemBoot.xmm626HsicModemDataSend .ilp32 fd nvData xmm626NvDataAddress) := by
    refine .ite (fun _ => alwaysReturns_some _) fun _ => .ite (fun _ => alwaysReturns_some _) fun _ => ?_
    intro answer
    cases answer with
    | none => exact alwaysReturns_some _
    | some nvData =>
        refine alwaysReturns_ended (neverFaults_checked (Prog.Yields.translate _ ?_))
        exact alwaysReturns_xmm626HsicModemDataSend _ _
  refine (bootNeverFaults_send fun _ => alwaysReturns_map _).bind fun _ => ?_
  refine (bootNeverFaults_send fun _ => alwaysReturns_map _).bind fun _ => ?_
  refine (bootNeverFaults_send fun _ => alwaysReturns_xmm626HsicPortConfigSend).bind fun _ => ?_
  refine (bootNeverFaults_send fun _ =>
    alwaysReturns_dataSend (fun _ => hcommand _ _ _ _ _ (by decide)) _).bind fun _ => ?_
  refine (bootNeverFaults_send fun _ =>
    alwaysReturns_dataSend (fun _ => alwaysReturns_xmm626HsicModemDataSend _ _) _).bind fun _ => ?_
  refine (bootNeverFaults_stage hnvData).bind fun _ => ?_
  refine (bootNeverFaults_send fun _ =>
    alwaysReturns_dataSend (fun _ => hcommand _ _ _ _ _ (by decide)) _).bind fun _ => ?_
  exact bootNeverFaults_send fun _ =>
    alwaysReturns_dataSend (fun _ => hcommand _ _ _ _ _ (by decide)) _

theorem bootNeverFaults_openDevice (path : Path) : BootNeverFaults (openDevice path) :=
  (bootNeverFaults_call _).bind fun answer => by
    cases answer with
    | ok fd => exact .pure _
    | error errno => exact .pure _

theorem bootNeverFaults_mapImage (imageSize : Nat) (locals : BootLocals) :
    BootNeverFaults (mapImage imageSize locals) :=
  (bootNeverFaults_call _).bind fun answer => by
    cases answer with
    | null => exact bootNeverFaults_error
    | failed => exact bootNeverFaults_error
    | mapped content => exact .pure _

theorem bootNeverFaults_openImage (path : Path) (imageSize : Nat) :
    BootNeverFaults (openImage path imageSize) :=
  (bootNeverFaults_openDevice path).bind fun _ =>
    .ite (fun _ => bootNeverFaults_error) fun _ => bootNeverFaults_mapImage _ _

theorem bootNeverFaults_openBoot (path : Path) (locals : BootLocals) :
    BootNeverFaults (openBoot path locals) :=
  (bootNeverFaults_openDevice path).bind fun _ => .ite (fun _ => bootNeverFaults_error) fun _ => .pure _

theorem bootNeverFaults_openLink (path : Path) (locals : BootLocals) :
    BootNeverFaults (openLink path locals) :=
  (bootNeverFaults_openDevice path).bind fun _ => .ite (fun _ => bootNeverFaults_error) fun _ => .pure _

theorem bootNeverFaults_i9300Restart : BootNeverFaults (i9300Restart locals) :=
  (bootNeverFaults_require _).bind fun _ => (bootNeverFaults_require _).bind fun _ =>
    bootNeverFaults_require _

theorem bootNeverFaults_galaxys2Restart : BootNeverFaults (galaxys2Restart locals) := by
  refine (bootNeverFaults_require _).bind fun _ => (bootNeverFaults_require _).bind fun _ => ?_
  refine (bootNeverFaults_require _).bind fun _ => (bootNeverFaults_require _).bind fun _ => ?_
  refine (bootNeverFaults_require _).bind fun _ => (bootNeverFaults_require _).bind fun _ => ?_
  exact (bootNeverFaults_require _).bind fun _ => bootNeverFaults_require _

theorem bootNeverFaults_linkRestart : BootNeverFaults (linkRestart locals) := by
  refine (bootNeverFaults_ignored _).bind fun _ => (bootNeverFaults_require _).bind fun _ => ?_
  refine (bootNeverFaults_require _).bind fun _ => (bootNeverFaults_require _).bind fun _ => ?_
  refine (bootNeverFaults_require _).bind fun _ => (bootNeverFaults_require _).bind fun _ => ?_
  refine (bootNeverFaults_require _).bind fun _ => (bootNeverFaults_require _).bind fun _ => ?_
  exact bootNeverFaults_require _

theorem returnsStatus_hsicBoot {restart : BootLocals → Booting Unit}
    (hrestart : ∀ locals, BootNeverFaults (restart locals)) (imageDevice : Path) (layout : ImageLayout) :
    ReturnsStatus (hsicBoot imageDevice layout restart client) := by
  refine .ite (fun _ => .inr rfl) fun _ => returnsStatus_bootEnd ?_
  refine (bootNeverFaults_openImage _ _).bind fun opened => ?_
  refine (bootNeverFaults_openBoot _ _).bind fun _ => (bootNeverFaults_openLink _ _).bind fun _ => ?_
  refine (hrestart _).bind fun _ => (bootNeverFaults_require _).bind fun _ => ?_
  refine (bootNeverFaults_hsicUpload _ _).bind fun _ => bootNeverFaults_linkRestart.bind fun _ => ?_
  exact .pure _

theorem bootNeverFaults_openPartition (paths : List Path) : BootNeverFaults (openPartition paths) := by
  induction paths with
  | nil => exact .pure _
  | cons path paths ih =>
      refine (bootNeverFaults_call _).bind fun answer => ?_
      cases answer with
      | ok fd => exact .pure _
      | error errno => exact .ite (fun _ => ih) fun _ => .pure _

theorem bootNeverFaults_openTries (path : Path) (tries : Nat) :
    BootNeverFaults (openTries path tries) := by
  induction tries with
  | zero => exact .pure _
  | succ tries ih =>
      exact (bootNeverFaults_openDevice path).bind fun _ => .ite (fun _ => .pure _) fun _ => ih

theorem returnsStatus_genericBoot : ReturnsStatus (genericBoot client) := by
  have hrestart : ∀ locals, BootNeverFaults (genericRestart locals) := fun locals =>
    (bootNeverFaults_require _).bind fun _ => (bootNeverFaults_require _).bind fun _ =>
      (bootNeverFaults_ignored _).bind fun _ => bootNeverFaults_require _
  have himage : BootNeverFaults openGenericImage :=
    (bootNeverFaults_openPartition _).bind fun _ =>
      .ite (fun _ => bootNeverFaults_error) fun _ => bootNeverFaults_mapImage _ _
  have hopen : ∀ locals, BootNeverFaults (openGenericBoot locals) := fun locals =>
    (bootNeverFaults_openTries _ _).bind fun _ => .ite (fun _ => bootNeverFaults_error) fun _ => .pure _
  refine .ite (fun _ => .inr rfl) fun _ => returnsStatus_bootEnd ?_
  refine himage.bind fun opened => (hrestart _).bind fun _ => (hopen _).bind fun _ => ?_
  refine (bootNeverFaults_hsicUpload _ _).bind fun _ => (bootNeverFaults_require _).bind fun _ => ?_
  exact (bootNeverFaults_require _).bind fun _ => .pure _

theorem HsicDevice.returnsStatus_boot (device : HsicDevice) : ReturnsStatus (device.boot client) := by
  cases device with
  | i9300 => exact returnsStatus_hsicBoot (fun _ => bootNeverFaults_i9300Restart) _ _
  | n7100 => exact returnsStatus_hsicBoot (fun _ => bootNeverFaults_i9300Restart) _ _
  | n5100 => exact returnsStatus_hsicBoot (fun _ => bootNeverFaults_i9300Restart) _ _
  | galaxys2 => exact returnsStatus_hsicBoot (fun _ => bootNeverFaults_galaxys2Restart) _ _

/-- Where no `calloc` is refused, whatever the kernel, the files and the modem answer, a boot over HSIC comes
to its end and returns zero or -1: it never goes through a `NULL`, and every loop of it ends. -/
theorem hsic_boots_return {C σ : Type} (handler : Handler ModemCall C σ) (choices : Stream' C) (s : σ)
    (client : Option IpcClient) :
    (∀ device : HsicDevice, (exec handler (device.boot client) choices s).1 = some 0 ∨
      (exec handler (device.boot client) choices s).1 = some (-1)) ∧
    ((exec handler (genericBoot client) choices s).1 = some 0 ∨
      (exec handler (genericBoot client) choices s).1 = some (-1)) :=
  ⟨fun device => device.returnsStatus_boot.exec handler choices s,
    returnsStatus_genericBoot.exec handler choices s⟩

end Boots

end SamsungIpc
