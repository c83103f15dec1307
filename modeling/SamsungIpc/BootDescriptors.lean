import SamsungIpc.BootResources
import SamsungIpc.DeviceBoots
import SamsungIpc.EffectCalls

/-! What a boot does with the descriptors and the mapping it gets: whatever the calls answer, it uses only
what it has opened and not closed yet, and it closes everything before it returns. -/

namespace SamsungIpc

open Effect Booting

/-! ### What the variables of a boot stand for -/

/-- The sizes of what is mapped. -/
def Mapping.sizes (imageSize : Nat) : Mapping → List Nat
  | .mapped _ => [imageSize]
  | _ => []

def Mapping.failures : Mapping → Nat
  | .failed => 1
  | _ => 0

/-- The variables name what the boot has open, each descriptor once. -/
structure BootLocals.Holds (imageSize : Nat) (locals : BootLocals) (s : BootResources) : Prop where
  clean : s.misused = false
  mem_own : ∀ fd, fd ∈ s.own ↔ 0 ≤ fd ∧
    (fd = locals.modemImageFd ∨ fd = locals.modemBootFd ∨ fd = locals.modemLinkFd)
  distinct : (0 ≤ locals.modemImageFd → locals.modemImageFd ≠ locals.modemBootFd ∧
    locals.modemImageFd ≠ locals.modemLinkFd) ∧
    (0 ≤ locals.modemBootFd → locals.modemBootFd ≠ locals.modemLinkFd)
  mappings_eq : s.mappings = locals.modemImageData.sizes imageSize
  failed_eq : s.failedMappings = locals.modemImageData.failures

theorem BootLocals.initial_holds (imageSize : Nat) :
    BootLocals.initial.Holds imageSize BootResources.initial where
  clean := rfl
  mem_own := by
    intro fd
    simp only [BootResources.initial, BootResources.clean, BootLocals.initial, Finset.notMem_empty,
      false_iff]
    omega
  distinct := by
    simp only [BootLocals.initial]
    omega
  mappings_eq := rfl
  failed_eq := rfl

/-- How a part of a boot leaves what is open: `held value` are the variables that go with its value. -/
def EndsHolding {α : Type} (imageSize : Nat) (held : α → BootLocals) (P : α → Prop) :
    Except BootEscape α → BootResources → Prop
  | .ok value, s => (held value).Holds imageSize s ∧ P value
  | .error (.error locals), s => locals.Holds imageSize s
  | .error .fault, s => Rightful s

variable {others : Finset Int} {imageSize : Nat} {α β : Type} {s : BootResources} {locals : BootLocals}

/-- Every run from `s` is rightful, and ends as described. -/
abbrev Manages (others : Finset Int) (imageSize : Nat) (p : Booting α) (held : α → BootLocals) (P : α → Prop)
    (s : BootResources) : Prop :=
  wp (BootResources.handler others) Rightful p.run (EndsHolding imageSize held P) s

theorem Manages.bind {p : Booting α} {rest : α → Booting β} {held : α → BootLocals} {P : α → Prop}
    {held' : β → BootLocals} {Q : β → Prop} (hp : Manages others imageSize p held P s)
    (hrest : ∀ value s', (held value).Holds imageSize s' → P value →
      Manages others imageSize (rest value) held' Q s') :
    Manages others imageSize (p >>= rest) held' Q s := by
  refine wp_except_bind.mpr (wp_mono hp fun result s' hresult => ?_)
  match result with
  | .ok value => exact hrest value s' hresult.1 hresult.2
  | .error (.error locals) => exact ⟨hresult.clean, hresult⟩
  | .error .fault => exact ⟨hresult, hresult⟩

theorem Manages.weaken {p : Booting α} {held : α → BootLocals} {P Q : α → Prop}
    (hp : Manages others imageSize p held P s) (hPQ : ∀ value, P value → Q value) :
    Manages others imageSize p held Q s := by
  refine wp_mono hp fun result s' hresult => ?_
  match result with
  | .ok value => exact ⟨hresult.1, hPQ value hresult.2⟩
  | .error (.error locals) => exact hresult
  | .error .fault => exact hresult

theorem manages_pure {value : α} {held : α → BootLocals} {P : α → Prop} (hs : (held value).Holds imageSize s)
    (hvalue : P value) : Manages others imageSize (pure value) held P s := ⟨hs.clean, hs, hvalue⟩

theorem manages_error {held : α → BootLocals} {P : α → Prop} (hs : locals.Holds imageSize s) :
    Manages others imageSize (Booting.error locals : Booting α) held P s := ⟨hs.clean, hs⟩

/-! ### Functions that use what is open -/

/-- A call that opens and closes nothing, on a descriptor of the boot. -/
def UsesOwn (own : Finset Int) : {β : Type} → ModemCall β → Prop
  | _, .openFile _ => False
  | _, .close _ => False
  | _, .mmap _ _ => False
  | _, .munmap _ _ => False
  | _, .ioctl fd _ => fd ∈ own
  | _, .write fd _ => fd ∈ own
  | _, .read fd _ => fd ∈ own
  | _, .select fd => fd ∈ own
  | _, .sysfsValueWrite _ _ => True
  | _, .sysfsValueRead _ => True
  | _, .nvDataLoad => True
  | _, .fileDataRead _ _ _ _ => True

theorem handler_of_usesOwn {request : ModemCall α} (hrequest : UsesOwn s.own request)
    (choice : ModemChoice) : (BootResources.handler others α choice request s).2 = s := by
  cases request with
  | openFile path => exact hrequest.elim
  | close fd => exact hrequest.elim
  | mmap fd size => exact hrequest.elim
  | munmap mapping size => exact hrequest.elim
  | ioctl fd request => exact if_pos hrequest
  | write fd bytes => exact if_pos hrequest
  | read fd count => exact if_pos hrequest
  | select fd => exact if_pos hrequest
  | sysfsValueWrite path value => rfl
  | sysfsValueRead path => rfl
  | nvDataLoad => rfl
  | fileDataRead path size chunkSize offset => rfl

theorem wp_of_usesOwn {p : Prog ModemCall α} (hs : Rightful s) (hp : p.Only (UsesOwn s.own)) :
    wp (BootResources.handler others) Rightful p (fun _ s' => s' = s) s :=
  wp_of_only hs (fun _ hrequest choice => handler_of_usesOwn hrequest choice) hp

/-- A part of a boot that keeps its variables. -/
def Steady (others : Finset Int) (imageSize : Nat) (locals : BootLocals) (p : Booting Unit) : Prop :=
  ∀ s, locals.Holds imageSize s → Manages others imageSize p (fun _ => locals) (fun _ => True) s

theorem Steady.bind {p q : Booting Unit} (hp : Steady others imageSize locals p)
    (hq : Steady others imageSize locals q) : Steady others imageSize locals (p >>= fun _ => q) :=
  fun s hs => (hp s hs).bind fun _ s' hs' _ => hq s' hs'

theorem steady_pure : Steady others imageSize locals (pure ()) := fun _ hs => manages_pure hs trivial

theorem steady_stage {function : Prog ModemCall (Option Int)}
    (hfunction : ∀ s, locals.Holds imageSize s → function.Only (UsesOwn s.own)) :
    Steady others imageSize locals (stage locals function) := by
  intro s hs
  have hchecked : (checked function).run.Only (UsesOwn s.own) :=
    (hfunction s hs).bind fun _ => .pure _
  refine wp_bind.mpr (wp_mono (wp_of_usesOwn hs.clean hchecked) fun result s' hsame => ?_)
  subst hsame
  match result with
  | .ok () => exact ⟨hs.clean, hs, trivial⟩
  | .error .error => exact ⟨hs.clean, hs⟩
  | .error .fault => exact ⟨hs.clean, hs.clean⟩

theorem steady_require {function : Prog ModemCall Int}
    (hfunction : ∀ s, locals.Holds imageSize s → function.Only (UsesOwn s.own)) :
    Steady others imageSize locals (require locals function) :=
  steady_stage fun s hs => (hfunction s hs).bind fun _ => .pure _

theorem steady_ignored {function : Prog ModemCall Int}
    (hfunction : ∀ s, locals.Holds imageSize s → function.Only (UsesOwn s.own)) :
    Steady others imageSize locals (ignored function) := by
  intro s hs
  refine wp_bind.mpr (wp_mono (wp_of_usesOwn hs.clean (hfunction s hs)) fun rc s' hsame => ?_)
  subst hsame
  exact ⟨hs.clean, hs, trivial⟩

namespace BootLocals.Holds

theorem image_mem (hs : locals.Holds imageSize s) (hfd : 0 ≤ locals.modemImageFd) :
    locals.modemImageFd ∈ s.own :=
  (hs.mem_own _).mpr ⟨hfd, .inl rfl⟩

theorem boot_mem (hs : locals.Holds imageSize s) (hfd : 0 ≤ locals.modemBootFd) :
    locals.modemBootFd ∈ s.own :=
  (hs.mem_own _).mpr ⟨hfd, .inr (.inl rfl)⟩

theorem link_mem (hs : locals.Holds imageSize s) (hfd : 0 ≤ locals.modemLinkFd) :
    locals.modemLinkFd ∈ s.own :=
  (hs.mem_own _).mpr ⟨hfd, .inr (.inr rfl)⟩

end BootLocals.Holds

section Functions

variable {own : Finset Int} {fd : Int}

theorem only_controlRequest (hfd : 0 ≤ fd → fd ∈ own) (request : ModemControl) :
    (controlRequest fd request).Only (UsesOwn own) :=
  .ite (fun _ => .pure _) fun hopen => .bind (.perform (hfd (not_lt.mp hopen))) fun _ =>
    .ite (fun _ => .pure _) fun _ => .pure _

theorem only_statusWait (hfd : 0 ≤ fd → fd ∈ own) (request : ModemControl) (wanted : Int → Bool)
    (tries : Nat) : (statusWait fd request wanted tries).Only (UsesOwn own) := by
  refine .ite (fun _ => .pure _) fun hopen => ?_
  induction tries with
  | zero => exact .pure _
  | succ tries ih =>
      exact .bind (.perform (hfd (not_lt.mp hopen))) fun _ => .ite (fun _ => .pure _) fun _ => ih

theorem only_xmm626KernelSmdk4412HciPower (power : Bool) :
    (xmm626KernelSmdk4412HciPower power).Only (UsesOwn own) :=
  .bind (.perform trivial) fun _ => .bind (.perform trivial) fun _ =>
    .ite (fun _ => .pure _) fun _ => .pure _

theorem only_xmm626KernelLinuxModemPower (power : Bool) :
    (xmm626KernelLinuxModemPower power).Only (UsesOwn own) :=
  .bind (.perform trivial) fun _ => .ite (fun _ => .pure _) fun _ => .pure _

theorem only_wakeSlave (ohciRc : Int) : (wakeSlave ohciRc).Only (UsesOwn own) :=
  .bind (.perform trivial) fun _ => .ite (fun _ => .bind (.perform trivial) fun _ =>
    .bind (.perform trivial) fun _ => .pure _) fun _ => .pure _

theorem only_xmm626KernelLinuxModemHciPower (power : Bool) :
    (xmm626KernelLinuxModemHciPower power).Only (UsesOwn own) :=
  .ite (fun _ => .bind (.perform trivial) fun pdaRc => .bind (only_wakeSlave pdaRc) fun _ =>
      .bind (.perform trivial) fun _ => .bind (.perform trivial) fun _ =>
        .ite (fun _ => .pure _) fun _ => .pure _)
    fun _ => .bind (.perform trivial) fun _ => .bind (.perform trivial) fun _ =>
      .ite (fun _ => .pure _) fun _ => .pure _

/-- A sender makes all its calls on its device. -/
theorem only_onDevice (hfd : fd ∈ own) (p : Prog DeviceCall α) :
    (p.translate (ModemCall.onDevice fd)).Only (UsesOwn own) := by
  refine Prog.Only.translate (fun request => ?_) p
  cases request with
  | write bytes => exact hfd
  | read count => exact hfd
  | select => exact hfd

theorem steady_send (hfd : 0 ≤ locals.modemBootFd) (sender : Int → Prog DeviceCall (Option Int)) :
    Steady others imageSize locals (send locals sender) :=
  steady_stage fun _ hs => only_onDevice (hs.boot_mem hfd) _

theorem steady_nvDataSend (hfd : 0 ≤ locals.modemBootFd) (client : Option IpcClient)
    (send : Int → Option Bytes → Prog DeviceCall (Option Int)) :
    Steady others imageSize locals (stage locals (nvDataSend locals client send)) := by
  refine steady_stage fun s hs => ?_
  refine .ite (fun _ => .pure _) fun _ => .ite (fun _ => .pure _) fun _ => ?_
  refine .bind (.perform trivial) fun answer => ?_
  cases answer with
  | none => exact .pure _
  | some data =>
      exact .bind (.bind (only_onDevice (hs.boot_mem hfd) _) fun _ => .pure _) fun _ => .pure _

theorem steady_controlBoot (request : ModemControl) :
    Steady others imageSize locals (require locals (controlRequest locals.modemBootFd request)) :=
  steady_require fun _ hs => only_controlRequest hs.boot_mem request

theorem steady_controlLink (request : ModemControl) :
    Steady others imageSize locals (require locals (controlRequest locals.modemLinkFd request)) :=
  steady_require fun _ hs => only_controlRequest hs.link_mem request

end Functions

/-! ### Opening -/

section Opening

/-- What opening a device may have come to. -/
def Opened (s : BootResources) (fd : Int) (s' : BootResources) : Prop :=
  fd = -1 ∧ s' = s ∨ 0 ≤ fd ∧ fd ∉ s.own ∧ s' = { s with own := insert fd s.own }

/-- Every run of the opening ends so. -/
def Opens (others : Finset Int) (opening : Booting Int) (s : BootResources) : Prop :=
  wp (BootResources.handler others) Rightful opening.run
    (fun result s' => ∃ fd, result = .ok fd ∧ Opened s fd s') s

/-- What follows an attempt to open a file may depend on the reason why it has failed. -/
theorem opens_call {path : Path} {rest : Except CallErrno Fd → Booting Int} (hs : Rightful s)
    (hok : ∀ fd : Fd, rest (.ok fd) = pure (fd : Int))
    (herror : ∀ errno, Opens others (rest (.error errno)) s) :
    Opens others (Booting.call (.openFile path) >>= rest) s := by
  refine wp_except_bind.mpr ⟨hs, fun choice => ?_⟩
  change wp _ _ _ _ (s.openFile others choice.opened).2
  rw [show (BootResources.handler others _ choice (.openFile path) s) =
    s.openFile others choice.opened from rfl]
  cases hopened : choice.opened with
  | error errno =>
      exact ⟨hs, herror errno⟩
  | ok fd =>
      rw [BootResources.openFile]
      dsimp only
      split
      · exact ⟨hs, herror _⟩
      · rename_i hfresh
        have hmem : (fd : Int) ∉ s.own := fun hmem => hfresh (Finset.mem_union_right _ hmem)
        have hrest : wp (BootResources.handler others) Rightful (rest (.ok fd)).run
            (fun result s' => ∃ fd, result = .ok fd ∧ Opened s fd s')
            { s with own := insert (fd : Int) s.own } := by
          rw [hok fd]
          exact ⟨hs, fd, rfl, .inr ⟨Int.natCast_nonneg _, hmem, rfl⟩⟩
        exact ⟨hs, hrest⟩

theorem opens_pure (hs : Rightful s) : Opens others (pure (-1)) s := ⟨hs, -1, rfl, .inl ⟨rfl, rfl⟩⟩

theorem opens_openDevice (path : Path) (hs : Rightful s) : Opens others (openDevice path) s :=
  opens_call hs (fun _ => rfl) fun _ => opens_pure hs

theorem opens_openPartition (paths : List Path) (hs : Rightful s) :
    Opens others (openPartition paths) s := by
  induction paths with
  | nil => exact opens_pure hs
  | cons path paths ih =>
      refine opens_call hs (fun _ => rfl) fun errno => ?_
      dsimp only
      split
      · exact ih
      · exact opens_pure hs

theorem opens_openTries (path : Path) (tries : Nat) (hs : Rightful s) :
    Opens others (openTries path tries) s := by
  induction tries with
  | zero => exact opens_pure hs
  | succ tries ih =>
      refine wp_except_bind.mpr (wp_mono (opens_openDevice path hs) ?_)
      rintro _ s' ⟨fd, rfl, hopened⟩
      dsimp only
      rcases hopened with ⟨rfl, rfl⟩ | ⟨hfd, hmem, rfl⟩
      · exact ih
      · rw [if_pos hfd]
        exact ⟨hs, fd, rfl, .inr ⟨hfd, hmem, rfl⟩⟩

theorem manages_opening {opening : Booting Int} {rest : Int → Booting α} {held : α → BootLocals}
    {P : α → Prop} (hopens : Opens others opening s)
    (hrest : ∀ fd s', Opened s fd s' → Manages others imageSize (rest fd) held P s') :
    Manages others imageSize (opening >>= rest) held P s := by
  refine wp_except_bind.mpr (wp_mono hopens ?_)
  rintro _ s' ⟨fd, rfl, hopened⟩
  exact hrest fd s' hopened

/-- A device that has been opened into one of the variables. -/
theorem holds_of_opened (locals : BootLocals) {fd : Int} {s' : BootResources} (hopened : Opened s fd s') :
    (({ locals with modemBootFd := -1 } : BootLocals).Holds imageSize s →
      ({ locals with modemBootFd := fd } : BootLocals).Holds imageSize s') ∧
    (({ locals with modemLinkFd := -1 } : BootLocals).Holds imageSize s →
      ({ locals with modemLinkFd := fd } : BootLocals).Holds imageSize s') ∧
    (({ locals with modemImageFd := -1 } : BootLocals).Holds imageSize s →
      ({ locals with modemImageFd := fd } : BootLocals).Holds imageSize s') := by
  rcases hopened with ⟨rfl, rfl⟩ | ⟨hfd, hmem, rfl⟩
  · exact ⟨id, id, id⟩
  · refine ⟨fun hs => ?_, fun hs => ?_, fun hs => ?_⟩ <;>
    · have hown := hs.mem_own
      have hfresh := mt (hown fd).mpr hmem
      have hdistinct := hs.distinct
      dsimp only at hown hfresh hdistinct
      refine ⟨hs.clean, fun other => ?_, ?_, hs.mappings_eq, hs.failed_eq⟩
      · rw [Finset.mem_insert, hown]
        dsimp only
        omega
      · dsimp only
        omega

theorem manages_openBoot (path : Path)
    (hs : ({ locals with modemBootFd := -1 } : BootLocals).Holds imageSize s) :
    Manages others imageSize (openBoot path locals) id
      (fun opened => opened = { locals with modemBootFd := opened.modemBootFd } ∧ 0 ≤ opened.modemBootFd)
      s := by
  refine manages_opening (opens_openDevice path hs.clean) fun fd s' hopened => ?_
  have hholds := (holds_of_opened locals hopened).1 hs
  split
  · exact manages_error hholds
  · exact manages_pure hholds ⟨rfl, not_lt.mp ‹_›⟩

theorem manages_openGenericBoot (hs : ({ locals with modemBootFd := -1 } : BootLocals).Holds imageSize s) :
    Manages others imageSize (openGenericBoot locals) id
      (fun opened => opened = { locals with modemBootFd := opened.modemBootFd } ∧ 0 ≤ opened.modemBootFd)
      s := by
  refine manages_opening (opens_openTries _ _ hs.clean) fun fd s' hopened => ?_
  have hholds := (holds_of_opened locals hopened).1 hs
  split
  · exact manages_error hholds
  · exact manages_pure hholds ⟨rfl, not_lt.mp ‹_›⟩

theorem manages_openLink (path : Path)
    (hs : ({ locals with modemLinkFd := -1 } : BootLocals).Holds imageSize s) :
    Manages others imageSize (openLink path locals) id
      (fun opened => opened = { locals with modemLinkFd := opened.modemLinkFd }) s := by
  refine manages_opening (opens_openDevice path hs.clean) fun fd s' hopened => ?_
  have hholds := (holds_of_opened locals hopened).2.1 hs
  split
  · exact manages_error hholds
  · exact manages_pure hholds rfl

theorem manages_mapImage (hunmapped : locals.modemImageData = .null)
    (hfd : 0 ≤ locals.modemImageFd) (hs : locals.Holds imageSize s) :
    Manages others imageSize (mapImage imageSize locals) Prod.snd
      (fun result => result.2 = { locals with modemImageData := result.2.modemImageData }) s := by
  refine wp_except_bind.mpr ⟨hs.clean, fun choice => ?_⟩
  have huse : s.use locals.modemImageFd = s := if_pos (hs.image_mem hfd)
  have hmappings : s.mappings = [] := by rw [hs.mappings_eq, hunmapped]; rfl
  have hfailed : s.failedMappings = 0 := by rw [hs.failed_eq, hunmapped]; rfl
  rw [show BootResources.handler others _ choice (.mmap locals.modemImageFd imageSize) s =
    (choice.mapping, (s.use locals.modemImageFd).map imageSize choice.mapping) from rfl, huse]
  cases choice.mapping with
  | null => exact ⟨hs.clean, manages_error hs⟩
  | failed =>
      refine ⟨hs.clean, manages_error ⟨hs.clean, hs.mem_own, hs.distinct, hmappings, ?_⟩⟩
      change s.failedMappings + 1 = 1
      rw [hfailed]
  | mapped content =>
      refine ⟨hs.clean, manages_pure ⟨hs.clean, hs.mem_own, hs.distinct, ?_, hfailed⟩ rfl⟩
      change imageSize :: s.mappings = [imageSize]
      rw [hmappings]

/-- The variables behind the mapping of the image: no other device is open yet. -/
def OnlyImage (locals : BootLocals) : Prop := locals.modemBootFd = -1 ∧ locals.modemLinkFd = -1

theorem manages_openImage (imageDevice : Path) (hs : BootLocals.initial.Holds imageSize s) :
    Manages others imageSize (openImage imageDevice imageSize) Prod.snd
      (fun result => OnlyImage result.2) s := by
  refine manages_opening (opens_openDevice imageDevice hs.clean) fun fd s' hopened => ?_
  have hholds := (holds_of_opened .initial hopened).2.2 hs
  split
  · rename_i hfailed
    rcases hopened with ⟨_, rfl⟩ | ⟨hfd, _⟩
    · exact manages_error hs
    · omega
  · refine (manages_mapImage rfl (not_lt.mp ‹_›) hholds).weaken fun result hresult => ?_
    rw [hresult]
    exact ⟨rfl, rfl⟩

end Opening

/-! ### The end of a boot -/

section Release

/-- The descriptors that are still to be closed, each of them once. -/
structure Holding (fds : List Int) (s : BootResources) : Prop where
  clean : s.misused = false
  mem_own : ∀ fd, fd ∈ s.own ↔ 0 ≤ fd ∧ fd ∈ fds
  distinct : fds.Pairwise fun first second => 0 ≤ first → first ≠ second

theorem wp_closeIfOpen {fd : Int} {fds : List Int} (hs : Holding (fd :: fds) s) :
    wp (BootResources.handler others) Rightful (closeIfOpen fd)
      (fun _ s' => Holding fds s' ∧ s'.mappings = s.mappings ∧ s'.failedMappings = s.failedMappings) s := by
  have hown := hs.mem_own
  obtain ⟨hother, hdistinct⟩ := List.pairwise_cons.mp hs.distinct
  rw [closeIfOpen]
  by_cases hfd : fd ≥ 0
  · have hclose : s.close fd = { s with own := s.own.erase fd } :=
      if_pos ((hown fd).mpr ⟨hfd, List.mem_cons_self⟩)
    rw [if_pos hfd]
    refine ⟨hs.clean, fun choice => ?_⟩
    change wp _ _ _ _ (s.close fd)
    rw [hclose]
    refine ⟨hs.clean, ⟨hs.clean, fun other => ?_, hdistinct⟩, rfl, rfl⟩
    rw [Finset.mem_erase, hown, List.mem_cons]
    constructor
    · rintro ⟨hne, hnonneg, heq | hmem⟩
      · exact absurd heq hne
      · exact ⟨hnonneg, hmem⟩
    · rintro ⟨hnonneg, hmem⟩
      exact ⟨(hother other hmem hfd).symm, hnonneg, .inr hmem⟩
  · rw [if_neg hfd]
    refine ⟨hs.clean, ⟨hs.clean, fun other => ?_, hdistinct⟩, rfl, rfl⟩
    rw [hown, List.mem_cons]
    constructor
    · rintro ⟨hnonneg, rfl | hmem⟩
      · exact absurd hnonneg hfd
      · exact ⟨hnonneg, hmem⟩
    · rintro ⟨hnonneg, hmem⟩
      exact ⟨hnonneg, .inr hmem⟩

/-- Nothing is mapped, and every mapping that has failed has been given to `munmap`. -/
def Unmapped (s : BootResources) : Prop := s.mappings = [] ∧ s.failedMappings = 0

theorem wp_unmapIfMapped {mapping : Mapping} {fds : List Int} (hs : Holding fds s)
    (hmappings : s.mappings = mapping.sizes imageSize) (hfailed : s.failedMappings = mapping.failures) :
    wp (BootResources.handler others) Rightful (unmapIfMapped mapping imageSize)
      (fun _ s' => Holding fds s' ∧ Unmapped s') s := by
  cases mapping with
  | null => exact ⟨hs.clean, hs, hmappings, hfailed⟩
  | failed =>
      have hunmap : s.unmap imageSize .failed = { s with failedMappings := 0 } := by
        rw [BootResources.unmap, hfailed, Mapping.failures, if_neg Nat.one_ne_zero]
      refine ⟨hs.clean, fun choice => ?_⟩
      change wp _ _ _ _ (s.unmap imageSize .failed)
      rw [hunmap]
      exact ⟨hs.clean, ⟨hs.clean, hs.mem_own, hs.distinct⟩, hmappings, rfl⟩
  | mapped content =>
      have hunmap : s.unmap imageSize (.mapped content) = { s with mappings := [] } := by
        rw [BootResources.unmap, hmappings, Mapping.sizes, if_pos (List.mem_singleton_self _),
          List.erase_cons_head]
      refine ⟨hs.clean, fun choice => ?_⟩
      change wp _ _ _ _ (s.unmap imageSize (.mapped content))
      rw [hunmap]
      exact ⟨hs.clean, ⟨hs.clean, hs.mem_own, hs.distinct⟩, rfl, hfailed⟩

/-- Nothing is open, and nothing is mapped. -/
def Released (s : BootResources) : Prop := s.own = ∅ ∧ Unmapped s

theorem wp_releaseLocals (hs : locals.Holds imageSize s) :
    wp (BootResources.handler others) Rightful (releaseLocals imageSize locals)
      (fun _ s' => Rightful s' ∧ Released s') s := by
  have hdistinct := hs.distinct
  have hholding : Holding [locals.modemImageFd, locals.modemBootFd, locals.modemLinkFd] s := by
    refine ⟨hs.clean, fun fd => ?_, ?_⟩
    · rw [hs.mem_own]
      simp only [List.mem_cons, List.not_mem_nil, or_false]
    · simp only [List.pairwise_cons, List.mem_cons, List.not_mem_nil, or_false, forall_eq_or_imp,
        forall_eq, false_imp_iff, implies_true, List.Pairwise.nil, and_true]
      omega
  refine wp_bind.mpr (wp_mono (wp_unmapIfMapped hholding hs.mappings_eq hs.failed_eq) ?_)
  rintro _ s₁ ⟨hholding₁, hmappings₁, hfailed₁⟩
  refine wp_bind.mpr (wp_mono (wp_closeIfOpen hholding₁) ?_)
  rintro _ s₂ ⟨hholding₂, hmappings₂, hfailed₂⟩
  refine wp_bind.mpr (wp_mono (wp_closeIfOpen hholding₂) ?_)
  rintro _ s₃ ⟨hholding₃, hmappings₃, hfailed₃⟩
  refine wp_mono (wp_closeIfOpen hholding₃) ?_
  rintro _ s₄ ⟨hholding₄, hmappings₄, hfailed₄⟩
  refine ⟨hholding₄.clean, Finset.eq_empty_of_forall_notMem fun fd hmem => ?_, ?_, by omega⟩
  · exact absurd ((hholding₄.mem_own fd).mp hmem).2 List.not_mem_nil
  · rw [hmappings₄, hmappings₃, hmappings₂, hmappings₁]

/-- A boot that returns has closed everything; one that crashes has misused nothing before. -/
def EndsReleased (result : Option Int) (s : BootResources) : Prop :=
  Rightful s ∧ (result ≠ none → Released s)

theorem wp_bootEnd {body : Booting BootLocals} {P : BootLocals → Prop}
    (hbody : Manages others imageSize body id P s) :
    wp (BootResources.handler others) Rightful (bootEnd imageSize body) EndsReleased s := by
  refine wp_bind.mpr (wp_mono hbody fun exit s' hexit => ?_)
  have hrelease : ∀ (locals : BootLocals) (rc : Option Int), locals.Holds imageSize s' →
      wp (BootResources.handler others) Rightful (do
        releaseLocals imageSize locals
        pure rc) EndsReleased s' := by
    intro locals rc hs
    refine wp_bind.mpr (wp_mono (wp_releaseLocals hs) ?_)
    rintro _ s'' ⟨hclean, hreleased⟩
    exact ⟨hclean, hclean, fun _ => hreleased⟩
  match exit with
  | .ok locals => exact hrelease locals _ hexit.1
  | .error (.error locals) => exact hrelease locals _ hexit
  | .error .fault => exact ⟨hexit, hexit, fun hne => absurd rfl hne⟩

end Release

/-! ### The boots -/

section Boots

theorem steady_i9300Restart : Steady others imageSize locals (i9300Restart locals) :=
  (steady_require fun _ _ => only_xmm626KernelSmdk4412HciPower false).bind
    ((steady_controlBoot _).bind (steady_require fun _ _ => only_xmm626KernelSmdk4412HciPower true))

theorem steady_galaxys2Restart : Steady others imageSize locals (galaxys2Restart locals) :=
  (steady_controlBoot _).bind ((steady_controlLink _).bind
    ((steady_require fun _ _ => only_xmm626KernelSmdk4412HciPower false).bind ((steady_controlLink _).bind
      ((steady_controlBoot _).bind ((steady_controlLink _).bind
        ((steady_require fun _ _ => only_xmm626KernelSmdk4412HciPower true).bind
          (steady_controlLink _)))))))

theorem steady_linkWait (request : ModemControl) (wanted : Int → Bool) (tries : Nat) :
    Steady others imageSize locals (require locals (statusWait locals.modemLinkFd request wanted tries)) :=
  steady_require fun _ hs => only_statusWait hs.link_mem request wanted tries

theorem steady_linkRestart : Steady others imageSize locals (linkRestart locals) :=
  (steady_ignored fun _ hs => only_statusWait hs.link_mem _ _ _).bind ((steady_controlLink _).bind
    ((steady_require fun _ _ => only_xmm626KernelSmdk4412HciPower false).bind ((steady_controlLink _).bind
      ((steady_linkWait _ _ _).bind ((steady_controlLink _).bind
        ((steady_require fun _ _ => only_xmm626KernelSmdk4412HciPower true).bind
          ((steady_controlLink _).bind (steady_linkWait _ _ _))))))))

theorem steady_hsicUpload (hfd : 0 ≤ locals.modemBootFd) (client : Option IpcClient)
    (layout : ImageLayout) (image : Bytes) :
    Steady others imageSize locals (hsicUpload client layout image locals) :=
  (steady_send hfd _).bind ((steady_send hfd _).bind ((steady_send hfd _).bind ((steady_send hfd _).bind
    ((steady_send hfd _).bind ((steady_nvDataSend hfd client _).bind
      ((steady_send hfd _).bind (steady_send hfd _)))))))

theorem steady_mipiUpload (hfd : 0 ≤ locals.modemBootFd) (client : Option IpcClient)
    (layout : ImageLayout) (image : Bytes) {mpsStage : BootLocals → Booting Unit}
    (hmps : Steady others imageSize locals (mpsStage locals)) :
    Steady others imageSize locals (mipiUpload client layout image mpsStage locals) :=
  (steady_send hfd _).bind ((steady_send hfd _).bind ((steady_send hfd _).bind ((steady_send hfd _).bind
    ((steady_nvDataSend hfd client _).bind (hmps.bind
      ((steady_send hfd _).bind (steady_send hfd _)))))))

theorem manages_hsicOpening (device : HsicDevice)
    (hs : BootLocals.initial.Holds device.layout.imageSize s) :
    Manages others device.layout.imageSize device.opening Prod.snd
      (fun opened => 0 ≤ opened.2.modemBootFd) s := by
  refine (manages_openImage _ hs).bind fun result s₁ hs₁ honly => ?_
  obtain ⟨image, locals⟩ := result
  obtain ⟨hboot, hlink⟩ := honly
  have hbootHolds : ({ locals with modemBootFd := -1 } : BootLocals).Holds device.layout.imageSize s₁ := by
    rw [← hboot]
    exact hs₁
  refine (manages_openBoot _ hbootHolds).bind fun bootLocals s₂ hs₂ hopened => ?_
  obtain ⟨heq, hfd⟩ := hopened
  have hlinkHolds :
      ({ bootLocals with modemLinkFd := -1 } : BootLocals).Holds device.layout.imageSize s₂ := by
    have hlinkFd : bootLocals.modemLinkFd = -1 := by rw [heq]; exact hlink
    rw [← hlinkFd]
    exact hs₂
  refine (manages_openLink _ hlinkHolds).bind fun linkLocals s₃ hs₃ hopened => ?_
  have hrestart : Steady others device.layout.imageSize linkLocals (device.restart linkLocals) := by
    cases device with
    | i9300 => exact steady_i9300Restart
    | n7100 => exact steady_i9300Restart
    | n5100 => exact steady_i9300Restart
    | galaxys2 => exact steady_galaxys2Restart
  refine (hrestart s₃ hs₃).bind fun _ s₄ hs₄ _ => ?_
  refine (steady_linkWait _ _ _ s₄ hs₄).bind fun _ s₅ hs₅ _ => manages_pure hs₅ ?_
  rw [hopened]
  exact hfd

theorem manages_hsicBody (device : HsicDevice) (client : Option IpcClient)
    (hs : BootLocals.initial.Holds device.layout.imageSize s) :
    Manages others device.layout.imageSize (device.body client) id (fun _ => True) s := by
  refine (manages_hsicOpening device hs).bind fun opened s₁ hs₁ hfd => ?_
  refine (steady_hsicUpload hfd client _ _ s₁ hs₁).bind fun _ s₂ hs₂ _ => ?_
  exact (steady_linkRestart s₂ hs₂).bind fun _ s₃ hs₃ _ => manages_pure hs₃ trivial

theorem manages_openGenericImage (hs : BootLocals.initial.Holds i9300Image.imageSize s) :
    Manages others i9300Image.imageSize openGenericImage Prod.snd (fun result => OnlyImage result.2) s := by
  refine manages_opening (opens_openPartition _ hs.clean) fun fd s' hopened => ?_
  have hholds := (holds_of_opened .initial hopened).2.2 hs
  rcases hopened with ⟨rfl, rfl⟩ | ⟨hfd, _⟩
  · rw [if_pos rfl]
    exact manages_error hs
  · rw [if_neg (by omega)]
    refine (manages_mapImage rfl hfd hholds).weaken fun result hresult => ?_
    rw [hresult]
    exact ⟨rfl, rfl⟩

theorem steady_genericRestart : Steady others imageSize locals (genericRestart locals) :=
  (steady_require fun _ _ => only_xmm626KernelLinuxModemPower false).bind
    ((steady_require fun _ _ => only_xmm626KernelLinuxModemHciPower false).bind
      ((steady_ignored fun _ _ => only_xmm626KernelLinuxModemPower true).bind
        (steady_require fun _ _ => only_xmm626KernelLinuxModemHciPower true)))

theorem manages_genericBody (client : Option IpcClient)
    (hs : BootLocals.initial.Holds i9300Image.imageSize s) :
    Manages others i9300Image.imageSize (genericBody client) id (fun _ => True) s := by
  have hopening : Manages others i9300Image.imageSize genericOpening Prod.snd
      (fun opened => 0 ≤ opened.2.modemBootFd) s := by
    refine (manages_openGenericImage hs).bind fun result s₁ hs₁ honly => ?_
    obtain ⟨image, locals⟩ := result
    refine (steady_genericRestart s₁ hs₁).bind fun _ s₂ hs₂ _ => ?_
    have hbootHolds : ({ locals with modemBootFd := -1 } : BootLocals).Holds i9300Image.imageSize s₂ := by
      rw [← honly.1]
      exact hs₂
    exact (manages_openGenericBoot hbootHolds).bind fun bootLocals s₃ hs₃ hopened =>
      manages_pure hs₃ hopened.2
  refine hopening.bind fun opened s₁ hs₁ hfd => ?_
  refine (steady_hsicUpload hfd client _ _ s₁ hs₁).bind fun _ s₂ hs₂ _ => ?_
  have hoff : Steady others i9300Image.imageSize opened.2
      (require opened.2 (xmm626KernelLinuxModemHciPower false)) :=
    steady_require fun _ _ => only_xmm626KernelLinuxModemHciPower false
  have hon : Steady others i9300Image.imageSize opened.2
      (require opened.2 (xmm626KernelLinuxModemHciPower true)) :=
    steady_require fun _ _ => only_xmm626KernelLinuxModemHciPower true
  refine (hoff s₂ hs₂).bind fun _ s₃ hs₃ _ => (hon s₃ hs₃).bind fun _ s₄ hs₄ _ => ?_
  exact manages_pure hs₄ trivial

theorem steady_maguroMpsStage (hfd : 0 ≤ locals.modemBootFd) :
    Steady others imageSize locals (maguroMpsStage locals) := by
  intro s hs
  refine wp_except_bind.mpr ⟨hs.clean, fun choice => ⟨hs.clean, ?_⟩⟩
  obtain ⟨opened, mapping, rc, data⟩ := choice
  cases data with
  | none => exact manages_error hs
  | some mpsData => exact steady_send hfd _ s hs

theorem steady_maguroFinish : Steady others imageSize locals (maguroFinish locals) :=
  (steady_require fun _ hs => only_statusWait hs.boot_mem _ _ _).bind (steady_controlBoot _)

/-- Closing the boot device leaves its variable without a descriptor. -/
theorem manages_closeBoot (hfd : 0 ≤ locals.modemBootFd) (hs : locals.Holds imageSize s) :
    Manages others imageSize (Booting.call (.close locals.modemBootFd))
      (fun _ => { locals with modemBootFd := -1 }) (fun _ => True) s := by
  have hown := hs.mem_own
  have hdistinct := hs.distinct
  have hclose : s.close locals.modemBootFd = { s with own := s.own.erase locals.modemBootFd } :=
    if_pos (hs.boot_mem hfd)
  refine ⟨hs.clean, fun choice => ?_⟩
  change wp _ _ _ _ (s.close locals.modemBootFd)
  rw [hclose]
  refine ⟨hs.clean, ⟨hs.clean, fun other => ?_, ?_, hs.mappings_eq, hs.failed_eq⟩, trivial⟩
  · rw [Finset.mem_erase, hown]
    dsimp only
    omega
  · dsimp only
    omega

theorem manages_mipiBody (device : MipiDevice) (client : Option IpcClient)
    (hs : BootLocals.initial.Holds device.layout.imageSize s) :
    Manages others device.layout.imageSize (device.body client) id (fun _ => True) s := by
  have hopening : Manages others device.layout.imageSize device.opening Prod.snd
      (fun opened => 0 ≤ opened.2.modemBootFd) s := by
    refine (manages_openImage _ hs).bind fun result s₁ hs₁ honly => ?_
    obtain ⟨image, locals⟩ := result
    have hbootHolds : ({ locals with modemBootFd := -1 } : BootLocals).Holds device.layout.imageSize s₁ := by
      rw [← honly.1]
      exact hs₁
    refine (manages_openBoot _ hbootHolds).bind fun bootLocals s₂ hs₂ hopened => ?_
    refine (steady_controlBoot _ s₂ hs₂).bind fun _ s₃ hs₃ _ => ?_
    refine (steady_controlBoot _ s₃ hs₃).bind fun _ s₄ hs₄ _ => ?_
    refine (steady_send hopened.2 _ s₄ hs₄).bind fun _ s₅ hs₅ _ => ?_
    refine (manages_closeBoot hopened.2 hs₅).bind fun _ s₆ hs₆ _ => ?_
    exact (manages_openBoot _ hs₆).bind fun otherLocals s₇ hs₇ hother => manages_pure hs₇ hother.2
  refine hopening.bind fun opened s₁ hs₁ hfd => ?_
  have hmps : Steady others device.layout.imageSize opened.2 (device.mpsStage opened.2) := by
    cases device with
    | maguro => exact steady_maguroMpsStage hfd
    | piranha => exact steady_pure
  have hfinish : Steady others device.layout.imageSize opened.2 (device.finish opened.2) := by
    cases device with
    | maguro => exact steady_maguroFinish
    | piranha => exact steady_pure
  refine (steady_mipiUpload hfd client _ _ hmps s₁ hs₁).bind fun _ s₂ hs₂ _ => ?_
  exact (hfinish s₂ hs₂).bind fun _ s₃ hs₃ _ => manages_pure hs₃ trivial

/-- Switching the modem off needs a descriptor for a moment. -/
theorem wp_powerOff {path : Path} {power : Fd → Prog ModemCall Int}
    (hpower : ∀ own (fd : Fd), (fd : Int) ∈ own → (power fd).Only (UsesOwn own)) :
    wp (BootResources.handler others) Rightful (powerOff path power)
      (fun _ s' => Rightful s' ∧ Released s') .initial := by
  have hinitial : Rightful BootResources.initial ∧ Released BootResources.initial := ⟨rfl, rfl, rfl, rfl⟩
  refine wp_bind.mpr ⟨rfl, fun choice => ?_⟩
  change wp _ _ _ _ (BootResources.openFile .initial others choice.opened).2
  rw [show BootResources.handler others _ choice (.openFile path) .initial =
    BootResources.openFile .initial others choice.opened from rfl]
  cases choice.opened with
  | error errno => exact ⟨rfl, rfl, hinitial⟩
  | ok fd =>
      rw [BootResources.openFile]
      split
      · exact ⟨rfl, rfl, hinitial⟩
      · let opened : BootResources := .clean {(fd : Int)}
        have hmem : (fd : Int) ∈ opened.own := Finset.mem_singleton_self _
        have hclose : opened.close fd = .initial := by
          rw [BootResources.close, if_pos hmem]
          change BootResources.clean (Finset.erase {(fd : Int)} fd) = .clean ∅
          rw [Finset.erase_singleton]
        have hrest : wp (BootResources.handler others) Rightful (do
            let rc ← power fd
            Prog.perform (.close (fd : Int))
            if rc < 0 then pure (-1) else pure 0 : Prog ModemCall Int)
            (fun _ s' => Rightful s' ∧ Released s') opened := by
          refine wp_bind.mpr (wp_mono (wp_of_usesOwn rfl (hpower _ fd hmem)) fun rc s' hsame => ?_)
          subst hsame
          refine wp_bind.mpr ⟨rfl, fun _ => ?_⟩
          change wp _ _ _ _ (opened.close fd)
          rw [hclose]
          refine ⟨rfl, ?_⟩
          split
          · exact ⟨rfl, hinitial⟩
          · exact ⟨rfl, hinitial⟩
        exact ⟨rfl, hrest⟩

end Boots

namespace Xmm626Device

def powerOff : Xmm626Device → Prog ModemCall Int
  | hsic .i9300 => i9300PowerOff
  | hsic .n7100 => n7100PowerOff
  | hsic .n5100 => n5100PowerOff
  | hsic .galaxys2 => galaxys2PowerOff
  | generic => genericPowerOff
  | mipi .maguro => maguroPowerOff
  | mipi .piranha => piranhaPowerOff

theorem wp_boot (device : Xmm626Device) (client : Option IpcClient) (others : Finset Int) :
    wp (BootResources.handler others) Rightful (device.boot client) EndsReleased .initial := by
  have hrefused : wp (BootResources.handler others) Rightful
      (pure (some (-1)) : Prog ModemCall (Option Int)) EndsReleased .initial :=
    ⟨rfl, rfl, fun _ => ⟨rfl, rfl, rfl⟩⟩
  by_cases hclient : client.isNone = true
  · have hboot : device.boot client = pure (some (-1)) := by
      rcases device with device | _ | device
      · change device.boot client = _
        rw [HsicDevice.boot_eq, hsicBoot, if_pos hclient]
      · exact if_pos hclient
      · change device.boot client = _
        rw [MipiDevice.boot_eq, mipiBoot, if_pos hclient]
    rw [hboot]
    exact hrefused
  · rcases device with device | _ | device
    · change wp _ _ (device.boot client) _ _
      rw [device.boot_client hclient]
      exact wp_bootEnd (manages_hsicBody device client (BootLocals.initial_holds _))
    · change wp _ _ (genericBoot client) _ _
      rw [genericBoot_client hclient]
      exact wp_bootEnd (manages_genericBody client (BootLocals.initial_holds _))
    · change wp _ _ (device.boot client) _ _
      rw [device.boot_client hclient]
      exact wp_bootEnd (manages_mipiBody device client (BootLocals.initial_holds _))

theorem wp_powerOff_device (device : Xmm626Device) (others : Finset Int) :
    wp (BootResources.handler others) Rightful device.powerOff
      (fun _ s' => Rightful s' ∧ Released s') .initial := by
  have hsmdk : wp (BootResources.handler others) Rightful smdk4412PowerOff
      (fun _ s' => Rightful s' ∧ Released s') .initial :=
    wp_powerOff fun own fd hmem => only_controlRequest (fun _ => hmem) _
  rcases device with device | _ | device
  · cases device <;> exact hsmdk
  · exact wp_powerOff fun own fd _ => only_xmm626KernelLinuxModemPower false
  · cases device <;> exact hsmdk

end Xmm626Device

end SamsungIpc
