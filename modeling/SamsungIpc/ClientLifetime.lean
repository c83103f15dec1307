import SamsungIpc.BootReturns
import SamsungIpc.ClientCalls

/-! What becomes of a client: which requests an application may make of it in which order, so that nothing
is used that is not there and no descriptor is lost. -/

namespace SamsungIpc

open Effect ObjectMemory

/-! ### Phases -/

/-- A client that has handlers, by its objects. -/
structure ClientRef where
  client : Address
  handlers : Address
  type : Int
  type_mem : type = ipcClientTypeFmt ∨ type = ipcClientTypeRfs

/-- How far the transport data of a client have come. -/
inductive ClientPhase where
  | blank
  /-- The data know the descriptor zero, which is not theirs. -/
  | fresh (data : Address)
  | opened (data : Address) (fd : Fd)
  | shut (data : Address)
  /-- The data are gone, and the pointer to them is still there. -/
  | dangling (data : Address)
  | gone

namespace ClientPhase

def own : ClientPhase → Finset Int
  | opened _ fd => {(fd : Int)}
  | _ => ∅

def data : ClientPhase → Option Address
  | fresh data | opened data _ | shut data | dangling data => some data
  | blank | gone => none

/-- What the data say. -/
def descriptor : ClientPhase → Option Int
  | fresh _ => some 0
  | opened _ fd => some fd
  | shut _ => some (-1)
  | blank | dangling _ | gone => none

def clientObject (ref : ClientRef) : ClientPhase → Option ClientObject
  | gone => none
  | _ => some ⟨ref.type, some ref.handlers⟩

def handlersObject : ClientPhase → Option HandlersObject
  | gone => none
  | phase => some ⟨phase.data⟩

/-- The descriptor in the data, if there is one, is the client's. -/
def Usable : ClientPhase → Prop
  | blank | opened _ _ | shut _ => True
  | fresh _ | dangling _ | gone => False

/-- The data hold no descriptor of the client, or there are none yet. -/
def Openable : ClientPhase → Prop
  | blank | fresh _ | shut _ => True
  | opened _ _ | dangling _ | gone => False

end ClientPhase

/-- What is sent of a message. -/
def ClientRef.frame (ref : ClientRef) (message : IpcMessage) : Bytes :=
  if ref.type = ipcClientTypeFmt then messageFrame fmtFormat message else messageFrame rfsFormat message

/-- The phase tells what is there: the client's descriptor, its objects, and what they say. -/
structure StandsIn (ref : ClientRef) (phase : ClientPhase) (w : ClientWorld) : Prop where
  resources : w.1 = .clean phase.own
  sound : w.2.misused = false
  beyond : ∀ kind address, w.2.next ≤ address → w.2.content kind address = none
  client : w.2.content .client ref.client = phase.clientObject ref
  handlers : w.2.content .handlers ref.handlers = phase.handlersObject
  data : ∀ data, phase.data = some data → w.2.content .transportData data = phase.descriptor

/-- Nothing has been misused. -/
def Proper (w : ClientWorld) : Prop := Rightful w.1 ∧ w.2.misused = false

/-! ### The protocol -/

/-- What an application may ask for in a phase. Closing, polling, sending and receiving are left out before
the first opening, when they would use the descriptor zero. -/
def ClientPhase.Allows (phase : ClientPhase) (ref : ClientRef) {β : Type} (request : ClientRequest β) :
    Prop :=
  phase ≠ .gone ∧
    match request with
    | .create _ => False
    | .boot _ | .powerOn _ | .powerOff _ => True
    | .close _ | .poll _ | .recv _ => phase.Usable
    | .send _ message => phase.Usable ∨ ref.frame message = []
    | .open _ | .dataDestroy _ => phase.Openable
    | .dataCreate _ | .destroy _ => phase.own = ∅

/-- What opening may come to. -/
def ClientPhase.Opens : ClientPhase → Option Int → ClientPhase → Prop
  | blank, rc, next => rc = some (-1) ∧ next = blank
  | fresh data, rc, next | shut data, rc, next =>
      rc = some 0 ∧ (∃ fd, next = opened data fd) ∨ rc = some (-1) ∧ next = shut data
  | opened _ _, _, _ | dangling _, _, _ | gone, _, _ => False

def ClientPhase.Closes : ClientPhase → Int → ClientPhase → Prop
  | blank, rc, next => rc = -1 ∧ next = blank
  | opened data _, rc, next | shut data, rc, next => rc = 0 ∧ next = shut data
  | fresh _, _, _ | dangling _, _, _ | gone, _, _ => False

def ClientPhase.Forgets : ClientPhase → Int → ClientPhase → Prop
  | blank, rc, next => rc = -1 ∧ next = blank
  | fresh data, rc, next | shut data, rc, next => rc = 0 ∧ next = dangling data
  | opened _ _, _, _ | dangling _, _, _ | gone, _, _ => False

/-- What a request that is allowed may be answered, and the phase behind it. -/
def ClientPhase.Leads (phase : ClientPhase) : {β : Type} → ClientRequest β → β → ClientPhase → Prop
  | _, .create _, _, _ => False
  | _, .boot _, rc, next => (rc = some 0 ∨ rc = some (-1)) ∧ next = phase
  | _, .powerOn _, rc, next => rc = 0 ∧ next = phase
  | _, .powerOff _, _, next => next = phase
  | _, .poll _, _, next => next = phase
  | _, .recv _, _, next => next = phase
  | _, .send _ _, _, next => next = phase
  | _, .open _, rc, next => phase.Opens rc next
  | _, .close _, rc, next => phase.Closes rc next
  | _, .dataCreate _, rc, next => rc = 0 ∧ ∃ data, next = .fresh data
  | _, .dataDestroy _, rc, next => phase.Forgets rc next
  | _, .destroy _, rc, next => rc = 0 ∧ next = .gone

section Rules

variable {others : Finset Int} {w : ClientWorld} {I : ClientWorld → Prop} {α β : Type}
  {Q : β → ClientWorld → Prop} {kind : ObjectKind} {address : Address} {object found : ClientPart kind}

theorem wp_load {rest : ClientPart kind → ClientProg β} (hI : I w)
    (hlive : w.2.content kind address = some object)
    (hrest : wp (clientHandler others) I (rest object) Q w) :
    wp (clientHandler others) I (loadObject kind address >>= rest) Q w := by
  refine ⟨hI, fun choice => ?_⟩
  change wp (clientHandler others) I (rest (w.2.load choice.2 kind address).1) Q
    (w.1, (w.2.load choice.2 kind address).2)
  rw [Memory.load_of_live hlive]
  exact hrest

theorem wp_store {rest : Unit → ClientProg β} (hI : I w) (hlive : w.2.content kind address = some found)
    (hrest : wp (clientHandler others) I (rest ()) Q (w.1, w.2.put kind address (some object))) :
    wp (clientHandler others) I (storeObject kind address object >>= rest) Q w := by
  refine ⟨hI, fun choice => ?_⟩
  change wp (clientHandler others) I (rest ()) Q (w.1, w.2.store kind address object)
  rw [Memory.store_of_live hlive]
  exact hrest

theorem wp_free {rest : Unit → ClientProg β} (hI : I w) (hlive : w.2.content kind address = some found)
    (hrest : wp (clientHandler others) I (rest ()) Q (w.1, w.2.put kind address none)) :
    wp (clientHandler others) I (freeObject kind address >>= rest) Q w := by
  refine ⟨hI, fun choice => ?_⟩
  change wp (clientHandler others) I (rest ()) Q (w.1, w.2.free kind address)
  rw [Memory.free_of_live hlive]
  exact hrest

theorem wp_alloc {rest : Address → ClientProg β} (hI : I w)
    (hrest : wp (clientHandler others) I (rest w.2.next) Q (w.1, w.2.alloc kind object)) :
    wp (clientHandler others) I (allocObject kind object >>= rest) Q w := ⟨hI, fun _ => hrest⟩

theorem wp_onModem {function : Prog ModemCall α} {R : α → BootResources → Prop}
    {rest : α → ClientProg β} (hI : ∀ s, Rightful s → I (s, w.2))
    (hfunction : wp (BootResources.handler others) Rightful function R w.1)
    (hrest : ∀ value s, R value s → wp (clientHandler others) I (rest value) Q (s, w.2)) :
    wp (clientHandler others) I (onModem function >>= rest) Q w := by
  refine wp_bind.mpr (wp_mono (wp_left hI hfunction) fun value w' hvalue => ?_)
  obtain ⟨s, m⟩ := w'
  obtain ⟨hR, rfl⟩ := hvalue
  exact hrest value s hR

end Rules

/-! ### Functions of the kernel drivers -/

section Drivers

variable {others own : Finset Int} {fd : Int}

theorem only_modemReady (hfd : fd ∈ own) : (modemReady fd).Only (UsesOwn own) :=
  .bind (.perform hfd) fun _ => .pure _

theorem only_xmm626KernelSmdk4412Read (hfd : 0 ≤ fd → fd ∈ own) (length : Nat) :
    (xmm626KernelSmdk4412Read fd length).Only (UsesOwn own) := by
  refine .ite (fun _ => .pure _) fun hargs => ?_
  have hmem := hfd (not_lt.mp (not_or.mp hargs).1)
  exact .bind (only_modemReady hmem) fun _ => .ite (fun _ => .perform hmem) fun _ => .pure _

theorem only_xmm626KernelSmdk4412Write (hfd : 0 ≤ fd → fd ∈ own) (bytes : Bytes) :
    (xmm626KernelSmdk4412Write fd bytes).Only (UsesOwn own) := by
  refine .ite (fun _ => .pure _) fun hargs => ?_
  have hmem := hfd (not_lt.mp (not_or.mp hargs).1)
  exact .bind (only_modemReady hmem) fun _ => .ite (fun _ => .perform hmem) fun _ => .pure _

theorem only_xmm626KernelSmdk4412PollClient (hfd : 0 ≤ fd → fd ∈ own) :
    (xmm626KernelSmdk4412PollClient fd).Only (UsesOwn own) := by
  refine .ite (fun _ => .pure _) fun hneg => ?_
  have hmem := hfd (not_lt.mp hneg)
  refine .bind (.perform hmem) fun _ => .ite (fun _ => .pure _) fun _ => ?_
  exact .bind (only_modemReady hmem) fun _ => .ite (fun _ => .pure _) fun _ => .pure _

/-- Opening gives one descriptor more, or none. -/
theorem wp_openFd (path : Path) :
    wp (BootResources.handler others) Rightful (openFd path)
      (fun fd s => fd = -1 ∧ s = .clean ∅ ∨ ∃ opened : Fd, fd = opened ∧ s = .clean {(opened : Int)})
      (.clean ∅) := by
  refine ⟨rfl, fun choice => ?_⟩
  change wp _ _ (pure (openResult (BootResources.openFile (.clean ∅) others choice.opened).1)) _
    (BootResources.openFile (.clean ∅) others choice.opened).2
  cases choice.opened with
  | error errno => exact ⟨rfl, .inl ⟨rfl, rfl⟩⟩
  | ok opened =>
      rw [BootResources.openFile]
      split
      · exact ⟨rfl, .inl ⟨rfl, rfl⟩⟩
      · exact ⟨rfl, .inr ⟨opened, rfl, rfl⟩⟩

theorem wp_xmm626KernelSmdk4412Open (type : Int) :
    wp (BootResources.handler others) Rightful (xmm626KernelSmdk4412Open type)
      (fun fd s => fd = -1 ∧ s = .clean ∅ ∨ ∃ opened : Fd, fd = opened ∧ s = .clean {(opened : Int)})
      (.clean ∅) := by
  unfold xmm626KernelSmdk4412Open
  split_ifs
  · exact wp_openFd _
  · exact wp_openFd _
  · exact ⟨rfl, .inl ⟨rfl, rfl⟩⟩

theorem beside_initial : BootResources.initial.beside own = .clean own := by
  simp only [BootResources.beside, BootResources.initial, BootResources.clean, Finset.union_empty]

/-- What has released all that it had leaves the descriptors that were there beside it. -/
theorem beside_of_released {s : BootResources} (hs : Rightful s) (hreleased : Released s) :
    s.beside own = .clean own := by
  obtain ⟨hown, hmappings, hfailed⟩ := hreleased
  change BootResources.mk (own ∪ s.own) s.mappings s.failedMappings s.misused = _
  rw [hown, hmappings, hfailed, show s.misused = false from hs, Finset.union_empty]
  rfl

/-- A boot returns with what was there before. -/
theorem wp_i9300Boot (client : Option IpcClient) :
    wp (BootResources.handler others) Rightful (i9300Boot client)
      (fun rc s => (rc = some 0 ∨ rc = some (-1)) ∧ s = .clean own) (.clean own) := by
  have halone := (@HsicDevice.returnsStatus_boot client .i9300).wp
    ((Xmm626Device.hsic .i9300).wp_boot client (others ∪ own))
  have hbeside := wp_beside halone (Finset.disjoint_empty_right own)
  rw [beside_initial] at hbeside
  refine wp_mono hbeside ?_
  rintro rc _ ⟨s, ⟨hstatus, hrightful, hreleased⟩, rfl⟩
  have hsome : rc ≠ none := by
    rcases hstatus with rfl | rfl
    · exact nofun
    · exact nofun
  exact ⟨hstatus, beside_of_released hrightful (hreleased hsome)⟩

theorem wp_i9300PowerOff :
    wp (BootResources.handler others) Rightful i9300PowerOff (fun _ s => s = .clean own)
      (.clean own) := by
  have hbeside := wp_beside ((Xmm626Device.hsic .i9300).wp_powerOff_device (others ∪ own))
    (Finset.disjoint_empty_right own)
  rw [beside_initial] at hbeside
  refine wp_mono hbeside ?_
  rintro rc _ ⟨s, ⟨hrightful, hreleased⟩, rfl⟩
  exact beside_of_released hrightful hreleased

end Drivers

/-! ### Requests -/

section Requests

variable {others : Finset Int} {ref : ClientRef} {phase next : ClientPhase} {w : ClientWorld} {α β : Type}
  {Q : β → ClientWorld → Prop} {data : Address}

theorem StandsIn.proper (hstands : StandsIn ref phase w) : Proper w := by
  refine ⟨?_, hstands.sound⟩
  rw [hstands.resources]
  rfl

theorem StandsIn.lt_next (hstands : StandsIn ref phase w) {kind : ObjectKind} {address : Address}
    (hlive : w.2.content kind address ≠ none) : address < w.2.next := by
  by_contra hbeyond
  exact hlive (hstands.beyond kind address (not_lt.mp hbeyond))

theorem StandsIn.client_live (hstands : StandsIn ref phase w) (hphase : phase ≠ .gone) :
    w.2.content .client ref.client = some ⟨ref.type, some ref.handlers⟩ := by
  rw [hstands.client]
  cases phase with
  | gone => exact absurd rfl hphase
  | blank | fresh | opened | shut | dangling => rfl

theorem StandsIn.handlers_live (hstands : StandsIn ref phase w) (hphase : phase ≠ .gone) :
    w.2.content .handlers ref.handlers = some ⟨phase.data⟩ := by
  rw [hstands.handlers]
  cases phase with
  | gone => exact absurd rfl hphase
  | blank | fresh | opened | shut | dangling => rfl

theorem wp_withHandlers {refused : β}
    {function : ClientObject → Address → HandlersObject → ClientProg β} (hstands : StandsIn ref phase w)
    (hphase : phase ≠ .gone)
    (hbody : wp (clientHandler others) Proper
      (function ⟨ref.type, some ref.handlers⟩ ref.handlers ⟨phase.data⟩) Q w) :
    wp (clientHandler others) Proper (withHandlers (some ref.client) refused function) Q w :=
  wp_load hstands.proper (hstands.client_live hphase)
    (wp_load hstands.proper (hstands.handlers_live hphase) hbody)

/-- A function on the descriptor in the data, where that is the client's, changes nothing. -/
theorem wp_onDescriptor {refused : α} {function : Int → Prog ModemCall α}
    (handler : Option Address → ClientProg α) (hstands : StandsIn ref phase w) (husable : phase.Usable)
    (hnone : handler none = pure refused)
    (hsome : ∀ data, handler (some data) = loadObject .transportData data >>= fun fd => onModem (function fd))
    (hfunction : ∀ own fd, (0 ≤ fd → fd ∈ own) → (function fd).Only (UsesOwn own)) :
    wp (clientHandler others) Proper (handler phase.data) (fun _ w' => w' = w) w := by
  have hlive : ∀ data fd, phase.data = some data → phase.descriptor = some fd →
      (0 ≤ fd → fd ∈ phase.own) →
      wp (clientHandler others) Proper (handler phase.data) (fun _ w' => w' = w) w := by
    intro data fd hdata hdescriptor hown
    have hcontent := (hstands.data data hdata).trans hdescriptor
    have hrightful : Rightful w.1 := hstands.proper.1
    have honly : (function fd).Only (UsesOwn w.1.own) := by
      rw [hstands.resources]
      exact hfunction _ fd hown
    rw [hdata, hsome]
    refine wp_load hstands.proper hcontent ?_
    refine wp_mono (wp_left (fun s hs => ⟨hs, hstands.sound⟩) (wp_of_usesOwn hrightful honly)) ?_
    rintro _ ⟨s, m⟩ ⟨rfl, rfl⟩
    rfl
  cases phase with
  | blank =>
      change wp _ _ (handler none) _ _
      rw [hnone]
      exact ⟨hstands.proper, rfl⟩
  | opened data fd => exact hlive data fd rfl rfl fun _ => Finset.mem_singleton_self _
  | shut data => exact hlive data (-1) rfl rfl fun hneg => absurd hneg (by decide)
  | fresh data => exact husable.elim
  | dangling data => exact husable.elim
  | gone => exact husable.elim

theorem ClientPhase.Usable.ne_gone (husable : phase.Usable) : phase ≠ .gone := by
  rintro rfl
  exact husable

theorem wp_handlersRead (hstands : StandsIn ref phase w) (husable : phase.Usable) (length : Nat) :
    wp (clientHandler others) Proper (handlersRead (some ref.client) length) (fun _ w' => w' = w) w := by
  refine wp_withHandlers hstands husable.ne_gone ?_
  exact wp_onDescriptor (fun data => i9300Read data length) hstands husable rfl (fun _ => rfl)
    fun _ _ hfd => only_xmm626KernelSmdk4412Read hfd length

theorem wp_handlersWrite (hstands : StandsIn ref phase w) (husable : phase.Usable) (bytes : Bytes) :
    wp (clientHandler others) Proper (handlersWrite (some ref.client) bytes) (fun _ w' => w' = w) w := by
  refine wp_withHandlers hstands husable.ne_gone ?_
  exact wp_onDescriptor (fun data => i9300Write data bytes) hstands husable rfl (fun _ => rfl)
    fun _ _ hfd => only_xmm626KernelSmdk4412Write hfd bytes

theorem wp_ipcClientPoll (hstands : StandsIn ref phase w) (husable : phase.Usable) :
    wp (clientHandler others) Proper (ipcClientPoll (some ref.client)) (fun _ w' => w' = w) w := by
  refine wp_withHandlers hstands husable.ne_gone ?_
  exact wp_onDescriptor i9300Poll hstands husable rfl (fun _ => rfl)
    fun _ _ hfd => only_xmm626KernelSmdk4412PollClient hfd

theorem wp_frameWrites (hstands : StandsIn ref phase w) (husable : phase.Usable) (left : Bytes) :
    wp (clientHandler others) Proper (frameWrites (some ref.client) left) (fun _ w' => w' = w) w := by
  induction hlength : left.length using Nat.strong_induction_on generalizing left with
  | h length ih =>
      rw [frameWrites]
      split_ifs with hleft
      · exact ⟨hstands.proper, rfl⟩
      · refine wp_bind.mpr (wp_mono (wp_handlersWrite hstands husable left) ?_)
        rintro rc _ rfl
        split_ifs with hrc
        · exact ⟨hstands.proper, rfl⟩
        · have hpos := List.length_pos_iff.mpr hleft
          exact ih _ (by rw [← hlength, List.length_drop]; omega) _ rfl

theorem wp_payloadReads (hstands : StandsIn ref phase w) (husable : phase.Usable) (missing : Nat)
    (reads : List (Option Bytes)) :
    wp (clientHandler others) Proper (payloadReads (some ref.client) missing reads)
      (fun _ w' => w' = w) w := by
  induction missing using Nat.strong_induction_on generalizing reads with
  | h missing ih =>
      rw [payloadReads]
      split_ifs with hmissing
      · exact ⟨hstands.proper, rfl⟩
      · refine wp_bind.mpr (wp_mono (wp_handlersRead hstands husable missing) ?_)
        rintro answer _ rfl
        dsimp only
        split_ifs with hcount
        · exact ⟨hstands.proper, rfl⟩
        · exact ih _ (by omega) _

theorem wp_clientFrameRecv {H : Type} (format : HeaderFormat H) (limit : Option Nat)
    (hstands : StandsIn ref phase w) (husable : phase.Usable) :
    wp (clientHandler others) Proper (clientFrameRecv format limit (some ref.client))
      (fun _ w' => w' = w) w := by
  refine wp_bind.mpr (wp_mono (wp_handlersRead hstands husable _) ?_)
  rintro first _ rfl
  dsimp only
  split_ifs
  · exact ⟨hstands.proper, rfl⟩
  · refine wp_bind.mpr (wp_mono (wp_payloadReads hstands husable _ _) ?_)
    rintro reads _ rfl
    exact ⟨hstands.proper, rfl⟩

theorem wp_ipcClientRecv (hstands : StandsIn ref phase w) (husable : phase.Usable) :
    wp (clientHandler others) Proper (ipcClientRecv (some ref.client)) (fun _ w' => w' = w) w := by
  refine wp_load hstands.proper (hstands.client_live husable.ne_gone) ?_
  split_ifs
  · exact wp_clientFrameRecv _ _ hstands husable
  · exact wp_clientFrameRecv _ _ hstands husable
  · exact ⟨hstands.proper, rfl⟩

/-- A message without a byte to send is sent without a look at the data. -/
theorem wp_ipcClientSend (hstands : StandsIn ref phase w) (hphase : phase ≠ .gone) (message : IpcMessage)
    (hsendable : phase.Usable ∨ ref.frame message = []) :
    wp (clientHandler others) Proper (ipcClientSend (some ref.client) message) (fun _ w' => w' = w) w := by
  have hwrites : wp (clientHandler others) Proper
      (frameWrites (some ref.client) (ref.frame message)) (fun _ w' => w' = w) w := by
    rcases hsendable with husable | hempty
    · exact wp_frameWrites hstands husable _
    · rw [hempty, frameWrites, dif_pos rfl]
      exact ⟨hstands.proper, rfl⟩
  refine wp_load hstands.proper (hstands.client_live hphase) ?_
  dsimp only
  split_ifs with hfmt hrfs
  · rwa [ClientRef.frame, if_pos hfmt] at hwrites
  · rwa [ClientRef.frame, if_neg hfmt] at hwrites
  · exact absurd ref.type_mem (not_or.mpr ⟨hfmt, hrfs⟩)

theorem wp_ipcClientBoot (hstands : StandsIn ref phase w) (hphase : phase ≠ .gone) :
    wp (clientHandler others) Proper (ipcClientBoot (some ref.client))
      (fun rc w' => (rc = some 0 ∨ rc = some (-1)) ∧ w' = w) w := by
  refine wp_load hstands.proper (hstands.client_live hphase) ?_
  dsimp only
  split_ifs
  · have hboot := @wp_i9300Boot others phase.own xmm626NvConfig.client
    rw [← hstands.resources] at hboot
    refine wp_mono (wp_left (fun s hs => ⟨hs, hstands.sound⟩) hboot) ?_
    rintro rc ⟨s, m⟩ ⟨⟨hrc, rfl⟩, rfl⟩
    exact ⟨hrc, rfl⟩
  · exact ⟨hstands.proper, .inr rfl, rfl⟩

theorem wp_ipcClientPowerOff (hstands : StandsIn ref phase w) (hphase : phase ≠ .gone) :
    wp (clientHandler others) Proper (ipcClientPowerOff (some ref.client)) (fun _ w' => w' = w) w := by
  refine wp_withHandlers hstands hphase ?_
  have hpowerOff := @wp_i9300PowerOff others phase.own
  rw [← hstands.resources] at hpowerOff
  refine wp_mono (wp_left (fun s hs => ⟨hs, hstands.sound⟩) hpowerOff) ?_
  rintro rc ⟨s, m⟩ ⟨rfl, rfl⟩
  rfl

theorem wp_ipcClientPowerOn (hstands : StandsIn ref phase w) (hphase : phase ≠ .gone) :
    wp (clientHandler others) Proper (ipcClientPowerOn (some ref.client))
      (fun rc w' => rc = 0 ∧ w' = w) w :=
  wp_withHandlers hstands hphase ⟨hstands.proper, rfl, rfl⟩

/-- Other data, or no data, in the place of those that there were. -/
theorem StandsIn.putData (hstands : StandsIn ref phase w) (hdata : phase.data = some data)
    (hlive : data < w.2.next) (hnext : next.data = some data) {s : BootResources}
    (hresources : s = .clean next.own) :
    StandsIn ref next (s, w.2.put .transportData data next.descriptor) where
  resources := hresources
  sound := hstands.sound
  beyond := by
    intro kind address hbeyond
    have hempty := hstands.beyond kind address hbeyond
    by_cases hkind : kind = .transportData
    · subst hkind
      have hne : address ≠ data := (hlive.trans_le hbeyond).ne'
      rw [Memory.content_put_of_ne hne]
      exact hempty
    · rw [Memory.content_put_other hkind]
      exact hempty
  client := by
    have hphase : phase ≠ .gone := by
      rintro rfl
      cases hdata
    rw [Memory.content_put_other (by decide), hstands.client_live hphase]
    cases next with
    | gone => cases hnext
    | blank | fresh | opened | shut | dangling => rfl
  handlers := by
    have hphase : phase ≠ .gone := by
      rintro rfl
      cases hdata
    rw [Memory.content_put_other (by decide), hstands.handlers_live hphase, hdata, ← hnext]
    cases next with
    | gone => cases hnext
    | blank | fresh | opened | shut | dangling => rfl
  data := by
    intro other hother
    rw [hnext] at hother
    cases hother
    exact Memory.content_put_self

theorem wp_ipcClientOpen (hstands : StandsIn ref phase w) (hopenable : phase.Openable) :
    wp (clientHandler others) Proper (ipcClientOpen (some ref.client))
      (fun rc w' => ∃ next, phase.Opens rc next ∧ StandsIn ref next w') w := by
  have hdata : ∀ data fd, phase.data = some data → phase.descriptor = some fd → phase.own = ∅ →
      phase ≠ .gone → (∀ rc next, rc = some 0 ∧ (∃ fd, next = .opened data fd) ∨
        rc = some (-1) ∧ next = .shut data → phase.Opens rc next) →
      wp (clientHandler others) Proper (ipcClientOpen (some ref.client))
        (fun rc w' => ∃ next, phase.Opens rc next ∧ StandsIn ref next w') w := by
    intro data fd hdata hdescriptor hown hphase hopens
    have hcontent := (hstands.data data hdata).trans hdescriptor
    have hlive : data < w.2.next := hstands.lt_next (by rw [hcontent]; nofun)
    refine wp_withHandlers hstands hphase ?_
    rw [hdata]
    have hopen : wp (BootResources.handler others) Rightful (xmm626KernelSmdk4412Open ref.type)
        (fun fd s => fd = -1 ∧ s = .clean ∅ ∨
          ∃ opened : Fd, fd = opened ∧ s = .clean {(opened : Int)}) w.1 := by
      rw [hstands.resources, hown]
      exact wp_xmm626KernelSmdk4412Open ref.type
    refine wp_bind.mpr (wp_onModem (fun s hs => ⟨hs, hstands.sound⟩) hopen ?_)
    rintro fd s (⟨rfl, rfl⟩ | ⟨opened, rfl, rfl⟩)
    · have hshut : StandsIn ref (.shut data) (.clean ∅, w.2.put .transportData data (some (-1))) :=
        hstands.putData hdata hlive rfl rfl
      refine wp_store ⟨rfl, hstands.sound⟩ hcontent ⟨hshut.proper, hshut.proper, .shut data, ?_, hshut⟩
      exact hopens _ _ (.inr ⟨rfl, rfl⟩)
    · have hopened : StandsIn ref (.opened data opened)
          (.clean {(opened : Int)}, w.2.put .transportData data (some (opened : Int))) :=
        hstands.putData hdata hlive rfl rfl
      refine wp_store ⟨rfl, hstands.sound⟩ hcontent ?_
      rw [if_neg (not_lt.mpr (Int.natCast_nonneg _))]
      exact ⟨hopened.proper, hopened.proper, .opened data opened, hopens _ _ (.inl ⟨rfl, opened, rfl⟩),
        hopened⟩
  cases phase with
  | blank => exact wp_withHandlers hstands nofun ⟨hstands.proper, .blank, ⟨rfl, rfl⟩, hstands⟩
  | fresh data => exact hdata data 0 rfl rfl rfl nofun fun _ _ h => h
  | shut data => exact hdata data (-1) rfl rfl rfl nofun fun _ _ h => h
  | opened data fd => exact hopenable.elim
  | dangling data => exact hopenable.elim
  | gone => exact hopenable.elim

theorem wp_ipcClientClose (hstands : StandsIn ref phase w) (husable : phase.Usable) :
    wp (clientHandler others) Proper (ipcClientClose (some ref.client))
      (fun rc w' => ∃ next, phase.Closes rc next ∧ StandsIn ref next w') w := by
  have hdata : ∀ data fd, phase.data = some data → phase.descriptor = some fd →
      wp (BootResources.handler others) Rightful (xmm626KernelSmdk4412Close fd)
        (fun _ s => s = .clean ∅) w.1 → phase.Closes 0 (.shut data) →
      wp (clientHandler others) Proper (ipcClientClose (some ref.client))
        (fun rc w' => ∃ next, phase.Closes rc next ∧ StandsIn ref next w') w := by
    intro data fd hdata hdescriptor hclose hcloses
    have hcontent := (hstands.data data hdata).trans hdescriptor
    have hlive : data < w.2.next := hstands.lt_next (by rw [hcontent]; nofun)
    refine wp_withHandlers hstands husable.ne_gone ?_
    rw [hdata]
    refine wp_load hstands.proper hcontent (wp_onModem (fun s hs => ⟨hs, hstands.sound⟩) hclose ?_)
    rintro _ s rfl
    have hshut : StandsIn ref (.shut data) (.clean ∅, w.2.put .transportData data (some (-1))) :=
      hstands.putData hdata hlive rfl rfl
    exact wp_store ⟨rfl, hstands.sound⟩ hcontent ⟨hshut.proper, .shut data, hcloses, hshut⟩
  cases phase with
  | blank => exact wp_withHandlers hstands nofun ⟨hstands.proper, .blank, ⟨rfl, rfl⟩, hstands⟩
  | opened data fd =>
      refine hdata data fd rfl rfl ?_ ⟨rfl, rfl⟩
      have hmem : (fd : Int) ∈ w.1.own := by
        rw [hstands.resources]
        exact Finset.mem_singleton_self _
      have hclosed : w.1.close fd = .clean ∅ := by
        rw [BootResources.close, if_pos hmem, hstands.resources]
        change BootResources.clean (Finset.erase {(fd : Int)} fd) = _
        rw [Finset.erase_singleton]
      rw [xmm626KernelSmdk4412Close, if_neg (not_lt.mpr (Int.natCast_nonneg _))]
      refine ⟨hstands.proper.1, fun choice => ?_⟩
      change wp _ _ (pure 0) _ (w.1.close fd)
      rw [hclosed]
      exact ⟨rfl, rfl⟩
  | shut data => exact hdata data (-1) rfl rfl ⟨hstands.proper.1, hstands.resources⟩ ⟨rfl, rfl⟩
  | fresh data => exact husable.elim
  | dangling data => exact husable.elim
  | gone => exact husable.elim

theorem wp_ipcClientDataDestroy (hstands : StandsIn ref phase w) (hopenable : phase.Openable) :
    wp (clientHandler others) Proper (ipcClientDataDestroy (some ref.client))
      (fun rc w' => ∃ next, phase.Forgets rc next ∧ StandsIn ref next w') w := by
  have hdata : ∀ data fd, phase.data = some data → phase.descriptor = some fd → phase.own = ∅ →
      phase ≠ .gone → phase.Forgets 0 (.dangling data) →
      wp (clientHandler others) Proper (ipcClientDataDestroy (some ref.client))
        (fun rc w' => ∃ next, phase.Forgets rc next ∧ StandsIn ref next w') w := by
    intro data fd hdata hdescriptor hown hphase hforgets
    have hcontent := (hstands.data data hdata).trans hdescriptor
    have hlive : data < w.2.next := hstands.lt_next (by rw [hcontent]; nofun)
    have hdangling : StandsIn ref (.dangling data) (w.1, w.2.put .transportData data none) :=
      hstands.putData hdata hlive rfl (by rw [hstands.resources, hown]; rfl)
    refine wp_withHandlers hstands hphase ?_
    rw [hdata]
    exact wp_free hstands.proper hcontent ⟨hdangling.proper, .dangling data, hforgets, hdangling⟩
  cases phase with
  | blank => exact wp_withHandlers hstands nofun ⟨hstands.proper, .blank, ⟨rfl, rfl⟩, hstands⟩
  | fresh data => exact hdata data 0 rfl rfl rfl nofun ⟨rfl, rfl⟩
  | shut data => exact hdata data (-1) rfl rfl rfl nofun ⟨rfl, rfl⟩
  | opened data fd => exact hopenable.elim
  | dangling data => exact hopenable.elim
  | gone => exact hopenable.elim

/-- New data take the place of those that there were, which nobody finds any more. -/
theorem wp_ipcClientDataCreate (hstands : StandsIn ref phase w) (hphase : phase ≠ .gone)
    (hown : phase.own = ∅) :
    wp (clientHandler others) Proper (ipcClientDataCreate (some ref.client))
      (fun rc w' => rc = 0 ∧ ∃ data, StandsIn ref (.fresh data) w') w := by
  have hhandlers := hstands.handlers_live hphase
  have hlive : ref.handlers < w.2.next := hstands.lt_next (by rw [hhandlers]; nofun)
  have hkept : (w.2.alloc .transportData (0 : Int)).content .handlers ref.handlers =
      some ⟨phase.data⟩ := by
    change (w.2.put .transportData w.2.next (some (0 : Int))).content .handlers ref.handlers = _
    rw [Memory.content_put_other (by decide), hhandlers]
  refine wp_withHandlers hstands hphase (wp_alloc hstands.proper (wp_store hstands.proper hkept ?_))
  refine ⟨hstands.proper, rfl, w.2.next, ?_⟩
  refine ⟨?_, hstands.sound, ?_, ?_, Memory.content_put_self, ?_⟩
  · rw [hstands.resources, hown]
    rfl
  · intro kind address hbeyond
    change w.2.next + 1 ≤ address at hbeyond
    have hempty := hstands.beyond kind address (Nat.le_of_lt hbeyond)
    cases kind with
    | client =>
        rw [Memory.content_put_other (by decide)]
        change (w.2.put .transportData w.2.next (some (0 : Int))).content .client address = none
        rw [Memory.content_put_other (by decide), hempty]
    | handlers =>
        rw [Memory.content_put_of_ne (by exact (hlive.trans hbeyond).ne')]
        change (w.2.put .transportData w.2.next (some (0 : Int))).content .handlers address = none
        rw [Memory.content_put_other (by decide), hempty]
    | transportData =>
        rw [Memory.content_put_other (by decide)]
        change (w.2.put .transportData w.2.next (some (0 : Int))).content .transportData address = none
        rw [Memory.content_put_of_ne (by exact Nat.ne_of_gt hbeyond), hempty]
  · rw [Memory.content_put_other (by decide)]
    change (w.2.put .transportData w.2.next (some (0 : Int))).content .client ref.client = _
    rw [Memory.content_put_other (by decide), hstands.client_live hphase]
    rfl
  · intro data hdata
    cases hdata
    rw [Memory.content_put_other (by decide)]
    change (w.2.put .transportData w.2.next (some (0 : Int))).content .transportData w.2.next = some 0
    rw [Memory.content_put_self]

theorem wp_ipcClientDestroy (hstands : StandsIn ref phase w) (hphase : phase ≠ .gone)
    (hown : phase.own = ∅) :
    wp (clientHandler others) Proper (ipcClientDestroy (some ref.client))
      (fun rc w' => rc = 0 ∧ StandsIn ref .gone w') w := by
  have hclient := hstands.client_live hphase
  have hhandlers := hstands.handlers_live hphase
  have hclientLt : ref.client < w.2.next := hstands.lt_next (by rw [hclient]; nofun)
  have hhandlersLt : ref.handlers < w.2.next := hstands.lt_next (by rw [hhandlers]; nofun)
  have hkept : (w.2.put .handlers ref.handlers none).content .client ref.client =
      some ⟨ref.type, some ref.handlers⟩ := by
    rw [Memory.content_put_other (by decide), hclient]
  refine wp_load hstands.proper hclient (wp_free hstands.proper hhandlers ?_)
  refine wp_store hstands.proper hkept (wp_free hstands.proper Memory.content_put_self ?_)
  refine ⟨hstands.proper, rfl, ?_, hstands.sound, ?_, Memory.content_put_self, ?_, nofun⟩
  · rw [hstands.resources, hown]
    rfl
  · intro kind address hbeyond
    change w.2.next ≤ address at hbeyond
    have hempty := hstands.beyond kind address hbeyond
    cases kind with
    | client =>
        have hne : address ≠ ref.client := (hclientLt.trans_le hbeyond).ne'
        rw [Memory.content_put_of_ne hne, Memory.content_put_of_ne hne,
          Memory.content_put_other (by decide), hempty]
    | handlers =>
        have hne : address ≠ ref.handlers := (hhandlersLt.trans_le hbeyond).ne'
        rw [Memory.content_put_other (by decide), Memory.content_put_other (by decide),
          Memory.content_put_of_ne hne, hempty]
    | transportData => rw [Memory.content_put_other (by decide), Memory.content_put_other (by decide),
        Memory.content_put_other (by decide), hempty]
  · rw [Memory.content_put_other (by decide), Memory.content_put_other (by decide)]
    exact Memory.content_put_self

/-- Every request that the protocol allows does what it tells, and misuses nothing on the way. -/
theorem wp_request {request : ClientRequest β} (hstands : StandsIn ref phase w)
    (hsubject : request.subject = some ref.client) (hallows : phase.Allows ref request) :
    wp (clientHandler others) Proper request.body
      (fun answer w' => ∃ next, phase.Leads request answer next ∧ StandsIn ref next w') w := by
  obtain ⟨hphase, hallows⟩ := hallows
  have hsame : ∀ {γ : Type} {p : ClientProg γ} {P : γ → Prop},
      wp (clientHandler others) Proper p (fun answer w' => P answer ∧ w' = w) w →
      wp (clientHandler others) Proper p
        (fun answer w' => ∃ next, (P answer ∧ next = phase) ∧ StandsIn ref next w') w := by
    intro γ p P hp
    refine wp_mono hp ?_
    rintro answer _ ⟨hanswer, rfl⟩
    exact ⟨phase, ⟨hanswer, rfl⟩, hstands⟩
  have hkept : ∀ {γ : Type} {p : ClientProg γ}, wp (clientHandler others) Proper p (fun _ w' => w' = w) w →
      wp (clientHandler others) Proper p (fun _ w' => ∃ next, next = phase ∧ StandsIn ref next w') w := by
    intro γ p hp
    refine wp_mono hp ?_
    rintro answer _ rfl
    exact ⟨phase, rfl, hstands⟩
  cases request with
  | create type => exact hallows.elim
  | destroy client =>
      obtain rfl : client = some ref.client := hsubject
      refine wp_mono (wp_ipcClientDestroy hstands hphase hallows) ?_
      rintro rc w' ⟨hrc, hgone⟩
      exact ⟨.gone, ⟨hrc, rfl⟩, hgone⟩
  | boot client =>
      obtain rfl : client = some ref.client := hsubject
      exact hsame (wp_ipcClientBoot hstands hphase)
  | send client message =>
      obtain rfl : client = some ref.client := hsubject
      exact hkept (wp_ipcClientSend hstands hphase message hallows)
  | recv client =>
      obtain rfl : client = some ref.client := hsubject
      exact hkept (wp_ipcClientRecv hstands hallows)
  | «open» client =>
      obtain rfl : client = some ref.client := hsubject
      exact wp_ipcClientOpen hstands hallows
  | close client =>
      obtain rfl : client = some ref.client := hsubject
      exact wp_ipcClientClose hstands hallows
  | poll client =>
      obtain rfl : client = some ref.client := hsubject
      exact hkept (wp_ipcClientPoll hstands hallows)
  | powerOn client =>
      obtain rfl : client = some ref.client := hsubject
      exact hsame (wp_ipcClientPowerOn hstands hphase)
  | powerOff client =>
      obtain rfl : client = some ref.client := hsubject
      exact hkept (wp_ipcClientPowerOff hstands hphase)
  | dataCreate client =>
      obtain rfl : client = some ref.client := hsubject
      refine wp_mono (wp_ipcClientDataCreate hstands hphase hallows) ?_
      rintro rc w' ⟨hrc, data, hfresh⟩
      exact ⟨.fresh data, ⟨hrc, data, rfl⟩, hfresh⟩
  | dataDestroy client =>
      obtain rfl : client = some ref.client := hsubject
      exact wp_ipcClientDataDestroy hstands hallows

end Requests

end SamsungIpc
