import SamsungIpc.ClientLifetime

/-! The requests that keep a client accounted for: an application that keeps to them misuses nothing, and
whatever else is asked for misuses something or loses a descriptor, for some answers of the kernel. -/

namespace SamsungIpc

open Effect ObjectMemory

/-- The requests of one client, with what they lead to. -/
def clientProtocol (ref : ClientRef) : Protocol ClientRequest ClientPhase where
  allows phase _ request := request.subject = some ref.client ∧ phase.Allows ref request
  leads phase _ request answer behind := phase.Leads request answer behind

/-- Memory that is all zero. -/
def zeroedPart : (kind : ObjectKind) → ClientPart kind
  | .client => ⟨0, none⟩
  | .handlers => ⟨none⟩
  | .transportData => (0 : Int)

/-- The kernel gives the descriptor `fd`, and the modem is online. -/
def willing (fd : Fd) : Stream' ClientChoice := Stream'.const (⟨.ok fd, .null, stateOnline, none⟩, zeroedPart)

section Applications

variable {others : Finset Int} {ref : ClientRef} {phase : ClientPhase} {w : ClientWorld} {α : Type}

theorem not_misused_of_proper (hproper : Proper w) : ¬Misused w := by
  rintro (hresources | hmemory)
  · exact absurd (hresources.symm.trans hproper.1) nofun
  · exact absurd (hmemory.symm.trans hproper.2) nofun

theorem StandsIn.not_misused (hstands : StandsIn ref phase w) : ¬Misused w :=
  not_misused_of_proper hstands.proper

/-- The first client of a process has the first two addresses. -/
def firstClient (type : Int) (htype : type = ipcClientTypeFmt ∨ type = ipcClientTypeRfs) : ClientRef where
  client := 0
  handlers := 1
  type := type
  type_mem := htype

theorem stands_create {type : Int} (htype : type = ipcClientTypeFmt ∨ type = ipcClientTypeRfs) :
    wp (clientHandler others) Proper (ClientRequest.create type).body
      (fun client w => client = some 0 ∧ StandsIn (firstClient type htype) .blank w) .initial := by
  have hcreate : ipcClientCreate type = ipcTransportClientCreate type := if_pos htype.symm
  have hproper : Proper .initial := ⟨rfl, rfl⟩
  change wp (clientHandler others) Proper (ipcClientCreate type) _ _
  rw [hcreate]
  let client : ClientObject := ⟨type, none⟩
  let handlers : HandlersObject := ⟨none⟩
  let made : ClientMemory := (Memory.empty.alloc .client client).alloc .handlers handlers
  have hput : made.content =
      ((Memory.empty.put .client 0 (some client)).put .handlers 1 (some handlers)).content := rfl
  have hmade : made.content .client 0 = some client := by
    rw [hput, Memory.content_put_other (by decide), Memory.content_put_self]
  refine wp_alloc hproper (wp_alloc hproper (wp_store hproper hmade ?_))
  refine ⟨hproper, rfl, rfl, rfl, ?_, rfl, rfl, nofun⟩
  intro kind address hbeyond
  have hne : address ≠ 0 := Nat.ne_of_gt (Nat.lt_of_lt_of_le Nat.zero_lt_two hbeyond)
  have hne' : address ≠ 1 := Nat.ne_of_gt (Nat.lt_of_lt_of_le Nat.one_lt_two hbeyond)
  change (made.put .client 0 (some (⟨type, some 1⟩ : ClientObject))).content kind address = none
  cases kind with
  | client =>
      rw [Memory.content_put_of_ne hne, hput, Memory.content_put_other (by decide),
        Memory.content_put_of_ne hne]
      rfl
  | handlers =>
      rw [Memory.content_put_other (by decide), hput, Memory.content_put_of_ne hne',
        Memory.content_put_other (by decide)]
      rfl
  | transportData =>
      rw [Memory.content_put_other (by decide), hput, Memory.content_put_other (by decide),
        Memory.content_put_other (by decide)]
      rfl

/-- An application that keeps to the protocol goes through its phases. -/
theorem wp_application {p : Prog ClientRequest α} {finish : α → ClientPhase → Prop}
    (hfollows : p.Follows (clientProtocol ref) finish phase) (hstands : StandsIn ref phase w) :
    wp (clientApi others) Proper p
      (fun value w' => ∃ behind, finish value behind ∧ StandsIn ref behind w') w :=
  wp_of_follows (clientProtocol ref) (StandsIn ref) (fun _ _ hstands => hstands.proper)
    (fun _ _ hstands _ _ hallows => wp_request hstands hallows.1 hallows.2) hfollows hstands

/-- The same for an application that makes its client. -/
theorem wp_create_application {type : Int} (htype : type = ipcClientTypeFmt ∨ type = ipcClientTypeRfs)
    {application : Option Address → Prog ClientRequest α} {finish : α → ClientPhase → Prop}
    (hfollows : (application (some 0)).Follows (clientProtocol (firstClient type htype)) finish .blank) :
    wp (clientApi others) Proper (Prog.perform (.create type) >>= application)
      (fun value w => ∃ phase, finish value phase ∧ StandsIn (firstClient type htype) phase w) .initial := by
  refine wp_via_call ⟨rfl, rfl⟩ (wp_mono (stands_create htype) ?_)
  rintro client w ⟨rfl, hstands⟩
  exact wp_application hfollows hstands

/-- An application that keeps to the protocol misuses neither its client nor a descriptor, whatever the kernel
answers and the modem sends. It leaves the descriptor, the client, the handlers and the current data that the
phase in which it finishes tells; other data may be left. -/
theorem application_accounted {type : Int} (htype : type = ipcClientTypeFmt ∨ type = ipcClientTypeRfs)
    {application : Option Address → Prog ClientRequest α} {finish : α → ClientPhase → Prop}
    (hfollows : (application (some 0)).Follows (clientProtocol (firstClient type htype)) finish .blank)
    (others : Finset Int) (choices : Stream' (Stream' ClientChoice)) :
    let run := exec (clientApi others) (Prog.perform (.create type) >>= application) choices .initial
    ¬Misused run.2 ∧ ∃ phase, finish run.1 phase ∧ StandsIn (firstClient type htype) phase run.2 := by
  have happlication := @wp_create_application others _ _ htype _ _ hfollows
  obtain ⟨phase, hfinish, hstands⟩ := wp_exec happlication choices
  exact ⟨hstands.not_misused, phase, hfinish, hstands⟩

def openOnce (client : Option Address) : Prog ClientRequest Int := do
  let _ ← Prog.perform (.dataCreate client)
  let _ ← Prog.perform (.open client)
  let _ ← Prog.perform (.close client)
  Prog.perform (.destroy client)

theorem follows_openOnce (ref : ClientRef) :
    (openOnce (some ref.client)).Follows (clientProtocol ref) (fun rc behind => rc = 0 ∧ behind = .gone)
      .blank := by
  refine ⟨⟨rfl, nofun, rfl⟩, ?_⟩
  rintro _ _ ⟨-, data, rfl⟩
  refine ⟨⟨rfl, nofun, trivial⟩, ?_⟩
  rintro _ _ (⟨-, fd, rfl⟩ | ⟨-, rfl⟩)
  · refine ⟨⟨rfl, nofun, trivial⟩, ?_⟩
    rintro _ _ ⟨-, rfl⟩
    exact ⟨⟨rfl, nofun, rfl⟩, fun _ _ hleads => hleads⟩
  · refine ⟨⟨rfl, nofun, trivial⟩, ?_⟩
    rintro _ _ ⟨-, rfl⟩
    exact ⟨⟨rfl, nofun, rfl⟩, fun _ _ hleads => hleads⟩

theorem openOnce_accounted :
    let run := exec (clientApi {0, 1, 2}) (Prog.perform (.create ipcClientTypeFmt) >>= openOnce)
      (Stream'.const (willing 3)) .initial
    ¬Misused run.2 ∧ ∃ phase, (run.1 = 0 ∧ phase = .gone) ∧
      StandsIn (firstClient ipcClientTypeFmt (.inl rfl)) phase run.2 :=
  application_accounted (.inl rfl) (follows_openOnce _) {0, 1, 2} (Stream'.const (willing 3))

end Applications

/-! ### What the protocol leaves out -/

/-- The client is in one of its phases. -/
def Accounted (ref : ClientRef) (w : ClientWorld) : Prop := ∃ phase, StandsIn ref phase w

section Misuses

variable {others : Finset Int} {ref : ClientRef} {phase : ClientPhase} {w : ClientWorld}
  {α β : Type} {kind : ObjectKind} {address : Address} {object : ClientPart kind}

theorem not_accounted_of_misused (hmisused : Misused w) : ¬Accounted ref w := by
  rintro ⟨phase, hstands⟩
  exact hstands.not_misused hmisused

/-- A misuse is never forgotten. -/
theorem misused_clientHandler (choice : ClientChoice) (request : ClientCall β) (hmisused : Misused w) :
    Misused (clientHandler others β choice request w).2 := by
  cases request with
  | left request =>
      rcases hmisused with hresources | hmemory
      · exact .inl (BootResources.misused_handler request hresources)
      · exact .inr hmemory
  | right request =>
      rcases hmisused with hresources | hmemory
      · exact .inl hresources
      · exact .inr (Memory.misused_handler request hmemory)

theorem wp_misused {p : ClientProg α} (hmisused : Misused w) :
    wp (clientHandler others) (fun _ => True) p (fun _ w' => Misused w') w :=
  wp_of_kept (fun _ choice request _ => misused_clientHandler choice request) hmisused

theorem wp_load_dead {rest : ClientPart kind → ClientProg β} (hdead : w.2.content kind address = none) :
    wp (clientHandler others) (fun _ => True) (loadObject kind address >>= rest) (fun _ w' => Misused w') w :=
  ⟨trivial, fun _ => wp_misused (.inr (Memory.load_of_not_live hdead))⟩

theorem wp_store_dead {rest : Unit → ClientProg β} (hdead : w.2.content kind address = none) :
    wp (clientHandler others) (fun _ => True) (storeObject kind address object >>= rest)
      (fun _ w' => Misused w') w :=
  ⟨trivial, fun _ => wp_misused (.inr (Memory.store_of_not_live hdead))⟩

theorem wp_free_dead {rest : Unit → ClientProg β} (hdead : w.2.content kind address = none) :
    wp (clientHandler others) (fun _ => True) (freeObject kind address >>= rest) (fun _ w' => Misused w') w :=
  ⟨trivial, fun _ => wp_misused (.inr (Memory.free_of_not_live hdead))⟩

/-- A function on the descriptor in the data, where that is not the client's. -/
theorem wp_unusable {refused : α} (handler : Option Address → ClientProg α)
    (body : Address → Int → ClientProg α) (hstands : StandsIn ref phase w) (hunusable : ¬phase.Usable)
    (hsome : ∀ data, handler (some data) = loadObject .transportData data >>= body data)
    (hzero : ∀ data, (0 : Int) ∉ w.1.own →
      wp (clientHandler others) (fun _ => True) (body data 0) (fun _ w' => Misused w') w) :
    wp (clientHandler others) (fun _ => True)
      (withHandlers (some ref.client) refused fun _ _ handlers => handler handlers.transportData)
      (fun _ w' => Misused w') w := by
  have hfound : ∀ data, phase.data = some data → phase ≠ .gone →
      wp (clientHandler others) (fun _ => True) (loadObject .transportData data >>= body data)
        (fun _ w' => Misused w') w →
      wp (clientHandler others) (fun _ => True)
        (withHandlers (some ref.client) refused fun _ _ handlers => handler handlers.transportData)
        (fun _ w' => Misused w') w := by
    intro data hdata hphase hload
    refine wp_load trivial (hstands.client_live hphase) (wp_load trivial (hstands.handlers_live hphase) ?_)
    dsimp only
    rwa [hdata, hsome]
  cases phase with
  | blank => exact absurd trivial hunusable
  | opened data fd => exact absurd trivial hunusable
  | shut data => exact absurd trivial hunusable
  | fresh data =>
      refine hfound data rfl nofun (wp_load trivial (hstands.data data rfl) (hzero data ?_))
      rw [hstands.resources]
      exact Finset.notMem_empty 0
  | dangling data => exact hfound data rfl nofun (wp_load_dead (hstands.data data rfl))
  | gone => exact wp_load_dead hstands.client

theorem misused_use {fd : Int} (hfd : fd ∉ w.1.own) : (w.1.use fd).misused = true :=
  misused_use_of_notMem hfd

theorem wp_handlersRead_unusable (hstands : StandsIn ref phase w) (hunusable : ¬phase.Usable) {length : Nat}
    (hlength : length ≠ 0) :
    wp (clientHandler others) (fun _ => True) (handlersRead (some ref.client) length)
      (fun _ w' => Misused w') w := by
  refine wp_unusable (fun data => i9300Read data length)
    (fun _ fd => onModem (xmm626KernelSmdk4412Read fd length)) hstands hunusable (fun _ => rfl)
    fun _ hzero => ?_
  have hargs : ¬((0 : Int) < 0 ∨ length = 0) := not_or.mpr ⟨lt_irrefl 0, hlength⟩
  rw [xmm626KernelSmdk4412Read, if_neg hargs]
  exact ⟨trivial, fun _ => wp_misused (.inl (misused_use hzero))⟩

theorem wp_handlersWrite_unusable (hstands : StandsIn ref phase w) (hunusable : ¬phase.Usable) {bytes : Bytes}
    (hbytes : bytes ≠ []) :
    wp (clientHandler others) (fun _ => True) (handlersWrite (some ref.client) bytes)
      (fun _ w' => Misused w') w := by
  refine wp_unusable (fun data => i9300Write data bytes)
    (fun _ fd => onModem (xmm626KernelSmdk4412Write fd bytes)) hstands hunusable (fun _ => rfl)
    fun _ hzero => ?_
  have hargs : ¬((0 : Int) < 0 ∨ bytes.length = 0) :=
    not_or.mpr ⟨lt_irrefl 0, mt List.length_eq_zero_iff.mp hbytes⟩
  rw [xmm626KernelSmdk4412Write, if_neg hargs]
  exact ⟨trivial, fun _ => wp_misused (.inl (misused_use hzero))⟩

theorem wp_ipcClientPoll_unusable (hstands : StandsIn ref phase w) (hunusable : ¬phase.Usable) :
    wp (clientHandler others) (fun _ => True) (ipcClientPoll (some ref.client))
      (fun _ w' => Misused w') w := by
  refine wp_unusable i9300Poll (fun _ fd => onModem (xmm626KernelSmdk4412PollClient fd)) hstands
    hunusable (fun _ => rfl) fun _ hzero => ?_
  exact ⟨trivial, fun _ => wp_misused (.inl (misused_use hzero))⟩

theorem wp_ipcClientClose_unusable (hstands : StandsIn ref phase w) (hunusable : ¬phase.Usable) :
    wp (clientHandler others) (fun _ => True) (ipcClientClose (some ref.client))
      (fun _ w' => Misused w') w := by
  let body (data : Address) (fd : Int) : ClientProg Int := do
    let _ ← onModem (xmm626KernelSmdk4412Close fd)
    storeObject .transportData data (-1 : Int)
    pure 0
  refine wp_unusable i9300Close body hstands hunusable (fun _ => rfl) fun _ hzero => ?_
  exact ⟨trivial, fun _ => wp_misused (.inl (misused_close_of_notMem hzero))⟩

theorem wp_ipcClientRecv_unusable (hstands : StandsIn ref phase w) (hunusable : ¬phase.Usable) :
    wp (clientHandler others) (fun _ => True) (ipcClientRecv (some ref.client))
      (fun _ w' => Misused w') w := by
  have hframe : ∀ {H : Type} (format : HeaderFormat H) (limit : Option Nat),
      wp (clientHandler others) (fun _ => True) (clientFrameRecv format limit (some ref.client))
        (fun _ w' => Misused w') w := fun format limit =>
    wp_bind.mpr (wp_mono (wp_handlersRead_unusable hstands hunusable (by decide))
      fun _ _ hmisused => wp_misused hmisused)
  by_cases hphase : phase = .gone
  · subst hphase
    exact wp_load_dead hstands.client
  · refine wp_load trivial (hstands.client_live hphase) ?_
    dsimp only
    split_ifs with hfmt hrfs
    · exact hframe _ _
    · exact hframe _ _
    · exact absurd ref.type_mem (not_or.mpr ⟨hfmt, hrfs⟩)

theorem wp_ipcClientSend_unusable (hstands : StandsIn ref phase w) {message : IpcMessage}
    (hunusable : ¬phase.Usable) (hframe : ref.frame message ≠ []) :
    wp (clientHandler others) (fun _ => True) (ipcClientSend (some ref.client) message)
      (fun _ w' => Misused w') w := by
  have hwrites : wp (clientHandler others) (fun _ => True)
      (frameWrites (some ref.client) (ref.frame message)) (fun _ w' => Misused w') w := by
    rw [frameWrites, dif_neg hframe]
    exact wp_bind.mpr (wp_mono (wp_handlersWrite_unusable hstands hunusable hframe)
      fun _ _ hmisused => wp_misused hmisused)
  by_cases hphase : phase = .gone
  · subst hphase
    exact wp_load_dead hstands.client
  · refine wp_load trivial (hstands.client_live hphase) ?_
    dsimp only
    split_ifs with hfmt hrfs
    · rwa [ClientRef.frame, if_pos hfmt] at hwrites
    · rwa [ClientRef.frame, if_neg hfmt] at hwrites
    · exact absurd ref.type_mem (not_or.mpr ⟨hfmt, hrfs⟩)

theorem wp_ipcClientOpen_dangling {data : Address} (hstands : StandsIn ref (.dangling data) w) :
    wp (clientHandler others) (fun _ => True) (ipcClientOpen (some ref.client))
      (fun _ w' => Misused w') w := by
  have hopen : wp (BootResources.handler others) (fun _ => True) (xmm626KernelSmdk4412Open ref.type)
      (fun _ _ => True) w.1 := wp_of_kept (fun _ _ _ _ _ => trivial) trivial
  refine wp_load trivial (hstands.client_live nofun) (wp_load trivial (hstands.handlers_live nofun) ?_)
  refine wp_bind.mpr (wp_bind.mpr (wp_mono (wp_left (fun _ _ => trivial) hopen) ?_))
  rintro fd ⟨s, m⟩ ⟨-, rfl⟩
  refine wp_mono (wp_store_dead (hstands.data data rfl)) ?_
  exact fun _ _ hmisused => wp_misused hmisused

theorem wp_ipcClientDataDestroy_dangling {data : Address} (hstands : StandsIn ref (.dangling data) w) :
    wp (clientHandler others) (fun _ => True) (ipcClientDataDestroy (some ref.client))
      (fun _ w' => Misused w') w :=
  wp_load trivial (hstands.client_live nofun)
    (wp_load trivial (hstands.handlers_live nofun) (wp_free_dead (hstands.data data rfl)))

/-- Nothing can be asked of a client that is gone. -/
theorem wp_gone {request : ClientRequest β} (hstands : StandsIn ref .gone w)
    (hsubject : request.subject = some ref.client) :
    wp (clientHandler others) (fun _ => True) request.body (fun _ w' => Misused w') w := by
  have hdead := hstands.client
  cases request with
  | create type => cases hsubject
  | destroy client =>
      obtain rfl : client = some ref.client := hsubject
      exact wp_load_dead hdead
  | boot client =>
      obtain rfl : client = some ref.client := hsubject
      exact wp_load_dead hdead
  | send client message =>
      obtain rfl : client = some ref.client := hsubject
      exact wp_load_dead hdead
  | recv client =>
      obtain rfl : client = some ref.client := hsubject
      exact wp_load_dead hdead
  | «open» client =>
      obtain rfl : client = some ref.client := hsubject
      exact wp_load_dead hdead
  | close client =>
      obtain rfl : client = some ref.client := hsubject
      exact wp_load_dead hdead
  | poll client =>
      obtain rfl : client = some ref.client := hsubject
      exact wp_load_dead hdead
  | powerOn client =>
      obtain rfl : client = some ref.client := hsubject
      exact wp_load_dead hdead
  | powerOff client =>
      obtain rfl : client = some ref.client := hsubject
      exact wp_load_dead hdead
  | dataCreate client =>
      obtain rfl : client = some ref.client := hsubject
      exact wp_load_dead hdead
  | dataDestroy client =>
      obtain rfl : client = some ref.client := hsubject
      exact wp_load_dead hdead

end Misuses

section Losses

variable {others : Finset Int} {ref : ClientRef} {w : ClientWorld} {data : Address} {fd : Fd}

/-- A client has one descriptor at most. -/
theorem ClientPhase.eq_of_mem_own (phase : ClientPhase) {a b : Int} (ha : a ∈ phase.own)
    (hb : b ∈ phase.own) : a = b := by
  cases phase with
  | opened data fd => rw [Finset.mem_singleton.mp ha, Finset.mem_singleton.mp hb]
  | blank => exact absurd ha (Finset.notMem_empty a)
  | fresh data => exact absurd ha (Finset.notMem_empty a)
  | shut data => exact absurd ha (Finset.notMem_empty a)
  | dangling data => exact absurd ha (Finset.notMem_empty a)
  | gone => exact absurd ha (Finset.notMem_empty a)

/-- A descriptor of the client can be found in the client's data. -/
theorem eq_opened_of_own {phase : ClientPhase} (hown : phase.own = {(fd : Int)}) :
    ∃ data, phase = .opened data fd := by
  cases phase with
  | opened data other =>
      have hfd : (other : Int) = fd := Finset.singleton_inj.mp hown
      exact ⟨data, by rw [Int.ofNat_inj.mp hfd]⟩
  | blank => exact absurd hown.symm (Finset.singleton_ne_empty _)
  | fresh data => exact absurd hown.symm (Finset.singleton_ne_empty _)
  | shut data => exact absurd hown.symm (Finset.singleton_ne_empty _)
  | dangling data => exact absurd hown.symm (Finset.singleton_ne_empty _)
  | gone => exact absurd hown.symm (Finset.singleton_ne_empty _)

/-- What is known of a client that still has its descriptor. -/
theorem Accounted.opened (haccounted : Accounted ref w) (hown : w.1.own = {(fd : Int)}) :
    w.2.content .client ref.client ≠ none ∧ ∃ data, w.2.content .handlers ref.handlers = some ⟨some data⟩ ∧
      w.2.content .transportData data = some (fd : Int) := by
  obtain ⟨phase, hstands⟩ := haccounted
  rw [hstands.resources] at hown
  obtain ⟨data, rfl⟩ := eq_opened_of_own hown
  refine ⟨?_, data, hstands.handlers_live nofun, hstands.data data rfl⟩
  rw [hstands.client_live nofun]
  exact nofun

theorem StandsIn.own_opened (hstands : StandsIn ref (.opened data fd) w) : w.1.own = {(fd : Int)} := by
  rw [hstands.resources]
  rfl

/-- The data are freed, and the descriptor with them is known to nobody. -/
theorem wp_ipcClientDataDestroy_opened (hstands : StandsIn ref (.opened data fd) w) :
    wp (clientHandler others) (fun _ => True) (ipcClientDataDestroy (some ref.client))
      (fun _ w' => ¬Accounted ref w') w := by
  have hcontent := hstands.data data rfl
  refine wp_load trivial (hstands.client_live nofun) (wp_load trivial (hstands.handlers_live nofun) ?_)
  refine wp_free trivial hcontent ⟨trivial, fun haccounted => ?_⟩
  obtain ⟨-, other, hhandlers, hfound⟩ := haccounted.opened hstands.own_opened
  rw [Memory.content_put_other (by decide), hstands.handlers_live nofun] at hhandlers
  cases hhandlers
  rw [Memory.content_put_self] at hfound
  cases hfound

/-- The new data take the place of those with the descriptor. -/
theorem wp_ipcClientDataCreate_opened (hstands : StandsIn ref (.opened data fd) w)
    (hstdin : (0 : Int) ∉ w.1.own) :
    wp (clientHandler others) (fun _ => True) (ipcClientDataCreate (some ref.client))
      (fun _ w' => ¬Accounted ref w') w := by
  have hhandlers := hstands.handlers_live nofun
  have hkept : (w.2.alloc .transportData (0 : Int)).content .handlers ref.handlers =
      some ⟨some data⟩ := by
    change (w.2.put .transportData w.2.next (some (0 : Int))).content .handlers ref.handlers = _
    rw [Memory.content_put_other (by decide), hhandlers]
    rfl
  refine wp_load trivial (hstands.client_live nofun) (wp_load trivial hhandlers ?_)
  refine wp_alloc trivial (wp_store trivial hkept ⟨trivial, fun haccounted => ?_⟩)
  obtain ⟨-, other, hfresh, hfound⟩ := haccounted.opened hstands.own_opened
  rw [Memory.content_put_self] at hfresh
  cases hfresh
  rw [Memory.content_put_other (by decide)] at hfound
  change (w.2.put .transportData w.2.next (some (0 : Int))).content .transportData w.2.next = _ at hfound
  rw [Memory.content_put_self] at hfound
  refine hstdin ?_
  rw [hstands.own_opened, Option.some.inj hfound]
  exact Finset.mem_singleton_self _

theorem wp_ipcClientDestroy_opened (hstands : StandsIn ref (.opened data fd) w) :
    wp (clientHandler others) (fun _ => True) (ipcClientDestroy (some ref.client))
      (fun _ w' => ¬Accounted ref w') w := by
  have hclient := hstands.client_live nofun
  have hkept : (w.2.put .handlers ref.handlers none).content .client ref.client =
      some ⟨ref.type, some ref.handlers⟩ := by
    rw [Memory.content_put_other (by decide), hclient]
  refine wp_load trivial hclient (wp_free trivial (hstands.handlers_live nofun) ?_)
  refine wp_store trivial hkept (wp_free trivial Memory.content_put_self ⟨trivial, fun haccounted => ?_⟩)
  exact (haccounted.opened hstands.own_opened).1 Memory.content_put_self

theorem exec_load {β : Type} {kind : ObjectKind} {address : Address} {object : ClientPart kind}
    {rest : ClientPart kind → ClientProg β} (hlive : w.2.content kind address = some object)
    (choices : Stream' ClientChoice) :
    exec (clientHandler others) (loadObject kind address >>= rest) choices w =
      exec (clientHandler others) (rest object) choices.tail w := by
  change exec (clientHandler others) (rest (w.2.load choices.head.2 kind address).1) choices.tail
    (w.1, (w.2.load choices.head.2 kind address).2) = _
  rw [Memory.load_of_live hlive]

theorem exec_openFd {β : Type} {path : Path} {rest : Int → ClientProg β} {choices : Stream' ClientChoice}
    {other : Fd} (hopened : choices.head.1.opened = .ok other) (hfree : (other : Int) ∉ others ∪ w.1.own) :
    exec (clientHandler others) (onModem (openFd path) >>= rest) choices w =
      exec (clientHandler others) (rest other) choices.tail
        ({ w.1 with own := insert (other : Int) w.1.own }, w.2) := by
  have hanswer : w.1.openFile others choices.head.1.opened =
      (.ok other, { w.1 with own := insert (other : Int) w.1.own }) := by
    rw [hopened, BootResources.openFile, if_neg hfree]
  change exec (clientHandler others) (rest (openResult (w.1.openFile others choices.head.1.opened).1))
    choices.tail ((w.1.openFile others choices.head.1.opened).2, w.2) = _
  rw [hanswer]
  rfl

/-- The kernel may give a second descriptor, which takes the place of the first. -/
theorem exists_open_opened (others : Finset Int) (hstands : StandsIn ref (.opened data fd) w) : ∃ choices,
    ¬Accounted ref (exec (clientHandler others) (ipcClientOpen (some ref.client)) choices w).2 := by
  obtain ⟨other, hother⟩ := Infinite.exists_notMem_finset ((others ∪ w.1.own).image Int.toNat)
  have hfree : (other : Int) ∉ others ∪ w.1.own := fun hmem =>
    hother (Finset.mem_image.mpr ⟨other, hmem, Int.toNat_natCast other⟩)
  let choices := willing other
  refine ⟨choices, ?_⟩
  have hpath : ∃ path, xmm626KernelSmdk4412Open ref.type = openFd path := by
    unfold xmm626KernelSmdk4412Open
    split_ifs with hfmt hrfs
    · exact ⟨_, rfl⟩
    · exact ⟨_, rfl⟩
    · exact absurd ref.type_mem (not_or.mpr ⟨hfmt, hrfs⟩)
  obtain ⟨path, hpath⟩ := hpath
  let stored (fd : Int) : ClientProg Int := do
    storeObject .transportData data fd
    if fd < 0 then pure (-1) else pure 0
  have hrun : exec (clientHandler others) (ipcClientOpen (some ref.client)) choices w =
      exec (clientHandler others) (stored other >>= fun rc => pure (some rc)) choices
        ({ w.1 with own := insert (other : Int) w.1.own }, w.2) := by
    refine (exec_load (hstands.client_live nofun) choices).trans ?_
    refine (exec_load (hstands.handlers_live nofun) choices).trans ?_
    change exec (clientHandler others) ((onModem (xmm626KernelSmdk4412Open ref.type) >>= stored) >>=
      fun rc => pure (some rc)) choices w = _
    rw [bind_assoc, hpath, exec_openFd rfl hfree]
    rfl
  have hlost : ∀ m, ¬Accounted ref ({ w.1 with own := insert (other : Int) w.1.own }, m) := by
    rintro m ⟨phase, hstands'⟩
    have hown : insert (other : Int) w.1.own = phase.own := congrArg BootResources.own hstands'.resources
    have hother : (other : Int) ∈ phase.own := by
      rw [← hown]
      exact Finset.mem_insert_self _ _
    have hfd : (fd : Int) ∈ phase.own := by
      rw [← hown, hstands.own_opened]
      exact Finset.mem_insert_of_mem (Finset.mem_singleton_self _)
    have hne : (other : Int) ≠ fd := by
      rintro heq
      refine hfree (Finset.mem_union_right _ ?_)
      rw [hstands.own_opened, heq]
      exact Finset.mem_singleton_self _
    exact hne (phase.eq_of_mem_own hother hfd)
  rw [hrun]
  refine wp_exec (I := fun _ => True) (Q := fun _ w' => ¬Accounted ref w') (wp_bind.mpr ?_) choices
  refine wp_store trivial (hstands.data data rfl) ?_
  rw [if_neg (not_lt.mpr (Int.natCast_nonneg _))]
  exact ⟨trivial, trivial, hlost _⟩

end Losses

section Exactness

variable {others : Finset Int} {ref : ClientRef} {phase : ClientPhase} {w : ClientWorld} {β : Type}
  {request : ClientRequest β}

theorem exists_opened_of_own (hown : phase.own ≠ ∅) : ∃ data fd, phase = .opened data fd := by
  cases phase with
  | opened data fd => exact ⟨data, fd, rfl⟩
  | blank | fresh | shut | dangling | gone => exact absurd rfl hown

theorem cases_of_not_openable (hphase : phase ≠ .gone) (hopenable : ¬phase.Openable) :
    (∃ data fd, phase = .opened data fd) ∨ ∃ data, phase = .dangling data := by
  cases phase with
  | opened data fd => exact .inl ⟨data, fd, rfl⟩
  | dangling data => exact .inr ⟨data, rfl⟩
  | gone => exact absurd rfl hphase
  | blank | fresh | shut => exact absurd trivial hopenable

theorem exists_of_wp {p : ClientProg β}
    (hp : wp (clientHandler others) (fun _ => True) p (fun _ w' => ¬Accounted ref w') w) :
    ∃ choices, ¬Accounted ref (exec (clientHandler others) p choices w).2 :=
  ⟨willing 0, wp_exec hp _⟩

theorem exists_of_wp_misused {p : ClientProg β}
    (hp : wp (clientHandler others) (fun _ => True) p (fun _ w' => Misused w') w) :
    ∃ choices, ¬Accounted ref (exec (clientHandler others) p choices w).2 :=
  exists_of_wp (wp_mono hp fun _ _ => not_accounted_of_misused)

/-- What the protocol does not allow misuses something or loses a descriptor, for some answers. -/
theorem exists_unaccounted (hstands : StandsIn ref phase w) (hsubject : request.subject = some ref.client)
    (hstdin : (0 : Int) ∉ w.1.own) (hnot : ¬phase.Allows ref request) :
    ∃ choices, ¬Accounted ref (exec (clientHandler others) request.body choices w).2 := by
  by_cases hphase : phase = .gone
  · subst hphase
    exact exists_of_wp_misused (wp_gone hstands hsubject)
  have hnot' := not_and.mp hnot hphase
  cases request with
  | create type => cases hsubject
  | boot client => exact absurd trivial hnot'
  | powerOn client => exact absurd trivial hnot'
  | powerOff client => exact absurd trivial hnot'
  | destroy client =>
      obtain rfl : client = some ref.client := hsubject
      obtain ⟨data, fd, rfl⟩ := exists_opened_of_own hnot'
      exact exists_of_wp (wp_ipcClientDestroy_opened hstands)
  | dataCreate client =>
      obtain rfl : client = some ref.client := hsubject
      obtain ⟨data, fd, rfl⟩ := exists_opened_of_own hnot'
      exact exists_of_wp (wp_ipcClientDataCreate_opened hstands hstdin)
  | dataDestroy client =>
      obtain rfl : client = some ref.client := hsubject
      rcases cases_of_not_openable hphase hnot' with ⟨data, fd, rfl⟩ | ⟨data, rfl⟩
      · exact exists_of_wp (wp_ipcClientDataDestroy_opened hstands)
      · exact exists_of_wp_misused (wp_ipcClientDataDestroy_dangling hstands)
  | «open» client =>
      obtain rfl : client = some ref.client := hsubject
      rcases cases_of_not_openable hphase hnot' with ⟨data, fd, rfl⟩ | ⟨data, rfl⟩
      · exact exists_open_opened others hstands
      · exact exists_of_wp_misused (wp_ipcClientOpen_dangling hstands)
  | close client =>
      obtain rfl : client = some ref.client := hsubject
      exact exists_of_wp_misused (wp_ipcClientClose_unusable hstands hnot')
  | poll client =>
      obtain rfl : client = some ref.client := hsubject
      exact exists_of_wp_misused (wp_ipcClientPoll_unusable hstands hnot')
  | recv client =>
      obtain rfl : client = some ref.client := hsubject
      exact exists_of_wp_misused (wp_ipcClientRecv_unusable hstands hnot')
  | send client message =>
      obtain rfl : client = some ref.client := hsubject
      obtain ⟨hunusable, hframe⟩ := not_or.mp hnot'
      exact exists_of_wp_misused (wp_ipcClientSend_unusable hstands hunusable hframe)

/-- Where the descriptor zero is not the client's, a request leaves the client accounted for, whatever the
kernel answers, exactly when the protocol allows it. -/
theorem accounted_iff_allows (hstands : StandsIn ref phase w) (hsubject : request.subject = some ref.client)
    (hstdin : (0 : Int) ∉ w.1.own) :
    (∀ choices, Accounted ref (exec (clientHandler others) request.body choices w).2) ↔
      phase.Allows ref request := by
  constructor
  · intro haccounted
    by_contra hnot
    obtain ⟨choices, hchoices⟩ := @exists_unaccounted others _ _ _ _ _ hstands hsubject hstdin hnot
    exact hchoices (haccounted choices)
  · intro hallows choices
    obtain ⟨behind, -, hstands'⟩ := wp_exec (@wp_request others _ _ _ _ _ hstands hsubject hallows) choices
    exact ⟨behind, hstands'⟩

end Exactness

/-- The objects of a client whose data have just been made. -/
def freshContent : (kind : ObjectKind) → Address → Option (ClientPart kind)
  | .client, 0 => some ⟨ipcClientTypeFmt, some 1⟩
  | .handlers, 1 => some ⟨some 2⟩
  | .transportData, 2 => some (0 : Int)
  | _, _ => none

def freshRef : ClientRef := ⟨0, 1, ipcClientTypeFmt, .inl rfl⟩

def freshWorld : ClientWorld := (.initial, ⟨freshContent, 3, false⟩)

theorem stands_fresh : StandsIn freshRef (.fresh 2) freshWorld where
  resources := rfl
  sound := rfl
  beyond := by
    intro kind address hbeyond
    obtain ⟨more, rfl⟩ := Nat.exists_eq_add_of_le' hbeyond
    cases kind with
    | client => rfl
    | handlers => rfl
    | transportData => rfl
  client := rfl
  handlers := rfl
  data := by
    intro data hdata
    cases hdata
    rfl

/-- A client that is closed before it was ever opened is not accounted for. -/
theorem not_accounted_close_fresh :
    ¬∀ choices, Accounted freshRef
      (exec (clientHandler {0}) (ClientRequest.close (some 0)).body choices freshWorld).2 := by
  intro haccounted
  have hallows := (accounted_iff_allows stands_fresh rfl (Finset.notMem_empty 0)).mp haccounted
  exact hallows.2

end SamsungIpc
