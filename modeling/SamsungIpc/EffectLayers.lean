import SamsungIpc.EffectCalls

/-! Programs in layers: calls of two kinds in one program, calls that are programs over other calls, notes of
the calls and their answers, and protocols that say which calls may follow which. -/

namespace Effect

variable {F G : Type → Type} {C D σ τ α β : Type}

/-- What is kept at every state is there at the end. -/
theorem wp_keeping {h : Handler F C σ} {I : σ → Prop} {p : Prog F α} {Q : α → σ → Prop} {s : σ}
    (hp : wp h I p Q s) : wp h I p (fun value s' => I s' ∧ Q value s') s := by
  induction p generalizing s with
  | pure value => exact ⟨hp.1, hp.1, hp.2⟩
  | call request next ih => exact ⟨hp.1, fun choice => ih _ (hp.2 choice)⟩

/-! ### Calls of two kinds -/

inductive SumCall (F G : Type → Type) (β : Type) where
  | left (request : F β)
  | right (request : G β)

/-- Each kind of call has a part of the state and of the choices. -/
def Handler.sum (h : Handler F C σ) (k : Handler G D τ) : Handler (SumCall F G) (C × D) (σ × τ)
  | _, choice, .left request, s =>
      ((h _ choice.1 request s.1).1, (h _ choice.1 request s.1).2, s.2)
  | _, choice, .right request, s =>
      ((k _ choice.2 request s.2).1, s.1, (k _ choice.2 request s.2).2)

/-- A program over one kind of calls leaves the other part of the state alone. -/
theorem wp_left {h : Handler F C σ} {k : Handler G D τ} {I : σ → Prop} {J : σ × τ → Prop} {s : σ} {t : τ}
    {p : Prog F α} {Q : α → σ → Prop} (hJ : ∀ s, I s → J (s, t)) (hp : wp h I p Q s) :
    wp (h.sum k) J (p.translate SumCall.left) (fun value w => Q value w.1 ∧ w.2 = t) (s, t) := by
  induction p generalizing s with
  | pure value => exact ⟨hJ s hp.1, hp.2, rfl⟩
  | call request next ih => exact ⟨hJ s hp.1, fun choice => ih _ (hp.2 choice.1)⟩

/-! ### Calls that are programs -/

/-- Each call has a stream of choices of its own. -/
def Handler.via (h : Handler F C σ) (body : ∀ {β : Type}, G β → Prog F β) :
    Handler G (Stream' C) σ :=
  fun _ choices request s => exec h (body request) choices s

/-- Notes are taken of every call and its answer. -/
def Handler.watch {ν : Type} (h : Handler F C σ) (note : ν → ∀ {β : Type}, F β → β → ν) :
    Handler F C (σ × ν) :=
  fun _ choice request s =>
    let answer := h _ choice request s.1
    (answer.1, answer.2, note s.2 request answer.1)

section Layers

variable {h : Handler F C σ} {body : ∀ {β : Type}, G β → Prog F β} {I : σ → Prop} {s : σ}

/-- What is known of the program that a call stands for is known behind the call. -/
theorem wp_via_call {request : G β} {next : β → Prog G α} {Q : α → σ → Prop} (hI : I s)
    (hbody : wp h I (body request) (fun answer s' => wp (h.via body) I (next answer) Q s') s) :
    wp (h.via body) I (.call request next) Q s :=
  ⟨hI, fun choices => wp_exec hbody choices⟩

theorem wp_watch_call {ν : Type} {note : ν → ∀ {β : Type}, G β → β → ν} {J : σ × ν → Prop} {n : ν}
    {request : G β} {next : β → Prog G α} {Q : α → σ × ν → Prop} (hJ : J (s, n))
    (hbody : wp h I (body request) (fun answer s' =>
      wp ((h.via body).watch note) J (next answer) Q (s', note n request answer)) s) :
    wp ((h.via body).watch note) J (Prog.perform request >>= next) Q (s, n) :=
  ⟨hJ, fun choices => wp_exec hbody choices⟩

end Layers

/-! ### Calls that a state takes notes of -/

/-- In these states the calls that `f` gives are answered as the environment allows, and the state takes the
notes of the environment. -/
structure Handler.Records {E : Type} (h : Handler G C σ) (f : ∀ {β : Type}, F β → G β)
    (env : Environment F E) (note : σ → List E → σ) (Fits : σ → Prop) : Prop where
  answers : ∀ s, Fits s → ∀ {β : Type} (request : F β) choice,
    env.Answers request (h β choice (f request) s).1
  notes : ∀ s, Fits s → ∀ {β : Type} (request : F β) choice,
    (h β choice (f request) s).2 = note s (env.events request (h β choice (f request) s).1)
  keeps : ∀ s events, Fits s → Fits (note s events)
  note_nil : ∀ s, note s [] = s
  note_append : ∀ s first second, note s (first ++ second) = note (note s first) second

section Records

variable {E : Type} {h : Handler G C σ} {f : ∀ {β : Type}, F β → G β} {env : Environment F E}
  {note : σ → List E → σ} {Fits I : σ → Prop} {s : σ} {p : Prog F α}

theorem runs_exec_of_records (hrecords : h.Records f env note Fits) (hs : Fits s) (choices : Stream' C) :
    ∃ result events, Runs env p result events := by
  induction p generalizing s choices with
  | pure value => exact ⟨value, [], rfl, rfl⟩
  | call request next ih =>
      have hkept : Fits (h _ choices.head (f request) s).2 := by
        rw [hrecords.notes s hs]
        exact hrecords.keeps s _ hs
      obtain ⟨result, events, hrun⟩ := ih (h _ choices.head (f request) s).1 hkept choices.tail
      exact ⟨result, _, _, events, hrecords.answers s hs request choices.head, hrun, rfl⟩

/-- The state at the end has the notes of a run, and a state on the way those of a start of one. -/
theorem wp_of_records (hrecords : h.Records f env note Fits) (hs : Fits s) (choices : Stream' C)
    (hI : ∀ result events, Runs env p result events → ∀ started, started <+: events →
      I (note s started)) :
    wp h I (p.translate f) (fun value s' => ∃ events, Runs env p value events ∧ s' = note s events) s := by
  have hstart : I s := by
    obtain ⟨result, events, hrun⟩ := runs_exec_of_records (p := p) hrecords hs choices
    rw [← hrecords.note_nil s]
    exact hI result events hrun [] (List.nil_prefix)
  induction p generalizing s with
  | pure value => exact ⟨hstart, [], ⟨rfl, rfl⟩, (hrecords.note_nil s).symm⟩
  | call request next ih =>
      refine ⟨hstart, fun choice => ?_⟩
      have hanswer := hrecords.answers s hs request choice
      have hnoted := hrecords.notes s hs request choice
      have hkept := hrecords.keeps s (env.events request (h _ choice (f request) s).1) hs
      rw [hnoted]
      have hrest : ∀ result events, Runs env (next (h _ choice (f request) s).1) result events →
          ∀ started, started <+: events →
            I (note (note s (env.events request (h _ choice (f request) s).1)) started) := by
        intro result events hrun started hstarted
        rw [← hrecords.note_append]
        exact hI result _ ⟨_, events, hanswer, hrun, rfl⟩ _ (List.prefix_append_right_inj _ |>.mpr hstarted)
      have hfirst : I (note s (env.events request (h _ choice (f request) s).1)) := by
        obtain ⟨result, events, hrun⟩ :=
          runs_exec_of_records (p := next (h _ choice (f request) s).1) hrecords hkept choices
        have hnil := hrest result events hrun [] List.nil_prefix
        rwa [hrecords.note_nil] at hnil
      refine wp_mono (ih _ hkept hrest hfirst) ?_
      intro value s' hend
      obtain ⟨events, hrun, rfl⟩ := hend
      exact ⟨_, ⟨_, events, hanswer, hrun, rfl⟩, (hrecords.note_append ..).symm⟩

end Records

/-! ### Protocols of calls -/

/-- What may be called in which phase, and the phases to which an answer may lead. -/
structure Protocol (F : Type → Type) (Phase : Type) where
  allows : Phase → ∀ {β : Type}, F β → Prop
  leads : Phase → ∀ {β : Type}, F β → β → Phase → Prop

/-- From this phase on the program calls what is allowed, and comes to a phase where it may finish. -/
def Prog.Follows {Phase : Type} (protocol : Protocol F Phase) (finish : α → Phase → Prop) :
    Prog F α → Phase → Prop
  | .pure value, phase => finish value phase
  | .call request next, phase =>
      protocol.allows phase request ∧
        ∀ answer behind, protocol.leads phase request answer behind →
          (next answer).Follows protocol finish behind

section Protocols

variable {Phase : Type} {protocol : Protocol F Phase} {finish : α → Phase → Prop} {phase : Phase}

theorem Prog.Follows.bind {done : β → Phase → Prop} {p : Prog F α} {rest : α → Prog F β}
    (hp : p.Follows protocol finish phase)
    (hrest : ∀ value behind, finish value behind → (rest value).Follows protocol done behind) :
    (p >>= rest).Follows protocol done phase := by
  induction p generalizing phase with
  | pure value => exact hrest value phase hp
  | call request next ih =>
      exact ⟨hp.1, fun answer behind hleads => ih answer (hp.2 answer behind hleads)⟩

theorem Prog.Follows.except_bind {ε : Type} {p : ExceptT ε (Prog F) α} {rest : α → ExceptT ε (Prog F) β}
    {finish : Except ε α → Phase → Prop} {done : Except ε β → Phase → Prop}
    (hp : p.run.Follows protocol finish phase)
    (hok : ∀ value behind, finish (.ok value) behind → (rest value).run.Follows protocol done behind)
    (herror : ∀ exit behind, finish (.error exit) behind → done (.error exit) behind) :
    (p >>= rest).run.Follows protocol done phase := by
  refine Prog.Follows.bind hp fun result behind hresult => ?_
  cases result with
  | ok value => exact hok value behind hresult
  | error exit => exact herror exit behind hresult

theorem Prog.Follows.perform {request : F α} (hallows : protocol.allows phase request) :
    (Prog.perform request).Follows protocol (protocol.leads phase request) phase :=
  ⟨hallows, fun _ _ hleads => hleads⟩

theorem Prog.Follows.ite {condition : Prop} [Decidable condition] {first second : Prog F α}
    (hfirst : condition → first.Follows protocol finish phase)
    (hsecond : ¬condition → second.Follows protocol finish phase) :
    (if condition then first else second).Follows protocol finish phase := by
  split
  · exact hfirst ‹_›
  · exact hsecond ‹_›

/-- Where every call that is allowed does what the protocol tells, every program that follows it goes through
the phases of the protocol. -/
theorem wp_of_follows {h : Handler F C σ} {body : ∀ {β : Type}, G β → Prog F β} {I : σ → Prop}
    (protocol : Protocol G Phase) (holds : Phase → σ → Prop) (hI : ∀ phase s, holds phase s → I s)
    (hcall : ∀ phase s, holds phase s → ∀ {β : Type} (request : G β), protocol.allows phase request →
      wp h I (body request)
        (fun answer s' => ∃ behind, protocol.leads phase request answer behind ∧ holds behind s') s)
    {p : Prog G α} {s : σ} (hfollows : p.Follows protocol finish phase) (hs : holds phase s) :
    wp (h.via body) I p (fun value s' => ∃ behind, finish value behind ∧ holds behind s') s := by
  induction p generalizing phase s with
  | pure value => exact ⟨hI phase s hs, phase, hfollows, hs⟩
  | call request next ih =>
      refine wp_via_call (hI phase s hs) (wp_mono (hcall phase s hs request hfollows.1) ?_)
      intro answer s' hbehind
      obtain ⟨behind, hleads, hholds⟩ := hbehind
      exact ih answer (hfollows.2 answer behind hleads) hholds

end Protocols

end Effect
