import SamsungIpc.EffectAttempts

/-! Programs that make calls of certain kinds only, whatever they are answered. A state that such calls do
not change is left as it is. -/

namespace Effect

variable {F G : Type → Type} {C σ α β ε : Type}

/-- All the calls of the program are among the allowed ones. -/
def Prog.Only (Allowed : ∀ {β : Type}, F β → Prop) : Prog F α → Prop
  | .pure _ => True
  | .call request next => Allowed request ∧ ∀ answer, (next answer).Only Allowed

section Only

variable {Allowed : ∀ {β : Type}, F β → Prop} {p : Prog F α}

theorem Prog.Only.pure (value : α) : (pure value : Prog F α).Only Allowed := trivial

theorem Prog.Only.perform {request : F α} (hrequest : Allowed request) :
    (Prog.perform request).Only Allowed := ⟨hrequest, fun _ => trivial⟩

theorem Prog.Only.bind {rest : α → Prog F β} (hp : p.Only Allowed)
    (hrest : ∀ value, (rest value).Only Allowed) : (p >>= rest).Only Allowed := by
  induction p with
  | pure value => exact hrest value
  | call request next ih => exact ⟨hp.1, fun answer => ih answer (hp.2 answer)⟩

theorem Prog.Only.except_bind {p : ExceptT ε (Prog F) α} {rest : α → ExceptT ε (Prog F) β}
    (hp : p.run.Only Allowed) (hrest : ∀ value, (rest value).run.Only Allowed) :
    (p >>= rest).run.Only Allowed := by
  refine Prog.Only.bind hp fun result => ?_
  cases result with
  | ok value => exact hrest value
  | error exit => exact .pure _

theorem Prog.Only.ite {condition : Prop} [Decidable condition] {first second : Prog F α}
    (hfirst : condition → first.Only Allowed) (hsecond : ¬condition → second.Only Allowed) :
    (if condition then first else second).Only Allowed := by
  split
  · exact hfirst ‹_›
  · exact hsecond ‹_›

/-- The calls of a translated program are the translated ones. -/
theorem Prog.Only.translate {f : ∀ {β : Type}, G β → F β} (hf : ∀ {β} (request : G β), Allowed (f request))
    (p : Prog G α) : (p.translate f).Only Allowed := by
  induction p with
  | pure value => trivial
  | call request next ih => exact ⟨hf request, ih⟩

/-- A state that the allowed calls do not change is there at the end. -/
theorem wp_of_only {h : Handler F C σ} {I : σ → Prop} {s : σ} (hI : I s)
    (hkept : ∀ {β} (request : F β), Allowed request → ∀ choice, (h β choice request s).2 = s)
    (hp : p.Only Allowed) : wp h I p (fun _ s' => s' = s) s := by
  induction p with
  | pure value => exact ⟨hI, rfl⟩
  | call request next ih =>
      refine ⟨hI, fun choice => ?_⟩
      rw [hkept request hp.1 choice]
      exact ih _ (hp.2 _)

end Only

/-! ### What a program comes to -/

/-- Whatever the calls are answered, the program's value is as described. -/
def Prog.Yields (P : α → Prop) : Prog F α → Prop
  | .pure value => P value
  | .call _ next => ∀ answer, (next answer).Yields P

/-- Whatever the calls are answered, the program leaves its way by the exits that are described. -/
def EscapesOnly (E : ε → Prop) (p : ExceptT ε (Prog F) α) : Prop :=
  p.run.Yields fun result => ∀ exit, result = .error exit → E exit

section Yields

variable {P : α → Prop} {Q : β → Prop} {E : ε → Prop} {p : Prog F α}

theorem Prog.Yields.bind {rest : α → Prog F β} (hp : p.Yields P)
    (hrest : ∀ value, P value → (rest value).Yields Q) : (p >>= rest).Yields Q := by
  induction p with
  | pure value => exact hrest value hp
  | call request next ih => exact fun answer => ih answer (hp answer)

theorem Prog.yields_true (p : Prog F α) : p.Yields fun _ => True := by
  induction p with
  | pure value => trivial
  | call request next ih => exact ih

theorem Prog.Yields.ite {condition : Prop} [Decidable condition] {first second : Prog F α}
    (hfirst : condition → first.Yields P) (hsecond : ¬condition → second.Yields P) :
    (if condition then first else second).Yields P := by
  split
  · exact hfirst ‹_›
  · exact hsecond ‹_›

theorem Prog.Yields.translate {p : Prog G α} (f : ∀ {β : Type}, G β → F β) (hp : p.Yields P) :
    (p.translate f).Yields P := by
  induction p with
  | pure value => exact hp
  | call request next ih => exact fun answer => ih answer (hp answer)

/-- A run comes to such a value. -/
theorem Prog.Yields.exec (hp : p.Yields P) (h : Handler F C σ) (choices : Stream' C) (s : σ) :
    P (Effect.exec h p choices s).1 := by
  induction p generalizing choices s with
  | pure value => exact hp
  | call request next ih => exact ih _ (hp _) choices.tail _

/-- What the answers cannot change is known beside what `wp` tells. -/
theorem Prog.Yields.wp {h : Handler F C σ} {I : σ → Prop} {R : α → σ → Prop} {s : σ} (hp : p.Yields P)
    (hwp : Effect.wp h I p R s) : Effect.wp h I p (fun value s' => P value ∧ R value s') s := by
  induction p generalizing s with
  | pure value => exact ⟨hwp.1, hp, hwp.2⟩
  | call request next ih => exact ⟨hwp.1, fun choice => ih _ (hp _) (hwp.2 choice)⟩

theorem EscapesOnly.bind {p : ExceptT ε (Prog F) α} {rest : α → ExceptT ε (Prog F) β}
    (hp : EscapesOnly E p) (hrest : ∀ value, EscapesOnly E (rest value)) :
    EscapesOnly E (p >>= rest) := by
  refine Prog.Yields.bind hp fun result hresult => ?_
  cases result with
  | ok value => exact hrest value
  | error exit =>
      intro other hother
      exact hresult other (congrArg Except.error (Except.error.inj hother))

theorem EscapesOnly.pure (value : α) : EscapesOnly E (pure value : ExceptT ε (Prog F) α) := nofun

theorem EscapesOnly.ite {condition : Prop} [Decidable condition] {first second : ExceptT ε (Prog F) α}
    (hfirst : condition → EscapesOnly E first) (hsecond : ¬condition → EscapesOnly E second) :
    EscapesOnly E (if condition then first else second) := by
  split
  · exact hfirst ‹_›
  · exact hsecond ‹_›

end Yields

end Effect
