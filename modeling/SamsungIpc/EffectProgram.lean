import Mathlib.Data.Stream.Init

/-! Programs that act on a state through calls only, and their runs. Every call is answered by a
handler that is also given one element of an infinite stream of choices: what the environment may
decide at that call. A run can be cut between any two calls; the states it passes through are the
states a process that stops there leaves behind. -/

namespace Effect

/-- A program over the calls `F`: a value, or a call and what to do with its answer. -/
inductive Prog (F : Type → Type) (α : Type) : Type 1 where
  | pure (value : α)
  | call {β : Type} (request : F β) (next : β → Prog F α)

namespace Prog

variable {F : Type → Type} {α β γ : Type}

def bind : Prog F α → (α → Prog F β) → Prog F β
  | .pure value, rest => rest value
  | .call request next, rest => .call request fun answer => (next answer).bind rest

/-- The program that performs one call and returns its answer. -/
def perform (request : F α) : Prog F α := .call request .pure

instance monad : Monad (Prog F) where
  pure := Prog.pure
  bind := Prog.bind

theorem bind_pure_right (p : Prog F α) : p.bind .pure = p := by
  induction p with
  | pure value => rfl
  | call request next ih => exact congrArg (Prog.call request) (funext ih)

theorem bind_bind (p : Prog F α) (first : α → Prog F β) (second : β → Prog F γ) :
    (p.bind first).bind second = p.bind fun value => (first value).bind second := by
  induction p with
  | pure value => rfl
  | call request next ih => exact congrArg (Prog.call request) (funext ih)

instance lawfulMonad : LawfulMonad (Prog F) :=
  LawfulMonad.mk' (Prog F) bind_pure_right (fun _ _ => rfl) bind_bind

end Prog

/-- How a call acts on the state, given what the environment chooses for it. -/
abbrev Handler (F : Type → Type) (C σ : Type) := ∀ β, C → F β → σ → β × σ

variable {F : Type → Type} {C σ α β : Type}

/-- The handler in an environment that keeps its choices to `P`. -/
def Handler.restrict (h : Handler F C σ) (P : C → Prop) : Handler F { choice // P choice } σ :=
  fun β choice request s => h β choice.val request s

/-- The result and the final state of a run. -/
def exec (h : Handler F C σ) : Prog F α → Stream' C → σ → α × σ
  | .pure value, _, s => (value, s)
  | .call request next, choices, s =>
      let answer := h _ choices.head request s
      exec h (next answer.1) choices.tail answer.2

/-- The states a run passes through, one before each call and the final one. -/
def stops (h : Handler F C σ) : Prog F α → Stream' C → σ → List σ
  | .pure _, _, s => [s]
  | .call request next, choices, s =>
      let answer := h _ choices.head request s
      s :: stops h (next answer.1) choices.tail answer.2

theorem exec_restrict {h : Handler F C σ} {P : C → Prop} (p : Prog F α)
    (choices : Stream' { choice // P choice }) (s : σ) :
    exec (h.restrict P) p choices s = exec h p (choices.map Subtype.val) s := by
  induction p generalizing choices s with
  | pure value => rfl
  | call request next ih => exact ih _ choices.tail _

/-- A sequence is run with its first program's choices, and then with those that are left. -/
theorem exec_bind (h : Handler F C σ) (p : Prog F α) (rest : α → Prog F β) (choices : Stream' C) (s : σ) :
    ∃ n, exec h (p >>= rest) choices s =
      exec h (rest (exec h p choices s).1) (choices.drop n) (exec h p choices s).2 := by
  induction p generalizing choices s with
  | pure value => exact ⟨0, rfl⟩
  | call request next ih =>
      obtain ⟨n, hn⟩ := ih (h _ choices.head request s).1 choices.tail (h _ choices.head request s).2
      exact ⟨n + 1, hn⟩

/-- Sequencing of programs that may leave with an exception: the first one has ended with a value. -/
theorem exec_except_bind_ok {ε : Type} {h : Handler F C σ} {p : ExceptT ε (Prog F) α}
    {choices : Stream' C} {s : σ} {value : α} (hp : (exec h p.run choices s).1 = .ok value)
    (rest : α → ExceptT ε (Prog F) β) :
    ∃ n, exec h (p >>= rest).run choices s =
      exec h (rest value).run (choices.drop n) (exec h p.run choices s).2 := by
  obtain ⟨n, hn⟩ := exec_bind h p.run (ExceptT.bindCont rest) choices s
  rw [hp] at hn
  exact ⟨n, hn⟩

theorem exec_except_bind_error {ε : Type} {h : Handler F C σ} {p : ExceptT ε (Prog F) α}
    {choices : Stream' C} {s : σ} {exit : ε} (hp : (exec h p.run choices s).1 = .error exit)
    (rest : α → ExceptT ε (Prog F) β) :
    (exec h (p >>= rest).run choices s).1 = .error exit := by
  obtain ⟨n, hn⟩ := exec_bind h p.run (ExceptT.bindCont rest) choices s
  rw [hp] at hn
  exact congrArg Prod.fst hn

/-- Every run from `s` keeps `I` at every state it passes through and ends with `Q`. -/
def wp (h : Handler F C σ) (I : σ → Prop) : Prog F α → (α → σ → Prop) → σ → Prop
  | .pure value, Q, s => I s ∧ Q value s
  | .call request next, Q, s =>
      I s ∧ ∀ choice, wp h I (next (h _ choice request s).1) Q (h _ choice request s).2

section Rules

variable {h : Handler F C σ} {I : σ → Prop} {Q : α → σ → Prop} {s : σ}

theorem wp_inv {p : Prog F α} (hp : wp h I p Q s) : I s := by
  cases p with
  | pure value => exact hp.1
  | call request next => exact hp.1

@[simp] theorem wp_pure {value : α} : wp h I (pure value) Q s ↔ I s ∧ Q value s := Iff.rfl

/-- Sequencing: the first program must end where the second one may start. -/
theorem wp_bind {p : Prog F α} {rest : α → Prog F β} {Q : β → σ → Prop} :
    wp h I (p >>= rest) Q s ↔ wp h I p (fun value s' => wp h I (rest value) Q s') s := by
  induction p generalizing s with
  | pure value => exact ⟨fun hp => ⟨wp_inv hp, hp⟩, fun hp => hp.2⟩
  | call request next ih =>
      constructor
      · exact fun hp => ⟨hp.1, fun choice => (ih _).mp (hp.2 choice)⟩
      · exact fun hp => ⟨hp.1, fun choice => (ih _).mpr (hp.2 choice)⟩

theorem wp_mono {p : Prog F α} {R : α → σ → Prop} (hp : wp h I p Q s)
    (hQR : ∀ value s', Q value s' → R value s') : wp h I p R s := by
  induction p generalizing s with
  | pure value => exact ⟨hp.1, hQR value s hp.2⟩
  | call request next ih => exact ⟨hp.1, fun choice => ih _ (hp.2 choice)⟩

/-- What every call keeps, a program keeps. -/
theorem wp_of_kept {R : σ → Prop}
    (hkept : ∀ β choice (request : F β) s, R s → R (h β choice request s).2) {p : Prog F α}
    (hs : R s) : wp h (fun _ => True) p (fun _ s' => R s') s := by
  induction p generalizing s with
  | pure value => exact ⟨trivial, hs⟩
  | call request next ih => exact ⟨trivial, fun choice => ih _ (hkept _ choice request s hs)⟩

/-- Sequencing of programs that may leave with an exception, which skips the second one. -/
theorem wp_except_bind {ε : Type} {p : ExceptT ε (Prog F) α} {rest : α → ExceptT ε (Prog F) β}
    {Q : Except ε β → σ → Prop} :
    wp h I (p >>= rest).run Q s ↔
      wp h I p.run (fun result s' =>
        match result with
        | .ok value => wp h I (rest value).run Q s'
        | .error exit => I s' ∧ Q (.error exit) s') s := by
  refine wp_bind.trans ?_
  constructor
  · refine fun hp => wp_mono hp fun result s' hresult => ?_
    cases result with
    | ok value => exact hresult
    | error exit => exact hresult
  · refine fun hp => wp_mono hp fun result s' hresult => ?_
    cases result with
    | ok value => exact hresult
    | error exit => exact hresult

/-- What `wp` promises of the end of a run holds of every run. -/
theorem wp_exec {p : Prog F α} (hp : wp h I p Q s) (choices : Stream' C) :
    Q (exec h p choices s).1 (exec h p choices s).2 := by
  induction p generalizing s choices with
  | pure value => exact hp.2
  | call request next ih => exact ih _ (hp.2 choices.head) choices.tail

/-- What `wp` promises of the states on the way holds wherever a run is cut. -/
theorem wp_stops {p : Prog F α} (hp : wp h I p Q s) (choices : Stream' C) :
    ∀ s' ∈ stops h p choices s, I s' := by
  induction p generalizing s choices with
  | pure value =>
      intro s' hs'
      rw [stops, List.mem_singleton] at hs'
      exact hs' ▸ hp.1
  | call request next ih =>
      intro s' hs'
      rw [stops, List.mem_cons] at hs'
      rcases hs' with rfl | hs'
      · exact hp.1
      · exact ih _ (hp.2 choices.head) choices.tail s' hs'

end Rules

end Effect
