import Mathlib.Computability.Language
import Mathlib.Order.CompletePartialOrder
import SamsungIpc.EffectProgram

/-! The runs of a program whose calls are answered by an environment of which only the possible answers
are known. A run is the value it ends with and what an observer notes of its calls, in their order. What
the runs of a program note is a language, and a sequence notes the product of the languages of its parts. -/

namespace Effect

/-- The answers a call may get, and what is noted of an answered call. -/
structure Environment (F : Type → Type) (E : Type) where
  Answers : ∀ {β : Type}, F β → β → Prop
  events : ∀ {β : Type}, F β → β → List E

variable {F : Type → Type} {E α β ε : Type}

/-- The program can end with this result behind these events. -/
def Runs (env : Environment F E) : Prog F α → α → List E → Prop
  | .pure value, result, events => value = result ∧ events = []
  | .call request next, result, events =>
      ∃ answer rest, env.Answers request answer ∧ Runs env (next answer) result rest ∧
        events = env.events request answer ++ rest

variable {env : Environment F E}

@[simp] theorem runs_perform {request : F α} {answer : α} {events : List E} :
    Runs env (.perform request) answer events ↔
      env.Answers request answer ∧ events = env.events request answer := by
  constructor
  · rintro ⟨_, _, hanswer, ⟨rfl, rfl⟩, rfl⟩
    exact ⟨hanswer, List.append_nil _⟩
  · rintro ⟨hanswer, rfl⟩
    exact ⟨answer, [], hanswer, ⟨rfl, rfl⟩, (List.append_nil _).symm⟩

/-- A sequence runs its first program to the end, and then its second one. -/
theorem runs_bind {p : Prog F α} {rest : α → Prog F β} {result : β} {events : List E} :
    Runs env (p >>= rest) result events ↔
      ∃ value first second, Runs env p value first ∧ Runs env (rest value) result second ∧
        events = first ++ second := by
  induction p generalizing events with
  | pure value =>
      constructor
      · exact fun hrun => ⟨value, [], events, ⟨rfl, rfl⟩, hrun, rfl⟩
      · rintro ⟨_, _, second, ⟨rfl, rfl⟩, hrun, rfl⟩
        exact hrun
  | call request next ih =>
      constructor
      · rintro ⟨answer, later, hanswer, hrun, rfl⟩
        obtain ⟨value, first, second, hfirst, hsecond, rfl⟩ := (ih answer).mp hrun
        exact ⟨value, _, second, ⟨answer, first, hanswer, hfirst, rfl⟩, hsecond,
          (List.append_assoc ..).symm⟩
      · rintro ⟨value, _, second, ⟨answer, first, hanswer, hfirst, rfl⟩, hsecond, rfl⟩
        exact ⟨answer, first ++ second, hanswer,
          (ih answer).mpr ⟨value, first, second, hfirst, hsecond, rfl⟩, List.append_assoc ..⟩

/-- A sequence of programs that may leave with an exception has a value only if both have one. -/
theorem runs_except_bind_ok {p : ExceptT ε (Prog F) α} {rest : α → ExceptT ε (Prog F) β} {result : β}
    {events : List E} :
    Runs env (p >>= rest).run (.ok result) events ↔
      ∃ value first second, Runs env p.run (.ok value) first ∧
        Runs env (rest value).run (.ok result) second ∧ events = first ++ second := by
  refine runs_bind.trans ?_
  constructor
  · rintro ⟨value, first, second, hfirst, hsecond, rfl⟩
    cases value with
    | ok value => exact ⟨value, first, second, hfirst, hsecond, rfl⟩
    | error exit => exact absurd hsecond.1 (by simp)
  · rintro ⟨value, first, second, hfirst, hsecond, rfl⟩
    exact ⟨.ok value, first, second, hfirst, hsecond, rfl⟩

/-- Every run that ends with a value notes a word of `L`, and the value satisfies `P`. -/
def Emits (env : Environment F E) (p : ExceptT ε (Prog F) α) (L : Language E) (P : α → Prop) : Prop :=
  ∀ value events, Runs env p.run (.ok value) events → events ∈ L ∧ P value

section Emits

variable {L M : Language E} {P : α → Prop} {Q : β → Prop} {p : ExceptT ε (Prog F) α}
  {rest : α → ExceptT ε (Prog F) β}

theorem Emits.pure {value : α} (hvalue : P value) :
    Emits env (pure value : ExceptT ε (Prog F) α) 1 P := by
  rintro _ _ ⟨hsame, rfl⟩
  exact ⟨Language.nil_mem_one, Except.ok.inj hsame ▸ hvalue⟩

/-- A program that leaves with an exception ends with no value. -/
theorem Emits.throw (exit : ε) : Emits env (ExceptT.mk (.pure (.error exit))) L P :=
  fun _ _ hrun => by simpa using hrun.1

theorem Emits.mono (hp : Emits env p L P) (hLM : L ≤ M) : Emits env p M P := by
  intro value events hrun
  obtain ⟨hevents, hvalue⟩ := hp value events hrun
  exact ⟨hLM hevents, hvalue⟩

/-- Sequencing multiplies the languages. -/
theorem Emits.bind (hp : Emits env p L P) (hrest : ∀ value, P value → Emits env (rest value) M Q) :
    Emits env (p >>= rest) (L * M) Q := by
  intro result events hrun
  obtain ⟨value, first, second, hfirst, hsecond, rfl⟩ := runs_except_bind_ok.mp hrun
  obtain ⟨hword, hvalue⟩ := hp value first hfirst
  obtain ⟨hlast, hresult⟩ := hrest value hvalue result second hsecond
  exact ⟨Language.append_mem_mul hword hlast, hresult⟩

/-- A first part of which nothing is noted. -/
theorem Emits.quiet_bind (hp : Emits env p 1 P)
    (hrest : ∀ value, P value → Emits env (rest value) M Q) : Emits env (p >>= rest) M Q :=
  one_mul M ▸ hp.bind hrest

/-- A last part of which nothing is noted. -/
theorem Emits.bind_quiet (hp : Emits env p L P)
    (hrest : ∀ value, P value → Emits env (rest value) 1 Q) : Emits env (p >>= rest) L Q :=
  mul_one L ▸ hp.bind hrest

theorem Emits.ite {condition : Prop} [Decidable condition] {first second : ExceptT ε (Prog F) α}
    (hfirst : condition → Emits env first L P) (hsecond : ¬condition → Emits env second L P) :
    Emits env (if condition then first else second) L P := by
  split
  · exact hfirst ‹_›
  · exact hsecond ‹_›

end Emits

end Effect
