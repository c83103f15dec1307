import SamsungIpc.EffectRuns

/-! All the runs of a program, those that leave with an exception too: what such a run notes is the start
of what a complete one notes, and the event it was cut at may not have come to its end. A program may also
be carried over to calls of another kind, and what it notes with it. -/

namespace Effect

variable {F G : Type → Type} {E E' α β ε : Type}

/-! ### Starts of words -/

/-- A start of a word. `Cut` relates an event that did not come to its end to the one it was to be. -/
inductive Begun (Cut : E → E → Prop) : List E → List E → Prop where
  | nil (word : List E) : Begun Cut [] word
  | cut {event whole : E} (hcut : Cut event whole) (word : List E) : Begun Cut [event] (whole :: word)
  | cons (event : E) {started word : List E} (h : Begun Cut started word) :
      Begun Cut (event :: started) (event :: word)

/-- The starts of the words of a language. -/
def begun (Cut : E → E → Prop) (L : Language E) : Language E :=
  {started | ∃ word ∈ L, Begun Cut started word}

section Begun

variable {Cut : E → E → Prop} {Cut' : E' → E' → Prop} {started word : List E} {L M : Language E}

theorem Begun.refl (word : List E) : Begun Cut word word := by
  induction word with
  | nil => exact .nil []
  | cons event word ih => exact .cons event ih

theorem Begun.append_right (h : Begun Cut started word) (rest : List E) :
    Begun Cut started (word ++ rest) := by
  induction h with
  | nil word => exact .nil _
  | cut hcut word => exact .cut hcut _
  | cons event _ ih => exact .cons event ih

theorem Begun.append_left (first : List E) (h : Begun Cut started word) :
    Begun Cut (first ++ started) (first ++ word) := by
  induction first with
  | nil => exact h
  | cons event first ih => exact .cons event ih

theorem Begun.map {g : E → E'} (hcut : ∀ event whole, Cut event whole → Cut' (g event) (g whole))
    (h : Begun Cut started word) : Begun Cut' (started.map g) (word.map g) := by
  induction h with
  | nil word => exact .nil _
  | cut h word => exact .cut (hcut _ _ h) _
  | cons event _ ih => exact .cons (g event) ih

theorem le_begun : L ≤ begun Cut L := fun word hword => ⟨word, hword, .refl word⟩

theorem begun_mono (hLM : L ≤ M) : begun Cut L ≤ begun Cut M := by
  rintro started ⟨word, hword, hbegun⟩
  exact ⟨word, hLM hword, hbegun⟩

theorem nil_mem_begun (hL : ∃ word, word ∈ L) : [] ∈ begun Cut L := by
  obtain ⟨word, hword⟩ := hL
  exact ⟨word, hword, .nil word⟩

theorem eq_nil_of_mem_begun_one (h : started ∈ begun Cut (1 : Language E)) : started = [] := by
  obtain ⟨_, rfl, hbegun⟩ := h
  cases hbegun with
  | nil => rfl

/-- The start of a first part is the start of the whole, if there is a second part to follow. -/
theorem begun_le_begun_mul (hM : ∃ word, word ∈ M) : begun Cut L ≤ begun Cut (L * M) := by
  obtain ⟨rest, hrest⟩ := hM
  rintro started ⟨word, hword, hbegun⟩
  exact ⟨word ++ rest, Language.append_mem_mul hword hrest, hbegun.append_right rest⟩

theorem append_mem_begun_mul {first : List E} (hfirst : first ∈ L) (hstarted : started ∈ begun Cut M) :
    first ++ started ∈ begun Cut (L * M) := by
  obtain ⟨word, hword, hbegun⟩ := hstarted
  exact ⟨first ++ word, Language.append_mem_mul hfirst hword, hbegun.append_left first⟩

end Begun

/-! ### Runs that need not end with a value -/

/-- Every run notes the start of a word of `L`; one that ends with a value notes the whole word, and the
value satisfies `P`; and there is such a run. -/
structure Follows (env : Environment F E) (Cut : E → E → Prop) (p : ExceptT ε (Prog F) α)
    (L : Language E) (P : α → Prop) : Prop where
  emits : Emits env p L P
  attempts : ∀ result events, Runs env p.run result events → events ∈ begun Cut L
  completes : ∃ value events, Runs env p.run (.ok value) events

/-- Every run leaves with an exception, and notes nothing. -/
def Abandons (env : Environment F E) (p : ExceptT ε (Prog F) α) : Prop :=
  ∀ result events, Runs env p.run result events → events = [] ∧ ∃ exit, result = .error exit

theorem Abandons.throw (env : Environment F E) (exit : ε) :
    Abandons env (ExceptT.mk (.pure (.error exit)) : ExceptT ε (Prog F) α) :=
  fun _ _ hrun => ⟨hrun.2, exit, hrun.1.symm⟩

section Follows

variable {env : Environment F E} {Cut : E → E → Prop} {L M : Language E} {P : α → Prop}
  {Q : β → Prop} {p : ExceptT ε (Prog F) α} {rest : α → ExceptT ε (Prog F) β}

theorem Follows.exists_mem (hp : Follows env Cut p L P) : ∃ word, word ∈ L := by
  obtain ⟨value, events, hrun⟩ := hp.completes
  exact ⟨events, (hp.emits value events hrun).1⟩

theorem Follows.pure {value : α} (hvalue : P value) :
    Follows env Cut (pure value : ExceptT ε (Prog F) α) 1 P where
  emits := .pure hvalue
  attempts := by
    rintro _ _ ⟨_, rfl⟩
    exact le_begun Language.nil_mem_one
  completes := ⟨value, [], rfl, rfl⟩

theorem Follows.mono (hp : Follows env Cut p L P) (hLM : L ≤ M) : Follows env Cut p M P where
  emits := hp.emits.mono hLM
  attempts := fun result events hrun => begun_mono hLM (hp.attempts result events hrun)
  completes := hp.completes

theorem Follows.weaken {R : α → Prop} (hp : Follows env Cut p L P) (hPR : ∀ value, P value → R value) :
    Follows env Cut p L R where
  emits := by
    intro value events hrun
    obtain ⟨hmem, hvalue⟩ := hp.emits value events hrun
    exact ⟨hmem, hPR value hvalue⟩
  attempts := hp.attempts
  completes := hp.completes

/-- Sequencing multiplies the languages: a run is cut in the first part or in the second one. -/
theorem Follows.bind (hp : Follows env Cut p L P)
    (hrest : ∀ value, P value → Follows env Cut (rest value) M Q) :
    Follows env Cut (p >>= rest) (L * M) Q where
  emits := hp.emits.bind fun value hvalue => (hrest value hvalue).emits
  attempts := by
    obtain ⟨witness, word, hword⟩ := hp.completes
    have hM : ∃ word, word ∈ M := (hrest witness (hp.emits witness word hword).2).exists_mem
    intro result events hrun
    obtain ⟨value, first, second, hfirst, hsecond, rfl⟩ := runs_bind.mp hrun
    cases value with
    | ok value =>
        obtain ⟨hmem, hvalue⟩ := hp.emits value first hfirst
        exact append_mem_begun_mul hmem ((hrest value hvalue).attempts result second hsecond)
    | error exit =>
        obtain ⟨_, rfl⟩ := hsecond
        rw [List.append_nil]
        exact begun_le_begun_mul hM (hp.attempts _ first hfirst)
  completes := by
    obtain ⟨value, first, hfirst⟩ := hp.completes
    obtain ⟨result, second, hsecond⟩ := (hrest value (hp.emits value first hfirst).2).completes
    exact ⟨result, _, runs_except_bind_ok.mpr ⟨value, first, second, hfirst, hsecond, rfl⟩⟩

/-- A first part of which nothing is noted. -/
theorem Follows.quiet_bind (hp : Follows env Cut p 1 P)
    (hrest : ∀ value, P value → Follows env Cut (rest value) M Q) : Follows env Cut (p >>= rest) M Q :=
  one_mul M ▸ hp.bind hrest

/-- A last part of which nothing is noted. -/
theorem Follows.bind_quiet (hp : Follows env Cut p L P)
    (hrest : ∀ value, P value → Follows env Cut (rest value) 1 Q) : Follows env Cut (p >>= rest) L Q :=
  mul_one L ▸ hp.bind hrest

/-- Behind the first part, the program is abandoned for some of its values, but not for all. -/
theorem Follows.bind_or_abandon (hp : Follows env Cut p L P)
    (hrest : ∀ value, P value → Abandons env (rest value) ∨ Follows env Cut (rest value) M Q)
    (hstays : ∃ value events, Runs env p.run (.ok value) events ∧
      Follows env Cut (rest value) M Q) : Follows env Cut (p >>= rest) (L * M) Q where
  emits := by
    refine hp.emits.bind fun value hvalue => ?_
    rcases hrest value hvalue with habandons | hfollows
    · intro result events hrun
      obtain ⟨_, _, herror⟩ := habandons _ events hrun
      cases herror
    · exact hfollows.emits
  attempts := by
    obtain ⟨_, _, _, hfollows⟩ := hstays
    have hM : ∃ word, word ∈ M := hfollows.exists_mem
    intro result events hrun
    obtain ⟨value, first, second, hfirst, hsecond, rfl⟩ := runs_bind.mp hrun
    cases value with
    | ok value =>
        obtain ⟨hmem, hvalue⟩ := hp.emits value first hfirst
        rcases hrest value hvalue with habandons | hfollows
        · obtain ⟨rfl, _⟩ := habandons result second hsecond
          exact append_mem_begun_mul hmem (nil_mem_begun hM)
        · exact append_mem_begun_mul hmem (hfollows.attempts result second hsecond)
    | error exit =>
        obtain ⟨_, rfl⟩ := hsecond
        rw [List.append_nil]
        exact begun_le_begun_mul hM (hp.attempts _ first hfirst)
  completes := by
    obtain ⟨value, first, hfirst, hfollows⟩ := hstays
    obtain ⟨result, second, hsecond⟩ := hfollows.completes
    exact ⟨result, _, runs_except_bind_ok.mpr ⟨value, first, second, hfirst, hsecond, rfl⟩⟩

/-- A program follows what another one follows that has the same runs, whatever its exceptions are. -/
theorem Follows.of_runs {ε' : Type} {q : ExceptT ε' (Prog F) α} (hp : Follows env Cut p L P)
    (hok : ∀ value events, Runs env q.run (.ok value) events ↔ Runs env p.run (.ok value) events)
    (herror : ∀ exit events, Runs env q.run (.error exit) events →
      ∃ result, Runs env p.run result events) : Follows env Cut q L P where
  emits := fun value events hrun => hp.emits value events ((hok value events).mp hrun)
  attempts := by
    intro result events hrun
    cases result with
    | ok value => exact hp.attempts _ events ((hok value events).mp hrun)
    | error exit =>
        obtain ⟨result, hresult⟩ := herror exit events hrun
        exact hp.attempts result events hresult
  completes := by
    obtain ⟨value, events, hrun⟩ := hp.completes
    exact ⟨value, events, (hok value events).mpr hrun⟩

/-- What another program notes that has the same runs, under other names. -/
theorem Follows.renamed {env' : Environment G E'} {Cut' : E' → E' → Prop} {g : E → E'}
    {q : ExceptT ε (Prog G) α} (hp : Follows env Cut p L P)
    (hcut : ∀ event whole, Cut event whole → Cut' (g event) (g whole))
    (hruns : ∀ result events, Runs env' q.run result events ↔
      ∃ log, Runs env p.run result log ∧ events = log.map g) :
    Follows env' Cut' q (Language.map g L) P where
  emits := by
    intro value events hrun
    obtain ⟨log, hlog, rfl⟩ := (hruns _ events).mp hrun
    obtain ⟨hmem, hvalue⟩ := hp.emits value log hlog
    exact ⟨⟨log, hmem, rfl⟩, hvalue⟩
  attempts := by
    intro result events hrun
    obtain ⟨log, hlog, rfl⟩ := (hruns _ events).mp hrun
    obtain ⟨word, hword, hbegun⟩ := hp.attempts result log hlog
    exact ⟨word.map g, ⟨word, hword, rfl⟩, hbegun.map hcut⟩
  completes := by
    obtain ⟨value, log, hlog⟩ := hp.completes
    exact ⟨value, log.map g, (hruns _ _).mpr ⟨log, hlog, rfl⟩⟩

end Follows

/-! ### Runs that never end with a value -/

/-- Every run leaves with an exception, and notes the start of a word of `L`. -/
def Strays (env : Environment F E) (Cut : E → E → Prop) (p : ExceptT ε (Prog F) α) (L : Language E) :
    Prop :=
  ∀ result events, Runs env p.run result events → events ∈ begun Cut L ∧ ∃ exit, result = .error exit

section Strays

variable {env : Environment F E} {Cut : E → E → Prop} {L M : Language E} {P : α → Prop}
  {p : ExceptT ε (Prog F) α} {rest : α → ExceptT ε (Prog F) β}

theorem Abandons.bind (hp : Abandons env p) : Abandons env (p >>= rest) := by
  intro result events hrun
  obtain ⟨value, first, second, hfirst, hsecond, rfl⟩ := runs_bind.mp hrun
  obtain ⟨rfl, exit, rfl⟩ := hp value first hfirst
  exact ⟨hsecond.2, exit, hsecond.1.symm⟩

theorem Strays.bind (hp : Strays env Cut p L) : Strays env Cut (p >>= rest) L := by
  intro result events hrun
  obtain ⟨value, first, second, hfirst, hsecond, rfl⟩ := runs_bind.mp hrun
  obtain ⟨hmem, exit, rfl⟩ := hp value first hfirst
  obtain ⟨hresult, rfl⟩ := hsecond
  rw [List.append_nil]
  exact ⟨hmem, exit, hresult.symm⟩

/-- A whole first part, behind which the program is abandoned. -/
theorem Follows.bind_abandons (hp : Follows env Cut p L P)
    (hrest : ∀ value, P value → Abandons env (rest value)) : Strays env Cut (p >>= rest) L := by
  intro result events hrun
  obtain ⟨value, first, second, hfirst, hsecond, rfl⟩ := runs_bind.mp hrun
  cases value with
  | ok value =>
      obtain ⟨hmem, hvalue⟩ := hp.emits value first hfirst
      obtain ⟨rfl, hexit⟩ := hrest value hvalue result second hsecond
      rw [List.append_nil]
      exact ⟨le_begun hmem, hexit⟩
  | error exit =>
      obtain ⟨hresult, rfl⟩ := hsecond
      rw [List.append_nil]
      exact ⟨hp.attempts _ first hfirst, exit, hresult.symm⟩

theorem Follows.bind_strays (hp : Follows env Cut p L P) (hM : ∃ word, word ∈ M)
    (hrest : ∀ value, P value → Strays env Cut (rest value) M) :
    Strays env Cut (p >>= rest) (L * M) := by
  intro result events hrun
  obtain ⟨value, first, second, hfirst, hsecond, rfl⟩ := runs_bind.mp hrun
  cases value with
  | ok value =>
      obtain ⟨hmem, hvalue⟩ := hp.emits value first hfirst
      obtain ⟨hstarted, hexit⟩ := hrest value hvalue result second hsecond
      exact ⟨append_mem_begun_mul hmem hstarted, hexit⟩
  | error exit =>
      obtain ⟨hresult, rfl⟩ := hsecond
      rw [List.append_nil]
      exact ⟨begun_le_begun_mul hM (hp.attempts _ first hfirst), exit, hresult.symm⟩

end Strays

/-- A value that is computed from another one notes what that one does. -/
theorem runs_map {env : Environment F E} {p : Prog F α} {f : α → β} {result : β} {events : List E} :
    Runs env (p >>= fun value => pure (f value)) result events ↔
      ∃ value, Runs env p value events ∧ f value = result := by
  refine runs_bind.trans ?_
  constructor
  · rintro ⟨value, first, _, hfirst, ⟨hresult, rfl⟩, rfl⟩
    rw [List.append_nil]
    exact ⟨value, hfirst, hresult⟩
  · rintro ⟨value, hrun, hresult⟩
    exact ⟨value, events, [], hrun, ⟨hresult, rfl⟩, (List.append_nil events).symm⟩

/-- A single call, in a program that may leave with an exception. -/
theorem runs_lift {env : Environment F E} {request : F α} {result : Except ε α} {events : List E} :
    Runs env (Prog.perform request >>= fun answer => pure (.ok answer)) result events ↔
      ∃ answer, result = .ok answer ∧ env.Answers request answer ∧
        events = env.events request answer := by
  refine runs_map.trans (exists_congr fun answer => ?_)
  rw [runs_perform, and_comm, eq_comm]

/-- A sequence can end where its parts can, with what both note. -/
theorem runs_bind_ok {env : Environment F E} {p : ExceptT ε (Prog F) α}
    {rest : α → ExceptT ε (Prog F) β} {value : α} {result : β} {first second : List E}
    (hfirst : Runs env p.run (.ok value) first) (hsecond : Runs env (rest value).run (.ok result) second) :
    Runs env (p >>= rest).run (.ok result) (first ++ second) :=
  runs_except_bind_ok.mpr ⟨value, first, second, hfirst, hsecond, rfl⟩

/-! ### Runs that nothing is noted of -/

/-- Nothing is noted of any run. -/
def Quiet (env : Environment F E) (p : Prog F α) : Prop :=
  ∀ result events, Runs env p result events → events = []

section Quiet

variable {env : Environment F E} {Cut : E → E → Prop}

theorem Quiet.pure (value : α) : Quiet env (.pure value) := fun _ _ hrun => hrun.2

theorem Quiet.bind {p : Prog F α} {rest : α → Prog F β} (hp : Quiet env p)
    (hrest : ∀ value, Quiet env (rest value)) : Quiet env (p >>= rest) := by
  intro result events hrun
  obtain ⟨value, first, second, hfirst, hsecond, rfl⟩ := runs_bind.mp hrun
  rw [hp value first hfirst, hrest value result second hsecond, List.append_nil]

theorem Quiet.except_bind {p : ExceptT ε (Prog F) α} {rest : α → ExceptT ε (Prog F) β}
    (hp : Quiet env p.run) (hrest : ∀ value, Quiet env (rest value).run) :
    Quiet env (p >>= rest).run := by
  refine hp.bind fun result => ?_
  cases result with
  | ok value => exact hrest value
  | error exit => exact .pure _

theorem Quiet.ite {condition : Prop} [Decidable condition] {first second : Prog F α}
    (hfirst : Quiet env first) (hsecond : Quiet env second) :
    Quiet env (if condition then first else second) := by
  split
  · exact hfirst
  · exact hsecond

/-- Behind a part of which nothing is noted, the program is abandoned for all values. -/
theorem Quiet.abandons {p : ExceptT ε (Prog F) α} {rest : α → ExceptT ε (Prog F) β}
    (hp : Quiet env p.run)
    (hrest : ∀ value events, Runs env p.run (.ok value) events → Abandons env (rest value)) :
    Abandons env (p >>= rest) := by
  intro result events hrun
  obtain ⟨value, first, second, hfirst, hsecond, rfl⟩ := runs_bind.mp hrun
  rw [hp value first hfirst, List.nil_append]
  cases value with
  | ok value => exact hrest value first hfirst result second hsecond
  | error exit => exact ⟨hsecond.2, exit, hsecond.1.symm⟩

/-- A program of which nothing is noted follows the language of the empty word. -/
theorem Quiet.follows {p : ExceptT ε (Prog F) α} {P : α → Prop} (hp : Quiet env p.run)
    (hP : ∀ value events, Runs env p.run (.ok value) events → P value)
    (hcompletes : ∃ value, Runs env p.run (.ok value) []) : Follows env Cut p 1 P where
  emits := fun value events hrun => ⟨hp _ events hrun, hP value events hrun⟩
  attempts := fun result events hrun => le_begun (hp result events hrun)
  completes := by
    obtain ⟨value, hrun⟩ := hcompletes
    exact ⟨value, [], hrun⟩

end Quiet

/-- What is noted of a run is a word of `L`, however the run ends. -/
def Notes (env : Environment F E) (p : Prog F α) (L : Language E) : Prop :=
  ∀ result events, Runs env p result events → events ∈ L

section Notes

variable {env : Environment F E} {L M : Language E} {p : Prog F α} {rest : α → Prog F β}

theorem Notes.pure (value : α) : Notes env (pure value : Prog F α) 1 := fun _ _ hrun => hrun.2

theorem Notes.bind (hp : Notes env p L) (hrest : ∀ value, Notes env (rest value) M) :
    Notes env (p >>= rest) (L * M) := by
  intro result events hrun
  obtain ⟨value, first, second, hfirst, hsecond, rfl⟩ := runs_bind.mp hrun
  exact Language.append_mem_mul (hp value first hfirst) (hrest value result second hsecond)

theorem Notes.bind_quiet (hp : Notes env p L) (hrest : ∀ value, Quiet env (rest value)) :
    Notes env (p >>= rest) L := mul_one L ▸ hp.bind hrest

theorem Notes.mono (hp : Notes env p L) (hLM : L ≤ M) : Notes env p M :=
  fun result events hrun => hLM (hp result events hrun)

end Notes

/-! ### Calls of another kind -/

/-- The program with each of its calls made as the call `f` gives for it. -/
def Prog.translate (f : ∀ {β : Type}, F β → G β) : Prog F α → Prog G α
  | .pure value => .pure value
  | .call request next => .call (f request) fun answer => (next answer).translate f

/-- What an environment answers to the calls of another kind. -/
def Environment.comap (env : Environment G E) (f : ∀ {β : Type}, F β → G β) : Environment F E where
  Answers request answer := env.Answers (f request) answer
  events request answer := env.events (f request) answer

theorem runs_translate {env : Environment G E} {f : ∀ {β : Type}, F β → G β} {p : Prog F α}
    {result : α} {events : List E} :
    Runs env (p.translate f) result events ↔ Runs (env.comap f) p result events := by
  induction p generalizing events with
  | pure value => exact Iff.rfl
  | call request next ih => exact exists_congr fun answer => by simp only [ih]; rfl

/-- What is noted of the calls, noted under other names. -/
def Environment.rename (env : Environment F E) (g : E → E') : Environment F E' where
  Answers request answer := env.Answers request answer
  events request answer := (env.events request answer).map g

theorem runs_rename {env : Environment F E} {g : E → E'} {p : Prog F α} {result : α}
    {events : List E'} :
    Runs (env.rename g) p result events ↔ ∃ log, Runs env p result log ∧ events = log.map g := by
  induction p generalizing events with
  | pure value =>
      constructor
      · rintro ⟨rfl, rfl⟩
        exact ⟨[], ⟨rfl, rfl⟩, rfl⟩
      · rintro ⟨_, ⟨rfl, rfl⟩, rfl⟩
        exact ⟨rfl, rfl⟩
  | call request next ih =>
      constructor
      · rintro ⟨answer, later, hanswer, hrun, rfl⟩
        obtain ⟨log, hlog, rfl⟩ := (ih answer).mp hrun
        exact ⟨_, ⟨answer, log, hanswer, hlog, rfl⟩, (List.map_append ..).symm⟩
      · rintro ⟨_, ⟨answer, log, hanswer, hlog, rfl⟩, rfl⟩
        exact ⟨answer, log.map g, hanswer, (ih answer).mpr ⟨log, hlog, rfl⟩, List.map_append ..⟩

end Effect
