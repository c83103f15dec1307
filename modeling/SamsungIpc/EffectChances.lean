import SamsungIpc.EffectLayers

/-! What some choices lead a program to. -/

namespace Effect

variable {F G : Type → Type} {C σ α β : Type}

/-- Some run from `s` ends with `Q`. -/
def may (h : Handler F C σ) : Prog F α → (α → σ → Prop) → σ → Prop
  | .pure value, Q, s => Q value s
  | .call request next, Q, s =>
      ∃ choice, may h (next (h _ choice request s).1) Q (h _ choice request s).2

variable {h : Handler F C σ} {I : σ → Prop} {p : Prog F α} {Q R : α → σ → Prop} {s : σ}

theorem may_bind {rest : α → Prog F β} {R : β → σ → Prop} :
    may h (p >>= rest) R s ↔ may h p (fun value s' => may h (rest value) R s') s := by
  induction p generalizing s with
  | pure value => exact Iff.rfl
  | call request next ih => exact exists_congr fun choice => ih _

theorem may_mono (hp : may h p Q s) (hQR : ∀ value s', Q value s' → R value s') : may h p R s := by
  induction p generalizing s with
  | pure value => exact hQR value s hp
  | call request next ih =>
      obtain ⟨choice, hnext⟩ := hp
      exact ⟨choice, ih _ hnext⟩

theorem may_true [Inhabited C] (p : Prog F α) : may h p (fun _ _ => True) s := by
  induction p generalizing s with
  | pure value => trivial
  | call request next ih => exact ⟨default, ih _⟩

/-- What holds behind every run holds behind that one. -/
theorem may_of_wp (hall : wp h I p Q s) (hp : may h p R s) :
    may h p (fun value s' => I s' ∧ Q value s' ∧ R value s') s := by
  induction p generalizing s with
  | pure value => exact ⟨hall.1, hall.2, hp⟩
  | call request next ih =>
      obtain ⟨choice, hnext⟩ := hp
      exact ⟨choice, ih _ (hall.2 choice) hnext⟩

theorem exists_exec_of_may [Inhabited C] (hp : may h p Q s) :
    ∃ choices, Q (exec h p choices s).1 (exec h p choices s).2 := by
  induction p generalizing s with
  | pure value => exact ⟨Stream'.const default, hp⟩
  | call request next ih =>
      obtain ⟨choice, hnext⟩ := hp
      obtain ⟨choices, hend⟩ := ih _ hnext
      exact ⟨Stream'.cons choice choices, hend⟩

/-- A run of the environment is one of the handler, if its answers can be chosen. -/
theorem may_of_records {E : Type} {k : Handler G C σ} {f : ∀ {β : Type}, F β → G β} {env : Environment F E}
    {note : σ → List E → σ} {Fits : σ → Prop} (hrecords : k.Records f env note Fits)
    (hchosen : ∀ s, Fits s → ∀ {β : Type} (request : F β) answer, env.Answers request answer →
      ∃ choice, (k β choice (f request) s).1 = answer)
    (hs : Fits s) {value : α} {events : List E} (hrun : Runs env p value events) :
    may k (p.translate f) (fun result _ => result = value) s := by
  induction p generalizing s events with
  | pure result => exact hrun.1
  | call request next ih =>
      obtain ⟨answer, rest, hanswer, hnext, _⟩ := hrun
      obtain ⟨choice, rfl⟩ := hchosen s hs request answer hanswer
      have hkept : Fits (k _ choice (f request) s).2 := by
        rw [hrecords.notes s hs]
        exact hrecords.keeps s _ hs
      exact ⟨choice, ih _ hkept hnext⟩

end Effect
