import Mathlib.Data.Stream.Init
import SamsungIpc.TransferLoop

/-! Whether a loop ends. How a loop ends depends on how much its calls would move only, and of an
infinite pattern of results a loop uses as many as it needs. -/

namespace TransferLoop

variable {α : Type} (policy : Policy)

/-- The loop without what it moves. -/
def outcome : List (Option Nat) → Nat → Outcome
  | _, 0 => .complete
  | [], _ + 1 => .waiting
  | none :: _, _ + 1 => .failed
  | some amount :: results, left + 1 =>
      let moved := min amount (policy.request (left + 1))
      if moved = 0 ∧ policy.zeroFails then .failed else outcome results (left + 1 - moved)

/-- The loop is over after some of its results. -/
def Ends (results : Stream' (Option Nat)) (left : Nat) : Prop :=
  ∃ n, outcome policy (results.take n) left ≠ .waiting

/-- A call fails before any call has moved something. -/
def FailsFirst (results : Stream' (Option (List α))) : Prop :=
  ∃ k, results.take (k + 1) = List.replicate k (some []) ++ [none]

/-- How much calls move that are asked for `capacity` elements. -/
def total (capacity : Nat) : List (Option Nat) → Nat
  | [] => 0
  | result :: results => min (result.getD 0) capacity + total capacity results

variable {policy}

theorem sendLoop_outcome (results : List (Option Nat)) (left : List α) :
    (sendLoop policy results left).1 = outcome policy results left.length := by
  induction results generalizing left with
  | nil =>
      cases left with
      | nil => rfl
      | cons first rest => rfl
  | cons result results ih =>
      cases left with
      | nil => rfl
      | cons first rest =>
          cases result with
          | none => rfl
          | some taken =>
              rw [sendLoop, List.length_cons, outcome]
              dsimp only
              split_ifs with hmoved
              · rfl
              · rw [ih, List.length_drop, List.length_cons]

theorem recvLoop_outcome (results : List (Option (List α))) (left : Nat) :
    (recvLoop policy results left).1 =
      outcome policy (results.map (Option.map List.length)) left := by
  induction results generalizing left with
  | nil =>
      cases left with
      | zero => rfl
      | succ left => rfl
  | cons result results ih =>
      cases left with
      | zero => rfl
      | succ left =>
          cases result with
          | none => rfl
          | some delivered =>
              rw [recvLoop, List.map_cons, Option.map_some, outcome]
              dsimp only
              have hlength : (delivered.take (policy.request (left + 1))).length =
                  min delivered.length (policy.request (left + 1)) :=
                List.length_take.trans (Nat.min_comm ..)
              have hempty : delivered.take (policy.request (left + 1)) = [] ↔
                  min delivered.length (policy.request (left + 1)) = 0 := by
                rw [← List.length_eq_zero_iff, hlength]
              by_cases hmoved : delivered.take (policy.request (left + 1)) = [] ∧ policy.zeroFails
              · rw [if_pos hmoved, if_pos (hmoved.imp_left hempty.mp)]
              · rw [if_neg hmoved, if_neg (mt (And.imp_left hempty.mpr) hmoved), ← hlength]
                exact ih _

/-- A loop that gives up when nothing moves needs at most one result for each element. -/
theorem outcome_of_zeroFails (hzero : policy.zeroFails = true) {results : List (Option Nat)}
    {left : Nat} (hlength : left ≤ results.length) : outcome policy results left ≠ .waiting := by
  induction results generalizing left with
  | nil =>
      obtain rfl := Nat.le_zero.mp hlength
      exact nofun
  | cons result results ih =>
      rw [List.length_cons] at hlength
      cases left with
      | zero => exact nofun
      | succ left =>
          cases result with
          | none => exact nofun
          | some amount =>
              rw [outcome]
              split_ifs with hmoved
              · exact nofun
              · apply ih
                simp only [hzero, and_true] at hmoved
                omega

theorem ends_of_zeroFails (hzero : policy.zeroFails = true) (results : Stream' (Option Nat))
    (left : Nat) : Ends policy results left :=
  ⟨left, outcome_of_zeroFails hzero (Nat.le_of_eq (Stream'.length_take left results).symm)⟩

/-- A receive is over with nothing received only where a call has failed. -/
theorem recvLoop_nothing_iff (hzero : policy.zeroFails = false) (results : List (Option (List α)))
    (left : Nat) :
    ((recvLoop policy results (left + 1)).2 = [] ∧ (recvLoop policy results (left + 1)).1 ≠ .waiting) ↔
      ∃ k, results.take (k + 1) = List.replicate k (some []) ++ [none] := by
  induction results generalizing left with
  | nil => simp [recvLoop]
  | cons result results ih =>
      cases result with
      | none => exact iff_of_true (by simp [recvLoop]) ⟨0, rfl⟩
      | some delivered =>
          have hrequest := policy.request_pos (Nat.succ_pos left)
          rw [recvLoop, if_neg (by simp [hzero])]
          cases delivered with
          | nil =>
              rw [List.take_nil]
              dsimp only
              rw [List.nil_append, List.length_nil, Nat.sub_zero, ih]
              constructor
              · rintro ⟨k, hk⟩
                exact ⟨k + 1, by rw [List.take_succ_cons, hk]; rfl⟩
              · rintro ⟨_ | k, hk⟩
                · cases hk
                · rw [List.take_succ_cons, List.replicate_succ, List.cons_append] at hk
                  exact ⟨k, (List.cons.inj hk).2⟩
          | cons first rest =>
              obtain ⟨request, hrequest⟩ := Nat.exists_eq_add_one_of_ne_zero (Nat.ne_of_gt hrequest)
              rw [hrequest, List.take_succ_cons]
              refine iff_of_false (fun hnothing => ?_) ?_
              · cases hnothing.1
              · rintro ⟨_ | k, hk⟩
                · cases hk
                · cases hk

theorem failsFirst_iff (hzero : policy.zeroFails = false) (results : Stream' (Option (List α)))
    (left : Nat) :
    (∃ n, (recvLoop policy (results.take n) (left + 1)).2 = [] ∧
      (recvLoop policy (results.take n) (left + 1)).1 ≠ .waiting) ↔ FailsFirst results := by
  constructor
  · rintro ⟨n, hn⟩
    obtain ⟨k, hk⟩ := (recvLoop_nothing_iff hzero _ left).mp hn
    have hlength := congrArg List.length hk
    rw [List.length_take, Stream'.length_take, List.length_append, List.length_replicate,
      List.length_singleton] at hlength
    refine ⟨k, ?_⟩
    rwa [Stream'.take_take, Nat.min_comm, hlength] at hk
  · rintro ⟨k, hk⟩
    refine ⟨k + 1, (recvLoop_nothing_iff hzero _ left).mpr ⟨k, ?_⟩⟩
    rw [Stream'.take_take, Nat.min_self, hk]

section Capped

variable {capacity : Nat} (hzero : policy.zeroFails = false)
  (hrequest : ∀ left, policy.request left = min left capacity)

include hzero hrequest in
/-- A loop that does not mind an empty call waits as long as no call fails and something is missing. -/
theorem outcome_waiting_iff (results : List (Option Nat)) (left : Nat) :
    outcome policy results left = .waiting ↔ none ∉ results ∧ total capacity results < left := by
  induction results generalizing left with
  | nil =>
      cases left with
      | zero => simp [outcome, total]
      | succ left => simp [outcome, total]
  | cons result results ih =>
      cases left with
      | zero => simp [outcome]
      | succ left =>
          cases result with
          | none => simp [outcome]
          | some amount =>
              rw [outcome, if_neg (by simp [hzero]), ih, total, hrequest, Option.getD_some]
              simp only [List.mem_cons, reduceCtorEq, false_or]
              apply and_congr_right
              intro _
              omega

include hzero hrequest in
theorem ends_iff (results : Stream' (Option Nat)) (left : Nat) :
    Ends policy results left ↔
      none ∈ results ∨ ∃ n, left ≤ total capacity (results.take n) := by
  have hwaiting : ∀ n, outcome policy (results.take n) left ≠ .waiting ↔
      none ∈ results.take n ∨ left ≤ total capacity (results.take n) := by
    intro n
    rw [ne_eq, outcome_waiting_iff hzero hrequest, not_and_or, not_not, not_lt]
  have hmem : (∃ n, none ∈ results.take n) ↔ none ∈ results := by
    constructor
    · rintro ⟨n, hn⟩
      obtain ⟨i, hi, hget⟩ := List.getElem_of_mem hn
      rw [Stream'.take_get] at hget
      exact Stream'.mem_of_get_eq hget.symm
    · rintro hresults
      obtain ⟨n, hn⟩ := Stream'.mem_iff_exists_get_eq.mp hresults
      exact ⟨n + 1, List.mem_of_getElem? ((Stream'.getElem?_take_succ n results).trans
        (congrArg some hn.symm))⟩
  rw [← hmem, ← exists_or]
  exact exists_congr hwaiting

end Capped

end TransferLoop
