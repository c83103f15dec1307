import Mathlib.Data.List.Basic

/-! Loops that send or receive a known number of elements through calls that may move fewer than they
are asked to. A pattern of results drives a loop; when it runs out, the loop is still waiting. -/

namespace TransferLoop

inductive Outcome where
  | complete
  | failed
  | waiting
  deriving DecidableEq

/-- How a loop makes its calls: what it asks for when `left` elements are missing, and whether it
gives up when a call moves nothing. -/
structure Policy where
  request : Nat → Nat
  zeroFails : Bool
  request_pos : ∀ {left}, 0 < left → 0 < request left
  request_le : ∀ left, request left ≤ left

variable {α : Type} (policy : Policy)

/-- Sending: each result says how many elements the call would take, or that it failed. The pieces
that were taken are returned in order. -/
def sendLoop : List (Option Nat) → List α → Outcome × List (List α)
  | _, [] => (.complete, [])
  | [], _ :: _ => (.waiting, [])
  | none :: _, _ :: _ => (.failed, [])
  | some taken :: results, left@(_ :: _) =>
      let moved := min taken (policy.request left.length)
      if moved = 0 ∧ policy.zeroFails then (.failed, [])
      else
        let next := sendLoop results (left.drop moved)
        (next.1, left.take moved :: next.2)

/-- Receiving `left` elements: each result is what the call would deliver, or that it failed. What
was received is returned as one list. -/
def recvLoop : List (Option (List α)) → Nat → Outcome × List α
  | _, 0 => (.complete, [])
  | [], _ + 1 => (.waiting, [])
  | none :: _, _ + 1 => (.failed, [])
  | some delivered :: results, left + 1 =>
      let moved := delivered.take (policy.request (left + 1))
      if moved = [] ∧ policy.zeroFails then (.failed, [])
      else
        let next := recvLoop results (left + 1 - moved.length)
        (next.1, moved ++ next.2)

variable {policy}

/-- A call that moves at least one element: the loop goes on with the rest. -/
theorem sendLoop_some {taken : Nat} (htaken : 0 < taken) (results : List (Option Nat)) {left : List α}
    (hleft : left ≠ []) :
    sendLoop policy (some taken :: results) left =
      let moved := min taken (policy.request left.length)
      let next := sendLoop policy results (left.drop moved)
      (next.1, left.take moved :: next.2) := by
  cases left with
  | nil => exact absurd rfl hleft
  | cons first rest =>
      have hrequest : 0 < policy.request (rest.length + 1) :=
        policy.request_pos (Nat.succ_pos rest.length)
      have hmoved : ¬(min taken (policy.request (first :: rest).length) = 0 ∧ policy.zeroFails) := by
        rw [List.length_cons]
        omega
      rw [sendLoop, if_neg hmoved]

/-- What a complete loop sent, piece by piece, is what it was given. -/
theorem flatten_sendLoop {results : List (Option Nat)} {left : List α}
    (hcomplete : (sendLoop policy results left).1 = .complete) :
    (sendLoop policy results left).2.flatten = left := by
  induction results generalizing left with
  | nil =>
      cases left with
      | nil => rfl
      | cons first rest => cases hcomplete
  | cons result results ih =>
      cases left with
      | nil => rfl
      | cons first rest =>
          cases result with
          | none => cases hcomplete
          | some taken =>
              rw [sendLoop] at hcomplete ⊢
              split at hcomplete
              · cases hcomplete
              · rename_i hmoved
                rw [if_neg hmoved, List.flatten_cons, ih hcomplete, List.take_append_drop]

/-- As long as every call moves something, a loop does not fail. -/
theorem sendLoop_of_positive {writes : List Nat} (hwrites : ∀ taken ∈ writes, 0 < taken)
    (left : List α) : (sendLoop policy (writes.map some) left).1 ≠ .failed := by
  induction writes generalizing left with
  | nil => cases left <;> exact nofun
  | cons taken writes ih =>
      obtain ⟨htaken, hwrites⟩ := List.forall_mem_cons.mp hwrites
      by_cases hleft : left = []
      · rw [hleft]
        exact nofun
      · rw [List.map_cons, sendLoop_some htaken _ hleft]
        exact ih hwrites _

/-- One call for each element is always enough. -/
theorem sendLoop_of_length_le {writes : List Nat} (hwrites : ∀ taken ∈ writes, 0 < taken)
    {left : List α} (hlength : left.length ≤ writes.length) :
    (sendLoop policy (writes.map some) left).1 = .complete := by
  induction writes generalizing left with
  | nil =>
      obtain rfl : left = [] := List.length_eq_zero_iff.mp (Nat.le_zero.mp hlength)
      rfl
  | cons taken writes ih =>
      obtain ⟨htaken, hwrites⟩ := List.forall_mem_cons.mp hwrites
      by_cases hleft : left = []
      · rw [hleft]
        rfl
      · rw [List.map_cons, sendLoop_some htaken _ hleft]
        apply ih hwrites
        have hpos : 0 < left.length := List.length_pos_iff.mpr hleft
        have hrequest := policy.request_pos hpos
        rw [List.length_cons] at hlength
        rw [List.length_drop]
        omega

/-! ### Receiving -/

/-- A loop never receives more than it was missing. -/
theorem length_recvLoop_le (results : List (Option (List α))) (left : Nat) :
    (recvLoop policy results left).2.length ≤ left := by
  induction results generalizing left with
  | nil => cases left <;> exact Nat.zero_le _
  | cons result results ih =>
      cases left with
      | zero => exact Nat.zero_le _
      | succ left =>
          cases result with
          | none => exact Nat.zero_le _
          | some delivered =>
              rw [recvLoop]
              split
              · exact Nat.zero_le _
              · have hnext := ih (left + 1 - (delivered.take (policy.request (left + 1))).length)
                have hle := policy.request_le (left + 1)
                rw [List.length_append]
                rw [List.length_take] at hnext ⊢
                omega

/-- A loop that is given everything it misses, in pieces no larger than it asks for, receives exactly
that; given less, it is waiting for the rest. -/
theorem recvLoop_pieces {pieces : List (List α)} (hpieces : ∀ piece ∈ pieces, piece ≠ [])
    (hgranted : ∀ piece ∈ pieces, ∀ left, piece.length ≤ left → piece.length ≤ policy.request left)
    {left : Nat} (htotal : pieces.flatten.length ≤ left) :
    recvLoop policy (pieces.map some) left =
      (if pieces.flatten.length = left then .complete else .waiting, pieces.flatten) := by
  induction pieces generalizing left with
  | nil =>
      cases left with
      | zero => rfl
      | succ left => rfl
  | cons piece pieces ih =>
      obtain ⟨hpiece, hpieces⟩ := List.forall_mem_cons.mp hpieces
      obtain ⟨hgrant, hgranted⟩ := List.forall_mem_cons.mp hgranted
      rw [List.flatten_cons, List.length_append] at htotal ⊢
      have hpos : 0 < piece.length := List.length_pos_iff.mpr hpiece
      cases left with
      | zero => omega
      | succ left =>
          have hmoved : piece.take (policy.request (left + 1)) = piece :=
            List.take_of_length_le (hgrant (left + 1) (by omega))
          rw [List.map_cons, recvLoop, hmoved, if_neg (fun h => hpiece h.1),
            ih hpieces hgranted (by omega)]
          have hsame : pieces.flatten.length = left + 1 - piece.length ↔
              piece.length + pieces.flatten.length = left + 1 := by omega
          simp only [hsame]

end TransferLoop
