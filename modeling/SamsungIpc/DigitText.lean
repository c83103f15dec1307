import Mathlib.Data.List.Basic

/-! Numbers written in digits: the digits a text starts with in some base, and when they are all of it. -/

namespace DigitText

variable {α : Type} (value : α → Option Nat) (base : Nat)

/-- The number with these digits, the most significant one first. -/
def ofDigits (digits : List Nat) : Nat := digits.foldl (fun n digit => base * n + digit) 0

/-- The values of the longest run of digits at the start of a text. -/
def digitPrefix : List α → List Nat
  | [] => []
  | c :: text =>
      match value c with
      | none => []
      | some digit => if digit < base then digit :: digitPrefix text else []

/-- The text consists of these digits. -/
def Spells (text : List α) (digits : List Nat) : Prop :=
  text.map value = digits.map some ∧ ∀ digit ∈ digits, digit < base

variable {value base}

theorem digitPrefix_cons {c : α} {digit : Nat} (hvalue : value c = some digit) (hdigit : digit < base)
    (text : List α) : digitPrefix value base (c :: text) = digit :: digitPrefix value base text := by
  rw [digitPrefix, hvalue]
  exact if_pos hdigit

theorem Spells.exists_digit {text : List α} {digits : List Nat} (h : Spells value base text digits)
    {c : α} (hc : c ∈ text) : ∃ digit < base, value c = some digit := by
  obtain ⟨hmap, hdigits⟩ := h
  have hmem : value c ∈ digits.map some := hmap ▸ List.mem_map_of_mem hc
  obtain ⟨digit, hdigit, heq⟩ := List.mem_map.mp hmem
  exact ⟨digit, hdigits digit hdigit, heq.symm⟩

/-- A text is spelled by the digits it starts with, if they reach to its end. -/
theorem spells_iff {text : List α} {digits : List Nat} :
    Spells value base text digits ↔
      digitPrefix value base text = digits ∧ digits.length = text.length := by
  constructor
  · rintro ⟨hmap, hdigits⟩
    induction text generalizing digits with
    | nil =>
        cases digits with
        | nil => exact ⟨rfl, rfl⟩
        | cons digit digits => contradiction
    | cons c text ih =>
        cases digits with
        | nil => contradiction
        | cons digit digits =>
            rw [List.map_cons, List.map_cons, List.cons.injEq] at hmap
            obtain ⟨hdigit, hrest⟩ := List.forall_mem_cons.mp hdigits
            obtain ⟨hstart, hlength⟩ := ih hmap.2 hrest
            rw [digitPrefix_cons hmap.1 hdigit, hstart]
            exact ⟨rfl, congrArg (· + 1) hlength⟩
  · rintro ⟨rfl, hlength⟩
    induction text with
    | nil => exact ⟨rfl, by simp [digitPrefix]⟩
    | cons c text ih =>
        cases hvalue : value c with
        | none =>
            rw [digitPrefix, hvalue] at hlength
            contradiction
        | some digit =>
            by_cases hdigit : digit < base
            · rw [digitPrefix_cons hvalue hdigit, List.length_cons, List.length_cons] at hlength
              obtain ⟨hmap, hdigits⟩ := ih (Nat.succ.inj hlength)
              rw [digitPrefix_cons hvalue hdigit]
              refine ⟨?_, List.forall_mem_cons.mpr ⟨hdigit, hdigits⟩⟩
              rw [List.map_cons, List.map_cons, hvalue, hmap]
            · rw [digitPrefix, hvalue] at hlength
              dsimp only at hlength
              rw [if_neg hdigit] at hlength
              contradiction

end DigitText
