import Mathlib.Data.List.Basic
import Mathlib.Data.List.Nodup

/-! Lists in which the elements without a property are overwritten with a mark and the others are
counted. Nothing moves: the counted elements are those in front only if they were in front before. -/

namespace MarkedList

variable {α : Type} (p : α → Bool)

/-- The elements without the property are replaced by the mark. -/
def marked (mark : α) (list : List α) : List α := list.map fun x => if p x then x else mark

variable {p} {mark : α} {list : List α}

/-- A weaker property counts the same elements if it holds of no others. -/
theorem countP_eq_iff {q : α → Bool} (himp : ∀ x, q x → p x) :
    list.countP p = list.countP q ↔ ∀ x ∈ list, p x → q x := by
  induction list with
  | nil => simp
  | cons x rest ih =>
      have hle : rest.countP q ≤ rest.countP p := List.countP_mono_left fun y _ => himp y
      rw [List.countP_cons, List.countP_cons, List.forall_mem_cons, ← ih]
      by_cases hq : q x
      · simp [hq, himp x hq]
      · by_cases hp : p x
        · simp only [hp, hq, if_true, if_false, Bool.false_eq_true, imp_false, not_true_eq_false,
            false_and, iff_false]
          omega
        · simp [hp, hq]

variable [DecidableEq α]

/-- Every element with the property has a place among the first so many as have the property. -/
def InFront (p : α → Bool) (list : List α) : Prop :=
  ∀ x ∈ list, p x → list.idxOf x < list.countP p

instance : Decidable (InFront p list) :=
  inferInstanceAs (Decidable (∀ x ∈ list, p x → list.idxOf x < list.countP p))

/-- The elements with the property keep their places. -/
theorem mem_take_marked {x : α} {n : Nat} (hmem : x ∈ list) (hx : p x) (hmark : x ≠ mark) :
    x ∈ (marked p mark list).take n ↔ list.idxOf x < n := by
  rw [marked, ← List.map_take, List.mem_map, ← List.mem_take_iff_idxOf_lt hmem]
  constructor
  · rintro ⟨y, hy, hxy⟩
    by_cases hpy : p y
    · rw [if_pos hpy] at hxy
      exact hxy ▸ hy
    · rw [if_neg hpy] at hxy
      exact absurd hxy.symm hmark
  · intro htake
    exact ⟨x, htake, if_pos hx⟩

/-- The elements with the property do not all fit in fewer places than there are of them. -/
theorem exists_le_idxOf (hnodup : list.Nodup) {n : Nat} (hn : n < list.countP p) :
    ∃ x ∈ list, p x ∧ n ≤ list.idxOf x := by
  have hsplit : list.countP p = (list.take n).countP p + (list.drop n).countP p := by
    rw [← List.countP_append, List.take_append_drop]
  have hfirst : (list.take n).countP p ≤ n := 
    Nat.le_trans List.countP_le_length (List.length_take_le n list)
  obtain ⟨x, hx, hpx⟩ := List.countP_pos_iff.mp (show 0 < (list.drop n).countP p by omega)
  have hmem := List.mem_of_mem_drop hx
  refine ⟨x, hmem, hpx, Nat.not_lt.mp fun hlt => ?_⟩
  have htake := (List.mem_take_iff_idxOf_lt hmem).mpr hlt
  exact (List.disjoint_take_drop hnodup (Nat.le_refl n)) htake hx

/-- Where no element repeats, the ones with the property are in front exactly when none of them stands
behind one without it. -/
theorem inFront_iff_pairwise (hnodup : list.Nodup) :
    InFront p list ↔ list.Pairwise fun first second => p second → p first := by
  induction list with
  | nil => simp [InFront]
  | cons x rest ih =>
      obtain ⟨hx, hrest⟩ := List.nodup_cons.mp hnodup
      have hidx (y : α) (hy : y ∈ rest) : (x :: rest).idxOf y = rest.idxOf y + 1 :=
        List.idxOf_cons_ne rest fun heq => hx (heq ▸ hy)
      rw [InFront, List.forall_mem_cons, List.pairwise_cons, ← ih hrest, List.countP_cons]
      by_cases hp : p x
      · simp only [hp, if_true, List.idxOf_cons_self, Nat.succ_pos, implies_true, true_and]
        refine forall₂_congr fun y hy => forall_congr' fun _ => ?_
        rw [hidx y hy]
        exact Nat.succ_lt_succ_iff
      · simp only [hp, false_implies, if_false, Bool.false_eq_true, true_and, Nat.add_zero, imp_false]
        constructor
        · intro hfront
          have hnone : rest.countP p = 0 := by
            by_contra hcount
            obtain ⟨y, hy, hpy, hle⟩ := exists_le_idxOf (p := p) hrest
              (show rest.countP p - 1 < rest.countP p by omega)
            have hlt := hfront y hy hpy
            rw [hidx y hy] at hlt
            omega
          have hno : ∀ y ∈ rest, ¬ p y := List.countP_eq_zero.mp hnone
          exact ⟨hno, fun y hy hpy => absurd hpy (hno y hy)⟩
        · rintro ⟨hno, -⟩ y hy hpy
          exact absurd hpy (hno y hy)

end MarkedList
