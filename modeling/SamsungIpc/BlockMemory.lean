import Mathlib.Data.List.Basic

/-! Memories that are filled block by block: what a cell holds once a list of regions has been stored. -/

namespace BlockMemory

variable {α : Type}

/-- A memory, of which not every cell need be known. -/
abbrev Memory (α : Type) := Nat → Option α

/-- The block, stored from `base` on. -/
def store (memory : Memory α) (base : Nat) (block : List α) : Memory α := fun address =>
  if base ≤ address ∧ address < base + block.length then block[address - base]? else memory address

structure Region (α : Type) where
  base : Nat
  content : List α

namespace Region

def Covers (region : Region α) (address : Nat) : Prop :=
  region.base ≤ address ∧ address < region.base + region.content.length

def Disjoint (first second : Region α) : Prop :=
  first.base + first.content.length ≤ second.base ∨ second.base + second.content.length ≤ first.base

end Region

def storeAll (memory : Memory α) (regions : List (Region α)) : Memory α :=
  regions.foldl (fun memory region => store memory region.base region.content) memory

variable {memory : Memory α} {base address : Nat} {block : List α} {region : Region α}
  {regions : List (Region α)}

theorem store_of_covers (h : base ≤ address ∧ address < base + block.length) :
    store memory base block address = block[address - base]? := if_pos h

theorem store_of_not_covers (h : ¬(base ≤ address ∧ address < base + block.length)) :
    store memory base block address = memory address := if_neg h

theorem store_nil (memory : Memory α) (base : Nat) : store memory base [] = memory := by
  funext address
  refine store_of_not_covers ?_
  rw [List.length_nil]
  omega

/-- A block behind another one makes one block with it. -/
theorem store_append (memory : Memory α) (base : Nat) (first second : List α) :
    store (store memory base first) (base + first.length) second =
      store memory base (first ++ second) := by
  funext address
  have hlength : (first ++ second).length = first.length + second.length := List.length_append
  by_cases hsecond : base + first.length ≤ address ∧ address < base + first.length + second.length
  · rw [store_of_covers hsecond, store_of_covers (by omega), List.getElem?_append_right (by omega)]
    congr 1
    omega
  · rw [store_of_not_covers hsecond]
    by_cases hfirst : base ≤ address ∧ address < base + first.length
    · rw [store_of_covers hfirst, store_of_covers (by omega), List.getElem?_append_left (by omega)]
    · rw [store_of_not_covers hfirst, store_of_not_covers (by omega)]

theorem storeAll_cons (memory : Memory α) (region : Region α) (regions : List (Region α)) :
    storeAll memory (region :: regions) =
      storeAll (store memory region.base region.content) regions := rfl

/-- A cell outside of all regions keeps what it holds. -/
theorem storeAll_of_outside (houtside : ∀ region ∈ regions, ¬region.Covers address) :
    storeAll memory regions address = memory address := by
  induction regions generalizing memory with
  | nil => rfl
  | cons region regions ih =>
      rw [List.forall_mem_cons] at houtside
      rw [storeAll_cons, ih houtside.2]
      exact store_of_not_covers houtside.1

/-- A cell of a region holds the region's byte, if the regions do not overlap. -/
theorem storeAll_of_mem (hdisjoint : regions.Pairwise Region.Disjoint) (hregion : region ∈ regions)
    (hcovers : region.Covers address) :
    storeAll memory regions address = region.content[address - region.base]? := by
  induction regions generalizing memory with
  | nil => cases hregion
  | cons head regions ih =>
      rw [List.pairwise_cons] at hdisjoint
      rw [storeAll_cons]
      rcases List.mem_cons.mp hregion with rfl | hregion
      · rw [storeAll_of_outside fun other hother hcovered => ?_]
        · exact store_of_covers hcovers
        · obtain ⟨hfrom, hto⟩ := hcovers
          obtain ⟨hotherFrom, hotherTo⟩ := hcovered
          rcases hdisjoint.1 other hother with hbefore | hbehind
          · omega
          · omega
      · exact ih hdisjoint.2 hregion

end BlockMemory
