import Mathlib.Data.List.Forall2
import Mathlib.Data.List.Basic

/-! Byte streams made of frames, one behind the other, and lists that are cut into blocks of a given
size. -/

namespace FrameStream

/-- How one frame is taken off the front of a stream. -/
abbrev Format (α : Type) := List UInt8 → Option (α × List UInt8)

namespace Format

variable {α : Type} (format : Format α)

/-- The frames of a stream, if it consists of whole frames. -/
def parseFrames : Nat → List UInt8 → Option (List α)
  | _, [] => some []
  | 0, _ :: _ => none
  | fuel + 1, byte :: bytes =>
      match format (byte :: bytes) with
      | none => none
      | some (frame, rest) => (parseFrames fuel rest).map (frame :: ·)

/-- No frame is empty, so there are at most as many frames as bytes. -/
def parse (bytes : List UInt8) : Option (List α) := format.parseFrames bytes.length bytes

/-- The bytes are the frame, whatever follows them. -/
structure Encodes (bytes : List UInt8) (frame : α) : Prop where
  ne_nil : bytes ≠ []
  format_append : ∀ rest, format (bytes ++ rest) = some (frame, rest)

variable {format}

theorem parseFrames_flatten {encoded : List (List UInt8)} {frames : List α}
    (hencoded : List.Forall₂ format.Encodes encoded frames) {fuel : Nat}
    (hfuel : frames.length ≤ fuel) : format.parseFrames fuel encoded.flatten = some frames := by
  induction hencoded generalizing fuel with
  | nil => cases fuel <;> rfl
  | @cons bytes frame encoded frames hbytes hrest ih =>
      obtain ⟨fuel, rfl⟩ := Nat.exists_eq_add_one_of_ne_zero (Nat.ne_zero_of_lt hfuel)
      rw [List.flatten_cons]
      obtain ⟨byte, bytes, rfl⟩ := List.exists_cons_of_ne_nil hbytes.ne_nil
      rw [List.cons_append, parseFrames, ← List.cons_append, hbytes.format_append]
      dsimp only
      rw [ih (Nat.le_of_succ_le_succ hfuel), Option.map_some]

theorem length_le_flatten {encoded : List (List UInt8)} {frames : List α}
    (hencoded : List.Forall₂ format.Encodes encoded frames) :
    frames.length ≤ encoded.flatten.length := by
  induction hencoded with
  | nil => exact Nat.zero_le 0
  | cons hbytes _ ih =>
      have hpos := List.length_pos_iff.mpr hbytes.ne_nil
      rw [List.flatten_cons, List.length_append, List.length_cons]
      omega

/-- A stream of encoded frames is parsed into these frames. -/
theorem parse_flatten {encoded : List (List UInt8)} {frames : List α}
    (hencoded : List.Forall₂ format.Encodes encoded frames) :
    format.parse encoded.flatten = some frames :=
  parseFrames_flatten hencoded (length_le_flatten hencoded)

end Format

section Blocks

variable {α : Type}

/-- A list cut into blocks of `size` elements and a shorter last one. -/
def blocks (size : Nat) : Nat → List α → List (List α)
  | 0, _ => []
  | _ + 1, [] => []
  | fuel + 1, head :: tail =>
      (head :: tail).take size :: blocks size fuel ((head :: tail).drop size)

variable {size : Nat}

theorem flatten_blocks (hsize : 0 < size) {fuel : Nat} {data : List α} (hfuel : data.length ≤ fuel) :
    (blocks size fuel data).flatten = data := by
  induction fuel generalizing data with
  | zero =>
      rw [List.length_eq_zero_iff.mp (Nat.le_zero.mp hfuel)]
      rfl
  | succ fuel ih =>
      cases data with
      | nil => rfl
      | cons head tail =>
          have hdrop : ((head :: tail).drop size).length ≤ fuel := by
            rw [List.length_drop]
            omega
          rw [blocks, List.flatten_cons, ih hdrop, List.take_append_drop]

/-- More passes than there are elements change nothing. -/
theorem blocks_of_length_le (hsize : 0 < size) {fuel : Nat} {data : List α} (hfuel : data.length ≤ fuel) :
    blocks size fuel data = blocks size data.length data := by
  induction fuel using Nat.strongRecOn generalizing data with
  | ind fuel ih =>
      cases data with
      | nil => cases fuel <;> rfl
      | cons head tail =>
          rw [List.length_cons] at hfuel
          obtain ⟨fuel, rfl⟩ : ∃ n, fuel = n + 1 := ⟨fuel - 1, by omega⟩
          have hdrop : ((head :: tail).drop size).length ≤ tail.length := by
            rw [List.length_drop, List.length_cons]
            omega
          rw [List.length_cons, blocks, blocks, ih fuel (by omega) (Nat.le_trans hdrop (by omega)),
            ih tail.length (by omega) hdrop]

theorem forall_mem_blocks (hsize : 0 < size) {fuel : Nat} {data : List α} :
    ∀ block ∈ blocks size fuel data, block ≠ [] ∧ block.length ≤ size := by
  induction fuel generalizing data with
  | zero => simp [blocks]
  | succ fuel ih =>
      cases data with
      | nil => simp [blocks]
      | cons head tail =>
          rw [blocks, List.forall_mem_cons]
          refine ⟨⟨?_, List.length_take_le size _⟩, ih⟩
          exact List.ne_nil_of_length_pos (by rw [List.length_take, List.length_cons]; omega)

end Blocks

end FrameStream
