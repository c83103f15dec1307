import Mathlib.Data.List.Basic
import Mathlib.Algebra.Notation.Defs

/-! Positioned writes and reads on a finite sequence, as a file sees them: a write past the end
first fills the gap with zeros, and writes at consecutive positions add up to one write. -/

namespace ByteSplice

variable {α : Type}

/-- The `size` elements of `content` from `offset` on, if it has as many. -/
def slice (content : List α) (offset size : Nat) : Option (List α) :=
  if offset + size ≤ content.length then some ((content.drop offset).take size) else none

theorem slice_zero_length (content : List α) : slice content 0 content.length = some content := by
  simp [slice]

variable [Zero α]

/-- `content` after `bytes` were written at `offset`. Writing nothing leaves even a gap alone. -/
def splice (content : List α) (offset : Nat) : List α → List α
  | [] => content
  | byte :: bytes =>
      content.take offset ++ List.replicate (offset - content.length) 0 ++ (byte :: bytes) ++
        content.drop (offset + (bytes.length + 1))

@[simp] theorem splice_nil (content : List α) (offset : Nat) : splice content offset [] = content :=
  rfl

theorem splice_of_ne_nil {bytes : List α} (hbytes : bytes ≠ []) (content : List α) (offset : Nat) :
    splice content offset bytes = content.take offset ++
      List.replicate (offset - content.length) 0 ++ bytes ++ content.drop (offset + bytes.length) := by
  cases bytes with
  | nil => exact absurd rfl hbytes
  | cons byte bytes => rfl

@[simp] theorem head?_splice_cons (content bytes : List α) (byte : α) :
    (splice content 0 (byte :: bytes)).head? = some byte := by
  simp [splice]

theorem take_splice_zero (content bytes : List α) :
    (splice content 0 bytes).take bytes.length = bytes := by
  cases bytes with
  | nil => rfl
  | cons byte bytes => simp [splice]

theorem splice_head (old new : α) (rest : List α) :
    splice (old :: rest) 0 [new] = new :: rest := by
  simp [splice]

theorem length_splice {bytes : List α} (hbytes : bytes ≠ []) (content : List α) (offset : Nat) :
    (splice content offset bytes).length = max content.length (offset + bytes.length) := by
  rw [splice_of_ne_nil hbytes]
  simp only [List.length_append, List.length_take, List.length_replicate, List.length_drop]
  omega

theorem le_length_splice (content bytes : List α) (offset : Nat) :
    content.length ≤ (splice content offset bytes).length := by
  by_cases hbytes : bytes = []
  · simp [hbytes]
  · rw [length_splice hbytes]
    exact Nat.le_max_left ..

theorem length_splice_of_le {content bytes : List α} {offset : Nat}
    (hle : offset + bytes.length ≤ content.length) :
    (splice content offset bytes).length = content.length := by
  by_cases hbytes : bytes = []
  · rw [hbytes, splice_nil]
  · rw [length_splice hbytes, Nat.max_eq_left hle]

/-- A gap of zeros, then the written elements, then what the write did not reach. -/
theorem getElem?_splice {bytes : List α} (hbytes : bytes ≠ []) (content : List α) (offset i : Nat) :
    (splice content offset bytes)[i]? =
      if i < offset then (if i < content.length then content[i]? else some 0)
      else if i < offset + bytes.length then bytes[i - offset]? else content[i]? := by
  rw [splice_of_ne_nil hbytes]
  simp only [List.getElem?_append, List.length_append, List.length_take, List.length_replicate,
    List.getElem?_take, List.getElem?_drop, List.getElem?_replicate]
  by_cases hi : i < offset
  · by_cases hc : i < content.length
    · rw [if_pos (by omega), if_pos (by omega), if_pos (by omega), if_pos hi, if_pos hi, if_pos hc]
    · rw [if_pos (by omega), if_pos (by omega), if_neg (by omega), if_pos (by omega), if_pos hi,
        if_neg hc]
  · by_cases hb : i < offset + bytes.length
    · rw [if_pos (by omega), if_neg (by omega), if_neg hi, if_pos hb]
      congr 1
      omega
    · rw [if_neg (by omega), if_neg hi, if_neg hb]
      congr 1
      omega

/-- A write that goes on where the last one ended continues it. -/
theorem splice_splice (content : List α) (offset : Nat) (first rest : List α) :
    splice (splice content offset first) (offset + first.length) rest =
      splice content offset (first ++ rest) := by
  by_cases hfirst : first = []
  · simp only [hfirst, splice_nil, List.length_nil, Nat.add_zero, List.nil_append]
  by_cases hrest : rest = []
  · rw [hrest, splice_nil, List.append_nil]
  have happ : first ++ rest ≠ [] := by simp [hfirst]
  have hpos : 0 < first.length := List.length_pos_iff.mpr hfirst
  apply List.ext_getElem?
  intro i
  rw [getElem?_splice hrest, getElem?_splice happ, getElem?_splice hfirst, length_splice hfirst,
    List.getElem?_append, List.length_append]
  by_cases hi : i < offset
  · rw [if_pos (by omega), if_pos (by omega), if_pos hi, if_pos hi]
  by_cases hf : i < offset + first.length
  · rw [if_pos hf, if_pos (by omega), if_neg hi, if_pos hf, if_neg hi, if_pos (by omega),
      if_pos (by omega)]
  by_cases hr : i < offset + first.length + rest.length
  · rw [if_neg hf, if_pos hr, if_neg hi, if_pos (by omega), if_neg (by omega)]
    congr 1
    omega
  · rw [if_neg hf, if_neg hr, if_neg hi, if_neg hf, if_neg hi, if_neg (by omega)]

/-- What was written is read back. -/
theorem slice_splice {bytes : List α} (hbytes : bytes ≠ []) (content : List α) (offset : Nat) :
    slice (splice content offset bytes) offset bytes.length = some bytes := by
  have hlength := length_splice hbytes content offset
  have hstart : (content.take offset ++ List.replicate (offset - content.length) 0).length = offset := by
    simp only [List.length_append, List.length_take, List.length_replicate]
    omega
  rw [slice, if_pos (by omega), splice_of_ne_nil hbytes, List.append_assoc _ bytes,
    List.drop_left' hstart, List.take_left]

/-- A write changes nothing exactly where its bytes are already there. -/
theorem splice_eq_self_iff {bytes : List α} (hbytes : bytes ≠ []) {content : List α} {offset : Nat} :
    splice content offset bytes = content ↔ slice content offset bytes.length = some bytes := by
  constructor
  · intro hsame
    have hslice := slice_splice hbytes content offset
    rwa [hsame] at hslice
  · intro hslice
    rw [slice] at hslice
    split at hslice
    · rename_i hle
      have hgap : offset - content.length = 0 := by omega
      have hdrop : bytes ++ content.drop (offset + bytes.length) = content.drop offset := by
        rw [← List.drop_drop]
        conv_lhs =>
          lhs
          rw [← Option.some.inj hslice]
        exact List.take_append_drop ..
      rw [splice_of_ne_nil hbytes, hgap, List.replicate_zero, List.append_nil, List.append_assoc,
        hdrop, List.take_append_drop]
    · contradiction

/-- Filling a zeroed buffer from its start. -/
theorem splice_replicate (size : Nat) (bytes : List α) :
    splice (List.replicate size 0) 0 bytes = bytes ++ List.replicate (size - bytes.length) 0 := by
  by_cases hbytes : bytes = []
  · rw [hbytes, splice_nil, List.nil_append, List.length_nil, Nat.sub_zero]
  · rw [splice_of_ne_nil hbytes, List.take_zero, Nat.zero_sub, List.replicate_zero, Nat.zero_add,
      List.drop_replicate, List.nil_append, List.nil_append]

/-- A write from the start that covers everything there was. -/
theorem splice_cover {content bytes : List α} (hle : content.length ≤ bytes.length) :
    splice content 0 bytes = bytes := by
  by_cases hbytes : bytes = []
  · rw [hbytes, List.length_nil, Nat.le_zero, List.length_eq_zero_iff] at hle
    rw [hbytes, splice_nil, hle]
  · rw [splice_of_ne_nil hbytes, List.take_zero, Nat.zero_sub, List.replicate_zero, Nat.zero_add,
      List.drop_of_length_le hle, List.append_nil, List.nil_append, List.nil_append]

/-- Writing to an empty sequence from its start makes it the written one. -/
theorem splice_empty (bytes : List α) : splice [] 0 bytes = bytes := splice_cover (Nat.zero_le _)

end ByteSplice
