import Mathlib.Data.UInt
import SamsungIpc.ByteSplice

/-! A fixed array of characters that is written through a moving pointer, beside a count of the room that
is left. A store outside of the array has no result. -/

namespace TextBuffer

open ByteSplice

/-- One store into an array. -/
def storeAt (cells : List UInt8) (i : Nat) (c : UInt8) : Option (List UInt8) :=
  if i < cells.length then some (cells.set i c) else none

structure Buffer where
  cells : List UInt8
  next : Nat
  room : Nat

namespace Buffer

/-- `*next = c`. -/
def store (buffer : Buffer) (c : UInt8) : Option Buffer :=
  (storeAt buffer.cells buffer.next c).map fun cells => { buffer with cells := cells }

/-- `*next++ = c` with one less room. -/
def put (buffer : Buffer) (c : UInt8) : Option Buffer :=
  (buffer.store c).map fun buffer =>
    { buffer with next := buffer.next + 1, room := buffer.room - 1 }

/-- `snprintf` of a text with the room that is left, with `next` moved by the length of the text. -/
def print (buffer : Buffer) (text : List UInt8) : Option Buffer :=
  let stored := if buffer.room = 0 then [] else text.take (buffer.room - 1) ++ [0]
  if buffer.next + stored.length ≤ buffer.cells.length then
    some
      { cells := splice buffer.cells buffer.next stored
        next := buffer.next + text.length
        room := buffer.room - text.length }
  else none

end Buffer

/-- The array starts with the text, and the pointer is behind it. -/
structure Written (buffer : Buffer) (text : List UInt8) (size : Nat) : Prop where
  size_eq : buffer.cells.length = size
  le_size : text.length ≤ size
  next_eq : buffer.next = text.length
  room_eq : buffer.room = size - text.length
  take_eq : buffer.cells.take text.length = text

section Rules

variable {buffer : Buffer} {text : List UInt8} {size : Nat}

/-- The pointer is back at the start of the array. -/
theorem written_start {cells : List UInt8} : Written ⟨cells, 0, cells.length⟩ [] cells.length :=
  ⟨rfl, Nat.zero_le _, rfl, rfl, rfl⟩

theorem take_set {cells : List UInt8} {n : Nat} (hn : n < cells.length) (c : UInt8) :
    (cells.set n c).take (n + 1) = cells.take n ++ [c] := by
  have hget : (cells.set n c)[n]? = some c := by simp [hn]
  rw [List.take_add_one, List.take_set_of_le (Nat.le_refl n), hget]
  rfl

theorem Written.put (h : Written buffer text size) (hroom : text.length < size) (c : UInt8) :
    ∃ buffer', buffer.put c = some buffer' ∧ Written buffer' (text ++ [c]) size := by
  obtain ⟨hsize, hle, hnext, hcount, htake⟩ := h
  refine ⟨⟨buffer.cells.set buffer.next c, buffer.next + 1, buffer.room - 1⟩, ?_, ?_⟩
  · rw [Buffer.put, Buffer.store, storeAt, if_pos (by omega)]
    rfl
  · have hlength : (text ++ [c]).length = text.length + 1 := List.length_append
    refine ⟨?_, by omega, by rw [hnext, hlength], by rw [hcount, hlength, Nat.sub_add_eq], ?_⟩
    · rw [List.length_set, hsize]
    · rw [hlength, hnext, take_set (by omega), htake]

theorem Written.print (h : Written buffer text size) {printed : List UInt8}
    (hroom : text.length + printed.length < size) :
    ∃ buffer', buffer.print printed = some buffer' ∧ Written buffer' (text ++ printed) size := by
  obtain ⟨hsize, hle, hnext, hcount, htake⟩ := h
  have hstored : (if buffer.room = 0 then [] else printed.take (buffer.room - 1) ++ [0]) =
      printed ++ [0] := by
    rw [if_neg (by omega), List.take_of_length_le (by omega)]
  have hne : printed ++ [(0 : UInt8)] ≠ [] := by simp
  have hend : (printed ++ [(0 : UInt8)]).length = printed.length + 1 := List.length_append
  have hfits : buffer.next + (printed ++ [(0 : UInt8)]).length ≤ buffer.cells.length := by omega
  refine ⟨⟨splice buffer.cells buffer.next (printed ++ [0]), buffer.next + printed.length,
    buffer.room - printed.length⟩, ?_, ?_⟩
  · simp only [Buffer.print, hstored]
    rw [if_pos hfits]
  · have hlength : (text ++ printed).length = text.length + printed.length := List.length_append
    refine ⟨?_, by omega, by rw [hnext, hlength], by rw [hcount, hlength, Nat.sub_add_eq], ?_⟩
    · rw [length_splice_of_le hfits, hsize]
    · have hgap : text.length - buffer.cells.length = 0 := by omega
      rw [splice_of_ne_nil hne, hnext, hgap, htake, List.replicate_zero, List.append_nil,
        ← List.append_assoc, List.append_assoc (text ++ printed), List.take_left]

/-- The end of the text is stored behind it, and what was in the array before goes on behind the end. -/
theorem Written.store (h : Written buffer text size) (hroom : text.length < size) (c : UInt8) :
    ∃ buffer' rest, buffer.store c = some buffer' ∧ buffer'.cells = text ++ c :: rest ∧
      buffer'.cells.length = size := by
  obtain ⟨hsize, hle, hnext, hcount, htake⟩ := h
  refine ⟨⟨buffer.cells.set buffer.next c, buffer.next, buffer.room⟩,
    buffer.cells.drop (text.length + 1), ?_, ?_, ?_⟩
  · rw [Buffer.store, storeAt, if_pos (by omega)]
    rfl
  · have hsplit := List.take_append_drop (text.length + 1) (buffer.cells.set text.length c)
    rw [take_set (by omega), htake, List.drop_set_of_lt (by omega), List.append_assoc] at hsplit
    rw [hnext]
    exact hsplit.symm
  · rw [List.length_set, hsize]

/-- A text that fills the array leaves no place for its end. -/
theorem Written.store_full (h : Written buffer text size) (hfull : text.length = size) (c : UInt8) :
    buffer.store c = none := by
  have hoverrun : ¬buffer.next < buffer.cells.length := by
    rw [h.size_eq, h.next_eq]
    omega
  rw [Buffer.store, storeAt, if_neg hoverrun]
  rfl

end Rules

end TextBuffer
