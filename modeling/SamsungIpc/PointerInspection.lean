import SamsungIpc.EffectProgram
import SamsungIpc.LittleEndian

/-! Functions that look at memory through one pointer: which offsets a run inspects, and the rule that
a run within a bound depends on the memory below the bound only. -/

namespace PointerInspection

open Effect

/-- What a function may ask of its pointer. -/
inductive Load : Type → Type where
  | isNull : Load Bool
  | byte (offset : Nat) : Load UInt8

/-- The memory behind a pointer; `none` is `NULL`. -/
abbrev Pointer := Option (Nat → UInt8)

abbrev Inspector := Prog Load

def isNull : Inspector Bool := Prog.perform .isNull

def byte (offset : Nat) : Inspector UInt8 := Prog.perform (.byte offset)

def bytes (offset : Nat) : Nat → Inspector (List UInt8)
  | 0 => pure []
  | count + 1 => do
      let first ← byte offset
      let rest ← bytes (offset + 1) count
      pure (first :: rest)

/-- An unsigned integer of `width` bytes. -/
def word (offset width : Nat) : Inspector Nat := do
  let encoded ← bytes offset width
  pure (LittleEndian.decode encoded)

/-- The bytes before the first `NUL`, at most `limit`; the `NUL` is inspected too. -/
def untilZero (offset : Nat) : Nat → Inspector (List UInt8)
  | 0 => pure []
  | limit + 1 => do
      let first ← byte offset
      if first = 0 then pure []
      else do
        let rest ← untilZero (offset + 1) limit
        pure (first :: rest)

/-- `memchr`: the first of `limit` bytes that is `c`; nothing behind it is inspected. -/
def findByte (c : UInt8) (offset : Nat) : Nat → Inspector (Option Nat)
  | 0 => pure none
  | limit + 1 => do
      let first ← byte offset
      if first = c then pure (some offset) else findByte c (offset + 1) limit

/-- `strncmp` of some bytes with as many behind the pointer, up to the first difference or common `NUL`. -/
def compareAt (offset : Nat) : List UInt8 → Inspector Int
  | [] => pure 0
  | first :: rest => do
      let other ← byte offset
      if first = other then
        if first = 0 then pure 0 else compareAt (offset + 1) rest
      else pure (if first < other then -1 else 1)

variable {α β : Type}

/-- The offsets a run inspects, and its value; a run that inspects `NULL` has none. -/
def inspect : Inspector α → Pointer → List Nat × Option α
  | .pure value, _ => ([], some value)
  | .call .isNull next, pointer => inspect (next pointer.isNone) pointer
  | .call (.byte offset) _, none => ([offset], none)
  | .call (.byte offset) next, some memory =>
      let rest := inspect (next (memory offset)) (some memory)
      (offset :: rest.1, rest.2)

/-- The run inspects only offsets below `size`, never through `NULL`, and ends with `Q`. -/
def Within (size : Nat) : Inspector α → (α → Prop) → Pointer → Prop
  | .pure value, Q, _ => Q value
  | .call .isNull next, Q, pointer => Within size (next pointer.isNone) Q pointer
  | .call (.byte _) _, _, none => False
  | .call (.byte offset) next, Q, some memory =>
      offset < size ∧ Within size (next (memory offset)) Q (some memory)

/-- The value of a run, if it does not inspect `NULL`. -/
def value (p : Inspector α) (pointer : Pointer) : Option α := (inspect p pointer).2

/-- The bytes lie at an offset of the memory. -/
def Holds (memory : Nat → UInt8) : Nat → List UInt8 → Prop
  | _, [] => True
  | offset, first :: rest => memory offset = first ∧ Holds memory (offset + 1) rest

instance Holds.decidable (memory : Nat → UInt8) :
    ∀ offset text, Decidable (Holds memory offset text)
  | _, [] => isTrue trivial
  | offset, first :: rest =>
      let _ := Holds.decidable memory (offset + 1) rest
      inferInstanceAs (Decidable (memory offset = first ∧ Holds memory (offset + 1) rest))

section Rules

variable {size : Nat} {pointer : Pointer} {memory : Nat → UInt8}

theorem within_iff {p : Inspector α} {Q : α → Prop} :
    Within size p Q pointer ↔
      (∀ offset ∈ (inspect p pointer).1, offset < size) ∧
        ∃ value, (inspect p pointer).2 = some value ∧ Q value := by
  induction p with
  | pure value => simp [Within, inspect]
  | call request next ih =>
      cases request with
      | isNull => exact ih _
      | byte offset =>
          cases pointer with
          | none => simp [Within, inspect]
          | some memory =>
              unfold Within inspect
              rw [ih, List.forall_mem_cons, and_assoc]

@[simp] theorem within_pure {value : α} {Q : α → Prop} :
    Within size (pure value) Q pointer ↔ Q value := Iff.rfl

@[simp] theorem within_bind {p : Inspector α} {rest : α → Inspector β} {Q : β → Prop} :
    Within size (p >>= rest) Q pointer ↔
      Within size p (fun value => Within size (rest value) Q pointer) pointer := by
  induction p with
  | pure value => exact Iff.rfl
  | call request next ih =>
      cases request with
      | isNull => exact ih _
      | byte offset =>
          cases pointer with
          | none => exact Iff.rfl
          | some memory => exact and_congr_right fun _ => ih _

@[simp] theorem within_isNull {Q : Bool → Prop} :
    Within size isNull Q pointer ↔ Q pointer.isNone := Iff.rfl

@[simp] theorem within_byte {offset : Nat} {Q : UInt8 → Prop} :
    Within size (byte offset) Q (some memory) ↔ offset < size ∧ Q (memory offset) := Iff.rfl

@[simp] theorem inspect_pure {result : α} :
    inspect (pure result) pointer = ([], some result) := rfl

theorem inspect_isNull : inspect isNull pointer = ([], some pointer.isNone) := rfl

theorem inspect_byte {offset : Nat} :
    inspect (byte offset) (some memory) = ([offset], some (memory offset)) := rfl

/-- What follows a run inspects its own offsets after those of the run. -/
theorem inspect_bind {p : Inspector α} {rest : α → Inspector β} {offsets : List Nat} {result : α}
    (hp : inspect p pointer = (offsets, some result)) :
    inspect (p >>= rest) pointer =
      (offsets ++ (inspect (rest result) pointer).1, (inspect (rest result) pointer).2) := by
  induction p generalizing offsets with
  | pure value =>
      obtain ⟨rfl, hvalue⟩ := Prod.mk.inj hp
      obtain rfl := Option.some.inj hvalue
      rfl
  | call request next ih =>
      cases request with
      | isNull => exact ih _ hp
      | byte offset =>
          cases pointer with
          | none => exact absurd (congrArg Prod.snd hp) (Option.some_ne_none _).symm
          | some memory =>
              obtain ⟨rfl, hresult⟩ := Prod.mk.inj hp
              have hrest := ih (memory offset) (Prod.ext rfl hresult)
              change (offset :: (inspect (next (memory offset) >>= rest) (some memory)).1,
                (inspect (next (memory offset) >>= rest) (some memory)).2) = _
              rw [hrest]
              rfl

theorem Within.value_eq {p : Inspector α} {Q : α → Prop} (hp : Within size p Q pointer) :
    ∃ result, value p pointer = some result ∧ Q result := (within_iff.mp hp).2

theorem Within.mono {p : Inspector α} {Q R : α → Prop} (hp : Within size p Q pointer)
    (hQR : ∀ value, Q value → R value) : Within size p R pointer := by
  obtain ⟨hsize, value, hvalue, hQ⟩ := within_iff.mp hp
  exact within_iff.mpr ⟨hsize, value, hvalue, hQR value hQ⟩

/-- A run within a bound cannot tell memories apart that agree below the bound. -/
theorem inspect_eq_of_agree {p : Inspector α} {Q : α → Prop} {other : Nat → UInt8}
    (hp : Within size p Q (some memory)) (hagree : ∀ offset < size, other offset = memory offset) :
    inspect p (some other) = inspect p (some memory) := by
  induction p with
  | pure value => rfl
  | call request next ih =>
      cases request with
      | isNull => exact ih _ hp
      | byte offset =>
          unfold inspect
          rw [hagree offset hp.1, ih _ hp.2]

theorem forall_mem_range'_lt_iff {start count : Nat} :
    (∀ offset ∈ List.range' start count, offset < size) ↔ (count ≠ 0 → start + count ≤ size) := by
  constructor
  · intro hall hcount
    have hlast := hall (start + (count - 1)) (List.mem_range'_1.mpr (by omega))
    omega
  · intro hle offset hoffset
    obtain ⟨hfrom, hto⟩ := List.mem_range'_1.mp hoffset
    have hend := hle (by omega)
    omega

/-- The rule for a run whose offsets lie one behind the other. -/
theorem within_iff_of_range' {p : Inspector α} {Q : α → Prop} {start count : Nat} {result : α}
    (hp : inspect p (some memory) = (List.range' start count, some result)) :
    Within size p Q (some memory) ↔ (count ≠ 0 → start + count ≤ size) ∧ Q result := by
  rw [within_iff, hp, forall_mem_range'_lt_iff]
  simp

theorem inspect_bytes {offset count : Nat} :
    inspect (bytes offset count) (some memory) =
      (List.range' offset count, some ((List.range' offset count).map memory)) := by
  induction count generalizing offset with
  | zero => rfl
  | succ count ih =>
      rw [bytes, inspect_bind inspect_byte, inspect_bind ih, inspect_pure, List.append_nil,
        List.range'_succ]
      rfl

@[simp] theorem within_bytes {offset count : Nat} {Q : List UInt8 → Prop} :
    Within size (bytes offset count) Q (some memory) ↔
      (count ≠ 0 → offset + count ≤ size) ∧ Q ((List.range' offset count).map memory) :=
  within_iff_of_range' inspect_bytes

theorem within_bytes_null {offset count : Nat} {Q : List UInt8 → Prop} (hcount : count ≠ 0) :
    ¬ Within size (bytes offset count) Q none := by
  obtain ⟨count, rfl⟩ := Nat.exists_eq_succ_of_ne_zero hcount
  exact False.elim

/-- The number behind the pointer. -/
def wordAt (memory : Nat → UInt8) (offset width : Nat) : Nat :=
  LittleEndian.decode ((List.range' offset width).map memory)

theorem wordAt_lt (memory : Nat → UInt8) (offset width : Nat) :
    wordAt memory offset width < 256 ^ width := by
  have hlt := LittleEndian.decode_lt ((List.range' offset width).map memory)
  rwa [List.length_map, List.length_range'] at hlt

/-- The last byte is the most significant one. -/
theorem wordAt_succ (memory : Nat → UInt8) (offset width : Nat) :
    wordAt memory offset (width + 1) =
      wordAt memory offset width + 256 ^ width * (memory (offset + width)).toNat := by
  rw [wordAt, List.range'_1_concat, List.map_append, LittleEndian.decode_append, List.length_map,
    List.length_range']
  rfl

theorem wordAt_congr {other : Nat → UInt8} {offset width : Nat}
    (hagree : ∀ i < offset + width, other i = memory i) :
    wordAt other offset width = wordAt memory offset width := by
  unfold wordAt
  rw [List.map_congr_left fun i hi => hagree i (List.mem_range'_1.mp hi).2]

@[simp] theorem within_word {offset width : Nat} {Q : Nat → Prop} :
    Within size (word offset width) Q (some memory) ↔
      (width ≠ 0 → offset + width ≤ size) ∧ Q (wordAt memory offset width) := by
  rw [word, within_bind, within_bytes]
  rfl

theorem within_word_null {offset width : Nat} {Q : Nat → Prop} (hwidth : width ≠ 0) :
    ¬ Within size (word offset width) Q none := by
  rw [word, within_bind]
  exact within_bytes_null hwidth

@[simp] theorem value_pure {result : α} : value (pure result) pointer = some result := rfl

@[simp] theorem value_bind {p : Inspector α} {rest : α → Inspector β} :
    value (p >>= rest) pointer =
      (value p pointer).bind fun result => value (rest result) pointer := by
  induction p with
  | pure result => rfl
  | call request next ih =>
      cases request with
      | isNull => exact ih _
      | byte offset =>
          cases pointer with
          | none => rfl
          | some memory => exact ih _

theorem value_bind_eq_some_iff {p : Inspector α} {rest : α → Inspector β} {result : β} :
    value (p >>= rest) pointer = some result ↔
      ∃ first, value p pointer = some first ∧ value (rest first) pointer = some result := by
  rw [value_bind, Option.bind_eq_some_iff]

/-- Only a look through `NULL` leaves a function without a value. -/
theorem exists_value (p : Inspector α) : ∃ result, value p (some memory) = some result := by
  induction p with
  | pure result => exact ⟨result, rfl⟩
  | call query next ih =>
      cases query with
      | isNull => exact ih false
      | byte offset => exact ih (memory offset)

@[simp] theorem value_byte {offset : Nat} :
    value (byte offset) (some memory) = some (memory offset) := rfl

theorem value_word {offset width : Nat} :
    value (word offset width) (some memory) = some (wordAt memory offset width) := by
  have hword : Within (offset + width) (word offset width) (· = wordAt memory offset width)
      (some memory) := within_word.mpr ⟨fun _ => le_rfl, rfl⟩
  obtain ⟨_, hvalue, rfl⟩ := hword.value_eq
  exact hvalue

theorem holds_append {offset : Nat} {first second : List UInt8} :
    Holds memory offset (first ++ second) ↔
      Holds memory offset first ∧ Holds memory (offset + first.length) second := by
  induction first generalizing offset with
  | nil => simp [Holds]
  | cons head tail ih =>
      rw [List.cons_append, Holds, Holds, ih, List.length_cons, and_assoc, Nat.add_right_comm,
        Nat.add_assoc]

/-- How many bytes a search for `NUL` looks at. -/
def zeroSpan (memory : Nat → UInt8) (offset : Nat) : Nat → Nat
  | 0 => 0
  | limit + 1 => if memory offset = 0 then 1 else zeroSpan memory (offset + 1) limit + 1

/-- The bytes in front of the first `NUL`. -/
def textAt (memory : Nat → UInt8) (offset : Nat) : Nat → List UInt8
  | 0 => []
  | limit + 1 =>
      if memory offset = 0 then [] else memory offset :: textAt memory (offset + 1) limit

theorem zeroSpan_le (memory : Nat → UInt8) (offset limit : Nat) :
    zeroSpan memory offset limit ≤ limit := by
  induction limit generalizing offset with
  | zero => exact Nat.le_refl 0
  | succ limit ih =>
      rw [zeroSpan]
      split
      · exact Nat.succ_le_succ (Nat.zero_le limit)
      · exact Nat.succ_le_succ (ih _)

theorem zeroSpan_ne_zero_iff {offset limit : Nat} : zeroSpan memory offset limit ≠ 0 ↔ limit ≠ 0 := by
  cases limit with
  | zero => exact Iff.rfl
  | succ limit =>
      rw [zeroSpan]
      split <;> simp

theorem length_textAt_le (memory : Nat → UInt8) (offset limit : Nat) :
    (textAt memory offset limit).length ≤ limit := by
  induction limit generalizing offset with
  | zero => exact Nat.le_refl 0
  | succ limit ih =>
      rw [textAt]
      split
      · exact Nat.zero_le _
      · exact Nat.succ_le_succ (ih _)

theorem ne_zero_of_mem_textAt {offset limit : Nat} {byte : UInt8}
    (hbyte : byte ∈ textAt memory offset limit) : byte ≠ 0 := by
  induction limit generalizing offset with
  | zero => exact absurd hbyte List.not_mem_nil
  | succ limit ih =>
      rw [textAt] at hbyte
      split at hbyte
      · exact absurd hbyte List.not_mem_nil
      · rename_i hzero
        rcases List.mem_cons.mp hbyte with rfl | hrest
        · exact hzero
        · exact ih hrest

theorem inspect_untilZero {offset limit : Nat} :
    inspect (untilZero offset limit) (some memory) =
      (List.range' offset (zeroSpan memory offset limit), some (textAt memory offset limit)) := by
  induction limit generalizing offset with
  | zero => rfl
  | succ limit ih =>
      rw [untilZero, inspect_bind inspect_byte, zeroSpan, textAt]
      by_cases hzero : memory offset = 0
      · rw [if_pos hzero, if_pos hzero, if_pos hzero]
        rfl
      · rw [if_neg hzero, if_neg hzero, if_neg hzero, inspect_bind ih, inspect_pure,
          List.append_nil, List.range'_succ]
        rfl

theorem within_untilZero_iff {offset limit : Nat} {Q : List UInt8 → Prop} :
    Within size (untilZero offset limit) Q (some memory) ↔
      (limit ≠ 0 → offset + zeroSpan memory offset limit ≤ size) ∧ Q (textAt memory offset limit) := by
  rw [within_iff_of_range' inspect_untilZero, zeroSpan_ne_zero_iff]

theorem within_untilZero_of_le {offset limit : Nat} (hlimit : offset + limit ≤ size) :
    Within size (untilZero offset limit) (fun text => text.length ≤ limit) (some memory) := by
  have hspan := zeroSpan_le memory offset limit
  exact within_untilZero_iff.mpr ⟨fun _ => by omega, length_textAt_le memory offset limit⟩

/-- A text without `NUL` that fills the limit is found whole. -/
theorem textAt_of_holds {offset : Nat} {text : List UInt8} (hholds : Holds memory offset text)
    (htext : ∀ byte ∈ text, byte ≠ 0) : textAt memory offset text.length = text := by
  induction text generalizing offset with
  | nil => rfl
  | cons head tail ih =>
      obtain ⟨hhead, htail⟩ := List.forall_mem_cons.mp htext
      rw [List.length_cons, textAt, hholds.1, if_neg hhead, ih hholds.2 htail]

/-- What a search for a byte finds. -/
def firstAt (memory : Nat → UInt8) (c : UInt8) (offset : Nat) : Nat → Option Nat
  | 0 => none
  | limit + 1 => if memory offset = c then some offset else firstAt memory c (offset + 1) limit

/-- How many bytes it looks at. -/
def findSpan (memory : Nat → UInt8) (c : UInt8) (offset : Nat) : Nat → Nat
  | 0 => 0
  | limit + 1 => if memory offset = c then 1 else findSpan memory c (offset + 1) limit + 1

theorem inspect_findByte {c : UInt8} {offset limit : Nat} :
    inspect (findByte c offset limit) (some memory) =
      (List.range' offset (findSpan memory c offset limit), some (firstAt memory c offset limit)) := by
  induction limit generalizing offset with
  | zero => rfl
  | succ limit ih =>
      rw [findByte, inspect_bind inspect_byte, findSpan, firstAt]
      by_cases hfound : memory offset = c
      · rw [if_pos hfound, if_pos hfound, if_pos hfound]
        rfl
      · rw [if_neg hfound, if_neg hfound, if_neg hfound, ih, List.range'_succ]
        rfl

@[simp] theorem value_findByte {c : UInt8} {offset limit : Nat} :
    value (findByte c offset limit) (some memory) = some (firstAt memory c offset limit) :=
  congrArg Prod.snd inspect_findByte

theorem firstAt_eq_some {c : UInt8} {offset limit found : Nat}
    (hfound : firstAt memory c offset limit = some found) :
    offset ≤ found ∧ found < offset + limit ∧ memory found = c ∧
      findSpan memory c offset limit = found + 1 - offset ∧
      ∀ i, offset ≤ i → i < found → memory i ≠ c := by
  induction limit generalizing offset with
  | zero => contradiction
  | succ limit ih =>
      rw [firstAt] at hfound
      rw [findSpan]
      by_cases hhere : memory offset = c
      · rw [if_pos hhere] at hfound ⊢
        obtain rfl := Option.some.inj hfound
        exact ⟨Nat.le_refl _, by omega, hhere, by omega, fun i hle hlt => by omega⟩
      · rw [if_neg hhere] at hfound ⊢
        obtain ⟨hle, hlt, hc, hspan, hbefore⟩ := ih hfound
        refine ⟨by omega, by omega, hc, by omega, fun i hi hlt => ?_⟩
        rcases Nat.eq_or_lt_of_le hi with rfl | hi
        · exact hhere
        · exact hbefore i hi hlt

theorem firstAt_eq_none {c : UInt8} {offset limit : Nat}
    (hfound : firstAt memory c offset limit = none) :
    findSpan memory c offset limit = limit ∧
      ∀ i, offset ≤ i → i < offset + limit → memory i ≠ c := by
  induction limit generalizing offset with
  | zero => exact ⟨rfl, fun i hle hlt => by omega⟩
  | succ limit ih =>
      rw [firstAt] at hfound
      rw [findSpan]
      by_cases hhere : memory offset = c
      · rw [if_pos hhere] at hfound
        contradiction
      · rw [if_neg hhere] at hfound ⊢
        obtain ⟨hspan, hnone⟩ := ih hfound
        refine ⟨by rw [hspan], fun i hi hlt => ?_⟩
        rcases Nat.eq_or_lt_of_le hi with rfl | hi
        · exact hhere
        · exact hnone i hi (by omega)

/-- What a comparison answers. -/
def orderAt (memory : Nat → UInt8) (offset : Nat) : List UInt8 → Int
  | [] => 0
  | first :: rest =>
      if first = memory offset then
        if first = 0 then 0 else orderAt memory (offset + 1) rest
      else if first < memory offset then -1 else 1

@[simp] theorem value_compareAt {offset : Nat} {text : List UInt8} :
    value (compareAt offset text) (some memory) = some (orderAt memory offset text) := by
  induction text generalizing offset with
  | nil => rfl
  | cons first rest ih =>
      rw [compareAt, value_bind, value_byte, Option.bind_some, orderAt]
      split
      · split
        · rfl
        · exact ih
      · rfl

/-- Bytes that are there compare as equal. -/
theorem orderAt_of_holds {offset : Nat} {text : List UInt8} (hholds : Holds memory offset text) :
    orderAt memory offset text = 0 := by
  induction text generalizing offset with
  | nil => rfl
  | cons first rest ih =>
      rw [orderAt, if_pos hholds.1.symm]
      split
      · rfl
      · exact ih hholds.2

/-- The value of a run that stays within a bound is as promised. -/
theorem Within.of_value {p : Inspector α} {Q : α → Prop} {result : α} (hp : Within size p Q pointer)
    (hresult : value p pointer = some result) : Q result := by
  obtain ⟨other, hother, hQ⟩ := hp.value_eq
  rw [hresult] at hother
  exact Option.some.inj hother ▸ hQ

end Rules

end PointerInspection
