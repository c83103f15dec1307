import Mathlib.Data.List.TakeWhile
import SamsungIpc.FileKernel

/-! The C string functions in use, on strings without their terminator, and the hex conversion of
`utils.c`. -/

namespace SamsungIpc

/-- A string literal. -/
def cString (literal : String) : CString := literal.toList.map fun c => UInt8.ofNat c.toNat

/-- `strndup`: at most `n` bytes, and none after the first `NUL`. -/
def strndup (buffer : Bytes) (n : Nat) : CString := (buffer.take n).takeWhile (· ≠ 0)

/-- `strncmp`, of which only the sign is specified. -/
def strncmp : CString → CString → Nat → Int
  | _, _, 0 => 0
  | [], [], _ + 1 => 0
  | [], _ :: _, _ + 1 => -1
  | _ :: _, [], _ + 1 => 1
  | a :: s, b :: t, n + 1 => if a = b then strncmp s t n else if a < b then -1 else 1

theorem strncmp_eq_zero_iff (s t : CString) (n : Nat) :
    strncmp s t n = 0 ↔ s.take n = t.take n := by
  induction n generalizing s t with
  | zero => simp [strncmp]
  | succ n ih =>
      cases s with
      | nil => cases t <;> simp [strncmp]
      | cons a s =>
          cases t with
          | nil => simp [strncmp]
          | cons b t =>
              rw [strncmp, List.take_succ_cons, List.take_succ_cons, List.cons.injEq]
              split
              · rename_i heq
                rw [ih, and_iff_right heq]
              · rename_i hne
                refine iff_of_false ?_ (fun h => hne h.1)
                split <;> decide

/-- A buffer that starts with a string, which has no `NUL`, is compared equal to it by
`strncmp(string, strndup(buffer, length), length)` and nothing else is. -/
theorem strncmp_strndup_iff (string buffer : Bytes) (hstring : ∀ byte ∈ string, byte ≠ 0)
    (hlength : buffer.length = string.length) :
    strncmp string (strndup buffer string.length) string.length = 0 ↔ buffer = string := by
  rw [strncmp_eq_zero_iff, strndup, List.take_length, ← hlength, List.take_length]
  constructor
  · intro heq
    have hwhole : (buffer.takeWhile (· ≠ 0)).length = buffer.length := by
      have hle := (List.takeWhile_sublist (p := (· ≠ 0)) (l := buffer)).length_le
      have htake := congrArg List.length heq
      rw [List.length_take] at htake
      omega
    have hall : buffer.takeWhile (· ≠ 0) = buffer :=
      (List.takeWhile_prefix _).eq_of_length hwhole
    rw [heq, hall, List.take_length]
  · rintro rfl
    have hall : buffer.takeWhile (· ≠ 0) = buffer :=
      List.takeWhile_eq_self_iff.mpr (by simpa using hstring)
    rw [hall, List.take_length]

/-- `isspace` in the C locale. -/
def isSpace (c : UInt8) : Bool := c = 0x20 ∨ (0x09 ≤ c ∧ c ≤ 0x0d)

def hexValue (c : UInt8) : Option Nat :=
  if 0x30 ≤ c ∧ c ≤ 0x39 then some (c.toNat - 0x30)
  else if 0x61 ≤ c ∧ c ≤ 0x66 then some (c.toNat - 0x61 + 10)
  else if 0x41 ≤ c ∧ c ≤ 0x46 then some (c.toNat - 0x41 + 10)
  else none

/-- The lower-case hex digit of a nibble. -/
def hexDigit (nibble : Nat) : UInt8 :=
  if nibble < 10 then UInt8.ofNat (0x30 + nibble) else UInt8.ofNat (0x61 + (nibble - 10))

/-- `sprintf(p, "%02x", byte)`. -/
def sprintf02x (byte : UInt8) : CString := [hexDigit (byte.toNat / 16), hexDigit (byte.toNat % 16)]

/-- The hex digits of a byte sequence, two for each byte, the high nibble first. -/
def hexDigits (data : Bytes) : CString := data.flatMap sprintf02x

/-- `data` is `none` for `NULL`; otherwise its length is the argument `size`. -/
def data2stringLength (data : Option Bytes) : Nat :=
  match data with
  | none => 0
  | some data => if data.length = 0 then 0 else data.length * 2 + 1

def data2string (data : Option Bytes) : Option CString :=
  match data with
  | none => none
  | some data =>
      if data.length = 0 then none
      else if data2stringLength (some data) = 0 then none
      else some (hexDigits data)

theorem hexDigit_injective : ∀ m < 16, ∀ n < 16, hexDigit m = hexDigit n → m = n := by decide

theorem hexDigit_ne_zero : ∀ n < 16, hexDigit n ≠ 0 := by decide

theorem sprintf02x_injective {a b : UInt8} (h : sprintf02x a = sprintf02x b) : a = b := by
  have ha := a.toNat_lt
  have hb := b.toNat_lt
  simp only [sprintf02x, List.cons.injEq, and_true] at h
  have hhigh := hexDigit_injective _ (by omega) _ (by omega) h.1
  have hlow := hexDigit_injective _ (by omega) _ (by omega) h.2
  exact UInt8.toNat_inj.mp (by omega)

@[simp] theorem length_hexDigits (data : Bytes) : (hexDigits data).length = 2 * data.length := by
  induction data with
  | nil => rfl
  | cons byte data ih =>
      have hcons : hexDigits (byte :: data) = sprintf02x byte ++ hexDigits data := rfl
      rw [hcons, List.length_append, ih, List.length_cons]
      simp only [sprintf02x, List.length_cons, List.length_nil]
      omega

theorem hexDigits_injective {a b : Bytes} (h : hexDigits a = hexDigits b) : a = b := by
  induction a generalizing b with
  | nil =>
      have hlength := congrArg List.length h
      rw [length_hexDigits, length_hexDigits, List.length_nil] at hlength
      exact (List.length_eq_zero_iff.mp (by omega)).symm
  | cons x a ih =>
      cases b with
      | nil =>
          have hlength := congrArg List.length h
          rw [length_hexDigits, length_hexDigits, List.length_cons, List.length_nil] at hlength
          omega
      | cons y b =>
          have happend : sprintf02x x ++ hexDigits a = sprintf02x y ++ hexDigits b := h
          obtain ⟨hbyte, hrest⟩ := List.append_inj happend rfl
          rw [sprintf02x_injective hbyte, ih hrest]

theorem ne_zero_of_mem_hexDigits {data : Bytes} : ∀ digit ∈ hexDigits data, digit ≠ 0 := by
  intro digit hdigit
  obtain ⟨byte, _, hbyte⟩ := List.mem_flatMap.mp hdigit
  have hlt := byte.toNat_lt
  rcases List.mem_pair.mp hbyte with rfl | rfl
  · exact hexDigit_ne_zero _ (by omega)
  · exact hexDigit_ne_zero _ (by omega)

theorem data2string_of_length_pos {data : Bytes} (hdata : 0 < data.length) :
    data2string (some data) = some (hexDigits data) := by
  simp only [data2string, data2stringLength, if_neg hdata.ne']
  rw [if_neg (by omega)]

end SamsungIpc
