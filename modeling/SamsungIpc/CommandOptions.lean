import SamsungIpc.DigitText
import SamsungIpc.FrameTransport
import SamsungIpc.ImeiStorage

/-! The checks of the command line options of `nv_data-imei`, before a command runs. -/

namespace SamsungIpc

open DigitText

/-- `ULONG_MAX`, as large as the largest `size_t`. -/
def Abi.ulongMax (abi : Abi) : Nat := 2 ^ abi.sizeBits - 1

/-- `BIT(n)`, as it is stored in the eight bits of the options. -/
def bit (n : UInt8) : UInt8 := 1 <<< n

def OPTION_FILE : UInt8 := bit 0
def OPTION_IMEI : UInt8 := bit 2
def OPTION_OFFSET : UInt8 := bit 3

/-- `struct command`, without its help text and its function. -/
structure Command where
  name : CString
  options : UInt8
  requiredOptions : UInt8

def writeImeiCommand : Command :=
  ⟨cString "write-imei", OPTION_FILE ||| OPTION_IMEI ||| OPTION_OFFSET,
    OPTION_FILE ||| OPTION_IMEI ||| OPTION_OFFSET⟩

/-! ### `strtoul` -/

/-- The base of a number that may start with its own, `strtoul(text, NULL, 0)`, and its digits with what
follows them. A `0x` only counts in front of a hex digit. -/
def detectBase (text : CString) : Nat × CString :=
  if text.head? = some 0x30 then
    if (text[1]? = some 0x78 ∨ text[1]? = some 0x58) ∧ (text[2]?.bind hexValue).isSome then
      (16, text.drop 2)
    else (8, text)
  else (10, text)

/-- The number at the start of a text, `0` if there is none. -/
def numberAt (text : CString) : Nat :=
  let detected := detectBase text
  ofDigits detected.1 (digitPrefix hexValue detected.1 detected.2)

/-- What follows the blanks and the sign of a text. -/
def unsignedPart (text : CString) : CString :=
  let text := text.dropWhile isSpace
  if text.head? = some 0x2b ∨ text.head? = some 0x2d then text.tail else text

/-- The first character that is not blank is a minus sign. -/
def IsNegative (text : CString) : Prop := (text.dropWhile isSpace).head? = some 0x2d

instance (text : CString) : Decidable (IsNegative text) := decEq (α := Option UInt8) _ _

/-- The value of `strtoul(text, NULL, 0)` and `errno` after it. A negative number is counted down from
zero. -/
def strtoul (abi : Abi) (text : CString) (errno : Errno) : Nat × Errno :=
  let number := numberAt (unsignedPart text)
  if abi.ulongMax < number then (abi.ulongMax, ERANGE)
  else if IsNegative text then ((abi.ulongMax + 1 - number) % (abi.ulongMax + 1), errno)
  else (number, errno)

/-! ### The offset -/

def OFFSET_NEGATIVE : Nat := 1 <<< 0
def OFFSET_OVERFLOW : Nat := 1 <<< 1

/-- `struct offset`. `optarg` is what the option was given, if it was. -/
structure OffsetOption where
  offset : Nat
  optionSet : Bool
  error : Nat
  optarg : CString

/-- What `main` has stored for `--offset=text`. -/
def OffsetOption.given (text : CString) : OffsetOption := ⟨0, true, 0, text⟩

/-- What a check of an option returns, stores and prints. -/
structure OptionAnswer (α : Type) where
  rc : Int
  stored : α
  printed : CString

/-- The loop over the blanks in front of the offset. -/
def scanSign : CString → Nat → Nat
  | [], error => error
  | c :: text, error =>
      if isSpace c then scanSign text error
      else if c = 0x2d then error ||| OFFSET_NEGATIVE
      else error

def offsetErrorText (error : Nat) (text : CString) : CString :=
  let negative := error &&& OFFSET_NEGATIVE ≠ 0
  let tooBig := error &&& OFFSET_OVERFLOW ≠ 0
  if negative ∧ tooBig then
    cString "Error: The '" ++ text ++ cString "' offset is negative and too big as well.\n"
  else if negative then
    cString "Error: The '" ++ text ++
      cString "' offset is negative but offsets cannot be negative.\n"
  else if tooBig then cString "Error: The '" ++ text ++ cString "' offset is too big.\n"
  else []

def noOptionText (command : Command) (option : CString) : CString :=
  cString "The " ++ command.name ++ cString " command doesn't have an " ++ option ++
    cString " option\nSee 'nv_data-imei " ++ command.name ++ cString " -h' for more details\n"

def optionRequiredText (command : Command) (option : CString) : CString :=
  option ++ cString " option required\nSee nv_data-imei " ++ command.name ++
    cString " -h for more details.\n"

/-- `errno` is what the calls before left there: it is not cleared. -/
def getOffset (abi : Abi) (errno : Errno) (command : Command) (offset : OffsetOption) :
    OptionAnswer OffsetOption :=
  let cmdHasOffset := command.options &&& OPTION_OFFSET ≠ 0
  let cmdRequiresOffset := command.requiredOptions &&& OPTION_OFFSET ≠ 0
  if ¬cmdHasOffset ∧ ¬offset.optionSet then ⟨0, offset, []⟩
  else if ¬cmdHasOffset ∧ offset.optionSet then
    ⟨-EINVAL, offset, noOptionText command (cString "-o or --offset")⟩
  else if cmdRequiresOffset ∧ ¬offset.optionSet then
    ⟨-EINVAL, offset, optionRequiredText command (cString "OFFSET")⟩
  else if offset.optionSet then
    let converted := strtoul abi offset.optarg errno
    let scanned := scanSign offset.optarg offset.error
    let error := if converted.1 = abi.ulongMax ∧ converted.2 = ERANGE then scanned ||| OFFSET_OVERFLOW
      else scanned
    ⟨if error ≠ 0 then -EINVAL else 0, { offset with offset := converted.1, error := error },
      offsetErrorText error offset.optarg⟩
  else ⟨0, offset, []⟩

/-- An integer of C without a sign or a suffix, and its value. -/
inductive UnsignedLiteral : CString → Nat → Prop where
  | decimal {text : CString} {digits : List Nat} (hfirst : text.head? ≠ some 0x30)
      (hdigits : Spells hexValue 10 text digits) (hne : digits ≠ []) :
      UnsignedLiteral text (ofDigits 10 digits)
  | octal {text : CString} {digits : List Nat} (hdigits : Spells hexValue 8 (0x30 :: text) digits) :
      UnsignedLiteral (0x30 :: text) (ofDigits 8 digits)
  | hexadecimal {x : UInt8} {text : CString} {digits : List Nat} (hx : x = 0x78 ∨ x = 0x58)
      (hdigits : Spells hexValue 16 text digits) (hne : digits ≠ []) :
      UnsignedLiteral (0x30 :: x :: text) (ofDigits 16 digits)

/-- An option text that is one integer behind blanks and perhaps a plus sign. -/
inductive OffsetLiteral : CString → Nat → Prop where
  | mk {blanks plus literal : CString} {value : Nat} (hblanks : ∀ c ∈ blanks, isSpace c)
      (hplus : plus = [] ∨ plus = [0x2b]) (hliteral : UnsignedLiteral literal value) :
      OffsetLiteral (blanks ++ plus ++ literal) value

/-- The option is accepted with its value exactly if it is one integer that fits. -/
structure OffsetExact (abi : Abi) (text : CString) (answer : OptionAnswer OffsetOption) : Prop where
  accepted : ∀ value ≤ abi.ulongMax, OffsetLiteral text value →
    answer.rc = 0 ∧ answer.stored.offset = value
  refused : (¬∃ value ≤ abi.ulongMax, OffsetLiteral text value) → answer.rc = -EINVAL

/-! ### Numbers and literals -/

theorem hexValue_of_mark {c : UInt8} (hc : c = 0x78 ∨ c = 0x58) : hexValue c = none := by
  rcases hc with rfl | rfl <;> rfl

theorem hexValue_of_lt {c : UInt8} (hc : c < 0x30) : hexValue c = none := by
  have hbelow : ∀ low high : UInt8, 0x30 ≤ low → ¬(low ≤ c ∧ c ≤ high) := by
    intro low high hlow hrange
    rw [UInt8.lt_iff_toNat_lt] at hc
    rw [UInt8.le_iff_toNat_le] at hlow
    have hle := UInt8.le_iff_toNat_le.mp hrange.1
    omega
  rw [hexValue, if_neg (hbelow _ _ (by decide)), if_neg (hbelow _ _ (by decide)),
    if_neg (hbelow _ _ (by decide))]

theorem lt_of_isSpace {c : UInt8} (hc : isSpace c) : c < 0x30 := by
  rcases of_decide_eq_true hc with rfl | ⟨_, hhigh⟩
  · decide
  · exact UInt8.lt_of_le_of_lt hhigh (by decide)

/-- A literal is the number its text starts with. -/
theorem UnsignedLiteral.numberAt_eq {text : CString} {value : Nat} (h : UnsignedLiteral text value) :
    numberAt text = value := by
  cases h with
  | decimal hfirst hdigits hne =>
      have hbase : detectBase text = (10, text) := if_neg hfirst
      rw [numberAt, hbase, (spells_iff.mp hdigits).1]
  | @octal text digits hdigits =>
      have hbase : detectBase (0x30 :: text) = (8, 0x30 :: text) := by
        rw [detectBase, List.head?_cons, if_pos rfl]
        refine if_neg fun ⟨hx, _⟩ => ?_
        -- an octal digit is not the mark of a hex number
        cases text with
        | nil => simp at hx
        | cons c text =>
            obtain ⟨digit, _, hdigit⟩ := hdigits.exists_digit (c := c) (by simp)
            rw [List.getElem?_cons_succ, List.getElem?_cons_zero, Option.some_inj, Option.some_inj] at hx
            rw [hexValue_of_mark hx] at hdigit
            contradiction
      rw [numberAt, hbase, (spells_iff.mp hdigits).1]
  | @hexadecimal x text digits hx hdigits hne =>
      obtain ⟨hstart, hlength⟩ := spells_iff.mp hdigits
      have hbase : detectBase (0x30 :: x :: text) = (16, text) := by
        rw [detectBase, List.head?_cons, if_pos rfl]
        refine if_pos ⟨?_, ?_⟩
        · rcases hx with rfl | rfl <;> simp
        · cases text with
          | nil => exact absurd (List.length_eq_zero_iff.mp hlength) hne
          | cons c text =>
              obtain ⟨digit, _, hdigit⟩ := hdigits.exists_digit (c := c) (by simp)
              simp [hdigit]
      rw [numberAt, hbase, hstart]

/-- The first character of a literal is neither blank nor a sign. -/
theorem UnsignedLiteral.head_eq {text : CString} {value : Nat} (h : UnsignedLiteral text value) :
    ∃ c rest, text = c :: rest ∧ isSpace c = false ∧ c ≠ 0x2b ∧ c ≠ 0x2d := by
  cases h with
  | @decimal text digits hfirst hdigits hne =>
      cases text with
      | nil => exact absurd (List.length_eq_zero_iff.mp (spells_iff.mp hdigits).2) hne
      | cons c rest =>
          obtain ⟨digit, _, hdigit⟩ := hdigits.exists_digit (c := c) (by simp)
          have hlow : ¬c < 0x30 := by
            intro hlow
            rw [hexValue_of_lt hlow] at hdigit
            contradiction
          refine ⟨c, rest, rfl, ?_, ?_, ?_⟩
          · by_contra hspace
            exact hlow (lt_of_isSpace (eq_true_of_ne_false hspace))
          · rintro rfl
            exact hlow (by decide)
          · rintro rfl
            exact hlow (by decide)
  | octal hdigits => exact ⟨_, _, rfl, rfl, by decide, by decide⟩
  | hexadecimal hx hdigits hne => exact ⟨_, _, rfl, rfl, by decide, by decide⟩

section Start

variable {text : CString} {c : UInt8} (rest : CString)

theorem dropWhile_blanks {blanks : CString} (hblanks : ∀ c ∈ blanks, isSpace c)
    (hc : isSpace c = false) : (blanks ++ c :: rest).dropWhile isSpace = c :: rest := by
  rw [List.dropWhile_append_of_pos hblanks, List.dropWhile_cons_of_neg (by simp [hc])]

variable {rest}

theorem isNegative_iff (hstart : text.dropWhile isSpace = c :: rest) : IsNegative text ↔ c = 0x2d := by
  simp [IsNegative, hstart]

theorem unsignedPart_eq (hstart : text.dropWhile isSpace = c :: rest) :
    unsignedPart text = if c = 0x2b ∨ c = 0x2d then rest else c :: rest := by
  simp [unsignedPart, hstart]

end Start

/-- Behind blanks and a plus sign, what is converted is the integer, and all of it. -/
theorem OffsetLiteral.unsignedPart_literal {text : CString} {value : Nat}
    (h : OffsetLiteral text value) : ¬IsNegative text ∧ UnsignedLiteral (unsignedPart text) value := by
  obtain ⟨hblanks, hplus, hliteral⟩ := h
  obtain ⟨c, rest, rfl, hspace, hnotPlus, hnotMinus⟩ := hliteral.head_eq
  rcases hplus with rfl | rfl
  · have hstart := dropWhile_blanks rest hblanks hspace
    rw [List.append_nil, isNegative_iff hstart, unsignedPart_eq hstart,
      if_neg (not_or.mpr ⟨hnotPlus, hnotMinus⟩)]
    exact ⟨hnotMinus, hliteral⟩
  · have hstart := dropWhile_blanks (c :: rest) hblanks (show isSpace 0x2b = false from rfl)
    rw [List.append_assoc, List.singleton_append, isNegative_iff hstart, unsignedPart_eq hstart,
      if_pos (Or.inl rfl)]
    exact ⟨by decide, hliteral⟩

theorem OffsetLiteral.number_eq {text : CString} {value : Nat} (h : OffsetLiteral text value) :
    ¬IsNegative text ∧ numberAt (unsignedPart text) = value :=
  ⟨h.unsignedPart_literal.1, h.unsignedPart_literal.2.numberAt_eq⟩

/-! ### The answer -/

theorem scanSign_eq (text : CString) (error : Nat) :
    scanSign text error = if IsNegative text then error ||| OFFSET_NEGATIVE else error := by
  induction text with
  | nil => rfl
  | cons c text ih =>
      rw [scanSign]
      by_cases hspace : isSpace c
      · have hskip : IsNegative (c :: text) = IsNegative text := by
          unfold IsNegative
          rw [List.dropWhile_cons_of_pos hspace]
        simp only [if_pos hspace, ih, hskip]
      · simp only [if_neg hspace, isNegative_iff (List.dropWhile_cons_of_neg hspace)]

section Answer

variable (abi : Abi) (errno : Errno) {command : Command} (text : CString)

theorem strtoul_of_not_negative {text : CString} (hnegative : ¬IsNegative text) :
    strtoul abi text errno =
      if abi.ulongMax < numberAt (unsignedPart text) then (abi.ulongMax, ERANGE)
      else (numberAt (unsignedPart text), errno) := by
  simp only [strtoul, if_neg hnegative]

/-- Either bit is enough. -/
theorem error_ne_zero {scanned : Nat} {tooBig : Prop} [Decidable tooBig] :
    (if tooBig then scanned ||| OFFSET_OVERFLOW else scanned) ≠ 0 ↔ tooBig ∨ scanned ≠ 0 := by
  split
  · rename_i htooBig
    refine iff_of_true ?_ (Or.inl htooBig)
    rw [OFFSET_OVERFLOW, ne_eq, Nat.or_eq_zero_iff]
    exact fun h => absurd h.2 (by decide)
  · rename_i hfits
    rw [or_iff_right hfits]

/-- The option of a command that has one is refused if it is negative or too large, or looks too large
because `errno` was `ERANGE` before. Every other text is accepted. -/
theorem getOffset_given (hcommand : command.options &&& OPTION_OFFSET ≠ 0) :
    let number := numberAt (unsignedPart text)
    let answer := getOffset abi errno command (.given text)
    if IsNegative text ∨ abi.ulongMax < number ∨ (number = abi.ulongMax ∧ errno = ERANGE) then
      answer.rc = -EINVAL
    else answer.rc = 0 ∧ answer.stored.offset = number := by
  intro number answer
  have hanswer : answer = getOffset abi errno command (.given text) := rfl
  simp only [getOffset, OffsetOption.given, hcommand, not_true_eq_false, not_false_eq_true, and_false,
    false_and, if_false, if_true, ne_eq] at hanswer
  have hrc : answer.rc = if (if (strtoul abi text errno).1 = abi.ulongMax ∧
      (strtoul abi text errno).2 = ERANGE then scanSign text 0 ||| OFFSET_OVERFLOW
      else scanSign text 0) ≠ 0 then -EINVAL else 0 := by
    rw [hanswer]
    rfl
  have hoffset : answer.stored.offset = (strtoul abi text errno).1 := by rw [hanswer]
  simp only [error_ne_zero, scanSign_eq] at hrc
  by_cases hnegative : IsNegative text
  · rw [if_pos (Or.inl hnegative), hrc, if_pos hnegative]
    exact if_pos (Or.inr (by decide))
  · have hiff : ((strtoul abi text errno).1 = abi.ulongMax ∧ (strtoul abi text errno).2 = ERANGE) ↔
        abi.ulongMax < number ∨ (number = abi.ulongMax ∧ errno = ERANGE) := by
      rw [strtoul_of_not_negative abi errno hnegative]
      split
      · rename_i hlarge
        exact iff_of_true ⟨rfl, rfl⟩ (Or.inl hlarge)
      · rename_i hfits
        exact (or_iff_right hfits).symm
    rw [if_neg hnegative] at hrc
    simp only [hiff, or_iff_right hnegative, not_true_eq_false, ne_eq, or_false] at hrc ⊢
    split
    · rename_i hrefused
      rw [hrc, if_pos hrefused]
    · rename_i haccepted
      rw [hrc, if_neg haccepted, hoffset, strtoul_of_not_negative abi errno hnegative,
        if_neg (fun hlarge => haccepted (Or.inl hlarge))]
      exact ⟨rfl, rfl⟩

end Answer

/-- The check is exact exactly for the negative options, the ones that start with a number that is too
large, and the ones that are one integer; a stale `ERANGE` turns the answer for the largest integer
around. -/
theorem getOffset_exact_iff (abi : Abi) (errno : Errno) (command : Command) (text : CString)
    (hcommand : command.options &&& OPTION_OFFSET ≠ 0) :
    OffsetExact abi text (getOffset abi errno command (.given text)) ↔
      IsNegative text ∨ abi.ulongMax < numberAt (unsignedPart text) ∨
        ((∃ value, OffsetLiteral text value) ↔
          ¬(numberAt (unsignedPart text) = abi.ulongMax ∧ errno = ERANGE)) := by
  have hanswer := getOffset_given abi errno text hcommand
  by_cases hnegative : IsNegative text
  · rw [if_pos (Or.inl hnegative)] at hanswer
    refine iff_of_true ⟨?_, fun _ => hanswer⟩ (Or.inl hnegative)
    exact fun value _ hliteral => absurd hnegative hliteral.number_eq.1
  by_cases hlarge : abi.ulongMax < numberAt (unsignedPart text)
  · rw [if_pos (Or.inr (Or.inl hlarge))] at hanswer
    refine iff_of_true ⟨?_, fun _ => hanswer⟩ (Or.inr (Or.inl hlarge))
    intro value hvalue hliteral
    have heq := hliteral.number_eq.2
    omega
  simp only [or_iff_right hnegative, or_iff_right hlarge] at hanswer ⊢
  by_cases hstale : numberAt (unsignedPart text) = abi.ulongMax ∧ errno = ERANGE
  · rw [if_pos hstale] at hanswer
    rw [iff_false_right (not_not.mpr hstale)]
    constructor
    · rintro ⟨haccepted, _⟩ ⟨value, hliteral⟩
      obtain ⟨hrc, _⟩ := haccepted value (by rw [← hliteral.number_eq.2, hstale.1]) hliteral
      rw [hrc] at hanswer
      exact absurd hanswer (by decide)
    · exact fun hno => ⟨fun value _ hliteral => absurd ⟨value, hliteral⟩ hno, fun _ => hanswer⟩
  · rw [if_neg hstale] at hanswer
    rw [iff_true_right hstale]
    constructor
    · rintro ⟨_, hrefused⟩
      by_contra hno
      have hrc := hrefused fun ⟨value, _, hliteral⟩ => hno ⟨value, hliteral⟩
      rw [hanswer.1] at hrc
      exact absurd hrc (by decide)
    · rintro ⟨value, hliteral⟩
      have heq := hliteral.number_eq.2
      refine ⟨fun other _ hother => ⟨hanswer.1, hanswer.2.trans hother.number_eq.2⟩, fun hno => ?_⟩
      exact absurd ⟨value, by omega, hliteral⟩ hno

/-- The offset of the IMEI of the supported device is taken as it is written. -/
theorem getOffset_exact_iff_sample :
    OffsetExact .lp64 (cString "0xEC80")
      (getOffset .lp64 0 writeImeiCommand (.given (cString "0xEC80"))) := by
  have hdigits : Spells hexValue 16 [0x45, 0x43, 0x38, 0x30] [14, 12, 8, 0] := spells_iff.mpr (by decide)
  have hliteral : OffsetLiteral ([] ++ [] ++ [0x30, 0x78, 0x45, 0x43, 0x38, 0x30]) _ :=
    .mk (by simp) (Or.inl rfl) (.hexadecimal (Or.inl rfl) hdigits (by decide))
  exact (getOffset_exact_iff .lp64 0 writeImeiCommand (cString "0xEC80") (by decide)).mpr
    (Or.inr (Or.inr (iff_of_true ⟨_, hliteral⟩ fun hstale => absurd hstale.2 (by decide))))

/-- The same number without its `0x` is taken as offset zero. -/
theorem getOffset_without_prefix :
    ¬∀ (abi : Abi) (errno : Errno) (command : Command) (text : CString),
      command.options &&& OPTION_OFFSET ≠ 0 →
        OffsetExact abi text (getOffset abi errno command (.given text)) := by
  intro hclaim
  obtain ⟨_, hrefused⟩ := hclaim .lp64 0 writeImeiCommand (cString "EC80") (by decide)
  have hrc : (getOffset .lp64 0 writeImeiCommand (.given (cString "EC80"))).rc = 0 := by decide
  refine absurd (hrc.symm.trans (hrefused ?_)) (by decide)
  rintro ⟨value, _, hvalue⟩
  have hliteral : UnsignedLiteral [0x45, 0x43, 0x38, 0x30] value := hvalue.unsignedPart_literal.2
  cases hliteral with
  | decimal _ hdigits _ =>
      obtain ⟨digit, hlt, hdigit⟩ := hdigits.exists_digit (c := 0x45) (by decide)
      have heq : 14 = digit := Option.some.inj hdigit
      omega

/-! ### The IMEI -/

/-- `struct imei`, where `imei` is the string in the array. -/
structure ImeiOption where
  imei : CString
  optionSet : Bool
  optarg : CString

def isDigit (c : UInt8) : Bool := 0x30 ≤ c ∧ c ≤ 0x39

def imeiErrorText (text : CString) (onlyDigits : Bool) : CString :=
  let count := cString (toString text.length) ++ cString " digits instead of " ++
    cString (toString imeiLength) ++ cString ".\n"
  let noDigits := cString "The '" ++ text ++
    cString "' IMEI is invalid as it does not only contains digits\n"
  if onlyDigits = false ∧ text.length ≠ imeiLength then
    noDigits ++ cString "In addition it is also invalid as it is composed of " ++ count
  else if onlyDigits = false then noDigits
  else cString "The '" ++ text ++ cString "' IMEI is invalid as it is composed of " ++ count

def getImei (command : Command) (imei : ImeiOption) : OptionAnswer ImeiOption :=
  if command.options &&& OPTION_IMEI ≠ 0 then
    if command.requiredOptions &&& OPTION_IMEI ≠ 0 ∧ ¬imei.optionSet then
      ⟨-EINVAL, imei, optionRequiredText command (cString "IMEI")⟩
    else if imei.optionSet then
      let strIsDigit := imei.optarg.all isDigit
      if strIsDigit = false ∨ imei.optarg.length ≠ imeiLength then
        ⟨-EINVAL, imei, imeiErrorText imei.optarg strIsDigit⟩
      else ⟨0, { imei with imei := imei.optarg.take imeiLength }, []⟩
    else ⟨0, imei, []⟩
  else if imei.optionSet then ⟨-EINVAL, imei, noOptionText command (cString "-i or --imei")⟩
  else ⟨0, imei, []⟩

/-- The IMEI option is checked to its end: what is accepted is an IMEI, and is stored as it is. -/
theorem getImei_accepts_iff {command : Command} (hcommand : command.options &&& OPTION_IMEI ≠ 0)
    (text : CString) :
    let answer := getImei command ⟨[], true, text⟩
    ((∃ imei : Imei, imei.text = text) → answer.rc = 0 ∧ answer.stored.imei = text) ∧
      ((¬∃ imei : Imei, imei.text = text) → answer.rc = -EINVAL) := by
  intro answer
  have hanswer : answer = getImei command ⟨[], true, text⟩ := rfl
  simp only [getImei, hcommand, not_true_eq_false, and_false, if_false, if_true, ne_eq,
    not_false_eq_true] at hanswer
  have hdigits : text.all isDigit = true ↔ ∀ c ∈ text, 0x30 ≤ c ∧ c ≤ 0x39 := by
    simp [List.all_eq_true, isDigit]
  constructor
  · rintro ⟨imei, rfl⟩
    have hall := hdigits.mpr imei.digits
    rw [if_neg (by simp [hall, imei.length_eq])] at hanswer
    rw [hanswer]
    exact ⟨rfl, List.take_of_length_le imei.length_eq.le⟩
  · intro hno
    rw [hanswer, if_pos]
    by_contra hboth
    rw [not_or, not_not, Bool.not_eq_false] at hboth
    exact hno ⟨⟨text, hboth.2, hdigits.mp hboth.1⟩, rfl⟩

end SamsungIpc
