import SamsungIpc.CStrings
import SamsungIpc.TextBuffer

/-! The hex dump of `ipc_utils.c`: sixteen bytes a line, in hex columns and as characters, through the two
arrays `string` and `final`. The offset is printed in front of a line, and grows. -/

namespace SamsungIpc

open TextBuffer

/-- What a dump can fail at: a store or a load outside of an array, a conversion without its argument, a
loop that goes on. -/
inductive DumpFault where
  | outside
  | argument
  | endless
  deriving DecidableEq

/-- The variables of `ipc_data_dump`: `string` with `print` and `length`, `p` as an offset in the data, and
the two counters. -/
structure DumpState where
  string : Buffer
  p : Nat
  offset : Nat
  rollback : Nat

abbrev Dump := StateT DumpState (Except DumpFault)

def dumpCols : Nat := 8
def dumpColsCount : Nat := 2
def dumpStringSize : Nat := 81
def dumpFinalSize : Nat := 161

/-- What is left of the line beside an offset of six characters, the columns and the characters, in three
parts. -/
def dumpSpacer : Nat :=
  ((dumpStringSize - 1) - 6 - (3 * dumpCols * dumpColsCount - 1 + (dumpColsCount - 1)) -
    (dumpCols * dumpColsCount + dumpColsCount - 1)) / 3

/-- A step on `string`. -/
def onString (step : Buffer → Option Buffer) : Dump Unit := fun s =>
  match step s.string with
  | none => .error .outside
  | some string => .ok ((), { s with string := string })

/-- `*print++ = c; length--`. -/
def putChar (c : UInt8) : Dump Unit := onString fun string => string.put c

/-- `rc = snprintf(print, length, ...); print += rc; length -= rc`. -/
def snprintf (text : CString) : Dump Unit := onString fun string => string.print text

def putSpaces : Nat → Dump Unit
  | 0 => pure ()
  | count + 1 => do
      putChar 0x20
      putSpaces count

/-- The upper-case hex digit of a nibble. -/
def hexDigitUpper (nibble : Nat) : UInt8 :=
  if nibble < 10 then UInt8.ofNat (0x30 + nibble) else UInt8.ofNat (0x41 + (nibble - 10))

/-- `%02X` of a byte. -/
def sprintf02X (byte : UInt8) : CString :=
  [hexDigitUpper (byte.toNat / 16), hexDigitUpper (byte.toNat % 16)]

/-- `%04x` of an `unsigned int`: of its eight digits, the leading zeros of the upper four are left out. -/
def sprintf04x (number : Nat) : CString :=
  (([7, 6, 5, 4].dropWhile fun k => number / 16 ^ k % 16 = 0) ++ [3, 2, 1, 0]).map fun k =>
    hexDigit (number / 16 ^ k % 16)

/-- `isascii(*p) && isprint(*p) ? *p : '.'`. -/
def printable (byte : UInt8) : UInt8 := if 0x20 ≤ byte ∧ byte ≤ 0x7e then byte else 0x2e

section Line

variable (data : Bytes)

/-- `*p`. -/
def load : Dump UInt8 := fun s =>
  match data[s.p]? with
  | none => .error .outside
  | some byte => .ok (byte, s)

/-- `p++; offset++; rollback++`, where `offset` is an `unsigned int`. -/
def advance : Dump Unit := modify fun s =>
  { s with p := s.p + 1, offset := (s.offset + 1) % 2 ^ 32, rollback := s.rollback + 1 }

/-- The digits of the next byte, or blanks behind the last one. -/
def columnPrint : Dump Unit := do
  let s ← get
  if s.offset < data.length then do
    let byte ← load data
    snprintf (sprintf02X byte)
    advance
  else putSpaces 2

def columnGap (j : Nat) : Dump Unit := if j ≠ dumpCols - 1 then putChar 0x20 else pure ()

/-- The inner loop of the data print, for as many columns from `j` on. -/
def dataColumns : Nat → Nat → Dump Unit
  | 0, _ => pure ()
  | count + 1, j => do
      columnPrint data
      columnGap j
      dataColumns count (j + 1)

def groupGap (i : Nat) : Dump Unit := if i ≠ dumpColsCount - 1 then putSpaces 2 else pure ()

def dataPrint : Nat → Nat → Dump Unit
  | 0, _ => pure ()
  | count + 1, i => do
      dataColumns data dumpCols 0
      groupGap i
      dataPrint count (i + 1)

def asciiColumns : Nat → Dump Unit
  | 0 => pure ()
  | count + 1 => do
      let s ← get
      if s.offset < data.length then do
        let byte ← load data
        putChar (printable byte)
        advance
        asciiColumns count
      else asciiColumns count

def asciiGap (i : Nat) : Dump Unit := do
  let s ← get
  if i ≠ dumpColsCount - 1 ∧ s.offset < data.length then putChar 0x20 else pure ()

def asciiPrint : Nat → Nat → Dump Unit
  | 0, _ => pure ()
  | count + 1, i => do
      asciiColumns data dumpCols
      asciiGap data i
      asciiPrint count (i + 1)

/-- One pass of the loop, up to the end of the line in `string`. -/
def dumpLine : Dump Unit := do
  let s ← get
  set { s with string := ⟨s.string.cells, 0, dumpStringSize⟩, rollback := 0 }
  snprintf (cString "[" ++ sprintf04x s.offset ++ cString "]")
  putSpaces dumpSpacer
  dataPrint data dumpColsCount 0
  putSpaces dumpSpacer
  modify fun s => { s with p := s.p - s.rollback, offset := s.offset - s.rollback }
  asciiPrint data dumpColsCount 0
  onString fun string => string.store 0

end Line

/-- The loop that copies `string` to `final`, from the index `j` of `final` on. -/
def escapeLoop : Bytes → Nat → Bytes → Option Bytes
  | [], _, final => some final
  | c :: string, j, final =>
      if c = 0x25 then
        (storeAt final j c).bind fun final =>
          (storeAt final (j + 1) c).bind fun final => escapeLoop string (j + 2) final
      else (storeAt final j c).bind fun final => escapeLoop string (j + 1) final

/-- What `vsnprintf` makes of a format without arguments, inside of a conversion or outside; `none` is a
conversion that asks for an argument. -/
def formatText : Bytes → Bool → Option CString
  | [], conversion => if conversion then none else some []
  | c :: format, conversion =>
      if conversion then
        if c = 0x25 then (formatText format false).map (0x25 :: ·) else none
      else if c = 0 then some []
      else if c = 0x25 then formatText format true
      else (formatText format false).map (c :: ·)

/-- What `ipc_client_log` hands to the callback: its buffer has 4096 characters. -/
def ipcClientLog (message : Bytes) : Option CString :=
  (formatText message false).map fun text => text.take 4095

/-- The `while` loop, and the lines that are logged. A pass moves `offset`, so one pass more than there
are bytes is enough. -/
def dumpLoop (data : Bytes) : Nat → DumpState → Bytes → Except DumpFault (List CString)
  | 0, _, _ => .error .endless
  | passes + 1, s, final =>
      if s.offset < data.length then
        match dumpLine data s with
        | .error fault => .error fault
        | .ok (_, s) =>
            match escapeLoop s.string.cells 0 final with
            | none => .error .outside
            | some final =>
                match ipcClientLog final with
                | none => .error .argument
                | some line => (dumpLoop data passes s final).map (line :: ·)
      else .ok []

/-- The result and the lines logged; `data` is `none` for `NULL`. -/
def ipcDataDump (data : Option Bytes) : Except DumpFault (Int × List CString) :=
  match data with
  | none => .ok (-1, [])
  | some data =>
      if data.length = 0 then .ok (-1, [])
      else if dumpSpacer ≤ 0 then .ok (-1, [])
      else
        let string : Buffer := ⟨List.replicate dumpStringSize 0, 0, dumpStringSize⟩
        (dumpLoop data (data.length + 1) ⟨string, 0, 0, 0⟩ (List.replicate dumpFinalSize 0)).map
          fun lines => (0, lines)

end SamsungIpc
