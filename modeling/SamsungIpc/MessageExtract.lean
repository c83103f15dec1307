import SamsungIpc.FrameTransport
import SamsungIpc.PointerInspection

/-! The extractors of `sms.c`, `sec.c` and `rfs.c` for messages whose header announces the length of
the payload behind it: one returns the length, the one beside it a pointer to the payload. A pointer
into the message is given by its offset from `data`. -/

namespace SamsungIpc

open PointerInspection

/-- A message header with a length field. -/
structure LengthHeader where
  size : Nat
  lengthOffset : Nat
  lengthWidth : Nat
  lengthWidth_ne_zero : lengthWidth ≠ 0
  length_le : lengthOffset + lengthWidth ≤ size
  size_le : size ≤ 2 ^ 31

namespace LengthHeader

variable (header : LengthHeader) (abi : Abi) (size : Nat)

def length : Inspector Nat := word header.lengthOffset header.lengthWidth

/-- The test of `header->length` that all extractors make. The difference is a `size_t`. -/
def rejects (length : Nat) : Bool := length = 0 ∨ length > abi.sub size header.size

def sizeExtract : Inspector Nat := do
  let null ← isNull
  if null ∨ size < header.size then pure 0
  else do
    let length ← header.length
    if header.rejects abi size length then pure 0 else pure length

def payloadExtract : Inspector (Option Nat) := do
  let null ← isNull
  if null ∨ size < header.size then pure none
  else do
    let length ← header.length
    if header.rejects abi size length then pure none else pure (some header.size)

end LengthHeader

def ipcSmsIncomingMsgHeader : LengthHeader where
  size := 6
  lengthOffset := 5
  lengthWidth := 1
  lengthWidth_ne_zero := by decide
  length_le := by decide
  size_le := by decide

def ipcSmsSvcCenterAddrHeader : LengthHeader where
  size := 1
  lengthOffset := 0
  lengthWidth := 1
  lengthWidth_ne_zero := by decide
  length_le := by decide
  size_le := by decide

def ipcSecRsimAccessResponseHeader : LengthHeader where
  size := 3
  lengthOffset := 2
  lengthWidth := 1
  lengthWidth_ne_zero := by decide
  length_le := by decide
  size_le := by decide

def ipcRfsNvWriteItemRequestHeader : LengthHeader where
  size := 8
  lengthOffset := 4
  lengthWidth := 4
  lengthWidth_ne_zero := by decide
  length_le := by decide
  size_le := by decide

def ipcSmsIncomingMsgPduSizeExtract (abi : Abi) (size : Nat) : Inspector Nat := do
  -- the pointer and the size are not looked at
  let length ← ipcSmsIncomingMsgHeader.length
  if ipcSmsIncomingMsgHeader.rejects abi size length then pure 0 else pure length

def ipcSmsIncomingMsgPduExtract : Abi → Nat → Inspector (Option Nat) :=
  ipcSmsIncomingMsgHeader.payloadExtract

def ipcSmsSvcCenterAddrSmscSizeExtract : Abi → Nat → Inspector Nat :=
  ipcSmsSvcCenterAddrHeader.sizeExtract

def ipcSmsSvcCenterAddrSmscExtract : Abi → Nat → Inspector (Option Nat) :=
  ipcSmsSvcCenterAddrHeader.payloadExtract

def ipcSecRsimAccessSizeExtract : Abi → Nat → Inspector Nat :=
  ipcSecRsimAccessResponseHeader.sizeExtract

def ipcSecRsimAccessExtract : Abi → Nat → Inspector (Option Nat) :=
  ipcSecRsimAccessResponseHeader.payloadExtract

def ipcRfsNvWriteItemSizeExtract : Abi → Nat → Inspector Nat :=
  ipcRfsNvWriteItemRequestHeader.sizeExtract

def ipcRfsNvWriteItemExtract : Abi → Nat → Inspector (Option Nat) :=
  ipcRfsNvWriteItemRequestHeader.payloadExtract

/-- The answers of a size extractor and of the payload extractor beside it fit together: there is a
length if there is a payload, which follows the header and ends within the message. -/
structure Fit (header : LengthHeader) (size length : Nat) (payload : Option Nat) : Prop where
  length_ne_zero_iff : length ≠ 0 ↔ payload.isSome
  start_eq : ∀ start ∈ payload, start = header.size
  end_le : ∀ start ∈ payload, header.size + length ≤ size

/-- Both extractors stay within the first `size` bytes at `data`, and their answers fit together. -/
def ExtractorsAgree (header : LengthHeader) (sizeExtract : Abi → Nat → Inspector Nat)
    (payloadExtract : Abi → Nat → Inspector (Option Nat)) (abi : Abi) (size : Nat)
    (data : Pointer) : Prop :=
  Within size (sizeExtract abi size)
    (fun length => Within size (payloadExtract abi size) (Fit header size length) data) data

section Agreement

variable {header : LengthHeader} {abi : Abi} {size : Nat} {data : Pointer}

theorem LengthHeader.length_le_of_not_rejects {length : Nat} (hsize : header.size ≤ size)
    (hlength : header.rejects abi size length = false) :
    length ≠ 0 ∧ header.size + length ≤ size := by
  have hsub : abi.sub size header.size ≤ size - header.size := Abi.sub_le hsize header.size_le
  simp only [LengthHeader.rejects, decide_eq_false_iff_not, not_or, not_lt] at hlength
  exact ⟨hlength.1, by omega⟩

/-- Behind the test of the size, the answers for one length fit together. -/
theorem LengthHeader.fit {length : Nat} (hsize : header.size ≤ size) :
    Fit header size (if header.rejects abi size length then 0 else length)
      (if header.rejects abi size length then none else some header.size) := by
  cases hrejects : header.rejects abi size length with
  | true => exact ⟨by simp, by simp, by simp⟩
  | false =>
      obtain ⟨hne, hle⟩ := length_le_of_not_rejects hsize hrejects
      exact ⟨by simpa using hne, by simp, by simpa using hle⟩

theorem fit_nothing : Fit header size 0 none := ⟨by simp, by simp, by simp⟩

/-- The length of the message `memory` starts with. -/
def LengthHeader.lengthAt (header : LengthHeader) (memory : Nat → UInt8) : Nat :=
  wordAt memory header.lengthOffset header.lengthWidth

theorem LengthHeader.within_length {Q : Nat → Prop} {memory : Nat → UInt8} :
    Within size header.length Q (some memory) ↔
      header.lengthOffset + header.lengthWidth ≤ size ∧ Q (header.lengthAt memory) := by
  rw [LengthHeader.length, within_word, lengthAt]
  exact and_congr_left fun _ => ⟨fun h => h header.lengthWidth_ne_zero, fun h _ => h⟩

/-- The test of the size and that of the length, with what is answered behind them. -/
def LengthHeader.extract {α : Type} (header : LengthHeader) (abi : Abi) (size : Nat) (nothing : α)
    (found : Nat → α) : Inspector α := do
  let null ← isNull
  if null ∨ size < header.size then pure nothing
  else do
    let length ← header.length
    if header.rejects abi size length then pure nothing else pure (found length)

theorem LengthHeader.sizeExtract_eq : header.sizeExtract abi size = header.extract abi size 0 id := rfl

theorem LengthHeader.payloadExtract_eq :
    header.payloadExtract abi size = header.extract abi size none fun _ => some header.size := rfl

theorem LengthHeader.within_extract_short {α : Type} {nothing : α} {found : Nat → α} {Q : α → Prop}
    (hshort : data = none ∨ size < header.size) :
    Within size (header.extract abi size nothing found) Q data ↔ Q nothing := by
  rw [extract, within_bind, within_isNull, if_pos (by simpa using hshort), within_pure]

theorem LengthHeader.within_extract {α : Type} {nothing : α} {found : Nat → α} {Q : α → Prop}
    {memory : Nat → UInt8} (hsize : header.size ≤ size) :
    Within size (header.extract abi size nothing found) Q (some memory) ↔
      Q (if header.rejects abi size (header.lengthAt memory) then nothing
        else found (header.lengthAt memory)) := by
  have hlength : header.lengthOffset + header.lengthWidth ≤ size := header.length_le.trans hsize
  rw [extract, within_bind, within_isNull, if_neg (by simpa using hsize), within_bind,
    within_length, and_iff_right hlength]
  split <;> exact within_pure

/-- The extractors that make the test of the size agree on every message. -/
theorem LengthHeader.extractorsAgree (header : LengthHeader) :
    ExtractorsAgree header header.sizeExtract header.payloadExtract abi size data := by
  by_cases hshort : data = none ∨ size < header.size
  · rw [ExtractorsAgree, sizeExtract_eq, within_extract_short hshort, payloadExtract_eq,
      within_extract_short hshort]
    exact fit_nothing
  · obtain ⟨hdata, hsize⟩ := not_or.mp hshort
    obtain ⟨memory, rfl⟩ := Option.ne_none_iff_exists'.mp hdata
    have hsize := not_lt.mp hsize
    rw [ExtractorsAgree, sizeExtract_eq, within_extract hsize, payloadExtract_eq, within_extract hsize]
    exact fit hsize

end Agreement

section IncomingMsg

variable {abi : Abi} {size : Nat} {data : Pointer}

theorem within_ipcSmsIncomingMsgPduSizeExtract {Q : Nat → Prop} :
    Within size (ipcSmsIncomingMsgPduSizeExtract abi size) Q data ↔
      ∃ memory, data = some memory ∧ 6 ≤ size ∧
        Q (if ipcSmsIncomingMsgHeader.rejects abi size (ipcSmsIncomingMsgHeader.lengthAt memory)
          then 0 else ipcSmsIncomingMsgHeader.lengthAt memory) := by
  cases data with
  | none =>
      rw [ipcSmsIncomingMsgPduSizeExtract, within_bind]
      exact iff_of_false (within_word_null ipcSmsIncomingMsgHeader.lengthWidth_ne_zero) (by simp)
  | some memory =>
      rw [ipcSmsIncomingMsgPduSizeExtract, within_bind, LengthHeader.within_length]
      simp only [Option.some.injEq, exists_eq_left']
      refine and_congr_right fun _ => ?_
      split <;> exact within_pure

/-- Without the tests of its neighbours, the size extractor of incoming messages looks for the length
of a missing or short message too. -/
theorem ipcSmsIncomingMsg_extractorsAgree_iff :
    ExtractorsAgree ipcSmsIncomingMsgHeader ipcSmsIncomingMsgPduSizeExtract
      ipcSmsIncomingMsgPduExtract abi size data ↔ data ≠ none ∧ 6 ≤ size := by
  rw [ExtractorsAgree, within_ipcSmsIncomingMsgPduSizeExtract]
  constructor
  · rintro ⟨memory, rfl, hsize, -⟩
    exact ⟨Option.some_ne_none memory, hsize⟩
  · rintro ⟨hdata, hsize⟩
    obtain ⟨memory, rfl⟩ := Option.ne_none_iff_exists'.mp hdata
    refine ⟨memory, rfl, hsize, ?_⟩
    rw [ipcSmsIncomingMsgPduExtract, LengthHeader.payloadExtract_eq, LengthHeader.within_extract hsize]
    exact LengthHeader.fit hsize

end IncomingMsg

/-- All four pairs of extractors stay within the message and agree on it. -/
def AllExtractorsAgree (abi : Abi) (size : Nat) (data : Pointer) : Prop :=
  ExtractorsAgree ipcSmsIncomingMsgHeader ipcSmsIncomingMsgPduSizeExtract
      ipcSmsIncomingMsgPduExtract abi size data ∧
    ExtractorsAgree ipcSmsSvcCenterAddrHeader ipcSmsSvcCenterAddrSmscSizeExtract
      ipcSmsSvcCenterAddrSmscExtract abi size data ∧
    ExtractorsAgree ipcSecRsimAccessResponseHeader ipcSecRsimAccessSizeExtract
      ipcSecRsimAccessExtract abi size data ∧
    ExtractorsAgree ipcRfsNvWriteItemRequestHeader ipcRfsNvWriteItemSizeExtract
      ipcRfsNvWriteItemExtract abi size data

/-- The pairs agree on exactly the messages that hold a whole header of an incoming message; for
shorter ones only the pair of incoming messages fails. -/
theorem allExtractorsAgree_iff (abi : Abi) (size : Nat) (data : Pointer) :
    (AllExtractorsAgree abi size data ↔ data ≠ none ∧ 6 ≤ size) ∧
      ExtractorsAgree ipcSmsSvcCenterAddrHeader ipcSmsSvcCenterAddrSmscSizeExtract
        ipcSmsSvcCenterAddrSmscExtract abi size data ∧
      ExtractorsAgree ipcSecRsimAccessResponseHeader ipcSecRsimAccessSizeExtract
        ipcSecRsimAccessExtract abi size data ∧
      ExtractorsAgree ipcRfsNvWriteItemRequestHeader ipcRfsNvWriteItemSizeExtract
        ipcRfsNvWriteItemExtract abi size data := by
  have hguarded (header : LengthHeader) :
      ExtractorsAgree header header.sizeExtract header.payloadExtract abi size data :=
    header.extractorsAgree
  refine ⟨?_, hguarded _, hguarded _, hguarded _⟩
  rw [AllExtractorsAgree, ipcSmsIncomingMsg_extractorsAgree_iff]
  exact and_iff_left ⟨hguarded _, hguarded _, hguarded _⟩

/-- A received message of three bytes, behind which memory holds a five: its PDU has five bytes for the
one extractor and is missing for the other. -/
theorem incomingMsg_short_disagrees :
    inspect (ipcSmsIncomingMsgPduSizeExtract .ilp32 3) (some fun _ => 5) = ([5], some 5) ∧
      inspect (ipcSmsIncomingMsgPduExtract .ilp32 3) (some fun _ => 5) = ([], some none) ∧
      ¬ AllExtractorsAgree .ilp32 3 (some fun _ => 5) := by
  refine ⟨by decide, by decide, fun hagree => ?_⟩
  have hsize := (ipcSmsIncomingMsg_extractorsAgree_iff.mp hagree.1).2
  exact absurd hsize (by decide)

end SamsungIpc
