import SamsungIpc.FileKernel
import SamsungIpc.PointerInspection

/-! The extractors of `call.c`, `net.c` and `svc.c` for messages that hold a list: a count byte, then
the packed entries. An entry is given by its offset from `data`; memory goes on behind the message. -/

namespace SamsungIpc

open PointerInspection

/-- The entries of one kind of list. -/
structure EntryKind where
  size : Nat
  size_le : size ≤ 255
  /-- Where an entry holds the number of bytes that follow it. -/
  lengthOffset : Option Nat

/-- The result of an extraction. -/
inductive Extracted where
  /-- The walk over the entries does not end. -/
  | unending
  | null
  | entry (offset : Nat)
  deriving DecidableEq

namespace EntryKind

variable (kind : EntryKind)

/-- What the length field of the entry at `offset` adds to its size. -/
def extra (offset : Nat) : Inspector Nat :=
  match kind.lengthOffset with
  | none => pure 0
  | some lengthOffset => do
      let length ← byte (offset + lengthOffset)
      pure length.toNat

def countExtract (size : Nat) : Inspector UInt8 := do
  let null ← isNull
  if null ∨ size < 1 then pure 0 else byte 0

/-- `for (i = 0; i < (index + 1); i++)`, from any values of `i`, `entry` and `offset` on. The eight-bit
counter takes no more values than the fuel of the caller; `none` is a walk that goes on forever. -/
def walk (index : UInt32) : Nat → UInt8 → Option Nat → UInt32 →
    Inspector (Option (Option Nat × UInt32))
  | 0, _, _, _ => pure none
  | fuel + 1, i, entry, offset =>
      if i.toUInt32 < index + 1 then do
        let extra ← kind.extra offset.toNat
        walk index fuel (i + 1) (some offset.toNat) (offset + UInt32.ofNat (kind.size + extra))
      else pure (some (entry, offset))

def entryExtract (size : Nat) (index : UInt32) : Inspector Extracted := do
  let null ← isNull
  if null then pure .null
  else do
    let count ← countExtract size
    if count = 0 ∨ index ≥ count.toUInt32 then pure .null
    else do
      let walked ← kind.walk index 256 0 none 1
      match walked with
      | none => pure .unending
      | some (none, _) => pure .null
      | some (some entry, offset) =>
          if offset.toNat > size then pure .null else pure (.entry entry)

end EntryKind

def ipcCallListEntry : EntryKind where
  size := 8
  size_le := by decide
  lengthOffset := some 6

def ipcNetPlmnListEntry : EntryKind where
  size := 10
  size_le := by decide
  lengthOffset := none

def ipcSvcDisplayScreenEntry : EntryKind where
  size := 34
  size_le := by decide
  lengthOffset := none

def ipcCallListCountExtract : Nat → Inspector UInt8 := EntryKind.countExtract

def ipcCallListEntryExtract : Nat → UInt32 → Inspector Extracted := ipcCallListEntry.entryExtract

def ipcNetPlmnListCountExtract : Nat → Inspector UInt8 := EntryKind.countExtract

def ipcNetPlmnListEntryExtract : Nat → UInt32 → Inspector Extracted :=
  ipcNetPlmnListEntry.entryExtract

def ipcSvcDisplayScreenCountExtract : Nat → Inspector UInt8 := EntryKind.countExtract

def ipcSvcDisplayScreenExtract : Nat → UInt32 → Inspector Extracted :=
  ipcSvcDisplayScreenEntry.entryExtract

/-- The bytes of the allocated copy of a number; `none` is `NULL`. The copy is shorter than 257 bytes,
which are always there. -/
def ipcCallListEntryNumberExtract (entry : Option Nat) : Inspector (Option Bytes) :=
  match entry with
  | none => pure none
  | some entry => do
      let length ← byte (entry + 6)
      let number ← untilZero (entry + ipcCallListEntry.size) length.toNat
      -- `strncpy` fills up with `NUL`, and one more `NUL` ends the copy
      pure (some (number ++ List.replicate (length.toNat - number.length) 0 ++ [0]))

/-! ### Where the entries lie -/

namespace EntryKind

variable (kind : EntryKind) (memory : Nat → UInt8)

def extraAt (offset : Nat) : Nat :=
  match kind.lengthOffset with
  | none => 0
  | some lengthOffset => (memory (offset + lengthOffset)).toNat

/-- The end of the entry at `offset`. -/
def endAt (offset : Nat) : Nat := offset + kind.size + kind.extraAt memory offset

/-- The offset of the `n`th of the entries that start at `offset`. -/
def nth (offset : Nat) : Nat → Nat
  | 0 => offset
  | n + 1 => nth (kind.endAt memory offset) n

/-- Where the length field of the entry at `offset` lies, if there is one. -/
def lengthByte (offset : Nat) : List Nat :=
  match kind.lengthOffset with
  | none => []
  | some lengthOffset => [offset + lengthOffset]

/-- Where the length fields of the first `n` of the entries that start at `offset` lie. -/
def lengthBytes (offset : Nat) : Nat → List Nat
  | 0 => []
  | n + 1 => kind.lengthByte offset ++ lengthBytes (kind.endAt memory offset) n

theorem inspect_extra (offset : Nat) :
    inspect (kind.extra offset) (some memory) =
      (kind.lengthByte offset, some (kind.extraAt memory offset)) := by
  rw [extra, extraAt, lengthByte]
  cases kind.lengthOffset <;> rfl

theorem extraAt_le (offset : Nat) : kind.extraAt memory offset ≤ 255 := by
  rw [extraAt]
  cases kind.lengthOffset with
  | none => exact Nat.zero_le 255
  | some lengthOffset => exact Nat.le_of_lt_succ (UInt8.toNat_lt _)

theorem endAt_le (offset : Nat) : kind.endAt memory offset ≤ offset + 510 := by
  have hsize := kind.size_le
  have hextra := kind.extraAt_le memory offset
  rw [endAt]
  omega

theorem nth_succ (offset n : Nat) :
    kind.nth memory offset (n + 1) = kind.endAt memory (kind.nth memory offset n) := by
  induction n generalizing offset with
  | zero => rfl
  | succ n ih => exact ih _

theorem inspect_countExtract (size : Nat) :
    inspect (countExtract size) (some memory) =
      (if size < 1 then [] else [0], some (if size < 1 then 0 else memory 0)) := by
  rw [countExtract, inspect_bind inspect_isNull]
  by_cases hsize : size < 1
  · rw [if_pos (Or.inr hsize), if_pos hsize, if_pos hsize]
    rfl
  · rw [if_neg (by simp [hsize]), if_neg hsize, if_neg hsize]
    rfl

theorem offset_add_toNat {offset : UInt32} (hoffset : offset.toNat < 2 ^ 31) :
    (offset + UInt32.ofNat (kind.size + kind.extraAt memory offset.toNat)).toNat =
      kind.endAt memory offset.toNat := by
  have hle := kind.endAt_le memory offset.toNat
  rw [endAt] at hle ⊢
  rw [UInt32.toNat_add, UInt32.toNat_ofNat']
  omega

/-- With `left` iterations left, neither the counter nor the offset wraps around. -/
theorem inspect_walk {index : UInt32} (hindex : index.toNat < 255) {left : Nat} :
    ∀ {fuel : Nat} {i : UInt8} (entry : Option Nat) {offset : UInt32},
      i.toNat + left = index.toNat + 1 → left < fuel → offset.toNat + left * 510 < 2 ^ 31 →
        ∃ last : UInt32, last.toNat = kind.nth memory offset.toNat left ∧
          inspect (kind.walk index fuel i entry offset) (some memory) =
            (kind.lengthBytes memory offset.toNat left, some (some (if left = 0 then entry
              else some (kind.nth memory offset.toNat (left - 1)), last))) := by
  have hlimit : (index + 1).toNat = index.toNat + 1 := by
    rw [UInt32.toNat_add, UInt32.toNat_one]
    omega
  induction left with
  | zero =>
      intro fuel i entry offset hleft hfuel _
      obtain ⟨fuel, rfl⟩ := Nat.exists_eq_add_one_of_ne_zero (Nat.ne_zero_of_lt hfuel)
      have hdone : ¬ i.toUInt32 < index + 1 := by
        rw [UInt32.lt_iff_toNat_lt, UInt8.toNat_toUInt32]
        omega
      refine ⟨offset, rfl, ?_⟩
      rw [walk, if_neg hdone, if_pos rfl]
      rfl
  | succ left ih =>
      intro fuel i entry offset hleft hfuel hoffset
      obtain ⟨fuel, rfl⟩ := Nat.exists_eq_add_one_of_ne_zero (Nat.ne_zero_of_lt hfuel)
      have hgoes : i.toUInt32 < index + 1 := by
        rw [UInt32.lt_iff_toNat_lt, UInt8.toNat_toUInt32]
        omega
      have hnext : (i + 1).toNat + left = index.toNat + 1 := by
        rw [UInt8.toNat_add, UInt8.toNat_one]
        omega
      have hsmall : offset.toNat < 2 ^ 31 := by omega
      have hend := kind.offset_add_toNat memory hsmall
      have hle := kind.endAt_le memory offset.toNat
      obtain ⟨last, hlast, hrest⟩ := ih (some offset.toNat) hnext (Nat.lt_of_succ_lt_succ hfuel)
        (show _ + left * 510 < 2 ^ 31 by rw [hend]; omega)
      rw [hend] at hlast hrest
      refine ⟨last, hlast, ?_⟩
      rw [walk, if_pos hgoes, inspect_bind (kind.inspect_extra memory _), hrest,
        if_neg (Nat.succ_ne_zero left), Nat.add_sub_cancel]
      cases left <;> rfl

/-- Where no such entry is announced, only the count is read. -/
theorem inspect_entryExtract_unlisted {size : Nat} {index : UInt32}
    (hindex : size < 1 ∨ (memory 0).toNat ≤ index.toNat) :
    inspect (kind.entryExtract size index) (some memory) =
      (if size < 1 then [] else [0], some .null) := by
  have hunlisted (count : UInt8) (hcount : count = if size < 1 then 0 else memory 0) :
      count = 0 ∨ index ≥ count.toUInt32 := by
    rcases hindex with hsize | hindex
    · exact Or.inl (hcount.trans (if_pos hsize))
    · by_cases hsize : size < 1
      · exact Or.inl (hcount.trans (if_pos hsize))
      · right
        rw [hcount, if_neg hsize, ge_iff_le, UInt32.le_iff_toNat_le, UInt8.toNat_toUInt32]
        exact hindex
  rw [entryExtract, inspect_bind inspect_isNull, Option.isNone_some, if_neg Bool.false_ne_true,
    inspect_bind (inspect_countExtract memory size), if_pos (hunlisted _ rfl), inspect_pure,
    List.append_nil, List.nil_append]

theorem value_entryExtract_unlisted {size : Nat} {index : UInt32}
    (hindex : size < 1 ∨ (memory 0).toNat ≤ index.toNat) :
    value (kind.entryExtract size index) (some memory) = some .null :=
  congrArg Prod.snd (kind.inspect_entryExtract_unlisted memory hindex)

/-- The extractor reads the count and the length fields of the entries up to the requested one. -/
theorem inspect_entryExtract_listed {size : Nat} {index : UInt32} (hsize : ¬ size < 1)
    (hindex : index.toNat < (memory 0).toNat) :
    inspect (kind.entryExtract size index) (some memory) =
      (0 :: kind.lengthBytes memory 1 (index.toNat + 1),
        some (if kind.nth memory 1 (index.toNat + 1) ≤ size then
          .entry (kind.nth memory 1 index.toNat) else .null)) := by
  have hcount := (memory 0).toNat_lt
  have hlisted : ¬ (memory 0 = 0 ∨ index ≥ (memory 0).toUInt32) := by
    rw [ge_iff_le, UInt32.le_iff_toNat_le, UInt8.toNat_toUInt32, ← UInt8.toNat_inj]
    simp only [UInt8.toNat_zero]
    omega
  have hroom : (1 : UInt32).toNat + (index.toNat + 1) * 510 < 2 ^ 31 := by
    rw [UInt32.toNat_one]
    omega
  have hstart : (0 : UInt8).toNat + (index.toNat + 1) = index.toNat + 1 := Nat.zero_add _
  obtain ⟨last, hlast, hwalk⟩ := kind.inspect_walk memory (show index.toNat < 255 by omega) none
    hstart (show index.toNat + 1 < 256 by omega) hroom
  rw [UInt32.toNat_one, if_neg (Nat.succ_ne_zero _), Nat.add_sub_cancel] at hwalk
  rw [UInt32.toNat_one] at hlast
  rw [entryExtract, inspect_bind inspect_isNull, Option.isNone_some, if_neg Bool.false_ne_true,
    inspect_bind (inspect_countExtract memory size), if_neg hsize, if_neg hsize, if_neg hlisted,
    inspect_bind hwalk]
  dsimp only
  rw [hlast]
  by_cases hend : kind.nth memory 1 (index.toNat + 1) ≤ size
  · rw [if_pos hend, if_neg (not_lt.mpr hend)]
    simp
  · rw [if_neg hend, if_pos (not_le.mp hend)]
    simp

theorem value_entryExtract_listed {size : Nat} {index : UInt32} (hsize : ¬ size < 1)
    (hindex : index.toNat < (memory 0).toNat) :
    value (kind.entryExtract size index) (some memory) =
      some (if kind.nth memory 1 (index.toNat + 1) ≤ size then
        .entry (kind.nth memory 1 index.toNat) else .null) :=
  congrArg Prod.snd (kind.inspect_entryExtract_listed memory hsize hindex)

/-- Whatever the message and the memory behind it hold, the walk ends, and an entry it returns lies in
the message with the bytes it announces. -/
theorem entryExtract_inside (data : Pointer) (size : Nat) (index : UInt32) :
    ∃ extracted, value (kind.entryExtract size index) data = some extracted ∧
      extracted ≠ .unending ∧
      ∀ offset, extracted = .entry offset →
        ∃ memory, data = some memory ∧ kind.endAt memory offset ≤ size := by
  cases data with
  | none => exact ⟨.null, rfl, by simp, by simp⟩
  | some memory =>
      by_cases hindex : size < 1 ∨ (memory 0).toNat ≤ index.toNat
      · exact ⟨.null, kind.value_entryExtract_unlisted memory hindex, by simp, by simp⟩
      · obtain ⟨hsize, hindex⟩ := not_or.mp hindex
        refine ⟨_, kind.value_entryExtract_listed memory hsize (not_le.mp hindex), ?_, ?_⟩
        · split <;> simp
        · intro offset hoffset
          rw [ite_eq_iff] at hoffset
          rcases hoffset with ⟨hend, hentry⟩ | ⟨-, hnull⟩
          · obtain rfl := Extracted.entry.inj hentry
            exact ⟨memory, rfl, (kind.nth_succ memory 1 index.toNat).symm.trans_le hend⟩
          · exact absurd hnull (by simp)

end EntryKind

/-! ### Encoded lists -/

/-- How a list is encoded: its entries one behind the other, each as long as its kind says. -/
structure ListFormat where
  kind : EntryKind
  Entry : Type
  encode : Entry → Bytes
  endAt_eq : ∀ {entry memory offset}, Holds memory offset (encode entry) →
    kind.endAt memory offset = offset + (encode entry).length

namespace ListFormat

variable (format : ListFormat)

def encodeList (entries : List format.Entry) : Bytes :=
  UInt8.ofNat entries.length :: entries.flatMap format.encode

variable {format} {memory : Nat → UInt8}

/-- The walk goes from entry to entry. -/
theorem holds_nth {entries : List format.Entry} {offset n : Nat}
    (hholds : Holds memory offset (entries.flatMap format.encode)) (hn : n < entries.length) :
    Holds memory (format.kind.nth memory offset n) (format.encode entries[n]) := by
  induction entries generalizing offset n with
  | nil => exact absurd hn (Nat.not_lt_zero n)
  | cons entry entries ih =>
      rw [List.flatMap_cons, holds_append] at hholds
      cases n with
      | zero => exact hholds.1
      | succ n =>
          rw [EntryKind.nth, format.endAt_eq hholds.1]
          exact ih hholds.2 (Nat.lt_of_succ_lt_succ hn)

/-- No entry ends behind the last one. -/
theorem nth_le {entries : List format.Entry} {offset n : Nat}
    (hholds : Holds memory offset (entries.flatMap format.encode)) (hn : n ≤ entries.length) :
    format.kind.nth memory offset n ≤ offset + (entries.flatMap format.encode).length := by
  induction entries generalizing offset n with
  | nil =>
      obtain rfl := Nat.le_zero.mp hn
      exact Nat.le_add_right _ _
  | cons entry entries ih =>
      rw [List.flatMap_cons, holds_append] at hholds
      cases n with
      | zero => exact Nat.le_add_right _ _
      | succ n =>
          have hrest := ih hholds.2 (Nat.le_of_succ_le_succ hn)
          rw [EntryKind.nth, format.endAt_eq hholds.1, List.flatMap_cons, List.length_append]
          omega

/-- On a message that starts with an encoded list, the extractor finds the entries of the list. -/
theorem value_entryExtract {entries : List format.Entry} {size : Nat} (index : UInt32)
    (hcount : entries.length ≤ 255) (hholds : Holds memory 0 (format.encodeList entries))
    (hsize : (format.encodeList entries).length ≤ size) :
    value (format.kind.entryExtract size index) (some memory) =
      some (if index.toNat < entries.length then .entry (format.kind.nth memory 1 index.toNat)
        else .null) := by
  rw [encodeList, List.length_cons] at hsize
  have hfirst := hholds.1
  have hrest : Holds memory 1 (entries.flatMap format.encode) := hholds.2
  have hmemory : (memory 0).toNat = entries.length := by
    rw [hfirst, UInt8.toNat_ofNat']
    omega
  by_cases hindex : index.toNat < entries.length
  · have hend : format.kind.nth memory 1 (index.toNat + 1) ≤ size := by
      have hle := nth_le hrest (show index.toNat + 1 ≤ entries.length by omega)
      omega
    rw [if_pos hindex, format.kind.value_entryExtract_listed memory (by omega) (by omega),
      if_pos hend]
  · rw [if_neg hindex, format.kind.value_entryExtract_unlisted memory (Or.inr (by omega))]

end ListFormat

/-- An entry of the call list and the number behind it. -/
structure CallListEntry where
  unknown1 : UInt8
  type : UInt8
  id : UInt8
  term : UInt8
  status : UInt8
  mpty : UInt8
  unknown2 : UInt8
  number : Bytes
  number_length_le : number.length ≤ 255

structure PlmnListEntry where
  status : UInt8
  plmn : Vector UInt8 6
  type : UInt8
  unknown : Vector UInt8 2

structure DisplayScreenEntry where
  index : UInt16
  line : Vector UInt8 32

def CallListEntry.encode (entry : CallListEntry) : Bytes :=
  [entry.unknown1, entry.type, entry.id, entry.term, entry.status, entry.mpty,
    UInt8.ofNat entry.number.length, entry.unknown2] ++ entry.number

def PlmnListEntry.encode (entry : PlmnListEntry) : Bytes :=
  entry.status :: entry.plmn.toList ++ entry.type :: entry.unknown.toList

def DisplayScreenEntry.encode (entry : DisplayScreenEntry) : Bytes :=
  LittleEndian.encode 2 entry.index.toNat ++ entry.line.toList

def callList : ListFormat where
  kind := ipcCallListEntry
  Entry := CallListEntry
  encode := CallListEntry.encode
  endAt_eq := by
    intro entry memory offset hholds
    have hlength : memory (offset + 6) = UInt8.ofNat entry.number.length :=
      hholds.2.2.2.2.2.2.1
    have hle := entry.number_length_le
    rw [EntryKind.endAt, EntryKind.extraAt]
    simp only [ipcCallListEntry, hlength, UInt8.toNat_ofNat', CallListEntry.encode,
      List.length_append, List.length_cons, List.length_nil]
    omega

def plmnList : ListFormat where
  kind := ipcNetPlmnListEntry
  Entry := PlmnListEntry
  encode := PlmnListEntry.encode
  endAt_eq := by
    intro entry memory offset _
    simp [EntryKind.endAt, EntryKind.extraAt, ipcNetPlmnListEntry, PlmnListEntry.encode]

def displayScreenList : ListFormat where
  kind := ipcSvcDisplayScreenEntry
  Entry := DisplayScreenEntry
  encode := DisplayScreenEntry.encode
  endAt_eq := by
    intro entry memory offset _
    simp [EntryKind.endAt, EntryKind.extraAt, ipcSvcDisplayScreenEntry, DisplayScreenEntry.encode,
      LittleEndian.encode]

/-! ### The extractors on encoded lists and on any message -/

/-- What an extractor answers about the message `memory` starts with: the bytes of this entry, or `NULL`
where there is none. -/
def ListFormat.Returns (format : ListFormat) (extract : Nat → UInt32 → Inspector Extracted)
    (size : Nat) (index : UInt32) (memory : Nat → UInt8) : Option format.Entry → Prop
  | none => value (extract size index) (some memory) = some .null
  | some entry => ∃ offset, value (extract size index) (some memory) = some (.entry offset) ∧
      Holds memory offset (format.encode entry)

/-- The extractor finds the entries of every list in its encoding, whatever follows it. -/
def ListFormat.Decodes (format : ListFormat) (extract : Nat → UInt32 → Inspector Extracted) : Prop :=
  ∀ (entries : List format.Entry) (trailing : Bytes) (memory : Nat → UInt8) (index : UInt32),
    entries.length ≤ 255 → Holds memory 0 (format.encodeList entries ++ trailing) →
      format.Returns extract (format.encodeList entries ++ trailing).length index memory
        entries[index.toNat]?

/-- On any message the extractor returns, and an entry it returns ends within the message. -/
def EntryKind.StaysInside (kind : EntryKind) (extract : Nat → UInt32 → Inspector Extracted) : Prop :=
  ∀ (data : Pointer) (size : Nat) (index : UInt32),
    ∃ extracted, value (extract size index) data = some extracted ∧ extracted ≠ .unending ∧
      ∀ offset, extracted = .entry offset →
        ∃ memory, data = some memory ∧ kind.endAt memory offset ≤ size

theorem ListFormat.decodes (format : ListFormat) : format.Decodes format.kind.entryExtract := by
  intro entries trailing memory index hcount hholds
  have hlist := (holds_append.mp hholds).1
  have hle : (format.encodeList entries).length ≤ (format.encodeList entries ++ trailing).length := by
    rw [List.length_append]
    exact Nat.le_add_right _ _
  have hvalue := format.value_entryExtract index hcount hlist hle
  by_cases hindex : index.toNat < entries.length
  · rw [if_pos hindex] at hvalue
    rw [List.getElem?_eq_getElem hindex]
    exact ⟨_, hvalue, holds_nth hlist.2 hindex⟩
  · rw [if_neg hindex] at hvalue
    rw [List.getElem?_eq_none (not_lt.mp hindex)]
    exact hvalue

/-- The copy of a number is made from the bytes of its entry only. -/
theorem within_ipcCallListEntryNumberExtract {memory : Nat → UInt8} {size offset : Nat}
    (hend : ipcCallListEntry.endAt memory offset ≤ size) :
    Within size (ipcCallListEntryNumberExtract (some offset)) (· ≠ none) (some memory) := by
  have hnumber : offset + ipcCallListEntry.size + (memory (offset + 6)).toNat ≤ size := hend
  have hheader : offset + 6 < size := by
    simp only [ipcCallListEntry] at hnumber
    omega
  rw [ipcCallListEntryNumberExtract, within_bind, within_byte, within_bind]
  exact ⟨hheader, (within_untilZero_of_le hnumber).mono fun _ _ => Option.some_ne_none _⟩

theorem value_ipcCallListEntryNumberExtract {memory : Nat → UInt8} {offset : Nat}
    {entry : CallListEntry} (hholds : Holds memory offset entry.encode)
    (hnumber : ∀ byte ∈ entry.number, byte ≠ 0) :
    value (ipcCallListEntryNumberExtract (some offset)) (some memory) =
      some (some (entry.number ++ [0])) := by
  have hbyte : memory (offset + 6) = UInt8.ofNat entry.number.length :=
    hholds.2.2.2.2.2.2.1
  have hlength : (memory (offset + 6)).toNat = entry.number.length := by
    have hle := entry.number_length_le
    rw [hbyte, UInt8.toNat_ofNat']
    omega
  have hrest : Holds memory (offset + ipcCallListEntry.size) entry.number :=
    (holds_append.mp hholds).2
  have htext : value (untilZero (offset + ipcCallListEntry.size) entry.number.length)
      (some memory) = some entry.number := by
    rw [value, inspect_untilZero, textAt_of_holds hrest hnumber]
  rw [ipcCallListEntryNumberExtract, value_bind, value_byte, Option.bind_some, hlength, value_bind,
    htext, Option.bind_some, value_pure, Nat.sub_self, List.replicate_zero, List.append_nil]

/-- Lists of calls, of networks and of display lines are decoded to what was encoded, with the numbers
of calls, and no message makes an extractor return what reaches over the end of the message. -/
theorem listMessages_decode :
    (callList.Decodes ipcCallListEntryExtract ∧ plmnList.Decodes ipcNetPlmnListEntryExtract ∧
        displayScreenList.Decodes ipcSvcDisplayScreenExtract) ∧
      (∀ (entry : CallListEntry) (memory : Nat → UInt8) (offset : Nat),
        Holds memory offset entry.encode → (∀ byte ∈ entry.number, byte ≠ 0) →
          value (ipcCallListEntryNumberExtract (some offset)) (some memory) =
            some (some (entry.number ++ [0]))) ∧
      (ipcCallListEntry.StaysInside ipcCallListEntryExtract ∧
        ipcNetPlmnListEntry.StaysInside ipcNetPlmnListEntryExtract ∧
        ipcSvcDisplayScreenEntry.StaysInside ipcSvcDisplayScreenExtract) ∧
      (∀ (memory : Nat → UInt8) (size : Nat) (index : UInt32) (offset : Nat),
        value (ipcCallListEntryExtract size index) (some memory) = some (.entry offset) →
          Within size (ipcCallListEntryNumberExtract (some offset)) (· ≠ none) (some memory)) := by
  refine ⟨⟨callList.decodes, plmnList.decodes, displayScreenList.decodes⟩, ?_, ?_, ?_⟩
  · intro entry memory offset hholds hnumber
    exact value_ipcCallListEntryNumberExtract hholds hnumber
  · exact ⟨EntryKind.entryExtract_inside _, EntryKind.entryExtract_inside _,
      EntryKind.entryExtract_inside _⟩
  · intro memory size index offset hvalue
    obtain ⟨extracted, hextracted, -, hinside⟩ :=
      ipcCallListEntry.entryExtract_inside (some memory) size index
    obtain rfl : extracted = .entry offset := Option.some.inj (hextracted.symm.trans hvalue)
    obtain ⟨_, hmemory, hend⟩ := hinside offset rfl
    obtain rfl := Option.some.inj hmemory
    exact within_ipcCallListEntryNumberExtract hend

def sampleCall (id : UInt8) (number : Bytes) (hnumber : number.length ≤ 255) : CallListEntry where
  unknown1 := 0
  type := 1
  id := id
  term := 1
  status := 1
  mpty := 0
  unknown2 := 0
  number := number
  number_length_le := hnumber

/-- Two calls, with a byte behind them. -/
def sampleCallMessage : Bytes :=
  callList.encodeList [sampleCall 1 [0x31, 0x32] (by decide), sampleCall 2 [0x33] (by decide)] ++ [7]

def sampleCallMemory (offset : Nat) : UInt8 := sampleCallMessage.getD offset 0xFF

theorem listMessages_decode_sample :
    callList.Returns ipcCallListEntryExtract sampleCallMessage.length 1 sampleCallMemory
        (some (sampleCall 2 [0x33] (by decide))) ∧
      value (ipcCallListEntryNumberExtract (some 11)) (some sampleCallMemory) =
        some (some [0x33, 0]) := by
  obtain ⟨⟨hdecodes, -, -⟩, hnumbers, -, -⟩ := listMessages_decode
  refine ⟨hdecodes [sampleCall 1 [0x31, 0x32] (by decide), sampleCall 2 [0x33] (by decide)] [7]
    sampleCallMemory 1 (by decide) ?_, hnumbers (sampleCall 2 [0x33] (by decide))
    sampleCallMemory 11 ?_ (List.forall_mem_singleton.mpr (by decide))⟩
  · exact ⟨rfl, rfl, rfl, rfl, rfl, rfl, rfl, rfl, rfl, rfl, rfl, rfl, rfl, rfl, rfl, rfl, rfl, rfl,
      rfl, rfl, rfl, trivial⟩
  · exact ⟨rfl, rfl, rfl, rfl, rfl, rfl, rfl, rfl, rfl, trivial⟩

end SamsungIpc
