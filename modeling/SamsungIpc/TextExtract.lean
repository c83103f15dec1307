import SamsungIpc.ModemResponse

/-! The two extractors of `misc.c` that copy a text of an announced length out of a response. Only one
of them compares the length with the room there is. -/

namespace SamsungIpc

open PointerInspection

/-- The bytes of the allocated string; `none` is `NULL`. The string is shorter than 257 bytes, which are
always there. -/
def ipcMiscMeImsiImsiExtract (size : Nat) : Inspector (Option Bytes) := do
  let null ← isNull
  if null ∨ size < 1 then pure none
  else do
    let length ← byte 0
    let imsi ← untilZero 1 length.toNat
    -- `strncpy` fills up with `NUL`, and one more `NUL` ends the string
    pure (some (imsi ++ List.replicate (length.toNat - imsi.length) 0 ++ [0]))

/-- The buffer holds this C string. -/
def Terminated (buffer text : Bytes) : Prop :=
  (∀ byte ∈ text, byte ≠ 0) ∧ ∃ padding, buffer = text ++ 0 :: padding

/-- What a response of `size` bytes should give: the announced bytes up to the first `NUL`, or `NULL`
where more bytes are announced than received. -/
def ImsiReceived (memory : Nat → UInt8) (size : Nat) : Option Bytes → Prop
  | none => size < 1 + (memory 0).toNat
  | some imsi =>
      1 + (memory 0).toNat ≤ size ∧ Terminated imsi (textAt memory 1 (memory 0).toNat)

theorem terminated_padded (memory : Nat → UInt8) (offset limit padding : Nat) :
    Terminated (textAt memory offset limit ++ List.replicate padding 0 ++ [0])
      (textAt memory offset limit) := by
  refine ⟨fun byte => ne_zero_of_mem_textAt, List.replicate padding 0, ?_⟩
  rw [List.append_assoc, ← List.replicate_succ', List.replicate_succ]

/-- The length is not compared with the size: what is announced is read and returned. -/
theorem within_imsiExtract {memory : Nat → UInt8} {size : Nat} {Q : Option Bytes → Prop}
    (hsize : ¬ size < 1) :
    Within size (ipcMiscMeImsiImsiExtract size) Q (some memory) ↔
      (memory 0 ≠ 0 → 1 + zeroSpan memory 1 (memory 0).toNat ≤ size) ∧
        Q (some (textAt memory 1 (memory 0).toNat ++ List.replicate ((memory 0).toNat -
          (textAt memory 1 (memory 0).toNat).length) 0 ++ [0])) := by
  have hgoes : ¬ ((some memory).isNone ∨ size < 1) := by simp [hsize]
  have hzero : memory 0 = 0 ↔ (memory 0).toNat = 0 := UInt8.toNat_inj.symm
  rw [ipcMiscMeImsiImsiExtract, within_bind, within_isNull, if_neg hgoes, within_bind, within_byte,
    and_iff_right (Nat.lt_of_lt_of_le Nat.zero_lt_one (not_lt.mp hsize)), within_bind,
    within_untilZero_iff, ne_eq, ne_eq, hzero]
  rfl

theorem imsiReceived_iff (memory : Nat → UInt8) (size : Nat) :
    Within size (ipcMiscMeImsiImsiExtract size) (ImsiReceived memory size) (some memory) ↔
      size = 0 ∨ 1 + (memory 0).toNat ≤ size := by
  rcases Nat.eq_zero_or_pos size with rfl | hsize
  · refine iff_of_true ?_ (Or.inl rfl)
    exact Nat.lt_of_lt_of_le Nat.zero_lt_one (Nat.le_add_right 1 _)
  · rw [or_iff_right hsize.ne', within_imsiExtract (Nat.not_lt.mpr hsize)]
    constructor
    · intro hreceived
      exact hreceived.2.1
    · intro hannounced
      have hspan := zeroSpan_le memory 1 (memory 0).toNat
      exact ⟨fun _ => by omega, hannounced, terminated_padded memory 1 _ _⟩

/-- Apart from its length, only the data field of the response is read, and `NULL` is returned for
exactly the lengths that the field does not hold. -/
def SnBounded (memory : Nat → UInt8) : Prop :=
  ∃ reads sn, inspect ipcMiscMeSnExtract (some memory) = (1 :: reads, some sn) ∧
    (sn = none ↔ sizeofMeSnData < (memory 1).toNat) ∧
      ∀ offset ∈ reads, 2 ≤ offset ∧ offset < 2 + sizeofMeSnData

theorem snBounded (memory : Nat → UInt8) : SnBounded memory := by
  by_cases hlength : (memory 1).toNat > sizeofMeSnData
  · refine ⟨[], none, ?_, iff_of_true rfl hlength, List.forall_mem_nil _⟩
    rw [ipcMiscMeSnExtract, inspect_bind inspect_isNull, Option.isNone_some,
      if_neg Bool.false_ne_true, inspect_bind inspect_byte, if_pos hlength]
    rfl
  · refine ⟨List.range' 2 (zeroSpan memory 2 (memory 1).toNat),
      some (textAt memory 2 (memory 1).toNat), ?_, iff_of_false (Option.some_ne_none _) hlength, ?_⟩
    · rw [ipcMiscMeSnExtract, inspect_bind inspect_isNull, Option.isNone_some,
        if_neg Bool.false_ne_true, inspect_bind inspect_byte, if_neg hlength,
        inspect_bind inspect_untilZero, inspect_pure, List.append_nil]
      rfl
    · intro offset hoffset
      have hspan := zeroSpan_le memory 2 (memory 1).toNat
      obtain ⟨hfrom, hto⟩ := List.mem_range'_1.mp hoffset
      exact ⟨hfrom, by omega⟩

/-- The text of an IMSI response is taken from the response exactly when the announced bytes were
received; that of a serial number response always is. -/
theorem textExtract_bounded_iff (memory : Nat → UInt8) (size : Nat) :
    Within size (ipcMiscMeImsiImsiExtract size) (· = none) none ∧
      (Within size (ipcMiscMeImsiImsiExtract size) (ImsiReceived memory size) (some memory) ↔
        size = 0 ∨ 1 + (memory 0).toNat ≤ size) ∧
      SnBounded memory :=
  ⟨rfl, imsiReceived_iff memory size, snBounded memory⟩

/-- A response of one byte that announces two more. -/
theorem imsiExtract_reads_on :
    ¬ Within 1 (ipcMiscMeImsiImsiExtract 1)
      (ImsiReceived (fun offset => if offset = 0 then 2 else 0x39) 1)
      (some fun offset => if offset = 0 then 2 else 0x39) := by
  intro hwithin
  exact absurd ((within_iff.mp hwithin).1 2 (by decide)) (by decide)

end SamsungIpc
