import SamsungIpc.ImeiStorage
import SamsungIpc.PointerInspection

/-! The search of `bruteforce_imei_offset` for a stored IMEI in the bytes of a file. Behind a hit, the
window reaches one byte further than the file. -/

namespace SamsungIpc

open PointerInspection

/-- The `do` loop. The pointer moves on in every pass, so `fileSize + 2` passes are enough; `none` is a
loop that still runs after them. The offsets reported are listed in their order. -/
def searchLoop (givenImei : Bytes) (fileSize : Nat) : Nat → Nat → Nat → Inspector (Option (List Nat))
  | 0, _, _ => pure none
  | passes + 1, ptr, searchSize => do
      match ← findByte (givenImei.headD 0) ptr searchSize with
      | none => pure (some [])
      | some ptr => do
          let order ← compareAt ptr givenImei
          let reports ← searchLoop givenImei fileSize passes (ptr + 1) (fileSize - ptr)
          pure (reports.map fun reports => if order = 0 then ptr :: reports else reports)

/-- What is done with a file that was read; `none` also stands for a failed assertion. -/
def bruteforceSearch (imei : CString) (fileSize : Nat) : Inspector (Option (List Nat)) :=
  match encodeImei imei with
  | none => pure none
  | some givenImei => searchLoop givenImei fileSize (fileSize + 2) 0 fileSize

/-- The offsets at which the bytes lie within the first `size`. -/
def occurrences (memory : Nat → UInt8) (size : Nat) (text : Bytes) : List Nat :=
  (List.range (size + 1 - text.length)).filter fun offset => Holds memory offset text

/-- The search ends, looks at bytes of the file only, and reports the places of the stored IMEI. -/
def SearchExact (memory : Nat → UInt8) (size : Nat) (imei : Imei) : Prop :=
  Within size (bruteforceSearch imei.text size)
    (fun reports => reports = some (occurrences memory size imei.packed)) (some memory)

/-- The first byte of a stored IMEI. -/
def imeiMark (imei : Imei) : UInt8 := packDigits (0xA, digitValue (imei.text.headD 0))

section Loop

variable {memory : Nat → UInt8} {givenImei : Bytes} {fileSize : Nat}

/-- A window that reaches one byte further than the file is not searched within the file. -/
theorem not_within_searchLoop {Q : Option (List Nat) → Prop} {passes ptr : Nat}
    (hpasses : fileSize < ptr + passes) (hptr : ptr ≤ fileSize) :
    ¬Within fileSize (searchLoop givenImei fileSize passes ptr (fileSize + 1 - ptr)) Q
      (some memory) := by
  induction passes generalizing ptr Q with
  | zero => omega
  | succ passes ih =>
      rw [searchLoop, within_bind, within_iff_of_range' inspect_findByte]
      rintro ⟨hbound, hrest⟩
      cases hfound : firstAt memory (givenImei.headD 0) ptr (fileSize + 1 - ptr) with
      | none =>
          obtain ⟨hspan, _⟩ := firstAt_eq_none hfound
          omega
      | some found =>
          obtain ⟨hle, hlt, _, hspan, _⟩ := firstAt_eq_some hfound
          have hinside := hbound (by omega)
          rw [hfound] at hrest
          have hnext := (within_bind.mp hrest).of_value value_compareAt
          have hloop := within_bind.mp hnext
          have hend : fileSize - found = fileSize + 1 - (found + 1) := by omega
          rw [hend] at hloop
          exact ih (by omega) (by omega) hloop

/-- What is taken for a stored IMEI: its first byte, and a comparison that ends at a `NUL` it has in
common with the file. -/
def Hit (memory : Nat → UInt8) (givenImei : Bytes) (offset : Nat) : Prop :=
  memory offset = givenImei.headD 0 ∧ orderAt memory offset givenImei = 0

instance (offset : Nat) : Decidable (Hit memory givenImei offset) :=
  decidable_of_iff (_ ∧ _) Iff.rfl

theorem filter_hit_eq_nil {start count : Nat}
    (hnone : ∀ i, start ≤ i → i < start + count → memory i ≠ givenImei.headD 0) :
    (List.range' start count).filter (fun i => Hit memory givenImei i) = [] := by
  rw [List.filter_eq_nil_iff]
  intro i hi hhit
  obtain ⟨hle, hlt⟩ := List.mem_range'_1.mp hi
  exact hnone i hle hlt (of_decide_eq_true hhit).1

/-- A window is cut behind the first place of the byte. -/
theorem filter_hit_of_found {start count found : Nat} (hle : start ≤ found)
    (hlt : found < start + count) (hfound : memory found = givenImei.headD 0)
    (hbefore : ∀ i, start ≤ i → i < found → memory i ≠ givenImei.headD 0) :
    (List.range' start count).filter (fun i => Hit memory givenImei i) =
      if orderAt memory found givenImei = 0 then
        found :: (List.range' (found + 1) (start + count - (found + 1))).filter
          (fun i => Hit memory givenImei i)
      else (List.range' (found + 1) (start + count - (found + 1))).filter
        (fun i => Hit memory givenImei i) := by
  have hsplit : List.range' start count = List.range' start (found - start) ++
      found :: List.range' (found + 1) (start + count - (found + 1)) := by
    have hcount : count = (found - start) + (start + count - (found + 1) + 1) := by omega
    have hmiddle : start + 1 * (found - start) = found := by omega
    conv_lhs => rw [hcount, ← List.range'_append, hmiddle, List.range'_succ]
  have hhit : Hit memory givenImei found ↔ orderAt memory found givenImei = 0 := and_iff_right hfound
  rw [hsplit, List.filter_append, filter_hit_eq_nil fun i hi hlt => hbefore i hi (by omega),
    List.nil_append, List.filter_cons]
  simp only [decide_eq_true_eq, hhit]

/-- The loop ends, with the hits up to the byte behind the file. -/
theorem value_searchLoop {passes ptr : Nat} (hpasses : fileSize + 1 < ptr + passes)
    (hptr : ptr ≤ fileSize + 1) :
    value (searchLoop givenImei fileSize passes ptr (fileSize + 1 - ptr)) (some memory) =
      some (some ((List.range' ptr (fileSize + 1 - ptr)).filter
        fun i => Hit memory givenImei i)) := by
  induction passes generalizing ptr with
  | zero => omega
  | succ passes ih =>
      rw [searchLoop, value_bind, value_findByte, Option.bind_some]
      cases hfound : firstAt memory (givenImei.headD 0) ptr (fileSize + 1 - ptr) with
      | none => rw [filter_hit_eq_nil (firstAt_eq_none hfound).2, value_pure]
      | some found =>
          obtain ⟨hle, hlt, hbyte, _, hbefore⟩ := firstAt_eq_some hfound
          have hend : fileSize - found = fileSize + 1 - (found + 1) := by omega
          have hwindow : ptr + (fileSize + 1 - ptr) - (found + 1) = fileSize + 1 - (found + 1) := by
            omega
          rw [filter_hit_of_found hle hlt hbyte hbefore, hwindow]
          simp only [value_bind, value_compareAt, Option.bind_some, hend, ih (show fileSize + 1 <
            found + 1 + passes by omega) (by omega), value_pure]
          split <;> rfl

end Loop

section Search

variable {memory : Nat → UInt8} {size : Nat} (imei : Imei)

/-- However the file and the memory behind it look, the search ends. Where the first byte occurs, the
hits are sought up to the byte behind the file. -/
theorem value_bruteforceSearch :
    value (bruteforceSearch imei.text size) (some memory) =
      some (some (if ∃ i < size, memory i = imeiMark imei then
        (List.range' 0 (size + 1)).filter fun i => Hit memory imei.packed i else [])) := by
  rw [bruteforceSearch, imei.encode_eq.1]
  dsimp only
  rw [searchLoop, value_bind, value_findByte, Option.bind_some]
  cases hfound : firstAt memory (imei.packed.headD 0) 0 size with
  | none =>
      obtain ⟨_, hnone⟩ := firstAt_eq_none hfound
      rw [if_neg, value_pure]
      rintro ⟨i, hi, hmark⟩
      exact hnone i (Nat.zero_le i) (by omega) hmark
  | some found =>
      obtain ⟨hle, hlt, hbyte, _, hbefore⟩ := firstAt_eq_some hfound
      have hend : size - found = size + 1 - (found + 1) := by omega
      have hwindow : 0 + (size + 1) - (found + 1) = size + 1 - (found + 1) := by omega
      rw [if_pos ⟨found, by omega, hbyte⟩,
        filter_hit_of_found hle (by omega) hbyte hbefore, hwindow]
      have hloop : value (searchLoop imei.packed size (size + 1) (found + 1) (size + 1 - (found + 1)))
          (some memory) = _ := value_searchLoop (by omega) (by omega)
      simp only [value_bind, value_compareAt, Option.bind_some, hend, hloop, value_pure]
      split <;> rfl

/-- No place of the stored IMEI in the file is missed. -/
theorem exists_reports_of_holds {offset : Nat} (hroom : offset + 8 ≤ size)
    (hholds : Holds memory offset imei.packed) :
    ∃ reports, value (bruteforceSearch imei.text size) (some memory) = some (some reports) ∧
      offset ∈ reports := by
  have hmark : memory offset = imeiMark imei := hholds.1
  rw [value_bruteforceSearch, if_pos ⟨offset, by omega, hmark⟩]
  refine ⟨_, rfl, List.mem_filter.mpr ⟨List.mem_range'_1.mpr (by omega), ?_⟩⟩
  exact decide_eq_true ⟨hmark, orderAt_of_holds hholds⟩

/-- A first hit opens the window over the end of the file. -/
theorem not_searchExact {i : Nat} (hi : i < size) (hmark : memory i = imeiMark imei) :
    ¬SearchExact memory size imei := by
  rw [SearchExact, bruteforceSearch, imei.encode_eq.1]
  dsimp only
  rw [searchLoop, within_bind]
  intro hwithin
  have hrest := hwithin.of_value value_findByte
  cases hfound : firstAt memory (imei.packed.headD 0) 0 size with
  | none => exact (firstAt_eq_none hfound).2 i (Nat.zero_le i) (by omega) hmark
  | some found =>
      obtain ⟨_, hlt, _, _, _⟩ := firstAt_eq_some hfound
      have hend : size - found = size + 1 - (found + 1) := by omega
      rw [hfound] at hrest
      have hloop := within_bind.mp ((within_bind.mp hrest).of_value value_compareAt)
      rw [hend] at hloop
      exact not_within_searchLoop (by omega) (by omega) hloop

theorem occurrences_eq_nil (hnone : ∀ i < size, memory i ≠ imeiMark imei) :
    occurrences memory size imei.packed = [] := by
  rw [occurrences, List.filter_eq_nil_iff, imei.encode_eq.2]
  intro i hi hholds
  exact hnone i (by rw [List.mem_range] at hi; omega) (of_decide_eq_true hholds).1

end Search

/-- The search is exact exactly in the files that do not contain the first byte of the stored IMEI: its
first digit in the high nibble, `0xA` in the low one. -/
theorem searchExact_iff (memory : Nat → UInt8) (size : Nat) (imei : Imei) :
    SearchExact memory size imei ↔
      ∀ i < size, memory i ≠ UInt8.ofNat (16 * digitValue (imei.text.headD 0) + 0xA) := by
  constructor
  · exact fun hexact i hi hmark => not_searchExact imei hi hmark hexact
  · intro hnone
    rw [SearchExact, bruteforceSearch, imei.encode_eq.1]
    dsimp only
    rw [searchLoop, within_bind, within_iff_of_range' inspect_findByte,
      occurrences_eq_nil imei hnone]
    cases hfound : firstAt memory (imei.packed.headD 0) 0 size with
    | none =>
        rw [(firstAt_eq_none hfound).1]
        exact ⟨fun _ => by omega, rfl⟩
    | some found =>
        obtain ⟨_, hlt, hbyte, _, _⟩ := firstAt_eq_some hfound
        exact absurd hbyte (hnone found (by omega))

/-- Blank data with the test IMEI at `0x100`. -/
def searchedFile : Nat → UInt8 := fun offset =>
  if 0x100 ≤ offset then sampleImei.packed.getD (offset - 0x100) 0 else 0

/-- In the file of the tests of the tool, the search goes on to the byte behind it. -/
theorem search_leaves_file :
    ¬∀ (memory : Nat → UInt8) (size : Nat) (imei : Imei), 0x1000 ≤ size →
      SearchExact memory size imei :=
  fun hclaim => not_searchExact sampleImei (show 0x100 < xmm616NvDataSize by decide) (by decide)
    (hclaim searchedFile xmm616NvDataSize sampleImei (by decide))

end SamsungIpc
