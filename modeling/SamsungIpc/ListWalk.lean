import SamsungIpc.ListExtract

/-! Where the walk over a call list looks. The loop of `ipc_call_list_entry_extract` has no bound but the
count byte, and the size of the message is compared with the offset behind the last entry only. -/

namespace SamsungIpc

open PointerInspection

namespace EntryKind

variable (kind : EntryKind) (memory : Nat → UInt8)

/-- An entry starts behind the headers of the entries in front of it. -/
theorem nth_add_size_le {offset m n : Nat} (hmn : m < n) :
    kind.nth memory offset m + kind.size ≤ kind.nth memory offset n := by
  have hnext (n : Nat) :
      kind.nth memory offset n + kind.size ≤ kind.nth memory offset (n + 1) := by
    rw [nth_succ, endAt]
    exact Nat.le_add_right _ _
  induction n with
  | zero => exact absurd hmn (Nat.not_lt_zero m)
  | succ n ih =>
      rcases Nat.lt_succ_iff_lt_or_eq.mp hmn with hlt | rfl
      · have hstep := hnext n
        have hm := ih hlt
        omega
      · exact hnext m

theorem nth_le_nth {offset m n : Nat} (hmn : m ≤ n) :
    kind.nth memory offset m ≤ kind.nth memory offset n := by
  rcases Nat.eq_or_lt_of_le hmn with rfl | hlt
  · exact Nat.le_refl _
  · exact Nat.le_of_add_right_le (kind.nth_add_size_le memory hlt)

theorem mem_lengthBytes {inspected offset n : Nat} :
    inspected ∈ kind.lengthBytes memory offset n ↔
      ∃ m < n, inspected ∈ kind.lengthByte (kind.nth memory offset m) := by
  induction n generalizing offset with
  | zero => simp [lengthBytes]
  | succ n ih =>
      rw [lengthBytes, List.mem_append, ih]
      constructor
      · rintro (hfirst | ⟨m, hm, hrest⟩)
        · exact ⟨0, Nat.succ_pos n, hfirst⟩
        · exact ⟨m + 1, Nat.succ_lt_succ hm, hrest⟩
      · rintro ⟨m, hm, hinspected⟩
        cases m with
        | zero => exact Or.inl hinspected
        | succ m => exact Or.inr ⟨m, Nat.lt_of_succ_lt_succ hm, hinspected⟩

/-- The header of the requested entry, or of one in front of it, does not fit in the message. -/
def HeaderCut (size index : Nat) : Prop :=
  ∃ n ≤ index, size < kind.nth memory 1 n + kind.size

/-- The entry behind a header that does not fit ends outside of the message. -/
theorem HeaderCut.lt_nth {size index : Nat} (hcut : kind.HeaderCut memory size index) :
    size < kind.nth memory 1 (index + 1) := by
  obtain ⟨n, hn, hsize⟩ := hcut
  exact hsize.trans_le (kind.nth_add_size_le memory (Nat.lt_succ_of_le hn))

end EntryKind

theorem mem_lengthByte_call {inspected offset : Nat} :
    inspected ∈ ipcCallListEntry.lengthByte offset ↔ inspected = offset + 6 :=
  List.mem_singleton

/-- The extractor stays inside the message, and returns `NULL` where it meets a header that does not
fit. -/
def WalksInside (memory : Nat → UInt8) (size : Nat) (index : UInt32) : Prop :=
  Within size (ipcCallListEntryExtract size index)
    (fun extracted => ipcCallListEntry.HeaderCut memory size index.toNat → extracted = .null)
    (some memory)

section Walk

variable {memory : Nat → UInt8} {size : Nat} {index : UInt32}

theorem walksInside_unlisted (hindex : size < 1 ∨ (memory 0).toNat ≤ index.toNat) :
    WalksInside memory size index := by
  rw [WalksInside, within_iff, ipcCallListEntryExtract,
    ipcCallListEntry.inspect_entryExtract_unlisted memory hindex]
  refine ⟨?_, _, rfl, fun _ => rfl⟩
  by_cases hsize : size < 1
  · rw [if_pos hsize]
    exact List.forall_mem_nil _
  · rw [if_neg hsize]
    exact List.forall_mem_singleton.mpr (Nat.lt_of_lt_of_le Nat.zero_lt_one (not_lt.mp hsize))

/-- The length byte of the requested entry lies behind all that is read in front of it. -/
theorem walksInside_listed (hsize : ¬ size < 1) (hindex : index.toNat < (memory 0).toNat) :
    WalksInside memory size index ↔ ipcCallListEntry.nth memory 1 index.toNat + 6 < size := by
  rw [WalksInside, within_iff, ipcCallListEntryExtract,
    ipcCallListEntry.inspect_entryExtract_listed memory hsize hindex]
  constructor
  · intro hwithin
    refine hwithin.1 _ (List.mem_cons_of_mem _ ?_)
    exact (ipcCallListEntry.mem_lengthBytes memory).mpr
      ⟨index.toNat, Nat.lt_succ_self _, mem_lengthByte_call.mpr rfl⟩
  · intro hlast
    refine ⟨fun inspected hinspected => ?_, _, rfl, fun hcut => ?_⟩
    · rcases List.mem_cons.mp hinspected with rfl | hinspected
      · omega
      · obtain ⟨m, hm, hbyte⟩ := (ipcCallListEntry.mem_lengthBytes memory).mp hinspected
        have hle : ipcCallListEntry.nth memory 1 m ≤ ipcCallListEntry.nth memory 1 index.toNat :=
          ipcCallListEntry.nth_le_nth memory (Nat.le_of_lt_succ hm)
        rw [mem_lengthByte_call.mp hbyte]
        omega
    · exact if_neg (not_le.mpr hcut.lt_nth)

end Walk

/-- The walk over a call list stays inside the message exactly when the length byte of the requested
entry, where the lengths in front of it lead, is part of the message. -/
theorem callList_walksInside_iff (memory : Nat → UInt8) (size : Nat) (index : UInt32) :
    Within size (ipcCallListEntryExtract size index) (· = .null) none ∧
      (WalksInside memory size index ↔
        size = 0 ∨ (memory 0).toNat ≤ index.toNat ∨
          ipcCallListEntry.nth memory 1 index.toNat + 6 < size) := by
  refine ⟨rfl, ?_⟩
  by_cases hindex : size < 1 ∨ (memory 0).toNat ≤ index.toNat
  · refine iff_of_true (walksInside_unlisted hindex) ?_
    exact hindex.imp Nat.lt_one_iff.mp Or.inl
  · obtain ⟨hsize, hindex⟩ := not_or.mp hindex
    rw [walksInside_listed hsize (not_le.mp hindex), or_iff_right (by omega), or_iff_right hindex]

/-- A message that announces one call and ends. -/
theorem callList_walks_outside :
    ¬ WalksInside (fun offset => if offset = 0 then 1 else 0) 1 0 := by
  intro hinside
  have hread := (within_iff.mp hinside).1 7 (by decide)
  exact absurd hread (by decide)

end SamsungIpc
