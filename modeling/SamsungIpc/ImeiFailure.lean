import SamsungIpc.ImeiStorage

/-! A refused IMEI write: the eight bytes are on the disk before the size of the NV data is looked at,
while `ipc_nv_data_write` looks at it first. -/

namespace SamsungIpc

open ByteSplice Sys

/-- The NV data and its digest file are the same, or are both times missing. -/
def NvFilesKept (path : Path) (fs fs' : FileSystem) : Prop :=
  fs' path = fs path ∧ fs' (nvDataImeiMd5Path path) = fs (nvDataImeiMd5Path path)

/-- Where `write_imei` writes: the `size_t` is cut to an `unsigned int`, and the seek stays at the start
if `off_t` is too narrow. -/
def imeiPosition (abi : Abi) (offset : Nat) : Nat :=
  let offset := offset % 2 ^ 32
  if abi = .ilp32 ∧ 2 ^ 31 ≤ offset then 0 else offset

theorem seekPosition_ofNat (abi : Abi) (offset : Nat) :
    abi.seekPosition (UInt32.ofNat offset) = imeiPosition abi offset := by
  have htoNat : (UInt32.ofNat offset).toNat = offset % 2 ^ 32 := UInt32.toNat_ofNat'
  by_cases hreaches : abi.Reaches (UInt32.ofNat offset)
  · rw [Abi.seekPosition_of_reaches hreaches, htoNat, imeiPosition, if_neg]
    rintro ⟨rfl, hlarge⟩
    rw [Abi.Reaches, htoNat] at hreaches
    exact absurd (hreaches.resolve_left (by decide)) (Nat.not_lt.mpr hlarge)
  · rw [Abi.seekPosition_of_not_reaches hreaches, imeiPosition, if_pos]
    rw [Abi.Reaches, htoNat, not_or] at hreaches
    refine ⟨?_, Nat.not_lt.mp hreaches.2⟩
    cases abi with
    | ilp32 => rfl
    | lp64 => exact absurd rfl hreaches.1

section Run

variable (platform : Platform) (path : Path) (imei : Imei) (offset : Nat) (σ : Kernel)
  (choices : Stream' Nat)

/-- The end of every run: data of another size are reported as a failure, with the write done. -/
theorem run_writeImei :
    let run := (writeImei platform path offset imei.text).run choices σ
    let position := imeiPosition platform.abi offset
    let new := splice ((σ.files path).getD []) position imei.packed
    (new.length = xmm616NvDataSize → run.1 = some 0) ∧
      (new.length ≠ xmm616NvDataSize →
        run.1 = some (-1) ∧ run.2.files = σ.files.write path position imei.packed) := by
  intro run position new
  obtain ⟨hencode, hsize⟩ := imei.encode_eq
  refine wp_run (Q := fun rc σ' => (new.length = xmm616NvDataSize → rc = some 0) ∧
    (new.length ≠ xmm616NvDataSize →
      rc = some (-1) ∧ σ'.files = σ.files.write path position imei.packed))
    (wp_writeImei_anywhere hencode hsize (seekPosition_ofNat platform.abi offset) ?_ ?_) choices
  · exact fun hlength _ _ => ⟨fun _ => rfl, fun hne => absurd hlength hne⟩
  · exact fun hne _ hσ' => ⟨fun hlength => absurd hlength hne, fun _ => ⟨rfl, hσ'⟩⟩

variable {path imei}

/-- The write keeps both files exactly where the eight bytes are there already. -/
theorem nvFilesKept_write_iff {fs : FileSystem} {position : Nat} :
    NvFilesKept path fs (fs.write path position imei.packed) ↔
      ∃ old, fs path = some old ∧ slice old position 8 = some imei.packed := by
  have hlength := imei.encode_eq.2
  have hne : imei.packed ≠ [] := List.ne_nil_of_length_pos (by omega)
  have hmd5 : fs.write path position imei.packed (nvDataImeiMd5Path path) =
      fs (nvDataImeiMd5Path path) :=
    FileSystem.put_of_ne (nvDataImeiMd5Path_ne path).symm _ _
  rw [NvFilesKept, and_iff_left hmd5, FileSystem.write, FileSystem.put_self]
  constructor
  · intro hsame
    have hcontent : (fs path).getD [] = splice ((fs path).getD []) position imei.packed := by
      conv_lhs => rw [← hsame, Option.getD_some]
    refine ⟨_, hsame.symm, ?_⟩
    rw [← hcontent, ← hlength]
    exact (splice_eq_self_iff hne).mp hcontent.symm
  · rintro ⟨old, hold, hslice⟩
    rw [← hlength] at hslice
    rw [hold, Option.getD_some, (splice_eq_self_iff hne).mpr hslice]

end Run

/-- A failed write leaves both files alone exactly when it cannot fail, because the data have the right
size once the eight bytes are there, or when the eight bytes were there before. -/
theorem failed_write_keeps_files_iff (platform : Platform) (path : Path) (imei : Imei) (offset : Nat)
    (σ : Kernel) (choices : Stream' Nat) :
    (((writeImei platform path offset imei.text).run choices σ).1 ≠ some 0 →
      NvFilesKept path σ.files ((writeImei platform path offset imei.text).run choices σ).2.files) ↔
    max ((σ.files path).getD []).length (imeiPosition platform.abi offset + 8) = xmm616NvDataSize ∨
      ∃ old, σ.files path = some old ∧
        slice old (imeiPosition platform.abi offset) 8 = some imei.packed := by
  obtain ⟨hdone, hrefused⟩ := run_writeImei platform path imei offset σ choices
  have hlength := imei.encode_eq.2
  have hne : imei.packed ≠ [] := List.ne_nil_of_length_pos (by omega)
  rw [length_splice hne, hlength] at hdone hrefused
  by_cases hsize : max ((σ.files path).getD []).length (imeiPosition platform.abi offset + 8) =
      xmm616NvDataSize
  · exact iff_of_true (fun hfail => absurd (hdone hsize) hfail) (Or.inl hsize)
  · obtain ⟨hrc, hfiles⟩ := hrefused hsize
    rw [or_iff_right hsize, hrc, hfiles, nvFilesKept_write_iff]
    exact forall_prop_of_true (by decide)

/-- A missing file is created, eight bytes long, by a write that reports a failure. -/
theorem failed_write_creates_file :
    ¬∀ (platform : Platform) (path : Path) (imei : Imei) (offset : Nat) (σ : Kernel)
      (choices : Stream' Nat),
      ((writeImei platform path offset imei.text).run choices σ).1 ≠ some 0 →
        NvFilesKept path σ.files
          ((writeImei platform path offset imei.text).run choices σ).2.files := by
  intro hclaim
  have hkept := hclaim sampleImeiPlatform sampleImeiPath sampleImei 0 (.boot fun _ => none)
    (Stream'.const 0)
  obtain ⟨_, hrefused⟩ := run_writeImei sampleImeiPlatform sampleImeiPath sampleImei 0
    (.boot fun _ => none) (Stream'.const 0)
  obtain ⟨hrc, hfiles⟩ := hrefused (by decide)
  rw [hrc, hfiles] at hkept
  obtain ⟨old, hold, _⟩ := nvFilesKept_write_iff.mp (hkept (by decide))
  contradiction

end SamsungIpc
