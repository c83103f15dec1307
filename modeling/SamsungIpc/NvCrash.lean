import Mathlib.Data.Set.Function
import SamsungIpc.NvRedundancy

/-! A process may stop between any two system calls of an NV data operation. When both pairs were
valid before, one of them is valid on the disk it leaves, and the next load returns old data or the
complete new ones. -/

namespace SamsungIpc

open ByteSplice Sys

variable {platform : Platform} {cfg : NvConfig} {σ : Kernel} {fs fs' : FileSystem}
  {path md5Path : Path} {data digest : Bytes}

/-! ### What a cut leaves alone -/

theorem FileCut.other (hcut : FileCut fs path data fs') {other : Path} (hne : other ≠ path) :
    fs' other = fs other := by
  cases hcut with
  | removed => exact FileSystem.remove_of_ne hne fs
  | part k => exact FileSystem.put_of_ne hne fs _

theorem PairCut.other (hcut : PairCut fs path md5Path data digest fs') {other : Path}
    (hpath : other ≠ path) (hmd5 : other ≠ md5Path) : fs' other = fs other := by
  cases hcut with
  | data h => exact h.other hpath
  | digest h => rw [h.other hmd5, FileSystem.put_of_ne hpath]

/-- A replaced file that has its full length again has its whole new content. -/
theorem PairCut.complete (hcut : PairCut fs path md5Path data digest fs') (hne : path ≠ md5Path)
    {content : Bytes} (hcontent : fs' path = some content) (hlength : content.length = data.length) :
    content = data := by
  cases hcut with
  | digest h =>
      rw [h.other hne, FileSystem.put_self] at hcontent
      exact (Option.some.inj hcontent).symm
  | data h =>
      cases h with
      | removed =>
          rw [FileSystem.remove_self] at hcontent
          contradiction
      | part k =>
          rw [FileSystem.put_self] at hcontent
          obtain rfl : data.take k = content := Option.some.inj hcontent
          rw [List.length_take, min_eq_right_iff] at hlength
          exact List.take_of_length_le hlength

/-! ### Recoverable disks -/

/-- What the two copies on the disk amount to is one of the `allowed` contents. -/
def Recovers (platform : Platform) (cfg : NvConfig) (allowed : Set Bytes) (fs : FileSystem) : Prop :=
  ∃ data ∈ allowed, (cfg.copies platform fs).recover = some data

variable {allowed : Set Bytes} {primary backup : Bytes}

theorem recovers_of_primary (hprimary : cfg.PrimaryHolds platform fs primary)
    (hallowed : primary ∈ allowed) : Recovers platform cfg allowed fs := by
  refine ⟨primary, hallowed, ?_⟩
  rw [RedundantCopies.recover, copies_primary_eq_some_iff.mpr hprimary]
  rfl

/-- With a valid backup, whatever passes for primary data has to be allowed as well. -/
theorem recovers_of_backup (hbackup : cfg.BackupHolds platform fs backup)
    (hallowed : backup ∈ allowed)
    (hprimary : ∀ data, cfg.PrimaryHolds platform fs data → data ∈ allowed) :
    Recovers platform cfg allowed fs := by
  by_cases hvalid : cfg.PrimaryValid platform fs
  · obtain ⟨data, hdata⟩ := hvalid
    exact recovers_of_primary hdata (hprimary data hdata)
  · refine ⟨backup, hallowed, ?_⟩
    rw [RedundantCopies.recover, copies_primary_eq_none_iff.mpr hvalid,
      copies_backup_eq_some_iff.mpr hbackup]
    rfl

/-- A load returns an allowed content. -/
theorem load_of_recovers (hrecovers : Recovers platform cfg allowed σ.files) (choices : Stream' Nat) :
    ∃ data ∈ allowed, ((ipcNvDataLoad platform cfg.client).run choices σ).1 = some data := by
  obtain ⟨data, hallowed, hdata⟩ := hrecovers
  exact ⟨data, hallowed, (load_eq_recover choices).trans hdata⟩

/-! ### The operations -/

/-- A write has put at most a part of the new bytes into the data, or all of them. As long as the old
digest file is there, a mixture does not pass for valid data. -/
theorem wp_write_recovers {bytes : Bytes} {offset : UInt32} {position : Nat}
    (hposition : platform.abi.seekPosition offset = position)
    (hprimary : cfg.PrimaryHolds platform σ.files primary)
    (hbackup : cfg.BackupHolds platform σ.files backup)
    (hold : primary ∈ allowed) (hnew : splice primary position bytes ∈ allowed)
    (hcopy : backup ∈ allowed)
    (hinjective : ∀ k, platform.md5 (splice primary position (bytes.take k) ++ cfg.secret) =
      platform.md5 (primary ++ cfg.secret) → splice primary position (bytes.take k) = primary) :
    wp (Recovers platform cfg allowed) (ipcNvDataWrite platform cfg.client (some bytes) offset)
      (fun _ _ => True) σ := by
  obtain ⟨hpm, hpb, hpbm, hmb, hmbm, -⟩ := cfg.distinct
  have hstart : Recovers platform cfg allowed σ.files := recovers_of_primary hprimary hold
  by_cases hbytes : bytes = []
  · exact wp_ipcNvDataWrite_refused (Or.inr hbytes) hstart fun _ _ => trivial
  apply wp_ipcNvDataWrite hposition hprimary.data_eq hprimary.length_eq hbytes hstart
  · intro k
    apply recovers_of_backup _ hcopy
    · intro data hdata
      have hpart := hdata.data_eq
      rw [FileSystem.put_self] at hpart
      have hdigest := hdata.digest_eq
      rw [FileSystem.put_of_ne hpm.symm, hprimary.digest_eq, ← Option.some.inj hpart] at hdigest
      rw [← Option.some.inj hpart,
        hinjective k (digestText_injective (Option.some.inj hdigest).symm)]
      exact hold
    · exact hbackup.congr (FileSystem.put_of_ne hpb.symm _ _) (FileSystem.put_of_ne hpbm.symm _ _)
  · intro _ fs' hcut
    apply recovers_of_backup _ hcopy
    · intro data hdata
      have hwhole := hdata.data_eq
      rw [hcut.other hpm, FileSystem.put_self] at hwhole
      exact Option.some.inj hwhole ▸ hnew
    · apply hbackup.congr
      · rw [hcut.other hmb.symm, FileSystem.put_of_ne hpb.symm]
      · rw [hcut.other hmbm.symm, FileSystem.put_of_ne hpbm.symm]
  · exact fun _ _ _ => trivial
  · exact fun _ _ _ _ => trivial
  · exact fun _ _ _ => trivial

theorem wp_backup_recovers (hprimary : cfg.PrimaryHolds platform σ.files primary)
    (hold : primary ∈ allowed) :
    wp (Recovers platform cfg allowed) (ipcNvDataBackup platform cfg.client) (fun _ _ => True) σ := by
  obtain ⟨-, hpb, hpbm, hmb, hmbm, -⟩ := cfg.distinct
  apply wp_ipcNvDataBackup (recovers_of_primary hprimary hold)
  · exact fun _ _ _ => trivial
  · intro data _ _ fs' hcut
    exact recovers_of_primary (hprimary.congr (hcut.other hpb hpbm) (hcut.other hmb hmbm)) hold
  · exact fun _ _ _ _ _ => trivial

theorem wp_restore_recovers (hprimary : cfg.PrimaryHolds platform σ.files primary)
    (hbackup : cfg.BackupHolds platform σ.files backup) (hold : primary ∈ allowed)
    (hcopy : backup ∈ allowed) :
    wp (Recovers platform cfg allowed) (ipcNvDataRestore platform cfg.client) (fun _ _ => True) σ := by
  obtain ⟨hpm, hpb, hpbm, hmb, hmbm, -⟩ := cfg.distinct
  apply wp_ipcNvDataRestore (recovers_of_primary hprimary hold)
  · exact fun _ _ _ => trivial
  · intro data hdata fs' hcut
    obtain rfl : data = backup := hdata.unique hbackup
    apply recovers_of_backup _ hcopy
    · intro content hcontent
      have hlength := hcontent.length_eq.trans hdata.length_eq.symm
      exact hcut.complete hpm hcontent.data_eq hlength ▸ hcopy
    · exact hdata.congr (hcut.other hpb.symm hmb.symm) (hcut.other hpbm.symm hmbm.symm)
  · exact fun _ _ _ _ => trivial

/-- Between two valid pairs a load has nothing to do. -/
theorem wp_load_recovers (hprimary : cfg.PrimaryHolds platform σ.files primary)
    (hbackup : cfg.BackupHolds platform σ.files backup) (hold : primary ∈ allowed) :
    wp (Recovers platform cfg allowed) (ipcNvDataLoad platform cfg.client) (fun _ _ => True) σ := by
  apply wp_ipcNvDataLoad (recovers_of_primary hprimary hold)
  · exact fun _ _ _ _ => trivial
  · exact fun _ _ _ _ _ => trivial
  · exact fun _ _ hno => absurd hbackup.hasSize hno
  · exact fun _ _ _ _ _ => trivial
  · exact fun _ hno => absurd ⟨primary, hprimary⟩ hno
  · exact fun _ _ _ _ _ => trivial

/-! ### Crash safety -/

inductive NvOperation where
  | write (data : Bytes) (offset : UInt32)
  | backup
  | restore
  | load

/-- The disks the operation can leave behind, with the choices for its transfers. -/
def NvOperation.crashDisks (platform : Platform) (cfg : NvConfig) (choices : Stream' Nat)
    (σ : Kernel) : NvOperation → List FileSystem
  | .write data offset => (ipcNvDataWrite platform cfg.client (some data) offset).crashDisks choices σ
  | .backup => (ipcNvDataBackup platform cfg.client).crashDisks choices σ
  | .restore => (ipcNvDataRestore platform cfg.client).crashDisks choices σ
  | .load => (ipcNvDataLoad platform cfg.client).crashDisks choices σ

/-- The old contents and the complete new one. -/
def NvOperation.outcomes (platform : Platform) (old copy : Bytes) : NvOperation → Set Bytes
  | .write data offset => {old, splice old (platform.abi.seekPosition offset) data, copy}
  | .backup | .restore | .load => {old, copy}

/-- The contents a data file may have on the way. -/
def NvOperation.contents (platform : Platform) (old copy : Bytes) : NvOperation → Set Bytes
  | .write data offset =>
      {old, copy} ∪ Set.range fun k => splice old (platform.abi.seekPosition offset) (data.take k)
  | .backup | .restore | .load => {old, copy}

/-- Wherever the operation is cut, the next process loads one of the outcomes. -/
def CrashSafe (platform : Platform) (cfg : NvConfig) (σ : Kernel) (operation : NvOperation)
    (primary backup : Bytes) : Prop :=
  ∀ choices, ∀ fs ∈ operation.crashDisks platform cfg choices σ, ∀ choices',
    ∃ data ∈ operation.outcomes platform primary backup,
      ((ipcNvDataLoad platform cfg.client).run choices' (Kernel.boot fs)).1 = some data

/-- **Crash safety.** From a disk with two valid pairs every operation can be cut anywhere: the old
primary data, the complete new ones or the backup are loaded next. This goes for every write, even
for one that does not stay inside. -/
theorem crash_safe (platform : Platform) (cfg : NvConfig) (σ : Kernel) (operation : NvOperation)
    (primary backup : Bytes) (hprimary : cfg.PrimaryHolds platform σ.files primary)
    (hbackup : cfg.BackupHolds platform σ.files backup)
    (hinjective : Set.InjOn (fun content => platform.md5 (content ++ cfg.secret))
      (operation.contents platform primary backup)) :
    CrashSafe platform cfg σ operation primary backup := by
  intro choices
  have hrecovers : ∀ fs ∈ operation.crashDisks platform cfg choices σ,
      Recovers platform cfg (operation.outcomes platform primary backup) fs := by
    cases operation with
    | write data offset =>
        exact wp_crashDisks (wp_write_recovers rfl hprimary hbackup (Or.inl rfl)
          (Or.inr (Or.inl rfl)) (Or.inr (Or.inr rfl))
          fun k => hinjective (Or.inr ⟨k, rfl⟩) (Or.inl (Or.inl rfl))) choices
    | backup => exact wp_crashDisks (wp_backup_recovers hprimary (Or.inl rfl)) choices
    | restore =>
        exact wp_crashDisks (wp_restore_recovers hprimary hbackup (Or.inl rfl) (Or.inr rfl)) choices
    | load => exact wp_crashDisks (wp_load_recovers hprimary hbackup (Or.inl rfl)) choices
  exact fun fs hfs choices' => load_of_recovers (hrecovers fs hfs) choices'

/-- The disk of a device with blank data and their backup. -/
def redundantDisk : FileSystem :=
  xmm626NvConfig.backedUp samplePlatform (sampleDisk 0) (sampleNvData 0)

theorem splice_sampleNvData (k : Nat) :
    splice (sampleNvData 0) 0 (([1] : Bytes).take k) = sampleNvData 0 ∨
      splice (sampleNvData 0) 0 (([1] : Bytes).take k) = sampleNvData 1 := by
  cases k with
  | zero =>
      left
      rw [List.take_zero, splice_nil]
  | succ k =>
      right
      rw [List.take_succ_cons, List.take_nil, sampleNvData, splice_head, sampleNvData]

theorem sampleMd5_injective {content other : Bytes}
    (hcontent : content = sampleNvData 0 ∨ content = sampleNvData 1)
    (hother : other = sampleNvData 0 ∨ other = sampleNvData 1)
    (heq : sampleMd5 (content ++ xmm626NvConfig.secret) = sampleMd5 (other ++ xmm626NvConfig.secret)) :
    content = other := by
  have hne : blankDigest ≠ changedDigest := by decide
  rcases hcontent with rfl | rfl <;> rcases hother with rfl | rfl
  · rfl
  · rw [sampleMd5_blank, sampleMd5_changed] at heq
    exact absurd heq hne
  · rw [sampleMd5_blank, sampleMd5_changed] at heq
    exact absurd heq.symm hne
  · rfl

theorem crash_safe_changed :
    CrashSafe samplePlatform xmm626NvConfig (Kernel.boot redundantDisk) (.write [1] 0)
      (sampleNvData 0) (sampleNvData 0) := by
  apply crash_safe samplePlatform xmm626NvConfig (Kernel.boot redundantDisk) (.write [1] 0)
    (sampleNvData 0) (sampleNvData 0)
  · exact sampleDisk_blank.backedUp_primary (sampleNvData 0)
  · exact NvConfig.backedUp_backup (sampleDisk 0) (length_sampleNvData 0)
  · have hcontents : ∀ content ∈ (NvOperation.write [1] 0).contents samplePlatform (sampleNvData 0)
        (sampleNvData 0), content = sampleNvData 0 ∨ content = sampleNvData 1 := by
      rintro content ((rfl | rfl) | ⟨k, rfl⟩)
      · exact Or.inl rfl
      · exact Or.inl rfl
      · exact splice_sampleNvData k
    exact fun content hcontent other hother =>
      sampleMd5_injective (hcontents content hcontent) (hcontents other hother)

end SamsungIpc
