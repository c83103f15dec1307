import SamsungIpc.NvRecovery

/-! When loading the NV data leaves two valid copies behind, and what a backup is made of. A load
looks only at the size of the backup data before it decides that there is a backup, and a backup
looks only at the size of the primary data before it copies them. -/

namespace SamsungIpc

open Sys

variable {platform : Platform} {cfg : NvConfig} {σ : Kernel}

/-! ### A device -/

/-- NV data that are blank after their first byte. -/
def sampleNvData (first : UInt8) : Bytes := first :: List.replicate (xmm626NvDataSize - 1) 0

theorem length_sampleNvData (first : UInt8) :
    (sampleNvData first).length = xmm626NvConfig.size := by
  rw [sampleNvData, List.length_cons, List.length_replicate]
  rfl

def blankDigest : Digest :=
  ⟨[0x52, 0x93, 0x81, 0x44, 0x14, 0xab, 0xb3, 0x83, 0x1e, 0x3f, 0xc1, 0xa1, 0xb3, 0x5e, 0x69, 0xbc],
    rfl⟩

def changedDigest : Digest :=
  ⟨[0x98, 0x7e, 0x92, 0x48, 0xe9, 0x8e, 0x52, 0x3b, 0x50, 0xb7, 0x3d, 0x6a, 0xaa, 0xc7, 0xad, 0xae],
    rfl⟩

/-- A digest function with the values of MD5 for the blank data and for those that start with `1`. -/
def sampleMd5 (hashed : Bytes) : Digest :=
  if hashed = sampleNvData 0 ++ xmm626NvConfig.secret then blankDigest
  else if hashed = sampleNvData 1 ++ xmm626NvConfig.secret then changedDigest
  else ⟨List.replicate md5DigestLength 0, List.length_replicate⟩

theorem sampleMd5_blank : sampleMd5 (sampleNvData 0 ++ xmm626NvConfig.secret) = blankDigest :=
  if_pos rfl

theorem sampleMd5_changed : sampleMd5 (sampleNvData 1 ++ xmm626NvConfig.secret) = changedDigest := by
  have hne : sampleNvData 1 ++ xmm626NvConfig.secret ≠ sampleNvData 0 ++ xmm626NvConfig.secret := by
    intro heq
    rw [sampleNvData, sampleNvData, List.cons_append, List.cons_append, List.cons.injEq] at heq
    exact absurd heq.1 (by decide)
  rw [sampleMd5, if_neg hne, if_pos rfl]

/-- Built for a 32-bit device, as most are. -/
def samplePlatform : Platform := ⟨.ilp32, sampleMd5⟩

theorem samplePlatform_md5 : samplePlatform.md5 = sampleMd5 := rfl

/-- The disk of a device with the data `sampleNvData first` and the digest file of the blank data. -/
def sampleDisk (first : UInt8) : FileSystem :=
  (FileSystem.put (fun _ => none) xmm626NvConfig.path (sampleNvData first)).put
    xmm626NvConfig.md5Path (xmm626NvConfig.digest samplePlatform (sampleNvData 0))

theorem sampleDisk_path (first : UInt8) :
    sampleDisk first xmm626NvConfig.path = some (sampleNvData first) := by
  rw [sampleDisk, FileSystem.put_of_ne xmm626NvConfig.distinct.1, FileSystem.put_self]

theorem sampleDisk_blank :
    xmm626NvConfig.PrimaryHolds samplePlatform (sampleDisk 0) (sampleNvData 0) :=
  ⟨sampleDisk_path 0, length_sampleNvData 0, FileSystem.put_self _ _ _⟩

/-- One damaged byte is enough to fail the check. -/
theorem sampleDisk_damaged : ¬xmm626NvConfig.PrimaryValid samplePlatform (sampleDisk 1) := by
  rintro ⟨data, hdata⟩
  obtain rfl : sampleNvData 1 = data :=
    Option.some.inj ((sampleDisk_path 1).symm.trans hdata.data_eq)
  have hdigest : some (digestText samplePlatform xmm626NvConfig.secret (sampleNvData 0)) =
      some (digestText samplePlatform xmm626NvConfig.secret (sampleNvData 1)) :=
    (FileSystem.put_self _ _ _).symm.trans hdata.digest_eq
  have hmd5 := digestText_injective (Option.some.inj hdigest)
  rw [samplePlatform_md5, sampleMd5_blank, sampleMd5_changed] at hmd5
  exact absurd hmd5 (by decide)

/-! ### Loading -/

/-- A load that returns data leaves both pairs valid. -/
def LoadRestoresRedundancy (platform : Platform) (cfg : NvConfig) (σ : Kernel) : Prop :=
  ∀ choices, ((ipcNvDataLoad platform cfg.client).run choices σ).1 ≠ none →
    (ipcNvDataCheck platform cfg.client).Passes
      ((ipcNvDataLoad platform cfg.client).run choices σ).2 ∧
    (ipcNvDataBackupCheck platform cfg.client).Passes
      ((ipcNvDataLoad platform cfg.client).run choices σ).2

/-- Backup data of the right size keep a load from making a backup, whatever their digest file. -/
theorem load_keeps_sized_backup {data : Bytes} (hdata : cfg.PrimaryHolds platform σ.files data)
    (hsize : HasSize σ.files cfg.backupPath cfg.size) (choices : Stream' Nat) :
    ((ipcNvDataLoad platform cfg.client).run choices σ).1 = some data ∧
      ((ipcNvDataLoad platform cfg.client).run choices σ).2.files = σ.files := by
  have hspec : wp (fun _ => True) (ipcNvDataLoad platform cfg.client)
      (fun result σ' => result = some data ∧ σ'.files = σ.files) σ := by
    apply wp_ipcNvDataLoad trivial
    · exact fun hno => absurd ⟨data, hdata⟩ hno
    · exact fun other hother _ σ' hσ' => ⟨congrArg some (hother.unique hdata), hσ'⟩
    · exact fun _ _ _ _ _ => trivial
    · exact fun _ _ hno => absurd hsize hno
    · exact fun _ _ _ _ _ => trivial
    · exact fun _ hno => absurd ⟨data, hdata⟩ hno
  exact wp_run hspec choices

/-- In every other case the backup is valid after a load that returned data. -/
theorem wp_load_redundant (hsound : cfg.PrimaryValid platform σ.files →
      HasSize σ.files cfg.backupPath cfg.size → cfg.BackupValid platform σ.files) :
    wp (fun _ => True) (ipcNvDataLoad platform cfg.client)
      (fun result σ' => result ≠ none → cfg.BackupValid platform σ'.files) σ := by
  apply wp_ipcNvDataLoad trivial
  · exact fun _ _ _ _ hsome => absurd rfl hsome
  · intro data hdata hsize σ' hσ' _
    exact hσ' ▸ hsound ⟨data, hdata⟩ hsize
  · exact fun _ _ _ _ _ => trivial
  · intro data hdata _ σ' hσ' _
    exact ⟨data, hσ' ▸ NvConfig.backedUp_backup _ hdata.length_eq⟩
  · exact fun _ _ _ _ _ => trivial
  · intro data _ hdata σ' hσ' _
    exact ⟨data, hσ' ▸ hdata.restored_backup data⟩

/-- A load re-establishes redundancy except in one case: the primary pair is valid, and the backup
data have the right size but no digest file that belongs to them. -/
theorem load_redundancy_iff (platform : Platform) (cfg : NvConfig) (σ : Kernel) :
    LoadRestoresRedundancy platform cfg σ ↔
      ¬(cfg.PrimaryValid platform σ.files ∧ HasSize σ.files cfg.backupPath cfg.size ∧
        ¬cfg.BackupValid platform σ.files) := by
  constructor
  · rintro hload ⟨⟨data, hdata⟩, hsize, hbackup⟩
    obtain ⟨hresult, hfiles⟩ := load_keeps_sized_backup hdata hsize (Stream'.const 0)
    have hchecks := hload (Stream'.const 0) (by rw [hresult]; exact Option.some_ne_none data)
    rw [passes_ipcNvDataBackupCheck_iff, hfiles] at hchecks
    exact hbackup hchecks.2
  · intro hcase choices hsome
    have hsound : cfg.PrimaryValid platform σ.files → HasSize σ.files cfg.backupPath cfg.size →
        cfg.BackupValid platform σ.files :=
      fun hprimary hsize => not_not.mp fun hbackup => hcase ⟨hprimary, hsize, hbackup⟩
    rw [passes_ipcNvDataCheck_iff, passes_ipcNvDataBackupCheck_iff]
    exact ⟨(wp_run (wp_load_files platform cfg σ) choices).2.1 hsome,
      wp_run (wp_load_redundant hsound) choices hsome⟩

/-- The disk of a device whose first backup was cut between its two files. -/
def halfBackedUpDisk : FileSystem :=
  (sampleDisk 0).put xmm626NvConfig.backupPath (sampleNvData 0)

theorem halfBackedUpDisk_primary :
    xmm626NvConfig.PrimaryHolds samplePlatform halfBackedUpDisk (sampleNvData 0) := by
  obtain ⟨-, hpb, -, hmb, -, -⟩ := xmm626NvConfig.distinct
  exact sampleDisk_blank.congr (FileSystem.put_of_ne hpb _ _) (FileSystem.put_of_ne hmb _ _)

theorem halfBackedUpDisk_not_redundant :
    ¬LoadRestoresRedundancy samplePlatform xmm626NvConfig (Kernel.boot halfBackedUpDisk) := by
  obtain ⟨-, -, hpbm, -, hmbm, hbbm⟩ := xmm626NvConfig.distinct
  have hsize : HasSize halfBackedUpDisk xmm626NvConfig.backupPath xmm626NvConfig.size :=
    ⟨sampleNvData 0, FileSystem.put_self _ _ _, length_sampleNvData 0⟩
  have hmissing : halfBackedUpDisk xmm626NvConfig.backupMd5Path = none := by
    rw [halfBackedUpDisk, FileSystem.put_of_ne hbbm.symm, sampleDisk,
      FileSystem.put_of_ne hmbm.symm, FileSystem.put_of_ne hpbm.symm]
  intro hload
  obtain ⟨hresult, hfiles⟩ :=
    load_keeps_sized_backup (σ := Kernel.boot halfBackedUpDisk) halfBackedUpDisk_primary hsize
      (Stream'.const 0)
  have hchecks := hload (Stream'.const 0) (by rw [hresult]; exact Option.some_ne_none _)
  rw [passes_ipcNvDataBackupCheck_iff, hfiles] at hchecks
  obtain ⟨data, hdata⟩ := hchecks.2
  have hdigest := hdata.digest_eq
  rw [Kernel.boot_files, hmissing] at hdigest
  exact Option.some_ne_none _ hdigest.symm

/-! ### Backing up -/

/-- A backup is refused when the primary check fails, with the backup files left alone, and
otherwise makes the backup pair a valid copy. -/
def BackupOnlyOfValidated (platform : Platform) (cfg : NvConfig) (σ : Kernel) : Prop :=
  ∀ choices,
    let backup := (ipcNvDataBackup platform cfg.client).run choices σ
    (¬(ipcNvDataCheck platform cfg.client).Passes σ → backup.1 = -1 ∧
      backup.2.files cfg.backupPath = σ.files cfg.backupPath ∧
      backup.2.files cfg.backupMd5Path = σ.files cfg.backupMd5Path) ∧
    ((ipcNvDataCheck platform cfg.client).Passes σ → backup.1 = 0 ∧
      ∃ data, cfg.PrimaryHolds platform σ.files data ∧ cfg.BackupHolds platform backup.2.files data)

/-- Primary data of the right size are backed up, whatever their digest file is. -/
theorem backup_of_size (platform : Platform) (cfg : NvConfig) {data : Bytes}
    (hdata : σ.files cfg.path = some data)
    (hlength : data.length = cfg.size) (choices : Stream' Nat) :
    ((ipcNvDataBackup platform cfg.client).run choices σ).1 = 0 ∧
      ((ipcNvDataBackup platform cfg.client).run choices σ).2.files =
        cfg.backedUp platform σ.files data := by
  have hspec : wp (fun _ => True) (ipcNvDataBackup platform cfg.client)
      (fun rc σ' => rc = 0 ∧ σ'.files = cfg.backedUp platform σ.files data) σ := by
    apply wp_ipcNvDataBackup trivial
    · exact fun hno => absurd ⟨data, hdata, hlength⟩ hno
    · exact fun _ _ _ _ _ => trivial
    · intro other hother _ σ' hσ'
      obtain rfl : data = other := Option.some.inj (hdata.symm.trans hother)
      exact ⟨rfl, hσ'⟩
  exact wp_run hspec choices

theorem backup_without_size (platform : Platform) (cfg : NvConfig)
    (hsize : ¬HasSize σ.files cfg.path cfg.size) (choices : Stream' Nat) :
    ((ipcNvDataBackup platform cfg.client).run choices σ).1 = -1 ∧
      ((ipcNvDataBackup platform cfg.client).run choices σ).2.files = σ.files := by
  have hspec : wp (fun _ => True) (ipcNvDataBackup platform cfg.client)
      (fun rc σ' => rc = -1 ∧ σ'.files = σ.files) σ := by
    apply wp_ipcNvDataBackup trivial
    · exact fun _ σ' hσ' => ⟨rfl, hσ'⟩
    · exact fun _ _ _ _ _ => trivial
    · exact fun data hdata hlength => absurd ⟨data, hdata, hlength⟩ hsize
  exact wp_run hspec choices

/-- A backup is made of validated data except when the primary data have the right size and fail
their check: then they are copied, with a digest that makes the copy pass. -/
theorem backup_validated_iff (platform : Platform) (cfg : NvConfig) (σ : Kernel) :
    BackupOnlyOfValidated platform cfg σ ↔
      ¬HasSize σ.files cfg.path cfg.size ∨ (ipcNvDataCheck platform cfg.client).Passes σ := by
  constructor
  · intro hbackup
    by_contra hcase
    obtain ⟨hsize, hfails⟩ := not_or.mp hcase
    obtain ⟨data, hdata, hlength⟩ := not_not.mp hsize
    have hrefused := ((hbackup (Stream'.const 0)).1 hfails).1
    rw [(backup_of_size platform cfg hdata hlength (Stream'.const 0)).1] at hrefused
    exact absurd hrefused (by decide)
  · intro hcase choices
    by_cases hsize : HasSize σ.files cfg.path cfg.size
    · have hpasses := hcase.resolve_left (not_not.mpr hsize)
      obtain ⟨data, hdata⟩ := passes_ipcNvDataCheck_iff.mp hpasses
      obtain ⟨hrc, hfiles⟩ := backup_of_size platform cfg hdata.data_eq hdata.length_eq choices
      refine ⟨fun hfails => absurd hpasses hfails, fun _ => ⟨hrc, data, hdata, ?_⟩⟩
      rw [hfiles]
      exact NvConfig.backedUp_backup _ hdata.length_eq
    · obtain ⟨hrc, hfiles⟩ := backup_without_size platform cfg hsize choices
      refine ⟨fun _ => ⟨hrc, ?_, ?_⟩, fun hpasses => ?_⟩
      · rw [hfiles]
      · rw [hfiles]
      · obtain ⟨data, hdata⟩ := passes_ipcNvDataCheck_iff.mp hpasses
        exact absurd hdata.hasSize hsize

/-- A damaged byte does not keep the data from being backed up. -/
theorem damaged_data_backed_up :
    ¬BackupOnlyOfValidated samplePlatform xmm626NvConfig (Kernel.boot (sampleDisk 1)) := by
  intro hbackup
  have hfails : ¬(ipcNvDataCheck samplePlatform xmm626NvConfig.client).Passes
      (Kernel.boot (sampleDisk 1)) :=
    fun hpasses => sampleDisk_damaged (passes_ipcNvDataCheck_iff.mp hpasses)
  have hrefused := ((hbackup (Stream'.const 0)).1 hfails).1
  have hdone := backup_of_size (σ := Kernel.boot (sampleDisk 1)) samplePlatform xmm626NvConfig
    (sampleDisk_path 1) (length_sampleNvData 1) (Stream'.const 0)
  rw [hdone.1] at hrefused
  exact absurd hrefused (by decide)

end SamsungIpc
