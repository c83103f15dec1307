import SamsungIpc.NvDataSpec

/-! Loading the NV data: which of the two copies is returned, and what becomes of the files. -/

namespace SamsungIpc

open Sys

variable {platform : Platform} {cfg : NvConfig} {σ : Kernel}

/-- What is still to be had from the four files: the copies that pass their check. -/
structure RedundantCopies where
  primary : Option Bytes
  backup : Option Bytes

/-- Recovery prefers the primary copy. -/
def RedundantCopies.recover (copies : RedundantCopies) : Option Bytes :=
  copies.primary <|> copies.backup

theorem RedundantCopies.recover_eq_none_iff (copies : RedundantCopies) :
    copies.recover = none ↔ copies.primary = none ∧ copies.backup = none := by
  obtain ⟨primary, backup⟩ := copies
  cases primary <;> simp [recover]

instance (size : Nat) (secret : CString) (path md5Path : Path) (fs : FileSystem) (data : Bytes) :
    Decidable (PairHolds platform secret size path md5Path fs data) :=
  decidable_of_iff (fs path = some data ∧ data.length = size ∧
      fs md5Path = some (digestText platform secret data))
    ⟨fun h => ⟨h.1, h.2.1, h.2.2⟩, fun h => ⟨h.data_eq, h.length_eq, h.digest_eq⟩⟩

/-- The content of a data file that belongs to a valid pair. -/
def pairContent (platform : Platform) (secret : CString) (size : Nat) (path md5Path : Path)
    (fs : FileSystem) : Option Bytes :=
  (fs path).filter fun data => PairHolds platform secret size path md5Path fs data

theorem pairContent_eq_some_iff {secret : CString} {size : Nat} {path md5Path : Path}
    {fs : FileSystem} {data : Bytes} :
    pairContent platform secret size path md5Path fs = some data ↔
      PairHolds platform secret size path md5Path fs data := by
  rw [pairContent, Option.filter_eq_some_iff, decide_eq_true_iff]
  exact and_iff_right_of_imp PairHolds.data_eq

/-- The copies a disk holds. -/
def NvConfig.copies (platform : Platform) (cfg : NvConfig) (fs : FileSystem) : RedundantCopies where
  primary := pairContent platform cfg.secret cfg.size cfg.path cfg.md5Path fs
  backup := pairContent platform cfg.secret cfg.size cfg.backupPath cfg.backupMd5Path fs

theorem copies_primary_eq_some_iff {fs : FileSystem} {data : Bytes} :
    (cfg.copies platform fs).primary = some data ↔ cfg.PrimaryHolds platform fs data :=
  pairContent_eq_some_iff

theorem copies_backup_eq_some_iff {fs : FileSystem} {data : Bytes} :
    (cfg.copies platform fs).backup = some data ↔ cfg.BackupHolds platform fs data :=
  pairContent_eq_some_iff

theorem copies_primary_eq_none_iff {fs : FileSystem} :
    (cfg.copies platform fs).primary = none ↔ ¬cfg.PrimaryValid platform fs := by
  simp only [Option.eq_none_iff_forall_ne_some, ne_eq, copies_primary_eq_some_iff,
    NvConfig.PrimaryValid, not_exists]

theorem copies_backup_eq_none_iff {fs : FileSystem} :
    (cfg.copies platform fs).backup = none ↔ ¬cfg.BackupValid platform fs := by
  simp only [Option.eq_none_iff_forall_ne_some, ne_eq, copies_backup_eq_some_iff,
    NvConfig.BackupValid, not_exists]

/-- A load is the abstract recovery: it returns what the copies on the disk amount to. -/
theorem load_eq_recover (choices : Stream' Nat) :
    ((ipcNvDataLoad platform cfg.client).run choices σ).1 = (cfg.copies platform σ.files).recover := by
  have hspec : wp (fun _ => True) (ipcNvDataLoad platform cfg.client)
      (fun result _ => result = (cfg.copies platform σ.files).recover) σ := by
    apply wp_ipcNvDataLoad trivial
    · intro hprimary hbackup _ _
      rw [RedundantCopies.recover, copies_primary_eq_none_iff.mpr hprimary,
        copies_backup_eq_none_iff.mpr hbackup]
      rfl
    · intro data hdata _ _ _
      rw [RedundantCopies.recover, copies_primary_eq_some_iff.mpr hdata]
      rfl
    · exact fun _ _ _ _ _ => trivial
    · intro data hdata _ _ _
      rw [RedundantCopies.recover, copies_primary_eq_some_iff.mpr hdata]
      rfl
    · exact fun _ _ _ _ _ => trivial
    · intro data hprimary hdata _ _
      rw [RedundantCopies.recover, copies_primary_eq_none_iff.mpr hprimary,
        copies_backup_eq_some_iff.mpr hdata]
      rfl
  exact wp_run hspec choices

/-- What a load does to the files. A valid backup is only read, and a load that fails writes
nothing. -/
theorem wp_load_files (platform : Platform) (cfg : NvConfig) (σ : Kernel) :
    wp (fun _ => True) (ipcNvDataLoad platform cfg.client) (fun result σ' =>
      (result = none → σ'.files = σ.files) ∧
      (result ≠ none → cfg.PrimaryValid platform σ'.files) ∧
      (cfg.BackupValid platform σ.files → σ'.files cfg.backupPath = σ.files cfg.backupPath ∧
        σ'.files cfg.backupMd5Path = σ.files cfg.backupMd5Path)) σ := by
  obtain ⟨-, hpb, hpbm, hmb, hmbm, -⟩ := cfg.distinct
  apply wp_ipcNvDataLoad trivial
  · intro _ _ σ' hσ'
    exact ⟨fun _ => hσ', fun hsome => absurd rfl hsome, fun _ => by rw [hσ']; exact ⟨rfl, rfl⟩⟩
  · intro data hdata _ σ' hσ'
    exact ⟨fun _ => hσ', fun _ => ⟨data, hσ' ▸ hdata⟩, fun _ => by rw [hσ']; exact ⟨rfl, rfl⟩⟩
  · exact fun _ _ _ _ _ => trivial
  · intro data hdata hsize σ' hσ'
    refine ⟨nofun, fun _ => ⟨data, hσ' ▸ hdata.backedUp_primary data⟩, ?_⟩
    rintro ⟨other, hother⟩
    exact absurd hother.hasSize hsize
  · exact fun _ _ _ _ _ => trivial
  · intro data _ hdata σ' hσ'
    refine ⟨nofun, fun _ => ⟨data, hσ' ▸ hdata.restored_primary⟩, fun _ => ?_⟩
    rw [hσ', NvConfig.restored]
    constructor
    · exact FileSystem.put_put_of_ne hpb.symm hmb.symm ..
    · exact FileSystem.put_put_of_ne hpbm.symm hmbm.symm ..

/-- **Recovery is complete and destroys nothing.** A load returns data exactly when one of the two
pairs is valid, the primary's if it can; then the primary check passes. A valid backup is left as it
is, and so is everything when there is nothing to return. -/
theorem load_complete_nondestructive (platform : Platform) (cfg : NvConfig) (σ : Kernel)
    (choices : Stream' Nat) :
    let load := (ipcNvDataLoad platform cfg.client).run choices σ
    (load.1 ≠ none ↔ cfg.PrimaryValid platform σ.files ∨ cfg.BackupValid platform σ.files) ∧
    (∀ data, load.1 = some data → cfg.PrimaryHolds platform σ.files data ∨
      ¬cfg.PrimaryValid platform σ.files ∧ cfg.BackupHolds platform σ.files data) ∧
    (load.1 ≠ none → (ipcNvDataCheck platform cfg.client).Passes load.2) ∧
    (cfg.BackupValid platform σ.files → load.2.files cfg.backupPath = σ.files cfg.backupPath ∧
      load.2.files cfg.backupMd5Path = σ.files cfg.backupMd5Path) ∧
    (load.1 = none → ∀ path ∈ [cfg.path, cfg.md5Path, cfg.backupPath, cfg.backupMd5Path],
      load.2.files path = σ.files path) := by
  obtain ⟨hnone, hsome, hbackup⟩ := wp_run (wp_load_files platform cfg σ) choices
  have hresult : ((ipcNvDataLoad platform cfg.client).run choices σ).1 = _ := load_eq_recover choices
  refine ⟨?_, ?_, fun h => passes_ipcNvDataCheck_iff.mpr (hsome h), hbackup,
    fun h path _ => congrFun (hnone h) path⟩
  · rw [hresult, ne_eq, RedundantCopies.recover_eq_none_iff, not_and_or,
      copies_primary_eq_none_iff, copies_backup_eq_none_iff, not_not, not_not]
  · intro data hdata
    rw [hresult, RedundantCopies.recover] at hdata
    cases hprimary : (cfg.copies platform σ.files).primary with
    | some other =>
        rw [hprimary] at hdata
        cases hdata
        exact Or.inl (copies_primary_eq_some_iff.mp hprimary)
    | none =>
        rw [hprimary] at hdata
        exact Or.inr ⟨copies_primary_eq_none_iff.mp hprimary, copies_backup_eq_some_iff.mp hdata⟩

end SamsungIpc
