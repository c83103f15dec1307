import SamsungIpc.NvData

/-! What each NV data function does to the disk, for a client with complete settings: its result,
the disk it leaves, and every disk it can leave behind when it is cut. Each function has one lemma
here and is not unfolded again. -/

namespace SamsungIpc

open ByteSplice Sys

variable {I : FileSystem → Prop} {σ : Kernel} {path md5Path : Path}

def HasSize (fs : FileSystem) (path : Path) (size : Nat) : Prop :=
  ∃ content, fs path = some content ∧ content.length = size

/-- A function that first asks for the size of a file does nothing else where it is another one. -/
theorem wp_stat_size {α : Type} {Q : α → Kernel → Prop} {size : Nat} {refused : α} {rest : Sys α}
    (hI : I σ.files) (hfail : ¬HasSize σ.files path size → Q refused σ)
    (hrest : ∀ data, σ.files path = some data → data.length = size → wp I rest Q σ) :
    wp I (do
      match ← stat path with
      | .error _ => pure refused
      | .ok stSize => if stSize ≠ size then pure refused else rest) Q σ := by
  apply wp_bind
  apply wp_stat hI
  · intro hnone
    refine wp_pure hI (hfail ?_)
    rintro ⟨content, hcontent, _⟩
    rw [hnone] at hcontent
    contradiction
  · intro content hcontent
    dsimp only
    split
    · rename_i hne
      refine wp_pure hI (hfail ?_)
      rintro ⟨other, hother, hlength⟩
      rw [hcontent] at hother
      cases hother
      exact hne hlength
    · rename_i heq
      exact hrest content hcontent (not_not.mp heq)

theorem wp_nvDataSizeCheck {Q : Int → Kernel → Prop} {size : Nat} (hsize : size ≠ 0)
    (hI : I σ.files) (hpass : HasSize σ.files path size → ∀ σ', σ'.files = σ.files → Q 0 σ')
    (hfail : ¬HasSize σ.files path size → ∀ σ', σ'.files = σ.files → Q (-1) σ') :
    wp I (nvDataSizeCheck (some path) size) Q σ := by
  rw [nvDataSizeCheck, if_neg hsize]
  apply wp_stat_size hI fun hno => hfail hno σ rfl
  intro content hcontent hlength
  exact wp_pure hI (hpass ⟨content, hcontent, hlength⟩ σ rfl)

variable {platform : Platform} {secret : CString} {size chunkSize : Nat}

theorem wp_ipcNvDataMd5Calculate {Q : Option CString → Kernel → Prop} (hchunk : 0 < chunkSize)
    (hle : chunkSize ≤ size) (hI : I σ.files)
    (hpass : ∀ data, σ.files path = some data → data.length = size → ∀ σ', σ'.files = σ.files →
      Q (some (hexDigits (platform.md5 (data ++ secret)).val)) σ')
    (hfail : ¬HasSize σ.files path size → ∀ σ', σ'.files = σ.files → Q none σ') :
    wp I (ipcNvDataMd5Calculate platform path (some secret) size chunkSize) Q σ := by
  rw [ipcNvDataMd5Calculate]
  apply wp_stat_size hI fun hno => hfail hno σ rfl
  intro data hdata hlength
  apply wp_bind
  apply wp_fileDataRead_whole hdata hlength hchunk hle hI
  intro σ' hσ'
  refine wp_pure (hσ' ▸ hI) ?_
  rw [data2string_of_length_pos (by rw [(platform.md5 _).property, md5DigestLength]; decide)]
  exact hpass data hdata hlength σ' hσ'

/-- The text of the digest file that belongs to `data`. -/
def digestText (platform : Platform) (secret : CString) (data : Bytes) : CString :=
  hexDigits (platform.md5 (data ++ secret)).val

theorem length_digestText (platform : Platform) (secret : CString) (data : Bytes) :
    (digestText platform secret data).length = md5DigestLengthAscii := by
  rw [digestText, length_hexDigits, (platform.md5 _).property, md5DigestLengthAscii]

theorem digestText_injective {data other : Bytes}
    (h : digestText platform secret data = digestText platform secret other) :
    platform.md5 (data ++ secret) = platform.md5 (other ++ secret) :=
  Subtype.ext (hexDigits_injective h)

/-- The data file holds `data`, of the right size, and the digest file is the one that belongs to
them: what the claims of this development call a valid pair. -/
structure PairHolds (platform : Platform) (secret : CString) (size : Nat) (path md5Path : Path)
    (fs : FileSystem) (data : Bytes) : Prop where
  data_eq : fs path = some data
  length_eq : data.length = size
  digest_eq : fs md5Path = some (digestText platform secret data)

theorem PairHolds.hasSize {fs : FileSystem} {data : Bytes}
    (h : PairHolds platform secret size path md5Path fs data) : HasSize fs path size :=
  ⟨data, h.data_eq, h.length_eq⟩

theorem PairHolds.unique {fs : FileSystem} {data other : Bytes}
    (h : PairHolds platform secret size path md5Path fs data)
    (h' : PairHolds platform secret size path md5Path fs other) : data = other :=
  Option.some.inj (h.data_eq.symm.trans h'.data_eq)

/-- Whether a pair is valid only depends on its two files. -/
theorem PairHolds.congr {fs fs' : FileSystem} {data : Bytes}
    (h : PairHolds platform secret size path md5Path fs data) (hpath : fs' path = fs path)
    (hmd5 : fs' md5Path = fs md5Path) : PairHolds platform secret size path md5Path fs' data :=
  ⟨hpath.trans h.data_eq, h.length_eq, hmd5.trans h.digest_eq⟩

/-- A digest check passes exactly on a valid pair. -/
theorem wp_nvDataDigestCheck {Q : Int → Kernel → Prop} (hchunk : 0 < chunkSize)
    (hle : chunkSize ≤ size) (hI : I σ.files)
    (hpass : ∀ data, PairHolds platform secret size path md5Path σ.files data →
      ∀ σ', σ'.files = σ.files → Q 0 σ')
    (hfail : (¬∃ data, PairHolds platform secret size path md5Path σ.files data) →
      ∀ σ', σ'.files = σ.files → Q (-1) σ') :
    wp I (nvDataDigestCheck platform (some path) (some md5Path) (some secret) size chunkSize
      (nvDataSizeCheck (some path) size) (nvDataSizeCheck (some md5Path) md5DigestLengthAscii))
      Q σ := by
  rw [nvDataDigestCheck, if_neg (by omega)]
  apply wp_bind
  apply wp_nvDataSizeCheck (by omega) hI
  swap
  · intro hno σ₁ hσ₁
    rw [if_pos (by decide)]
    exact wp_pure (hσ₁ ▸ hI) (hfail (fun ⟨_, h⟩ => hno h.hasSize) σ₁ hσ₁)
  intro _ σ₁ hσ₁
  rw [if_neg (by decide)]
  apply wp_bind
  apply wp_nvDataSizeCheck (by decide) (hσ₁ ▸ hI)
  swap
  · intro hno σ₂ hσ₂
    have hfiles : σ₂.files = σ.files := hσ₂.trans hσ₁
    rw [if_pos (by decide)]
    refine wp_pure (hfiles ▸ hI) (hfail ?_ σ₂ hfiles)
    rintro ⟨data, h⟩
    exact hno ⟨_, hσ₁ ▸ h.digest_eq, length_digestText ..⟩
  rintro ⟨buffer, hbuffer, hlength⟩ σ₂ hσ₂
  have hfiles₂ : σ₂.files = σ.files := hσ₂.trans hσ₁
  rw [hσ₁] at hbuffer
  rw [if_neg (by decide)]
  apply wp_bind
  apply wp_ipcNvDataMd5Calculate hchunk hle (hfiles₂ ▸ hI)
  swap
  · intro hno σ₃ hσ₃
    have hfiles₃ : σ₃.files = σ.files := hσ₃.trans hfiles₂
    refine wp_pure (hfiles₃ ▸ hI) (hfail ?_ σ₃ hfiles₃)
    rintro ⟨data, h⟩
    exact hno (hfiles₂ ▸ h.hasSize)
  intro data hdata hsize σ₃ hσ₃
  have hfiles₃ : σ₃.files = σ.files := hσ₃.trans hfiles₂
  show wp I (fileDataRead platform.abi (some md5Path) (digestText platform secret data).length
    (digestText platform secret data).length 0 >>= _) Q σ₃
  have hpos : 0 < (digestText platform secret data).length := by
    rw [length_digestText]
    decide
  have hbufferLength : buffer.length = (digestText platform secret data).length := by
    rw [hlength, length_digestText]
  apply wp_bind
  apply wp_fileDataRead_whole (hfiles₃ ▸ hbuffer) hbufferLength hpos le_rfl (hfiles₃ ▸ hI)
  intro σ₄ hσ₄
  have hfiles₄ : σ₄.files = σ.files := hσ₄.trans hfiles₃
  have hmatch := strncmp_strndup_iff (digestText platform secret data) buffer ne_zero_of_mem_hexDigits
    hbufferLength
  dsimp only
  split
  · rename_i hne
    refine wp_pure (hfiles₄ ▸ hI) (hfail ?_ σ₄ hfiles₄)
    rintro ⟨other, h⟩
    have heq : other = data := Option.some.inj (h.data_eq.symm.trans (hfiles₂ ▸ hdata))
    exact hne (hmatch.mpr (Option.some.inj (hbuffer.symm.trans (heq ▸ h.digest_eq))))
  · rename_i heq
    have hdigest : buffer = digestText platform secret data := hmatch.mp (not_not.mp heq)
    exact wp_pure (hfiles₄ ▸ hI) (hpass data ⟨hfiles₂ ▸ hdata, hsize, hdigest ▸ hbuffer⟩ σ₄ hfiles₄)

/-! ### Replacing files -/

/-- The disks that removing a file and writing it anew can leave behind. -/
inductive FileCut (fs : FileSystem) (path : Path) (content : Bytes) : FileSystem → Prop where
  | removed : FileCut fs path content (fs.remove path)
  | part (k : Nat) : FileCut fs path content (fs.put path (content.take k))

/-- The disks that replacing a data file and then its digest file can leave behind. -/
inductive PairCut (fs : FileSystem) (path md5Path : Path) (data digest : Bytes) :
    FileSystem → Prop where
  | data {fs' : FileSystem} (h : FileCut fs path data fs') : PairCut fs path md5Path data digest fs'
  | digest {fs' : FileSystem} (h : FileCut (fs.put path data) md5Path digest fs') :
      PairCut fs path md5Path data digest fs'

theorem FileCut.whole {fs : FileSystem} {content : Bytes} :
    FileCut fs path content (fs.put path content) := by
  have hpart : FileCut fs path content _ := .part content.length
  rwa [List.take_length] at hpart

/-- A file that was just removed is written anew. -/
theorem wp_fileDataWrite_new {Q : Except Errno Unit → Kernel → Prop} {content : Bytes}
    {fs : FileSystem} (hchunk : 0 < chunkSize) (hle : chunkSize ≤ content.length)
    (hfiles : σ.files = fs.remove path) (hcut : ∀ fs', FileCut fs path content fs' → I fs')
    (hQ : ∀ σ', σ'.files = fs.put path content → Q (.ok ()) σ') :
    wp I (fileDataWrite platform.abi (some path) (some content) chunkSize 0) Q σ := by
  have hwrite : ∀ bytes, σ.files.write path (platform.abi.seekPosition 0) bytes =
      fs.put path bytes := by
    intro bytes
    rw [Abi.seekPosition_zero, FileSystem.write, hfiles, FileSystem.remove_self, Option.getD_none,
      splice_empty]
    exact Function.update_idem ..
  apply wp_fileDataWrite hchunk hle (hfiles ▸ hcut _ .removed)
  · intro k _
    rw [hwrite]
    exact hcut _ (.part k)
  · rwa [hwrite]

/-- `unlink` and `file_data_write`: the file is replaced. -/
theorem wp_replace {α : Type} {Q : α → Kernel → Prop} {content : Bytes}
    {rest : Except Errno Unit → Sys α} (hchunk : 0 < chunkSize) (hle : chunkSize ≤ content.length)
    (hI : I σ.files) (hcut : ∀ fs', FileCut σ.files path content fs' → I fs')
    (hrest : ∀ σ', σ'.files = σ.files.put path content → wp I (rest (.ok ())) Q σ') :
    wp I (unlink path >>= fun _ =>
      fileDataWrite platform.abi (some path) (some content) chunkSize 0 >>= rest)
      Q σ := by
  apply wp_bind
  apply wp_unlink hI (hcut _ .removed)
  intro _ σ₁ hσ₁ _
  apply wp_bind
  exact wp_fileDataWrite_new hchunk hle hσ₁ hcut hrest

/-- The end of a write: the digest file is replaced, if there is one. -/
theorem wp_renewDigest {Q : Int → Kernel → Prop} {md5Path : Path} {digest : CString}
    (hpos : 0 < digest.length) (hI : I σ.files)
    (hcut : ∀ fs', FileCut σ.files md5Path digest fs' → I fs')
    (hnodigest : σ.files md5Path = none → ∀ σ', σ'.files = σ.files → Q (-1) σ')
    (hpass : ∀ σ', σ'.files = σ.files.put md5Path digest → Q 0 σ') :
    wp I (do
      match ← unlink md5Path with
      | .error _ => pure (-1)
      | .ok _ => do
          match ← fileDataWrite platform.abi (some md5Path) (some digest) digest.length 0 with
          | .error _ => pure (-1)
          | .ok _ => pure 0) Q σ := by
  apply wp_bind
  apply wp_unlink hI (hcut _ .removed)
  intro answer σ₁ hσ₁ hanswer
  cases answer with
  | error errno =>
      have hnone : σ.files md5Path = none := hanswer.resolve_left nofun
      have hsame : σ₁.files = σ.files := hσ₁.trans (FileSystem.remove_of_eq hnone)
      exact wp_pure (hsame ▸ hI) (hnodigest hnone σ₁ hsame)
  | ok _ =>
      apply wp_bind
      apply wp_fileDataWrite_new hpos le_rfl hσ₁ hcut
      exact fun σ₂ hσ₂ => wp_pure (hσ₂ ▸ hcut _ .whole) (hpass σ₂ hσ₂)

/-! ### The functions of a client with complete settings -/

namespace NvConfig

variable (cfg : NvConfig)

theorem size_pos : 0 < cfg.size := lt_of_lt_of_le cfg.chunkSize_pos cfg.chunkSize_le

/-- The arguments a function tests for `0` are not. -/
theorem settings_ok : ¬(cfg.size = 0 ∨ cfg.chunkSize = 0) := by
  have hsize := cfg.size_pos
  have hchunk := cfg.chunkSize_pos
  omega

theorem distinct : cfg.path ≠ cfg.md5Path ∧ cfg.path ≠ cfg.backupPath ∧
    cfg.path ≠ cfg.backupMd5Path ∧ cfg.md5Path ≠ cfg.backupPath ∧
    cfg.md5Path ≠ cfg.backupMd5Path ∧ cfg.backupPath ≠ cfg.backupMd5Path := by
  have h := cfg.paths_distinct
  simp only [List.nodup_cons, List.mem_cons, List.not_mem_nil, or_false, not_or] at h
  tauto

variable (platform)

/-- The digest file that belongs to `data`. -/
def digest (data : Bytes) : CString := digestText platform cfg.secret data

/-- The primary pair is valid and holds `data`. -/
def PrimaryHolds (fs : FileSystem) (data : Bytes) : Prop :=
  PairHolds platform cfg.secret cfg.size cfg.path cfg.md5Path fs data

/-- The backup pair is valid and holds `data`. -/
def BackupHolds (fs : FileSystem) (data : Bytes) : Prop :=
  PairHolds platform cfg.secret cfg.size cfg.backupPath cfg.backupMd5Path fs data

def PrimaryValid (fs : FileSystem) : Prop := ∃ data, cfg.PrimaryHolds platform fs data

def BackupValid (fs : FileSystem) : Prop := ∃ data, cfg.BackupHolds platform fs data

/-- The disk once the backup has been made from the primary data `data`. -/
def backedUp (fs : FileSystem) (data : Bytes) : FileSystem :=
  (fs.put cfg.backupPath data).put cfg.backupMd5Path (cfg.digest platform data)

/-- The disk once the primary data have been restored from the backup data `data`. -/
def restored (fs : FileSystem) (data : Bytes) : FileSystem :=
  (fs.put cfg.path data).put cfg.md5Path (cfg.digest platform data)

end NvConfig

variable {cfg : NvConfig}

theorem length_digest (data : Bytes) : (cfg.digest platform data).length = md5DigestLengthAscii :=
  length_digestText ..

theorem length_digest_pos (data : Bytes) : 0 < (cfg.digest platform data).length := by
  rw [length_digest]
  decide

theorem wp_ipcNvDataPathCheck {Q : Int → Kernel → Prop} (hI : I σ.files)
    (hpass : HasSize σ.files cfg.path cfg.size → ∀ σ', σ'.files = σ.files → Q 0 σ')
    (hfail : ¬HasSize σ.files cfg.path cfg.size → ∀ σ', σ'.files = σ.files → Q (-1) σ') :
    wp I (ipcNvDataPathCheck cfg.client) Q σ :=
  wp_nvDataSizeCheck cfg.size_pos.ne' hI hpass hfail

theorem wp_ipcNvDataBackupPathCheck {Q : Int → Kernel → Prop} (hI : I σ.files)
    (hpass : HasSize σ.files cfg.backupPath cfg.size → ∀ σ', σ'.files = σ.files → Q 0 σ')
    (hfail : ¬HasSize σ.files cfg.backupPath cfg.size → ∀ σ', σ'.files = σ.files → Q (-1) σ') :
    wp I (ipcNvDataBackupPathCheck cfg.client) Q σ :=
  wp_nvDataSizeCheck cfg.size_pos.ne' hI hpass hfail

theorem wp_ipcNvDataCheck {Q : Int → Kernel → Prop} (hI : I σ.files)
    (hpass : ∀ data, cfg.PrimaryHolds platform σ.files data → ∀ σ', σ'.files = σ.files → Q 0 σ')
    (hfail : ¬cfg.PrimaryValid platform σ.files → ∀ σ', σ'.files = σ.files → Q (-1) σ') :
    wp I (ipcNvDataCheck platform cfg.client) Q σ :=
  wp_nvDataDigestCheck cfg.chunkSize_pos cfg.chunkSize_le hI hpass hfail

theorem wp_ipcNvDataBackupCheck {Q : Int → Kernel → Prop} (hI : I σ.files)
    (hpass : ∀ data, cfg.BackupHolds platform σ.files data → ∀ σ', σ'.files = σ.files → Q 0 σ')
    (hfail : ¬cfg.BackupValid platform σ.files → ∀ σ', σ'.files = σ.files → Q (-1) σ') :
    wp I (ipcNvDataBackupCheck platform cfg.client) Q σ :=
  wp_nvDataDigestCheck cfg.chunkSize_pos cfg.chunkSize_le hI hpass hfail

/-- The check of the primary pair passes exactly when the pair is valid. -/
theorem passes_ipcNvDataCheck_iff :
    (ipcNvDataCheck platform cfg.client).Passes σ ↔ cfg.PrimaryValid platform σ.files := by
  apply passes_iff
  apply wp_ipcNvDataCheck trivial
  · exact fun data hdata _ _ => iff_of_true rfl ⟨data, hdata⟩
  · exact fun hno _ _ => iff_of_false (by decide) hno

theorem passes_ipcNvDataBackupCheck_iff :
    (ipcNvDataBackupCheck platform cfg.client).Passes σ ↔ cfg.BackupValid platform σ.files := by
  apply passes_iff
  apply wp_ipcNvDataBackupCheck trivial
  · exact fun data hdata _ _ => iff_of_true rfl ⟨data, hdata⟩
  · exact fun hno _ _ => iff_of_false (by decide) hno

/-- A backup needs data of the right size, and replaces the backup pair by their copy. -/
theorem wp_ipcNvDataBackup {Q : Int → Kernel → Prop} (hI : I σ.files)
    (hfail : ¬HasSize σ.files cfg.path cfg.size → ∀ σ', σ'.files = σ.files → Q (-1) σ')
    (hcut : ∀ data, σ.files cfg.path = some data → data.length = cfg.size → ∀ fs',
      PairCut σ.files cfg.backupPath cfg.backupMd5Path data (cfg.digest platform data) fs' → I fs')
    (hpass : ∀ data, σ.files cfg.path = some data → data.length = cfg.size →
      ∀ σ', σ'.files = cfg.backedUp platform σ.files data → Q 0 σ') :
    wp I (ipcNvDataBackup platform cfg.client) Q σ := by
  show wp I (if cfg.size = 0 ∨ cfg.chunkSize = 0 then pure (-1)
    else ipcNvDataPathCheck cfg.client >>= _) Q σ
  rw [if_neg cfg.settings_ok]
  apply wp_bind
  apply wp_ipcNvDataPathCheck hI
  swap
  · intro hno σ₁ hσ₁
    rw [if_pos (by decide)]
    exact wp_pure (hσ₁ ▸ hI) (hfail hno σ₁ hσ₁)
  rintro ⟨data, hdata, hlength⟩ σ₁ hσ₁
  rw [if_neg (by decide)]
  apply wp_bind
  apply wp_fileDataRead_whole (hσ₁ ▸ hdata) hlength cfg.chunkSize_pos cfg.chunkSize_le (hσ₁ ▸ hI)
  intro σ₂ hσ₂
  have hfiles₂ : σ₂.files = σ.files := hσ₂.trans hσ₁
  apply wp_bind
  apply wp_ipcNvDataMd5Calculate cfg.chunkSize_pos cfg.chunkSize_le (hfiles₂ ▸ hI)
  swap
  · intro hno
    exact absurd ⟨data, hfiles₂ ▸ hdata, hlength⟩ hno
  intro other hother _ σ₃ hσ₃
  obtain rfl : data = other := Option.some.inj (hdata.symm.trans (hfiles₂ ▸ hother))
  have hfiles₃ : σ₃.files = σ.files := hσ₃.trans hfiles₂
  have hcuts := hcut data hdata hlength
  show wp I (unlink cfg.backupPath >>= fun _ =>
    fileDataWrite platform.abi (some cfg.backupPath) (some data) cfg.chunkSize 0 >>= _) Q σ₃
  apply wp_replace cfg.chunkSize_pos (hlength ▸ cfg.chunkSize_le) (hfiles₃ ▸ hI)
  · rw [hfiles₃]
    exact fun fs' hfs' => hcuts fs' (.data hfs')
  intro σ₄ hσ₄
  rw [hfiles₃] at hσ₄
  have hI₄ : I σ₄.files := hσ₄ ▸ hcuts _ (.data .whole)
  show wp I (unlink cfg.backupMd5Path >>= fun _ =>
    fileDataWrite platform.abi (some cfg.backupMd5Path) (some (cfg.digest platform data))
      (cfg.digest platform data).length 0 >>= _) Q σ₄
  apply wp_replace (length_digest_pos data) le_rfl hI₄
  · rw [hσ₄]
    exact fun fs' hfs' => hcuts fs' (.digest hfs')
  intro σ₅ hσ₅
  rw [hσ₄] at hσ₅
  exact wp_pure (hσ₅ ▸ hcuts _ (.digest .whole)) (hpass data hdata hlength σ₅ hσ₅)

/-- A restore needs a valid backup, and replaces the primary pair by its copy. -/
theorem wp_ipcNvDataRestore {Q : Int → Kernel → Prop} (hI : I σ.files)
    (hfail : ¬cfg.BackupValid platform σ.files → ∀ σ', σ'.files = σ.files → Q (-1) σ')
    (hcut : ∀ data, cfg.BackupHolds platform σ.files data → ∀ fs',
      PairCut σ.files cfg.path cfg.md5Path data (cfg.digest platform data) fs' → I fs')
    (hpass : ∀ data, cfg.BackupHolds platform σ.files data →
      ∀ σ', σ'.files = cfg.restored platform σ.files data → Q 0 σ') :
    wp I (ipcNvDataRestore platform cfg.client) Q σ := by
  show wp I (if cfg.size = 0 ∨ cfg.chunkSize = 0 then pure (-1)
    else ipcNvDataBackupCheck platform cfg.client >>= _) Q σ
  rw [if_neg cfg.settings_ok]
  apply wp_bind
  apply wp_ipcNvDataBackupCheck hI
  swap
  · intro hno σ₁ hσ₁
    rw [if_pos (by decide)]
    exact wp_pure (hσ₁ ▸ hI) (hfail hno σ₁ hσ₁)
  intro data hdata σ₁ hσ₁
  rw [if_neg (by decide)]
  have hcuts := hcut data hdata
  apply wp_bind
  apply wp_fileDataRead_whole (hσ₁ ▸ hdata.data_eq) hdata.length_eq cfg.chunkSize_pos
    cfg.chunkSize_le (hσ₁ ▸ hI)
  intro σ₂ hσ₂
  have hfiles₂ : σ₂.files = σ.files := hσ₂.trans hσ₁
  show wp I (unlink cfg.path >>= fun _ => fileDataWrite platform.abi (some cfg.path) (some data)
    cfg.chunkSize 0 >>= _) Q σ₂
  apply wp_replace cfg.chunkSize_pos (hdata.length_eq ▸ cfg.chunkSize_le) (hfiles₂ ▸ hI)
  · rw [hfiles₂]
    exact fun fs' hfs' => hcuts fs' (.data hfs')
  intro σ₃ hσ₃
  rw [hfiles₂] at hσ₃
  have hI₃ : I σ₃.files := hσ₃ ▸ hcuts _ (.data .whole)
  have hbackupMd5 : σ₃.files cfg.backupMd5Path = some (cfg.digest platform data) := by
    rw [hσ₃, FileSystem.put_of_ne cfg.distinct.2.2.1.symm]
    exact hdata.digest_eq
  apply wp_bind
  apply wp_fileDataRead_whole hbackupMd5 (length_digest data) (by decide) le_rfl hI₃
  intro σ₄ hσ₄
  have hfiles₄ : σ₄.files = σ.files.put cfg.path data := hσ₄.trans hσ₃
  show wp I (unlink cfg.md5Path >>= fun _ => fileDataWrite platform.abi (some cfg.md5Path)
    (some (cfg.digest platform data)) md5DigestLengthAscii 0 >>= _) Q σ₄
  apply wp_replace (by decide) (length_digest data).ge (hσ₄ ▸ hI₃)
  · rw [hfiles₄]
    exact fun fs' hfs' => hcuts fs' (.digest hfs')
  intro σ₅ hσ₅
  rw [hfiles₄] at hσ₅
  exact wp_pure (hσ₅ ▸ hcuts _ (.digest .whole)) (hpass data hdata σ₅ hσ₅)

/-! ### Loading -/

theorem NvConfig.BackupHolds.restored_primary {fs : FileSystem} {data : Bytes}
    (h : cfg.BackupHolds platform fs data) :
    cfg.PrimaryHolds platform (cfg.restored platform fs data) data := by
  refine ⟨?_, h.length_eq, FileSystem.put_self _ _ _⟩
  rw [NvConfig.restored, FileSystem.put_of_ne cfg.distinct.1, FileSystem.put_self]

theorem NvConfig.BackupHolds.restored_backup {fs : FileSystem} {data : Bytes}
    (h : cfg.BackupHolds platform fs data) (other : Bytes) :
    cfg.BackupHolds platform (cfg.restored platform fs other) data := by
  obtain ⟨-, hpb, hpbm, hmb, hmbm, -⟩ := cfg.distinct
  refine PairHolds.congr h ?_ ?_
  · exact FileSystem.put_put_of_ne hpb.symm hmb.symm ..
  · exact FileSystem.put_put_of_ne hpbm.symm hmbm.symm ..

theorem NvConfig.backedUp_backup (fs : FileSystem) {data : Bytes} (hlength : data.length = cfg.size) :
    cfg.BackupHolds platform (cfg.backedUp platform fs data) data := by
  refine ⟨?_, hlength, FileSystem.put_self _ _ _⟩
  rw [NvConfig.backedUp, FileSystem.put_of_ne cfg.distinct.2.2.2.2.2, FileSystem.put_self]

theorem NvConfig.PrimaryHolds.backedUp_primary {fs : FileSystem} {data : Bytes}
    (h : cfg.PrimaryHolds platform fs data) (other : Bytes) :
    cfg.PrimaryHolds platform (cfg.backedUp platform fs other) data := by
  obtain ⟨-, hpb, hpbm, hmb, hmbm, -⟩ := cfg.distinct
  refine PairHolds.congr h ?_ ?_
  · exact FileSystem.put_put_of_ne hpb hpbm ..
  · exact FileSystem.put_put_of_ne hmb hmbm ..

/-- With valid primary data at hand, a load only makes a backup if there is none of the right size;
it does not ask whether the backup is valid. -/
theorem wp_ipcNvDataLoadChecked {Q : Option Bytes → Kernel → Prop} {data : Bytes}
    (hdata : cfg.PrimaryHolds platform σ.files data) (hI : I σ.files)
    (hkeep : HasSize σ.files cfg.backupPath cfg.size → ∀ σ', σ'.files = σ.files → Q (some data) σ')
    (hcut : ¬HasSize σ.files cfg.backupPath cfg.size → ∀ fs',
      PairCut σ.files cfg.backupPath cfg.backupMd5Path data (cfg.digest platform data) fs' → I fs')
    (hbackup : ¬HasSize σ.files cfg.backupPath cfg.size →
      ∀ σ', σ'.files = cfg.backedUp platform σ.files data → Q (some data) σ') :
    wp I (ipcNvDataLoadChecked platform cfg.client cfg.path) Q σ := by
  rw [ipcNvDataLoadChecked]
  apply wp_bind
  apply wp_ipcNvDataBackupPathCheck hI
  · intro hsize σ₁ hσ₁
    rw [if_neg (by decide)]
    apply wp_fileDataRead_whole (hσ₁ ▸ hdata.data_eq) hdata.length_eq cfg.chunkSize_pos
      cfg.chunkSize_le (hσ₁ ▸ hI)
    exact fun σ₂ hσ₂ => hkeep hsize σ₂ (hσ₂.trans hσ₁)
  · intro hno σ₁ hσ₁
    rw [if_pos (by decide)]
    apply wp_bind
    apply wp_ipcNvDataBackup (hσ₁ ▸ hI)
    · intro hno'
      exact absurd (hσ₁ ▸ hdata.hasSize) hno'
    · intro other hother _
      obtain rfl : data = other := Option.some.inj (hdata.data_eq.symm.trans (hσ₁ ▸ hother))
      rw [hσ₁]
      exact hcut hno
    · intro other hother _ σ₂ hσ₂
      obtain rfl : data = other := Option.some.inj (hdata.data_eq.symm.trans (hσ₁ ▸ hother))
      rw [hσ₁] at hσ₂
      have hI₂ : I σ₂.files := hσ₂ ▸ hcut hno _ (.digest .whole)
      have hprimary := hσ₂ ▸ hdata.backedUp_primary data
      apply wp_fileDataRead_whole hprimary.data_eq hprimary.length_eq cfg.chunkSize_pos
        cfg.chunkSize_le hI₂
      exact fun σ₃ hσ₃ => hbackup hno σ₃ (hσ₃.trans hσ₂)

/-- The four ways a load can go. -/
theorem wp_ipcNvDataLoad {Q : Option Bytes → Kernel → Prop} (hI : I σ.files)
    (hnull : ¬cfg.PrimaryValid platform σ.files → ¬cfg.BackupValid platform σ.files →
      ∀ σ', σ'.files = σ.files → Q none σ')
    (hkeep : ∀ data, cfg.PrimaryHolds platform σ.files data → HasSize σ.files cfg.backupPath cfg.size →
      ∀ σ', σ'.files = σ.files → Q (some data) σ')
    (hcutBackup : ∀ data, cfg.PrimaryHolds platform σ.files data →
      ¬HasSize σ.files cfg.backupPath cfg.size → ∀ fs',
      PairCut σ.files cfg.backupPath cfg.backupMd5Path data (cfg.digest platform data) fs' → I fs')
    (hbackup : ∀ data, cfg.PrimaryHolds platform σ.files data →
      ¬HasSize σ.files cfg.backupPath cfg.size →
      ∀ σ', σ'.files = cfg.backedUp platform σ.files data → Q (some data) σ')
    (hcutRestore : ∀ data, ¬cfg.PrimaryValid platform σ.files → cfg.BackupHolds platform σ.files data →
      ∀ fs', PairCut σ.files cfg.path cfg.md5Path data (cfg.digest platform data) fs' → I fs')
    (hrestore : ∀ data, ¬cfg.PrimaryValid platform σ.files → cfg.BackupHolds platform σ.files data →
      ∀ σ', σ'.files = cfg.restored platform σ.files data → Q (some data) σ') :
    wp I (ipcNvDataLoad platform cfg.client) Q σ := by
  show wp I (if cfg.size = 0 ∨ cfg.chunkSize = 0 then pure none
    else ipcNvDataCheck platform cfg.client >>= _) Q σ
  rw [if_neg cfg.settings_ok]
  apply wp_bind
  apply wp_ipcNvDataCheck hI
  · intro data hdata σ₁ hσ₁
    rw [if_neg (by decide)]
    apply wp_ipcNvDataLoadChecked (hσ₁ ▸ hdata) (hσ₁ ▸ hI)
    · rw [hσ₁]
      exact hkeep data hdata
    · rw [hσ₁]
      exact hcutBackup data hdata
    · rw [hσ₁]
      exact hbackup data hdata
  · intro hprimary σ₁ hσ₁
    rw [if_pos (by decide)]
    apply wp_bind
    apply wp_ipcNvDataRestore (hσ₁ ▸ hI)
    · intro hno σ₂ hσ₂
      rw [if_pos (by decide)]
      have hfiles₂ : σ₂.files = σ.files := hσ₂.trans hσ₁
      exact wp_pure (hfiles₂ ▸ hI) (hnull hprimary (hσ₁ ▸ hno) σ₂ hfiles₂)
    · rw [hσ₁]
      exact fun data hdata => hcutRestore data hprimary hdata
    · intro data hdata σ₂ hσ₂
      rw [hσ₁] at hdata hσ₂
      rw [if_neg (by decide)]
      have hI₂ : I σ₂.files := hσ₂ ▸ hcutRestore data hprimary hdata _ (.digest .whole)
      have hrestored : cfg.PrimaryHolds platform σ₂.files data := hσ₂ ▸ hdata.restored_primary
      have hsize : HasSize σ₂.files cfg.backupPath cfg.size :=
        hσ₂ ▸ (hdata.restored_backup data).hasSize
      apply wp_bind
      apply wp_ipcNvDataCheck hI₂
      swap
      · intro hno
        exact absurd ⟨data, hrestored⟩ hno
      intro _ _ σ₃ hσ₃
      rw [if_neg (by decide)]
      apply wp_ipcNvDataLoadChecked (hσ₃ ▸ hrestored) (hσ₃ ▸ hI₂)
      · exact fun _ σ₄ hσ₄ => hrestore data hprimary hdata σ₄ (hσ₄.trans (hσ₃.trans hσ₂))
      · exact fun hno => absurd (hσ₃ ▸ hsize) hno
      · exact fun hno => absurd (hσ₃ ▸ hsize) hno

/-! ### Reading and writing sections -/

theorem wp_ipcNvDataRead {Q : Option Bytes → Kernel → Prop} {offset : UInt32} (hI : I σ.files)
    (hfail : ¬HasSize σ.files cfg.path cfg.size → ∀ σ', σ'.files = σ.files → Q none σ')
    (hpass : ∀ data, σ.files cfg.path = some data → data.length = cfg.size →
      ∀ σ', σ'.files = σ.files →
        Q (if size = 0 then none else slice data (platform.abi.seekPosition offset) size) σ') :
    wp I (ipcNvDataRead platform cfg.client size offset) Q σ := by
  show wp I (if cfg.chunkSize = 0 then pure none else ipcNvDataPathCheck cfg.client >>= _) Q σ
  rw [if_neg cfg.chunkSize_pos.ne']
  apply wp_bind
  apply wp_ipcNvDataPathCheck hI
  · rintro ⟨data, hdata, hlength⟩ σ₁ hσ₁
    have hQ := hpass data hdata hlength
    rw [if_neg (by decide)]
    apply wp_fileDataRead (hσ₁ ▸ hI)
    intro σ₂ hσ₂
    have hguard : (size = 0 ∨ (if cfg.chunkSize > size then size else cfg.chunkSize) = 0 ∨
        (if cfg.chunkSize > size then size else cfg.chunkSize) > size) ↔ size = 0 := by
      have hpos := cfg.chunkSize_pos
      split <;> omega
    have hread : σ₁.files.read cfg.path (platform.abi.seekPosition offset) size =
        slice data (platform.abi.seekPosition offset) size := by
      rw [FileSystem.read, hσ₁, hdata, Option.bind_some]
    change Q (if size = 0 ∨ (if cfg.chunkSize > size then size else cfg.chunkSize) = 0 ∨
      (if cfg.chunkSize > size then size else cfg.chunkSize) > size then none else _) σ₂
    rw [hread]
    simp only [hguard]
    exact hQ σ₂ (hσ₂.trans hσ₁)
  · intro hno σ₁ hσ₁
    rw [if_pos (by decide)]
    exact wp_pure (hσ₁ ▸ hI) (hfail hno σ₁ hσ₁)

theorem wp_ipcNvDataWrite_refused {Q : Int → Kernel → Prop} {data : Option Bytes}
    {offset : UInt32} (hrefused : ¬HasSize σ.files cfg.path cfg.size ∨ data.getD [] = [])
    (hI : I σ.files) (hQ : ∀ σ', σ'.files = σ.files → Q (-1) σ') :
    wp I (ipcNvDataWrite platform cfg.client data offset) Q σ := by
  show wp I (if cfg.chunkSize = 0 then pure (-1) else ipcNvDataPathCheck cfg.client >>= _) Q σ
  rw [if_neg cfg.chunkSize_pos.ne']
  apply wp_bind
  apply wp_ipcNvDataPathCheck hI
  · intro hsize σ₁ hσ₁
    have hempty : data.getD [] = [] := hrefused.resolve_left (not_not.mpr hsize)
    rw [if_neg (by decide)]
    apply wp_bind
    exact wp_fileDataWrite_refused hempty (hσ₁ ▸ hI) (wp_pure (hσ₁ ▸ hI) (hQ σ₁ hσ₁))
  · intro _ σ₁ hσ₁
    rw [if_pos (by decide)]
    exact wp_pure (hσ₁ ▸ hI) (hQ σ₁ hσ₁)

/-- The disk once `bytes` have been written into the primary data and the digest has been renewed. -/
def NvConfig.written (platform : Platform) (cfg : NvConfig) (fs : FileSystem) (old : Bytes)
    (offset : Nat) (bytes : Bytes) : FileSystem :=
  (fs.put cfg.path (splice old offset bytes)).put cfg.md5Path
    (cfg.digest platform (splice old offset bytes))

/-- A write goes to the live data first. Only then it finds out whether they still have their
size, and whether there is a digest file to replace. -/
theorem wp_ipcNvDataWrite {Q : Int → Kernel → Prop} {old bytes : Bytes} {offset : UInt32}
    {position : Nat} (hposition : platform.abi.seekPosition offset = position)
    (hold : σ.files cfg.path = some old) (hlength : old.length = cfg.size) (hbytes : bytes ≠ [])
    (hI : I σ.files)
    (hcut : ∀ k, I (σ.files.put cfg.path (splice old position (bytes.take k))))
    (hcutDigest : position + bytes.length ≤ cfg.size → ∀ fs',
      FileCut (σ.files.put cfg.path (splice old position bytes)) cfg.md5Path
        (cfg.digest platform (splice old position bytes)) fs' → I fs')
    (houtside : ¬position + bytes.length ≤ cfg.size → ∀ σ',
      σ'.files = σ.files.put cfg.path (splice old position bytes) → Q (-1) σ')
    (hnodigest : σ.files cfg.md5Path = none → position + bytes.length ≤ cfg.size → ∀ σ',
      σ'.files = σ.files.put cfg.path (splice old position bytes) → Q (-1) σ')
    (hpass : position + bytes.length ≤ cfg.size → ∀ σ',
      σ'.files = cfg.written platform σ.files old position bytes → Q 0 σ') :
    wp I (ipcNvDataWrite platform cfg.client (some bytes) offset) Q σ := by
  have hnonempty : 0 < bytes.length := List.length_pos_iff.mpr hbytes
  have hwrite : ∀ part, σ.files.write cfg.path (platform.abi.seekPosition offset) part =
      σ.files.put cfg.path (splice old position part) := by
    intro part
    rw [hposition, FileSystem.write, hold, Option.getD_some]
  show wp I (if cfg.chunkSize = 0 then pure (-1) else ipcNvDataPathCheck cfg.client >>= _) Q σ
  rw [if_neg cfg.chunkSize_pos.ne']
  apply wp_bind
  apply wp_ipcNvDataPathCheck hI
  swap
  · intro hno
    exact absurd ⟨old, hold, hlength⟩ hno
  intro _ σ₁ hσ₁
  rw [if_neg (by decide)]
  show wp I (fileDataWrite platform.abi (some cfg.path) (some bytes)
    (if cfg.chunkSize > bytes.length then bytes.length else cfg.chunkSize) offset >>= _) Q σ₁
  have hchunk := cfg.chunkSize_pos
  apply wp_bind
  apply wp_fileDataWrite (by split <;> omega) (by split <;> omega) (hσ₁ ▸ hI)
  · intro k _
    rw [hσ₁, hwrite]
    exact hcut k
  intro σ₂ hσ₂
  rw [hσ₁, hwrite] at hσ₂
  have hI₂ : I σ₂.files := by
    have hwhole := hcut bytes.length
    rw [List.take_length] at hwhole
    exact hσ₂ ▸ hwhole
  have hnew : σ₂.files cfg.path = some (splice old position bytes) := by
    rw [hσ₂, FileSystem.put_self]
  have hnewLength := length_splice hbytes old position
  show wp I (if cfg.size = 0 then pure (-1) else
    ipcNvDataMd5Calculate platform cfg.path (some cfg.secret) cfg.size cfg.chunkSize >>= _) Q σ₂
  rw [if_neg cfg.size_pos.ne']
  apply wp_bind
  apply wp_ipcNvDataMd5Calculate cfg.chunkSize_pos cfg.chunkSize_le hI₂
  swap
  · intro hno σ₃ hσ₃
    have hover : ¬position + bytes.length ≤ cfg.size :=
      fun hle => hno ⟨_, hnew, by omega⟩
    exact wp_pure (hσ₃ ▸ hI₂) (houtside hover σ₃ (hσ₃.trans hσ₂))
  intro data hdata hsize σ₃ hσ₃
  obtain rfl : splice old position bytes = data := Option.some.inj (hnew.symm.trans hdata)
  have hle : position + bytes.length ≤ cfg.size := by omega
  have hfiles₃ := hσ₃.trans hσ₂
  apply wp_renewDigest (length_digest_pos (splice old position bytes)) (hσ₃ ▸ hI₂)
  · rw [hfiles₃]
    exact hcutDigest hle
  · intro hnone σ₄ hσ₄
    rw [hfiles₃, FileSystem.put_of_ne cfg.distinct.1.symm] at hnone
    exact hnodigest hnone hle σ₄ (hσ₄.trans hfiles₃)
  · intro σ₄ hσ₄
    rw [hfiles₃] at hσ₄
    exact hpass hle σ₄ hσ₄

end SamsungIpc
