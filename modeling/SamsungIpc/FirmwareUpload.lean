import SamsungIpc.DataTransfer
import SamsungIpc.HerolteBoot

/-! The upload of one blob of the firmware: which bytes of the image are sent with which offsets, and what
becomes of it where the image is truncated. -/

namespace SamsungIpc

open ByteSplice Effect Boot

/-! ### The entry -/

/-- The name of the entry, which ends with a NUL or with the field, is `name` as far as the field goes. -/
def FirmwareTocEntry.Named (name : CString) (entry : FirmwareTocEntry) : Prop :=
  strndup entry.name sizeofTocName = name.take sizeofTocName

instance (name : CString) (entry : FirmwareTocEntry) : Decidable (entry.Named name) :=
  inferInstanceAs (Decidable (_ = _))

/-- The first entry of this name that is before every entry with an empty one. -/
def tocEntry (name : CString) (toc : List FirmwareTocEntry) : Option FirmwareTocEntry :=
  (toc.takeWhile (·.name.headD 0 ≠ 0)).find? (·.Named name)

theorem strncmp_strndup_self_iff (name : CString) (entry : FirmwareTocEntry) :
    strncmp (strndup entry.name sizeofTocName) name sizeofTocName = 0 ↔ entry.Named name := by
  have hlength : (strndup entry.name sizeofTocName).length ≤ sizeofTocName :=
    (List.takeWhile_sublist _).length_le.trans (List.length_take_le ..)
  rw [strncmp_eq_zero_iff, List.take_of_length_le hlength, FirmwareTocEntry.Named]

theorem findTocEntry_eq (name : CString) (toc : List FirmwareTocEntry) :
    findTocEntry name toc = tocEntry name toc := by
  induction toc with
  | nil => rfl
  | cons entry toc ih =>
      rw [findTocEntry, tocEntry]
      by_cases hempty : entry.name.headD 0 = 0
      · rw [if_pos hempty, List.takeWhile_cons_of_neg (by simpa using hempty), List.find?_nil]
      · rw [if_neg hempty, List.takeWhile_cons_of_pos (by simpa using hempty), ih, tocEntry]
        by_cases hnamed : entry.Named name
        · rw [if_pos ((strncmp_strndup_self_iff name entry).mpr hnamed),
            List.find?_cons_of_pos (by simp [hnamed])]
        · rw [if_neg (mt (strncmp_strndup_self_iff name entry).mp hnamed),
            List.find?_cons_of_neg (by simp [hnamed])]

/-! ### The chunks -/

/-- What is sent of the buffer. -/
def ModemFirmwarePartitionData.payload (partition : ModemFirmwarePartitionData) : Bytes :=
  partition.binary.take partition.len

/-- The chunks carry the bytes between them, in order and without a gap, and each one says how many are
before it. -/
structure Uploads (bytes : Bytes) (mOffset bOffset : UInt32)
    (chunks : List ModemFirmwarePartitionData) : Prop where
  payloads : chunks.flatMap (·.payload) = bytes
  lengths : ∀ chunk ∈ chunks,
    1 ≤ chunk.len ∧ chunk.len ≤ maxChunkLen ∧ chunk.payload.length = chunk.len
  offsets : ∀ before chunk after, chunks = before ++ chunk :: after →
    chunk.mOffset = mOffset + UInt32.ofNat (before.flatMap (·.payload)).length ∧
      chunk.bOffset = bOffset + UInt32.ofNat (before.flatMap (·.payload)).length

namespace Uploads

theorem nil (mOffset bOffset : UInt32) : Uploads [] mOffset bOffset [] where
  payloads := rfl
  lengths := nofun
  offsets before chunk after hsplit := by simp at hsplit

theorem cons {bytes : Bytes} (chunk : ModemFirmwarePartitionData)
    {chunks : List ModemFirmwarePartitionData}
    (hlen : 1 ≤ chunk.len ∧ chunk.len ≤ maxChunkLen ∧ chunk.payload.length = chunk.len)
    (hchunks : Uploads bytes (chunk.mOffset + UInt32.ofNat chunk.len)
      (chunk.bOffset + UInt32.ofNat chunk.len) chunks) :
    Uploads (chunk.payload ++ bytes) chunk.mOffset chunk.bOffset (chunk :: chunks) where
  payloads := by rw [List.flatMap_cons, hchunks.payloads]
  lengths := by
    rintro other (_ | ⟨_, hother⟩)
    · exact hlen
    · exact hchunks.lengths other hother
  offsets := by
    rintro (_ | ⟨first, before⟩) other after hsplit
    · obtain ⟨rfl, -⟩ := List.cons.inj hsplit
      simp
    · obtain ⟨rfl, htail⟩ := List.cons.inj hsplit
      obtain ⟨hm, hb⟩ := hchunks.offsets before other after htail
      rw [hm, hb, List.flatMap_cons, List.length_append, hlen.2.2, UInt32.ofNat_add,
        UInt32.add_assoc, UInt32.add_assoc]
      exact ⟨rfl, rfl⟩

end Uploads

/-- The call does not fail, and it moves everything that fits into the buffer. -/
def BootChoice.Full (choice : BootChoice) : Prop := choice.Faultless ∧ maxChunkLen ≤ choice.count

namespace Boot

/-- A chunk is not empty, and is no longer than what is left or than its buffer. -/
theorem chunkLen_bounds {remaining len : Nat} (hremaining : 0 < remaining)
    (hlen : len = if remaining < maxChunkLen then remaining else maxChunkLen) :
    0 < len ∧ len ≤ remaining ∧ len ≤ maxChunkLen := by
  rw [hlen, maxChunkLen]
  split_ifs
  · omega
  · omega

section Full

variable {abi : Abi} {firmwareFd : Fd} {files : BootFiles} {len : Nat}

theorem wp_dataRead_full (hpos : 0 < len) (hlen : len ≤ maxChunkLen)
    (hleft : len ≤ (files.left firmwareFd).length) (fuel : Nat) (buffer : Bytes)
    {Q : Except BootExit (Except CallErrno Bytes) → BootFiles → Prop}
    (hQ : ∀ final, final.take len = (files.left firmwareFd).take len →
      Q (.ok (.ok final)) (files.seek firmwareFd (files.position firmwareFd + len))) :
    wp ((filesHandler abi).restrict BootChoice.Full) (fun _ => True)
      (dataRead (fuel + 2) firmwareFd buffer len).run Q files := by
  have htaken : ((files.left firmwareFd).take len).length = len := List.length_take_of_le hleft
  rw [dataRead, dataReadLoop_more (by omega), wp_call_bind]
  intro choice
  have htransfer : choice.val.transfer len = len := by
    have hcount := choice.property.2
    rw [BootChoice.transfer]
    omega
  rw [Handler.restrict, filesHandler_read choice.property.1, htransfer, htaken]
  dsimp only
  rw [dataReadLoop_done (by omega)]
  refine ⟨trivial, hQ _ ?_⟩
  have htake := take_splice_zero buffer ((files.left firmwareFd).take len)
  rwa [htaken] at htake

theorem wp_sendBoot (fuel : Nat) (deviceFd : Fd) (chunks : Nat) {remaining : Nat}
    (hchunks : remaining ≤ chunks) (hleft : remaining ≤ (files.left firmwareFd).length)
    (partition : ModemFirmwarePartitionData) :
    wp ((filesHandler abi).restrict BootChoice.Full) (fun _ => True)
      (sendBoot (fuel + 2) deviceFd firmwareFd chunks remaining partition).run
      (fun result files' => result = .ok 0 ∧ ∃ parts,
        files'.requests = files.requests ++ parts.map (fun part => (deviceFd, .dpramSendBoot part)) ∧
        Uploads ((files.left firmwareFd).take remaining) partition.mOffset partition.bOffset parts)
      files := by
  induction chunks generalizing remaining partition files with
  | zero =>
      obtain rfl := Nat.le_zero.mp hchunks
      exact ⟨trivial, rfl, [], (List.append_nil _).symm, Uploads.nil ..⟩
  | succ chunks ih =>
      by_cases hremaining : remaining > 0
      · rw [sendBoot, if_pos hremaining]
        obtain ⟨len, hlen⟩ : ∃ len, len = if remaining < maxChunkLen then remaining else maxChunkLen :=
          ⟨_, rfl⟩
        obtain ⟨hpos, hle, hbuffer⟩ := chunkLen_bounds hremaining hlen
        rw [← hlen]
        refine wp_except_bind.mpr (wp_dataRead_full hpos hbuffer (hle.trans hleft) fuel _ ?_)
        intro final hfinal
        dsimp only
        rw [wp_call_bind]
        intro choice
        rw [Handler.restrict, filesHandler_ioctl choice.property.1]
        dsimp only
        refine wp_mono (ih (by omega) ?_ _) ?_
        · rw [BootFiles.left_request, BootFiles.left_consume, List.length_drop]
          omega
        · rintro result files' ⟨hresult, parts, hrequests, hparts⟩
          refine ⟨hresult, { partition with binary := final, len := len } :: parts, ?_, ?_⟩
          · rw [hrequests, BootFiles.requests_request, List.append_assoc]
            rfl
          · have hpayload : final.take len = (files.left firmwareFd).take len := hfinal
            have hlength : (final.take len).length = len := by
              rw [hpayload, List.length_take_of_le (hle.trans hleft)]
            rw [BootFiles.left_request, BootFiles.left_consume] at hparts
            rw [show remaining = len + (remaining - len) by omega, List.take_add, ← hpayload]
            exact .cons { partition with binary := final, len := len } ⟨hpos, hbuffer, hlength⟩ hparts
      · obtain rfl := Nat.eq_zero_of_not_pos hremaining
        exact ⟨trivial, rfl, [], (List.append_nil _).symm, Uploads.nil ..⟩

end Full

/-- An upload that leaves before its first chunk has issued no ioctl, and its result is negative. -/
def Refuses (p : Boot (Int × Option UInt32)) (abi : Abi) (files : BootFiles) : Prop :=
  wp (filesHandler abi) (fun _ => True) p.run
    (fun result files' => (∃ rc size, result = .ok (rc, size) ∧ rc < 0) ∧
      files'.requests = files.requests) files

variable {abi : Abi} {files : BootFiles} {toc : List FirmwareTocEntry} {name : CString}

theorem uploadChunk_refuses_missing (fuel : Nat) (deviceFd firmwareFd : Fd)
    (hmissing : tocEntry (cString "BOOT") toc = none ∨ tocEntry name toc = none) :
    Refuses (uploadChunk fuel deviceFd firmwareFd toc name) abi files := by
  rw [Refuses, uploadChunk, wp_call_bind]
  intro _
  rw [filesHandler, findTocEntry_eq]
  cases hboot : tocEntry (cString "BOOT") toc with
  | none => exact ⟨trivial, ⟨-1, none, rfl, by decide⟩, rfl⟩
  | some boot =>
      have hname := hmissing.resolve_left (by simp [hboot])
      dsimp only
      rw [wp_call_bind]
      intro _
      rw [filesHandler, findTocEntry_eq, hname]
      exact ⟨trivial, ⟨-1, none, rfl, by decide⟩, rfl⟩

variable {boot entry : FirmwareTocEntry}

/-- With both entries found, the upload begins with the seek. -/
theorem uploadChunk_found (fuel : Nat) (deviceFd firmwareFd : Fd)
    (hboot : tocEntry (cString "BOOT") toc = some boot) (hentry : tocEntry name toc = some entry) :
    uploadChunk fuel deviceFd firmwareFd toc name = (do
      call (.test (.tocEntry (cString "BOOT")) true)
      call (.test (.tocEntry name) true)
      let sought ← call (.lseek firmwareFd entry.offset)
      match sought with
      | .error errno => pure (-errno.val, some entry.size)
      | .ok () => do
          let rc ← sendBoot fuel deviceFd firmwareFd entry.size.toNat entry.size.toNat {
            binary := List.replicate maxChunkLen 0
            size := entry.size
            mOffset := entry.loadaddr - boot.loadaddr
            bOffset := entry.offset
            mode := 0
            len := 0 }
          pure (rc, some entry.size)) := by
  rw [uploadChunk, findTocEntry_eq, findTocEntry_eq, hboot, hentry]
  rfl

/-- An offset that turns negative cannot be sought. -/
theorem uploadChunk_refuses_far (fuel : Nat) (deviceFd firmwareFd : Fd)
    (hboot : tocEntry (cString "BOOT") toc = some boot) (hentry : tocEntry name toc = some entry)
    (hfar : ¬abi.Reaches entry.offset) :
    Refuses (uploadChunk fuel deviceFd firmwareFd toc name) abi files := by
  rw [Refuses, uploadChunk_found fuel deviceFd firmwareFd hboot hentry, wp_call_bind]
  intro _
  rw [wp_call_bind]
  intro _
  rw [wp_call_bind]
  intro choice
  rw [filesHandler]
  cases herrno : choice.errno with
  | some errno =>
      exact ⟨trivial, ⟨-errno.val, some entry.size, rfl, Int.neg_neg_of_pos errno.property⟩, rfl⟩
  | none =>
      dsimp only
      rw [if_pos (Abi.offT_neg_iff.mpr hfar)]
      exact ⟨trivial, ⟨-EINVAL, some entry.size, rfl, by decide⟩, rfl⟩

theorem wp_uploadChunk_full (fuel : Nat) (deviceFd firmwareFd : Fd)
    (hboot : tocEntry (cString "BOOT") toc = some boot) (hentry : tocEntry name toc = some entry)
    (hreaches : abi.Reaches entry.offset)
    (hcontent : entry.offset.toNat + entry.size.toNat ≤ (files.content firmwareFd).length) :
    wp ((filesHandler abi).restrict BootChoice.Full) (fun _ => True)
      (uploadChunk (fuel + 2) deviceFd firmwareFd toc name).run
      (fun result files' => result = .ok (0, some entry.size) ∧ ∃ parts,
        files'.requests = files.requests ++ parts.map (fun part => (deviceFd, .dpramSendBoot part)) ∧
        Uploads (((files.content firmwareFd).drop entry.offset.toNat).take entry.size.toNat)
          (entry.loadaddr - boot.loadaddr) entry.offset parts) files := by
  rw [uploadChunk_found (fuel + 2) deviceFd firmwareFd hboot hentry, wp_call_bind]
  intro _
  rw [wp_call_bind]
  intro _
  rw [wp_call_bind]
  intro choice
  have hseek : ¬abi.offT entry.offset < 0 := fun h => Abi.offT_neg_iff.mp h hreaches
  rw [Handler.restrict, Handler.restrict, Handler.restrict, filesHandler, filesHandler, filesHandler,
    choice.property.1]
  dsimp only
  rw [if_neg hseek, Abi.seekPosition_of_reaches hreaches]
  dsimp only
  refine wp_except_bind.mpr (wp_mono (wp_sendBoot fuel deviceFd _ le_rfl ?_ _) ?_)
  · rw [BootFiles.left_seek, List.length_drop]
    omega
  · rintro result files' ⟨rfl, parts, hrequests, hparts⟩
    rw [BootFiles.left_seek] at hparts
    exact ⟨trivial, rfl, parts, hrequests, hparts⟩

end Boot

/-! ### The upload of an image that is there -/

/-- A missing entry is refused; an entry that can be sought is sent in chunks that cover it; on a 32-bit
`off_t` an entry behind 2 GiB is refused too. -/
theorem uploadChunk_covers (abi : Abi) {fuel : Nat} (hfuel : 2 ≤ fuel) (deviceFd firmwareFd : Fd)
    (toc : List FirmwareTocEntry) (name : CString) (files : BootFiles) :
    (tocEntry (cString "BOOT") toc = none ∨ tocEntry name toc = none →
      Refuses (uploadChunk fuel deviceFd firmwareFd toc name) abi files) ∧
    ∀ boot entry, tocEntry (cString "BOOT") toc = some boot → tocEntry name toc = some entry →
      (¬abi.Reaches entry.offset →
        Refuses (uploadChunk fuel deviceFd firmwareFd toc name) abi files) ∧
      (abi.Reaches entry.offset →
        entry.offset.toNat + entry.size.toNat ≤ (files.content firmwareFd).length →
        ∀ choices : Stream' { choice : BootChoice // choice.Full },
          let run := exec ((filesHandler abi).restrict BootChoice.Full)
            (uploadChunk fuel deviceFd firmwareFd toc name).run choices files
          run.1 = .ok (0, some entry.size) ∧ ∃ parts,
            run.2.requests =
              files.requests ++ parts.map (fun part => (deviceFd, .dpramSendBoot part)) ∧
            Uploads (((files.content firmwareFd).drop entry.offset.toNat).take entry.size.toNat)
              (entry.loadaddr - boot.loadaddr) entry.offset parts) := by
  obtain ⟨fuel, rfl⟩ := Nat.exists_eq_add_of_le' hfuel
  refine ⟨uploadChunk_refuses_missing _ deviceFd firmwareFd, fun boot entry hboot hentry => ⟨?_, ?_⟩⟩
  · exact uploadChunk_refuses_far _ deviceFd firmwareFd hboot hentry
  · intro hreaches hcontent choices
    exact wp_exec
      (wp_uploadChunk_full fuel deviceFd firmwareFd hboot hentry hreaches hcontent) choices

/-- A table with one entry, for `BOOT`. -/
def bootToc (offset size : UInt32) : List FirmwareTocEntry :=
  { name := cString "BOOT" ++ List.replicate 8 0, offset := offset, loadaddr := 0, size := size,
    crc := 0, entryid := 0 } ::
    List.replicate 15 { name := List.replicate 12 0, offset := 0, loadaddr := 0, size := 0, crc := 0,
                        entryid := 0 }

/-- A single file, from its start. -/
def fileOf (content : Bytes) : BootFiles where
  content _ := content
  position _ := 0
  accepted _ := []
  requests := []

def fullTransfers : Stream' { choice : BootChoice // choice.Full } :=
  Stream'.const ⟨{ errno := none, fd := 0, bytes := [], count := maxChunkLen }, rfl, le_rfl⟩

theorem uploadChunk_covers_three :
    let run := exec ((filesHandler .lp64).restrict BootChoice.Full)
      (uploadChunk 2 1 0 (bootToc 1 3) (cString "BOOT")).run fullTransfers (fileOf [5, 6, 7, 8])
    run.1 = .ok (0, some 3) ∧ ∃ parts,
      run.2.requests = [] ++ parts.map (fun part => (1, .dpramSendBoot part)) ∧
      Uploads [6, 7, 8] 0 1 parts :=
  ((uploadChunk_covers .lp64 le_rfl 1 0 (bootToc 1 3) (cString "BOOT") (fileOf [5, 6, 7, 8])).2 _ _
    rfl rfl).2 (.inl rfl) (by decide) fullTransfers

/-- On a 32-bit `off_t`, a blob at 2 GiB is not uploaded from an image that holds it. -/
theorem uploadChunk_far :
    (bootToc (2 ^ 31) 1).length = nTocEntries ∧
    ∃ entry, tocEntry (cString "BOOT") (bootToc (2 ^ 31) 1) = some entry ∧
      entry.offset.toNat + entry.size.toNat ≤
        ((fileOf (List.replicate (2 ^ 31 + 1) 0)).content 0).length ∧
      (exec ((filesHandler .ilp32).restrict BootChoice.Full)
        (uploadChunk 2 1 0 (bootToc (2 ^ 31) 1) (cString "BOOT")).run fullTransfers
        (fileOf (List.replicate (2 ^ 31 + 1) 0))).1 ≠ .ok (0, some entry.size) := by
  refine ⟨rfl, _, rfl, ?_, ?_⟩
  · rw [fileOf, List.length_replicate]
    decide
  · have hrefuses : Refuses (uploadChunk 2 1 0 (bootToc (2 ^ 31) 1) (cString "BOOT")) .ilp32
        (fileOf (List.replicate (2 ^ 31 + 1) 0)) :=
      uploadChunk_refuses_far 2 1 0 rfl rfl (not_or.mpr ⟨nofun, by decide⟩)
    obtain ⟨⟨rc, size, hrun, hrc⟩, -⟩ := wp_exec hrefuses (fullTransfers.map Subtype.val)
    rw [exec_restrict, hrun]
    rintro ⟨⟩
    exact absurd hrc (by decide)

/-! ### Truncated images -/

namespace Boot

variable {abi : Abi} {firmwareFd : Fd} {files : BootFiles} {remaining : Nat}

theorem wp_sendBoot_truncated (abi : Abi) (fuel : Nat) (deviceFd : Fd) (chunks : Nat)
    (hchunks : remaining ≤ chunks) (hleft : (files.left firmwareFd).length < remaining)
    (partition : ModemFirmwarePartitionData) :
    wp ((filesHandler abi).restrict BootChoice.Faultless) (fun _ => True)
      (sendBoot fuel deviceFd firmwareFd chunks remaining partition).run
      (fun result _ => result = .error .unfinished) files := by
  induction chunks generalizing remaining partition files with
  | zero => omega
  | succ chunks ih =>
      have hremaining : remaining > 0 := by omega
      have hlen := (chunkLen_bounds hremaining rfl).1
      rw [sendBoot, if_pos hremaining]
      refine wp_except_bind.mpr (wp_mono (wp_dataReadLoop_faultless abi _ fuel _) ?_)
      rintro result files' (rfl | ⟨⟨final, rfl⟩, hconsumed⟩)
      · exact ⟨trivial, rfl⟩
      · dsimp only
        rw [wp_call_bind]
        intro choice
        rw [Handler.restrict, filesHandler_ioctl choice.property]
        dsimp only
        apply ih
        · omega
        · rw [BootFiles.left_request]
          omega

/-- The upload of a truncated image ends at its first failing call at the latest. -/
theorem exec_sendBoot_of_failing {n fuel : Nat} (hfuel : n < fuel) (deviceFd : Fd) (chunks : Nat)
    (hchunks : remaining ≤ chunks) (hleft : (files.left firmwareFd).length < remaining)
    (partition : ModemFirmwarePartitionData) {choices : Stream' BootChoice}
    (hfails : ¬(choices.get n).Faultless) :
    ∃ rc, rc ≠ 0 ∧ (exec (filesHandler abi)
      (sendBoot fuel deviceFd firmwareFd chunks remaining partition).run choices files).1 = .ok rc := by
  induction chunks generalizing n remaining partition files choices with
  | zero => omega
  | succ chunks ih =>
      have hremaining : remaining > 0 := by omega
      have hlen := (chunkLen_bounds hremaining rfl).1
      rw [sendBoot, if_pos hremaining]
      dsimp only [dataRead]
      rcases exec_dataReadLoop_of_failing _ _ hfuel _ hfails with
        ⟨errno, choices', files', hexec⟩ | ⟨final, k, files', hk, hconsumed, hexec⟩
      · rw [hexec]
        exact ⟨errno.val, errno.property.ne', rfl⟩
      · rw [hexec]
        dsimp only
        rw [exec_call_bind]
        cases herrno : (choices.drop k).head.errno with
        | some errno =>
            rw [filesHandler, BootChoice.answer, herrno]
            exact ⟨errno.val, errno.property.ne', rfl⟩
        | none =>
            rw [filesHandler_ioctl herrno]
            dsimp only
            have hne : n ≠ k := by
              rintro rfl
              rw [Stream'.head_drop] at herrno
              exact hfails herrno
            obtain ⟨m, rfl⟩ : ∃ m, n = m + 1 + k := ⟨n - k - 1, by omega⟩
            refine ih (by omega) ?_ ?_ _ hfails
            · omega
            · rw [BootFiles.left_request]
              omega

section Sought

variable {toc : List FirmwareTocEntry} {name : CString} {boot entry : FirmwareTocEntry}
  {choices : Stream' BootChoice}

theorem exec_uploadChunk_seek_failed (fuel : Nat) (deviceFd : Fd)
    (hboot : tocEntry (cString "BOOT") toc = some boot) (hentry : tocEntry name toc = some entry)
    {errno : CallErrno} (herrno : (choices.get 2).errno = some errno) :
    (exec (filesHandler abi) (uploadChunk fuel deviceFd firmwareFd toc name).run choices files).1 =
      .ok (-errno.val, some entry.size) := by
  have hhead : choices.tail.tail.head.errno = some errno := herrno
  rw [uploadChunk_found fuel deviceFd firmwareFd hboot hentry, exec_call_bind, exec_call_bind,
    exec_call_bind, filesHandler, hhead]
  rfl

theorem exec_uploadChunk_sought (fuel : Nat) (deviceFd : Fd)
    (hboot : tocEntry (cString "BOOT") toc = some boot) (hentry : tocEntry name toc = some entry)
    (hreaches : abi.Reaches entry.offset) (hchoice : (choices.get 2).Faultless) :
    ∃ partition, exec (filesHandler abi) (uploadChunk fuel deviceFd firmwareFd toc name).run choices
        files =
      exec (filesHandler abi)
        (sendBoot fuel deviceFd firmwareFd entry.size.toNat entry.size.toNat partition >>=
          fun rc => pure (rc, some entry.size)).run
        (choices.drop 3) (files.seek firmwareFd entry.offset.toNat) := by
  have hhead : choices.tail.tail.head.errno = none := hchoice
  have hseek : ¬abi.offT entry.offset < 0 := fun h => Abi.offT_neg_iff.mp h hreaches
  rw [uploadChunk_found fuel deviceFd firmwareFd hboot hentry, exec_call_bind, exec_call_bind,
    exec_call_bind, filesHandler, hhead]
  dsimp only [filesHandler]
  rw [if_neg hseek, Abi.seekPosition_of_reaches hreaches]
  exact ⟨_, rfl⟩

/-- The upload of a blob that the image does not hold completely ends exactly if a call behind the two
tests fails. -/
theorem uploadChunk_truncated_iff (deviceFd : Fd)
    (hboot : tocEntry (cString "BOOT") toc = some boot) (hentry : tocEntry name toc = some entry)
    (hreaches : abi.Reaches entry.offset) (hsize : 0 < entry.size.toNat)
    (hcontent : (files.content firmwareFd).length < entry.offset.toNat + entry.size.toNat)
    (choices : Stream' BootChoice) :
    (∃ fuel rc size, rc ≠ 0 ∧ (exec (filesHandler abi)
      (uploadChunk fuel deviceFd firmwareFd toc name).run choices files).1 = .ok (rc, size)) ↔
      ∃ n, ¬(choices.get (n + 2)).Faultless := by
  have hleft : ((files.seek firmwareFd entry.offset.toNat).left firmwareFd).length <
      entry.size.toNat := by
    rw [BootFiles.left_seek, List.length_drop]
    omega
  cases herrno : (choices.get 2).errno with
  | some errno =>
      refine iff_of_true ⟨0, -errno.val, some entry.size, ?_, ?_⟩ ⟨0, ?_⟩
      · exact (Int.neg_neg_of_pos errno.property).ne
      · exact exec_uploadChunk_seek_failed 0 deviceFd hboot hentry herrno
      · exact fun hnone => absurd (herrno.symm.trans hnone) nofun
  | none =>
      constructor
      · rintro ⟨fuel, rc, size, hrc, hexec⟩
        obtain ⟨partition, hsought⟩ :=
          exec_uploadChunk_sought fuel deviceFd hboot hentry hreaches herrno
        rcases faultless_or_failing (choices.drop 3) with ⟨faultless, hfaultless⟩ | ⟨n, hfails⟩
        · have hsent := wp_exec
            (wp_sendBoot_truncated abi fuel deviceFd _ le_rfl hleft partition) faultless
          rw [exec_restrict, hfaultless] at hsent
          rw [hsought, exec_except_bind_error hsent] at hexec
          cases hexec
        · exact ⟨n + 1, hfails⟩
      · rintro ⟨_ | n, hfails⟩
        · exact absurd herrno hfails
        · have hfails' : ¬((choices.drop 3).get n).Faultless := hfails
          obtain ⟨partition, hsought⟩ :=
            exec_uploadChunk_sought (n + 1) deviceFd hboot hentry hreaches herrno
          obtain ⟨rc, hrc, hexec⟩ := exec_sendBoot_of_failing (Nat.lt_succ_self n) deviceFd _ le_rfl
            hleft partition hfails'
          obtain ⟨m, hm⟩ := exec_except_bind_ok hexec fun rc => pure (rc, some entry.size)
          exact ⟨n + 1, rc, some entry.size, hrc, by rw [hsought, hm]; rfl⟩

end Sought

/-- With the first image device opened, the table of contents is read from it. -/
theorem exec_herolteBootBody_opened (fuel : Nat) (stack : Bytes) {choices : Stream' BootChoice}
    (hopen : choices.head.Faultless) :
    ∃ rest : Bytes → Boot Int,
      exec (filesHandler abi) (herolteBootBody fuel stack).run choices files =
        exec (filesHandler abi)
          (dataRead fuel choices.head.fd stack 512 >>= fun toc => orErrno toc >>= rest).run
          choices.tail files := by
  rw [herolteBootBody, modemImageDevices, openAndroidModemPartition, bind_assoc, exec_call_bind,
    filesHandler, BootChoice.answer, hopen]
  exact ⟨_, rfl⟩

theorem exec_herolteBoot (abi : Abi) (fuel : Nat) (stack : Bytes) (choices : Stream' BootChoice)
    (files : BootFiles) :
    (exec (filesHandler abi) (herolteBoot fuel stack) choices files).1 =
      match (exec (filesHandler abi) (herolteBootBody fuel stack).run choices files).1 with
      | .ok rc => some rc
      | .error (.exit rc) => some rc
      | .error .unfinished => none := by
  rw [herolteBoot]
  obtain ⟨n, hn⟩ := exec_bind (filesHandler abi) (herolteBootBody fuel stack).run _ choices files
  rw [hn]
  rcases (exec (filesHandler abi) (herolteBootBody fuel stack).run choices files).1 with
    (rc | _) | rc
  · rfl
  · rfl
  · rfl

/-- The boot from an image that is too short for a table of contents ends exactly if a call fails. -/
theorem herolteBoot_truncated_iff (stack : Bytes) {choices : Stream' BootChoice}
    (hopen : choices.head.Faultless) (hcontent : (files.left choices.head.fd).length < 512) :
    (∃ fuel rc, rc ≠ 0 ∧
      (exec (filesHandler abi) (herolteBoot fuel stack) choices files).1 = some rc) ↔
      ∃ n, ¬(choices.get n).Faultless := by
  constructor
  · rintro ⟨fuel, rc, hrc, hexec⟩
    rcases faultless_or_failing choices.tail with ⟨faultless, hfaultless⟩ | ⟨n, hfails⟩
    · have hread := wp_exec
        (wp_dataReadLoop_truncated abi 512 fuel stack (Int.ofNat_lt.mpr hcontent)) faultless
      rw [exec_restrict, hfaultless] at hread
      obtain ⟨rest, hopened⟩ := exec_herolteBootBody_opened fuel stack hopen
      rw [exec_herolteBoot, hopened, dataRead, exec_except_bind_error hread] at hexec
      cases hexec
    · exact ⟨n + 1, hfails⟩
  · rintro ⟨_ | n, hfails⟩
    · exact absurd hopen hfails
    · have hfails' : ¬(choices.tail.get n).Faultless := hfails
      obtain ⟨rest, hopened⟩ := exec_herolteBootBody_opened (n + 1) stack hopen
      rcases exec_dataReadLoop_of_failing 512 (fun toc => orErrno toc >>= rest) (Nat.lt_succ_self n)
        stack hfails' with ⟨errno, choices', files', hread⟩ | ⟨_, _, _, _, hconsumed, _⟩
      · refine ⟨n + 1, errno.val, errno.property.ne', ?_⟩
        rw [exec_herolteBoot, hopened, dataRead, hread]
        rfl
      · omega

end Boot

/-- Of a source that ends too early, `data_read` returns, and the loading of a table of contents or of a
blob ends with an error, exactly if some call fails: the end of the file is not told from progress. -/
theorem truncated_source_iff (abi : Abi) (files : BootFiles) (choices : Stream' BootChoice) :
    (∀ fd count buffer, (files.left fd).length < count →
      ((∃ fuel errno, (exec (filesHandler abi) (dataRead fuel fd buffer count).run choices files).1 =
        .ok (.error errno)) ↔ ∃ n, ¬(choices.get n).Faultless)) ∧
    (∀ stack, choices.head.Faultless → (files.left choices.head.fd).length < 512 →
      ((∃ fuel rc, rc ≠ 0 ∧
        (exec (filesHandler abi) (herolteBoot fuel stack) choices files).1 = some rc) ↔
        ∃ n, ¬(choices.get n).Faultless)) ∧
    (∀ deviceFd firmwareFd toc name boot entry, tocEntry (cString "BOOT") toc = some boot →
      tocEntry name toc = some entry → abi.Reaches entry.offset → 0 < entry.size.toNat →
      (files.content firmwareFd).length < entry.offset.toNat + entry.size.toNat →
      ((∃ fuel rc size, rc ≠ 0 ∧ (exec (filesHandler abi)
        (uploadChunk fuel deviceFd firmwareFd toc name).run choices files).1 = .ok (rc, size)) ↔
        ∃ n, ¬(choices.get (n + 2)).Faultless)) := by
  refine ⟨fun fd count buffer hleft => ?_, fun stack hopen hcontent => ?_, ?_⟩
  · exact dataRead_returns_iff buffer choices hleft
  · exact herolteBoot_truncated_iff stack hopen hcontent
  · intro deviceFd firmwareFd toc name boot entry hboot hentry hreaches hsize hcontent
    exact uploadChunk_truncated_iff deviceFd hboot hentry hreaches hsize hcontent choices

theorem truncated_source_empty :
    (∃ fuel errno, (exec (filesHandler .lp64) (dataRead fuel 0 [0] 1).run
      (fullTransfers.map Subtype.val) (fileOf [])).1 = .ok (.error errno)) ↔
      ∃ n, ¬((fullTransfers.map Subtype.val).get n).Faultless :=
  (truncated_source_iff .lp64 (fileOf []) (fullTransfers.map Subtype.val)).1 0 1 [0] (by decide)

/-- A byte is read from an empty file for ever. -/
theorem dataRead_empty_unfinished :
    ¬∃ fuel result, (exec (filesHandler .lp64) (dataRead fuel 0 [0] 1).run
      (fullTransfers.map Subtype.val) (fileOf [])).1 = .ok result := by
  rintro ⟨fuel, result, hresult⟩
  have hempty : (((fileOf []).left 0).length : Int) < 1 := by decide
  have hread := wp_exec (wp_dataReadLoop_truncated .lp64 1 fuel [0] hempty)
    (fullTransfers.map fun choice => ⟨choice.val, choice.property.1⟩)
  rw [exec_restrict] at hread
  exact absurd (hresult.symm.trans hread) nofun

end SamsungIpc
