import SamsungIpc.FileKernel

/-! `file_data_read` and `file_data_write` of `utils.c`: a whole file section, moved in chunks of at
most `chunk_size` bytes. Logging has no effect on the files and is left out. -/

namespace SamsungIpc

open ByteSplice Sys

/-- The `while (count < size)` loop of `file_data_read`. Every pass adds a byte or leaves the loop,
so `size + 1` passes are enough. -/
def fileDataReadLoop (fd : Fd) (size chunkSize : Nat) : Nat → Bytes → Sys (Option Bytes)
  | 0, _ => pure none
  | passes + 1, data =>
      if data.length < size then do
        match ← read fd (if size - data.length > chunkSize then chunkSize else size - data.length) with
        | .error _ => pure none
        | .ok [] => pure none
        | .ok (byte :: bytes) => fileDataReadLoop fd size chunkSize passes (data ++ byte :: bytes)
      else pure (some data)

/-- The value of `lseek`. -/
def seekResult : Except Errno Nat → Int
  | .error _ => -1
  | .ok position => position

/-- The buffer read, or `none` for `NULL`. -/
def fileDataRead (abi : Abi) (path : Option Path) (size chunkSize : Nat) (offset : UInt32) :
    Sys (Option Bytes) :=
  match path with
  | none => pure none
  | some path =>
      if size = 0 ∨ chunkSize = 0 ∨ chunkSize > size then pure none
      else do
        match ← openFile path .rdonly with
        | .error _ => pure none
        | .ok fd => do
            let answer ← lseek fd (abi.offT offset) .seekSet
            if seekResult answer < abi.offT offset then do
              close fd
              pure none
            else do
              let data ← fileDataReadLoop fd size chunkSize (size + 1) []
              close fd
              pure data

/-- The `while (count < size)` loop of `file_data_write`, from the byte `count` on. A failed
`write` leaves its own result, `-1` or `0`, as the error. -/
def fileDataWriteLoop (fd : Fd) (data : Bytes) (chunkSize : Nat) : Nat → Nat → Sys (Except Errno Unit)
  | 0, _ => pure (.error 0)
  | passes + 1, count =>
      if count < data.length then do
        let chunk := if data.length - count > chunkSize then chunkSize else data.length - count
        match ← write fd ((data.drop count).take chunk) with
        | .error _ => pure (.error (-1))
        | .ok 0 => pure (.error 0)
        | .ok (written + 1) => fileDataWriteLoop fd data chunkSize passes (count + (written + 1))
      else pure (.ok ())

/-- `.ok ()` is a result of `0`, `.error e` a result of `-1` with `errno` set to `e`. `data` is
`none` for `NULL`; otherwise its length is the argument `size`. -/
def fileDataWrite (abi : Abi) (path : Option Path) (data : Option Bytes) (chunkSize : Nat)
    (offset : UInt32) : Sys (Except Errno Unit) :=
  match path, data with
  | some path, some data =>
      if data.length = 0 ∨ chunkSize = 0 ∨ chunkSize > data.length then pure (.error EINVAL)
      else do
        match ← openFile path .wronlyCreat with
        | .error errno => pure (.error errno)
        | .ok fd => do
            let answer ← lseek fd (abi.offT offset) .seekSet
            if seekResult answer < abi.offT offset then do
              close fd
              match answer with
              | .error errno => pure (.error errno)
              | .ok _ => pure (.error 0)
            else do
              let rc ← fileDataWriteLoop fd data chunkSize (data.length + 1) 0
              close fd
              pure rc
  | _, _ => pure (.error EINVAL)

/-- The disk after `bytes` were written to the file at `path`, created if it is missing. -/
def FileSystem.write (fs : FileSystem) (path : Path) (offset : Nat) (bytes : Bytes) : FileSystem :=
  fs.put path (splice ((fs path).getD []) offset bytes)

/-- The section of the file at `path`, if there is a file and it reaches that far. -/
def FileSystem.read (fs : FileSystem) (path : Path) (offset size : Nat) : Option Bytes :=
  (fs path).bind fun content => slice content offset size

variable {abi : Abi} {I : FileSystem → Prop} {σ : Kernel} {path : Path}

/-- After the seek of a file that was just opened, both functions go on: if the offset was invalid, the
result of `lseek` is not less than the negative offset it is compared with. -/
theorem wp_seekStart {Q : Except Errno Nat → Kernel → Prop} {fd : Fd} {mode : OpenMode}
    {offset : UInt32} (hfd : σ.fds fd = some ⟨path, 0, mode⟩) (hI : I σ.files)
    (hQ : ∀ answer σ', ¬seekResult answer < abi.offT offset → σ'.files = σ.files →
      σ'.fds fd = some ⟨path, abi.seekPosition offset, mode⟩ → Q answer σ') :
    wp I (lseek fd (abi.offT offset) .seekSet) Q σ := by
  apply wp_seek hfd hI
  · intro hneg
    have hposition : abi.seekPosition offset = 0 := Int.toNat_of_nonpos hneg.le
    apply hQ _ σ _ rfl
    · rw [hfd, hposition]
    · rw [seekResult]
      omega
  · intro hnonneg σ' hσ' hfd'
    apply hQ _ σ' _ hσ' hfd'
    rw [seekResult, Int.toNat_of_nonneg hnonneg]
    exact lt_irrefl _

/-- The loop has read what lies between `offset` and the descriptor's position. -/
theorem wp_fileDataReadLoop {Q : Option Bytes → Kernel → Prop} {fd : Fd} {content data : Bytes}
    {offset size chunkSize passes : Nat} (hchunk : 0 < chunkSize) (hsize : 0 < size)
    (hpasses : size - data.length < passes) (hle : data.length ≤ size)
    (hfd : σ.fds fd = some ⟨path, offset + data.length, .rdonly⟩)
    (hpath : σ.files path = some content)
    (hdata : data = (content.drop offset).take data.length)
    (hI : I σ.files) (hQ : ∀ σ', σ'.files = σ.files → Q (slice content offset size) σ') :
    wp I (fileDataReadLoop fd size chunkSize passes data) Q σ := by
  induction passes generalizing data σ with
  | zero => omega
  | succ passes ih =>
      have hlength := congrArg List.length hdata
      rw [List.length_take, List.length_drop] at hlength
      rw [fileDataReadLoop]
      split
      · rename_i hmore
        apply wp_bind
        apply wp_read hfd hpath (by split <;> omega) hI
        intro moved hmoved hmovedle σ' hσ' hfd'
        have hrest : (content.drop (offset + data.length)).take moved =
            ((content.drop offset).drop data.length).take moved := by rw [List.drop_drop]
        have hmovedsize : moved ≤ size - data.length := by split at hmovedle <;> omega
        cases hbytes : (content.drop (offset + data.length)).take moved with
        | nil =>
            have hend := congrArg List.length hbytes
            rw [List.length_take, List.length_drop, List.length_nil] at hend
            have hslice : slice content offset size = none := if_neg (by omega)
            exact wp_pure (hσ' ▸ hI) (hslice ▸ hQ σ' hσ')
        | cons byte bytes =>
            have hcount := congrArg List.length hbytes
            rw [List.length_take, List.length_drop, List.length_cons] at hcount
            have hgrown : (data ++ byte :: bytes).length = data.length + (bytes.length + 1) :=
              List.length_append
            refine ih (by omega) (by omega) ?_ (hσ' ▸ hpath) ?_ (hσ' ▸ hI)
              (fun σ'' hσ'' => hQ σ'' (hσ''.trans hσ'))
            · rw [hfd', hbytes, hgrown, List.length_cons, Nat.add_assoc]
            · calc data ++ byte :: bytes
                  = (content.drop offset).take data.length ++
                      ((content.drop offset).drop data.length).take moved := by
                    rw [← hdata, ← hrest, hbytes]
                _ = (content.drop offset).take (data.length + moved) := by rw [List.take_add]
                _ = (content.drop offset).take (data ++ byte :: bytes).length := by
                    rw [List.take_eq_take_iff, List.length_drop, hgrown]
                    omega
      · have hfull : data.length = size := by omega
        have hslice : slice content offset size = some data := by
          rw [slice, if_pos (by omega), hdata, hfull]
        exact wp_pure hI (hslice ▸ hQ _ rfl)

/-- Reading changes nothing and returns the whole section or `NULL`, whatever the chunk size. -/
theorem wp_fileDataRead {Q : Option Bytes → Kernel → Prop} {size chunkSize : Nat} {offset : UInt32}
    (hI : I σ.files)
    (hQ : ∀ σ', σ'.files = σ.files →
      Q (if size = 0 ∨ chunkSize = 0 ∨ chunkSize > size then none
        else σ.files.read path (abi.seekPosition offset) size) σ') :
    wp I (fileDataRead abi (some path) size chunkSize offset) Q σ := by
  rw [fileDataRead]
  split
  · rename_i hguard
    have hnone := hQ σ rfl
    rw [if_pos hguard] at hnone
    exact wp_pure hI hnone
  · rename_i hguard
    simp only [if_neg hguard, FileSystem.read] at hQ
    apply wp_bind
    apply wp_openRead hI
    · intro hpath
      simp only [hpath, Option.bind_none] at hQ
      exact wp_pure hI (hQ σ rfl)
    · intro content hpath
      simp only [hpath, Option.bind_some] at hQ
      intro σ₁ hσ₁ hfd₁
      apply wp_bind
      apply wp_seekStart hfd₁ (hσ₁ ▸ hI)
      intro answer σ₂ hanswer hσ₂ hfd₂
      rw [if_neg hanswer]
      have hfiles : σ₂.files = σ.files := hσ₂.trans hσ₁
      have hstart : σ₂.fds σ.nextFd =
          some ⟨path, abi.seekPosition offset + ([] : Bytes).length, .rdonly⟩ := hfd₂
      apply wp_bind
      apply wp_fileDataReadLoop (by omega) (by omega) (by simp) (Nat.zero_le _) hstart
        (hfiles ▸ hpath) (by simp) (hfiles ▸ hI)
      intro σ₃ hσ₃
      have hfiles₃ : σ₃.files = σ.files := hσ₃.trans hfiles
      apply wp_bind
      apply wp_close (hfiles₃ ▸ hI)
      intro σ₄ hσ₄
      exact wp_pure (hσ₄.trans hfiles₃ ▸ hI) (hQ _ (hσ₄.trans hfiles₃))

theorem wp_fileDataRead_whole {Q : Option Bytes → Kernel → Prop} {data : Bytes}
    {size chunkSize : Nat} (hpath : σ.files path = some data) (hlength : data.length = size)
    (hchunk : 0 < chunkSize) (hle : chunkSize ≤ size) (hI : I σ.files)
    (hQ : ∀ σ', σ'.files = σ.files → Q (some data) σ') :
    wp I (fileDataRead abi (some path) size chunkSize 0) Q σ := by
  apply wp_fileDataRead hI
  intro σ' hσ'
  have hread : σ.files.read path (abi.seekPosition 0) size = some data := by
    rw [Abi.seekPosition_zero, FileSystem.read, hpath, Option.bind_some, ← hlength]
    exact slice_zero_length data
  rw [if_neg (by omega), hread]
  exact hQ σ' hσ'

/-- The loop has written the bytes before `count`; the disk is cut after some of them. -/
theorem wp_fileDataWriteLoop {Q : Except Errno Unit → Kernel → Prop} {fs : FileSystem} {fd : Fd}
    {data : Bytes} {offset chunkSize passes count : Nat} (hchunk : 0 < chunkSize)
    (hpasses : data.length - count < passes) (hle : count ≤ data.length)
    (hfd : σ.fds fd = some ⟨path, offset + count, .wronlyCreat⟩)
    (hfiles : σ.files = fs.write path offset (data.take count))
    (hI : ∀ k ≤ data.length, I (fs.write path offset (data.take k)))
    (hQ : ∀ σ', σ'.files = fs.write path offset data → Q (.ok ()) σ') :
    wp I (fileDataWriteLoop fd data chunkSize passes count) Q σ := by
  induction passes generalizing count σ with
  | zero => omega
  | succ passes ih =>
      have hIσ : I σ.files := hfiles ▸ hI count hle
      rw [fileDataWriteLoop]
      split
      · rename_i hmore
        have hpath : σ.files path =
            some (splice ((fs path).getD []) offset (data.take count)) := by
          rw [hfiles, FileSystem.write, FileSystem.put_self]
        -- a chunk written at the descriptor's position extends what was written before it
        have hextend : ∀ bytes : Bytes, σ.files.put path
            (splice (splice ((fs path).getD []) offset (data.take count)) (offset + count) bytes) =
            fs.write path offset (data.take count ++ bytes) := by
          intro bytes
          have hlength : (data.take count).length = count := List.length_take_of_le hle
          have hsplice := splice_splice ((fs path).getD []) offset (data.take count) bytes
          rw [hlength] at hsplice
          rw [hfiles, FileSystem.write, FileSystem.put_put, hsplice, FileSystem.write]
        generalize hchunksize : (if data.length - count > chunkSize then chunkSize
          else data.length - count) = chunk
        have hchunkpos : 0 < chunk := by split at hchunksize <;> omega
        have hchunkle : chunk ≤ data.length - count := by split at hchunksize <;> omega
        have hwritten : ∀ moved, moved ≤ ((data.drop count).take chunk).length →
            data.take count ++ ((data.drop count).take chunk).take moved =
              data.take (count + moved) := by
          intro moved hmoved
          rw [List.length_take, List.length_drop] at hmoved
          rw [List.take_take, Nat.min_eq_left (by omega), List.take_add]
        have hbytes : ((data.drop count).take chunk).length = chunk := by
          rw [List.length_take, List.length_drop]
          omega
        apply wp_bind
        apply wp_write hfd hpath (by omega) hIσ
        · intro moved _ hmoved
          rw [hextend, hwritten moved hmoved]
          exact hI _ (by omega)
        · intro moved hpos hmoved σ' hσ' hfd'
          obtain ⟨written, rfl⟩ : ∃ written, moved = written + 1 := ⟨moved - 1, by omega⟩
          rw [hextend, hwritten _ hmoved] at hσ'
          exact ih (by omega) (by omega) (by rw [hfd', Nat.add_assoc]) hσ'
      · have hall : count = data.length := by omega
        rw [hall, List.take_length] at hfiles
        exact wp_pure hIσ (hQ σ hfiles)

/-- A write of nothing, or from `NULL`, is refused before the file is opened. -/
theorem wp_fileDataWrite_refused {Q : Except Errno Unit → Kernel → Prop} {data : Option Bytes}
    {chunkSize : Nat} {offset : UInt32} (hdata : data.getD [] = []) (hI : I σ.files)
    (hQ : Q (.error EINVAL) σ) : wp I (fileDataWrite abi (some path) data chunkSize offset) Q σ := by
  cases data with
  | none => exact wp_pure hI hQ
  | some data =>
      rw [Option.getD_some] at hdata
      rw [hdata]
      exact wp_pure hI hQ

/-- A write with sensible arguments stores all the data; a cut leaves a first part of them behind. -/
theorem wp_fileDataWrite {Q : Except Errno Unit → Kernel → Prop} {data : Bytes} {chunkSize : Nat}
    {offset : UInt32} (hchunk : 0 < chunkSize) (hle : chunkSize ≤ data.length) (hI : I σ.files)
    (hcut : ∀ k ≤ data.length, I (σ.files.write path (abi.seekPosition offset) (data.take k)))
    (hQ : ∀ σ', σ'.files = σ.files.write path (abi.seekPosition offset) data → Q (.ok ()) σ') :
    wp I (fileDataWrite abi (some path) (some data) chunkSize offset) Q σ := by
  rw [fileDataWrite, if_neg (by omega)]
  have hcreated : σ.files.put path ((σ.files path).getD []) =
      σ.files.write path (abi.seekPosition offset) (data.take 0) := rfl
  apply wp_bind
  apply wp_openWrite hI (hcreated ▸ hcut 0 (Nat.zero_le _))
  intro σ₁ hσ₁ hfd₁
  have hI₁ : I σ₁.files := by
    rw [hσ₁, hcreated]
    exact hcut 0 (Nat.zero_le _)
  apply wp_bind
  apply wp_seekStart hfd₁ hI₁
  intro answer σ₂ hanswer hσ₂ hfd₂
  rw [if_neg hanswer]
  have hstart : σ₂.fds σ.nextFd = some ⟨path, abi.seekPosition offset + 0, .wronlyCreat⟩ := hfd₂
  apply wp_bind
  apply wp_fileDataWriteLoop hchunk (by omega) (Nat.zero_le _) hstart
    (hσ₂.trans (hσ₁.trans hcreated)) hcut
  intro σ₃ hσ₃
  have hI₃ : I σ₃.files := by
    have hall := hcut data.length le_rfl
    rw [List.take_length] at hall
    exact hσ₃ ▸ hall
  apply wp_bind
  apply wp_close hI₃
  intro σ₄ hσ₄
  exact wp_pure (hσ₄ ▸ hI₃) (hQ _ (hσ₄.trans hσ₃))

end SamsungIpc
