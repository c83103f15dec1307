import SamsungIpc.FileTransfer

/-! `file_data_write` and `file_data_read` against each other: neither the chunk size nor short transfers
show in what is stored or read. Where an offset is negative as an `off_t`, both work on the start of the
file instead. -/

namespace SamsungIpc

open ByteSplice Sys

/-- `file_data_write` returns `0` and splices the data into the file, and `file_data_read` then returns
them. -/
structure ChunkedRoundTrip (abi : Abi) (offset : UInt32) (data : Bytes) (writeChunk readChunk : Nat)
    (path : Path) (σ : Kernel) (writes reads : Stream' Nat) : Prop where
  written : ((fileDataWrite abi (some path) (some data) writeChunk offset).run writes σ).1 = .ok ()
  spliced : ((fileDataWrite abi (some path) (some data) writeChunk offset).run writes σ).2.files =
    σ.files.write path offset.toNat data
  readBack : ((fileDataRead abi (some path) data.length readChunk offset).run reads
    ((fileDataWrite abi (some path) (some data) writeChunk offset).run writes σ).2).1 = some data

/-- `file_data_read` does not return a section that the file does not have. -/
def NoPartialRead (abi : Abi) (offset : UInt32) (size chunkSize : Nat) : Prop :=
  ∀ path σ content reads, σ.files path = some content → content.length < offset.toNat + size →
    ((fileDataRead abi (some path) size chunkSize offset).run reads σ).1 = none

variable {abi : Abi} {offset : UInt32} {path : Path} {σ : Kernel}

theorem run_fileDataWrite (abi : Abi) (path : Path) {data : Bytes} {chunkSize : Nat}
    (offset : UInt32) (hchunk : 0 < chunkSize) (hle : chunkSize ≤ data.length) (writes : Stream' Nat)
    (σ : Kernel) :
    ((fileDataWrite abi (some path) (some data) chunkSize offset).run writes σ).1 = .ok () ∧
      ((fileDataWrite abi (some path) (some data) chunkSize offset).run writes σ).2.files =
        σ.files.write path (abi.seekPosition offset) data :=
  wp_run (wp_fileDataWrite (I := fun _ => True)
    (Q := fun rc σ' => rc = .ok () ∧
      σ'.files = σ.files.write path (abi.seekPosition offset) data) hchunk hle trivial
    (fun _ _ => trivial) fun _ hσ' => ⟨rfl, hσ'⟩) writes

theorem run_fileDataRead (size chunkSize : Nat) (reads : Stream' Nat) :
    ((fileDataRead abi (some path) size chunkSize offset).run reads σ).1 =
      if size = 0 ∨ chunkSize = 0 ∨ chunkSize > size then none
      else σ.files.read path (abi.seekPosition offset) size :=
  wp_run (wp_fileDataRead (I := fun _ => True)
    (Q := fun data _ => data = if size = 0 ∨ chunkSize = 0 ∨ chunkSize > size then none
      else σ.files.read path (abi.seekPosition offset) size) trivial fun _ _ => rfl) reads

/-- An offset that is not reached is not zero. -/
theorem Abi.toNat_pos_of_not_reaches (hreaches : ¬abi.Reaches offset) : 0 < offset.toNat := by
  have hlarge := (not_or.mp hreaches).2
  omega

section RoundTrip

variable {data : Bytes} {writeChunk readChunk : Nat}

theorem chunkedRoundTrip_of_reaches (hreaches : abi.Reaches offset) (hwrite : 0 < writeChunk)
    (hwritele : writeChunk ≤ data.length) (hread : 0 < readChunk) (hreadle : readChunk ≤ data.length)
    (path : Path) (σ : Kernel) (writes reads : Stream' Nat) :
    ChunkedRoundTrip abi offset data writeChunk readChunk path σ writes reads := by
  have hdata : data ≠ [] := List.ne_nil_of_length_pos (by omega)
  have hposition := Abi.seekPosition_of_reaches hreaches
  obtain ⟨hwritten, hspliced⟩ := run_fileDataWrite abi path offset hwrite hwritele writes σ
  rw [hposition] at hspliced
  refine ⟨hwritten, hspliced, ?_⟩
  rw [run_fileDataRead, if_neg (by omega), hspliced, hposition, FileSystem.read, FileSystem.write,
    FileSystem.put_self, Option.bind_some]
  exact slice_splice hdata _ _

/-- A new file shows that the data were written to its start. -/
theorem not_chunkedRoundTrip_of_not_reaches (hreaches : ¬abi.Reaches offset) (hwrite : 0 < writeChunk)
    (hwritele : writeChunk ≤ data.length) (path : Path) (writes reads : Stream' Nat) :
    ¬ChunkedRoundTrip abi offset data writeChunk readChunk path (Kernel.boot fun _ => none) writes
      reads := by
  rintro ⟨-, hspliced, -⟩
  have hdata : data ≠ [] := List.ne_nil_of_length_pos (by omega)
  have hpos := Abi.toNat_pos_of_not_reaches hreaches
  have hfiles := (run_fileDataWrite abi path offset hwrite hwritele writes _).2.symm.trans hspliced
  have hcontent := congrFun hfiles path
  rw [Abi.seekPosition_of_not_reaches hreaches, FileSystem.write, FileSystem.write,
    FileSystem.put_self, FileSystem.put_self, Option.some_inj] at hcontent
  have hlength := congrArg List.length hcontent
  rw [length_splice hdata, length_splice hdata] at hlength
  have hempty : (((Kernel.boot fun _ => none).files path).getD []).length = 0 := rfl
  omega

end RoundTrip

/-- Of the sections that are asked for with sensible sizes, those at a reached offset are not read past
the end of the file; the others are read from its start. -/
theorem noPartialRead_iff (abi : Abi) (offset : UInt32) (size chunkSize : Nat) :
    NoPartialRead abi offset size chunkSize ↔
      size = 0 ∨ chunkSize = 0 ∨ chunkSize > size ∨ abi.Reaches offset := by
  constructor
  · intro hnone
    by_contra hcase
    simp only [not_or] at hcase
    obtain ⟨hsize, hchunk, hle, hreaches⟩ := hcase
    have hpos := Abi.toNat_pos_of_not_reaches hreaches
    have hlength : (List.replicate size (0 : UInt8)).length = size := List.length_replicate
    have hread := hnone [] (Kernel.boot fun _ => some (List.replicate size 0)) _ (Stream'.const 0) rfl
      (by omega)
    rw [run_fileDataRead, if_neg (by omega), Abi.seekPosition_of_not_reaches hreaches,
      FileSystem.read, Kernel.boot_files, Option.bind_some, slice, if_pos (by omega)] at hread
    cases hread
  · rintro hcase path σ content reads hpath hshort
    rw [run_fileDataRead]
    by_cases hguard : size = 0 ∨ chunkSize = 0 ∨ chunkSize > size
    · rw [if_pos hguard]
    · have hsplit : (size = 0 ∨ chunkSize = 0 ∨ chunkSize > size) ∨ abi.Reaches offset := by
        simpa only [or_assoc] using hcase
      have hreaches := hsplit.resolve_left hguard
      rw [if_neg hguard, Abi.seekPosition_of_reaches hreaches, FileSystem.read, hpath,
        Option.bind_some, slice, if_neg (by omega)]

/-- **Chunked I/O is a splice and its inverse exactly at the offsets that `off_t` can hold.** -/
theorem chunked_io_iff (abi : Abi) (offset : UInt32) {data : Bytes} {writeChunk readChunk : Nat}
    (_hdata : data.length < 2 ^ 31) (hwrite : 0 < writeChunk) (hwritele : writeChunk ≤ data.length)
    (hread : 0 < readChunk) (hreadle : readChunk ≤ data.length) :
    ((∀ path σ writes reads,
      ChunkedRoundTrip abi offset data writeChunk readChunk path σ writes reads) ↔
        abi.Reaches offset) ∧
    ∀ size chunkSize, NoPartialRead abi offset size chunkSize ↔
      size = 0 ∨ chunkSize = 0 ∨ chunkSize > size ∨ abi.Reaches offset := by
  refine ⟨⟨fun hround => ?_, fun hreaches => ?_⟩, noPartialRead_iff abi offset⟩
  · by_contra hreaches
    exact not_chunkedRoundTrip_of_not_reaches hreaches hwrite hwritele [] (Stream'.const 0)
      (Stream'.const 0) (hround _ _ _ _)
  · exact chunkedRoundTrip_of_reaches hreaches hwrite hwritele hread hreadle

theorem chunked_io_five :
    ((∀ path σ writes reads, ChunkedRoundTrip .ilp32 7 [1, 2, 3, 4, 5] 2 3 path σ writes reads) ↔
      Abi.ilp32.Reaches 7) ∧
    ∀ size chunkSize, NoPartialRead .ilp32 7 size chunkSize ↔
      size = 0 ∨ chunkSize = 0 ∨ chunkSize > size ∨ Abi.ilp32.Reaches 7 :=
  chunked_io_iff .ilp32 7 (by decide) (by decide) (by decide) (by decide) (by decide)

/-- On a 32-bit `off_t`, a byte for two gigabytes behind the start goes to the start of a new file. -/
theorem chunked_io_strays :
    ¬ChunkedRoundTrip .ilp32 0x80000000 [1] 1 1 [] (Kernel.boot fun _ => none) (Stream'.const 0)
      (Stream'.const 0) ∧
    ¬NoPartialRead .ilp32 0x80000000 1 1 := by
  have hreaches : ¬Abi.ilp32.Reaches 0x80000000 := not_or.mpr ⟨nofun, by decide⟩
  refine ⟨not_chunkedRoundTrip_of_not_reaches hreaches (by decide) (by decide) _ _ _, fun hnone => ?_⟩
  rcases (noPartialRead_iff _ _ _ _).mp hnone with hsize | hchunk | hle | hreach
  · cases hsize
  · cases hchunk
  · exact absurd hle (by decide)
  · exact hreaches hreach

end SamsungIpc
